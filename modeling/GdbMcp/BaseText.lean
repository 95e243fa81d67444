import Mathlib.Data.Int.Notation
import Mathlib.Data.List.Basic

/-! The operations of Python's `str` and `int` that the modelled code uses, on Lean strings. They work
on the list of code points, so a call on a literal evaluates in the kernel. Tables are those of
Unicode 14. -/

namespace GdbMcp

/-- The exceptions of the modelled code, each with the text `str(exc)`. -/
inductive PyError where
  | osError (message : String)
  | endpointError (message : String)
  | runtimeError (message : String)
  | valueError (message : String)
  | other (message : String)
  deriving DecidableEq, Repr

def PyError.message : PyError → String
  | .osError m | .endpointError m | .runtimeError m | .valueError m | .other m => m

namespace PyStr

/-- `str.isspace` of one character. -/
def isSpace (c : Char) : Bool :=
  let n := c.toNat
  (9 ≤ n && n ≤ 13) || (28 ≤ n && n ≤ 32) || n == 0x85 || n == 0xA0 || n == 0x1680 ||
    (0x2000 ≤ n && n ≤ 0x200A) || n == 0x2028 || n == 0x2029 || n == 0x202F || n == 0x205F || n == 0x3000

/-- The code points of the digit zero in each script; its nine successors are the other digits. -/
def decimalZeros : List Nat :=
  [0x30, 0x660, 0x6f0, 0x7c0, 0x966, 0x9e6, 0xa66, 0xae6, 0xb66, 0xbe6, 0xc66, 0xce6, 0xd66, 0xde6,
    0xe50, 0xed0, 0xf20, 0x1040, 0x1090, 0x17e0, 0x1810, 0x1946, 0x19d0, 0x1a80, 0x1a90, 0x1b50,
    0x1bb0, 0x1c40, 0x1c50, 0xa620, 0xa8d0, 0xa900, 0xa9d0, 0xa9f0, 0xaa50, 0xabf0, 0xff10, 0x104a0,
    0x10d30, 0x11066, 0x110f0, 0x11136, 0x111d0, 0x112f0, 0x11450, 0x114d0, 0x11650, 0x116c0,
    0x11730, 0x118e0, 0x11950, 0x11c50, 0x11d50, 0x11da0, 0x16a60, 0x16ac0, 0x16b50, 0x1d7ce,
    0x1d7d8, 0x1d7e2, 0x1d7ec, 0x1d7f6, 0x1e140, 0x1e2f0, 0x1e950, 0x1fbf0]

/-- Digits that are no decimal digits: superscripts, subscripts, circled and Ethiopic digits. -/
def otherDigits : List (Nat × Nat) :=
  [(0xb2, 0xb3), (0xb9, 0xb9), (0x1369, 0x1371), (0x19da, 0x19da), (0x2070, 0x2070), (0x2074, 0x2079),
    (0x2080, 0x2089), (0x2460, 0x2468), (0x2474, 0x247c), (0x2488, 0x2490), (0x24ea, 0x24ea),
    (0x24f5, 0x24fd), (0x24ff, 0x24ff), (0x2776, 0x277e), (0x2780, 0x2788), (0x278a, 0x2792),
    (0x10a40, 0x10a43), (0x10e60, 0x10e68), (0x11052, 0x1105a), (0x1f100, 0x1f10a)]

/-- The value of a decimal digit of any script, as `int` reads it. -/
def decimalValue (c : Char) : Option Nat :=
  (decimalZeros.find? fun z => z ≤ c.toNat && c.toNat < z + 10).map fun z => c.toNat - z

/-- `str.isdigit` of one character: also true of digits that `int` rejects. -/
def isDigitChar (c : Char) : Bool :=
  (decimalValue c).isSome || otherDigits.any fun (lo, hi) => lo ≤ c.toNat && c.toNat ≤ hi

/-- `s.isdigit()`. -/
def isdigit (s : String) : Bool := !s.toList.isEmpty && s.toList.all isDigitChar

/-- `s.strip()`. -/
def strip (s : String) : String :=
  String.ofList ((s.toList.dropWhile isSpace).reverse.dropWhile isSpace).reverse

/-- `s.rstrip()`. -/
def rstrip (s : String) : String := String.ofList (s.toList.reverse.dropWhile isSpace).reverse

/-- `s.lstrip()`. -/
def lstrip (s : String) : String := String.ofList (s.toList.dropWhile isSpace)

/-- Lower case of one character. Of the characters outside ASCII only the Kelvin sign and the dotted
capital I have ASCII letters in their lower case; the others are left alone, since the code compares
lowered text with ASCII text only. -/
def lowerChar (c : Char) : List Char :=
  if c.toNat = 0x212A then ['k']
  else if c.toNat = 0x130 then ['i', Char.ofNat 0x307]
  else [c.toLower]

/-- `s.lower()`. -/
def lower (s : String) : String := String.ofList (s.toList.flatMap lowerChar)

/-- `s.startswith(p)`. -/
def startswith (s p : String) : Bool := p.toList.isPrefixOf s.toList

/-- `needle in s`. -/
def contains (s needle : String) : Bool := s.toList.tails.any (needle.toList.isPrefixOf ·)

/-- `s.removeprefix(p)` for a prefix `p` of `s`, as `s[len(p):]`. -/
def dropPrefix (s : String) (n : Nat) : String := String.ofList (s.toList.drop n)

/-- `\xNN` for a character below 256. -/
def hexEscape (c : Char) : List Char :=
  let n := c.toNat
  ['\\', 'x', Nat.digitChar (n / 16), Nat.digitChar (n % 16)]

def reprChar (quote c : Char) : List Char :=
  if c = quote || c = '\\' then ['\\', c]
  else if c = '\n' then ['\\', 'n']
  else if c = '\r' then ['\\', 'r']
  else if c = '\t' then ['\\', 't']
  else if c.toNat < 32 || c.toNat = 127 then hexEscape c
  else [c]

def apostrophe : Char := Char.ofNat 39

/-- `repr(s)`; characters outside ASCII count as printable. -/
def repr (s : String) : String :=
  let quote := if s.toList.contains apostrophe && !s.toList.contains '"' then '"' else apostrophe
  String.ofList (quote :: s.toList.flatMap (reprChar quote) ++ [quote])

/-- `"".join(parts)`. -/
def join (parts : List String) : String := parts.foldl (· ++ ·) ""

def splitAux : List Char → List Char → List String
  | [], [] => []
  | [], word => [String.ofList word.reverse]
  | c :: rest, [] => if isSpace c then splitAux rest [] else splitAux rest [c]
  | c :: rest, word =>
    if isSpace c then String.ofList word.reverse :: splitAux rest [] else splitAux rest (c :: word)

/-- `s.split()`. -/
def split (s : String) : List String := splitAux s.toList []

/-- `s.split(maxsplit=1)`: the first word and, if anything follows it, the rest without its leading
blanks. -/
def splitOnce (s : String) : List String :=
  let text := s.toList.dropWhile isSpace
  let word := text.takeWhile (!isSpace ·)
  let rest := (text.dropWhile (!isSpace ·)).dropWhile isSpace
  if word.isEmpty then [] else if rest.isEmpty then [String.ofList word]
  else [String.ofList word, String.ofList rest]

/-- The line boundaries of `splitlines`, `\r\n` apart. -/
def isLineBreak (c : Char) : Bool :=
  let n := c.toNat
  (10 ≤ n && n ≤ 13) || (28 ≤ n && n ≤ 30) || n == 0x85 || n == 0x2028 || n == 0x2029

def splitlinesAux : List Char → List Char → List String
  | [], [] => []
  | [], line => [String.ofList line.reverse]
  | '\r' :: '\n' :: rest, line => String.ofList line.reverse :: splitlinesAux rest []
  | c :: rest, line =>
    if isLineBreak c then String.ofList line.reverse :: splitlinesAux rest []
    else splitlinesAux rest (c :: line)

/-- `s.splitlines()`. -/
def splitlines (s : String) : List String := splitlinesAux s.toList []

/-- The value of one digit in a base up to sixteen. -/
def digitValue (base : Nat) (c : Char) : Option Nat :=
  let value :=
    match decimalValue c with
    | some d => some d
    | none =>
      if 'a' ≤ c && c ≤ 'f' then some (c.toNat - 'a'.toNat + 10)
      else if 'A' ≤ c && c ≤ 'F' then some (c.toNat - 'A'.toNat + 10) else none
  value.filter (· < base)

/-- Digits with single underscores between them; `afterDigit` says whether an underscore may come. -/
def digitsValue (base : Nat) : List Char → Bool → Nat → Option Nat
  | [], afterDigit, acc => if afterDigit then some acc else none
  | '_' :: rest, afterDigit, acc => if afterDigit then digitsValue base rest false acc else none
  | c :: rest, _, acc =>
    match digitValue base c with
    | some d => digitsValue base rest true (acc * base + d)
    | none => none

/-- The digits of a base-sixteen literal behind an optional `0x`, which an underscore may follow. -/
def dropHexPrefix : List Char → List Char
  | '0' :: 'x' :: '_' :: rest | '0' :: 'X' :: '_' :: rest => rest
  | '0' :: 'x' :: rest | '0' :: 'X' :: rest => rest
  | cs => cs

/-- The ASCII digit for a decimal digit of any script. -/
def asciiDigit (c : Char) : Char := ((decimalValue c).map Nat.digitChar).getD c

def unsignedValue (base : Nat) (cs : List Char) : Option Nat :=
  digitsValue base (if base = 16 then dropHexPrefix cs else cs) false 0

/-- The largest number of decimal digits `int` converts from text. -/
def maxStrDigits : Nat := 4300

def tooManyDigits (base : Nat) (cs : List Char) : Bool :=
  base == 10 && maxStrDigits < (cs.filter fun c => (decimalValue c).isSome).length

/-- A number in front of which a sign may stand. -/
def splitSign : List Char → Int × List Char
  | '-' :: rest => (-1, rest)
  | '+' :: rest => (1, rest)
  | cs => (1, cs)

/-- `int(s, base)` for the bases ten and sixteen. -/
def int (base : Nat) (s : String) : Except PyError Int :=
  let (sign, body) := splitSign ((strip s).toList.map asciiDigit)
  match unsignedValue base body with
  | some n =>
    if tooManyDigits base body then
      .error (.valueError "Exceeds the limit (4300 digits) for integer string conversion")
    else .ok (sign * n)
  | none => .error (.valueError s!"invalid literal for int() with base {base}: '{s}'")

/-- `int(s, 0)`: the prefix of the text says its base. A decimal number has no leading zeros. -/
def intAnyBase (s : String) : Except PyError Int :=
  let (sign, body) := splitSign ((strip s).toList.map asciiDigit)
  let digits := fun (base : Nat) (cs : List Char) =>
    digitsValue base (if cs.head? = some '_' then cs.tail else cs) false 0
  let decimal := fun cs =>
    (unsignedValue 10 cs).filter fun n =>
      (cs.head? ≠ some '0' || n = 0) && !tooManyDigits 10 cs
  let value :=
    match body with
    | '0' :: 'x' :: rest | '0' :: 'X' :: rest => digits 16 rest
    | '0' :: 'o' :: rest | '0' :: 'O' :: rest => digits 8 rest
    | '0' :: 'b' :: rest | '0' :: 'B' :: rest => digits 2 rest
    | cs => decimal cs
  match value with
  | some n => .ok (sign * n)
  | none => .error (.valueError s!"invalid literal for int() with base 0: '{s}'")

/-- `hex(n)`. -/
def hex (n : Nat) : String := "0x" ++ String.ofList (Nat.toDigits 16 n)

example : int 10 "42" = .ok 42 := by decide
example : isdigit "²" = true ∧ (int 10 "²").toOption = none := by decide
example : strip "  core-file  x " = "core-file  x" ∧ splitOnce "inferior  2 " = ["inferior", "2 "] := by
  decide

end PyStr
end GdbMcp
