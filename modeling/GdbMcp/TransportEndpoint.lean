import GdbMcp.BaseDigits
import Mathlib.Tactic.TFAE

/-! The endpoint of an external MI stream. A text that names one is put into a canonical form for display, which names
the same endpoint. -/

namespace GdbMcp

namespace PyStr

def partitionAux (separator : List Char) : List Char → List Char × List Char
  | [] => ([], [])
  | c :: rest =>
    if separator.isPrefixOf (c :: rest) then ([], (c :: rest).drop separator.length)
    else
      let (before, after) := partitionAux separator rest
      (c :: before, after)

/-- `s.partition(separator)`: what stands in front of the first separator, and what stands behind it. -/
def partition (separator s : String) : String × String :=
  let (before, after) := partitionAux separator.toList s.toList
  (String.ofList before, String.ofList after)

/-- `s.rpartition(separator)`, at the last separator. -/
def rpartition (separator : Char) (s : String) : String × String × String :=
  match s.toList.reverse.dropWhile (· ≠ separator) with
  | [] => ("", "", s)
  | _ :: before =>
    (String.ofList before.reverse, separator.toString, String.ofList (s.toList.reverse.takeWhile (· ≠ separator)).reverse)

end PyStr

inductive EndpointKind where
  | tcp
  | unix
  | pty
  deriving DecidableEq, Repr

/-- Parsed description of an external GDB/MI endpoint. -/
structure MiEndpoint where
  kind : EndpointKind
  display : String
  host : Option String := none
  port : Option Int := none
  path : Option String := none
  deriving DecidableEq, Repr

def endpointHelp : String :=
  "Unsupported endpoint. Use 'tcp://host:port', 'unix:///path/to/socket', or 'pty:///dev/pts/N'."

/-- Parse an endpoint string into a typed endpoint description. -/
def parseMiEndpoint (endpoint : String) : Except PyError MiEndpoint :=
  let raw := PyStr.strip endpoint
  if raw = "" then .error (.endpointError "endpoint must be a non-empty string")
  else
    let (scheme, remainder) := PyStr.partition "://" raw
    let scheme := PyStr.lower scheme
    if scheme = "tcp" then
      let (host, separator, portText) := PyStr.rpartition ':' remainder
      if separator = "" || host = "" || !PyStr.isdigit portText then
        .error (.endpointError "tcp endpoint must look like 'tcp://host:port'")
      else do
        let port ← PyStr.int 10 portText
        return { kind := .tcp, display := "tcp://" ++ host ++ ":" ++ toString port, host := some host, port := some port }
    else if scheme = "unix" || scheme = "pty" then
      let path := remainder
      if !PyStr.startswith path "/" then
        .error (.endpointError (scheme ++ " endpoint must look like '" ++ scheme ++ ":///path/to/endpoint'"))
      else
        let kind := if scheme = "unix" then .unix else .pty
        return { kind, display := scheme ++ "://" ++ path, path := some path }
    else .error (.endpointError endpointHelp)

/-- The endpoints, each with its canonical text: a host with a port that can be read back, or an absolute path. -/
inductive MiEndpoint.WellFormed : MiEndpoint → Prop
  | tcp {host : String} {port : Nat} (hhost : host ≠ "") (hport : port < 10 ^ PyStr.maxStrDigits) :
      WellFormed { kind := .tcp, display := "tcp://" ++ host ++ ":" ++ toString (port : Int), host, port := some (port : Int) }
  | unix {path : String} (habsolute : PyStr.startswith path "/" = true) (hsolid : PyStr.solid path = true) :
      WellFormed { kind := .unix, display := "unix" ++ "://" ++ path, path }
  | pty {path : String} (habsolute : PyStr.startswith path "/" = true) (hsolid : PyStr.solid path = true) :
      WellFormed { kind := .pty, display := "pty" ++ "://" ++ path, path }

example : (parseMiEndpoint " TCP://[::1]:0070 ").toOption.map MiEndpoint.display = some "tcp://[::1]:70" := by decide

/-! ### The parts of a text -/

namespace PyStr

theorem partitionAux_append {separator before : List Char} (rest : List Char) {first : Char}
    (hfirst : separator.head? = some first) (hbefore : first ∉ before) :
    partitionAux separator (before ++ separator ++ rest) = (before, rest) := by
  obtain ⟨tail, rfl⟩ : ∃ tail, separator = first :: tail := by
    cases separator with
    | nil => cases hfirst
    | cons c tail => exact ⟨tail, by rw [Option.some.inj hfirst]⟩
  induction before with
  | nil =>
      have hfound : (first :: tail).isPrefixOf (first :: tail ++ rest) = true :=
        List.isPrefixOf_iff_prefix.mpr (List.prefix_append _ _)
      rw [List.nil_append, List.cons_append, partitionAux, ← List.cons_append, if_pos hfound, List.drop_left]
  | cons c before ih =>
      obtain ⟨hc, hrest⟩ := not_or.mp (List.mem_cons.not.mp hbefore)
      have hother : (first :: tail).isPrefixOf (c :: (before ++ first :: tail ++ rest)) = false := by
        rw [List.isPrefixOf_cons_cons, beq_eq_false_iff_ne.mpr hc, Bool.false_and]
      rw [List.cons_append, List.cons_append, partitionAux, hother, ih hrest]
      rfl

theorem partition_append {separator before : String} (rest : String) {first : Char}
    (hfirst : separator.toList.head? = some first) (hbefore : first ∉ before.toList) :
    partition separator (before ++ separator ++ rest) = (before, rest) := by
  rw [partition, String.toList_append, String.toList_append, partitionAux_append _ hfirst hbefore]
  simp only [String.ofList_toList]

/-- What stands behind the separator is the end of the text. -/
theorem partitionAux_suffix (separator cs : List Char) : (partitionAux separator cs).2 <:+ cs := by
  induction cs with
  | nil => exact List.suffix_refl _
  | cons c rest ih =>
      rw [partitionAux]
      split
      · exact List.drop_suffix _ _
      · exact ih.trans (List.suffix_cons _ _)

theorem partition_suffix (separator s : String) : (partition separator s).2.toList <:+ s.toList := by
  rw [partition]
  dsimp only
  rw [String.toList_ofList]
  exact partitionAux_suffix _ _

theorem rpartition_append {separator : Char} (before : String) {after : String} (hafter : separator ∉ after.toList) :
    rpartition separator (before ++ separator.toString ++ after) = (before, separator.toString, after) := by
  have htext : (before ++ separator.toString ++ after).toList.reverse =
      after.toList.reverse ++ separator :: before.toList.reverse := by
    simp [String.toList_append]
  have hdone : ∀ c ∈ after.toList.reverse, (decide (c ≠ separator)) = true := by
    intro c hc
    rw [decide_eq_true_iff]
    rintro rfl
    exact hafter (List.mem_reverse.mp hc)
  rw [rpartition, htext, List.dropWhile_append_of_pos hdone, List.dropWhile_cons_of_neg (by simp),
    List.takeWhile_append_of_pos hdone, List.takeWhile_cons_of_neg (by simp), List.append_nil]
  simp only [List.reverse_reverse, String.ofList_toList]

/-- An absolute path at the end of a stripped text. -/
theorem solid_of_suffix_strip {s path : String} (hsuffix : path.toList <:+ (strip s).toList)
    (habsolute : startswith path "/" = true) : solid path = true := by
  obtain ⟨rest, hpath⟩ := startswith_iff.mp habsolute
  have hne : path.toList ≠ [] := by
    rw [hpath]
    exact List.cons_ne_nil _ _
  obtain ⟨before, htext⟩ := hsuffix
  have hstripped : strip s ≠ "" := by
    intro hempty
    rw [hempty] at htext
    exact hne (List.append_eq_nil_iff.mp htext).2
  have hlast := (Bool.and_eq_true_iff.mp (solid_strip hstripped)).2
  rw [← htext, List.getLast?_append_of_ne_nil _ hne] at hlast
  rw [solid, hlast, hpath]
  rfl

/-! ### The number of a port -/

/-- A text with few digits spells a small number. -/
theorem digitsValue_lt {base : Nat} (hbase : 0 < base) {cs : List Char} {afterDigit : Bool} {acc n : Nat}
    (h : digitsValue base cs afterDigit acc = some n) : n < (acc + 1) * base ^ cs.length := by
  induction cs generalizing afterDigit acc with
  | nil =>
      cases afterDigit with
      | false => cases h
      | true =>
          rw [← Option.some.inj h, List.length_nil, pow_zero, mul_one]
          exact Nat.lt_succ_self _
  | cons c rest ih =>
      rw [List.length_cons, pow_succ']
      by_cases hc : c = '_'
      · subst hc
        cases afterDigit with
        | false => cases h
        | true => exact (ih h).trans_le (Nat.mul_le_mul_left _ (Nat.le_mul_of_pos_left _ hbase))
      · rw [digitsValue] at h
        · cases hd : digitValue base c with
          | none =>
              rw [hd] at h
              cases h
          | some d =>
              rw [hd] at h
              have hdigit : d < base := by simpa using (Option.filter_eq_some_iff.mp hd).2
              have hacc : acc * base + d + 1 ≤ (acc + 1) * base := by
                rw [Nat.succ_mul]
                omega
              calc n < (acc * base + d + 1) * base ^ rest.length := ih h
                _ ≤ (acc + 1) * base * base ^ rest.length := Nat.mul_le_mul_right _ hacc
                _ = (acc + 1) * (base * base ^ rest.length) := Nat.mul_assoc _ _ _
        · exact hc

theorem isdigit_natCast (n : Nat) : isdigit (toString (n : Int)) = true := by
  apply isdigit_of_asciiDigits
  · rw [toList_toString_natCast]
    exact toDigits_ne_nil n
  · rw [toList_toString_natCast]
    exact fun _ => mem_toDigits (by decide) (by decide)

theorem splitSign_of_not_mem {cs : List Char} (hminus : '-' ∉ cs) (hplus : '+' ∉ cs) : splitSign cs = (1, cs) := by
  unfold splitSign
  split
  · exact absurd List.mem_cons_self hminus
  · exact absurd List.mem_cons_self hplus
  · rfl

/-- The number of a text of digits is below the limit. -/
theorem int_digits {s : String} {k : Int} (hs : isdigit s = true) (h : int 10 s = .ok k) :
    ∃ n : Nat, k = n ∧ n < 10 ^ maxStrDigits := by
  obtain ⟨n, rfl⟩ := Int.eq_ofNat_of_zero_le (int_nonneg hs h)
  have hshort : s.toList.length ≤ maxStrDigits := by
    have hkept := (int_isOk_iff hs).mp ⟨_, h⟩
    rw [rejectedDigits, hs, Bool.true_and, Bool.or_eq_false_iff, decide_eq_false_iff_not, Nat.not_lt] at hkept
    exact hkept.2
  have hdigit : ∀ c ∈ s.toList, isDigitChar c = true := List.all_eq_true.mp (Bool.and_eq_true_iff.mp hs).2
  have hsign : splitSign (s.toList.map asciiDigit) = (1, s.toList.map asciiDigit) := by
    apply splitSign_of_not_mem
    · intro hmem
      obtain ⟨c, hc, heq⟩ := List.mem_map.mp hmem
      exact asciiDigit_ne (hdigit c hc) (by decide) heq
    · intro hmem
      obtain ⟨c, hc, heq⟩ := List.mem_map.mp hmem
      exact asciiDigit_ne (hdigit c hc) (by decide) heq
  rw [int, strip_of_solid (solid_of_isdigit hs), hsign] at h
  simp only [unsignedValue, Nat.reduceEqDiff, if_false] at h
  cases hvalue : digitsValue 10 (s.toList.map asciiDigit) false 0 with
  | none =>
      rw [hvalue] at h
      cases h
  | some m =>
      rw [hvalue] at h
      dsimp only at h
      split at h
      · cases h
      have hm : m = n := by
        have hk := Except.ok.inj h
        rw [one_mul] at hk
        exact Int.ofNat.inj hk
      have hbound := digitsValue_lt (by decide) hvalue
      rw [List.length_map, zero_add, one_mul] at hbound
      refine ⟨n, rfl, ?_⟩
      rw [← hm]
      exact hbound.trans_le (Nat.pow_le_pow_right (by decide) hshort)

end PyStr

/-! ### Endpoints -/

namespace MiEndpoint

variable {e : MiEndpoint}

/-- A scheme is kept when a text is cut behind it. -/
theorem partition_scheme {scheme rest : String} (hsolid : PyStr.solid (scheme ++ "://" ++ rest) = true)
    (hscheme : ':' ∉ scheme.toList) :
    PyStr.strip (scheme ++ "://" ++ rest) ≠ "" ∧
      PyStr.partition "://" (PyStr.strip (scheme ++ "://" ++ rest)) = (scheme, rest) := by
  rw [PyStr.strip_of_solid hsolid]
  refine ⟨fun hempty => ?_, PyStr.partition_append rest rfl hscheme⟩
  rw [hempty] at hsolid
  cases hsolid

/-- The text of an address of either kind of file is read as the path behind its scheme. -/
theorem parse_path {scheme path : String} (hscheme : scheme = "unix" ∨ scheme = "pty")
    (habsolute : PyStr.startswith path "/" = true) (hpath : PyStr.solid path = true) :
    parseMiEndpoint (scheme ++ "://" ++ path) =
      .ok { kind := if scheme = "unix" then .unix else .pty, display := scheme ++ "://" ++ path, path := some path } := by
  have hsolid : PyStr.solid (scheme ++ "://" ++ path) = true := by
    obtain ⟨-, hlast⟩ := Bool.and_eq_true_iff.mp hpath
    have hne : path.toList ≠ [] := by
      intro hnil
      rw [hnil] at hlast
      cases hlast
    rw [PyStr.solid, String.toList_append, List.getLast?_append_of_ne_nil _ hne, hlast, String.toList_append]
    rcases hscheme with rfl | rfl <;> rfl
  have hplain : ':' ∉ scheme.toList := by rcases hscheme with rfl | rfl <;> decide
  have hlower : PyStr.lower scheme = scheme := by rcases hscheme with rfl | rfl <;> decide
  have htcp : scheme ≠ "tcp" := by rcases hscheme with rfl | rfl <;> decide
  have hfile : (decide (scheme = "unix") || decide (scheme = "pty")) = true := by simpa using hscheme
  obtain ⟨hne, hparts⟩ := partition_scheme hsolid hplain
  unfold parseMiEndpoint
  dsimp only
  rw [if_neg hne, hparts]
  dsimp only
  rw [hlower, if_neg htcp, if_pos hfile, habsolute]
  rfl

/-- The text of an address of the network is read as the host and the port behind its scheme. -/
theorem parse_tcp {host : String} {port : Nat} (hhost : host ≠ "")
    (hport : port < 10 ^ PyStr.maxStrDigits) :
    parseMiEndpoint ("tcp://" ++ host ++ ":" ++ toString (port : Int)) =
      .ok { kind := .tcp, display := "tcp://" ++ host ++ ":" ++ toString (port : Int), host := some host,
            port := some (port : Int) } := by
  have htext : "tcp://" ++ host ++ ":" ++ toString (port : Int) = "tcp" ++ "://" ++ (host ++ ":" ++ toString (port : Int)) := by
    simp only [String.append_assoc]
    rfl
  have hsolid : PyStr.solid ("tcp" ++ "://" ++ (host ++ ":" ++ toString (port : Int))) = true := by
    rw [← htext]
    exact PyStr.solid_append_natCast (by simp only [String.toList_append]; rfl) port
  have haddress : PyStr.rpartition ':' (host ++ ":" ++ toString (port : Int)) = (host, ":", toString (port : Int)) := by
    apply PyStr.rpartition_append
    rw [PyStr.toList_toString_natCast]
    intro hmem
    exact absurd (PyStr.mem_toDigits (by decide) (by decide) hmem) (by decide)
  have haccepted : ¬((decide (":" = "") || decide (host = "") || !PyStr.isdigit (toString (port : Int))) = true) := by
    rw [PyStr.isdigit_natCast, decide_eq_false hhost]
    decide
  have hlower : PyStr.lower "tcp" = "tcp" := by decide
  obtain ⟨hne, hparts⟩ := partition_scheme hsolid (by decide)
  unfold parseMiEndpoint
  dsimp only
  rw [htext, if_neg hne, hparts]
  dsimp only
  rw [hlower, if_pos rfl, haddress]
  dsimp only
  rw [if_neg haccepted, PyStr.int_toString hport, ← htext]
  rfl

/-- The canonical text of an endpoint is read as that endpoint. -/
theorem WellFormed.parse_display (h : e.WellFormed) : parseMiEndpoint e.display = .ok e := by
  cases h with
  | tcp hhost hport => exact parse_tcp hhost hport
  | unix habsolute hsolid => exact parse_path (.inl rfl) habsolute hsolid
  | pty habsolute hsolid => exact parse_path (.inr rfl) habsolute hsolid

/-- What is read from a text is well formed. -/
theorem wellFormed_of_parse {endpoint : String} (h : parseMiEndpoint endpoint = .ok e) : e.WellFormed := by
  have hsuffix := PyStr.partition_suffix "://" (PyStr.strip endpoint)
  unfold parseMiEndpoint at h
  dsimp only at h
  generalize PyStr.partition "://" (PyStr.strip endpoint) = parts at h hsuffix
  obtain ⟨scheme, rest⟩ := parts
  split at h
  · cases h
  split at h
  · generalize PyStr.rpartition ':' rest = address at h
    obtain ⟨host, separator, portText⟩ := address
    split at h
    · cases h
    rename_i haccepted
    simp only [Bool.or_eq_true, decide_eq_true_eq, Bool.not_eq_true', not_or, Bool.not_eq_false] at haccepted
    cases hport : PyStr.int 10 portText with
    | error error =>
        rw [hport] at h
        cases h
    | ok port =>
        rw [hport] at h
        obtain ⟨n, rfl, hlength⟩ := PyStr.int_digits haccepted.2 hport
        rw [← Except.ok.inj h]
        exact .tcp haccepted.1.2 hlength
  split at h
  · rename_i hscheme
    split at h
    · cases h
    rename_i habsolute
    rw [Bool.not_eq_true', Bool.not_eq_false] at habsolute
    have hsolid := PyStr.solid_of_suffix_strip hsuffix habsolute
    rw [← Except.ok.inj h]
    rw [Bool.or_eq_true, decide_eq_true_iff, decide_eq_true_iff] at hscheme
    rcases hscheme with hscheme | hscheme
    · rw [hscheme]
      exact .unix habsolute hsolid
    · rw [hscheme]
      exact .pty habsolute hsolid
  · cases h

/-- The endpoints that are accepted are the well formed ones, and each is read again from the text that is shown for
it. -/
theorem endpoint_read_back (e : MiEndpoint) :
    [∃ endpoint, parseMiEndpoint endpoint = .ok e, e.WellFormed, parseMiEndpoint e.display = .ok e].TFAE := by
  tfae_have 1 → 2 := fun ⟨_, h⟩ => wellFormed_of_parse h
  tfae_have 2 → 3 := WellFormed.parse_display
  tfae_have 3 → 1 := fun h => ⟨_, h⟩
  tfae_finish

end MiEndpoint
end GdbMcp
