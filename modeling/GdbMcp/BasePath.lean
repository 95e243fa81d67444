import Mathlib.Data.List.Infix

/-! Paths in a file system without links, and the making of directories in it. Nothing here refers to a particular
program. -/

namespace GdbMcp

/-- A resolved path: the names from the root down. -/
abbrev Path := List String

namespace Path

variable {base dir : Path} {raw : List String}

/-- The parts of a path between its slashes. Empty parts and those for the same directory are left out. -/
def parts (text : String) : List String :=
  ((text.toList.splitOn '/').map String.ofList).filter fun part => part ≠ "" && part ≠ "."

def isAbsolute (text : String) : Bool := text.toList.head? == some '/'

/-- The parts of a path that is joined to a base. -/
def join (base : Path) (text : String) : List String := if isAbsolute text then parts text else base ++ parts text

def step (dir : Path) (part : String) : Path := if part = ".." then dir.dropLast else dir ++ [part]

/-- The path that parts lead to from the root. -/
def resolve (raw : List String) : Path := raw.foldl step []

/-- Another part behind a number of parent parts and the names behind them. -/
def climb (reached : Nat × Path) (part : String) : Nat × Path :=
  if part = ".." then if reached.2.isEmpty then (reached.1 + 1, []) else (reached.1, reached.2.dropLast)
  else (reached.1, reached.2 ++ [part])

/-- The parent parts that are left when names have been cancelled, and the names behind them. -/
def reduce (raw : List String) : Nat × Path := raw.foldl climb (0, [])

/-- A path without parent parts. -/
def Plain (path : Path) : Prop := ".." ∉ path

/-- The path lies in a directory. -/
def Below (dir path : Path) : Prop := dir <+: path ∧ path ≠ dir

instance (dir path : Path) : Decidable (Below dir path) := inferInstanceAs (Decidable (_ ∧ _))

/-! ### Where parts lead to -/

theorem foldl_step (raw : List String) (dir : Path) :
    raw.foldl step dir = dir.take (dir.length - (reduce raw).1) ++ (reduce raw).2 := by
  induction raw using List.reverseRecOn with
  | nil => simp [reduce]
  | append_singleton raw part ih =>
      have hreduce : reduce (raw ++ [part]) = climb (reduce raw) part := by simp [reduce]
      rw [List.foldl_append, ih, hreduce, List.foldl_cons, List.foldl_nil]
      rcases reduce raw with ⟨ups, names⟩
      by_cases hparent : part = ".."
      · subst hparent
        cases names with
        | nil =>
            have hup : (dir.take (dir.length - ups)).dropLast = dir.take (dir.length - (ups + 1)) := by
              rw [List.dropLast_eq_take, List.take_take, List.length_take]
              congr 1
              omega
            simpa [step, climb] using hup
        | cons name names => simp [step, climb, List.dropLast_append_of_ne_nil]
      · simp [step, climb, hparent]

theorem plain_step (hdir : Plain dir) (part : String) : Plain (step dir part) := by
  unfold step
  split
  · exact fun hmem => hdir (List.mem_of_mem_dropLast hmem)
  · rename_i hpart
    intro hmem
    rcases List.mem_append.mp hmem with hmem | hmem
    · exact hdir hmem
    · exact hpart (List.mem_singleton.mp hmem).symm

theorem plain_resolve (raw : List String) : Plain (resolve raw) := by
  unfold resolve
  induction raw using List.reverseRecOn with
  | nil => exact List.not_mem_nil
  | append_singleton raw part ih =>
      rw [List.foldl_append]
      exact plain_step ih part

theorem foldl_step_plain (hraw : Plain raw) : raw.foldl step dir = dir ++ raw := by
  induction raw generalizing dir with
  | nil => simp
  | cons part raw ih =>
      have hpart : part ≠ ".." := fun h => hraw (h ▸ List.mem_cons_self)
      have hrest : Plain raw := fun hmem => hraw (List.mem_cons_of_mem _ hmem)
      rw [List.foldl_cons, ih hrest, step, if_neg hpart, List.append_assoc]
      rfl

/-- The parts that are joined to a base lead back into it if the names behind the parent parts begin with those that
were left. -/
theorem prefix_resolve_join (hbase : Plain base) (text : String) :
    base <+: resolve (join base text) ↔
      if isAbsolute text then base <+: (reduce (parts text)).2
      else base.drop (base.length - (reduce (parts text)).1) <+: (reduce (parts text)).2 := by
  unfold join
  split
  · rw [resolve, foldl_step]
    simp
  · have hsplit : base <+: base.take (base.length - (reduce (parts text)).1) ++ (reduce (parts text)).2 ↔
        base.take (base.length - (reduce (parts text)).1) ++ base.drop (base.length - (reduce (parts text)).1) <+:
          base.take (base.length - (reduce (parts text)).1) ++ (reduce (parts text)).2 := by
      rw [List.take_append_drop]
    rw [resolve, List.foldl_append, foldl_step_plain hbase, List.nil_append, foldl_step, hsplit,
      List.prefix_append_right_inj]

end Path

inductive Entry where
  | directory
  | file
  deriving DecidableEq

/-- The directories and files of a file system, and the paths at which a directory may be made. -/
structure Tree where
  entry : Path → Option Entry
  permits : Path → Bool
  root : entry [] = some .directory
  closed : ∀ path, path ≠ [] → entry path ≠ none → entry path.dropLast = some .directory

/-- Why parts lead nowhere. -/
inductive Obstacle where
  | missing
  | notDirectory

/-- What becomes of one call of `mkdir`. -/
inductive MkdirOutcome where
  | made (tree : Tree)
  | missing
  | refused

namespace Tree

variable {tree tree' : Tree} {path dir : Path} {raw : List String} {existOk : Bool}

/-- Where parts lead to from a directory. Whatever has a part behind it has to be a directory. -/
def walk (tree : Tree) : Path → List String → Except Obstacle Path
  | dir, [] => .ok dir
  | dir, part :: rest =>
    match tree.entry dir with
    | some .directory => walk tree (Path.step dir part) rest
    | some .file => .error .notDirectory
    | none => .error .missing

def at? (tree : Tree) (raw : List String) : Option Entry :=
  match tree.walk [] raw with
  | .ok path => tree.entry path
  | .error _ => none

def present (tree : Tree) (raw : List String) : Bool := (tree.at? raw).isSome

/-- The file system with a new directory. -/
def add (tree : Tree) (path : Path) (hparent : tree.entry path.dropLast = some .directory) : Tree where
  entry other := if other = path then some .directory else tree.entry other
  permits := tree.permits
  root := by
    split
    · rfl
    · exact tree.root
  closed other hne hentry := by
    have hback : tree.entry other.dropLast = some .directory := by
      split at hentry
      · rename_i hsame
        rw [hsame]
        exact hparent
      · exact tree.closed other hne hentry
    rw [hback]
    split <;> rfl

/-- `os.mkdir`. -/
def osMkdir (tree : Tree) (raw : List String) : MkdirOutcome :=
  match tree.walk [] raw with
  | .error .missing => .missing
  | .error .notDirectory => .refused
  | .ok path =>
    if (tree.entry path).isSome || !tree.permits path then .refused
    else if hparent : tree.entry path.dropLast = some .directory then .made (tree.add path hparent)
    else .missing

/-- `Path.mkdir(exist_ok=...)`. -/
def mkdirOnce (tree : Tree) (existOk : Bool) (raw : List String) : Option Tree :=
  match tree.osMkdir raw with
  | .made made => some made
  | .missing => none
  | .refused => if existOk && tree.at? raw == some .directory then some tree else none

/-- `Path.mkdir(parents=True, exist_ok=...)`, of the parts of the path in reverse. -/
def mkdirParents (existOk : Bool) : List String → Tree → Option Tree
  | [], tree => tree.mkdirOnce existOk []
  | part :: rest, tree =>
    match tree.osMkdir (part :: rest).reverse with
    | .missing => (mkdirParents true rest tree).bind fun made => made.mkdirOnce existOk (part :: rest).reverse
    | _ => tree.mkdirOnce existOk (part :: rest).reverse

/-! ### What is made -/

theorem walk_eq (h : tree.walk dir raw = .ok path) : path = raw.foldl Path.step dir := by
  induction raw generalizing dir with
  | nil => exact (Except.ok.inj h).symm
  | cons part rest ih =>
      rw [walk] at h
      split at h
      · exact ih h
      · cases h
      · cases h

/-- Nothing is lost. -/
def Extends (tree tree' : Tree) : Prop := ∀ path, tree.entry path ≠ none → tree'.entry path = tree.entry path

theorem Extends.refl (tree : Tree) : Extends tree tree := fun _ _ => rfl

theorem Extends.trans {tree'' : Tree} (h : Extends tree tree') (h' : Extends tree' tree'') : Extends tree tree'' := by
  intro path hpath
  rw [h' path ((h path hpath).symm ▸ hpath), h path hpath]

/-- A directory that is made was not there before. -/
theorem osMkdir_made (h : tree.osMkdir raw = .made tree') :
    tree.entry (Path.resolve raw) = none ∧ Extends tree tree' := by
  unfold osMkdir at h
  split at h
  · cases h
  · cases h
  · rename_i path hwalk
    obtain rfl := walk_eq hwalk
    split at h
    · cases h
    · rename_i hfree
      simp only [Bool.or_eq_true, not_or, Bool.not_eq_true, Option.isSome_eq_false_iff, Option.isNone_iff_eq_none] at hfree
      split at h
      · obtain rfl := MkdirOutcome.made.inj h
        refine ⟨hfree.1, fun other hother => ?_⟩
        have hne : other ≠ raw.foldl Path.step [] := fun heq => hother (heq ▸ hfree.1)
        exact if_neg hne
      · cases h

theorem mkdirOnce_extends (h : tree.mkdirOnce existOk raw = some tree') : Extends tree tree' := by
  unfold mkdirOnce at h
  split at h
  · rename_i made hmade
    obtain rfl := Option.some.inj h
    exact (osMkdir_made hmade).2
  · cases h
  · split at h
    · obtain rfl := Option.some.inj h
      exact .refl tree
    · cases h

theorem mkdirParents_extends (h : mkdirParents existOk raw tree = some tree') : Extends tree tree' := by
  induction raw generalizing existOk tree' with
  | nil => exact mkdirOnce_extends h
  | cons part rest ih =>
      rw [mkdirParents] at h
      split at h
      · obtain ⟨made, hmade, h⟩ := Option.bind_eq_some_iff.mp h
        exact (ih hmade).trans (mkdirOnce_extends h)
      · exact mkdirOnce_extends h

theorem mkdirOnce_fresh (h : tree.mkdirOnce false raw = some tree') : tree.entry (Path.resolve raw) = none := by
  unfold mkdirOnce at h
  split at h
  · rename_i made hmade
    exact (osMkdir_made hmade).1
  · cases h
  · cases h

/-- A directory that has to be new was not there before its parents were made. -/
theorem mkdirParents_fresh (h : mkdirParents false raw.reverse tree = some tree') :
    tree.entry (Path.resolve raw) = none := by
  rcases hreverse : raw.reverse with _ | ⟨part, rest⟩
  · obtain rfl := List.reverse_eq_nil_iff.mp hreverse
    rw [hreverse, mkdirParents] at h
    exact mkdirOnce_fresh h
  · have hraw : (part :: rest).reverse = raw := by rw [← hreverse, List.reverse_reverse]
    rw [hreverse, mkdirParents, hraw] at h
    split at h
    · obtain ⟨made, hmade, h⟩ := Option.bind_eq_some_iff.mp h
      by_contra hentry
      rw [← mkdirParents_extends hmade _ hentry] at hentry
      exact hentry (mkdirOnce_fresh h)
    · exact mkdirOnce_fresh h

end Tree
end GdbMcp
