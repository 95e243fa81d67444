import GdbMcp.ClientQueries

/-! What the flags of the tools mean. The form of a command line has one slot for every flag that its action takes, with
the place of the flag in the payload. The validators accept the flags that fit the form and name the ones at fault
otherwise, and the builders fill the form in: no flag that is accepted is lost on the way, and nothing else is added. -/

namespace GdbMcp

/-! ### What a payload says -/

mutual

/-- The values in a payload that are no mappings themselves, each behind the keys that lead to it. -/
def leaves : Value → List (List String × Value)
  | .none => []
  | .dict fields => fieldLeaves fields
  | value => [([], value)]

def fieldLeaves : List (String × Value) → List (List String × Value)
  | [] => []
  | (key, value) :: rest => (leaves value).map (fun leaf => (key :: leaf.1, leaf.2)) ++ fieldLeaves rest

end

theorem fieldLeaves_append (fields more : List (String × Value)) :
    fieldLeaves (fields ++ more) = fieldLeaves fields ++ fieldLeaves more := by
  induction fields with
  | nil => rw [fieldLeaves, List.nil_append, List.nil_append]
  | cons field rest ih => rw [List.cons_append, fieldLeaves, fieldLeaves, ih, List.append_assoc]

@[simp] theorem fieldLeaves_givenFields (fields : List (String × Value)) :
    fieldLeaves (givenFields fields) = fieldLeaves fields := by
  rw [givenFields]
  induction fields with
  | nil => rfl
  | cons field rest ih =>
      cases hvalue : field.2 with
      | none =>
          rw [List.filter_cons_of_neg (by simp [hvalue, Value.isGiven]), ih, fieldLeaves, hvalue, leaves, List.map_nil,
            List.nil_append]
      | _ => rw [List.filter_cons_of_pos (by simp [hvalue, Value.isGiven]), fieldLeaves, fieldLeaves, ih]

@[simp] theorem leaves_ofFields (fields : List (String × Value)) : leaves (.ofFields fields) = fieldLeaves fields := by
  cases fields <;> rfl

/-! ### Forms -/

/-- The place of one flag. -/
structure FlagSlot where
  flag : String
  path : List String
  required : Bool := false
  /-- What is asked for when it is missing. -/
  wanted : String := flag
  /-- What stands for it when it is missing. -/
  default : Value := .none
  /-- Whether its negation is as good as nothing. -/
  switch : Bool := false

/-- The flags of a command line, what they are for, and the slots for them. -/
structure CommandForm where
  flags : List (String × Value)
  contexts : List String
  slots : List FlagSlot

namespace CommandForm

variable (form : CommandForm)

def value (flag : String) : Value := (form.flags.lookup flag).getD .none

/-- What a payload says in place of one slot. -/
def slotLeaves (slot : FlagSlot) : List (List String × Value) :=
  (leaves (match form.value slot.flag with
    | .none => slot.default
    | .bool false => if slot.switch then .none else .bool false
    | value => value)).map fun leaf => (slot.path ++ leaf.1, leaf.2)

/-- What a payload says that is the form, filled in. -/
def filled : List (List String × Value) := form.slots.flatMap form.slotLeaves

/-- Every flag has its slot, and every flag that is required is there. -/
structure Fits : Prop where
  placed : ∀ field ∈ form.flags, field.2.isGiven = true → field.1 ∈ form.slots.map (·.flag)
  complete : ∀ slot ∈ form.slots, slot.required = true → (form.value slot.flag).isGiven = true

/-- A flag without a slot. -/
structure OutOfPlace (flag : String) : Prop where
  given : (form.value flag).isGiven = true
  unplaced : flag ∉ form.slots.map (·.flag)

/-- The messages that name what is at fault: a flag that is missing, or flags without a slot. -/
inductive Explains : CliUsageError → Prop
  | missing (slot : FlagSlot) (context : String) (hslot : slot ∈ form.slots) (hrequired : slot.required = true)
      (hmissing : (form.value slot.flag).isGiven = false) (hcontext : context ∈ form.contexts) :
      Explains ⟨s!"{slot.wanted} required with {context}"⟩
  | outOfPlace (flags : List String) (context : String) (hne : flags ≠ []) (hflags : ∀ flag ∈ flags, form.OutOfPlace flag)
      (hcontext : context ∈ form.contexts) : Explains ⟨s!"{joinFlags flags} not valid with {context}"⟩

variable {form : CommandForm} {e : CliUsageError}

theorem Explains.not_fits (h : form.Explains e) : ¬form.Fits := by
  intro hfits
  cases h with
  | missing slot context hslot hrequired hmissing =>
      cases hmissing.symm.trans (hfits.complete slot hslot hrequired)
  | outOfPlace flags context hne hflags =>
      obtain ⟨flag, hflag⟩ := List.exists_mem_of_ne_nil flags hne
      obtain ⟨hgiven, hunplaced⟩ := hflags flag hflag
      rw [value] at hgiven
      cases hlookup : form.flags.lookup flag with
      | none =>
          rw [hlookup] at hgiven
          cases hgiven
      | some value =>
          rw [hlookup] at hgiven
          exact hunplaced (hfits.placed _ (Dict.mem_of_lookup hlookup) hgiven)

/-! ### The rules of the checks -/

/-- What is computed has the property, and an error explains itself. -/
structure Settles {α : Type} (form : CommandForm) (x : Except CliUsageError α) (P : α → Prop) : Prop where
  ok : ∀ a, x = .ok a → P a
  error : ∀ e, x = .error e → form.Explains e

variable {α β : Type} {P : α → Prop} {Q : β → Prop} {context : String}

theorem Settles.pure {a : α} (h : P a) : form.Settles (.ok a) P :=
  ⟨fun _ ha => Except.ok.inj ha ▸ h, fun _ he => (by cases he)⟩

theorem Settles.bind {x : Except CliUsageError α} {next : α → Except CliUsageError β} (hx : form.Settles x P)
    (hnext : ∀ a, P a → form.Settles (next a) Q) : form.Settles (x >>= next) Q := by
  cases hrun : x with
  | ok a => exact hnext a (hx.ok a hrun)
  | error e => exact ⟨fun _ ha => (by cases ha), fun _ he => Except.error.inj he ▸ hx.error e hrun⟩

theorem Settles.raiseInvalidFlags {invalid : List String} (hinvalid : ∀ flag ∈ invalid, form.OutOfPlace flag)
    (hcontext : context ∈ form.contexts) :
    form.Settles (raiseInvalidFlags context invalid) fun _ => invalid = [] := by
  rw [GdbMcp.raiseInvalidFlags]
  split
  · rename_i hnil
    exact .pure hnil
  · rename_i hne
    exact ⟨fun _ ha => (by cases ha), fun _ he => Except.error.inj he ▸ .outOfPlace invalid context hne hinvalid hcontext⟩

theorem Settles.requireFlag {given : Bool} {flag : String} {slot : FlagSlot} (hslot : slot ∈ form.slots)
    (hwanted : slot.wanted = flag) (hcontext : context ∈ form.contexts)
    (hmissing : given = false → slot.required = true ∧ (form.value slot.flag).isGiven = false) :
    form.Settles (requireFlag given flag context) fun _ => given = true := by
  rw [GdbMcp.requireFlag]
  split
  · rename_i hgiven
    exact .pure hgiven
  · rename_i hgiven
    obtain ⟨hrequired, hnone⟩ := hmissing (Bool.eq_false_iff.mpr hgiven)
    exact ⟨fun _ ha => (by cases ha),
      fun _ he => Except.error.inj he ▸ hwanted ▸ .missing slot context hslot hrequired hnone hcontext⟩

end CommandForm
end GdbMcp
