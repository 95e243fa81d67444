import GdbMcp.ClientSteps

/-! How the events of workflow steps are grouped: the events between two steps belong to the first of them. Every step is
validated with its own arguments and none of another, whatever the order of its labels and arguments. -/

namespace GdbMcp

open Eff

/-- A step with the events up to the next one. -/
structure StepGroup where
  name : String
  events : List StepEvent

/-- The events in front of the first step, and the steps with theirs. -/
def grouped : List StepEvent → List StepEvent × List StepGroup
  | [] => ([], [])
  | .step _ name :: rest => ([], ⟨name, (grouped rest).1⟩ :: (grouped rest).2)
  | event :: rest => (event :: (grouped rest).1, (grouped rest).2)

def StepEvent.label? : StepEvent → Option String
  | .label _ text => some text
  | _ => none

def StepEvent.assignment? : StepEvent → Option (String × String)
  | .arg _ path value => some (path, value)
  | _ => none

namespace StepGroup

variable (group : StepGroup)

def tool : String := normalizeStepToolName group.name

/-- The label of the last label event. -/
def label : Option String := (group.events.filterMap StepEvent.label?).getLast?

def assignments : List (String × String) := group.events.filterMap StepEvent.assignment?

/-- What the assignments make of the empty mapping, from left to right. -/
def arguments : Mapping := madeBy group.assignments

def draft (index : Nat) : StepDraft := ⟨group.tool, group.label, index⟩

end StepGroup

/-- One of the assignments raises on what those before it have made. -/
def Conflicting : Mapping → List (String × String) → Prop
  | _, [] => False
  | fields, (path, value) :: rest =>
    AssignmentRaises fields path value ∨ Conflicting (afterAssignment fields path value) rest

variable {fields : Mapping} {assignments others : List (String × String)} {path value : String}
  {front : List StepGroup} {group : StepGroup} {s : StepParse} {stepFlag : String} {models : StepModels}

theorem conflicting_append : Conflicting fields (assignments ++ others) ↔
    Conflicting fields assignments ∨ Conflicting (assignAll assignments fields) others := by
  induction assignments generalizing fields with
  | nil => simp [Conflicting, assignAll]
  | cons assignment rest ih =>
      rw [List.cons_append, Conflicting, Conflicting, ih, or_assoc]
      rfl

theorem wp_assignDottedValue {Q : Unit → Mapping → Prop} {R : CliUsageError → Mapping → Prop}
    (hreturns : ¬AssignmentRaises fields path value → Q () (afterAssignment fields path value))
    (hraises : AssignmentRaises fields path value → ∀ error, R error (afterAssignment fields path value)) :
    wp (assignDottedValue path (.str value)) Q R fields := by
  unfold wp
  unfold AssignmentRaises afterAssignment at hreturns hraises
  rcases hrun : (assignDottedValue path (.str value)).run fields with ⟨error | _, after⟩ <;> rw [hrun] at hreturns hraises
  · exact hraises ⟨error, rfl⟩ error
  · exact hreturns fun ⟨_, herror⟩ => nomatch herror

/-! ### The loop -/

/-- The state of the loop behind events that are grouped so, the last group being the one at hand. -/
structure Represents (s : StepParse) (front : List StepGroup) (group : StepGroup) : Prop where
  steps : s.steps = front.mapIdx (fun index group => group.draft index) ++ [group.draft front.length]
  mappings : s.mappings = front.map StepGroup.arguments ++ [group.arguments]
  tool : s.currentTool = some group.tool
  address : s.currentArguments = some front.length
  handed : s.handed = []
  compatible : ∀ g ∈ front ++ [group], ¬Conflicting [] g.assignments

theorem wp_currentStep (h : Represents s front group) (event : StepEvent) {Q : String × Nat → StepParse → Prop}
    {R : CliUsageError → StepParse → Prop} :
    wp (currentStep event stepFlag) Q R s ↔ Q (group.tool, front.length) s := by
  rw [currentStep, wp_bind, wp_gets, h.tool, wp_bind, wp_gets, h.address]
  rfl

theorem Represents.compatible_front (h : Represents s front group) : ∀ g ∈ front, ¬Conflicting [] g.assignments :=
  fun g hg => h.compatible g (List.mem_append_left _ hg)

theorem compatible_concat (hfront : ∀ g ∈ front, ¬Conflicting [] g.assignments)
    (hgroup : ¬Conflicting [] group.assignments) : ∀ g ∈ front ++ [group], ¬Conflicting [] g.assignments := by
  intro g hg
  rcases List.mem_append.mp hg with hg | hg
  · exact hfront g hg
  · rwa [List.mem_singleton.mp hg]

/-- A step begins with no label and no arguments. -/
theorem represents_step (hsteps : s.steps = front.mapIdx fun index group => group.draft index)
    (hmappings : s.mappings = front.map StepGroup.arguments) (hhanded : s.handed = [])
    (hfront : ∀ g ∈ front, ¬Conflicting [] g.assignments) (setup : Bool) (name : String) :
    wp (parseStepEvent stepFlag (.step setup name)) (fun _ after => Represents after front ⟨name, []⟩)
      (fun _ _ => False) s := by
  have hlength : s.mappings.length = front.length := by rw [hmappings, List.length_map]
  rw [parseStepEvent, wp_modify]
  constructor
  · simp only [hsteps, hlength]
    rfl
  · simp only [hmappings]
    rfl
  · rfl
  · simp only [hlength]
  · exact hhanded
  · exact compatible_concat hfront id

theorem represents_label (h : Represents s front group) (setup : Bool) (text : String) :
    wp (parseStepEvent stepFlag (.label setup text))
      (fun _ after => Represents after front ⟨group.name, group.events ++ [.label setup text]⟩) (fun _ _ => False) s := by
  have hassignments : StepGroup.assignments ⟨group.name, group.events ++ [.label setup text]⟩ = group.assignments := by
    simp [StepGroup.assignments, StepEvent.assignment?]
  have hlabel : StepGroup.label ⟨group.name, group.events ++ [.label setup text]⟩ = some text := by
    simp [StepGroup.label, StepEvent.label?]
  rw [parseStepEvent, wp_bind, wp_currentStep h]
  constructor
  · simp only [h.steps, List.dropLast_concat, StepGroup.draft, hlabel]
    rfl
  · rw [StepGroup.arguments, hassignments]
    exact h.mappings
  · exact h.tool
  · exact h.address
  · exact h.handed
  · refine compatible_concat h.compatible_front ?_
    rw [hassignments]
    exact h.compatible group (by simp)

/-- An argument is assigned in the mapping of the last step, unless it conflicts with the earlier ones. -/
theorem represents_arg (h : Represents s front group) (setup : Bool) (path value : String) :
    wp (parseStepEvent stepFlag (.arg setup path value))
      (fun _ after => Represents after front ⟨group.name, group.events ++ [.arg setup path value]⟩)
      (fun _ after => after.handed = [] ∧ Conflicting [] (group.assignments ++ [(path, value)])) s := by
  have hassignments : StepGroup.assignments ⟨group.name, group.events ++ [.arg setup path value]⟩ =
      group.assignments ++ [(path, value)] := by
    simp [StepGroup.assignments, StepEvent.assignment?]
  have hlabel : StepGroup.label ⟨group.name, group.events ++ [.arg setup path value]⟩ = group.label := by
    simp [StepGroup.label, StepEvent.label?]
  have harguments : StepGroup.arguments ⟨group.name, group.events ++ [.arg setup path value]⟩ =
      afterAssignment group.arguments path value := by
    rw [StepGroup.arguments, hassignments, madeBy, assignAll, List.foldl_append]
    rfl
  have hread : s.mappings.getD front.length [] = group.arguments := by
    rw [h.mappings, List.getD_eq_getElem?_getD, ← List.length_map (f := StepGroup.arguments), List.getElem?_concat_length]
    rfl
  have hmappings : ∀ m, s.mappings.set front.length m = front.map StepGroup.arguments ++ [m] := fun m => by
    rw [h.mappings]
    simp
  rw [parseStepEvent, wp_bind, wp_currentStep h, wp_zoom, hread]
  refine wp_assignDottedValue (fun hreturns => ?_) (fun hraises error => ⟨h.handed, ?_⟩)
  · constructor
    · rw [StepGroup.draft, hlabel]
      exact h.steps
    · rw [hmappings, harguments]
    · exact h.tool
    · exact h.address
    · exact h.handed
    · refine compatible_concat h.compatible_front ?_
      rw [hassignments, conflicting_append]
      rintro (hconflict | hconflict | hfalse)
      · exact h.compatible group (by simp) hconflict
      · exact hreturns hconflict
      · exact hfalse
  · exact conflicting_append.mpr (.inr (.inl hraises))

/-- The loop goes on with the events of the group at hand and then with those of the later ones. It stops at the first
argument that conflicts with the earlier ones of its group. -/
theorem represents_events (h : Represents s front group) (events : List StepEvent) :
    wp (parseStepEvents stepFlag events)
      (fun _ after => ∃ front' group', Represents after front' group' ∧
        front' ++ [group'] = front ++ ⟨group.name, group.events ++ (grouped events).1⟩ :: (grouped events).2)
      (fun _ after => after.handed = [] ∧
        ∃ g ∈ ⟨group.name, group.events ++ (grouped events).1⟩ :: (grouped events).2, Conflicting [] g.assignments) s := by
  induction events generalizing s front group with
  | nil => exact ⟨front, group, h, by simp [grouped]⟩
  | cons event rest ih =>
      rw [parseStepEvents, wp_bind]
      cases event with
      | step setup name =>
          have hsteps : s.steps = (front ++ [group]).mapIdx fun index group => group.draft index := by
            rw [h.steps, List.mapIdx_concat]
          have hmappings : s.mappings = (front ++ [group]).map StepGroup.arguments := by
            rw [h.mappings, List.map_append, List.map_singleton]
          refine wp_mono (represents_step hsteps hmappings h.handed h.compatible setup name) (fun _ t ht => ?_)
            fun _ _ hfalse => hfalse.elim
          refine wp_mono (ih ht) (fun _ after hafter => ?_) fun _ after hafter => ?_
          · obtain ⟨front', group', hrepresents, hgroups⟩ := hafter
            exact ⟨front', group', hrepresents, by rw [hgroups]; simp [grouped]⟩
          · obtain ⟨hhanded, g, hg, hconflict⟩ := hafter
            exact ⟨hhanded, g, List.mem_cons_of_mem _ (by simpa [grouped] using hg), hconflict⟩
      | label setup text =>
          refine wp_mono (represents_label h setup text) (fun _ t ht => ?_) fun _ _ hfalse => hfalse.elim
          refine wp_mono (ih ht) (fun _ after hafter => ?_) fun _ after hafter => ?_
          · simpa [grouped] using hafter
          · simpa [grouped] using hafter
      | arg setup path value =>
          refine wp_mono (represents_arg h setup path value) (fun _ t ht => ?_) fun _ after hafter => ?_
          · refine wp_mono (ih ht) (fun _ after hafter => ?_) fun _ after hafter => ?_
            · simpa [grouped] using hafter
            · simpa [grouped] using hafter
          · refine ⟨hafter.1, _, List.mem_cons_self, ?_⟩
            have hassignments : StepGroup.assignments ⟨group.name, group.events ++ (grouped (.arg setup path value :: rest)).1⟩ =
                group.assignments ++ [(path, value)] ++ ((grouped rest).1.filterMap StepEvent.assignment?) := by
              simp [StepGroup.assignments, grouped, StepEvent.assignment?]
            rw [hassignments, conflicting_append]
            exact .inl hafter.2

/-- Some of the events belong to no step, or an argument conflicts with the earlier ones of its step. -/
def Ungroupable (events : List StepEvent) : Prop :=
  (grouped events).1 ≠ [] ∨ ∃ g ∈ (grouped events).2, Conflicting [] g.assignments

theorem parseStepEvents_spec (first : StepEvent) (rest : List StepEvent) :
    wp (parseStepEvents stepFlag (first :: rest))
      (fun _ after => ¬Ungroupable (first :: rest) ∧
        ∃ front group, Represents after front group ∧ front ++ [group] = (grouped (first :: rest)).2)
      (fun _ after => after.handed = [] ∧ Ungroupable (first :: rest)) {} := by
  rw [parseStepEvents, wp_bind]
  cases first with
  | step setup name =>
      have hstep : wp (parseStepEvent stepFlag (.step setup name)) (fun _ after => Represents after [] ⟨name, []⟩)
          (fun _ _ => False) {} :=
        represents_step rfl rfl rfl (by simp) setup name
      refine wp_mono hstep (fun _ t ht => ?_) fun _ _ hfalse => hfalse.elim
      refine wp_mono (represents_events ht rest) (fun _ after hafter => ?_) fun _ after hafter => ?_
      · obtain ⟨front, group, hrepresents, hgroups⟩ := hafter
        have hgroups' : front ++ [group] = (grouped (.step setup name :: rest)).2 := by rw [hgroups]; simp [grouped]
        refine ⟨?_, front, group, hrepresents, hgroups'⟩
        rintro (hbefore | ⟨g, hg, hconflict⟩)
        · exact hbefore rfl
        · exact hrepresents.compatible g (hgroups' ▸ hg) hconflict
      · exact ⟨hafter.1, .inr (by simpa [grouped] using hafter.2)⟩
  | label setup text => exact ⟨rfl, .inl (List.cons_ne_nil _ _)⟩
  | arg setup path value => exact ⟨rfl, .inl (List.cons_ne_nil _ _)⟩

/-! ### The validation -/

/-- What is handed to the validation of a step. -/
def StepGroup.handing (group : StepGroup) : String × Mapping := (group.tool, group.arguments)

/-- The steps made of groups, from an index on, each with the arguments that its validation has returned. -/
inductive ValidatedSteps (models : StepModels) : Nat → List StepGroup → List SessionStepInput → Prop
  | nil (index : Nat) : ValidatedSteps models index [] []
  | cons {index : Nat} {group : StepGroup} {groups : List StepGroup} {arguments : Mapping} {steps : List SessionStepInput}
      (hvalid : validateWorkflowStep models group.tool group.arguments index = .ok arguments)
      (hrest : ValidatedSteps models (index + 1) groups steps) :
      ValidatedSteps models index (group :: groups) (⟨group.tool, group.label, arguments⟩ :: steps)

theorem validateSteps_spec (index : Nat) (drafts : List StepDraft) (groups : List StepGroup)
    (hview : drafts.map (fun d => (d.tool, d.label, s.mappings.getD d.arguments [])) =
      groups.map fun g => (g.tool, g.label, g.arguments)) :
    wp (validateSteps models index drafts)
      (fun steps after => after.handed = s.handed ++ groups.map StepGroup.handing ∧ ValidatedSteps models index groups steps)
      (fun error after => ∃ k group, groups[k]? = some group ∧
        after.handed = s.handed ++ (groups.take (k + 1)).map StepGroup.handing ∧
        validateWorkflowStep models group.tool group.arguments (index + k) = .error error) s := by
  induction drafts generalizing index groups s with
  | nil =>
      cases groups with
      | nil => exact ⟨by simp, .nil index⟩
      | cons group groups => exact nomatch hview
  | cons d drafts ih =>
      cases groups with
      | nil => exact nomatch hview
      | cons group groups =>
          obtain ⟨hhead, htail⟩ := List.cons.inj hview
          obtain ⟨htool, hrest⟩ := Prod.mk.inj hhead
          obtain ⟨hlabel, harguments⟩ := Prod.mk.inj hrest
          rw [validateSteps, wp_bind, wp_gets, wp_bind, wp_modify, wp_bind, wp_ofExcept, htool, hlabel, harguments]
          refine ⟨fun validated hvalid => ?_, fun error herror => ⟨0, group, rfl, rfl, herror⟩⟩
          rw [wp_bind]
          refine wp_mono (ih (s := { s with handed := s.handed ++ [(group.tool, group.arguments)] }) (index + 1) groups htail)
            (fun steps after hafter => ?_) fun error after hafter => ?_
          · refine ⟨?_, .cons hvalid hafter.2⟩
            rw [hafter.1, List.map_cons, List.append_assoc]
            rfl
          · obtain ⟨k, later, hk, hhanded, herror⟩ := hafter
            refine ⟨k + 1, later, hk, ?_, by rwa [Nat.add_right_comm, Nat.add_assoc] at herror⟩
            rw [hhanded, List.take_succ_cons, List.map_cons, List.append_assoc]
            rfl

/-! ### The options of setup steps -/

def StepGroup.normalize (group : StepGroup) : StepGroup := ⟨group.name, group.events.map StepEvent.normalize⟩

theorem grouped_normalize (events : List StepEvent) : grouped (events.map StepEvent.normalize) =
    ((grouped events).1.map StepEvent.normalize, (grouped events).2.map StepGroup.normalize) := by
  induction events with
  | nil => rfl
  | cons event rest ih =>
      cases event <;>
        simp only [List.map_cons, List.map_nil, StepEvent.normalize, grouped, ih, StepGroup.normalize]

@[simp] theorem assignments_normalize (group : StepGroup) : group.normalize.assignments = group.assignments := by
  rw [StepGroup.assignments, StepGroup.normalize, List.filterMap_map, StepGroup.assignments]
  congr 1
  funext event
  cases event <;> rfl

@[simp] theorem label_normalize (group : StepGroup) : group.normalize.label = group.label := by
  rw [StepGroup.label, StepGroup.normalize, List.filterMap_map, StepGroup.label]
  congr 2
  funext event
  cases event <;> rfl

@[simp] theorem arguments_normalize (group : StepGroup) : group.normalize.arguments = group.arguments := by
  rw [StepGroup.arguments, assignments_normalize, StepGroup.arguments]

theorem ungroupable_normalize (events : List StepEvent) :
    Ungroupable (events.map StepEvent.normalize) ↔ Ungroupable events := by
  simp [Ungroupable, grouped_normalize]

/-- Every draft leads to the arguments of its own group. -/
theorem map_drafts (groups : List StepGroup) :
    (groups.mapIdx fun index group => group.draft index).map
        (fun d => (d.tool, d.label, (groups.map StepGroup.arguments).getD d.arguments [])) =
      groups.map fun g => (g.tool, g.label, g.arguments) := by
  apply List.ext_getElem?
  intro index
  rw [List.getElem?_map, List.getElem?_mapIdx, List.getElem?_map]
  cases hgroup : groups[index]? with
  | none => rfl
  | some group => simp [StepGroup.draft, hgroup]

/-- The parse of the events of at least one option. -/
theorem parseStepInputs_spec (models : StepModels) (first : StepEvent) (rest : List StepEvent) (required : Bool)
    (stepFlag : String) :
    wp (parseStepInputs models (some (first :: rest)) required stepFlag)
      (fun steps after => ¬Ungroupable (first :: rest) ∧
        after.handed = (grouped (first :: rest)).2.map StepGroup.handing ∧
        ∃ validated, steps = some validated ∧ ValidatedSteps models 0 (grouped (first :: rest)).2 validated)
      (fun error after => after.handed = [] ∧ Ungroupable (first :: rest) ∨
        ¬Ungroupable (first :: rest) ∧ ∃ k group, (grouped (first :: rest)).2[k]? = some group ∧
          after.handed = ((grouped (first :: rest)).2.take (k + 1)).map StepGroup.handing ∧
          validateWorkflowStep models group.tool group.arguments k = .error error) {} := by
  have hevents : normalizeStepEvents (some (first :: rest)) = some (first.normalize :: rest.map StepEvent.normalize) := rfl
  have hungroupable := ungroupable_normalize (first :: rest)
  have hgroups : (grouped (first.normalize :: rest.map StepEvent.normalize)).2 =
      (grouped (first :: rest)).2.map StepGroup.normalize := by
    rw [← List.map_cons, grouped_normalize]
  rw [List.map_cons] at hungroupable
  rw [parseStepInputs, hevents, wp_bind]
  refine wp_mono (parseStepEvents_spec first.normalize (rest.map StepEvent.normalize)) (fun _ t ht => ?_) fun _ after hafter => ?_
  · obtain ⟨hgroupable, front, group, hrepresents, hall⟩ := ht
    rw [hungroupable] at hgroupable
    have hview : t.steps.map (fun d => (d.tool, d.label, t.mappings.getD d.arguments [])) =
        (grouped (first :: rest)).2.map fun g => (g.tool, g.label, g.arguments) := by
      have hsteps : t.steps = (front ++ [group]).mapIdx fun index group => group.draft index := by
        rw [hrepresents.steps, List.mapIdx_concat]
      have hmappings : t.mappings = (front ++ [group]).map StepGroup.arguments := by
        rw [hrepresents.mappings, List.map_append, List.map_singleton]
      rw [hsteps, hmappings, map_drafts, hall, hgroups, List.map_map]
      refine List.map_congr_left fun g _ => ?_
      simp only [Function.comp_apply, label_normalize, arguments_normalize]
      rfl
    rw [wp_bind, wp_gets, wp_map]
    refine wp_mono (validateSteps_spec 0 t.steps _ hview) (fun steps after hafter => ?_) fun error after hafter => ?_
    · rw [hrepresents.handed, List.nil_append] at hafter
      exact ⟨hgroupable, hafter.1, steps, rfl, hafter.2⟩
    · obtain ⟨k, rejected, hk, hhanded, herror⟩ := hafter
      rw [hrepresents.handed, List.nil_append] at hhanded
      rw [Nat.zero_add] at herror
      exact .inr ⟨hgroupable, k, rejected, hk, hhanded, herror⟩
  · exact .inl ⟨hafter.1, hungroupable.mp hafter.2⟩

/-- The parse fails before it validates a step. -/
def FailsUnvalidated (m : StepM (Option (List SessionStepInput))) : Prop :=
  ∃ error after, m.run {} = (.error error, after) ∧ after.handed = []

/-- Of the events of at least one option, the parse fails before it validates a step exactly when they cannot be grouped.
Otherwise the arguments of the groups are validated in order, those of each group being what its argument events make
from left to right, and if none is rejected there is one step for each group, with its tool and its last label. Without
events, there is an error or no value, as the steps are required or not. -/
theorem step_events_grouped (models : StepModels) (required : Bool) (stepFlag : String) :
    (∀ (first : StepEvent) (rest : List StepEvent),
      (FailsUnvalidated (parseStepInputs models (some (first :: rest)) required stepFlag) ↔ Ungroupable (first :: rest)) ∧
      (¬Ungroupable (first :: rest) →
        (∃ validated after, (parseStepInputs models (some (first :: rest)) required stepFlag).run {} =
            (.ok (some validated), after) ∧ after.handed = (grouped (first :: rest)).2.map StepGroup.handing ∧
          ValidatedSteps models 0 (grouped (first :: rest)).2 validated) ∨
        (∃ error after k group, (parseStepInputs models (some (first :: rest)) required stepFlag).run {} =
            (.error error, after) ∧ (grouped (first :: rest)).2[k]? = some group ∧
          after.handed = ((grouped (first :: rest)).2.take (k + 1)).map StepGroup.handing ∧
          validateWorkflowStep models group.tool group.arguments k = .error error))) ∧
    (∀ events : Option (List StepEvent), events = none ∨ events = some [] →
      (parseStepInputs models events required stepFlag).run {} =
        (if required then .error ⟨s!"At least one {stepFlag} is required"⟩ else .ok none, {})) := by
  refine ⟨fun first rest => ?_, fun events hevents => ?_⟩
  · have hspec := parseStepInputs_spec models first rest required stepFlag
    unfold wp at hspec
    rcases hrun : (parseStepInputs models (some (first :: rest)) required stepFlag).run {} with ⟨error | steps, after⟩ <;>
      rw [hrun] at hspec
    · rcases hspec with ⟨hhanded, hungroupable⟩ | ⟨hgroupable, k, group, hk, hhanded, herror⟩
      · exact ⟨iff_of_true ⟨error, after, hrun, hhanded⟩ hungroupable, fun h => absurd hungroupable h⟩
      · refine ⟨iff_of_false ?_ hgroupable, fun _ => .inr ⟨error, after, k, group, rfl, hk, hhanded, herror⟩⟩
        rintro ⟨error', after', hrun', hempty⟩
        obtain rfl := (Prod.mk.inj (hrun.symm.trans hrun')).2
        rw [hhanded, List.map_eq_nil_iff, List.take_eq_nil_iff] at hempty
        rcases hempty with hzero | hnil
        · exact Nat.succ_ne_zero k hzero
        · rw [hnil] at hk
          exact nomatch hk
    · obtain ⟨hgroupable, hhanded, validated, rfl, hvalidated⟩ := hspec
      refine ⟨iff_of_false ?_ hgroupable, fun _ => .inl ⟨validated, after, rfl, hhanded, hvalidated⟩⟩
      rintro ⟨error, after', herror, -⟩
      exact nomatch (Prod.mk.inj (hrun.symm.trans herror)).1
  · rcases hevents with rfl | rfl <;> cases required <;> rfl

/-- Without events, a required parse fails, although no label and no argument is in front of a step. -/
theorem no_steps_required :
    FailsUnvalidated (parseStepInputs (fun _ => none) (some []) true "--step") ∧ ¬Ungroupable [] := by
  refine ⟨⟨_, _, rfl, rfl⟩, ?_⟩
  rintro (hbefore | ⟨g, hg, -⟩)
  · exact hbefore rfl
  · exact absurd hg List.not_mem_nil

end GdbMcp
