import GdbMcp.InspectionRestored

/-! The context in which an inspection asks its queries. The selects are left out by comparison with the
selection before both of them, so the frame stays at 0 where only the thread was another one. -/

namespace GdbMcp

open Eff

namespace Session

variable {s s' : Session Debugger} {context : Selection}

/-- The selections that the queries behind the two queries of the capture have met. -/
def inspectedAt (s s' : Session Debugger) : List Selection :=
  ((s'.gdb.log.drop (s.gdb.log.length + 2)).filter fun p => !isSelect p.1).map (·.2)

/-- The queries ran, and in the given context. -/
def RanIn (context : Selection) (s s' : Session Debugger) : Prop :=
  inspectedAt s s' ≠ [] ∧ ∀ selection ∈ inspectedAt s s', selection = context

theorem Inspected.inspectedAt_eq (h : Inspected context s s') :
    ∃ n, inspectedAt s s' = List.replicate (n + 1) context := by
  obtain ⟨there, lines, back, hlog, hselects, hne, hlines⟩ := h.log
  have hskip : s'.gdb.log.drop (s.gdb.log.length + 2) = there ++ lines ++ back := by
    rw [hlog]
    exact List.drop_left' (by simp)
  have hnone : ∀ ps : List (String × Selection), (∀ p ∈ ps, isSelect p.1 = true) →
      ps.filter (fun p => !isSelect p.1) = [] := fun ps hps => List.filter_eq_nil_iff.mpr fun p hp => by simp [hps p hp]
  have hall : lines.filter (fun p => !isSelect p.1) = lines :=
    List.filter_eq_self.mpr fun p hp => by simp [(hlines p hp).1]
  rw [List.forall_mem_append] at hselects
  obtain ⟨p, rest, rfl⟩ := List.exists_cons_of_ne_nil hne
  refine ⟨rest.length, ?_⟩
  rw [inspectedAt, hskip, List.filter_append, List.filter_append, hall, hnone there hselects.1,
    hnone back hselects.2, List.nil_append, List.append_nil, List.eq_replicate_iff]
  refine ⟨by simp, fun selection hselection => ?_⟩
  obtain ⟨q, hq, rfl⟩ := List.mem_map.mp hselection
  exact (hlines q hq).2

theorem Inspected.ranIn_iff (h : Inspected context s s') (wanted : Selection) :
    RanIn wanted s s' ↔ context = wanted := by
  obtain ⟨n, hat⟩ := h.inspectedAt_eq
  rw [RanIn, hat]
  constructor
  · rintro ⟨-, hall⟩
    exact hall context (List.mem_replicate.mpr ⟨Nat.succ_ne_zero n, rfl⟩)
  · rintro rfl
    exact ⟨nofun, fun selection hselection => List.eq_of_mem_replicate hselection⟩

end Session

/-- The selects lead to the requested context unless the thread is another one, the frame has the same
number, and that number is not 0. -/
theorem Selection.towards_eq_iff (home : Selection) (t f : Int) :
    home.towards (some t) (some f) = { thread := t, frame := f } ↔
      ¬(t ≠ home.thread ∧ f = home.frame ∧ f ≠ 0) := by
  obtain ⟨t₀, f₀⟩ := home
  rw [towards, Option.elim_some, Option.elim_some]
  by_cases hf : f = f₀
  · rw [if_pos hf]
    by_cases ht : t = t₀
    · simp [ht, hf]
    · rw [if_neg ht, Selection.mk.injEq]
      simp only [true_and, ne_eq, ht, not_false_eq_true, hf]
      omega
  · rw [if_neg hf]
    by_cases ht : t = t₀
    · simp [ht, hf]
    · simp [ht, hf]

/-- An inspection that succeeds has asked its queries in the requested context if and only if the switch
of the thread has not reset the requested frame. -/
theorem inspection_runs_in_requested_context_iff (op : Inspection) {t f : Int} (hop : op.Requests t f)
    {s : Session Debugger} (hreports : Reports s.gdb.answers s.gdb.selection)
    (hs : s.runtime.hasController = true) :
    wp op.perform
      (fun result s' => result.isSuccess = true →
        (Session.RanIn { thread := t, frame := f } s s' ↔
          ¬(t ≠ s.gdb.selection.thread ∧ f = s.gdb.selection.frame ∧ f ≠ 0)))
      (fun _ _ => True) s := by
  refine wp_mono (op.wp_perform hreports hs) (fun result s' ⟨_, hinspected⟩ hsuccess => ?_) fun _ _ h => h
  rw [(hinspected t f hop hsuccess).ranIn_iff, Selection.towards_eq_iff]

theorem inspection_runs_in_requested_context_iff_otherFrame :
    wp (Inspection.evaluateExpression "total" (some 2) (some 3)).perform
      (fun result s' => result.isSuccess = true →
        (Session.RanIn { thread := 2, frame := 3 } (reportingSession { thread := 1, frame := 0 }) s' ↔
          ¬((2 : Int) ≠ 1 ∧ (3 : Int) = 0 ∧ (3 : Int) ≠ 0)))
      (fun _ _ => True) (reportingSession { thread := 1, frame := 0 }) :=
  inspection_runs_in_requested_context_iff (.evaluateExpression "total" (some 2) (some 3)) ⟨rfl, rfl⟩
    (s := reportingSession { thread := 1, frame := 0 }) (reports_reportingSelection _) rfl

/-- Frame 3 of thread 2 is asked for in frame 3 of thread 1, and the expression is evaluated in frame 0 of
thread 2. -/
theorem same_frame_of_other_thread_not_selected :
    Reports (reportingSession { thread := 1, frame := 3 }).gdb.answers { thread := 1, frame := 3 } ∧
      ¬wp (Inspection.evaluateExpression "total" (some 2) (some 3)).perform
        (fun result s' => result.isSuccess = true →
          Session.RanIn { thread := 2, frame := 3 } (reportingSession { thread := 1, frame := 3 }) s')
        (fun _ _ => True) (reportingSession { thread := 1, frame := 3 }) := by
  refine ⟨reports_reportingSelection _, fun h => ?_⟩
  have hran : Session.RanIn { thread := 2, frame := 3 } _ _ := h rfl
  exact absurd (hran.2 { thread := 2, frame := 0 } (by decide +kernel)) (by decide)

end GdbMcp
