import GdbMcp.InferiorOperations
import GdbMcp.RuntimeSelection
import GdbMcp.SessionAnswers

/-! A debugger with a selected inferior, and what a command to it does to that selection and to the current inferior of
the session. -/

namespace GdbMcp

open Eff

/-- The notification leaves the current inferior alone: it is no stop, and no thread group is removed by it. -/
def MiNotifyRecord.isCalm (n : MiNotifyRecord) : Bool := !n.isStop && n.message != some "thread-group-removed"

/-- A record that may come before a result: no result, no fatal text, a console record of no other command, and news
that leave the current inferior alone. -/
structure MiRecord.Calm (r : MiRecord) : Prop where
  notResult : r.type ≠ .result
  notFatal : r.isFatal = false
  stream : r.type = .console → r.token = none
  calm : ∀ n, r.notification = some n → n.isCalm = true

/-- The answer to one command: `^done` or `^error`, with its payload and the records before it. -/
structure InferiorAnswer where
  accepted : Bool := true
  payload : Value := .dict []
  others : List MiRecord := []
  calm : ∀ r ∈ others, r.Calm := by nofun

/-- The inferior that a command line selects. -/
def selectedBy (line : String) : Option Int :=
  let opening := "-interpreter-exec console \"inferior "
  if PyStr.startswith line opening then PyStr.readInt (line.toList.drop opening.toList.length).dropLast else none

/-- A debugger. The field `answers` says how it answers a command, given the number of commands before it and the
selected inferior. -/
structure InferiorDebugger where
  answers : Nat → String → Int → InferiorAnswer
  selection : Int
  count : Nat := 0
  pending : List MiRecord := []

namespace InferiorAnswer

def result (answer : InferiorAnswer) (token : Nat) : MiRecord where
  type := .result
  token := some token
  message := some (if answer.accepted then "done" else "error")
  payload := answer.payload

/-- The console output of a command, as the runner returns it. -/
def output (answer : InferiorAnswer) : String :=
  let text := streamText ((answer.others.filter (·.type == .console)).map MiRecord.payload)
  if text = "" then "(no output)" else PyStr.strip text

end InferiorAnswer

namespace InferiorDebugger

def answer (d : InferiorDebugger) (line : String) : InferiorAnswer := d.answers d.count line d.selection

/-- The debugger once it has answered a command: an accepted `inferior N` selects the inferior. -/
def asked (d : InferiorDebugger) (line : String) : InferiorDebugger :=
  { d with
    selection := if (d.answer line).accepted then (selectedBy line).getD d.selection else d.selection
    count := d.count + 1
    pending := [] }

end InferiorDebugger

/-- A debugger process that stays alive, and answers every command in one batch. -/
instance : Gdb InferiorDebugger where
  spawn _ _ d := (.ok (), d)
  connect _ d := (.ok (), d)
  exit d := (.ok (), d)
  write token line d := (.ok (), { d.asked line with pending := (d.answer line).others ++ [(d.answer line).result token] })
  polls _ d := ([{ read := .ok d.pending }], { d with pending := [] })
  liveness d := (.running, d)
  hasProcess _ := true
  kill d := (.ok (), d)
  environ _ := fun _ => none
  isdir _ := fun _ => true
  time d := (0, d)

/-! ### The notifications of an answer -/

open SessionRuntime

/-- A calm notification leaves the current inferior and the client. -/
theorem scanNotify_calm {notify : MiNotifyRecord} (hcalm : notify.isCalm = true) {scan : StopScan} (hscan : scan.stop = none)
    {c : Int} {rt : SessionRuntime} (hc : rt.currentInferiorId = some c) :
    wp (scanNotify scan notify)
      (fun scan' rt' => scan'.stop = none ∧ rt'.currentInferiorId = some c ∧ rt'.transport = rt.transport)
      (fun _ _ => True) rt := by
  have hensure : ∀ k, (rt.ensureInferior k).currentInferiorId = some c ∧ (rt.ensureInferior k).transport = rt.transport :=
    fun k => ⟨(congrArg Prod.fst (selection_ensureInferior rt k)).trans hc, congrArg (·.2.2.1) (frame_ensureInferior rt k)⟩
  have hmark : ∀ k state, (rt.updateInferiorState k state).currentInferiorId = some c ∧
      (rt.updateInferiorState k state).transport = rt.transport := by
    intro k state
    refine ⟨?_, congrArg (·.2.2.1) (frame_updateInferiorState rt k state)⟩
    rw [currentInferiorId_updateInferiorState, hc, Option.getD_some]
  unfold scanNotify
  extract_lets fields
  split <;> rename_i hmessage
  · rw [wp_bind, wp_ofExcept]
    refine ⟨fun id _ => ?_, fun _ _ => trivial⟩
    cases id with
    | none => exact ⟨hscan, hc, rfl⟩
    | some k => exact ⟨hscan, hensure k⟩
  · rw [wp_bind, wp_ofExcept]
    refine ⟨fun id _ => ?_, fun _ _ => trivial⟩
    cases id with
    | none => exact ⟨hscan, hc, rfl⟩
    | some k => exact ⟨hscan, hmark _ _⟩
  · rw [wp_bind, wp_ofExcept]
    refine ⟨fun id _ => ?_, fun _ _ => trivial⟩
    rw [wp_bind, wp_ofExcept]
    exact ⟨fun code _ => ⟨hscan, hmark _ _⟩, fun _ _ => trivial⟩
  · simp [MiNotifyRecord.isCalm, hmessage] at hcalm
  · simp [MiNotifyRecord.isCalm, MiNotifyRecord.isStop, hmessage] at hcalm
  · exact ⟨hscan, hc, rfl⟩

theorem scanNotifies_calm {notifies : List MiNotifyRecord} (hcalm : ∀ n ∈ notifies, n.isCalm = true) {scan : StopScan}
    (hscan : scan.stop = none) {c : Int} {rt : SessionRuntime} (hc : rt.currentInferiorId = some c) :
    wp (scanNotifies scan notifies)
      (fun scan' rt' => scan'.stop = none ∧ rt'.currentInferiorId = some c ∧ rt'.transport = rt.transport)
      (fun _ _ => True) rt := by
  induction notifies generalizing scan rt with
  | nil => exact ⟨hscan, hc, rfl⟩
  | cons notify rest ih =>
      obtain ⟨hhead, hrest⟩ := List.forall_mem_cons.mp hcalm
      rw [scanNotifies, wp_bind]
      refine wp_mono (scanNotify_calm hhead hscan hc) (fun scan₁ rt₁ h₁ => ?_) fun _ _ h => h
      obtain ⟨hscan₁, hc₁, htransport⟩ := h₁
      rw [← htransport]
      exact ih hrest hscan₁ hc₁

end GdbMcp
