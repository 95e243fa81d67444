import GdbMcp.RunnerMutators
import GdbMcp.SessionExchange
import GdbMcp.SessionFailedStart

/-! How an operation leaves a session whose controller was attached: with its debugger, torn down, or
with a debugger that was lost on a way that tears nothing down. -/

namespace GdbMcp

open Eff

/-- How a computation may meet the loss of its debugger: the process is found to be gone, an exchange of
its own is lost, or the exchange of an inventory refresh is. An exception in leaving the transport may be
swallowed. -/
structure Losses where
  gone : Prop := False
  own : Prop := False
  refresh : Prop := False
  swallowed : Prop := False

structure Losses.Le (l l' : Losses) : Prop where
  gone : l.gone → l'.gone
  own : l.own → l'.own
  refresh : l.refresh → l'.refresh
  swallowed : l.swallowed → l'.swallowed

instance : LE Losses := ⟨Losses.Le⟩

/-- The losses that a round of the script has in store for a command. -/
def Script.roundLosses (script : Script) (k : Nat) : Losses where
  gone := (script.rounds k).status.alive = false
  own := ∃ token, (script.rounds k).own.Lost token
  refresh := ∃ token, (script.rounds k).refresh.Lost token

namespace Session

/-- The round that the next liveness check begins. -/
def round (s : Session Scripted) : Round := s.gdb.script.rounds s.gdb.nextRound

def inRound (s : Session Scripted) : Session Scripted :=
  { s with gdb := { s.gdb with
      nextRound := s.gdb.nextRound + 1, queue := [s.round.own, s.round.refresh] } }

/-- Neither the script nor the life cycle of the session has moved. -/
structure Steady (s s' : Session Scripted) : Prop extends SameRound s s' where
  queue : s'.gdb.queue = s.gdb.queue
  life : s'.runtime.life = s.runtime.life

instance : Std.Refl Steady := ⟨fun _ => ⟨⟨rfl, rfl⟩, rfl, rfl⟩⟩

instance : IsTrans (Session Scripted) Steady := ⟨fun _ _ _ h h' =>
  ⟨⟨h'.script.trans h.script, h'.nextRound.trans h.nextRound⟩, h'.queue.trans h.queue,
    h'.life.trans h.life⟩⟩

section Steady

variable {α : Type} {s s' : Session Scripted}

theorem Steady.transport (h : Steady s s') : s'.runtime.transport = s.runtime.transport :=
  congrArg (fun life => life.2.2) h.life

theorem Steady.state (h : Steady s s') : s'.runtime.state = s.runtime.state :=
  congrArg Prod.fst h.life

theorem Steady.isRunning (h : Steady s s') : s'.runtime.isRunning = s.runtime.isRunning :=
  congrArg (fun life => life.2.1) h.life

theorem Steady.hasController (h : Steady s s') : s'.runtime.hasController = s.runtime.hasController :=
  congrArg (fun client => client.controller.isSome) h.transport

theorem steady_onRuntime {m : RuntimeM α} (hm : KeepsLife m) : Within Steady (onRuntime m : SessionM Scripted α) := by
  refine ⟨fun s => ?_⟩
  rw [onRuntime, wp_zoom]
  exact wp_mono (hm.outcome s.runtime) (fun _ _ h => ⟨⟨rfl, rfl⟩, rfl, h⟩) fun _ _ h => ⟨⟨rfl, rfl⟩, rfl, h⟩

theorem steady_update {f : SessionRuntime → SessionRuntime} (hf : ∀ rt, (f rt).life = rt.life) :
    Within Steady (update f : SessionM Scripted Unit) := steady_onRuntime (Within.modify hf)

theorem steady_time : Within Steady (time : SessionM Scripted Nat) :=
  ⟨fun _ => ⟨⟨rfl, rfl⟩, rfl, rfl⟩⟩

theorem steady_recordTranscript (entry : CommandTranscriptEntry) :
    Within Steady (recordTranscript entry : SessionM Scripted Unit) :=
  steady_time.bind fun _ => steady_update fun _ => rfl

end Steady

/-- The state of the life cycle is the one of `s`. -/
structure Kept (s s' : Session Scripted) : Prop extends SameRound s s' where
  state : s'.runtime.state = s.runtime.state
  isRunning : s'.runtime.isRunning = s.runtime.isRunning

theorem Kept.trans {s s₁ s₂ : Session Scripted} (h : Kept s s₁) (h' : Kept s₁ s₂) : Kept s s₂ :=
  ⟨⟨h'.script.trans h.script, h'.nextRound.trans h.nextRound⟩, h'.state.trans h.state,
    h'.isRunning.trans h.isRunning⟩

theorem Steady.kept {s s' : Session Scripted} (h : Steady s s') : Kept s s' :=
  ⟨h.toSameRound, h.state, h.isRunning⟩

/-- How a computation leaves a session with a controller, and how it ends: in a value, of which we keep
whether it may be a success, or in a raise. -/
inductive Leaves (losses : Losses) (s s' : Session Scripted) : Option Bool → Prop
  | attached {ending : Option Bool} (kept : Kept s s') (attached : s'.runtime.hasController = true) :
      Leaves losses s s' ending
  | tornDown {ending : Option Bool} (failed : ending ≠ some true) (script : s'.gdb.script = s.gdb.script)
      (cause : losses.gone ∨ (losses.own ∧ s.gdb.script.exited = .ok ())) (down : s'.runtime.TornDown) :
      Leaves losses s s' ending
  | exitRaised {ending : Option Bool} (raised : ending = none ∨ (ending = some false ∧ losses.swallowed))
      (kept : Kept s s') (detached : s'.runtime.hasController = false)
      (lost : losses.own ∨ losses.refresh) (exited : ∃ e, s.gdb.script.exited = .error e) :
      Leaves losses s s' ending
  | refreshLost {ending : Option Bool} (script : s'.gdb.script = s.gdb.script)
      (detached : s'.runtime.hasController = false) (lost : losses.refresh)
      (exited : s.gdb.script.exited = .ok ()) (state : s'.runtime.state = .failed)
      (isRunning : s'.runtime.isRunning = false) : Leaves losses s s' ending

section Leaves

variable {losses losses' : Losses} {s s₁ s₂ : Session Scripted} {ending : Option Bool}
variable {α β : Type}

theorem Leaves.refl (hs : s.runtime.hasController = true) : Leaves losses s s ending :=
  .attached ⟨⟨rfl, rfl⟩, rfl, rfl⟩ hs

theorem Leaves.raised (h : Leaves losses s s₁ ending) : Leaves losses s s₁ none := by
  cases h with
  | attached kept attached => exact .attached kept attached
  | tornDown failed script cause down => exact .tornDown nofun script cause down
  | exitRaised raised kept detached lost exited => exact .exitRaised (.inl rfl) kept detached lost exited
  | refreshLost script detached lost exited state isRunning =>
      exact .refreshLost script detached lost exited state isRunning

theorem Leaves.mono (h : Leaves losses s s₁ ending) (hle : losses ≤ losses') :
    Leaves losses' s s₁ ending := by
  obtain ⟨hgone, hown, hrefresh, hswallowed⟩ := hle
  cases h with
  | attached kept attached => exact .attached kept attached
  | tornDown failed script cause down =>
      exact .tornDown failed script (cause.imp hgone (And.imp_left hown)) down
  | exitRaised raised kept detached lost exited =>
      exact .exitRaised (raised.imp_right (And.imp_right hswallowed)) kept detached
        (lost.imp hown hrefresh) exited
  | refreshLost script detached lost exited state isRunning =>
      exact .refreshLost script detached (hrefresh lost) exited state isRunning

/-- What follows a step that keeps the life cycle, seen from before that step. -/
theorem Leaves.of_kept (h : Kept s s₁) (h' : Leaves losses s₁ s₂ ending) : Leaves losses s s₂ ending := by
  have hscript := h.script
  cases h' with
  | attached kept attached => exact .attached (h.trans kept) attached
  | tornDown failed script cause down => exact .tornDown failed (script.trans hscript) (hscript ▸ cause) down
  | exitRaised raised kept detached lost exited =>
      exact .exitRaised raised (h.trans kept) detached lost (hscript ▸ exited)
  | refreshLost script detached lost exited state isRunning =>
      exact .refreshLost (script.trans hscript) detached lost (hscript ▸ exited) state isRunning

/-- What may still return a success may go on with any step that is steady. -/
theorem Leaves.steady (h : Leaves losses s s₁ (some true)) (h' : Steady s₁ s₂) : Leaves losses s s₂ ending := by
  cases h with
  | attached kept attached => exact .attached (kept.trans h'.kept) (h'.hasController.trans attached)
  | tornDown failed => exact absurd rfl failed
  | exitRaised raised => simp at raised
  | refreshLost script detached lost exited state isRunning =>
      exact .refreshLost (h'.script.trans script) (h'.hasController.trans detached) lost exited
        (h'.state.trans state) (h'.isRunning.trans isRunning)

/-- However the computation ends, it leaves the session in a way that fits its value; a raise is no
success. -/
def Leaving (losses : Losses) (good : α → Bool) (m : SessionM Scripted α)
    (s : Session Scripted) : Prop :=
  wp m (fun a s' => Leaves losses s s' (some (good a))) (fun _ s' => Leaves losses s s' none) s

variable {good : α → Bool}

theorem Leaving.after {m : SessionM Scripted β} {next : β → SessionM Scripted α} (hm : Within Steady m)
    (hs : s.runtime.hasController = true)
    (hnext : ∀ b s₁, Steady s s₁ → Leaving losses good (next b) s₁) :
    Leaving losses good (m >>= next) s := by
  rw [Leaving, wp_bind]
  refine wp_mono (hm.outcome s) (fun b s₁ h => ?_) fun e s₁ h => (Leaves.refl hs).steady h
  exact wp_mono (hnext b s₁ h) (fun _ _ h' => h'.of_kept h.kept) fun _ _ h' => h'.of_kept h.kept

theorem Leaving.steady {m : SessionM Scripted α} (hm : Within Steady m) (hs : s.runtime.hasController = true) :
    Leaving losses good m s :=
  wp_mono (hm.outcome s) (fun _ _ h => (Leaves.refl hs).steady h) fun _ _ h => (Leaves.refl hs).steady h

theorem Leaving.then {m : SessionM Scripted β} {next : β → SessionM Scripted α}
    (hm : Leaving losses (fun _ => true) m s) (hnext : ∀ b, Within Steady (next b)) :
    Leaving losses good (m >>= next) s := by
  rw [Leaving, wp_bind]
  refine wp_mono hm (fun b s₁ h => ?_) fun e s₁ h => h
  exact wp_mono ((hnext b).outcome s₁) (fun _ _ h' => h.steady h') fun _ _ h' => h.steady h'

end Leaves

/-! ### The update behind a command -/

variable {s : Session Scripted}

theorem kept_exchanged (s : Session Scripted) (command : String) : Kept s (s.exchanged command) :=
  ⟨⟨rfl, rfl⟩, rfl, rfl⟩

theorem kept_windowed (s : Session Scripted) : Kept s s.windowed := ⟨⟨rfl, rfl⟩, rfl, rfl⟩

theorem OnlyClient.kept {s' : Session Scripted} (h : OnlyClient s s') : Kept s s' := by
  obtain ⟨client, hclient⟩ := h.runtime
  exact ⟨h.toSameRound, hclient ▸ rfl, hclient ▸ rfl⟩

/-- A raise has changed nothing but the client. -/
theorem OnlyClient.leaves {s' : Session Scripted} {losses : Losses} {ending : Option Bool}
    (h : OnlyClient s s') (hraised : ending = none ∨ (ending = some false ∧ losses.swallowed))
    (hcontroller : s'.runtime.hasController = true ∨
      ((losses.own ∨ losses.refresh) ∧ ∃ e, s.gdb.script.exited = .error e)) : Leaves losses s s' ending := by
  cases hattached : s'.runtime.hasController with
  | true => exact .attached h.kept hattached
  | false =>
      obtain ⟨hlost, hexited⟩ := hcontroller.resolve_left (by simp [hattached])
      exact .exitRaised hraised h.kept hattached hlost hexited

/-- The refresh that the next command would be is lost. -/
def refreshLosses (s : Session Scripted) : Losses where
  refresh := ∃ token, s.nextExchange.Lost token

theorem steady_read {α : Type} (f : SessionRuntime → α) : Within Steady (read f : SessionM Scripted α) :=
  Within.gets _

theorem steady_applyInventory (result : MiTransportResponse) :
    Within Steady (applyInventory result : SessionM Scripted Unit) := by
  unfold applyInventory
  refine Within.ite (Within.pure _) ((steady_read _).bind fun current => ?_)
  exact (steady_onRuntime (Within.ofExcept _)).bind fun payload =>
    steady_update fun rt =>
      SessionRuntime.life_eq_of_frame_eq (SessionRuntime.frame_updateInferiorInventory rt _ _ _)

/-- The refresh of the inventory returns whatever happens to its exchange, unless leaving the transport
raises. -/
theorem refresh_leaves (hs : s.runtime.hasController = true) :
    Leaving s.refreshLosses (fun _ => true) refreshInferiorInventoryFromGdb s := by
  have hinventory := fun result => (steady_applyInventory result).outcome
  rw [Leaving, refreshInferiorInventoryFromGdb, wp_bind, hasController, read, wp_gets, if_pos hs, wp_bind]
  refine wp_send hs (fun hanswered => ?_) (fun r s' hlost hexited herror hs' => ?_)
    (fun e s' _ hs' hcontroller => ?_)
  · have hkept := kept_exchanged s (wrapCliCommand "info inferiors")
    exact wp_mono (hinventory _ _) (fun _ _ h => (Leaves.attached hkept hs).steady h)
      fun _ _ h => (Leaves.attached hkept hs).steady h
  · obtain ⟨client, message, hruntime⟩ := hs'.runtime
    have hgone : ∀ s₁, Steady s' s₁ →
        Leaves s.refreshLosses s s₁ (some true) := fun s₁ h =>
      (Leaves.refreshLost hs'.script (by rw [hruntime]; rfl) ⟨_, hlost⟩ hexited (by rw [hruntime]; rfl)
        (by rw [hruntime]; rfl) : Leaves s.refreshLosses s s' (some true)).steady h
    exact wp_mono (hinventory r s') (fun _ s₁ h => hgone s₁ h) fun _ s₁ h => (hgone s₁ h).raised
  · exact hs'.leaves (.inl rfl) (hcontroller.imp_right fun h => ⟨.inr ⟨_, h.1⟩, h.2⟩)

/-- The update behind a command loses the debugger in the refresh at most. -/
theorem update_leaves (hs : s.runtime.hasController = true) (command : String) (parsed : ParsedMiResponse) :
    Leaving s.refreshLosses (fun _ => true)
      (updateRuntimeAfterCommand command parsed) s := by
  refine Leaving.after (steady_onRuntime (quiet_scanNotifies _ _).keepsLife) hs fun scan s₁ h₁ => ?_
  have hs₁ : s₁.runtime.hasController = true := h₁.hasController.trans hs
  have hlosses : s₁.refreshLosses = s.refreshLosses := by
    rw [refreshLosses, nextExchange, h₁.queue, refreshLosses, nextExchange]
  have htext : QuietUpdate (fun _ => False) (applyCommandText command parsed) :=
    quiet_applyCommandText command parsed
  refine Leaving.then ?_ fun _ => steady_onRuntime htext.keepsLife
  unfold applyScan
  cases scan.stop with
  | none =>
      exact Leaving.steady (Within.ite (steady_update fun rt => SessionRuntime.life_apply rt (m := .markInferiorRunning _) rfl)
        (Within.pure _)) hs₁
  | some stop =>
      have hrefresh : Leaving s.refreshLosses (fun _ => true)
          (if scan.sawInferiorTopologyChange then refreshInferiorInventoryFromGdb else pure ()) s₁ := by
        split
        · exact hlosses ▸ refresh_leaves hs₁
        · exact Leaving.steady (Within.pure _) hs₁
      exact hrefresh.then fun _ => steady_time.bind fun now =>
        steady_update fun rt => SessionRuntime.life_applyStop rt _ _ _

/-! ### Commands -/

/-- A steady step that leaves a torn down session torn down. -/
structure Noted (s s' : Session Scripted) : Prop extends Steady s s' where
  tornDown : s.runtime.TornDown → s'.runtime.TornDown

instance : Std.Refl Noted := ⟨fun s => ⟨refl_of Steady s, id⟩⟩

instance : IsTrans (Session Scripted) Noted :=
  ⟨fun _ _ _ h h' => ⟨trans_of Steady h.toSteady h'.toSteady, h'.tornDown ∘ h.tornDown⟩⟩

theorem noted_recordTranscript (entry : CommandTranscriptEntry) :
    Within Noted (recordTranscript entry : SessionM Scripted Unit) :=
  ⟨fun s => ⟨(steady_recordTranscript entry).outcome s, fun h =>
    { h with }⟩⟩

/-- The end of an operation that has failed already. -/
theorem Leaves.noted {losses : Losses} {ending : Option Bool} {s s₁ s₂ : Session Scripted}
    (h : Leaves losses s s₁ ending) (h' : Noted s₁ s₂) : Leaves losses s s₂ ending := by
  cases h with
  | attached kept attached => exact .attached (kept.trans h'.kept) (h'.hasController.trans attached)
  | tornDown failed script cause down =>
      exact .tornDown failed (h'.script.trans script) cause (h'.tornDown down)
  | exitRaised raised kept detached lost exited =>
      exact .exitRaised raised (kept.trans h'.kept) (h'.hasController.trans detached) lost exited
  | refreshLost script detached lost exited state isRunning =>
      exact .refreshLost (h'.script.trans script) (h'.hasController.trans detached) lost exited
        (h'.state.trans state) (h'.isRunning.trans isRunning)

theorem settleTimeout_leaves (hs : s.runtime.hasController = true) (command : String) (timeoutSec : Nat)
    (allowRunningTimeout : Bool) (parsed : ParsedMiResponse) :
    Leaving s.refreshLosses OperationResult.isSuccess
      (settleTimeout command timeoutSec allowRunningTimeout parsed) s := by
  refine Leaving.then (update_leaves hs command parsed) fun _ => (steady_read _).bind fun state => ?_
  exact Within.ite ((steady_recordTranscript _).bind fun _ => Within.pure _)
    ((steady_recordTranscript _).bind fun _ => Within.pure _)

theorem settleAnswer_leaves (hs : s.runtime.hasController = true) (command : String)
    (parsed : ParsedMiResponse) :
    Leaving s.refreshLosses OperationResult.isSuccess
      (settleAnswer command parsed) s := by
  unfold settleAnswer
  extract_lets entry
  split
  · exact Leaving.steady ((steady_recordTranscript _).bind fun _ => Within.pure _) hs
  · exact Leaving.then (update_leaves hs command parsed) fun _ =>
      (steady_recordTranscript _).bind fun _ => Within.pure _

/-- A liveness check begins the next round. -/
theorem wp_isGdbAlive {Q : Bool → Session Scripted → Prop} {R : PyError → Session Scripted → Prop}
    (hs : s.runtime.hasController = true) : wp isGdbAlive Q R s ↔ Q s.round.status.alive s.inRound := by
  rw [isGdbAlive, onChannel, wp_zoom, MiClient.isAlive, wp_bind, MiClient.hasController, wp_gets]
  rw [if_pos (show s.channel.client.controller.isSome = true from hs)]
  rfl

/-- The runtime of a session whose debugger process is gone. -/
theorem tornDown_markTransportTerminated (rt : SessionRuntime) (message : String) :
    (rt.markTransportTerminated message).TornDown := SessionRuntime.tornDown_markFailed rfl message

theorem handleDeadTransport_leaves {losses : Losses} (hgone : losses.gone) (message : String) :
    wp (handleDeadTransport message) (fun _ s' => Leaves losses s s' (some false))
      (fun _ s' => Leaves losses s s' none) s :=
  .tornDown nofun rfl (.inl hgone) (tornDown_markTransportTerminated _ _)

theorem Terminated.leaves {losses : Losses} {s s' : Session Scripted} (h : Terminated s s')
    (hown : losses.own) (hexited : s.gdb.script.exited = .ok ()) : Leaves losses s s' (some false) := by
  obtain ⟨client, message, hruntime⟩ := h.runtime
  exact .tornDown nofun h.script (.inr ⟨hown, hexited⟩)
    (hruntime ▸ tornDown_markTransportTerminated _ _)

/-- A command that fails without an answer is noted and reported. -/
theorem reported_leaves {α : Type} {losses : Losses} {s s' : Session Scripted}
    (h : Leaves losses s s' (some false)) (entry : CommandTranscriptEntry) {result : OperationResult α}
    (hresult : result.isSuccess = false) :
    wp (recordTranscript entry >>= fun _ => pure result)
      (fun r t => Leaves losses s t (some r.isSuccess)) (fun _ t => Leaves losses s t none) s' := by
  rw [wp_bind]
  refine wp_mono ((noted_recordTranscript entry).outcome s') (fun _ t ht => ?_)
    fun _ t ht => (h.noted ht).raised
  rw [wp_pure, hresult]
  exact h.noted ht

/-- A wait for the debugger: it returns a response without an error from the exchange at the head of the
queue, or an error. -/
def Waits (losses : Losses) (m : SessionM Scripted MiTransportResponse) (s : Session Scripted) : Prop :=
  wp m
    (fun result s' =>
      (result.error = none ∧ Kept s s' ∧ s'.runtime.hasController = true ∧ s'.gdb.queue = s.gdb.queue.tail) ∨
        ((∃ message, result.error = some message) ∧ Leaves losses s s' (some false)))
    (fun _ s' => Leaves losses s s' none) s

theorem waits_send (hs : s.runtime.hasController = true) (command : String) (timeoutSec : Nat) :
    Waits { own := ∃ token, s.nextExchange.Lost token } (sendCommandAndWaitForPrompt command timeoutSec) s := by
  refine wp_send hs (fun _ => ?_) (fun r s' hlost hexited herror hs' => ?_) fun e s' _ hs' hcontroller => ?_
  · exact .inl ⟨rfl, kept_exchanged s command, hs, rfl⟩
  · exact .inr ⟨Option.isSome_iff_exists.mp herror, hs'.leaves ⟨_, hlost⟩ hexited⟩
  · exact hs'.leaves (.inl rfl) (hcontroller.imp_right fun h => ⟨.inl ⟨_, h.1⟩, h.2⟩)

theorem waits_waitForStop (hs : s.runtime.hasController = true) (timeoutSec : Nat) :
    Waits { own := s.WindowLost } (waitForStopNotification timeoutSec) s := by
  refine wp_waitForStopNotification hs (fun _ => ?_) (fun r s' hlost hexited herror hs' => ?_)
    fun e s' hs' hcontroller => ?_
  · exact .inl ⟨rfl, kept_windowed s, hs, rfl⟩
  · exact .inr ⟨Option.isSome_iff_exists.mp herror, hs'.leaves hlost hexited⟩
  · exact hs'.leaves (.inl rfl) (hcontroller.imp_right fun h => ⟨.inl h.1, h.2⟩)

theorem waits_interrupt (hs : s.runtime.hasController = true) (timeoutSec : Nat) :
    Waits { own := s.WindowLost, swallowed := True } (interruptAndWaitForStop timeoutSec) s := by
  refine wp_interruptAndWaitForStop hs (fun _ _ => ?_) (fun r s' hlost hexited herror hs' => ?_)
    fun r s' herror hs' hcontroller => ?_
  · exact .inl ⟨rfl, kept_windowed s, hs, rfl⟩
  · exact .inr ⟨Option.isSome_iff_exists.mp herror, hs'.leaves hlost hexited⟩
  · exact .inr ⟨Option.isSome_iff_exists.mp herror,
      hs'.leaves (.inr ⟨rfl, trivial⟩) (hcontroller.imp_right fun h => ⟨.inl h.1, h.2⟩)⟩

/-- What settles the response of a wait in a round: an error is noted and reported. -/
theorem Waits.settle {α : Type} {lost losses : Losses} {m : SessionM Scripted MiTransportResponse}
    {next : MiTransportResponse → SessionM Scripted (OperationResult α)} {own refresh : Exchange}
    (hm : Waits lost m s) (hqueue : s.gdb.queue = [own, refresh]) (hle : lost ≤ losses)
    (hrefresh : (∃ token, refresh.Lost token) → losses.refresh)
    (hanswered : ∀ result s₁, result.error = none → s₁.runtime.hasController = true →
      Leaving s₁.refreshLosses OperationResult.isSuccess (next result) s₁)
    (hfailed : ∀ result message, result.error = some message → ∃ entry failure,
      failure.isSuccess = false ∧ next result = recordTranscript entry >>= fun _ => pure failure) :
    Leaving losses OperationResult.isSuccess (m >>= next) s := by
  rw [Leaving, wp_bind]
  refine wp_mono hm (fun result s₁ h => ?_) fun _ _ h => h.mono hle
  rcases h with ⟨hresult, hkept, hs₁, hqueue₁⟩ | ⟨⟨message, hmessage⟩, hleaves⟩
  · have hnext : s₁.nextExchange = refresh := by rw [nextExchange, hqueue₁, hqueue]; rfl
    have hle₁ : s₁.refreshLosses ≤ losses :=
      ⟨False.elim, False.elim, fun ⟨token, h⟩ => hrefresh ⟨token, hnext ▸ h⟩, False.elim⟩
    exact wp_mono (hanswered result s₁ hresult hs₁)
      (fun _ _ h => (h.of_kept hkept).mono hle₁) fun _ _ h => (h.of_kept hkept).mono hle₁
  · obtain ⟨entry, failure, hfailure, heq⟩ := hfailed result message hmessage
    rw [heq]
    exact reported_leaves (hleaves.mono hle) entry hfailure

theorem settleCommand_leaves (hs : s.runtime.hasController = true) (command : String) (timeoutSec : Nat)
    (allowRunningTimeout : Bool) {result : MiTransportResponse} (hresult : result.error = none) :
    Leaving s.refreshLosses OperationResult.isSuccess
      (settleCommand command timeoutSec allowRunningTimeout result) s := by
  simp only [settleCommand, hresult]
  split
  · exact settleTimeout_leaves hs _ _ _ _
  · exact settleAnswer_leaves hs _ _

/-- The losses that the next round has in store. -/
def roundLosses (s : Session Scripted) : Losses := s.gdb.script.roundLosses s.gdb.nextRound

theorem executeCommandResult_leaves (hs : s.runtime.hasController = true) (command : String)
    (timeoutSec : Nat) (allow : Bool) :
    wp (executeCommandResult command timeoutSec allow)
      (fun result s' => Leaves s.roundLosses s.inRound s' (some result.isSuccess))
      (fun _ s' => Leaves s.roundLosses s.inRound s' none) s := by
  rw [executeCommandResult, wp_bind, hasController, read, wp_gets, if_pos hs, wp_bind, wp_isGdbAlive hs]
  split
  · refine (waits_send (s := s.inRound) hs _ _).settle rfl
      ⟨False.elim, id, False.elim, False.elim⟩ id (fun result s₁ hresult hs₁ => ?_)
      fun result message hresult => ?_
    · exact settleCommand_leaves hs₁ _ _ _ hresult
    · rw [settleCommand, hresult]
      exact ⟨_, .error message result.fatal [("command", .str command)], rfl, rfl⟩
  · rename_i hdead
    have hgone : s.roundLosses.gone := Bool.of_not_eq_true hdead
    rw [wp_bind]
    exact wp_mono (handleDeadTransport_leaves hgone _)
      (fun _ s' h => reported_leaves h _ rfl) fun _ _ h => h

end Session
end GdbMcp
