import GdbMcp.BaseTextFacts
import GdbMcp.TransportConservation

/-! The stream of an external endpoint, which is unbuffered and does not block: a write may take a part of its bytes,
or none of them. The client writes once and does not look at what was taken. -/

namespace GdbMcp

open Eff MiClient

/-- What one write to the raw stream does. -/
inductive RawWrite where
  | accepted (count : Nat)
  /-- The write returns `None`. -/
  | nothing
  /-- The write raises an `OSError`. -/
  | failed (message : String)
  deriving DecidableEq, Repr

/-- `text.encode()`. -/
def encodeText (text : String) : List UInt8 := text.toList.flatMap String.utf8EncodeChar

/-- The line of a command. -/
def tokenizedLine (token : Nat) (command : String) : String := s!"{token}{command}\n"

/-- A raw stream, with the bytes that it has delivered to GDB and the polls of the waits to come. -/
structure ExternalStream where
  accept : Nat → List UInt8 → RawWrite
  writes : Nat := 0
  delivered : List UInt8 := []
  waits : List (List Poll) := []

namespace ExternalStream

/-- `stream.write(data)`. -/
def write (bytes : List UInt8) (w : ExternalStream) : Except PyError (Option Nat) × ExternalStream :=
  let next := { w with writes := w.writes + 1 }
  match w.accept w.writes bytes with
  | .accepted count =>
    (.ok (some (min count bytes.length)), { next with delivered := w.delivered ++ bytes.take count })
  | .nothing => (.ok none, next)
  | .failed message => (.error (.osError message), next)

/-- The write of a line drops the number of bytes that were taken; to leave only closes this side of the stream. -/
instance : Gdb ExternalStream where
  spawn _ _ w := (.error (.other "an external endpoint is not spawned"), w)
  connect _ w := (.ok (), w)
  exit w := (.ok (), w)
  write token line w :=
    let (taken, next) := w.write (encodeText (tokenizedLine token line))
    ((fun _ => ()) <$> taken, next)
  polls _ w := (w.waits.headD [], { w with waits := w.waits.tail })
  liveness w := (.absent, w)
  hasProcess _ := false
  kill w := (.error (.other "an external endpoint has no process"), w)
  environ _ _ := none
  isdir _ _ := true
  time w := (0, w)

end ExternalStream

/-- The write takes all of the bytes, or fails. -/
def RawWrite.TakesAll (bytes : List UInt8) : RawWrite → Prop
  | .accepted count => bytes.length ≤ count
  | .nothing => False
  | .failed _ => True

/-- The command is reported as not sent. -/
def ReportsUnsent (result : Except PyError MiTransportResponse) : Prop :=
  ∃ (response : MiTransportResponse) (message : String), result = .ok response ∧ response.fatal = true ∧
    response.error = some s!"Failed to send command: {message}"

/-! ### The wait behind the write -/

section Wait

variable {token timeoutSec : Nat}

/-- The error of a failed send begins as no other. -/
def isUnsent (error : String) : Bool := PyStr.startswith error "Failed"

theorem isUnsent_append {start : String} (h : PyStr.apart start "Failed" = true) (text : String) :
    isUnsent (start ++ text) = false :=
  PyStr.startswith_apart (PyStr.startswith_append start text) h

theorem exitDetails_front (elapsedMs : Nat) (status : ProcessStatus) : ∃ tail, exitDetails elapsedMs status =
    "GDB process exited unexpectedly after " ++ toString ((elapsedMs + 50) / 100 / 10) ++ "." ++
      toString ((elapsedMs + 50) / 100 % 10) ++ "s" ++ tail :=
  ⟨_, rfl⟩

theorem isUnsent_exitDetails (elapsedMs : Nat) (status : ProcessStatus) : isUnsent (exitDetails elapsedMs status) = false := by
  obtain ⟨tail, htail⟩ := exitDetails_front elapsedMs status
  rw [htail]
  simp only [String.append_assoc]
  exact isUnsent_append (by decide) _

theorem readPoll_fatal_text {st st' : ReadState} {p : Poll} {error : String}
    (h : readPoll token st p = (st', some (.fatal error))) : isUnsent error = false := by
  unfold readPoll at h
  split at h
  · obtain ⟨-, hend⟩ := Prod.mk.inj h
    obtain rfl := ReadEnd.fatal.inj (Option.some.inj hend)
    exact isUnsent_exitDetails _ _
  · split at h
    · obtain ⟨-, hend⟩ := Prod.mk.inj h
      obtain rfl := ReadEnd.fatal.inj (Option.some.inj hend)
      exact isUnsent_append (by decide) _
    · exact nomatch (Prod.mk.inj h).2
    · rename_i batch _
      rcases hbatch : (st.checked p).readBatch token batch with ⟨t, _ | payload⟩
      · rw [hbatch] at h
        obtain ⟨-, hend⟩ := Prod.mk.inj h
        split at hend <;> exact nomatch hend
      · rw [hbatch] at h
        obtain ⟨-, hend⟩ := Prod.mk.inj h
        obtain rfl := ReadEnd.fatal.inj (Option.some.inj hend)
        exact isUnsent_append (by decide) _

theorem readLoop_fatal_text {st : ReadState} {polls : List Poll} {error : String}
    (h : (readLoop token st polls).2 = .fatal error) : isUnsent error = false := by
  induction polls generalizing st with
  | nil => exact nomatch h
  | cons p rest ih =>
      rw [readLoop] at h
      rcases hpoll : readPoll token st p with ⟨st', _ | ending⟩
      · rw [hpoll] at h
        exact ih h
      · rw [hpoll] at h
        obtain rfl : ending = .fatal error := h
        exact readPoll_fatal_text hpoll

/-- The computations that deliver nothing. -/
abbrev DeliversNothing {α : Type} (m : ChannelM ExternalStream α) : Prop :=
  m.Within (Same fun c : Channel ExternalStream => c.gdb.delivered)

theorem deliversNothing_exitUnlocked : DeliversNothing exitUnlocked := by
  have hexit : DeliversNothing (call Gdb.exit) := ⟨fun _ => rfl⟩
  refine (Within.gets _).bind fun controlled => ?_
  cases controlled with
  | false => exact Within.pure _
  | true =>
      rw [if_pos rfl]
      exact hexit.ensure fun _ => rfl

/-- To leave the endpoint does not raise. -/
theorem exitUnlocked_returns (c : Channel ExternalStream) : ∃ t, exitUnlocked.run c = (.ok (), t) := by
  have hcontrolled : (MiClient.hasController : ChannelM ExternalStream Bool).run c = (.ok c.client.controller.isSome, c) :=
    rfl
  rw [exitUnlocked, run_bind_ok hcontrolled]
  cases c.client.controller.isSome with
  | false => exact ⟨c, rfl⟩
  | true => exact ⟨_, rfl⟩

theorem deliversNothing_conclude (response : MiTransportResponse) (ending : ReadEnd) :
    DeliversNothing (conclude response ending) := by
  cases ending with
  | completed => exact Within.pure _
  | timedOut => exact Within.pure _
  | fatal error => exact deliversNothing_exitUnlocked.bind fun _ => Within.pure _
  | raised e => exact Within.raise _

theorem deliversNothing_awaitResult (token timeoutSec : Nat) : DeliversNothing (awaitResult token timeoutSec) := by
  have hpolls : DeliversNothing (observe (Gdb.polls timeoutSec)) := ⟨fun _ => rfl⟩
  refine hpolls.bind fun polls => ?_
  have hrecord : DeliversNothing (recordRead (readLoop token {} polls).1.read) := ⟨fun _ => rfl⟩
  exact hrecord.bind fun _ => deliversNothing_conclude _ _

theorem isUnsent_of_conclude {response response' : MiTransportResponse} {ending : ReadEnd} {c c' : Channel ExternalStream}
    (hrun : (conclude response ending).run c = (.ok response', c')) (hfatal : response'.fatal = true)
    (hcalm : response.fatal = false) : ∃ error, ending = .fatal error ∧ response'.error = some error := by
  cases ending with
  | completed =>
      obtain ⟨hresponse, -⟩ := Prod.mk.inj hrun
      obtain rfl := Except.ok.inj hresponse
      exact nomatch hcalm.symm.trans hfatal
  | timedOut =>
      obtain ⟨hresponse, -⟩ := Prod.mk.inj hrun
      obtain rfl := Except.ok.inj hresponse
      exact nomatch hcalm.symm.trans hfatal
  | fatal error =>
      obtain ⟨_, t, -, hpure⟩ := ok_of_run_bind hrun
      obtain ⟨hresponse, -⟩ := Prod.mk.inj hpure
      exact ⟨error, rfl, congrArg MiTransportResponse.error (Except.ok.inj hresponse).symm⟩
  | raised e => exact nomatch (Prod.mk.inj hrun).1

/-- A wait does not report the command as unsent. -/
theorem awaitResult_sent (c : Channel ExternalStream) : ¬ReportsUnsent ((awaitResult token timeoutSec).run c).1 := by
  rintro ⟨response, message, hresult, hfatal, herror⟩
  have hrun : (awaitResult token timeoutSec).run c = (.ok response, ((awaitResult token timeoutSec).run c).2) :=
    Prod.ext hresult rfl
  rw [awaitResult] at hrun
  obtain ⟨polls, c₁, -, hrun⟩ := ok_of_run_bind hrun
  obtain ⟨_, c₂, -, hconclude⟩ := ok_of_run_bind hrun
  obtain ⟨error, hends, hsaid⟩ := isUnsent_of_conclude hconclude hfatal rfl
  have hother := readLoop_fatal_text hends
  have hunsent : isUnsent s!"Failed to send command: {message}" = true := PyStr.startswith_append_left (by decide) _
  rw [hsaid] at herror
  rw [Option.some.inj herror, hunsent] at hother
  cases hother

end Wait

/-! ### One send -/

theorem write_delivers (w : ExternalStream) (bytes : List UInt8) (hne : bytes ≠ []) :
    (∃ message, (w.write bytes).1 = .error (.osError message) ∧ (w.accept w.writes bytes).TakesAll bytes) ∨
      ((w.write bytes).1.isOk = true ∧
        ((w.write bytes).2.delivered = w.delivered ++ bytes ↔ (w.accept w.writes bytes).TakesAll bytes)) := by
  unfold ExternalStream.write
  extract_lets next
  cases haccept : w.accept w.writes bytes with
  | failed message => exact .inl ⟨message, rfl, trivial⟩
  | nothing =>
      refine .inr ⟨rfl, iff_of_false ?_ id⟩
      simp [next, hne]
  | accepted count =>
      refine .inr ⟨rfl, ?_⟩
      rw [List.append_cancel_left_eq, RawWrite.TakesAll]
      constructor
      · intro hall
        have hlength := congrArg List.length hall
        rw [List.length_take] at hlength
        omega
      · exact List.take_of_length_le

theorem encodeText_tokenizedLine_ne_nil (token : Nat) (command : String) : encodeText (tokenizedLine token command) ≠ [] := by
  have hnewline : '\n' ∈ (tokenizedLine token command).toList := by
    rw [tokenizedLine, String.toList_append]
    exact List.mem_append_right _ (List.mem_singleton.mpr rfl)
  intro hempty
  have hencoded := List.flatMap_eq_nil_iff.mp hempty _ hnewline
  exact absurd hencoded (by decide)

/-- The bytes that a send delivers are those of its line, or the send is reported as failed, if and only if the one
write takes all of them or fails. -/
theorem delivered_iff_takesAll {command : String} {timeoutSec : Nat} {c : Channel ExternalStream}
    (hcontroller : c.client.controller.isSome = true) :
    let bytes := encodeText (tokenizedLine c.client.commandToken command)
    let sent := (sendCommandAndWaitForPrompt command timeoutSec).run c
    (¬ReportsUnsent sent.1 → sent.2.gdb.delivered = c.gdb.delivered ++ bytes) ↔
      (c.gdb.accept c.gdb.writes bytes).TakesAll bytes := by
  intro bytes sent
  let taken : Channel ExternalStream :=
    { c with
      client :=
        { c.client with
          commandToken := c.client.commandToken + 1, sent := c.client.sent ++ [(c.client.commandToken, command)] } }
  let behind : Channel ExternalStream := { taken with gdb := (c.gdb.write bytes).2 }
  have hcontrolled : (MiClient.hasController : ChannelM ExternalStream Bool).run c = (.ok true, c) := by
    rw [← hcontroller]
    rfl
  have htoken : (takeToken command : ChannelM ExternalStream Nat).run c = (.ok c.client.commandToken, taken) := rfl
  simp only [sent]
  rw [sendCommandAndWaitForPrompt, run_bind_ok hcontrolled, if_pos rfl, run_bind_ok htoken]
  have hcall : (call (Gdb.write c.client.commandToken command)).run taken = ((fun _ => ()) <$> (c.gdb.write bytes).1, behind) := rfl
  rcases write_delivers c.gdb bytes (encodeText_tokenizedLine_ne_nil _ _) with ⟨message, hfailed, htakes⟩ | ⟨hok, hiff⟩
  · have hunsent : (attempt (Except.ok <$> call (Gdb.write c.client.commandToken command)) fun e => return .error e :
        ChannelM ExternalStream (Except PyError Unit)).run taken = (.ok (.error (.osError message)), behind) := by
      simp only [attempt, Functor.map, hcall, hfailed]
      rfl
    rw [run_bind_ok hunsent]
    obtain ⟨t, hexit⟩ := exitUnlocked_returns behind
    refine iff_of_true (fun hreported => absurd ?_ hreported) htakes
    refine ⟨_, message, congrArg Prod.fst (run_bind_ok hexit), rfl, rfl⟩
  · have hsent : (attempt (Except.ok <$> call (Gdb.write c.client.commandToken command)) fun e => return .error e :
        ChannelM ExternalStream (Except PyError Unit)).run taken = (.ok (.ok ()), behind) := by
      cases hwrite : (c.gdb.write bytes).1 with
      | error e =>
          rw [hwrite] at hok
          cases hok
      | ok n =>
          rw [hwrite] at hcall
          exact run_attempt_ok (run_map_ok hcall)
    rw [run_bind_ok hsent]
    have hkept := (deliversNothing_awaitResult c.client.commandToken timeoutSec).run behind
    have hquiet := @awaitResult_sent c.client.commandToken timeoutSec behind
    have hdelivered : ((awaitResult c.client.commandToken timeoutSec).run behind).2.gdb.delivered =
        (c.gdb.write bytes).2.delivered := hkept
    rw [← hiff, ← hdelivered]
    exact ⟨fun h => h hquiet, fun h _ => h⟩

/-- A client of an endpoint that takes so many bytes of every write. -/
def takingBytes (count : Nat) : Channel ExternalStream where
  client := { controller := some {} }
  gdb := { accept := fun _ _ => .accepted count }

theorem delivered_iff_takesAll_whole :
    ((sendCommandAndWaitForPrompt "-exec-run" 30).run (takingBytes 100)).2.gdb.delivered =
      encodeText "1000-exec-run\n" := by
  have htakes : ((takingBytes 100).gdb.accept 0 (encodeText (tokenizedLine 1000 "-exec-run"))).TakesAll
      (encodeText (tokenizedLine 1000 "-exec-run")) := by
    show _ ≤ _
    decide +kernel
  refine (@delivered_iff_takesAll "-exec-run" 30 (takingBytes 100) rfl).mpr htakes ?_
  rintro ⟨response, message, hresult, hfatal, -⟩
  obtain rfl := Except.ok.inj hresult
  exact nomatch hfatal

/-- A short write is not reported: the wait behind it times out, and the next command is put behind the part that was
taken. -/
theorem short_write_unreported :
    let sent := (sendCommandAndWaitForPrompt "-exec-run" 30).run (takingBytes 3)
    ¬(¬ReportsUnsent sent.1 → sent.2.gdb.delivered = encodeText "1000-exec-run\n") ∧
      ((sendCommandAndWaitForPrompt "-exec-run" 30).run sent.2).2.gdb.delivered = encodeText "100100" := by
  refine ⟨fun h => ?_, by decide +kernel⟩
  have hwhole := h ?_
  · exact absurd hwhole (by decide +kernel)
  · rintro ⟨response, message, hresult, hfatal, -⟩
    obtain rfl := Except.ok.inj hresult
    exact nomatch hfatal

end GdbMcp
