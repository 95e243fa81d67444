import GdbMcp.SessionRun

/-! What one exchange of a script does to the session: it is answered or runs out of time, it is lost
with the debugger, or it raises. -/

namespace GdbMcp

open Eff

/-- The debugger is lost in the exchange: the write fails, or the wait ends in a fatal error. -/
def Exchange.Lost (e : Exchange) (token : Nat) : Prop :=
  (∃ m, e.written = .error (.osError m)) ∨
    (e.written = .ok () ∧ ∃ error, (readLoop token {} (e.replies token)).2 = .fatal error)

theorem Exchange.not_lost_of_silence (token : Nat) : ¬({} : Exchange).Lost token := by
  rintro (⟨_, hwritten⟩ | ⟨_, _, hfatal⟩)
  · exact nomatch hwritten
  · exact nomatch hfatal

theorem Exchange.not_lost_of_done (token : Nat) :
    ¬(Exchange.answering fun token => [resultRecord "done" token]).Lost token := by
  have hdone : (readLoop token {} [{ read := .ok [resultRecord "done" token] }]).2 = .completed := by
    simp [readLoop, readPoll, Poll.findsExit, Poll.due, livenessCheckIntervalMs, ReadState.readBatch,
      MiRecord.isFatal, resultRecord, ReadState.endBatch, ReadState.handle, ReadState.classify,
      ReadState.respond, ReadState.checked, ReadState.complete]
  rintro (⟨_, hwritten⟩ | ⟨_, error, hfatal⟩)
  · exact nomatch hwritten
  · rw [Exchange.answering, hdone] at hfatal
    exact nomatch hfatal

namespace Session

/-- The token of the next command. -/
def nextToken (s : Session Scripted) : Nat := s.runtime.transport.commandToken

/-- The exchange that the next command meets. -/
def nextExchange (s : Session Scripted) : Exchange := s.gdb.queue.headD {}

/-- The wait for the result of the next command. -/
def nextWait (s : Session Scripted) : ReadState × ReadEnd :=
  readLoop s.nextToken {} (s.nextExchange.replies s.nextToken)

/-- The session after an answered exchange. -/
def exchanged (s : Session Scripted) (command : String) : Session Scripted where
  runtime := s.runtime.withTransport
    { s.runtime.transport with
      commandToken := s.nextToken + 1
      sent := s.runtime.transport.sent ++ [(s.nextToken, command)]
      received := s.runtime.transport.received ++ s.nextWait.1.read }
  gdb := { s.gdb with token := s.nextToken, queue := s.gdb.queue.tail }

/-- The response of an answered exchange. -/
def answer (s : Session Scripted) : MiTransportResponse where
  commandResponses := s.nextWait.1.commandResponses
  asyncNotifications := s.nextWait.1.asyncNotifications
  timedOut := s.nextWait.2 == .timedOut

/-- The exchange is answered or runs out of time. -/
def Answered (s : Session Scripted) : Prop :=
  s.nextExchange.written = .ok () ∧ (s.nextWait.2 = .completed ∨ s.nextWait.2 = .timedOut)

/-- The same script, in the same round. -/
structure SameRound (s s' : Session Scripted) : Prop where
  script : s'.gdb.script = s.gdb.script
  nextRound : s'.gdb.nextRound = s.gdb.nextRound

/-- The session has lost its debugger and is terminated. -/
structure Terminated (s s' : Session Scripted) : Prop extends SameRound s s' where
  runtime : ∃ client message, s'.runtime = (s.runtime.withTransport client).markTransportTerminated message

/-- Nothing but the client has changed. -/
structure OnlyClient (s s' : Session Scripted) : Prop extends SameRound s s' where
  runtime : ∃ client, s'.runtime = s.runtime.withTransport client

section Channel

variable {c : Channel Scripted} {Q : MiTransportResponse → Channel Scripted → Prop}
  {R : PyError → Channel Scripted → Prop}

def detached (c : Channel Scripted) : Channel Scripted :=
  { c with client := { c.client with controller := none } }

/-- Leaving the transport returns or raises as the script says; the controller is gone. -/
theorem wp_exitUnlocked {Q : Unit → Channel Scripted → Prop} (hc : c.client.controller.isSome = true)
    (hreturns : c.gdb.script.exited = .ok () → Q () (detached c))
    (hraises : ∀ e, c.gdb.script.exited = .error e → R e (detached c)) :
    wp MiClient.exitUnlocked Q R c := by
  rw [MiClient.exitUnlocked, wp_bind, MiClient.hasController, wp_gets, if_pos hc, wp_ensure, MiClient.call,
    wp_zoom]
  cases hexit : c.gdb.script.exited with
  | ok value =>
      simp only [wp, Gdb.exit, hexit]
      exact hreturns hexit
  | error e =>
      simp only [wp, Gdb.exit, hexit]
      exact hraises e hexit

/-- The end of a wait. -/
theorem wp_conclude {response : MiTransportResponse} {ending : ReadEnd}
    (hc : c.client.controller.isSome = true) (hresponse : response.timedOut = false)
    (hanswered : ending = .completed ∨ ending = .timedOut →
      Q { response with timedOut := ending == .timedOut } c)
    (hfatal : ∀ error, ending = .fatal error → c.gdb.script.exited = .ok () →
      Q { response with error := some error, fatal := true } (detached c))
    (hexit : ∀ error e, ending = .fatal error → c.gdb.script.exited = .error e → R e (detached c))
    (hraised : ∀ e, ending = .raised e → R e c) :
    wp (MiClient.conclude response ending) Q R c := by
  cases ending with
  | completed =>
      have h := hanswered (.inl rfl)
      rwa [show (ReadEnd.completed == ReadEnd.timedOut) = response.timedOut by rw [hresponse]; rfl] at h
  | timedOut => exact hanswered (.inr rfl)
  | fatal error =>
      rw [MiClient.conclude, wp_bind]
      exact wp_exitUnlocked hc (hfatal error rfl) fun e he => hexit error e rfl he
  | raised e => exact hraised e rfl

/-- The polls of a wait are those of the exchange at the head of the queue. -/
theorem wp_polls {timeoutSec : Nat} {Q : List Poll → Channel Scripted → Prop} :
    wp (MiClient.observe (Gdb.polls timeoutSec)) Q R c ↔
      Q ((c.gdb.queue.headD {}).replies c.gdb.token)
        { c with gdb := { c.gdb with queue := c.gdb.queue.tail } } := Iff.rfl

/-- The channel once the wait for the exchange at the head of the queue has ended. -/
def afterWait (c : Channel Scripted) (read : List MiRecord) : Channel Scripted where
  client := { c.client with received := c.client.received ++ read }
  gdb := { c.gdb with queue := c.gdb.queue.tail }

theorem wp_awaitResult {token timeoutSec : Nat} {st : ReadState} {ending : ReadEnd}
    (hc : c.client.controller.isSome = true)
    (hloop : readLoop token {} ((c.gdb.queue.headD {}).replies c.gdb.token) = (st, ending))
    (hanswered : ending = .completed ∨ ending = .timedOut →
      Q { commandResponses := st.commandResponses, asyncNotifications := st.asyncNotifications
          timedOut := ending == .timedOut } (afterWait c st.read))
    (hfatal : ∀ error r, ending = .fatal error → c.gdb.script.exited = .ok () → r.error.isSome = true →
      r.fatal = true → Q r (detached (afterWait c st.read)))
    (hexit : ∀ error e, ending = .fatal error → c.gdb.script.exited = .error e →
      R e (detached (afterWait c st.read)))
    (hraised : ∀ e, ending = .raised e → R e (afterWait c st.read)) :
    wp (MiClient.awaitResult token timeoutSec) Q R c := by
  rw [MiClient.awaitResult, wp_bind, wp_polls]
  simp only [hloop, MiClient.recordRead, MiClient.updateClient, wp_bind, wp_modify]
  exact wp_conclude hc rfl hanswered (fun error h h' => hfatal error _ h h' rfl rfl) hexit hraised

/-- A wait for a stop, which sends nothing. -/
theorem wp_waitForStoppedNotification {timeoutSec : Nat} {st : WaitState} {ending : ReadEnd}
    (hc : c.client.controller.isSome = true)
    (hloop : waitLoop {} ((c.gdb.queue.headD {}).replies c.gdb.token) = (st, ending))
    (hanswered : ending = .completed ∨ ending = .timedOut →
      Q { commandResponses := st.commandResponses, timedOut := ending == .timedOut } (afterWait c st.read))
    (hfatal : ∀ error r, ending = .fatal error → c.gdb.script.exited = .ok () → r.error.isSome = true →
      r.fatal = true → Q r (detached (afterWait c st.read)))
    (hexit : ∀ error e, ending = .fatal error → c.gdb.script.exited = .error e →
      R e (detached (afterWait c st.read)))
    (hraised : ∀ e, ending = .raised e → R e (afterWait c st.read)) :
    wp (MiClient.waitForStoppedNotification timeoutSec) Q R c := by
  rw [MiClient.waitForStoppedNotification, wp_bind, wp_polls]
  simp only [hloop, MiClient.recordRead, MiClient.updateClient, wp_bind, wp_modify]
  exact wp_conclude hc rfl hanswered (fun error h h' => hfatal error _ h h' rfl rfl) hexit hraised

/-- The channel once a command has been written. -/
def afterWrite (c : Channel Scripted) (command : String) : Channel Scripted where
  client := { c.client with
    commandToken := c.client.commandToken + 1
    sent := c.client.sent ++ [(c.client.commandToken, command)] }
  gdb := { c.gdb with token := c.client.commandToken }

/-- A command on a channel with a controller. -/
theorem wp_channel_send {command : String} {timeoutSec : Nat} {st : ReadState} {ending : ReadEnd}
    (hc : c.client.controller.isSome = true)
    (hloop : readLoop c.client.commandToken {} ((c.gdb.queue.headD {}).replies c.client.commandToken) =
      (st, ending))
    (hanswered : (c.gdb.queue.headD {}).written = .ok () → ending = .completed ∨ ending = .timedOut →
      Q { commandResponses := st.commandResponses, asyncNotifications := st.asyncNotifications
          timedOut := ending == .timedOut } (afterWait (afterWrite c command) st.read))
    (hlost : ∀ r c', (c.gdb.queue.headD {}).Lost c.client.commandToken → c.gdb.script.exited = .ok () →
      r.error.isSome = true → r.fatal = true → c'.client.controller = none →
      c'.gdb.script = c.gdb.script → c'.gdb.nextRound = c.gdb.nextRound → Q r c')
    (hraised : ∀ e c', ¬((c.gdb.queue.headD {}).written = .ok () ∧
        (ending = .completed ∨ ending = .timedOut)) →
      c'.gdb.script = c.gdb.script → c'.gdb.nextRound = c.gdb.nextRound → (c'.client.controller.isSome = true ∨ ((c.gdb.queue.headD {}).Lost c.client.commandToken ∧
        ∃ e, c.gdb.script.exited = .error e)) → R e c') :
    wp (MiClient.sendCommandAndWaitForPrompt command timeoutSec) Q R c := by
  rw [MiClient.sendCommandAndWaitForPrompt, wp_bind, MiClient.hasController, wp_gets, if_pos hc]
  simp only [wp_bind, MiClient.takeToken, wp_gets, MiClient.updateClient, wp_modify, wp_pure, wp_attempt,
    wp_map, MiClient.call, wp_zoom]
  rcases hwritten : (c.gdb.queue.headD {}).written with e | value
  · simp only [wp, Gdb.write, hwritten]
    have hnot : ¬((c.gdb.queue.headD {}).written = .ok () ∧
        (ending = .completed ∨ ending = .timedOut)) := by
      rw [hwritten]
      exact fun h => by cases h.1
    cases e with
    | osError m =>
        have hloss : (c.gdb.queue.headD {}).Lost c.client.commandToken := .inl ⟨m, hwritten⟩
        change wp (MiClient.exitUnlocked >>= fun _ => pure _) Q R (afterWrite c command)
        rw [wp_bind]
        exact wp_exitUnlocked hc (fun h => hlost _ _ hloss h rfl rfl rfl rfl rfl)
          fun e he => hraised e _ hnot rfl rfl (.inr ⟨hloss, e, he⟩)
    | _ => exact hraised _ (afterWrite c command) hnot rfl rfl (.inl hc)
  · simp only [wp, Gdb.write, hwritten]
    have hloss : ∀ error, ending = .fatal error →
        (c.gdb.queue.headD {}).Lost c.client.commandToken :=
      fun error h => .inr ⟨hwritten, error, by rw [hloop]; exact h⟩
    exact wp_awaitResult (c := afterWrite c command) hc hloop (hanswered hwritten)
      (fun error r h h' hr hr' => hlost r _ (hloss error h) h' hr hr' rfl rfl rfl)
      (fun error e h h' => hraised e _ (by simp [h]) rfl rfl (.inr ⟨hloss error h, e, h'⟩))
      (fun e h => hraised e _ (by simp [h]) rfl rfl (.inl hc))

end Channel

/-- A command of a session with a controller. -/
theorem wp_send {command : String} {timeoutSec : Nat} {s : Session Scripted}
    {Q : MiTransportResponse → Session Scripted → Prop} {R : PyError → Session Scripted → Prop}
    (hs : s.runtime.hasController = true)
    (hanswered : s.Answered → Q s.answer (s.exchanged command))
    (hlost : ∀ r s', s.nextExchange.Lost s.nextToken → s.gdb.script.exited = .ok () →
      r.error.isSome = true → Terminated s s' → Q r s')
    (hraised : ∀ e s', ¬s.Answered → OnlyClient s s' → (s'.runtime.hasController = true ∨
      (s.nextExchange.Lost s.nextToken ∧ ∃ e, s.gdb.script.exited = .error e)) → R e s') :
    wp (sendCommandAndWaitForPrompt command timeoutSec) Q R s := by
  rw [sendCommandAndWaitForPrompt, transportCall, wp_bind, onChannel, wp_zoom]
  refine wp_channel_send (c := s.channel) hs rfl (fun hwritten hending => ?_)
    (fun r c' hloss hexit herror hfatal hc' hscript hround => ?_)
    (fun e c' hnot hscript hround hc' => hraised e _ hnot ⟨⟨hscript, hround⟩, c'.client, rfl⟩ hc')
  · exact hanswered ⟨hwritten, hending⟩
  · rw [if_pos hfatal]
    exact hlost r _ hloss hexit herror ⟨⟨hscript, hround⟩, c'.client, _, rfl⟩

/-! ### Waits without a command -/

/-- The wait for a stop that reads the exchange at the head of the queue. -/
def window (s : Session Scripted) : WaitState × ReadEnd :=
  waitLoop {} (s.nextExchange.replies s.gdb.token)

/-- The session after a wait for a stop. -/
def windowed (s : Session Scripted) : Session Scripted where
  runtime := s.runtime.withTransport
    { s.runtime.transport with received := s.runtime.transport.received ++ s.window.1.read }
  gdb := { s.gdb with queue := s.gdb.queue.tail }

/-- The response of a wait that has not failed. -/
def windowAnswer (s : Session Scripted) : MiTransportResponse where
  commandResponses := s.window.1.commandResponses
  timedOut := s.window.2 == .timedOut

/-- The debugger is lost in the wait. -/
def WindowLost (s : Session Scripted) : Prop := ∃ error, s.window.2 = .fatal error

section Window

variable {s : Session Scripted} {timeoutSec : Nat} {Q : MiTransportResponse → Session Scripted → Prop}

theorem wp_waitForStopNotification {R : PyError → Session Scripted → Prop}
    (hs : s.runtime.hasController = true)
    (hanswered : s.window.2 = .completed ∨ s.window.2 = .timedOut → Q s.windowAnswer s.windowed)
    (hlost : ∀ r s', s.WindowLost → s.gdb.script.exited = .ok () → r.error.isSome = true →
      Terminated s s' → Q r s')
    (hraised : ∀ e s', OnlyClient s s' → (s'.runtime.hasController = true ∨
      (s.WindowLost ∧ ∃ e, s.gdb.script.exited = .error e)) → R e s') :
    wp (waitForStopNotification timeoutSec) Q R s := by
  rw [waitForStopNotification, transportCall, wp_bind, onChannel, wp_zoom, MiClient.waitForStop, wp_bind,
    MiClient.hasController, wp_gets, if_pos (show s.channel.client.controller.isSome = true from hs)]
  have hloop : waitLoop {} ((s.channel.gdb.queue.headD {}).replies s.channel.gdb.token) =
      (s.window.1, s.window.2) := rfl
  refine wp_waitForStoppedNotification (c := s.channel) hs hloop
    (fun hending => ?_) (fun error r hending hexit herror hfatal => ?_) (fun error e hending hexit => ?_)
    fun e _ => ?_
  · exact hanswered hending
  · rw [if_pos hfatal]
    exact hlost r _ ⟨error, hending⟩ hexit herror ⟨⟨rfl, rfl⟩, _, _, rfl⟩
  · exact hraised e _ ⟨⟨rfl, rfl⟩, _, rfl⟩ (.inr ⟨⟨error, hending⟩, e, hexit⟩)
  · exact hraised e _ ⟨⟨rfl, rfl⟩, _, rfl⟩ (.inl hs)

/-- An interrupt never raises: an exception becomes an error response. -/
theorem wp_interruptAndWaitForStop {R : PyError → Session Scripted → Prop}
    (hs : s.runtime.hasController = true)
    (hanswered : s.gdb.script.killed = .ok () → s.window.2 = .completed ∨ s.window.2 = .timedOut →
      Q s.windowAnswer s.windowed)
    (hlost : ∀ r s', s.WindowLost → s.gdb.script.exited = .ok () → r.error.isSome = true →
      Terminated s s' → Q r s')
    (hfailed : ∀ r s', r.error.isSome = true → OnlyClient s s' → (s'.runtime.hasController = true ∨
      (s.WindowLost ∧ ∃ e, s.gdb.script.exited = .error e)) → Q r s') :
    wp (interruptAndWaitForStop timeoutSec) Q R s := by
  rw [interruptAndWaitForStop, transportCall, wp_bind, onChannel, wp_zoom, MiClient.interruptAndWaitForStop,
    wp_bind, MiClient.hasController, wp_gets, if_pos (show s.channel.client.controller.isSome = true from hs),
    wp_attempt, wp_bind, MiClient.call, wp_zoom]
  cases hkill : s.gdb.script.killed with
  | error e =>
      simp only [wp, Gdb.kill, hkill, channel]
      exact hfailed _ _ rfl ⟨⟨rfl, rfl⟩, _, rfl⟩ (.inl hs)
  | ok value =>
      simp only [wp, Gdb.kill, hkill, channel]
      have hloop : waitLoop {} ((s.channel.gdb.queue.headD {}).replies s.channel.gdb.token) =
          (s.window.1, s.window.2) := rfl
      refine wp_waitForStoppedNotification (c := s.channel) hs hloop
        (fun hending => ?_) (fun error r hending hexit herror hfatal => ?_)
        (fun error e hending hexit => ?_) fun e _ => ?_
      · exact hanswered hkill hending
      · rw [if_pos hfatal]
        exact hlost r _ ⟨error, hending⟩ hexit herror ⟨⟨rfl, rfl⟩, _, _, rfl⟩
      · exact hfailed _ _ rfl ⟨⟨rfl, rfl⟩, _, rfl⟩ (.inr ⟨⟨error, hending⟩, e, hexit⟩)
      · exact hfailed _ _ rfl ⟨⟨rfl, rfl⟩, _, rfl⟩ (.inl hs)

end Window

end Session
end GdbMcp
