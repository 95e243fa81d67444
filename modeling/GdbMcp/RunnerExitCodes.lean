import GdbMcp.BaseTextFacts
import GdbMcp.SessionRun
import GdbMcp.SessionUpdate

/-! Exit codes in the records of the debugger, which prints them in octal. The reading takes the digits for decimal
ones, so that it agrees below eight. -/

namespace GdbMcp

open Eff Session SessionRuntime

/-! ### Octal digits, read as decimal ones -/

/-- The text of an exit code. -/
def renderExitCode (n : Nat) : String := "0" ++ String.ofList (Nat.toDigits 8 n)

/-- The number that the octal digits of `n` spell in decimal. -/
def readAsDecimal (n : Nat) : Nat := if n < 8 then n else 10 * readAsDecimal (n / 8) + n % 8

theorem le_readAsDecimal (n : Nat) : n ≤ readAsDecimal n := by
  induction n using Nat.strong_induction_on with
  | _ n ih =>
      rw [readAsDecimal]
      split
      · exact le_refl n
      · rename_i hn
        have hrest := ih (n / 8) (by omega)
        omega

theorem readAsDecimal_eq_iff (n : Nat) : readAsDecimal n = n ↔ n < 8 := by
  rw [readAsDecimal]
  split
  · rename_i hn
    exact iff_of_true rfl hn
  · rename_i hn
    have hrest := le_readAsDecimal (n / 8)
    exact iff_of_false (by omega) hn

theorem digitsValue_octal (n : Nat) : PyStr.digitsValue 10 (Nat.toDigits 8 n) true 0 = some (readAsDecimal n) := by
  induction n using Nat.strong_induction_on with
  | _ n ih =>
      rw [Nat.toDigits_eq_if (by decide), readAsDecimal]
      split
      · rename_i hn
        simpa using @PyStr.digitsValue_digitChar n (by omega) true 0
      · rename_i hn
        rw [PyStr.digitsValue_append (ih (n / 8) (by omega)), PyStr.digitsValue_digitChar (by omega)]
        congr 1
        omega

theorem toList_renderExitCode (n : Nat) : (renderExitCode n).toList = '0' :: Nat.toDigits 8 n := by
  simp [renderExitCode]

theorem mem_renderExitCode {n : Nat} : ∀ c ∈ (renderExitCode n).toList, c ∈ PyStr.asciiDigits := by
  rw [toList_renderExitCode]
  refine List.forall_mem_cons.mpr ⟨by decide, ?_⟩
  exact fun _ => PyStr.mem_toDigits (by decide) (by decide)

/-- The parser takes the branch of the decimal digits. -/
theorem parseExitCode_render {n : Nat} {code : Option Int} (h : parseExitCode (.str (renderExitCode n)) = .ok code) :
    code = some (readAsDecimal n : Int) := by
  have hne : (renderExitCode n).toList ≠ [] := by simp [toList_renderExitCode]
  have hdigits := PyStr.isdigit_of_asciiDigits hne mem_renderExitCode
  have hstrip := PyStr.strip_of_solid (PyStr.solid_of_asciiDigits hne mem_renderExitCode)
  have hapart : ∀ p : String, p.toList.any (fun c => !PyStr.asciiDigits.contains c) = true →
      PyStr.startswith (renderExitCode n) p = false := by
    intro p hp
    rw [← Bool.not_eq_true]
    intro hstart
    obtain ⟨rest, hrest⟩ := PyStr.startswith_iff.mp hstart
    obtain ⟨c, hc, hother⟩ := List.any_eq_true.mp hp
    have hmem := mem_renderExitCode c (hrest ▸ List.mem_append_left rest hc)
    simp [hmem] at hother
  have hvalue : PyStr.digitsValue 10 (renderExitCode n).toList false 0 = some (readAsDecimal n) := by
    rw [toList_renderExitCode]
    exact digitsValue_octal n
  have hempty : renderExitCode n ≠ "" := by
    intro hnil
    exact hne (by rw [hnil]; rfl)
  have hhex : ["0x", "0X", "-0x", "-0X"].any (PyStr.startswith (renderExitCode n)) = false := by
    simp [hapart "0x" (by decide), hapart "0X" (by decide), hapart "-0x" (by decide), hapart "-0X" (by decide)]
  simp only [parseExitCode, hstrip, if_neg hempty, hhex, hapart "-" (by decide), hapart "+" (by decide), hdigits,
    Bool.false_eq_true, if_false, if_true] at h
  cases hint : PyStr.int 10 (renderExitCode n) with
  | error e =>
      rw [hint] at h
      exact nomatch h
  | ok k =>
      rw [hint, PyStr.int_of_asciiDigits mem_renderExitCode hvalue hint] at h
      exact (Except.ok.inj h).symm

/-! ### The records that carry an exit code -/

theorem readStopFields_exitCode {payload : Value} {text : String} {stop : StopFields}
    (hcode : payload.get "exit-code" = .str text) (h : readStopFields payload = .ok stop) :
    parseExitCode (.str text) = .ok stop.exitCode := by
  cases payload with
  | dict fields =>
      rw [readStopFields, if_pos (by rfl)] at h
      obtain ⟨code, hread, h⟩ := exists_ok_of_bind h
      obtain ⟨k, -, h⟩ := exists_ok_of_bind h
      obtain ⟨level, -, h⟩ := exists_ok_of_bind h
      obtain ⟨thread, -, h⟩ := exists_ok_of_bind h
      rw [← hcode, hread]
      exact congrArg (Except.ok ∘ StopFields.exitCode) (Except.ok.inj h)
  | _ => exact nomatch hcode

/-- The exit code that is stored for an inferior. -/
def SessionRuntime.storedExitCode (rt : SessionRuntime) (k : Int) : Option Int :=
  (rt.inferiorStates.lookup k).bind InferiorRuntimeState.exitCode

/-- The exit code of a thread group that has exited. -/
theorem scanNotify_exitCode {scan scan' : StopScan} {notify : MiNotifyRecord} {rt rt' : SessionRuntime} {k : Option Int}
    {n : Nat} (hmessage : notify.message = some "thread-group-exited")
    (hcode : notify.payload.asDict.get "exit-code" = .str (renderExitCode n))
    (hid : parseInferiorIdFromThreadGroup (notify.payload.asDict.get "id") = .ok k)
    (hrun : (scanNotify scan notify).run rt = (.ok scan', rt')) :
    rt'.storedExitCode (rt.target k) = some (readAsDecimal n : Int) := by
  simp only [scanNotify, hmessage, hid, hcode] at hrun
  obtain ⟨k', rt₁, hid', hrun⟩ := ok_of_run_bind hrun
  obtain ⟨hk, rfl⟩ := Prod.mk.inj hid'
  obtain rfl := Except.ok.inj hk
  obtain ⟨code, rt₂, hcode', hrun⟩ := ok_of_run_bind hrun
  obtain ⟨hread, rfl⟩ := Prod.mk.inj hcode'
  obtain ⟨_, rt₃, hmark, hpure⟩ := ok_of_run_bind hrun
  obtain ⟨-, rfl⟩ := Prod.mk.inj hmark
  obtain ⟨-, rfl⟩ := Prod.mk.inj hpure
  show ((rt.updateInferiorState k _).inferiorStates.lookup (rt.target k)).bind _ = _
  rw [lookup_updateInferiorState, if_pos rfl]
  exact parseExitCode_render hread

namespace Session

variable {W : Type} [Gdb W] {s s' : Session W} {command : String} {parsed : ParsedMiResponse}

/-- The exit code of a stop, in its event and in the record of its inferior. -/
theorem takeNotifications_exitCode {notify : MiNotifyRecord} {n : Nat}
    (hstop : parsed.notify.find? MiNotifyRecord.isStop = some notify)
    (hcode : notify.payload.get "exit-code" = .str (renderExitCode n))
    (hreason : isExitReason (asText (notify.payload.get "reason")) = true)
    (hrun : (takeNotifications command parsed).run s = (.ok (), s')) :
    ∃ event, s'.runtime.lastStopEvent = some event ∧ event.exitCode = some (readAsDecimal n : Int) ∧
      s'.runtime.storedExitCode (event.inferiorId.getD 1) = some (readAsDecimal n : Int) := by
  obtain ⟨t, -, hsettles⟩ := notifications_settle hrun
  have hheard : heardStop parsed.notify = some (readStopFields notify.payload) := by
    rw [heardStop, hstop]
    rfl
  cases hsettles with
  | @stop stop now hstopped hruntime =>
      have hread : readStopFields notify.payload = .ok stop := Option.some.inj (hheard.symm.trans hstopped)
      have hexit : stop.exitCode = some (readAsDecimal n : Int) :=
        parseExitCode_render (readStopFields_exitCode hcode hread)
      have hstate : (stopState stop).exitCode = stop.exitCode := by
        rw [stopState, readStopFields_reason hread, if_pos hreason]
      have htarget : (t.runtime.stopInferior stop).getD 1 = t.runtime.target stop.inferiorId := by
        rw [stopInferior, target]
        cases stop.inferiorId <;> rfl
      refine ⟨_, hruntime ▸ lastStopEvent_applyStop t.runtime command stop now, hexit, ?_⟩
      show s'.runtime.storedExitCode ((t.runtime.stopInferior stop).getD 1) = _
      rw [hruntime, storedExitCode, lookup_applyStop, htarget, if_pos rfl, Option.bind_some, hstate, hexit]
  | running hnone _ _ => cases hheard.symm.trans hnone
  | quiet hnone _ _ => cases hheard.symm.trans hnone

/-- An exit code is stored as GDB means it, for the thread group that has exited and for the inferior of a stop and its
event, if and only if it is below eight. -/
theorem exit_code_survives_iff (n : Nat) :
    (∀ (scan scan' : StopScan) (notify : MiNotifyRecord) (rt rt' : SessionRuntime) (k : Option Int),
      notify.message = some "thread-group-exited" →
      notify.payload.asDict.get "exit-code" = .str (renderExitCode n) →
      parseInferiorIdFromThreadGroup (notify.payload.asDict.get "id") = .ok k →
      (scanNotify scan notify).run rt = (.ok scan', rt') →
        (rt'.storedExitCode (rt.target k) = some (n : Int) ↔ n < 8)) ∧
    ∀ (s s' : Session W) (command : String) (parsed : ParsedMiResponse) (notify : MiNotifyRecord),
      parsed.notify.find? MiNotifyRecord.isStop = some notify →
      notify.payload.get "exit-code" = .str (renderExitCode n) →
      isExitReason (asText (notify.payload.get "reason")) = true →
      (takeNotifications command parsed).run s = (.ok (), s') →
        ∃ event, s'.runtime.lastStopEvent = some event ∧
          (event.exitCode = some (n : Int) ∧ s'.runtime.storedExitCode (event.inferiorId.getD 1) = some (n : Int) ↔
            n < 8) := by
  have hiff : some (readAsDecimal n : Int) = some (n : Int) ↔ n < 8 := by
    rw [Option.some.injEq, Nat.cast_inj]
    exact readAsDecimal_eq_iff n
  refine ⟨?_, ?_⟩
  · intro scan scan' notify rt rt' k hmessage hcode hid hrun
    rw [scanNotify_exitCode hmessage hcode hid hrun]
    exact hiff
  · intro s s' command parsed notify hstop hcode hreason hrun
    obtain ⟨event, hevent, hexit, hstored⟩ := takeNotifications_exitCode hstop hcode hreason hrun
    refine ⟨event, hevent, ?_⟩
    rw [hexit, hstored, and_self]
    exact hiff

/-- The news that inferior 1 has exited with this code: of its thread group, and of the stop. -/
def exitedGroup (n : Nat) : MiNotifyRecord :=
  ⟨some "thread-group-exited", .dict [("id", .str "i1"), ("exit-code", .str (renderExitCode n))]⟩

def exitedStop (n : Nat) : MiNotifyRecord :=
  ⟨some "stopped", .dict [("reason", .str "exited"), ("exit-code", .str (renderExitCode n))]⟩

theorem exit_code_survives_iff_three :
    let before : Session Scripted := { runtime := {}, gdb := Script.accepting.play }
    let behind := ((takeNotifications "-exec-run" { notify := [exitedStop 3] }).run before).2.runtime
    ((scanNotify {} (exitedGroup 3)).run {}).2.storedExitCode 1 = some 3 ∧
      ∃ event, behind.lastStopEvent = some event ∧ event.exitCode = some 3 ∧
        behind.storedExitCode (event.inferiorId.getD 1) = some 3 := by
  have hsurvives := @exit_code_survives_iff Scripted _ 3
  refine ⟨?_, ?_⟩
  · exact (hsurvives.1 {} {} (exitedGroup 3) {} _ (some 1) rfl rfl rfl rfl).mpr (by decide)
  · obtain ⟨event, hevent, hiff⟩ := hsurvives.2 { runtime := {}, gdb := Script.accepting.play } _ "-exec-run"
      { notify := [exitedStop 3] } (exitedStop 3) rfl rfl rfl rfl
    exact ⟨event, hevent, hiff.mpr (by decide)⟩

/-- An inferior exits with code 8, printed as `010`, and is said to have exited with code 10. -/
theorem exit_code_eight :
    let before : Session Scripted := { runtime := {}, gdb := Script.accepting.play }
    let behind := ((takeNotifications "-exec-run" { notify := [exitedStop 8] }).run before).2.runtime
    renderExitCode 8 = "010" ∧ ((scanNotify {} (exitedGroup 8)).run {}).2.storedExitCode 1 = some 10 ∧
      behind.lastStopEvent.bind StopEvent.exitCode = some 10 ∧ behind.storedExitCode 1 = some 10 := by
  refine ⟨rfl, ?_, ?_, ?_⟩
  · decide +kernel
  · decide +kernel
  · decide +kernel

end Session
end GdbMcp
