import GdbMcp.BaseTextFacts
import GdbMcp.RunnerCommand
import GdbMcp.RunnerMutators
import GdbMcp.TransportCompletion

/-! The stop that an update sees: the first `stopped` notification among the records that it is given. -/

namespace GdbMcp

open Eff Completion

/-! ### Parsed notifications and results -/

/-- The notification that a record is parsed into. -/
def MiRecord.notification (r : MiRecord) : Option MiNotifyRecord :=
  if r.type = .notify then some ⟨r.message, r.payload⟩ else none

theorem notification_eq_some {r : MiRecord} {n : MiNotifyRecord} (h : r.notification = some n) :
    r.type = .notify ∧ n = ⟨r.message, r.payload⟩ := by
  unfold MiRecord.notification at h
  split at h
  · rename_i htype
    exact ⟨htype, (Option.some.inj h).symm⟩
  · exact nomatch h

def MiNotifyRecord.isStop (n : MiNotifyRecord) : Bool := n.message == some "stopped"

theorem notify_parseMiResponses (records : List MiRecord) :
    (parseMiResponses records).notify = records.filterMap MiRecord.notification := by
  have hfold : ∀ parsed : ParsedMiResponse, (records.foldl ParsedMiResponse.add parsed).notify =
      parsed.notify ++ records.filterMap MiRecord.notification := by
    induction records with
    | nil => simp
    | cons r rest ih =>
        intro parsed
        rw [List.foldl_cons, ih, List.filterMap_cons]
        cases htype : r.type <;> simp [ParsedMiResponse.add, MiRecord.notification, htype]
  exact hfold {}

/-- The notifications of a response are those of its two lists of records. -/
theorem mem_notify_parseResponse {result : MiTransportResponse} {n : MiNotifyRecord}
    (h : n ∈ (Session.parseResponse result).notify) :
    ∃ r ∈ result.commandResponses ++ result.asyncNotifications, r.notification = some n := by
  rw [Session.parseResponse, notify_parseMiResponses, notify_parseMiResponses, ← List.filterMap_append] at h
  exact List.mem_filterMap.mp h

/-- The class and the payload of a parsed response are those of its last result record. -/
theorem result_parseMiResponses (records : List MiRecord) :
    (parseMiResponses records).resultClass =
        ((records.filter (·.type == .result)).getLast?).bind MiRecord.message ∧
      (parseMiResponses records).result =
        (((records.filter (·.type == .result)).getLast?).map MiRecord.payload).getD .none := by
  induction records using List.reverseRecOn with
  | nil => exact ⟨rfl, rfl⟩
  | append_singleton records r ih =>
      rw [parseMiResponses, List.foldl_append, List.filter_append]
      cases htype : r.type <;> simp_all [ParsedMiResponse.add, parseMiResponses]

theorem stops_notifications (records : List MiRecord) :
    (records.filterMap MiRecord.notification).filter MiNotifyRecord.isStop =
      (stops records).map fun r => ⟨r.message, r.payload⟩ := by
  induction records with
  | nil => rfl
  | cons r rest ih =>
      rw [List.filterMap_cons, stops, List.filter_cons, MiRecord.notification, MiRecord.isStop]
      rw [stops] at ih
      by_cases htype : r.type = .notify
      · cases hmessage : r.message == some "stopped" <;>
          simp [htype, MiNotifyRecord.isStop, hmessage, ih]
      · simp [htype, ih]

/-! ### The fields of a stop -/

theorem exists_ok_of_bind {ε α β : Type} {x : Except ε α} {next : α → Except ε β} {b : β}
    (h : (x >>= next) = .ok b) : ∃ a, x = .ok a ∧ next a = .ok b := by
  cases x with
  | error e => exact nomatch h
  | ok a => exact ⟨a, rfl, h⟩

theorem readStopFields_payload {payload : Value} {stop : StopFields}
    (h : readStopFields payload = .ok stop) : stop.payload = payload := by
  unfold readStopFields at h
  split at h
  · obtain ⟨code, -, h⟩ := exists_ok_of_bind h
    obtain ⟨k, -, h⟩ := exists_ok_of_bind h
    obtain ⟨level, -, h⟩ := exists_ok_of_bind h
    obtain ⟨thread, -, h⟩ := exists_ok_of_bind h
    exact (congrArg StopFields.payload (Except.ok.inj h)).symm
  · exact (congrArg StopFields.payload (Except.ok.inj h)).symm

/-- What is read of a stop depends on its fields alone. -/
theorem readStopFields_asDict (payload : Value) :
    readStopFields payload =
      (readStopFields payload.asDict).map fun stop => { stop with payload := payload } := by
  cases payload with
  | dict fields =>
      rw [Value.asDict]
      cases hread : readStopFields (.dict fields) with
      | error e => rfl
      | ok stop => rw [Except.map, ← readStopFields_payload hread]
  | _ => rfl

theorem readStopFields_reason {payload : Value} {stop : StopFields} (h : readStopFields payload = .ok stop) :
    stop.reason = asText (payload.get "reason") := by
  unfold readStopFields at h
  split at h
  · obtain ⟨code, -, h⟩ := exists_ok_of_bind h
    obtain ⟨k, -, h⟩ := exists_ok_of_bind h
    obtain ⟨level, -, h⟩ := exists_ok_of_bind h
    obtain ⟨thread, -, h⟩ := exists_ok_of_bind h
    exact (congrArg StopFields.reason (Except.ok.inj h)).symm
  · rename_i hdict
    have hnone : payload.get "reason" = .none := by
      cases payload with
      | dict fields => exact absurd rfl hdict
      | _ => rfl
    rw [hnone]
    exact (congrArg StopFields.reason (Except.ok.inj h)).symm

/-! ### What a scan finds -/

namespace MiNotifyRecord

/-- The fields that a scan reads of the notification can be read. -/
def Readable (n : MiNotifyRecord) : Prop :=
  let group := parseInferiorIdFromThreadGroup (n.payload.asDict.get "id")
  match n.message with
  | some "thread-group-added" => group.isOk
  | some "thread-group-started" => group.isOk
  | some "thread-group-exited" => group.isOk ∧ (parseExitCode (n.payload.asDict.get "exit-code")).isOk
  | some "thread-group-removed" => group.isOk
  | some "stopped" => (readStopFields n.payload).isOk
  | _ => True

/-- The notification is about a thread group. -/
def isThreadGroup (n : MiNotifyRecord) : Bool :=
  ["thread-group-added", "thread-group-started", "thread-group-exited", "thread-group-removed"].any
    fun message => n.message == some message

theorem readable_of_stop {n : MiNotifyRecord} (hplain : n.isThreadGroup = false)
    (hstop : n.isStop = true → (readStopFields n.payload).isOk = true) : n.Readable := by
  unfold Readable
  split <;> rename_i hmessage
  iterate 4 simp [isThreadGroup, hmessage] at hplain
  · exact hstop (by simp [isStop, hmessage])
  · trivial

end MiNotifyRecord

/-- The fields of the first `stopped` notification. -/
def firstStop (notifies : List MiNotifyRecord) : Option StopFields :=
  (notifies.find? MiNotifyRecord.isStop).bind fun n => (readStopFields n.payload).toOption

theorem wp_ofExcept_of_isOk {σ ε α : Type} {x : Except ε α} {Q : α → σ → Prop} {R : ε → σ → Prop} {s : σ}
    (hx : x.isOk = true) (hQ : ∀ a, x = .ok a → Q a s) : wp (Eff.ofExcept x) Q R s := by
  cases x with
  | ok a => exact hQ a rfl
  | error e => exact nomatch hx

theorem firstStop_singleton_of_ne {notify : MiNotifyRecord} (h : notify.isStop = false) :
    firstStop [notify] = none := by
  simp [firstStop, h]

/-- A scan of a readable notification returns, and remembers it if it is the first stop. -/
theorem scanNotify_stop {notify : MiNotifyRecord} (hreadable : notify.Readable) (scan : StopScan)
    (rt : SessionRuntime) :
    wp (scanNotify scan notify) (fun scan' _ => scan'.stop = (scan.stop <|> firstStop [notify]))
      (fun _ _ => False) rt := by
  have hother : notify.isStop = false → (scan.stop <|> firstStop [notify]) = scan.stop := fun h => by
    rw [firstStop_singleton_of_ne h]
    cases scan.stop <;> rfl
  unfold scanNotify
  extract_lets fields
  split <;> rename_i hmessage
  · rw [hother (by simp [MiNotifyRecord.isStop, hmessage]), wp_bind]
    have hid : (parseInferiorIdFromThreadGroup (fields.get "id")).isOk = true := by
      simpa [MiNotifyRecord.Readable, hmessage] using hreadable
    refine wp_ofExcept_of_isOk hid fun id _ => ?_
    cases id <;> rfl
  · rw [hother (by simp [MiNotifyRecord.isStop, hmessage]), wp_bind]
    have hid : (parseInferiorIdFromThreadGroup (fields.get "id")).isOk = true := by
      simpa [MiNotifyRecord.Readable, hmessage] using hreadable
    refine wp_ofExcept_of_isOk hid fun id _ => ?_
    cases id <;> rfl
  · rw [hother (by simp [MiNotifyRecord.isStop, hmessage]), wp_bind]
    have hfields : (parseInferiorIdFromThreadGroup (fields.get "id")).isOk = true ∧
        (parseExitCode (fields.get "exit-code")).isOk = true := by
      simpa [MiNotifyRecord.Readable, hmessage] using hreadable
    refine wp_ofExcept_of_isOk hfields.1 fun id _ => ?_
    rw [wp_bind]
    exact wp_ofExcept_of_isOk hfields.2 fun code _ => rfl
  · rw [hother (by simp [MiNotifyRecord.isStop, hmessage]), wp_bind]
    have hid : (parseInferiorIdFromThreadGroup (fields.get "id")).isOk = true := by
      simpa [MiNotifyRecord.Readable, hmessage] using hreadable
    refine wp_ofExcept_of_isOk hid fun id _ => ?_
    cases id <;> rfl
  · cases hstop : scan.stop with
    | some stop => simp [hstop]
    | none =>
        have hread : (readStopFields notify.payload).isOk = true := by
          simpa [MiNotifyRecord.Readable, hmessage] using hreadable
        simp only [wp_bind]
        refine wp_ofExcept_of_isOk hread fun stop hfields => ?_
        simp [firstStop, MiNotifyRecord.isStop, hmessage, hfields, Except.toOption]
  · rw [hother (by simpa [MiNotifyRecord.isStop] using hmessage)]
    rfl

theorem firstStop_cons (notify : MiNotifyRecord) (rest : List MiNotifyRecord) (hreadable : notify.Readable) :
    firstStop (notify :: rest) = (firstStop [notify] <|> firstStop rest) := by
  cases hstop : notify.isStop with
  | false => simp [firstStop, hstop]
  | true =>
      have hmessage : notify.message = some "stopped" := by simpa [MiNotifyRecord.isStop] using hstop
      have hread : (readStopFields notify.payload).isOk = true := by
        simpa [MiNotifyRecord.Readable, hmessage] using hreadable
      cases hfields : readStopFields notify.payload with
      | ok stop => simp [firstStop, hstop, hfields, Except.toOption]
      | error e =>
          rw [hfields] at hread
          exact nomatch hread

/-- A scan of readable notifications returns, and remembers the first stop. -/
theorem scanNotifies_stop {notifies : List MiNotifyRecord} (hreadable : ∀ n ∈ notifies, n.Readable)
    (scan : StopScan) (rt : SessionRuntime) :
    wp (scanNotifies scan notifies) (fun scan' _ => scan'.stop = (scan.stop <|> firstStop notifies))
      (fun _ _ => False) rt := by
  induction notifies generalizing scan rt with
  | nil =>
      cases hstop : scan.stop <;> simp [scanNotifies, firstStop, hstop]
  | cons notify rest ih =>
      have hhead := hreadable notify List.mem_cons_self
      rw [scanNotifies, wp_bind]
      refine wp_mono (scanNotify_stop hhead scan rt) (fun scan₁ rt₁ h₁ => ?_) fun _ _ h => h
      refine wp_mono (ih (fun n hn => hreadable n (List.mem_cons_of_mem _ hn)) scan₁ rt₁)
        (fun scan₂ rt₂ h₂ => ?_) fun _ _ h => h
      rw [h₂, h₁, firstStop_cons notify rest hhead]
      cases scan.stop <;> cases firstStop [notify] <;> rfl

/-- A scan without thread groups changes nothing but what it remembers. -/
theorem scanNotifies_plain {notifies : List MiNotifyRecord} (hplain : ∀ n ∈ notifies, n.isThreadGroup = false)
    (scan : StopScan) (rt : SessionRuntime) :
    wp (scanNotifies scan notifies)
      (fun scan' rt' => scan'.sawInferiorTopologyChange = scan.sawInferiorTopologyChange ∧ rt' = rt)
      (fun _ rt' => rt' = rt) rt := by
  induction notifies generalizing scan with
  | nil => exact ⟨rfl, rfl⟩
  | cons notify rest ih =>
      have hhead := hplain notify List.mem_cons_self
      rw [scanNotifies, wp_bind]
      have hstep : wp (scanNotify scan notify)
          (fun scan' rt' => scan'.sawInferiorTopologyChange = scan.sawInferiorTopologyChange ∧ rt' = rt)
          (fun _ rt' => rt' = rt) rt := by
        unfold scanNotify
        extract_lets fields
        split
        · simp_all [MiNotifyRecord.isThreadGroup]
        · simp_all [MiNotifyRecord.isThreadGroup]
        · simp_all [MiNotifyRecord.isThreadGroup]
        · simp_all [MiNotifyRecord.isThreadGroup]
        · split
          · exact ⟨rfl, rfl⟩
          · rw [wp_bind, wp_ofExcept]
            exact ⟨fun _ _ => ⟨rfl, rfl⟩, fun _ _ => rfl⟩
        · exact ⟨rfl, rfl⟩
      refine wp_mono hstep (fun scan₁ rt₁ ⟨hscan, hrt⟩ => ?_) fun _ _ h => h
      subst hrt
      rw [← hscan]
      exact ih (fun n hn => hplain n (List.mem_cons_of_mem _ hn)) scan₁

/-! ### The text of a command -/

theorem parseDigits_natCast {n : Nat} {r : Option Int} (h : parseDigits (toString (n : Int)) = .ok r) : r = some (n : Int) := by
  have hdigits : PyStr.isdigit (toString (n : Int)) = true := by
    rw [PyStr.isdigit, PyStr.toList_toString_natCast]
    refine Bool.and_eq_true_iff.mpr ⟨by simp, List.all_eq_true.mpr ?_⟩
    exact PyStr.forall_mem_toDigits (by decide) n
  rw [parseDigits, if_pos hdigits] at h
  cases hint : PyStr.int 10 (toString (n : Int)) with
  | error e =>
      rw [hint] at h
      exact nomatch h
  | ok k =>
      rw [hint, PyStr.int_natCast hint] at h
      exact (Except.ok.inj h).symm

/-- The starts of the command texts that change the runtime. -/
def effectivePrefixes : List String :=
  ["file ", "core-file ", "attach ", "detach", "inferior ", "set follow-fork-mode ", "set detach-on-fork "]

/-- A start of a command text that survives its normalization, and that no effective command shares. -/
def inertPrefix (p : String) : Bool :=
  PyStr.solid p && PyStr.lower p == p && effectivePrefixes.all (PyStr.apart p)

/-- The text of a command with an inert start changes nothing. -/
theorem applyCommandText_inert {command p : String} (h : PyStr.startswith command p = true)
    (hp : inertPrefix p = true) (parsed : ParsedMiResponse) : applyCommandText command parsed = pure () := by
  rw [inertPrefix, Bool.and_eq_true, Bool.and_eq_true, beq_iff_eq, List.all_eq_true] at hp
  obtain ⟨⟨hsolid, hlower⟩, hapart⟩ := hp
  have hnormal : PyStr.startswith (normalizeCommand command) p = true := by
    have := PyStr.startswith_lower (PyStr.startswith_strip h hsolid)
    rwa [hlower] at this
  have hother : ∀ q ∈ effectivePrefixes, PyStr.startswith (normalizeCommand command) q = false :=
    fun q hq => PyStr.startswith_apart hnormal (hapart q hq)
  have hdetach : (normalizeCommand command == "detach") = false := by
    refine beq_eq_false_iff_ne.mpr fun heq => ?_
    have hself := hother "detach" (by decide)
    rw [heq] at hself
    exact absurd hself (by decide)
  simp only [effectivePrefixes, List.forall_mem_cons] at hother
  obtain ⟨hfile, hcore, hattach, -, hinferior, hfork, hdetachOnFork, -⟩ := hother
  simp [applyCommandText, loadsTarget, hfile, hcore, hattach, hdetach, hinferior, hfork, hdetachOnFork]

/-- The text of an MI command changes nothing. -/
theorem applyCommandText_mi {command : String} (h : PyStr.startswith command "-" = true)
    (parsed : ParsedMiResponse) : applyCommandText command parsed = pure () :=
  applyCommandText_inert h (by decide) parsed

end GdbMcp
