import GdbMcp.InferiorCommands
import GdbMcp.SessionOutcome

/-! The selected inferior behind the creation of one that is not to be the current one. -/

namespace GdbMcp

open Eff

namespace Session

theorem ok_of_update {W : Type} {f : SessionRuntime → SessionRuntime} {u : Unit} {s s' : Session W}
    (hrun : (update f).run s = (.ok u, s')) : s'.runtime = f s.runtime ∧ s'.gdb = s.gdb := by
  obtain ⟨-, rfl⟩ := Prod.mk.inj hrun
  exact ⟨rfl, rfl⟩

variable {s s' : Session InferiorDebugger} {command : String} {target : Option Int} {c : Int}

/-- The inferior is the selected one of the debugger and the current one of the session. -/
structure Rests (s : Session InferiorDebugger) (c : Int) : Prop where
  selection : s.gdb.selection = c
  current : s.runtime.currentInferiorId = some c

theorem Rests.eq {k : Int} (h : s.Rests c) (h' : s.Rests k) : c = k := h.selection.symm.trans h'.selection

theorem Followed.rests {result : OperationResult CommandExecutionInfo} (h : Followed s command target c result s')
    (hcommand : SelectsInferior command target) (hrests : s.Rests c) :
    s'.Rests (if result.isSuccess then target.getD c else c) where
  selection := by
    rw [h.gdb, h.isSuccess, InferiorDebugger.asked, inferiorAnswer, hcommand.line, hrests.selection]
  current := by
    rw [h.isSuccess]
    exact h.current

/-- What a command that must be accepted leaves behind. -/
structure Required (s : Session InferiorDebugger) (command : String) (target : Option Int) (c : Int)
    (result : OperationResult Unit) (s' : Session InferiorDebugger) : Prop where
  gdb : s'.gdb = s.gdb.asked (actualCommand command)
  hasController : s'.runtime.hasController = true
  isSuccess : result.isSuccess = (s.inferiorAnswer command).accepted
  rests : s'.Rests (if result.isSuccess then target.getD c else c)

theorem require_rests (hcommand : SelectsInferior command target) (hs : s.runtime.hasController = true)
    (hrests : s.Rests c) {result : OperationResult Unit} (hrun : (require command).run s = (.ok result, s')) :
    Required s command target c result s' := by
  obtain ⟨first, s₁, hquery, hrest⟩ := ok_of_run_bind hrun
  have hfollowed := query_followed hcommand hs hrests.current hquery
  have hfirst := hfollowed.rests hcommand hrests
  have hsame : result.isSuccess = first.isSuccess ∧ s' = s₁ := by
    rcases ok_of_orReturn hrest with ⟨hfails, hresult, heq⟩ | ⟨value, warnings, rfl, hpure⟩
    · exact ⟨hresult.trans hfails.symm, heq⟩
    · obtain ⟨hresult, rfl⟩ := Prod.mk.inj hpure
      exact ⟨Except.ok.inj hresult ▸ rfl, rfl⟩
  obtain ⟨hsuccess, rfl⟩ := hsame
  exact ⟨hfollowed.gdb, hfollowed.hasController, hsuccess.trans hfollowed.isSuccess, hsuccess ▸ hfirst⟩

/-- A listing marks no other inferior than the selected one. -/
def Lists (answers : Nat → String → Int → InferiorAnswer) : Prop :=
  ∀ count selection listing, parseInferiorsOutput (answers count (actualCommand "info inferiors") selection).output
    (some selection) = .ok listing → listing.currentInferiorId = some selection

theorem refreshInferiorInventory_rests (hlists : Lists s.gdb.answers) (hs : s.runtime.hasController = true)
    (hrests : s.Rests c) {result : OperationResult InferiorListInfo}
    (hrun : refreshInferiorInventory.run s = (.ok result, s')) : s'.Rests c := by
  obtain ⟨first, s₁, hquery, hrest⟩ := ok_of_run_bind hrun
  have hfollowed := query_followed selectsInferior_info hs hrests.current hquery
  have hfirst : s₁.Rests c := by
    have h := hfollowed.rests selectsInferior_info hrests
    rwa [Option.getD_none, ite_self] at h
  rcases ok_of_orReturn hrest with ⟨-, -, rfl⟩ | ⟨info, warnings, rfl, hinfo⟩
  · exact hfirst
  obtain ⟨parsed, rfl, hreads⟩ := hfollowed.value info warnings rfl
  obtain ⟨current, s₂, hread, hparses⟩ := ok_of_run_bind hinfo
  obtain ⟨hcurrent, rfl⟩ := Prod.mk.inj hread
  obtain ⟨listing, s₃, hparse, hlisted⟩ := ok_of_run_bind hparses
  obtain ⟨hlisting, rfl⟩ := ok_of_narrow hparse
  obtain ⟨_, s₄, hupdate, hpure⟩ := ok_of_run_bind hlisted
  obtain ⟨hruntime, hgdb⟩ := ok_of_update hupdate
  obtain ⟨-, rfl⟩ := Prod.mk.inj hpure
  have hmarks : listing.currentInferiorId = some c := by
    refine hlists s.gdb.count c listing ?_
    have hremembered : current = some c := (Except.ok.inj hcurrent).symm.trans hfirst.current
    rw [inferiorAnswer, InferiorDebugger.answer, hrests.selection] at hreads
    rw [← hlisting, output_of_reads (by decide) hreads, hremembered]
    rfl
  have hselection := SessionRuntime.selection_updateInferiorInventory s₃.runtime listing.currentInferiorId listing.count
    (some (inferiorIds listing))
  rw [← hruntime, SessionRuntime.nextCurrent, hmarks] at hselection
  exact ⟨hgdb ▸ hfirst.selection, congrArg Prod.fst hselection⟩

/-- What is loaded into an inferior, and where it leaves the selection. -/
inductive Loads (d : InferiorDebugger) (c : Int) (k : Nat) (executable : Option String)
    (result : OperationResult Unit) (s' : Session InferiorDebugger) : Prop
  | nothing (hnone : executable = none) (hsuccess : result.isSuccess = true) (hrests : s'.Rests c)
  | unselected (hresult : result.isSuccess = false)
      (hselect : (d.answer (actualCommand (inferiorCommand k))).accepted = false) (hrests : s'.Rests c)
  | refused (path : String) (hpath : executable = some path) (hresult : result.isSuccess = false)
      (hselect : (d.answer (actualCommand (inferiorCommand k))).accepted = true)
      (hload : ((d.asked (actualCommand (inferiorCommand k))).answer (actualCommand (execFileCommand path))).accepted = false)
      (hrests : s'.Rests k)
  | loaded (path : String) (hpath : executable = some path) (hsuccess : result.isSuccess = true)
      (hload : ((d.asked (actualCommand (inferiorCommand k))).answer (actualCommand (execFileCommand path))).accepted = true)
      (hrests : s'.Rests k)

theorem loadExecutable_loads {k : Nat} {executable : Option String} (hs : s.runtime.hasController = true)
    (hrests : s.Rests c) {result : OperationResult Unit} (hrun : (loadExecutable k executable).run s = (.ok result, s')) :
    Loads s.gdb c k executable result s' ∧ s'.runtime.hasController = true ∧ s'.gdb.answers = s.gdb.answers := by
  cases executable with
  | none =>
      obtain ⟨hresult, rfl⟩ := Prod.mk.inj hrun
      exact ⟨.nothing rfl (Except.ok.inj hresult ▸ rfl) hrests, hs, rfl⟩
  | some path =>
      obtain ⟨first, s₁, hselect, hrest⟩ := ok_of_run_bind hrun
      have hselected := require_rests (selectsInferior_inferior k) hs hrests hselect
      have hanswers : s₁.gdb.answers = s.gdb.answers := by
        rw [hselected.gdb]
        rfl
      have hplace := hselected.rests
      rcases ok_of_orReturn hrest with ⟨hfails, hresult, rfl⟩ | ⟨value, warnings, rfl, hload⟩
      · rw [hfails] at hplace
        exact ⟨.unselected hresult (hselected.isSuccess ▸ hfails) hplace, hselected.hasController, hanswers⟩
      · have hloaded := require_rests (selectsInferior_execFile path) hselected.hasController hplace hload
        have hkept : s'.Rests k := by
          have h := hloaded.rests
          rwa [Option.getD_none, ite_self] at h
        have hanswer := hloaded.isSuccess
        rw [inferiorAnswer, hselected.gdb] at hanswer
        have hanswers' : s'.gdb.answers = s₁.gdb.answers := by
          rw [hloaded.gdb]
          rfl
        refine ⟨?_, hloaded.hasController, hanswers'.trans hanswers⟩
        cases hresult : result.isSuccess with
        | false => exact .refused path rfl hresult hselected.isSuccess.symm (hanswer.symm.trans hresult) hkept
        | true => exact .loaded path rfl hresult (hanswer.symm.trans hresult) hkept

/-- The way back to an inferior is accepted. -/
def Restores (answers : Nat → String → Int → InferiorAnswer) (c : Nat) : Prop :=
  ∀ count selection, selection ≠ (c : Int) → (answers count (actualCommand (inferiorCommand c)) selection).accepted = true

/-- The selection goes back to the inferior before, from where the executable has been loaded. -/
theorem settleSelection_rests {k c : Nat} {executable : Option String} {x : Int} (hrestores : Restores s.gdb.answers c)
    (hs : s.runtime.hasController = true) (hrests : s.Rests x)
    (hx : executable = none ∧ x = c ∨ executable ≠ none ∧ x = k) {result : OperationResult Unit}
    (hrun : (settleSelection (some (c : Int)) k executable false).run s = (.ok result, s')) :
    s'.Rests c ∧ s'.runtime.hasController = true ∧ s'.gdb.answers = s.gdb.answers := by
  have hstays : x = c → s' = s → s'.Rests c ∧ s'.runtime.hasController = true ∧ s'.gdb.answers = s.gdb.answers := by
    rintro rfl rfl
    exact ⟨hrests, hs, rfl⟩
  cases executable with
  | none =>
      have hsame : x = c := by simpa using hx
      exact hstays hsame (Prod.mk.inj hrun).2.symm
  | some path =>
      obtain rfl : x = k := by simpa using hx
      change (if (c : Int) ≠ k then require (inferiorCommand c) else pure (.success ())).run s = _ at hrun
      by_cases hne : (c : Int) ≠ k
      · rw [if_pos hne] at hrun
        have hback := require_rests (selectsInferior_inferior c) hs hrests hrun
        have hplace := hback.rests
        rw [hback.isSuccess, inferiorAnswer, InferiorDebugger.answer,
          hrestores _ _ (hrests.selection.trans_ne hne.symm)] at hplace
        exact ⟨hplace, hback.hasController, hback.gdb ▸ rfl⟩
      · rw [if_neg hne] at hrun
        exact hstays (not_not.mp hne).symm (Prod.mk.inj hrun).2.symm

/-- A selection that is settled stays behind the refresh of the inventory. -/
theorem rests_of_settled {k c : Nat} {executable : Option String} {x : Int} (hrestores : Restores s.gdb.answers c)
    (hlists : Lists s.gdb.answers) (hs : s.runtime.hasController = true) (hrests : s.Rests x)
    (hx : executable = none ∧ x = c ∨ executable ≠ none ∧ x = k) {result : OperationResult InferiorAddInfo}
    (hrun : (do
      orReturn (← settleSelection (some (c : Int)) k executable false) fun _ => do
        orReturn (← refreshInferiorInventory) fun inventory => return addReport k executable false inventory).run s =
      (.ok result, s')) : s'.Rests c := by
  obtain ⟨settled, s₁, hsettle, hrest⟩ := ok_of_run_bind hrun
  obtain ⟨hrests₁, hcontroller, hanswers⟩ := settleSelection_rests hrestores hs hrests hx hsettle
  rcases ok_of_orReturn hrest with ⟨-, -, rfl⟩ | ⟨value, warnings, -, hinventory⟩
  · exact hrests₁
  obtain ⟨inventory, s₂, hrefresh, hreport⟩ := ok_of_run_bind hinventory
  have hrests₂ := refreshInferiorInventory_rests (hanswers ▸ hlists) hcontroller hrests₁ hrefresh
  rcases ok_of_orReturn hreport with ⟨-, -, rfl⟩ | ⟨value, warnings, -, hpure⟩
  · exact hrests₂
  · obtain ⟨-, rfl⟩ := Prod.mk.inj hpure
    exact hrests₂

/-- The executable is refused while the new inferior is selected. -/
def RefusesFile (d : InferiorDebugger) (k : Int) (executable : Option String) : Prop :=
  ∃ path, executable = some path ∧ (d.answer (actualCommand (inferiorCommand k))).accepted = true ∧
    ((d.asked (actualCommand (inferiorCommand k))).answer (actualCommand (execFileCommand path))).accepted = false

theorem settleInferior_rests_iff {k c : Nat} {executable : Option String} (hrestores : Restores s.gdb.answers c)
    (hlists : Lists s.gdb.answers) (hs : s.runtime.hasController = true) (hrests : s.Rests c)
    {result : OperationResult InferiorAddInfo} (hrun : (settleInferior k executable false).run s = (.ok result, s')) :
    s'.Rests c ↔ ¬((k : Int) ≠ c ∧ RefusesFile s.gdb k executable) := by
  obtain ⟨previous, s₀, hread, hensure⟩ := ok_of_run_bind hrun
  obtain ⟨hprevious, rfl⟩ := Prod.mk.inj hread
  obtain rfl : previous = some (c : Int) := (Except.ok.inj hprevious).symm.trans hrests.current
  obtain ⟨_, s₁, hupdate, hloads⟩ := ok_of_run_bind hensure
  obtain ⟨hruntime, hgdb⟩ := ok_of_update hupdate
  obtain ⟨loaded, s₂, hload, hsettles⟩ := ok_of_run_bind hloads
  have hselection := SessionRuntime.selection_ensureInferior s.runtime k
  rw [← hruntime] at hselection
  have hrests₁ : s₁.Rests c := ⟨hgdb ▸ hrests.selection, (congrArg Prod.fst hselection).trans hrests.current⟩
  have hcontroller : s₁.runtime.hasController = true := by
    rw [hruntime]
    exact (congrArg (fun frame => frame.2.2.1.controller.isSome) (SessionRuntime.frame_ensureInferior s.runtime k)).trans hs
  obtain ⟨hcase, hcontroller₂, hanswers⟩ := loadExecutable_loads hcontroller hrests₁ hload
  rw [hgdb] at hanswers hcase
  have hafter : ∀ x, s₂.Rests x → (executable = none ∧ x = c ∨ executable ≠ none ∧ x = k) → loaded.isSuccess = true →
      s'.Rests c := by
    intro x hx hplace hsuccess
    rcases ok_of_orReturn hsettles with ⟨hfails, -, -⟩ | ⟨value, warnings, -, hrest⟩
    · exact nomatch hfails.symm.trans hsuccess
    · exact rests_of_settled (hanswers ▸ hrestores) (hanswers ▸ hlists) hcontroller₂ hx hplace hrest
  have hstopped : loaded.isSuccess = false → s' = s₂ := by
    intro hfails
    rcases ok_of_orReturn hsettles with ⟨-, -, heq⟩ | ⟨value, warnings, rfl, -⟩
    · exact heq
    · exact nomatch hfails
  cases hcase with
  | nothing hnone hsuccess hplace =>
      refine iff_of_true (hafter c hplace (.inl ⟨hnone, rfl⟩) hsuccess) fun ⟨_, path, hpath, _⟩ => ?_
      exact nomatch hpath.symm.trans hnone
  | unselected hresult hselect hplace =>
      rw [hstopped hresult]
      exact iff_of_true hplace fun ⟨_, _, _, haccepted, _⟩ => nomatch haccepted.symm.trans hselect
  | refused path hpath hresult hselect hload hplace =>
      rw [hstopped hresult]
      have hrefuses : RefusesFile s.gdb k executable := ⟨path, hpath, hselect, hload⟩
      by_cases hk : (k : Int) = c
      · rw [hk] at hplace
        exact iff_of_true hplace fun h => h.1 hk
      · exact iff_of_false (fun h => hk (hplace.eq h)) (not_not.mpr ⟨hk, hrefuses⟩)
  | loaded path hpath hsuccess hload hplace =>
      refine iff_of_true (hafter k hplace (.inr ⟨hpath ▸ nofun, rfl⟩) hsuccess) fun ⟨_, path', hpath', _, hrefused⟩ => ?_
      obtain rfl := Option.some.inj (hpath.symm.trans hpath')
      exact nomatch hload.symm.trans hrefused

/-- The executable is refused in an inferior that is new. -/
def Strands (d : InferiorDebugger) (c : Int) (executable : Option String) : Prop :=
  ∃ k, (d.answer (actualCommand "-add-inferior")).accepted = true ∧
    parseInferiorIdFromThreadGroup ((d.answer (actualCommand "-add-inferior")).payload.get "inferior") = .ok (some k) ∧
    k ≠ c ∧ RefusesFile (d.asked (actualCommand "-add-inferior")) k executable

/-- **An inferior that is not to be the current one.** Its creation leaves the selection of the debugger and the current
inferior of the session as they were, exactly if the executable is not refused in the new inferior. -/
theorem addInferior_rests_iff {c : Nat} {executable : Option String} {result : OperationResult InferiorAddInfo}
    (hrests : s.Rests c) (hrestores : Restores s.gdb.answers c) (hlists : Lists s.gdb.answers)
    (hrun : (addInferior executable false).run s = (.ok result, s')) :
    s'.Rests c ↔ ¬(s.runtime.hasController = true ∧ Strands s.gdb c executable) := by
  obtain ⟨first, s₁, hadd, hrest⟩ := ok_of_run_bind hrun
  cases hs : s.runtime.hasController with
  | false =>
      rw [query, executeCommandResult_detached hs] at hadd
      obtain ⟨hfirst, rfl⟩ := Prod.mk.inj hadd
      obtain rfl := Except.ok.inj hfirst
      obtain ⟨-, rfl⟩ := Prod.mk.inj hrest
      exact iff_of_true hrests fun h => by cases h.1
  | true =>
      rw [eq_self, true_and]
      have hadded := query_followed selectsInferior_add hs hrests.current hadd
      have hplace := hadded.rests selectsInferior_add hrests
      rw [Option.getD_none, ite_self] at hplace
      rcases ok_of_orReturn hrest with ⟨hfails, -, rfl⟩ | ⟨info, warnings, rfl, hinfo⟩
      · refine iff_of_true hplace fun hstrands => ?_
        obtain ⟨_, haccepted, _⟩ := hstrands
        rw [hadded.isSuccess] at hfails
        cases hfails.symm.trans haccepted
      obtain ⟨id, s₂, hparse, hid⟩ := ok_of_run_bind hinfo
      obtain ⟨hparsed, rfl⟩ := ok_of_narrow hparse
      obtain ⟨parsed, rfl, hreads⟩ := hadded.value info warnings rfl
      rw [payload_of_reads (by decide) hreads] at hparsed
      cases id with
      | none =>
          obtain ⟨-, rfl⟩ := Prod.mk.inj hid
          refine iff_of_true hplace fun hstrands => ?_
          obtain ⟨k, _, hk, _⟩ := hstrands
          cases Except.ok.inj (hparsed.symm.trans hk)
      | some id =>
          obtain ⟨k, rfl⟩ := parseInferiorIdFromThreadGroup_natural hparsed
          have hanswers : s₂.gdb.answers = s.gdb.answers := by
            rw [hadded.gdb]
            rfl
          rw [settleInferior_rests_iff (hanswers ▸ hrestores) (hanswers ▸ hlists) hadded.hasController hplace hid, hadded.gdb]
          have haccepted : (s.gdb.answer (actualCommand "-add-inferior")).accepted = true := hadded.isSuccess.symm
          refine not_congr ⟨fun h => ⟨k, haccepted, hparsed, h⟩, fun hstrands => ?_⟩
          obtain ⟨k', _, hk', h⟩ := hstrands
          obtain rfl := Option.some.inj (Except.ok.inj (hparsed.symm.trans hk'))
          exact h

end Session
/-! ### A debugger with two inferiors -/

theorem ok_of_isOk {σ ε α : Type} {m : Eff σ ε α} {s : σ} (h : (m.run s).1.isOk = true) :
    ∃ a, m.run s = (.ok a, (m.run s).2) := by
  cases hvalue : (m.run s).1 with
  | error e =>
      rw [hvalue] at h
      exact nomatch h
  | ok a => exact ⟨a, Prod.ext hvalue rfl⟩

open Session

def listingText (selection : Int) : String :=
  if selection = 1 then "* 1    <null>\n  2    <null>\n"
  else if selection = 2 then "  1    <null>\n* 2    <null>\n" else ""

def listingRecord (selection : Int) : MiRecord where
  type := .console
  payload := .str (listingText selection)

theorem listingRecord_calm (selection : Int) : (listingRecord selection).Calm where
  notResult := nofun
  notFatal := by
    unfold listingRecord listingText
    split_ifs <;> decide +kernel
  stream := fun _ => rfl
  calm := nofun

/-- A debugger that adds inferior 2, and that loads a file or refuses it. -/
def addingTwo (loads : Bool) (_ : Nat) (line : String) (selection : Int) : InferiorAnswer :=
  if line = "-add-inferior" then { payload := .dict [("inferior", .str "i2")] }
  else if line = actualCommand "info inferiors" then
    { others := [listingRecord selection]
      calm := fun _ hr => List.mem_singleton.mp hr ▸ listingRecord_calm selection }
  else if PyStr.startswith line "-interpreter-exec console \"exec-file " then { accepted := loads }
  else {}

/-- A session at inferior 1 of such a debugger. -/
def addingSession (loads : Bool) : Session InferiorDebugger where
  runtime := ({ transport := { controller := some {} } } : SessionRuntime).markReady
  gdb := { answers := addingTwo loads, selection := 1 }

theorem addingSession_rests (loads : Bool) : (addingSession loads).Rests 1 := ⟨rfl, rfl⟩

theorem restores_addingTwo (loads : Bool) : Restores (addingTwo loads) 1 := by
  intro count selection _
  have hadd : actualCommand (inferiorCommand (1 : Nat)) ≠ "-add-inferior" := by decide +kernel
  have hinfo : actualCommand (inferiorCommand (1 : Nat)) ≠ actualCommand "info inferiors" := by decide +kernel
  have hload : ¬PyStr.startswith (actualCommand (inferiorCommand (1 : Nat))) "-interpreter-exec console \"exec-file " = true := by
    decide +kernel
  rw [addingTwo, if_neg hadd, if_neg hinfo, if_neg hload]

/-- The output that lists the inferiors. -/
theorem output_addingTwo (loads : Bool) (count : Nat) (selection : Int) :
    (addingTwo loads count (actualCommand "info inferiors") selection).output =
      if listingText selection = "" then "(no output)" else PyStr.strip (listingText selection) := by
  have hadd : actualCommand "info inferiors" ≠ "-add-inferior" := by decide +kernel
  have htext : streamText (([listingRecord selection].filter (·.type == .console)).map MiRecord.payload) =
      listingText selection := by
    simp [listingRecord, streamText, PyStr.join]
  rw [addingTwo, if_neg hadd, if_pos rfl, InferiorAnswer.output, htext]

theorem current_of_parse {output : String} {remembered current : Option Int} {listing : InferiorListInfo}
    (hcurrent : (parseInferiorsOutput output remembered).map InferiorListInfo.currentInferiorId = .ok current)
    (hparse : parseInferiorsOutput output remembered = .ok listing) : listing.currentInferiorId = current := by
  rw [hparse] at hcurrent
  exact Except.ok.inj hcurrent

theorem lists_addingTwo (loads : Bool) : Lists (addingTwo loads) := by
  intro count selection listing hparse
  rw [output_addingTwo, listingText] at hparse
  by_cases hone : selection = 1
  · subst hone
    exact current_of_parse (by decide +kernel) hparse
  by_cases htwo : selection = 2
  · subst htwo
    exact current_of_parse (by decide +kernel) hparse
  have hrows : (PyStr.splitlines "(no output)").mapM parseInferiorRow = .ok [none] := by decide +kernel
  rw [if_neg hone, if_neg htwo, if_pos rfl, parseInferiorsOutput, hrows] at hparse
  rw [← Except.ok.inj hparse]
  rfl

theorem addInferior_rests_iff_loaded :
    ((addInferior (some "a.out") false).run (addingSession true)).2.Rests 1 := by
  have hok : ((addInferior (some "a.out") false).run (addingSession true)).1.isOk = true := by decide +kernel
  obtain ⟨result, hrun⟩ := ok_of_isOk hok
  have hiff := addInferior_rests_iff (addingSession_rests true) (restores_addingTwo true) (lists_addingTwo true) hrun
  refine hiff.mpr ?_
  rintro ⟨-, k, -, hk, -, path, hpath, -, hrefused⟩
  obtain rfl := Option.some.inj hpath
  have hid : parseInferiorIdFromThreadGroup
      (((addingSession true).gdb.answer (actualCommand "-add-inferior")).payload.get "inferior") = .ok (some 2) := by
    decide +kernel
  obtain rfl := Option.some.inj (Except.ok.inj (hid.symm.trans hk))
  exact absurd hrefused (by decide +kernel)

/-- A file that is refused leaves the session in inferior 2. -/
theorem refused_file_strands :
    (addingSession false).Rests 1 ∧ Restores (addingSession false).gdb.answers 1 ∧ Lists (addingSession false).gdb.answers ∧
      ∃ result s', (addInferior (some "a.out") false).run (addingSession false) = (.ok result, s') ∧ ¬s'.Rests 1 := by
  have hok : ((addInferior (some "a.out") false).run (addingSession false)).1.isOk = true := by decide +kernel
  obtain ⟨result, hrun⟩ := ok_of_isOk hok
  refine ⟨addingSession_rests false, restores_addingTwo false, lists_addingTwo false, result, _, hrun, fun h => ?_⟩
  exact absurd h.selection (by decide +kernel)

end GdbMcp
