import Mathlib.Tactic.ByContra
import ScriptBind.Proofs.Termination
import ScriptBind.Proofs.Wiring

/-!
# The Last Trampolines

When all that a module shows has been written, the trampolines are left that
only records mention. They are written one by one, for the callbacks that are
waiting at that moment, and a stub stands for each that cannot be written.

The list of these callbacks is made once. Finding a trampoline resolves its
arguments, though, and that can bind a record whose callbacks then wait as well;
nobody comes back for them. A callback can also fail after it has been declared:
an argument of a function of the same name may be found wanting while the record
is bound, and its failure is what is remembered. So a declared trampoline need
not be defined. `trampolines_defined_iff` says exactly when all are: when each
callback declared in the end was waiting for its trampoline, or had it, when the
last step began. That a trampoline is defined twice can happen for those of
results only, and that a registered one is not defined cannot happen at all.

## Main definitions

* `Session.Promises`: A callback waits for its trampoline or has it.
* `Session.Finishing`: How far the last step has come.

## Theorems

* `emitOrStub_finishing`: One callback gets a trampoline or a stub.
* `emitPending_finishing`: All that wait do, when the trampolines are written.
* `finishing_sessionAtEnd`: The last step has been made.
* `trampolines_defined_iff`: When every trampoline is defined once.
-/

namespace ScriptBind

namespace Session

/-- A callback waits for its trampoline or has it. -/
def Promises (session : Session) (id : String) : Prop :=
  ∃ callback, session.callbacks.get? id = some (.pending callback) ∨
    session.callbacks.get? id = some (.emitted callback)

/-- How far the last step has come: some callbacks still wait, for some stubs
    stand, and the others that were waiting have their trampolines. -/
structure Finishing {library : Library} (pass : Pass library) (before : Session)
    (waiting : List Callback) (stubbed : List String) (session : Session) : Prop where
  /-- Everything comes from somewhere. -/
  accountable : session.Accountable pass
  /-- The trampolines are in order. -/
  wired : session.Wired stubbed
  /-- No stub stands for those of results. -/
  result : resultId ∉ stubbed
  /-- The callbacks in question still wait. -/
  waits : ∀ callback ∈ waiting, session.callbacks.get? callback.name = some (.pending callback)
  /-- They have waited from the beginning. -/
  waited : ∀ callback ∈ waiting, before.Promises callback.name
  /-- What was promised is still waiting or is defined. -/
  kept : ∀ id, before.Promises id →
    (∃ callback ∈ waiting, callback.name = id) ∨ id ∈ definedNames session.body
  /-- What is defined was promised. -/
  promised : ∀ id, id ≠ resultId →
    ((∃ callback, session.callbacks.get? id = some (.emitted callback)) ∨ id ∈ stubbed) →
    before.Promises id

variable {session : Session}

/-- Values picked from rows that are named after them have the names of rows. -/
theorem names_filterMap {f : CallbackState → Option Callback} (rows : List (String × CallbackState))
    (hf : ∀ row ∈ rows, ∀ callback, f row.2 = some callback → callback.name = row.1) :
    (((rows.map Prod.snd).filterMap f).map Callback.name).Sublist (rows.map Prod.fst) := by
  induction rows with
  | nil => exact List.Sublist.refl _
  | cons row rest ih =>
      have hrest := ih fun other ho => hf other (List.mem_cons_of_mem _ ho)
      rw [List.map_cons, List.map_cons]
      cases hc : f row.2 with
      | none =>
          rw [List.filterMap_cons_none hc]
          exact hrest.cons _
      | some callback =>
          rw [List.filterMap_cons_some hc, List.map_cons,
            hf row (List.mem_cons_self ..) callback hc]
          exact hrest.cons_cons _

/-- No two callbacks that wait have one name. -/
theorem nodup_pendingCallbacks {library : Library} {pass : Pass library}
    (h : session.Accountable pass) :
    (session.pendingCallbacks.map Callback.name).Nodup := by
  unfold pendingCallbacks
  refine (names_filterMap session.callbacks.rows fun row hrow callback hc => ?_).nodup
    session.callbacks.distinct
  obtain ⟨id, state⟩ := row
  cases state with
  | pending other =>
      obtain rfl := Option.some.inj hc
      exact (h.vouching.pending id other (Table.get?_of_mem hrow)).name
  | emitted other => cases hc
  | failed error => cases hc

end Session

open BindM

variable {library : Library} {pass : Pass library} {before session : Session}

/-- One callback that waits gets its trampoline, or a stub. -/
theorem emitOrStub_finishing (hl : library.isPatient = false) {callback : Callback}
    {rest : List Callback} {stubbed : List String}
    (hd : ((callback :: rest).map Callback.name).Nodup)
    (hrun : pass.Runs (emitOrStub callback) session)
    (h : Session.Finishing pass before (callback :: rest) stubbed session) :
    Ensures False library (emitOrStub callback) session fun result session' =>
      result = .ok () ∧ ∃ stubbed', Session.Finishing pass before rest stubbed' session' := by
  have hwaits := h.waits callback (List.mem_cons_self ..)
  have hv : Vouched library callback.name callback := h.accountable.vouching.pending _ _ hwaits
  have hnotResult : ∀ other ∈ callback :: rest, other.name ≠ resultId := fun other ho =>
    (h.wired.declared _ (h.wired.pending _ _ (h.waits other ho))).2
  have hnotStubbed : ∀ other ∈ callback :: rest, other.name ∉ stubbed := by
    intro other ho hs
    obtain ⟨-, error, he⟩ := h.wired.stubs _ hs
    rw [h.waits other ho] at he
    cases he
  have hemitted := Upkeep.emitCallback (I := wiring pass stubbed h.result) hv
    (hnotStubbed callback (List.mem_cons_self ..)) session (hrun.call .orStub)
    ⟨h.accountable, h.wired⟩
  rw [emitOrStub, ensures_bind, ensures_attempt]
  refine (((completes_impatient hl).emitCallback callback session trivial).and hemitted).mono
    fun result session' hall => ?_
  obtain ⟨-, ⟨⟨haccountable, hwired⟩, hspares⟩, hstate⟩ := hall
  -- The other callbacks have names of their own, so they still wait.
  have hothers : ∀ other ∈ rest, other.name ≠ callback.name ∧
      session'.callbacks.get? other.name = some (.pending other) := by
    intro other ho
    have hne : other.name ≠ callback.name := fun e =>
      (List.nodup_cons.1 hd).1 (List.mem_map.2 ⟨other, ho, e⟩)
    have hin := List.mem_cons_of_mem callback ho
    exact ⟨hne, hspares.callbacks _ _ (fun he => he.elim (hnotResult other hin) hne)
      (h.waits other hin)⟩
  have hwaited : ∀ other ∈ rest, before.Promises other.name := fun other ho =>
    h.waited other (List.mem_cons_of_mem _ ho)
  have hkept : ∀ id, before.Promises id → id ≠ callback.name →
      (∃ other ∈ rest, other.name = id) ∨ id ∈ definedNames session'.body := by
    intro id hid hne
    rcases h.kept id hid with ⟨other, ho, he⟩ | hdefined
    · rcases List.mem_cons.1 ho with rfl | ho
      · exact absurd he.symm hne
      · exact Or.inl ⟨other, ho, he⟩
    · exact Or.inr (mem_definedNames_of_initial hspares.body hdefined)
  have hpromised : ∀ id, id ≠ resultId →
      ((∃ other, session'.callbacks.get? id = some (.emitted other)) ∨ id ∈ stubbed) →
      before.Promises id := by
    intro id hid hwritten
    by_cases hne : id = callback.name
    · rw [hne]
      exact h.waited callback (List.mem_cons_self ..)
    · refine h.promised id hid (hwritten.imp (fun hw => ?_) fun hs => hs)
      by_contra hn
      obtain ⟨other, ho⟩ := hw
      exact hspares.unwritten id (fun he => he.elim hid hne)
        (fun other' ho' => hn ⟨other', ho'⟩) other ho
  cases result with
  | ok _ =>
      obtain ⟨other, hwritten, -⟩ := hstate
      dsimp only
      rw [ensures_pure]
      refine ⟨rfl, stubbed, haccountable, hwired, h.result, fun other ho => (hothers other ho).2,
        hwaited, fun id hid => ?_, hpromised⟩
      by_cases hne : id = callback.name
      · rw [hne]
        exact Or.inr (haccountable.defined hwritten)
      · exact hkept id hid hne
  | error error =>
      have hstub := (Session.Wired.stub hwired (hnotResult callback (List.mem_cons_self ..))
        (hnotStubbed callback (List.mem_cons_self ..)) hstate).reject
          (callbackDiagnostic callback error)
      dsimp only
      rw [ensures_update]
      refine ⟨rfl, callback.name :: stubbed, (haccountable.emit _).reject _, hstub, ?_,
        fun other ho => (hothers other ho).2, hwaited, fun id hid => ?_, fun id hid hw => ?_⟩
      · intro hr
        rcases List.mem_cons.1 hr with hr | hr
        · exact hnotResult callback (List.mem_cons_self ..) hr.symm
        · exact h.result hr
      · by_cases hne : id = callback.name
        · exact Or.inr (hstub.stubs id (by rw [hne]; exact List.mem_cons_self ..)).1
        · refine (hkept id hid hne).imp (fun e => e) fun hdefined => ?_
          refine mem_definedNames_of_initial ?_ hdefined
          exact (List.prefix_append ..).trans (List.prefix_append ..)
      · rcases hw with hw | hw
        · exact hpromised id hid (Or.inl hw)
        · rcases List.mem_cons.1 hw with rfl | hw
          · exact h.waited callback (List.mem_cons_self ..)
          · exact hpromised id hid (Or.inr hw)

/-- All callbacks that wait get their trampolines, or stubs. -/
theorem forM_finishing (hl : library.isPatient = false) {waiting : List Callback}
    {stubbed : List String}
    (hd : (waiting.map Callback.name).Nodup)
    (hrun : pass.Runs (waiting.forM emitOrStub) session)
    (h : Session.Finishing pass before waiting stubbed session) :
    Ensures False library (waiting.forM emitOrStub) session fun _ session' =>
      ∃ stubbed', Session.Finishing pass before [] stubbed' session' := by
  induction waiting generalizing session stubbed with
  | nil => exact ensures_pure.2 ⟨stubbed, h⟩
  | cons callback rest ih =>
      show Ensures False library (emitOrStub callback >>= fun _ => rest.forM emitOrStub) session _
      rw [ensures_bind]
      refine (emitOrStub_finishing hl hd (hrun.call .trampoline) h).withOutcome.mono
        fun result session' hall => ?_
      obtain ⟨⟨rfl, stubbed', hfinishing⟩, ho⟩ := hall
      rw [List.map_cons, List.nodup_cons] at hd
      exact ih hd.2 (hrun.call (.nextTrampolines ho)) hfinishing

/-- The last step begins with the callbacks that wait. -/
theorem finishing_start (ha : before.Accountable pass) (hw : before.Wired []) :
    Session.Finishing pass before before.pendingCallbacks [] before where
  accountable := ha
  wired := hw
  result := List.not_mem_nil
  waits := by
    intro callback hc
    obtain ⟨id, hid⟩ := Session.mem_pendingCallbacks.1 hc
    rw [(ha.vouching.pending id callback hid).name]
    exact hid
  waited := by
    intro callback hc
    obtain ⟨id, hid⟩ := Session.mem_pendingCallbacks.1 hc
    rw [(ha.vouching.pending id callback hid).name]
    exact ⟨callback, Or.inl hid⟩
  kept := by
    intro id hid
    obtain ⟨callback, hp | he⟩ := hid
    · exact Or.inl ⟨callback, Session.mem_pendingCallbacks.2 ⟨id, hp⟩,
        (ha.vouching.pending id callback hp).name⟩
    · exact Or.inr (ha.defined he)
  promised := by
    intro id _ hwritten
    rcases hwritten with ⟨callback, hc⟩ | hs
    · exact ⟨callback, Or.inr hc⟩
    · exact absurd hs List.not_mem_nil

theorem emitPending_finishing (hl : library.isPatient = false)
    (hrun : pass.Runs emitPending before) (ha : before.Accountable pass)
    (hw : before.Wired []) :
    Ensures False library emitPending before fun _ session' =>
      ∃ stubbed, Session.Finishing pass before [] stubbed session' := by
  rw [emitPending, ensures_bind, ensures_look]
  exact forM_finishing hl (Session.nodup_pendingCallbacks ha) (hrun.call .pending)
    (finishing_start ha hw)

/-- Listing the functions left out changes nothing of the trampolines. -/
theorem Session.Finishing.emit {waiting : List Callback} {stubbed : List String}
    (h : Session.Finishing pass before waiting stubbed session) {code : Section}
    (hp : code.isPlain) :
    Session.Finishing pass before waiting stubbed (session.emit code) :=
  { h with
    accountable := h.accountable.emit code
    wired := h.wired.emit hp
    kept := fun id hid => (h.kept id hid).imp (fun e => e)
      (mem_definedNames_of_initial (List.prefix_append ..)) }

variable (decls : Declarations) (options : Options)

/-- Before the last step, trampolines are in order and no stub stands. -/
theorem wired_sessionBeforePending :
    (sessionBeforePending decls options).Accountable (passOf decls options) ∧
      (sessionBeforePending decls options).Wired [] :=
  Upkeep.sessionBeforePending (wiring _ [] List.not_mem_nil) (fun _ => List.not_mem_nil)
    (Session.wired_start options.naming)

/-- When a module is complete, the last step has been made. -/
theorem finishing_sessionAtEnd : ∃ stubbed, Session.Finishing (passOf decls options)
    (sessionBeforePending decls options) [] stubbed (sessionAtEnd decls options) := by
  obtain ⟨ha, hw⟩ := wired_sessionBeforePending decls options
  have hpending := emitPending_finishing rfl (runs_emitPending decls options) ha hw
  have hlast : AssemblyM.Preserves (libraryOf decls options) (fun session => ∃ stubbed,
      Session.Finishing (passOf decls options) (sessionBeforePending decls options) [] stubbed
        session) (emitNotGenerated (modelOf decls options).functions) := by
    refine emitNotGenerated_preserves _ fun session code hp h => ?_
    obtain ⟨stubbed, hf⟩ := h
    exact ⟨stubbed, hf.emit (Section.isPlain_of_isOfModule hp)⟩
  refine sessionAtEnd_of hlast ?_
  obtain ⟨result, session', ho, hfinishing⟩ := hpending.exists_outcome
  rw [BindM.run, ho]
  exact hfinishing

/-- When a module is complete, no callback waits and each trampoline declared or
    registered is defined exactly once, if and only if each one declared was
    promised when the last step began and that of results is not defined twice
    and registered. -/
theorem trampolines_defined_iff :
    ((sessionAtEnd decls options).pendingCallbacks = [] ∧
        ∀ id, id ∈ declaredNames (assemble decls options).body ∨
            id ∈ registeredNames (assemble decls options).body →
          (definedNames (assemble decls options).body).count id = 1) ↔
      (∀ id ∈ declaredNames (assemble decls options).body,
          (sessionBeforePending decls options).Promises id) ∧
        (resultId ∈ registeredNames (assemble decls options).body →
          (definedNames (assemble decls options).body).count resultId ≤ 1) := by
  obtain ⟨stubbed, hfinishing⟩ := finishing_sessionAtEnd decls options
  rw [body_assemble]
  have hwired := hfinishing.wired
  have hdefined : ∀ id, (sessionBeforePending decls options).Promises id →
      id ∈ definedNames (sessionAtEnd decls options).body := by
    intro id hid
    rcases hfinishing.kept id hid with ⟨callback, hc, -⟩ | hd
    · exact absurd hc List.not_mem_nil
    · exact hd
  constructor
  · rintro ⟨-, hcount⟩
    refine ⟨fun id hid => ?_, fun hr => ?_⟩
    · have hone := hcount id (Or.inl hid)
      have hmem : id ∈ definedNames (sessionAtEnd decls options).body :=
        List.count_pos_iff.1 (by omega)
      have hne := (hwired.declared id hid).2
      exact hfinishing.promised id hne (hwired.defined id hmem hne)
    · have hone := hcount resultId (Or.inr hr)
      omega
  · rintro ⟨hpromised, hresult⟩
    refine ⟨?_, fun id hid => ?_⟩
    · rw [List.eq_nil_iff_forall_not_mem]
      intro callback hc
      obtain ⟨id, hid⟩ := Session.mem_pendingCallbacks.1 hc
      have hdeclared := hwired.pending id callback hid
      -- A callback still waiting would have been promised, and so defined.
      rcases hwired.defined id (hdefined id (hpromised id hdeclared))
        (hwired.declared id hdeclared).2 with ⟨other, ho⟩ | hs
      · rw [hid] at ho
        cases ho
      · obtain ⟨-, error, he⟩ := hwired.stubs id hs
        rw [hid] at he
        cases he
    · have hmem : id ∈ definedNames (sessionAtEnd decls options).body := by
        rcases hid with hd | hr
        · exact hdefined id (hpromised id hd)
        · exact hwired.registered id hr
      have hpos := List.count_pos_iff.2 hmem
      have hle : (definedNames (sessionAtEnd decls options).body).count id ≤ 1 := by
        by_cases hr : id = resultId
        · rcases hid with hd | hreg
          · exact absurd hr (hwired.declared id hd).2
          · rw [hr] at hreg ⊢
            exact hresult hreg
        · exact hwired.once id hr
      omega

/-- A record with a callback that takes a pointer to a record no function mentions,
    which has a callback of its own. -/
def chainedCallbacks : Declarations where
  records := .ofRows
    [("K", ⟨"K", .struct,
        [⟨"user_data", .pointerTo .void, none⟩,
          ⟨"cb", .pointerTo (.function
            ⟨.void, [.pointerTo (.named "K"), .pointerTo (.named "L")], false⟩), none⟩]⟩),
      ("L", ⟨"L", .struct,
        [⟨"user_data", .pointerTo .void, none⟩,
          ⟨"done", .pointerTo (.function ⟨.void, [.pointerTo (.named "L")], false⟩), none⟩]⟩)]
  functions := [⟨"f", .void, [⟨"k", .pointerTo (.named "K")⟩], false⟩]

set_option maxRecDepth 100000 in
/-- The record is bound while the trampoline is being found that takes the pointer,
    and the trampoline of its own callback is declared but never defined. -/
theorem chainedCallbacks_undefined :
    ¬((sessionAtEnd chainedCallbacks { moduleName := "m" }).pendingCallbacks = [] ∧
      ∀ id, id ∈ declaredNames (assemble chainedCallbacks { moduleName := "m" }).body ∨
          id ∈ registeredNames (assemble chainedCallbacks { moduleName := "m" }).body →
        (definedNames (assemble chainedCallbacks { moduleName := "m" }).body).count id = 1) := by
  have hbody : "L_done" ∈ declaredNames (assemble chainedCallbacks { moduleName := "m" }).body ∧
      (definedNames (assemble chainedCallbacks { moduleName := "m" }).body).count "L_done" = 0 := by
    decide +kernel
  rintro ⟨-, hcount⟩
  have hone := hcount "L_done" (Or.inl hbody.1)
  omega

end ScriptBind
