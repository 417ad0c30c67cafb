import ScriptBind.Proofs.AssemblyInvariants
import ScriptBind.Proofs.BindingComparisons

/-!
# Operations and the Sessions They Lead To

What can be asked of a session from outside: resolving a type, binding a record,
registering a callable, writing trampolines, wrapping functions and showing
variables. All of it consists of changes, from whatever session it starts, so a
property that changes keep is kept by every operation, whether it succeeds or
not.

A session is reachable if operations lead to it from the beginning. Sessions in
the middle of an operation count as well: any change leads from a reachable
session to a reachable one. The session at the end of a module is among them.

## Main definitions

* `Operation`: What can be asked of a session.
* `Operation.after`: The session after an operation.
* `Session.Reachable`: The sessions that operations and changes lead to.

## Theorems

* `bindStep_keeps`, `bindersWithin_keepAnswered`: Binding keeps what it allows to be
  kept.
* `evolves_carries`: Binding consists of changes.
* `sparesFunctions_carries`, `sparesVariables_carries`: Binding says nothing of
  functions or variables as a whole.
* `Carries.after`, `Carries.sessionAtEnd`: What is carried through binding is
  carried through operations and through a whole module.
* `Reachable.invariant`: What the beginning has and changes keep.
* `reachable_sessionAtEnd`: The end of a module is reachable.
-/

namespace ScriptBind

open BindM

variable {library : Library} {scope : Scope library}

section Binding

variable {R : Session → Session → Prop} [IsPreorder Session R] {binders : Binders}
  {known : Session → Record → BoundMembers → Prop} (hknown : Session.Foreknown library known)
  (hR : Session.AllowsKnown scope known R) (h : binders.Keep scope (scope.Guarded R))

include hknown hR h

/-- A record is entered, its members are bound, and it is left and concluded. -/
theorem bindFresh_keeps (hgrow : binders.Grow library) {key : String} {deferred : DeferredStruct}
    (hr : scope.records key deferred.record) {session : Session} (hw : session.Within scope)
    (hk : key ∉ session.inProgress) (hn : session.structs.get? key = none) :
    Ensures True library (bindFresh binders key deferred) session
      fun _ session' => session'.Within scope ∧ R session session' := by
  have hentered : session.Change scope (session.enter key) := .enter hk hn
  have hmade :=
    bindRecord_brings hR.settleFailed h.parts hr (session.enter key) (hentered.within hw)
  simp only [bindFresh, ensures_bind, ensures_look, ensures_update, ensures_attempt]
  refine ((hmade.and (bindRecord_grows hgrow key deferred.record _)).and
    (hknown.members hgrow key deferred.record _)).mono fun result session' hall => ?_
  obtain ⟨⟨⟨⟨hw', he⟩, hmembers⟩, hg⟩, hof⟩ := hall
  have hleft : R session (session'.leave key) :=
    trans_of R (trans_of R (hR.enter session key hk hn) he) (hR.leave session' key)
  have hwleft : (session'.leave key).Within scope := (Session.Change.leave session' key).within hw'
  -- Nothing bound meanwhile can have settled the record, for it was being bound.
  have hn' := Session.get?_leave hk hn hg
  cases result with
  | ok members =>
      simp only [ensures_bind, ensures_update, ensures_pure]
      obtain ⟨rfl, hm⟩ := hmembers members rfl
      exact ⟨(Session.Change.commit deferred.typedef hm hn').within hwleft,
        trans_of R hleft (hR.commit _ deferred.typedef deferred.record members hm hr
          (hknown.leave (hof members rfl) _) hn')⟩
  | error error =>
      simp only [ensures_bind, ensures_update, ensures_pure]
      rw [Session.conclude]
      split
      · exact ⟨(Session.Change.defer hr hn').within hwleft,
          trans_of R hleft (hR.defer _ key deferred hr hn')⟩
      · exact ⟨(Session.Change.fail error hr hn').within hwleft,
          trans_of R hleft (hR.fail _ key deferred.record error hr hn')⟩

omit hknown in
theorem retryDeferred_keeps (rounds : Nat) :
    Keeps library (scope.Guarded R) (retryDeferred binders rounds) := by
  induction rounds with
  | zero => exact Keeps.ofEndless
  | succ rounds ih =>
      refine Scope.Brings.true_iff.1 fun session hw => ?_
      rw [retryDeferred, ensures_bind, ensures_look]
      dsimp only
      split
      · exact ensures_pure.2 ⟨⟨hw, refl_of R session⟩, fun _ _ => trivial⟩
      · next key deferred hhead =>
          have hr := hw.deferred _ (List.mem_of_mem_head? hhead)
          simp only [ensures_bind, ensures_update, ensures_attempt]
          refine (h.bind key deferred.record deferred.typedef hr _).mono fun _ session' hb => ?_
          obtain ⟨hw', he⟩ := hb ((Session.Change.takeDeferred session key).within hw)
          refine (ih session').mono fun _ _ hrest => ?_
          obtain ⟨hw'', he'⟩ := hrest hw'
          have htaken := trans_of R (hR.takeDeferred session key) he
          exact ⟨⟨hw'', trans_of R htaken he'⟩, fun _ _ => trivial⟩

/-- Binding a record keeps what its members keep. -/
theorem bindStep_keeps (hgrow : binders.Grow library) (rounds : Nat) {key : String}
    {record : Record} (hr : scope.records key record) (typedef : Option MemberTypedef) :
    Keeps library (scope.Guarded R) (bindStep rounds binders key record typedef) := by
  intro session
  rw [bindStep, ensures_bind, ensures_look]
  dsimp only
  split
  · exact Keeps.pure _ session
  · exact Keeps.fail _ session
  · rw [ensures_bind, ensures_update]
    refine ensures_fail.2 fun hw => ?_
    exact ⟨hw.of_eq rfl fun _ hm => hm, hR.meet session⟩
  · next hlook =>
      rw [Prod.mk.injEq] at hlook
      have hk : key ∉ session.inProgress := by simpa using hlook.2
      have hfresh : Ensures True library (bindFresh binders key ⟨record, typedef⟩) session
          fun _ session' => scope.Guarded R session session' := by
        by_cases hw : session.Within scope
        · exact (bindFresh_keeps hknown hR h hgrow hr hw hk hlook.1).mono fun _ _ he _ => he
        · exact ensures_of_forall (fun _ _ hw' => absurd hw' hw) trivial
      rw [ensures_bind]
      refine hfresh.mono fun result session' he => ?_
      cases result with
      | error error => exact he
      | ok result =>
          dsimp only
          -- What comes after the record itself is compared with the session it finds.
          refine Keeps.after (Keeps.bind (Keeps.look _) fun isLast => ?_) he
          split
          · refine Keeps.bind (retryDeferred_keeps hR h rounds) fun _ => ?_
            refine Keeps.bind (Keeps.look _) fun _ => ?_
            split
            · exact Keeps.pure _
            · exact Keeps.ofExcept _
          · exact Keeps.ofExcept _

end Binding

/-- Within any number of levels, resolving and binding keep what they allow to be
    kept, given what is known of answers and of members. -/
theorem bindersWithin_keepAnswered {R : Session → Session → Prop} [IsPreorder Session R]
    {answered : Session → CType → Conversion → Prop}
    {known : Session → Record → BoundMembers → Prop}
    (hanswer : ∀ levels, (bindersWithin levels).Answer library answered)
    (hknown : Session.Foreknown library known)
    (hallows : Session.AllowsAnswered scope answered (scope.Guarded R))
    (hR : Session.AllowsKnown scope known R) (levels : Nat) :
    (bindersWithin levels).Keep scope (scope.Guarded R) := by
  induction levels with
  | zero =>
      exact ⟨fun _ _ _ => Keeps.ofEndless, fun _ _ _ _ => Keeps.ofEndless, fun _ _ _ _ => trivial⟩
  | succ levels ih =>
      exact ⟨fun links type ht =>
        resolveStep_keepsAnswered (hanswer levels) hallows ih.parts links ht,
        fun key record typedef hr =>
          bindStep_keeps hknown hR ih (bindersWithin_grow levels) levels hr typedef,
        (bindersWithin_grow (levels + 1)).verdict⟩

/-- The same where nothing need be known of answers. -/
theorem bindersWithin_keepKnown {R : Session → Session → Prop} [IsPreorder Session R]
    {known : Session → Record → BoundMembers → Prop} (hknown : Session.Foreknown library known)
    (hallows : Session.Allows scope (scope.Guarded R)) (hR : Session.AllowsKnown scope known R)
    (levels : Nat) : (bindersWithin levels).Keep scope (scope.Guarded R) :=
  bindersWithin_keepAnswered (fun levels => (bindersWithin levels).answer_true library) hknown
    hallows.answered hR levels

/-- The same where nothing need be known of members either. -/
theorem bindersWithin_keep {R : Session → Session → Prop} [IsPreorder Session R]
    (hallows : Session.Allows scope (scope.Guarded R)) (hR : Session.AllowsBinding scope R)
    (levels : Nat) : (bindersWithin levels).Keep scope (scope.Guarded R) :=
  bindersWithin_keepKnown (Session.foreknown_true library) hallows hR.known levels

/-- Binding consists of changes. -/
theorem evolves_carries (scope : Scope library) : scope.Carries (Session.Evolves scope) :=
  have hallows : Session.Allows scope (scope.Guarded (Session.Evolves scope)) :=
    Session.allows_of_additions fun ha _ => (Session.Change.add ha).evolves
  .of_allows hallows.toAllowsLearning (fun ha _ => (Session.Change.add ha).evolves) fun levels =>
    (bindersWithin_keep hallows (Session.evolves_allowsBinding scope) levels).parts

/-- Binding says nothing of functions or variables as a whole. -/
theorem sparesKinds_carries (scope : Scope library) {ofCode : Section → Bool}
    {ofDiagnostic : Diagnostic → Bool}
    (hcode : ∀ code : Section, code.isOfDeclared = false → ofCode code = false)
    (hdiagnostic : ∀ diagnostic : Diagnostic, diagnostic.isOfDeclared = false →
      ofDiagnostic diagnostic = false) :
    scope.CarriesTypes (Session.SparesKinds ofCode ofDiagnostic) :=
  have hmono : ∀ {session session' : Session}, session.SparesDeclared session' →
      session.SparesKinds ofCode ofDiagnostic session' := fun hs => hs.mono hcode hdiagnostic
  have hallows : Session.Allows scope (scope.Guarded (Session.SparesKinds ofCode ofDiagnostic)) :=
    Session.allows_of_additions fun _ hs => hmono hs
  have hbinding := Session.sparesKinds_allowsBinding scope hcode hdiagnostic
  .of_allows hallows.toAllowsLearning (fun _ hs _ => hmono hs) fun levels =>
    (bindersWithin_keep hallows hbinding levels).parts

/-- Binding spares functions, but for where they are wrapped. -/
theorem sparesFunctions_carries (scope : Scope library) :
    scope.CarriesTypes Session.SparesFunctions :=
  sparesKinds_carries scope (fun _ h => (Bool.or_eq_false_iff.1 h).1)
    fun _ h => (Bool.or_eq_false_iff.1 h).1

/-- Binding spares variables, but for where they are shown. -/
theorem sparesVariables_carries (scope : Scope library) :
    scope.CarriesTypes Session.SparesVariables :=
  sparesKinds_carries scope (fun _ h => (Bool.or_eq_false_iff.1 h).2)
    fun _ h => (Bool.or_eq_false_iff.1 h).2

/-- What can be asked of a session. -/
inductive Operation where
  /-- Finding the conversion of a type. -/
  | resolve (type : CType)
  /-- Binding a record under a key. -/
  | bind (key : String) (record : Record)
  /-- Finding the conversion of arrays of a fixed length. -/
  | array (element : CType) (length : Nat)
  /-- Finding the conversion of arrays of unknown length. -/
  | openArray (element : CType)
  /-- Registering a callable. -/
  | register (site : Site)
  /-- Writing a trampoline. -/
  | emit (callback : Callback)
  /-- Writing the trampolines that records mention. -/
  | emitPending
  /-- Writing the wrapper of a function. -/
  | wrap (function : CFunction)
  /-- The same, with a diagnostic where it fails. -/
  | wrapOrReject (function : CFunction)
  /-- Showing variables. -/
  | showGlobals (globals : List Global)
  /-- Binding the cell for a pointer. -/
  | bindCell

namespace Operation

/-- The operation as a computation. -/
def action : Operation → BindM Unit
  | .resolve type => do let _ ← ScriptBind.resolve type
  | .bind key record => do let _ ← bindStruct key record
  | .array element length => do let _ ← resolveArray element length
  | .openArray element => do let _ ← resolveOpenArray element
  | .register site => do let _ ← registerCallable site
  | .emit callback => emitCallback callback
  | .emitPending => ScriptBind.emitPending
  | .wrap function => do let _ ← wrapFunction function
  | .wrapOrReject function => do let _ ← ScriptBind.wrapOrReject function
  | .showGlobals globals => do let _ ← ScriptBind.showGlobals globals
  | .bindCell => bindPointerCell

/-- The session after the operation, whether it succeeds or fails. -/
def after (operation : Operation) (library : Library) (session : Session) : Session :=
  (operation.action.run library.naming.moduleName library session).2

/-- What the operation is about is in a scope. -/
def Within (scope : Scope library) : Operation → Prop
  | .resolve type => scope.types type
  | .bind key record => scope.records key record
  | .array element _ => scope.types element
  | .openArray element => scope.types element
  | .register site => site.Within scope
  | .emit callback => callback.Within scope
  | .emitPending => True
  | .wrap function => function.Within scope
  | .wrapOrReject function => function.Within scope
  | .showGlobals globals => ∀ global ∈ globals, scope.types global.type
  | .bindCell => True

theorem within_all (operation : Operation) : operation.Within (Scope.all library) := by
  cases operation with
  | wrap function => exact ⟨trivial, fun _ _ => trivial⟩
  | wrapOrReject function => exact ⟨trivial, fun _ _ => trivial⟩
  | showGlobals globals => exact fun _ _ => trivial
  | _ => trivial

/-- The session after an operation is the one that its computation comes to. -/
theorem after_of_outcome {operation : Operation} {session session' : Session}
    {result : Except BindError Unit}
    (h : operation.action.outcome library session = some (result, session')) :
    operation.after library session = session' := by
  rw [after, BindM.run, h, Option.getD_some]

/-- The session that resolving a type comes to. -/
theorem after_resolve {type : CType} {session session' : Session}
    {result : Except BindError Conversion}
    (h : (ScriptBind.resolve type).outcome library session = some (result, session')) :
    (Operation.resolve type).after library session = session' := by
  cases result with
  | ok conversion => exact after_of_outcome (by rw [action, outcome_bind, h]; rfl)
  | error error => exact after_of_outcome (by rw [action, outcome_bind, h])

end Operation

namespace Scope.Carries

variable {R : Session → Session → Prop} [IsPreorder Session R] (h : scope.Carries R)

include h

/-- What is carried through binding is carried through every operation. -/
theorem action {operation : Operation} (ho : operation.Within scope) :
    Keeps library (scope.Guarded R) operation.action := by
  cases operation with
  | resolve type => exact Keeps.bind (h.types.resolve type ho) fun _ => Keeps.pure _
  | bind key record => exact Keeps.bind (h.types.bindStruct ho) fun _ => Keeps.pure _
  | array element length => exact Keeps.bind (h.types.resolveArray ho length) fun _ => Keeps.pure _
  | openArray element => exact Keeps.bind (h.types.resolveOpenArray ho) fun _ => Keeps.pure _
  | register site => exact Keeps.bind (h.types.registerCallable ho) fun _ => Keeps.pure _
  | emit callback => exact h.types.emitCallback ho
  | emitPending => exact h.types.emitPending
  | wrap function => exact Keeps.bind (h.wrapFunction ho) fun _ => Keeps.pure _
  | wrapOrReject function => exact Keeps.bind (h.wrapOrReject ho) fun _ => Keeps.pure _
  | showGlobals globals => exact Keeps.bind (h.showGlobals ho) fun _ => Keeps.pure _
  | bindCell => exact h.types.bindPointerCell

/-- Where an operation comes to no end, the session is as it was. -/
theorem after {operation : Operation} (ho : operation.Within scope) {session : Session}
    (hw : session.Within scope) : (operation.after library session).Within scope ∧
      R session (operation.after library session) :=
  (h.action ho).run library.naming.moduleName session hw

omit h in
/-- What is carried through binding is carried through a whole module. -/
theorem sessionAtEnd {decls : Declarations} {options : Options}
    {scope : Scope (libraryOf decls options)} (h : scope.Carries R)
    (hf : ∀ function ∈ decls.functions, function.Within scope)
    (hg : ∀ global ∈ decls.globals, scope.types global.type) :
    (ScriptBind.sessionAtEnd decls options).Within scope ∧
      R (.start options.naming) (ScriptBind.sessionAtEnd decls options) := by
  -- The session so far is compared with the beginning at every step.
  let P : Session → Prop := fun session => session.Within scope ∧ R (.start options.naming) session
  have hbinding : ∀ {α : Type} {action : BindM α},
      Keeps (libraryOf decls options) (scope.Guarded R) action →
      AssemblyM.Preserves (libraryOf decls options) P (AssemblyM.binding action) := by
    intro α action hk
    refine .binding fun session hs => (hk session).mono fun _ _ hguarded => ?_
    obtain ⟨hw, hr⟩ := hguarded hs.1
    exact ⟨hw, trans_of R hs.2 hr⟩
  have hall : AssemblyM.Upholds (libraryOf decls options) P :=
    { emit := fun session code hp hs =>
        have hadd : session.Addition scope (session.emit code) := .emit session hp
        have hspares : session.SparesConversions (session.emit code) :=
          session.sparesConversions_emit (Section.isArrayConverter_of_isOfModule hp)
        ⟨hadd.within hs.1, trans_of R hs.2 (h.addition hadd hspares)⟩
      wrap := fun function hm => hbinding (h.wrapOrReject (hf function hm))
      cell := hbinding h.types.bindPointerCell
      globals := hbinding (h.showGlobals hg) }
  exact hall.sessionAtEnd (hbinding h.types.emitPending) ⟨Session.within_start scope _, refl_of R _⟩

end Scope.Carries

/-- The sessions that operations lead to from the beginning, and those on the
    way. -/
inductive Session.Reachable (scope : Scope library) : Session → Prop where
  /-- Nothing is bound yet. -/
  | start : Reachable scope (.start library.naming)
  /-- After an operation. -/
  | perform {session : Session} (operation : Operation) :
      Reachable scope session → operation.Within scope →
      Reachable scope (operation.after library session)
  /-- In the middle of an operation, or between two. -/
  | change {session session' : Session} :
      Reachable scope session → session.Change scope session' → Reachable scope session'

namespace Session

variable {session : Session}

/-- What is reachable comes about by changes. -/
theorem Reachable.evolves (h : session.Reachable scope) :
    (Session.start library.naming).Evolves scope session := by
  induction h with
  | start => exact .refl
  | perform operation _ ho ih =>
      exact ih.trans ((evolves_carries scope).after ho (ih.within (within_start scope _))).2
  | change _ hchange ih => exact ih.tail hchange

theorem Evolves.reachable (h : (start library.naming).Evolves scope session) :
    session.Reachable scope := by
  induction h with
  | refl => exact .start
  | tail _ hchange ih => exact ih.change hchange

/-- What the beginning has and every change keeps, every reachable session has. -/
theorem Reachable.invariant {P : Session → Prop} (hstart : P (Session.start library.naming))
    (hstep : ∀ {s s' : Session}, s.Change scope s' → P s → P s') (h : session.Reachable scope) :
    P session :=
  h.evolves.invariant hstep hstart

/-- The end of a module is reachable. -/
theorem reachable_sessionAtEnd {decls : Declarations} {options : Options}
    {scope : Scope (libraryOf decls options)}
    (hf : ∀ function ∈ decls.functions, function.Within scope)
    (hg : ∀ global ∈ decls.globals, scope.types global.type) :
    (sessionAtEnd decls options).Reachable scope :=
  ((evolves_carries scope).sessionAtEnd hf hg).2.reachable

end Session

end ScriptBind
