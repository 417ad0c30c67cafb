import ScriptBind.Proofs.DeferredRecords
import ScriptBind.Proofs.DefinedBeforeUse

/-!
# Sessions Between Operations

A session between operations is one that operations have led to, one after
another, with code of the module itself written in between. Nothing is being
bound there and nothing is put off. Much can be said of such sessions that cannot
be said of those in the middle of an operation, where records are half bound and
types stand for less than they will.

## Main definitions

* `Session.Performed`: The sessions between operations.

## Theorems

* `Performed.idle`: Nothing is being bound and nothing is put off.
* `Carries.performed`: What is carried through binding, from the beginning.
* `performed_sessionAtEnd`: The end of a module is between operations.
-/

namespace ScriptBind

open BindM

variable {library : Library} {scope : Scope library}

/-- The sessions that operations on what is in a scope lead to. -/
inductive Session.Performed (scope : Scope library) : Session → Prop where
  /-- Nothing is bound yet. -/
  | start : Performed scope (.start library.naming)
  /-- An operation comes to an end, with or without success. -/
  | perform {session : Session} (operation : Operation) :
      Performed scope session → operation.Within scope →
      Performed scope (operation.after library session)
  /-- Code of the module itself is written. -/
  | emit {session : Session} {code : Section} :
      Performed scope session → code.isOfModule → Performed scope (session.emit code)

/-- An operation leaves the session as it was, or comes to the one after it. -/
theorem Operation.after_cases (operation : Operation) (library : Library) (session : Session) :
    operation.after library session = session ∨
      ∃ result, operation.action.outcome library session =
        some (result, operation.after library session) := by
  rw [Operation.after, BindM.run]
  cases operation.action.outcome library session with
  | none => exact .inl rfl
  | some result => exact .inr ⟨result.1, rfl⟩

namespace Session.Performed

variable {session : Session}

theorem reachable (h : session.Performed scope) : session.Reachable scope := by
  induction h with
  | start => exact .start
  | perform operation _ ho ih => exact ih.perform operation ho
  | emit _ hp ih => exact ih.change (.add (.emit _ hp))

theorem within (h : session.Performed scope) : session.Within scope :=
  h.reachable.evolves.within (within_start scope _)

/-- Nothing is being bound and nothing is put off. -/
theorem idle (h : session.Performed scope) :
    session.inProgress = [] ∧ session.deferred.rows = [] := by
  induction h with
  | start => exact ⟨rfl, rfl⟩
  | perform operation _ _ ih =>
      obtain ⟨hidle, hrows, -⟩ := after_concludes library operation ih.1 ih.2
      exact ⟨hidle, hrows⟩
  | emit _ _ ih => exact ih

theorem underway (h : session.Performed scope) : session.Underway library := by
  induction h with
  | start => exact .start
  | @perform session operation _ _ ih =>
      rcases operation.after_cases library session with he | ⟨result, ho⟩
      · rwa [he]
      · exact .run (.operation operation) ih ho
  | emit _ hp ih =>
      refine ih.note rfl rfl fun code hc => ?_
      rw [List.mem_singleton.1 hc]
      exact Section.isSilent_of_isOfModule hp

end Session.Performed

/-- What is carried through binding relates every session between operations to
    the beginning. -/
theorem Scope.Carries.performed {R : Session → Session → Prop} [IsPreorder Session R]
    (h : scope.Carries R) {session : Session} (hs : session.Performed scope) :
    R (.start library.naming) session := by
  induction hs with
  | start => exact refl_of R _
  | perform operation hs ho ih => exact trans_of R ih (h.after ho hs.within).2
  | @emit session code _ hp ih =>
      have hspares : session.SparesConversions (session.emit code) :=
        session.sparesConversions_emit (Section.isArrayConverter_of_isOfModule hp)
      exact trans_of R ih (h.addition (.emit session hp) hspares)

/-- The end of a module is between operations. -/
theorem performed_sessionAtEnd {decls : Declarations} {options : Options}
    {scope : Scope (libraryOf decls options)}
    (hf : ∀ function ∈ decls.functions, function.Within scope)
    (hg : ∀ global ∈ decls.globals, scope.types global.type) :
    (sessionAtEnd decls options).Performed scope := by
  -- A step that binds does to the session what the operation does.
  have hbinding : ∀ {α : Type} {action : BindM α} (operation : Operation),
      operation.action = (do let _ ← action) → operation.Within scope →
      AssemblyM.Preserves (libraryOf decls options) (Session.Performed scope)
        (AssemblyM.binding action) := by
    intro α action operation he ho
    refine .binding fun session hs => ?_
    have hafter := ensures_outcome (libraryOf decls options) operation.action session
    rw [he, ensures_bind] at hafter
    refine hafter.mono fun result session' hout => ?_
    have hdone : operation.after (libraryOf decls options) session = session' := by
      cases result with
      | error error =>
          rw [Operation.after, BindM.run, he, hout]
          rfl
      | ok answer =>
          rw [Operation.after, BindM.run, he, ensures_pure.1 hout]
          rfl
    exact hdone ▸ hs.perform operation ho
  have hunit : ∀ {action : BindM Unit}, action = (do let _ ← action) := bind_pure_unit.symm
  have hall : AssemblyM.Upholds (libraryOf decls options) (Session.Performed scope) :=
    { emit := fun session code hp hs => hs.emit hp
      wrap := fun function hm => hbinding (.wrapOrReject function) rfl (hf function hm)
      cell := hbinding .bindCell hunit trivial
      globals := hbinding (.showGlobals _) rfl hg }
  exact hall.sessionAtEnd (hbinding .emitPending hunit trivial) .start

end ScriptBind
