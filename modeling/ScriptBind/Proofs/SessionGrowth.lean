import ScriptBind.Proofs.Operations

/-!
# Sessions Only Grow

Whatever is asked of a session, and whether it succeeds or fails, the session
has afterwards what it had before: conversions, outcomes of records and typedefs
of records keep their values and their places at the front of their tables,
diagnostics and code come first in the later ones. Only bookkeeping goes away
again, such as the records being bound.

Two tables are written in a way that could replace a row. That the outcome of a
record replaces nothing is part of what is known of the change: a record is
bound or has failed only if it had no outcome. Nothing else of a session is
written in this way but the outcomes of callbacks, which may change and are not
spoken of here.

## Main definitions

* `Session.Extends`: A session with more in it.

## Theorems

* `Change.extends`: Every change only adds.
* `operations_only_append`: So does every operation, from every session.
-/

namespace ScriptBind

namespace Session

/-- A session that has everything another had, in front. -/
structure Extends (session session' : Session) : Prop where
  /-- The conversions. -/
  registry : session.registry.rows <+: session'.registry.rows
  /-- The outcomes of records. -/
  structs : session.structs.rows <+: session'.structs.rows
  /-- The typedefs of records. -/
  aliases : session.aliases.rows <+: session'.aliases.rows
  /-- The diagnostics. -/
  diagnostics : session.diagnostics <+: session'.diagnostics
  /-- The code. -/
  body : session.body <+: session'.body

variable {library : Library} {scope : Scope library} {session session' : Session}

theorem Extends.refl (session : Session) : session.Extends session :=
  ⟨List.prefix_refl _, List.prefix_refl _, List.prefix_refl _, List.prefix_refl _,
    List.prefix_refl _⟩

instance : IsPreorder Session Extends where
  refl := Extends.refl
  trans := fun _ _ _ h h' =>
    ⟨h.registry.trans h'.registry, h.structs.trans h'.structs, h.aliases.trans h'.aliases,
      h.diagnostics.trans h'.diagnostics, h.body.trans h'.body⟩

/-- What is known later was known before, or nothing was known then. -/
theorem Extends.known_or_new (h : session.Extends session') {key : String} {conversion : Conversion}
    (hk : session'.registry.get? key = some conversion) :
    session.registry.get? key = some conversion ∨ session.registry.get? key = none := by
  cases hknown : session.registry.get? key with
  | none => exact .inr rfl
  | some known =>
      have hlater := Table.get?_of_initial h.registry hknown
      rw [hk] at hlater
      exact .inl hlater.symm

theorem Grows.extends (h : session.Grows session') : session.Extends session' where
  registry := h.registry
  structs := h.structs
  aliases := h.aliases
  diagnostics := h.diagnostics
  body := by
    obtain ⟨added, hb, -⟩ := h.body
    exact ⟨added, hb.symm⟩

theorem extends_emit (session : Session) (code : Section) : session.Extends (session.emit code) :=
  { Extends.refl session with body := List.prefix_append .. }

/-- An outcome is added for a record that has none. -/
theorem extends_settleStruct {key : String} (hn : session.structs.get? key = none)
    (outcome : StructOutcome) : session.Extends (session.settleStruct key outcome) :=
  { Extends.refl session with
    structs := by
      rw [settleStruct, Table.set_rows_of_fresh hn]
      exact List.prefix_append .. }

theorem Addition.extends (h : session.Addition scope session') : session.Extends session' := by
  cases h with
  | learn => exact (session.grows_addConversion _ _).extends
  | typedef conversion =>
      exact ((session.grows_addConversion _ conversion).trans (grows_shareWithAlias _ _ _)).extends
  | array converter conversion =>
      exact trans_of Extends (session.extends_emit _) (grows_addConversion _ _ conversion).extends
  | settleFailed => exact { Extends.refl session with }
  | write => exact { extends_emit session _ with }
  | stub => exact session.extends_emit _
  | wrap => exact session.extends_emit _
  | emit => exact session.extends_emit _
  | reject => exact (session.grows_reject _).extends

/-- Every change only adds. -/
theorem Change.extends (h : session.Change scope session') : session.Extends session' := by
  cases h with
  | add h => exact h.extends
  | enter => exact { Extends.refl session with }
  | leave => exact { Extends.refl session with }
  | meet => exact { Extends.refl session with }
  | defer => exact { Extends.refl session with }
  | takeDeferred => exact { Extends.refl session with }
  | fail error _ hn =>
      exact trans_of Extends (extends_settleStruct hn _) (grows_reject _ _).extends
  | @commit members typedef _ hn =>
      rw [commit_eq]
      -- The record had no outcome, so its own is a new row.
      exact
        { registry := (Table.prefix_add ..).trans (Table.prefix_add ..)
          structs := (extends_settleStruct hn (.done members.bound)).structs
          aliases := List.prefix_refl _
          diagnostics := List.prefix_append ..
          body := List.prefix_append .. }

theorem Evolves.extends (h : session.Evolves scope session') : session.Extends session' := by
  induction h with
  | refl => exact Extends.refl session
  | tail _ hchange ih => exact trans_of Extends ih hchange.extends

end Session

/-- From every session and whatever comes of it, an operation leaves the old
    conversions, outcomes of records and typedefs where they are, and adds to
    the diagnostics and to the text of the code at the end. -/
theorem operations_only_append (library : Library) (session : Session) (operation : Operation) :
    let session' := operation.after library session
    session.registry.rows <+: session'.registry.rows ∧
      session.structs.rows <+: session'.structs.rows ∧
      session.aliases.rows <+: session'.aliases.rows ∧
      session.diagnostics <+: session'.diagnostics ∧
      ∃ added, bodyText library.naming.moduleName session'.body =
        bodyText library.naming.moduleName session.body ++ added := by
  have hevolves := ((evolves_carries (Scope.all library)).after operation.within_all
    (Session.within_all session)).2
  obtain ⟨registry, structs, aliases, diagnostics, ⟨added, hbody⟩⟩ := hevolves.extends
  refine ⟨registry, structs, aliases, diagnostics, bodyText library.naming.moduleName added, ?_⟩
  rw [← hbody, bodyText_append]

end ScriptBind
