import ScriptBind.Proofs.Transparency

/-!
# Variables of Typedefs

A variable is shown as an instance of the record that its type leads to. A typedef of
a record leads there by the identifier that it has taken over when it was resolved,
and it has taken it over whenever it is known, unless it is known to be an enum or a
record of its own. Between operations, where what has been learned belongs together,
it is neither.

The identifier is looked up under the spelling of what the typedef stands for. A
typedef of another typedef finds none there and is left without, though it is
resolved to the same conversion as the record itself. Its variables are left out.

## Main definitions

* `Session.AliasesFollow`: The identifiers of typedefs are those of bound records.

## Theorems

* `Reachable.aliasesFollow`: Typedefs have the identifiers of their records.
* `Performed.get?_aliases`: A typedef of a record has an identifier once it is known.
* `showGlobal_of_known`: What becomes of a variable whose type is known.
* `typedefs_shown`: Variables of a typedef are shown if it is one of a record.
* `chainedTypedefs_unnamed`: A typedef of a typedef has no identifier.
-/

namespace ScriptBind

open BindM

variable {library : Library} {session session' : Session} {name : String}

namespace Session

section Identifiers

variable {scope : Scope library}

/-- The identifier that a typedef has is that of the bound record that it is a
    typedef of. -/
def AliasesFollow (library : Library) (session : Session) : Prop :=
  ∀ name identifier, session.aliases.get? name = some identifier →
    ∃ underlying bound, library.decls.typedefs.get? name = some underlying ∧
      session.structs.get? underlying.spelling = some (.done bound) ∧ identifier = bound.name

theorem structs_shareWithAlias (session : Session) (name underlying : String) :
    (session.shareWithAlias name underlying).structs = session.structs := by
  obtain ⟨registry, aliases, he⟩ := session.shareWithAlias_eq name underlying
  rw [he]

theorem AliasesFollow.of_extends (h : session.AliasesFollow library) (he : session.Extends session')
    (ha : session'.aliases = session.aliases) : session'.AliasesFollow library := by
  intro name identifier hget
  rw [ha] at hget
  obtain ⟨underlying, bound, ht, hb, hi⟩ := h name identifier hget
  exact ⟨underlying, bound, ht, Table.get?_of_initial he.structs hb, hi⟩

theorem Addition.aliasesFollow (ha : session.Addition scope session')
    (h : session.AliasesFollow library) : session'.AliasesFollow library := by
  have hlater := ha.extends
  cases ha with
  | @typedef name underlying conversion hr ht =>
      have hbefore : (session.addConversion name conversion).AliasesFollow library :=
        h.of_extends (session.grows_addConversion name conversion).extends rfl
      intro other identifier hget
      rw [structs_shareWithAlias]
      rw [aliases_shareWithAlias] at hget
      split at hget
      · next bound hb =>
          rw [Table.get?_add] at hget
          rcases Option.or_eq_some_iff.1 hget with hknown | ⟨-, hnew⟩
          · exact hbefore other identifier hknown
          · split at hnew
            · next he =>
                subst he
                exact ⟨underlying, bound, ht, get?_of_boundStruct? hb, (Option.some.inj hnew).symm⟩
            · cases hnew
      · exact hbefore other identifier hget
  | learn => exact h.of_extends hlater rfl
  | array => exact h.of_extends hlater rfl
  | settleFailed => exact h.of_extends hlater rfl
  | write => exact h.of_extends hlater rfl
  | stub => exact h.of_extends hlater rfl
  | wrap => exact h.of_extends hlater rfl
  | emit => exact h.of_extends hlater rfl
  | reject => exact h.of_extends hlater rfl

theorem Change.aliasesFollow (hchange : session.Change scope session')
    (h : session.AliasesFollow library) : session'.AliasesFollow library := by
  have hlater := hchange.extends
  cases hchange with
  | add ha => exact ha.aliasesFollow h
  | enter => exact h.of_extends hlater rfl
  | leave => exact h.of_extends hlater rfl
  | meet => exact h.of_extends hlater rfl
  | defer => exact h.of_extends hlater rfl
  | takeDeferred => exact h.of_extends hlater rfl
  | fail => exact h.of_extends hlater rfl
  | @commit members typedef _ _ => exact h.of_extends hlater (by rw [commit_eq])

/-- Typedefs have the identifiers of the records they stand for in every session that
    can come about. -/
theorem Reachable.aliasesFollow (hs : session.Reachable scope) : session.AliasesFollow library := by
  refine hs.invariant (fun name identifier hget => ?_) fun hchange => hchange.aliasesFollow
  cases hget

end Identifiers

end Session

section Linking

variable {hc : library.decls.OfC} {key : String} {record : Record} {underlying : CType}

/-- A typedef of a record that is known has the identifier of the record, which is
    bound. -/
theorem Session.Performed.get?_aliases (hs : session.Performed (Scope.ofC hc))
    (ha : session.Apart library) (h : library.Renames name underlying)
    (henum : library.decls.isEnum (.named name) = false)
    (hleaves : library.LeavesRecord underlying)
    (hb : library.decls.bindable? underlying = some (key, record))
    (hk : session.registry.contains name) :
    ∃ bound, session.boundStruct? key = some bound ∧
      session.aliases.get? name = some bound.name := by
  have hr := Declarations.get?_of_bindable? hb
  have hspelling := Declarations.spelling_of_bindable? hb
  obtain ⟨conversion, hget⟩ := Option.isSome_iff_exists.1 hk
  obtain ⟨c, hlast, hword⟩ := hc.lastOf_typedef h.typedef
  rcases (hs.explains hget).of_word hlast hword h.seed with rfl | htaken |
    ⟨type, ht, -, hidentifier⟩
  · -- The record is not known by what enums are.
    have hrecord := (hs.get?_typedef ha h henum hget).resolve_left
      (hspelling ▸ hc.not_leadsToRecord hr)
    rw [hspelling] at hrecord
    have hagrees := hs.reachable.agrees hr (hleaves key record hb)
    obtain ⟨bound, hbound⟩ := hagrees.bound (Option.isSome_iff_exists.2 ⟨_, hrecord⟩)
    rw [hagrees.value bound hbound] at hrecord
    have hreference := congrArg Conversion.byReference (Option.some.inj hrecord)
    cases hreference
  · rw [Table.contains, ha.structs_typedef h.record h.typedef] at htaken
    cases htaken
  · -- It has an identifier, and this can only be that of the record.
    obtain rfl : type = underlying := Option.some.inj (ht.symm.trans h.typedef)
    obtain ⟨identifier, hi⟩ := Option.isSome_iff_exists.1
      (hidentifier key record hb (hleaves key record hb))
    obtain ⟨other, bound, ht', hbound, rfl⟩ := hs.reachable.aliasesFollow name identifier hi
    obtain rfl : other = type := Option.some.inj (ht'.symm.trans h.typedef)
    rw [hspelling] at hbound
    exact ⟨bound, boundStruct?_of_get? hbound, hi⟩

/-- A variable whose type is known is shown as an instance of the record that its
    type leads to, or left out. -/
theorem showGlobal_of_known {global : Global} {conversion : Conversion}
    (hk : session.registry.get? global.type.spelling = some conversion) :
    (showGlobal global).outcome library session =
      some (match session.structName? global.type.spelling with
        | some structName =>
          (.ok (some ⟨global, structName⟩), session.emit (.global ⟨global, structName⟩))
        | none =>
          (.ok none,
            session.reject (globalDiagnostic global
              (.notGeneratedStruct global.type.spelling)))) := by
  have hrun : Ensures False library (showGlobal global) session fun result session' =>
      (result, session') = match session.structName? global.type.spelling with
        | some structName =>
          (.ok (some ⟨global, structName⟩), session.emit (.global ⟨global, structName⟩))
        | none =>
          (.ok none,
            session.reject (globalDiagnostic global
              (.notGeneratedStruct global.type.spelling))) := by
    rw [showGlobal, ensures_bind, ensures_attempt, Ensures, resolve_of_known hk]
    dsimp only
    rw [ensures_bind, ensures_look]
    dsimp only
    cases session.structName? global.type.spelling with
    | some structName =>
        dsimp only
        rw [ensures_bind, ensures_update]
        exact ensures_pure.2 rfl
    | none =>
        dsimp only
        rw [ensures_bind, ensures_update]
        exact ensures_pure.2 rfl
  obtain ⟨result, session', ho, he⟩ := hrun.exists_outcome
  rw [ho, he]

/-- Between operations, a typedef of a record that has been resolved has the
    identifier of the record, and its variables are shown as those of the record are.
    A typedef of another typedef has none, and its variables are left out. -/
theorem typedefs_shown (hc : library.decls.OfC) {session : Session}
    (hs : session.Performed (Scope.ofC hc)) (ha : session.Apart library) {name : String}
    {underlying : CType} (h : library.Renames name underlying)
    (hk : session.registry.contains name) :
    (library.decls.isEnum (.named name) = false → library.LeavesRecord underlying →
      ∀ key record, library.decls.bindable? underlying = some (key, record) →
      ∃ bound, session.boundStruct? key = some bound ∧
        session.aliases.get? name = some bound.name ∧
        ∀ global : Global, global.type = .named name ∨ global.type = underlying →
          (showGlobal global).outcome library session =
            some (.ok (some ⟨global, bound.name⟩), session.emit (.global ⟨global, bound.name⟩))) ∧
    (∀ other, underlying = .named other → library.decls.records.get? other = none →
      library.decls.typedefs.contains other →
        session.aliases.get? name = none ∧
        ∀ global : Global, global.type = .named name →
          (showGlobal global).outcome library session =
            some (.ok none,
              session.reject (globalDiagnostic global (.notGeneratedStruct name)))) := by
  obtain ⟨known, hknown⟩ := Option.isSome_iff_exists.1 hk
  -- The typedef is no record itself, so its identifier is the one it has as a typedef.
  have hunbound : session.boundStruct? name = none := by
    rw [Session.boundStruct?, ha.structs_typedef h.record h.typedef]
  have hname : ∀ {global : Global}, global.type = .named name →
      global.type.spelling = name := fun ht => by rw [ht, spelling_named]
  constructor
  · intro henum hleaves key record hb
    obtain ⟨bound, hbound, hidentifier⟩ := hs.get?_aliases ha h henum hleaves hb hk
    refine ⟨bound, hbound, hidentifier, fun global hg => ?_⟩
    obtain ⟨conversion, hget, hshown⟩ : ∃ conversion,
        session.registry.get? global.type.spelling = some conversion ∧
          session.structName? global.type.spelling = some bound.name := by
      rcases hg with ht | ht
      · rw [hname ht, Session.structName?, hunbound, hidentifier]
        exact ⟨known, hknown, rfl⟩
      · have hagrees := hs.reachable.agrees (Declarations.get?_of_bindable? hb)
          (hleaves key record hb)
        rw [ht, Declarations.spelling_of_bindable? hb, Session.structName?, hbound]
        exact ⟨_, hagrees.value bound (Session.get?_of_boundStruct? hbound), rfl⟩
    rw [showGlobal_of_known hget, hshown]
  · intro other hu hr ht
    subst hu
    obtain ⟨type, ht⟩ := Option.isSome_iff_exists.1 ht
    have hnone : session.aliases.get? name = none := by
      refine Option.eq_none_iff_forall_ne_some.2 fun identifier hi => ?_
      obtain ⟨found, bound, hf, hbound, -⟩ := hs.reachable.aliasesFollow name identifier hi
      obtain rfl : found = .named other := Option.some.inj (hf.symm.trans h.typedef)
      rw [spelling_named, ha.structs_typedef hr ht] at hbound
      cases hbound
    refine ⟨hnone, fun global hg => ?_⟩
    have hget : session.registry.get? global.type.spelling = some known := by rw [hname hg, hknown]
    rw [showGlobal_of_known hget, hname hg, Session.structName?, hunbound, hnone]
    rfl

end Linking

/-- A record, a typedef of it, and a typedef of the typedef. -/
def chainedTypedefs : Library where
  decls :=
    { records := .ofRows [("K", ⟨"K", .struct, [⟨"x", .builtin "int", none⟩]⟩)]
      typedefs := .ofRows [("B", .named "K"), ("A", .named "B")] }
  naming := { moduleName := "m", scope := "m" }

theorem chainedTypedefs_ofC : chainedTypedefs.decls.OfC :=
  .of_identifiers (by decide) (by decide) (by decide) (by decide)

theorem chainedTypedefs_renames : chainedTypedefs.Renames "B" (.named "K") where
  typedef := rfl
  record := rfl
  seed := by decide +kernel

theorem chainedTypedefs_renamesTwice : chainedTypedefs.Renames "A" (.named "B") where
  typedef := rfl
  record := rfl
  seed := by decide +kernel

theorem chainedTypedefs_leavesRecord : chainedTypedefs.LeavesRecord (.named "K") := by
  have hk : (Registry.seeded chainedTypedefs.naming).contains "K" = false := by decide +kernel
  intro key record hb
  rw [← Declarations.spelling_of_bindable? hb, spelling_named, hk]

/-- The session in which the typedef of the typedef has been resolved. -/
def chainedSession : Session :=
  (Operation.resolve (.named "A")).after chainedTypedefs (.start chainedTypedefs.naming)

theorem chainedSession_performed : chainedSession.Performed (Scope.ofC chainedTypedefs_ofC) :=
  .perform _ .start (show (CType.named "A").isOfC by decide)

set_option maxRecDepth 100000 in
/-- Variables of the first typedef are shown, those of the second are left out. -/
theorem chainedSession_shown :
    (∃ bound, chainedSession.boundStruct? "K" = some bound ∧
      (showGlobal ⟨"shared", .named "B"⟩).outcome chainedTypedefs chainedSession =
        some (.ok (some ⟨⟨"shared", .named "B"⟩, bound.name⟩),
          chainedSession.emit (.global ⟨⟨"shared", .named "B"⟩, bound.name⟩))) ∧
    (showGlobal ⟨"hidden", .named "A"⟩).outcome chainedTypedefs chainedSession =
      some (.ok none, chainedSession.reject
        (globalDiagnostic ⟨"hidden", .named "A"⟩ (.notGeneratedStruct "A"))) := by
  have hknown : chainedSession.Apart chainedTypedefs ∧
      chainedSession.registry.contains "B" ∧ chainedSession.registry.contains "A" := by
    decide +kernel
  obtain ⟨ha, hfirst, hsecond⟩ := hknown
  obtain ⟨hshown, -⟩ := typedefs_shown chainedTypedefs_ofC chainedSession_performed ha
    chainedTypedefs_renames hfirst
  obtain ⟨-, hhidden⟩ := typedefs_shown chainedTypedefs_ofC chainedSession_performed ha
    chainedTypedefs_renamesTwice hsecond
  obtain ⟨bound, hbound, -, hglobal⟩ := hshown rfl chainedTypedefs_leavesRecord "K" _ rfl
  obtain ⟨-, hrejected⟩ := hhidden "B" rfl rfl rfl
  exact ⟨⟨bound, hbound, hglobal _ (.inl rfl)⟩, hrejected _ rfl⟩

set_option maxRecDepth 100000 in
/-- The record is bound and both typedefs are resolved, but the second has no
    identifier. -/
theorem chainedTypedefs_unnamed :
    ¬∀ (library : Library) (session : Session), session.Performed (Scope.all library) →
      ∀ name record, library.decls.records.get? name = none →
      (Registry.seeded library.naming).contains name = false →
      session.registry.contains name →
      library.decls.recordOf (.named name) = some record →
      ∀ bound, session.boundStruct? record.name = some bound →
        session.aliases.get? name = some bound.name := by
  intro hall
  have hs : chainedSession.Performed (Scope.all chainedTypedefs) := .perform _ .start trivial
  have hsession : chainedSession.registry.contains "A" ∧
      chainedSession.boundStruct? "K" = some ⟨"K", "K", ["x"], []⟩ ∧
      chainedSession.aliases.get? "A" = none := by
    decide +kernel
  have hseed : (Registry.seeded chainedTypedefs.naming).contains "A" = false := by decide +kernel
  have hidentifier := hall chainedTypedefs chainedSession hs "A" _ rfl hseed hsession.1 rfl _
    hsession.2.1
  rw [hsession.2.2] at hidentifier
  cases hidentifier

end ScriptBind
