import ScriptBind.Proofs.AttributeCases
import ScriptBind.Proofs.FinishedOperations
import ScriptBind.Proofs.MemberCallbacks
import ScriptBind.Proofs.MemberTypedefs
import ScriptBind.Proofs.MemberWays
import ScriptBind.Proofs.Outcomes
import ScriptBind.Proofs.SessionGrowth

/-!
# Members Kept and Members Left Out

No member of a bound record is lost, and none is bound by halves. The members
that have a name and are no arrays without length are divided, in their order,
into those that a script can reach and those left out, and only callbacks are left
out, each with a diagnostic. A member that can be reached has one case where it is
loaded and one where it is stored, and the two go by one conversion, in its two
directions, or by one callback.

What is bound when a member is bound depends on the session, and a record that was
put off is bound twice. But what becomes of a member, once it is told, is what its
type says. So the division is seen at the moment when all members have been bound,
and at that moment the record is written. After that nothing is taken away.

## Main definitions

* `Session.Holds`: A bound record and the members it was bound from.
* `Session.Divided`: The members of a bound record are divided.

## Theorems

* `keepsHolding_carries`: What is bound is held, through all of binding.
* `members_divided`: The members of every bound record are divided.
-/

namespace ScriptBind

open BindM

variable {library : Library} {scope : Scope library}

namespace Session

/-- What a session holds of a bound record: the members it was bound from, with
    callbacks of their own names, its code, a diagnostic for each member left out,
    and the records that its nameless members have. -/
structure Holds (library : Library) (session : Session) (record : Record)
    (members : BoundMembers) : Prop where
  /-- The members are those of the record. -/
  isOf : members.IsOf library record
  /-- Their callbacks go by their names. -/
  named : ∀ outcome ∈ members.outcomes, outcome.IsNamed members.name
  /-- The record is bound from them. -/
  bound : session.boundStruct? members.key = some members.bound
  /-- Its code is written. -/
  code : .accessor members.accessor ∈ session.body
  /-- What is left out is reported. -/
  reported : ∀ row ∈ members.dropped, row.2 ∈ session.diagnostics
  /-- The types of its nameless members are bound. -/
  nested : session.BindsNested members.key record.flattened

/-- Every bound record is held. -/
structure HoldsAll (scope : Scope library) (session : Session) : Prop where
  /-- Callbacks are filed under their names. -/
  files : session.FilesByName
  /-- Each record has its members. -/
  held : ∀ key, (session.boundStruct? key).isSome → ∃ record members, members.key = key ∧
    scope.records key record ∧ session.Holds library record members

/-- Every bound record is still held. -/
def KeepsHolding (scope : Scope library) (session session' : Session) : Prop :=
  session.HoldsAll scope → session'.HoldsAll scope

instance (scope : Scope library) : IsPreorder Session (KeepsHolding scope) where
  refl := fun _ h => h
  trans := fun _ _ _ h h' hs => h' (h hs)

variable {session session' : Session} {record : Record} {members : BoundMembers}

/-- Nothing is taken away later. -/
theorem Holds.mono (h : session.Holds library record members) (he : session.Extends session') :
    session'.Holds library record members where
  isOf := h.isOf
  named := h.named
  bound := boundStruct?_of_get? (Table.get?_of_initial he.structs (get?_of_boundStruct? h.bound))
  code := he.body.subset h.code
  reported := fun row hr => he.diagnostics.subset (h.reported row hr)
  nested := h.nested.mono he.structs

/-- A record that is bound is held. -/
theorem holds_commit (hm : members.IsOf library record)
    (hnamed : ∀ outcome ∈ members.outcomes, outcome.IsNamed members.name)
    (hn : session.structs.get? members.key = none)
    (hnested : session.BindsNested members.key record.flattened) (typedef : Option MemberTypedef) :
    (session.commit typedef members).Holds library record members where
  isOf := hm
  named := hnamed
  bound := session.boundStruct?_commit typedef members
  code := by
    rw [commit_eq]
    refine List.mem_append_right _ (List.mem_append_left _ (List.mem_append_right _ ?_))
    exact List.mem_singleton_self _
  reported := fun row hr => by
    rw [commit_eq]
    exact List.mem_append_right _ (List.mem_map_of_mem hr)
  nested := hnested.mono (by
    rw [commit_eq, Table.set_rows_of_fresh hn]
    exact List.prefix_append ..)

/-- A change that binds no record. -/
theorem HoldsAll.of_extends (h : session.HoldsAll scope) (he : session.Extends session')
    (hf : session'.FilesByName)
    (hb : ∀ key, (session'.boundStruct? key).isSome → (session.boundStruct? key).isSome) :
    session'.HoldsAll scope where
  files := hf
  held := by
    intro key hk
    obtain ⟨record, members, hkey, hr, hholds⟩ := h.held key (hb key hk)
    exact ⟨record, members, hkey, hr, hholds.mono he⟩

theorem HoldsAll.of_structs (h : session.HoldsAll scope) (he : session.Extends session')
    (hf : session'.FilesByName) (hs : session'.structs = session.structs) :
    session'.HoldsAll scope :=
  h.of_extends he hf fun key hk => by rwa [boundStruct?, hs] at hk

/-- A record that fails is not bound, and neither is anything else. -/
theorem boundStruct?_settleFailed_isSome {key other : String} {error : BindError}
    (h : ((session.settleStruct key (.failed error)).boundStruct? other).isSome) :
    (session.boundStruct? other).isSome := by
  rw [boundStruct?, settleStruct, Table.get?_set] at h
  by_cases he : key = other
  · rw [if_pos he] at h
    cases h
  · rwa [if_neg he] at h

/-- What is known of members when they are bound: whose they are, that the types of
    the nameless ones are bound, and that their callbacks go by their names if
    callbacks do. -/
structure Foreseen (library : Library) (session : Session) (record : Record)
    (members : BoundMembers) : Prop where
  /-- They are those of the record. -/
  isOf : members.IsOf library record
  /-- The types of the nameless ones are bound. -/
  nested : session.BindsNested members.key record.flattened
  /-- Their callbacks go by their names. -/
  named : session.FilesByName → ∀ outcome ∈ members.outcomes, outcome.IsNamed members.name

/-- One more record is bound. -/
theorem HoldsAll.commit (h : session.HoldsAll scope) (hr : scope.records members.key record)
    (hm : session.Foreseen library record members) (hn : session.structs.get? members.key = none)
    (typedef : Option MemberTypedef) (he : session.Extends (session.commit typedef members)) :
    (session.commit typedef members).HoldsAll scope where
  files := h.files.commit typedef members
  held := by
    intro key hk
    by_cases hkey : members.key = key
    · have hholds := holds_commit hm.isOf (hm.named h.files) hn hm.nested typedef
      exact ⟨record, members, hkey, hkey ▸ hr, hholds⟩
    · -- Every other bound record was held before.
      rw [boundStruct?, commit_eq, Table.get?_set, if_neg hkey] at hk
      obtain ⟨other, others, ho, hrecord, hholds⟩ := h.held key hk
      exact ⟨other, others, ho, hrecord, hholds.mono he⟩

/-- It is foreseen as soon as the members are bound. -/
theorem foreknown_foreseen (library : Library) : Foreknown library (Foreseen library) where
  members := fun hgrow key record session => by
    refine (((bindRecord_nested hgrow key record session).and
      (bindRecord_named hgrow key record session)).and
      (bindRecord_isOf _ key record session)).mono fun result session' hall members hm => ?_
    obtain ⟨hkey, hisOf⟩ := hall.2 members hm
    exact ⟨hisOf, hkey ▸ hall.1.1 members hm, fun hf => hall.1.2 hf members hm⟩
  leave := fun h _ => ⟨h.isOf, h.nested, h.named⟩

theorem keepsHolding_allowsKnown (scope : Scope library) :
    AllowsKnown scope (Foreseen library) (KeepsHolding scope) :=
  -- The changes that leave the records alone leave them as they were held.
  have hchange : ∀ {session session' : Session}, session.Change scope session' →
      session'.structs = session.structs → KeepsHolding scope session session' :=
    fun hc hs h => h.of_structs hc.extends (hc.filesByName h.files) hs
  { settleFailed := fun session id error => hchange (.add (.settleFailed session id error)) rfl
    enter := fun _ _ hk hn => hchange (.enter hk hn) rfl
    leave := fun session key => hchange (.leave session key) rfl
    meet := fun session => hchange (.meet session) rfl
    defer := fun _ _ _ hr hn => hchange (.defer hr hn) rfl
    takeDeferred := fun session key => hchange (.takeDeferred session key) rfl
    fail := fun _ _ _ error hr hn h =>
      have hc := Change.fail error hr hn
      h.of_extends hc.extends (hc.filesByName h.files) fun _ => boundStruct?_settleFailed_isSome
    commit := fun _ typedef _ _ hm hr hof hn h =>
      h.commit hr hof hn typedef (Change.commit typedef hm hn).extends }

/-- What is bound is held, through all of binding. -/
theorem keepsHolding_carries (scope : Scope library) : scope.Carries (KeepsHolding scope) :=
  have haddition : ∀ {session session' : Session}, session.Addition scope session' →
      KeepsHolding scope session session' := fun ha h =>
    h.of_structs ha.extends ((Change.add ha).filesByName h.files) ha.sparesRecords.structs
  have hallows : Session.Allows scope (scope.Guarded (KeepsHolding scope)) :=
    Session.allows_of_additions fun ha _ => haddition ha
  .of_allows hallows.toAllowsLearning (fun ha _ => haddition ha) fun levels =>
    (bindersWithin_keepKnown (foreknown_foreseen library) hallows (keepsHolding_allowsKnown scope)
      levels).parts

/-- Between operations every bound record is held. -/
theorem Performed.holdsAll (h : session.Performed scope) : session.HoldsAll scope :=
  have hstart : (Session.start library.naming).Reachable scope := .start
  (keepsHolding_carries scope).performed h ⟨hstart.filesByName, fun key hk => by cases hk⟩

/-- The members of a bound record are divided: those kept and those left out. -/
structure Divided (library : Library) (session : Session) (key : String) (record : Record)
    (kept dropped : List Field) : Prop where
  /-- They are the members that are bound with the record, in order. -/
  divides : Divides (record.flattened.filter Field.isBound) kept dropped
  /-- The record is bound with the one, and without the other. -/
  bound : session.boundStruct? key =
    some ⟨bareTag key, key, kept.map Field.name, dropped.map Field.name⟩
  /-- What is left out is a callback with a diagnostic. -/
  leftOut : ∀ field ∈ dropped, ∃ diagnostic ∈ session.diagnostics,
    field.IsLeftOut library (bareTag key) diagnostic
  /-- The text of the record's code has one case where members are loaded and one
      where they are stored for each member kept, in order, and the two lead to it by
      the two directions of one conversion whose converters there are by then, or by
      one callback of the member's name. -/
  code : ∃ front code back, session.body = front ++ .accessor code :: back ∧
    code.name = bareTag key ∧ code.type = key ∧ code.HasCases ∧
    List.Forall₂ (fun field access => access.LeadsTo library (bareTag key)
      (Conversion.Sourced (Scope.all library) front)
      (fun callback => callback.name = callbackName (bareTag key) field.name) field)
      kept code.accesses
  /-- There is no other code for the record. -/
  once : session.body.countP (Section.isAccessorOf key) = 1

/-- What is held of a record is divided. -/
theorem Holds.divided (h : session.Holds library record members) (hr : session.Reachable scope)
    (hu : session.Underway library) :
    ∃ kept dropped, session.Divided library members.key record kept dropped := by
  obtain ⟨kept, dropped, hdivides, hkept, hnames, hleft⟩ := MemberOutcome.divides h.isOf.outcomes
  have hname := h.isOf.name
  have hfields : members.accessor.accesses.map Access.field = kept.map Field.name :=
    List.forall₂_eq_eq_eq ▸ (List.rel_map (fun _ _ hl => hl.field_eq) hkept.flip)
  have hbound : members.bound =
      ⟨bareTag members.key, members.key, kept.map Field.name, dropped.map Field.name⟩ := by
    rw [BoundMembers.bound, hfields, BoundMembers.dropped, hnames, hname]
  -- What stands before the record's code is where its converters come from.
  obtain ⟨front, back, hbody⟩ := List.append_of_mem h.code
  have hsourced := hu.sourced.body.section hbody
  have hnamed : ∀ access ∈ members.accessor.accesses, ∀ callback,
      access.callback? = some callback →
        callback.name = callbackName members.name access.field := by
    intro access ha
    obtain ⟨outcome, ho, haccess⟩ := List.mem_filterMap.1 ha
    cases outcome with
    | dropped name diagnostic => cases haccess
    | reached other => exact Option.some.inj haccess ▸ h.named _ ho
  have hknown : ∀ access ∈ members.accessor.accesses, access.Sourced (Scope.all library) front ∧
      ∀ callback, access.callback? = some callback →
        callback.name = callbackName members.name access.field :=
    fun access ha => ⟨hsourced access ha, hnamed access ha⟩
  have hboth := (List.forall₂_and_left _ _).2 ⟨hknown, hkept.flip⟩
  refine ⟨kept, dropped,
    { divides := hdivides
      bound := hbound ▸ h.bound
      leftOut := fun field hf => ?_
      code := ⟨front, members.accessor, back, hbody, hname, rfl, members.accessor.hasCases, ?_⟩
      once := ((hr.tells members.key).of_done (get?_of_boundStruct? h.bound)).1 }⟩
  · obtain ⟨row, hrow, hdiagnostic⟩ := hleft field hf
    exact ⟨row.2, h.reported row hrow, hname ▸ hdiagnostic⟩
  · refine List.Forall₂.flip (hboth.imp fun access field hl => ?_)
    obtain ⟨⟨hsource, hcallback⟩, hleads⟩ := hl
    rw [← hname]
    refine hleads.sourced hsource fun callback hc => ?_
    rw [hcallback callback hc, hleads.field_eq]

end Session

variable {session session' : Session} {key : String} {deferred : DeferredStruct}

/-- A record whose binding ends well is held as it was given. -/
theorem bindFresh_holds {binders : Binders} (hgrow : binders.Grow library)
    (hk : key ∉ session.inProgress) (hn : session.structs.get? key = none) :
    Ensures True library (bindFresh binders key deferred) session fun result session' =>
      session'.FilesByName → ∀ bound, result = .ok (.ok bound) →
        ∃ members, members.key = key ∧ session'.Holds library deferred.record members := by
  have hmembers := (Session.foreknown_foreseen library).members hgrow key deferred.record
    (session.enter key)
  simp only [bindFresh, ensures_bind, ensures_look, ensures_update, ensures_attempt]
  refine ((hmembers.and (bindRecord_key binders key deferred.record _)).and
    (bindRecord_grows hgrow key deferred.record _)).mono fun result session' hall => ?_
  obtain ⟨⟨hknown, hkey⟩, hg⟩ := hall
  -- Binding the members does not bind the record itself, as it is in progress.
  have hn' := Session.get?_leave hk hn hg
  cases result with
  | ok members =>
      simp only [ensures_bind, ensures_update, ensures_pure]
      intro hfiles bound _
      have hforeseen := hknown members rfl
      obtain rfl := hkey members rfl
      have hk' : members.key ∉ (session'.leave members.key).inProgress := by
        rwa [Session.inProgress_leave hk hg.inProgress]
      have hcommit := Session.grows_commit hk' hn' deferred.typedef
      have hnamed := hforeseen.named ((hfiles.anti hcommit).of_eq rfl)
      exact ⟨members, rfl,
        Session.holds_commit hforeseen.isOf hnamed hn' hforeseen.nested deferred.typedef⟩
  | error error =>
      simp only [ensures_bind, ensures_update, ensures_pure]
      intro _ bound hb
      cases Except.ok.inj hb

theorem bindFresh_reachable (hs : session.Reachable scope) (hr : scope.records key deferred.record)
    (hk : key ∉ session.inProgress) (hn : session.structs.get? key = none) (levels : Nat) :
    Ensures True library (bindFresh (bindersWithin levels) key deferred) session
      fun _ session' => session'.Reachable scope := by
  have hkeep := bindersWithin_keep (Session.allows_of_additions fun ha _ =>
    (Session.Change.add ha).evolves) (Session.evolves_allowsBinding scope) levels
  refine (bindFresh_keeps (Session.foreknown_true library)
    (Session.evolves_allowsBinding scope).known hkeep (bindersWithin_grow levels) hr
    (hs.evolves.within (Session.within_start scope _)) hk hn).mono fun _ _ h => ?_
  exact Session.Evolves.reachable (hs.evolves.trans h.2)

/-- A record with members of all kinds: a number, an array without length, a
    callback that takes something else, a nameless record that holds another one
    without a name, an array, and a callback that takes the record. -/
def motley : Record :=
  let inner : Record := ⟨"", .struct, [⟨"y", .builtin "int", none⟩]⟩
  let callback (param : CType) : CType := .pointerTo (.function ⟨.void, [param], false⟩)
  ⟨"K", .struct,
    [⟨"x", .builtin "int", none⟩,
      ⟨"tail", .array (.builtin "int") 0, none⟩,
      ⟨"drop", callback (.builtin "int"), none⟩,
      ⟨"user_data", .pointerTo .void, none⟩,
      ⟨"", .anonymous inner, none⟩,
      ⟨"a", .anonymous inner, none⟩,
      ⟨"row", .array (.builtin "int") 2, none⟩,
      ⟨"cb", callback (.pointerTo (.named "K")), none⟩]⟩

/-- A library that declares it. -/
def motleyLibrary : Library where
  decls := { records := .ofRows [("K", motley)] }
  naming := { moduleName := "m", scope := "m" }

end ScriptBind
