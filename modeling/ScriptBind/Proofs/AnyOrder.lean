import ScriptBind.Proofs.DeferredRecords
import ScriptBind.Proofs.ThoroughBinding

/-!
# Types in Any Order

When some types have been resolved one after another, which records are bound is a matter
of the types and not of their order. A record is bound if it is reached from the types and
its members have conversions, and neither can be told from the order.

What can is what became of callbacks. A callback whose value is a record that happens to be
being bound cannot be marshaled at that moment, and this is remembered for good. So a member
of a bound record may be left out in one order and kept in another, and a record that only
its values lead to may be bound in one order and not be looked at in another. But this is
so of callbacks only that are not steady. All other members are kept and left out alike,
and where all callbacks are steady the bound records are the same.

## Main definitions

* `Session.IsOver`: Nothing is left to be done.
* `Session.Covers`: A session in which some types have been resolved, in any order.
* `Field.IsSteady`: A member that comes to the same at every moment.
* `BoundStruct.Resembles`: Two ways to bind a record that differ in other members only.

## Theorems

* `Covers.contains_of_reaches`: A record that is reached has an outcome.
* `Covers.isSome_boundStruct?_iff`: It is bound if its members have conversions.
* `resolveAll_perm`: What is bound when types are resolved in two orders.
* `callback_in_order`: The order matters to a callback that is not steady.
-/

namespace ScriptBind

open BindM

/-- Nothing is being bound and nothing is put off, and whatever was begun has an
    outcome. -/
structure Session.IsOver (session : Session) : Prop where
  /-- Nothing is being bound. -/
  inProgress : session.inProgress = []
  /-- Nothing is put off. -/
  deferred : session.deferred.rows = []
  /-- Whatever was begun has an outcome. -/
  begun : ∀ key ∈ session.begun, session.structs.contains key

/-- Some types have been resolved, and nothing but them. -/
structure Session.Covers (library : Library) (types : List CType) (session : Session) : Prop where
  /-- What is known is right. -/
  sound : session.Sound library
  /-- Nothing has been left out, and nothing has been added. -/
  thorough : session.Thorough library (library.Reaches (fun _ => True) types)
  /-- Nothing is left to be done. -/
  finished : session.IsOver
  /-- The types have been followed. -/
  visited : ∀ type ∈ types, session.HasVisited library type

/-- A member that comes to the same at every moment: it is no callback, or a steady one. -/
def Field.IsSteady (library : Library) (key : String) (record : Record) (field : Field) : Prop :=
  ∀ signature, library.decls.functionPointer field.type = some signature →
    (Demand.ofMember key record field signature).IsSteady library

/-- Two ways to bind a record: its members are divided into those kept and those left out,
    and no steady member is on different sides. -/
def BoundStruct.Resembles (library : Library) (key : String) (bound bound' : BoundStruct) : Prop :=
  ∃ record kept dropped kept' dropped', library.decls.records.get? key = some record ∧
    Divides (record.flattened.filter Field.isBound) kept dropped ∧
    Divides (record.flattened.filter Field.isBound) kept' dropped' ∧
    bound = ⟨bareTag key, key, kept.map Field.name, dropped.map Field.name⟩ ∧
    bound' = ⟨bareTag key, key, kept'.map Field.name, dropped'.map Field.name⟩ ∧
    ∀ field, field.IsSteady library key record →
      (field ∈ kept ↔ field ∈ kept') ∧ (field ∈ dropped ↔ field ∈ dropped')

variable {library : Library} {types others : List CType} {session session' : Session}
  {key : String} {record : Record}

namespace Record.DividesInto

variable {kept dropped kept' dropped' : List Field}

/-- A steady member that is kept is left out nowhere. -/
theorem not_mem_dropped (h : record.DividesInto library key kept dropped)
    (h' : record.DividesInto library key kept' dropped') {field : Field}
    (hs : field.IsSteady library key record) (hk : field ∈ kept) : field ∉ dropped' := by
  intro hd
  obtain ⟨signature, hsignature, hfails⟩ := h'.dropped field hd
  have hsteady := hs signature hsignature
  exact hfails hsteady (h.kept field hk signature hsignature hsteady)

/-- Steady members are kept and left out alike. -/
theorem mem_iff (h : record.DividesInto library key kept dropped)
    (h' : record.DividesInto library key kept' dropped') {field : Field}
    (hs : field.IsSteady library key record) :
    (field ∈ kept ↔ field ∈ kept') ∧ (field ∈ dropped ↔ field ∈ dropped') := by
  have hsides : field ∈ kept ∨ field ∈ dropped ↔ field ∈ kept' ∨ field ∈ dropped' :=
    h.divides.mem_iff.symm.trans h'.divides.mem_iff
  have hacross := h.not_mem_dropped h' hs
  have hback := h'.not_mem_dropped h hs
  constructor
  · exact ⟨fun hk => (hsides.1 (.inl hk)).resolve_right (hacross hk),
      fun hk => (hsides.2 (.inl hk)).resolve_right (hback hk)⟩
  · exact ⟨fun hd => (hsides.1 (.inr hd)).resolve_left fun hk => hback hk hd,
      fun hd => (hsides.2 (.inr hd)).resolve_left fun hk => hacross hk hd⟩

/-- If all members are steady, there is one way only to bind the record. -/
theorem unique (h : record.DividesInto library key kept dropped)
    (h' : record.DividesInto library key kept' dropped')
    (hs : ∀ field ∈ record.flattened.filter Field.isBound, field.IsSteady library key record) :
    kept = kept' ∧ dropped = dropped' := by
  have hsteady : ∀ field, field ∈ kept ∨ field ∈ dropped → field.IsSteady library key record :=
    fun field hf => hs field (h.divides.mem_iff.2 hf)
  have hsteady' : ∀ field, field ∈ kept' ∨ field ∈ dropped' → field.IsSteady library key record :=
    fun field hf => hs field (h'.divides.mem_iff.2 hf)
  refine h.divides.unique h'.divides (fun _ hk => hk) (fun field hd hk => ?_) (fun field hk => ?_)
    fun field hd hk => ?_
  · exact h.not_mem_dropped h (hsteady field (.inl hk)) hk hd
  · exact ((h.mem_iff h' (hsteady' field (.inl hk))).1).2 hk
  · exact h.not_mem_dropped h' (hsteady field (.inl hk)) hk hd

end Record.DividesInto

namespace Session

theorem Concludes.isOver (h : session.Concludes session') (ho : session.IsOver) :
    session'.IsOver := by
  have hdeferred := h.drained ho.inProgress ho.deferred
  refine ⟨h.inProgress.trans ho.inProgress, hdeferred, fun key hk => ?_⟩
  obtain ⟨started, hstarted, hminds⟩ := h.begun
  rw [hstarted] at hk
  rcases List.mem_append.1 hk with hk | hk
  · exact h.structs key (ho.begun key hk)
  · exact (hminds key hk).contains hdeferred

theorem isOver_start (naming : Naming) : (start naming).IsOver where
  inProgress := rfl
  deferred := rfl
  begun := fun _ hk => by cases hk

end Session

/-- Resolving types leaves nothing to be done. -/
theorem resolveAll_isOver (library : Library) (types : List CType) (h : session.IsOver) :
    (resolveAll library types session).IsOver := by
  induction types generalizing session with
  | nil => exact h
  | cons type rest ih =>
      have hkeeps : Keeps library ((Scope.all library).Guarded Session.Concludes) (resolve type) :=
        (concludes_carries library).types.resolve type trivial
      rw [resolveAll_cons]
      exact ih ((hkeeps.run type.spelling session session.within_all).2.isOver h)

/-- Types that are resolved one after another are followed. -/
theorem resolveAll_explores {reached : String → Prop} (hregular : library.decls.Regular)
    (hshort : library.decls.IsShort) (hclosed : library.Encloses reached)
    (hw : ∀ type ∈ types, type.isWellNamed) (hs : session.Sound library) (hl : session.Settled [])
    (ht : session.Thorough library reached)
    (hr : ∀ type ∈ types, ∀ key, library.Visits type key → reached key) :
    session.Explores library reached (resolveAll library types session) ∧
      ∀ type ∈ types, (resolveAll library types session).HasVisited library type := by
  induction types generalizing session with
  | nil => exact ⟨.refl ht, fun _ ho => by cases ho⟩
  | cons type rest ih =>
      have hm := List.mem_cons_self (a := type) (l := rest)
      have hleads := (run_resolve hregular (hw type hm) hs hl).1
      obtain ⟨hexplores, hvisited⟩ :=
        run_resolve_explores hregular hshort hclosed (hw type hm) hs hl ht (hr type hm)
      obtain ⟨hrest, hothers⟩ :=
        ih (fun other ho => hw other (List.mem_cons_of_mem _ ho)) hleads.sound
        hleads.settled hexplores.thorough fun other ho => hr other (List.mem_cons_of_mem _ ho)
      rw [resolveAll_cons]
      exact ⟨hexplores.trans hrest, List.forall_mem_cons.2 ⟨hvisited.mono hrest.begun, hothers⟩⟩

/-- Binding does not lead out of what is reached. -/
theorem Library.encloses_reaches (library : Library) (types : List CType) :
    library.Encloses (library.Reaches (fun _ => True) types) :=
  fun hreached hr hf hn hv => hreached.member hr hf hn hv

/-- After some types have been resolved they are covered. -/
theorem resolveAll_covers (hregular : library.decls.Regular) (hshort : library.decls.IsShort)
    (hw : ∀ type ∈ types, type.isWellNamed) :
    (resolveAll library types (.start library.naming)).Covers library types := by
  have hsound := Session.sound_start library
  have hsettled := Session.settled_start [] library.naming
  obtain ⟨hexplores, hvisited⟩ :=
    resolveAll_explores hregular hshort (library.encloses_reaches types) hw
    hsound hsettled (Session.thorough_start library _) fun _ ht _ hv => .type ht hv
  exact ⟨(resolveAll_leads hregular hw hsound hsettled).sound, hexplores.thorough,
    resolveAll_isOver library types (Session.isOver_start library.naming), hvisited⟩

namespace Session.Covers

/-- The order of types does not matter for what covers them. -/
theorem perm (h : session.Covers library types) (hp : types.Perm others) :
    session.Covers library others where
  sound := h.sound
  thorough :=
    { h.thorough with
      within := fun key hk => (h.thorough.within key hk).imp_right fun hr => hr.perm hp }
  finished := h.finished
  visited := fun type ht => h.visited type (hp.mem_iff.2 ht)

/-- A record that is reached without the help of unsteady callbacks has an outcome. -/
theorem contains_of_reaches (h : session.Covers library types)
    (hk : library.Reaches (Demand.IsSteady library) types key) : session.structs.contains key := by
  -- By the way to the record: the types have been followed, and so has every record on it.
  induction hk with
  | type ht hv => exact h.finished.begun _ (h.visited _ ht _ hv)
  | member _ hr hf hn hv ih =>
      exact h.finished.begun _ (h.thorough.settled _ _ hr ih _ hf _ hn _ hv)

/-- A record that has an outcome is bound if its members have conversions. -/
theorem isSome_boundStruct?_iff (h : session.Covers library types)
    (hr : library.decls.records.get? key = some record) (hc : session.structs.contains key) :
    (session.boundStruct? key).isSome ↔ MembersBut library [] record.flattened := by
  obtain ⟨outcome, ho⟩ := Option.isSome_iff_exists.1 hc
  rw [Session.boundStruct?, ho]
  cases outcome with
  | done bound =>
      exact iff_of_true rfl (((h.sound.done key bound ho).2 record hr).membersBut
        fun _ hk => by cases hk)
  | failed error => exact iff_of_false Bool.false_ne_true (h.sound.failed key error record ho hr)

/-- A record that is bound is declared, and is reached if all callbacks count. -/
theorem of_bound (h : session.Covers library types) {bound : BoundStruct}
    (hb : session.boundStruct? key = some bound) :
    key ∈ library.decls.records.names ∧ library.Reaches (fun _ => True) types key := by
  refine h.thorough.within key (h.thorough.begun key (.inl ?_))
  rw [Table.contains, Session.get?_of_boundStruct? hb]
  rfl

/-- The same records are bound, of those that are reached without the help of unsteady
    callbacks. -/
theorem isSome_iff (h : session.Covers library types) (h' : session'.Covers library types)
    (hk : library.Reaches (Demand.IsSteady library) types key) :
    (session.boundStruct? key).isSome ↔ (session'.boundStruct? key).isSome := by
  have hc := h.contains_of_reaches hk
  have hdeclared := (h.thorough.within key (h.thorough.begun key (.inl hc))).1
  obtain ⟨record, hr⟩ := Option.isSome_iff_exists.1 (Table.mem_names_iff.1 hdeclared)
  rw [h.isSome_boundStruct?_iff hr hc, h'.isSome_boundStruct?_iff hr (h'.contains_of_reaches hk)]

/-- A record that is bound in two sessions is bound from the same members. -/
theorem exists_dividesInto (h : session.Covers library types) (h' : session'.Covers library types)
    {bound bound' : BoundStruct} (hb : session.boundStruct? key = some bound)
    (hb' : session'.boundStruct? key = some bound') :
    ∃ record kept dropped kept' dropped', library.decls.records.get? key = some record ∧
      record.DividesInto library key kept dropped ∧ record.DividesInto library key kept' dropped' ∧
      bound = ⟨bareTag key, key, kept.map Field.name, dropped.map Field.name⟩ ∧
      bound' = ⟨bareTag key, key, kept'.map Field.name, dropped'.map Field.name⟩ := by
  obtain ⟨record, kept, dropped, hr, hdivides, hbound⟩ :=
    h.thorough.done key bound (Session.get?_of_boundStruct? hb)
  obtain ⟨other, kept', dropped', hr', hdivides', hbound'⟩ :=
    h'.thorough.done key bound' (Session.get?_of_boundStruct? hb')
  obtain rfl := Option.some.inj (hr.symm.trans hr')
  exact ⟨record, kept, dropped, kept', dropped', hr, hdivides, hdivides', hbound, hbound'⟩

/-- What is bound alike resembles each other. -/
theorem resembles (h : session.Covers library types) (h' : session'.Covers library types)
    {bound bound' : BoundStruct} (hb : session.boundStruct? key = some bound)
    (hb' : session'.boundStruct? key = some bound') : bound.Resembles library key bound' := by
  obtain ⟨record, kept, dropped, kept', dropped', hr, hdivides, hdivides', hbound, hbound'⟩ :=
    h.exists_dividesInto h' hb hb'
  exact ⟨record, kept, dropped, kept', dropped', hr, hdivides.divides, hdivides'.divides,
    hbound, hbound', fun _ hs => hdivides.mem_iff hdivides' hs⟩

/-- If all callbacks are steady, the same is bound. -/
theorem boundStruct?_eq (h : session.Covers library types) (h' : session'.Covers library types)
    (hsteady : ∀ demand, library.HasCallback demand → demand.IsSteady library) (key : String) :
    session.boundStruct? key = session'.boundStruct? key := by
  have hreaches : ∀ {session : Session} {bound : BoundStruct}, session.Covers library types →
      session.boundStruct? key = some bound → library.Reaches (Demand.IsSteady library) types key :=
    fun h hb => (h.of_bound hb).2.imp fun demand hd _ => hsteady demand hd
  cases hb : session.boundStruct? key with
  | none =>
      cases hb' : session'.boundStruct? key with
      | none => rfl
      | some bound' =>
          have hsome := (h.isSome_iff h' (hreaches h' hb')).2 (by rw [hb']; rfl)
          rw [hb] at hsome
          cases hsome
  | some bound =>
      have hsome := (h.isSome_iff h' (hreaches h hb)).1 (by rw [hb]; rfl)
      obtain ⟨bound', hb'⟩ := Option.isSome_iff_exists.1 hsome
      obtain ⟨record, kept, dropped, kept', dropped', hr, hdivides, hdivides', rfl, rfl⟩ :=
        h.exists_dividesInto h' hb hb'
      have hall : ∀ field ∈ record.flattened.filter Field.isBound,
          field.IsSteady library key record := by
        intro field hf signature hsignature
        obtain ⟨hm, hbound⟩ := List.mem_filter.1 hf
        exact hsteady _ (.member hr hm (Field.isBound_iff.1 hbound).1 hsignature)
      obtain ⟨rfl, rfl⟩ := hdivides.unique hdivides' hall
      exact hb'.symm

end Session.Covers

/-- When types are resolved one after another, their order does not matter for which
    records are bound, of those that are reached without the help of unsteady callbacks,
    and for what becomes of the members of a bound record, unless they are such callbacks.
    If there are none, it does not matter at all. -/
theorem resolveAll_perm (library : Library) (hregular : library.decls.Regular)
    (hshort : library.decls.IsShort) {types others : List CType} (hp : types.Perm others)
    (hw : ∀ type ∈ types, type.isWellNamed) :
    let session := resolveAll library types (.start library.naming)
    let session' := resolveAll library others (.start library.naming)
    (∀ key, library.Reaches (Demand.IsSteady library) types key →
      ((session.boundStruct? key).isSome ↔ (session'.boundStruct? key).isSome)) ∧
    (∀ key bound bound', session.boundStruct? key = some bound →
      session'.boundStruct? key = some bound' → bound.Resembles library key bound') ∧
    ((∀ demand, library.HasCallback demand → demand.IsSteady library) →
      ∀ key, session.boundStruct? key = session'.boundStruct? key) := by
  intro session session'
  have h : session.Covers library types := resolveAll_covers hregular hshort hw
  have h' : session'.Covers library types :=
    (resolveAll_covers hregular hshort fun type ht => hw type (hp.mem_iff.2 ht)).perm hp.symm
  exact ⟨fun key hk => h.isSome_iff h' hk, fun key bound bound' hb hb' => h.resembles h' hb hb',
    h.boundStruct?_eq h'⟩

/-- A record with a callback that takes a value. -/
def holder (value : CType) : Record :=
  ⟨"K", .struct, [⟨"user_data", .pointerTo .void, none⟩,
    ⟨"cb", .pointerTo (.function ⟨.void, [.pointerTo (.named "K"), value], false⟩), none⟩]⟩

/-- A record that points to it. -/
def pointing : Record := ⟨"A", .struct, [⟨"k", .pointerTo (.named "K"), none⟩]⟩

/-- A library that declares both. -/
def pairLibrary (value : CType) : Library where
  decls := { records := .ofRows [("K", holder value), ("A", pointing)] }
  naming := { moduleName := "m", scope := "m" }

theorem mem_pairLibrary {value : CType} {row : String × Record}
    (h : row ∈ (pairLibrary value).decls.records.rows) :
    row = ("K", holder value) ∨ row = ("A", pointing) := by
  rcases List.mem_cons.1 h with h | h
  · exact .inl h
  · exact .inr (List.mem_singleton.1 h)

theorem pairLibrary_regular {value : CType} (hw : value.isWellNamed) :
    (pairLibrary value).decls.Regular where
  recordName := fun row hr => by
    rcases mem_pairLibrary hr with rfl | rfl
    · exact .inl (show isTypeName "K" by decide)
    · exact .inl (show isTypeName "A" by decide)
  memberType := fun row hr field hf => by
    rcases mem_pairLibrary hr with rfl | rfl
    · rcases List.mem_cons.1 hf with rfl | hf
      · rfl
      · rw [List.mem_singleton.1 hf]
        have hself : isTypeName "K" := by decide
        simp [CType.isWellNamed, areWellNamed, CType.pointerTo, hw, hself]
    · rw [List.mem_singleton.1 hf]
      decide
  memberName := fun row hr field hf ha => by
    rcases mem_pairLibrary hr with rfl | rfl
    · rcases List.mem_cons.1 hf with rfl | hf
      · cases ha
      · rw [List.mem_singleton.1 hf] at ha
        cases ha
    · rw [List.mem_singleton.1 hf] at ha
      cases ha
  typedefName := fun _ hr => by cases hr
  typedefType := fun _ hr => by cases hr
  apart := fun _ _ hn => by cases hn
  acyclic := ⟨fun _ => 0, fun _ hr => by cases hr⟩
  short := fun _ hr => by cases hr

theorem pairLibrary_short (value : CType) : (pairLibrary value).decls.IsShort :=
  fun _ hr => by cases hr

/-- The callback is the only one. -/
theorem eq_of_hasCallback {value : CType} {demand : Demand}
    (h : (pairLibrary value).HasCallback demand) : demand = .ofMember "K" (holder value)
      ⟨"cb", .pointerTo (.function ⟨.void, [.pointerTo (.named "K"), value], false⟩), none⟩
      ⟨.void, [.pointerTo (.named "K"), value], false⟩ := by
  obtain ⟨hr, hf, -, hs⟩ := h
  obtain ⟨rfl, rfl⟩ | ⟨rfl, rfl⟩ :=
    (mem_pairLibrary (Table.mem_of_get? hr)).imp Prod.mk.inj Prod.mk.inj
  · rcases List.mem_cons.1 hf with rfl | hf
    · cases hs
    · obtain rfl := List.mem_singleton.1 hf
      rw [← Option.some.inj hs]
  · rw [List.mem_singleton.1 hf] at hs
    cases hs

/-- If the value is a number, the callback is steady. -/
theorem pairLibrary_steady (demand : Demand)
    (h : (pairLibrary (.builtin "int")).HasCallback demand) :
    demand.IsSteady (pairLibrary (.builtin "int")) where
  values := fun type ht _ => by
    rw [eq_of_hasCallback h] at ht
    rw [List.mem_singleton.1 ht]
    exact .seeded (by decide +kernel)
  alone := fun other ho _ => (eq_of_hasCallback ho).trans (eq_of_hasCallback h).symm

/-- If the callback takes a number, the records are bound alike in both orders. -/
theorem pair_any_order :
    let library := pairLibrary (.builtin "int")
    let session := resolveAll library [.named "A", .named "K"] (.start library.naming)
    let session' := resolveAll library [.named "K", .named "A"] (.start library.naming)
    (library.Reaches (Demand.IsSteady library) [.named "A", .named "K"] "K" ∧
      session.boundStruct? "K" = some ⟨"K", "K", ["user_data", "cb"], []⟩ ∧
      ∀ demand, library.HasCallback demand → demand.IsSteady library) ∧
    ((session.boundStruct? "K").isSome ↔ (session'.boundStruct? "K").isSome) ∧
    ∀ key, session.boundStruct? key = session'.boundStruct? key := by
  intro library session session'
  have hreached : library.Reaches (Demand.IsSteady library) [.named "A", .named "K"] "K" :=
    .type (List.mem_cons_of_mem _ (List.mem_singleton_self _)) (.record (by decide +kernel) rfl)
  obtain ⟨hsame, -, hall⟩ := resolveAll_perm library (pairLibrary_regular rfl) (pairLibrary_short _)
    (List.Perm.swap (.named "K") (.named "A") []) (by decide)
  exact ⟨⟨hreached, by decide +kernel, pairLibrary_steady⟩, hsame "K" hreached,
    hall pairLibrary_steady⟩

/-- If it takes the other record, it is left out when that record is resolved first, and
    kept otherwise. -/
theorem callback_in_order :
    let library := pairLibrary (.named "A")
    let session := resolveAll library [.named "A", .named "K"] (.start library.naming)
    let session' := resolveAll library [.named "K", .named "A"] (.start library.naming)
    [CType.named "A", .named "K"].Perm [.named "K", .named "A"] ∧
      session.boundStruct? "K" = some ⟨"K", "K", ["user_data"], ["cb"]⟩ ∧
      session'.boundStruct? "K" = some ⟨"K", "K", ["user_data", "cb"], []⟩ := by
  intro library session session'
  exact ⟨.swap .., by decide +kernel, by decide +kernel⟩

end ScriptBind
