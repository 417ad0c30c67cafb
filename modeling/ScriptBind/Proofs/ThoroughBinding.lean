import ScriptBind.Proofs.ThoroughMembers

/-!
# Binding and Resolving Leave Nothing Out

A record has an outcome when its members have been bound, or when it has failed for good.
In between it may be put off, and then it has none yet. When a failure is final, the member
that it is owed to has no conversion at all: it does not need the record that it belongs
to, and either no record being bound was met or there is none but this. So the members up to
the first that has no conversion have been followed, whatever was bound before.

A type is followed to its record, through pointers, typedefs and arrays. That it is followed
to the end takes declarations in which no typedef leads too far, since a chain of typedefs
is broken off after so many links, and where this happens depends on where it was entered.

## Theorems

* `Thorough.commit`, `Thorough.conclude`: A record is bound, has failed or is put off.
* `bindStep_explores`, `resolveStep_explores`: One step leaves nothing out.
* `bindersWithin_explore`: Any number of steps.
* `run_resolve_explores`: Resolving a type.
-/

namespace ScriptBind

open BindM

variable {library : Library} {reached : String → Prop} {rank : String → Nat} {levels : Nat}
  {binders : Binders} {session : Session}

/-- A type without a conversion has had none from the beginning. -/
theorem Session.Sound.contains_seeded (hs : session.Sound library) {key : String}
    (hk : session.registry.get? key = none) :
    (Registry.seeded library.naming).contains key = false :=
  Bool.eq_false_iff.2 (hs.not_seeded hk)

/-- A record is bound, and waits for the trampolines of its callbacks. -/
theorem Session.Thorough.commit (ht : session.Thorough library reached)
    (hregular : library.decls.Regular) {key : String} {record : Record} {members : BoundMembers}
    (hr : library.decls.records.get? key = some record) (hk : key ∈ session.begun)
    (hkey : members.key = key) (hname : members.name = bareTag key)
    (hf : ∀ field ∈ record.flattened, session.HasFollowed library key record field)
    (ho : MemberOutcome.AreFair library key record record.flattened members.outcomes)
    (typedef : Option MemberTypedef) :
    (session.commit typedef members).Thorough library reached := by
  obtain ⟨kept, dropped, hdivides, hkept, hdropped, hfields, hnames, hcallbacks⟩ := ho.divides
  have hbound :
      members.bound = ⟨bareTag key, key, kept.map Field.name, dropped.map Field.name⟩ := by
    rw [BoundMembers.bound, hname, hkey]
    exact congrArg₂ (BoundStruct.mk (bareTag key) key) hfields hnames
  -- First the record is known, then it is settled, and then its callbacks are awaited.
  have hsettled :=
    (ht.addRecord hregular hr hk members.conversion members.pointerConversion).settle hr hk
    (fun field hc => hf field hc.mem) fun bound hdone =>
      ⟨kept, dropped, ⟨hdivides, hkept, hdropped⟩, (StructOutcome.done.inj hdone).symm.trans hbound⟩
  have hawaited := hsettled.await fun callback hc => by
    obtain ⟨field, hfield, signature, hs, hn, hid⟩ := hcallbacks callback hc
    have hm := (List.mem_filter.1 (hdivides.mem_iff.2 (.inl hfield))).1
    exact ⟨_, .member hr hm hn hs, hid, fun hsteady => ⟨hkept field hfield signature hs hsteady,
      fun ha type hv => hf field hm type (.value hn hs hsteady ha hv)⟩⟩
  rw [commit_eq, hkey]
  exact hawaited.congr rfl rfl rfl rfl (fun _ hp => hp) fun _ hd => hd

/-- A record is put off, or has failed and its members have been followed. -/
theorem Session.Thorough.conclude (ht : session.Thorough library reached) {key : String}
    {record : Record} (hr : library.decls.records.get? key = some record) (hk : key ∈ session.begun)
    (meetings : Nat)
    (hf : session.meetings ≤ meetings ∨ key ∈ session.retried → ∀ field,
      ComesUp (Field.Converts library []) record.flattened field →
      session.HasFollowed library key record field) (error : BindError) :
    (session.conclude key ⟨record, none⟩ meetings error).Thorough library reached := by
  rw [Session.conclude]
  split
  · refine ht.of_begun rfl rfl rfl (fun _ ho => ho) (fun other ho => ?_) ht.within
    rcases ho with hp | hd
    · exact ht.begun other (.inr (.inl hp))
    · rw [defer, Table.contains_add, Bool.or_eq_true, decide_eq_true_eq] at hd
      rcases hd with hd | rfl
      · exact ht.begun other (.inr (.inr hd))
      · exact hk
  · next hfinal =>
      have hlast : session.meetings ≤ meetings ∨ key ∈ session.retried := by
        rw [Bool.and_eq_true, decide_eq_true_eq, Bool.not_eq_true', List.contains_eq_mem,
          decide_eq_false_iff_not] at hfinal
        by_cases hm : key ∈ session.retried
        · exact .inr hm
        · exact .inl (Nat.le_of_not_lt fun hlt => hfinal ⟨hlt, hm⟩)
      have hsettled : (session.settleStruct key (.failed error)).Thorough library reached :=
        ht.settle hr hk (hf hlast) fun _ he => by cases he
      exact hsettled.congr rfl rfl rfl rfl (fun _ hp => hp) fun _ hd => hd

section Steps

variable (hregular : library.decls.Regular) (hshort : library.decls.IsShort)
  (hclosed : library.Encloses reached) (hright : binders.Right library rank levels)
  (h : binders.Explore library reached)

include hregular hshort hclosed hright h

/-- A record that is bound has been begun, and its members have been followed if the
    outcome is final. -/
theorem bindFresh_explores {key : String} {record : Record}
    (hr : library.decls.records.get? key = some record) (hs : session.Sound library)
    (hl : session.Settled [key]) (ht : session.Thorough library reached) (hreached : reached key)
    (hk : key ∉ session.inProgress) (hn : session.structs.get? key = none) :
    Ensures True library (bindFresh binders key ⟨record, none⟩) session fun _ session' =>
      session.Explores library reached session' ∧ key ∈ session'.begun := by
  have hdeclared : key ∈ library.decls.records.names := List.mem_map_of_mem (Table.mem_of_get? hr)
  have hp := Session.inProgress_enter hk
  have hmem : key ∈ (session.enter key).inProgress := by
    rw [hp]
    exact List.mem_append_right _ (List.mem_singleton_self key)
  have hentered := hl.enter hk
  have hsound : (session.enter key).Sound library := hs.congr rfl rfl rfl rfl
  have henter := ht.enter hdeclared hreached
  simp only [bindFresh, ensures_bind, ensures_look, ensures_update, ensures_attempt]
  refine ((bindRecord_right hright hr hregular hsound hentered).partially.and (bindRecord_explores
    hregular hshort hclosed hright h hr hsound hentered henter.thorough hreached)).mono
    fun result session' hm => ?_
  obtain ⟨⟨hleads, -⟩, hexplores, hmembers⟩ := hm
  have hbegun : key ∈ session'.begun :=
    hexplores.begun key (List.mem_append_right _ (List.mem_singleton_self key))
  have hleft : (session'.leave key).Thorough library reached :=
    hexplores.thorough.congr rfl rfl rfl rfl (fun _ hi => (List.mem_filter.1 hi).1) fun _ hd => hd
  have hall := fun other ho => hexplores.begun other (henter.begun other ho)
  cases result with
  | ok members =>
      obtain ⟨⟨hkey, hname⟩, hfollowed, hfair⟩ := hmembers
      simp only [ensures_bind, ensures_update, ensures_pure]
      have hthorough := hleft.commit hregular hr hbegun hkey hname hfollowed hfair none
      refine ⟨⟨hthorough, fun other ho => ?_⟩, ?_⟩
      · rw [Session.commit_eq]
        exact hall other ho
      · rw [Session.commit_eq]
        exact hbegun
  | error error =>
      have hfollowed : (session'.leave key).meetings ≤ session.meetings ∨
          key ∈ (session'.leave key).retried → ∀ field,
            ComesUp (Field.Converts library []) record.flattened field →
            (session'.leave key).HasFollowed library key record field := by
        rintro (hle | hlast) field hc
        · exact hmembers [] (.inr ⟨rfl, Nat.le_antisymm hle hleads.grows.meetings⟩) field hc
        -- The record is bound for the last time, so nothing else is being bound.
        have hretried : session'.retried = session.retried :=
          hleads.grows.nested (List.ne_nil_of_mem hmem)
        have hempty := hl.inProgress_eq_nil (hretried ▸ hlast) hn hk
        have hself : [key] = (session.enter key).inProgress := by rw [hp, hempty, List.nil_append]
        refine hmembers [key] (.inl hself) field (hc.imp fun other ho hconverts => ?_)
        exact ConvertibleBut.cons_of_member hr ho hconverts
      have hthorough := hleft.conclude hr hbegun session.meetings hfollowed error
      have hconcluded : ((session'.leave key).conclude key ⟨record, none⟩ session.meetings
          error).begun = session'.begun := by
        rw [Session.conclude]
        split <;> rfl
      simp only [ensures_bind, ensures_update, ensures_pure]
      exact ⟨⟨hthorough, fun other ho => hconcluded ▸ hall other ho⟩, hconcluded ▸ hbegun⟩

omit hregular hshort hclosed in
/-- Whatever was put off is followed as well when it is bound once more. -/
theorem retryDeferred_explores (rounds : Nat) (hs : session.Sound library) (hl : session.Settled [])
    (hp : session.inProgress = []) (ht : session.Thorough library reached) :
    Ensures True library (retryDeferred binders rounds) session fun _ session' =>
      session.Explores library reached session' := by
  induction rounds generalizing session with
  | zero => exact trivial
  | succ rounds ih =>
      rw [retryDeferred, ensures_bind, ensures_look]
      dsimp only
      split
      · exact .refl ht
      next key deferred hhead =>
      have hrow : (key, deferred) ∈ session.deferred.rows := List.mem_of_mem_head? hhead
      rcases hs.deferred _ hrow with ⟨hr, htypedef, -⟩
      have hgrows := Session.grows_takeDeferred hp key
      have hdeferred : session.deferred.contains key :=
        Table.mem_names_iff.1 (List.mem_map_of_mem hrow)
      have hreached := (ht.within key (ht.begun key (.inr (.inr hdeferred)))).2
      have htaken := hl.takeDeferred hp key
      have herased : ∀ other, (session.takeDeferred key).deferred.contains other →
          session.deferred.contains other := by
        intro other hd
        obtain ⟨row, hrow', rfl⟩ := List.mem_map.1 (Table.mem_names_iff.2 hd)
        exact Table.mem_names_iff.1 (List.mem_map_of_mem (List.mem_filter.1 hrow').1)
      have hthorough : (session.takeDeferred key).Thorough library reached :=
        ht.congr rfl rfl rfl rfl (fun _ hi => hi) herased
      simp only [ensures_bind, ensures_update, ensures_attempt]
      rw [htypedef]
      refine ((hright.bind key deferred.record _ hr (hs.takeDeferred key) htaken).partially.and
        (h.bind key deferred.record _ hr (hs.takeDeferred key) htaken hthorough hreached)).mono
        fun result session' hb => ?_
      obtain ⟨⟨hleads, -⟩, hexplores, -⟩ := hb
      have hp' : session'.inProgress = [] := (hgrows.trans hleads.grows).inProgress.trans hp
      exact (ih hleads.sound hleads.settled hp' hexplores.thorough).mono fun _ _ hrest =>
        ⟨hrest.thorough, fun other ho => hrest.begun other (hexplores.begun other ho)⟩

/-- Binding a record leaves nothing out. -/
theorem bindStep_explores {key : String} {record : Record}
    (hr : library.decls.records.get? key = some record) (hs : session.Sound library)
    (hl : session.Settled [key]) (ht : session.Thorough library reached) (hreached : reached key) :
    Ensures True library (bindStep levels binders key record none) session fun _ session' =>
      session.Explores library reached session' ∧ key ∈ session'.begun := by
  rw [bindStep, ensures_bind, ensures_look]
  dsimp only
  have hsettled : session.structs.contains key → session.Explores library reached session ∧
      key ∈ session.begun := fun hc => ⟨.refl ht, ht.begun key (.inl hc)⟩
  split
  · next bound waiting hlook =>
      rw [Prod.mk.injEq] at hlook
      exact hsettled (by rw [Table.contains, hlook.1]; rfl)
  · next error waiting hlook =>
      rw [Prod.mk.injEq] at hlook
      exact hsettled (by rw [Table.contains, hlook.1]; rfl)
  · next hlook =>
      rw [Prod.mk.injEq, List.contains_iff_mem] at hlook
      rw [ensures_bind, ensures_update]
      have hmet : session.meet.Thorough library reached :=
        ht.congr rfl rfl rfl rfl (fun _ hi => hi) fun _ hd => hd
      exact ⟨⟨hmet, fun _ ho => ho⟩, ht.begun key (.inr (.inl hlook.2))⟩
  next hlook =>
  rw [Prod.mk.injEq] at hlook
  have hk : key ∉ session.inProgress := by simpa using hlook.2
  rw [ensures_bind]
  refine ((bindFresh_right hright hr hregular hs hl hk hlook.1).partially.and
    (bindFresh_explores hregular
    hshort hclosed hright h hr hs hl ht hreached hk hlook.1)).mono fun result session' hb => ?_
  obtain ⟨⟨answer, rfl, hleads, -⟩, hexplores, hbegun⟩ := hb
  dsimp only
  rw [ensures_bind, ensures_look]
  dsimp only
  split
  · next hempty =>
      rw [ensures_bind]
      refine (retryDeferred_explores hright h levels hleads.sound hleads.settled
        (List.isEmpty_iff.1 hempty) hexplores.thorough).mono fun result session'' hd => ?_
      have hboth := And.intro (hexplores.trans hd) (hd.begun key hbegun)
      cases result with
      | error error => exact hboth
      | ok _ =>
          dsimp only
          rw [ensures_bind, ensures_look]
          dsimp only
          split
          · exact hboth
          · exact ensures_ofExcept.2 hboth
  · exact ensures_ofExcept.2 ⟨hexplores, hbegun⟩

omit hregular hshort hclosed hright h in
/-- A conversion is remembered for a type that has been followed. -/
theorem remember_explores {session' : Session} {type : CType} (conversion : Conversion)
    (hw : type.isWellNamed) (hx : session.Explores library reached session')
    (hv : session'.HasVisited library type) :
    Ensures True library (remember type.spelling conversion) session' fun _ session'' =>
      session.Explores library reached session'' ∧ session''.HasVisited library type := by
  rw [remember, ensures_bind, ensures_update]
  exact ⟨⟨hx.thorough.learn hw hv conversion, hx.begun⟩, hv⟩

omit hshort hclosed hright in
/-- A type that names a record visits it. -/
theorem afterBinding_explores {type : CType} {key : String} {record : Record}
    (hb : library.decls.bindable? type = some (key, record))
    (hmiss : session.registry.get? type.spelling = none) (hs : session.Sound library)
    (hl : session.Settled []) (ht : session.Thorough library reached)
    (hr : ∀ key, library.Visits type key → reached key) :
    Ensures True library (afterBinding binders key record) session fun _ session' =>
      session.Explores library reached session' ∧ session'.HasVisited library type := by
  have hvisits := Library.Visits.record (hs.contains_seeded hmiss) hb
  rw [afterBinding, ensures_bind]
  refine (h.bind key record session (Declarations.get?_of_bindable? hb) hs (hl.exempting key) ht
    (hr key hvisits)).mono fun result session' hbound => ?_
  have hboth : session.Explores library reached session' ∧ session'.HasVisited library type :=
    ⟨hbound.1, fun _ ho => ho.eq_of_bindable? hregular hb ▸ hbound.2⟩
  cases result with
  | error error => exact hboth
  | ok bound =>
      dsimp only
      rw [ensures_bind, ensures_look]
      dsimp only
      split
      · exact hboth
      · exact hboth

omit hshort hclosed hright in
/-- So does a pointer to it. -/
theorem resolveRecordPointer_explores {pointee : CType} {isConst : Bool} {key : String}
    {record : Record} (hw : (CType.pointer pointee isConst).isWellNamed)
    (hb : library.decls.bindable? pointee = some (key, record))
    (hmiss : session.registry.get? (CType.pointer pointee isConst).spelling = none)
    (hs : session.Sound library) (hl : session.Settled []) (ht : session.Thorough library reached)
    (hr : ∀ key, library.Visits (.pointer pointee isConst) key → reached key) :
    Ensures True library
      (resolveRecordPointer binders (CType.pointer pointee isConst).spelling key record) session
      fun _ session' => session.Explores library reached session' ∧
        session'.HasVisited library (.pointer pointee isConst) := by
  have hvisits := Library.Visits.pointer (hs.contains_seeded hmiss) hb
  have hvisited : ∀ session' : Session, key ∈ session'.begun →
      session'.HasVisited library (.pointer pointee isConst) := by
    intro session' hk other ho
    cases ho with
    | record _ hb' => cases hb'
    | pointer _ hb' => exact (Prod.mk.inj (Option.some.inj (hb.symm.trans hb'))).1 ▸ hk
    | typedefPointer _ _ hn => exact hn.eq_of_bindable? hregular hb ▸ hk
  rw [resolveRecordPointer, ensures_bind, ensures_look]
  dsimp only
  split
  · next hp =>
      exact ⟨.refl ht, hvisited _ (ht.begun key (.inr (.inl (List.contains_iff_mem.1 hp))))⟩
  rw [ensures_bind, ensures_succeeds]
  refine (h.bind key record session (Declarations.get?_of_bindable? hb) hs (hl.exempting key) ht
    (hr key hvisits)).mono fun result session' hbound => ?_
  have hboth := And.intro hbound.1 (hvisited _ hbound.2)
  dsimp only
  rw [ensures_bind, ensures_look]
  dsimp only
  -- Whatever becomes of the record, it has been begun.
  split
  · exact hboth
  · exact remember_explores .untyped hw hboth.1 hboth.2
  · split
    · exact remember_explores .untyped hw hboth.1 hboth.2
    · exact hboth

omit hregular hshort hclosed hright in
/-- A pointer to a typedef is followed to the typedef. -/
theorem resolveOtherPointer_explores {links : Nat} {pointee : CType} {isConst : Bool}
    (hw : (CType.pointer pointee isConst).isWellNamed)
    (hb : library.decls.bindable? pointee = none) (hlinks : links ≤ aliasLimit)
    (hfollow : library.decls.followsWithin (aliasLimit - links) (.pointer pointee isConst))
    (hmiss : session.registry.get? (CType.pointer pointee isConst).spelling = none)
    (hs : session.Sound library) (hl : session.Settled []) (ht : session.Thorough library reached)
    (hr : ∀ key, library.Visits (.pointer pointee isConst) key → reached key) :
    Ensures True library
      (resolveOtherPointer binders links (CType.pointer pointee isConst).spelling pointee) session
      fun _ session' => session.Explores library reached session' ∧
        session'.HasVisited library (.pointer pointee isConst) := by
  have hseed := hs.contains_seeded hmiss
  have hwp : pointee.isWellNamed := by
    rw [CType.isWellNamed] at hw
    exact hw
  rw [resolveOtherPointer, ensures_bind, ensures_look]
  dsimp only
  split
  · next name =>
      have hvisited : ∀ session' : Session,
          (library.decls.typedefs.contains name → session'.HasVisited library (.named name)) →
            session'.HasVisited library (.pointer (.named name) isConst) := by
        intro session' hv key hk
        cases hk with
        | record _ hb' => cases hb'
        | pointer _ hb' => cases hb.symm.trans hb'
        | typedefPointer _ hc hn => exact hv hc key hn
      split
      · next hc =>
          obtain ⟨rest, hrest, hnext⟩ :=
            Declarations.followsWithin_next (Declarations.next?_typedefPointer hc isConst) hfollow
          have hlimit : rest = aliasLimit - (links + 1) := by omega
          rw [ensures_bind, ensures_succeeds]
          refine (h.resolve (links + 1) (.named name) session hwp (by omega)
            (hlimit ▸ hnext) hs hl ht
            fun key hk => hr key (.typedefPointer hseed hc hk)).mono fun result session' hall => ?_
          have hv := hvisited session' fun _ => hall.2
          dsimp only
          rw [ensures_bind, ensures_look]
          dsimp only
          split
          · exact ⟨hall.1, hv⟩
          · exact remember_explores .untyped hw hall.1 hv
      · next hc =>
          exact remember_explores .untyped hw (.refl ht) (hvisited session fun hc' => absurd hc' hc)
  · next hnamed =>
      rw [if_neg Bool.false_ne_true]
      refine remember_explores .untyped hw (.refl ht) fun key hk => ?_
      cases hk with
      | record _ hb' => cases hb'
      | pointer _ hb' => cases hb.symm.trans hb'
      | typedefPointer _ _ _ => exact absurd rfl (hnamed _)

omit hshort hclosed hright in
/-- A pointer is followed to what it points to. -/
theorem resolvePointer_explores {links : Nat} {pointee : CType} {isConst : Bool}
    (hw : (CType.pointer pointee isConst).isWellNamed) (hlinks : links ≤ aliasLimit)
    (hfollow : library.decls.followsWithin (aliasLimit - links) (.pointer pointee isConst))
    (hmiss : session.registry.get? (CType.pointer pointee isConst).spelling = none)
    (hs : session.Sound library) (hl : session.Settled []) (ht : session.Thorough library reached)
    (hr : ∀ key, library.Visits (.pointer pointee isConst) key → reached key) :
    Ensures True library (resolvePointer binders links pointee isConst) session fun _ session' =>
      session.Explores library reached session' ∧
        session'.HasVisited library (.pointer pointee isConst) := by
  rw [resolvePointer, ensures_bind, ensures_read]
  dsimp only
  split
  · next hf =>
      -- A callback leads to no record.
      refine remember_explores .callback hw (.refl ht) fun key hk => ?_
      cases hk with
      | record _ hb' => cases hb'
      | @pointer pointee _ _ _ _ hb' =>
          cases pointee with
          | function signature => cases hb'
          | _ => cases hf
      | typedefPointer _ _ _ => cases hf
  split
  · next key record hb => exact resolveRecordPointer_explores hregular h hw hb hmiss hs hl ht hr
  · next hb => exact resolveOtherPointer_explores h hw hb hlinks hfollow hmiss hs hl ht hr

omit hshort hclosed hright in
/-- A typedef is followed to its type. -/
theorem resolveTypedef_explores {links : Nat} {name : String} {underlying : CType}
    (htypedef : library.decls.typedefs.get? name = some underlying)
    (hrecord : library.decls.records.get? name = none) (hlinks : links ≤ aliasLimit)
    (hfollow : library.decls.followsWithin (aliasLimit - links) (.named name))
    (hmiss : session.registry.get? name = none)
    (hs : session.Sound library) (hl : session.Settled []) (ht : session.Thorough library reached)
    (hr : ∀ key, library.Visits (.named name) key → reached key) :
    Ensures True library (resolveTypedef binders links name underlying) session fun _ session' =>
      session.Explores library reached session' ∧ session'.HasVisited library (.named name) := by
  have hspelling : (CType.named name).spelling = name := by rw [CType.spelling, CType.spell]
  have hw : (CType.named name).isWellNamed := hregular.typedefName _ (Table.mem_of_get? htypedef)
  have hseed := hs.contains_seeded hmiss
  have hvisited : ∀ session' : Session,
      (library.decls.isEnum (.named name) = false → session'.HasVisited library underlying) →
        session'.HasVisited library (.named name) := by
    intro session' hv key hk
    cases hk with
    | record _ hb => exact absurd hb (by simp [Declarations.bindable?, hrecord])
    | typedef _ ht' he hu => exact hv he key (Option.some.inj (ht'.symm.trans htypedef) ▸ hu)
  rw [resolveTypedef, ensures_bind, ensures_look]
  dsimp only
  split
  · next he =>
      have hremember := remember_explores .integer hw (.refl ht) (hvisited session fun he' => by
        cases he.symm.trans he')
      rwa [hspelling] at hremember
  next he =>
  have hstep : library.decls.next? (.named name) = some underlying := htypedef
  obtain ⟨rest, hrest, hnext⟩ := Declarations.followsWithin_next hstep hfollow
  have hlimit : rest = aliasLimit - (links + 1) := by omega
  rw [ensures_bind]
  refine (h.resolve (links + 1) underlying session
    (hregular.typedefType _ (Table.mem_of_get? htypedef))
    (by omega) (hlimit ▸ hnext) hs hl ht fun key hk => hr key (.typedef hseed htypedef
      (Bool.eq_false_iff.2 he) hk)).mono fun result session' hall => ?_
  have hv := hvisited session' fun _ => hall.2
  cases result with
  | error error => exact ⟨hall.1, hv⟩
  | ok conversion =>
      dsimp only
      rw [ensures_bind, ensures_update]
      have hlearned := hall.1.thorough.learn hw hv conversion
      rw [hspelling] at hlearned
      have hbegun : ((session'.addConversion name conversion).shareWithAlias name
          underlying.spelling).begun = session'.begun := by
        obtain ⟨registry, aliases, he'⟩ :=
          (session'.addConversion name conversion).shareWithAlias_eq name underlying.spelling
        rw [he']
        rfl
      refine ⟨⟨hlearned.shareWithAlias hw hrecord hv underlying.spelling, fun key hk => ?_⟩,
        hv.mono fun key hk => hbegun ▸ hk⟩
      exact hbegun ▸ hall.1.begun key hk

omit hshort hclosed hright in
/-- A name is followed to its record or its typedef. -/
theorem resolveNamed_explores {links : Nat} {name : String} (hlinks : links ≤ aliasLimit)
    (hfollow : library.decls.followsWithin (aliasLimit - links) (.named name))
    (hmiss : session.registry.get? name = none)
    (hs : session.Sound library) (hl : session.Settled []) (ht : session.Thorough library reached)
    (hr : ∀ key, library.Visits (.named name) key → reached key) :
    Ensures True library (resolveNamed binders links name) session fun _ session' =>
      session.Explores library reached session' ∧ session'.HasVisited library (.named name) := by
  have hspelling : (CType.named name).spelling = name := by rw [CType.spelling, CType.spell]
  rw [resolveNamed, ensures_bind, ensures_look]
  dsimp only
  split
  · next record hrecord =>
      have hb : library.decls.bindable? (.named name) = some (name, record) := by
        rw [Declarations.bindable?, hrecord, Option.map_some]
      exact afterBinding_explores hregular h hb (hspelling.symm ▸ hmiss) hs hl ht hr
  · next underlying hrecord htypedef =>
      exact resolveTypedef_explores hregular h htypedef hrecord hlinks hfollow hmiss hs hl ht hr
  · next hrecord htypedef =>
      refine ⟨.refl ht, fun key hk => ?_⟩
      cases hk with
      | record _ hb => exact absurd hb (by simp [Declarations.bindable?, hrecord])
      | typedef _ ht' _ _ => cases htypedef.symm.trans ht'

omit hregular hclosed hright in
/-- An array is followed to its elements. -/
theorem arrayConversion_explores {element : CType} {length : Nat}
    (hw : (CType.array element length).isWellNamed)
    (hmiss : session.registry.get? (CType.array element length).spelling = none)
    (hs : session.Sound library) (hl : session.Settled []) (ht : session.Thorough library reached)
    (hr : ∀ key, library.Visits (.array element length) key → reached key) :
    Ensures True library (arrayConversion (binders.resolve 0) element length) session
      fun _ session' => session.Explores library reached session' ∧
        session'.HasVisited library (.array element length) := by
  have hseed := hs.contains_seeded hmiss
  have hvisited : ∀ session' : Session,
      (0 < length → library.decls.isElement element → session'.HasVisited library element) →
        session'.HasVisited library (.array element length) := by
    intro session' hv key hk
    cases hk with
    | record _ hb => cases hb
    | array _ hpos he hk' => exact hv hpos he key hk'
  rw [arrayConversion, ensures_bind, ensures_look]
  dsimp only
  rw [hmiss]
  dsimp only
  split
  · next hz => exact ⟨.refl ht, hvisited session fun hpos => absurd hz (Nat.ne_of_gt hpos)⟩
  next hz =>
  have hpos := Nat.pos_of_ne_zero hz
  rw [elementConversion, ensures_bind, ensures_bind, ensures_look]
  dsimp only
  split
  · next he =>
      rw [ensures_within]
      refine (h.resolve 0 element session (CType.isWellNamed_array.1 hw) (Nat.zero_le _)
        (hshort.followsWithin element) hs hl ht fun key hk => hr key (.array hseed hpos he hk)).mono
        fun result session' hall => ?_
      have hv := hvisited session' fun _ _ => hall.2
      cases result with
      | error error => exact ⟨hall.1, hv⟩
      | ok conversion =>
          rw [mapError_ok]
          dsimp only
          rw [writeArray, ensures_bind, ensures_update]
          have hlearned := hall.1.thorough.learn hw hv (.between
            (ArrayConverter.ofElement element (some length) conversion).toArray
            (ArrayConverter.ofElement element (some length) conversion).fromArray)
          exact ⟨⟨hlearned.congr rfl rfl rfl rfl (fun _ hp => hp) fun _ hd => hd, hall.1.begun⟩, hv⟩
  · next he => exact ⟨.refl ht, hvisited session fun _ he' => absurd he' he⟩

omit hclosed hright in
/-- Resolving a type leaves nothing out. -/
theorem resolveStep_explores {links : Nat} {type : CType} (hw : type.isWellNamed)
    (hlinks : links ≤ aliasLimit) (hfollow : library.decls.followsWithin (aliasLimit - links) type)
    (hs : session.Sound library) (hl : session.Settled []) (ht : session.Thorough library reached)
    (hr : ∀ key, library.Visits type key → reached key) :
    Ensures True library (resolveStep binders links type) session fun _ session' =>
      session.Explores library reached session' ∧ session'.HasVisited library type := by
  rw [resolveStep, ensures_bind, ensures_look]
  dsimp only
  split
  · next conversion hconversion =>
      have hknown : session.registry.contains type.spelling := by
        rw [Table.contains, hconversion]; rfl
      exact ⟨.refl ht, ht.registered type hw hknown⟩
  next hmiss =>
  rw [if_neg (Nat.not_lt.2 hlinks)]
  have hrefl : session.Explores library reached session := .refl ht
  cases type with
  | pointer pointee isConst =>
      exact resolvePointer_explores hregular h hw hlinks hfollow hmiss hs hl ht hr
  | named name =>
      have hspelling : (CType.named name).spelling = name := by rw [CType.spelling, CType.spell]
      exact resolveNamed_explores hregular h hlinks hfollow (hspelling ▸ hmiss) hs hl ht hr
  | tagged kind tag =>
      rw [resolveFresh, resolveTagged, ensures_bind, ensures_look]
      dsimp only
      split
      · next record hrecord =>
          have hb : library.decls.bindable? (.tagged kind tag) =
              some ((CType.tagged kind tag).spelling, record) := by
            rw [Declarations.bindable?, hrecord, Option.map_some]
          exact afterBinding_explores hregular h hb hmiss hs hl ht hr
      · next hrecord =>
          refine ⟨hrefl, fun key hk => ?_⟩
          cases hk with
          | record _ hb => exact absurd hb (by simp [Declarations.bindable?, hrecord])
  | enumeration tag =>
      refine remember_explores .integer hw hrefl fun key hk => ?_
      cases hk with
      | record _ hb => cases hb
  | array element length => exact arrayConversion_explores hshort h hw hmiss hs hl ht hr
  | _ =>
      refine ⟨hrefl, fun key hk => ?_⟩
      cases hk with
      | record _ hb => cases hb

end Steps

/-- Any number of levels leaves nothing out. -/
theorem bindersWithin_explore (hregular : library.decls.Regular)
    (hrank : library.decls.Ranked rank) (hshort : library.decls.IsShort)
    (hclosed : library.Encloses reached) (levels : Nat) :
    (bindersWithin levels).Explore library reached := by
  induction levels with
  | zero => exact ⟨fun _ _ _ _ _ _ _ _ _ _ => trivial, fun _ _ _ _ _ _ _ _ => trivial⟩
  | succ levels ih =>
      have hright := bindersWithin_right hregular hrank levels
      refine ⟨fun links type session hw hlinks hfollow hs hl ht hr => ?_,
        fun key record session hr hs hl ht hreached => ?_⟩
      · exact resolveStep_explores hregular hshort ih hw hlinks hfollow hs hl ht hr
      · exact bindStep_explores hregular hshort hclosed hright ih hr hs hl ht hreached

/-- Whatever comes of resolving a type, nothing has been left out. -/
theorem run_resolve_explores (hregular : library.decls.Regular) (hshort : library.decls.IsShort)
    (hclosed : library.Encloses reached) {type : CType} (hw : type.isWellNamed)
    (hs : session.Sound library) (hl : session.Settled []) (ht : session.Thorough library reached)
    (hr : ∀ key, library.Visits type key → reached key) :
    session.Explores library reached ((resolve type).run type.spelling library session).2 ∧
      ((resolve type).run type.spelling library session).2.HasVisited library type := by
  obtain ⟨rank, hrank⟩ := hregular.acyclic
  have henough := Session.room_add_le_levelsFor library rank session type
    (Nat.add_le_add_right (Nat.le_add_right library.decls.size session.pendingSize) type.size)
  have hends : Ensures False library (resolve type) session fun _ session' =>
      session.Explores library reached session' ∧ session'.HasVisited library type := by
    rw [resolve, withBinders, ensures_settled, ensures_bind, ensures_look]
    refine ((((bindersWithin_right hregular hrank _).resolve 0 type session hw hs hl).and
      ((bindersWithin_explore hregular hrank hshort hclosed _).resolve 0 type session hw
        (Nat.zero_le _) (hshort.followsWithin type) hs hl ht hr)).mono fun _ _ hall =>
        hall.2).excuse fun he => ?_
    exact absurd he (Nat.not_lt_of_le henough)
  obtain ⟨result, session', ho, hall⟩ := hends.exists_outcome
  rw [BindM.run, ho, Option.getD_some]
  exact hall

end ScriptBind
