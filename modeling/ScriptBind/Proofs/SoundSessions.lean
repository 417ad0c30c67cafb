import ScriptBind.Proofs.BindingGrowth
import ScriptBind.Proofs.SpellingShape

/-!
# Sessions that Know What Is Right

The invariant of binding. A sound session has a conversion only for what is
convertible, has bound only records whose members are, and has given up only on
records with a member that is not. The last is the delicate one: a record is
given up when its members cannot be bound at the moment, and it has to be shown
elsewhere that this moment does not mislead.

What a session has a conversion for is convertible by what it has bound: any
record that is not bound can be done without.

What a session knows is kept by spelling, so what it knows of one type it knows
of every type of that spelling; `alike_of_spelling` says that this does no harm.

Each lemma here is about one way of changing a session, and says what there is
to check for the session to stay sound.

## Main definitions

* `Session.Converts`: Types that are convertible by what a session has bound.
* `Session.Sound`: What a session knows is right.
* `Session.Settled`: What has been bound for the last time is settled.
* `Session.Leads`: A session leads to a sound one by adding to it.

## Theorems

* `sound_start`: A session starts sound.
* `Sound.addConversion`, `Sound.shareWithAlias`, `Sound.commit`, `Sound.conclude`,
  `Sound.takeDeferred`: Changes that keep a session sound.
-/

namespace ScriptBind

/-- Whether a text ends with a star. -/
def endsWithStar (text : String) : Bool := text.toList.getLast? == some '*'

/-- The session has bound none of some records. -/
def Session.Unbound (session : Session) (avoided : List String) : Prop :=
  ∀ key ∈ avoided, session.boundStruct? key = none

/-- A type is convertible by what the session has bound. -/
def Session.Converts (library : Library) (session : Session) (type : CType) : Prop :=
  ∀ avoided, session.Unbound avoided → ConvertibleBut library avoided type

/-- Members that have the conversions they need by what the session has bound. -/
def Session.ConvertsAll (library : Library) (session : Session) (fields : List Field) : Prop :=
  ∀ field ∈ fields, field.isConverted library.decls → session.Converts library field.type

/-- What a session knows is right. -/
structure Session.Sound (library : Library) (session : Session) : Prop where
  /-- The conversions that need nothing to be generated are there. -/
  seeded : ∀ key, (Registry.seeded library.naming).contains key → session.registry.contains key
  /-- Only convertible types have a conversion. -/
  registered : ∀ type : CType, type.isWellNamed → session.registry.contains type.spelling →
    session.Converts library type
  /-- Only function pointers are converted by registering them. -/
  register : ∀ key conversion, session.registry.get? key = some conversion →
    conversion.inward = .register → endsWithStar key = false ∧
      ∀ type : CType, type.isWellNamed → type.spelling = key →
        (library.decls.functionPointer type).isSome
  /-- A record that is bound has a conversion, and so do its members. -/
  done : ∀ key bound, session.structs.get? key = some (.done bound) →
    session.registry.contains key ∧ ∀ record, library.decls.records.get? key = some record →
      session.ConvertsAll library record.flattened
  /-- A record that has failed has a member without a conversion. -/
  failed : ∀ key error record, session.structs.get? key = some (.failed error) →
    library.decls.records.get? key = some record → ¬ MembersBut library [] record.flattened
  /-- The records put off are declared and have not been bound for the last
      time. -/
  deferred : ∀ row ∈ session.deferred.rows, library.decls.records.get? row.1 = some row.2.record ∧
    row.2.typedef = none ∧ row.1 ∉ session.retried

/-- What has been bound for the last time is settled or being bound, except for
    some records that are to be bound when nothing else is. -/
def Session.Settled (exempt : List String) (session : Session) : Prop :=
  ∀ key ∈ session.retried, session.structs.contains key ∨ key ∈ session.inProgress ∨
    key ∈ exempt ∧ session.inProgress = []

variable {library : Library}

theorem mem_of_get?_ofFirstRows {α : Type} {rows : List (String × α)} {name : String} {value : α}
    (h : (Table.ofFirstRows rows).get? name = some value) : (name, value) ∈ rows := by
  rw [Table.get?_ofFirstRows] at h
  exact Table.mem_of_find? h

theorem Table.contains_ofFirstRows {α : Type} {rows : List (String × α)} {name : String} {value : α}
    (h : (name, value) ∈ rows) : (Table.ofFirstRows rows).contains name := by
  rw [Table.contains, Table.get?_ofFirstRows, Option.isSome_iff_ne_none, ne_eq,
    Table.find?_eq_none_iff]
  exact fun hn => hn (List.mem_map_of_mem h)

theorem inward_between (inward outward : String) :
    (Conversion.between inward outward).inward ≠ .register := fun h => by cases h

theorem seeds_inward (naming : Naming) :
    ∀ row ∈ Registry.seeds naming, row.2.inward ≠ .register := by
  have hcasting : ∀ read outward types, ∀ row ∈ List.map (Registry.casting read outward) types,
      row.2.inward ≠ .register := by
    intro read outward types row hr
    rcases List.mem_map.1 hr with ⟨type, -, rfl⟩
    exact inward_between _ _
  rw [Registry.seeds]
  refine List.forall_mem_append.2 ⟨List.forall_mem_append.2 ⟨List.forall_mem_append.2 ⟨?_,
    hcasting _ _ _⟩, hcasting _ _ _⟩, hcasting _ _ _⟩
  simp only [List.forall_mem_cons]
  exact ⟨inward_between _ _, inward_between _ _, inward_between _ _, inward_between _ _,
    inward_between _ _, inward_between _ _, inward_between _ _, fun _ h => by cases h⟩

theorem endsWithStar_append (text : String) : endsWithStar (text ++ " *") = true := by
  simp [endsWithStar]

theorem ending_of_endsWithStar {type : CType} (h : type.isWellNamed)
    (hs : endsWithStar type.spelling) : type.ending = some '*' := by
  rcases ending_eq h with ⟨c, rest, he, hc⟩
  have hstar : c = '*' := by
    rw [endsWithStar, beq_iff_eq, ← List.head?_reverse] at hs
    rw [fromEnd] at he
    rw [he, List.head?_cons] at hs
    exact Option.some.inj hs
  rwa [hstar, if_neg (by decide)] at hc

/-- A type whose spelling ends with a star is a pointer. -/
theorem exists_pointee {type : CType} (h : type.isWellNamed) (hs : endsWithStar type.spelling) :
    ∃ pointee isConst, type = .pointer pointee isConst := by
  have hend := ending_of_endsWithStar h hs
  cases type with
  | pointer pointee isConst => exact ⟨pointee, isConst, rfl⟩
  | _ => exact absurd hend (by simp [CType.ending])

/-- The spelling of a function pointer does not end with a star. -/
theorem endsWithStar_of_functionPointer {decls : Declarations} {type : CType} (h : type.isWellNamed)
    (hf : (decls.functionPointer type).isSome) : endsWithStar type.spelling = false := by
  refine Bool.eq_false_iff.2 fun hs => ?_
  have hend := ending_of_endsWithStar h hs
  rcases exists_pointee h hs with ⟨pointee, isConst, rfl⟩
  cases pointee with
  | function signature => exact absurd hend (by simp [CType.ending, CType.isFunction])
  | _ => exact absurd hf Bool.false_ne_true

namespace Session

section Converts

variable {session session' : Session}

theorem unbound_nil (session : Session) : session.Unbound [] := fun _ h => by cases h

theorem converts_pointer (session : Session) (pointee : CType) (isConst : Bool) :
    session.Converts library (.pointer pointee isConst) :=
  fun _ _ => .pointer pointee isConst

theorem Converts.convertible {type : CType} (h : session.Converts library type) :
    Convertible library type :=
  h [] session.unbound_nil

theorem ConvertsAll.membersBut {fields : List Field} {avoided : List String}
    (h : session.ConvertsAll library fields) (hu : session.Unbound avoided) :
    MembersBut library avoided fields :=
  fun field hf hc => h field hf hc avoided hu

/-- More records may be bound. -/
theorem Converts.mono {type : CType} (h : session.Converts library type)
    (hb : ∀ key, session'.boundStruct? key = none → session.boundStruct? key = none) :
    session'.Converts library type :=
  fun avoided hu => h avoided fun key hk => hb key (hu key hk)

theorem ConvertsAll.mono {fields : List Field} (h : session.ConvertsAll library fields)
    (hb : ∀ key, session'.boundStruct? key = none → session.boundStruct? key = none) :
    session'.ConvertsAll library fields :=
  fun field hf hc => (h field hf hc).mono hb

theorem boundStruct?_eq_none_of_initial (h : session.structs.rows <+: session'.structs.rows)
    (key : String) (hn : session'.boundStruct? key = none) : session.boundStruct? key = none := by
  refine Option.eq_none_iff_forall_ne_some.2 fun bound hbound => ?_
  have hlater := Table.get?_of_initial h (get?_of_boundStruct? hbound)
  rw [boundStruct?_of_get? hlater] at hn
  cases hn

theorem boundStruct?_settleStruct_of_ne {key other : String} (h : key ≠ other)
    (outcome : StructOutcome) :
    (session.settleStruct key outcome).boundStruct? other = session.boundStruct? other := by
  rw [boundStruct?, boundStruct?, settleStruct, Table.get?_set, if_neg h]

theorem get?_settleStruct (session : Session) (key : String) (outcome : StructOutcome) :
    (session.settleStruct key outcome).structs.get? key = some outcome := by
  rw [settleStruct, Table.get?_set, if_pos rfl]

end Converts

theorem start_registry (naming : Naming) : (start naming).registry = Registry.seeded naming := by
  rw [start]

/-- A session starts sound. -/
theorem sound_start (library : Library) : (start library.naming).Sound library where
  seeded := by
    intro key h
    rw [start_registry]
    exact h
  registered := by
    intro type _ h
    rw [start_registry] at h
    exact fun avoided _ => .seeded h
  register := by
    intro key conversion h hi
    rw [start_registry, Registry.seeded] at h
    exact absurd hi (seeds_inward library.naming _ (mem_of_get?_ofFirstRows h))
  done := fun _ _ h => by cases h
  failed := fun _ _ _ h => by cases h
  deferred := fun _ h => by cases h

theorem settled_start (exempt : List String) (naming : Naming) : (start naming).Settled exempt :=
  fun _ h => by cases h

variable {session session' : Session}

/-- Whether a session is sound depends on its conversions and records only. -/
theorem Sound.congr (h : session.Sound library) (hr : session'.registry = session.registry)
    (hs : session'.structs = session.structs) (hd : session'.deferred = session.deferred)
    (hl : session'.retried = session.retried) : session'.Sound library where
  seeded := hr ▸ h.seeded
  registered := by
    intro type ht hc
    rw [hr] at hc
    exact (h.registered type ht hc).mono fun key hk => by rwa [boundStruct?, ← hs]
  register := hr ▸ h.register
  done := by
    intro key bound hb
    rw [hs] at hb
    refine ⟨hr ▸ (h.done key bound hb).1, fun record hrecord => ?_⟩
    exact ((h.done key bound hb).2 record hrecord).mono fun key hk => by rwa [boundStruct?, ← hs]
  failed := hs ▸ h.failed
  deferred := by rw [hd, hl]; exact h.deferred

/-- One more conversion, under the spelling of convertible types. -/
theorem Sound.addConversion (h : session.Sound library) {key : String} {conversion : Conversion}
    (hc : ∀ type : CType, type.isWellNamed → type.spelling = key → session.Converts library type)
    (hi : conversion.inward = .register → endsWithStar key = false ∧
      ∀ type : CType, type.isWellNamed → type.spelling = key →
        (library.decls.functionPointer type).isSome) :
    (session.addConversion key conversion).Sound library where
  seeded := fun other ho => Table.contains_of_initial (Table.prefix_add ..) (h.seeded other ho)
  registered := by
    intro type ht hr
    rw [Session.addConversion, Table.contains_add, Bool.or_eq_true, decide_eq_true_eq] at hr
    exact hr.elim (h.registered type ht) fun he => hc type ht he.symm
  register := by
    intro other found hf hin
    rw [Session.addConversion, Table.get?_add] at hf
    rcases Option.or_eq_some_iff.1 hf with hf | ⟨-, hn⟩
    · exact h.register other found hf hin
    · split at hn
      · next he =>
          rw [← Option.some.inj hn] at hin
          exact he ▸ hi hin
      · cases hn
  done := fun other bound ho =>
    ⟨Table.contains_of_initial (Table.prefix_add ..) (h.done other bound ho).1,
      (h.done other bound ho).2⟩
  failed := h.failed
  deferred := h.deferred

/-- One more conversion, for a convertible type. -/
theorem Sound.learn (h : session.Sound library) {type : CType} {conversion : Conversion}
    (hw : type.isWellNamed) (hc : session.Converts library type)
    (hi : conversion.inward = .register → (library.decls.functionPointer type).isSome) :
    (session.addConversion type.spelling conversion).Sound library := by
  refine h.addConversion (fun other ho hs avoided hu => (hc avoided hu).of_spelling hw ho hs.symm)
    fun hin => ?_
  refine ⟨endsWithStar_of_functionPointer hw (hi hin), fun other ho hs => ?_⟩
  rw [(alike_of_spelling ho hw hs).functionPointer]
  exact hi hin

/-- A typedef of convertible types. -/
theorem Sound.shareWithAlias (h : session.Sound library) (name underlying : String) :
    (session.shareWithAlias name underlying).Sound library := by
  obtain ⟨aliases, -, he | ⟨conversion, hk, he⟩⟩ := session.shareWithAlias_cases name underlying
  · rw [he]
    exact h.congr rfl rfl rfl rfl
  · have hp : (session.addConversion (name ++ " *") conversion).Sound library := by
      refine h.addConversion (fun type ht hs => ?_) fun hi => ?_
      · rcases exists_pointee ht (by rw [hs]; exact endsWithStar_append name) with
          ⟨pointee, isConst, rfl⟩
        exact session.converts_pointer pointee isConst
      · have hstar := (h.register _ conversion hk hi).1
        rw [endsWithStar_append] at hstar
        exact absurd hstar (by decide)
    rw [he]
    exact hp.congr rfl rfl rfl rfl

theorem retried_shareWithAlias (session : Session) (name underlying : String) :
    (session.shareWithAlias name underlying).retried = session.retried := by
  obtain ⟨registry, aliases, he⟩ := session.shareWithAlias_eq name underlying
  rw [he]

/-- One more record bound. -/
theorem Sound.commit (h : session.Sound library) {members : BoundMembers} {record : Record}
    (hr : library.decls.records.get? members.key = some record)
    (hs : ∀ type : CType, type.isWellNamed → type.spelling = members.key →
      library.decls.bindable? type = some (members.key, record))
    (hm : session.ConvertsAll library record.flattened) (typedef : Option MemberTypedef) :
    (session.commit typedef members).Sound library := by
  rw [commit_eq]
  -- The record counts as bound before its conversions are there.
  have hbound : ∀ key, (session.settleStruct members.key (.done members.bound)).boundStruct? key =
      none → members.key ≠ key ∧ session.boundStruct? key = none := by
    intro key hn
    by_cases he : members.key = key
    · rw [← he, boundStruct?_of_get? (session.get?_settleStruct ..)] at hn
      cases hn
    · exact ⟨he, by rwa [boundStruct?_settleStruct_of_ne he] at hn⟩
  have hmore := fun key hn => (hbound key hn).2
  exact
    { seeded := fun key hk => Table.contains_of_initial
        ((Table.prefix_add ..).trans (Table.prefix_add ..)) (h.seeded key hk)
      registered := by
        intro type ht hc
        simp only [Table.contains_add, Bool.or_eq_true, decide_eq_true_eq] at hc
        rcases hc with (hc | he) | he
        · exact (h.registered type ht hc).mono hmore
        · intro avoided hu
          have hself : members.key ∉ avoided := fun hin => (hbound _ (hu _ hin)).1 rfl
          exact .record (hs type ht he.symm) hself ((hm.mono hmore).membersBut hu)
        · obtain ⟨pointee, isConst, rfl⟩ :=
            exists_pointee ht (by rw [← he]; exact endsWithStar_append members.key)
          exact converts_pointer _ pointee isConst
      register := by
        intro key conversion hf hi
        rw [Table.get?_add, Table.get?_add] at hf
        rcases Option.or_eq_some_iff.1 hf with hf | ⟨-, hn⟩
        · rcases Option.or_eq_some_iff.1 hf with hf | ⟨-, hn⟩
          · exact h.register key conversion hf hi
          · split at hn
            · rw [← Option.some.inj hn] at hi
              cases hi
            · cases hn
        · split at hn
          · rw [← Option.some.inj hn] at hi
            cases hi
          · cases hn
      done := by
        intro key bound hb
        rw [Table.get?_set] at hb
        split at hb
        · next he =>
            subst he
            refine ⟨?_, fun other ho => ?_⟩
            · simp [Table.contains_add]
            · rw [hr] at ho
              exact Option.some.inj ho ▸ hm.mono hmore
        · exact ⟨Table.contains_of_initial ((Table.prefix_add ..).trans (Table.prefix_add ..))
            (h.done key bound hb).1, fun other ho => ((h.done key bound hb).2 other ho).mono hmore⟩
      failed := by
        intro key error other hf
        rw [Table.get?_set] at hf
        split at hf
        · exact absurd hf (by simp)
        · exact h.failed key error other hf
      deferred := h.deferred }

/-- One more record failed or put off. -/
theorem Sound.conclude (h : session.Sound library) {key : String} {record : Record}
    (hr : library.decls.records.get? key = some record)
    (hn : session.structs.get? key = none) {meetings : Nat}
    (hm : session.meetings ≤ meetings ∨ key ∈ session.retried →
      ¬ MembersBut library [] record.flattened) (error : BindError) :
    (session.conclude key ⟨record, none⟩ meetings error).Sound library := by
  rw [Session.conclude]
  split
  · next hd =>
      rw [Bool.and_eq_true, decide_eq_true_eq, Bool.not_eq_true', Bool.eq_false_iff, ne_eq,
        List.contains_iff_mem] at hd
      exact
        { h with
          deferred := by
            intro row hrow
            rw [Session.defer, Table.add_rows] at hrow
            rcases List.mem_append.1 hrow with ho | hnew
            · exact h.deferred row ho
            · split at hnew
              · cases hnew
              · rw [List.mem_singleton.1 hnew]
                exact ⟨hr, rfl, hd.2⟩ }
  · next hd =>
      rw [Bool.and_eq_true, decide_eq_true_eq, Bool.not_eq_true', Bool.eq_false_iff, ne_eq,
        List.contains_iff_mem] at hd
      have hfailed : ¬ MembersBut library [] record.flattened := by
        refine hm ?_
        by_cases hk : key ∈ session.retried
        · exact Or.inr hk
        · exact Or.inl (Nat.le_of_not_lt fun hlt => hd ⟨hlt, hk⟩)
      have hmore : ∀ other, (session.settleStruct key (.failed error)).boundStruct? other = none →
          session.boundStruct? other = none := by
        intro other ho
        by_cases he : key = other
        · rw [boundStruct?, ← he, hn]
        · rwa [boundStruct?_settleStruct_of_ne he] at ho
      exact
        { h with
          registered := fun type ht hc => (h.registered type ht hc).mono hmore
          done := by
            intro other bound ho
            rw [reject, settleStruct, Table.get?_set] at ho
            split at ho
            · exact absurd ho (by simp)
            · exact ⟨(h.done other bound ho).1, fun third ht =>
                ((h.done other bound ho).2 third ht).mono hmore⟩
          failed := by
            intro other found third ho ht
            rw [reject, settleStruct, Table.get?_set] at ho
            split at ho
            · next he =>
                rw [← he, hr] at ht
                exact Option.some.inj ht ▸ hfailed
            · exact h.failed other found third ho ht }

/-- One more record to be bound for the last time. -/
theorem Sound.takeDeferred (h : session.Sound library) (key : String) :
    (session.takeDeferred key).Sound library :=
  { h with
    deferred := by
      intro row hrow
      rcases List.mem_filter.1 hrow with ⟨hm, hne⟩
      rcases h.deferred row hm with ⟨hr, ht, hl⟩
      refine ⟨hr, ht, ?_⟩
      show row.1 ∉ session.retried ++ [key]
      exact fun hmem => (List.mem_append.1 hmem).elim hl fun hk =>
        absurd (List.mem_singleton.1 hk) (by simpa using hne) }

/-- Whether a session is settled depends on few of its fields. -/
theorem Settled.congr {exempt : List String} (h : session.Settled exempt)
    (hs : session'.structs = session.structs) (hp : session'.inProgress = session.inProgress)
    (hl : session'.retried = session.retried) : session'.Settled exempt := by
  rw [Settled, hs, hp, hl]
  exact h

/-- A session leads to a sound and settled one by adding to it. -/
structure Leads (library : Library) (session session' : Session) : Prop where
  /-- The session only grows. -/
  grows : session.Grows session'
  /-- What it knows in the end is right. -/
  sound : session'.Sound library
  /-- What has been bound for the last time is settled or being bound. -/
  settled : session'.Settled []

theorem Leads.refl (h : session.Sound library) (hs : session.Settled []) :
    session.Leads library session := ⟨.refl session, h, hs⟩

theorem Leads.trans {session'' : Session} (h : session.Leads library session')
    (h' : session'.Leads library session'') : session.Leads library session'' :=
  ⟨h.grows.trans h'.grows, h'.sound, h'.settled⟩

/-- A session that adds to one it was led to is led to as well. -/
theorem Leads.then {session'' : Session} (h : session.Leads library session')
    (hg : session'.Grows session'') (hs : session''.Sound library)
    (hl : session''.retried = session'.retried) : session.Leads library session'' := by
  refine ⟨h.grows.trans hg, hs, fun key hk => ?_⟩
  rw [hl] at hk
  rcases h.settled key hk with hc | hp | he
  · exact Or.inl (Table.contains_of_initial hg.structs hc)
  · exact Or.inr (Or.inl (by rw [hg.inProgress]; exact hp))
  · cases he.1

end Session

end ScriptBind
