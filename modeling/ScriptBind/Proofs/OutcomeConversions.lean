import ScriptBind.Proofs.CNames

/-!
# Outcomes and Conversions Agree

What became of a record and the conversions under its spelling are kept in two
tables, and code is made from both. They say the same in every session that can
come about for a library named as in C: a record is bound exactly if its
spelling has a conversion, which is then its own, and so is that of pointers to
it.

A conversion stays once it is there, so the one of pointers to a record must not
be taken too early. While a record is being bound, or is put off, pointers to it
are passed untyped for the moment, and only when the record has failed is this
remembered. The invariant says it for each record by itself, and each change
either leaves the two spellings alone or is about the record.

## Main definitions

* `Session.Agrees`: The conversions of a record and of its pointers are as its
  outcome says.

## Theorems

* `Learns.agrees`: What resolving learns does not get ahead of an outcome.
* `Change.agrees`: Every change keeps them in agreement.
* `conversions_agree_with_outcomes`: They agree in all reachable sessions.
-/

namespace ScriptBind

namespace Session

/-- The conversions under the spelling of a record and of pointers to it are as
    the outcome of the record says. -/
structure Agrees (library : Library) (key : String) (session : Session) : Prop where
  /-- Only a bound record has a conversion. -/
  bound : session.registry.contains key → ∃ bound, session.structs.get? key = some (.done bound)
  /-- A bound record has the conversion by its own functions. -/
  value : ∀ bound, session.structs.get? key = some (.done bound) →
    session.registry.get? key = some
      { inward := .apply s!"mp_write_{bareTag key}"
        outward := s!"mp_read_{bareTag key}"
        byReference := some s!"mp_read_byref_{bareTag key}" }
  /-- So have pointers to it. -/
  pointer : ∀ bound, session.structs.get? key = some (.done bound) →
    (Registry.seeded library.naming).contains (key ++ " *") = false →
    session.registry.get? (key ++ " *") = some
      (.between s!"mp_write_ptr_{bareTag key}" s!"mp_read_ptr_{bareTag key}")
  /-- Pointers to other records have a conversion only if these have failed. -/
  untyped : (Registry.seeded library.naming).contains (key ++ " *") = false →
    ∀ conversion, session.registry.get? (key ++ " *") = some conversion →
      (∃ bound, session.structs.get? key = some (.done bound)) ∨
        (∃ error, session.structs.get? key = some (.failed error)) ∧ conversion = .untyped

variable {library : Library} {session session' : Session} {key : String}

/-- Conversions and outcomes are all there is to agree. -/
theorem Agrees.of_eq (h : session.Agrees library key) (hr : session'.registry = session.registry)
    (hs : session'.structs = session.structs) : session'.Agrees library key where
  bound := by rw [hr, hs]; exact h.bound
  value := by rw [hr, hs]; exact h.value
  pointer := by rw [hr, hs]; exact h.pointer
  untyped := by rw [hr, hs]; exact h.untyped

theorem agrees_start (hk : (Registry.seeded library.naming).contains key = false) :
    (start library.naming).Agrees library key where
  bound := fun hc => by
    rw [start_registry, hk] at hc
    exact absurd hc Bool.false_ne_true
  value := fun _ hb => by cases hb
  pointer := fun _ hb => by cases hb
  untyped := fun hp conversion hc => by
    rw [start_registry] at hc
    rw [Table.contains, hc] at hp
    cases hp

/-- One more conversion, of another type or of pointers to a record that has
    failed. -/
theorem Agrees.addConversion (h : session.Agrees library key) {other : String}
    {conversion : Conversion} (hne : other ≠ key)
    (hp : (Registry.seeded library.naming).contains (key ++ " *") = false → other = key ++ " *" →
      (∃ bound, session.structs.get? key = some (.done bound)) ∨
        (∃ error, session.structs.get? key = some (.failed error)) ∧ conversion = .untyped) :
    (session.addConversion other conversion).Agrees library key where
  bound := fun hc => by
    rw [Session.addConversion, Table.contains_add, Bool.or_eq_true, decide_eq_true_eq] at hc
    exact h.bound (hc.resolve_right hne)
  value := fun bound hb => Table.get?_of_initial (Table.prefix_add ..) (h.value bound hb)
  pointer := fun bound hb hs => Table.get?_of_initial (Table.prefix_add ..) (h.pointer bound hb hs)
  untyped := fun hs found hf => by
    rw [Session.addConversion, Table.get?_add] at hf
    rcases Option.or_eq_some_iff.1 hf with hf | ⟨-, hn⟩
    · exact h.untyped hs found hf
    · split at hn
      · next he =>
          rw [← Option.some.inj hn]
          exact hp hs he
      · cases hn

/-- A conversion of a type that is neither the record nor a pointer to it. -/
theorem Agrees.addOther (h : session.Agrees library key) {other : String} (conversion : Conversion)
    (hne : other ≠ key) (hp : other ≠ key ++ " *") :
    (session.addConversion other conversion).Agrees library key :=
  h.addConversion hne fun _ he => absurd he hp

/-- The outcome of another record. -/
theorem Agrees.settleStruct (h : session.Agrees library key) {other : String} (hne : other ≠ key)
    (outcome : StructOutcome) : (session.settleStruct other outcome).Agrees library key := by
  have hget : (session.settleStruct other outcome).structs.get? key = session.structs.get? key := by
    rw [Session.settleStruct, Table.get?_set, if_neg hne]
  exact
    { bound := by rw [hget]; exact h.bound
      value := by rw [hget]; exact h.value
      pointer := by rw [hget]; exact h.pointer
      untyped := by rw [hget]; exact h.untyped }

/-- What a typedef takes over goes under its own name. -/
theorem Agrees.shareWithAlias (h : session.Agrees library key) {name : String} (hne : name ≠ key)
    (hstar : endsWithStar key = false) (underlying : String) :
    (session.shareWithAlias name underlying).Agrees library key := by
  have hkey : name ++ " *" ≠ key := by
    rintro rfl
    rw [endsWithStar_append] at hstar
    cases hstar
  have hpointer : name ++ " *" ≠ key ++ " *" := fun he => hne ((String.append_left_inj _).1 he)
  obtain ⟨aliases, -, he | ⟨conversion, -, he⟩⟩ := session.shareWithAlias_cases name underlying
  · rw [he]
    exact h.of_eq rfl rfl
  · rw [he]
    exact (h.addOther conversion hkey hpointer).of_eq rfl rfl

variable {hc : library.decls.OfC} {record : Record}

/-- What resolving learns is about another type, or about pointers to a record
    that has an outcome. -/
theorem Agrees.learn (h : session.Agrees library key)
    (hr : library.decls.records.get? key = some record)
    (hk : (Registry.seeded library.naming).contains key = false) {other : String}
    {conversion : Conversion} (hl : session.Learns (Scope.ofC hc) other conversion) :
    (session.addConversion other conversion).Agrees library key := by
  -- Words, pointers, arrays and callbacks are told apart by their last characters.
  cases hl with
  | callback hf =>
      have hend := lastOf_callback hf
      exact h.addOther _ (hc.ne_of_lastOf hr hend (by decide))
        (ne_star_of_lastOf hend (by decide) key)
  | @record pointee isConst recordKey other hb hsettled _ =>
      have hf := isFunction_of_bindable? hb
      have hne := hc.ne_of_lastOf hr (lastOf_pointer hf isConst) (by decide)
      refine h.addConversion hne fun _ he => ?_
      -- The record pointed to is the one in question.
      obtain rfl : recordKey = key := by
        rw [← Declarations.spelling_of_bindable? hb]
        exact spelling_of_star hf (hc.endsWithStar_record hr) he
      obtain ⟨outcome, ho⟩ := Option.isSome_iff_exists.1 hsettled
      cases outcome with
      | done bound => exact Or.inl ⟨bound, ho⟩
      | failed error => exact Or.inr ⟨⟨error, ho⟩, rfl⟩
  | @pointer pointee isConst ht hb hfun =>
      have hf := isFunction_of_functionPointer hfun
      have hne := hc.ne_of_lastOf hr (lastOf_pointer hf isConst) (by decide)
      refine h.addConversion hne fun hs he => ?_
      -- It would be the record that is pointed to.
      have hspelling := spelling_of_star hf (hc.endsWithStar_record hr) he
      rw [hc.bindable_of_spelling ht hr hspelling hk hs] at hb
      cases hb
  | @typedef name underlying hn htypedef =>
      obtain ⟨d, hd, hw⟩ := lastOf_identifier (hc.typedefName _ (Table.mem_of_get? htypedef))
      refine h.addOther _ ?_ (ne_star_of_lastOf hd (ne_star_of_isWordChar hw) key)
      rintro rfl
      rw [hr] at hn
      cases hn
  | @enumeration tag ht =>
      have hi : Text.isIdentifier tag := by
        have htype : (CType.enumeration tag).isOfC := ht
        rwa [CType.isOfC] at htype
      obtain ⟨d, hd, hw⟩ := lastOf_keyed "enum " hi
      have hend : lastOf (CType.enumeration tag).spelling = some d := by
        rw [CType.spelling, CType.spell, hd]
      exact h.addOther _ (hc.ne_enumeration hr tag)
        (ne_star_of_lastOf hend (ne_star_of_isWordChar hw) key)

theorem Agrees.typedef (h : session.Agrees library key) (hc : library.decls.OfC)
    (hr : library.decls.records.get? key = some record) {name : String} {underlying : CType}
    (conversion : Conversion) (hn : library.decls.records.get? name = none)
    (ht : library.decls.typedefs.get? name = some underlying) :
    ((session.addConversion name conversion).shareWithAlias name underlying.spelling).Agrees
      library key := by
  have hne : name ≠ key := by
    rintro rfl
    rw [hr] at hn
    cases hn
  obtain ⟨d, hd, hw⟩ := lastOf_identifier (hc.typedefName _ (Table.mem_of_get? ht))
  have hpointer := ne_star_of_lastOf hd (ne_star_of_isWordChar hw) key
  exact (h.addOther conversion hne hpointer).shareWithAlias hne (hc.endsWithStar_record hr) _

theorem Agrees.add (h : session.Agrees library key)
    (hr : library.decls.records.get? key = some record)
    (hk : (Registry.seeded library.naming).contains key = false)
    (ha : session.Addition (Scope.ofC hc) session') : session'.Agrees library key := by
  cases ha with
  | learn hl => exact h.learn hr hk hl
  | typedef conversion hn ht => exact h.typedef hc hr conversion hn ht
  | @array element other converter conversion _ hkey =>
      have hend := lastOf_array hkey
      have hemitted : (session.emit (.arrayConverter converter)).Agrees library key :=
        h.of_eq rfl rfl
      exact hemitted.addOther conversion (hc.ne_of_lastOf hr hend (by decide))
        (ne_star_of_lastOf hend (by decide) key)
  | settleFailed => exact h.of_eq rfl rfl
  | write => exact h.of_eq rfl rfl
  | stub => exact h.of_eq rfl rfl
  | wrap => exact h.of_eq rfl rfl
  | emit => exact h.of_eq rfl rfl
  | reject => exact h.of_eq rfl rfl

/-- A record without an outcome has no conversion, and neither have pointers to
    it. -/
theorem Agrees.get?_eq_none (h : session.Agrees library key)
    (hn : session.structs.get? key = none) :
    session.registry.get? key = none ∧
      ((Registry.seeded library.naming).contains (key ++ " *") = false →
        session.registry.get? (key ++ " *") = none) := by
  constructor
  · refine Option.eq_none_iff_forall_ne_some.2 fun conversion hconversion => ?_
    obtain ⟨bound, hb⟩ := h.bound (Option.isSome_iff_exists.2 ⟨conversion, hconversion⟩)
    rw [hn] at hb
    cases hb
  · intro hs
    refine Option.eq_none_iff_forall_ne_some.2 fun conversion hconversion => ?_
    rcases h.untyped hs conversion hconversion with ⟨bound, hb⟩ | ⟨⟨error, he⟩, -⟩
    · rw [hn] at hb
      cases hb
    · rw [hn] at he
      cases he

theorem Agrees.fail (h : session.Agrees library key) {other : String}
    (hn : session.structs.get? other = none) (error : BindError) :
    (session.settleStruct other (.failed error)).Agrees library key := by
  by_cases hkey : other = key
  · -- Nothing was known of the record, and nothing is added.
    subst hkey
    obtain ⟨hvalue, hpointer⟩ := h.get?_eq_none hn
    have hget := session.get?_settleStruct other (.failed error)
    exact
      { bound := fun hc => by
          rw [Table.contains, show (session.settleStruct other (.failed error)).registry.get?
            other = none from hvalue] at hc
          cases hc
        value := fun bound hb => by
          rw [hget] at hb
          cases hb
        pointer := fun bound hb => by
          rw [hget] at hb
          cases hb
        untyped := fun hs conversion hf => by
          rw [show (session.settleStruct other (.failed error)).registry.get? (other ++ " *") = none
            from hpointer hs] at hf
          cases hf }
  · exact h.settleStruct hkey _

/-- The conversions of a bound record are there before anything else could be
    under their names. -/
theorem Agrees.commit (h : session.Agrees library key) {members : BoundMembers}
    (hname : members.name = bareTag members.key) (hstar : endsWithStar members.key = false)
    (hkey : endsWithStar key = false) (hn : session.structs.get? members.key = none)
    (typedef : Option MemberTypedef) : (session.commit typedef members).Agrees library key := by
  have hends : ∀ text, text ++ " *" ≠ key := by
    rintro text rfl
    rw [endsWithStar_append] at hkey
    cases hkey
  by_cases he : members.key = key
  · -- Nothing was known of the record, so its own conversions are the first.
    subst he
    obtain ⟨hvalue, hpointer⟩ := h.get?_eq_none hn
    rw [commit_eq]
    have hget := session.get?_settleStruct members.key (.done members.bound)
    exact
      { bound := fun _ => ⟨members.bound, hget⟩
        value := fun bound _ => by
          rw [Table.get?_add, Table.get?_add, hvalue, if_pos rfl, Option.none_or, Option.some_or,
            ← hname]
          rfl
        pointer := fun bound _ hs => by
          rw [Table.get?_add, Table.get?_add, hpointer hs, if_neg (hends _).symm, if_pos rfl,
            ← hname]
          rfl
        untyped := fun _ _ _ => Or.inl ⟨members.bound, hget⟩ }
  · -- Another record shares neither name with it.
    have hother : members.key ≠ key ++ " *" := by
      intro hm
      rw [hm, endsWithStar_append] at hstar
      cases hstar
    have hpointers : members.key ++ " *" ≠ key ++ " *" := fun hm =>
      he ((String.append_left_inj _).1 hm)
    have hknown := (h.addOther members.conversion he hother).addOther members.pointerConversion
      (hends _) hpointers
    rw [commit_eq]
    exact (hknown.settleStruct he (.done members.bound)).of_eq rfl rfl

/-- Every change keeps outcomes and conversions in agreement. -/
theorem Change.agrees (hr : library.decls.records.get? key = some record)
    (hk : (Registry.seeded library.naming).contains key = false)
    (hchange : session.Change (Scope.ofC hc) session') (h : session.Agrees library key) :
    session'.Agrees library key := by
  cases hchange with
  | add ha => exact h.add hr hk ha
  | enter => exact h.of_eq rfl rfl
  | leave => exact h.of_eq rfl rfl
  | meet => exact h.of_eq rfl rfl
  | defer => exact h.of_eq rfl rfl
  | takeDeferred => exact h.of_eq rfl rfl
  | fail error _ hn => exact (h.fail hn error).of_eq rfl rfl
  | commit typedef hm hn =>
      obtain ⟨record', hstar, -⟩ := hm.record
      exact h.commit hm.name hstar (hc.endsWithStar_record hr) hn typedef

end Session

/-- In every session that operations lead to, and also in the middle of one, a
    declared record has a conversion exactly if it is bound. It is the record's
    own then, and so is that of pointers to it. Pointers to a record that is not
    bound have a conversion only if the record has failed, and are passed
    untyped. -/
theorem conversions_agree_with_outcomes {library : Library} (h : library.decls.OfC)
    {session : Session} (hs : session.Reachable (Scope.ofC h)) {key : String} {record : Record}
    (hr : library.decls.records.get? key = some record)
    (hk : (Registry.seeded library.naming).contains key = false) :
    (session.registry.contains key ↔ ∃ bound, session.structs.get? key = some (.done bound)) ∧
      (∀ bound, session.structs.get? key = some (.done bound) →
        session.registry.get? key = some
          { inward := .apply s!"mp_write_{bareTag key}"
            outward := s!"mp_read_{bareTag key}"
            byReference := some s!"mp_read_byref_{bareTag key}" } ∧
        ((Registry.seeded library.naming).contains (key ++ " *") = false →
          session.registry.get? (key ++ " *") = some
            (.between s!"mp_write_ptr_{bareTag key}" s!"mp_read_ptr_{bareTag key}"))) ∧
      ((¬ ∃ bound, session.structs.get? key = some (.done bound)) →
        (Registry.seeded library.naming).contains (key ++ " *") = false →
        ∀ conversion, session.registry.get? (key ++ " *") = some conversion →
          (∃ error, session.structs.get? key = some (.failed error)) ∧ conversion = .untyped) := by
  have hagree : session.Agrees library key :=
    hs.invariant (Session.agrees_start hk) fun hchange => hchange.agrees hr hk
  refine ⟨⟨hagree.bound, fun ⟨bound, hb⟩ => ?_⟩, fun bound hb => ?_,
    fun hnot hseeded conversion hf => ?_⟩
  · rw [Table.contains, hagree.value bound hb]
    rfl
  · exact ⟨hagree.value bound hb, hagree.pointer bound hb⟩
  · exact (hagree.untyped hseeded conversion hf).resolve_left hnot

/-- A record with pointers to itself and to a record that cannot be bound, since
    nothing converts its member. -/
def linkedRecords : Declarations where
  records := .ofRows
    [("node", ⟨"node", .struct,
        [⟨"next", .pointerTo (.named "node"), none⟩, ⟨"odd", .pointerTo (.named "odd"), none⟩]⟩),
      ("odd", ⟨"odd", .struct,
        [⟨"node", .pointerTo (.named "node"), none⟩, ⟨"big", .builtin "long long", none⟩]⟩)]
  functions := [⟨"f", .void, [⟨"node", .pointerTo (.named "node")⟩], false⟩]

theorem linkedRecords_ofC : linkedRecords.OfC :=
  .of_identifiers (by decide) (by decide) (by decide) (by decide)

set_option maxRecDepth 100000 in
/-- At the end of the module, pointers to the first record have conversions of
    their own, and pointers to the second are passed untyped. -/
theorem linkedRecords_conversions :
    (sessionAtEnd linkedRecords { moduleName := "m" }).registry.get? "node *" =
        some (.between "mp_write_ptr_node" "mp_read_ptr_node") ∧
      (sessionAtEnd linkedRecords { moduleName := "m" }).registry.get? "odd *" = some .untyped ∧
      (sessionAtEnd linkedRecords { moduleName := "m" }).registry.contains "odd" = false := by
  let session := sessionAtEnd linkedRecords { moduleName := "m" }
  have hs : session.Reachable (Scope.ofC linkedRecords_ofC) :=
    reachable_sessionAtEnd_ofC linkedRecords_ofC
  obtain ⟨node, hnode⟩ : ∃ node, linkedRecords.records.get? "node" = some node := ⟨_, rfl⟩
  obtain ⟨odd, hodd⟩ : ∃ odd, linkedRecords.records.get? "odd" = some odd := ⟨_, rfl⟩
  have hseeds : ∀ key ∈ ["node", "node *", "odd", "odd *"],
      (Registry.seeded (libraryOf linkedRecords { moduleName := "m" }).naming).contains key =
        false := by
    decide +kernel
  have hends : (session.boundStruct? "node").isSome ∧ session.boundStruct? "odd" = none ∧
      session.registry.contains "odd *" := by
    decide +kernel
  obtain ⟨hbound, hunbound, hknown⟩ := hends
  obtain ⟨bound, hb⟩ := Option.isSome_iff_exists.1 hbound
  obtain ⟨conversion, hc⟩ := Option.isSome_iff_exists.1 hknown
  have hnot : ¬ ∃ bound, session.structs.get? "odd" = some (.done bound) := by
    rintro ⟨other, ho⟩
    rw [Session.boundStruct?_of_get? ho] at hunbound
    cases hunbound
  obtain ⟨-, hpointers, -⟩ :=
    conversions_agree_with_outcomes linkedRecords_ofC hs hnode (hseeds _ (by decide))
  obtain ⟨hvalue, -, huntyped⟩ :=
    conversions_agree_with_outcomes linkedRecords_ofC hs hodd (hseeds _ (by decide))
  show session.registry.get? "node *" = _ ∧ session.registry.get? "odd *" = _ ∧
    session.registry.contains "odd" = false
  refine ⟨?_, ?_, ?_⟩
  · exact (hpointers bound (Session.get?_of_boundStruct? hb)).2 (hseeds _ (by decide))
  · rw [hc, (huntyped hnot (hseeds _ (by decide)) conversion hc).2]
  · exact Bool.eq_false_iff.2 fun h => hnot (hvalue.1 h)

end ScriptBind
