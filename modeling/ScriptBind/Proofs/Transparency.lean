import ScriptBind.Proofs.FinishedOperations
import ScriptBind.Proofs.OutcomeConversions
import ScriptBind.Proofs.PointerOrigins
import ScriptBind.Proofs.Stability

/-!
# Typedefs Stand for Their Types

Between operations, everything that has been learned belongs together, whichever
operations it was learned by: a typedef is known by what its type is known by. So
a typedef is resolved to what its type is resolved to, and pointers to the typedef
are passed like pointers to the type or else untyped.

That they may be passed untyped is no matter of the type but of the order of
things. If the type is known before anybody asks for the typedef, pointers to both
are passed alike. But a typedef may be met inside the very record that it stands
for. Pointers to the record are passed untyped for the moment then, and nothing is
remembered of them; pointers to the typedef are passed untyped as well, and this is
remembered for good.

## Main definitions

* `Library.Renames`: A typedef that is another name for a type.
* `Library.RenamesPointers`: One for which this can be said of pointers as well.
* `Library.LeavesRecord`: A type that has to be bound if it is a record.
* `Session.HasOwnSpelling`: A type whose spelling stands for nothing else.

## Theorems

* `Performed.coherent`: What has been learned between operations belongs together.
* `resolve_newTypedef`, `resolve_typedefPointer`: A typedef that is new, and pointers to
  it.
* `typedefs_follow`: Typedefs and pointers to them follow their types.
* `typedefNode_parts`: A typedef pointers to which are not passed like those to its
  type.
-/

namespace ScriptBind

open BindM

variable {library : Library}

section AtRest

variable {hc : library.decls.OfC}

/-- An array type of fixed length is not spelled like one of unknown length. -/
theorem openArrayKey_ne_array (element other : CType) (length : Nat) :
    openArrayKey element ≠ (CType.array other length).spelling := by
  intro he
  have hends : fromEnd (openArrayKey element) = fromEnd (CType.array other length).spelling := by
    rw [he]
  have hopen : fromEnd (openArrayKey element) = ']' :: '[' :: ' ' :: fromEnd element.spelling := by
    rw [openArrayKey, fromEnd_append]
    rfl
  rw [hopen, fromEnd_array, List.cons.injEq] at hends
  -- There would have to be a digit between the brackets.
  cases hd : (Nat.toDigits 10 length).reverse with
  | nil => exact Nat.toDigits_ne_nil (List.reverse_eq_nil_iff.1 hd)
  | cons digit rest =>
      have hdigit : digit.isDigit := Nat.isDigit_of_mem_toDigits (by decide) (by decide)
        (List.mem_reverse.1 (hd ▸ List.mem_cons_self ..))
      rw [hd, List.cons_append, List.cons.injEq] at hends
      rw [← hends.2.1] at hdigit
      exact absurd hdigit (by decide)

/-- The conversion of arrays of unknown length fits, whatever it is. -/
theorem Conversion.fits_openArray (hc : library.decls.OfC) (element : CType)
    (conversion : Conversion) (session : Session) :
    conversion.Fits library session (openArrayKey element) :=
  have hlast : lastOf (openArrayKey element) = some ']' := lastOf_array (.inr rfl)
  fits_of_mark hc hlast (by decide)
    (fun other length he => absurd he (openArrayKey_ne_array element other length))
    (fun name _ he _ _ => absurd he (ne_star_of_lastOf hlast (by decide) name))
    fun name _ he _ => absurd he (ne_star_of_lastOf hlast (by decide) name)

theorem arrayConversion_staysCoherent (base : Session) (levels : Nat) {element : CType}
    (he : element.isOfC) (length : Nat) :
    Keeps library ((Scope.ofC hc).Guarded (Session.StaysCoherent library base))
      (arrayConversion ((bindersWithin levels).resolve 0) element length) := by
  intro session
  by_cases hw : session.Within (Scope.ofC hc)
  · cases hk : session.registry.get? (CType.array element length).spelling with
    | none =>
        exact (arrayConversion_learned (bindersWithin_stable base levels) he hw hk).mono
          fun _ _ hall _ => ⟨hall.within, hall.stays⟩
    | some conversion =>
        rw [arrayConversion, ensures_bind, ensures_look]
        dsimp only
        rw [hk]
        exact ensures_pure.2 (refl_of _ session)
  · exact ensures_of_forall (fun _ _ hw' => absurd hw' hw) trivial

theorem openArrayConversion_staysCoherent (base : Session) (levels : Nat) {element : CType}
    (he : element.isOfC) :
    Keeps library ((Scope.ofC hc).Guarded (Session.StaysCoherent library base))
      (openArrayConversion ((bindersWithin levels).resolve 0) element) := by
  intro session
  rw [openArrayConversion, ensures_bind, ensures_look]
  dsimp only
  split
  · exact ensures_pure.2 (refl_of _ session)
  · split
    · exact ensures_fail.2 (refl_of _ session)
    · rw [ensures_bind]
      have hstable : (bindersWithin levels).Stable library hc base :=
        bindersWithin_stable base levels
      refine (elementConversion_keeps (hstable.keep.resolve 0) he _ session).mono
        fun result session' hr => ?_
      cases result with
      | error error => exact hr
      | ok conversion =>
          dsimp only
          rw [writeArray, ensures_bind, ensures_update]
          refine ensures_pure.2 (trans_of _ hr fun hw => ?_)
          have hadded : session'.Addition (Scope.ofC hc)
              (session'.writeArray element none conversion) :=
            .array _ _ he (isArrayKey_arrayKey element none)
          refine ⟨hadded.within hw, hadded.extends, fun _ hcoherent => ?_⟩
          exact (hcoherent.of_eq (session'.extends_emit _) rfl).addConversion fun _ =>
            Conversion.fits_openArray hc element _ _

/-- Whatever is done leaves sessions coherent. -/
theorem staysCoherent_carries (hc : library.decls.OfC) (base : Session) :
    (Scope.ofC hc).Carries (Session.StaysCoherent library base) where
  addition := fun ha hs => ⟨ha.extends, fun _ h => h.of_eq ha.extends hs.registry⟩
  levels := fun levels => (bindersWithin_stable base levels).keep.parts
  arrays := fun levels _ he length => arrayConversion_staysCoherent base levels he length
  openArrays := fun levels _ he => openArrayConversion_staysCoherent base levels he

/-- Between operations, what has been learned belongs together. -/
theorem Session.Performed.coherent {session : Session} (hs : session.Performed (Scope.ofC hc))
    (ha : session.Apart library) : session.Coherent library (.start library.naming) :=
  ((staysCoherent_carries hc _).performed hs).coherent ha (coherent_self library _)

end AtRest

/-- A typedef that is another name for a type. It is not a record as well, and what is
    found under its name has been made for it. -/
structure Library.Renames (library : Library) (name : String) (underlying : CType) : Prop where
  /-- It is a typedef of the type. -/
  typedef : library.decls.typedefs.get? name = some underlying
  /-- It is not a record as well. -/
  record : library.decls.records.get? name = none
  /-- It has no conversion from the beginning. -/
  seed : (Registry.seeded library.naming).contains name = false

/-- A typedef of which the same can be said with respect to pointers. -/
structure Library.RenamesPointers (library : Library) (name : String) (underlying : CType) : Prop
    extends library.Renames name underlying where
  /-- Pointers to it have no conversion from the beginning. -/
  pointerSeed : (Registry.seeded library.naming).contains (name ++ " *") = false

/-- If a type is a record, it has no conversion from the beginning. -/
def Library.LeavesRecord (library : Library) (type : CType) : Prop :=
  ∀ key record, library.decls.bindable? type = some (key, record) →
    (Registry.seeded library.naming).contains key = false

/-- A type whose spelling stands for nothing else: it had no conversion from the
    beginning, neither had pointers to it, and no record has been bound under it. -/
structure Session.HasOwnSpelling (library : Library) (session : Session) (type : CType) : Prop where
  /-- It had no conversion. -/
  seed : (Registry.seeded library.naming).contains type.spelling = false
  /-- Nor had pointers to it. -/
  pointerSeed : (Registry.seeded library.naming).contains (type.spelling ++ " *") = false
  /-- No record has been bound. -/
  unbound : session.structs.contains type.spelling = false

section Runs

variable {session : Session} {name : String} {underlying : CType} {conversion : Conversion}

theorem functionPointer_of_isFunction {pointee : CType} (h : pointee.isFunction = false)
    (decls : Declarations) (isConst : Bool) :
    decls.functionPointer (.pointer pointee isConst) = none := by
  cases pointee with
  | function signature => exact absurd h (by simp [CType.isFunction])
  | _ => rfl

/-- What is known after a typedef has taken over what is known of pointers. -/
theorem Session.get?_shareWithAlias (session : Session) (name underlying key : String) :
    (session.shareWithAlias name underlying).registry.get? key =
      (session.registry.get? key).or
        (if name ++ " *" = key then session.registry.get? (underlying ++ " *") else none) := by
  rw [shareWithAlias]
  cases session.registry.get? (underlying ++ " *") with
  | none =>
      dsimp only
      split
      · simp
      · simp
  | some conversion =>
      dsimp only
      split
      · rw [addConversion, Table.get?_add]
      · rw [addConversion, Table.get?_add]

/-- A typedef that takes over what is known changes nothing but what is known of
    itself and of pointers to it. -/
theorem Session.get?_typedef_of_ne (session : Session) {name key : String} (underlying : String)
    (conversion : Conversion) (hkey : key ≠ name) (hstar : key ≠ name ++ " *") :
    ((session.addConversion name conversion).shareWithAlias name underlying).registry.get? key =
      session.registry.get? key := by
  rw [get?_shareWithAlias, if_neg hstar.symm, Option.or_none, addConversion, Table.get?_add,
    if_neg hkey.symm, Option.or_none]

/-- Pointers to it are known by what pointers to its type are known by. -/
theorem Session.get?_typedef_pointer {name : String} (underlying : String) (conversion : Conversion)
    (hname : ∀ text, name ≠ text ++ " *") (hp : session.registry.get? (name ++ " *") = none) :
    ((session.addConversion name conversion).shareWithAlias name underlying).registry.get?
      (name ++ " *") = session.registry.get? (underlying ++ " *") := by
  rw [get?_shareWithAlias, if_pos rfl, addConversion, Table.get?_add, Table.get?_add, hp,
    if_neg (hname name), if_neg (hname underlying), Option.or_none, Option.none_or, Option.or_none]

/-- A type of which nothing is known is taken apart. -/
theorem ensures_resolve_new {endless : Prop} {post : Except BindError Conversion → Session → Prop}
    {type : CType} {links : Nat} (hn : session.registry.get? type.spelling = none)
    (hl : links ≤ aliasLimit) (levels : Nat) :
    Ensures endless library ((bindersWithin (levels + 1)).resolve links type) session post ↔
      Ensures endless library (resolveFresh (bindersWithin levels) links type) session post := by
  show Ensures endless library (resolveStep (bindersWithin levels) links type) session post ↔ _
  rw [resolveStep, ensures_bind, ensures_look]
  dsimp only
  rw [hn]
  dsimp only
  rw [if_neg (Nat.not_lt.2 hl)]

/-- A pointer to something that is no record, in particular. -/
theorem ensures_resolve_pointer {endless : Prop}
    {post : Except BindError Conversion → Session → Prop} {pointee : CType} {isConst : Bool}
    (hf : pointee.isFunction = false) (hb : library.decls.bindable? pointee = none)
    (hn : session.registry.get? (CType.pointer pointee isConst).spelling = none) (levels : Nat) :
    Ensures endless library ((bindersWithin (levels + 1)).resolve 0 (.pointer pointee isConst))
        session post ↔
      Ensures endless library (resolveOtherPointer (bindersWithin levels) 0
        (CType.pointer pointee isConst).spelling pointee) session post := by
  rw [ensures_resolve_new hn (Nat.zero_le _), resolveFresh, resolvePointer, ensures_bind,
    ensures_read]
  dsimp only
  rw [functionPointer_of_isFunction hf, Option.isSome_none, if_neg Bool.false_ne_true, hb]

/-- A typedef that is new takes over what is known of its type. -/
theorem bindersWithin_resolve_typedef (h : library.Renames name underlying)
    (henum : library.decls.isEnum (.named name) = false)
    (hk : session.registry.get? underlying.spelling = some conversion)
    (hn : session.registry.get? name = none) (levels : Nat) {links : Nat}
    (hl : links ≤ aliasLimit) :
    Ensures False library ((bindersWithin (levels + 2)).resolve links (.named name)) session
      fun result session' => result = .ok conversion ∧
        session' = (session.addConversion name conversion).shareWithAlias name
          underlying.spelling := by
  rw [← spelling_named name] at hn
  rw [ensures_resolve_new hn hl, resolveFresh, resolveNamed, ensures_bind, ensures_look]
  dsimp only
  rw [h.record, h.typedef]
  dsimp only
  rw [resolveTypedef, ensures_bind, ensures_look]
  dsimp only
  rw [henum, if_neg Bool.false_ne_true, ensures_bind]
  refine (bindersWithin_resolve_known hk levels (links + 1)).mono fun result session' hall => ?_
  obtain ⟨rfl, rfl⟩ := hall
  dsimp only
  rw [ensures_bind, ensures_update]
  exact ensures_pure.2 ⟨rfl, rfl⟩

/-- One that is an enum does not depend on its type. -/
theorem bindersWithin_resolve_enum (h : library.Renames name underlying)
    (henum : library.decls.isEnum (.named name)) (hn : session.registry.get? name = none)
    (levels : Nat) {links : Nat} (hl : links ≤ aliasLimit) :
    Ensures False library ((bindersWithin (levels + 1)).resolve links (.named name)) session
      fun result session' => result = .ok .integer ∧
        session' = session.addConversion name .integer := by
  rw [← spelling_named name] at hn
  rw [ensures_resolve_new hn hl, resolveFresh, resolveNamed, ensures_bind, ensures_look]
  dsimp only
  rw [h.record, h.typedef]
  dsimp only
  rw [resolveTypedef, ensures_bind, ensures_look]
  dsimp only
  rw [if_pos henum, remember, ensures_bind, ensures_update]
  exact ensures_pure.2 ⟨rfl, rfl⟩

/-- Pointers to a typedef that can be resolved are answered by what is known of them
    then, or else untyped. -/
theorem resolveOtherPointer_typedef {binders : Binders} {after : Session}
    (ht : library.decls.typedefs.contains name)
    (hresolve : Ensures False library (binders.resolve 1 (.named name)) session
      fun result session' => result = .ok conversion ∧ session' = after) (key : String) :
    Ensures False library (resolveOtherPointer binders 0 key (.named name)) session
      fun result session' => result = .ok ((after.registry.get? key).getD .untyped) ∧
        ∀ other, other ≠ key → session'.registry.get? other = after.registry.get? other := by
  rw [resolveOtherPointer, ensures_bind, ensures_look]
  dsimp only
  rw [if_pos ht, ensures_bind, ensures_succeeds]
  refine hresolve.mono fun result session' hall => ?_
  obtain ⟨rfl, rfl⟩ := hall
  dsimp only
  rw [ensures_bind, ensures_look]
  dsimp only
  cases session'.registry.get? key with
  | some known => exact ensures_pure.2 ⟨rfl, fun _ _ => rfl⟩
  | none =>
      show Ensures False library (remember key .untyped) session' _
      rw [remember, ensures_bind, ensures_update]
      refine ensures_pure.2 ⟨rfl, fun other ho => ?_⟩
      rw [Session.addConversion, Table.get?_add, if_neg ho.symm, Option.or_none]

/-- The same of resolving pointers to it, whatever resolving it comes to. -/
theorem resolve_pointer_typedef (hc : library.decls.OfC) (h : library.Renames name underlying)
    (hp : session.registry.get? (name ++ " *") = none) {after : Session}
    (hresolve : ∀ levels, Ensures False library
      ((bindersWithin (levels + 2)).resolve 1 (.named name)) session
      fun result session' => result = .ok conversion ∧ session' = after) (isConst : Bool) :
    ∃ session', (resolve (.pointer (.named name) isConst)).outcome library session =
        some (.ok ((after.registry.get? (name ++ " *")).getD .untyped), session') ∧
      ∀ key, key ≠ name ++ " *" → session'.registry.get? key = after.registry.get? key := by
  have hspelling : (CType.pointer (.named name) isConst).spelling = name ++ " *" := by
    rw [spelling_pointer rfl, spelling_named,
      starAfter_of_not_endsWithStar (hc.endsWithStar_typedef h.typedef)]
  have hb : library.decls.bindable? (.named name) = none := by
    rw [Declarations.bindable?, h.record]
    rfl
  have htypedef : library.decls.typedefs.contains name := by
    rw [Table.contains, h.typedef]
    rfl
  obtain ⟨result, session', ho, rfl, hsame⟩ := resolve_of_levels fun levels =>
    (ensures_resolve_pointer rfl hb (hspelling ▸ hp) (levels + 2)).2
      (resolveOtherPointer_typedef htypedef (hresolve levels)
        (CType.pointer (.named name) isConst).spelling)
  rw [hspelling] at ho hsame
  exact ⟨session', ho, hsame⟩

/-- Pointers to a known type that is no record are passed untyped if they are
    new. -/
theorem resolve_pointer_untyped {pointee : CType} (hf : pointee.isFunction = false)
    (hb : library.decls.bindable? pointee = none) {isConst : Bool}
    (hk : session.registry.get? pointee.spelling = some conversion)
    (hn : session.registry.get? (CType.pointer pointee isConst).spelling = none) :
    ∃ session', (resolve (.pointer pointee isConst)).outcome library session =
      some (.ok .untyped, session') := by
  have hremember : ∀ key, Ensures False library (remember key .untyped) session
      fun result _ => result = .ok .untyped := by
    intro key
    rw [remember, ensures_bind, ensures_update]
    exact ensures_pure.2 rfl
  have hrun : ∀ levels, Ensures False library
      ((bindersWithin (levels + 3)).resolve 0 (.pointer pointee isConst)) session
      fun result _ => result = .ok .untyped := by
    intro levels
    rw [ensures_resolve_pointer hf hb hn (levels + 2), resolveOtherPointer, ensures_bind,
      ensures_look]
    dsimp only
    split
    · split
      · rw [ensures_bind, ensures_succeeds]
        refine (bindersWithin_resolve_known hk (levels + 1) 1).mono fun result session' hall => ?_
        obtain ⟨rfl, rfl⟩ := hall
        dsimp only
        rw [ensures_bind, ensures_look, hn]
        exact hremember _
      · exact hremember _
    · exact hremember _
  obtain ⟨result, session', ho, rfl⟩ := resolve_of_levels hrun
  exact ⟨session', ho⟩

end Runs

section Transparency

variable {hc : library.decls.OfC} {session : Session} {name : String} {underlying : CType}

/-- What is known of a record agrees with its outcome. -/
theorem Session.Reachable.agrees (hs : session.Reachable (Scope.ofC hc)) {key : String}
    {record : Record} (hr : library.decls.records.get? key = some record)
    (hk : (Registry.seeded library.naming).contains key = false) : session.Agrees library key :=
  hs.invariant (agrees_start hk) fun hchange => hchange.agrees hr hk

/-- A bound record brings the conversion of pointers to it. -/
theorem Session.Reachable.contains_pointer (hs : session.Reachable (Scope.ofC hc)) {key : String}
    {record : Record} (hr : library.decls.records.get? key = some record)
    (hk : (Registry.seeded library.naming).contains key = false)
    (hcontains : session.registry.contains key) : session.registry.contains (key ++ " *") := by
  have hagree := hs.agrees hr hk
  obtain ⟨bound, hb⟩ := hagree.bound hcontains
  cases hseeded : (Registry.seeded library.naming).contains (key ++ " *") with
  | true =>
      rw [← start_registry] at hseeded
      exact Table.contains_of_initial hs.evolves.extends.registry hseeded
  | false =>
      rw [Table.contains, hagree.pointer bound hb hseeded]
      rfl

/-- What a typedef is known by is what its type is known by. -/
theorem Session.Performed.get?_typedef (hs : session.Performed (Scope.ofC hc))
    (ha : session.Apart library) (h : library.Renames name underlying)
    (henum : library.decls.isEnum (.named name) = false) {conversion : Conversion}
    (hk : session.registry.get? name = some conversion) :
    library.decls.LeadsToRecord underlying.spelling ∨
      session.registry.get? underlying.spelling = some conversion := by
  have hn : (Session.start library.naming).registry.get? name = none := by
    rw [start_registry, ← Option.not_isSome_iff_eq_none]
    exact Bool.eq_false_iff.1 h.seed
  exact ((hs.coherent ha).fits name conversion hn hk).typedef underlying h.record h.typedef henum

/-- A star after the spelling of a type leads to what pointers to the type are
    known by, but for the blank. -/
theorem Session.PointersFollow.getD_untyped (h : session.PointersFollow library)
    (hc : library.decls.OfC) (text : String) :
    (session.registry.get? (text ++ " *")).getD .untyped =
      (session.registry.get? (starAfter text)).getD .untyped := by
  cases hstar : endsWithStar text with
  | false => rw [starAfter_of_not_endsWithStar hstar]
  | true =>
      have hall : ∀ key, key = text ++ "*" ∨ key = text ++ " *" →
          (session.registry.get? key).getD .untyped = .untyped := by
        intro key hkey
        cases hget : session.registry.get? key with
        | none => rfl
        | some conversion => exact h.eq_untyped hc hstar hkey hget
      rw [starAfter_of_endsWithStar hstar, hall _ (.inl rfl), hall _ (.inr rfl)]

section New

variable (hs : session.Performed (Scope.ofC hc)) (h : library.Renames name underlying)
  (hown : library.decls.isEnum (.named name) → session.HasOwnSpelling library underlying)
  {known : Conversion} (hk : session.registry.get? underlying.spelling = some known)
  (hn : session.registry.get? name = none)

include hs h hown hk hn

/-- A new typedef of a known type is resolved to what the type is known by. -/
theorem resolve_newTypedef :
    ∃ later, (resolve (.named name)).outcome library session = some (.ok known, later) := by
  cases henum : library.decls.isEnum (.named name) with
  | false =>
      obtain ⟨result, later, ho, rfl, -⟩ := resolve_of_levels fun levels =>
        bindersWithin_resolve_typedef h henum hk hn (levels + 1) (Nat.zero_le _)
      exact ⟨later, ho⟩
  | true =>
      obtain rfl := hs.eq_integer ((Scope.ofC hc).typedef h.typedef)
        (Declarations.isEnum_of_typedef h.typedef henum) (hown henum).seed (hown henum).unbound hk
      obtain ⟨result, later, ho, rfl, -⟩ := resolve_of_levels fun levels =>
        bindersWithin_resolve_enum h henum hn (levels + 2) (Nat.zero_le _)
      exact ⟨later, ho⟩

/-- Pointers to it are resolved to what is known of pointers to the type, and are
    passed untyped otherwise. -/
theorem resolve_typedefPointer (hp : session.registry.get? (name ++ " *") = none)
    (isConst : Bool) :
    ∃ session', (resolve (.pointer (.named name) isConst)).outcome library session =
        some (.ok ((session.registry.get? (underlying.spelling ++ " *")).getD .untyped), session') ∧
      ∀ key, key ≠ name → key ≠ name ++ " *" →
        session'.registry.get? key = session.registry.get? key := by
  obtain ⟨c, hlast, hword⟩ := hc.lastOf_typedef h.typedef
  have hname := ne_star_of_lastOf hlast (ne_star_of_isWordChar hword)
  cases henum : library.decls.isEnum (.named name) with
  | false =>
      obtain ⟨session', ho, hsame⟩ := resolve_pointer_typedef hc h hp
        (fun levels => bindersWithin_resolve_typedef h henum hk hn levels (by decide)) isConst
      rw [Session.get?_typedef_pointer underlying.spelling known hname hp] at ho
      refine ⟨session', ho, fun key hkey hstar => (hsame key hstar).trans ?_⟩
      exact session.get?_typedef_of_ne underlying.spelling known hkey hstar
  | true =>
      have hadded : ∀ key, name ≠ key →
          (session.addConversion name .integer).registry.get? key = session.registry.get? key := by
        intro key hne
        rw [Session.addConversion, Table.get?_add, if_neg hne, Option.or_none]
      -- Neither the typedef nor the enum has pointers of its own.
      have huntyped :
          (session.registry.get? (underlying.spelling ++ " *")).getD .untyped = .untyped := by
        cases hget : session.registry.get? (underlying.spelling ++ " *") with
        | none => rfl
        | some conversion =>
            exact hs.eq_untyped (Declarations.isEnum_of_typedef h.typedef henum)
              (hown henum).pointerSeed (hown henum).unbound hget
      obtain ⟨session', ho, hsame⟩ := resolve_pointer_typedef hc h hp
        (fun levels => bindersWithin_resolve_enum h henum hn (levels + 1) (by decide)) isConst
      rw [hadded _ (hname name), hp] at ho
      rw [huntyped]
      exact ⟨session', ho, fun key hkey hstar => (hsame key hstar).trans (hadded key hkey.symm)⟩

end New

/-- A typedef is resolved to what its type has just been resolved to, if this does
    not lead to a pointer to a record. -/
theorem resolve_typedef_again (hs : session.Performed (Scope.ofC hc))
    (h : library.Renames name underlying) {conversion : Conversion} {session' : Session}
    (ho : (resolve underlying).outcome library session = some (.ok conversion, session'))
    (ha : session'.Apart library) (hleads : ¬library.decls.LeadsToRecord underlying.spelling)
    (hown : library.decls.isEnum (.named name) → session'.HasOwnSpelling library underlying) :
    ∃ later, (resolve (.named name)).outcome library session' = some (.ok conversion, later) := by
  have hscope : (Scope.ofC hc).types underlying := (Scope.ofC hc).typedef h.typedef
  have hs' : session'.Performed (Scope.ofC hc) :=
    Operation.after_resolve ho ▸ hs.perform (.resolve underlying) hscope
  have hlearned := (resolve_learned hscope hs.within).of_outcome ho conversion rfl
  -- The answer is what the type is known by from now on.
  have hk := (hlearned.recalls ha (Session.coherent_self library session)).resolve_right
    fun hexcepted => hleads hexcepted.1
  cases hn : session'.registry.get? name with
  | none => exact resolve_newTypedef hs' h hown hk hn
  | some known =>
      -- Whenever the typedef was resolved, the type was known by the same conversion.
      have hsame : known = conversion := by
        cases henum : library.decls.isEnum (.named name) with
        | false =>
            have hfits := (hs'.get?_typedef ha h henum hn).resolve_left hleads
            exact Option.some.inj (hfits.symm.trans hk)
        | true =>
            have hunbound : session'.structs.contains name = false := by
              rw [Table.contains, ha.structs_typedef h.record h.typedef]
              rfl
            have hname : (CType.named name).isOfC := hc.typedefName _ (Table.mem_of_get? h.typedef)
            rw [← spelling_named name] at hn
            rw [hs'.eq_integer hname henum (by rw [spelling_named]; exact h.seed)
                (by rw [spelling_named]; exact hunbound) hn,
              hs'.eq_integer hscope (Declarations.isEnum_of_typedef h.typedef henum)
                (hown henum).seed (hown henum).unbound hk]
      obtain rfl := hsame
      exact ⟨session', resolve_of_known (by rw [spelling_named]; exact hn)⟩

/-- Neither records nor typedefs are spelled like pointers to a typedef. -/
theorem not_leadsToRecord_pointer (hc : library.decls.OfC) (h : library.Renames name underlying) :
    ¬library.decls.LeadsToRecord (name ++ " *") := by
  intro hleads
  generalize hkey : name ++ " *" = key at hleads
  cases hleads with
  | pointer hr =>
      obtain rfl := (String.append_left_inj _).1 hkey
      rw [h.record] at hr
      cases hr
  | typedef _ ht _ =>
      obtain ⟨c, hlast, hword⟩ := hc.lastOf_typedef ht
      exact ne_star_of_lastOf hlast (ne_star_of_isWordChar hword) name hkey.symm

/-- Pointers to a typedef are resolved to untyped ones, or to what pointers to its
    type are resolved to. -/
theorem resolve_typedefPointer_cases (hs : session.Performed (Scope.ofC hc))
    (h : library.RenamesPointers name underlying) (hf : underlying.isFunction = false)
    {isConst : Bool} {conversion : Conversion} {session' : Session}
    (ho : (resolve (.pointer (.named name) isConst)).outcome library session =
      some (.ok conversion, session'))
    (ha : session'.Apart library) :
    conversion = .untyped ∨
      (resolve (.pointer underlying isConst)).outcome library session' =
        some (.ok conversion, session') := by
  have hspelling : (CType.pointer (.named name) isConst).spelling = name ++ " *" := by
    rw [spelling_pointer rfl, spelling_named,
      starAfter_of_not_endsWithStar (hc.endsWithStar_typedef h.typedef)]
  have hscope : (Scope.ofC hc).types (.pointer (.named name) isConst) := by
    show (CType.pointer (.named name) isConst).isOfC
    rw [CType.isOfC, CType.isOfC]
    exact hc.typedefName _ (Table.mem_of_get? h.typedef)
  have hs' : session'.Performed (Scope.ofC hc) :=
    Operation.after_resolve ho ▸ hs.perform (.resolve _) hscope
  have hfollow := hs'.pointersFollow
  have hlearned := (resolve_learned hscope hs.within).of_outcome ho conversion rfl
  have hk := (hlearned.recalls ha (Session.coherent_self library session)).resolve_right
    fun hexcepted => not_leadsToRecord_pointer hc h.toRenames (hspelling ▸ hexcepted.1)
  rw [hspelling] at hk
  -- There are no records under the name of the typedef, so the conversion has been taken
  -- over from pointers to the type.
  have hreason := hfollow _ conversion (lastOf_star name) h.pointerSeed hk
  rcases hreason.of_typedef ha h.record h.typedef with huntyped | hu
  · exact .inl huntyped
  · cases hstar : endsWithStar underlying.spelling with
    | true => exact .inl (hfollow.eq_untyped hc hstar (.inr rfl) hu)
    | false =>
        refine .inr (resolve_of_known ?_)
        rwa [spelling_pointer hf, starAfter_of_not_endsWithStar hstar]

/-- Pointers to a new typedef of a known type are resolved to what pointers to the
    type are then resolved to. -/
theorem resolve_newTypedefPointer (hs : session.Performed (Scope.ofC hc))
    (h : library.Renames name underlying) (hf : underlying.isFunction = false)
    (hleaves : library.LeavesRecord underlying)
    (hown : library.decls.isEnum (.named name) → session.HasOwnSpelling library underlying)
    {known : Conversion} (hk : session.registry.get? underlying.spelling = some known)
    (hn : session.registry.get? name = none)
    (hp : session.registry.get? (name ++ " *") = none) (isConst : Bool) :
    ∃ conversion session' later,
      (resolve (.pointer (.named name) isConst)).outcome library session =
        some (.ok conversion, session') ∧
      (resolve (.pointer underlying isConst)).outcome library session' =
        some (.ok conversion, later) := by
  have hspelling := spelling_pointer hf isConst
  obtain ⟨session', ho, hsame⟩ := resolve_typedefPointer hs h hown hk hn hp isConst
  rw [hs.pointersFollow.getD_untyped hc, ← hspelling] at ho
  obtain ⟨c, hlast, hword⟩ := hc.lastOf_typedef h.typedef
  have hne : underlying.spelling ≠ name := by
    intro he
    rw [he, hn] at hk
    cases hk
  have hpointer : (CType.pointer underlying isConst).spelling ≠ name := by
    intro he
    have hstar := lastOf_pointer hf isConst
    rw [he, hlast] at hstar
    exact ne_star_of_isWordChar hword (Option.some.inj hstar)
  -- Nothing has been learned of pointers to the type on the way.
  have hkept : session'.registry.get? (CType.pointer underlying isConst).spelling =
      session.registry.get? (CType.pointer underlying isConst).spelling := by
    refine hsame _ hpointer fun he => hne ?_
    exact spelling_of_star hf (hc.endsWithStar_typedef h.typedef) he
  cases hget : session.registry.get? (CType.pointer underlying isConst).spelling with
  | some conversion =>
      rw [hget] at ho hkept
      exact ⟨conversion, session', session', ho, resolve_of_known hkept⟩
  | none =>
      rw [hget] at ho hkept
      have hknown : session'.registry.get? underlying.spelling = some known := by
        rw [← hk]
        refine hsame _ hne fun he => ?_
        rw [he, hp] at hk
        cases hk
      -- A record that is known brings the conversion of pointers to it along.
      have hb : library.decls.bindable? underlying = none := by
        refine Option.eq_none_iff_forall_ne_some.2 fun found hb => ?_
        obtain ⟨key, record⟩ := found
        have hr := Declarations.get?_of_bindable? hb
        rw [Declarations.spelling_of_bindable? hb] at hk hspelling
        have hcontains := hs.reachable.contains_pointer hr (hleaves key record hb)
          (Option.isSome_iff_exists.2 ⟨known, hk⟩)
        rw [hspelling, starAfter_of_not_endsWithStar (hc.endsWithStar_record hr)] at hget
        rw [Table.contains, hget] at hcontains
        cases hcontains
      obtain ⟨later, hlater⟩ := resolve_pointer_untyped hf hb hknown hkept
      exact ⟨.untyped, session', later, ho, hlater⟩

/-- Between operations, a typedef is resolved to what its type has just been
    resolved to, if this does not lead to a pointer to a record, and pointers to it
    are passed untyped or like pointers to the type. If the type was resolved before
    the typedef was met, the typedef and pointers to it are resolved to the very
    conversions of the type and of pointers to the type. -/
theorem typedefs_follow (hc : library.decls.OfC) {session : Session}
    (hs : session.Performed (Scope.ofC hc)) {name : String} {underlying : CType}
    (h : library.RenamesPointers name underlying) :
    (∀ conversion session', session'.Apart library →
      (library.decls.isEnum (.named name) → session'.HasOwnSpelling library underlying) →
      (resolve underlying).outcome library session = some (.ok conversion, session') →
      ¬library.decls.LeadsToRecord underlying.spelling →
      ∃ later, (resolve (.named name)).outcome library session' = some (.ok conversion, later)) ∧
    (underlying.isFunction = false →
      ∀ isConst conversion session', session'.Apart library →
      (resolve (.pointer (.named name) isConst)).outcome library session =
        some (.ok conversion, session') →
      conversion = .untyped ∨
        (resolve (.pointer underlying isConst)).outcome library session' =
          some (.ok conversion, session')) ∧
    (session.registry.contains underlying.spelling → session.registry.get? name = none →
      (library.decls.isEnum (.named name) → session.HasOwnSpelling library underlying) →
      (∃ conversion later,
        (resolve underlying).outcome library session = some (.ok conversion, session) ∧
        (resolve (.named name)).outcome library session = some (.ok conversion, later)) ∧
      (underlying.isFunction = false → library.LeavesRecord underlying →
        session.registry.get? (name ++ " *") = none →
        ∀ isConst, ∃ conversion session' later,
          (resolve (.pointer (.named name) isConst)).outcome library session =
            some (.ok conversion, session') ∧
          (resolve (.pointer underlying isConst)).outcome library session' =
            some (.ok conversion, later))) := by
  refine ⟨fun conversion session' ha hown ho hleads =>
      resolve_typedef_again hs h.toRenames ho ha hleads hown,
    fun hf isConst conversion session' ha ho => resolve_typedefPointer_cases hs h hf ho ha,
    fun hcontains hn hown => ?_⟩
  obtain ⟨known, hk⟩ := Option.isSome_iff_exists.1 hcontains
  obtain ⟨later, ho⟩ := resolve_newTypedef hs h.toRenames hown hk hn
  exact ⟨⟨known, later, resolve_of_known hk, ho⟩, fun hf hleaves hp isConst =>
    resolve_newTypedefPointer hs h.toRenames hf hleaves hown hk hn hp isConst⟩

end Transparency

/-- A record with a pointer to a typedef of it, and another typedef of it. -/
def typedefNode : Library where
  decls :=
    { records := .ofRows [("K", ⟨"K", .struct, [⟨"next", .pointerTo (.named "A"), none⟩]⟩)]
      typedefs := .ofRows [("A", .named "K"), ("B", .named "K")] }
  naming := { moduleName := "m", scope := "m" }

theorem typedefNode_ofC : typedefNode.decls.OfC :=
  .of_identifiers (by decide) (by decide) (by decide) (by decide)

/-- Both typedefs stand for the record. -/
theorem typedefNode_renamesPointers :
    ∀ name ∈ ["A", "B"], typedefNode.RenamesPointers name (.named "K") := by
  intro name hm
  rcases List.mem_cons.1 hm with rfl | hm
  · exact ⟨⟨rfl, rfl, by decide +kernel⟩, by decide +kernel⟩
  · obtain rfl := List.mem_singleton.1 hm
    exact ⟨⟨rfl, rfl, by decide +kernel⟩, by decide +kernel⟩

theorem typedefNode_leavesRecord : typedefNode.LeavesRecord (.named "K") := by
  have hk : (Registry.seeded typedefNode.naming).contains "K" = false := by decide +kernel
  intro key record hb
  rw [← Declarations.spelling_of_bindable? hb, spelling_named, hk]

/-- The session in which the record has been resolved. -/
def typedefSession : Session :=
  (Operation.resolve (.named "K")).after typedefNode (.start typedefNode.naming)

set_option maxRecDepth 100000 in
/-- Both typedefs are resolved like the record. Pointers to the one in the record are
    passed untyped; the other was not met, so pointers to it are passed like pointers to
    the record. -/
theorem typedefSession_follows :
    (∃ conversion session' later,
      (resolve (.named "K")).outcome typedefNode typedefSession = some (.ok conversion, session') ∧
      (resolve (.named "A")).outcome typedefNode session' = some (.ok conversion, later)) ∧
    (∃ conversion session',
      (resolve (.pointer (.named "A") false)).outcome typedefNode typedefSession =
        some (.ok conversion, session') ∧
      (conversion = .untyped ∨
        (resolve (.pointer (.named "K") false)).outcome typedefNode session' =
        some (.ok conversion, session'))) ∧
    ∃ conversion session' later,
      (resolve (.pointer (.named "B") false)).outcome typedefNode typedefSession =
        some (.ok conversion, session') ∧
      (resolve (.pointer (.named "K") false)).outcome typedefNode session' =
        some (.ok conversion, later) := by
  have hs : typedefSession.Performed (Scope.ofC typedefNode_ofC) :=
    .perform _ .start (show (CType.named "K").isOfC by decide)
  let recordRun := (resolve (.named "K")).run "K" typedefNode typedefSession
  let typedefPointer := CType.pointer (.named "A") false
  let pointerRun := (resolve typedefPointer).run typedefPointer.spelling typedefNode typedefSession
  have hrecord : recordRun.1.toOption.isSome ∧ recordRun.2.Apart typedefNode := by decide +kernel
  have hpointer : pointerRun.1.toOption = some .untyped ∧ pointerRun.2.Apart typedefNode := by
    decide +kernel
  have hnew : typedefSession.registry.contains "K" ∧ typedefSession.registry.get? "B" = none ∧
      typedefSession.registry.get? "B *" = none := by
    decide +kernel
  have hplain : ∀ name ∈ ["A", "B"], typedefNode.decls.isEnum (.named name) = false := by decide
  have hleads : ¬typedefNode.decls.LeadsToRecord (CType.named "K").spelling := by
    rw [spelling_named]
    exact typedefNode_ofC.not_leadsToRecord rfl
  obtain ⟨conversion, hconversion⟩ := Option.isSome_iff_exists.1 hrecord.1
  obtain ⟨hresolves, hpoints, -⟩ := typedefs_follow typedefNode_ofC hs
    (typedefNode_renamesPointers "A" (by decide))
  obtain ⟨-, -, hfollows⟩ := typedefs_follow typedefNode_ofC hs
    (typedefNode_renamesPointers "B" (by decide))
  obtain ⟨later, hlater⟩ := hresolves conversion _ hrecord.2
    (fun henum => absurd henum (Bool.eq_false_iff.1 (hplain "A" (by decide))))
    (outcome_of_toOption hconversion) hleads
  obtain ⟨-, hsame⟩ := hfollows (by rw [spelling_named]; exact hnew.1) hnew.2.1
    fun henum => absurd henum (Bool.eq_false_iff.1 (hplain "B" (by decide)))
  exact ⟨⟨conversion, _, later, outcome_of_toOption hconversion, hlater⟩,
    ⟨.untyped, _, outcome_of_toOption hpointer.1,
      hpoints rfl false _ _ hpointer.2 (outcome_of_toOption hpointer.1)⟩,
    hsame rfl typedefNode_leavesRecord hnew.2.2 false⟩

set_option maxRecDepth 100000 in
/-- The typedef in the record is met while the record is being bound. From then on
    pointers to it are passed untyped, though those to the record are not. -/
theorem typedefNode_parts :
    ¬∀ (library : Library) (hc : library.decls.OfC) (session : Session),
      session.Performed (Scope.ofC hc) → ∀ name underlying,
      library.RenamesPointers name underlying →
      ∀ isConst conversion conversion' session' later,
        (resolve (.pointer (.named name) isConst)).outcome library session =
          some (.ok conversion, session') →
        (resolve (.pointer underlying isConst)).outcome library session' =
          some (.ok conversion', later) →
        conversion = conversion' := by
  let typedefPointer := CType.pointer (.named "A") false
  let recordPointer := CType.pointer (.named "K") false
  let first := (resolve typedefPointer).run typedefPointer.spelling typedefNode typedefSession
  let second := (resolve recordPointer).run recordPointer.spelling typedefNode first.2
  have hfirst : first.1.toOption = some .untyped := by decide +kernel
  have hsecond : second.1.toOption = some (.between "mp_write_ptr_K" "mp_read_ptr_K") := by
    decide +kernel
  intro hall
  have hs : typedefSession.Performed (Scope.ofC typedefNode_ofC) :=
    .perform _ .start (show (CType.named "K").isOfC by decide)
  have hsame := hall typedefNode typedefNode_ofC typedefSession hs "A" _
    (typedefNode_renamesPointers "A" (by decide)) false _ _ _ _
    (outcome_of_toOption hfirst) (outcome_of_toOption hsecond)
  exact absurd hsame (by decide)

end ScriptBind
