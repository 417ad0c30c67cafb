import ScriptBind.Proofs.BaseConverters
import ScriptBind.Proofs.CoherentSessions
import ScriptBind.Proofs.ConversionOrigins

/-!
# Where the Conversions of Pointers Come From

For the key of a pointer little is left of where conversions can come from. A pointer
is passed untyped, or it points to a record that has been bound, or to a typedef which
has taken over what was known of pointers to its type. Whatever is put after a star by
another star is neither a record nor a typedef, so pointers to pointers are always
passed untyped. So are pointers to enums, as typedefs of enums take nothing over.

## Main definitions

* `Session.PointsBy`: Why pointers have the conversion they have.
* `Session.PointersFollow`: The conversions of pointers are accounted for.

## Theorems

* `Performed.pointersFollow`: The conversions of pointers are accounted for between
  operations.
* `PointsBy.of_typedef`: Pointers to a typedef are untyped or like those to its type.
* `Performed.eq_untyped`: Pointers to enums are untyped.
* `PointersFollow.eq_untyped`: Pointers to pointers are untyped.
-/

namespace ScriptBind

variable {library : Library}

namespace Session

variable {session : Session} {key : String} {conversion : Conversion} {hc : library.decls.OfC}

/-- Why pointers have a conversion that they did not have from the beginning. -/
inductive PointsBy (library : Library) (session : Session) : String → Conversion → Prop where
  /-- Nothing better was known. -/
  | untyped (key : String) : PointsBy library session key .untyped
  /-- It is that of pointers to a bound record. -/
  | record {name : String} {bound : BoundStruct} (conversion : Conversion) :
      endsWithStar name = false → session.structs.get? name = some (.done bound) →
      PointsBy library session (name ++ " *") conversion
  /-- A typedef has taken it over from pointers to what it stands for. -/
  | typedef {name : String} {underlying : CType} {conversion : Conversion} :
      library.decls.records.get? name = none →
      library.decls.typedefs.get? name = some underlying →
      library.decls.isEnum (.named name) = false →
      session.registry.get? (underlying.spelling ++ " *") = some conversion →
      PointsBy library session (name ++ " *") conversion

/-- The conversions of pointers are accounted for. -/
def PointersFollow (library : Library) (session : Session) : Prop :=
  ∀ key conversion, lastOf key = some '*' →
    (Registry.seeded library.naming).contains key = false →
    session.registry.get? key = some conversion → session.PointsBy library key conversion

/-- What explains the conversion of a pointer. -/
theorem Explains.pointsBy (h : session.Explains (Scope.ofC hc) key conversion)
    (hl : lastOf key = some '*') (hk : (Registry.seeded library.naming).contains key = false) :
    session.PointsBy library key conversion := by
  -- Only pointers end with a star.
  have hend : ∀ {c : Char}, lastOf key = some c → c ≠ '*' →
      session.PointsBy library key conversion := by
    intro c hlast hne
    rw [hl] at hlast
    exact absurd (Option.some.inj hlast).symm hne
  cases h with
  | seed hs =>
      rw [Table.contains, hs] at hk
      cases hk
  | learn hlearns =>
      cases hlearns with
      | callback hf => exact hend (lastOf_callback hf) (by decide)
      | record => exact .untyped _
      | pointer => exact .untyped _
      | typedef _ ht =>
          obtain ⟨c, hlast, hw⟩ := hc.lastOf_typedef ht
          exact hend hlast (ne_star_of_isWordChar hw)
      | @enumeration tag ht =>
          obtain ⟨c, hlast, hw⟩ := lastOf_enumeration ht
          exact hend hlast (ne_star_of_isWordChar hw)
  | array _ hkey => exact hend (lastOf_array hkey) (by decide)
  | typedef _ _ ht =>
      obtain ⟨c, hlast, hw⟩ := hc.lastOf_typedef ht
      exact hend hlast (ne_star_of_isWordChar hw)
  | typedefPointer hr ht henum hp => exact .typedef hr ht henum hp
  | record hm _ =>
      obtain ⟨_, hstar, -⟩ := hm.record
      rw [endsWithStar, ← List.head?_reverse, ← fromEnd, ← lastOf, hl] at hstar
      cases hstar
  | recordPointer hm hdone =>
      obtain ⟨_, hstar, -⟩ := hm.record
      exact .record _ hstar hdone

/-- The conversions of pointers are accounted for between operations. -/
theorem Performed.pointersFollow (hs : session.Performed (Scope.ofC hc)) :
    session.PointersFollow library :=
  fun _ _ hl hk hget => (hs.explains hget).pointsBy hl hk

/-- Nothing is both a pointer and a bound record or a typedef, so pointers to
    pointers are passed untyped. -/
theorem PointsBy.eq_untyped (h : session.PointsBy library key conversion) (hc : library.decls.OfC)
    (hk : ∀ name, endsWithStar name = false → key ≠ name ++ " *") : conversion = .untyped := by
  cases h with
  | untyped => rfl
  | record conversion hstar => exact absurd rfl (hk _ hstar)
  | typedef _ ht _ => exact absurd rfl (hk _ (hc.endsWithStar_typedef ht))

/-- No record has taken the name of a typedef. -/
theorem Apart.structs_typedef (ha : session.Apart library) {name : String} {underlying : CType}
    (hr : library.decls.records.get? name = none)
    (ht : library.decls.typedefs.get? name = some underlying) :
    session.structs.get? name = none := by
  refine Option.eq_none_iff_forall_ne_some.2 fun outcome ho => ?_
  have hmem : name ∈ session.structs.names :=
    Table.mem_names_iff.2 (Option.isSome_iff_exists.2 ⟨outcome, ho⟩)
  rcases ha name hmem with hrecord | ⟨htypedef, -⟩
  · rw [Table.contains, hr] at hrecord
    cases hrecord
  · rw [Table.contains, ht] at htypedef
    cases htypedef

/-- Pointers to a typedef are passed untyped or as pointers to what it stands
    for. -/
theorem PointsBy.of_typedef {name : String} {underlying : CType}
    (h : session.PointsBy library (name ++ " *") conversion) (ha : session.Apart library)
    (hr : library.decls.records.get? name = none)
    (ht : library.decls.typedefs.get? name = some underlying) :
    conversion = .untyped ∨ session.registry.get?
      (underlying.spelling ++ " *") = some conversion := by
  generalize hkey : name ++ " *" = key at h
  cases h with
  | untyped => exact .inl rfl
  | @record other _ _ _ hb =>
      obtain rfl := (String.append_left_inj _).1 hkey
      have hnone := ha.structs_typedef hr ht
      rw [hb] at hnone
      cases hnone
  | typedef _ ht' _ hk =>
      obtain rfl := (String.append_left_inj _).1 hkey
      rw [ht] at ht'
      obtain rfl := Option.some.inj ht'
      exact .inr hk

/-- Pointers to an enum are passed untyped. -/
theorem Performed.eq_untyped (hs : session.Performed (Scope.ofC hc)) {type : CType}
    (he : library.decls.isEnum type)
    (hseed : (Registry.seeded library.naming).contains (type.spelling ++ " *") = false)
    (hunbound : session.structs.contains type.spelling = false)
    (hk : session.registry.get? (type.spelling ++ " *") = some conversion) :
    conversion = .untyped := by
  have hreason := hs.pointersFollow _ conversion (lastOf_star _) hseed hk
  generalize hkey : type.spelling ++ " *" = key at hreason
  cases hreason with
  | untyped => rfl
  | record _ _ hb =>
      obtain rfl := (String.append_left_inj _).1 hkey
      rw [Table.contains, hb] at hunbound
      cases hunbound
  | typedef _ ht henum _ =>
      obtain rfl := (String.append_left_inj _).1 hkey
      rw [hc.isEnum_of_spelling he ht] at henum
      cases henum

end Session

/-- No pointer to a pointer has a conversion from the beginning. -/
theorem seeds_not_twice (naming : Naming) : ∀ row ∈ Registry.seeds naming,
    (fromEnd row.1).take 2 ≠ ['*', '*'] ∧ (fromEnd row.1).take 3 ≠ ['*', ' ', '*'] := by
  have hrest : ∀ row ∈ Registry.unsignedTypes.map
        (Registry.casting "mp_obj_get_int" "mp_obj_new_int_from_uint")
      ++ Registry.signedTypes.map (Registry.casting "mp_obj_get_int" "mp_obj_new_int")
      ++ ["float", "double"].map (Registry.casting "mp_obj_get_float" "mp_obj_new_float"),
      (fromEnd row.1).take 2 ≠ ['*', '*'] ∧ (fromEnd row.1).take 3 ≠ ['*', ' ', '*'] := by
    decide
  have hbase : (fromEnd (naming.baseType ++ " *")).take 2 ≠ ['*', '*'] ∧
      (fromEnd (naming.baseType ++ " *")).take 3 ≠ ['*', ' ', '*'] := by
    obtain ⟨rest, he⟩ := fromEnd_baseType naming
    rw [fromEnd_append, he]
    exact ⟨by simp [fromEnd], by simp [fromEnd]⟩
  rw [Registry.seeds, List.append_assoc, List.append_assoc, ← List.append_assoc _ _ (List.map _ _)]
  refine List.forall_mem_append.2 ⟨?_, hrest⟩
  simp only [List.forall_mem_cons]
  exact ⟨by decide, by decide, by decide, by decide, by decide, by decide, hbase,
    fun _ h => by cases h⟩

theorem starAfter_of_endsWithStar {text : String} (h : endsWithStar text) :
    starAfter text = text ++ "*" := by
  rw [starAfter, if_pos (beq_iff_eq.1 h)]

theorem starAfter_of_not_endsWithStar {text : String} (h : endsWithStar text = false) :
    starAfter text = text ++ " *" := by
  rw [starAfter, if_neg (beq_eq_false_iff_ne.1 h)]

/-- A star after a star, with or without a blank between them, is passed untyped
    if at all. -/
theorem Session.PointersFollow.eq_untyped {session : Session} (h : session.PointersFollow library)
    (hc : library.decls.OfC) {text key : String} {conversion : Conversion}
    (hstar : endsWithStar text) (hkey : key = text ++ "*" ∨ key = text ++ " *")
    (hget : session.registry.get? key = some conversion) : conversion = .untyped := by
  obtain ⟨rest, hrest⟩ : ∃ rest, fromEnd text = '*' :: rest := by
    rw [endsWithStar, ← List.head?_reverse, ← fromEnd, beq_iff_eq] at hstar
    exact List.head?_eq_some_iff.1 hstar
  have hends : fromEnd key = '*' :: '*' :: rest ∨ fromEnd key = '*' :: ' ' :: '*' :: rest := by
    refine hkey.imp (fun he => ?_) fun he => ?_
    · rw [he, fromEnd_append, hrest]
      rfl
    · rw [he, fromEnd_append, hrest]
      rfl
  have hseeded : (Registry.seeded library.naming).contains key = false := by
    refine Bool.eq_false_iff.2 fun hcontains => ?_
    obtain ⟨seed, hseed⟩ := Option.isSome_iff_exists.1 hcontains
    have hrow := seeds_not_twice library.naming _ (mem_of_get?_ofFirstRows hseed)
    rcases hends with he | he
    · exact hrow.1 (by rw [he]; rfl)
    · exact hrow.2 (by rw [he]; rfl)
  have hlast : lastOf key = some '*' := by
    rcases hends with he | he
    · rw [lastOf, he]
      rfl
    · rw [lastOf, he]
      rfl
  refine (h key conversion hlast hseeded hget).eq_untyped hc fun name hname he => ?_
  -- What the last star has been put after ends with a star, and so is no name.
  have hne : text ≠ name := by
    rintro rfl
    rw [hname] at hstar
    cases hstar
  rcases hkey with rfl | rfl
  · refine hne (starAfter_injective ?_)
    rw [starAfter_of_endsWithStar hstar, starAfter_of_not_endsWithStar hname, he]
  · exact hne ((String.append_left_inj _).1 he)

end ScriptBind
