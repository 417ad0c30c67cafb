import ScriptBind.Proofs.CNames
import ScriptBind.Proofs.SessionGrowth

/-!
# Conversions Learned Together

The conversions that are learned while one type is resolved belong together. A
typedef has the conversion of the type it stands for, an array type has the one
that its spelling says, and pointers are passed untyped unless what they point
to is known. Nothing of the kind need be true of what was known before, so it is
said of what is known now but was not known in an earlier session.

There is one exception. Pointers to a record are passed untyped for the moment
while the record is being bound, and nothing is remembered. But a typedef of
such a pointer that is met in the meantime does remember it. Of typedefs that
lead to a pointer to a record nothing is said here.

Binding makes up names for records that have none, and one of these could be the
name of a typedef as well. A session is set apart from this if no record has
taken such a name.

## Main definitions

* `Declarations.LeadsToRecord`: Pointers to records, and typedefs of them.
* `Session.Apart`: No record has taken the name of another type.
* `Conversion.Fits`: A conversion that agrees with what else is known.
* `Session.Coherent`: What was learned since an earlier session fits.
* `Session.StaysCoherent`: A later session in which it still does.

## Theorems

* `Coherent.extend`: A session stays coherent if what is new fits.
* `staysCoherent_allowsBinding`: The binding of a record allows it.
-/

namespace ScriptBind

/-- The spellings of pointers to records, and of typedefs that lead to one. -/
inductive Declarations.LeadsToRecord (decls : Declarations) : String → Prop where
  /-- A pointer to a record. -/
  | pointer {key : String} {record : Record} : decls.records.get? key = some record →
      LeadsToRecord decls (key ++ " *")
  /-- A typedef that stands for a type that leads to one. -/
  | typedef {name : String} {underlying : CType} : decls.records.get? name = none →
      decls.typedefs.get? name = some underlying → LeadsToRecord decls underlying.spelling →
      LeadsToRecord decls name

/-- No record that the library does not declare has taken the name of a typedef or
    the spelling of an array type. -/
def Session.Apart (library : Library) (session : Session) : Prop :=
  ∀ key ∈ session.structs.names, library.decls.records.contains key ∨
    library.decls.typedefs.contains key = false ∧ lastOf key ≠ some ']'

instance (library : Library) (session : Session) : Decidable (session.Apart library) :=
  inferInstanceAs (Decidable (∀ key ∈ session.structs.names, _))

/-- The conversion of an array type of fixed length. -/
def CType.arrayConversion (element : CType) (length : Nat) : Conversion :=
  let converter : ArrayConverter := { element, length := some length, store := "", load := "" }
  .between converter.toArray converter.fromArray

/-- A conversion that agrees with what else a session knows, as far as its key
    says what it is for. -/
structure Conversion.Fits (library : Library) (session : Session) (key : String)
    (conversion : Conversion) : Prop where
  /-- A typedef has the conversion of what it stands for. -/
  typedef : ∀ underlying, library.decls.records.get? key = none →
    library.decls.typedefs.get? key = some underlying → library.decls.isEnum (.named key) = false →
    library.decls.LeadsToRecord underlying.spelling ∨
      session.registry.get? underlying.spelling = some conversion
  /-- An array type has its own, and its elements have one. -/
  array : ∀ element length, key = (CType.array element length).spelling →
    conversion = element.arrayConversion length ∧
      (library.decls.LeadsToRecord element.spelling ∨ session.registry.contains element.spelling)
  /-- Pointers to a typedef are untyped unless the typedef has one. -/
  typedefPointer : ∀ name underlying, key = name ++ " *" → library.decls.records.get? name = none →
    library.decls.typedefs.get? name = some underlying →
    conversion = .untyped ∨ session.registry.contains name
  /-- A record has one if it is bound. -/
  record : ∀ record, library.decls.records.get? key = some record →
    ∃ bound, session.structs.get? key = some (.done bound)
  /-- Pointers to a record are untyped unless it is bound. -/
  recordPointer : ∀ name record, key = name ++ " *" →
    library.decls.records.get? name = some record →
    conversion = .untyped ∨ ∃ bound, session.structs.get? name = some (.done bound)

/-- What was learned since an earlier session fits. -/
structure Session.Coherent (library : Library) (session base : Session) : Prop where
  /-- What was known stays known. -/
  since : base.Extends session
  /-- What was not fits. -/
  fits : ∀ key conversion, base.registry.get? key = none →
    session.registry.get? key = some conversion → conversion.Fits library session key

/-- A later session that is coherent if the earlier one is and no record has
    taken the name of another type. -/
structure Session.StaysCoherent (library : Library) (base session session' : Session) : Prop where
  /-- It is later. -/
  later : session.Extends session'
  /-- It is coherent. -/
  coherent : session'.Apart library → session.Coherent library base → session'.Coherent library base

variable {library : Library} {base session session' : Session} {key : String}
  {conversion : Conversion}

/-- More may be known. -/
theorem Conversion.Fits.mono (h : conversion.Fits library session key)
    (he : session.Extends session') : conversion.Fits library session' key where
  typedef := fun underlying hn ht henum =>
    (h.typedef underlying hn ht henum).imp_right (Table.get?_of_initial he.registry)
  array := fun element length hk =>
    ⟨(h.array element length hk).1,
      (h.array element length hk).2.imp_right (Table.contains_of_initial he.registry)⟩
  typedefPointer := fun name underlying hk hn ht =>
    (h.typedefPointer name underlying hk hn ht).imp_right (Table.contains_of_initial he.registry)
  record := fun record hr =>
    (h.record record hr).imp fun _ hb => Table.get?_of_initial he.structs hb
  recordPointer := fun name record hk hr =>
    (h.recordPointer name record hk hr).imp_right fun ⟨bound, hb⟩ =>
      ⟨bound, Table.get?_of_initial he.structs hb⟩

theorem Session.Apart.of_extends (h : session'.Apart library) (he : session.Extends session') :
    session.Apart library := by
  intro key hk
  refine h key ?_
  obtain ⟨row, hrow, rfl⟩ := List.mem_map.1 hk
  exact List.mem_map_of_mem (he.structs.subset hrow)

section Shapes

variable (hc : library.decls.OfC)

include hc

omit hc in
/-- Of the key of a word, only typedefs and records matter. -/
theorem Conversion.fits_of_word {c : Char} (hl : lastOf key = some c) (hw : Text.isWordChar c)
    (htypedef : ∀ underlying, library.decls.records.get? key = none →
      library.decls.typedefs.get? key = some underlying →
      library.decls.isEnum (.named key) = false →
      library.decls.LeadsToRecord underlying.spelling ∨
        session.registry.get? underlying.spelling = some conversion)
    (hrecord : ∀ record, library.decls.records.get? key = some record →
      ∃ bound, session.structs.get? key = some (.done bound)) :
    conversion.Fits library session key where
  typedef := htypedef
  array := fun element length hk => by
    refine absurd hk (ne_array_of_lastOf hl ?_ element length)
    rintro rfl
    exact absurd hw (by decide)
  typedefPointer := fun name _ hk _ _ =>
    absurd hk (ne_star_of_lastOf hl (ne_star_of_isWordChar hw) name)
  record := hrecord
  recordPointer := fun name _ hk _ =>
    absurd hk (ne_star_of_lastOf hl (ne_star_of_isWordChar hw) name)

/-- Other keys are not those of typedefs and records. -/
theorem Conversion.fits_of_mark {c : Char} (hl : lastOf key = some c)
    (hw : Text.isWordChar c = false)
    (harray : ∀ element length, key = (CType.array element length).spelling →
      conversion = element.arrayConversion length ∧
        (library.decls.LeadsToRecord element.spelling ∨ session.registry.contains element.spelling))
    (htypedef : ∀ name underlying, key = name ++ " *" → library.decls.records.get? name = none →
      library.decls.typedefs.get? name = some underlying →
      conversion = .untyped ∨ session.registry.contains name)
    (hrecord : ∀ name record, key = name ++ " *" → library.decls.records.get? name = some record →
      conversion = .untyped ∨ ∃ bound, session.structs.get? name = some (.done bound)) :
    conversion.Fits library session key where
  typedef := fun underlying _ ht _ => by
    rw [hc.get?_typedefs_of_lastOf hl hw] at ht
    cases ht
  array := harray
  typedefPointer := htypedef
  record := fun record hr => absurd rfl (hc.ne_of_lastOf hr hl hw)
  recordPointer := hrecord

/-- An untyped pointer fits wherever a pointer does. -/
theorem Conversion.fits_untyped (hl : lastOf key = some '*') :
    Conversion.untyped.Fits library session key :=
  fits_of_mark hc hl (by decide)
    (fun element length hk => absurd hk (ne_array_of_lastOf hl (by decide) element length))
    (fun _ _ _ _ _ => .inl rfl) fun _ _ _ _ => .inl rfl

/-- What is spelled like a callback is nothing else. -/
theorem Conversion.fits_callback (hl : lastOf key = some ')') :
    conversion.Fits library session key :=
  fits_of_mark hc hl (by decide)
    (fun element length hk => absurd hk (ne_array_of_lastOf hl (by decide) element length))
    (fun name _ hk _ _ => absurd hk (ne_star_of_lastOf hl (by decide) name))
    fun name _ hk _ => absurd hk (ne_star_of_lastOf hl (by decide) name)

/-- Pointers to something that has a conversion, and that is bound if it is a
    record. -/
theorem Conversion.fits_pointer {name : String} (hk : session.registry.contains name)
    (hb : library.decls.records.get? name = none ∨
      ∃ bound, session.structs.get? name = some (.done bound)) :
    conversion.Fits library session (name ++ " *") :=
  fits_of_mark hc (lastOf_star name) (by decide)
    (fun element length he =>
      absurd he (ne_array_of_lastOf (lastOf_star name) (by decide) element length))
    (fun other _ he _ _ => .inr ((String.append_left_inj _).1 he ▸ hk))
    fun other record he hr => by
      obtain rfl := (String.append_left_inj _).1 he
      refine .inr (hb.resolve_left fun hn => ?_)
      rw [hn] at hr
      cases hr

end Shapes

namespace Session

/-- A session stays coherent if what is new fits. -/
theorem Coherent.extend (h : session.Coherent library base) (he : session.Extends session')
    (hnew : ∀ key conversion, session.registry.get? key = none →
      session'.registry.get? key = some conversion → conversion.Fits library session' key) :
    session'.Coherent library base where
  since := trans_of Extends h.since he
  fits := by
    intro key conversion hb hk
    cases hknown : session.registry.get? key with
    | none => exact hnew key conversion hknown hk
    | some known =>
        -- What was learned before is still known by the same key, and fits as before.
        have hsame := Table.get?_of_initial he.registry hknown
        rw [hk] at hsame
        exact (h.fits key conversion hb (by rw [hknown, ← hsame])).mono he

/-- At the beginning nothing has been learned. -/
theorem coherent_self (library : Library) (session : Session) :
    session.Coherent library session where
  since := Extends.refl session
  fits := by
    intro key conversion hb hk
    rw [hb] at hk
    cases hk

/-- A change of other things. -/
theorem Coherent.of_eq (h : session.Coherent library base) (he : session.Extends session')
    (hr : session'.registry = session.registry) : session'.Coherent library base := by
  refine h.extend he fun key conversion hn hk => ?_
  rw [hr, hn] at hk
  cases hk

/-- One more conversion, if it fits. -/
theorem Coherent.addConversion (h : session.Coherent library base)
    (hf : session.registry.get? key = none →
      conversion.Fits library (session.addConversion key conversion) key) :
    (session.addConversion key conversion).Coherent library base := by
  refine h.extend (session.grows_addConversion key conversion).extends fun other found hn hk => ?_
  rw [Session.addConversion, Table.get?_add, hn, Option.none_or] at hk
  split at hk
  · next he =>
      subst he
      rw [← Option.some.inj hk]
      exact hf hn
  · cases hk

/-- What a typedef takes over for pointers. -/
theorem Coherent.shareWithAlias (h : session.Coherent library base) (hc : library.decls.OfC)
    {name : String} (hn : library.decls.records.get? name = none)
    (hk : session.registry.contains name) (underlying : String) :
    (session.shareWithAlias name underlying).Coherent library base := by
  obtain ⟨aliases, ha, he | ⟨conversion, -, he⟩⟩ := session.shareWithAlias_cases name underlying
  · rw [he]
    exact h.of_eq { Extends.refl session with aliases := ha } rfl
  · have hp : (session.addConversion (name ++ " *") conversion).Coherent library base :=
      h.addConversion fun _ => Conversion.fits_pointer hc
        (Table.contains_of_initial (Table.prefix_add ..) hk) (.inl hn)
    rw [he]
    exact hp.of_eq { Extends.refl _ with aliases := ha } rfl

/-- The conversions of a record that is bound. -/
theorem Coherent.commit (h : session.Coherent library base) (hc : library.decls.OfC)
    (typedef : Option MemberTypedef) {members : BoundMembers}
    (hm : members.Made (Scope.ofC hc)) (hn : session.structs.get? members.key = none)
    (ha : (session.commit typedef members).Apart library) :
    (session.commit typedef members).Coherent library base := by
  have hlater : session.Extends (session.commit typedef members) :=
    (Change.commit typedef hm hn).extends
  rw [commit_eq] at ha hlater ⊢
  have hdone : (session.structs.set members.key (.done members.bound)).get? members.key =
      some (.done members.bound) := session.get?_settleStruct members.key (.done members.bound)
  obtain ⟨record, hstar, -⟩ := hm.record
  refine h.extend hlater fun key conversion hknown hk => ?_
  rw [Table.get?_add, Table.get?_add, hknown, Option.none_or] at hk
  -- A record is committed under two keys, its own and that of pointers to it.
  by_cases hkey : members.key = key
  · subst hkey
    have hends : ∀ name, members.key ≠ name ++ " *" := by
      intro name he
      rw [he, endsWithStar_append] at hstar
      cases hstar
    have hmember : members.key ∈ (session.structs.set members.key (.done members.bound)).names := by
      rw [Table.mem_names_iff, Table.contains, hdone]
      rfl
    -- If the library does not declare the record, its name is no other type's.
    have hname := ha members.key hmember
    exact
      { typedef := fun underlying hrecord ht _ => by
          rcases hname with hr | ⟨htypedef, -⟩
          · rw [Table.contains, hrecord] at hr
            cases hr
          · rw [Table.contains, ht] at htypedef
            cases htypedef
        array := fun element length he => by
          have hlast : lastOf members.key = some ']' := by
            rw [he]
            exact lastOf_array (.inl ⟨length, rfl⟩)
          rcases hname with hr | ⟨-, hmark⟩
          · obtain ⟨found, hfound⟩ := Option.isSome_iff_exists.1 hr
            exact absurd rfl (hc.ne_of_lastOf hfound hlast (by decide))
          · exact absurd hlast hmark
        typedefPointer := fun name _ he _ _ => absurd he (hends name)
        record := fun _ _ => ⟨members.bound, hdone⟩
        recordPointer := fun name _ he _ => absurd he (hends name) }
  · rw [if_neg hkey, Option.none_or] at hk
    split at hk
    · next he =>
        subst he
        refine Conversion.fits_pointer hc ?_ (.inr ⟨members.bound, hdone⟩)
        rw [Table.contains_add, Table.contains_add, decide_eq_true rfl, Bool.or_true, Bool.true_or]
    · cases hk

variable {hc : library.decls.OfC}

/-- What the binding of a record does by itself leaves a session coherent. -/
theorem staysCoherent_allowsBinding (base : Session) :
    AllowsBinding (Scope.ofC hc) (StaysCoherent library base) :=
  .of_changes (fun hchange hr => ⟨hchange.extends, fun _ h => h.of_eq hchange.extends hr⟩)
    fun _ typedef _ hm hn =>
      ⟨(Change.commit typedef hm hn).extends, fun ha h => h.commit hc typedef hm hn ha⟩

instance (library : Library) (base : Session) :
    IsPreorder Session (StaysCoherent library base) where
  refl := fun session => ⟨Extends.refl session, fun _ h => h⟩
  trans := fun _ _ _ h h' =>
    ⟨trans_of Extends h.later h'.later, fun ha hs =>
      h'.coherent ha (h.coherent (ha.of_extends h'.later) hs)⟩

end Session

end ScriptBind
