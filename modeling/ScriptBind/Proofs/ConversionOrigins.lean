import ScriptBind.Proofs.FinishedOperations
import ScriptBind.Proofs.OutcomeConversions
import ScriptBind.Proofs.SessionGrowth

/-!
# Where Conversions Come From

Every conversion that a session has was there from the beginning, or was learned for
a reason, or it is that of an array or of a bound record. A typedef of no enum has it
from what it stands for, and pointers to the typedef have theirs from there as well.
If that is a record, it was bound when the typedef got its conversion, since only
what a record is known by is answered for it, so that the typedef got an identifier
then.

This is so as soon as the conversion is there, and it stays so. The key tells which
of the cases it can be, because words, pointers, arrays and callbacks end with
different characters. A word has been learned to be an enum, or a record has been
bound under it, or it is a typedef.

## Main definitions

* `Session.Answered`: What is answered for a record is what it is known by.
* `Session.Explains`: Why a session has a conversion.
* `Session.Explained`: A session in which all conversions have a reason.

## Theorems

* `bindersWithin_answer`: Records are answered by what they are known by.
* `staysExplained_carries`: Every conversion keeps its reason.
* `Performed.explains`: Every conversion has a reason between operations.
* `Explains.of_word`: The reasons for the conversion of a word.
* `Performed.eq_integer`: Enums are known by what enums are.
-/

namespace ScriptBind

open BindM

variable {library : Library}

/-- What is answered for a record is what it is known by. -/
def Session.Answered (library : Library) (session : Session) (type : CType)
    (conversion : Conversion) : Prop :=
  ∀ key record, library.decls.bindable? type = some (key, record) →
    session.registry.get? key = some conversion

theorem afterBinding_answered (binders : Binders) (key : String) (record : Record)
    (session : Session) :
    Ensures True library (afterBinding binders key record) session
      fun result session' => ∀ conversion, result = .ok conversion →
        session'.registry.get? key = some conversion := by
  rw [afterBinding, ensures_bind]
  refine ensures_of_forall (fun result session' => ?_) trivial
  cases result with
  | error error =>
      intro conversion he
      cases he
  | ok bound =>
      dsimp only
      rw [ensures_bind, ensures_look]
      dsimp only
      split
      · next hk =>
          refine ensures_pure.2 fun conversion he => ?_
          rw [hk, Except.ok.inj he]
      · refine ensures_fail.2 fun conversion he => ?_
        cases he

theorem resolveFresh_answered (binders : Binders) (links : Nat) (type : CType)
    (session : Session) :
    Ensures True library (resolveFresh binders links type) session
      fun result session' => ∀ conversion, result = .ok conversion →
        session'.Answered library type conversion := by
  cases hb : library.decls.bindable? type with
  | none =>
      refine ensures_of_forall (fun _ _ _ _ key record ho => ?_) trivial
      rw [hb] at ho
      cases ho
  | some found =>
      obtain ⟨key, record⟩ := found
      have hr := Declarations.get?_of_bindable? hb
      have hanswered : Ensures True library (afterBinding binders key record) session
          fun result session' => ∀ conversion, result = .ok conversion →
            session'.Answered library type conversion := by
        refine (afterBinding_answered binders key record session).mono
          fun result session' hall conversion he other _ ho => ?_
        rw [hb] at ho
        rw [← (Prod.mk.inj (Option.some.inj ho)).1]
        exact hall conversion he
      -- A type that names a record is resolved by binding the record.
      obtain rfl := Declarations.spelling_of_bindable? hb
      cases type with
      | named name =>
          rw [resolveFresh, resolveNamed, ensures_bind, ensures_look]
          dsimp only
          rw [spelling_named] at hr hanswered
          rw [hr]
          exact hanswered
      | tagged kind tag =>
          rw [resolveFresh, resolveTagged, ensures_bind, ensures_look]
          dsimp only
          rw [hr]
          exact hanswered
      | _ => cases hb

/-- Whatever is resolved, records are answered by what they are known by. -/
theorem bindersWithin_answer (library : Library) (levels : Nat) :
    (bindersWithin levels).Answer library (Session.Answered library) := by
  intro links type session
  cases levels with
  | zero => exact trivial
  | succ levels =>
      show Ensures True library (resolveStep (bindersWithin levels) links type) session _
      rw [resolveStep, ensures_bind, ensures_look]
      dsimp only
      split
      · next known hk =>
          refine ensures_pure.2 fun conversion he key record hb => ?_
          rw [← Declarations.spelling_of_bindable? hb, hk, Except.ok.inj he]
      · split
        · refine ensures_fail.2 fun conversion he => ?_
          cases he
        · exact resolveFresh_answered _ links type session

namespace Session

variable {scope : Scope library} {session session' : Session} {key : String}
  {conversion : Conversion}

/-- Why a session has a conversion under a key. -/
inductive Explains (scope : Scope library) (session : Session) : String → Conversion → Prop where
  /-- It was there from the beginning. -/
  | seed {key : String} {conversion : Conversion} :
      (Registry.seeded library.naming).get? key = some conversion →
      Explains scope session key conversion
  /-- It was learned for a reason. -/
  | learn {earlier : Session} {key : String} {conversion : Conversion} :
      earlier.Learns scope key conversion → Explains scope session key conversion
  /-- It is that of an array. -/
  | array {element : CType} {key : String} (conversion : Conversion) :
      IsArrayKey element key → Explains scope session key conversion
  /-- A typedef has it from what it stands for. With it comes the identifier, if this is
      a record. -/
  | typedef {name : String} {underlying : CType} (conversion : Conversion) :
      library.decls.records.get? name = none →
      library.decls.typedefs.get? name = some underlying →
      library.decls.isEnum (.named name) = false →
      (∀ key record, library.decls.bindable? underlying = some (key, record) →
        (Registry.seeded library.naming).contains key = false → session.aliases.contains name) →
      Explains scope session name conversion
  /-- So have pointers to the typedef. -/
  | typedefPointer {name : String} {underlying : CType} {conversion : Conversion} :
      library.decls.records.get? name = none →
      library.decls.typedefs.get? name = some underlying →
      library.decls.isEnum (.named name) = false →
      session.registry.get? (underlying.spelling ++ " *") = some conversion →
      Explains scope session (name ++ " *") conversion
  /-- It is that of a record that is bound. -/
  | record {members : BoundMembers} :
      members.Made scope → session.structs.get? members.key = some (.done members.bound) →
      Explains scope session members.key members.conversion
  /-- So is that of pointers to the record. -/
  | recordPointer {members : BoundMembers} :
      members.Made scope → session.structs.get? members.key = some (.done members.bound) →
      Explains scope session (members.key ++ " *") members.pointerConversion

/-- A reason remains one. -/
theorem Explains.mono (h : session.Explains scope key conversion) (he : session.Extends session') :
    session'.Explains scope key conversion := by
  cases h with
  | seed hs => exact .seed hs
  | learn hl => exact .learn hl
  | array conversion hk => exact .array conversion hk
  | typedef conversion hr ht henum ha =>
      exact .typedef conversion hr ht henum fun key record hb hk =>
        Table.contains_of_initial he.aliases (ha key record hb hk)
  | typedefPointer hr ht henum hk =>
      exact .typedefPointer hr ht henum (Table.get?_of_initial he.registry hk)
  | record hm hd => exact .record hm (Table.get?_of_initial he.structs hd)
  | recordPointer hm hd => exact .recordPointer hm (Table.get?_of_initial he.structs hd)

/-- What is known of a key of which nothing was known is what has been added. -/
theorem eq_of_get?_addConversion {other : String} {added : Conversion}
    (hn : session.registry.get? key = none)
    (hk : (session.addConversion other added).registry.get? key = some conversion) :
    other = key ∧ added = conversion := by
  rw [addConversion, Table.get?_add, hn, Option.none_or] at hk
  split at hk
  · next he => exact ⟨he, Option.some.inj hk⟩
  · cases hk

theorem eq_of_get?_addConversions {first second : String} {added added' : Conversion}
    (hn : session.registry.get? key = none)
    (hk : ((session.addConversion first added).addConversion second added').registry.get? key =
      some conversion) :
    first = key ∧ added = conversion ∨ second = key ∧ added' = conversion := by
  cases hfirst : (session.addConversion first added).registry.get? key with
  | none => exact .inr (eq_of_get?_addConversion hfirst hk)
  | some known =>
      obtain ⟨he, rfl⟩ := eq_of_get?_addConversion hn hfirst
      have hstays := Table.get?_of_initial
        ((session.addConversion first added).grows_addConversion second added').registry hfirst
      rw [hk] at hstays
      exact .inl ⟨he, (Option.some.inj hstays).symm⟩

/-- A typedef takes over the identifier of the record that it stands for, if this is
    bound. -/
theorem aliases_shareWithAlias (session : Session) (name underlying : String) :
    (session.shareWithAlias name underlying).aliases =
      match session.boundStruct? underlying with
      | some bound => session.aliases.add name bound.name
      | none => session.aliases := by
  rw [shareWithAlias]
  cases session.registry.get? (underlying ++ " *") with
  | none =>
      dsimp only
      cases session.boundStruct? underlying with
      | some bound => rfl
      | none => rfl
  | some conversion =>
      have hsame : (session.addConversion (name ++ " *") conversion).boundStruct? underlying =
          session.boundStruct? underlying := rfl
      dsimp only
      rw [hsame]
      cases session.boundStruct? underlying with
      | some bound => rfl
      | none => rfl

/-- A typedef of a record that is answered has an identifier from then on. -/
theorem contains_aliases_typedef {underlying : CType} {record : Record}
    (ha : session.Agrees library key)
    (hb : library.decls.bindable? underlying = some (key, record)) {conversion : Conversion}
    (hanswered : session.Answered library underlying conversion) (name : String) :
    ((session.addConversion name conversion).shareWithAlias name
      underlying.spelling).aliases.contains name := by
  obtain ⟨bound, hbound⟩ :=
    ha.bound (Option.isSome_iff_exists.2 ⟨conversion, hanswered key record hb⟩)
  have hshared : (session.addConversion name conversion).boundStruct? underlying.spelling =
      some bound := by
    rw [Declarations.spelling_of_bindable? hb]
    exact boundStruct?_of_get? hbound
  rw [aliases_shareWithAlias, hshared]
  dsimp only
  rw [Table.contains_add, decide_eq_true rfl, Bool.or_true]

/-- A session in which all conversions have a reason, and in which those of records
    agree with their outcomes. -/
structure Explained (hc : library.decls.OfC) (session : Session) : Prop where
  /-- Outcomes and conversions agree. -/
  agrees : ∀ key record, library.decls.records.get? key = some record →
    (Registry.seeded library.naming).contains key = false → session.Agrees library key
  /-- Conversions have a reason. -/
  explains : ∀ key conversion, session.registry.get? key = some conversion →
    session.Explains (Scope.ofC hc) key conversion

/-- A later session in which all conversions have a reason if they had one. -/
structure StaysExplained (hc : library.decls.OfC) (session session' : Session) : Prop where
  /-- It is later. -/
  later : session.Extends session'
  /-- The conversions have a reason. -/
  explained : session.Explained hc → session'.Explained hc

instance (hc : library.decls.OfC) : IsPreorder Session (StaysExplained hc) where
  refl := fun session => ⟨Extends.refl session, id⟩
  trans := fun _ _ _ h h' => ⟨trans_of Extends h.later h'.later, h'.explained ∘ h.explained⟩

variable {hc : library.decls.OfC}

theorem explained_start (hc : library.decls.OfC) : (start library.naming).Explained hc where
  agrees := fun _ _ _ hk => agrees_start hk
  explains := fun key conversion hget => .seed (by rwa [start_registry] at hget)

/-- It is enough that what becomes known has a reason. -/
theorem Change.staysExplained (hchange : session.Change (Scope.ofC hc) session')
    (hnew : session.Explained hc → ∀ key conversion, session.registry.get? key = none →
      session'.registry.get? key = some conversion →
      session'.Explains (Scope.ofC hc) key conversion) :
    session.StaysExplained hc session' := by
  refine ⟨hchange.extends, fun ha => ⟨fun key record hr hk => hchange.agrees hr hk
    (ha.agrees key record hr hk), fun key conversion hget => ?_⟩⟩
  rcases hchange.extends.known_or_new hget with hknown | hn
  · -- What was known has the reason that it had.
    exact (ha.explains key conversion hknown).mono hchange.extends
  · exact hnew ha key conversion hn hget

/-- Most changes are of other things. -/
theorem Change.staysExplained_of_eq (hchange : session.Change (Scope.ofC hc) session')
    (he : session'.registry = session.registry) : session.StaysExplained hc session' := by
  refine hchange.staysExplained fun _ key conversion hn hget => ?_
  rw [he, hn] at hget
  cases hget

/-- What a typedef takes over has the reason that it does so. -/
theorem Explained.explains_typedef (ha : session.Explained hc) {name : String} {underlying : CType}
    {added : Conversion} (hr : library.decls.records.get? name = none)
    (ht : library.decls.typedefs.get? name = some underlying)
    (henum : library.decls.isEnum (.named name) = false)
    (hanswered : session.Answered library underlying added)
    (hn : session.registry.get? key = none)
    (hget : ((session.addConversion name added).shareWithAlias name
      underlying.spelling).registry.get? key = some conversion) :
    ((session.addConversion name added).shareWithAlias name underlying.spelling).Explains
      (Scope.ofC hc) key conversion := by
  -- What has been answered for a record is known of it, so the record is bound and has
  -- an identifier to take over.
  have hidentifier : ∀ other record, library.decls.bindable? underlying = some (other, record) →
      (Registry.seeded library.naming).contains other = false →
      ((session.addConversion name added).shareWithAlias name
        underlying.spelling).aliases.contains name := fun other record hb hk =>
    contains_aliases_typedef (ha.agrees other record (Declarations.get?_of_bindable? hb) hk) hb
      hanswered name
  obtain ⟨aliases, -, he | ⟨pointers, hp, he⟩⟩ :=
    (session.addConversion name added).shareWithAlias_cases name underlying.spelling
  · rw [he] at hget hidentifier ⊢
    obtain ⟨rfl, -⟩ := eq_of_get?_addConversion hn hget
    exact .typedef conversion hr ht henum hidentifier
  · rw [he] at hget hidentifier ⊢
    rcases eq_of_get?_addConversions hn hget with ⟨rfl, -⟩ | ⟨rfl, rfl⟩
    · exact .typedef conversion hr ht henum hidentifier
    · exact .typedefPointer hr ht henum (Table.get?_of_initial (Table.prefix_add ..) hp)

/-- What resolving itself adds has a reason. -/
theorem staysExplained_allows (hc : library.decls.OfC) :
    AllowsAnswered (Scope.ofC hc) (Answered library)
      ((Scope.ofC hc).Guarded (StaysExplained hc)) where
  learn := fun session other added hl => by
    have hadd : session.Addition (Scope.ofC hc) (session.addConversion other added) := .learn hl
    refine Scope.guarded_of_addition hadd ((Change.add hadd).staysExplained
      fun _ key conversion hn hget => ?_)
    obtain ⟨rfl, rfl⟩ := eq_of_get?_addConversion hn hget
    exact .learn hl
  array := fun before session element length added he _ hbefore => by
    have hadd : session.Addition (Scope.ofC hc) (session.writeArray element length added) :=
      .array _ _ he (isArrayKey_arrayKey element length)
    refine trans_of _ hbefore (Scope.guarded_of_addition hadd ((Change.add hadd).staysExplained
      fun _ key conversion hn hget => ?_))
    -- The converters are written before the conversion is added.
    have hunknown : (session.emit (.arrayConverter
        (.ofElement element length added))).registry.get? key = none := hn
    obtain ⟨rfl, -⟩ := eq_of_get?_addConversion hunknown hget
    exact .array conversion (isArrayKey_arrayKey element length)
  typedef := fun session name underlying added hr ht henum hanswered => by
    have hadd : session.Addition (Scope.ofC hc) _ := .typedef added hr ht
    exact Scope.guarded_of_addition hadd ((Change.add hadd).staysExplained
      fun ha _ _ hn hget => ha.explains_typedef hr ht henum hanswered hn hget)

/-- So has what binding a record adds. -/
theorem staysExplained_allowsBinding (hc : library.decls.OfC) :
    AllowsBinding (Scope.ofC hc) (StaysExplained hc) := by
  refine .of_changes Change.staysExplained_of_eq fun session typedef members hm hn => ?_
  refine (Change.commit typedef hm hn).staysExplained fun _ key conversion hunknown hget => ?_
  rw [commit_eq] at hget ⊢
  have hdone : (session.structs.set members.key (.done members.bound)).get? members.key =
      some (.done members.bound) := session.get?_settleStruct members.key (.done members.bound)
  rcases eq_of_get?_addConversions hunknown hget with ⟨rfl, rfl⟩ | ⟨rfl, rfl⟩
  · exact .record hm hdone
  · exact .recordPointer hm hdone

/-- Every conversion keeps its reason through binding. -/
theorem staysExplained_carries (hc : library.decls.OfC) :
    (Scope.ofC hc).Carries (StaysExplained hc) :=
  have hallows := staysExplained_allows hc
  .of_allows hallows.toAllowsLearning
    (fun ha hs => (Change.add ha).staysExplained_of_eq hs.registry)
    fun levels => (bindersWithin_keepAnswered (bindersWithin_answer library)
      (foreknown_true library) hallows (staysExplained_allowsBinding hc).known levels).parts

/-- Between operations every conversion has a reason. -/
theorem Performed.explains (hs : session.Performed (Scope.ofC hc))
    (hk : session.registry.get? key = some conversion) :
    session.Explains (Scope.ofC hc) key conversion :=
  (((staysExplained_carries hc).performed hs).explained (explained_start hc)).explains
    key conversion hk

/-- A word is learned only as an enum. -/
theorem Learns.eq_integer (hl : session.Learns (Scope.ofC hc) key conversion) {c : Char}
    (hlast : lastOf key = some c) (hword : Text.isWordChar c) : conversion = .integer := by
  have hend : ∀ {d : Char}, lastOf key = some d → Text.isWordChar d = false →
      conversion = .integer := by
    intro d hd hmark
    rw [hlast] at hd
    rw [← Option.some.inj hd, hword] at hmark
    cases hmark
  cases hl with
  | callback hf => exact hend (lastOf_callback hf) (by decide)
  | record hb => exact hend (lastOf_pointer (isFunction_of_bindable? hb) _) (by decide)
  | pointer _ _ hf => exact hend (lastOf_pointer (isFunction_of_functionPointer hf) _) (by decide)
  | typedef => rfl
  | enumeration => rfl

/-- A word that had no conversion from the beginning has been learned to be an enum, or
    a record has been bound under it, or it is a typedef. -/
theorem Explains.of_word (h : session.Explains (Scope.ofC hc) key conversion) {c : Char}
    (hlast : lastOf key = some c) (hword : Text.isWordChar c)
    (hseed : (Registry.seeded library.naming).contains key = false) :
    conversion = .integer ∨ session.structs.contains key ∨
      ∃ underlying, library.decls.typedefs.get? key = some underlying ∧
        library.decls.isEnum (.named key) = false ∧
        ∀ other record, library.decls.bindable? underlying = some (other, record) →
          (Registry.seeded library.naming).contains other = false →
          session.aliases.contains key := by
  have hstar := ne_star_of_lastOf hlast (ne_star_of_isWordChar hword)
  cases h with
  | seed hs =>
      rw [Table.contains, hs] at hseed
      cases hseed
  | learn hl => exact .inl (hl.eq_integer hlast hword)
  | array _ hk =>
      rw [lastOf_array hk] at hlast
      rw [← Option.some.inj hlast] at hword
      exact absurd hword (by decide)
  | typedef _ _ ht henum ha => exact .inr (.inr ⟨_, ht, henum, ha⟩)
  | typedefPointer => exact absurd rfl (hstar _)
  | record _ hd =>
      refine .inr (.inl ?_)
      rw [Table.contains, hd]
      rfl
  | recordPointer => exact absurd rfl (hstar _)

end Session

namespace Declarations

variable {decls : Declarations}

/-- A greater bound lets no enum be overlooked. -/
theorem isEnumWithin_succ {bound : Nat} {type : CType} (h : decls.isEnumWithin bound type) :
    decls.isEnumWithin (bound + 1) type := by
  induction bound generalizing type with
  | zero => cases h
  | succ bound ih =>
      cases type with
      | named name =>
          rw [isEnumWithin] at h ⊢
          cases ht : decls.typedefs.get? name with
          | none =>
              rw [ht] at h
              cases h
          | some underlying =>
              rw [ht] at h
              exact ih h
      | enumeration tag => rfl
      | _ => cases h

/-- What a typedef that is an enum stands for is an enum. -/
theorem isEnum_of_typedef {name : String} {underlying : CType}
    (ht : decls.typedefs.get? name = some underlying) (h : decls.isEnum (.named name)) :
    decls.isEnum underlying := by
  rw [isEnum, aliasLimit, isEnumWithin, ht] at h
  exact isEnumWithin_succ h

/-- An enum is spelled as a word. -/
theorem OfC.lastOf_enum (h : decls.OfC) {type : CType} (ht : type.isOfC) (he : decls.isEnum type) :
    ∃ c, lastOf type.spelling = some c ∧ Text.isWordChar c := by
  cases type with
  | named name =>
      cases hn : decls.typedefs.get? name with
      | none =>
          rw [isEnum, aliasLimit, isEnumWithin, hn] at he
          cases he
      | some underlying =>
          rw [spelling_named]
          exact h.lastOf_typedef hn
  | enumeration tag => exact lastOf_enumeration ht
  | _ => cases he

/-- A typedef that is spelled like an enum is that enum. -/
theorem OfC.isEnum_of_spelling (h : decls.OfC) {type underlying : CType} (he : decls.isEnum type)
    (ht : decls.typedefs.get? type.spelling = some underlying) :
    decls.isEnum (.named type.spelling) := by
  cases type with
  | named name => rwa [spelling_named]
  | enumeration tag =>
      have hi : Text.isIdentifier (CType.enumeration tag).spelling :=
        h.typedefName _ (Table.mem_of_get? ht)
      exact absurd (by rw [spelling_enumeration]; rfl) (ne_keyed_of_isIdentifier hi "enum" tag)
  | _ => cases he

end Declarations

namespace Session

variable {session : Session} {type : CType} {conversion : Conversion} {hc : library.decls.OfC}

/-- An enum is known by what enums are. -/
theorem Performed.eq_integer (hs : session.Performed (Scope.ofC hc)) (ht : type.isOfC)
    (he : library.decls.isEnum type)
    (hseed : (Registry.seeded library.naming).contains type.spelling = false)
    (hunbound : session.structs.contains type.spelling = false)
    (hk : session.registry.get? type.spelling = some conversion) : conversion = .integer := by
  obtain ⟨c, hlast, hword⟩ := hc.lastOf_enum ht he
  rcases (hs.explains hk).of_word hlast hword hseed with hi | hbound | ⟨_, htypedef, henum, -⟩
  · exact hi
  · rw [hunbound] at hbound
    cases hbound
  · rw [hc.isEnum_of_spelling he htypedef] at henum
    cases henum

end Session

end ScriptBind
