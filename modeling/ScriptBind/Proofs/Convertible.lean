import ScriptBind.Binding.Resolve
import ScriptBind.Proofs.SessionChanges
import ScriptBind.Text.Identifier

/-!
# Convertible Types

Which types have a conversion, said without any session: a least fixed point
over what the library declares. Pointers are convertible whatever they point
to, so records may refer to each other by pointers as they like, and only what
a record contains by value matters.

A session that is binding some records cannot tell whether they are
convertible, and treats them as if they were not. `ConvertibleBut` describes
this: it is convertibility without making use of some records. Doing without a
record is a loss in general, but not for the record's own members. A record
that contains itself by value is never convertible, so whoever shows that it is
does not need it for its members, and `but_cons_of_members` says so. This is
why a record that fails while it is being bound itself has really failed.

What C guarantees of a library's declarations is collected in `Regular`: names
are identifiers, a typedef is declared after what it is made of, and no name
means two things.

## Main definitions

* `CType.isWellNamed`: The names in a type are C names.
* `Field.isConverted`: Whether a member needs a conversion of its type.
* `ConvertibleBut`, `Convertible`: Types that have a conversion.
* `MembersBut`: Members that have the conversions they need.
* `Declarations.Regular`: Declarations as C has them.

## Theorems

* `ConvertibleBut.anti`: Fewer records to do without, more convertible types.
* `but_cons_of_members`: The members of a record do not need the record.
-/

namespace ScriptBind

/-- The names of the arithmetic types of C. -/
def arithmeticTypes : List String :=
  ["bool", "_Bool", "char", "signed char", "unsigned char", "short", "unsigned short", "int",
    "unsigned int", "long", "unsigned long", "long long", "unsigned long long", "float", "double",
    "long double"]

/-- Whether a text can be the name of a typedef: an identifier that is not the
    name of a type of the language. -/
def isTypeName (text : String) : Bool :=
  Text.isIdentifier text && !("void" :: arithmeticTypes).contains text

mutual

/-- Whether the names in a type are C names. The members of a record defined in
    place do not show in the spelling of its type. -/
def CType.isWellNamed : CType → Bool
  | .void => true
  | .builtin name => arithmeticTypes.contains name
  | .named name => isTypeName name
  | .tagged _ tag => Text.isIdentifier tag
  | .anonymous _ => true
  | .enumeration tag => Text.isIdentifier tag
  | .pointer pointee _ => pointee.isWellNamed
  | .array element _ => element.isWellNamed
  | .function ⟨result, params, _⟩ => result.isWellNamed && areWellNamed params

/-- Whether the names in some types are C names. -/
def areWellNamed : List CType → Bool
  | [] => true
  | type :: rest => type.isWellNamed && areWellNamed rest

end

theorem CType.isWellNamed_array {element : CType} {length : Nat} :
    (CType.array element length).isWellNamed ↔ element.isWellNamed := by
  rw [isWellNamed]

/-- The name that a type is made from by pointers and arrays. -/
def CType.head? : CType → Option String
  | .named name => some name
  | .pointer pointee _ => pointee.head?
  | .array element _ => element.head?
  | _ => none

/-- Whether a member needs a conversion of its type. Nameless members, members
    that are callbacks and arrays without length do not. -/
def Field.isConverted (decls : Declarations) (field : Field) : Bool :=
  field.name != "" && (decls.functionPointer field.type).isNone &&
    match field.type with
    | .array _ length => length != 0
    | _ => true

/-- Types that have a conversion even if some records must not be used. -/
inductive ConvertibleBut (library : Library) (avoided : List String) : CType → Prop
  /-- Nothing needs to be generated for the type. -/
  | seeded {type : CType} (h : (Registry.seeded library.naming).contains type.spelling) :
      ConvertibleBut library avoided type
  /-- A pointer can at least be passed on. -/
  | pointer (pointee : CType) (isConst : Bool) :
      ConvertibleBut library avoided (.pointer pointee isConst)
  /-- The values of an enum are integers. -/
  | enumeration {type : CType} (h : library.decls.isEnum type) :
      ConvertibleBut library avoided type
  /-- A typedef is converted as what it stands for. -/
  | typedef {name : String} {underlying : CType}
      (h : library.decls.typedefs.get? name = some underlying)
      (hu : ConvertibleBut library avoided underlying) :
      ConvertibleBut library avoided (.named name)
  /-- An array is converted element by element. -/
  | array {element : CType} {length : Nat} (hl : 0 < length)
      (hd : library.decls.isElement element) (he : ConvertibleBut library avoided element) :
      ConvertibleBut library avoided (.array element length)
  /-- A record is converted member by member. -/
  | record {type : CType} {key : String} {record : Record}
      (h : library.decls.bindable? type = some (key, record)) (hk : key ∉ avoided)
      (hf : ∀ field ∈ record.flattened, field.isConverted library.decls →
        ConvertibleBut library avoided field.type) : ConvertibleBut library avoided type

/-- Types that have a conversion. -/
def Convertible (library : Library) (type : CType) : Prop := ConvertibleBut library [] type

/-- Members that have the conversions they need even if some records must not be
    used. -/
def MembersBut (library : Library) (avoided : List String) (fields : List Field) : Prop :=
  ∀ field ∈ fields, field.isConverted library.decls → ConvertibleBut library avoided field.type

variable {library : Library} {avoided avoided' : List String} {type : CType}

/-- With fewer records to do without, more types are convertible. -/
theorem ConvertibleBut.anti (h : ConvertibleBut library avoided type)
    (hs : ∀ key ∈ avoided', key ∈ avoided) : ConvertibleBut library avoided' type := by
  induction h with
  | seeded hc => exact .seeded hc
  | pointer pointee isConst => exact .pointer pointee isConst
  | enumeration he => exact .enumeration he
  | typedef ht _ ih => exact .typedef ht ih
  | array hl hd _ ih => exact .array hl hd ih
  | record hb hk _ ih => exact .record hb (fun hm => hk (hs _ hm)) ih

theorem MembersBut.anti {fields : List Field} (h : MembersBut library avoided fields)
    (hs : ∀ key ∈ avoided', key ∈ avoided) : MembersBut library avoided' fields :=
  fun field hf hc => (h field hf hc).anti hs

/-- A type that is convertible is so without a record, or else the members of
    that record are convertible without it. -/
theorem ConvertibleBut.cons_or_members {key : String} {record : Record}
    (hr : library.decls.records.get? key = some record) (h : ConvertibleBut library avoided type) :
    ConvertibleBut library (key :: avoided) type ∨
      MembersBut library (key :: avoided) record.flattened := by
  induction h with
  | seeded hc => exact Or.inl (.seeded hc)
  | pointer pointee isConst => exact Or.inl (.pointer pointee isConst)
  | enumeration he => exact Or.inl (.enumeration he)
  | typedef ht _ ih => exact ih.imp_left (.typedef ht)
  | array hl hd _ ih => exact ih.imp_left (.array hl hd)
  | @record type key' record' hb hk _ ih =>
      by_cases hm : MembersBut library (key :: avoided) record.flattened
      · exact Or.inr hm
      · have hall : MembersBut library (key :: avoided) record'.flattened := fun field hf hc =>
          (ih field hf hc).resolve_right hm
        -- The record met is not the one to do without: its members are convertible.
        have hne : key' ≠ key := by
          intro he
          have hr' := Declarations.get?_of_bindable? hb
          rw [he, hr] at hr'
          exact hm (Option.some.inj hr' ▸ hall)
        exact Or.inl (.record hb (fun hmem => (List.mem_cons.1 hmem).elim hne hk) hall)

/-- The members of a record do not need the record. -/
theorem but_cons_of_members {key : String} {record : Record}
    (hr : library.decls.records.get? key = some record)
    (h : MembersBut library avoided record.flattened) :
    MembersBut library (key :: avoided) record.flattened := by
  by_cases hm : MembersBut library (key :: avoided) record.flattened
  · exact hm
  · exact fun field hf hc => ((h field hf hc).cons_or_members hr).resolve_right hm

/-- Whether a type is a typedef of at most so many typedefs of each other. -/
def Declarations.linksWithin (decls : Declarations) : Nat → CType → Bool
  | bound, .named name =>
    match decls.typedefs.get? name, bound with
    | some underlying, bound + 1 => decls.linksWithin bound underlying
    | some _, 0 => false
    | none, _ => true
  | _, _ => true

/-- Whether a type is a record defined in place. -/
def CType.isAnonymous : CType → Bool
  | .anonymous _ => true
  | _ => false

/-- Declarations as C has them, with no record defined in place for a member of
    its own name. -/
structure Declarations.Regular (decls : Declarations) : Prop where
  /-- A record is known by a typedef or by its tag. -/
  recordName : ∀ row ∈ decls.records.rows, isTypeName row.1 ∨
    ∃ kind tag, Text.isIdentifier tag ∧ row.1 = (CType.tagged kind tag).spelling
  /-- The types of members are made from C names. -/
  memberType : ∀ row ∈ decls.records.rows, ∀ field ∈ row.2.flattened, field.type.isWellNamed
  /-- A member whose type is defined in place has no name. -/
  memberName : ∀ row ∈ decls.records.rows, ∀ field ∈ row.2.flattened, field.type.isAnonymous →
    field.name = ""
  /-- A typedef has a C name. -/
  typedefName : ∀ row ∈ decls.typedefs.rows, isTypeName row.1
  /-- What a typedef stands for is made from C names. -/
  typedefType : ∀ row ∈ decls.typedefs.rows, row.2.isWellNamed
  /-- No name is that of a record and of a typedef. -/
  apart : ∀ name ∈ decls.records.names, name ∉ decls.typedefs.names
  /-- A typedef is declared after the typedef it is made from. -/
  acyclic : ∃ rank : String → Nat, ∀ row ∈ decls.typedefs.rows, ∀ name ∈ decls.typedefs.names,
    row.2.head? = some name → rank name < rank row.1
  /-- Typedefs do not stand for each other too many times. -/
  short : ∀ row ∈ decls.typedefs.rows, decls.linksWithin aliasLimit (.named row.1)

namespace Declarations

variable {decls : Declarations}

theorem Regular.get?_typedefs_of_record (h : decls.Regular) {name : String} {record : Record}
    (hr : decls.records.get? name = some record) : decls.typedefs.get? name = none := by
  have hm : name ∈ decls.records.names := List.mem_map_of_mem (Table.mem_of_get? hr)
  exact Table.find?_eq_none_iff.2 (h.apart name hm)

theorem Regular.linksWithin (h : decls.Regular) (type : CType) :
    decls.linksWithin aliasLimit type := by
  cases type with
  | named name =>
      cases ht : decls.typedefs.get? name with
      | none => simp only [Declarations.linksWithin, ht]
      | some underlying => exact h.short _ (Table.mem_of_get? ht)
  | _ =>
      rw [Declarations.linksWithin]
      exact fun name h => by cases h

theorem linksWithin_typedef {bound : Nat} {name : String} {underlying : CType}
    (ht : decls.typedefs.get? name = some underlying) (h : decls.linksWithin bound (.named name)) :
    ∃ rest, bound = rest + 1 ∧ decls.linksWithin rest underlying := by
  cases bound with
  | zero => simp [Declarations.linksWithin, ht] at h
  | succ rest =>
      simp [Declarations.linksWithin, ht] at h
      exact ⟨rest, rfl, h⟩

/-- Following a typedef farther than it leads changes nothing. -/
theorem functionPointerWithin_of_linksWithin {bound : Nat} {type : CType}
    (h : decls.linksWithin bound type) :
    decls.functionPointerWithin (bound + 2) type =
      decls.functionPointerWithin (bound + 1) type := by
  induction bound generalizing type with
  | zero =>
      cases type with
      | named name =>
          cases ht : decls.typedefs.get? name with
          | none => rw [functionPointerWithin, functionPointerWithin, ht]; rfl
          | some underlying =>
              rcases linksWithin_typedef ht h with ⟨rest, hb, -⟩
              exact absurd hb (by omega)
      | pointer pointee isConst => cases pointee <;> rfl
      | _ => rfl
  | succ bound ih =>
      cases type with
      | named name =>
          cases ht : decls.typedefs.get? name with
          | none => rw [functionPointerWithin, functionPointerWithin, ht]; rfl
          | some underlying =>
              rcases linksWithin_typedef ht h with ⟨rest, hb, hl⟩
              obtain rfl : bound = rest := by omega
              rw [functionPointerWithin, functionPointerWithin, ht, Option.bind_some,
                Option.bind_some, ih hl]
      | pointer pointee isConst => cases pointee <;> rfl
      | _ => rfl

/-- A typedef of a function pointer is a function pointer, unless it leads too far. -/
theorem functionPointer_typedef {name : String} {underlying : CType}
    (ht : decls.typedefs.get? name = some underlying)
    (h : decls.linksWithin aliasLimit (.named name)) :
    decls.functionPointer (.named name) = decls.functionPointer underlying := by
  rcases linksWithin_typedef ht h with ⟨rest, hb, hl⟩
  have he := functionPointerWithin_of_linksWithin hl
  rw [functionPointer, functionPointer, hb, functionPointerWithin, ht, Option.bind_some, he]

theorem Regular.functionPointer_typedef (h : decls.Regular) {name : String} {underlying : CType}
    (ht : decls.typedefs.get? name = some underlying) :
    decls.functionPointer (.named name) = decls.functionPointer underlying :=
  Declarations.functionPointer_typedef ht (h.linksWithin (.named name))

end Declarations

/-- The members of a convertible record are convertible. -/
theorem ConvertibleBut.members_of_bindable? (hregular : library.decls.Regular) {key : String}
    {record : Record} (hb : library.decls.bindable? type = some (key, record))
    (hs : ¬ (Registry.seeded library.naming).contains type.spelling)
    (h : ConvertibleBut library avoided type) :
    key ∉ avoided ∧ MembersBut library avoided record.flattened := by
  cases h with
  | seeded hc => exact absurd hc hs
  | pointer => cases hb
  | enumeration he =>
      cases type with
      | named name =>
          have hr := Declarations.get?_of_bindable? hb
          have hk := Declarations.spelling_of_bindable? hb
          rw [CType.spelling, CType.spell] at hk
          rw [← hk] at hr
          rw [Declarations.isEnum, aliasLimit, Declarations.isEnumWithin,
            hregular.get?_typedefs_of_record hr] at he
          exact absurd he Bool.false_ne_true
      | tagged kind tag => exact absurd he Bool.false_ne_true
      | _ => cases hb
  | typedef ht _ =>
      have hr := Declarations.get?_of_bindable? hb
      have hk := Declarations.spelling_of_bindable? hb
      rw [CType.spelling, CType.spell] at hk
      rw [← hk] at hr
      rw [hregular.get?_typedefs_of_record hr] at ht
      cases ht
  | array => cases hb
  | record hb' hk hf =>
      rw [hb] at hb'
      rcases Prod.mk.inj (Option.some.inj hb') with ⟨rfl, rfl⟩
      exact ⟨hk, hf⟩

/-- The element of a convertible array is convertible. -/
theorem ConvertibleBut.element {element : CType} {length : Nat}
    (hs : ¬ (Registry.seeded library.naming).contains (CType.array element length).spelling)
    (h : ConvertibleBut library avoided (.array element length)) :
    0 < length ∧ library.decls.isElement element ∧ ConvertibleBut library avoided element := by
  cases h with
  | seeded hc => exact absurd hc hs
  | enumeration he => exact absurd he Bool.false_ne_true
  | array hl hd he => exact ⟨hl, hd, he⟩
  | record hb => cases hb

end ScriptBind
