import ScriptBind.Proofs.Operations
import ScriptBind.Proofs.SoundSessions

/-!
# Libraries Named as in C

What a type is spelled like decides which conversion it gets, so two types that
are spelled alike share one. In C this does no harm, because its names are
identifiers and the types of the language have names of their own. The
libraries here are those: every name is an identifier or, for an arithmetic
type, a name that the language has for it.

Binding does not lead out of such a library, so there is a scope of what is
named as in C. The names that binding makes up itself, for records that are
defined in the place of a member, need not be looked at closely. It is enough
that none of them ends with a star.

Most spellings are told apart by their last characters: a word ends with a word
character, a pointer with a star, an array with a bracket and a pointer to a
function with a parenthesis.

## Main definitions

* `CType.isOfC`: The names in a type are those of C.
* `Declarations.OfC`: So are the names in declarations.
* `Scope.ofC`: The scope of what is named as in C.
* `lastOf`: The last character of a text.

## Theorems

* `contains_seeded_of_identifier`: Arithmetic types whose names are identifiers
  need no conversion to be generated.
* `reachable_sessionAtEnd_ofC`: The end of the module of such a library is
  reachable within its scope.
-/

namespace ScriptBind

mutual

/-- Whether the names in a type are those of C, the members of records defined in
    place included. -/
def CType.isOfC : CType → Bool
  | .void => true
  | .builtin name => arithmeticTypes.contains name
  | .named name => Text.isIdentifier name
  | .tagged _ tag => Text.isIdentifier tag
  | .anonymous ⟨_, _, fields⟩ => areFieldsOfC fields
  | .enumeration tag => Text.isIdentifier tag
  | .pointer pointee _ => pointee.isOfC
  | .array element _ => element.isOfC
  | .function ⟨result, params, _⟩ => result.isOfC && areOfC params

/-- Whether the names in some types are those of C. -/
def areOfC : List CType → Bool
  | [] => true
  | type :: rest => type.isOfC && areOfC rest

/-- Whether the names in the types of members are those of C. -/
def areFieldsOfC : List Field → Bool
  | [] => true
  | ⟨_, type, _⟩ :: rest => type.isOfC && areFieldsOfC rest

end

/-- Declarations in which all names are those of C. -/
structure Declarations.OfC (decls : Declarations) : Prop where
  /-- A record is known by a name or by its tag. -/
  recordName : ∀ row ∈ decls.records.rows, Text.isIdentifier row.1 ∨
    ∃ kind tag, Text.isIdentifier tag ∧ row.1 = (CType.tagged kind tag).spelling
  /-- The types of members. -/
  memberType : ∀ row ∈ decls.records.rows, areFieldsOfC row.2.fields
  /-- The names of typedefs. -/
  typedefName : ∀ row ∈ decls.typedefs.rows, Text.isIdentifier row.1
  /-- What typedefs stand for. -/
  typedefType : ∀ row ∈ decls.typedefs.rows, row.2.isOfC
  /-- What functions return and take. -/
  functionType : ∀ function ∈ decls.functions,
    function.result.isOfC ∧ ∀ param ∈ function.params, param.type.isOfC
  /-- The types of variables. -/
  globalType : ∀ global ∈ decls.globals, global.type.isOfC

/-- Declarations in which all records and typedefs have names. -/
theorem Declarations.OfC.of_identifiers {decls : Declarations}
    (hrecord : ∀ row ∈ decls.records.rows, Text.isIdentifier row.1 ∧ areFieldsOfC row.2.fields)
    (htypedef : ∀ row ∈ decls.typedefs.rows, Text.isIdentifier row.1 ∧ row.2.isOfC)
    (hfunction : ∀ function ∈ decls.functions,
      function.result.isOfC ∧ ∀ param ∈ function.params, param.type.isOfC)
    (hglobal : ∀ global ∈ decls.globals, global.type.isOfC) : decls.OfC where
  recordName := fun row hm => .inl (hrecord row hm).1
  memberType := fun row hm => (hrecord row hm).2
  typedefName := fun row hm => (htypedef row hm).1
  typedefType := fun row hm => (htypedef row hm).2
  functionType := hfunction
  globalType := hglobal

theorem isOfC_of_mem {types : List CType} (h : areOfC types) {type : CType} (hm : type ∈ types) :
    type.isOfC := by
  induction types with
  | nil => cases hm
  | cons first rest ih =>
      rw [areOfC, Bool.and_eq_true] at h
      rcases List.mem_cons.1 hm with rfl | hr
      · exact h.1
      · exact ih h.2 hr

mutual

/-- A member is as its record, and so is a member of a nameless member. -/
theorem isOfC_of_mem_flattenAll : ∀ fields : List Field, areFieldsOfC fields →
    ∀ field ∈ Record.flattenAll fields, field.type.isOfC
  | [] => by
    intro _ field hf
    rw [Record.flattenAll] at hf
    cases hf
  | ⟨name, type, width⟩ :: rest => by
    intro h field hf
    rw [areFieldsOfC, Bool.and_eq_true] at h
    rw [Record.flattenAll] at hf
    rcases List.mem_append.1 hf with ho | hr
    · exact isOfC_of_mem_flattenOne ⟨name, type, width⟩ h.1 field ho
    · exact isOfC_of_mem_flattenAll rest h.2 field hr

theorem isOfC_of_mem_flattenOne : ∀ field : Field, field.type.isOfC →
    ∀ other ∈ Record.flattenOne field, other.type.isOfC
  | ⟨name, type, width⟩ => by
    intro h other ho
    cases type with
    | anonymous record =>
        obtain ⟨inner, kind, fields⟩ := record
        rw [Record.flattenOne] at ho
        split at ho
        · rw [CType.isOfC] at h
          exact isOfC_of_mem_flattenAll fields h other ho
        · rwa [List.mem_singleton.1 ho]
    | _ =>
        rw [Record.flattenOne] at ho
        · rwa [List.mem_singleton.1 ho]
        · exact fun _ _ _ _ _ h => by cases h

end

/-- The last character of a text. -/
def lastOf (text : String) : Option Char := (fromEnd text).head?

section LastCharacters

theorem lastOf_append (front : String) {back : String} (h : lastOf back ≠ none) :
    lastOf (front ++ back) = lastOf back := by
  unfold lastOf at h ⊢
  rw [fromEnd_append]
  cases hb : fromEnd back with
  | nil => exact absurd (by rw [hb]; rfl) h
  | cons c rest => rfl

theorem lastOf_identifier {text : String} (h : Text.isIdentifier text) :
    ∃ c, lastOf text = some c ∧ Text.isWordChar c := by
  obtain ⟨hne, hall⟩ := isWordChar_of_isIdentifier h
  cases he : fromEnd text with
  | nil => exact absurd (List.reverse_eq_nil_iff.1 he) hne
  | cons c rest =>
      refine ⟨c, by rw [lastOf, he]; rfl, hall c (List.mem_reverse.1 ?_)⟩
      rw [← fromEnd, he]
      exact List.mem_cons_self ..

theorem lastOf_keyed (keyword : String) {tag : String} (h : Text.isIdentifier tag) :
    ∃ c, lastOf (keyword ++ tag) = some c ∧ Text.isWordChar c := by
  obtain ⟨c, hc, hw⟩ := lastOf_identifier h
  exact ⟨c, by rw [lastOf_append _ (by rw [hc]; exact Option.some_ne_none c), hc], hw⟩

theorem lastOf_enumeration {tag : String} (h : (CType.enumeration tag).isOfC) :
    ∃ c, lastOf (CType.enumeration tag).spelling = some c ∧ Text.isWordChar c := by
  rw [CType.isOfC] at h
  rw [spelling_enumeration]
  exact lastOf_keyed "enum " h

theorem lastOf_star (text : String) : lastOf (text ++ " *") = some '*' :=
  lastOf_append text (by decide)

theorem lastOf_array {element : CType} {key : String} (h : IsArrayKey element key) :
    lastOf key = some ']' := by
  rcases h with ⟨length, rfl⟩ | rfl
  · rw [lastOf, fromEnd_array]
    rfl
  · exact lastOf_append _ (by decide)

/-- A type that is a callback is not spelled like a word or a pointer. -/
theorem lastOf_callback {decls : Declarations} {pointee : CType} {isConst : Bool}
    {signature : Signature}
    (h : decls.functionPointer (.pointer pointee isConst) = some signature) :
    lastOf (CType.pointer pointee isConst).spelling = some ')' := by
  cases pointee with
  | function other => rw [lastOf, fromEnd_pointer_function]; rfl
  | _ => cases h

theorem lastOf_pointer {pointee : CType} (h : pointee.isFunction = false) (isConst : Bool) :
    lastOf (CType.pointer pointee isConst).spelling = some '*' := by
  rw [lastOf]
  rcases fromEnd_pointer h isConst with he | he
  · rw [he]
    rfl
  · rw [he]
    rfl

/-- A type of C that is spelled by words is spelled by words only. -/
theorem isWords_ofC {type : CType} (hw : type.isWord) (h : type.isOfC) :
    isWords (fromEnd type.spelling) := by
  cases type with
  | void => exact isWords_spelling hw (by rw [CType.isWellNamed])
  | named name =>
      rw [CType.isOfC] at h
      have hname : isWords (fromEnd name ++ []) := isWords_identifier h rfl
      rwa [spelling_named, ← List.append_nil (fromEnd name)]
  | anonymous => exact absurd hw (by simp [CType.isWord])
  | pointer => exact absurd hw (by simp [CType.isWord])
  | array => exact absurd hw (by simp [CType.isWord])
  | function => exact absurd hw (by simp [CType.isWord])
  -- Other words are those that well-named types have.
  | _ =>
      rw [CType.isOfC] at h
      exact isWords_spelling hw (by rwa [CType.isWellNamed])

/-- The last character of a spelling is the ending of the type, or else a word character. -/
theorem lastOf_spelling {type : CType} (h : type.isOfC) :
    ∃ c, lastOf type.spelling = some c ∧
      type.ending = if Text.isWordChar c then none else some c := by
  obtain ⟨c, rest, he, hc⟩ := ending_of_words fun hw => isWords_ofC hw h
  exact ⟨c, by rw [lastOf, he]; rfl, hc⟩

theorem endsWithStar_of_lastOf {text : String} (h : lastOf text ≠ some '*') :
    endsWithStar text = false := by
  rw [lastOf, fromEnd, List.head?_reverse] at h
  exact beq_eq_false_iff_ne.2 h

/-- What does not end with a star is not a pointer. -/
theorem ne_star_of_lastOf {text : String} {c : Char} (h : lastOf text = some c) (hc : c ≠ '*')
    (pointee : String) : text ≠ pointee ++ " *" := by
  rintro rfl
  rw [lastOf_star] at h
  exact hc (Option.some.inj h).symm

theorem ne_star_of_isWordChar {c : Char} (h : Text.isWordChar c) : c ≠ '*' := by
  rintro rfl
  exact absurd h (by decide)

theorem endsWithStar_of_isWordChar {text : String}
    (h : ∃ c, lastOf text = some c ∧ Text.isWordChar c) : endsWithStar text = false := by
  obtain ⟨c, hc, hw⟩ := h
  refine endsWithStar_of_lastOf fun hl => ?_
  rw [hc] at hl
  exact ne_star_of_isWordChar hw (Option.some.inj hl)

/-- What does not end with a bracket is not an array type. -/
theorem ne_array_of_lastOf {text : String} {c : Char} (h : lastOf text = some c) (hc : c ≠ ']')
    (element : CType) (length : Nat) : text ≠ (CType.array element length).spelling := by
  rintro rfl
  rw [lastOf_array (.inl ⟨length, rfl⟩)] at h
  exact hc (Option.some.inj h).symm

/-- What a pointer with a blank before its star points to. -/
theorem spelling_of_star {pointee : CType} (h : pointee.isFunction = false) {isConst : Bool}
    {key : String} (hk : endsWithStar key = false)
    (hs : (CType.pointer pointee isConst).spelling = key ++ " *") : pointee.spelling = key := by
  have hstar : starAfter key = key ++ " *" := by
    rw [starAfter, if_neg]
    rw [endsWithStar, beq_eq_false_iff_ne] at hk
    exact hk
  rw [spelling_pointer h, ← hstar] at hs
  exact starAfter_injective hs

end LastCharacters

namespace Declarations

variable {decls : Declarations}

/-- The spelling of a record ends with a word character. -/
theorem OfC.lastOf_record (h : decls.OfC) {key : String} {record : Record}
    (hr : decls.records.get? key = some record) :
    ∃ c, lastOf key = some c ∧ Text.isWordChar c := by
  obtain hn | ⟨kind, tag, ht, rfl⟩ := h.recordName _ (Table.mem_of_get? hr)
  · exact lastOf_identifier hn
  · rw [CType.spelling, CType.spell]
    exact lastOf_keyed _ ht

theorem OfC.endsWithStar_record (h : decls.OfC) {key : String} {record : Record}
    (hr : decls.records.get? key = some record) : endsWithStar key = false :=
  endsWithStar_of_isWordChar (h.lastOf_record hr)

/-- What does not end with a word character is not spelled like a record. -/
theorem OfC.ne_of_lastOf (h : decls.OfC) {key : String} {record : Record}
    (hr : decls.records.get? key = some record) {text : String} {c : Char}
    (hl : lastOf text = some c) (hc : Text.isWordChar c = false) : text ≠ key := by
  rintro rfl
  obtain ⟨d, hd, hword⟩ := h.lastOf_record hr
  rw [hl] at hd
  rw [← Option.some.inj hd, hc] at hword
  cases hword

/-- So does the name of a typedef. -/
theorem OfC.lastOf_typedef (h : decls.OfC) {name : String} {underlying : CType}
    (ht : decls.typedefs.get? name = some underlying) :
    ∃ c, lastOf name = some c ∧ Text.isWordChar c :=
  lastOf_identifier (h.typedefName _ (Table.mem_of_get? ht))

theorem OfC.endsWithStar_typedef (h : decls.OfC) {name : String} {underlying : CType}
    (ht : decls.typedefs.get? name = some underlying) : endsWithStar name = false :=
  endsWithStar_of_isWordChar (h.lastOf_typedef ht)

/-- What does not end with a word character is not the name of a typedef. -/
theorem OfC.get?_typedefs_of_lastOf (h : decls.OfC) {text : String} {c : Char}
    (hl : lastOf text = some c) (hc : Text.isWordChar c = false) :
    decls.typedefs.get? text = none := by
  refine Option.eq_none_iff_forall_ne_some.2 fun underlying ht => ?_
  obtain ⟨d, hd, hword⟩ := h.lastOf_typedef ht
  rw [hl] at hd
  rw [← Option.some.inj hd, hc] at hword
  cases hword

end Declarations

theorem endsWithStar_memberTypeName (owner field : String) :
    endsWithStar (memberTypeName owner field) = false := by
  refine endsWithStar_of_lastOf ?_
  have hlast : lastOf (memberTypeName owner field) = lastOf "_t" := lastOf_append _ (by decide)
  rw [hlast]
  decide

/-- The scope of what is named as in C. -/
def Scope.ofC {library : Library} (h : library.decls.OfC) : Scope library where
  types := fun type => type.isOfC
  records := fun key record => endsWithStar key = false ∧ areFieldsOfC record.fields
  pointee := fun ht => by rwa [CType.isOfC] at ht
  element := fun ht => by rwa [CType.isOfC] at ht
  result := fun {signature} ht => by
    obtain ⟨result, params, isVariadic⟩ := signature
    rw [CType.isOfC, Bool.and_eq_true] at ht
    exact ht.1
  param := fun {signature} _ ht hm => by
    obtain ⟨result, params, isVariadic⟩ := signature
    rw [CType.isOfC, Bool.and_eq_true] at ht
    exact isOfC_of_mem ht.2 hm
  typedef := fun ht => h.typedefType _ (Table.mem_of_get? ht)
  declared := fun hr => ⟨h.endsWithStar_record hr, h.memberType _ (Table.mem_of_get? hr)⟩
  cell := by decide
  member := fun hr hm _ => isOfC_of_mem_flattenAll _ hr.2 _ hm
  nested := fun {_ _ inner _} hr hm _ ht => by
    refine ⟨endsWithStar_memberTypeName _ _, ?_⟩
    have hanonymous := isOfC_of_mem_flattenAll _ hr.2 _ hm
    obtain ⟨name, kind, fields⟩ := inner
    rwa [ht, CType.isOfC] at hanonymous

/-- The end of the module of a library named as in C is reachable within its
    scope. -/
theorem reachable_sessionAtEnd_ofC {decls : Declarations} {options : Options}
    (h : (libraryOf decls options).decls.OfC) :
    (sessionAtEnd decls options).Reachable (Scope.ofC h) := by
  refine Session.reachable_sessionAtEnd (fun function hm => ?_) h.globalType
  obtain ⟨hresult, hparam⟩ := h.functionType function hm
  exact ⟨hresult, hparam⟩

section Seeds

/-- Arithmetic types whose names are identifiers need no conversion to be
    generated. -/
theorem contains_seeded_of_identifier (naming : Naming) {name : String}
    (hn : name ∈ arithmeticTypes) (hi : Text.isIdentifier name) :
    (Registry.seeded naming).contains name := by
  have hnames : ∀ name ∈ arithmeticTypes, Text.isIdentifier name →
      name ∈ ["bool", "_Bool"] ∨ name ∈ Registry.signedTypes ∨ name ∈ ["float", "double"] := by
    decide
  have hrow : ∃ conversion, (name, conversion) ∈ Registry.seeds naming := by
    rw [Registry.seeds]
    rcases hnames name hn hi with hb | hs | hf
    · refine ⟨.between "mp_obj_is_true" "convert_to_bool", ?_⟩
      rcases List.mem_cons.1 hb with rfl | hb
      · simp
      · rw [List.mem_singleton.1 hb]
        simp
    · refine ⟨_, List.mem_append_left _ (List.mem_append_right _ (List.mem_map_of_mem hs))⟩
    · exact ⟨_, List.mem_append_right _ (List.mem_map_of_mem hf)⟩
  obtain ⟨conversion, hrow⟩ := hrow
  exact Table.contains_ofFirstRows hrow

theorem contains_seeded_void (naming : Naming) : (Registry.seeded naming).contains "void *" := by
  have hrow : ("void *", .untyped) ∈ Registry.seeds naming := by simp [Registry.seeds]
  exact Table.contains_ofFirstRows hrow

end Seeds

namespace Declarations

variable {decls : Declarations}

theorem OfC.ne_enumeration (h : decls.OfC) {key : String} {record : Record}
    (hr : decls.records.get? key = some record) (tag : String) :
    (CType.enumeration tag).spelling ≠ key := by
  rintro rfl
  obtain hn | ⟨kind, other, -, he⟩ := h.recordName _ (Table.mem_of_get? hr)
  · exact ne_keyed_of_isIdentifier hn "enum" tag (by rw [CType.spelling, CType.spell]; rfl)
  · have hkeyword : kind.keyword ∈ tagKeywords ∧ "enum" ≠ kind.keyword := by
      cases kind <;> decide
    have hsame : "enum" ++ " " ++ tag = kind.keyword ++ " " ++ other := by
      rw [CType.spelling, CType.spell, CType.spelling, CType.spell] at he
      exact he
    exact hkeyword.2 (eq_of_keyed (by decide) hkeyword.1 hsame).1

theorem OfC.ne_arithmetic (h : decls.OfC) {key : String} {record : Record}
    (hr : decls.records.get? key = some record) {naming : Naming}
    (hk : (Registry.seeded naming).contains key = false) : key ∉ arithmeticTypes := by
  intro hm
  obtain hn | ⟨kind, tag, -, rfl⟩ := h.recordName _ (Table.mem_of_get? hr)
  · rw [contains_seeded_of_identifier naming hm hn] at hk
    cases hk
  · have hkeyword : kind.keyword ∈ tagKeywords := by cases kind <;> decide
    exact ne_keyed_of_arithmetic hm hkeyword tag (by rw [CType.spelling, CType.spell])

/-- A type that is spelled like a record names it, unless the conversions of
    both or of pointers to both need not be generated. -/
theorem OfC.bindable_of_spelling (h : decls.OfC) {type : CType} {key : String} {record : Record}
    (ht : type.isOfC) (hr : decls.records.get? key = some record) (hs : type.spelling = key)
    {naming : Naming} (hk : (Registry.seeded naming).contains key = false)
    (hp : (Registry.seeded naming).contains (key ++ " *") = false) :
    decls.bindable? type = some (key, record) := by
  cases type with
  | void =>
      rw [← hs] at hp
      exact absurd (contains_seeded_void naming) (by rw [← Bool.not_eq_true] at hp; exact hp)
  | builtin name =>
      rw [CType.isOfC, List.contains_iff_mem] at ht
      rw [CType.spelling, CType.spell] at hs
      exact absurd (hs ▸ ht) (h.ne_arithmetic hr hk)
  | named name =>
      obtain rfl : name = key := by rw [← hs, CType.spelling, CType.spell]
      rw [bindable?, hr, Option.map_some]
  | tagged kind tag =>
      rw [bindable?]
      rw [hs, hr, Option.map_some]
  | enumeration tag => exact absurd hs (h.ne_enumeration hr tag)
  | _ =>
      -- What is no word ends differently.
      obtain ⟨c, hlast, hend⟩ := lastOf_spelling ht
      cases hword : Text.isWordChar c with
      | false => exact absurd hs (h.ne_of_lastOf hr hlast hword)
      | true =>
          rw [hword, if_pos rfl] at hend
          cases hend

end Declarations

end ScriptBind
