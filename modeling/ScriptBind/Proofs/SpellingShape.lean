import ScriptBind.Proofs.BalancedSpellings

/-!
# What a Spelling Tells

Conversions are found by the spelling of a type, and different types can have
the same spelling: a pointer does not show whether its pointee is constant, and
a record defined in place does not show its members. `Alike` says what a
spelling does tell of a type whose names are C names. It is enough to know
whether the type has a conversion.

Most of it can be read off the last character. A word ends the spelling of a
type with a name, a star that of a pointer, a bracket that of an array and a
parenthesis that of a function or a pointer to one. These two are told apart by
what stands in front of their parameters.

## Main definitions

* `CType.Alike`: What types of the same spelling have in common.
* `CType.ending`: The character that ends the spelling of a type.

## Theorems

* `ending_of_spelling`: Types of the same spelling end in the same way.
* `alike_of_spelling`: Types of the same spelling are alike.
* `ConvertibleBut.of_spelling`: Types of the same spelling are convertible or not
  together.
-/

namespace ScriptBind

theorem isFunction_of_bindable? {decls : Declarations} {type : CType} {found : String × Record}
    (h : decls.bindable? type = some found) : type.isFunction = false := by
  cases type with
  | function signature => cases h
  | _ => rfl

theorem isFunction_of_functionPointer {decls : Declarations} {pointee : CType} {isConst : Bool}
    (h : decls.functionPointer (.pointer pointee isConst) = none) : pointee.isFunction = false := by
  cases pointee with
  | function signature => cases h
  | _ => rfl

/-- What types of the same spelling have in common. -/
inductive CType.Alike : CType → CType → Prop
  /-- They are the same type. -/
  | same (type : CType) : Alike type type
  /-- They are pointers, to a function or not. -/
  | pointers {pointee pointee' : CType} (h : pointee.isFunction = pointee'.isFunction)
      (isConst isConst' : Bool) : Alike (.pointer pointee isConst) (.pointer pointee' isConst')
  /-- They are functions. -/
  | functions (signature signature' : Signature) :
      Alike (.function signature) (.function signature')
  /-- They are arrays of a length, and their elements have the same spelling. -/
  | arrays {element element' : CType} (h : element.spelling = element'.spelling) (length : Nat) :
      Alike (.array element length) (.array element' length)
  /-- They are records defined in place. -/
  | anonymous (record record' : Record) : Alike (.anonymous record) (.anonymous record')

/-- The character that ends the spelling of a type, unless that is a word. -/
def CType.ending : CType → Option Char
  | .anonymous _ => some '>'
  | .pointer pointee _ => some (if pointee.isFunction then ')' else '*')
  | .array _ _ => some ']'
  | .function _ => some ')'
  | _ => none

/-- The last character of a spelling is the ending of the type, or else a word
    character, provided that words are words. -/
theorem ending_of_words {type : CType} (h : type.isWord → isWords (fromEnd type.spelling)) :
    ∃ c rest, fromEnd type.spelling = c :: rest ∧
      type.ending = if Text.isWordChar c then none else some c := by
  by_cases hw : type.isWord
  · rcases exists_of_isWords (h hw) with ⟨c, rest, he, hc⟩
    refine ⟨c, rest, he, ?_⟩
    rw [if_pos hc]
    cases type <;> first | rfl | exact absurd hw (by simp [CType.isWord])
  · cases type with
    | anonymous record =>
        obtain ⟨name, kind, fields⟩ := record
        refine ⟨'>', fromEnd " <anonymous" ++ fromEnd kind.keyword, ?_, rfl⟩
        rw [CType.spelling, CType.spell, fromEnd_append]
        rfl
    | pointer pointee isConst =>
        cases hf : pointee.isFunction with
        | false =>
            have hend : (CType.pointer pointee isConst).ending = some '*' := by
              rw [CType.ending, hf, if_neg Bool.false_ne_true]
            exact (fromEnd_pointer hf isConst).elim (fun he => ⟨'*', _, he, hend⟩)
              fun he => ⟨'*', _, he, hend⟩
        | true =>
            cases pointee with
            | function signature => exact ⟨')', _, fromEnd_pointer_function signature isConst, rfl⟩
            | _ => exact absurd hf (by simp [CType.isFunction])
    | array element length => exact ⟨']', _, fromEnd_array element length, rfl⟩
    | function signature => exact ⟨')', _, fromEnd_function signature, rfl⟩
    | _ => exact absurd rfl hw

theorem ending_eq {type : CType} (h : type.isWellNamed) :
    ∃ c rest, fromEnd type.spelling = c :: rest ∧
      type.ending = if Text.isWordChar c then none else some c :=
  ending_of_words fun hw => isWords_spelling hw h

/-- Types of the same spelling end in the same way. -/
theorem ending_of_spelling {type type' : CType} (h : type.isWellNamed) (h' : type'.isWellNamed)
    (hs : type.spelling = type'.spelling) : type.ending = type'.ending := by
  rcases ending_eq h with ⟨c, rest, he, hc⟩
  rcases ending_eq h' with ⟨c', rest', he', hc'⟩
  rw [hs, he', List.cons.injEq] at he
  rw [hc, hc', he.1]

/-- The words that stand before tags. -/
def tagKeywords : List String := ["struct", "union", "enum"]

/-- A text is read in only one way as a keyword and a tag. -/
theorem eq_of_keyed {keyword keyword' tag tag' : String} (hk : keyword ∈ tagKeywords)
    (hk' : keyword' ∈ tagKeywords) (h : keyword ++ " " ++ tag = keyword' ++ " " ++ tag') :
    keyword = keyword' ∧ tag = tag' := by
  have hwords : tagKeywords.all fun keyword => keyword.toList.all (· != ' ') := by decide
  have hword : ∀ keyword ∈ tagKeywords, ∀ c ∈ keyword.toList, (c != ' ') = true := fun keyword hm =>
    List.all_eq_true.1 (List.all_eq_true.1 hwords keyword hm)
  have hl := congrArg String.toList h
  simp only [String.toList_append, List.append_assoc] at hl
  have hdrop := congrArg (List.dropWhile (· != ' ')) hl
  have htake := congrArg (List.takeWhile (· != ' ')) hl
  rw [List.dropWhile_append_of_pos (hword _ hk),
    List.dropWhile_append_of_pos (hword _ hk')] at hdrop
  rw [List.takeWhile_append_of_pos (hword _ hk),
    List.takeWhile_append_of_pos (hword _ hk')] at htake
  exact ⟨by simpa [String.toList_inj] using htake, by simpa [String.toList_inj] using hdrop⟩

/-- An identifier has no blank. -/
theorem ne_keyed_of_isIdentifier {text : String} (h : Text.isIdentifier text)
    (keyword tag : String) : text ≠ keyword ++ " " ++ tag := by
  rintro rfl
  have hblank : ' ' ∈ (keyword ++ " " ++ tag).toList := by simp
  exact absurd ((isWordChar_of_isIdentifier h).2 ' ' hblank) (by decide)

theorem ne_keyed_of_arithmetic {name keyword : String} (hn : name ∈ arithmeticTypes)
    (hk : keyword ∈ tagKeywords) (tag : String) : name ≠ keyword ++ " " ++ tag := by
  rintro rfl
  have hall : ∀ name ∈ arithmeticTypes, ∀ keyword ∈ tagKeywords,
      ¬ keyword.toList ++ [' '] <+: name.toList := by decide
  refine hall _ hn keyword hk ?_
  rw [String.toList_append, String.toList_append]
  exact List.prefix_append ..

/-- The keyword and the name that a type is spelled by. -/
def CType.words : CType → Option String × String
  | .void => (none, "void")
  | .builtin name => (none, name)
  | .named name => (none, name)
  | .tagged kind tag => (some kind.keyword, tag)
  | .enumeration tag => (some "enum", tag)
  | _ => (none, "")

theorem mem_tagKeywords {type : CType} {keyword tag : String}
    (h : type.words = (some keyword, tag)) : keyword ∈ tagKeywords := by
  cases type with
  | tagged kind tag =>
      rw [← Option.some.inj (Prod.mk.inj h).1]
      cases kind <;> decide
  | enumeration tag =>
      rw [← Option.some.inj (Prod.mk.inj h).1]
      decide
  | _ => exact absurd (Prod.mk.inj h).1 (by simp)

theorem spelling_of_words_some {type : CType} {keyword tag : String}
    (h : type.words = (some keyword, tag)) : type.spelling = keyword ++ " " ++ tag := by
  cases type with
  | tagged kind tag =>
      rw [← Option.some.inj (Prod.mk.inj h).1, ← (Prod.mk.inj h).2, CType.spelling, CType.spell]
  | enumeration tag =>
      rw [← Option.some.inj (Prod.mk.inj h).1, ← (Prod.mk.inj h).2, CType.spelling, CType.spell]
      rfl
  | _ => exact absurd (Prod.mk.inj h).1 (by simp)

/-- A type without a keyword is spelled by its name, which is not mistaken for a
    keyword and a tag. -/
theorem spelling_of_words_none {type : CType} {name : String} (hw : type.isWord)
    (h : type.isWellNamed) (hn : type.words = (none, name)) :
    type.spelling = name ∧ ∀ keyword ∈ tagKeywords, ∀ tag, name ≠ keyword ++ " " ++ tag := by
  cases type with
  | void =>
      rw [← (Prod.mk.inj hn).2]
      exact ⟨by rw [CType.spelling, CType.spell], fun keyword _ tag =>
        ne_keyed_of_isIdentifier (by decide) _ _⟩
  | builtin text =>
      rw [← (Prod.mk.inj hn).2]
      rw [CType.isWellNamed, List.contains_iff_mem] at h
      exact ⟨by rw [CType.spelling, CType.spell], fun keyword hk tag =>
        ne_keyed_of_arithmetic h hk tag⟩
  | named text =>
      rw [← (Prod.mk.inj hn).2]
      rw [CType.isWellNamed, isTypeName, Bool.and_eq_true] at h
      exact ⟨by rw [CType.spelling, CType.spell], fun keyword _ tag =>
        ne_keyed_of_isIdentifier h.1 _ _⟩
  | tagged kind tag => exact absurd (Prod.mk.inj hn).1 (by simp)
  | enumeration tag => exact absurd (Prod.mk.inj hn).1 (by simp)
  | _ => exact absurd hw (by simp [CType.isWord])

theorem eq_of_words {type type' : CType} (hw : type.isWord) (hw' : type'.isWord)
    (h : type.isWellNamed) (h' : type'.isWellNamed) (hs : type.words = type'.words) :
    type = type' := by
  have hvoid : "void" ∉ arithmeticTypes := by decide
  have hkind : ∀ kind : RecordKind, "enum" ≠ kind.keyword := by intro kind; cases kind <;> decide
  have hkinds : ∀ kind kind' : RecordKind, kind.keyword = kind'.keyword → kind = kind' := by
    intro kind kind'
    cases kind <;> cases kind' <;> decide
  cases type <;> cases type' <;>
    simp_all [CType.isWord, CType.words, CType.isWellNamed, isTypeName]
  · exact hkinds _ _ hs.1
  · exact absurd hs.1.symm (hkind _)

/-- The spelling of a type with a name is the name, after a keyword if the name
    is a tag. -/
theorem eq_of_spelling_word {type type' : CType} (hw : type.isWord) (hw' : type'.isWord)
    (h : type.isWellNamed) (h' : type'.isWellNamed) (hs : type.spelling = type'.spelling) :
    type = type' := by
  refine eq_of_words hw hw' h h' ?_
  rcases hn : type.words with ⟨keyword, name⟩
  rcases hn' : type'.words with ⟨keyword', name'⟩
  cases keyword with
  | none =>
      rcases spelling_of_words_none hw h hn with ⟨he, hne⟩
      cases keyword' with
      | none => rw [← he, hs, (spelling_of_words_none hw' h' hn').1]
      | some keyword' =>
          rw [he, spelling_of_words_some hn'] at hs
          exact absurd hs (hne keyword' (mem_tagKeywords hn') name')
  | some keyword =>
      have he := spelling_of_words_some hn
      cases keyword' with
      | none =>
          rcases spelling_of_words_none hw' h' hn' with ⟨he', hne'⟩
          rw [he, he'] at hs
          exact absurd hs.symm (hne' keyword (mem_tagKeywords hn) name)
      | some keyword' =>
          rw [he, spelling_of_words_some hn'] at hs
          rcases eq_of_keyed (mem_tagKeywords hn) (mem_tagKeywords hn') hs with ⟨rfl, rfl⟩
          rfl

/-- A text that ends with a number can be cut in front of it, if the character
    that stands there is not a digit. -/
theorem eq_of_numbered {stop : Char} {front front' : List Char} {number number' : Nat}
    (hs : stop.isDigit = false)
    (h : (Nat.toDigits 10 number).reverse ++ stop :: front =
      (Nat.toDigits 10 number').reverse ++ stop :: front') :
    number = number' ∧ front = front' := by
  have hdigits : ∀ n : Nat, ∀ c ∈ (Nat.toDigits 10 n).reverse, (c != stop) = true := by
    intro n c hc
    have hd := Nat.isDigit_of_mem_toDigits (by decide) (by decide) (List.mem_reverse.1 hc)
    rw [bne_iff_ne]
    rintro rfl
    rw [hs] at hd
    cases hd
  have hdrop := congrArg (List.dropWhile (· != stop)) h
  have htake := congrArg (List.takeWhile (· != stop)) h
  rw [List.dropWhile_append_of_pos (hdigits _), List.dropWhile_append_of_pos (hdigits _)] at hdrop
  rw [List.takeWhile_append_of_pos (hdigits _), List.takeWhile_append_of_pos (hdigits _)] at htake
  constructor
  · have hd : Nat.toDigits 10 number = Nat.toDigits 10 number' := by simpa using htake
    rw [← Nat.ofDigitChars_toDigits (b := 10) (n := number) (by decide) (by decide), hd,
      Nat.ofDigitChars_toDigits (by decide) (by decide)]
  · simpa using hdrop

/-- Arrays of the same spelling have the same length and elements of the same
    spelling. -/
theorem eq_of_spelling_array {element element' : CType} {length length' : Nat}
    (hs : (CType.array element length).spelling = (CType.array element' length').spelling) :
    length = length' ∧ element.spelling = element'.spelling := by
  have he : fromEnd (CType.array element length).spelling =
      fromEnd (CType.array element' length').spelling := by rw [hs]
  rw [fromEnd_array, fromEnd_array, List.cons.injEq] at he
  obtain ⟨hlength, hfront⟩ := eq_of_numbered (by decide) he.2
  exact ⟨hlength, fromEnd_injective (by simpa using hfront)⟩

theorem isWord_iff {type : CType} : type.isWord ↔ type.ending = none := by
  cases type <;> simp [CType.isWord, CType.ending]

theorem ending_pointer_ne {pointee : CType} {isConst : Bool} {c : Char} (hp : c ≠ ')')
    (hs : c ≠ '*') : (CType.pointer pointee isConst).ending ≠ some c := by
  rw [CType.ending]
  split
  · simpa using hp.symm
  · simpa using hs.symm

/-- A function is not spelled like a pointer to a function. -/
theorem spelling_function_ne_pointer {signature : Signature} {pointee : CType}
    {isConst : Bool} (h : (CType.function signature).isWellNamed)
    (h' : (CType.pointer pointee isConst).isWellNamed) :
    (CType.function signature).spelling ≠ (CType.pointer pointee isConst).spelling := by
  intro hs
  cases hf : pointee.isFunction with
  | false =>
      have hend := ending_of_spelling h h' hs
      rw [CType.ending, CType.ending, hf] at hend
      exact absurd hend (by decide)
  | true =>
      cases pointee with
      | function signature' =>
          rw [CType.isWellNamed] at h'
          have hb := beforeGroup_function h
          rw [hs, beforeGroup_pointer h', List.cons.injEq] at hb
          exact absurd hb.1 (by decide)
      | _ => exact absurd hf (by simp [CType.isFunction])

theorem starAfter_injective {text text' : String} (h : starAfter text = starAfter text') :
    text = text' := by
  -- A text that is followed by the star alone ends with a star itself.
  have hmixed : ∀ {text text' : String}, text.toList.getLast? = some '*' →
      text ++ "*" ≠ text' ++ " *" := by
    intro text text' hstar he
    have hlists := congrArg String.toList he
    rw [String.toList_append, String.toList_append] at hlists
    have hfront : text.toList = text'.toList ++ [' '] := by
      have hdrop := congrArg List.dropLast hlists
      simpa using hdrop
    rw [hfront, List.getLast?_append] at hstar
    exact absurd (Option.some.inj hstar) (by decide)
  unfold starAfter at h
  split at h
  · next hl =>
    split at h
    · exact (String.append_left_inj _).1 h
    · exact absurd h (hmixed hl)
  · split at h
    · next hr => exact absurd h.symm (hmixed hr)
    · exact (String.append_left_inj _).1 h

theorem spelling_named (name : String) : (CType.named name).spelling = name := by
  rw [CType.spelling, CType.spell]

theorem spelling_enumeration (tag : String) :
    (CType.enumeration tag).spelling = "enum " ++ tag := by
  rw [CType.spelling, CType.spell]

theorem spelling_pointer {pointee : CType} (h : pointee.isFunction = false) (isConst : Bool) :
    (CType.pointer pointee isConst).spelling = starAfter pointee.spelling := by
  cases pointee with
  | function signature => exact absurd h (by simp [CType.isFunction])
  | _ => simp [CType.spelling, CType.spell]

/-- Types of the same spelling are alike. -/
theorem alike_of_spelling {type type' : CType} (h : type.isWellNamed) (h' : type'.isWellNamed)
    (hs : type.spelling = type'.spelling) : type.Alike type' := by
  have hend := ending_of_spelling h h' hs
  by_cases hw : type.isWord
  · have hw' : type'.isWord := isWord_iff.2 (hend ▸ isWord_iff.1 hw)
    rw [eq_of_spelling_word hw hw' h h' hs]
    exact .same _
  -- The endings tell the other kinds apart, except for functions and pointers to them.
  cases type with
  | anonymous record =>
      cases type' with
      | anonymous record' => exact .anonymous record record'
      | pointer pointee isConst =>
          exact absurd hend.symm (ending_pointer_ne (by decide) (by decide))
      | _ => exact absurd hend (by simp [CType.ending])
  | pointer pointee isConst =>
      cases type' with
      | pointer pointee' isConst' =>
          refine .pointers ?_ isConst isConst'
          cases hf : pointee.isFunction <;> cases hf' : pointee'.isFunction <;>
            simp_all [CType.ending]
      | function signature => exact absurd hs.symm (spelling_function_ne_pointer h' h)
      | anonymous record => exact absurd hend (ending_pointer_ne (by decide) (by decide))
      | array element length => exact absurd hend (ending_pointer_ne (by decide) (by decide))
      | _ => exact absurd hend (by simp [CType.ending])
  | array element length =>
      cases type' with
      | array element' length' =>
          rcases eq_of_spelling_array hs with ⟨rfl, he⟩
          exact .arrays he length
      | pointer pointee isConst =>
          exact absurd hend.symm (ending_pointer_ne (by decide) (by decide))
      | _ => exact absurd hend (by simp [CType.ending])
  | function signature =>
      cases type' with
      | function signature' => exact .functions signature signature'
      | pointer pointee isConst => exact absurd hs (spelling_function_ne_pointer h h')
      | _ => exact absurd hend (by simp [CType.ending])
  | _ => exact absurd rfl hw

/-- Whether a type is a function pointer shows in its spelling. -/
theorem CType.Alike.functionPointer {type type' : CType} (h : type.Alike type')
    (decls : Declarations) :
    (decls.functionPointer type).isSome = (decls.functionPointer type').isSome := by
  have hnone : ∀ {pointee : CType} (isConst : Bool), pointee.isFunction = false →
      decls.functionPointer (.pointer pointee isConst) = none := by
    intro pointee isConst hf
    cases pointee with
    | function signature => exact absurd hf (by simp [CType.isFunction])
    | _ => rfl
  cases h with
  | same => rfl
  | @pointers pointee pointee' hp isConst isConst' =>
      cases hf : pointee.isFunction with
      | false => rw [hnone _ hf, hnone _ (hp ▸ hf)]
      | true =>
          rcases CType.exists_signature hf with ⟨signature, rfl⟩
          rcases CType.exists_signature (hp ▸ hf) with ⟨signature', rfl⟩
          rfl
  | functions => rfl
  | arrays => rfl
  | anonymous => rfl

/-- Whether a type can be the element of an array shows in its spelling. -/
theorem CType.Alike.isElement {type type' : CType} (h : type.Alike type') (decls : Declarations) :
    decls.isElement type = decls.isElement type' := by
  have hf := h.functionPointer decls
  cases h with
  | same => rfl
  | arrays => rfl
  | pointers hp isConst isConst' =>
      show (decls.functionPointer _).isNone = (decls.functionPointer _).isNone
      rw [← Option.not_isSome, ← Option.not_isSome, hf]
  | functions => rfl
  | anonymous => rfl

/-- Whether a type is convertible shows in its spelling. -/
theorem ConvertibleBut.of_spelling {library : Library} {avoided : List String} {type type' : CType}
    (hc : ConvertibleBut library avoided type) (h : type.isWellNamed) (h' : type'.isWellNamed)
    (hs : type.spelling = type'.spelling) : ConvertibleBut library avoided type' := by
  induction hc generalizing type' with
  | seeded hc => exact .seeded (hs ▸ hc)
  | pointer pointee isConst =>
      cases alike_of_spelling h h' hs with
      | same => exact .pointer pointee isConst
      | pointers => exact .pointer ..
  | enumeration he =>
      cases alike_of_spelling h h' hs with
      | same => exact .enumeration he
      | _ => exact absurd he Bool.false_ne_true
  | typedef ht hu _ =>
      cases alike_of_spelling h h' hs with
      | same => exact .typedef ht hu
  | array hl hd he ih =>
      cases alike_of_spelling h h' hs with
      | same => exact .array hl hd he
      | arrays hes =>
          rw [CType.isWellNamed] at h h'
          exact .array hl ((alike_of_spelling h h' hes).isElement _ ▸ hd) (ih h h' hes)
  | record hb hk hf _ =>
      cases alike_of_spelling h h' hs with
      | same => exact .record hb hk hf
      | _ => exact absurd hb (by simp [Declarations.bindable?])

end ScriptBind
