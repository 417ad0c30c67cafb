import Mathlib.Data.List.Forall2
import ScriptBind.Proofs.SpellingShape

/-!
# Readable Types

The text of a type is to tell the type to whoever reads it from the end. Not
every type lets itself be read: the names in it have to be C names, no record in
it may be defined in place, and a function that takes a lone `void` is written
like one without parameters.

Only a `const` has no place of its own. It goes in front of everything that its
pointer is made of, so what can be read is how many of them there are and not
which pointee each of them is about. `ReadAlike` is what two types have in
common if they are read from the same text.

A type may stand behind a comma, behind a parenthesis or at the beginning of a
text, and none of these can be mistaken for a part of it. So a type is to be
read with something in front of it, and what is in front is read off too.

## Main definitions

* `CType.isReadable`: The names in a type are C names and no part of it hides
  what it is.
* `CType.bare`: A type without its qualifiers.
* `CType.constants`, `CType.constantsInside`: How many `const`s the text of a
  type and the texts of the parameters in it begin with.
* `ReadAlike`: What two types have in common that are read from the same text.
* `Stops`: What can stand in front of a type.
* `CType.Reads`: A type that is read, whatever stands in front of it.

## Theorems

* `eq_of_words_marks`: Words are read with the marks in front of them.
* `ending_of_reading`: Readable types of the same text end in the same way.
* `ReadAlike.pointer`, `ReadAlike.function`: What reading alike is made of.
-/

namespace ScriptBind

/-- Whether parameters are written like no parameters at all. -/
def isLoneVoid : List CType → Bool
  | [.void] => true
  | _ => false

mutual

/-- Whether the names in a type are C names, no record in it is defined in place
    and no function takes a lone `void`. -/
def CType.isReadable : CType → Bool
  | .void => true
  | .builtin name => arithmeticTypes.contains name
  | .named name => isTypeName name
  | .tagged _ tag => Text.isIdentifier tag
  | .anonymous _ => false
  | .enumeration tag => Text.isIdentifier tag
  | .pointer pointee _ => pointee.isReadable
  | .array element _ => element.isReadable
  | .function ⟨result, params, isVariadic⟩ =>
    result.isReadable && areReadable params && (isVariadic || !isLoneVoid params)

/-- Whether some types are readable. -/
def areReadable : List CType → Bool
  | [] => true
  | type :: rest => type.isReadable && areReadable rest

end

mutual

/-- A type without its qualifiers. -/
def CType.bare : CType → CType
  | .void => .void
  | .builtin name => .builtin name
  | .named name => .named name
  | .tagged kind tag => .tagged kind tag
  | .anonymous record => .anonymous record
  | .enumeration tag => .enumeration tag
  | .pointer pointee _ => .pointer pointee.bare false
  | .array element length => .array element.bare length
  | .function ⟨result, params, isVariadic⟩ => .function ⟨result.bare, bareAll params, isVariadic⟩

/-- Types without their qualifiers. -/
def bareAll : List CType → List CType
  | [] => []
  | type :: rest => type.bare :: bareAll rest

end

/-- How many `const`s a pointer puts in front of its text: a pointer to a
    function puts none. -/
def CType.ownConstants (pointee : CType) (quals isConst : Bool) : Nat :=
  if pointee.isFunction then 0 else (quals && isConst).toNat

/-- How many `const`s the text of a type begins with. -/
def CType.constants (quals : Bool) : CType → Nat
  | .pointer pointee isConst => pointee.ownConstants quals isConst + pointee.constants quals
  | .array element _ => element.constants quals
  | .function ⟨result, _, _⟩ => result.constants quals
  | _ => 0

mutual

/-- How many `const`s the texts of the parameters inside a type begin with. -/
def CType.constantsInside (quals : Bool) : CType → List Nat
  | .pointer pointee _ => pointee.constantsInside quals
  | .array element _ => element.constantsInside quals
  | .function ⟨result, params, _⟩ => result.constantsInside quals ++ constantsAll quals params
  | _ => []

/-- How many `const`s the texts of some parameters begin with, and those of the
    parameters inside them. -/
def constantsAll (quals : Bool) : List CType → List Nat
  | [] => []
  | type :: rest => type.constants quals :: type.constantsInside quals ++ constantsAll quals rest

end

/-- What two types have in common if they are read from the same text after some
    `const`s each. -/
structure ReadAlike (quals : Bool) (front front' : Nat) (type type' : CType) : Prop where
  /-- They differ in qualifiers only. -/
  bare : type.bare = type'.bare
  /-- There are as many `const`s in front of them. -/
  constants : front + type.constants quals = front' + type'.constants quals
  /-- There are as many in front of every parameter. -/
  inside : type.constantsInside quals = type'.constantsInside quals

/-- Some `const`s, read from their end. -/
def constMarks (count : Nat) : List Char := (List.replicate count (fromEnd "const ")).flatten

theorem constMarks_zero : constMarks 0 = [] := rfl

theorem constMarks_add (count more : Nat) :
    constMarks (count + more) = constMarks count ++ constMarks more := by
  rw [constMarks, ← List.replicate_append_replicate, List.flatten_append]
  rfl

/-- What can stand in front of a type, read from its end: nothing, the start of a
    parameter list or the comma after another parameter. -/
inductive Stops : List Char → Prop
  | nothing : Stops []
  | opening (rest : List Char) : Stops ('(' :: rest)
  | comma (rest : List Char) : Stops (' ' :: ',' :: rest)

/-- A type is read from a text in one way only. -/
def CType.Reads (quals : Bool) (type : CType) : Prop :=
  ∀ type' : CType, type'.isReadable → ∀ front front' rest rest', Stops rest → Stops rest' →
    fromEnd (type.spell quals) ++ (constMarks front ++ rest) =
        fromEnd (type'.spell quals) ++ (constMarks front' ++ rest') →
      ReadAlike quals front front' type type' ∧ rest = rest'

/-! ### Words -/

theorem spell_of_isWord {type : CType} (hw : type.isWord) (quals : Bool) :
    type.spell quals = type.spelling := by
  cases type with
  | void | builtin | named | tagged | enumeration =>
      rw [CType.spelling, CType.spell, CType.spell]
  | _ => exact absurd hw (by simp [CType.isWord])

theorem isWellNamed_of_isWord {type : CType} (hw : type.isWord) (h : type.isReadable) :
    type.isWellNamed := by
  cases type with
  | void => rw [CType.isWellNamed]
  | builtin | named | tagged | enumeration =>
      rw [CType.isReadable] at h
      rwa [CType.isWellNamed]
  | _ => exact absurd hw (by simp [CType.isWord])

/-- Whether a character can stand inside words or between them. -/
def isInWords (c : Char) : Bool := Text.isWordChar c || c == ' '

theorem all_of_isWords {chars : List Char} (h : isWords chars) : ∀ c ∈ chars, isInWords c := by
  cases chars with
  | nil => exact absurd h Bool.false_ne_true
  | cons first rest =>
      rw [isWords, Bool.and_eq_true, List.all_eq_true] at h
      intro c hc
      rcases List.mem_cons.1 hc with rfl | hr
      · rw [isInWords, h.1, Bool.true_or]
      · exact h.2 c hr

theorem all_constMarks (count : Nat) : ∀ c ∈ constMarks count, isInWords c := by
  have hmark : (fromEnd "const ").all isInWords := by decide
  intro c hc
  obtain ⟨mark, hm, hc⟩ := List.mem_flatten.1 hc
  exact List.all_eq_true.1 hmark c (List.eq_of_mem_replicate hm ▸ hc)

/-- What stops words is a comma with a blank, or no blank at all. -/
theorem Stops.takeWhile_isInWords {rest : List Char} (h : Stops rest) :
    rest.takeWhile isInWords =
      if (rest.dropWhile isInWords).head? = some ',' then [' '] else [] := by
  cases h <;> rfl

/-- Words end where something stands that stops them. -/
theorem eq_of_stops {words words' rest rest' : List Char} (hw : ∀ c ∈ words, isInWords c)
    (hw' : ∀ c ∈ words', isInWords c) (hs : Stops rest) (hs' : Stops rest')
    (h : words ++ rest = words' ++ rest') : words = words' ∧ rest = rest' := by
  -- Without the words the same is left, which tells whether a blank went with them.
  have hdrop := congrArg (List.dropWhile isInWords) h
  have htake := congrArg (List.takeWhile isInWords) h
  rw [List.dropWhile_append_of_pos hw, List.dropWhile_append_of_pos hw'] at hdrop
  rw [List.takeWhile_append_of_pos hw, List.takeWhile_append_of_pos hw',
    hs.takeWhile_isInWords, hs'.takeWhile_isInWords, hdrop] at htake
  have hwords := List.append_cancel_right htake
  rw [hwords] at h
  exact ⟨hwords, List.append_cancel_left h⟩

/-- A word does not begin with a `const`. -/
theorem not_const_prefix {type : CType} (hw : type.isWord) (h : type.isWellNamed) :
    ¬ "const ".toList <+: type.spelling.toList := by
  have hidentifier : ∀ text, Text.isIdentifier text → ¬ "const ".toList <+: text.toList := by
    intro text ht hp
    have hblank : ' ' ∈ text.toList := hp.subset (by decide)
    exact absurd ((isWordChar_of_isIdentifier ht).2 ' ' hblank) (by decide)
  cases type with
  | void => exact hidentifier "void" (by decide)
  | builtin name =>
      have hall : ∀ name ∈ arithmeticTypes, ¬ "const ".toList <+: name.toList := by decide
      rw [CType.isWellNamed, List.contains_iff_mem] at h
      exact hall name h
  | named name =>
      rw [CType.isWellNamed, isTypeName, Bool.and_eq_true] at h
      exact hidentifier name h.1
  | tagged kind tag =>
      rw [CType.spelling, CType.spell, String.toList_append, String.toList_append]
      cases kind <;> simp [RecordKind.keyword]
  | enumeration tag =>
      rw [CType.spelling, CType.spell, String.toList_append]
      simp
  | _ => exact absurd hw (by simp [CType.isWord])

theorem fromEnd_spelling_ne_marks {type : CType} (hw : type.isWord) (h : type.isWellNamed)
    (front : List Char) (count : Nat) :
    fromEnd type.spelling ≠ front ++ constMarks (count + 1) := by
  intro he
  refine not_const_prefix hw h ⟨(front ++ constMarks count).reverse, ?_⟩
  rw [constMarks_add, ← List.append_assoc, fromEnd, List.reverse_eq_iff] at he
  rw [he, List.reverse_append]
  simp [constMarks, fromEnd]

/-- A word is read together with the `const`s in front of it. -/
theorem eq_of_words_marks {type type' : CType} (hw : type.isWord) (hw' : type'.isWord)
    (h : type.isWellNamed) (h' : type'.isWellNamed) (front front' : Nat)
    (he : fromEnd type.spelling ++ constMarks front = fromEnd type'.spelling ++ constMarks front') :
    front = front' ∧ type.spelling = type'.spelling := by
  -- By the `const`s on both sides: one that is left over would begin a word.
  induction front generalizing front' with
  | zero =>
      cases front' with
      | zero => exact ⟨rfl, fromEnd_injective (List.append_cancel_right he)⟩
      | succ count =>
          rw [constMarks_zero, List.append_nil] at he
          exact absurd he (fromEnd_spelling_ne_marks hw h _ _)
  | succ count ih =>
      cases front' with
      | zero =>
          rw [constMarks_zero, List.append_nil] at he
          exact absurd he.symm (fromEnd_spelling_ne_marks hw' h' _ _)
      | succ count' =>
          rw [constMarks_add, constMarks_add, ← List.append_assoc, ← List.append_assoc] at he
          obtain ⟨hc, hs⟩ := ih count' (List.append_cancel_right he)
          exact ⟨congrArg Nat.succ hc, hs⟩

/-! ### How a type ends -/

/-- A text with a star after it, both read from their ends. -/
def starBefore (chars : List Char) : List Char :=
  if chars.head? = some '*' then '*' :: chars else '*' :: ' ' :: chars

theorem fromEnd_starAfter (text : String) :
    fromEnd (starAfter text) = starBefore (fromEnd text) := by
  have hhead : (fromEnd text).head? = text.toList.getLast? := List.head?_reverse
  rw [starAfter, starBefore, hhead]
  split
  · rw [fromEnd_append]
    rfl
  · rw [fromEnd_append]
    rfl

theorem starBefore_injective {chars chars' : List Char} (h : starBefore chars = starBefore chars') :
    chars = chars' := by
  -- A star without a blank in front of it follows another star.
  unfold starBefore at h
  split at h
  · next hc =>
    split at h
    · exact (List.cons.inj h).2
    · rw [(List.cons.inj h).2] at hc
      exact absurd hc (by simp)
  · split at h
    · next hc =>
      rw [← (List.cons.inj h).2] at hc
      exact absurd hc (by simp)
    · exact (List.cons.inj (List.cons.inj h).2).2

/-- Whether a star is set off does not depend on what stands in front. -/
theorem starBefore_append (chars : List Char) {rest : List Char} (h : rest.head? ≠ some '*') :
    starBefore (chars ++ rest) = starBefore chars ++ rest := by
  cases chars with
  | nil =>
    rw [List.nil_append, starBefore, if_neg h]
    rfl
  | cons c chars =>
    unfold starBefore
    rw [List.cons_append, List.head?_cons, List.head?_cons]
    split <;> rfl

theorem head?_marks (count : Nat) {rest : List Char} (h : Stops rest) :
    (constMarks count ++ rest).head? ≠ some '*' := by
  cases count with
  | zero => cases h <;> simp [constMarks]
  | succ count => simp [constMarks, List.replicate_succ, fromEnd]

theorem fromEnd_spell_pointer {pointee : CType} (h : pointee.isFunction = false)
    (quals isConst : Bool) :
    fromEnd ((CType.pointer pointee isConst).spell quals) =
      starBefore (fromEnd (pointee.spell quals)) ++
        constMarks (pointee.ownConstants quals isConst) := by
  have hs : (CType.pointer pointee isConst).spell quals =
      if quals && isConst then "const " ++ starAfter (pointee.spell quals)
      else starAfter (pointee.spell quals) := by
    cases pointee with
    | function signature => exact absurd h (by simp [CType.isFunction])
    | _ => simp [CType.spell]
  rw [hs, CType.ownConstants, h, if_neg Bool.false_ne_true]
  cases quals && isConst with
  | false => simp [constMarks, fromEnd_starAfter]
  | true => simp [constMarks, fromEnd_append, fromEnd_starAfter]

/-- The last character of a text is the ending of the type, or else a word
    character. -/
theorem exists_ending (quals : Bool) {type : CType} (h : type.isReadable) :
    ∃ c rest, fromEnd (type.spell quals) = c :: rest ∧
      type.ending = if Text.isWordChar c then none else some c := by
  by_cases hw : type.isWord
  · rw [spell_of_isWord hw]
    exact ending_of_words fun hw => isWords_spelling hw (isWellNamed_of_isWord hw h)
  cases type with
  | pointer pointee isConst =>
      cases hf : pointee.isFunction with
      | false =>
          refine ⟨'*', ?_⟩
          rw [fromEnd_spell_pointer hf, CType.ending, hf, starBefore]
          split <;> exact ⟨_, rfl, rfl⟩
      | true =>
          obtain ⟨⟨result, params, isVariadic⟩, rfl⟩ := CType.exists_signature hf
          rw [fromEnd_spell_pointer_function]
          exact ⟨')', _, rfl, rfl⟩
  | array element length =>
      rw [fromEnd_spell_array]
      exact ⟨']', _, rfl, rfl⟩
  | function signature =>
      obtain ⟨result, params, isVariadic⟩ := signature
      rw [fromEnd_spell_function]
      exact ⟨')', _, rfl, rfl⟩
  | anonymous record => exact absurd h (by simp [CType.isReadable])
  | _ => exact absurd rfl hw

theorem ending_of_reading {quals : Bool} {type type' : CType} (h : type.isReadable)
    (h' : type'.isReadable) {rest rest' : List Char}
    (he : fromEnd (type.spell quals) ++ rest = fromEnd (type'.spell quals) ++ rest') :
    type.ending = type'.ending := by
  obtain ⟨c, chars, hc, hend⟩ := exists_ending quals h
  obtain ⟨c', chars', hc', hend'⟩ := exists_ending quals h'
  rw [hc, hc', List.cons_append, List.cons_append, List.cons.injEq] at he
  rw [hend, hend', he.1]

theorem eq_pointer_of_ending {type : CType} (h : type.ending = some '*') :
    ∃ pointee isConst, type = .pointer pointee isConst ∧ pointee.isFunction = false := by
  cases type with
  | pointer pointee isConst =>
      refine ⟨pointee, isConst, rfl, ?_⟩
      cases hf : pointee.isFunction with
      | false => rfl
      | true => exact absurd h (by simp [CType.ending, hf])
  | _ => exact absurd h (by simp [CType.ending])

theorem eq_array_of_ending {type : CType} (h : type.ending = some ']') :
    ∃ element length, type = .array element length := by
  cases type with
  | array element length => exact ⟨element, length, rfl⟩
  | pointer pointee isConst => exact absurd h (ending_pointer_ne (by decide) (by decide))
  | _ => exact absurd h (by simp [CType.ending])

theorem eq_function_of_ending {type : CType} (h : type.ending = some ')') :
    ∃ signature, type = .function signature ∨
      ∃ isConst, type = .pointer (.function signature) isConst := by
  cases type with
  | function signature => exact ⟨signature, Or.inl rfl⟩
  | pointer pointee isConst =>
      cases hf : pointee.isFunction with
      | false => exact absurd h (by simp [CType.ending, hf])
      | true =>
          obtain ⟨signature, rfl⟩ := CType.exists_signature hf
          exact ⟨signature, Or.inr ⟨isConst, rfl⟩⟩
  | _ => exact absurd h (by simp [CType.ending])

/-! ### What reading alike is made of -/

section
variable {quals : Bool} {front front' : Nat}

theorem ReadAlike.array {element element' : CType}
    (h : ReadAlike quals front front' element element') (length : Nat) :
    ReadAlike quals front front' (.array element length) (.array element' length) where
  bare := by rw [CType.bare, CType.bare, h.bare]
  constants := h.constants
  inside := by rw [CType.constantsInside, CType.constantsInside, h.inside]

theorem ReadAlike.pointer {pointee pointee' : CType} {isConst isConst' : Bool}
    (h : ReadAlike quals (pointee.ownConstants quals isConst + front)
      (pointee'.ownConstants quals isConst' + front') pointee pointee') :
    ReadAlike quals front front' (.pointer pointee isConst) (.pointer pointee' isConst') where
  bare := by rw [CType.bare, CType.bare, h.bare]
  constants := by
    have hc := h.constants
    rw [CType.constants, CType.constants]
    omega
  inside := by rw [CType.constantsInside, CType.constantsInside, h.inside]

theorem bareAll_eq {params params' : List CType}
    (h : List.Forall₂ (ReadAlike quals 0 0) params params') : bareAll params = bareAll params' := by
  induction h with
  | nil => rfl
  | cons hd _ ih => rw [bareAll, bareAll, hd.bare, ih]

theorem constantsAll_eq {params params' : List CType}
    (h : List.Forall₂ (ReadAlike quals 0 0) params params') :
    constantsAll quals params = constantsAll quals params' := by
  induction h with
  | nil => rfl
  | cons hd _ ih =>
      have hc := hd.constants
      rw [Nat.zero_add, Nat.zero_add] at hc
      rw [constantsAll, constantsAll, hc, hd.inside, ih]

theorem ReadAlike.function {result result' : CType} {params params' : List CType}
    (h : ReadAlike quals front front' result result')
    (hp : List.Forall₂ (ReadAlike quals 0 0) params params') (isVariadic : Bool) :
    ReadAlike quals front front' (.function ⟨result, params, isVariadic⟩)
      (.function ⟨result', params', isVariadic⟩) where
  bare := by rw [CType.bare, CType.bare, h.bare, bareAll_eq hp]
  constants := h.constants
  inside := by
    rw [CType.constantsInside, CType.constantsInside, h.inside, constantsAll_eq hp]

theorem ReadAlike.pointer_function {signature signature' : Signature}
    (h : ReadAlike quals front front' (.function signature) (.function signature'))
    (isConst isConst' : Bool) : ReadAlike quals front front'
      (.pointer (.function signature) isConst) (.pointer (.function signature') isConst') := by
  have hnone : ∀ (signature : Signature) (isConst : Bool),
      (CType.function signature).ownConstants quals isConst = 0 := fun _ _ => rfl
  refine ReadAlike.pointer ?_
  rw [hnone, hnone, Nat.zero_add, Nat.zero_add]
  exact h

end

end ScriptBind
