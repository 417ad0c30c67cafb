import ScriptBind.Proofs.Convertible

/-!
# Spellings Are Balanced

A spelling is read from its end. For a function and for a pointer to one, the
parameters come last, and one has to look in front of them to find the result.
They hold parentheses of their own if there are callbacks among them, so the
parentheses are counted from the end. That this finds the right place is because
spellings are balanced: a spelling inside of a group of parentheses leaves the
count as it is.

What the spelling of a type looks like from its end is said here for every kind
of type, with and without the qualifiers that only code shows.

## Main definitions

* `beforeGroup`: What is left of a text, read from its end, when a group of
  parentheses closes.
* `Balanced`: Texts that do not change the number of open parentheses.
* `CType.isWord`: Types that are spelled with words only.

## Theorems

* `beforeGroup_group`: What stands before a group of parentheses is found.
* `balanced_spelling`: Spellings are balanced.
* `beforeGroup_function`, `beforeGroup_pointer`: What stands before parameters.
-/

namespace ScriptBind

/-- Whether a type is a function. -/
def CType.isFunction : CType → Bool
  | .function _ => true
  | _ => false

theorem CType.exists_signature {type : CType} (h : type.isFunction) :
    ∃ signature, type = .function signature := by
  cases type with
  | function signature => exact ⟨signature, rfl⟩
  | _ => exact absurd h (by simp [isFunction])

/-- What is left of a text, read from its end, when a group of parentheses
    closes of which so many are open. -/
def beforeGroup : Nat → List Char → List Char
  | _, [] => []
  | depth, c :: rest =>
    if c = ')' then beforeGroup (depth + 1) rest
    else if c = '(' then if depth ≤ 1 then rest else beforeGroup (depth - 1) rest
    else beforeGroup depth rest

/-- Texts, read from their end, that can stand inside a group of parentheses. -/
def Balanced (chars : List Char) : Prop :=
  ∀ depth rest, beforeGroup (depth + 1) (chars ++ rest) = beforeGroup (depth + 1) rest

theorem balanced_nil : Balanced [] := fun _ _ => rfl

theorem Balanced.append {chars chars' : List Char} (h : Balanced chars) (h' : Balanced chars') :
    Balanced (chars ++ chars') := fun depth rest => by rw [List.append_assoc, h, h']

/-- Whether a character is not a parenthesis. -/
def isOutside (c : Char) : Bool := c != '(' && c != ')'

/-- Texts without parentheses are balanced. -/
theorem balanced_of_all {chars : List Char} (h : chars.all isOutside) : Balanced chars := by
  induction chars with
  | nil => exact balanced_nil
  | cons c chars ih =>
      intro depth rest
      rw [List.all_cons, Bool.and_eq_true, isOutside, Bool.and_eq_true, bne_iff_ne, bne_iff_ne] at h
      rw [List.cons_append, beforeGroup, if_neg h.1.2, if_neg h.1.1]
      exact ih h.2 depth rest

/-- What stands before a group of parentheses. -/
theorem beforeGroup_group {chars : List Char} (h : Balanced chars) (depth : Nat)
    (rest : List Char) : beforeGroup depth (')' :: chars ++ '(' :: rest) =
      if depth = 0 then rest else beforeGroup depth rest := by
  rw [List.cons_append, beforeGroup, if_pos rfl, h, beforeGroup, if_neg (by decide), if_pos rfl]
  by_cases hd : depth = 0
  · rw [if_pos hd, if_pos (by omega)]
  · rw [if_neg hd, if_neg (by omega), Nat.add_sub_cancel]

/-- A group of parentheses is balanced if what it holds is. -/
theorem Balanced.group {chars : List Char} (h : Balanced chars) :
    Balanced (')' :: chars ++ ['(']) := by
  intro depth rest
  rw [List.append_assoc, List.singleton_append, beforeGroup_group h, if_neg (Nat.succ_ne_zero _)]

/-- The characters of a text from its end. -/
def fromEnd (text : String) : List Char := text.toList.reverse

theorem fromEnd_append (front back : String) :
    fromEnd (front ++ back) = fromEnd back ++ fromEnd front := by
  rw [fromEnd, String.toList_append, List.reverse_append]
  rfl

theorem fromEnd_injective {text text' : String} (h : fromEnd text = fromEnd text') :
    text = text' :=
  String.toList_inj.1 (List.reverse_inj.1 h)

theorem balanced_intercalate (texts : List String) (h : ∀ text ∈ texts, Balanced (fromEnd text)) :
    Balanced (fromEnd (", ".intercalate texts)) := by
  induction texts with
  | nil => rw [String.intercalate_nil]; exact balanced_nil
  | cons text rest ih =>
      have ht := h text (List.mem_cons_self ..)
      have hrest := ih fun other ho => h other (List.mem_cons_of_mem _ ho)
      cases rest with
      | nil => rw [String.intercalate_singleton]; exact ht
      | cons next rest =>
          rw [String.intercalate_cons_cons, fromEnd_append, fromEnd_append]
          exact hrest.append ((balanced_of_all (by decide)).append ht)

theorem balanced_parameterList (params : List String) (isVariadic : Bool)
    (h : ∀ text ∈ params, Balanced (fromEnd text)) :
    Balanced (fromEnd (parameterList params isVariadic)) := by
  unfold parameterList
  split
  · exact balanced_of_all (by decide)
  · refine balanced_intercalate _ fun text ht => ?_
    rcases List.mem_append.1 ht with hp | hv
    · exact h text hp
    · cases isVariadic with
      | false => exact absurd hv (by simp)
      | true =>
          rw [List.mem_singleton.1 hv]
          exact balanced_of_all (by decide)

/-- The characters of an identifier. -/
theorem isWordChar_of_isIdentifier {text : String} (h : Text.isIdentifier text) :
    text.toList ≠ [] ∧ ∀ c ∈ text.toList, Text.isWordChar c := by
  unfold Text.isIdentifier at h
  split at h
  · exact absurd h (by simp)
  · next first rest he =>
      rw [Bool.and_eq_true, List.all_eq_true] at h
      refine ⟨by rw [he]; exact List.cons_ne_nil _ _, fun c hc => ?_⟩
      rw [he] at hc
      rcases List.mem_cons.1 hc with rfl | hr
      · have hs : c.isAlpha ∨ c = '_' := by simpa [Text.isWordStart] using h.1
        rcases hs with ha | hu
        · simp [Text.isWordChar, Char.isAlphanum, ha]
        · rw [hu]
          decide
      · exact h.2 c hr

/-- Whether a type is spelled by words. -/
def CType.isWord : CType → Bool
  | .void => true
  | .builtin _ => true
  | .named _ => true
  | .tagged _ _ => true
  | .enumeration _ => true
  | _ => false

/-- Whether a text, read from its end, consists of words: a word character comes
    first, and there are only blanks between word characters. -/
def isWords : List Char → Bool
  | [] => false
  | c :: rest => Text.isWordChar c && rest.all fun d => Text.isWordChar d || d == ' '

theorem exists_of_isWords {chars : List Char} (h : isWords chars) :
    ∃ c rest, chars = c :: rest ∧ Text.isWordChar c := by
  cases chars with
  | nil => exact absurd h Bool.false_ne_true
  | cons c rest =>
      rw [isWords, Bool.and_eq_true] at h
      exact ⟨c, rest, rfl, h.1⟩

/-- An identifier, on its own or after another word. -/
theorem isWords_identifier {text : String} (ht : Text.isIdentifier text) {front : List Char}
    (hfront : front.all fun d => Text.isWordChar d || d == ' ') :
    isWords (fromEnd text ++ front) := by
  rcases isWordChar_of_isIdentifier ht with ⟨hne, hall⟩
  have hall' : ∀ c ∈ fromEnd text, Text.isWordChar c := fun c hc =>
    hall c (List.mem_reverse.1 hc)
  cases he : fromEnd text with
  | nil => exact absurd (List.reverse_eq_nil_iff.1 he) hne
  | cons c rest =>
      rw [he] at hall'
      rw [List.cons_append, isWords, List.all_append, hfront, Bool.and_true, Bool.and_eq_true,
        List.all_eq_true]
      refine ⟨hall' c (List.mem_cons_self ..), fun d hd => ?_⟩
      rw [hall' d (List.mem_cons_of_mem _ hd), Bool.true_or]

theorem isWords_arithmetic : arithmeticTypes.all fun name => isWords (fromEnd name) := by decide

/-- A type spelled by words is spelled by words only. -/
theorem isWords_spelling {type : CType} (hw : type.isWord) (h : type.isWellNamed) :
    isWords (fromEnd type.spelling) := by
  cases type with
  | void => exact (by decide : isWords (fromEnd "void"))
  | builtin name =>
      rw [CType.isWellNamed, List.contains_iff_mem] at h
      exact List.all_eq_true.1 isWords_arithmetic name h
  | named name =>
      rw [CType.isWellNamed, isTypeName, Bool.and_eq_true] at h
      have hn : isWords (fromEnd name ++ []) := isWords_identifier h.1 rfl
      rwa [List.append_nil] at hn
  | tagged kind tag =>
      rw [CType.isWellNamed] at h
      rw [CType.spelling, CType.spell, fromEnd_append]
      refine isWords_identifier h ?_
      cases kind <;> decide
  | enumeration tag =>
      rw [CType.isWellNamed] at h
      rw [CType.spelling, CType.spell, fromEnd_append]
      exact isWords_identifier h (by decide)
  | _ => exact absurd hw (by simp [CType.isWord])

theorem isOutside_of_isWordChar {c : Char} (h : Text.isWordChar c) : isOutside c := by
  rw [isOutside, Bool.and_eq_true, bne_iff_ne, bne_iff_ne]
  constructor
  · rintro rfl
    exact absurd h (by decide)
  · rintro rfl
    exact absurd h (by decide)

theorem balanced_isWords {chars : List Char} (h : isWords chars) : Balanced chars := by
  refine balanced_of_all (List.all_eq_true.2 fun c hc => ?_)
  cases chars with
  | nil => cases hc
  | cons first rest =>
      rw [isWords, Bool.and_eq_true, List.all_eq_true] at h
      rcases List.mem_cons.1 hc with rfl | hr
      · exact isOutside_of_isWordChar h.1
      · rcases Bool.or_eq_true_iff.1 (h.2 c hr) with hw | hb
        · exact isOutside_of_isWordChar hw
        · rw [beq_iff_eq.1 hb]
          decide

/-- The spelling of a pointer to anything but a function ends with a star. -/
theorem fromEnd_pointer {pointee : CType} (h : pointee.isFunction = false) (isConst : Bool) :
    fromEnd (CType.pointer pointee isConst).spelling = '*' :: fromEnd pointee.spelling ∨
      fromEnd (CType.pointer pointee isConst).spelling =
        '*' :: ' ' :: fromEnd pointee.spelling := by
  have hs : (CType.pointer pointee isConst).spelling = starAfter pointee.spelling := by
    cases pointee with
    | function signature => exact absurd h (by simp [CType.isFunction])
    | _ =>
        rw [CType.spelling, CType.spell, Bool.false_and, if_neg Bool.false_ne_true, CType.spelling]
        exact fun _ _ _ h => by cases h
  rw [hs, starAfter]
  split
  · exact Or.inl (by rw [fromEnd_append]; rfl)
  · exact Or.inr (by rw [fromEnd_append]; rfl)

theorem balanced_pointer {pointee : CType} (hf : pointee.isFunction = false)
    (hp : Balanced (fromEnd pointee.spelling)) (isConst : Bool) :
    Balanced (fromEnd (CType.pointer pointee isConst).spelling) := by
  rcases fromEnd_pointer hf isConst with he | he
  · rw [he]
    exact (show Balanced ['*'] from balanced_of_all (by decide)).append hp
  · rw [he]
    exact (show Balanced ['*', ' '] from balanced_of_all (by decide)).append hp

theorem fromEnd_number (number : Nat) :
    fromEnd (toString number) = (Nat.toDigits 10 number).reverse := by
  rw [fromEnd, Nat.toString_eq_repr, Nat.toList_repr]

theorem fromEnd_spell_array (quals : Bool) (element : CType) (length : Nat) :
    fromEnd ((CType.array element length).spell quals) =
      ']' :: ((Nat.toDigits 10 length).reverse ++ '[' :: ' ' :: fromEnd (element.spell quals)) := by
  rw [CType.spell, fromEnd_append]
  simp only [fromEnd, String.toList_append, List.reverse_append]
  rw [Nat.toString_eq_repr, Nat.toList_repr]
  simp only [List.append_assoc]
  rfl

theorem fromEnd_array (element : CType) (length : Nat) :
    fromEnd (CType.array element length).spelling =
      ']' :: ((Nat.toDigits 10 length).reverse ++ '[' :: ' ' :: fromEnd element.spelling) :=
  fromEnd_spell_array false element length

theorem fromEnd_spell_function (quals : Bool) (result : CType) (params : List CType)
    (isVariadic : Bool) :
    fromEnd ((CType.function ⟨result, params, isVariadic⟩).spell quals) =
      ')' :: fromEnd (parameterList (CType.spellAll quals params) isVariadic) ++
        '(' :: ' ' :: fromEnd (result.spell quals) := by
  rw [CType.spell]
  simp [fromEnd]

theorem fromEnd_spell_pointer_function (quals : Bool) (result : CType) (params : List CType)
    (isVariadic isConst : Bool) :
    fromEnd ((CType.pointer (.function ⟨result, params, isVariadic⟩) isConst).spell quals) =
      ')' :: fromEnd (parameterList (CType.spellAll quals params) isVariadic) ++
        '(' :: ')' :: '*' :: '(' :: ' ' :: fromEnd (result.spell quals) := by
  rw [CType.spell]
  simp [fromEnd]

/-- The parameters of a function as text. -/
def Signature.paramsText (signature : Signature) : String :=
  parameterList (CType.spellAll false signature.params) signature.isVariadic

theorem fromEnd_function (signature : Signature) :
    fromEnd (CType.function signature).spelling =
      ')' :: fromEnd signature.paramsText ++ '(' :: ' ' :: fromEnd signature.result.spelling := by
  obtain ⟨result, params, isVariadic⟩ := signature
  exact fromEnd_spell_function false result params isVariadic

theorem fromEnd_pointer_function (signature : Signature) (isConst : Bool) :
    fromEnd (CType.pointer (.function signature) isConst).spelling =
      ')' :: fromEnd signature.paramsText ++
        '(' :: ')' :: '*' :: '(' :: ' ' :: fromEnd signature.result.spelling := by
  obtain ⟨result, params, isVariadic⟩ := signature
  exact fromEnd_spell_pointer_function false result params isVariadic isConst

theorem isWordChar_of_isDigit {c : Char} (h : c.isDigit) : Text.isWordChar c := by
  rw [Text.isWordChar, Char.isAlphanum, h, Bool.or_true, Bool.true_or]

mutual

/-- Spellings are balanced. -/
theorem balanced_spelling : ∀ type : CType, type.isWellNamed → Balanced (fromEnd type.spelling)
  | .void, h => balanced_isWords (isWords_spelling rfl h)
  | .builtin _, h => balanced_isWords (isWords_spelling rfl h)
  | .named _, h => balanced_isWords (isWords_spelling rfl h)
  | .tagged _ _, h => balanced_isWords (isWords_spelling rfl h)
  | .enumeration _, h => balanced_isWords (isWords_spelling rfl h)
  | .anonymous ⟨_, kind, _⟩, _ => by
    rw [CType.spelling, CType.spell]
    cases kind <;> exact balanced_of_all (by decide)
  | .array element length, h => by
    rw [CType.isWellNamed] at h
    rw [fromEnd_array]
    have hlength : Balanced ((']' :: (Nat.toDigits 10 length).reverse) ++ ['[', ' ']) := by
      refine Balanced.append (balanced_of_all (List.all_eq_true.2 fun c hc => ?_))
        (balanced_of_all (by decide))
      rcases List.mem_cons.1 hc with rfl | hd
      · decide
      · exact isOutside_of_isWordChar
          (isWordChar_of_isDigit (Nat.isDigit_of_mem_toDigits (by decide)
          (by decide) (List.mem_reverse.1 hd)))
    simpa using hlength.append (balanced_spelling element h)
  | .function signature, h => by
    rcases balanced_signature signature h with ⟨hparams, hresult⟩
    have hblank := (show Balanced [' '] from balanced_of_all (by decide)).append hresult
    rw [fromEnd_function]
    simpa using hparams.group.append hblank
  | .pointer pointee isConst, h => by
    rw [CType.isWellNamed] at h
    cases pointee with
    | function signature =>
        rcases balanced_signature signature h with ⟨hparams, hresult⟩
        have hstar := (show Balanced ['*'] from balanced_of_all (by decide)).group
        have hblank := (show Balanced [' '] from balanced_of_all (by decide)).append hresult
        rw [fromEnd_pointer_function]
        simpa using (hparams.group.append hstar).append hblank
    | _ => exact balanced_pointer rfl (balanced_spelling _ h) isConst

/-- The parameters and the result of a function are balanced. -/
theorem balanced_signature : ∀ signature : Signature, (CType.function signature).isWellNamed →
    Balanced (fromEnd signature.paramsText) ∧ Balanced (fromEnd signature.result.spelling)
  | ⟨result, params, isVariadic⟩, h => by
    rw [CType.isWellNamed, Bool.and_eq_true] at h
    exact ⟨balanced_parameterList _ isVariadic (balanced_spellAll params h.2),
      balanced_spelling result h.1⟩

theorem balanced_spellAll : ∀ types : List CType, areWellNamed types →
    ∀ text ∈ CType.spellAll false types, Balanced (fromEnd text)
  | [], _ => by rw [CType.spellAll]; exact fun _ h => by cases h
  | type :: rest, h => by
    rw [areWellNamed, Bool.and_eq_true] at h
    rw [CType.spellAll]
    intro text ht
    rcases List.mem_cons.1 ht with rfl | hr
    · exact balanced_spelling type h.1
    · exact balanced_spellAll rest h.2 text hr

end

/-- What stands before the parameters of a function is a blank. -/
theorem beforeGroup_function {signature : Signature} (h : (CType.function signature).isWellNamed) :
    beforeGroup 0 (fromEnd (CType.function signature).spelling) =
      ' ' :: fromEnd signature.result.spelling := by
  rw [fromEnd_function, beforeGroup_group (balanced_signature signature h).1, if_pos rfl]

/-- What stands before the parameters of a pointer to a function is another
    group of parentheses. -/
theorem beforeGroup_pointer {signature : Signature} (h : (CType.function signature).isWellNamed)
    (isConst : Bool) :
      beforeGroup 0 (fromEnd (CType.pointer (.function signature) isConst).spelling) =
      ')' :: '*' :: '(' :: ' ' :: fromEnd signature.result.spelling := by
  rw [fromEnd_pointer_function, beforeGroup_group (balanced_signature signature h).1, if_pos rfl]

end ScriptBind
