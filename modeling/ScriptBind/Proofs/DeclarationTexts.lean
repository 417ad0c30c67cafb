import ScriptBind.Proofs.TypeReading

/-!
# Types in Code

What is read from a type is all that its text depends on, so two types have the
same text exactly when they are read alike. A declaration adds a name, which is
an identifier and therefore tells where it stands: at the end, in front of a
length, or between the two groups of parentheses of a function pointer.

So the text of a type in code tells everything of the type but which of its
pointees is constant: `const char **` is a pointer to pointers to constant
characters, and a pointer to constant pointers to characters.

## Main definitions

* `CType.LooksLike`: What two types have in common that look alike in code.

## Theorems

* `text_of_readAlike`: Types that are read alike have the same text.
* `spell_eq_iff`: Types have the same text exactly when they are read alike.
* `written_alike_iff`: Types have the same text in code, and the same
  declarations, exactly when only the place of a `const` tells them apart.
* `textPointers_confused`: It takes no more than two pointers.
-/

namespace ScriptBind

/-! ### What reading alike tells -/

section
variable {quals : Bool} {front front' : Nat}

mutual

/-- How many parameters there are inside a type does not depend on qualifiers. -/
theorem length_constantsInside : ∀ type : CType,
    (type.bare.constantsInside quals).length = (type.constantsInside quals).length
  | .void | .builtin _ | .named _ | .tagged _ _ | .enumeration _ | .anonymous _ => by
    rw [CType.bare]
  | .array element _ => by
    rw [CType.bare, CType.constantsInside, CType.constantsInside, length_constantsInside element]
  | .pointer pointee _ => by
    rw [CType.bare, CType.constantsInside, CType.constantsInside, length_constantsInside pointee]
  | .function ⟨result, params, _⟩ => by
    rw [CType.bare, CType.constantsInside, CType.constantsInside, List.length_append,
      List.length_append, length_constantsInside result, length_constantsAll params]

theorem length_constantsAll : ∀ types : List CType,
    (constantsAll quals (bareAll types)).length = (constantsAll quals types).length
  | [] => by rw [bareAll]
  | type :: types => by
    rw [bareAll, constantsAll, constantsAll, List.length_append, List.length_append,
      List.length_cons, List.length_cons, length_constantsInside type, length_constantsAll types]

end

/-- Types that differ in qualifiers only have as many parameters inside. -/
theorem length_eq_of_bare {type type' : CType} (h : type.bare = type'.bare) :
    (type.constantsInside quals).length = (type'.constantsInside quals).length := by
  rw [← length_constantsInside, h, length_constantsInside]

theorem forall_readAlike {params params' : List CType} (hb : bareAll params = bareAll params')
    (hc : constantsAll quals params = constantsAll quals params') :
    List.Forall₂ (ReadAlike quals 0 0) params params' := by
  induction params generalizing params' with
  | nil =>
      cases params' with
      | nil => exact .nil
      | cons type' params' => cases hb
  | cons type params ih =>
      cases params' with
      | nil => cases hb
      | cons type' params' =>
          rw [bareAll, bareAll, List.cons.injEq] at hb
          rw [constantsAll, constantsAll] at hc
          obtain ⟨hhead, hrest⟩ := List.append_inj hc
            (congrArg Nat.succ (length_eq_of_bare hb.1))
          obtain ⟨hconstants, hinside⟩ := List.cons.inj hhead
          exact .cons ⟨hb.1, congrArg (0 + ·) hconstants, hinside⟩ (ih hb.2 hrest)

theorem isWord_bare (type : CType) : type.bare.isWord = type.isWord := by
  cases type with
  | function signature =>
      obtain ⟨result, params, isVariadic⟩ := signature
      rfl
  | _ => rfl

theorem bare_of_isWord {type : CType} (h : type.isWord) : type.bare = type := by
  cases type with
  | void | builtin | named | tagged | enumeration => rw [CType.bare]
  | _ => exact absurd h (by simp [CType.isWord])

theorem ReadAlike.symm {type type' : CType} (h : ReadAlike quals front front' type type') :
    ReadAlike quals front' front type' type :=
  ⟨h.bare.symm, h.constants.symm, h.inside.symm⟩

theorem ReadAlike.word_inversion {type type' : CType} (hw : type.isWord)
    (h : ReadAlike quals front front' type type') : type' = type ∧ front = front' := by
  have hw' : type'.isWord := by rw [← isWord_bare, ← h.bare, isWord_bare, hw]
  have htype : type' = type := by rw [← bare_of_isWord hw', ← h.bare, bare_of_isWord hw]
  subst htype
  exact ⟨rfl, Nat.add_right_cancel h.constants⟩

theorem ReadAlike.array_inversion {element type' : CType} {length : Nat}
    (h : ReadAlike quals front front' (.array element length) type') :
    ∃ element', type' = .array element' length ∧ ReadAlike quals front front' element element' := by
  have hb := h.bare
  cases type' with
  | array element' length' =>
      rw [CType.bare, CType.bare, CType.array.injEq] at hb
      obtain ⟨hb, rfl⟩ := hb
      refine ⟨element', rfl, hb, h.constants, ?_⟩
      have hi := h.inside
      rwa [CType.constantsInside, CType.constantsInside] at hi
  | function signature =>
      obtain ⟨result, params, isVariadic⟩ := signature
      simp [CType.bare] at hb
  | _ => simp [CType.bare] at hb

theorem ReadAlike.pointer_inversion {pointee type' : CType} {isConst : Bool}
    (h : ReadAlike quals front front' (.pointer pointee isConst) type') :
    ∃ pointee' isConst', type' = .pointer pointee' isConst' ∧
      ReadAlike quals (pointee.ownConstants quals isConst + front)
        (pointee'.ownConstants quals isConst' + front') pointee pointee' := by
  have hb := h.bare
  cases type' with
  | pointer pointee' isConst' =>
      rw [CType.bare, CType.bare, CType.pointer.injEq] at hb
      refine ⟨pointee', isConst', rfl, hb.1, ?_, ?_⟩
      · have hc := h.constants
        rw [CType.constants, CType.constants] at hc
        omega
      · have hi := h.inside
        rwa [CType.constantsInside, CType.constantsInside] at hi
  | function signature =>
      obtain ⟨result, params, isVariadic⟩ := signature
      simp [CType.bare] at hb
  | _ => simp [CType.bare] at hb

theorem ReadAlike.function_inversion {result type' : CType} {params : List CType}
    {isVariadic : Bool}
    (h : ReadAlike quals front front' (.function ⟨result, params, isVariadic⟩) type') :
    ∃ result' params', type' = .function ⟨result', params', isVariadic⟩ ∧
      ReadAlike quals front front' result result' ∧
      List.Forall₂ (ReadAlike quals 0 0) params params' := by
  have hb := h.bare
  cases type' with
  | function signature =>
      obtain ⟨result', params', isVariadic'⟩ := signature
      rw [CType.bare, CType.bare, CType.function.injEq, Signature.mk.injEq] at hb
      obtain ⟨hresult, hparams, rfl⟩ := hb
      have hi := h.inside
      rw [CType.constantsInside, CType.constantsInside] at hi
      -- The results have as many parameters inside, so the lists split at one place.
      obtain ⟨hinside, hall⟩ := List.append_inj hi (length_eq_of_bare hresult)
      exact ⟨result', params', rfl, ⟨hresult, h.constants, hinside⟩, forall_readAlike hparams hall⟩
  | _ => simp [CType.bare] at hb

theorem ReadAlike.isFunction {type type' : CType}
    (h : ReadAlike quals front front' type type') : type'.isFunction = type.isFunction := by
  rw [← isFunction_bare, ← h.bare, isFunction_bare]

theorem starBefore_marks (chars : List Char) (count : Nat) :
    starBefore (chars ++ constMarks count) = starBefore chars ++ constMarks count := by
  refine starBefore_append chars ?_
  have hhead := head?_marks count .nothing
  rwa [List.append_nil] at hhead

end

mutual

/-- Types that are read alike have the same text after the `const`s in front of
    them. -/
theorem text_of_readAlike {quals : Bool} : ∀ (type type' : CType) (front front' : Nat),
    type.isReadable → ReadAlike quals front front' type type' →
      fromEnd (type.spell quals) ++ constMarks front =
        fromEnd (type'.spell quals) ++ constMarks front'
  | .void, type', front, front', h, halike
  | .builtin _, type', front, front', h, halike
  | .named _, type', front, front', h, halike
  | .tagged _ _, type', front, front', h, halike
  | .enumeration _, type', front, front', h, halike => by
    obtain ⟨rfl, rfl⟩ := halike.word_inversion rfl
    rfl
  | .anonymous _, _, _, _, h, _ => absurd h (by simp [CType.isReadable])
  | .array element length, type', front, front', h, halike => by
    obtain ⟨element', rfl, helement⟩ := halike.array_inversion
    rw [CType.isReadable] at h
    have htext := text_of_readAlike element element' front front' h helement
    rw [fromEnd_spell_array, fromEnd_spell_array]
    simp only [List.cons_append, List.append_assoc, htext]
  | .function ⟨result, params, isVariadic⟩, type', front, front', h, halike => by
    obtain ⟨result', params', rfl, hresult, hparams⟩ := halike.function_inversion
    obtain ⟨hr, hp, -⟩ := isReadable_function.1 h
    rw [function_text, function_text, texts_of_readAlike params params' hp hparams,
      text_of_readAlike result result' front front' hr hresult]
  | .pointer pointee isConst, type', front, front', h, halike => by
    rw [CType.isReadable] at h
    obtain ⟨pointee', isConst', rfl, hpointee⟩ := halike.pointer_inversion
    cases pointee with
    | function signature =>
        obtain ⟨result, params, isVariadic⟩ := signature
        obtain ⟨result', params', rfl, hresult, hparams⟩ := hpointee.function_inversion
        obtain ⟨hr, hp, -⟩ := isReadable_function.1 h
        -- A pointer to a function puts no `const` in front.
        have hfront : ∀ (signature : Signature) (isConst : Bool) (front : Nat),
            (CType.function signature).ownConstants quals isConst + front = front :=
          fun _ _ front => Nat.zero_add front
        rw [hfront, hfront] at hresult
        rw [pointer_function_text, pointer_function_text,
          texts_of_readAlike params params' hp hparams,
          text_of_readAlike result result' front front' hr hresult]
    | _ =>
        -- Its own `const`s join those that are in front of it already.
        have htext := text_of_readAlike _ pointee' _ _ h hpointee
        rw [fromEnd_spell_pointer (by rfl), fromEnd_spell_pointer hpointee.isFunction,
          List.append_assoc, List.append_assoc, ← constMarks_add, ← constMarks_add,
          ← starBefore_marks, ← starBefore_marks, htext]

theorem texts_of_readAlike {quals : Bool} : ∀ types types' : List CType,
    (∀ type ∈ types, type.isReadable) → List.Forall₂ (ReadAlike quals 0 0) types types' →
      CType.spellAll quals types = CType.spellAll quals types'
  | [], types', _, halike => by
    cases halike
    rfl
  | type :: types, types', h, halike => by
    cases halike with
    | @cons _ type' _ types' hhead hrest =>
        have htext := text_of_readAlike type type' 0 0 (h type (List.mem_cons_self ..)) hhead
        have htexts := texts_of_readAlike types types'
          (fun other ho => h other (List.mem_cons_of_mem _ ho)) hrest
        rw [CType.spellAll, CType.spellAll,
          fromEnd_injective (List.append_cancel_right htext), htexts]

end

/-! ### Types in code -/

/-- Types that look alike in code: they differ in qualifiers only, and the text of
    each and of every parameter in it begins with as many `const`s. -/
def CType.LooksLike (type type' : CType) : Prop :=
  type.bare = type'.bare ∧ type.constants true = type'.constants true ∧
    type.constantsInside true = type'.constantsInside true

theorem looksLike_iff {type type' : CType} :
    type.LooksLike type' ↔ ReadAlike true 0 0 type type' := by
  constructor
  · exact fun ⟨hb, hc, hi⟩ => ⟨hb, congrArg (0 + ·) hc, hi⟩
  · exact fun h => ⟨h.bare, Nat.add_left_cancel h.constants, h.inside⟩

/-- Types that are read alike on their own have the same text. -/
theorem spell_of_readAlike {quals : Bool} {type type' : CType} (h : type.isReadable)
    (halike : ReadAlike quals 0 0 type type') : type.spell quals = type'.spell quals :=
  fromEnd_injective (List.append_cancel_right (text_of_readAlike type type' 0 0 h halike))

/-- Types have the same text exactly when they are read alike. -/
theorem spell_eq_iff {quals : Bool} {type type' : CType} (h : type.isReadable)
    (h' : type'.isReadable) :
    type.spell quals = type'.spell quals ↔ ReadAlike quals 0 0 type type' :=
  ⟨readAlike_of_spell h h', spell_of_readAlike h⟩

section
variable {name : String} {type type' : CType}

theorem declare_function (name : String) (result : CType) (params : List CType)
    (isVariadic isConst : Bool) :
    fromEnd ((CType.pointer (.function ⟨result, params, isVariadic⟩) isConst).declare name) =
      ')' :: (fromEnd (parameterList (CType.spellAll true params) isVariadic) ++
        '(' :: ')' :: (fromEnd name ++ '*' :: '(' :: ' ' :: fromEnd result.qualified)) := by
  rw [CType.declare]
  simp [fromEnd]
  rfl

theorem declare_array (name : String) (element : CType) (length : Nat) :
    fromEnd ((CType.array element length).declare name) =
      ']' :: ((Nat.toDigits 10 length).reverse ++
        '[' :: (fromEnd name ++ ' ' :: fromEnd element.qualified)) := by
  rw [CType.declare]
  simp [fromEnd, Nat.toString_eq_repr, Nat.toList_repr]
  rfl

/-- Where a declaration has its name. -/
theorem declare_cases (name : String) (type : CType) :
    (∃ result params isVariadic isConst,
      type = .pointer (.function ⟨result, params, isVariadic⟩) isConst) ∨
    (∃ element length, type = .array element length) ∨
    fromEnd (type.declare name) = fromEnd name ++ ' ' :: fromEnd type.qualified := by
  have hother : fromEnd s!"{type.qualified} {name}" =
      fromEnd name ++ ' ' :: fromEnd type.qualified := by
    simp [fromEnd]
    rfl
  cases type with
  | pointer pointee isConst =>
      cases pointee with
      | function signature =>
          obtain ⟨result, params, isVariadic⟩ := signature
          exact Or.inl ⟨result, params, isVariadic, isConst, rfl⟩
      | _ => exact Or.inr (Or.inr hother)
  | array element length => exact Or.inr (Or.inl ⟨element, length, rfl⟩)
  | _ => exact Or.inr (Or.inr hother)

/-- A text that ends with an identifier does not end with anything else. -/
theorem identifier_ne (hname : Text.isIdentifier name) {c : Char} (hc : Text.isWordChar c = false)
    (chars chars' : List Char) : fromEnd name ++ chars ≠ c :: chars' := by
  intro he
  have hwords : isWords (fromEnd name ++ []) := isWords_identifier hname rfl
  obtain ⟨first, rest, hfirst, hword⟩ := exists_of_isWords hwords
  rw [List.append_nil] at hfirst
  rw [hfirst] at he
  rw [(List.cons.inj he).1, hc] at hword
  cases hword

/-- A declaration that ends with parentheses tells a function pointer. -/
theorem readAlike_of_declare_function {result : CType} {params : List CType}
    {isVariadic isConst : Bool} (hname : Text.isIdentifier name)
    (h : (CType.pointer (.function ⟨result, params, isVariadic⟩) isConst).isReadable)
    (h' : type'.isReadable)
    (hd : (CType.pointer (.function ⟨result, params, isVariadic⟩) isConst).declare name =
      type'.declare name) :
    ReadAlike true 0 0 (.pointer (.function ⟨result, params, isVariadic⟩) isConst) type' := by
  have htext := congrArg fromEnd hd
  rw [declare_function] at htext
  rw [CType.isReadable] at h
  rcases declare_cases name type' with
    ⟨result', params', isVariadic', isConst', rfl⟩ | ⟨element', length', rfl⟩ | hother
  · rw [declare_function] at htext
    rw [CType.isReadable] at h'
    obtain ⟨hr, hp, -⟩ := isReadable_function.1 h
    obtain ⟨rfl, hforall, hbefore⟩ := reads_params (reads_all true params hp) h h'
      (List.cons.inj htext).2
    -- What is left is the name, the star and the result.
    have hresult := List.append_cancel_left (List.cons.inj hbefore).2
    have hspell := fromEnd_injective ((List.append_right_inj ['*', '(', ' ']).1 hresult)
    exact ((readAlike_of_spell hr (isReadable_function.1 h').1 hspell).function hforall
      isVariadic).pointer_function isConst isConst'
  · rw [declare_array] at htext
    exact absurd (List.cons.inj htext).1 (by decide)
  · rw [hother] at htext
    exact absurd htext.symm (identifier_ne hname (by decide) _ _)

/-- A declaration that ends with brackets tells an array. -/
theorem readAlike_of_declare_array {element : CType} {length : Nat}
    (hname : Text.isIdentifier name) (h : (CType.array element length).isReadable)
    (h' : type'.isReadable) (hd : (CType.array element length).declare name = type'.declare name) :
    ReadAlike true 0 0 (.array element length) type' := by
  have htext := congrArg fromEnd hd
  rw [declare_array] at htext
  rw [CType.isReadable] at h
  rcases declare_cases name type' with
    ⟨result', params', isVariadic', isConst', rfl⟩ | ⟨element', length', rfl⟩ | hother
  · rw [declare_function] at htext
    exact absurd (List.cons.inj htext).1 (by decide)
  · rw [declare_array] at htext
    rw [CType.isReadable] at h'
    obtain ⟨rfl, hfront⟩ := eq_of_numbered (by decide) (List.cons.inj htext).2
    have hspell := fromEnd_injective (List.cons.inj (List.append_cancel_left hfront)).2
    exact (readAlike_of_spell h h' hspell).array length
  · rw [hother] at htext
    exact absurd htext.symm (identifier_ne hname (by decide) _ _)

/-- A declaration tells as much of its type as the text of the type. -/
theorem readAlike_of_declare (hname : Text.isIdentifier name) (h : type.isReadable)
    (h' : type'.isReadable) (hd : type.declare name = type'.declare name) :
    ReadAlike true 0 0 type type' := by
  rcases declare_cases name type with
    ⟨result, params, isVariadic, isConst, rfl⟩ | ⟨element, length, rfl⟩ | hother
  · exact readAlike_of_declare_function hname h h' hd
  · exact readAlike_of_declare_array hname h h' hd
  rcases declare_cases name type' with
    ⟨result, params, isVariadic, isConst, rfl⟩ | ⟨element, length, rfl⟩ | hother'
  · exact (readAlike_of_declare_function hname h' h hd.symm).symm
  · exact (readAlike_of_declare_array hname h' h hd.symm).symm
  · have htext := congrArg fromEnd hd
    rw [hother, hother'] at htext
    exact readAlike_of_spell h h'
      (fromEnd_injective (List.cons.inj (List.append_cancel_left htext)).2)

theorem declare_function_of_readAlike {result : CType} {params : List CType}
    {isVariadic isConst : Bool}
    (h : (CType.pointer (.function ⟨result, params, isVariadic⟩) isConst).isReadable)
    (halike :
      ReadAlike true 0 0 (.pointer (.function ⟨result, params, isVariadic⟩) isConst) type') :
    (CType.pointer (.function ⟨result, params, isVariadic⟩) isConst).declare name =
      type'.declare name := by
  rw [CType.isReadable] at h
  obtain ⟨hr, hp, -⟩ := isReadable_function.1 h
  obtain ⟨pointee', isConst', rfl, hpointee⟩ := halike.pointer_inversion
  obtain ⟨result', params', rfl, hresult, hparams⟩ := hpointee.function_inversion
  refine fromEnd_injective ?_
  rw [declare_function, declare_function, texts_of_readAlike params params' hp hparams,
    CType.qualified, CType.qualified, spell_of_readAlike hr hresult]

theorem declare_array_of_readAlike {element : CType} {length : Nat}
    (h : (CType.array element length).isReadable)
    (halike : ReadAlike true 0 0 (.array element length) type') :
    (CType.array element length).declare name = type'.declare name := by
  rw [CType.isReadable] at h
  obtain ⟨element', rfl, helement⟩ := halike.array_inversion
  refine fromEnd_injective ?_
  rw [declare_array, declare_array, CType.qualified, CType.qualified,
    spell_of_readAlike h helement]

/-- Types that are read alike are declared alike. -/
theorem declare_of_readAlike (h : type.isReadable) (h' : type'.isReadable)
    (halike : ReadAlike true 0 0 type type') : type.declare name = type'.declare name := by
  rcases declare_cases name type with
    ⟨result, params, isVariadic, isConst, rfl⟩ | ⟨element, length, rfl⟩ | hother
  · exact declare_function_of_readAlike h halike
  · exact declare_array_of_readAlike h halike
  rcases declare_cases name type' with
    ⟨result, params, isVariadic, isConst, rfl⟩ | ⟨element, length, rfl⟩ | hother'
  · exact (declare_function_of_readAlike h' halike.symm).symm
  · exact (declare_array_of_readAlike h' halike.symm).symm
  · refine fromEnd_injective ?_
    rw [hother, hother', CType.qualified, CType.qualified, spell_of_readAlike h halike]

end

/-- Types look alike in code exactly when no more than the place of a `const`
    tells them apart: in declarations and on their own they have the same text
    exactly when they differ in qualifiers only and there are as many `const`s in
    front of each of them and of every parameter. -/
theorem written_alike_iff (type type' : CType) (h : type.isReadable) (h' : type'.isReadable) :
    (type.qualified = type'.qualified ↔ type.LooksLike type') ∧
      ∀ name, Text.isIdentifier name →
        (type.declare name = type'.declare name ↔ type.LooksLike type') := by
  rw [looksLike_iff]
  exact ⟨spell_eq_iff h h',
    fun name hname => ⟨readAlike_of_declare hname h h', declare_of_readAlike h h'⟩⟩

/-- A pointer to pointers to constant characters and a pointer to constant
    pointers to characters. -/
def textPointers : CType × CType :=
  (.pointer (.pointer (.builtin "char") true) false,
    .pointer (.pointer (.builtin "char") false) true)

/-- They look alike, and not like a pointer to pointers to characters that are not
    constant. -/
theorem textPointers_alike :
    textPointers.1.declare "x" = textPointers.2.declare "x" ∧
      textPointers.1.qualified ≠ (textPointers.1.bare).qualified := by
  have hr : textPointers.1.isReadable := by decide
  have hr' : textPointers.2.isReadable := by decide
  have hb : textPointers.1.bare.isReadable := by decide
  exact ⟨((written_alike_iff _ _ hr hr').2 "x" (by decide)).2 ⟨rfl, rfl, rfl⟩,
    fun hs => absurd ((written_alike_iff _ _ hr hb).1.1 hs).2.1 (by decide)⟩

/-- Types that differ in which pointee is constant have the same text in code. -/
theorem textPointers_confused :
    textPointers.1 ≠ textPointers.2 ∧ textPointers.1.isReadable ∧ textPointers.2.isReadable ∧
      textPointers.1.qualified = "const char **" ∧ textPointers.2.qualified = "const char **" ∧
      textPointers.1.declare "x" = "const char ** x" ∧
      textPointers.2.declare "x" = "const char ** x" := by
  refine ⟨fun h => ?_, by decide, by decide, by decide +kernel, by decide +kernel,
    by decide +kernel, by decide +kernel⟩
  cases h

end ScriptBind
