import ScriptBind.Proofs.ReadableTypes

/-!
# Reading a Type

The text of a type is read from its end. The last character says which kind of
type it is, and what the type is made of stands in front of it: the pointee of
a pointer, the element of an array, the parameters of a function and then its
result. A parameter ends where the text before it does, so no parentheses have
to be counted: whoever reads a type also says where it stops, and whatever can
stand in front of a type cannot be mistaken for a part of it.

So every readable type is read, by induction on the type, and the parameters of
a function are read one by one from the last. What is read are the type without
its qualifiers and the numbers of these, and no more than this decides which
types share a conversion.

## Theorems

* `reads`: The text of a type tells the type and where the text begins.
* `readAlike_of_spell`: Types with the same text are read alike.
* `conversion_shared_iff`: Types share a conversion exactly when they differ in
  qualifiers only.
-/

namespace ScriptBind

/-! ### Reading what a type is made of -/

section
variable {quals : Bool}

/-- Words are read. -/
theorem reads_word {type : CType} (hw : type.isWord) (h : type.isReadable) : type.Reads quals := by
  intro type' h' front front' rest rest' hs hs' he
  have hw' : type'.isWord := isWord_iff.2 ((ending_of_reading h h' he) ▸ isWord_iff.1 hw)
  have hn := isWellNamed_of_isWord hw h
  have hn' := isWellNamed_of_isWord hw' h'
  have hall : ∀ {type : CType}, type.isWord → type.isWellNamed → ∀ front,
      ∀ c ∈ fromEnd type.spelling ++ constMarks front, isInWords c := by
    intro type hw hn front c hc
    rcases List.mem_append.1 hc with hc | hc
    · exact all_of_isWords (isWords_spelling hw hn) c hc
    · exact all_constMarks front c hc
  rw [spell_of_isWord hw, spell_of_isWord hw', ← List.append_assoc, ← List.append_assoc] at he
  obtain ⟨hwords, hrest⟩ := eq_of_stops (hall hw hn front) (hall hw' hn' front') hs hs' he
  obtain ⟨hfront, hspelling⟩ := eq_of_words_marks hw hw' hn hn' front front' hwords
  rw [hfront, eq_of_spelling_word hw hw' hn hn' hspelling]
  exact ⟨⟨rfl, rfl, rfl⟩, hrest⟩

/-- An array is read if its elements are. -/
theorem reads_array {element : CType} {length : Nat} (he : element.Reads quals)
    (h : (CType.array element length).isReadable) : (CType.array element length).Reads quals := by
  intro type' h' front front' rest rest' hs hs' htext
  obtain ⟨element', length', rfl⟩ := eq_array_of_ending (ending_of_reading h h' htext).symm
  rw [CType.isReadable] at h'
  rw [fromEnd_spell_array, fromEnd_spell_array] at htext
  have hstop : '['.isDigit = false := by decide
  obtain ⟨rfl, hfront⟩ := eq_of_numbered hstop (by simpa using htext)
  obtain ⟨halike, hrest⟩ := he element' h' front front' rest rest' hs hs' (List.cons.inj hfront).2
  exact ⟨halike.array length, hrest⟩

/-- A pointer to anything but a function is read if its pointee is. -/
theorem reads_pointer {pointee : CType} {isConst : Bool} (hf : pointee.isFunction = false)
    (hp : pointee.Reads quals) (h : (CType.pointer pointee isConst).isReadable) :
    (CType.pointer pointee isConst).Reads quals := by
  intro type' h' front front' rest rest' hs hs' htext
  have hstar : (CType.pointer pointee isConst).ending = some '*' := by rw [CType.ending, hf]; rfl
  obtain ⟨pointee', isConst', rfl, hf'⟩ :=
    eq_pointer_of_ending ((ending_of_reading h h' htext).symm.trans hstar)
  rw [CType.isReadable] at h'
  -- The `const`s of the pointer join those in front of it, and go to the pointee.
  rw [fromEnd_spell_pointer hf, fromEnd_spell_pointer hf', List.append_assoc, List.append_assoc,
    ← List.append_assoc (constMarks _), ← List.append_assoc (constMarks _), ← constMarks_add,
    ← constMarks_add, ← starBefore_append _ (head?_marks _ hs),
    ← starBefore_append _ (head?_marks _ hs')] at htext
  obtain ⟨halike, hrest⟩ := hp pointee' h' _ _ rest rest' hs hs' (starBefore_injective htext)
  exact ⟨halike.pointer, hrest⟩

/-! ### Reading a parameter list -/

/-- Types in front of another in a parameter list, the closest first, and what
    stands in front of them all. -/
def inFront (quals : Bool) (start : List Char) (types : List CType) : List Char :=
  types.foldr (fun type chars => ' ' :: ',' :: (fromEnd (type.spell quals) ++ chars)) start

theorem stops_inFront {start : List Char} (h : Stops start) (types : List CType) :
    Stops (inFront quals start types) := by
  cases types with
  | nil => exact h
  | cons type types => exact .comma _

/-- Types in front of another are read if each of them is. -/
theorem eq_of_inFront {types types' : List CType} (hr : ∀ type ∈ types, type.Reads quals)
    (h' : ∀ type ∈ types', type.isReadable) {rest rest' : List Char}
    (he : inFront quals ('(' :: rest) types = inFront quals ('(' :: rest') types') :
    List.Forall₂ (ReadAlike quals 0 0) types types' ∧ rest = rest' := by
  induction types generalizing types' with
  | nil =>
      cases types' with
      | nil => exact ⟨.nil, (List.cons.inj he).2⟩
      | cons type' types' => exact absurd (List.cons.inj he).1 (by decide)
  | cons type types ih =>
      cases types' with
      | nil => exact absurd (List.cons.inj he).1 (by decide)
      | cons type' types' =>
          -- After the comma and the blank comes the next type.
          have htext := (List.cons.inj (List.cons.inj he).2).2
          obtain ⟨halike, hrest⟩ := hr type (List.mem_cons_self ..) type'
            (h' type' (List.mem_cons_self ..)) 0 0 _ _ (stops_inFront (.opening rest) types)
            (stops_inFront (.opening rest') types') htext
          obtain ⟨hforall, hstart⟩ := ih (fun other ho => hr other (List.mem_cons_of_mem _ ho))
            (fun other ho => h' other (List.mem_cons_of_mem _ ho)) hrest
          exact ⟨.cons halike hforall, hstart⟩

/-- The texts of types with one more text after them. -/
theorem fromEnd_intercalate (types : List CType) (last : String) (start : List Char) :
    fromEnd (", ".intercalate (CType.spellAll quals types ++ [last])) ++ start =
      fromEnd last ++ inFront quals start types.reverse := by
  induction types generalizing start with
  | nil =>
      rw [CType.spellAll, List.nil_append, String.intercalate_singleton]
      rfl
  | cons type types ih =>
      -- Some text follows, so a comma does.
      obtain ⟨next, texts, hnext⟩ :=
        List.exists_cons_of_ne_nil (List.append_ne_nil_of_right_ne_nil (CType.spellAll quals types)
          (List.cons_ne_nil last []))
      rw [CType.spellAll, List.cons_append, hnext, String.intercalate_cons_cons, ← hnext,
        fromEnd_append, fromEnd_append, List.append_assoc, List.append_assoc, ih,
        List.reverse_cons, inFront, inFront, List.foldr_append]
      rfl

theorem parameterList_nil : parameterList [] false = "void" := rfl

theorem parameterList_concat (texts : List String) (last : String) :
    parameterList (texts ++ [last]) false = ", ".intercalate (texts ++ [last]) := by
  unfold parameterList
  rw [if_neg Bool.false_ne_true, List.append_nil]
  split
  · next he => exact absurd he (by simp)
  · rfl

theorem parameterList_variadic (texts : List String) :
    parameterList texts true = ", ".intercalate (texts ++ ["..."]) := by
  unfold parameterList
  rw [if_pos rfl]
  split
  · next he => exact absurd he (by simp)
  · rfl

theorem fromEnd_params_concat (types : List CType) (type : CType) (start : List Char) :
    fromEnd (parameterList (CType.spellAll quals (types ++ [type])) false) ++ start =
      fromEnd (type.spell quals) ++ inFront quals start types.reverse := by
  rw [← fromEnd_intercalate, ← parameterList_concat, CType.spellAll_eq_map, CType.spellAll_eq_map,
    List.map_append]
  rfl

theorem fromEnd_params_variadic (types : List CType) (start : List Char) :
    fromEnd (parameterList (CType.spellAll quals types) true) ++ start =
      fromEnd "..." ++ inFront quals start types.reverse := by
  rw [← fromEnd_intercalate, ← parameterList_variadic]

/-- Only a lone `void` is written like no parameters. -/
theorem eq_void_of_inFront {type : CType} (h : type.isReadable) {types : List CType}
    {rest rest' : List Char}
    (he : fromEnd "void" ++ '(' :: rest =
      fromEnd (type.spell quals) ++ inFront quals ('(' :: rest') types) :
    type = .void ∧ types = [] := by
  have hvoid : CType.void.spell quals = "void" := by rw [CType.spell]
  obtain ⟨halike, hrest⟩ := reads_word rfl rfl type h 0 0 _ _ (.opening rest)
    (stops_inFront (.opening rest') types) (hvoid ▸ he)
  constructor
  · have hbare := halike.bare
    cases type with
    | void => rfl
    | function signature =>
        obtain ⟨result, params, isVariadic⟩ := signature
        simp [CType.bare] at hbare
    | _ => simp [CType.bare] at hbare
  · cases types with
    | nil => rfl
    | cons first types => exact absurd (List.cons.inj hrest).1 (by decide)

/-- A type does not end with a dot. -/
theorem dots_ne_type {type : CType} (h : type.isReadable) (chars chars' : List Char) :
    fromEnd "..." ++ chars ≠ fromEnd (type.spell quals) ++ chars' := by
  intro he
  obtain ⟨c, rest, hc, hend⟩ := exists_ending quals h
  rw [hc] at he
  rw [show c = '.' from (List.cons.inj he).1.symm, if_neg (by decide)] at hend
  cases type with
  | pointer pointee isConst => exact absurd hend (ending_pointer_ne (by decide) (by decide))
  | _ => exact absurd hend (by simp [CType.ending])

/-- A parameter list that ends with dots is not one that ends with a type. -/
theorem dots_ne_params {params : List CType} (h : ∀ type ∈ params, type.isReadable)
    (chars chars' : List Char) :
    fromEnd "..." ++ chars ≠
      fromEnd (parameterList (CType.spellAll quals params) false) ++ chars' := by
  rcases List.eq_nil_or_concat' params with rfl | ⟨types, type, rfl⟩
  · rw [CType.spellAll, parameterList_nil]
    exact fun he => absurd (congrArg List.head? he) (by simp [fromEnd])
  · rw [fromEnd_params_concat]
    exact dots_ne_type (h type (List.mem_append_right _ (List.mem_singleton_self _))) _ _

/-- A parameter list without dots is read if every parameter is. -/
theorem reads_fixed {params params' : List CType} (hr : ∀ type ∈ params, type.Reads quals)
    (h : ∀ type ∈ params, type.isReadable) (h' : ∀ type ∈ params', type.isReadable)
    (hv : isLoneVoid params = false) (hv' : isLoneVoid params' = false) {rest rest' : List Char}
    (he : fromEnd (parameterList (CType.spellAll quals params) false) ++ '(' :: rest =
      fromEnd (parameterList (CType.spellAll quals params') false) ++ '(' :: rest') :
    List.Forall₂ (ReadAlike quals 0 0) params params' ∧ rest = rest' := by
  have hlast : ∀ (types : List CType) (type : CType), type ∈ types ++ [type] := fun types type =>
    List.mem_append_right _ (List.mem_singleton_self _)
  rcases List.eq_nil_or_concat' params with rfl | ⟨types, type, rfl⟩
  · rcases List.eq_nil_or_concat' params' with rfl | ⟨types', type', rfl⟩
    · exact ⟨.nil, (List.cons.inj (List.append_cancel_left he)).2⟩
    · rw [fromEnd_params_concat] at he
      obtain ⟨rfl, hnil⟩ := eq_void_of_inFront (h' type' (hlast ..)) he
      rw [List.reverse_eq_nil_iff.1 hnil] at hv'
      exact absurd hv' (by decide)
  · rw [fromEnd_params_concat] at he
    rcases List.eq_nil_or_concat' params' with rfl | ⟨types', type', rfl⟩
    · obtain ⟨rfl, hnil⟩ := eq_void_of_inFront (h type (hlast ..)) he.symm
      rw [List.reverse_eq_nil_iff.1 hnil] at hv
      exact absurd hv (by decide)
    · rw [fromEnd_params_concat] at he
      obtain ⟨halike, hfront⟩ := hr type (hlast ..) type' (h' type' (hlast ..)) 0 0 _ _
        (stops_inFront (.opening rest) _) (stops_inFront (.opening rest') _) he
      obtain ⟨hforall, hrest⟩ := eq_of_inFront
        (fun other ho => hr other (List.mem_append_left _ (List.mem_reverse.1 ho)))
        (fun other ho => h' other (List.mem_append_left _ (List.mem_reverse.1 ho))) hfront
      exact ⟨List.rel_append (List.forall₂_reverse_iff.1 hforall) (.cons halike .nil), hrest⟩

theorem isReadable_function {result : CType} {params : List CType} {isVariadic : Bool} :
    (CType.function ⟨result, params, isVariadic⟩).isReadable ↔
      result.isReadable ∧ (∀ type ∈ params, type.isReadable) ∧
        (isVariadic = false → isLoneVoid params = false) := by
  have hall : areReadable params ↔ ∀ type ∈ params, type.isReadable := by
    induction params with
    | nil => simp [areReadable]
    | cons type params ih => simp [areReadable, ih]
  rw [CType.isReadable, Bool.and_eq_true, Bool.and_eq_true, hall, and_assoc]
  cases isVariadic <;> simp

/-- The parameters of a function and what stands in front of them are read if
    every parameter is. -/
theorem reads_params {result result' : CType} {params params' : List CType}
    {isVariadic isVariadic' : Bool} (hr : ∀ type ∈ params, type.Reads quals)
    (h : (CType.function ⟨result, params, isVariadic⟩).isReadable)
    (h' : (CType.function ⟨result', params', isVariadic'⟩).isReadable) {rest rest' : List Char}
    (he : fromEnd (parameterList (CType.spellAll quals params) isVariadic) ++ '(' :: rest =
      fromEnd (parameterList (CType.spellAll quals params') isVariadic') ++ '(' :: rest') :
    isVariadic = isVariadic' ∧ List.Forall₂ (ReadAlike quals 0 0) params params' ∧
      rest = rest' := by
  obtain ⟨-, hall, hv⟩ := isReadable_function.1 h
  obtain ⟨-, hall', hv'⟩ := isReadable_function.1 h'
  cases isVariadic with
  | false =>
      cases isVariadic' with
      | false => exact ⟨rfl, reads_fixed hr hall hall' (hv rfl) (hv' rfl) he⟩
      | true =>
          rw [fromEnd_params_variadic] at he
          exact absurd he.symm (dots_ne_params hall _ _)
  | true =>
      rw [fromEnd_params_variadic] at he
      cases isVariadic' with
      | false => exact absurd he (dots_ne_params hall' _ _)
      | true =>
          rw [fromEnd_params_variadic] at he
          obtain ⟨hforall, hrest⟩ := eq_of_inFront (fun type ht => hr type (List.mem_reverse.1 ht))
            (fun type ht => hall' type (List.mem_reverse.1 ht)) (List.append_cancel_left he)
          exact ⟨rfl, List.forall₂_reverse_iff.1 hforall, hrest⟩

/-! ### Reading a type -/

theorem function_text (result : CType) (params : List CType) (isVariadic : Bool)
    (chars : List Char) :
    fromEnd ((CType.function ⟨result, params, isVariadic⟩).spell quals) ++ chars =
      ')' :: (fromEnd (parameterList (CType.spellAll quals params) isVariadic) ++
        '(' :: ' ' :: (fromEnd (result.spell quals) ++ chars)) := by
  rw [fromEnd_spell_function, List.append_assoc]
  rfl

theorem pointer_function_text (result : CType) (params : List CType) (isVariadic isConst : Bool)
    (chars : List Char) :
    fromEnd ((CType.pointer (.function ⟨result, params, isVariadic⟩) isConst).spell quals) ++
        chars =
      ')' :: (fromEnd (parameterList (CType.spellAll quals params) isVariadic) ++
        '(' :: ')' :: '*' :: '(' :: ' ' :: (fromEnd (result.spell quals) ++ chars)) := by
  rw [fromEnd_spell_pointer_function, List.append_assoc]
  rfl

/-- A function is read if its result and its parameters are. -/
theorem reads_function {result : CType} {params : List CType} {isVariadic : Bool}
    (hresult : result.Reads quals) (hparams : ∀ type ∈ params, type.Reads quals)
    (h : (CType.function ⟨result, params, isVariadic⟩).isReadable) :
    (CType.function ⟨result, params, isVariadic⟩).Reads quals := by
  intro type' h' front front' rest rest' hs hs' htext
  obtain ⟨⟨result', params', isVariadic'⟩, hkind⟩ :=
    eq_function_of_ending (ending_of_reading h h' htext).symm
  rw [function_text] at htext
  rcases hkind with rfl | ⟨isConst', rfl⟩
  · rw [function_text] at htext
    obtain ⟨rfl, hforall, hbefore⟩ := reads_params hparams h h' (List.cons.inj htext).2
    obtain ⟨halike, hrest⟩ := hresult result' (isReadable_function.1 h').1 front front' rest rest'
      hs hs' (List.cons.inj hbefore).2
    exact ⟨halike.function hforall isVariadic, hrest⟩
  · rw [pointer_function_text] at htext
    rw [CType.isReadable] at h'
    obtain ⟨-, -, hbefore⟩ := reads_params hparams h h' (List.cons.inj htext).2
    exact absurd (List.cons.inj hbefore).1 (by decide)

/-- A pointer to a function is read if the result and the parameters are. -/
theorem reads_pointer_function {result : CType} {params : List CType} {isVariadic isConst : Bool}
    (hresult : result.Reads quals) (hparams : ∀ type ∈ params, type.Reads quals)
    (h : (CType.pointer (.function ⟨result, params, isVariadic⟩) isConst).isReadable) :
    (CType.pointer (.function ⟨result, params, isVariadic⟩) isConst).Reads quals := by
  intro type' h' front front' rest rest' hs hs' htext
  obtain ⟨⟨result', params', isVariadic'⟩, hkind⟩ :=
    eq_function_of_ending (ending_of_reading h h' htext).symm
  rw [CType.isReadable] at h
  rw [pointer_function_text] at htext
  rcases hkind with rfl | ⟨isConst', rfl⟩
  · rw [function_text] at htext
    obtain ⟨-, -, hbefore⟩ := reads_params hparams h h' (List.cons.inj htext).2
    exact absurd (List.cons.inj hbefore).1 (by decide)
  · rw [pointer_function_text] at htext
    rw [CType.isReadable] at h'
    obtain ⟨rfl, hforall, hbefore⟩ := reads_params hparams h h' (List.cons.inj htext).2
    have htail := (List.append_right_inj [')', '*', '(', ' ']).1 hbefore
    obtain ⟨halike, hrest⟩ := hresult result' (isReadable_function.1 h').1 front front' rest rest'
      hs hs' htail
    exact ⟨(halike.function hforall isVariadic).pointer_function isConst isConst', hrest⟩

end

mutual

/-- The text of a type tells the type and where the text begins. -/
theorem reads (quals : Bool) : ∀ type : CType, type.isReadable → type.Reads quals
  | .void, h => reads_word rfl h
  | .builtin _, h => reads_word rfl h
  | .named _, h => reads_word rfl h
  | .tagged _ _, h => reads_word rfl h
  | .enumeration _, h => reads_word rfl h
  | .anonymous _, h => absurd h (by simp [CType.isReadable])
  | .array element _, h => reads_array (reads quals element (by rwa [CType.isReadable] at h)) h
  | .function ⟨result, params, _⟩, h =>
    have ⟨hresult, hparams, _⟩ := isReadable_function.1 h
    reads_function (reads quals result hresult) (reads_all quals params hparams) h
  | .pointer pointee isConst, h => by
    have hp : pointee.isReadable := by rwa [CType.isReadable] at h
    cases pointee with
    | function signature =>
        -- The star stands inside, so the function is not read first.
        obtain ⟨result, params, isVariadic⟩ := signature
        obtain ⟨hresult, hparams, -⟩ := isReadable_function.1 hp
        exact reads_pointer_function (reads quals result hresult) (reads_all quals params hparams) h
    | _ => exact reads_pointer rfl (reads quals _ hp) h

theorem reads_all (quals : Bool) : ∀ types : List CType, (∀ type ∈ types, type.isReadable) →
    ∀ type ∈ types, type.Reads quals
  | [], _ => fun _ ht => by cases ht
  | type :: types, h => by
    have htype := reads quals type (h type (List.mem_cons_self ..))
    have htypes := reads_all quals types fun other ho => h other (List.mem_cons_of_mem _ ho)
    intro other ho
    rcases List.mem_cons.1 ho with rfl | ho
    · exact htype
    · exact htypes other ho

end

/-- Types with the same text are read alike. -/
theorem readAlike_of_spell {quals : Bool} {type type' : CType} (h : type.isReadable)
    (h' : type'.isReadable) (hs : type.spell quals = type'.spell quals) :
    ReadAlike quals 0 0 type type' :=
  (reads quals type h type' h' 0 0 [] [] .nothing .nothing (by rw [hs])).1

theorem isFunction_bare (type : CType) : type.bare.isFunction = type.isFunction := by
  cases type with
  | function signature =>
      obtain ⟨result, params, isVariadic⟩ := signature
      rfl
  | _ => rfl

mutual

/-- A type without its qualifiers has the spelling of the type. -/
theorem spelling_bare : ∀ type : CType, type.bare.spelling = type.spelling
  | .void | .builtin _ | .named _ | .tagged _ _ | .enumeration _ | .anonymous _ => by
    rw [CType.bare]
  | .array element _ => by
    have he := spelling_bare element
    rw [CType.spelling, CType.spelling] at he
    rw [CType.bare, CType.spelling, CType.spelling, CType.spell, CType.spell, he]
  | .function ⟨result, params, _⟩ => by
    have hr := spelling_bare result
    rw [CType.spelling, CType.spelling] at hr
    rw [CType.bare, CType.spelling, CType.spelling, CType.spell, CType.spell, hr,
      spellAll_bareAll params]
  | .pointer pointee isConst => by
    cases pointee with
    | function signature =>
        obtain ⟨result, params, isVariadic⟩ := signature
        have hr := spelling_bare result
        rw [CType.spelling, CType.spelling] at hr
        rw [CType.bare, CType.bare, CType.spelling, CType.spelling, CType.spell, CType.spell, hr,
          spellAll_bareAll params]
    | _ =>
        rw [CType.bare, spelling_pointer (by rw [isFunction_bare]; rfl),
          spelling_pointer (by rfl), spelling_bare _]

theorem spellAll_bareAll : ∀ types : List CType,
    CType.spellAll false (bareAll types) = CType.spellAll false types
  | [] => by rw [bareAll]
  | type :: types => by
    have ht := spelling_bare type
    rw [CType.spelling, CType.spelling] at ht
    rw [bareAll, CType.spellAll, CType.spellAll, ht, spellAll_bareAll types]

end

/-- Types have the same spelling exactly when they differ in qualifiers only. -/
theorem spelling_eq_iff {type type' : CType} (h : type.isReadable) (h' : type'.isReadable) :
    type.spelling = type'.spelling ↔ type.bare = type'.bare := by
  constructor
  · exact fun hs => (readAlike_of_spell h h' hs).bare
  · intro hb
    rw [← spelling_bare type, hb, spelling_bare]

/-- The spelling of a type identifies the type but for its qualifiers: a
    conversion remembered for one type is found for another exactly when they
    differ in qualifiers only. -/
theorem conversion_shared_iff (type type' : CType) (h : type.isReadable) (h' : type'.isReadable) :
    (type.spelling = type'.spelling ↔ type.bare = type'.bare) ∧
      ∀ (session : Session) (conversion : Conversion),
        session.registry.get? type'.spelling = none →
          ((session.addConversion type.spelling conversion).registry.get? type'.spelling =
            some conversion ↔ type.bare = type'.bare) := by
  refine ⟨spelling_eq_iff h h', fun session conversion hnone => ?_⟩
  rw [← spelling_eq_iff h h', Session.addConversion, Table.get?_add, hnone, Option.none_or]
  split
  · next he => exact iff_of_true rfl he
  · next he => exact iff_of_false (fun hs => by cases hs) he

/-- A callback that takes a constant text and one that takes any text share
    their conversion, and one that takes more arguments has another. -/
theorem conversion_shared_callbacks :
    let text (isConst : Bool) : CType := .pointer (.builtin "char") isConst
    let callback (isConst isVariadic : Bool) : CType :=
      .pointer (.function ⟨.void, [text isConst, .named "lv_coord_t"], isVariadic⟩) false
    (callback true false).spelling = (callback false false).spelling ∧
      (callback true false).spelling ≠ (callback false true).spelling := by
  intro text callback
  have hr : ∀ isConst isVariadic, (callback isConst isVariadic).isReadable := by decide
  exact ⟨(conversion_shared_iff _ _ (hr ..) (hr ..)).1.2 rfl,
    fun hs => absurd ((conversion_shared_iff _ _ (hr ..) (hr ..)).1.1 hs)
      (by simp [callback, CType.bare])⟩

end ScriptBind
