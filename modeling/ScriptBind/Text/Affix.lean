/-!
# Beginnings, Ends and Parts of Names

The naming conventions of a C library are read off the beginnings and ends of
its names, sometimes without regard to case. The functions here take a name
apart at such a place; each says no rather than guess when the place is not
there.

Case is that of the twenty-six ASCII letters throughout. Any other character
stands only for itself.

## Main definitions

* `dropPrefix?`: What follows a given beginning.
* `dropSuffix?`: What comes before a given end.
* `dropPrefixAnyCase?`: What follows a given beginning, in any case.
* `eqAnyCase`: Equality in any case.
* `occursIn`: Whether a text holds another.

## Theorems

* `dropPrefix?_eq_some_iff`: A beginning and what follows it make the text.
* `dropSuffix?_eq_some_iff`: What comes before an end and the end make the text.
-/

namespace ScriptBind

namespace Text

/-- The rest of a list of characters after a given beginning. -/
def restAfter? : List Char → List Char → Option (List Char)
  | [], text => some text
  | _ :: _, [] => none
  | l :: lead, c :: text => if l = c then restAfter? lead text else none

theorem restAfter?_eq_some_iff {lead text rest : List Char} :
    restAfter? lead text = some rest ↔ text = lead ++ rest := by
  induction lead generalizing text with
  | nil => simp [restAfter?]
  | cons l lead ih =>
    cases text with
    | nil => simp [restAfter?]
    | cons c text =>
      by_cases h : l = c
      · subst h
        simp only [restAfter?, if_true, ih, List.cons_append, List.cons.injEq, true_and]
      · have h' : ¬ c = l := fun e => h e.symm
        simp [restAfter?, h, h']

/-- What is left of a text after its given beginning. -/
def dropPrefix? (lead text : String) : Option String :=
  (restAfter? lead.toList text.toList).map String.ofList

/-- What is left of a text before its given end. -/
def dropSuffix? (tail text : String) : Option String :=
  (restAfter? tail.toList.reverse text.toList.reverse).map fun rest =>
    String.ofList rest.reverse

/-- Whether a text begins with another. -/
def startsWith (lead text : String) : Bool := (dropPrefix? lead text).isSome

/-- Whether a text ends with another. -/
def endsWith (tail text : String) : Bool := (dropSuffix? tail text).isSome

/-- The rest of a list of characters after a beginning, in any case. -/
def restAnyCase? : List Char → List Char → Option (List Char)
  | [], text => some text
  | _ :: _, [] => none
  | l :: lead, c :: text => if l.toLower = c.toLower then restAnyCase? lead text else none

/-- What is left of a text after its given beginning, in any case. -/
def dropPrefixAnyCase? (lead text : String) : Option String :=
  (restAnyCase? lead.toList text.toList).map String.ofList

/-- Whether two texts are equal in any case. -/
def eqAnyCase (a b : String) : Bool :=
  a.toList.map Char.toLower == b.toList.map Char.toLower

/-- Whether one list of characters stands somewhere in another. -/
def occursInList (part : List Char) : List Char → Bool
  | [] => part.isEmpty
  | c :: text => part.isPrefixOf (c :: text) || occursInList part text

/-- Whether one text stands somewhere in another. -/
def occursIn (part text : String) : Bool := occursInList part.toList text.toList

/-- A text in which each character is replaced by a text of its own. -/
def substitute (f : Char → String) (text : String) : String :=
  String.join (text.toList.map f)

/-- A beginning and what follows it make the text. -/
theorem dropPrefix?_eq_some_iff {lead text rest : String} :
    dropPrefix? lead text = some rest ↔ text = lead ++ rest := by
  rw [dropPrefix?, Option.map_eq_some_iff]
  constructor
  · rintro ⟨l, hl, rfl⟩
    rw [restAfter?_eq_some_iff] at hl
    rw [← String.ofList_toList (s := text), hl, String.ofList_append, String.ofList_toList]
  · rintro rfl
    refine ⟨rest.toList, ?_, String.ofList_toList⟩
    rw [String.toList_append, restAfter?_eq_some_iff]

/-- What comes before an end and the end make the text. -/
theorem dropSuffix?_eq_some_iff {tail text rest : String} :
    dropSuffix? tail text = some rest ↔ text = rest ++ tail := by
  rw [dropSuffix?, Option.map_eq_some_iff]
  constructor
  · rintro ⟨l, hl, rfl⟩
    rw [restAfter?_eq_some_iff] at hl
    have ht : text.toList = l.reverse ++ tail.toList := by
      rw [← List.reverse_reverse text.toList, hl, List.reverse_append, List.reverse_reverse]
    rw [← String.ofList_toList (s := text), ht, String.ofList_append, String.ofList_toList]
  · rintro rfl
    refine ⟨rest.toList.reverse, ?_, ?_⟩
    · rw [String.toList_append, List.reverse_append, restAfter?_eq_some_iff]
    · rw [List.reverse_reverse, String.ofList_toList]

end Text

end ScriptBind
