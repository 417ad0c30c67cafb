/-!
# Text inside C Comments

A text quoted in a comment must not close the comment. The closing mark is a
star followed by a slash; a blank between the two takes its meaning away and
leaves the text readable.

## Main definitions

* `hasClosingMark`: Whether a list of characters holds a closing mark.
* `commentSafe`: A text with every closing mark taken apart.

## Theorems

* `hasClosingMark_separate`: No closing mark is left.
-/

namespace ScriptBind

namespace Text

/-- Whether a star is followed by a slash somewhere. -/
def hasClosingMark : List Char → Bool
  | '*' :: '/' :: _ => true
  | _ :: rest => hasClosingMark rest
  | [] => false

/-- A blank between every star and a slash that follows it. -/
def separate : List Char → List Char
  | '*' :: '/' :: rest => '*' :: ' ' :: '/' :: separate rest
  | c :: rest => c :: separate rest
  | [] => []

/-- A text with every closing mark taken apart. -/
def commentSafe (text : String) : String := String.ofList (separate text.toList)

/-- The first character stays. -/
theorem head?_separate (text : List Char) : (separate text).head? = text.head? := by
  fun_cases separate text <;> simp

theorem hasClosingMark_cons {c : Char} {rest : List Char} (h : c = '*' → rest.head? ≠ some '/') :
    hasClosingMark (c :: rest) = hasClosingMark rest := by
  rw [hasClosingMark]
  intro tail hc ht
  exact h hc (by rw [ht, List.head?_cons])

/-- No closing mark is left. -/
theorem hasClosingMark_separate (text : List Char) : hasClosingMark (separate text) = false := by
  fun_induction separate text with
  | case1 rest ih =>
    -- A blank stands between the two characters of the mark.
    have h : hasClosingMark ('/' :: separate rest) = hasClosingMark (separate rest) :=
      hasClosingMark_cons (by simp)
    have h' : hasClosingMark (' ' :: '/' :: separate rest) =
        hasClosingMark ('/' :: separate rest) :=
      hasClosingMark_cons (by simp)
    rw [hasClosingMark_cons (by simp), h', h, ih]
  | case2 c rest hc ih =>
    rw [hasClosingMark_cons, ih]
    -- A star is followed by what followed it before, which is no slash.
    intro e
    rw [head?_separate]
    subst e
    intro hh
    cases rest with
    | nil => simp at hh
    | cons d rest =>
      rw [List.head?_cons, Option.some.injEq] at hh
      exact hc rest rfl (by rw [hh])
  | case3 => rfl

end Text

end ScriptBind
