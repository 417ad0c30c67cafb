import ScriptBind.Text.Affix

/-!
# The Name of an Enum Group

C enums carry no name that could be trusted, but their members do: the members
of one enum start alike. The name of a group is what all its members start
with, cut back to whole segments, where a segment ends at an underscore.

## Main definitions

* `commonStart`: The longest beginning that two names share.
* `beforeLast?`: What stands before the last occurrence of a character.
* `groupName`: The name of the group of some names.

## Theorems

* `commonStart_left`, `commonStart_right`: The common beginning begins both
  names.
* `beforeLast?_eq_some`: What stands before the last occurrence begins the
  name.
-/

namespace ScriptBind

namespace Enums

/-- The longest beginning that two names share. -/
def commonStart : List Char → List Char → List Char
  | a :: as, b :: bs => if a = b then a :: commonStart as bs else []
  | _, _ => []

/-- The common beginning begins the left name. -/
theorem commonStart_left (a b : List Char) : commonStart a b <+: a := by
  fun_induction commonStart a b with
  | case1 x as bs ih => exact List.cons_prefix_cons.2 ⟨rfl, ih⟩
  | case2 => exact List.nil_prefix
  | case3 => exact List.nil_prefix

/-- The common beginning begins the right name. -/
theorem commonStart_right (a b : List Char) : commonStart a b <+: b := by
  fun_induction commonStart a b with
  | case1 x as bs ih => exact List.cons_prefix_cons.2 ⟨rfl, ih⟩
  | case2 => exact List.nil_prefix
  | case3 => exact List.nil_prefix

/-- What stands before the last occurrence of a character. -/
def beforeLast? (mark : Char) : List Char → Option (List Char)
  | [] => none
  | c :: rest =>
    match beforeLast? mark rest with
    | some front => some (c :: front)
    | none => if c = mark then some [] else none

/-- What stands before the last occurrence begins the name, and the character
    follows it. -/
theorem beforeLast?_eq_some {mark : Char} {text front : List Char}
    (h : beforeLast? mark text = some front) : front ++ [mark] <+: text := by
  induction text generalizing front with
  | nil => simp [beforeLast?] at h
  | cons c rest ih =>
    rw [beforeLast?] at h
    split at h
    · next f hf =>
      -- A later occurrence counts, so the character belongs to the front.
      rw [Option.some.injEq] at h
      subst h
      exact List.cons_prefix_cons.2 ⟨rfl, ih hf⟩
    · split at h
      · next hc =>
        rw [Option.some.injEq] at h
        subst h
        subst hc
        exact List.cons_prefix_cons.2 ⟨rfl, List.nil_prefix⟩
      · exact absurd h (by simp)

/-- The name of groups whose members do not start alike. -/
def plainGroup : String := "enum"

/-- The beginning that all of some names share. -/
def commonStartOf : List String → List Char
  | [] => []
  | name :: rest => (rest.map String.toList).foldl commonStart name.toList

/-- The name of the group of some names: the longest run of whole segments that
    all of them start with. -/
def groupName (names : List String) : String :=
  match beforeLast? '_' (commonStartOf names) with
  | some (c :: front) => String.ofList (c :: front)
  | _ => plainGroup

/-- What is left of a name after the name of its group. -/
def afterGroup (group name : String) : String :=
  if group = plainGroup then name
  else ((Text.dropPrefix? group name).bind (Text.dropPrefix? "_")).getD name

end Enums

end ScriptBind
