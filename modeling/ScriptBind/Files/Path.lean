/-!
# File Paths

Paths as they are written. Joining and taking the parent work on the text and
look at no file; nothing is simplified, so a path that comes back is the path
that went in, up to what was added or taken away.

## Main definitions

* `Path.isAbsolute`: Whether a path starts at the root.
* `Path.join`: A path taken from another.
* `Path.parent?`: The path without its last part.

## Theorems

* `join_of_isAbsolute`: An absolute path is taken from nowhere else.
* `isAbsolute_join`: What is taken from an absolute path is absolute.
* `isAbsolute_join_of_relative`: Nothing else makes it so.
-/

namespace ScriptBind

namespace Path

/-- Whether a path starts at the root. -/
def isAbsolute (path : String) : Bool := path.toList.head? == some '/'

/-- A path taken from another: the second follows the first after one slash,
    unless it is absolute. -/
def join (base path : String) : String :=
  if isAbsolute path then path
  else if base = "" then path
  else if base.toList.getLast? = some '/' then base ++ path
  else base ++ "/" ++ path

/-- An absolute path is taken from nowhere else. -/
theorem join_of_isAbsolute {path : String} (h : isAbsolute path) (base : String) :
    join base path = path := by
  rw [join, if_pos h]

/-- What is taken from an absolute path is absolute. -/
theorem isAbsolute_join {base : String} (h : isAbsolute base) (path : String) :
    isAbsolute (join base path) := by
  unfold join
  -- An absolute base starts with a slash, and stays in front of what follows.
  have hb : ∃ rest, base.toList = '/' :: rest := by
    rw [isAbsolute, beq_iff_eq] at h
    exact List.head?_eq_some_iff.1 h
  obtain ⟨rest, hb⟩ := hb
  split
  · assumption
  · split
    · next he => rw [he] at hb; exact absurd hb (by simp)
    · split
      · rw [isAbsolute, String.toList_append, hb]; rfl
      · rw [isAbsolute, String.toList_append, String.toList_append, hb]; rfl

/-- A path that is not absolute itself is made so only by what it is taken from. -/
theorem isAbsolute_join_of_relative {path : String} (h : isAbsolute path = false) (base : String) :
    isAbsolute (join base path) = isAbsolute base := by
  rw [join, if_neg (Bool.eq_false_iff.1 h)]
  split
  · next he => rw [he, h]; rfl
  · next hne =>
    -- What stands in front of the path decides.
    obtain ⟨first, rest, hb⟩ := List.exists_cons_of_ne_nil (mt String.toList_eq_nil_iff.1 hne)
    split
    · rw [isAbsolute, isAbsolute, String.toList_append, hb]; rfl
    · rw [isAbsolute, isAbsolute, String.toList_append, String.toList_append, hb]; rfl

/-- The parts of a path between slashes. -/
def parts (path : String) : List String := (path.toList.splitOn '/').map String.ofList

/-- Whether a part behind the first leads anywhere. -/
def isStep (part : String) : Bool := part != "" && part != "."

/-- Parts without those at their end that lead nowhere. -/
def withoutIdleEnd (parts : List String) : List String :=
  (parts.reverse.dropWhile (!isStep ·)).reverse

/-- The path without its last part, if it has one. The root has none, and a
    lone name leaves the empty path. -/
def parent? (path : String) : Option String :=
  match parts path with
  | [] => none
  | first :: more =>
    match withoutIdleEnd more with
    | [] => if first = "" then none else some ""
    | steps =>
      let kept := withoutIdleEnd steps.dropLast
      if first = "" ∧ kept = [] then some "/" else some ("/".intercalate (first :: kept))

end Path

end ScriptBind
