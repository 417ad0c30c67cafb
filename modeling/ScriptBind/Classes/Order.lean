import ScriptBind.Classes.Basic

/-!
# The Order of Classes

A class takes over the table of its parent, so parents are written first. Each
class in turn is preceded by those of its ancestors that have not been placed
yet; the line of ancestors is followed up to a placed class, to a class that is
not there, or to one it has already met.

## Main definitions

* `lineTo`: A class with its unplaced ancestors, the oldest first.
* `placed`: The names of classes and ancestors in the order of writing.
* `ClassModel.inOrder`: The classes in the order of writing.

## Theorems

* `lineTo_suffix`: A line only grows at its older end.
-/

namespace ScriptBind

/-- A line of classes continued by the unplaced ancestors of its oldest member,
    the oldest first. -/
def lineTo (classes : Table ScriptClass) (before : List String) :
    Nat → List String → Option String → List String
  | 0, line, _ => line
  | _ + 1, line, none => line
  | steps + 1, line, some name =>
    if before.contains name || line.contains name then line
    else lineTo classes before steps (name :: line) ((classes.get? name).bind ScriptClass.parent)

/-- A line only grows at its older end. -/
theorem lineTo_suffix (classes : Table ScriptClass) (before line : List String) (steps : Nat)
    (next : Option String) : line <:+ lineTo classes before steps line next := by
  induction steps generalizing line next with
  | zero => exact List.suffix_rfl
  | succ steps ih =>
    cases next with
    | none => exact List.suffix_rfl
    | some name =>
      rw [lineTo]
      split
      · exact List.suffix_rfl
      · exact (List.suffix_cons name line).trans (ih _ _)

/-- The names of classes and ancestors in the order of writing. -/
def placed (classes : Table ScriptClass) : List String :=
  classes.names.foldl
    (fun before name => before ++ lineTo classes before (classes.size + 1) [] (some name)) []

/-- The classes in the order of writing: every parent before its children. -/
def ClassModel.inOrder (model : ClassModel) : List ScriptClass :=
  (placed model.classes).filterMap model.classes.get?

end ScriptBind
