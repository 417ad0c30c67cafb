import ScriptBind.Binding.Resolve

/-!
# The Pointer Cell

Every module has one record of its own: a cell the size of a pointer, which
scripts pass where a function of the library writes a value through a pointer.

## Main definitions

* `pointerCell`: The record.
* `bindPointerCell`: Writing it and binding it.
-/

namespace ScriptBind

/-- The record that scripts use as a cell for a pointer. -/
def pointerCell : Record where
  name := "C_Pointer"
  kind := .union
  fields :=
    [⟨"ptr_val", .pointerTo .void, none⟩,
      ⟨"int_val", .builtin "int", none⟩,
      ⟨"str_val", .pointer (.builtin "char") true, none⟩]

/-- Write the record and bind it. -/
def bindPointerCell : BindM Unit := do
  BindM.update fun _ session => session.emit .pointerCell
  let _ ← (bindStruct pointerCell.name pointerCell).attempt

end ScriptBind
