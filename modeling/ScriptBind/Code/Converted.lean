import ScriptBind.Binding.Callback

/-!
# Converted Values

A value in the generated code on its way between the script and C: the call of
a converter, or the registration of a callable in place of a callback.

## Main definitions

* `Converted`: A converted value.
* `Converted.text`: The expression for it.
-/

namespace ScriptBind

/-- A converted value. -/
inductive Converted where
  /-- The result of a converter. -/
  | call (converter expr : String)
  /-- The trampoline of a callback, its callable registered in a slot. -/
  | register (expr : String) (callback : Callback) (slot : Slot)
  deriving Inhabited

/-- The expression for a converted value. -/
def Converted.text : Converted → String
  | .call converter expr => s!"{converter}({expr})"
  | .register expr callback slot =>
    s!"mp_lv_callback({expr}, &{callback.trampoline}, MP_QSTR_{callback.name}, {slot.address})"

/-- The cast through which a value of a type is handed to a converter: pointers
    go as untyped ones. -/
def castFor (type : CType) : String := if type.isPointer then "(void*)" else ""

end ScriptBind
