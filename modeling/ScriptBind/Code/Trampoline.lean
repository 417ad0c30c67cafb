import ScriptBind.Code.Converted
import ScriptBind.Text.Layout

/-!
# Trampolines

The code that stands in for a callback: it converts its arguments, calls the
callable registered under the callback's name, and converts what comes back.

An accessor may mention a trampoline before it is known whether the callback's
arguments can be converted. If they cannot, a stub takes the trampoline's
place. It has the same head, does nothing and returns zero.

## Main definitions

* `Trampoline`: The code for a callback.
* `Trampoline.lines`: The code as text.
* `Callback.stubLines`: The stub as text.
-/

namespace ScriptBind

open Text

/-- The code for a callback. -/
structure Trampoline where
  /-- The callback. -/
  callback : Callback
  /-- Its arguments on their way to the script. -/
  arguments : List Converted
  /-- What comes back, on its way to C, unless nothing does. -/
  result : Option Converted
  deriving Inhabited

namespace Trampoline

/-- The statements that convert the arguments. -/
def collecting (trampoline : Trampoline) : List String :=
  (match trampoline.callback.signature.params.length with
    | 0 => "mp_obj_t *mp_args = NULL;"
    | count => s!"mp_obj_t mp_args[{count}];")
    :: trampoline.arguments.mapIdx fun i argument => s!"mp_args[{i}] = {argument.text};"

/-- The call of the callable. -/
def call (callback : Callback) : String :=
  let callable :=
    s!"mp_obj_dict_get(callbacks, MP_OBJ_NEW_QSTR(MP_QSTR_{callback.name}))"
  s!"mp_call_function_n_kw({callable} , {callback.signature.params.length}, 0, mp_args);"

/-- The statements that call the callable and return what comes back. -/
def calling (trampoline : Trampoline) : List String :=
  match trampoline.result with
  | none => [call trampoline.callback, "return;"]
  | some result =>
    ["mp_obj_t callback_result = " ++ call trampoline.callback, s!"return {result.text};"]

/-- The code for a callback as text. -/
def lines (trampoline : Trampoline) : List String :=
  let callback := trampoline.callback
  let dictionary := s!"get_callback_dict_from_user_data({callback.carrierText})"
  "" :: comment [s!"Callback function {callback.name}", callback.signature.prototype]
    ++ [""]
    ++ headed callback.head
      (trampoline.collecting ++ [s!"mp_obj_t callbacks = {dictionary};"] ++ trampoline.calling)

end Trampoline

namespace Callback

/-- What a stub does: it returns zero, or nothing. -/
def stubBody (callback : Callback) : List String :=
  if callback.signature.returnsVoid then []
  else [callback.signature.result.declare "_res" ++ " = \x7b0\x7d;", "return _res;"]

/-- The stub in place of a trampoline, as text. -/
def stubLines (callback : Callback) : List String :=
  "" :: comment
      [s!"Callback function {callback.name} could not be converted; calls are ignored"]
    ++ [""]
    ++ headed callback.head callback.stubBody

end Callback

end ScriptBind
