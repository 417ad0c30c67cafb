import ScriptBind.Code.Converted
import ScriptBind.Declarations
import ScriptBind.Text.Layout

/-!
# Function Wrappers

The code through which a script calls a function of the library: it converts
the arguments into local variables, calls the function with them, and converts
what it returns.

## Main definitions

* `Argument`: An argument in its local variable.
* `Wrapper`: The code for a function.
* `Wrapper.lines`: The code as text.
-/

namespace ScriptBind

open Text

/-- An argument in its local variable. -/
structure Argument where
  /-- The parameter, which names the variable. -/
  param : Parameter
  /-- Whether it is a callback, which is held as an untyped pointer. -/
  isCallback : Bool
  /-- The converted value. -/
  value : Converted
  deriving Inhabited

namespace Argument

/-- The declaration of a variable of a type; an array is held by the pointer to
    its first element. -/
def localOf (param : Parameter) : String :=
  match param.type with
  | .array element _ => s!"{element.qualified} *{param.name}"
  | type => type.declare param.name

/-- The statement that sets the variable. -/
def statement (argument : Argument) : String :=
  let place :=
    if argument.isCallback then s!"void *{argument.param.name}" else localOf argument.param
  s!"{place} = {argument.value.text};"

end Argument

/-- The code for a function. -/
structure Wrapper where
  /-- The function. -/
  function : CFunction
  /-- The arguments in order. -/
  arguments : List Argument
  /-- What the function returns, on its way to the script, unless nothing does. -/
  result : Option Converted
  deriving Inhabited

namespace Wrapper

/-- The parameters, each by the name of its variable. -/
def params (wrapper : Wrapper) : List Parameter := wrapper.arguments.map Argument.param

/-- The call of the function. -/
def call (wrapper : Wrapper) : String :=
  let arguments := ", ".intercalate (wrapper.params.map Parameter.name)
  s!"{wrapper.function.name}({arguments});"

/-- The statements that call the function and return what it returns. -/
def calling (wrapper : Wrapper) : List String :=
  match wrapper.result with
  | none => [wrapper.call, "return mp_const_none;"]
  | some result =>
    [wrapper.function.result.declare "_res" ++ " = " ++ wrapper.call, s!"return {result.text};"]

/-- The code for a function as text. -/
def lines (moduleName : String) (wrapper : Wrapper) : List String :=
  let name := wrapper.function.name
  let count := wrapper.arguments.length
  "" :: comment [s!"{moduleName} extension definition for:", wrapper.function.prototype]
    ++ [""]
    ++ headed s!"STATIC mp_obj_t mp_{name}(size_t mp_n_args, const mp_obj_t *mp_args)"
      (wrapper.arguments.map Argument.statement ++ wrapper.calling)
    ++ ["", s!"STATIC MP_DEFINE_CONST_LV_FUN_OBJ_VAR(mp_{name}_obj, {count}, mp_{name}, {name});"]

end Wrapper

end ScriptBind
