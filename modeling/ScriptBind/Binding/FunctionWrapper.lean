import ScriptBind.Binding.Registration

/-!
# Wrapping Functions

A function gets a wrapper if each of its arguments can be converted to C and
what it returns to the script. A callback is never what keeps a function from
being wrapped: one that cannot be registered is passed as an untyped pointer,
and a diagnostic says so.

Nothing of a wrapper is written before all of it is known.

## Main definitions

* `namedParams`: The parameters of a wrapper.
* `wrapFunction`: Writing the wrapper of a function.
* `wrapOrReject`: The same, with a diagnostic where it fails.

## Theorems

* `length_namedParams`: A wrapper has one parameter for each of the function's.
-/

namespace ScriptBind

/-- A parameter under the name of its variable: its own, or one made from its
    position. -/
def namedParam (index : Nat) (param : Parameter) : Parameter :=
  if param.name = "" then { param with name := positionalName index } else param

/-- The parameters of the wrapper of a function. -/
def namedParams (function : CFunction) : List Parameter :=
  function.effectiveParams.mapIdx namedParam

/-- A wrapper has one parameter for each of the function's. -/
theorem length_namedParams (function : CFunction) :
    (namedParams function).length = function.effectiveParams.length :=
  List.length_mapIdx

/-- Where an argument of a function is converted. -/
def argumentSite (function : String) (params : List Parameter) (index : Nat)
    (param : Parameter) : Site where
  type := param.type
  expr := s!"mp_args[{index}]"
  owner := function
  name := param.name
  index
  first := params.head?

/-- The conversion of a parameter: an array without length is passed by the
    pointer to its first element. -/
def resolveParam (type : CType) : BindM Conversion :=
  match type with
  | .array element 0 => resolveOpenArray element
  | type => resolve type

/-- The diagnostic for a callback that is passed as an untyped pointer. -/
def argumentDiagnostic (function : String) (param : Parameter) (error : BindError) :
    Diagnostic where
  kind := .callback
  name := s!"{function}.{param.name}"
  reason := error.message
  declaration := param.type.declare param.name

/-- A callback on its way to C: registered, or else passed as it is. -/
def wrapCallback (function : String) (conversion : Conversion) (site : Site) (param : Parameter) :
    BindM Argument := do
  match ← (convertInward conversion site).attempt with
  | .ok value => return ⟨param, true, value⟩
  | .error error =>
    BindM.update fun _ session => session.reject (argumentDiagnostic function param error)
    return ⟨param, true, .call "mp_to_ptr" site.expr⟩

/-- An argument of a function on its way to C. -/
def wrapArgument (function : String) (params : List Parameter) (index : Nat)
    (param : Parameter) : BindM Argument := do
  let site := argumentSite function params index param
  let conversion ← (resolveParam param.type).within s!"function `{function}`"
  if ← BindM.look fun library _ => (library.decls.functionPointer param.type).isSome then
    wrapCallback function conversion site param
  else return ⟨param, false, ← convertInward conversion site⟩

/-- The arguments of a function on their way to C, counted from a position. -/
def wrapArguments (function : String) (params : List Parameter) :
    Nat → List Parameter → BindM (List Argument)
  | _, [] => pure []
  | index, param :: rest => do
    let argument ← wrapArgument function params index param
    let arguments ← wrapArguments function params (index + 1) rest
    return argument :: arguments

/-- The conversion of what a function returns: the name of some says that they
    return an array. -/
def resolveResult (function : CFunction) : BindM Conversion := do
  let returnsArray ← BindM.look fun library _ => library.naming.returnsArray function.name
  match function.result with
  | .pointer (.function signature) isConst => resolve (.pointer (.function signature) isConst)
  | .pointer .void isConst => resolve (.pointer .void isConst)
  | .pointer pointee isConst =>
    if returnsArray then resolveOpenArray pointee else resolve (.pointer pointee isConst)
  | type => resolve type

/-- What a function returns, on its way to the script. -/
def wrapResult (function : CFunction) : BindM (Option Converted) := do
  if function.result.isVoid then return none
  else
    let conversion ← (resolveResult function).within s!"function `{function.name}`"
    return some (.call conversion.outward (castFor function.result ++ "_res"))

/-- Write the wrapper of a function. -/
def wrapFunction (function : CFunction) : BindM WrappedFunction := do
  if function.isVariadic then BindM.fail .variadicFunction
  else
    let params := namedParams function
    let arguments ← wrapArguments function.name params 0 params
    let result ← wrapResult function
    BindM.update fun _ session => session.emit (.wrapper ⟨function, arguments, result⟩)
    return ⟨function.name, params, function.result⟩

/-- The diagnostic for a function without a wrapper. -/
def functionDiagnostic (function : CFunction) (error : BindError) : Diagnostic where
  kind := .function
  name := function.name
  reason := error.message
  declaration := function.prototype

/-- Write the wrapper of a function, or say why there is none. -/
def wrapOrReject (function : CFunction) : BindM (Option WrappedFunction) := do
  match ← (wrapFunction function).attempt with
  | .ok wrapped => return some wrapped
  | .error error =>
    BindM.update fun _ session => session.reject (functionDiagnostic function error)
    return none

end ScriptBind
