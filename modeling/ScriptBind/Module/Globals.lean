import ScriptBind.Binding.Resolve

/-!
# Variables of a Module

A variable of the library becomes an instance of its record type, which needs
the type to be a bound record or a typedef of one. Any other variable is left
out.

## Main definitions

* `showGlobal`: The instance of a variable.
* `showGlobals`: The instances of all variables.
-/

namespace ScriptBind

/-- The identifier of the record that a spelling leads to, by its own name or as
    a typedef. -/
def Session.structName? (session : Session) (key : String) : Option String :=
  ((session.boundStruct? key).map BoundStruct.name).or (session.aliases.get? key)

/-- The diagnostic for a variable without an instance. -/
def globalDiagnostic (global : Global) (error : BindError) : Diagnostic where
  kind := .global
  name := global.name
  reason := (error.within s!"global `{global.name}`").message
  declaration := global.type.declare global.name

/-- The instance of a variable, or a diagnostic. -/
def showGlobal (global : Global) : BindM (Option Instance) := do
  let key := global.type.spelling
  let resolved ← (resolve global.type).attempt
  match ← BindM.look fun _ session => session.structName? key with
  | some structName =>
    let shown := { global, structName }
    BindM.update fun _ session => session.emit (.global shown)
    return some shown
  | none =>
    let error := match resolved with
      | .error error => error
      | .ok _ => .notGeneratedStruct key
    BindM.update fun _ session => session.reject (globalDiagnostic global error)
    return none

/-- The instances of variables, in order of declaration. -/
def showGlobals : List Global → BindM (List Instance)
  | [] => pure []
  | global :: rest => do
    let shown ← showGlobal global
    let others ← showGlobals rest
    return shown.toList ++ others

end ScriptBind
