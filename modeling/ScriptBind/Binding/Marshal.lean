import ScriptBind.Binding.Computation

/-!
# Marshaling Callbacks

A callback can be marshaled if its trampoline finds the way to the script and
if what it passes and returns can be converted.

The way leads through the record that the first parameter points to: it must
have the member that carries the context. A callback that is a member of a
record must take that very record. Callbacks of the shared kind need no way of
their own.

The outcome is remembered under the callback's name.

## Main definitions

* `callbackName`: The name a callable is registered under.
* `Library.callbackOwner`: The way to the script, or why there is none.
* `checkCallback`: A callback whose values can be converted.
* `marshal`: The same, asked only once for each name.
-/

namespace ScriptBind

/-- The name a callable is registered under. -/
def callbackName (owner name : String) : String := owner ++ "_" ++ name

/-- The record that a callback's first parameter points to, if it is the
    expected one; the fallback is its spelling. -/
def Library.contextRecord? (library : Library) (pointee : CType) :
    Option (String × Record) → Option Record
  | some (key, record) =>
    let named := (library.decls.recordOf pointee).map Record.name
    if pointee.spelling = key ∨ named = some key then some record else none
  | none => library.decls.recordOf pointee

/-- The way from a callback to the script, or why there is none. -/
def Library.callbackOwner (library : Library) (signature : Signature) (typeName id : String)
    (expected : Option (String × Record)) : Except BindError (CallbackOwner × Option String) :=
  let carrier := library.naming.userData
  if library.naming.isGlobalCallback typeName then .ok (.shared, none)
  else
    match signature.params.head?.bind CType.pointee? with
    | none => .error (.missingUserData id "first parameter" carrier)
    | some pointee =>
      match (library.contextRecord? pointee expected).filter (·.hasField carrier) with
      | none => .error (.missingUserData id pointee.spelling carrier)
      | some _ => .ok (.record pointee.spelling, some carrier)

/-- Check that the values a callback passes and returns can be converted.
    Pointers always can; they are looked at when the trampoline is written. -/
def checkValues (resolve : CType → BindM Conversion) (signature : Signature) : BindM Unit := do
  unless signature.returnsVoid do
    let _ ← resolve signature.result
  (signature.params.filter (!·.isPointer)).forM fun param => do
    let _ ← resolve param

/-- A callback whose values can be converted. -/
def checkCallback (resolve : CType → BindM Conversion) (signature : Signature)
    (typeName id : String) (expected : Option (String × Record)) : BindM Callback := do
  if signature.isVariadic then BindM.fail (.variadicCallback id)
  else
    let library ← read
    let (owner, carrier) ← BindM.ofExcept (library.callbackOwner signature typeName id expected)
    (checkValues resolve signature).within s!"callback `{id}`"
    return { name := id, signature, owner, carrier }

/-- A callback whose values can be converted, remembered under its name. -/
def marshal (resolve : CType → BindM Conversion) (signature : Signature)
    (typeName owner name : String) (expected : Option (String × Record)) : BindM Callback := do
  let id := callbackName owner name
  match ← BindM.look fun _ session => session.callbacks.get? id with
  | some (.pending callback) => return callback
  | some (.emitted callback) => return callback
  | some (.failed error) => BindM.fail error
  | none =>
    match ← (checkCallback resolve signature typeName id expected).attempt with
    | .ok callback => return callback
    | .error error =>
      BindM.update fun _ session => session.settleCallback id (.failed error)
      BindM.fail error

end ScriptBind
