import ScriptBind.Binding.Resolve

/-!
# Registering Callbacks

Where a script passes a callable to C, the callable is registered and C gets
the trampoline. The registration needs the slot in which the trampoline will
look: that of the first argument of the function that takes the callback, or
the shared one.

A trampoline is written when it is first needed by a function; one that only a
record mentions is written at the end. What a trampoline returns may itself be
a callback to be registered, and so on down the types of what callbacks return.

## Main definitions

* `Site`: Where a value is converted.
* `renderWith`, `emitWith`, `registerWith`: One step each.
* `renderCallback`: The trampoline of a callback.
* `emitCallback`: Writing a trampoline once.
* `registerCallable`: Registering a callable.
* `emitPending`: Writing the trampolines that records mention.
* `convertInward`: A value on its way to C.
-/

namespace ScriptBind

/-- Where a value is converted. -/
structure Site where
  /-- The type of the value. -/
  type : CType
  /-- The expression for the value. -/
  expr : String
  /-- The declaration that the conversion is for. -/
  owner : String := ""
  /-- The parameter that takes the value. -/
  name : String := ""
  /-- The position of the parameter. -/
  index : Nat := 0
  /-- The first parameter of the function. -/
  first : Option Parameter := none
  deriving Inhabited

namespace Site

/-- The word that callbacks registered at a site are named after: the record
    that the first parameter points to, or the declaration. -/
def ownerName (site : Site) : String :=
  match site.first with
  | some first => Text.wordPart (bareTag (first.type.pointee?.getD first.type).spelling)
  | none => site.owner

/-- The slot in which a callable is registered at a site. -/
def slot (site : Site) (naming : Naming) (callback : Callback) : Slot :=
  match site.first with
  | some first =>
    if naming.isGlobalCallback site.type.spelling then .shared
    else callback.slot naming.userData first.name
  | none => .shared

end Site

/-- Register a callable, its trampoline being written as given. -/
def registerWith (emit : Callback → BindM Unit) (site : Site) : BindM Converted := do
  let library ← read
  let typeName := site.type.spelling
  match library.decls.functionPointer site.type with
  | none => BindM.fail (.notCallback typeName)
  | some signature =>
    let owner := site.ownerName
    if !library.naming.isGlobalCallback typeName && site.index == 0 then
      BindM.fail (.leadingCallback (callbackName owner site.name))
    else
      let callback ← marshal resolve signature typeName owner site.name none
      emit callback
      return .register site.expr callback (site.slot library.naming callback)

/-- A value on its way to C, callables being registered as given. -/
def convertWith (register : Site → BindM Converted) (conversion : Conversion) (site : Site) :
    BindM Converted :=
  match conversion.inward with
  | .apply converter => pure (.call converter site.expr)
  | .register => register site

/-- An argument of a callback on its way to the script. -/
def convertArgument (place : String) (index : Nat) (type : CType) : BindM Converted := do
  let conversion ← (resolve type).within place
  return .call conversion.outward (castFor type ++ positionalName index)

/-- The arguments of a callback on their way to the script, counted from a
    position. -/
def convertArguments (place : String) : Nat → List CType → BindM (List Converted)
  | _, [] => pure []
  | index, type :: rest => do
    let argument ← convertArgument place index type
    let arguments ← convertArguments place (index + 1) rest
    return argument :: arguments

/-- What a callback returns, on its way to C. -/
def convertResult (register : Site → BindM Converted) (place : String) (type : CType) :
    BindM Converted := do
  let conversion ← (resolve type).within place
  convertWith register conversion { type, expr := "callback_result" }

/-- The trampoline of a callback, what it returns being registered as given. -/
def renderWith (register : Site → BindM Converted) (callback : Callback) :
    BindM Trampoline := do
  let place := s!"callback `{callback.name}`"
  let arguments ← convertArguments place 0 callback.signature.params
  if callback.signature.returnsVoid then return ⟨callback, arguments, none⟩
  else return ⟨callback, arguments, some (← convertResult register place callback.signature.result)⟩

/-- Write the trampoline of a callback, found as given, unless it is written. -/
def emitWith (render : Callback → BindM Trampoline) (callback : Callback) : BindM Unit := do
  match ← BindM.look fun _ session => session.callbacks.get? callback.name with
  | some (.emitted _) => return ()
  | _ =>
    match ← (render callback).attempt with
    | .ok trampoline =>
      BindM.update fun _ session =>
        (session.emit (.trampoline trampoline)).settleCallback callback.name (.emitted callback)
    | .error error =>
      BindM.update fun _ session => session.settleCallback callback.name (.failed error)
      BindM.fail error

/-- The trampoline of a callback, through at most so many callbacks that return
    callbacks. -/
def renderWithin : Nat → Callback → BindM Trampoline
  | 0, _ => .endless
  | levels + 1, callback => renderWith (registerWith (emitWith (renderWithin levels))) callback

/-- The trampoline of a callback. -/
def renderCallback (callback : Callback) : BindM Trampoline :=
  BindM.settled callback.name do
    let levels ← BindM.look fun library _ =>
      library.decls.size + (CType.function callback.signature).size
    renderWithin (levels + 1) callback

/-- Write the trampoline of a callback unless it is written. -/
def emitCallback (callback : Callback) : BindM Unit := emitWith renderCallback callback

/-- Register a callable in place of a callback. -/
def registerCallable (site : Site) : BindM Converted := registerWith emitCallback site

/-- A value on its way to C. -/
def convertInward (conversion : Conversion) (site : Site) : BindM Converted :=
  convertWith registerCallable conversion site

/-- The diagnostic for a trampoline that could not be written. -/
def callbackDiagnostic (callback : Callback) (error : BindError) : Diagnostic where
  kind := .callback
  name := callback.name
  reason := error.message
  declaration := callback.forwardDeclaration

/-- Write the trampoline of a callback that a record mentions, or a stub. -/
def emitOrStub (callback : Callback) : BindM Unit := do
  match ← (emitCallback callback).attempt with
  | .ok () => return ()
  | .error error =>
    BindM.update fun _ session =>
      (session.emit (.stub callback)).reject (callbackDiagnostic callback error)

/-- Write the trampolines that records mention and that are not written yet. -/
def emitPending : BindM Unit := do
  (← BindM.look fun _ session => session.pendingCallbacks).forM emitOrStub

end ScriptBind
