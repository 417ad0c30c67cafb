import ScriptBind.Module.Assembly

/-!
# Which Computations Run Which

What is known of a session in the middle of an operation depends on how the
operation came there. A computation that binds runs others, some of them from the
session that it started from itself, and some from the session that an earlier
one of them has left. `Calls` says of each computation which ones these are and
from which session each is run: one rule for every place in the code where one
computation runs another, with the conditions that have to hold there.

A rule speaks of the outcomes of computations only where the code looks at them.
So nothing is said here of what the computations do; it is said which of them are
run, and that is what a property that holds in the middle of an operation has to
be followed through.

## Main definitions

* `resolveEach`: Resolving types one after another, for nothing but whether it
  succeeds.
* `Calls`: A computation runs another from a session.
* `Respects`: A choice of computations that contains what they run.
-/

namespace ScriptBind

/-- Resolve types one after another, for nothing but whether that succeeds. -/
def resolveEach (resolve : CType → BindM Conversion) (types : List CType) : BindM PUnit :=
  types.forM fun type => do let _ ← resolve type

/-- The place that a failure in a trampoline names. -/
def trampolinePlace (callback : Callback) : String := s!"callback `{callback.name}`"

/-- A computation that is run from a session runs another from a session. -/
inductive Calls (library : Library) : {α β : Type} → BindM α → Session → BindM β → Session → Prop
    where
  -- Types: what a type is made of, if there is no conversion for it yet.
  /-- A type without a conversion is taken apart. -/
  | fresh {binders : Binders} {links : Nat} {type : CType} {session : Session} :
      session.registry.get? type.spelling = none → links ≤ aliasLimit →
      Calls library (resolveStep binders links type) session (resolveFresh binders links type)
        session
  /-- A name leads to the record of that name. -/
  | named {binders : Binders} {links : Nat} {name : String} {record : Record} {session : Session} :
      library.decls.records.get? name = some record →
      Calls library (resolveNamed binders links name) session
        (binders.bind name record none) session
  /-- A typedef leads to what it stands for. -/
  | typedef {binders : Binders} {links : Nat} {name : String} {type : CType} {session : Session} :
      library.decls.records.get? name = none → library.decls.typedefs.get? name = some type →
      library.decls.isEnum (.named name) = false →
      Calls library (resolveNamed binders links name) session (binders.resolve (links + 1) type)
        session
  /-- A tag leads to the record of that tag. -/
  | tagged {binders : Binders} {key : String} {record : Record} {session : Session} :
      library.decls.records.get? key = some record →
      Calls library (resolveTagged binders key) session (binders.bind key record none) session
  /-- A pointer leads to the record that it points to, unless that is being bound. -/
  | recordPointer {binders : Binders} {links : Nat} {pointee : CType}
      {isConst : Bool} {key : String} {record : Record} {session : Session} :
      library.decls.functionPointer (.pointer pointee isConst) = none →
      library.decls.bindable? pointee = some (key, record) →
      session.inProgress.contains key = false →
      Calls library (resolvePointer binders links pointee isConst) session
        (binders.bind key record none) session
  /-- A pointer leads to the typedef that it points to. -/
  | typedefPointer {binders : Binders} {links : Nat} {name : String} {isConst : Bool}
      {session : Session} :
      library.decls.functionPointer (.pointer (.named name) isConst) = none →
      library.decls.bindable? (.named name) = none → library.decls.typedefs.contains name →
      Calls library (resolvePointer binders links (.named name) isConst) session
        (binders.resolve (links + 1) (.named name)) session
  /-- An array leads to its elements. -/
  | element {resolve : CType → BindM Conversion} {element : CType} {length : Nat}
      {session : Session} :
      session.registry.get? (CType.array element length).spelling = none → length ≠ 0 →
      library.decls.isElement element →
      Calls library (arrayConversion resolve element length) session (resolve element) session
  /-- An array of unknown length leads to its elements. -/
  | openElement {resolve : CType → BindM Conversion} {element : CType} {session : Session} :
      session.registry.get? (openArrayKey element) = none → element.isVoid = false →
      library.decls.isElement element →
      Calls library (openArrayConversion resolve element) session (resolve element) session
  -- Records: the members in order, and then the records that have been put off.
  /-- A record leads to its members, if it has no outcome and is not being bound. -/
  | members {rounds : Nat} {binders : Binders} {key : String} {record : Record}
      {typedef : Option MemberTypedef} {session : Session} :
      session.structs.get? key = none → session.inProgress.contains key = false →
      Calls library (bindStep rounds binders key record typedef) session
        (bindMembers binders (bareTag key) key record record.flattened) (session.enter key)
  /-- The first member. -/
  | member {binders : Binders} {owner key : String} {record : Record} {field : Field}
      {rest : List Field} {session : Session} :
      Calls library (bindMembers binders owner key record (field :: rest)) session
        (bindMember binders owner key record field) session
  /-- The others, after it. -/
  | nextMembers {binders : Binders} {owner key : String} {record : Record} {field : Field}
      {rest : List Field} {session session' : Session} {outcome : Option MemberOutcome} :
      (bindMember binders owner key record field).outcome library session =
        some (.ok outcome, session') →
      Calls library (bindMembers binders owner key record (field :: rest)) session
        (bindMembers binders owner key record rest) session'
  /-- A member that is a callback. -/
  | memberCallback {binders : Binders} {owner key : String} {record : Record} {field : Field}
      {signature : Signature} {session : Session} :
      field.name ≠ "" → library.decls.functionPointer field.type = some signature →
      Calls library (bindMember binders owner key record field) session
        (marshal (binders.resolve 0) signature field.type.spelling owner field.name
          (some (key, record))) session
  /-- A member whose type is a nameless record. -/
  | memberRecord {binders : Binders} {owner key : String} {record inner : Record} {field : Field}
      {session : Session} :
      field.name ≠ "" → library.decls.functionPointer field.type = none →
      field.type = .anonymous inner →
      Calls library (bindMember binders owner key record field) session
        (binders.bind (memberTypeName owner field.name)
          { inner with name := memberTypeName owner field.name }
          (some ⟨key, field.name, memberTypeName owner field.name⟩)) session
  /-- A member of any other type. -/
  | memberValue {binders : Binders} {owner key : String} {record : Record} {field : Field}
      {session : Session} :
      field.name ≠ "" → library.decls.functionPointer field.type = none →
      (∀ inner, field.type ≠ .anonymous inner) → (∀ element, field.type ≠ .array element 0) →
      Calls library (bindMember binders owner key record field) session
        (binders.resolve 0 field.type) session
  /-- When no other record is being bound, those are bound that were put off. -/
  | retry {rounds : Nat} {binders : Binders} {key : String} {record : Record}
      {typedef : Option MemberTypedef} {session session' : Session}
      {result : Except BindError BoundStruct} :
      session.structs.get? key = none → session.inProgress.contains key = false →
      (bindFresh binders key ⟨record, typedef⟩).outcome library session =
        some (.ok result, session') → session'.inProgress.isEmpty →
      Calls library (bindStep rounds binders key record typedef) session
        (retryDeferred binders rounds) session'
  /-- The first of these. -/
  | deferred {binders : Binders} {rounds : Nat} {key : String} {deferred : DeferredStruct}
      {session : Session} :
      session.deferred.rows.head? = some (key, deferred) →
      Calls library (retryDeferred binders (rounds + 1)) session
        (binders.bind key deferred.record deferred.typedef) (session.takeDeferred key)
  /-- The others, after it. -/
  | nextDeferred {binders : Binders} {rounds : Nat} {key : String} {deferred : DeferredStruct}
      {session session' : Session} {result : Except BindError BoundStruct} :
      session.deferred.rows.head? = some (key, deferred) →
      (binders.bind key deferred.record deferred.typedef).outcome library
        (session.takeDeferred key) = some (result, session') →
      Calls library (retryDeferred binders (rounds + 1)) session (retryDeferred binders rounds)
        session'
  -- Operations: what they lead to within the bound that they grant.
  /-- A type is resolved. -/
  | resolve {type : CType} {session : Session} :
      Calls library (resolve type) session
        ((bindersWithin
          (levelsFor (library.decls.size + session.pendingSize + type.size))).resolve 0 type)
        session
  /-- A record is bound. -/
  | bindStruct {key : String} {record : Record} {session : Session} :
      Calls library (bindStruct key record) session
        ((bindersWithin (levelsFor (library.decls.size + session.pendingSize + record.size))).bind
          key record none) session
  /-- An array of unknown length is resolved. -/
  | openArray {element : CType} {session : Session} :
      Calls library (resolveOpenArray element) session
        (openArrayConversion
          ((bindersWithin
            (levelsFor (library.decls.size + session.pendingSize + element.size))).resolve 0)
          element) session
  -- Callbacks: their values are looked at, and their trampolines written.
  /-- A callback whose name has no outcome is looked at. -/
  | check {resolve : CType → BindM Conversion} {signature : Signature}
      {typeName owner name : String} {expected : Option (String × Record)} {session : Session} :
      session.callbacks.get? (callbackName owner name) = none →
      Calls library (marshal resolve signature typeName owner name expected) session
        (checkCallback resolve signature typeName (callbackName owner name) expected) session
  /-- What the callback returns is resolved. -/
  | valueResult {resolve : CType → BindM Conversion} {signature : Signature} {typeName id : String}
      {expected : Option (String × Record)} {session : Session} :
      signature.isVariadic = false →
      (library.callbackOwner signature typeName id expected).isOk → signature.returnsVoid = false →
      Calls library (checkCallback resolve signature typeName id expected) session
        (resolve signature.result) session
  /-- What the callback takes is resolved, after what it returns. -/
  | valueParams {resolve : CType → BindM Conversion} {signature : Signature} {typeName id : String}
      {expected : Option (String × Record)} {session session' : Session} :
      signature.isVariadic = false →
      (library.callbackOwner signature typeName id expected).isOk →
      (signature.returnsVoid ∧ session' = session ∨ signature.returnsVoid = false ∧
        ∃ conversion, (resolve signature.result).outcome library session =
          some (.ok conversion, session')) →
      Calls library (checkCallback resolve signature typeName id expected) session
        (resolveEach resolve (signature.params.filter (!·.isPointer))) session'
  /-- The first of some types. -/
  | first {resolve : CType → BindM Conversion} {type : CType} {rest : List CType}
      {session : Session} :
      Calls library (resolveEach resolve (type :: rest)) session (resolve type) session
  /-- The others, after it. -/
  | nextTypes {resolve : CType → BindM Conversion} {type : CType} {rest : List CType}
      {session session' : Session} {conversion : Conversion} :
      (resolve type).outcome library session = some (.ok conversion, session') →
      Calls library (resolveEach resolve (type :: rest)) session (resolveEach resolve rest) session'
  /-- A callable is marshaled for the callback that it is registered as. -/
  | registered {emit : Callback → BindM Unit} {site : Site} {signature : Signature}
      {session : Session} :
      library.decls.functionPointer site.type = some signature →
      library.naming.isGlobalCallback site.type.spelling ∨ site.index ≠ 0 →
      Calls library (registerWith emit site) session
        (marshal ScriptBind.resolve signature site.type.spelling site.ownerName site.name none)
        session
  /-- The trampoline of that callback is written. -/
  | emit {emit : Callback → BindM Unit} {site : Site} {signature : Signature} {callback : Callback}
      {session session' : Session} :
      library.decls.functionPointer site.type = some signature →
      library.naming.isGlobalCallback site.type.spelling ∨ site.index ≠ 0 →
      (marshal ScriptBind.resolve signature site.type.spelling site.ownerName site.name
        none).outcome library session = some (.ok callback, session') →
      Calls library (registerWith emit site) session (emit callback) session'
  /-- A trampoline that is not written yet is found. -/
  | render {render : Callback → BindM Trampoline} {callback : Callback} {session : Session} :
      (∀ other, session.callbacks.get? callback.name ≠ some (.emitted other)) →
      Calls library (emitWith render callback) session (render callback) session
  /-- It is found within the bound that the callback's signature grants. -/
  | renderWithin {callback : Callback} {session : Session} :
      Calls library (renderCallback callback) session
        (renderWithin (library.decls.size + (CType.function callback.signature).size + 1) callback)
        session
  /-- What the trampoline passes is resolved. -/
  | passed {register : Site → BindM Converted} {callback : Callback} {session : Session} :
      Calls library (renderWith register callback) session
        (convertArguments (trampolinePlace callback) 0 callback.signature.params) session
  /-- The first type of these. -/
  | passedFirst {place : String} {index : Nat} {type : CType} {rest : List CType}
      {session : Session} :
      Calls library (convertArguments place index (type :: rest)) session
        (ScriptBind.resolve type) session
  /-- The others, after it. -/
  | nextPassed {place : String} {index : Nat} {type : CType} {rest : List CType} {value : Converted}
      {session session' : Session} :
      (convertArgument place index type).outcome library session = some (.ok value, session') →
      Calls library (convertArguments place index (type :: rest)) session
        (convertArguments place (index + 1) rest) session'
  /-- What the trampoline returns is resolved, after that. -/
  | returned {register : Site → BindM Converted} {callback : Callback} {values : List Converted}
      {session session' : Session} :
      (convertArguments (trampolinePlace callback) 0 callback.signature.params).outcome library
        session = some (.ok values, session') → callback.signature.returnsVoid = false →
      Calls library (renderWith register callback) session
        (convertResult register (trampolinePlace callback) callback.signature.result) session'
  /-- The type of what is returned. -/
  | returnedType {register : Site → BindM Converted} {place : String} {type : CType}
      {session : Session} :
      Calls library (convertResult register place type) session (ScriptBind.resolve type) session
  /-- What is returned is registered, if it is a callback. -/
  | returnedCallable {register : Site → BindM Converted} {place : String} {type : CType}
      {conversion : Conversion} {session session' : Session} :
      (ScriptBind.resolve type).outcome library session = some (.ok conversion, session') →
      Calls library (convertResult register place type) session
        (convertWith register conversion { type, expr := "callback_result" }) session'
  /-- A value is registered if its conversion says so. -/
  | callable {register : Site → BindM Converted} {conversion : Conversion} {site : Site}
      {session : Session} :
      conversion.inward = .register →
      Calls library (convertWith register conversion site) session (register site) session
  -- Functions: the arguments in order, and then what is returned.
  /-- A function gets its wrapper, if it can. -/
  | wrap {function : CFunction} {session : Session} :
      Calls library (wrapOrReject function) session (wrapFunction function) session
  /-- The arguments of a function. -/
  | arguments {function : CFunction} {session : Session} :
      function.isVariadic = false →
      Calls library (wrapFunction function) session
        (wrapArguments function.name (namedParams function) 0 (namedParams function)) session
  /-- The first of some arguments. -/
  | argument {function : String} {params rest : List Parameter} {index : Nat} {param : Parameter}
      {session : Session} :
      Calls library (wrapArguments function params index (param :: rest)) session
        (wrapArgument function params index param) session
  /-- The others, after it. -/
  | nextArguments {function : String} {params rest : List Parameter} {index : Nat}
      {param : Parameter} {argument : Argument} {session session' : Session} :
      (wrapArgument function params index param).outcome library session =
        some (.ok argument, session') →
      Calls library (wrapArguments function params index (param :: rest)) session
        (wrapArguments function params (index + 1) rest) session'
  /-- The type of an argument. -/
  | argumentType {function : String} {params : List Parameter} {index : Nat} {param : Parameter}
      {session : Session} :
      Calls library (wrapArgument function params index param) session (resolveParam param.type)
        session
  /-- Its value, by the conversion of its type. -/
  | argumentValue {function : String} {params : List Parameter} {index : Nat} {param : Parameter}
      {conversion : Conversion} {session session' : Session} :
      (resolveParam param.type).outcome library session = some (.ok conversion, session') →
      Calls library (wrapArgument function params index param) session
        (convertInward conversion (argumentSite function params index param)) session'
  /-- What a function returns, after its arguments. -/
  | result {function : CFunction} {arguments : List Argument} {session session' : Session} :
      function.isVariadic = false →
      (wrapArguments function.name (namedParams function) 0 (namedParams function)).outcome library
        session = some (.ok arguments, session') → function.result.isVoid = false →
      Calls library (wrapFunction function) session (resolveResult function) session'
  /-- It is an array by the name of the function. -/
  | resultArray {function : CFunction} {pointee : CType} {isConst : Bool} {session : Session} :
      function.result = .pointer pointee isConst → pointee ≠ .void →
      (∀ signature, pointee ≠ .function signature) → library.naming.returnsArray function.name →
      Calls library (resolveResult function) session (resolveOpenArray pointee) session
  /-- It is what its type says. -/
  | resultType {function : CFunction} {session : Session} :
      (∀ pointee isConst, function.result = .pointer pointee isConst → pointee ≠ .void →
        (∀ signature, pointee ≠ .function signature) →
        library.naming.returnsArray function.name = false) →
      Calls library (resolveResult function) session (ScriptBind.resolve function.result) session
  -- Modules: the cell for a pointer, the variables, and the trampolines that are awaited.
  /-- The cell is bound when it is written. -/
  | cell {session : Session} :
      Calls library bindPointerCell session (ScriptBind.bindStruct pointerCell.name pointerCell)
        (session.emit .pointerCell)
  /-- The first of some variables. -/
  | global {global : Global} {rest : List Global} {session : Session} :
      Calls library (showGlobals (global :: rest)) session (showGlobal global) session
  /-- The others, after it. -/
  | nextGlobals {global : Global} {rest : List Global} {shown : Option Instance}
      {session session' : Session} :
      (showGlobal global).outcome library session = some (.ok shown, session') →
      Calls library (showGlobals (global :: rest)) session (showGlobals rest) session'
  /-- The type of a variable. -/
  | globalType {global : Global} {session : Session} :
      Calls library (showGlobal global) session (ScriptBind.resolve global.type) session
  /-- The trampolines that are awaited. -/
  | pending {session : Session} :
      Calls library emitPending session (session.pendingCallbacks.forM emitOrStub) session
  /-- The first of some trampolines. -/
  | trampoline {callback : Callback} {rest : List Callback} {session : Session} :
      Calls library ((callback :: rest).forM emitOrStub) session (emitOrStub callback) session
  /-- The others, after it. -/
  | nextTrampolines {callback : Callback} {rest : List Callback} {result : PUnit}
      {session session' : Session} :
      (emitOrStub callback).outcome library session = some (.ok result, session') →
      Calls library ((callback :: rest).forM emitOrStub) session (rest.forM emitOrStub) session'
  /-- A trampoline is written, or else a stub. -/
  | orStub {callback : Callback} {session : Session} :
      Calls library (emitOrStub callback) session (emitCallback callback) session

/-- A choice of computations, each with sessions that it is run from, that contains
    whatever they run. -/
def Respects (library : Library) (met : (α : Type) → BindM α → Session → Prop) : Prop :=
  ∀ {α β : Type} {action : BindM α} {session : Session} {next : BindM β} {session' : Session},
    Calls library action session next session' → met α action session → met β next session'

end ScriptBind
