import ScriptBind.Binding.Conversion
import ScriptBind.Code.Section
import ScriptBind.Declarations

/-!
# Binding Sessions

Binding one type can mean binding others first, and what has been bound is not
bound again. A session is the memory of this: the conversions found, what
became of each record and each callback, the code written so far, and the
records that are being bound at the moment.

A record met while it is being bound is not an error, but neither is there a
conversion for it yet. A record that fails after such a meeting may owe its
failure to the order of things alone, so it is put off and bound once more when
nothing else is being bound.

## Main definitions

* `Library`: The declarations and the naming conventions of a library.
* `Session`: What has been bound so far.
* `Session.start`: The session in which nothing is bound yet.
* `Session.emit`, `Session.reject`: One more section, one more declaration left
  out.
-/

namespace ScriptBind

/-- Whether one waits for what comes to no end. -/
class Patience where
  /-- One does, and then nothing comes to an end that needs it. -/
  waits : Bool

/-- Modules are made without waiting: what comes to no end fails. -/
instance : Patience := ⟨false⟩

/-- What there is to know of a library: what it declares and how it is named. -/
structure Library where
  /-- What its headers declare. -/
  decls : Declarations
  /-- How its names are built. -/
  naming : Naming
  /-- Whether one waits for what comes to no end. -/
  [patience : Patience]
  deriving Inhabited

/-- Whether one waits for what comes to no end. -/
def Library.isPatient (library : Library) : Bool := library.patience.waits

/-- A record that has been bound. -/
structure BoundStruct where
  /-- The identifier that generated names are made from. -/
  name : String
  /-- Its spelling. -/
  type : String
  /-- The members a script can reach. -/
  fields : List String
  /-- The callback members left out. -/
  dropped : List String
  deriving DecidableEq, Repr, Inhabited

/-- What became of a record. -/
inductive StructOutcome where
  /-- It is bound. -/
  | done (bound : BoundStruct)
  /-- It cannot be bound. -/
  | failed (error : BindError)
  deriving DecidableEq, Repr, Inhabited

/-- A record put off until nothing is being bound. -/
structure DeferredStruct where
  /-- The record. -/
  record : Record
  /-- The typedef to be written before its accessor. -/
  typedef : Option MemberTypedef
  deriving Inhabited

/-- What became of a callback. -/
inductive CallbackState where
  /-- Its trampoline is still to be written. -/
  | pending (callback : Callback)
  /-- Its trampoline is written. -/
  | emitted (callback : Callback)
  /-- It cannot be marshaled. -/
  | failed (error : BindError)
  deriving Inhabited

/-- What has been bound so far. -/
structure Session where
  /-- The conversions by spelling. -/
  registry : Registry := .empty
  /-- What became of each record, in order of completion. -/
  structs : Table StructOutcome := .empty
  /-- The records being bound, the outermost first. -/
  inProgress : List String := []
  /-- The records whose binding has begun, once for each time: a history, which
      nothing is decided by. -/
  begun : List String := []
  /-- How often a record was met while it was being bound. -/
  meetings : Nat := 0
  /-- The records put off. -/
  deferred : Table DeferredStruct := .empty
  /-- The records that were put off and have been bound once more, in order and
      once for each time. -/
  retried : List String := []
  /-- The identifiers of the records that typedefs stand for. -/
  aliases : Table String := .empty
  /-- What became of each callback. -/
  callbacks : Table CallbackState := .empty
  /-- The declarations left out, in order. -/
  diagnostics : List Diagnostic := []
  /-- The code written, in order. -/
  body : List Section := []
  deriving Inhabited

namespace Session

/-- The session in which nothing is bound yet. -/
def start (naming : Naming) : Session := { registry := Registry.seeded naming }

/-- The record bound under a spelling. -/
def boundStruct? (session : Session) (key : String) : Option BoundStruct :=
  match session.structs.get? key with
  | some (.done bound) => some bound
  | _ => none

/-- The records bound, in order of completion. -/
def boundStructs (session : Session) : List BoundStruct :=
  session.structs.values.filterMap fun
    | .done bound => some bound
    | .failed _ => none

/-- The callbacks whose trampolines are still to be written. -/
def pendingCallbacks (session : Session) : List Callback :=
  session.callbacks.values.filterMap fun
    | .pending callback => some callback
    | _ => none

/-- The session with one more section of code. -/
def emit (session : Session) (code : Section) : Session :=
  { session with body := session.body ++ [code] }

/-- The session with one more declaration left out, and a comment in its
    place. -/
def reject (session : Session) (diagnostic : Diagnostic) : Session :=
  { session with
    body := session.body ++ [.note diagnostic]
    diagnostics := session.diagnostics ++ [diagnostic] }

/-- The session with a conversion for a type that had none. -/
def addConversion (session : Session) (key : String) (conversion : Conversion) : Session :=
  { session with registry := session.registry.add key conversion }

/-- The session after a record has been met while it was being bound. -/
def meet (session : Session) : Session := { session with meetings := session.meetings + 1 }

/-- The session in which a record is being bound. -/
def enter (session : Session) (key : String) : Session :=
  { session with
    inProgress := addName session.inProgress key
    begun := session.begun ++ [key] }

/-- The session in which a record is no longer being bound. -/
def leave (session : Session) (key : String) : Session :=
  { session with inProgress := session.inProgress.filter (· != key) }

/-- The session with the outcome of a record. -/
def settleStruct (session : Session) (key : String) (outcome : StructOutcome) : Session :=
  { session with structs := session.structs.set key outcome }

/-- The session with a record put off. -/
def defer (session : Session) (key : String) (deferred : DeferredStruct) : Session :=
  { session with deferred := session.deferred.add key deferred }

/-- The session with the outcome of a callback. -/
def settleCallback (session : Session) (name : String) (state : CallbackState) : Session :=
  { session with callbacks := session.callbacks.set name state }

end Session

end ScriptBind
