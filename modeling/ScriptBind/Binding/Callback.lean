import ScriptBind.CType.Spelling

/-!
# Callbacks

A C callback is a plain function and knows nothing of the script. What is
handed to C in its place is a trampoline: a function of the callback's
signature that looks up the callable registered under the callback's name and
calls it.

The callables are kept in a dictionary, and the trampoline has to find it. The
dictionary hangs off a member of the record that is passed as the first
argument, the carrier; callbacks without such a record share one slot.

## Main definitions

* `Callback`: A callback that can be marshaled.
* `Callback.trampoline`: The name of its trampoline.
* `Callback.forwardDeclaration`: The trampoline's declaration.
* `Callback.slot`: Where a registration finds the dictionary.
* `Callback.carrierText`: Where the trampoline finds it.
-/

namespace ScriptBind

/-- Whose dictionary a callback is looked up in. -/
inductive CallbackOwner where
  /-- That of the record passed as the first argument. -/
  | record (spelling : String)
  /-- The one that callbacks without a record share. -/
  | shared
  deriving DecidableEq, Repr, Inhabited

/-- A callback that can be marshaled. -/
structure Callback where
  /-- The name its callable is registered under. -/
  name : String
  /-- Its signature. -/
  signature : Signature
  /-- Whose dictionary it is looked up in. -/
  owner : CallbackOwner
  /-- The member of the record that leads to the dictionary. -/
  carrier : Option String
  deriving Inhabited

/-- Where a dictionary of callables is kept. -/
inductive Slot where
  /-- In the slot that callbacks without a record share. -/
  | shared
  /-- In a member of the record that a name points to. -/
  | member (base field : String)
  deriving DecidableEq, Repr, Inhabited

/-- The variable that callbacks without a record share. -/
def sharedSlot : String := "MP_STATE_PORT(mp_lv_user_data)"

/-- The address of a slot as text. -/
def Slot.address : Slot → String
  | .shared => "&" ++ sharedSlot
  | .member base field => s!"&{base}->{field}"

/-- The name of a parameter that has none: its position tells it apart. -/
def positionalName (index : Nat) : String := s!"arg{index}"

namespace Callback

/-- The name of the trampoline. -/
def trampoline (callback : Callback) : String := callback.name ++ "_callback"

/-- The parameters of the trampoline as text. -/
def parameters (callback : Callback) : String :=
  parameterList
    (callback.signature.params.mapIdx fun i type => type.declare (positionalName i)) false

/-- The head of the trampoline. -/
def head (callback : Callback) : String :=
  s!"STATIC {callback.signature.result.qualified} {callback.trampoline}({callback.parameters})"

/-- The declaration of the trampoline ahead of its definition. -/
def forwardDeclaration (callback : Callback) : String := callback.head ++ ";"

/-- Where a registration finds the dictionary, given the name that points to the
    record. -/
def slot (userData : String) (callback : Callback) (base : String) : Slot :=
  match callback.carrier, callback.owner with
  | some field, _ => .member base field
  | none, .shared => .shared
  | none, .record _ => .member base userData

/-- Where the trampoline finds the dictionary. -/
def carrierText (callback : Callback) : String :=
  match callback.carrier with
  | some field => s!"{positionalName 0}->{field}"
  | none => sharedSlot

end Callback

end ScriptBind
