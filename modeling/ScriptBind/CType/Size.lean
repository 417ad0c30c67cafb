import ScriptBind.CType.Basic

/-!
# The Size of Types

The number of constructors in a type. Binding a type follows what it is made
of, and this number bounds how far that can go within one type.

## Main definitions

* `CType.size`, `Record.size`: The number of constructors.
* `total`: The sum of some numbers.

## Theorems

* `size_pos`: A type is never without size.
-/

namespace ScriptBind

/-- The sum of some numbers. -/
def total : List Nat → Nat
  | [] => 0
  | n :: rest => n + total rest

mutual

/-- The number of constructors in a type. -/
def CType.size : CType → Nat
  | .void => 1
  | .builtin _ => 1
  | .named _ => 1
  | .tagged _ _ => 1
  | .enumeration _ => 1
  | .anonymous record => record.size + 1
  | .pointer pointee _ => pointee.size + 1
  | .array element _ => element.size + 1
  | .function ⟨result, params, _⟩ => result.size + sizeOfTypes params + 1

/-- The number of constructors in a record. -/
def Record.size : Record → Nat
  | ⟨_, _, fields⟩ => sizeOfFields fields + 1

/-- The number of constructors in a list of types. -/
def sizeOfTypes : List CType → Nat
  | [] => 0
  | type :: rest => type.size + sizeOfTypes rest

/-- The number of constructors in a list of members. -/
def sizeOfFields : List Field → Nat
  | [] => 0
  | ⟨_, type, _⟩ :: rest => type.size + 1 + sizeOfFields rest

end

/-- A type is never without size. -/
theorem CType.size_pos (type : CType) : 0 < type.size := by
  cases type with
  | function signature =>
    obtain ⟨result, params, isVariadic⟩ := signature
    exact Nat.succ_pos _
  | _ => exact Nat.succ_pos _

end ScriptBind
