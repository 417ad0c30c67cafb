import ScriptBind.CType.Spelling
import ScriptBind.Table

/-!
# The Declarations of a Library

What the headers of a C library declare, and what its type names stand for.

A typedef may name another typedef. Names are followed through at most
`aliasLimit` links, so a name that leads back to itself leads nowhere instead
of going on for ever.

## Main definitions

* `Declarations`: Records, typedefs, functions, enums and globals.
* `Declarations.recordOf`: The record a type names.
* `Declarations.functionPointer`: The signature behind a function pointer.
* `Declarations.isEnum`: Whether a type is an enum.
* `CFunction.prototype`: A function's declaration as text.
* `CFunction.effectiveParams`: The parameters a call has to give.

## Theorems

* `recordOf_named`: A record's own name comes before a typedef of that name.
* `functionPointer_pointer`: A pointer to a function leads to its signature.
-/

namespace ScriptBind

/-- A named value that a function takes. -/
structure Parameter where
  /-- The name, empty where the header gives none. -/
  name : String
  /-- The type. -/
  type : CType
  deriving Repr, Inhabited

/-- A function of the library. -/
structure CFunction where
  /-- The name. -/
  name : String
  /-- The type returned. -/
  result : CType
  /-- The parameters in order. -/
  params : List Parameter
  /-- Whether more arguments may follow. -/
  isVariadic : Bool
  deriving Repr, Inhabited

/-- A variable of the library. -/
structure Global where
  /-- The name. -/
  name : String
  /-- The type. -/
  type : CType
  deriving Repr, Inhabited

/-- A constant of an enum. -/
structure Enumerator where
  /-- The name. -/
  name : String
  /-- The value, where the header spells one out. -/
  value : Option Int64
  deriving Repr, Inhabited

/-- Everything the headers of a library declare. -/
structure Declarations where
  /-- Records by spelling. -/
  records : Table Record := .empty
  /-- What each typedef stands for. -/
  typedefs : Table CType := .empty
  /-- Functions in order of declaration. -/
  functions : List CFunction := []
  /-- Enums in order of declaration. -/
  enums : List (List Enumerator) := []
  /-- Variables in order of declaration. -/
  globals : List Global := []
  deriving Inhabited

/-- How many typedefs a name is followed through. -/
def aliasLimit : Nat := 32

namespace Declarations

/-- The record a type names, through fewer typedefs than the given bound. -/
def recordWithin (decls : Declarations) : Nat → CType → Option Record
  | 0, _ => none
  | bound + 1, .named name =>
    (decls.records.get? name).or
      ((decls.typedefs.get? name).bind (decls.recordWithin bound))
  | _ + 1, .tagged kind tag => decls.records.get? (CType.tagged kind tag).spelling
  | _ + 1, _ => none

/-- The record a type names, directly or through typedefs. -/
def recordOf (decls : Declarations) (type : CType) : Option Record :=
  decls.recordWithin (aliasLimit + 1) type

/-- The signature behind a function pointer, through fewer typedefs than the
    given bound. -/
def functionPointerWithin (decls : Declarations) : Nat → CType → Option Signature
  | 0, _ => none
  | _ + 1, .pointer (.function signature) _ => some signature
  | _ + 1, .function signature => some signature
  | bound + 1, .named name =>
    (decls.typedefs.get? name).bind (decls.functionPointerWithin bound)
  | _ + 1, _ => none

/-- The signature behind a function pointer, directly or through typedefs. -/
def functionPointer (decls : Declarations) (type : CType) : Option Signature :=
  decls.functionPointerWithin (aliasLimit + 1) type

/-- Whether a type is an enum, through fewer typedefs than the given bound. -/
def isEnumWithin (decls : Declarations) : Nat → CType → Bool
  | 0, _ => false
  | _ + 1, .enumeration _ => true
  | bound + 1, .named name =>
    match decls.typedefs.get? name with
    | some underlying => decls.isEnumWithin bound underlying
    | none => false
  | _ + 1, _ => false

/-- Whether a type is an enum, directly or through typedefs. -/
def isEnum (decls : Declarations) (type : CType) : Bool := decls.isEnumWithin aliasLimit type

/-- A record's own name comes before a typedef of that name. -/
theorem recordOf_named {decls : Declarations} {name : String} {record : Record}
    (h : decls.records.get? name = some record) : decls.recordOf (.named name) = some record := by
  rw [recordOf, recordWithin, h, Option.some_or]

/-- A pointer to a function leads to its signature. -/
theorem functionPointer_pointer (decls : Declarations) (signature : Signature) (c : Bool) :
    decls.functionPointer (.pointer (.function signature) c) = some signature := rfl

end Declarations

namespace CFunction

/-- A parameter as it stands in a prototype. -/
def parameterText (param : Parameter) : String :=
  if param.name = "" then param.type.qualified else param.type.declare param.name

/-- The declaration of a function as text. -/
def prototype (function : CFunction) : String :=
  let params := parameterList (function.params.map parameterText) function.isVariadic
  s!"{function.result.qualified} {function.name}({params})"

/-- The parameters a call has to give: a lone `void` is none. -/
def effectiveParams (function : CFunction) : List Parameter :=
  match function.params with
  | [only] => if only.type.isVoid then [] else [only]
  | params => params

end CFunction

end ScriptBind
