/-!
# C Types

The types that C declarations are made of, as a binding generator sees them.

A named type keeps the name its header used. Conversions are found by that
name and not by what it stands for, so `uint8_t` and `unsigned char` stay two
types here, and a record that a typedef names is referred to by the typedef.

A record without a name is part of the type of its member, which makes types,
records, fields and signatures one family.

## Main definitions

* `CType`: A C type.
* `Record`, `Field`: A struct or union and its members.
* `Signature`: What a function takes and returns.
* `Record.flattened`: The members of a record, nameless records opened.

## Theorems

* `flattenAll_append`: Opening a member list is done member by member.
-/

namespace ScriptBind

/-- The two kinds of record. -/
inductive RecordKind where
  | struct
  | union
  deriving DecidableEq, Repr, Inhabited

mutual

/-- A C type. -/
inductive CType where
  /-- No value. -/
  | void
  /-- An arithmetic type of the language, such as `unsigned char`. -/
  | builtin (name : String)
  /-- A typedef, or a record that a typedef names. -/
  | named (name : String)
  /-- A record known by its tag only. -/
  | tagged (kind : RecordKind) (tag : String)
  /-- A record defined in place. -/
  | anonymous (record : Record)
  /-- An enum known by its tag. -/
  | enumeration (tag : String)
  /-- A pointer, its pointee constant or not. -/
  | pointer (pointee : CType) (isConst : Bool)
  /-- An array of a fixed length; length zero is an array of unknown length. -/
  | array (element : CType) (length : Nat)
  /-- A function; it has values only behind a pointer. -/
  | function (signature : Signature)

/-- A struct or union. -/
structure Record where
  /-- The spelling the record is known by, empty for a nameless one. -/
  name : String
  /-- Whether the members lie side by side or share their place. -/
  kind : RecordKind
  /-- The members in order. -/
  fields : List Field

/-- A member of a record. -/
structure Field where
  /-- The name, empty for a member whose own members count as the record's. -/
  name : String
  /-- The type. -/
  type : CType
  /-- The width of a bit-field. -/
  width : Option Nat

/-- What a function takes and returns. -/
structure Signature where
  /-- The type returned. -/
  result : CType
  /-- The types of the parameters. -/
  params : List CType
  /-- Whether more arguments may follow. -/
  isVariadic : Bool

end

deriving instance Repr for CType, Record, Field, Signature

instance : Inhabited CType := ⟨.void⟩
instance : Inhabited Record := ⟨"", .struct, []⟩
instance : Inhabited Signature := ⟨.void, [], false⟩

namespace CType

/-- Whether the type has no values. -/
def isVoid : CType → Bool
  | .void => true
  | _ => false

/-- Whether the type is a pointer. -/
def isPointer : CType → Bool
  | .pointer _ _ => true
  | _ => false

/-- What a pointer points to. -/
def pointee? : CType → Option CType
  | .pointer pointee _ => some pointee
  | _ => none

/-- A pointer through which the pointee may be written. -/
def pointerTo (pointee : CType) : CType := .pointer pointee false

end CType

/-- Whether the function returns nothing. -/
def Signature.returnsVoid (signature : Signature) : Bool := signature.result.isVoid

namespace Record

mutual

/-- The members of a member list, the members of nameless records in their
    places. -/
def flattenAll : List Field → List Field
  | [] => []
  | field :: rest => flattenOne field ++ flattenAll rest

/-- The member itself, or the members it stands for. -/
def flattenOne : Field → List Field
  | ⟨name, .anonymous ⟨inner, kind, fields⟩, width⟩ =>
    if name = "" then flattenAll fields
    else [⟨name, .anonymous ⟨inner, kind, fields⟩, width⟩]
  | field => [field]

end

theorem flattenAll_append (front back : List Field) :
    flattenAll (front ++ back) = flattenAll front ++ flattenAll back := by
  induction front with
  | nil => rw [flattenAll, List.nil_append, List.nil_append]
  | cons field rest ih =>
    rw [List.cons_append, flattenAll, flattenAll, ih, List.append_assoc]

/-- The members of a record, with nameless records opened up. -/
def flattened (record : Record) : List Field := flattenAll record.fields

/-- Whether the record has a member of a name. -/
def hasField (record : Record) (name : String) : Bool :=
  record.flattened.any fun field => field.name == name

end Record

end ScriptBind
