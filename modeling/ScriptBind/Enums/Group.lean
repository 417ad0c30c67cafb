import ScriptBind.Declarations
import ScriptBind.Enums.GroupName
import ScriptBind.Enums.PackedText
import ScriptBind.Naming

/-!
# Enum Groups

The constants of a library, sorted into the groups a script sees.

The members of one C enum form at most two groups, its numbers and its texts,
each named after what its members start with. Groups of the same name, from
whatever enum, are one group.

A number without a value of its own is one more than the member before it, in
the 64-bit arithmetic of C. A member that starts with an underscore is private
and counts, but is not shown; a member marked as a text is shown as one if its
value holds a text, and as a number otherwise.

## Main definitions

* `EnumValue`: What a member stands for.
* `EnumGroup`: A group and its members by script name.
* `numbered`: The members of an enum with their values.
* `classify`: What a member of an enum becomes.
* `groups`: All groups of some enums.
-/

namespace ScriptBind

open Enums

/-- What a member of a group stands for. -/
inductive EnumValue where
  /-- A number, under its C name. -/
  | number (cName : String) (value : Int64)
  /-- A text, under the C name it is defined by. -/
  | text (cName text : String)
  deriving DecidableEq, Repr, Inhabited

/-- The C name of a member. -/
def EnumValue.cName : EnumValue → String
  | .number cName _ => cName
  | .text cName _ => cName

/-- Whether a member is a text. -/
def EnumValue.isText : EnumValue → Bool
  | .number _ _ => false
  | .text _ _ => true

/-- Constants that a script finds under one name. -/
structure EnumGroup where
  /-- The name of the group. -/
  name : String
  /-- The members by script name. -/
  members : Table EnumValue
  deriving Inhabited

namespace EnumGroup

/-- The texts of a group with their C names. -/
def stringConstants (group : EnumGroup) : List (String × String) :=
  group.members.values.filterMap fun
    | .text cName text => some (cName, text)
    | .number _ _ => none

/-- A group with more members. A member that is there already stays as it is. -/
def merge (group : EnumGroup) (members : Table EnumValue) : EnumGroup :=
  { group with
    members := members.rows.foldl (fun all row => all.add row.1 row.2) group.members }

end EnumGroup

namespace Enums

/-- Members with their values, the next one without a value taking `next`. -/
def numberedFrom (next : Int64) : List Enumerator → List (String × Int64)
  | [] => []
  | member :: rest =>
    let value := member.value.getD next
    (member.name, value) :: numberedFrom (value + 1) rest

/-- The members of an enum with their values. -/
def numbered (members : List Enumerator) : List (String × Int64) := numberedFrom 0 members

/-- What a member of an enum becomes; a private one becomes nothing. -/
def classify (naming : Naming) (name : String) (value : Int64) : Option EnumValue :=
  match naming.stringConstant? name with
  | some full =>
    match PackedText.unpack? value with
    | some text => some (.text full text)
    | none => some (.number name value)
  | none => if Text.startsWith "_" name then none else some (.number name value)

/-- The script name of a member of a group. -/
def memberName (group : String) (value : EnumValue) : String :=
  Text.attributeName (afterGroup group value.cName)

/-- Groups with one more list of members, which form a group of their own or
    join one of their name. -/
def addGroup (groups : Table EnumGroup) (values : List EnumValue) : Table EnumGroup :=
  if values.isEmpty then groups
  else
    let name := groupName (values.map EnumValue.cName)
    let members := Table.ofRows (values.map fun value => (memberName name value, value))
    let group := (groups.get? name).getD ⟨name, .empty⟩
    groups.set name (group.merge members)

/-- Groups with the members of one more enum: first its numbers, then its
    texts. -/
def addEnum (naming : Naming) (groups : Table EnumGroup) (members : List Enumerator) :
    Table EnumGroup :=
  let values := (numbered members).filterMap fun (name, value) => classify naming name value
  addGroup (addGroup groups (values.filter (!·.isText))) (values.filter (·.isText))

/-- All groups of some enums, in order of first appearance. -/
def groups (naming : Naming) (enums : List (List Enumerator)) : Table EnumGroup :=
  enums.foldl (addEnum naming) .empty

end Enums

end ScriptBind
