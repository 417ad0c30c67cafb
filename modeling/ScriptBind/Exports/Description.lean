import ScriptBind.Exports.Basic
import ScriptBind.Text.Json

/-!
# The Description of a Module

What a module exposes, written down for documentation and for tools that check
scripts. A description is made from the tables of the module and from nothing
else, so it cannot say anything that the module does not hold.

## Main definitions

* `Member`: What a script name stands for, in full.
* `Description`: What a module exposes.
* `Description.ofExports`: The description of some tables.
* `Description.json`: A description as JSON.
-/

namespace ScriptBind

/-- What a script name stands for, in full. -/
inductive Member where
  /-- A function, with its parameters by name and type. -/
  | function (cName : String) (args : List (String × String)) (result : String)
  /-- A number. -/
  | number (cName : String) (value : Int64)
  /-- A text. -/
  | text (cName value : String)
  /-- The class of an enum group. -/
  | enumClass (name : String)
  deriving DecidableEq, Repr, Inhabited

/-- What a module exposes. -/
structure Description where
  /-- The members of each object's class. -/
  objects : Table (Table Member) := .empty
  /-- The functions of the module. -/
  functions : Table Member := .empty
  /-- The members of each enum group's class. -/
  enums : Table (Table Member) := .empty
  /-- The record types of the module. -/
  structs : List String := []
  /-- The variables of the module. -/
  globals : List String := []
  /-- The C names of all numbers in classes. -/
  numbers : List String := []
  deriving Inhabited

namespace Member

/-- A function with a wrapper. -/
def ofWrapped (cName : String) (function : WrappedFunction) : Member :=
  .function cName (function.params.map fun param => (param.name, param.type.qualified))
    function.result.qualified

/-- What a target is described as; types and variables are only listed. -/
def ofTarget? (functions : Table WrappedFunction) : Target → Option Member
  | .function cName => (functions.get? cName).map (ofWrapped cName)
  | .number cName value => some (.number cName value)
  | .text cName value => some (.text cName value)
  | .enumClass group => some (.enumClass group)
  | .cls _ => none
  | .struct _ => none
  | .global _ _ => none

/-- A member as JSON. -/
def json : Member → Json
  | .function cName args result =>
    .object [("type", .text "function"), ("c_name", .text cName),
      ("args", .list (args.map fun (name, type) =>
        .object [("name", .text name), ("type", .text type)])),
      ("return_type", .text result)]
  | .number cName value =>
    .object [("type", .text "int_constant"), ("c_name", .text cName),
      ("value", .integer value.toInt)]
  | .text cName value =>
    .object [("type", .text "str_constant"), ("c_name", .text cName), ("value", .text value)]
  | .enumClass name => .object [("type", .text "enum_class"), ("name", .text name)]

end Member

/-- The C name of a number. -/
def Target.numberName? : Target → Option String
  | .number cName _ => some cName
  | _ => none

/-- Whether a target is a function. -/
def Target.isFunction : Target → Bool
  | .function _ => true
  | _ => false

/-- Whether a target is the type of a record. -/
def Target.isStruct : Target → Bool
  | .struct _ => true
  | _ => false

/-- Whether a target is a variable. -/
def Target.isGlobal : Target → Bool
  | .global _ _ => true
  | _ => false

namespace Description

/-- The members that rows stand for. -/
def members (functions : Table WrappedFunction) (rows : List Row) : Table Member :=
  Table.ofRows <| rows.filterMap fun row =>
    (Member.ofTarget? functions row.target).map (row.name, ·)

/-- The members of the classes of a kind. -/
def sections (exports : Exports) (kind : ClassKind) : Table (Table Member) :=
  Table.ofRows <| (exports.classes.filter (·.kind == kind)).map fun table =>
    (table.name, members exports.functions table.rows)

/-- The names of the module's rows of some kind. -/
def named (exports : Exports) (ofKind : Target → Bool) : List String :=
  (exports.moduleRows.filter fun row => ofKind row.target).map Row.name

/-- The description of some tables. -/
def ofExports (exports : Exports) : Description where
  objects := sections exports .object
  functions := members exports.functions (exports.moduleRows.filter (·.target.isFunction))
  enums := sections exports .enumeration
  structs := named exports Target.isStruct
  globals := named exports Target.isGlobal
  numbers := distinctNames <|
    exports.classes.flatMap fun table => table.rows.filterMap (·.target.numberName?)

/-- A table as JSON, its values as given. -/
def tableJson {α : Type} (json : α → Json) (table : Table α) : Json :=
  .object (table.rows.map fun (name, value) => (name, json value))

/-- A description as JSON. -/
def json (description : Description) : Json :=
  .object [
    ("objects", tableJson (tableJson Member.json) description.objects),
    ("functions", tableJson Member.json description.functions),
    ("enums", tableJson (tableJson Member.json) description.enums),
    ("structs", .list (description.structs.map .text)),
    ("globals", .list (description.globals.map .text)),
    ("int_constants", .list (description.numbers.map .text))]

/-- A description as text. -/
def text (description : Description) : String := description.json.pretty

end Description

end ScriptBind
