import ScriptBind.CType.Basic
import ScriptBind.Text.Affix

/-!
# Types as Text

A type is written in two ways. Without its qualifiers it is the name that
conversions are found by; with them it is the text that goes into code. The
two differ only in the `const` before a pointer.

C writes a declared name inside its type, not beside it, wherever a function
pointer or an array is involved. `declare` knows these two places.

## Main definitions

* `CType.spelling`: A type without its qualifiers.
* `CType.qualified`: A type with its qualifiers.
* `CType.declare`: A declaration of a name with a type.
* `bareTag`: A spelling without the keyword of its record.

## Theorems

* `spellAll_eq_map`: Types are spelled one by one.
-/

namespace ScriptBind

/-- The keyword of a kind of record. -/
def RecordKind.keyword : RecordKind → String
  | .struct => "struct"
  | .union => "union"

/-- A parameter list as text: a list without parameters says so. -/
def parameterList (params : List String) (isVariadic : Bool) : String :=
  match params ++ if isVariadic then ["..."] else [] with
  | [] => "void"
  | texts => ", ".intercalate texts

/-- A star after a text, set off by a blank unless it follows another star. -/
def starAfter (inner : String) : String :=
  if inner.toList.getLast? = some '*' then inner ++ "*" else inner ++ " *"

namespace CType

mutual

/-- A type as text, with or without its qualifiers. A pointer to a function
    puts its star between the result and the parameters. -/
def spell (quals : Bool) : CType → String
  | .void => "void"
  | .builtin name => name
  | .named name => name
  | .tagged kind tag => kind.keyword ++ " " ++ tag
  | .anonymous ⟨_, kind, _⟩ => kind.keyword ++ " <anonymous>"
  | .enumeration tag => "enum " ++ tag
  | .pointer (.function ⟨result, params, isVariadic⟩) _ =>
    result.spell quals ++ " (*)(" ++ parameterList (spellAll quals params) isVariadic ++ ")"
  | .pointer pointee isConst =>
    if quals && isConst then "const " ++ starAfter (pointee.spell quals)
    else starAfter (pointee.spell quals)
  | .array element length => element.spell quals ++ s!" [{length}]"
  | .function ⟨result, params, isVariadic⟩ =>
    result.spell quals ++ " (" ++ parameterList (spellAll quals params) isVariadic ++ ")"

/-- Types as texts. -/
def spellAll (quals : Bool) : List CType → List String
  | [] => []
  | type :: rest => type.spell quals :: spellAll quals rest

end

/-- Types are spelled one by one. -/
theorem spellAll_eq_map (quals : Bool) (types : List CType) :
    spellAll quals types = types.map (spell quals) := by
  induction types with
  | nil => rw [spellAll, List.map_nil]
  | cons type rest ih => rw [spellAll, List.map_cons, ih]

/-- A type without its qualifiers: the name its conversion is found by. -/
def spelling (type : CType) : String := type.spell false

/-- A type with its qualifiers: the way it is written in code. -/
def qualified (type : CType) : String := type.spell true

/-- A declaration of a name with a type. The name of a function pointer goes
    after the star and that of an array before the length. -/
def declare (name : String) : CType → String
  | .pointer (.function ⟨result, params, isVariadic⟩) _ =>
    s!"{result.qualified} (*{name})({parameterList (spellAll true params) isVariadic})"
  | .array element length => s!"{element.qualified} {name}[{length}]"
  | type => s!"{type.qualified} {name}"

end CType

namespace Signature

/-- The signature as the text of a function type. -/
def prototype (signature : Signature) : String := (CType.function signature).qualified

end Signature

/-- A record's spelling without its keyword: the part usable in identifiers. -/
def bareTag (spelling : String) : String :=
  ((Text.dropPrefix? "struct " spelling).or (Text.dropPrefix? "union " spelling)).getD spelling

end ScriptBind
