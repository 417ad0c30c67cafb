import ScriptBind.Text.Affix
import ScriptBind.Text.Identifier
import ScriptBind.Text.UpperCase

/-!
# Naming Conventions

A C library has no classes and no modules, but its names are built as if it
had: `lv_btn_create` creates a `btn`, `lv_btn_set_state` is a method of it, and
`LV_BTN_STATE` is an enum that goes with it. This module holds what the
generator knows of that habit.

Every rule hangs on the scope, the word all names of the library start with.
The scope may be empty; names then start with what would follow it.

## Main definitions

* `Naming`: The words a library's names are built from.
* `Naming.inScope`: A name of the library.
* `Naming.constructorObject?`: The object a constructor creates.
* `Naming.isMethodOf`, `Naming.methodName`: Methods and their script names.
* `Naming.enumName`, `Naming.nestedEnumName`: Script names of enum groups.
* `Naming.stringConstant?`: The full name of a string enumerator.

## Theorems

* `constructorObject?_constructorName`: A constructor's name gives its object
  back.
-/

namespace ScriptBind

open Text

/-- The words a library's names are built from. -/
structure Naming where
  /-- The name of the generated module. -/
  moduleName : String
  /-- The word that the library's names start with. -/
  scope : String
  /-- The object that all others derive from. -/
  baseObject : String := "obj"
  /-- The record member that leads from C back to the script. -/
  userData : String := "user_data"
  deriving DecidableEq, Repr, Inhabited

namespace Naming

/-- A name of the library. -/
def inScope (naming : Naming) (rest : String) : String :=
  if naming.scope = "" then rest else naming.scope ++ "_" ++ rest

/-- A name of the library in upper case, as its constants have it. -/
def inUpperScope (naming : Naming) (rest : String) : String :=
  if naming.scope = "" then rest else upper naming.scope ++ "_" ++ rest

/-- What every name of the library starts with. -/
def leading (naming : Naming) : String := naming.inScope ""

/-- The type of the base object. -/
def baseType (naming : Naming) : String := naming.inScope (naming.baseObject ++ "_t")

/-- Whether a spelling names the base type or a pointer to it, by typedef or by
    tag. -/
def isBaseType (naming : Naming) (spelling : String) : Bool :=
  let name := (dropPrefix? "struct _" spelling).getD spelling
  name == naming.baseType || dropSuffix? " *" name == some naming.baseType

/-- What stands between a beginning and an end, unless it is empty. -/
def between? (lead tail name : String) : Option String :=
  ((dropPrefix? lead name).bind (dropSuffix? tail)).filter (· ≠ "")

/-- The object that a function creates, going by its name. -/
def constructorObject? (naming : Naming) (function : String) : Option String :=
  between? naming.leading "_create" function

/-- The name of the function that creates an object. -/
def constructorName (naming : Naming) (object : String) : String :=
  naming.inScope (object ++ "_create")

/-- What the names that belong to an object start with. -/
def objectLeading (naming : Naming) (object : String) : String := naming.inScope (object ++ "_")

/-- Whether a name belongs to an object. -/
def isMethodOf (naming : Naming) (name object : String) : Bool :=
  (dropPrefixAnyCase? (naming.objectLeading object) name).isSome

/-- The part of a name that an object's class does not repeat. -/
def memberName (naming : Naming) (name object : String) : String :=
  (dropPrefixAnyCase? (naming.objectLeading object) name).getD name

/-- The script name of a method. -/
def methodName (naming : Naming) (function object : String) : String :=
  callableName (naming.memberName function object)

/-- A name without the scope, unless nothing else is left. -/
def simplify (naming : Naming) (name : String) : String :=
  ((dropPrefixAnyCase? naming.leading name).filter (· ≠ "")).getD name

/-- The script name of a function of the module. -/
def functionName (naming : Naming) (function : String) : String :=
  callableName (naming.simplify function)

/-- The script name of an enum group of the module. -/
def enumName (naming : Naming) (group : String) : String :=
  let name := (dropPrefix? "ENUM_" group).getD group
  match (dropPrefix? (naming.inUpperScope "") name).filter (· ≠ "") with
  | some rest => rest
  | none => if name = "" then group else name

/-- The full name of a string enumerator: the mark in its name goes. -/
def stringConstant? (naming : Naming) (enumerator : String) : Option String :=
  let name := (dropPrefix? "_" enumerator).getD enumerator
  ((dropPrefix? (naming.inUpperScope "STR_") name).filter (· ≠ "")).map naming.inUpperScope

/-- Whether a function returns the first element of an array. -/
def returnsArray (_ : Naming) (function : String) : Bool := endsWith "_array" function

/-- Whether callbacks of a type carry no context and share one slot. -/
def isGlobalCallback (_ : Naming) (typeName : String) : Bool := occursIn "g_cb_t" typeName

/-- The object that a record extends, going by its name. -/
def extensionObject? (naming : Naming) (record : String) : Option String :=
  (between? naming.leading "_ext_t" record).filter fun object => !object.toList.contains '_'

/-- The script name of an enum group inside a class. -/
def nestedEnumName (naming : Naming) (group object : String) : String :=
  attributeName (naming.memberName group object)

/-- The enum group whose members a class takes as its own. -/
def classEnumGroup (naming : Naming) (object : String) : String :=
  naming.inUpperScope (upper object)

/-- The scope stands in front of each name of the library. -/
theorem inScope_eq_leading_append (naming : Naming) (rest : String) :
    naming.inScope rest = naming.leading ++ rest := by
  unfold leading inScope
  split
  · rw [String.empty_append]
  · rw [String.append_empty]

/-- A constructor's name gives its object back. -/
theorem constructorObject?_constructorName (naming : Naming) {object : String}
    (h : object ≠ "") :
    naming.constructorObject? (naming.constructorName object) = some object := by
  have hp : dropPrefix? naming.leading (naming.constructorName object) =
      some (object ++ "_create") :=
    dropPrefix?_eq_some_iff.2 (inScope_eq_leading_append naming _)
  have hs : dropSuffix? "_create" (object ++ "_create") = some object :=
    dropSuffix?_eq_some_iff.2 rfl
  rw [constructorObject?, between?, hp, Option.bind_some, hs]
  simp [h]

end Naming

end ScriptBind
