import ScriptBind.Code.Accessor
import ScriptBind.Code.ArrayConverter
import ScriptBind.Code.Tables
import ScriptBind.Code.Trampoline
import ScriptBind.Code.Wrapper
import ScriptBind.Diagnostic

/-!
# The Body of a Module

The generated code between the fixed beginning and the table of the module is a
list of sections in the order in which they came about. C wants a name declared
before it is used, so this order is part of what makes the code correct.

A section says what it is code for. Its text is derived from that in one place,
so what holds of the sections of a body holds of the code.

## Main definitions

* `Section`: A piece of a module's body.
* `Section.lines`: The piece as text.
* `bodyText`: A whole body as text.

## Theorems

* `bodyText_append`: The text of a longer body starts with that of the shorter.
-/

namespace ScriptBind

open Text

/-- A piece of a module's body. -/
inductive Section where
  /-- The record that scripts use as a cell for a pointer. -/
  | pointerCell
  /-- A name for the type of a nameless record. -/
  | memberTypedef (typedef : MemberTypedef)
  /-- The accessor of a record. -/
  | accessor (accessor : Accessor)
  /-- The converters of an array type. -/
  | arrayConverter (converter : ArrayConverter)
  /-- A trampoline. -/
  | trampoline (trampoline : Trampoline)
  /-- A stub in place of a trampoline. -/
  | stub (callback : Callback)
  /-- The wrapper of a function. -/
  | wrapper (wrapper : Wrapper)
  /-- The comment for a declaration left out. -/
  | note (diagnostic : Diagnostic)
  /-- A class. -/
  | classTable (table : ClassTable)
  /-- The way to the type of the base object. -/
  | baseType (base : String)
  /-- The heading of the functions that belong to no class. -/
  | functionsHeading
  /-- A variable. -/
  | global (shown : Instance)
  /-- The list of functions left out. -/
  | notGenerated (names : List String)
  deriving Inhabited

/-- The record that scripts use as a cell for a pointer, as text. -/
def pointerCellLines : List String :=
  "" :: comment ["Helper Structs"] ++ [""]
    ++ enclosed "typedef union \x7b" ["void *ptr_val;", "int int_val;", "const char *str_val;"]
      "\x7d C_Pointer;"

namespace Section

/-- The piece as text. -/
def lines (moduleName : String) : Section → List String
  | .pointerCell => pointerCellLines
  | .memberTypedef typedef => typedef.lines
  | .accessor code => code.lines
  | .arrayConverter converter => converter.lines
  | .trampoline code => code.lines
  | .stub callback => callback.stubLines
  | .wrapper code => code.lines moduleName
  | .note diagnostic => diagnostic.lines
  | .classTable table => table.lines moduleName
  | .baseType base => baseTypeLines base
  | .functionsHeading => ["", "/*", " *", " * Global Module Functions", " *", " */"]
  | .global shown => shown.lines moduleName
  | .notGenerated names =>
    ["", "/*", " * Functions not generated:"] ++ names.map starred ++ [" *", " */"]

end Section

/-- A whole body as text. -/
def bodyText (moduleName : String) (body : List Section) : String :=
  unlines (body.flatMap (Section.lines moduleName))

/-- The text of a longer body starts with that of the shorter. -/
theorem bodyText_append (moduleName : String) (front back : List Section) :
    bodyText moduleName (front ++ back) =
      bodyText moduleName front ++ bodyText moduleName back := by
  rw [bodyText, List.flatMap_append, unlines_append, bodyText, bodyText]

end ScriptBind
