import ScriptBind.Classes.Basic
import ScriptBind.Code.Section
import ScriptBind.Code.Support
import ScriptBind.Exports.Description
import ScriptBind.Text.StringLiteral

/-!
# Generated Modules

A generated module: what it is called, what its code consists of, what it
exposes, and what was left out of it. Its source text is written from these.

The source starts with the heading and the includes, followed by the support
code and the texts of string enumerators. Then comes the body, and last the
table of the module.

## Main definitions

* `Module`: A generated module.
* `Module.source`: Its source text.
* `Module.description`: What it exposes.

## Theorems

* `source_eq`: The source is what comes before the body, the body, and the table
  of the module.
-/

namespace ScriptBind

open Text

/-- A generated module. -/
structure Module where
  /-- The naming conventions of the library. -/
  naming : Naming
  /-- The headers that the code includes. -/
  headers : List String
  /-- The classes with constructors, as text. -/
  summary : String
  /-- Whether there are classes at all. -/
  hasClasses : Bool
  /-- The enum groups. -/
  groups : Table EnumGroup
  /-- The sections of the body. -/
  body : List Section
  /-- The tables. -/
  exports : Exports
  /-- The declarations left out. -/
  diagnostics : List Diagnostic
  deriving Inhabited

/-- The heading of a module. -/
def headingLines (summary : String) : List String :=
  ["", "/*",
    " * Auto-Generated file, DO NOT EDIT!",
    " *",
    s!" * Generating Objects: {summary}",
    " */", ""]

/-- The includes of every module. -/
def engineIncludes : List String :=
  comment ["Mpy includes"]
    ++ ["",
      "#include <stdlib.h>",
      "#include <string.h>",
      "#include \"py/obj.h\"",
      "#include \"py/objstr.h\"",
      "#include \"py/runtime.h\"",
      "#include \"py/binary.h\"",
      "#include \"py/objarray.h\"",
      ""]

/-- The definition of a string enumerator. -/
def stringConstant (cName text : String) : String :=
  s!"MP_DEFINE_STR_OBJ(mp_{cName}, {stringLiteral text});"

namespace Module

/-- The includes of the library's headers. -/
def libraryIncludes (module : Module) : List String :=
  comment [s!"{module.naming.moduleName} includes"] ++ [""]
    ++ module.headers.map fun header => s!"#include \"{header}\""

/-- The definition of the base type, in modules that have classes. -/
def baseTypeDefinition (module : Module) : List String :=
  if module.hasClasses then ["", s!"#define LV_OBJ_T {module.naming.baseType}"] else []

/-- The texts of string enumerators. -/
def stringConstants (module : Module) : List String :=
  "" :: comment [s!"{module.naming.moduleName} string constants"] ++ [""]
    ++ (module.groups.values.flatMap EnumGroup.stringConstants).map fun (cName, text) =>
      stringConstant cName text

/-- What comes before the body. -/
def prologue (module : Module) : List String :=
  headingLines module.summary ++ engineIncludes
    ++ module.libraryIncludes ++ module.baseTypeDefinition
    ++ Support.lines module.naming.userData
    ++ module.stringConstants

/-- The source of the module, line by line. -/
def lines (module : Module) : List String :=
  let name := module.naming.moduleName
  module.prologue ++ module.body.flatMap (Section.lines name)
    ++ moduleLines name module.exports.moduleRows

/-- The source text of the module. -/
def source (module : Module) : String := unlines module.lines

/-- The source is what comes before the body, the body, and the table of the
    module. -/
theorem source_eq (module : Module) :
    module.source = unlines module.prologue ++ bodyText module.naming.moduleName module.body
      ++ unlines (moduleLines module.naming.moduleName module.exports.moduleRows) := by
  rw [source, lines, unlines_append, unlines_append, bodyText]

/-- What the module exposes. -/
def description (module : Module) : Description := .ofExports module.exports

end Module

end ScriptBind
