import ScriptBind.Naming

/-!
# Options

What there is to choose for a generated module.

## Main definitions

* `Options`: The choices for a module.
* `Options.naming`: The naming conventions they amount to.
-/

namespace ScriptBind

/-- The choices for a module. -/
structure Options where
  /-- The name of the module. -/
  moduleName : String
  /-- The word the library's names start with, if it is not the module's name. -/
  scope : Option String := none
  /-- The headers that the generated code includes. -/
  headers : List String := []
  /-- The objects that do not become classes. -/
  exclude : List String := []
  /-- The record member that leads from C back to the script. -/
  userData : String := "user_data"
  /-- Whether the parents of classes are narrowed by extension records. -/
  narrowed : Bool := false
  deriving DecidableEq, Repr, Inhabited

/-- The naming conventions that options amount to. -/
def Options.naming (options : Options) : Naming where
  moduleName := options.moduleName
  scope := options.scope.getD options.moduleName
  userData := options.userData

end ScriptBind
