import ScriptBind.Module.Options
import ScriptBind.Text.Identifier

/-!
# Configurations

What there is to say about a run: which module to generate, from which headers,
with which choices, and where the description of the module goes. A settings
file and the command line each contribute to it.

A configuration may be incomplete or contradict itself. `Config.fault?` finds the
first fault; a configuration without one names a module and has something to
read.

## Main definitions

* `Config`: A configuration.
* `ConfigFault`: What can be wrong with one.
* `Config.fault?`: The first fault of a configuration.
* `Config.compilerArguments`: The arguments for the reader of headers.
* `Config.options`: The choices for the module.

## Theorems

* `isIdentifier_of_fault?_eq_none`: A configuration without fault names a module.
-/

namespace ScriptBind

/-- A configuration. -/
structure Config where
  /-- The name of the module. -/
  moduleName : Option String := none
  /-- The word the library's names start with, if it is not the module's name. -/
  scope : Option String := none
  /-- The headers to read, which the generated code includes too. -/
  headers : List String := []
  /-- Directories with more headers. -/
  includePaths : List String := []
  /-- Definitions for the reader of headers. -/
  defines : List String := []
  /-- A file to read instead of the headers, in which they are included already. -/
  preprocessed : Option String := none
  /-- The objects that do not become classes. -/
  exclude : List String := []
  /-- More arguments for the reader of headers. -/
  readerArguments : List String := []
  /-- The files whose declarations count; if there are none, those of every
      header of the library. -/
  traverse : List String := []
  /-- The record member that leads from C back to the script. -/
  userData : String := "user_data"
  /-- Whether the parents of classes are narrowed by extension records. -/
  narrowed : Bool := false
  /-- Where the description of the module goes, if anywhere. -/
  metadata : Option String := none
  deriving DecidableEq, Repr, Inhabited

/-- What can be wrong with a configuration. -/
inductive ConfigFault where
  /-- The module has no name. -/
  | unnamed
  /-- The name of the module is none in C. -/
  | notIdentifier (name : String)
  /-- There is nothing to read. -/
  | noInput
  /-- There are choices for headers, but none is to be included any more. -/
  | alreadyPreprocessed
  deriving DecidableEq, Repr, Inhabited

/-- The wording of a fault. -/
def ConfigFault.message : ConfigFault → String
  | .unnamed => "module name is required (`module_name` or --module-name)"
  | .notIdentifier name => s!"module name `{name}` is not a valid C identifier"
  | .noInput => "no input headers given"
  | .alreadyPreprocessed =>
    "a preprocessed input cannot be combined with include paths or defines"

namespace Config

/-- The name of the module, or the empty text. -/
def name (config : Config) : String := config.moduleName.getD ""

/-- The first fault of a configuration. -/
def fault? (config : Config) : Option ConfigFault :=
  if config.name = "" then some .unnamed
  else if ¬ Text.isIdentifier config.name then some (.notIdentifier config.name)
  else if config.headers = [] ∧ config.preprocessed = none then some .noInput
  else if config.preprocessed ≠ none ∧ (config.includePaths ≠ [] ∨ config.defines ≠ []) then
    some .alreadyPreprocessed
  else none

/-- A configuration without fault names a module. -/
theorem isIdentifier_of_fault?_eq_none {config : Config} (h : config.fault? = none) :
    Text.isIdentifier config.name := by
  unfold fault? at h
  split at h
  · exact absurd h (by simp)
  · split at h
    · exact absurd h (by simp)
    · next hi => exact Decidable.of_not_not hi

/-- Arguments followed by one for a directory of headers, unless it is there. -/
def addInclude (arguments : List String) (path : String) : List String :=
  let argument := "-I" ++ path
  if arguments.contains argument then arguments else arguments ++ [argument]

/-- The arguments for the reader of headers: those given as such, then the
    directories, each once, and then the definitions. -/
def compilerArguments (config : Config) : List String :=
  config.includePaths.foldl addInclude config.readerArguments
    ++ config.defines.map ("-D" ++ ·)

/-- The choices for the module. -/
def options (config : Config) : Options where
  moduleName := config.name
  scope := config.scope
  headers := config.headers
  exclude := config.exclude
  userData := config.userData
  narrowed := config.narrowed

end Config

end ScriptBind
