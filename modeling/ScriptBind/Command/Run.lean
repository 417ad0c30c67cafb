import ScriptBind.Config.Headers
import ScriptBind.Config.Loading
import ScriptBind.Module.Assembly

/-!
# Runs

A run has a configuration and the directory that its paths are taken from. It
ends in a module, or in the first thing that is wrong: a settings file that cannot
be used, a configuration with a fault, or headers that nobody can read.

Reading C is not part of this library. Who does it is a parameter of a run.

## Main definitions

* `Run`: A configuration with its base directory.
* `HeaderReader`: What reads the headers of a configuration.
* `RunFault`: Why a run ends without a module.
* `Run.generate`: The module of a run.

## Theorems

* `generate_none`: Without a reader no run ends in a module.
-/

namespace ScriptBind

/-- A configuration with the directory that its paths are taken from. -/
structure Run where
  /-- The configuration. -/
  config : Config := {}
  /-- The base directory. -/
  base : String := "."
  deriving Inhabited

/-- What reads the headers of a configuration: its input, the arguments for it, and
    the files whose declarations count are found from the run. -/
abbrev HeaderReader := Run → Declarations

/-- Why a run ends without a module. -/
inductive RunFault where
  /-- The settings file cannot be used. -/
  | load (fault : LoadFault)
  /-- The configuration has a fault. -/
  | config (fault : ConfigFault)
  /-- Nobody reads C. -/
  | noReader
  deriving DecidableEq, Repr, Inhabited

/-- The wording of a fault. -/
def RunFault.message : RunFault → String
  | .load fault => fault.message
  | .config fault => fault.message
  | .noReader => "there is no reader for C headers"

namespace Run

/-- The run of a settings file, whose directory is the base. -/
def ofFile (path : String) (text? : Option String) : Except RunFault Run :=
  match Config.load path text? with
  | .error fault => .error (.load fault)
  | .ok config => .ok { config, base := (Path.parent? path).getD "." }

/-- The module of a run. -/
def generate (run : Run) (reader : Option HeaderReader) : Except RunFault Module :=
  match run.config.fault?, reader with
  | some fault, _ => .error (.config fault)
  | none, none => .error .noReader
  | none, some read => .ok (assemble (read run) run.config.options)

/-- Without a reader no run ends in a module. -/
theorem generate_none (run : Run) (module : Module) : run.generate none ≠ .ok module := by
  unfold generate
  cases run.config.fault? <;> simp

end Run

end ScriptBind
