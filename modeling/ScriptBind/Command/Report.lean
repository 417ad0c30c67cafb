import ScriptBind.Command.Delivery
import ScriptBind.Command.Help
import ScriptBind.Command.Line
import ScriptBind.Command.LogFilter
import ScriptBind.Command.Run

/-!
# What Comes of a Command Line

A command line is answered, refused, or followed. Following it takes the settings
file that it names, if it names one, and puts what else it gives on top; whatever
is wrong then is reported, and a module is generated otherwise.

As soon as the configuration is known to have no fault, the log says what it is
about, unless the log filter keeps that out.

## Main definitions

* `Outcome`: What comes of a command line.
* `Report`: The outcome and what has been logged.
* `CommandLine.run`: The run of a command line.
* `report`: What comes of the words of a command line.

## Theorems

* `report_nil`: Without any words there is nothing to follow.
-/

namespace ScriptBind

/-- What comes of a command line. -/
inductive Outcome where
  | answered (request : CommandLine.Request)
  | refused (stop : CommandLine.UsageStop)
  | failed (fault : RunFault)
  | generated (module : Module) (destination : Destination)
  deriving Inhabited

/-- The number that says how the program has ended. -/
def Outcome.exitCode : Outcome → Nat
  | .answered _ => 0
  | .refused _ => 2
  | .failed _ => 1
  | .generated _ _ => 0

/-- What comes of a command line, and what has been logged on the way. -/
structure Report where
  /-- What comes of it. -/
  outcome : Outcome
  /-- What has been logged about the configuration. -/
  logged : Option String := none
  deriving Inhabited

/-- The event of a configuration without fault. -/
def configEvent : LogEvent where
  target := "bnd_mpy"
  level := .info
  fields := ["message", "module", "headers"]

/-- What the log says about a configuration, unless it has a fault or the filter
    keeps it out. -/
def Config.logged? (config : Config) (filter : LogFilter) : Option String :=
  if config.fault? = none ∧ filter.admits configEvent then
    some s!"module={config.name} headers={config.headers.length}"
  else none

/-- The run of a command line, given how files are read. -/
def CommandLine.run (line : CommandLine) (read? : String → Option String) :
    Except RunFault Run := do
  let run ← match line.value? .config with
    | none => pure {}
    | some path => Run.ofFile path (read? path)
  return { run with config := line.onTopOf run.config }

/-- What comes of a run. -/
def Run.outcome (run : Run) (output : Option String) (reader : Option HeaderReader) : Outcome :=
  match run.generate reader with
  | .error fault => .failed fault
  | .ok module =>
    .generated module { output, metadata := run.config.metadata.map (Path.join run.base) }

/-- What comes of the words of a command line, given how files are read, the log
    filter that is set, and who reads C. -/
def report (words : List String) (read? : String → Option String) (setting : Option String)
    (reader : Option HeaderReader) : Report :=
  match CommandLine.ofWords words with
  | .error (.request asked) => { outcome := .answered asked }
  | .error stop => { outcome := .refused stop }
  | .ok line =>
    match line.run read? with
    | .error fault => { outcome := .failed fault }
    | .ok run =>
      { outcome := run.outcome (line.value? .output) reader
        logged := run.config.logged? (.ofSetting setting) }

/-- Without any words there is nothing to follow. -/
theorem report_nil (read? : String → Option String) (setting : Option String)
    (reader : Option HeaderReader) :
    (report [] read? setting reader).outcome = .refused .missingArgument := by
  rfl

end ScriptBind
