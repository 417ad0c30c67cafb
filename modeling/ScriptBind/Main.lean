import ScriptBind.Command.Report

/-!
# The Program

The command line in a real file system. No reader for C headers comes with it, so
that a command line is followed up to the point where headers are read.
-/

namespace ScriptBind

/-- The settings file that words name. -/
def settingsPath? (words : List String) : Option String :=
  match CommandLine.ofWords words with
  | .ok line => line.value? .config
  | .error _ => none

/-- The text of a file, if there is one. -/
def readText? (path : String) : IO (Option String) := do
  try
    return some (← IO.FS.readFile path)
  catch _ =>
    return none

/-- Write a text to a file, or say what cannot be written. -/
def writeText (path text : String) (fault : DeliveryFault) : IO Unit := do
  try
    IO.FS.writeFile path text
  catch _ =>
    throw (IO.userError fault.message)

/-- Deliver a module. -/
def deliver (module : Module) (destination : Destination) : IO Unit := do
  match destination.output with
  | some path => writeText path module.source (.output path)
  | none => IO.print module.source
  match destination.metadata with
  | some path => writeText path module.description.text (.metadata path)
  | none => return ()

/-- Act on what comes of a command line. -/
def act (outcome : Outcome) : IO Unit := do
  match outcome with
  | .answered asked => IO.print asked.answer
  | .refused stop => IO.eprintln s!"error: {stop.message}"
  | .failed fault => IO.eprintln s!"Error: {fault.message}"
  | .generated module destination => deliver module destination

end ScriptBind

/-- Follow a command line. -/
def main (words : List String) : IO UInt32 := do
  let text ← match ScriptBind.settingsPath? words with
    | some path => ScriptBind.readText? path
    | none => pure none
  let report := ScriptBind.report words (fun _ => text) (← IO.getEnv "RUST_LOG") none
  match report.logged with
  | some line => IO.eprintln s!"INFO bnd_mpy: loaded configuration {line}"
  | none => pure ()
  try
    ScriptBind.act report.outcome
    return report.outcome.exitCode.toUInt32
  catch error =>
    IO.eprintln s!"Error: {error}"
    return 1
