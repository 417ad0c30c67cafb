import ScriptBind.Command.Argument

/-!
# Help

What the program says about itself: its version, what can be given on its command
line, and what is wrong with a command line that is not followed.

## Main definitions

* `Request.answer`: The answer to a request.
* `UsageStop.message`: The wording for a command line that is not followed.

## Theorems

* `length_helpLines`: The help has two lines for everything with a name.
-/

namespace ScriptBind

namespace CommandLine

/-- The program's name and version. -/
def versionText : String := "bnd-mpy 0.0.1\n"

/-- The first lines of the help. -/
def helpHeading : List String :=
  ["bnd-mpy: generate a MicroPython module from C headers",
    "",
    "Usage: bnd-mpy [OPTIONS] [INPUT]...",
    "",
    "Arguments:",
    "  [INPUT]...  Headers to bind",
    "",
    "Options:"]

/-- What an argument is for. -/
def Argument.purpose : Argument → String
  | .header => "Headers to bind"
  | .includePath => "Include path (repeatable)"
  | .define => "Preprocessor define (repeatable)"
  | .preprocessed => "Parse this already preprocessed file instead of the inputs"
  | .exclude => "Object that must not become a class (repeatable)"
  | .moduleName => "Name of the generated module"
  | .scope => "Naming prefix (defaults to the module name)"
  | .metadata => "Write JSON metadata to this file"
  | .output => "Output file (default stdout)"
  | .config => "Path to a bnd-mpy.toml configuration file"

/-- The name of the values of a word. -/
def valueName (word : String) : String :=
  String.ofList (word.toList.map fun c => if c = '-' then '_' else c.toUpper)

/-- The lines about an argument. -/
def Argument.helpLines (argument : Argument) : List String :=
  let letter := match argument.letter? with
    | some letter => "-" ++ letter.toString ++ ", "
    | none => "    "
  let word := argument.word?.getD ""
  ["  " ++ letter ++ "--" ++ word ++ " <" ++ valueName word ++ ">",
    "          " ++ argument.purpose]

/-- The lines about the requests. -/
def requestLines : List String :=
  ["  -h, --help", "          Print help", "  -V, --version", "          Print version"]

/-- The lines of the help about what has a name. -/
def helpLines : List String := Argument.named.flatMap Argument.helpLines ++ requestLines

/-- The answer to a request. -/
def Request.answer : Request → String
  | .help => String.join ((helpHeading ++ helpLines).map (· ++ "\n"))
  | .version => versionText

/-- The wording for a command line that is not followed. -/
def UsageStop.message : UsageStop → String
  | .unknownArgument => "unexpected argument found"
  | .invalidValue => "a value is required for an argument but none was supplied"
  | .conflict => "an argument cannot be used with one or more of the others"
  | .missingArgument => "the following required arguments were not provided: <INPUT>..."
  | .surplusValue => "unexpected value for an argument found"
  | .request asked => asked.answer

/-- The help has two lines for everything with a name. -/
theorem length_helpLines : helpLines.length = 2 * (Argument.named.length + 2) := by
  simp [helpLines, requestLines, Argument.named, Argument.helpLines]

end CommandLine

end ScriptBind
