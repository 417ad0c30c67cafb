import ScriptBind.Command.Argument
import ScriptBind.Config.Basic
import ScriptBind.Text.Affix

/-!
# Command Lines

A command line is read from left to right. A letter or a word announces a value,
which is attached to it or comes next; a value that nothing has announced is a
header, and after two hyphens every value is. An attached value is looked at at
once, and others when it is clear that no more of them follow, so that a word
that stands for nothing is found before what is wrong with the values before it.

What is given goes on top of a configuration: lists grow, and single values take
the place of others.

## Main definitions

* `CommandLine`: What is given on a command line, in order.
* `CommandLine.ofWords`: Reading a command line.
* `CommandLine.onTopOf`: A configuration with what is given on top.

## Theorems

* `onTopOf_nil`: An empty command line changes nothing.
-/

namespace ScriptBind

/-- What is given on a command line, in order. -/
structure CommandLine where
  /-- The values and what they are given for. -/
  given : List (CommandLine.Argument × String) := []
  deriving DecidableEq, Repr, Inhabited

namespace CommandLine

/-- Values for an argument that more may follow. -/
structure Pending where
  /-- What the values are for. -/
  argument : Argument
  /-- The values so far; there are none yet if one has only been announced. -/
  values : List String
  deriving DecidableEq, Repr, Inhabited

/-- How far a command line has been read. -/
structure Gathering where
  /-- What has been given and looked at. -/
  line : CommandLine := {}
  /-- What more may follow. -/
  pending : Option Pending := none
  /-- Whether only headers follow. -/
  isRest : Bool := false
  deriving Inhabited

/-- Whether anything is given for an argument. -/
def has (line : CommandLine) (argument : Argument) : Bool :=
  line.given.any (·.1 == argument)

/-- The values given for an argument. -/
def values (line : CommandLine) (argument : Argument) : List String :=
  line.given.filterMap fun (given, value) => if given = argument then some value else none

/-- The value given for an argument that takes one. -/
def value? (line : CommandLine) (argument : Argument) : Option String :=
  (line.values argument).getLast?

/-- A command line with values for one more argument. -/
def add (line : CommandLine) (pending : Pending) : Except UsageStop CommandLine :=
  let argument := pending.argument
  if pending.values = [] then .error .invalidValue
  else if !argument.isRepeatable && line.has argument then .error .conflict
  else if argument.isPath && pending.values.contains "" then .error .invalidValue
  else .ok { given := line.given ++ pending.values.map (argument, ·) }

namespace Gathering

/-- A command line of which no more follows for an argument. -/
def settle (gathering : Gathering) : Except UsageStop Gathering :=
  match gathering.pending with
  | none => .ok gathering
  | some pending => do
    let line ← gathering.line.add pending
    return { gathering with line, pending := none }

/-- Start on values for an argument. -/
def start (gathering : Gathering) (argument : Argument) (values : List String) :
    Except UsageStop Gathering := do
  let settled ← gathering.settle
  return { settled with pending := some { argument, values } }

/-- Take a header. -/
def header (gathering : Gathering) (value : String) : Except UsageStop Gathering :=
  match gathering.pending with
  | some ⟨.header, values⟩ =>
    .ok { gathering with pending := some { argument := .header, values := values ++ [value] } }
  | _ => gathering.start .header [value]

/-- Take a value: the one that has been announced, or else a header. -/
def value (gathering : Gathering) (value : String) : Except UsageStop Gathering :=
  match gathering.pending with
  | some ⟨argument, []⟩ =>
    .ok { gathering with pending := some { argument, values := [value] } }
  | _ => gathering.header value

/-- Take a value attached to what announces it. -/
def attach (gathering : Gathering) (argument : Argument) (value : String) :
    Except UsageStop Gathering := do
  let started ← gathering.start argument [value]
  started.settle

/-- Follow a letter or a word, and the value attached to it. -/
def follow (gathering : Gathering) (named : Option Named) (attached : Option String) :
    Except UsageStop Gathering :=
  match named, attached with
  | none, _ => .error .unknownArgument
  | some (.argument argument), none => gathering.start argument []
  | some (.argument argument), some value => gathering.attach argument value
  | some (.request _), some _ => .error .surplusValue
  | some (.request request), none => do
    let _ ← gathering.settle
    .error (.request request)

/-- The value attached to a letter: what follows it, an equals sign aside. -/
def attachedToLetter (rest : List Char) : Option String :=
  match rest with
  | [] => none
  | '=' :: value => some (String.ofList value)
  | value => some (String.ofList value)

/-- Follow a word, and the value attached to it after an equals sign. -/
def followWord (gathering : Gathering) (text : List Char) : Except UsageStop Gathering :=
  let attached := match text.dropWhile (· != '=') with
    | [] => none
    | _ :: value => some (String.ofList value)
  gathering.follow (Named.ofWord? (String.ofList (text.takeWhile (· != '=')))) attached

/-- Follow a letter, and what comes right after it. A request is answered before
    that is looked at. -/
def followLetter (gathering : Gathering) (letter : Char) (rest : List Char) :
    Except UsageStop Gathering :=
  match Named.ofLetter? letter with
  | some (.request request) => gathering.follow (some (.request request)) none
  | named => gathering.follow named (attachedToLetter rest)

/-- Read one more word of a command line. -/
def step (gathering : Gathering) (word : String) : Except UsageStop Gathering :=
  if gathering.isRest then gathering.header word
  else
    match word.toList with
    | ['-', '-'] => .ok { gathering with isRest := true }
    | '-' :: '-' :: text => gathering.followWord text
    | '-' :: letter :: rest => gathering.followLetter letter rest
    | _ => gathering.value word

end Gathering

/-- What keeps a command line from being followed as a whole: headers that are
    included already go together with no choices for headers, and there have to be
    headers unless there is a configuration. -/
def stop? (line : CommandLine) : Option UsageStop :=
  if line.has .preprocessed ∧ (line.has .includePath ∨ line.has .define) then some .conflict
  else if ¬ line.has .header ∧ ¬ line.has .config then some .missingArgument
  else none

/-- The command line of some words. -/
def ofWords (words : List String) : Except UsageStop CommandLine := do
  let gathering ← words.foldlM Gathering.step {}
  let gathering ← gathering.settle
  match gathering.line.stop? with
  | some stop => .error stop
  | none => .ok gathering.line

/-- A configuration with what is given on the command line on top. -/
def onTopOf (line : CommandLine) (config : Config) : Config :=
  { config with
    headers := config.headers ++ line.values .header
    includePaths := config.includePaths ++ line.values .includePath
    defines := config.defines ++ line.values .define
    exclude := config.exclude ++ line.values .exclude
    preprocessed := line.value? .preprocessed <|> config.preprocessed
    moduleName := line.value? .moduleName <|> config.moduleName
    scope := line.value? .scope <|> config.scope
    metadata := line.value? .metadata <|> config.metadata }

/-- An empty command line changes nothing. -/
theorem onTopOf_nil (config : Config) : onTopOf {} config = config := by
  simp [onTopOf, values, value?]

end CommandLine

end ScriptBind
