/-!
# Arguments

What can be given on the command line: values for arguments, each under a letter
or a word, and the two requests that are answered at once. Headers have neither
letter nor word; a value that stands alone is one.

## Main definitions

* `Argument`: What a value can be given for.
* `Request`: What is answered at once.
* `Named`: What a letter or a word stands for.
* `UsageStop`: Why a command line is not followed.

## Theorems

* `ofLetter?_letter`: A letter stands for the argument that it is the letter of.
* `ofWord?_word`: A word stands for the argument that it is the word of.
-/

namespace ScriptBind

namespace CommandLine

/-- What a value can be given for on the command line. -/
inductive Argument where
  | header
  | includePath
  | define
  | preprocessed
  | exclude
  | moduleName
  | scope
  | metadata
  | output
  | config
  deriving DecidableEq, Repr, Inhabited

namespace Argument

/-- The arguments that have a word. -/
def named : List Argument :=
  [.includePath, .define, .preprocessed, .exclude, .moduleName, .scope, .metadata, .output, .config]

/-- The letter of an argument. -/
def letter? : Argument → Option Char
  | .header => none
  | .includePath => some 'I'
  | .define => some 'D'
  | .preprocessed => some 'E'
  | .exclude => some 'x'
  | .moduleName => some 'M'
  | .scope => none
  | .metadata => none
  | .output => some 'o'
  | .config => some 'c'

/-- The word of an argument. -/
def word? : Argument → Option String
  | .header => none
  | .includePath => some "include"
  | .define => some "define"
  | .preprocessed => some "external-preprocessing"
  | .exclude => some "exclude"
  | .moduleName => some "module-name"
  | .scope => some "module-prefix"
  | .metadata => some "metadata"
  | .output => some "output"
  | .config => some "config"

/-- Whether an argument takes any number of values. -/
def isRepeatable : Argument → Bool
  | .header => true
  | .includePath => true
  | .define => true
  | .exclude => true
  | _ => false

/-- Whether the values of an argument are paths, which are not empty. -/
def isPath : Argument → Bool
  | .define => false
  | .exclude => false
  | .moduleName => false
  | .scope => false
  | _ => true

/-- The argument that a letter stands for. -/
def ofLetter? (letter : Char) : Option Argument := named.find? (·.letter? == some letter)

/-- The argument that a word stands for. -/
def ofWord? (word : String) : Option Argument := named.find? (·.word? == some word)

/-- A letter stands for the argument that it is the letter of. -/
theorem ofLetter?_letter {argument : Argument} {letter : Char}
    (h : argument.letter? = some letter) : ofLetter? letter = some argument := by
  cases argument <;> simp only [letter?, Option.some.injEq, reduceCtorEq] at h <;> subst h <;> rfl

/-- A word stands for the argument that it is the word of. -/
theorem ofWord?_word {argument : Argument} {word : String} (h : argument.word? = some word) :
    ofWord? word = some argument := by
  cases argument <;> simp only [word?, Option.some.injEq, reduceCtorEq] at h <;> subst h <;> decide

end Argument

/-- What is answered at once. -/
inductive Request where
  | help
  | version
  deriving DecidableEq, Repr, Inhabited

/-- What a letter or a word on the command line stands for. -/
inductive Named where
  | argument (argument : Argument)
  | request (request : Request)
  deriving DecidableEq, Repr, Inhabited

namespace Named

/-- What a letter stands for. -/
def ofLetter? (letter : Char) : Option Named :=
  if letter = 'h' then some (.request .help)
  else if letter = 'V' then some (.request .version)
  else (Argument.ofLetter? letter).map .argument

/-- What a word stands for. -/
def ofWord? (word : String) : Option Named :=
  if word = "help" then some (.request .help)
  else if word = "version" then some (.request .version)
  else (Argument.ofWord? word).map .argument

end Named

/-- Why a command line is not followed. -/
inductive UsageStop where
  /-- A letter or a word stands for nothing. -/
  | unknownArgument
  /-- A value is missing, or is an empty path. -/
  | invalidValue
  /-- A value is given twice, or goes together with none of another argument. -/
  | conflict
  /-- There are neither headers nor a configuration. -/
  | missingArgument
  /-- A request is given a value. -/
  | surplusValue
  /-- A request is answered instead. -/
  | request (request : Request)
  deriving DecidableEq, Repr, Inhabited

end CommandLine

end ScriptBind
