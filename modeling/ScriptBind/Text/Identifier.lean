/-!
# Identifiers

The names that C accepts, and the names that a script can use after a dot.

A script attribute is named after a C name, but the script language has words
of its own and takes no name that starts with a digit. `attributeName` says how
such a name is bent into a usable one.

## Main definitions

* `isIdentifier`: Whether a text is a C identifier.
* `isKeyword`: Whether a text is a word of the script language.
* `attributeName`: The name a script uses for a C name.
* `callableName`: The same for something that is called.

## Theorems

* `attributeName_of_usable`: A usable name is left alone.
-/

namespace ScriptBind

namespace Text

/-- A letter of ASCII or an underscore. -/
def isWordStart (c : Char) : Bool := c.isAlpha || c == '_'

/-- A letter or digit of ASCII or an underscore. -/
def isWordChar (c : Char) : Bool := c.isAlphanum || c == '_'

/-- Whether a text is a C identifier. -/
def isIdentifier (text : String) : Bool :=
  match text.toList with
  | [] => false
  | c :: rest => isWordStart c && rest.all isWordChar

/-- Whether a text starts with a digit of ASCII. -/
def startsWithDigit (text : String) : Bool :=
  match text.toList with
  | [] => false
  | c :: _ => c.isDigit

/-- The words of the script language. -/
def keywords : List String :=
  ["and", "as", "assert", "break", "class", "continue", "def", "del", "elif", "else", "except",
    "exec", "finally", "for", "from", "global", "if", "import", "in", "is", "lambda", "not", "or",
    "pass", "print", "raise", "return", "try", "while", "with", "yield", "None", "True", "False"]

/-- Whether a text is a word of the script language. -/
def isKeyword (text : String) : Bool := keywords.contains text

/-- The name a script uses for a C name: an underscore keeps it from starting
    with a digit or from being a word of the language. -/
def attributeName (name : String) : String :=
  if startsWithDigit name then "_" ++ name
  else if isKeyword name then name ++ "_"
  else name

/-- The name a script calls: `del` is a word of the language that has a plain
    synonym. -/
def callableName (name : String) : String :=
  if name = "del" then "delete" else attributeName name

/-- A usable name is left alone. -/
theorem attributeName_of_usable {name : String} (hd : startsWithDigit name = false)
    (hk : isKeyword name = false) : attributeName name = name := by
  rw [attributeName, hd, hk, if_neg Bool.false_ne_true, if_neg Bool.false_ne_true]

/-- The part of a spelling that can stand inside an identifier: other
    characters become underscores, and underscores at the end go. -/
def wordPart (text : String) : String :=
  let chars := text.toList.map fun c => if isWordChar c then c else '_'
  String.ofList (chars.reverse.dropWhile (· == '_')).reverse

end Text

end ScriptBind
