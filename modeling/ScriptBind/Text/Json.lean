/-!
# Written JSON

The part of JSON that a description of a module needs, and its text: one item
or member a line, two blanks further in than what it belongs to. Empty lists
and objects stay on one line.

Texts are written as they are. Only the quote, the backslash and the control
characters are escaped.

## Main definitions

* `Json`: A value of integers, texts, lists and objects.
* `Json.pretty`: Its text.

## Theorems

* `quoted_plain`: A text without special characters is only put into quotes.
-/

namespace ScriptBind

/-- A value of integers, texts, lists and objects. -/
inductive Json where
  /-- An integer. -/
  | integer (value : Int)
  /-- A text. -/
  | text (value : String)
  /-- A list of values. -/
  | list (items : List Json)
  /-- Values under names, in order. -/
  | object (members : List (String × Json))
  deriving Inhabited

namespace Json

/-- A digit of base sixteen. -/
def hexDigit (n : Nat) : Char :=
  if n % 16 < 10 then Char.ofNat ('0'.toNat + n % 16) else Char.ofNat ('a'.toNat + (n % 16 - 10))

/-- The control characters that have an escape of their own. -/
def namedEscapes : List (Char × Char) :=
  [('"', '"'), ('\\', '\\'), ('\x08', 'b'), ('\x0c', 'f'), ('\n', 'n'), ('\r', 'r'), ('\t', 't')]

/-- A character as it stands in a quoted text. -/
def escaped (c : Char) : List Char :=
  match namedEscapes.lookup c with
  | some letter => ['\\', letter]
  | none =>
    if c.toNat < 0x20 then ['\\', 'u', '0', '0', hexDigit (c.toNat / 16), hexDigit c.toNat]
    else [c]

/-- A quoted text. -/
def quoted (text : String) : String :=
  String.ofList ('"' :: text.toList.flatMap escaped ++ ['"'])

/-- Lines between two brackets, further in than the brackets. -/
def bracketed (opening closing indent : String) (items : List String) : String :=
  match items with
  | [] => opening ++ closing
  | items =>
    let inner := indent ++ "  "
    opening ++ "\n" ++ inner ++ (",\n" ++ inner).intercalate items ++ "\n" ++ indent ++ closing

mutual

/-- The text of a value that stands so far in. -/
def prettyAt (indent : String) : Json → String
  | .integer value => toString value
  | .text value => quoted value
  | .list items => bracketed "[" "]" indent (prettyItems (indent ++ "  ") items)
  | .object members => bracketed "\x7b" "\x7d" indent (prettyMembers (indent ++ "  ") members)

/-- The texts of the items of a list. -/
def prettyItems (indent : String) : List Json → List String
  | [] => []
  | item :: rest => prettyAt indent item :: prettyItems indent rest

/-- The texts of the members of an object. -/
def prettyMembers (indent : String) : List (String × Json) → List String
  | [] => []
  | (name, value) :: rest =>
    (quoted name ++ ": " ++ prettyAt indent value) :: prettyMembers indent rest

end

/-- The text of a value. -/
def pretty (value : Json) : String := value.prettyAt ""

/-- A text without special characters is only put into quotes. -/
theorem quoted_plain {text : String} (h : ∀ c ∈ text.toList, escaped c = [c]) :
    quoted text = "\"" ++ text ++ "\"" := by
  have hf : text.toList.flatMap escaped = text.toList := by
    generalize text.toList = chars at h
    induction chars with
    | nil => rfl
    | cons c rest ih =>
      rw [List.flatMap_cons, h c List.mem_cons_self,
        ih fun d hd => h d (List.mem_cons_of_mem _ hd)]
      rfl
  rw [quoted, hf, String.ofList_append, String.ofList_cons, String.ofList_toList]
  rfl

end Json

end ScriptBind
