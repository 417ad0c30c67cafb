import ScriptBind.Settings.Token

/-!
# Settings Files

A settings file gives values to names, one on a line. A value is a text, a truth
value or a list of texts; a list may run over several lines, and may have a comma
after its last item.

The tokens are read by an automaton: what it has read so far and what it awaits
decide which tokens may come next.

## Main definitions

* `Value`: The value of a setting.
* `Document`: The settings of a file, in order.
* `Document.ofText?`: Reading a file.

## Theorems

* `ofText?_empty`: An empty file has no settings.
-/

namespace ScriptBind

namespace Settings

/-- The value of a setting. -/
inductive Value where
  | text (text : String)
  | flag (isOn : Bool)
  | texts (items : List String)
  deriving DecidableEq, Repr, Inhabited

/-- The settings of a file, in order. -/
abbrev Document := List (String × Value)

/-- What may come next in a file. -/
inductive Awaited where
  /-- The name of a setting, or the end of a line. -/
  | name
  /-- The mark after a name. -/
  | equals (name : String)
  /-- The value of a name. -/
  | value (name : String)
  /-- An item of a list, after those given, or the list's end. -/
  | item (name : String) (items : List String)
  /-- A comma after an item of a list, or the list's end. -/
  | comma (name : String) (items : List String)
  /-- The end of a line. -/
  | lineEnd
  deriving DecidableEq, Repr, Inhabited

/-- How far a file has been read. -/
structure Reading where
  /-- The settings read. -/
  read : Document := []
  /-- What may come next. -/
  awaited : Awaited := .name
  deriving Inhabited

/-- A reading that has come to the end of a value. -/
def Reading.settle (reading : Reading) (name : String) (value : Value) : Reading :=
  { read := reading.read ++ [(name, value)], awaited := .lineEnd }

/-- A reading after one more token. -/
def Reading.step (reading : Reading) (token : Token) : Option Reading :=
  match reading.awaited, token with
  | .name, .lineEnd => some reading
  | .name, .word name => some { reading with awaited := .equals name }
  | .name, .text name false => some { reading with awaited := .equals name }
  | .equals name, .equals => some { reading with awaited := .value name }
  | .value name, .text text _ => some (reading.settle name (.text text))
  | .value name, .word "true" => some (reading.settle name (.flag true))
  | .value name, .word "false" => some (reading.settle name (.flag false))
  | .value name, .opening => some { reading with awaited := .item name [] }
  -- Lines may end between the items of a list, and a comma may follow the last one.
  | .item _ _, .lineEnd => some reading
  | .item name items, .text text _ => some { reading with awaited := .comma name (items ++ [text]) }
  | .item name items, .closing => some (reading.settle name (.texts items))
  | .comma _ _, .lineEnd => some reading
  | .comma name items, .comma => some { reading with awaited := .item name items }
  | .comma name items, .closing => some (reading.settle name (.texts items))
  | .lineEnd, .lineEnd => some { reading with awaited := .name }
  | _, _ => none

/-- The settings of a reading that has come to its end. -/
def Reading.finish (reading : Reading) : Option Document :=
  match reading.awaited with
  | .name => some reading.read
  | .lineEnd => some reading.read
  | _ => none

/-- The characters of a file without the mark of its encoding. -/
def withoutByteOrderMark (chars : List Char) : List Char :=
  match chars with
  | '\uFEFF' :: rest => rest
  | chars => chars

/-- The settings of a file, if every name is given but one value. -/
def Document.ofText? (text : String) : Option Document := do
  let tokens ← tokens? (withoutByteOrderMark text.toList)
  let reading ← tokens.foldlM Reading.step {}
  let document ← reading.finish
  if (document.map Prod.fst).Nodup then some document else none

/-- An empty file has no settings. -/
theorem ofText?_empty : Document.ofText? "" = some [] := by
  rw [Document.ofText?, String.toList_empty, withoutByteOrderMark, tokens?]
  · rfl
  · exact fun _ h => absurd h (by simp)

end Settings

end ScriptBind
