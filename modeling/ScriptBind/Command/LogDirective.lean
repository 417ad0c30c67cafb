/-!
# Directives of a Log Filter

A directive says how much of what happens is logged. It may name the part of the
program that it is about, the span that has to be open, and a field that has to be
there, and it may set a level:

    target[span{field=value}]=level

A lone level is about everything. A directive that sets no level asks for all of
them.

The places of marks are counted from the first character that is not blank, but
names are cut out of the directive as it stands. A blank at the start therefore
shifts what is read.

## Main definitions

* `LogLevel`: How important an event is.
* `LogDirective`: A directive.
* `LogDirective.ofText?`: Reading a directive.

## Theorems

* `ofText?_name`: The name of a level stands for the level.
-/

namespace ScriptBind

/-- How important an event is, or, as a bound, how important it has to be. -/
inductive LogLevel where
  | off
  | error
  | warn
  | info
  | debug
  | trace
  deriving DecidableEq, Repr, Inhabited

namespace LogLevel

/-- The levels, the most important first; as a bound, the first lets nothing pass. -/
def all : List LogLevel := [.off, .error, .warn, .info, .debug, .trace]

/-- The place of a level among all levels. -/
def rank : LogLevel → Nat
  | .off => 0
  | .error => 1
  | .warn => 2
  | .info => 3
  | .debug => 4
  | .trace => 5

/-- The name of a level. -/
def name : LogLevel → String
  | .off => "off"
  | .error => "error"
  | .warn => "warn"
  | .info => "info"
  | .debug => "debug"
  | .trace => "trace"

/-- Whether a bound lets events of a level pass. -/
def admits (bound level : LogLevel) : Bool := level.rank ≤ bound.rank

/-- A number written in digits, with or without a plus sign. -/
def number? (text : String) : Option Nat :=
  let digits := match text.toList with
    | '+' :: digits => digits
    | digits => digits
  if digits ≠ [] ∧ digits.all Char.isDigit then
    some (digits.foldl (fun n c => 10 * n + (c.toNat - 0x30)) 0)
  else none

/-- The level that a text names, in any case, or numbers. -/
def ofText? (text : String) : Option LogLevel :=
  match number? text with
  | some n => all[n]?
  | none => all.find? fun level => level.name.toList == text.toList.map Char.toLower

/-- The name of a level stands for the level. -/
theorem ofText?_name (level : LogLevel) : ofText? level.name = some level := by
  cases level <;> decide

/-- The level that is set after an equals sign; all are asked for if nothing is. -/
def ofSetting? (text : String) : Option LogLevel :=
  if text = "" then some .trace else ofText? text

end LogLevel

/-- A field that has to be there, and its value if it has to have one. -/
structure LogField where
  /-- The name of the field. -/
  name : String
  /-- The value that the field has to have. -/
  value : Option String
  deriving DecidableEq, Repr, Inhabited

/-- A directive of a log filter. -/
structure LogDirective where
  /-- What the names of the parts it is about start with. -/
  target : Option String := none
  /-- The span that has to be open. -/
  span : Option String := none
  /-- The field that has to be there. -/
  field : Option LogField := none
  /-- The level that it sets. -/
  level : LogLevel := .trace
  deriving DecidableEq, Repr, Inhabited

namespace LogDirective

/-- A blank of any kind. -/
def isWhite (c : Char) : Bool :=
  let n := c.toNat
  (0x9 ≤ n && n ≤ 0xD) || n == 0x20 || n == 0x85 || n == 0xA0 || n == 0x1680
    || (0x2000 ≤ n && n ≤ 0x200A) || n == 0x2028 || n == 0x2029 || n == 0x202F
    || n == 0x205F || n == 0x3000

/-- Characters without blanks at either end. -/
def trimmed (chars : List Char) : List Char :=
  ((chars.dropWhile isWhite).reverse.dropWhile isWhite).reverse

/-- A character that may start a level or a target. Beyond ASCII all count as
    letters. -/
def isStart (c : Char) : Bool :=
  c == '-' || c == ':' || c == '_' || c.isAlphanum || 0x80 ≤ c.toNat

/-- What is being read of a directive, and where it starts. -/
inductive Part where
  /-- Nothing yet. -/
  | start
  /-- A level or a target, from the beginning on. -/
  | first
  | span (start : Nat)
  | field (start : Nat)
  /-- What comes after a field. -/
  | fieldEnd
  /-- What comes after a span. -/
  | spanEnd
  | level (start : Nat)
  deriving DecidableEq, Repr, Inhabited

/-- A directive as far as it has been read. -/
structure Reading where
  /-- What has been read. -/
  directive : LogDirective := {}
  /-- What is being read. -/
  part : Part := .start
  deriving Inhabited

/-- The characters of a text between two places. -/
def cut (chars : List Char) (start stop : Nat) : String :=
  String.ofList ((chars.take stop).drop start)

/-- The field that a text asks for. -/
def fieldOf? (text : String) : Option LogField :=
  if text = "" then none
  else
    let name := text.toList.takeWhile (· != '=')
    let value := match text.toList.dropWhile (· != '=') with
      | [] => none
      | _ :: rest => some (String.ofList (rest.takeWhile (· != '=')))
    some { name := String.ofList name, value }

/-- A reading of a directive after one more character, given its place. -/
def Reading.step (chars : List Char) (reading : Reading) (next : Char × Nat) : Option Reading :=
  let (c, i) := next
  let directive := reading.directive
  match reading.part with
  | .start =>
    if c = '[' then some { reading with part := .span (i + 1) }
    else if isStart c then some { reading with part := .first }
    else none
  | .first =>
    -- What has been read so far turns out to be a target.
    let named := { directive with target := some (cut chars 0 i) }
    if c = '=' then some { directive := named, part := .level (i + 1) }
    else if c = '[' then some { directive := named, part := .span (i + 1) }
    else some reading
  | .span start =>
    let span := cut chars start i
    if c = ']' then some { directive := { directive with span := some span }, part := .spanEnd }
    else if c = '\x7b' then
      let span := if span = "" then none else some span
      some { directive := { directive with span }, part := .field (i + 1) }
    else some reading
  | .field start =>
    if c = '\x7d' then
      (fieldOf? (cut chars start i)).map fun field =>
        { directive := { directive with field := some field }, part := .fieldEnd }
    else some reading
  | .fieldEnd => if c = ']' then some { reading with part := .spanEnd } else none
  | .spanEnd => if c = '=' then some { reading with part := .level (i + 1) } else none
  | .level _ => some reading

/-- The directive of a reading that has come to its end. -/
def Reading.finish (chars : List Char) (reading : Reading) : Option LogDirective :=
  let directive := reading.directive
  match reading.part with
  | .first =>
    let text := String.ofList chars
    match LogLevel.ofText? text with
    | some level => some { directive with level }
    | none => some { directive with target := some text }
  | .level start =>
    (LogLevel.ofSetting? (cut chars start chars.length)).map fun level => { directive with level }
  | .spanEnd => some directive
  | _ => none

/-- The directive that a text is. -/
def ofText? (text : String) : Option LogDirective := do
  let chars := text.toList
  let reading ← (trimmed chars).zipIdx.foldlM (Reading.step chars) {}
  reading.finish chars

end LogDirective

end ScriptBind
