import ScriptBind.Command.LogDirective

/-!
# Log Filters

A log filter is a list of directives with commas between. Of the directives about
an event, the most specific one decides whether it is logged: the one with the
longest target, and among those the one that asks for a field. A later directive
takes the place of an earlier one about the same events.

Directives that ask for a span, or for the value of a field, are about what is
known only while the program runs. They let no event pass that is outside a span.

## Main definitions

* `LogFilter`: A log filter.
* `LogFilter.ofText?`: Reading a filter.
* `LogFilter.admits`: Whether an event is logged.
* `LogFilter.usual`: The filter where none is set.

## Theorems

* `usual_admits_info`: Where none is set, the program's own messages are logged.
-/

namespace ScriptBind

/-- An event that may be logged. -/
structure LogEvent where
  /-- The part of the program that it happens in. -/
  target : String
  /-- How important it is. -/
  level : LogLevel
  /-- The fields that it has. -/
  fields : List String
  deriving DecidableEq, Repr, Inhabited

namespace LogDirective

/-- Whether a directive depends on what is known only while the program runs. -/
def isDynamic (directive : LogDirective) : Bool :=
  directive.span.isSome || directive.field.isSome

/-- Whether a directive can decide about an event by itself. -/
def isStatic (directive : LogDirective) : Bool :=
  directive.span.isNone && directive.field.all (·.value.isNone)

/-- Whether a directive is about an event. -/
def isAbout (directive : LogDirective) (event : LogEvent) : Bool :=
  directive.target.all (·.toList.isPrefixOf event.target.toList)
    && directive.field.all fun field => event.fields.contains field.name

/-- Whether a directive is at least as specific as another about the same event. -/
def isAsSpecificAs (directive other : LogDirective) : Bool :=
  let length (d : LogDirective) : Nat := d.target.elim 0 (·.length + 1)
  let fields (d : LogDirective) : Nat := d.field.elim 0 fun _ => 1
  let name (d : LogDirective) : String := d.field.elim "" LogField.name
  if length directive ≠ length other then length other < length directive
  else if fields directive ≠ fields other then fields other < fields directive
  else name other ≤ name directive

end LogDirective

/-- A log filter. -/
structure LogFilter where
  /-- Its directives, in order. -/
  directives : List LogDirective
  deriving DecidableEq, Repr, Inhabited

namespace LogFilter

/-- The filter that a text is, if each of its pieces is a directive; empty ones do
    not count. -/
def ofText? (text : String) : Option LogFilter := do
  let texts := ((text.toList.splitOn ',').filter (· ≠ [])).map String.ofList
  let directives ← texts.mapM LogDirective.ofText?
  return { directives }

/-- The directives that can decide by themselves. Without any directive, errors
    are logged. -/
def deciding (filter : LogFilter) : List LogDirective :=
  if filter.directives.isEmpty then [{ level := .error }]
  else filter.directives.filter LogDirective.isStatic

/-- The directive that decides about an event. -/
def decider? (filter : LogFilter) (event : LogEvent) : Option LogDirective :=
  (filter.deciding.filter (·.isAbout event)).foldl (fun best next =>
    match best with
    | none => some next
    | some best => some (if next.isAsSpecificAs best then next else best)) none

/-- Whether an event is logged. -/
def admits (filter : LogFilter) (event : LogEvent) : Bool :=
  (filter.decider? event).any fun directive => directive.level.admits event.level

/-- The filter where none is set, or none that can be read: what the program itself
    has to say, at the usual level. -/
def usual : LogFilter := { directives := [{ target := some "bnd_mpy", level := .info }] }

/-- The filter that an environment sets. -/
def ofSetting (setting : Option String) : LogFilter := (setting.bind ofText?).getD usual

/-- Where none is set, the program's own messages are logged. -/
theorem usual_admits_info (fields : List String) :
    (ofSetting none).admits ⟨"bnd_mpy", .info, fields⟩ = true := by
  simp [ofSetting, usual, admits, decider?, deciding, LogDirective.isStatic,
    LogDirective.isAbout, LogLevel.admits, LogLevel.rank]

end LogFilter

end ScriptBind
