import ScriptBind.Text.CommentSafe
import ScriptBind.Text.Layout

/-!
# Why a Declaration is Left Out

A declaration that cannot be bound never stops a run. The error travels up to
the declaration it belongs to; that declaration is left out, and a diagnostic
says so, both in the report and as a comment in the generated code.

A missing conversion names the type and, once it has passed the member or the
argument that needed it, the place. Only the innermost place is kept: it is the
one a reader has to look at.

## Main definitions

* `BindError`: Why something cannot be bound.
* `BindError.within`: An error with the place that needed the conversion.
* `BindError.message`: An error as text.
* `Diagnostic`: A declaration left out, and why.
* `Diagnostic.lines`: The comment left in its place.

## Theorems

* `within_within`: The innermost place is kept.
-/

namespace ScriptBind

/-- Why something cannot be bound. -/
inductive BindError where
  /-- No conversion to a type is known; with the place that needed one. -/
  | missingConversion (typeName : String) (place : Option String)
  /-- A callback finds no way back to the script from its record. -/
  | missingUserData (callback record field : String)
  /-- A callback has a form that cannot be bound. -/
  | unsupportedCallback (callback reason : String)
  /-- Anything else that cannot be bound. -/
  | unsupported (reason : String)
  deriving DecidableEq, Repr, Inhabited

namespace BindError

/-- No conversion to a type is known. -/
def missing (typeName : String) : BindError := .missingConversion typeName none

/-- A callback takes arguments it does not name. -/
def variadicCallback (callback : String) : BindError :=
  .unsupportedCallback callback "variadic callbacks are not supported"

/-- A callback stands where the value that carries its context belongs. -/
def leadingCallback (callback : String) : BindError :=
  .unsupportedCallback callback
    "a callback cannot be the first argument, which carries the user data"

/-- A function takes arguments it does not name. -/
def variadicFunction : BindError :=
  .unsupported "variadic functions cannot be called through the binding"

/-- A type has a conversion, but not one that fits inside a record. -/
def notInPlace (typeName : String) : BindError :=
  .unsupported s!"`{typeName}` cannot be converted in place"

/-- A type is treated as a callback without being one. -/
def notCallback (typeName : String) : BindError :=
  .unsupported s!"`{typeName}` is not a callback"

/-- A variable's type has a conversion but no record. -/
def notGeneratedStruct (typeName : String) : BindError :=
  .unsupported s!"`{typeName}` is not a generated struct"

/-- A typedef leads back to itself through what it is made of. -/
def endlessType (typeName : String) : BindError :=
  .unsupported s!"`{typeName}` is defined through itself"

/-- The error with the place that needed the conversion, unless one is known. -/
def within (place : String) : BindError → BindError
  | .missingConversion typeName none => .missingConversion typeName (some place)
  | error => error

/-- The innermost place is kept. -/
theorem within_within (inner outer : String) (error : BindError) :
    (error.within inner).within outer =
      if error.within inner = error then error.within outer else error.within inner := by
  cases error with
  | missingConversion typeName place => cases place <;> simp [within]
  | _ => simp [within]

/-- The error as text. -/
def message : BindError → String
  | .missingConversion typeName none => s!"missing conversion to `{typeName}`"
  | .missingConversion typeName (some place) =>
    s!"missing conversion to `{typeName}` when generating {place}"
  | .missingUserData callback record field =>
    s!"missing `{field}` as a field of `{record}`, needed by callback `{callback}`"
  | .unsupportedCallback callback reason => s!"callback `{callback}`: {reason}"
  | .unsupported reason => reason

end BindError

/-- The kinds of declaration that can be left out. -/
inductive DeclarationKind where
  | function
  | struct
  | enumeration
  | typedef
  | global
  | callback
  deriving DecidableEq, Repr, Inhabited

/-- The kind as the title of a comment. -/
def DeclarationKind.title : DeclarationKind → String
  | .function => "Function"
  | .struct => "Struct"
  | .enumeration => "Enum"
  | .typedef => "Typedef"
  | .global => "Global"
  | .callback => "Callback"

/-- A declaration left out, and why. -/
structure Diagnostic where
  /-- The kind of declaration. -/
  kind : DeclarationKind
  /-- Its name. -/
  name : String
  /-- Why it is left out. -/
  reason : String
  /-- The declaration as the header has it, where there is one. -/
  declaration : String
  deriving DecidableEq, Repr, Inhabited

namespace Diagnostic

/-- The comment left where the declaration would have been. -/
def lines (diagnostic : Diagnostic) : List String :=
  let declaration :=
    if diagnostic.declaration = "" then [] else [Text.commentSafe diagnostic.declaration]
  "" :: Text.comment
    ([diagnostic.kind.title ++ " NOT generated:", Text.commentSafe diagnostic.reason]
      ++ declaration)

/-- The comment as text. -/
def comment (diagnostic : Diagnostic) : String := Text.unlines diagnostic.lines

end Diagnostic

end ScriptBind
