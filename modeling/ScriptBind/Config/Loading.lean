import ScriptBind.Config.Basic
import ScriptBind.Settings.Document

/-!
# Configurations from Settings Files

Every setting has one kind of value. A file that gives a setting a value of
another kind, or that has a setting of another name, is refused as a whole, so
that a slip of the pen is not taken for a default.

## Main definitions

* `Config.set?`: A configuration with one more setting.
* `Config.ofText?`: The configuration of a settings file's text.
* `LoadFault`: Why a settings file cannot be used.
* `Config.load`: The configuration of a settings file.

## Theorems

* `load_eq_error_unreadable_iff`: A file counts as unreadable exactly when it has
  no text.
-/

namespace ScriptBind

namespace Config

open Settings

/-- A configuration with one more setting, if there is such a setting and it has
    values of this kind. -/
def set? (config : Config) (setting : String × Value) : Option Config :=
  match setting with
  | ("module_name", .text name) => some { config with moduleName := some name }
  | ("module_prefix", .text scope) => some { config with scope := some scope }
  | ("headers", .texts headers) => some { config with headers }
  | ("include_paths", .texts includePaths) => some { config with includePaths }
  | ("defines", .texts defines) => some { config with defines }
  | ("preprocessed", .text path) => some { config with preprocessed := some path }
  | ("exclude", .texts exclude) => some { config with exclude }
  | ("clang_args", .texts readerArguments) => some { config with readerArguments }
  | ("traverse", .texts traverse) => some { config with traverse }
  | ("user_data_field", .text userData) => some { config with userData }
  | ("hierarchy_from_ext", .flag narrowed) => some { config with narrowed }
  | ("metadata", .text path) => some { config with metadata := some path }
  | _ => none

/-- The configuration of a settings file's text. -/
def ofText? (text : String) : Option Config :=
  (Document.ofText? text).bind fun document => document.foldlM set? {}

end Config

/-- Why a settings file cannot be used. -/
inductive LoadFault where
  /-- There is no such file. -/
  | unreadable (path : String)
  /-- What the file says makes no configuration. -/
  | malformed (path : String)
  deriving DecidableEq, Repr, Inhabited

namespace LoadFault

/-- The path of the file. -/
def path : LoadFault → String
  | .unreadable path => path
  | .malformed path => path

/-- The wording of a fault. -/
def message : LoadFault → String
  | .unreadable path => s!"failed to read config file {path}"
  | .malformed path => s!"failed to parse config file {path}"

/-- The wording of what was going on. -/
def context (fault : LoadFault) : String := s!"loading config from {fault.path}"

end LoadFault

namespace Config

/-- The configuration of a settings file, given its path and its text if the path
    leads to one. -/
def load (path : String) (text? : Option String) : Except LoadFault Config :=
  match text? with
  | none => .error (.unreadable path)
  | some text =>
    match ofText? text with
    | none => .error (.malformed path)
    | some config => .ok config

/-- A file counts as unreadable exactly when it has no text. -/
theorem load_eq_error_unreadable_iff {path : String} {text? : Option String} :
    load path text? = .error (.unreadable path) ↔ text? = none := by
  unfold load
  cases text? with
  | none => simp
  | some text => cases hc : ofText? text <;> simp [hc]

end Config

end ScriptBind
