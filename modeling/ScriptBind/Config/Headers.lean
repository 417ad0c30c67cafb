import ScriptBind.Config.Basic
import ScriptBind.Files.Path

/-!
# Finding Headers

The paths of a configuration are taken from its base directory. A header that is
not there is looked for in the directories with more headers, in their order; one
that is nowhere keeps its place in the base directory, so that whoever reads it
can say what is missing.

Which paths lead somewhere is a parameter here. The first of the candidates that
does is the answer.

## Main definitions

* `headerCandidates`: The places where a header may be.
* `resolveHeader`: Where a header is.
* `Input`: What there is to read.
* `Config.input`: What a configuration has to read.
* `Config.traversed`: The files whose declarations count.

## Theorems

* `resolveHeader_of_isAbsolute`: An absolute path is left alone.
* `resolveHeader_of_isThere`: A header in the base directory is taken from there.
* `resolveHeader_of_nowhere`: A header that is nowhere stays in the base
  directory.
-/

namespace ScriptBind

/-- The places where a header may be: in the base directory, and in the
    directories with more headers. -/
def headerCandidates (base : String) (includePaths : List String) (path : String) :
    List String :=
  (base :: includePaths).map fun directory => Path.join directory path

/-- Where a header is, given which paths lead somewhere, the base directory and
    the directories with more headers. -/
def resolveHeader (isThere : String → Bool) (base : String) (includePaths : List String)
    (path : String) : String :=
  if Path.isAbsolute path then path
  else ((headerCandidates base includePaths path).find? isThere).getD (Path.join base path)

/-- An absolute path is left alone. -/
theorem resolveHeader_of_isAbsolute {path : String} (h : Path.isAbsolute path)
    (isThere : String → Bool) (base : String) (includePaths : List String) :
    resolveHeader isThere base includePaths path = path := by
  rw [resolveHeader, if_pos h]

/-- A header in the base directory is taken from there. -/
theorem resolveHeader_of_isThere {isThere : String → Bool} {base path : String}
    (h : isThere (Path.join base path)) (includePaths : List String) :
    resolveHeader isThere base includePaths path = Path.join base path := by
  unfold resolveHeader
  split
  · next ha => exact (Path.join_of_isAbsolute ha base).symm
  · rw [headerCandidates, List.map_cons, List.find?_cons_of_pos h, Option.getD_some]

/-- A header that is nowhere stays in the base directory. -/
theorem resolveHeader_of_nowhere {isThere : String → Bool} {base path : String}
    {includePaths : List String}
    (h : ∀ directory ∈ base :: includePaths, isThere (Path.join directory path) = false) :
    resolveHeader isThere base includePaths path = Path.join base path := by
  unfold resolveHeader
  split
  · next ha => exact (Path.join_of_isAbsolute ha base).symm
  · rw [List.find?_eq_none.2, Option.getD_none]
    intro candidate hc
    obtain ⟨directory, hd, rfl⟩ := List.mem_map.1 hc
    rw [h directory hd]
    exact Bool.false_ne_true

/-- What there is to read. -/
inductive Input where
  /-- A single file. -/
  | file (path : String)
  /-- Headers under a path where there is no file: one is made up that includes
      them all. -/
  | combined (path : String) (headers : List String)
  deriving DecidableEq, Repr, Inhabited

namespace Input

/-- The path to start reading at. -/
def path : Input → String
  | .file path => path
  | .combined path _ => path

/-- The text of the file that is made up, if one is. -/
def text? : Input → Option String
  | .file _ => none
  | .combined _ headers =>
    some (String.join (headers.map fun header => "#include \"" ++ header ++ "\"\n"))

end Input

/-- The name of the file that includes the headers of a configuration. -/
def combinedName : String := "bnd_mpy_wrapper.c"

namespace Config

/-- Where a header of a configuration is. -/
def resolve (config : Config) (isThere : String → Bool) (base path : String) : String :=
  resolveHeader isThere base config.includePaths path

/-- What a configuration has to read. -/
def input (config : Config) (isThere : String → Bool) (base : String) : Input :=
  let resolve := config.resolve isThere base
  match config.preprocessed, config.headers with
  | some path, _ => .file (resolve path)
  | none, [header] => .file (resolve header)
  | none, headers => .combined (Path.join base combinedName) (headers.map resolve)

/-- The files whose declarations count. -/
def traversed (config : Config) (isThere : String → Bool) (base : String) : List String :=
  config.traverse.map (config.resolve isThere base)

end Config

end ScriptBind
