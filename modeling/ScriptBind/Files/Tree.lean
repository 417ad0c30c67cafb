import ScriptBind.Files.Path

/-!
# Directory Trees

The files below a working directory, as far as they are known: texts under
paths of names. A name that leads to a file has nothing below it, and a
directory is there as soon as a file is below it.

Paths are followed the way a file system does. Every part but the last has to
be a directory, two dots lead to the directory above, and a slash at the end
asks for a directory. Above the working directory there are only directories,
and of the absolute paths only the root is there.

## Main definitions

* `Tree`: The files below a working directory.
* `Tree.exists`: Whether a path leads to a file or a directory.
* `Tree.read?`: The text of a file.
* `Tree.write?`: The tree after a file has been written.

## Theorems

* `read?_root`: The root is not a file.
-/

namespace ScriptBind

/-- A place in a directory tree: so many directories up from the working
    directory, and from there down by names, the last one first. -/
structure Place where
  /-- How many directories above the working directory. -/
  above : Nat := 0
  /-- The names leading down, the last one first. -/
  names : List String := []
  deriving DecidableEq, Repr, Inhabited

/-- The directory a place lies in. -/
def Place.up (place : Place) : Place :=
  match place.names with
  | [] => { place with above := place.above + 1 }
  | _ :: names => { place with names }

/-- A place by its name in a directory. -/
def Place.child (place : Place) (name : String) : Place :=
  { place with names := name :: place.names }

/-- The files below a working directory. -/
structure Tree where
  /-- The places of the files and their texts. -/
  files : List (Place × String) := []
  deriving Inhabited

namespace Tree

/-- The text of the file at a place. -/
def fileAt? (tree : Tree) (place : Place) : Option String := tree.files.lookup place

/-- Whether a place is a directory. -/
def isDirectory (tree : Tree) (place : Place) : Bool :=
  place.names.isEmpty || tree.files.any fun (file, _) =>
    file.above == place.above && file.names != place.names && place.names.isSuffixOf file.names

/-- Whether there is anything at a place. -/
def isThere (tree : Tree) (place : Place) : Bool :=
  tree.isDirectory place || (tree.fileAt? place).isSome

/-- The place that a part leads to from a place, if the place is a directory. -/
def step (tree : Tree) (place : Place) (part : String) : Option Place :=
  if !tree.isDirectory place then none
  else if part = "" ∨ part = "." then some place
  else if part = ".." then some place.up
  else some (place.child part)

/-- The place that parts lead to from a place. -/
def follow (tree : Tree) : Place → List String → Option Place
  | place, [] => some place
  | place, part :: rest => (tree.step place part).bind fun next => follow tree next rest

/-- Whether a path can be followed at all. -/
def isPath (path : String) : Bool := path != "" && !path.toList.contains '\x00'

/-- The place that a path leads to from the working directory. -/
def place? (tree : Tree) (path : String) : Option Place :=
  if isPath path && !Path.isAbsolute path then tree.follow {} (Path.parts path) else none

/-- Whether an absolute path is the root by another spelling. -/
def isRoot (path : String) : Bool :=
  isPath path && Path.isAbsolute path &&
    (Path.parts path).all fun part => !Path.isStep part || part == ".."

/-- Whether a path leads to a file or a directory. -/
def «exists» (tree : Tree) (path : String) : Bool :=
  isRoot path || ((tree.place? path).any tree.isThere)

/-- The text of the file that a path leads to. -/
def read? (tree : Tree) (path : String) : Option String :=
  (tree.place? path).bind fun place =>
    if tree.isDirectory place then none else tree.fileAt? place

/-- The tree with a file at a place. -/
def put (tree : Tree) (place : Place) (text : String) : Tree :=
  { files := (place, text) :: tree.files.filter fun file => file.1 != place }

/-- The tree after a file has been written, if its directory is there and the
    path is not that of a directory. -/
def write? (tree : Tree) (path text : String) : Option Tree := do
  let last ← (Path.parts path).getLast?
  -- A path that ends in dots or in a slash names a directory.
  if !Path.isStep last || last == ".." then none
  let place ← tree.place? path
  if tree.isDirectory place then none else some (tree.put place text)

/-- The tree of some files by their paths, directories being made as needed. -/
def ofFiles (files : List (String × String)) : Tree :=
  files.foldl (fun tree (path, text) =>
    tree.put { names := ((Path.parts path).filter Path.isStep).reverse } text) {}

/-- The names in the working directory, sorted. -/
def names (tree : Tree) : List String :=
  let names := tree.files.filterMap fun (place, _) =>
    if place.above = 0 then place.names.getLast? else none
  (names.eraseDups).mergeSort fun a b => a ≤ b

/-- The root is not a file. -/
theorem read?_root (tree : Tree) : tree.read? "/" = none := by
  rw [read?, place?, if_neg (by decide), Option.bind_none]

end Tree

end ScriptBind
