import ScriptBind.Classes.Basic

/-!
# Finding the Classes

Classes are found in two steps. Every confirmed constructor makes a class that
derives from the base object, and the functions named after the object become
its methods. Then, if asked for, the parents are narrowed: a record that
extends an object shows by its first member which object's record it extends.

A record can claim anything, so a narrower parent is taken only if the parent's
own line of parents does not lead back to the class. Without that check the
line would have no end.

## Main definitions

* `constructors`: The confirmed constructors of a library.
* `ClassModel.ofDeclarations`: The classes of a library.
* `extensionParents`: The parents that extension records claim.
* `leadsTo`: Whether a line of parents leads to a class.

## Theorems

* `names_narrow`: Narrowing the parents changes no class name.
-/

namespace ScriptBind

/-- The confirmed constructors of a library, in order of declaration. -/
def constructors (decls : Declarations) (naming : Naming) (exclude : List String) :
    List Candidate :=
  (candidates decls naming exclude).filter (·.isConstructor naming)

/-- The parents that extension records claim: pairs of a class and its parent,
    in order of declaration. -/
def extensionParents (decls : Declarations) (naming : Naming) (classes : Table ScriptClass) :
    List (String × String) :=
  decls.records.rows.filterMap fun (key, record) => do
    let object ← naming.extensionObject? key
    let first ← record.fields.head?
    let parent ← naming.extensionObject? first.type.spelling
    if parent != object && classes.contains object && classes.contains parent then
      some (object, parent)
    else none

/-- Whether the line of parents from a class leads to another within a number
    of steps, or has not ended by then. -/
def leadsTo (classes : Table ScriptClass) (target : String) : Nat → String → Bool
  | 0, _ => true
  | steps + 1, name =>
    if name = target then true
    else
      match (classes.get? name).bind ScriptClass.parent with
      | some parent => leadsTo classes target steps parent
      | none => false

/-- Classes with one more parent narrowed, unless that would close a circle. -/
def narrowParent (classes : Table ScriptClass) (object parent : String) : Table ScriptClass :=
  if leadsTo classes object (classes.size + 1) parent then classes
  else
    classes.modify fun name cls =>
      if name = object then { cls with parent := some parent } else cls

/-- Classes with their parents narrowed along the extension records. -/
def narrow (decls : Declarations) (naming : Naming) (classes : Table ScriptClass) :
    Table ScriptClass :=
  (extensionParents decls naming classes).foldl
    (fun classes claim => narrowParent classes claim.1 claim.2) classes

theorem names_narrowParent (classes : Table ScriptClass) (object parent : String) :
    (narrowParent classes object parent).names = classes.names := by
  unfold narrowParent
  split
  · rfl
  · exact Table.names_modify _ _

/-- Narrowing the parents changes no class name. -/
theorem names_narrow (decls : Declarations) (naming : Naming) (classes : Table ScriptClass) :
    (narrow decls naming classes).names = classes.names := by
  unfold narrow
  generalize extensionParents decls naming classes = claims
  induction claims generalizing classes with
  | nil => rfl
  | cons claim rest ih => rw [List.foldl_cons, ih, names_narrowParent]

/-- A class for each confirmed constructor, and one for the base object if there
    is any. The first constructor of an object is the one that counts. -/
def constructedClasses (naming : Naming) (found : List Candidate) : Table ScriptClass :=
  let base := naming.baseObject
  let own := Table.ofFirstRows <| found.map fun candidate =>
    (candidate.object,
      { name := candidate.object
        parent := if candidate.object = base then none else some base
        constructor := some candidate.function.name })
  if own.isEmpty then own else own.add base { name := base }

/-- The functions named after an object. -/
def methodsOf (naming : Naming) (functions : List CFunction) (object : String) : List String :=
  (functions.map CFunction.name).filter (naming.isMethodOf · object)

/-- The classes of a library and the functions left over. -/
def ClassModel.ofDeclarations (decls : Declarations) (naming : Naming) (exclude : List String)
    (narrowed : Bool) : ClassModel :=
  let found := constructors decls naming exclude
  let used := found.map (·.function.name)
  let functions := decls.functions.filter fun function => !used.contains function.name
  let classes := (constructedClasses naming found).modify fun _ cls =>
    { cls with methods := methodsOf naming functions cls.name }
  { classes := if narrowed then narrow decls naming classes else classes
    functions }

end ScriptBind
