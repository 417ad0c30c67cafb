import ScriptBind.Classes.Constructor
import ScriptBind.Enums.Group

/-!
# Classes

What the generator has made of a library's functions and enums: a class for
each object that has a constructor, and the functions that are left over.

## Main definitions

* `ScriptClass`: A class by name, with its parent, methods and enums.
* `ClassModel`: All classes, the remaining functions, and the enums in use.
* `ClassModel.attachEnums`: The enum groups of each class.
* `ClassModel.summary`: The classes with constructors as text.

## Theorems

* `names_attachEnums`: Attaching enums changes no class name.
-/

namespace ScriptBind

/-- A class as a script sees it. -/
structure ScriptClass where
  /-- The name: the object of its constructor. -/
  name : String
  /-- The class it derives from. -/
  parent : Option String := none
  /-- The function that creates its objects. -/
  constructor : Option String := none
  /-- The functions that are its methods, in order of declaration. -/
  methods : List String := []
  /-- The enum group whose members it takes as its own. -/
  enumMembers : Option String := none
  /-- The enum groups that become classes inside it. -/
  nestedEnums : List String := []
  deriving DecidableEq, Repr, Inhabited

/-- The classes of a library and what is left over. -/
structure ClassModel where
  /-- The classes by name. -/
  classes : Table ScriptClass := .empty
  /-- The functions that are not constructors of a class. -/
  functions : List CFunction := []
  /-- The enum groups that are nested in some class. -/
  nestedEnums : List String := []
  deriving Inhabited

namespace ScriptClass

/-- Whether a group's members become the members of the class itself. -/
def takesMembers (naming : Naming) (cls : ScriptClass) (group : String) : Bool :=
  Text.eqAnyCase group (naming.classEnumGroup cls.name)

/-- Whether a group becomes a class inside the class. -/
def nests (naming : Naming) (cls : ScriptClass) (group : String) : Bool :=
  !cls.takesMembers naming group && naming.isMethodOf group cls.name

/-- The class with the enum groups that belong to it. Of several groups whose
    members it could take, it takes the last. -/
def attachEnums (naming : Naming) (groups : List String) (cls : ScriptClass) : ScriptClass :=
  { cls with
    enumMembers := ((groups.filter (cls.takesMembers naming)).getLast?).or cls.enumMembers
    nestedEnums := cls.nestedEnums ++ groups.filter (cls.nests naming) }

/-- The class with its parent, as text. -/
def heading (cls : ScriptClass) : String :=
  let parent := cls.parent.getD "None"
  s!"{cls.name}({parent})"

end ScriptClass

namespace ClassModel

/-- The model with the enum groups of each class. -/
def attachEnums (naming : Naming) (groups : List String) (model : ClassModel) : ClassModel :=
  { model with
    classes := model.classes.modify fun _ cls => cls.attachEnums naming groups
    nestedEnums := (model.classes.values.flatMap fun cls =>
      groups.filter (cls.nests naming)).foldl addName model.nestedEnums }

/-- Attaching enums changes no class name. -/
theorem names_attachEnums (naming : Naming) (groups : List String) (model : ClassModel) :
    (model.attachEnums naming groups).classes.names = model.classes.names :=
  Table.names_modify _ _

/-- The classes that have a constructor, as text. -/
def summary (model : ClassModel) : String :=
  ", ".intercalate
    ((model.classes.values.filter (·.constructor.isSome)).map ScriptClass.heading)

end ClassModel

end ScriptBind
