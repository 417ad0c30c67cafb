import ScriptBind.Binding.FunctionWrapper
import ScriptBind.Binding.PointerCell
import ScriptBind.Classes.Order
import ScriptBind.Classes.Synthesis
import ScriptBind.Module.Basic
import ScriptBind.Module.Globals
import ScriptBind.Module.Options

/-!
# Putting a Module Together

A module is put together in a fixed order: the pointer cell, the classes of
enum groups, the classes of objects from the base downward, the functions that
belong to no class, the variables, and at last the trampolines that only
records mention. Whatever a step needs bound is bound by it, and stays bound
for the steps after it.

A function is tried once, however many classes list it. A class repeats the
table of its parent after its own methods, so that a script finds inherited
attributes where it finds the class's own; a name that is there already is not
repeated.

## Main definitions

* `Progress`: How far a module has come.
* `tryFunction`: Wrapping a function the first time it is asked for.
* `objectTable`: The attributes of an object's class.
* `moduleRows`: The attributes of the module.
* `assemble`: A module from what a library declares.
-/

namespace ScriptBind

/-- How far a module has come. -/
structure Progress where
  /-- What has been bound. -/
  session : Session
  /-- The functions that have a wrapper. -/
  wrapped : Table WrappedFunction := .empty
  /-- The functions that cannot have one. -/
  failed : List String := []
  /-- How many computations that bind have come to no end: a history, which
      nothing is decided by. -/
  endless : Nat := 0
  deriving Inhabited

/-- Computations that put a module together. -/
abbrev AssemblyM := ReaderT Library (StateM Progress)

namespace AssemblyM

/-- A computation that binds, as a step in putting a module together. -/
def binding {α : Type} (action : BindM α) : AssemblyM (Except BindError α) :=
  fun library progress =>
    let result := action.outcome library progress.session
    let (answer, session) :=
      result.getD (.error (.endlessType library.naming.moduleName), progress.session)
    let endless := if result.isNone then progress.endless + 1 else progress.endless
    (answer, { progress with session, endless })

/-- Write a section of code. -/
def emit (code : Section) : AssemblyM Unit :=
  modify fun progress => { progress with session := progress.session.emit code }

end AssemblyM

/-- Wrap a function the first time it is asked for. -/
def tryFunction (function : CFunction) : AssemblyM (Option WrappedFunction) := do
  let progress ← get
  match progress.wrapped.get? function.name with
  | some wrapped => return some wrapped
  | none =>
    if progress.failed.contains function.name then return none
    else
      match ← AssemblyM.binding (wrapOrReject function) with
      | .ok (some wrapped) =>
        modify fun progress =>
          { progress with wrapped := progress.wrapped.add function.name wrapped }
        return some wrapped
      | _ =>
        modify fun progress => { progress with failed := addName progress.failed function.name }
        return none

/-- The row of an enum group's member. -/
def EnumValue.target : EnumValue → Target
  | .number cName value => .number cName value
  | .text cName written => .text cName written

/-- The rows of an enum group's members. -/
def EnumGroup.memberRows (group : EnumGroup) : List Row :=
  group.members.rows.map fun (name, value) => ⟨name, value.target⟩

/-- The class of an enum group. -/
def EnumGroup.table (group : EnumGroup) : ClassTable where
  name := group.name
  kind := .enumeration
  constructor := none
  rows := group.memberRows

/-- The rows of a class's own methods that have a wrapper. -/
def methodRows (functions : List CFunction) (object : String) :
    List String → AssemblyM (List Row)
  | [] => pure []
  | method :: rest => do
    let wrapped ←
      match functions.find? (·.name == method) with
      | some function => tryFunction function
      | none => pure none
    let naming := (← read).naming
    let own := wrapped.toList.map fun function =>
      { name := naming.methodName method object, target := .function function.name }
    return own ++ (← methodRows functions object rest)

/-- The rows that a class has besides its own methods: those of its parent, the
    members of its enum group, and its nested enum groups. -/
def furtherRows (naming : Naming) (groups : Table EnumGroup) (built : Table (List Row))
    (cls : ScriptClass) : List Row :=
  let inherited := (cls.parent.bind built.get?).getD []
  let members := ((cls.enumMembers.bind groups.get?).map EnumGroup.memberRows).getD []
  let nested := cls.nestedEnums.map fun group =>
    { name := naming.nestedEnumName group cls.name, target := .enumClass group }
  inherited ++ members ++ nested

/-- The class of an object. -/
def objectTable (functions : List CFunction) (groups : Table EnumGroup)
    (built : Table (List Row)) (cls : ScriptClass) : AssemblyM ClassTable := do
  let own ← methodRows functions cls.name cls.methods
  let further := furtherRows (← read).naming groups built cls
  return {
    name := cls.name
    kind := .object
    constructor := cls.constructor
    rows := firstOfEachName (own ++ further) }

/-- Write the classes of objects, those built before being given. -/
def objectTables (functions : List CFunction) (groups : Table EnumGroup) :
    Table (List Row) → List ScriptClass → AssemblyM (List ClassTable)
  | _, [] => pure []
  | built, cls :: rest => do
    let table ← objectTable functions groups built cls
    AssemblyM.emit (.classTable table)
    let tables ← objectTables functions groups (built.set table.name table.rows) rest
    return table :: tables

/-- Write the functions that have not been tried yet, and answer the names of
    those that have a wrapper. -/
def moduleFunctions : List CFunction → AssemblyM (List String)
  | [] => pure []
  | function :: rest => do
    let progress ← get
    let isTried := progress.wrapped.contains function.name || progress.failed.contains function.name
    let wrapped ← if isTried then pure none else tryFunction function
    return wrapped.toList.map WrappedFunction.name ++ (← moduleFunctions rest)

/-- The attributes of the module: classes, functions, the enum groups that no
    class nests, record types, typedefs of record types, and variables. -/
def moduleRows (naming : Naming) (model : ClassModel) (groups : Table EnumGroup)
    (functions : List String) (session : Session) (shown : List Instance) : List Row :=
  let classes := model.inOrder.map fun cls => ⟨cls.name, .cls cls.name⟩
  let functions := functions.map fun name => ⟨naming.functionName name, .function name⟩
  let enums := (groups.names.filter (!model.nestedEnums.contains ·)).map fun group =>
    ⟨naming.enumName group, .enumClass group⟩
  let structs := session.boundStructs.map fun bound =>
    ⟨naming.simplify bound.name, .struct bound.name⟩
  let aliases := session.aliases.rows.map fun (name, target) =>
    ⟨naming.simplify name, .struct target⟩
  let globals := shown.map fun shown =>
    ⟨naming.simplify shown.global.name, .global shown.global.name shown.structName⟩
  firstOfEachName (classes ++ functions ++ enums ++ structs ++ aliases ++ globals)

/-- Write the classes of enum groups. -/
def emitGroups (groups : Table EnumGroup) : AssemblyM Unit :=
  groups.values.forM fun group => AssemblyM.emit (.classTable group.table)

/-- Write the classes of objects, and the way to the base object's type if there
    are any. -/
def emitClasses (model : ClassModel) (groups : Table EnumGroup) : AssemblyM (List ClassTable) := do
  let tables ← objectTables model.functions groups .empty model.inOrder
  unless model.classes.isEmpty do
    AssemblyM.emit (.baseType (← read).naming.baseObject)
  return tables

/-- Write the variables and whatever is still awaited. -/
def emitRest (globals : List Global) : AssemblyM (List Instance) := do
  let shown ← AssemblyM.binding (showGlobals globals)
  let _ ← AssemblyM.binding emitPending
  return shown.toOption.getD []

/-- Write the list of functions left out, unless there are none. -/
def emitNotGenerated (functions : List CFunction) : AssemblyM Unit := do
  let failed := (← get).failed
  let names := (functions.map CFunction.name).filter failed.contains
  unless names.isEmpty do
    AssemblyM.emit (.notGenerated names)

/-- Write the body of a module, and answer its tables. -/
def assembleBody (model : ClassModel) (groups : Table EnumGroup) : AssemblyM Exports := do
  let library ← read
  let _ ← AssemblyM.binding bindPointerCell
  emitGroups groups
  let objects ← emitClasses model groups
  AssemblyM.emit .functionsHeading
  let functions ← moduleFunctions model.functions
  let shown ← emitRest library.decls.globals
  emitNotGenerated model.functions
  let progress ← get
  return {
    classes := groups.values.map EnumGroup.table ++ objects
    moduleRows := moduleRows library.naming model groups functions progress.session shown
    functions := progress.wrapped }

/-- The classes of a library with their enum groups. -/
def classModel (library : Library) (options : Options) (groups : Table EnumGroup) : ClassModel :=
  (ClassModel.ofDeclarations library.decls library.naming options.exclude
    options.narrowed).attachEnums library.naming groups.names

/-- A module from what a library declares. -/
def assemble (decls : Declarations) (options : Options) : Module :=
  let naming := options.naming
  let library : Library := { decls, naming }
  let groups := Enums.groups naming decls.enums
  let model := classModel library options groups
  let (exports, progress) := assembleBody model groups library { session := .start naming }
  { naming
    headers := options.headers
    summary := model.summary
    hasClasses := !model.classes.isEmpty
    groups
    body := progress.session.body
    exports
    diagnostics := progress.session.diagnostics }

end ScriptBind
