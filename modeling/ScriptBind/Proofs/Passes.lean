import ScriptBind.Module.Assembly
import ScriptBind.Proofs.Calls

/-!
# What Is Run in a Pass

A module is put together in one pass over a library. What the pass comes through
is not seen in the module that it leaves, but it can be told from the code: a step
of the pass takes other steps, each from where the ones before it have led, down
to those that bind; and what binds runs other computations, down to the single
types. So it is known exactly which computations are run in a pass and from which
session each of them is, in the middle of an operation as well as between two.

`Leads` has one rule for every place in the code where one step takes another, like
`Calls` for computations that bind, and where the code looks at what has become of
a function the rule has a condition.

## Main definitions

* `Pass`: The classes and enum groups that a module is made with.
* `AssemblyM.Leads`: A step in putting a module together takes another.
* `Pass.Takes`: The steps of a pass, each with how far the module has come.
* `Pass.Runs`: The computations that are run in a pass, each with its session.
* `passOf`: The pass that a module is made in.

## Theorems

* `Pass.heeds_takes`: The steps that a step of the pass takes are steps of it.
* `Pass.respects_runs`: What a computation of the pass runs is run in the pass.
-/

namespace ScriptBind

/-- How far a module has come after a step. -/
def Progress.after {α : Type} (library : Library) (progress : Progress) (action : AssemblyM α) :
    Progress :=
  (action library progress).2

theorem Progress.after_bind {α β : Type} {library : Library} (progress : Progress)
    (action : AssemblyM α) (next : α → AssemblyM β) :
    progress.after library (action >>= next) =
      (progress.after library action).after library (next (action library progress).1) := rfl

/-- Whether a function has been tried. -/
def Progress.hasTried (progress : Progress) (function : CFunction) : Bool :=
  progress.wrapped.contains function.name || progress.failed.contains function.name

namespace AssemblyM

/-- A step that is taken when a module has come so far takes another. -/
inductive Leads (library : Library) :
    {α β : Type} → AssemblyM α → Progress → AssemblyM β → Progress → Prop where
  -- A module: the cell, classes, functions and what remains.
  /-- The cell for a pointer is bound first. -/
  | cell {model : ClassModel} {groups : Table EnumGroup} {progress : Progress} :
      Leads library (assembleBody model groups) progress (binding bindPointerCell) progress
  /-- The classes of objects follow those of enum groups. -/
  | classes {model : ClassModel} {groups : Table EnumGroup} {progress : Progress} :
      Leads library (assembleBody model groups) progress (emitClasses model groups)
        (progress.after library do
          let _ ← binding bindPointerCell
          emitGroups groups)
  /-- The functions that no class has come after their heading. -/
  | functions {model : ClassModel} {groups : Table EnumGroup} {progress : Progress} :
      Leads library (assembleBody model groups) progress (moduleFunctions model.functions)
        (progress.after library do
          let _ ← binding bindPointerCell
          emitGroups groups
          let _ ← emitClasses model groups
          emit .functionsHeading)
  /-- The variables and the last trampolines come after all functions. -/
  | rest {model : ClassModel} {groups : Table EnumGroup} {progress : Progress} :
      Leads library (assembleBody model groups) progress (emitRest library.decls.globals)
        (progress.after library do
          let _ ← binding bindPointerCell
          emitGroups groups
          let _ ← emitClasses model groups
          emit .functionsHeading
          moduleFunctions model.functions)
  /-- Variables are shown. -/
  | globals {globals : List Global} {progress : Progress} :
      Leads library (emitRest globals) progress (binding (showGlobals globals)) progress
  /-- Then the trampolines are written that only records mention. -/
  | pending {globals : List Global} {progress : Progress} :
      Leads library (emitRest globals) progress (binding emitPending)
        (progress.after library (binding (showGlobals globals)))
  -- Classes: one after another, and the methods of each.
  /-- The classes of objects are written from the base downward. -/
  | objects {model : ClassModel} {groups : Table EnumGroup} {progress : Progress} :
      Leads library (emitClasses model groups) progress
        (objectTables model.functions groups .empty model.inOrder) progress
  /-- The first class. -/
  | object {functions : List CFunction} {groups : Table EnumGroup} {built : Table (List Row)}
      {cls : ScriptClass} {rest : List ScriptClass} {progress : Progress} :
      Leads library (objectTables functions groups built (cls :: rest)) progress
        (objectTable functions groups built cls) progress
  /-- The others, after its table has been written. -/
  | nextObjects {functions : List CFunction} {groups : Table EnumGroup} {built : Table (List Row)}
      {cls : ScriptClass} {rest : List ScriptClass} {progress progress' : Progress}
      {table : ClassTable} :
      objectTable functions groups built cls library progress = (table, progress') →
      Leads library (objectTables functions groups built (cls :: rest)) progress
        (objectTables functions groups (built.set table.name table.rows) rest)
        (progress'.after library (emit (.classTable table)))
  /-- The methods of a class. -/
  | methods {functions : List CFunction} {groups : Table EnumGroup} {built : Table (List Row)}
      {cls : ScriptClass} {progress : Progress} :
      Leads library (objectTable functions groups built cls) progress
        (methodRows functions cls.name cls.methods) progress
  /-- The first method, if there is a function of its name. -/
  | method {functions : List CFunction} {object method : String} {rest : List String}
      {function : CFunction} {progress : Progress} :
      functions.find? (·.name == method) = some function →
      Leads library (methodRows functions object (method :: rest)) progress (tryFunction function)
        progress
  /-- The others, after it. -/
  | nextMethods {functions : List CFunction} {object method : String} {rest : List String}
      {function : CFunction} {progress : Progress} :
      functions.find? (·.name == method) = some function →
      Leads library (methodRows functions object (method :: rest)) progress
        (methodRows functions object rest) (progress.after library (tryFunction function))
  /-- The others, if there is none. -/
  | skipMethod {functions : List CFunction} {object method : String} {rest : List String}
      {progress : Progress} :
      functions.find? (·.name == method) = none →
      Leads library (methodRows functions object (method :: rest)) progress
        (methodRows functions object rest) progress
  -- Functions, each at most once.
  /-- The first function, unless it has been tried. -/
  | function {function : CFunction} {rest : List CFunction} {progress : Progress} :
      progress.hasTried function = false →
      Leads library (moduleFunctions (function :: rest)) progress (tryFunction function) progress
  /-- The others, after it. -/
  | nextFunctions {function : CFunction} {rest : List CFunction} {progress : Progress} :
      progress.hasTried function = false →
      Leads library (moduleFunctions (function :: rest)) progress (moduleFunctions rest)
        (progress.after library (tryFunction function))
  /-- The others, if it has been tried before. -/
  | skipFunction {function : CFunction} {rest : List CFunction} {progress : Progress} :
      progress.hasTried function →
      Leads library (moduleFunctions (function :: rest)) progress (moduleFunctions rest) progress
  /-- A function is wrapped when it is tried for the first time. -/
  | wrap {function : CFunction} {progress : Progress} :
      progress.hasTried function = false →
      Leads library (tryFunction function) progress (binding (wrapOrReject function)) progress

/-- A choice of steps that contains the steps which they take. -/
def Heeds (library : Library) (met : (α : Type) → AssemblyM α → Progress → Prop) : Prop :=
  ∀ {α β : Type} {action : AssemblyM α} {progress : Progress} {next : AssemblyM β}
    {progress' : Progress}, Leads library action progress next progress' →
    met α action progress → met β next progress'

theorem heeds_all (library : Library) : Heeds library fun _ _ _ => True := fun _ _ => trivial

end AssemblyM

/-- What a pass over a library is made with: classes with their functions, and enum
    groups. -/
structure Pass (library : Library) where
  /-- The classes. -/
  model : ClassModel
  /-- The enum groups. -/
  groups : Table EnumGroup
  /-- The functions are those of the library. -/
  declared : ∀ function ∈ model.functions, function ∈ library.decls.functions

namespace Pass

variable {library : Library}

/-- The steps of a pass, each with how far the module has come when it is taken. -/
inductive Takes (pass : Pass library) : {α : Type} → AssemblyM α → Progress → Prop where
  /-- The pass begins with nothing bound. -/
  | start : Takes pass (assembleBody pass.model pass.groups) { session := .start library.naming }
  /-- A step takes another. -/
  | lead {α β : Type} {action : AssemblyM α} {progress : Progress} {next : AssemblyM β}
      {progress' : Progress} :
      Takes pass action progress → AssemblyM.Leads library action progress next progress' →
      Takes pass next progress'

/-- The computations that are run in a pass, each with the session that it is run
    from. -/
inductive Runs (pass : Pass library) : {α : Type} → BindM α → Session → Prop where
  /-- A step of the pass binds. -/
  | step {α : Type} {action : BindM α} {progress : Progress} :
      pass.Takes (AssemblyM.binding action) progress → Runs pass action progress.session
  /-- What is run runs something else. -/
  | call {α β : Type} {action : BindM α} {session : Session} {next : BindM β}
      {session' : Session} :
      Runs pass action session → Calls library action session next session' →
      Runs pass next session'

/-- The steps that a step of a pass takes are steps of the pass. -/
theorem heeds_takes (pass : Pass library) : AssemblyM.Heeds library fun _ => pass.Takes :=
  fun hlead htake => .lead htake hlead

/-- What a computation of a pass runs is run in the pass. -/
theorem respects_runs (pass : Pass library) : Respects library fun _ => pass.Runs :=
  fun hcall hrun => .call hrun hcall

end Pass

/-- The library that a module is made from. -/
def libraryOf (decls : Declarations) (options : Options) : Library :=
  { decls, naming := options.naming }

/-- The enum groups of a module. -/
def groupsOf (decls : Declarations) (options : Options) : Table EnumGroup :=
  Enums.groups options.naming decls.enums

/-- The classes of a module. -/
def modelOf (decls : Declarations) (options : Options) : ClassModel :=
  classModel (libraryOf decls options) options (groupsOf decls options)

/-- The functions of a module are among those that its library declares. -/
theorem mem_functions_of_modelOf {decls : Declarations} {options : Options} {function : CFunction}
    (h : function ∈ (modelOf decls options).functions) : function ∈ decls.functions :=
  (List.mem_filter.1 h).1

/-- The pass that a module is made in. -/
def passOf (decls : Declarations) (options : Options) : Pass (libraryOf decls options) where
  model := modelOf decls options
  groups := groupsOf decls options
  declared := fun _ => mem_functions_of_modelOf

end ScriptBind
