import ScriptBind.Proofs.FunctionNotes

/-!
# What Becomes of Variables

Each declaration of a variable has its turn, in order. Its type is resolved first,
with whatever outcome, and then it is looked up whether the type leads to a bound
record or to a typedef of one. If it does, an instance is defined, and if not, a
diagnostic says that the variable is left out. Nothing else in a module says
anything of variables.

So a variable that is declared once is defined or left out, and never both. A
variable may be declared more than once, and then each declaration has a turn of
its own: nobody remembers that it has been defined.

## Main definitions

* `Module.instances`, `Module.variablesLeftOut`: The variables that a module
  defines and those that it leaves out.
* `Turn`: A variable, and the session when its type has been resolved.
* `turnsOf`: The turns of the variables of a library.

## Theorems

* `showGlobals_turns`: Each turn defines an instance or leaves a variable out.
* `variables_shown`: A module defines what its turns say.
* `variables_defined`: A variable is defined exactly if a turn leads to a record, and
  once or left out once for each declaration.
* `repeatedVariable_redefined`: A variable that is declared twice is defined twice.
-/

namespace ScriptBind

open BindM AssemblyM

/-- The variable that a section defines. -/
def Section.instance? : Section → Option Instance
  | .global shown => some shown
  | _ => none

/-- The variables that some code defines. -/
def instancesIn (body : List Section) : List Instance := body.filterMap Section.instance?

/-- The names of the variables that are left out. -/
def variablesIn (diagnostics : List Diagnostic) : List String :=
  (diagnostics.filter Diagnostic.isOfVariable).map Diagnostic.name

namespace Module

/-- The variables that a module defines, in order. -/
def instances (module : Module) : List Instance := instancesIn module.body

/-- The names that a module has definitions for, each as often as it is defined. -/
def definedVariables (module : Module) : List String :=
  module.instances.map fun shown => shown.global.name

/-- The names of the variables that a module leaves out. -/
def variablesLeftOut (module : Module) : List String := variablesIn module.diagnostics

end Module

/-- A variable whose turn has come. -/
structure Turn where
  /-- The variable. -/
  global : Global
  /-- The session when the type of the variable has been resolved. -/
  session : Session

namespace Turn

/-- The record that the type of the variable leads to, by its own name or as a
    typedef. -/
def structName? (turn : Turn) : Option String :=
  turn.session.structName? turn.global.type.spelling

/-- What is defined. -/
def instance? (turn : Turn) : Option Instance :=
  turn.structName?.map fun structName => ⟨turn.global, structName⟩

/-- Whether the variable is left out. -/
def isLeftOut (turn : Turn) : Bool := turn.structName?.isNone

end Turn

/-- The turn of a variable in a session. -/
def turnIn (library : Library) (session : Session) (global : Global) : Turn :=
  ⟨global, (Operation.resolve global.type).after library session⟩

/-- The turns of some variables, one after another. -/
def turns (library : Library) : Session → List Global → List Turn
  | _, [] => []
  | session, global :: rest =>
    turnIn library session global ::
      turns library ((Operation.showGlobals [global]).after library session) rest

theorem map_global_turns (library : Library) (session : Session) (globals : List Global) :
    (turns library session globals).map Turn.global = globals := by
  induction globals generalizing session with
  | nil => rfl
  | cons global rest ih => rw [turns, List.map_cons, ih, turnIn]

section Showing

variable {library : Library} {session session' : Session}

theorem instancesIn_filter (body : List Section) :
    instancesIn (body.filter Section.isVariable) = instancesIn body := by
  induction body with
  | nil => rfl
  | cons code rest ih =>
      cases code with
      | global shown => exact congrArg (shown :: ·) ih
      | _ => exact ih

/-- Where nothing is said of variables, the same are defined and left out. -/
theorem instancesIn_of_spares (h : session.SparesVariables session') :
    instancesIn session'.body = instancesIn session.body ∧
      variablesIn session'.diagnostics = variablesIn session.diagnostics := by
  constructor
  · rw [← instancesIn_filter, h.body, instancesIn_filter]
  · rw [variablesIn, h.diagnostics, variablesIn]

theorem after_showGlobal {global : Global} {shown : Option Instance}
    (h : (showGlobal global).outcome library session = some (.ok shown, session')) :
    (Operation.showGlobals [global]).after library session = session' := by
  have hlist : (showGlobals [global]).outcome library session =
      some (.ok shown.toList, session') := by
    rw [showGlobals, outcome_bind, h]
    exact congrArg (fun all => some (Except.ok all, session')) (List.append_nil _)
  exact Operation.after_of_outcome (by rw [Operation.action, outcome_bind, hlist]; rfl)

/-- Resolving the type of a variable says nothing of variables. -/
theorem turnIn_spares (hl : library.isPatient = false) (session : Session) (global : Global) :
    Ensures False library (resolve global.type) session fun _ session' =>
      (turnIn library session global).session = session' ∧ session.SparesVariables session' := by
  have hcarries := sparesVariables_carries (Scope.all library)
  have hspares : Keeps library Session.SparesVariables (resolve global.type) :=
    Scope.keeps_all.1 (hcarries.resolve global.type trivial)
  refine ((((completes_impatient hl).resolve global.type session trivial).and
    (hspares session)).and (ensures_outcome library _ session)).mono fun result session' hall => ?_
  obtain ⟨⟨-, hs⟩, ho⟩ := hall
  exact ⟨Operation.after_resolve ho, hs⟩

/-- What a turn does to a session: it defines the variable or leaves it out. -/
structure Turn.Takes (turn : Turn) (session session' : Session) : Prop where
  /-- An instance is defined if there is one. -/
  defined : instancesIn session'.body = instancesIn session.body ++ turn.instance?.toList
  /-- The variable is left out if not. -/
  leftOut : variablesIn session'.diagnostics =
    variablesIn session.diagnostics ++ if turn.isLeftOut then [turn.global.name] else []

/-- A variable whose turn has come is defined or left out. -/
theorem showGlobal_takes (hl : library.isPatient = false) (session : Session) (global : Global) :
    Ensures False library (showGlobal global) session fun result session' =>
      result = .ok (turnIn library session global).instance? ∧
        (turnIn library session global).Takes session session' := by
  rw [showGlobal, ensures_bind, ensures_attempt]
  refine (turnIn_spares hl session global).mono fun resolved session₁ hall => ?_
  obtain ⟨hturn, hspares⟩ := hall
  obtain ⟨hbody, hdiagnostics⟩ := instancesIn_of_spares hspares
  -- The record is looked up whether the type could be resolved or not.
  have hname : (turnIn library session global).structName? =
      session₁.structName? global.type.spelling := by rw [Turn.structName?, hturn]; rfl
  dsimp only
  rw [ensures_bind, ensures_look]
  dsimp only
  cases hs : session₁.structName? global.type.spelling with
  | some structName =>
      rw [hs] at hname
      dsimp only
      rw [ensures_bind, ensures_update, ensures_pure]
      refine ⟨?_, ?_, ?_⟩
      · rw [Turn.instance?, hname]
        rfl
      · rw [Turn.instance?, hname, ← hbody]
        exact List.filterMap_append
      · rw [Turn.isLeftOut, hname, ← hdiagnostics]
        exact (List.append_nil _).symm
  | none =>
      rw [hs] at hname
      dsimp only
      rw [ensures_bind, ensures_update, ensures_pure]
      refine ⟨?_, ?_, ?_⟩
      · rw [Turn.instance?, hname]
        rfl
      · rw [Turn.instance?, hname, ← hbody]
        exact List.filterMap_append
      · rw [Turn.isLeftOut, hname, ← hdiagnostics, variablesIn]
        show List.map _ (List.filter _ (_ ++ _)) = _
        rw [List.filter_append, List.map_append]
        rfl

/-- The variables take their turns in order. -/
theorem showGlobals_turns (hl : library.isPatient = false) (globals : List Global)
    (session : Session) :
    Ensures False library (showGlobals globals) session fun result session' =>
      result = .ok ((turns library session globals).filterMap Turn.instance?) ∧
        instancesIn session'.body = instancesIn session.body ++
          (turns library session globals).filterMap Turn.instance? ∧
        variablesIn session'.diagnostics = variablesIn session.diagnostics ++
          ((turns library session globals).filter Turn.isLeftOut).map
            fun turn => turn.global.name := by
  induction globals generalizing session with
  | nil => exact ⟨rfl, (List.append_nil _).symm, (List.append_nil _).symm⟩
  | cons global rest ih =>
      rw [showGlobals, ensures_bind]
      refine ((showGlobal_takes hl session global).and (ensures_outcome library _ session)).mono
        fun result session₁ hall => ?_
      obtain ⟨⟨rfl, hfirst⟩, ho⟩ := hall
      dsimp only
      rw [ensures_bind]
      refine (ih session₁).mono fun result session₂ hall => ?_
      obtain ⟨rfl, hbody, hdiagnostics⟩ := hall
      -- The others have their turns in the session that the first leaves.
      have hturns : turns library session (global :: rest) =
          turnIn library session global :: turns library session₁ rest := by
        rw [turns, after_showGlobal ho]
      rw [hturns, List.filterMap_cons, List.filter_cons]
      refine ensures_pure.2 ⟨?_, ?_, ?_⟩
      · cases (turnIn library session global).instance? <;> rfl
      · rw [hbody, hfirst.defined, List.append_assoc]
        cases (turnIn library session global).instance? <;> rfl
      · rw [hdiagnostics, hfirst.leftOut, List.append_assoc]
        split <;> rfl

end Showing

section Assembling

variable (decls : Declarations) (options : Options)

/-- The session before the first variable has its turn. -/
def sessionBeforeVariables : Session :=
  (assembleCallables (modelOf decls options) (groupsOf decls options) (libraryOf decls options)
    { session := .start options.naming }).2.session

/-- The turns of the variables of a library. -/
def turnsOf : List Turn :=
  turns (libraryOf decls options) (sessionBeforeVariables decls options) decls.globals

/-- The instances that the table of the module is made of. -/
def shownIn : List Instance :=
  (assembleDeclared (modelOf decls options) (groupsOf decls options) (libraryOf decls options)
    { session := .start options.naming }).1.2.2

variable {decls options}

/-- What says nothing of variables, as a step in putting a module together. -/
theorem binding_sparesVariables {library : Library} {α : Type} {action : BindM α}
    (h : Keeps library ((Scope.all library).Guarded Session.SparesVariables) action)
    (before : Session) : Preserves library before.SparesVariables (binding action) :=
  .binding fun _ hs => (Scope.keeps_all.1 h).after hs

/-- Nothing is said of variables before the first has its turn. -/
theorem spares_sessionBeforeVariables (decls : Declarations) (options : Options) :
    (Session.start options.naming).SparesVariables (sessionBeforeVariables decls options) := by
  have hcarries := sparesVariables_carries (Scope.all (libraryOf decls options))
  have hreject : ∀ (session : Session) (diagnostic : Diagnostic), diagnostic.kind = .function →
      session.SparesVariables (session.reject diagnostic) := fun session diagnostic hd =>
    session.sparesKinds_reject (fun _ => rfl) (by rw [Diagnostic.isOfVariable, hd]; rfl)
  have hwrap : ∀ function ∈ (modelOf decls options).functions,
      Preserves (libraryOf decls options) (Session.start options.naming).SparesVariables
        (tryFunction function) := fun function _ =>
    tryFunction_maintains (binding_sparesVariables (hcarries.wrapOrReject
      (fun session _ => session.sparesKinds_emit rfl) hreject ⟨trivial, fun _ _ => trivial⟩) _)
      fun _ _ _ hs => hs
  have hemit : ∀ code : Section, code.isOfModule → code.isOfDeclared = false →
      Preserves (libraryOf decls options) (Session.start options.naming).SparesVariables
        (AssemblyM.emit code) := fun code _ hcode =>
    .emit fun session hs => trans_of Session.SparesVariables hs
      (session.sparesKinds_emit (Bool.or_eq_false_iff.1 hcode).2)
  exact assembleCallables_maintains hemit hwrap
    (binding_sparesVariables hcarries.bindPointerCell _) _ (refl_of Session.SparesVariables _)

/-- What the variables have come to when all have had their turn. -/
theorem shown_sessionBeforePending (decls : Declarations) (options : Options) :
    shownIn decls options = (turnsOf decls options).filterMap Turn.instance? ∧
      instancesIn (sessionBeforePending decls options).body =
        (turnsOf decls options).filterMap Turn.instance? ∧
      variablesIn (sessionBeforePending decls options).diagnostics =
        ((turnsOf decls options).filter Turn.isLeftOut).map fun turn => turn.global.name := by
  have hlibrary : (libraryOf decls options).isPatient = false := rfl
  have hresult := run_of_ensures (showGlobals_turns hlibrary decls.globals
    (sessionBeforeVariables decls options)) (libraryOf decls options).naming.moduleName
  obtain ⟨hshown, hbody, hdiagnostics⟩ := hresult
  obtain ⟨hnone, hnone'⟩ := instancesIn_of_spares (spares_sessionBeforeVariables decls options)
  have hparts : shownIn decls options =
      ((showGlobals decls.globals).run (libraryOf decls options).naming.moduleName
        (libraryOf decls options) (sessionBeforeVariables decls options)).1.toOption.getD [] := rfl
  have hsession : sessionBeforePending decls options =
      ((showGlobals decls.globals).run (libraryOf decls options).naming.moduleName
        (libraryOf decls options) (sessionBeforeVariables decls options)).2 := rfl
  -- Before them nothing has been defined or left out.
  rw [hparts, hsession, hshown, hbody, hdiagnostics, hnone, hnone']
  exact ⟨rfl, rfl, rfl⟩

/-- Nothing is said of variables when all have had their turn. -/
theorem spares_sessionAtEnd (decls : Declarations) (options : Options) :
    (sessionBeforePending decls options).SparesVariables (sessionAtEnd decls options) := by
  have hpending := binding_sparesVariables
    (sparesVariables_carries (Scope.all (libraryOf decls options))).emitPending
    (sessionBeforePending decls options)
  have hlist : ∀ names, Preserves (libraryOf decls options)
      (sessionBeforePending decls options).SparesVariables
      (AssemblyM.emit (.notGenerated names)) := fun _ =>
    .emit fun session hs => trans_of Session.SparesVariables hs (session.sparesKinds_emit rfl)
  refine sessionAtEnd_of (emitNotGenerated_maintains _ hlist) ?_
  have hbound := hpending { session := sessionBeforePending decls options }
    (refl_of Session.SparesVariables _)
  rwa [session_binding] at hbound

/-- A module defines the variables whose turns lead to a record, and leaves out the
    others. -/
theorem variables_shown (decls : Declarations) (options : Options) :
    (assemble decls options).instances = (turnsOf decls options).filterMap Turn.instance? ∧
      (assemble decls options).variablesLeftOut =
        ((turnsOf decls options).filter Turn.isLeftOut).map fun turn => turn.global.name := by
  obtain ⟨-, hbody, hdiagnostics⟩ := shown_sessionBeforePending decls options
  obtain ⟨hsame, hsame'⟩ := instancesIn_of_spares (spares_sessionAtEnd decls options)
  exact ⟨hsame.trans hbody, hsame'.trans hdiagnostics⟩

/-- The table of a module is made of the variables that it defines. -/
theorem moduleRows_assemble (decls : Declarations) (options : Options) :
    ∃ own, (assemble decls options).exports.moduleRows =
      moduleRows options.naming (modelOf decls options) (groupsOf decls options) own
        (sessionAtEnd decls options) (assemble decls options).instances := by
  have hrows : (assemble decls options).exports.moduleRows =
      moduleRows options.naming (modelOf decls options) (groupsOf decls options) _
        (sessionAtEnd decls options) (shownIn decls options) := rfl
  rw [(variables_shown decls options).1, ← (shown_sessionBeforePending decls options).1]
  exact ⟨_, hrows⟩

/-- Each declaration of a name defines it or leaves it out. -/
theorem count_turns (all : List Turn) (name : String) :
    ((all.filterMap Turn.instance?).map fun shown => shown.global.name).count name +
        ((all.filter Turn.isLeftOut).map fun turn => turn.global.name).count name =
      (all.map fun turn => turn.global.name).count name := by
  induction all with
  | nil => rfl
  | cons turn rest ih =>
      rw [List.filterMap_cons, List.filter_cons, List.map_cons, List.count_cons, ← ih]
      cases hname : turn.structName? with
      | some structName =>
          rw [Turn.instance?, Turn.isLeftOut, hname]
          simp [List.count_cons, Nat.add_right_comm]
      | none =>
          rw [Turn.instance?, Turn.isLeftOut, hname]
          simp [List.count_cons, Nat.add_assoc]

/-- A variable is defined if one of its turns leads to a record, and left out if one
    does not. -/
theorem mem_definedVariables_iff {name : String} :
    (name ∈ (assemble decls options).definedVariables ↔
        ∃ turn ∈ turnsOf decls options, turn.global.name = name ∧ turn.structName?.isSome) ∧
      (name ∈ (assemble decls options).variablesLeftOut ↔
        ∃ turn ∈ turnsOf decls options, turn.global.name = name ∧ turn.isLeftOut) := by
  obtain ⟨hinstances, hleft⟩ := variables_shown decls options
  rw [Module.definedVariables, hinstances, hleft]
  constructor
  · simp only [List.mem_map, List.mem_filterMap, Turn.instance?, Option.map_eq_some_iff,
      Option.isSome_iff_exists]
    constructor
    · rintro ⟨-, ⟨turn, ht, structName, hs, rfl⟩, rfl⟩
      exact ⟨turn, ht, rfl, structName, hs⟩
    · rintro ⟨turn, ht, rfl, structName, hs⟩
      exact ⟨_, ⟨turn, ht, structName, hs, rfl⟩, rfl⟩
  · simp only [List.mem_map, List.mem_filter]
    constructor
    · rintro ⟨turn, ⟨ht, hs⟩, rfl⟩
      exact ⟨turn, ht, rfl, hs⟩
    · rintro ⟨turn, ht, rfl, hs⟩
      exact ⟨turn, ⟨ht, hs⟩, rfl⟩

/-- Each declaration of a variable has its turn, in order, and the variable is
    defined exactly if a turn leads to a bound record or a typedef of one. It is
    defined or left out once for each declaration, so a variable that is declared
    once is defined at most once, and is not left out when it is defined. -/
theorem variables_defined (decls : Declarations) (options : Options) :
    (turnsOf decls options).map Turn.global = decls.globals ∧
      ∀ name,
        (name ∈ (assemble decls options).definedVariables ↔
          ∃ turn ∈ turnsOf decls options, turn.global.name = name ∧ turn.structName?.isSome) ∧
        (assemble decls options).definedVariables.count name +
            (assemble decls options).variablesLeftOut.count name =
          (decls.globals.map Global.name).count name ∧
        ((decls.globals.map Global.name).count name ≤ 1 →
          (assemble decls options).definedVariables.count name ≤ 1 ∧
            (name ∈ (assemble decls options).definedVariables →
              name ∉ (assemble decls options).variablesLeftOut)) := by
  have hglobals : (turnsOf decls options).map Turn.global = decls.globals :=
    map_global_turns _ _ _
  refine ⟨hglobals, fun name => ?_⟩
  have hcount : (assemble decls options).definedVariables.count name +
      (assemble decls options).variablesLeftOut.count name =
        (decls.globals.map Global.name).count name := by
    obtain ⟨hinstances, hleft⟩ := variables_shown decls options
    rw [Module.definedVariables, hinstances, hleft, count_turns, ← hglobals, List.map_map]
    rfl
  -- A name in both lists would have two declarations.
  refine ⟨mem_definedVariables_iff.1, hcount, fun honce => ⟨by omega, fun hd hl => ?_⟩⟩
  have hd' := List.count_pos_iff.2 hd
  have hl' := List.count_pos_iff.2 hl
  omega

/-- A library with a variable of a record type and one of another type. -/
def recordVariable : Declarations where
  records := .ofRows [("K", ⟨"K", .struct, [⟨"x", .builtin "int", none⟩]⟩)]
  globals := [⟨"k", .named "K"⟩, ⟨"n", .builtin "int"⟩]

set_option maxRecDepth 100000 in
/-- The one is defined, once, and is not left out. -/
theorem recordVariable_defined :
    (recordVariable.globals.map Global.name).count "k" ≤ 1 ∧
      (assemble recordVariable { moduleName := "m" }).definedVariables.count "k" = 1 ∧
      "k" ∉ (assemble recordVariable { moduleName := "m" }).variablesLeftOut := by
  have honce : (recordVariable.globals.map Global.name).count "k" ≤ 1 := by decide
  have hmem : "k" ∈ (assemble recordVariable { moduleName := "m" }).definedVariables := by
    decide +kernel
  obtain ⟨hle, hnot⟩ :=
    ((variables_defined recordVariable { moduleName := "m" }).2 "k").2.2 honce
  exact ⟨honce, Nat.le_antisymm hle (List.count_pos_iff.2 hmem), hnot hmem⟩

/-- A library in which the same variable of a record type is declared twice. -/
def repeatedVariable : Declarations where
  records := .ofRows [("K", ⟨"K", .struct, [⟨"x", .builtin "int", none⟩]⟩)]
  globals := [⟨"k", .named "K"⟩, ⟨"k", .named "K"⟩]

set_option maxRecDepth 100000 in
/-- It is defined twice, as an instance of the one record. -/
theorem repeatedVariable_redefined :
    ¬ (assemble repeatedVariable { moduleName := "m" }).definedVariables.count "k" ≤ 1 ∧
      (assemble repeatedVariable { moduleName := "m" }).instances.map Instance.structName =
        ["K", "K"] := by
  decide +kernel

end Assembling

end ScriptBind
