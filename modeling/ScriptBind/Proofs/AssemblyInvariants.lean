import ScriptBind.Proofs.WrapperInvariants

/-!
# What Putting a Module Together Keeps Up

A module is put together step by step, and each step binds something, writes a
section or takes notes. A property of sessions that binding keeps up, and that
the sections of classes do not disturb, holds when the variables have been
shown; what remains is to write the trampolines that only records mention, and
the list of the functions left out.

The moment before those trampolines are written has a name of its own here,
since what is waiting then is what they are written for.

## Main definitions

* `AssemblyM.Maintains`, `AssemblyM.Preserves`: A property of how far a module
  has come, or of its session, goes through a step.
* `AssemblyM.MaintainsMet`: It does wherever the step is taken as chosen, such as in
  a pass.
* `AssemblyM.Upholds`: A property of sessions goes through all that a module is
  put together from.
* `assembleCallables`: The steps up to the variables.
* `assembleDeclared`: The steps up to the trampolines of records.
* `sessionBeforePending`, `sessionAtEnd`: The sessions before these trampolines
  are written and when everything is.

## Theorems

* `assembleBody_eq`: The steps in two halves.
* `assembleDeclared_met`, `emitPending_met`: The first half, and what follows it, where
  a module is put together as chosen.
* `runs_emitPending`: The last trampolines are written in the pass.
* `sessionAtEnd_of`: A property of the end of a module, from the session before.
* `AssemblyM.Upholds.sessionAtEnd`: The same, from the beginning.
* `Upkeep.sessionBeforePending`, `Upkeep.sessionAtEnd`: What binding keeps up
  holds before and at the end.
-/

namespace ScriptBind

namespace AssemblyM

variable {α β : Type} {library : Library} {P : Progress → Prop}

/-- A property of how far a module has come goes through a step. -/
def Maintains (library : Library) (P : Progress → Prop) (action : AssemblyM α) : Prop :=
  ∀ progress, P progress → P (action library progress).2

/-- A property of how far a module has come goes through a step, wherever it is
    taken as chosen. -/
def MaintainsMet (library : Library) (met : (α : Type) → AssemblyM α → Progress → Prop)
    (P : Progress → Prop) (action : AssemblyM α) : Prop :=
  ∀ progress, met α action progress → P progress → P (progress.after library action)

/-- A property of sessions goes through a step. -/
def Preserves (library : Library) (P : Session → Prop) (action : AssemblyM α) : Prop :=
  ∀ progress, P progress.session → P (action library progress).2.session

theorem Maintains.met {met : (α : Type) → AssemblyM α → Progress → Prop} {action : AssemblyM α}
    (h : Maintains library P action) : MaintainsMet library met P action :=
  fun progress _ => h progress

theorem MaintainsMet.all {action : AssemblyM α}
    (h : MaintainsMet library (fun _ _ _ => True) P action) : Maintains library P action :=
  fun progress => h progress trivial

theorem Maintains.pure (answer : α) : Maintains library P (Pure.pure answer : AssemblyM α) :=
  fun _ h => h

theorem Maintains.bind {action : AssemblyM β} {next : β → AssemblyM α}
    (h : Maintains library P action) (hnext : ∀ answer, Maintains library P (next answer)) :
    Maintains library P (action >>= next) :=
  fun progress hs => hnext _ _ (h progress hs)

theorem Maintains.read : Maintains library P (read : AssemblyM Library) := fun _ h => h

theorem Maintains.get : Maintains library P (get : AssemblyM Progress) := fun _ h => h

theorem Maintains.modify {f : Progress → Progress} (h : ∀ progress, P progress → P (f progress)) :
    Maintains library P (modify f : AssemblyM PUnit) := h

theorem Maintains.forM {β : Type} {f : β → AssemblyM PUnit} (items : List β)
    (h : ∀ item ∈ items, Maintains library P (f item)) : Maintains library P (items.forM f) := by
  induction items with
  | nil => exact .pure _
  | cons item rest ih =>
      show Maintains library P (f item >>= fun _ => rest.forM f)
      exact .bind (h item (List.mem_cons_self ..)) fun _ =>
        ih fun other hm => h other (List.mem_cons_of_mem _ hm)

variable {P : Session → Prop}

theorem Preserves.emit {code : Section} (h : ∀ session, P session → P (session.emit code)) :
    Preserves library P (AssemblyM.emit code) :=
  fun progress hs => h progress.session hs

/-- A step that binds does to the session what the binding does. -/
theorem session_binding (action : BindM α) (library : Library) (progress : Progress) :
    (binding action library progress).2.session =
      (action.run library.naming.moduleName library progress.session).2 := rfl

/-- A step that binds. Where it comes to no end, it leaves the session alone. -/
theorem session_binding_of {action : BindM α} {progress : Progress}
    (h : BindM.Ensures True library action progress.session fun _ session' => P session')
    (hs : P progress.session) : P (binding action library progress).2.session := by
  rw [session_binding, BindM.run]
  unfold BindM.Ensures at h
  split at h
  · next he => rw [he]; exact h
  · next he => rw [he]; exact hs

theorem Preserves.binding {action : BindM α}
    (h : ∀ session, P session →
      BindM.Ensures True library action session fun _ session' => P session') :
    Preserves library P (AssemblyM.binding action) :=
  fun progress hs => session_binding_of (h progress.session hs) hs

end AssemblyM

open AssemblyM

section Steps

variable {library : Library} {met : (α : Type) → AssemblyM α → Progress → Prop}
  {P : Progress → Prop} {functions : List CFunction}

section Trying

variable (hheeds : Heeds library met)
  (htry : ∀ function ∈ functions, MaintainsMet library met P (tryFunction function))

include hheeds htry

theorem methodRows_maintainsMet (object : String) (methods : List String) :
    MaintainsMet library met P (methodRows functions object methods) := by
  induction methods with
  | nil => exact fun _ _ h => h
  | cons method rest ih =>
      intro progress hmet h
      rw [methodRows]
      cases hfind : functions.find? (·.name == method) with
      | none => exact ih progress (hheeds (.skipMethod hfind) hmet) h
      | some function =>
          have hfirst := htry function (List.mem_of_find?_eq_some hfind) progress
            (hheeds (.method hfind) hmet) h
          exact ih _ (hheeds (.nextMethods hfind) hmet) hfirst

theorem moduleFunctions_maintainsMet : MaintainsMet library met P (moduleFunctions functions) := by
  induction functions with
  | nil => exact fun _ _ h => h
  | cons function rest ih =>
      intro progress hmet h
      have hrest := ih fun other ho => htry other (List.mem_cons_of_mem _ ho)
      rw [moduleFunctions]
      show P (progress.after library do
        let wrapped ← if progress.hasTried function then pure none else tryFunction function
        return wrapped.toList.map WrappedFunction.name ++ (← moduleFunctions rest))
      cases htried : progress.hasTried function with
      | true => exact hrest progress (hheeds (.skipFunction htried) hmet) h
      | false =>
          have hfirst := htry function (List.mem_cons_self ..) progress
            (hheeds (.function htried) hmet) h
          exact hrest _ (hheeds (.nextFunctions htried) hmet) hfirst

variable (hemit : ∀ code : Section, code.isOfModule → code.isOfDeclared = false →
  Maintains library P (AssemblyM.emit code))

include hemit

theorem objectTables_maintainsMet (groups : Table EnumGroup) (built : Table (List Row))
    (classes : List ScriptClass) :
    MaintainsMet library met P (objectTables functions groups built classes) := by
  induction classes generalizing built with
  | nil => exact fun _ _ h => h
  | cons cls rest ih =>
      intro progress hmet h
      rw [objectTables, Progress.after_bind]
      -- A table is made of the rows of its methods, and nothing else binds.
      have hrows : P (progress.after library (objectTable functions groups built cls)) :=
        methodRows_maintainsMet hheeds htry cls.name cls.methods progress
          (hheeds .methods (hheeds .object hmet)) h
      exact ih _ _ (hheeds (.nextObjects rfl) hmet) (hemit _ rfl rfl _ hrows)

omit hheeds htry in
theorem emitGroups_maintains (groups : Table EnumGroup) : Maintains library P (emitGroups groups) :=
  .forM _ fun _ _ => hemit _ rfl rfl

omit htry in
theorem emitClasses_maintainsMet (model : ClassModel) (groups : Table EnumGroup)
    (htry : ∀ function ∈ model.functions, MaintainsMet library met P (tryFunction function)) :
    MaintainsMet library met P (emitClasses model groups) := by
  intro progress hmet h
  have htables := objectTables_maintainsMet hheeds htry hemit groups .empty model.inOrder progress
    (hheeds .objects hmet) h
  unfold emitClasses
  have hrest : ∀ tables : List ClassTable, Maintains library P (do
      unless model.classes.isEmpty do
        AssemblyM.emit (.baseType (← read).naming.baseObject)
      return tables) := by
    intro tables
    split
    · exact .pure _
    · exact .bind .read fun _ => .bind (hemit _ rfl rfl) fun _ => .pure _
  exact hrest _ _ htables

end Trying

/-- What goes through the wrapping of a function and does not depend on notes goes
    through trying it. -/
theorem tryFunction_maintainsMet (hheeds : Heeds library met) {function : CFunction}
    (hwrap : MaintainsMet library met P (binding (wrapOrReject function)))
    (hnote : ∀ progress wrapped failed, P progress → P { progress with wrapped, failed }) :
    MaintainsMet library met P (tryFunction function) := by
  have hnoted : ∀ {f : Progress → Progress} (answer : Option WrappedFunction),
      (∀ progress, ∃ wrapped failed, f progress = { progress with wrapped, failed }) →
      Maintains library P (do
        modify f
        return answer : AssemblyM (Option WrappedFunction)) := by
    intro f answer hf
    refine .bind (.modify fun progress hp => ?_) fun _ => .pure _
    obtain ⟨wrapped, failed, he⟩ := hf progress
    rw [he]
    exact hnote progress wrapped failed hp
  intro progress hmet h
  rw [tryFunction, Progress.after_bind]
  show P (progress.after library _)
  split
  · exact h
  · next hwrapped =>
      split
      · exact h
      · next hfailed =>
          have htried : progress.hasTried function = false :=
            Bool.or_eq_false_iff.2
              ⟨Option.isSome_eq_false_iff.2 (Option.isNone_iff_eq_none.2 hwrapped),
                Bool.eq_false_iff.2 hfailed⟩
          have hbound := hwrap progress (hheeds (.wrap htried) hmet) h
          rw [Progress.after_bind]
          split
          · exact hnoted _ (fun _ => ⟨_, _, rfl⟩) _ hbound
          · exact hnoted _ (fun _ => ⟨_, _, rfl⟩) _ hbound

theorem tryFunction_maintains {function : CFunction}
    (hwrap : Maintains library P (binding (wrapOrReject function)))
    (hnote : ∀ progress wrapped failed, P progress → P { progress with wrapped, failed }) :
    Maintains library P (tryFunction function) :=
  (tryFunction_maintainsMet (heeds_all library) hwrap.met hnote).all

theorem tryFunction_preserves {P : Session → Prop}
    (hwrap : ∀ function ∈ library.decls.functions,
      Preserves library P (binding (wrapOrReject function)))
    {function : CFunction} (hf : function ∈ library.decls.functions) :
    Preserves library P (tryFunction function) :=
  tryFunction_maintains (hwrap function hf) fun _ _ _ hs => hs

/-- Writing the list of the functions left out is all that comes last. -/
theorem emitNotGenerated_maintains (functions : List CFunction)
    (hemit : ∀ names, Maintains library P (AssemblyM.emit (.notGenerated names))) :
    Maintains library P (emitNotGenerated functions) := by
  rw [emitNotGenerated]
  refine .bind .get fun progress => ?_
  dsimp only
  split
  · exact .pure _
  · exact hemit _

end Steps

/-- The steps up to the variables: the cell for a pointer, classes and functions. -/
def assembleCallables (model : ClassModel) (groups : Table EnumGroup) :
    AssemblyM (List ClassTable × List String) := do
  let _ ← AssemblyM.binding bindPointerCell
  emitGroups groups
  let objects ← emitClasses model groups
  AssemblyM.emit .functionsHeading
  let functions ← moduleFunctions model.functions
  return (objects, functions)

/-- The steps up to the trampolines that only records mention. -/
def assembleDeclared (model : ClassModel) (groups : Table EnumGroup) :
    AssemblyM (List ClassTable × List String × List Instance) := do
  let library ← read
  let _ ← AssemblyM.binding bindPointerCell
  emitGroups groups
  let objects ← emitClasses model groups
  AssemblyM.emit .functionsHeading
  let functions ← moduleFunctions model.functions
  let shown ← AssemblyM.binding (showGlobals library.decls.globals)
  return (objects, functions, shown.toOption.getD [])

/-- The variables come last of what is declared. -/
theorem after_assembleDeclared (library : Library) (progress : Progress) (model : ClassModel)
    (groups : Table EnumGroup) :
    progress.after library (assembleDeclared model groups) =
      (progress.after library (assembleCallables model groups)).after library
        (binding (showGlobals library.decls.globals)) := rfl

section Halves

variable {library : Library} {met : (α : Type) → AssemblyM α → Progress → Prop}
  {P : Progress → Prop} {model : ClassModel} {groups : Table EnumGroup}

/-- The trampolines of records are written when all that is declared has been. -/
theorem emitPending_met (hheeds : Heeds library met) {progress : Progress}
    (hmet : met Exports (assembleBody model groups) progress) :
    met (Except BindError Unit) (binding emitPending)
      (progress.after library (assembleDeclared model groups)) :=
  hheeds .pending (hheeds .rest hmet)

variable (hemit : ∀ code : Section, code.isOfModule → code.isOfDeclared = false →
  Maintains library P (AssemblyM.emit code))

include hemit

/-- What goes through the binding of the cell and of functions, and through the
    writing of the module's own code, goes through the steps up to the variables. -/
theorem assembleCallables_met (hheeds : Heeds library met)
    (htry : ∀ function ∈ model.functions, MaintainsMet library met P (tryFunction function))
    (hcell : MaintainsMet library met P (binding bindPointerCell)) {progress : Progress}
    (hmet : met Exports (assembleBody model groups) progress) (h : P progress) :
    P (progress.after library (assembleCallables model groups)) := by
  have hbound : P (progress.after library (binding bindPointerCell)) :=
    hcell progress (hheeds .cell hmet) h
  have hgroups := emitGroups_maintains hemit groups _ hbound
  have hclasses := emitClasses_maintainsMet hheeds hemit model groups htry _
    (hheeds .classes hmet) hgroups
  have hheading := hemit .functionsHeading rfl rfl _ hclasses
  exact moduleFunctions_maintainsMet hheeds htry _ (hheeds .functions hmet) hheading

theorem assembleCallables_maintains
    (htry : ∀ function ∈ model.functions, Maintains library P (tryFunction function))
    (hcell : Maintains library P (binding bindPointerCell)) :
    Maintains library P (assembleCallables model groups) := fun _ h =>
  assembleCallables_met hemit (heeds_all library) (fun function hf => (htry function hf).met)
    hcell.met trivial h

/-- What goes through the binding of the cell, of functions and of variables, and
    through the writing of the module's own code, goes through the first half. -/
theorem assembleDeclared_met (hheeds : Heeds library met)
    (htry : ∀ function ∈ model.functions, MaintainsMet library met P (tryFunction function))
    (hcell : MaintainsMet library met P (binding bindPointerCell))
    (hshow : MaintainsMet library met P (binding (showGlobals library.decls.globals)))
    {progress : Progress} (hmet : met Exports (assembleBody model groups) progress)
    (h : P progress) : P (progress.after library (assembleDeclared model groups)) := by
  have hcallables := assembleCallables_met hemit hheeds htry hcell hmet h
  rw [after_assembleDeclared]
  exact hshow _ (hheeds .globals (hheeds .rest hmet)) hcallables

theorem assembleDeclared_maintains
    (htry : ∀ function ∈ model.functions, Maintains library P (tryFunction function))
    (hcell : Maintains library P (binding bindPointerCell))
    (hshow : Maintains library P (binding (showGlobals library.decls.globals))) :
    Maintains library P (assembleDeclared model groups) := fun _ h =>
  assembleDeclared_met hemit (heeds_all library) (fun function hf => (htry function hf).met)
    hcell.met hshow.met trivial h

end Halves

/-- A property of sessions goes through all that a module is put together from, up
    to the trampolines that only records mention. -/
structure AssemblyM.Upholds (library : Library) (P : Session → Prop) : Prop where
  /-- What a module writes by itself. -/
  emit : ∀ session code, code.isOfModule → P session → P (session.emit code)
  /-- Functions. -/
  wrap : ∀ function ∈ library.decls.functions,
    Preserves library P (binding (wrapOrReject function))
  /-- The cell for a pointer. -/
  cell : Preserves library P (binding bindPointerCell)
  /-- Variables. -/
  globals : Preserves library P (binding (showGlobals library.decls.globals))

theorem AssemblyM.Upholds.assembleDeclared {library : Library} {P : Session → Prop}
    (h : Upholds library P) {model : ClassModel} {groups : Table EnumGroup}
    (hfs : ∀ function ∈ model.functions, function ∈ library.decls.functions) :
    Preserves library P (ScriptBind.assembleDeclared model groups) :=
  assembleDeclared_maintains (fun _ hp _ => Preserves.emit fun session => h.emit session _ hp)
    (fun function hf => tryFunction_preserves h.wrap (hfs function hf)) h.cell h.globals

/-- A module is put together in two halves. -/
theorem assembleBody_eq (model : ClassModel) (groups : Table EnumGroup) :
    assembleBody model groups = do
      let library ← read
      let parts ← assembleDeclared model groups
      let _ ← AssemblyM.binding emitPending
      emitNotGenerated model.functions
      let progress ← get
      return {
        classes := groups.values.map EnumGroup.table ++ parts.1
        moduleRows := moduleRows library.naming model groups parts.2.1 progress.session parts.2.2
        functions := progress.wrapped } := rfl

/-- What goes through both halves, and does not depend on notes, goes through
    putting a module together. -/
theorem assembleBody_maintains {library : Library} {P : Progress → Prop} {model : ClassModel}
    {groups : Table EnumGroup}
    (hnote : ∀ progress wrapped failed, P progress → P { progress with wrapped, failed })
    (hemit : ∀ code : Section, code.isOfModule → Maintains library P (AssemblyM.emit code))
    (hwrap : ∀ function ∈ model.functions, Maintains library P (binding (wrapOrReject function)))
    (hcell : Maintains library P (binding bindPointerCell))
    (hshow : Maintains library P (binding (showGlobals library.decls.globals)))
    (hpending : Maintains library P (binding emitPending)) :
    Maintains library P (assembleBody model groups) := by
  have htry : ∀ function ∈ model.functions, Maintains library P (tryFunction function) :=
    fun function hf => tryFunction_maintains (hwrap function hf) hnote
  rw [assembleBody_eq]
  refine .bind .read fun _ => .bind ?_ fun _ => ?_
  · exact assembleDeclared_maintains (fun code hp _ => hemit code hp) htry hcell hshow
  · exact .bind hpending fun _ => .bind (emitNotGenerated_maintains _ fun _ => hemit _ rfl) fun _ =>
      .bind .get fun _ => .pure _

/-- The session before the trampolines are written that only records mention. -/
def sessionBeforePending (decls : Declarations) (options : Options) : Session :=
  (assembleDeclared (modelOf decls options) (groupsOf decls options) (libraryOf decls options)
    { session := .start options.naming }).2.session

/-- The session when a module is complete. -/
def sessionAtEnd (decls : Declarations) (options : Options) : Session :=
  (assembleBody (modelOf decls options) (groupsOf decls options) (libraryOf decls options)
    { session := .start options.naming }).2.session

theorem body_assemble (decls : Declarations) (options : Options) :
    (assemble decls options).body = (sessionAtEnd decls options).body := rfl

theorem diagnostics_assemble (decls : Declarations) (options : Options) :
    (assemble decls options).diagnostics = (sessionAtEnd decls options).diagnostics := rfl

variable {decls : Declarations} {options : Options}

theorem emitNotGenerated_preserves {P : Session → Prop} (functions : List CFunction)
    (hemit : ∀ session code, code.isOfModule → P session → P (session.emit code)) :
    Preserves library P (emitNotGenerated functions) :=
  emitNotGenerated_maintains functions fun _ => Preserves.emit fun session => hemit session _ rfl

/-- What the list of the functions left out does not disturb holds at the end if
    it holds after the last trampolines. -/
theorem sessionAtEnd_of {P : Session → Prop}
    (hlast : Preserves (libraryOf decls options) P
      (emitNotGenerated (modelOf decls options).functions))
    (h : P (BindM.run emitPending (libraryOf decls options).naming.moduleName
      (libraryOf decls options) (sessionBeforePending decls options)).2) :
    P (sessionAtEnd decls options) := by
  rw [sessionBeforePending, ← session_binding] at h
  rw [sessionAtEnd, assembleBody_eq]
  exact hlast _ h

section Upholding

variable {P : Session → Prop} (h : AssemblyM.Upholds (libraryOf decls options) P)

include h

/-- What is upheld from the beginning holds before the trampolines of records are
    written. -/
theorem AssemblyM.Upholds.sessionBeforePending (hstart : P (.start options.naming)) :
    P (ScriptBind.sessionBeforePending decls options) := by
  have hdeclared : Preserves (libraryOf decls options) P
      (ScriptBind.assembleDeclared (modelOf decls options) (groupsOf decls options)) :=
    h.assembleDeclared fun _ => mem_functions_of_modelOf
  exact hdeclared _ hstart

/-- If these preserve it, it holds at the end. -/
theorem AssemblyM.Upholds.sessionAtEnd
    (hpending : Preserves (libraryOf decls options) P (binding emitPending))
    (hstart : P (.start options.naming)) : P (ScriptBind.sessionAtEnd decls options) := by
  have hbefore := h.sessionBeforePending hstart
  refine sessionAtEnd_of (emitNotGenerated_preserves _ h.emit) ?_
  have hbound := hpending { session := ScriptBind.sessionBeforePending decls options } hbefore
  rwa [session_binding] at hbound

end Upholding

theorem runs_emitPending (decls : Declarations) (options : Options) :
    (passOf decls options).Runs emitPending (sessionBeforePending decls options) :=
  .step (emitPending_met (passOf decls options).heeds_takes .start)

/-- What is kept up by all that binds holds before the trampolines of records are
    written. -/
theorem Upkeep.sessionBeforePending (I : Upkeep (passOf decls options))
    (hopen : ∀ id, I.isOpen id) (hstart : I.holds (.start options.naming)) :
    I.Kept (ScriptBind.sessionBeforePending decls options) := by
  have hheeds : Heeds (libraryOf decls options) fun _ => (passOf decls options).Takes :=
    (passOf decls options).heeds_takes
  have hbinding : ∀ {α : Type} {action : BindM α}, I.Sustains action →
      MaintainsMet (libraryOf decls options) (fun _ => (passOf decls options).Takes)
        (fun progress => I.Kept progress.session) (AssemblyM.binding action) :=
    fun h progress htakes hk =>
      session_binding_of ((h _ (.step htakes)).mono fun _ _ hkeep => hkeep hk) hk
  have hemit : ∀ code : Section, code.isOfModule → code.isOfDeclared = false →
      Preserves (libraryOf decls options) I.Kept (AssemblyM.emit code) := fun _ hp _ =>
    .emit fun _ h => h.emit (Section.isPlain_of_isOfModule hp)
  have htry : ∀ function ∈ (passOf decls options).model.functions,
      MaintainsMet (libraryOf decls options) (fun _ => (passOf decls options).Takes)
        (fun progress => I.Kept progress.session) (tryFunction function) := fun function hf =>
    tryFunction_maintainsMet hheeds
      (hbinding (I.wrapOrReject hopen ((passOf decls options).declared function hf)))
      fun _ _ _ h => h
  exact assembleDeclared_met hemit hheeds htry (hbinding I.bindPointerCell)
    (hbinding (I.showGlobals _)) .start ⟨Session.accountable_start _ _, hstart⟩

section Stubs

open BindM

variable {library : Library} {pass : Pass library} (I : Upkeep pass)
  (hopen : ∀ id, I.isOpen id)
  (hstub : ∀ {session : Session} {callback : Callback} {error : BindError}, I.holds session →
    Vouched library callback.name callback →
    Blamed pass session.diagnostics callback.name error →
    I.holds ((session.emit (.stub callback)).reject (callbackDiagnostic callback error)))

include hopen hstub

/-- One callback that waits gets its trampoline, or a stub. -/
theorem Upkeep.emitOrStub {callback : Callback} (hv : Vouched library callback.name callback) :
    I.Sustains (ScriptBind.emitOrStub callback) := by
  refine sustains_of fun session hrun h => ?_
  rw [ScriptBind.emitOrStub, ensures_bind, ensures_attempt]
  refine (emitCallback hv (hopen _) session (hrun.call .orStub) h).mono
    fun result session' hall => ?_
  obtain ⟨⟨hk, -⟩, hstate⟩ := hall
  cases result with
  | ok _ => exact hk
  | error error =>
      dsimp only
      rw [ensures_update]
      exact ⟨(hk.1.emit _).reject _, hstub hk.2 hv (hk.1.failed _ _ hstate)⟩

/-- So do all of them, one after another. -/
theorem Upkeep.forM_emitOrStub {waiting : List Callback}
    (hv : ∀ callback ∈ waiting, Vouched library callback.name callback) :
    I.Sustains (waiting.forM ScriptBind.emitOrStub) := by
  induction waiting with
  | nil => exact fun _ _ h => h
  | cons callback rest ih =>
      intro session hrun
      show Ensures True library (ScriptBind.emitOrStub callback >>= fun _ =>
        rest.forM ScriptBind.emitOrStub) session _
      rw [ensures_bind]
      have hfirst := I.emitOrStub hopen hstub (hv callback (List.mem_cons_self ..)) session
        (hrun.call .trampoline)
      refine hfirst.withOutcome.mono fun result session' hall => ?_
      cases result with
      | error error => exact hall.1
      | ok _ =>
          have hrest := ih (fun other ho => hv other (List.mem_cons_of_mem _ ho)) session'
            (hrun.call (.nextTrampolines hall.2))
          exact hrest.mono fun _ _ hk h => hk (hall.1 h)

end Stubs

open BindM in
/-- What is kept up by all that binds, and by stubs, holds when a module is
    complete. -/
theorem Upkeep.sessionAtEnd (I : Upkeep (passOf decls options)) (hopen : ∀ id, I.isOpen id)
    (hstub : ∀ {session : Session} {callback : Callback} {error : BindError}, I.holds session →
      Vouched (libraryOf decls options) callback.name callback →
      Blamed (passOf decls options) session.diagnostics callback.name error →
      I.holds ((session.emit (.stub callback)).reject (callbackDiagnostic callback error)))
    (hstart : I.holds (.start options.naming)) :
    I.Kept (ScriptBind.sessionAtEnd decls options) := by
  have hbefore := I.sessionBeforePending hopen hstart
  refine sessionAtEnd_of
    (emitNotGenerated_preserves _ fun _ _ hp h => h.emit (Section.isPlain_of_isOfModule hp)) ?_
  have hpending : Ensures True (libraryOf decls options) emitPending
      (ScriptBind.sessionBeforePending decls options) fun _ session' => I.Kept session' := by
    rw [emitPending, ensures_bind, ensures_look]
    have hv : ∀ callback ∈ (ScriptBind.sessionBeforePending decls options).pendingCallbacks,
        Vouched (libraryOf decls options) callback.name callback := by
      intro callback hc
      obtain ⟨id, hid⟩ := Session.mem_pendingCallbacks.1 hc
      have hv := hbefore.1.vouching.pending id callback hid
      rwa [← hv.name] at hv
    have hall := I.forM_emitOrStub hopen hstub hv _ ((runs_emitPending decls options).call .pending)
    exact hall.mono fun _ _ hk => hk hbefore
  rw [BindM.run]
  unfold Ensures at hpending
  split at hpending
  · next he => rw [he]; exact hpending
  · next he => rw [he]; exact hbefore

end ScriptBind
