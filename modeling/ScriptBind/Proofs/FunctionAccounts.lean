import ScriptBind.Proofs.ClassTables
import ScriptBind.Proofs.FunctionNotes
import ScriptBind.Proofs.FunctionPlaces
import ScriptBind.Proofs.Lineage
import ScriptBind.Proofs.SectionNames

/-!
# Every Function Is Accounted For

Of each function of a library it can be told what became of it. It creates the
objects of a class, or it has a wrapper, or a diagnostic says why it has none.
No two of these are true of one name, whether the name stands for one function
or for several and however many classes have it for a method.

The functions that create objects are those whose constructors are confirmed,
and they are kept from being tried. All others are tried, from the classes that
have them for methods or from the module, and what came of it is noted. The
tables are filled from the notes, and the notes tell what is written.

## Main definitions

* `Module.Constructs`, `Module.LeavesOut`: What became of a function.
* `Module.wrappersOf`, `Module.refusalsOf`: What is written of a function.
* `Module.Accounts`: What a module is to tell of functions.

## Theorems

* `constructs_iff`: The functions that construct classes are the confirmed
  constructors.
* `wrappers_assemble`: The wrappers in the code are those exported.
* `definesWrapper_assemble`: The text defines them.
* `named_assemble`: What can have become of a function.
* `functions_accounted`: A module gives account of all functions.
-/

namespace ScriptBind

open BindM AssemblyM

section Constructors

/-- The object that a function creates tells the function's name. -/
theorem eq_constructorName {naming : Naming} {name object : String}
    (h : naming.constructorObject? name = some object) : name = naming.constructorName object := by
  obtain ⟨hbetween, -⟩ := Option.filter_eq_some_iff.1 h
  obtain ⟨rest, hlead, htail⟩ := Option.bind_eq_some_iff.1 hbetween
  rw [Text.dropPrefix?_eq_some_iff.1 hlead, Text.dropSuffix?_eq_some_iff.1 htail,
    Naming.constructorName, Naming.inScope_eq_leading_append]

theorem constructors_modify {classes : Table ScriptClass} {f : String → ScriptClass → ScriptClass}
    (hf : ∀ name cls, (f name cls).constructor = cls.constructor) :
    (classes.modify f).values.map ScriptClass.constructor =
      classes.values.map ScriptClass.constructor := by
  rw [Table.values, Table.modify, List.map_map, List.map_map, Table.values, List.map_map]
  exact List.map_congr_left fun row _ => hf row.1 row.2

/-- Narrowing leaves the constructors alone. -/
theorem constructors_narrow (decls : Declarations) (naming : Naming) (classes : Table ScriptClass) :
    (narrow decls naming classes).values.map ScriptClass.constructor =
      classes.values.map ScriptClass.constructor := by
  unfold narrow
  generalize extensionParents decls naming classes = claims
  induction claims generalizing classes with
  | nil => rfl
  | cons claim rest ih =>
      rw [List.foldl_cons, ih, narrowParent]
      split
      · rfl
      · refine constructors_modify fun name cls => ?_
        split <;> rfl

/-- A confirmed constructor is a function of the library that is named after its
    object. -/
theorem of_mem_constructors {decls : Declarations} {naming : Naming} {exclude : List String}
    {candidate : Candidate} (h : candidate ∈ constructors decls naming exclude) :
    candidate.function ∈ decls.functions ∧
      candidate.function.name = naming.constructorName candidate.object := by
  obtain ⟨function, hf, hkept⟩ := List.mem_filterMap.1 (List.mem_filter.1 h).1
  split at hkept
  · next object ho =>
      split at hkept
      · cases hkept
      · rw [← Option.some.inj hkept]
        exact ⟨hf, eq_constructorName ho⟩
  · cases hkept

/-- The constructors of the classes of a library are those that are confirmed. Of
    several for one object only the first counts, but they have one name. -/
theorem mem_constructors_constructedClasses {decls : Declarations} {naming : Naming}
    {exclude : List String} {name : String} :
    some name ∈ (constructedClasses naming (constructors decls naming exclude)).values.map
        ScriptClass.constructor ↔
      name ∈ (constructors decls naming exclude).map (·.function.name) := by
  constructor
  · intro hm
    obtain ⟨cls, hcls, hconstructor⟩ := List.mem_map.1 hm
    obtain ⟨row, hrow, rfl⟩ := List.mem_map.1 hcls
    rcases constructedClasses_cases hrow with ⟨candidate, hc, rfl⟩ | rfl
    · exact List.mem_map.2 ⟨candidate, hc, Option.some.inj hconstructor⟩
    · cases hconstructor
  · intro hm
    obtain ⟨candidate, hc, rfl⟩ := List.mem_map.1 hm
    -- The class has the first of them for its constructor.
    obtain ⟨first, hf, hobject, hrow⟩ :
        ∃ first ∈ constructors decls naming exclude, first.object = candidate.object ∧ _ :=
      exists_constructedClass hc
    refine List.mem_map.2 ⟨_, List.mem_map_of_mem hrow, ?_⟩
    show some first.function.name = _
    rw [(of_mem_constructors hc).2, (of_mem_constructors hf).2, hobject]

variable {decls : Declarations} {options : Options}

/-- The classes of a module are constructed by the confirmed constructors. -/
theorem mem_constructors_modelOf {name : String} :
    (∃ cls ∈ (modelOf decls options).classes.values, cls.constructor = some name) ↔
      name ∈ (constructors decls options.naming options.exclude).map (·.function.name) := by
  rw [← mem_constructors_constructedClasses, ← List.mem_map]
  have hattach : (modelOf decls options).classes.values.map ScriptClass.constructor =
      (ClassModel.ofDeclarations decls options.naming options.exclude
        options.narrowed).classes.values.map ScriptClass.constructor :=
    constructors_modify fun _ _ => rfl
  have hmethods : ∀ f : ScriptClass → List String,
      ((constructedClasses options.naming
        (constructors decls options.naming options.exclude)).modify
        fun _ cls => { cls with methods := f cls }).values.map ScriptClass.constructor =
      (constructedClasses options.naming (constructors decls options.naming
        options.exclude)).values.map ScriptClass.constructor :=
    fun f => constructors_modify fun _ _ => rfl
  rw [hattach, ClassModel.ofDeclarations]
  dsimp only
  split
  · rw [constructors_narrow, hmethods]
  · rw [hmethods]

/-- The functions of a module are those of the library that construct no class. -/
theorem mem_functions_modelOf {name : String} :
    name ∈ (modelOf decls options).functions.map CFunction.name ↔
      name ∈ decls.functions.map CFunction.name ∧
        name ∉ (constructors decls options.naming options.exclude).map (·.function.name) := by
  have hfunctions : (modelOf decls options).functions = decls.functions.filter fun function =>
      !((constructors decls options.naming options.exclude).map (·.function.name)).contains
        function.name := rfl
  rw [hfunctions]
  constructor
  · intro hm
    obtain ⟨function, hf, rfl⟩ := List.mem_map.1 hm
    obtain ⟨hdeclared, hfree⟩ := List.mem_filter.1 hf
    exact ⟨List.mem_map_of_mem hdeclared, by simpa using hfree⟩
  · rintro ⟨hm, hfree⟩
    obtain ⟨function, hf, rfl⟩ := List.mem_map.1 hm
    exact List.mem_map_of_mem (List.mem_filter.2 ⟨hf, by simpa using hfree⟩)

theorem constructors_declared {name : String}
    (h : name ∈ (constructors decls options.naming options.exclude).map (·.function.name)) :
    name ∈ decls.functions.map CFunction.name := by
  obtain ⟨candidate, hc, rfl⟩ := List.mem_map.1 h
  exact List.mem_map_of_mem (of_mem_constructors hc).1

end Constructors

namespace Module

/-- A function creates the objects of a class. -/
def Constructs (module : Module) (function : String) : Prop :=
  ∃ table ∈ module.exports.classes, table.constructor = some function

/-- A diagnostic says that a function is left out. -/
def LeavesOut (module : Module) (function : String) : Prop :=
  ∃ diagnostic ∈ module.diagnostics, diagnostic.kind = .function ∧ diagnostic.name = function

/-- The wrappers of a function in the code. -/
def wrappersOf (module : Module) (function : String) : List Wrapper :=
  (module.body.filterMap Section.wrapper?).filter (·.function.name == function)

/-- The diagnostics that say that a function is left out. -/
def refusalsOf (module : Module) (function : String) : List Diagnostic :=
  module.diagnostics.filter fun diagnostic =>
    diagnostic.kind == .function && diagnostic.name == function

/-- The code ends with the list of the functions left out, if there are any, and
    has no such list otherwise. -/
def ListsLeftOut (module : Module) : Prop :=
  ((∀ name, ¬module.LeavesOut name) ∧ ∀ names, .notGenerated names ∉ module.body) ∨
    ∃ front names, module.body = front ++ [.notGenerated names] ∧
      (∀ others, .notGenerated others ∉ front) ∧ ∀ name, name ∈ names ↔ module.LeavesOut name

/-- A module gives account of functions. -/
structure Accounts (module : Module) (functions : List CFunction) : Prop where
  /-- Each of them constructs a class, has a wrapper or is left out. -/
  named : ∀ name, name ∈ functions.map CFunction.name ↔
    module.Constructs name ∨ name ∈ module.exports.functions.names ∨ module.LeavesOut name
  /-- What constructs a class has no wrapper. -/
  constructs : ∀ name, module.Constructs name → name ∉ module.exports.functions.names
  /-- What is left out does not construct a class and has no wrapper. -/
  leavesOut : ∀ name, module.LeavesOut name →
    ¬module.Constructs name ∧ name ∉ module.exports.functions.names
  /-- What has a wrapper has one in the code. -/
  wrapper : ∀ name ∈ module.exports.functions.names, (module.wrappersOf name).length = 1
  /-- The text of the module defines it, and the object that stands for it. -/
  text : ∀ name ∈ module.exports.functions.names, DefinesWrapper module.lines name
  /-- What is left out has none, and there is one diagnostic. -/
  refusal : ∀ name, module.LeavesOut name →
    module.wrappersOf name = [] ∧ (module.refusalsOf name).length = 1
  /-- No table leads to it. -/
  unreached : ∀ name, module.LeavesOut name →
    ¬module.exports.HasMethod name ∧ ¬module.exports.HasFunction name
  /-- It is listed at the end, and nothing else is. -/
  listed : module.ListsLeftOut

end Module

section Account

variable {decls : Declarations} {options : Options}

theorem filterMap_wrapper? (body : List Section) :
    (body.filter Section.isOfFunctions).filterMap Section.wrapper? =
      body.filterMap Section.wrapper? := by
  induction body with
  | nil => rfl
  | cons code rest ih =>
      cases code with
      | wrapper wrapper =>
          rw [List.filter_cons_of_pos rfl, List.filterMap_cons, List.filterMap_cons, ih]
      | notGenerated names => exact ih
      | _ => exact ih

/-- The wrappers in the code are those exported, in the same order. -/
theorem wrappers_assemble (decls : Declarations) (options : Options) :
    ((assemble decls options).body.filterMap Section.wrapper?).map Wrapper.wrapped =
      (assemble decls options).exports.functions.values := by
  obtain ⟨middle, hfollows⟩ := follows_progressAtEnd decls options
  obtain ⟨before, hbefore, hwrapped, -, names, -, hend⟩ := accounted_progressAtEnd decls options
  obtain ⟨wrappers, hbody, hvalues⟩ := hbefore.wrappers
  -- After the notes only the list of functions left out is written, and it is no wrapper.
  have hown : before.session.body.filterMap Section.wrapper? = wrappers := by
    rw [← filterMap_wrapper?, hbody, List.filterMap_map]
    exact List.filterMap_some ..
  have hsame : (assemble decls options).body.filterMap Section.wrapper? = wrappers := by
    rw [body_assemble, hend]
    split
    · exact hown
    · rw [Session.emit, List.filterMap_append, hown]
      exact List.append_nil _
  rw [hsame, hvalues, hwrapped, hfollows.functions]

/-- They are listed under the names of their functions. -/
theorem names_wrappers_assemble (decls : Declarations) (options : Options) :
    ((assemble decls options).body.filterMap Section.wrapper?).map (·.function.name) =
      (assemble decls options).exports.functions.names := by
  obtain ⟨middle, hfollows⟩ := follows_progressAtEnd decls options
  have hnames : (assemble decls options).exports.functions.values.map WrappedFunction.name =
      (assemble decls options).exports.functions.names := by
    rw [Table.values, List.map_map, Table.names, hfollows.functions]
    exact List.map_congr_left fun row hrow => hfollows.sound.named _ _ (Table.get?_of_mem hrow)
  rw [← hnames, ← wrappers_assemble, List.map_map]
  rfl

/-- The text of the module defines every wrapper that is exported. -/
theorem definesWrapper_assemble {name : String}
    (h : name ∈ (assemble decls options).exports.functions.names) :
    DefinesWrapper (assemble decls options).lines name := by
  rw [← names_wrappers_assemble] at h
  obtain ⟨wrapper, hwrapper, rfl⟩ := List.mem_map.1 h
  obtain ⟨code, hcode, hc⟩ := List.mem_filterMap.1 hwrapper
  cases code with
  | wrapper other =>
      obtain rfl := Option.some.inj hc
      obtain ⟨⟨line, hline, hdefines⟩, count, hobject⟩ :=
        other.defines_lines (assemble decls options).naming.moduleName
      exact ⟨⟨line, Module.mem_lines hcode hline, hdefines⟩, count, Module.mem_lines hcode hobject⟩
  | _ => cases hc

/-- How many items of a list have a name, if no two have the same. -/
theorem length_filter_name {α : Type} {f : α → String} {items : List α} (hd : (items.map f).Nodup)
    (name : String) :
    (items.filter (f · == name)).length = if name ∈ items.map f then 1 else 0 := by
  rw [← List.countP_eq_length_filter, ← hd.count, List.count, List.countP_map]
  rfl

/-- An item with a name of its own is the first of that name. -/
theorem find?_name {α : Type} {f : α → String} {items : List α} (hd : (items.map f).Nodup)
    {item : α} (hm : item ∈ items) : items.find? (f · == f item) = some item := by
  refine List.find?_eq_some_iff_append.2 ⟨by simp, ?_⟩
  obtain ⟨front, back, rfl⟩ := List.append_of_mem hm
  refine ⟨front, back, rfl, fun other ho => ?_⟩
  rw [List.map_append, List.map_cons, List.nodup_append] at hd
  simpa using hd.2.2 (f other) (List.mem_map_of_mem ho) (f item) (List.mem_cons_self ..)

theorem length_wrappersOf (decls : Declarations) (options : Options) (name : String) :
    ((assemble decls options).wrappersOf name).length =
      if name ∈ (assemble decls options).exports.functions.names then 1 else 0 := by
  have hnames := names_wrappers_assemble decls options
  rw [Module.wrappersOf, ← hnames]
  exact length_filter_name (hnames ▸ (assemble decls options).exports.functions.distinct) name

/-- The diagnostics for functions are for those that have failed. -/
theorem names_refusals_assemble (decls : Declarations) (options : Options) :
    ((assemble decls options).diagnostics.filter Diagnostic.isOfFunction).map Diagnostic.name =
        (progressAtEnd decls options).failed ∧
      (progressAtEnd decls options).failed.Nodup := by
  obtain ⟨before, hbefore, -, hfailed, names, -, hend⟩ := accounted_progressAtEnd decls options
  refine ⟨?_, hfailed ▸ hbefore.once⟩
  have hsame : (sessionAtEnd decls options).diagnostics = before.session.diagnostics := by
    rw [hend]
    split <;> rfl
  rw [diagnostics_assemble, hsame, hbefore.diagnostics, hfailed]

theorem leavesOut_iff {name : String} :
    (assemble decls options).LeavesOut name ↔ name ∈ (progressAtEnd decls options).failed := by
  rw [← (names_refusals_assemble decls options).1, List.mem_map]
  refine exists_congr fun diagnostic => ?_
  rw [List.mem_filter, Diagnostic.isOfFunction, beq_iff_eq, and_assoc]

theorem length_refusalsOf (decls : Declarations) (options : Options) (name : String) :
    ((assemble decls options).refusalsOf name).length =
      if name ∈ (progressAtEnd decls options).failed then 1 else 0 := by
  obtain ⟨hnames, hnodup⟩ := names_refusals_assemble decls options
  have hsplit : (assemble decls options).refusalsOf name =
      ((assemble decls options).diagnostics.filter Diagnostic.isOfFunction).filter
        (·.name == name) := by
    rw [Module.refusalsOf, List.filter_filter]
    exact List.filter_congr fun diagnostic _ => Bool.and_comm ..
  rw [hsplit, ← hnames]
  exact length_filter_name (hnames ▸ hnodup) name

/-- A function that constructs a class is a confirmed constructor. -/
theorem constructs_iff {name : String} :
    (assemble decls options).Constructs name ↔
      name ∈ (constructors decls options.naming options.exclude).map (·.function.name) := by
  obtain ⟨objects, hclasses, hobjects⟩ := classes_assemble decls options
  rw [← mem_constructors_modelOf, Module.Constructs, hclasses]
  constructor
  · rintro ⟨table, htable, hconstructor⟩
    rcases List.mem_append.1 htable with htable | htable
    · obtain ⟨group, -, rfl⟩ := List.mem_map.1 htable
      cases hconstructor
    · obtain ⟨cls, hcls, hportrays⟩ := exists_of_forall₂ hobjects.flip htable
      exact ⟨cls, mem_inOrder_iff.1 hcls, hportrays.constructor ▸ hconstructor⟩
  · rintro ⟨cls, hcls, hconstructor⟩
    obtain ⟨table, htable, hportrays⟩ := exists_of_forall₂ hobjects (mem_inOrder_iff.2 hcls)
    exact ⟨table, List.mem_append_right _ htable, hportrays.constructor.trans hconstructor⟩

/-- The list of functions left out is written last, if there are any. -/
theorem listsLeftOut_assemble (decls : Declarations) (options : Options) :
    (assemble decls options).ListsLeftOut := by
  obtain ⟨middle, hfollows⟩ := follows_progressAtEnd decls options
  obtain ⟨before, hbefore, -, hfailed, names, hnames, hend⟩ := accounted_progressAtEnd decls options
  obtain ⟨wrappers, hbody, -⟩ := hbefore.wrappers
  have hnone : ∀ others, .notGenerated others ∉ before.session.body := by
    intro others hm
    have hkept : .notGenerated others ∈ before.session.body.filter Section.isOfFunctions :=
      List.mem_filter.2 ⟨hm, rfl⟩
    rw [hbody] at hkept
    obtain ⟨wrapper, -, he⟩ := List.mem_map.1 hkept
    cases he
  -- Whatever has failed is a function of the module, so the list has all of it.
  have hlisted : ∀ name, name ∈ names ↔ (assemble decls options).LeavesOut name := by
    intro name
    rw [hnames, List.mem_filter, List.contains_iff_mem, hfailed, leavesOut_iff]
    exact ⟨And.right, fun hm => ⟨hfollows.sound.known name (Or.inr hm), hm⟩⟩
  rw [Module.ListsLeftOut, body_assemble, hend]
  split
  · next hempty =>
      rw [List.isEmpty_iff] at hempty
      refine Or.inl ⟨fun name hl => ?_, hnone⟩
      have hm := (hlisted name).2 hl
      rw [hempty] at hm
      cases hm
  · exact Or.inr ⟨before.session.body, names, rfl, hnone, hlisted⟩

/-- The functions exported are those noted with a wrapper. -/
theorem mem_exported_iff {name : String} :
    name ∈ (assemble decls options).exports.functions.names ↔
      (progressAtEnd decls options).wrapped.contains name := by
  obtain ⟨middle, hfollows⟩ := follows_progressAtEnd decls options
  rw [hfollows.functions]
  exact Table.mem_names_iff

/-- What has been tried is a function of the module, so it constructs nothing. -/
theorem not_constructs_of_tried {name : String} (h : (progressAtEnd decls options).Tried name) :
    ¬(assemble decls options).Constructs name := by
  obtain ⟨middle, hfollows⟩ := follows_progressAtEnd decls options
  exact fun hc => (mem_functions_modelOf.1 (hfollows.sound.known name h)).2 (constructs_iff.1 hc)

/-- What is left out has no wrapper. -/
theorem not_exported_of_leavesOut {name : String} (h : (assemble decls options).LeavesOut name) :
    name ∉ (assemble decls options).exports.functions.names := by
  obtain ⟨middle, hfollows⟩ := follows_progressAtEnd decls options
  intro hm
  have hnot := hfollows.sound.apart name (leavesOut_iff.1 h)
  rw [mem_exported_iff.1 hm] at hnot
  cases hnot

/-- Every function of a library constructs a class, has a wrapper or is left
    out. -/
theorem named_assemble (decls : Declarations) (options : Options) (name : String) :
    name ∈ decls.functions.map CFunction.name ↔
      (assemble decls options).Constructs name ∨
        name ∈ (assemble decls options).exports.functions.names ∨
        (assemble decls options).LeavesOut name := by
  obtain ⟨middle, hfollows⟩ := follows_progressAtEnd decls options
  constructor
  · intro hm
    by_cases hc : (assemble decls options).Constructs name
    · exact Or.inl hc
    · -- It is a function of the module, and all of these have been tried.
      have htried := hfollows.complete name
        (mem_functions_modelOf.2 ⟨hm, fun hused => hc (constructs_iff.2 hused)⟩)
      exact Or.inr (htried.imp mem_exported_iff.2 leavesOut_iff.2)
  · rintro (hc | hw | hl)
    · exact constructors_declared (constructs_iff.1 hc)
    · exact (mem_functions_modelOf.1 (hfollows.mem_names hw).2).1
    · exact (mem_functions_modelOf.1 (hfollows.sound.known name (Or.inr (leavesOut_iff.1 hl)))).1

/-- No table leads to what is left out. -/
theorem unreached_of_leavesOut {name : String} (h : (assemble decls options).LeavesOut name) :
    ¬(assemble decls options).exports.HasMethod name ∧
      ¬(assemble decls options).exports.HasFunction name := by
  obtain ⟨middle, hfollows⟩ := follows_progressAtEnd decls options
  have hnone := not_exported_of_leavesOut h
  constructor
  · rintro ⟨table, htable, row, hrow, htarget⟩
    have hearly := hfollows.backs table htable row hrow name htarget
    exact hnone (mem_exported_iff.2 (hfollows.precedes.contains hearly))
  · rintro ⟨row, hrow, htarget⟩
    exact hnone (mem_exported_iff.2 (hfollows.of_mem_moduleRows hrow htarget).2)

end Account

end ScriptBind
