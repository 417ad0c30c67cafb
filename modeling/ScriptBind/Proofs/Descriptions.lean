import Mathlib.Data.List.Induction
import ScriptBind.Proofs.FunctionAccounts
import ScriptBind.Proofs.GroupNames

/-!
# The Description Says What the Tables Hold

A description is made from the tables of a module by going through their rows.
On the way things could be lost: rows are put into tables again, where of two
rows with one name only one can stay, classes as well, and a row that leads to a
function is left out if nothing is known of the function.

Nothing is lost, since none of this happens. The names in a table are different,
and so are the names of the classes of objects and those of the enum groups;
whatever function a row leads to has a wrapper; and no row of a class leads to
something that is not described.

## Main definitions

* `FirstOccurrences`: The names of a list, each once.
* `Module.Describes`: A member tells what a row leads to.
* `Module.IsDescribedBy`: A description tells what a module exposes.

## Theorems

* `Table.rows_ofRows`: Rows with different names make a table of just these rows.
* `firstOccurrences_distinctNames`: What is left of names is each at its first
  occurrence.
* `Module.IsBacked.isDescribed`: What it takes for nothing to be lost.
* `nodup_classNames`: No two classes of a kind have the same name.
* `description_complete`: The description of a module.
-/

namespace ScriptBind

/-- Rows with different names make a table of just these rows. -/
theorem Table.rows_ofRows {α : Type} {rows : List (String × α)} (hd : (rows.map Prod.fst).Nodup) :
    (Table.ofRows rows).rows = rows := by
  have hfold : ∀ (rows : List (String × α)) (t : Table α), ((t.rows ++ rows).map Prod.fst).Nodup →
      (rows.foldl (fun t row => t.set row.1 row.2) t).rows = t.rows ++ rows := by
    intro rows
    induction rows with
    | nil => exact fun t _ => (List.append_nil _).symm
    | cons row rest ih =>
        intro t hd
        -- The name of the next row is not among those before it.
        have hnew : row.1 ∉ t.rows.map Prod.fst := by
          intro hm
          rw [List.map_append, List.map_cons] at hd
          exact (List.nodup_append.1 hd).2.2 _ hm _ (List.mem_cons_self ..) rfl
        have hset : (t.set row.1 row.2).rows = t.rows ++ [row] := setRows_of_not_mem hnew
        rw [List.append_cons, ← hset] at hd ⊢
        exact ih _ hd
  exact hfold rows .empty hd

/-- The names of a list, each once and in the order in which they first occur. -/
structure FirstOccurrences (all names : List String) : Prop where
  /-- They are the same names. -/
  same : ∀ name, name ∈ names ↔ name ∈ all
  /-- None of them is there twice. -/
  distinct : names.Nodup
  /-- What comes first occurs first. -/
  ordered : names.Pairwise fun name other => all.idxOf name < all.idxOf other

/-- What is left of names is each at its first occurrence. -/
theorem firstOccurrences_distinctNames (all : List String) :
    FirstOccurrences all (distinctNames all) := by
  induction all using List.reverseRecOn with
  | nil => exact ⟨fun _ => Iff.rfl, List.nodup_nil, .nil⟩
  | append_singleton all last ih =>
      have hstep : distinctNames (all ++ [last]) = addName (distinctNames all) last := by
        rw [distinctNames, List.foldl_append]
        rfl
      have hindex : ∀ name ∈ distinctNames all, (all ++ [last]).idxOf name = all.idxOf name :=
        fun name hn => List.idxOf_append_of_mem ((ih.same name).1 hn)
      have hearlier : (distinctNames all).Pairwise fun name other =>
          (all ++ [last]).idxOf name < (all ++ [last]).idxOf other :=
        ih.ordered.imp_of_mem fun hn ho hlt => by rwa [hindex _ hn, hindex _ ho]
      rw [hstep]
      refine ⟨fun name => ?_, nodup_addName ih.distinct last, ?_⟩
      · rw [mem_addName, ih.same, List.mem_append, List.mem_singleton]
      · unfold addName
        split
        · exact hearlier
        · next hnew =>
          -- A new name occurs after all names before it.
          refine List.pairwise_append.2 ⟨hearlier, List.pairwise_singleton ..,
            fun name hn other ho => ?_⟩
          obtain rfl := List.mem_singleton.1 ho
          have hfresh : other ∉ all := fun hm => hnew ((ih.same other).2 hm)
          rw [hindex name hn, List.idxOf_append_of_notMem hfresh]
          exact Nat.lt_of_lt_of_le (List.idxOf_lt_length_of_mem ((ih.same name).1 hn))
            (Nat.le_add_right ..)

namespace Module

/-- A member tells what a row leads to: a function by its only wrapper, and
    constants and enum groups as they are. -/
inductive Describes (module : Module) : Target → Member → Prop where
  /-- The parameters and the result are those of the wrapper. -/
  | function {cName : String} {wrapper : Wrapper} (only : module.wrappersOf cName = [wrapper]) :
      Describes module (.function cName)
        (.function cName (wrapper.params.map fun param => (param.name, param.type.qualified))
          wrapper.function.result.qualified)
  /-- The C name and the value. -/
  | number (cName : String) (value : Int64) :
      Describes module (.number cName value) (.number cName value)
  /-- The C name and the text. -/
  | text (cName text : String) : Describes module (.text cName text) (.text cName text)
  /-- The name of the group. -/
  | enumClass (group : String) : Describes module (.enumClass group) (.enumClass group)

/-- An entry of a description tells what a row is called and leads to. -/
def DescribesRow (module : Module) (row : Row) (entry : String × Member) : Prop :=
  entry.1 = row.name ∧ module.Describes row.target entry.2

/-- An entry of a description tells what a class is called and has, row by row. -/
def DescribesTable (module : Module) (table : ClassTable) (entry : String × Table Member) : Prop :=
  entry.1 = table.name ∧ List.Forall₂ module.DescribesRow table.rows entry.2.rows

/-- The C names of all numbers in classes, as often as they occur. -/
def classNumbers (module : Module) : List String :=
  module.exports.classes.flatMap fun table => table.rows.filterMap (·.target.numberName?)

/-- A description tells what a module exposes, all of it in order. -/
structure IsDescribedBy (module : Module) (description : Description) : Prop where
  /-- The classes of objects. -/
  objects : List.Forall₂ module.DescribesTable
    (module.exports.classes.filter (·.kind == .object)) description.objects.rows
  /-- The classes of enum groups. -/
  enums : List.Forall₂ module.DescribesTable
    (module.exports.classes.filter (·.kind == .enumeration)) description.enums.rows
  /-- The functions in the table of the module. -/
  functions : List.Forall₂ module.DescribesRow
    (module.exports.moduleRows.filter (·.target.isFunction)) description.functions.rows
  /-- The record types. -/
  structs : description.structs =
    (module.exports.moduleRows.filter (·.target.isStruct)).map Row.name
  /-- The variables. -/
  globals : description.globals =
    (module.exports.moduleRows.filter (·.target.isGlobal)).map Row.name
  /-- The numbers. -/
  numbers : FirstOccurrences module.classNumbers description.numbers

/-- What is known of functions with wrappers is what their wrappers say. -/
def IsBacked (module : Module) : Prop :=
  ∀ name ∈ module.exports.functions.names, ∃ wrapper : Wrapper,
    module.wrappersOf name = [wrapper] ∧
      module.exports.functions.get? name = some wrapper.wrapped

/-- Rows that can be described: they lead to what a class may show, and to
    functions only if these have wrappers. -/
def CanDescribe (module : Module) (rows : List Row) : Prop :=
  ∀ row ∈ rows, row.target.isAttribute ∧
    ∀ name, row.target = .function name → name ∈ module.exports.functions.names

variable {module : Module} {rows : List Row}

/-- A row that can be described is described. -/
theorem IsBacked.exists_member (h : module.IsBacked) (hr : module.CanDescribe rows) {row : Row}
    (hm : row ∈ rows) : ∃ member,
      Member.ofTarget? module.exports.functions row.target = some member ∧
        module.Describes row.target member := by
  obtain ⟨hattribute, hknown⟩ := hr row hm
  cases htarget : row.target with
  | function cName =>
      obtain ⟨wrapper, honly, hget⟩ := h cName (hknown cName htarget)
      rw [Member.ofTarget?, hget]
      exact ⟨_, rfl, .function honly⟩
  | number cName value => exact ⟨_, rfl, .number cName value⟩
  | text cName text => exact ⟨_, rfl, .text cName text⟩
  | enumClass group => exact ⟨_, rfl, .enumClass group⟩
  | cls name =>
      rw [htarget] at hattribute
      cases hattribute
  | struct name =>
      rw [htarget] at hattribute
      cases hattribute
  | global name structName =>
      rw [htarget] at hattribute
      cases hattribute

/-- Rows with different names that can be described all have their entries, in
    order. -/
theorem IsBacked.members (h : module.IsBacked) (hd : (rows.map Row.name).Nodup)
    (hr : module.CanDescribe rows) :
    List.Forall₂ module.DescribesRow rows
      (Description.members module.exports.functions rows).rows := by
  have hentries : ∀ rows, module.CanDescribe rows → List.Forall₂ module.DescribesRow rows
      (rows.filterMap fun row =>
        (Member.ofTarget? module.exports.functions row.target).map (row.name, ·)) := by
    intro rows
    induction rows with
    | nil => exact fun _ => .nil
    | cons row rest ih =>
        intro hr
        obtain ⟨member, hmember, hdescribes⟩ := h.exists_member hr (List.mem_cons_self ..)
        have hentry : (Member.ofTarget? module.exports.functions row.target).map (row.name, ·) =
            some (row.name, member) := by rw [hmember, Option.map_some]
        simp only [List.filterMap_cons, hentry]
        exact .cons ⟨rfl, hdescribes⟩ (ih fun other ho => hr other (List.mem_cons_of_mem _ ho))
  -- The entries are called like the rows, so putting them into a table loses none.
  have hnames : (rows.filterMap fun row =>
      (Member.ofTarget? module.exports.functions row.target).map (row.name, ·)).map Prod.fst =
        rows.map Row.name :=
    (map_eq_of_forall₂ (hentries rows hr) fun _ _ hentry => hentry.1.symm).symm
  rw [Description.members, Table.rows_ofRows (hnames ▸ hd)]
  exact hentries rows hr

/-- So do the classes of a kind, if their names are different. -/
theorem IsBacked.sections (h : module.IsBacked) {kind : ClassKind}
    (hd : ((module.exports.classes.filter (·.kind == kind)).map ClassTable.name).Nodup)
    (hr : ∀ table ∈ module.exports.classes, table.IsProper ∧ module.CanDescribe table.rows) :
    List.Forall₂ module.DescribesTable (module.exports.classes.filter (·.kind == kind))
      (Description.sections module.exports kind).rows := by
  rw [Description.sections, Table.rows_ofRows (by rw [List.map_map]; exact hd),
    List.forall₂_map_right_iff, List.forall₂_same]
  intro table htable
  obtain ⟨hproper, hrows⟩ := hr table (List.mem_filter.1 htable).1
  exact ⟨rfl, h.members hproper.distinct hrows⟩

/-- A module is described if no two classes of a kind and no two rows of a table
    have the same name and all rows can be described. -/
theorem IsBacked.isDescribed (h : module.IsBacked)
    (hnames : ∀ kind, ((module.exports.classes.filter (·.kind == kind)).map ClassTable.name).Nodup)
    (hclasses : ∀ table ∈ module.exports.classes, table.IsProper ∧ module.CanDescribe table.rows)
    (hdistinct : (module.exports.moduleRows.map Row.name).Nodup)
    (hfunctions : module.CanDescribe (module.exports.moduleRows.filter (·.target.isFunction))) :
    module.IsDescribedBy module.description where
  objects := h.sections (hnames .object) hclasses
  enums := h.sections (hnames .enumeration) hclasses
  functions := h.members (hdistinct.sublist (List.filter_sublist.map Row.name)) hfunctions
  structs := rfl
  globals := rfl
  numbers := firstOccurrences_distinctNames _

end Module

section Names

variable {decls : Declarations} {options : Options}

/-- If a library has any classes, they all descend from the base object, enums or not. -/
theorem rootedAt_modelOf (h : (modelOf decls options).classes.names ≠ []) :
    RootedAt (modelOf decls options).classes options.naming.baseObject := by
  refine (rootedAt_ofDeclarations ?_).attachEnums options.naming (groupsOf decls options).names
  rwa [modelOf, classModel, ClassModel.names_attachEnums] at h

/-- Every class is listed under its own name. -/
theorem name_modelOf {row : String × ScriptClass} (h : row ∈ (modelOf decls options).classes.rows) :
    row.2.name = row.1 :=
  (rootedAt_modelOf (List.ne_nil_of_mem (List.mem_map_of_mem h))).named row h

/-- The classes of objects have different names. -/
theorem nodup_names_inOrder (decls : Declarations) (options : Options) :
    ((modelOf decls options).inOrder.map ScriptClass.name).Nodup := by
  have hnames : (modelOf decls options).classes.values.map ScriptClass.name =
      (modelOf decls options).classes.names := by
    rw [Table.values, List.map_map]
    exact List.map_congr_left fun _ hrow => name_modelOf hrow
  rw [((inOrder_perm (modelOf decls options)).map ScriptClass.name).nodup_iff, hnames]
  exact (modelOf decls options).classes.distinct

/-- No two classes of a kind have the same name. -/
theorem nodup_classNames (decls : Declarations) (options : Options) (kind : ClassKind) :
    (((assemble decls options).exports.classes.filter (·.kind == kind)).map
      ClassTable.name).Nodup := by
  obtain ⟨objects, hclasses, hobjects⟩ := classes_assemble decls options
  have hkind : ∀ table ∈ objects, table.kind = .object := fun table htable => by
    obtain ⟨cls, -, hportrays⟩ := exists_of_forall₂ hobjects.flip htable
    exact hportrays.kind
  rw [hclasses, List.filter_append]
  cases kind with
  | object =>
      have hnames : objects.map ClassTable.name =
          (modelOf decls options).inOrder.map ScriptClass.name :=
        (map_eq_of_forall₂ hobjects fun _ _ hportrays => hportrays.name.symm).symm
      rw [List.filter_eq_nil_iff.2 fun table htable => ?_, List.nil_append,
        List.filter_eq_self.2 fun table htable => by rw [hkind table htable]; rfl, hnames]
      · exact nodup_names_inOrder decls options
      · obtain ⟨group, -, rfl⟩ := List.mem_map.1 htable
        exact Bool.false_ne_true
  | enumeration =>
      have hnames : ((groupsOf decls options).values.map EnumGroup.table).map ClassTable.name =
          (groupsOf decls options).names := by
        rw [Table.values, List.map_map, List.map_map]
        exact List.map_congr_left fun row hrow => (Enums.isCut_groups _ row hrow).named
      rw [List.filter_eq_self.2 fun table htable => ?_,
        List.filter_eq_nil_iff.2 fun table htable => ?_, List.append_nil, hnames]
      · exact (groupsOf decls options).distinct
      · rw [hkind table htable]
        exact Bool.false_ne_true
      · obtain ⟨group, -, rfl⟩ := List.mem_map.1 htable
        rfl

end Names

section Assembled

variable {decls : Declarations} {options : Options}

/-- What is exported of functions is what their wrappers say. -/
theorem isBacked_assemble (decls : Declarations) (options : Options) :
    (assemble decls options).IsBacked := by
  intro name hname
  obtain ⟨middle, hfollows⟩ := follows_progressAtEnd decls options
  have hlength := length_wrappersOf decls options name
  rw [if_pos hname] at hlength
  obtain ⟨wrapper, honly⟩ := List.length_eq_one_iff.1 hlength
  refine ⟨wrapper, honly, ?_⟩
  obtain ⟨hwritten, hfunction⟩ :=
    List.mem_filter.1 (show wrapper ∈ (assemble decls options).wrappersOf name from
      honly ▸ List.mem_singleton_self _)
  -- The wrapper is among those exported, where each stands under its name.
  have hvalue : wrapper.wrapped ∈ (assemble decls options).exports.functions.values :=
    wrappers_assemble decls options ▸ List.mem_map_of_mem hwritten
  obtain ⟨⟨key, wrapped⟩, hrow, rfl⟩ := List.mem_map.1 hvalue
  have hget := Table.get?_of_mem hrow
  rw [hfollows.functions] at hget ⊢
  have hkey := hfollows.sound.named _ _ hget
  rw [show wrapper.wrapped.name = name from beq_iff_eq.1 hfunction] at hkey
  rw [hkey]
  exact hget

/-- The tables of classes are proper, and can be described. -/
theorem canDescribe_classes {table : ClassTable}
    (h : table ∈ (assemble decls options).exports.classes) :
    table.IsProper ∧ (assemble decls options).CanDescribe table.rows := by
  have hproper : table.IsProper := by
    obtain ⟨objects, hclasses, hobjects⟩ := classes_assemble decls options
    rcases List.mem_append.1 (hclasses ▸ h) with hgroup | hobject
    · obtain ⟨group, -, rfl⟩ := List.mem_map.1 hgroup
      exact group.isProper_table
    · obtain ⟨cls, -, hportrays⟩ := exists_of_forall₂ hobjects.flip hobject
      exact hportrays.proper
  obtain ⟨middle, hfollows⟩ := follows_progressAtEnd decls options
  refine ⟨hproper, fun row hrow => ⟨hproper.attributes row hrow, fun name htarget => ?_⟩⟩
  rw [hfollows.functions]
  exact Table.mem_names_iff.2
    (hfollows.precedes.contains (hfollows.backs table h row hrow name htarget))

/-- The functions in the table of the module can be described. -/
theorem canDescribe_moduleRows (decls : Declarations) (options : Options) :
    (assemble decls options).CanDescribe
      ((assemble decls options).exports.moduleRows.filter (·.target.isFunction)) := by
  obtain ⟨middle, hfollows⟩ := follows_progressAtEnd decls options
  intro row hrow
  obtain ⟨hm, hfunction⟩ := List.mem_filter.1 hrow
  refine ⟨?_, fun name htarget => ?_⟩
  · cases htarget : row.target with
    | function cName => rfl
    | _ => rw [htarget] at hfunction; cases hfunction
  · rw [hfollows.functions]
    exact Table.mem_names_iff.2 (hfollows.of_mem_moduleRows hm htarget).2

end Assembled

/-- The description of a module tells all that its tables hold, in order, and
    nothing else. -/
theorem description_complete (decls : Declarations) (options : Options) :
    (assemble decls options).IsDescribedBy (assemble decls options).description := by
  have hdistinct : ((assemble decls options).exports.moduleRows.map Row.name).Nodup := by
    obtain ⟨middle, hfollows⟩ := follows_progressAtEnd decls options
    obtain ⟨own, shown, hrows, -⟩ := hfollows.rows
    rw [hrows]
    exact nodup_firstOfEachName _
  exact (isBacked_assemble decls options).isDescribed (nodup_classNames decls options)
    (fun _ htable => canDescribe_classes htable) hdistinct (canDescribe_moduleRows decls options)

end ScriptBind
