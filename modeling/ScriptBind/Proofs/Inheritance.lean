import Mathlib.Data.List.Nodup
import ScriptBind.Proofs.Descriptions

/-!
# Inheritance

The table of a class has every name that the table of its parent has. A name leads
where it leads in the parent's table, unless the class has a method of that name that has
a wrapper; then it leads to the first of these. So a class answers to all names of all
its ancestors.

A class takes its parent's rows from what has been built before it. The parent has been
built by then, since parents are written first, and its table is not built again, since
the names of classes are different.

## Main definitions

* `Exports.ShowsClass`: A table of objects by the name of the class.
* `ScriptClass.inheritedTarget`: Where a class leads for a row of its parent.

## Theorems

* `mem_firstOfEachName_iff`: Which rows are left.
* `Progress.exists_built`: What has been built before a class.
* `Progress.inherits_classTable`: What a class makes of the rows it takes over.
* `inheritance_complete`: Classes have all names of their ancestors.
-/

namespace ScriptBind

section Rows

theorem mem_firstOfEachNameFrom_iff {taken : List String} {rows : List Row} {row : Row} :
    row ∈ firstOfEachNameFrom taken rows ↔
      row.name ∉ taken ∧ rows.find? (·.name == row.name) = some row := by
  induction rows generalizing taken with
  | nil => exact ⟨(fun h => by cases h), fun h => by cases h.2⟩
  | cons first rest ih =>
      by_cases he : first.name = row.name
      · -- Either the first row takes the name, or it has been taken before.
        rw [List.find?_cons_of_pos (by simpa using he), firstOfEachNameFrom]
        split
        · next htaken =>
            rw [List.contains_iff_mem, he] at htaken
            exact ⟨fun h => absurd htaken (ih.1 h).1, fun h => absurd htaken h.1⟩
        · next hfree =>
            rw [List.contains_iff_mem, he] at hfree
            rw [List.mem_cons]
            refine ⟨fun h => ⟨hfree, ?_⟩, fun h => Or.inl (Option.some.inj h.2).symm⟩
            rcases h with rfl | h
            · rfl
            · exact absurd (List.mem_cons.2 (Or.inl he.symm)) (ih.1 h).1
      · have hne : ¬(row = first) := fun h => he (by rw [h])
        rw [List.find?_cons_of_neg (by simpa using he), firstOfEachNameFrom]
        split
        · exact ih
        · rw [List.mem_cons, or_iff_right hne, ih, List.mem_cons, not_or]
          exact ⟨fun h => ⟨h.1.2, h.2⟩, fun h => ⟨⟨fun e => he e.symm, h.1⟩, h.2⟩⟩

/-- Of each name the first row is left. -/
theorem mem_firstOfEachName_iff {rows : List Row} {row : Row} :
    row ∈ firstOfEachName rows ↔ rows.find? (·.name == row.name) = some row := by
  rw [firstOfEachName, mem_firstOfEachNameFrom_iff]
  exact and_iff_right List.not_mem_nil

/-- Rows that are taken over keep their names. Those of the names that come before lead
    where the first of them leads, and the others where they have led. -/
theorem exists_row_of_inherited (own more : List Row) {inherited : List Row}
    (hd : (inherited.map Row.name).Nodup) {row : Row} (hm : row ∈ inherited) :
    ∃ kept ∈ firstOfEachName (own ++ (inherited ++ more)), kept.name = row.name ∧
      kept = (own.find? (·.name == row.name)).getD row := by
  have hname : ((own.find? (·.name == row.name)).getD row).name = row.name := by
    cases hown : own.find? (·.name == row.name) with
    | none => rfl
    | some first => simpa using List.find?_some hown
  refine ⟨_, mem_firstOfEachName_iff.2 ?_, hname, rfl⟩
  rw [hname, List.find?_append, List.find?_append, find?_name hd hm, Option.some_or]
  cases own.find? (·.name == row.name) <;> rfl

end Rows

/-- Where a class leads for a row of its parent: to the first of its own methods that has
    the name of the row and a wrapper, and otherwise where the row leads. -/
def ScriptClass.inheritedTarget (naming : Naming) (wrapped : Table WrappedFunction)
    (cls : ScriptClass) (row : Row) : Target :=
  (((cls.methods.filter wrapped.contains).find? (naming.methodName · cls.name == row.name)).map
    Target.function).getD row.target

namespace Progress

variable {progress : Progress} {naming : Naming} {groups : Table EnumGroup}
  {built : Table (List Row)}

/-- The tables of classes that come before a class have been built when its own table is
    put together, and so has what was built before them. -/
theorem exists_built (before : List ScriptClass) (cls : ScriptClass) (after : List ScriptClass)
    (hd : ((before ++ cls :: after).map ScriptClass.name).Nodup) (start : Table (List Row)) :
    ∃ built, progress.classTable naming groups built cls ∈
        progress.classTables naming groups start (before ++ cls :: after) ∧
      (∀ name rows, start.get? name = some rows → name ∉ before.map ScriptClass.name →
        built.get? name = some rows) ∧
      ∀ name ∈ before.map ScriptClass.name,
        ∃ table ∈ progress.classTables naming groups start (before ++ cls :: after),
          table.name = name ∧ built.get? name = some table.rows := by
  induction before generalizing start with
  | nil => exact ⟨start, List.mem_cons_self .., fun _ _ h _ => h, fun _ hm => by cases hm⟩
  | cons first before ih =>
      rw [List.cons_append, List.map_cons, List.nodup_cons] at hd
      rw [List.cons_append, classTables]
      obtain ⟨built, htable, hstart, hbefore⟩ := ih hd.2
        (start.set first.name (progress.classTable naming groups start first).rows)
      -- No later class has the name of the first one, so its table stays.
      have hfresh : first.name ∉ before.map ScriptClass.name := fun hm => hd.1 (by
        rw [List.map_append]
        exact List.mem_append_left _ hm)
      refine ⟨built, List.mem_cons_of_mem _ htable, fun name rows hget hnot => ?_,
        fun name hm => ?_⟩
      · rw [List.map_cons, List.mem_cons, not_or] at hnot
        refine hstart name rows ?_ hnot.2
        rw [Table.get?_set, if_neg fun he => hnot.1 he.symm]
        exact hget
      · rcases List.mem_cons.1 hm with rfl | hm
        · refine ⟨_, List.mem_cons_self .., rfl, hstart _ _ ?_ hfresh⟩
          rw [Table.get?_set, if_pos rfl]
        · obtain ⟨table, htab, hname, hget⟩ := hbefore name hm
          exact ⟨table, List.mem_cons_of_mem _ htab, hname, hget⟩

/-- What a class makes of the rows that are built for its parent. -/
theorem inherits_classTable {cls : ScriptClass} {parent : String} {rows : List Row}
    (hp : cls.parent = some parent) (hbuilt : built.get? parent = some rows)
    (hd : (rows.map Row.name).Nodup) {row : Row} (hm : row ∈ rows) :
    ∃ own ∈ (progress.classTable naming groups built cls).rows,
      own.name = row.name ∧ own.target = cls.inheritedTarget naming progress.wrapped row := by
  have hrows : (progress.classTable naming groups built cls).rows =
      firstOfEachName (progress.methodRows naming cls.name cls.methods ++ (rows ++
        (((cls.enumMembers.bind groups.get?).map EnumGroup.memberRows).getD [] ++
          cls.nestedEnums.map fun group =>
            ⟨naming.nestedEnumName group cls.name, .enumClass group⟩))) := by
    rw [classTable, furtherRows, hp, Option.bind_some, hbuilt, Option.getD_some,
      List.append_assoc rows]
  rw [hrows]
  obtain ⟨kept, hk, hname, he⟩ := exists_row_of_inherited
    (progress.methodRows naming cls.name cls.methods) _ hd hm
  refine ⟨kept, hk, hname, ?_⟩
  rw [he, methodRows, List.find?_map, ScriptClass.inheritedTarget, Function.comp_def]
  cases (cls.methods.filter progress.wrapped.contains).find?
    fun method => naming.methodName method cls.name == row.name <;> rfl

end Progress

/-- A table shows the class of objects of some name. -/
def Exports.ShowsClass (exports : Exports) (name : String) (table : ClassTable) : Prop :=
  table ∈ exports.classes ∧ table.kind = .object ∧ table.name = name

section Library

variable {decls : Declarations} {options : Options}

/-- There is one table for the objects of a name. -/
theorem Exports.ShowsClass.unique {name : String} {table other : ClassTable}
    (h : (assemble decls options).exports.ShowsClass name table)
    (h' : (assemble decls options).exports.ShowsClass name other) : table = other := by
  refine List.inj_on_of_nodup_map (nodup_classNames decls options .object)
    (List.mem_filter.2 ⟨h.1, ?_⟩) (List.mem_filter.2 ⟨h'.1, ?_⟩) (h.2.2.trans h'.2.2.symm)
  · rw [h.2.1]; rfl
  · rw [h'.2.1]; rfl

/-- Every class of objects has a table. -/
theorem exists_showsClass {name : String} (h : name ∈ (modelOf decls options).classes.names) :
    ∃ table, (assemble decls options).exports.ShowsClass name table := by
  obtain ⟨row, hrow, rfl⟩ := List.mem_map.1 h
  obtain ⟨objects, hclasses, hobjects⟩ := classes_assemble decls options
  obtain ⟨table, htable, hportrays⟩ := exists_of_forall₂ hobjects
    (mem_inOrder (List.mem_map_of_mem hrow))
  refine ⟨table, ?_, hportrays.kind, hportrays.name.trans (name_modelOf hrow)⟩
  rw [hclasses]
  exact List.mem_append_right _ htable

/-- No class has two rows of one name. -/
theorem nodup_classRows {table : ClassTable}
    (h : table ∈ (assemble decls options).exports.classes) : (table.rows.map Row.name).Nodup := by
  obtain ⟨objects, hclasses, hobjects⟩ := classes_assemble decls options
  rw [hclasses] at h
  rcases List.mem_append.1 h with hm | hm
  · obtain ⟨group, -, rfl⟩ := List.mem_map.1 hm
    exact group.isProper_table.distinct
  · obtain ⟨cls, -, hportrays⟩ := exists_of_forall₂ hobjects.flip hm
    exact hportrays.proper.distinct

/-- What the table of a class makes of the rows of its parent's table. -/
theorem inherits_of_parent {cls : ScriptClass} (hcls : cls ∈ (modelOf decls options).classes.values)
    {parent : String} (hp : cls.parent = some parent) {table up : ClassTable}
    (htable : (assemble decls options).exports.ShowsClass cls.name table)
    (hup : (assemble decls options).exports.ShowsClass parent up) {row : Row} (hm : row ∈ up.rows) :
    ∃ own ∈ table.rows, own.name = row.name ∧ own.target =
      cls.inheritedTarget options.naming (assemble decls options).exports.functions row := by
  obtain ⟨middle, after, -, hfollows⟩ := exists_follows decls options
  have hshows : ∀ shown ∈ middle.classTables options.naming (groupsOf decls options) .empty
      (modelOf decls options).inOrder,
      (assemble decls options).exports.ShowsClass shown.name shown := by
    intro shown hshown
    obtain ⟨_, -, hportrays⟩ := exists_of_forall₂ (middle.classTables_portray ..).flip hshown
    refine ⟨?_, hportrays.kind, rfl⟩
    rw [hfollows.classes]
    exact List.mem_append_right _ hshown
  -- The parent is written before the class, and its table is there when the class's is made.
  have hnames := nodup_names_inOrder decls options
  obtain ⟨listed, hrow, -⟩ := List.mem_map.1 hcls
  have hroot : RootedAt (modelOf decls options).classes options.naming.baseObject :=
    rootedAt_modelOf (List.ne_nil_of_mem (List.mem_map_of_mem hrow))
  obtain ⟨before, rest, horder⟩ := List.append_of_mem (mem_inOrder hcls)
  obtain ⟨other, hother, hname⟩ := hroot.isWritingOrder.parents before cls rest horder parent hp
  rw [horder] at hshows hnames
  obtain ⟨built, hown, -, hbefore⟩ := middle.exists_built before cls rest hnames .empty
  obtain ⟨found, hfound, hfoundName, hbuilt⟩ := hbefore parent (hname ▸ List.mem_map_of_mem hother)
  obtain rfl := htable.unique (hshows _ hown)
  obtain rfl := hup.unique (hfoundName ▸ hshows _ hfound)
  -- All methods of the class have been tried by then.
  have htried :
      ∀ method ∈ cls.methods, method ∈ (modelOf decls options).functions.map CFunction.name →
      middle.Tried method :=
    fun method hmethod hn => (hfollows.tried method hn).2 ⟨cls, mem_inOrder hcls, hmethod⟩
  rw [hfollows.functions, ScriptClass.inheritedTarget,
    hfollows.precedes.filter_contains hfollows.sound htried]
  exact Progress.inherits_classTable hp hbuilt (nodup_classRows hup.1) hm

/-- Classes have all names of their parents, and so of all their ancestors. In a library's
    tables every class of objects has one table, in which no name has two rows. A class
    that derives from another has a row for each row of the other's table, by the same
    name: it leads to the first of the class's own methods of that name that has a
    wrapper, if there is one, and otherwise where the other's row leads. -/
theorem inheritance_complete (decls : Declarations) (options : Options) :
    let exports := (assemble decls options).exports
    let classes := (modelOf decls options).classes
    (∀ name ∈ classes.names, ∃! table, exports.ShowsClass name table) ∧
      (∀ table ∈ exports.classes, (table.rows.map Row.name).Nodup) ∧
      (∀ cls ∈ classes.values, ∀ parent, cls.parent = some parent → parent ∈ classes.names ∧
        ∀ table up, exports.ShowsClass cls.name table → exports.ShowsClass parent up →
          ∀ row ∈ up.rows, ∃ own ∈ table.rows, own.name = row.name ∧
            own.target = cls.inheritedTarget options.naming exports.functions row) ∧
      ∀ name ancestor, Relation.TransGen (DerivesFrom classes) name ancestor →
        ∀ table up, exports.ShowsClass name table → exports.ShowsClass ancestor up →
          ∀ row ∈ up.rows, row.name ∈ table.rows.map Row.name := by
  intro exports classes
  have hroot : ∀ {name parent}, DerivesFrom classes name parent →
      RootedAt classes options.naming.baseObject :=
    fun hd => rootedAt_modelOf (List.ne_nil_of_mem hd.mem_names)
  have hderives : ∀ name parent, DerivesFrom classes name parent →
      ∃ cls ∈ classes.values, cls.name = name ∧ cls.parent = some parent := by
    intro name parent hd
    obtain ⟨cls, hget, hp⟩ := Option.bind_eq_some_iff.1 hd
    have hrow := Table.mem_of_get? hget
    exact ⟨cls, List.mem_map_of_mem hrow, name_modelOf hrow, hp⟩
  refine ⟨fun name hn => ?_, fun table h => nodup_classRows h, fun cls hcls parent hp => ?_, ?_⟩
  · obtain ⟨table, h⟩ := exists_showsClass hn
    exact ⟨table, h, fun other ho => ho.unique h⟩
  · obtain ⟨⟨name, _⟩, hrow, rfl⟩ := List.mem_map.1 hcls
    have hd : DerivesFrom classes name parent := by
      rw [DerivesFrom, Table.get?_of_mem hrow]
      exact hp
    exact ⟨((hroot hd).mem_names hd).2, fun table up ht hu row hm =>
      inherits_of_parent hcls hp ht hu hm⟩
  · intro name ancestor hline
    induction hline using Relation.TransGen.head_induction_on with
    | single hd =>
        intro table up ht hu row hm
        obtain ⟨cls, hcls, rfl, hp⟩ := hderives _ _ hd
        obtain ⟨own, hown, hname, -⟩ := inherits_of_parent hcls hp ht hu hm
        exact hname ▸ List.mem_map_of_mem hown
    | head hd _ ih =>
        -- The parent has a table in between, which has the ancestor's names.
        intro table up ht hu row hm
        obtain ⟨cls, hcls, rfl, hp⟩ := hderives _ _ hd
        obtain ⟨between, hb⟩ := exists_showsClass ((hroot hd).mem_names hd).2
        obtain ⟨first, hfirst, hname⟩ := List.mem_map.1 (ih between up hb hu row hm)
        obtain ⟨own, hown, hown', -⟩ := inherits_of_parent hcls hp ht hb hfirst
        exact hname ▸ hown' ▸ List.mem_map_of_mem hown

end Library

/-- An object, one that extends it, and one that extends that one. The second has a method
    called like one of the first, and so has the third, but that one takes any number of
    arguments. -/
def layeredObjects : Declarations where
  records := .ofRows
    [("lv_dial_ext_t", ⟨"lv_dial_ext_t", .struct, [⟨"obj", .named "lv_obj_ext_t", none⟩]⟩),
      ("lv_knob_ext_t", ⟨"lv_knob_ext_t", .struct, [⟨"dial", .named "lv_dial_ext_t", none⟩]⟩)]
  functions :=
    (["lv_obj_create", "lv_dial_create", "lv_knob_create"].map fun name =>
      ⟨name, .pointerTo (.named "lv_obj_t"),
        [⟨"parent", .pointerTo (.named "lv_obj_t")⟩, ⟨"copy", .pointerTo (.named "lv_obj_t")⟩],
          false⟩) ++
    ([("lv_obj_tick", false), ("lv_obj_hide", false), ("lv_dial_tick", false),
        ("lv_knob_turn", false), ("lv_knob_hide", true)].map fun (name, isVariadic) =>
      ⟨name, .void, [⟨"obj", .pointerTo (.named "lv_obj_t")⟩], isVariadic⟩)

/-- The module they are made into. -/
def layeredOptions : Options where
  moduleName := "m"
  scope := some "lv"
  narrowed := true

set_option maxRecDepth 100000 in
/-- The third has the second's method by the one name and the first's by the other. -/
theorem layeredObjects_inherit :
    let exports := (assemble layeredObjects layeredOptions).exports
    ∃ knob dial obj, exports.ShowsClass "knob" knob ∧ exports.ShowsClass "dial" dial ∧
      exports.ShowsClass "obj" obj ∧
      (knob.rows.map fun row => (row.name, row.target)) = [("turn", .function "lv_knob_turn"),
        ("tick", .function "lv_dial_tick"), ("hide", .function "lv_obj_hide")] ∧
      (∃ cls : ScriptClass, cls.name = "knob" ∧ cls.methods = ["lv_knob_turn", "lv_knob_hide"] ∧
        ∀ row ∈ dial.rows, ∃ own ∈ knob.rows, own.name = row.name ∧
          own.target = cls.inheritedTarget layeredOptions.naming exports.functions row) ∧
      ∀ row ∈ obj.rows, row.name ∈ knob.rows.map Row.name := by
  obtain ⟨hshown, -, hparents, hlines⟩ := inheritance_complete layeredObjects layeredOptions
  have hmodel : (∃ cls ∈ (modelOf layeredObjects layeredOptions).classes.values, cls.name = "knob" ∧
      cls.methods = ["lv_knob_turn", "lv_knob_hide"] ∧ cls.parent = some "dial") ∧
      DerivesFrom (modelOf layeredObjects layeredOptions).classes "knob" "dial" ∧
      DerivesFrom (modelOf layeredObjects layeredOptions).classes "dial" "obj" := by
    decide +kernel
  obtain ⟨⟨cls, hcls, hname, hmethods, hparent⟩, hfirst, hsecond⟩ := hmodel
  have hobject := rootedAt_modelOf (List.ne_nil_of_mem hfirst.mem_names)
  obtain ⟨knob, hknob, -⟩ := hshown "knob" hfirst.mem_names
  obtain ⟨dial, hdial, -⟩ := hshown "dial" hsecond.mem_names
  obtain ⟨obj, hobj, -⟩ := hshown "obj" (hobject.mem_names hsecond).2
  refine ⟨knob, dial, obj, hknob, hdial, hobj, ?_, ⟨cls, hname, hmethods, fun row hrow => ?_⟩, ?_⟩
  · have hrows : ∀ table ∈ (assemble layeredObjects layeredOptions).exports.classes,
        table.name = "knob" →
          (table.rows.map fun row => (row.name, row.target)) = [("turn", .function "lv_knob_turn"),
            ("tick", .function "lv_dial_tick"), ("hide", .function "lv_obj_hide")] := by
      decide +kernel
    exact hrows knob hknob.1 hknob.2.2
  · exact (hparents cls hcls "dial" hparent).2 knob dial (hname ▸ hknob) hdial row hrow
  · exact hlines "knob" "obj" (.tail (.single hfirst) hsecond) knob obj hknob hobj

end ScriptBind
