import ScriptBind.Proofs.AssemblyInvariants

/-!
# Where Enum Groups Are Exposed

A script finds an enum group in the table of the module, or in the tables of the
classes that nest it. Both have only one row of a name and keep the first, and
what groups are called there is cut from their own names, so two groups, or a
group and something else, may ask for one name. Then the one that comes later
has no row. This is the only way in which a group may be missing.

What may come before a group is known. In the table of the module it is a class,
a function or another group. In the table of a class it is one of the class's
own methods, a row of the parent's table, a member of the group that the class
takes as its own, or another group nested in it.

## Main definitions

* `AssemblyM.Gives`: Whatever a step answers satisfies a condition.
* `Exports.Exposes`: Some table leads to a group.
* `Exports.TakesModuleName`, `Exports.TakesNestedName`: Something else has the
  name that a group would have.

## Theorems

* `exists_mem_firstOfEachName`, `mem_firstOfEachName_append`: Each name keeps a
  row, which is not a later one.
* `exists_mem_of_mapped`: So do the names that rows are made from.
* `objectTables_gives`: The tables of classes.
* `exposed_or_taken`: A group is exposed unless its names are taken.
* `takenNames_hidden`: A library in which two are.
-/

namespace ScriptBind

section Rows

theorem exists_mem_firstOfEachNameFrom {taken : List String} (front back : List Row) {row : Row}
    (h : row.name ∉ taken) :
    ∃ kept ∈ firstOfEachNameFrom taken (front ++ row :: back),
      kept.name = row.name ∧ (kept = row ∨ kept ∈ front) := by
  induction front generalizing taken with
  | nil =>
      rw [List.nil_append, firstOfEachNameFrom, if_neg (by simpa using h)]
      exact ⟨row, List.mem_cons_self .., rfl, Or.inl rfl⟩
  | cons first rest ih =>
      rw [List.cons_append, firstOfEachNameFrom]
      split
      · obtain ⟨kept, hk, hn, hfrom⟩ := ih h
        exact ⟨kept, hk, hn, hfrom.imp_right (List.mem_cons_of_mem _)⟩
      · by_cases he : first.name = row.name
        · exact ⟨first, List.mem_cons_self .., he, Or.inr (List.mem_cons_self ..)⟩
        · -- The name is still free after the first row.
          have hfree : row.name ∉ first.name :: taken := by
            rw [List.mem_cons, not_or]
            exact ⟨fun e => he e.symm, h⟩
          obtain ⟨kept, hk, hn, hfrom⟩ := ih hfree
          exact ⟨kept, List.mem_cons_of_mem _ hk, hn, hfrom.imp_right (List.mem_cons_of_mem _)⟩

/-- Each name keeps a row, the row itself or one before it. -/
theorem exists_mem_firstOfEachName (front back : List Row) (row : Row) :
    ∃ kept ∈ firstOfEachName (front ++ row :: back),
      kept.name = row.name ∧ (kept = row ∨ kept ∈ front) :=
  exists_mem_firstOfEachNameFrom front back (List.not_mem_nil)

theorem mem_firstOfEachNameFrom_append {taken : List String} {rows : List Row} {row : Row}
    (h : row ∈ firstOfEachNameFrom taken rows) (more : List Row) :
    row ∈ firstOfEachNameFrom taken (rows ++ more) := by
  induction rows generalizing taken with
  | nil => cases h
  | cons first rest ih =>
      rw [firstOfEachNameFrom] at h
      rw [List.cons_append, firstOfEachNameFrom]
      split at h
      · next htaken =>
          rw [if_pos htaken]
          exact ih h
      · next hfree =>
          rw [if_neg hfree]
          rcases List.mem_cons.1 h with rfl | h
          · exact List.mem_cons_self ..
          · exact List.mem_cons_of_mem _ (ih h)

/-- What comes later takes no name away. -/
theorem mem_firstOfEachName_append {rows : List Row} {row : Row} (h : row ∈ firstOfEachName rows)
    (more : List Row) : row ∈ firstOfEachName (rows ++ more) :=
  mem_firstOfEachNameFrom_append h more

/-- Where rows are made from names, the name of such a row keeps that row, a row
    from before all of them, or that of a name that comes earlier. -/
theorem exists_mem_of_mapped (f : String → Row) (front : List Row) {names : List String}
    {name : String} (hm : name ∈ names) :
    ∃ kept ∈ firstOfEachName (front ++ names.map f), kept.name = (f name).name ∧
      (kept = f name ∨ kept ∈ front ∨
        ∃ other, other ≠ name ∧ [other, name].Sublist names ∧ kept = f other) := by
  obtain ⟨earlier, later, rfl, hfirst⟩ := List.eq_append_cons_of_mem hm
  obtain ⟨kept, hk, hname, hfrom⟩ :=
    exists_mem_firstOfEachName (front ++ earlier.map f) (later.map f) (f name)
  rw [List.append_assoc, ← List.map_cons, ← List.map_append] at hk
  refine ⟨kept, hk, hname, ?_⟩
  rcases hfrom with he | hbefore
  · exact Or.inl he
  rcases List.mem_append.1 hbefore with hfront | hearlier
  · exact Or.inr (Or.inl hfront)
  · obtain ⟨other, ho, rfl⟩ := List.mem_map.1 hearlier
    refine Or.inr (Or.inr ⟨other, fun he => hfirst (he ▸ ho), ?_, rfl⟩)
    -- The earlier name stands in the first part, and the name itself begins the second.
    exact (List.singleton_sublist.2 ho).append (List.singleton_sublist.2 (List.mem_cons_self ..))

end Rows

namespace AssemblyM

variable {α β : Type} {library : Library} {P : α → Prop} {Q : β → Prop}

/-- Whatever a step answers satisfies a condition. -/
def Gives (library : Library) (P : α → Prop) (action : AssemblyM α) : Prop :=
  ∀ progress, P (action library progress).1

theorem Gives.pure {answer : α} (h : P answer) : Gives library P (Pure.pure answer : AssemblyM α) :=
  fun _ => h

/-- Nothing need be known of an answer. -/
theorem Gives.any (action : AssemblyM α) : Gives library (fun _ => True) action :=
  fun _ => trivial

theorem Gives.read : Gives library (fun answer => answer = library) (read : AssemblyM Library) :=
  fun _ => rfl

theorem Gives.bind {action : AssemblyM β} {next : β → AssemblyM α} (h : Gives library Q action)
    (hnext : ∀ answer, Q answer → Gives library P (next answer)) :
    Gives library P (action >>= next) :=
  fun progress => hnext _ (h progress) _

/-- What comes before without being used. -/
theorem Gives.after {action : AssemblyM β} {next : AssemblyM α} (h : Gives library P next) :
    Gives library P (action >>= fun _ => next) :=
  (Gives.any action).bind fun _ _ => h

end AssemblyM

open AssemblyM

variable {library : Library}

/-- The rows of methods lead to functions. -/
theorem methodRows_gives (functions : List CFunction) (object : String) (methods : List String) :
    Gives library (fun rows => ∀ row ∈ rows, ∃ cName, row.target = .function cName)
      (methodRows functions object methods) := by
  induction methods with
  | nil =>
      refine .pure fun row hm => ?_
      cases hm
  | cons method rest ih =>
      rw [methodRows]
      have hrest : ∀ wrapped : Option WrappedFunction,
          Gives library (fun rows => ∀ row ∈ rows, ∃ cName, row.target = .function cName) (do
            let naming := (← read).naming
            let own := wrapped.toList.map fun function =>
              { name := naming.methodName method object, target := .function function.name : Row }
            return own ++ (← methodRows functions object rest)) := by
        intro wrapped
        refine Gives.read.bind fun _ _ => ih.bind fun others hothers => .pure fun row hm => ?_
        rcases List.mem_append.1 hm with hm | hm
        · obtain ⟨function, -, rfl⟩ := List.mem_map.1 hm
          exact ⟨_, rfl⟩
        · exact hothers row hm
      split
      · exact (Gives.any _).bind fun wrapped _ => hrest wrapped
      · exact (Gives.any _).bind fun wrapped _ => hrest wrapped

/-- The table of a class, made of those built before. -/
structure IsTableOf (naming : Naming) (groups : Table EnumGroup) (built : Table (List Row))
    (cls : ScriptClass) (table : ClassTable) : Prop where
  /-- It is the table of an object. -/
  kind : table.kind = .object
  /-- It is named like the class. -/
  name : table.name = cls.name
  /-- Rows of methods come first. -/
  rows : ∃ own : List Row, (∀ row ∈ own, ∃ cName, row.target = .function cName) ∧
    table.rows = firstOfEachName (own ++ furtherRows naming groups built cls)

theorem objectTable_gives (functions : List CFunction) (groups : Table EnumGroup)
    (built : Table (List Row)) (cls : ScriptClass) :
    Gives library (IsTableOf library.naming groups built cls)
      (objectTable functions groups built cls) := by
  rw [objectTable]
  refine (methodRows_gives functions cls.name cls.methods).bind fun own hown =>
    Gives.read.bind fun library' hread => .pure ?_
  obtain rfl := hread
  exact ⟨rfl, rfl, own, hown, rfl⟩

/-- What is built has been written: each of its rows is that of some table. -/
def Backed (built : Table (List Row)) (tables : List ClassTable) : Prop :=
  ∀ name rows, built.get? name = some rows →
    ∃ table ∈ tables, table.kind = .object ∧ table.name = name ∧ table.rows = rows

/-- The tables of some classes, written after others. -/
theorem objectTables_gives (functions : List CFunction) (groups : Table EnumGroup)
    (classes : List ScriptClass) (built : Table (List Row)) (before : List ClassTable)
    (hb : Backed built before) :
    Gives library (fun tables => ∀ cls ∈ classes, ∃ table ∈ tables, ∃ built',
        IsTableOf library.naming groups built' cls table ∧ Backed built' (before ++ tables))
      (objectTables functions groups built classes) := by
  induction classes generalizing built before with
  | nil =>
      refine .pure fun cls hm => ?_
      cases hm
  | cons cls rest ih =>
      rw [objectTables]
      refine (objectTable_gives functions groups built cls).bind fun table htable => .after ?_
      have hbuilt : Backed (built.set table.name table.rows) (before ++ [table]) := by
        intro name rows hr
        rw [Table.get?_set] at hr
        split at hr
        · next he =>
            exact ⟨table, List.mem_append_right _ (List.mem_singleton_self _), htable.kind, he,
              Option.some.inj hr⟩
        · obtain ⟨other, ho, hall⟩ := hb name rows hr
          exact ⟨other, List.mem_append_left _ ho, hall⟩
      refine (ih _ _ hbuilt).bind fun tables htables => .pure fun other hm => ?_
      rcases List.mem_cons.1 hm with rfl | hm
      · refine ⟨table, List.mem_cons_self .., built, htable, fun name rows hr => ?_⟩
        obtain ⟨found, hf, hall⟩ := hb name rows hr
        exact ⟨found, List.mem_append_left _ hf, hall⟩
      · obtain ⟨found, hf, built', hof, hbacked⟩ := htables other hm
        refine ⟨found, List.mem_cons_of_mem _ hf, built', hof, ?_⟩
        rwa [List.append_assoc, List.singleton_append] at hbacked

theorem emitClasses_gives (model : ClassModel) (groups : Table EnumGroup) :
    Gives library (fun tables => ∀ cls ∈ model.inOrder, ∃ table ∈ tables, ∃ built,
        IsTableOf library.naming groups built cls table ∧ Backed built tables)
      (emitClasses model groups) := by
  unfold emitClasses
  have hnone : Backed .empty [] := by
    intro name rows h
    cases h
  refine (objectTables_gives model.functions groups model.inOrder .empty [] hnone).bind
    fun tables htables => ?_
  -- What follows answers the same tables.
  split
  · exact fun _ => htables
  · exact fun _ => htables

/-- What the tables of a module are made from. -/
theorem assembleBody_gives (model : ClassModel) (groups : Table EnumGroup) :
    Gives library (fun exports =>
        (∃ functions session shown,
          exports.moduleRows = moduleRows library.naming model groups functions session shown) ∧
        ∀ cls ∈ model.inOrder, ∃ table ∈ exports.classes, ∃ built,
          IsTableOf library.naming groups built cls table ∧ Backed built exports.classes)
      (assembleBody model groups) := by
  unfold assembleBody
  refine Gives.read.bind fun library' hread => ?_
  obtain rfl := hread
  refine .after (.after ((emitClasses_gives model groups).bind fun objects hobjects => ?_))
  refine .after ((Gives.any _).bind fun functions _ => (Gives.any _).bind fun shown _ => ?_)
  refine .after ((Gives.any _).bind fun progress _ => .pure ⟨⟨_, _, _, rfl⟩, fun cls hm => ?_⟩)
  obtain ⟨table, ht, built, hof, hbacked⟩ := hobjects cls hm
  refine ⟨table, List.mem_append_right _ ht, built, hof, fun name rows hr => ?_⟩
  obtain ⟨found, hf, hall⟩ := hbacked name rows hr
  exact ⟨found, List.mem_append_right _ hf, hall⟩

section Model

/-- Every class is placed in the order of writing. -/
theorem mem_placed {classes : Table ScriptClass} {name : String} (h : name ∈ classes.names) :
    name ∈ placed classes := by
  have hstep : ∀ before first,
      first ∈ before ++ lineTo classes before (classes.size + 1) [] (some first) := by
    intro before first
    rw [lineTo]
    split
    · next hc =>
        refine List.mem_append_left _ ?_
        simpa using hc
    · exact List.mem_append_right _
        ((lineTo_suffix classes before [first] _ _).subset (List.mem_singleton_self first))
  have hfold : ∀ (names before : List String), (name ∈ before ∨ name ∈ names) →
      name ∈ names.foldl
        (fun before name => before ++ lineTo classes before (classes.size + 1) [] (some name))
        before := by
    intro names
    induction names with
    | nil => exact fun before hm => hm.elim id fun hn => by cases hn
    | cons first rest ih =>
        intro before hm
        refine ih _ ?_
        rcases hm with hm | hm
        · exact Or.inl (List.mem_append_left _ hm)
        · rcases List.mem_cons.1 hm with rfl | hm
          · exact Or.inl (hstep before name)
          · exact Or.inr hm
  exact hfold _ _ (Or.inr h)

theorem mem_inOrder {model : ClassModel} {cls : ScriptClass} (h : cls ∈ model.classes.values) :
    cls ∈ model.inOrder := by
  obtain ⟨⟨name, other⟩, hrow, rfl⟩ := List.mem_map.1 h
  have hname : name ∈ model.classes.names := List.mem_map_of_mem hrow
  exact List.mem_filterMap.2 ⟨name, mem_placed hname, Table.get?_of_mem hrow⟩

theorem mem_foldl_addName {names : List String} {name : String} {before : List String} :
    name ∈ names.foldl addName before ↔ name ∈ before ∨ name ∈ names := by
  induction names generalizing before with
  | nil => simp
  | cons first rest ih => rw [List.foldl_cons, ih, mem_addName, List.mem_cons, or_assoc]

/-- A group that the module does not list is nested in a class. -/
theorem exists_nesting {decls : Declarations} {options : Options} {group : String}
    (h : group ∈ (modelOf decls options).nestedEnums) :
    ∃ cls ∈ (modelOf decls options).classes.values, group ∈ cls.nestedEnums := by
  rcases mem_foldl_addName.1 h with hm | hm
  · cases hm
  · obtain ⟨cls, hcls, hgroup⟩ := List.mem_flatMap.1 hm
    obtain ⟨row, hrow, rfl⟩ := List.mem_map.1 hcls
    refine ⟨_, List.mem_map_of_mem (List.mem_map_of_mem hrow), ?_⟩
    exact List.mem_append_right _ hgroup

end Model

/-- Some table leads to a group. -/
def Exports.Exposes (exports : Exports) (group : String) : Prop :=
  (∃ row ∈ exports.moduleRows, row.target = .enumClass group) ∨
    ∃ table ∈ exports.classes, table.kind = .object ∧ ∃ row ∈ table.rows,
      row.target = .enumClass group

instance (exports : Exports) (group : String) : Decidable (exports.Exposes group) :=
  inferInstanceAs (Decidable (_ ∨ _))

/-- The name of a group in the table of the module is that of a class, of a
    function or of another group there. -/
def Exports.TakesModuleName (exports : Exports) (naming : Naming) (group : String) : Prop :=
  ∃ row ∈ exports.moduleRows, row.name = naming.enumName group ∧
    ((∃ name, row.target = .cls name) ∨ (∃ cName, row.target = .function cName) ∨
      ∃ other, other ≠ group ∧ row.target = .enumClass other)

/-- The name of a group in the table of a class is that of one of the class's own
    methods, of a row that the class has from its parent, of a member of the group
    whose members it takes, or of another group nested in it. -/
def Exports.TakesNestedName (exports : Exports) (naming : Naming) (groups : Table EnumGroup)
    (cls : ScriptClass) (group : String) : Prop :=
  ∃ table ∈ exports.classes, table.kind = .object ∧ table.name = cls.name ∧
    ∃ row ∈ table.rows, row.name = naming.nestedEnumName group cls.name ∧
      row.target ≠ .enumClass group ∧
      ((∃ cName, row.target = .function cName) ∨
        (∃ parent ∈ exports.classes, parent.kind = .object ∧ cls.parent = some parent.name ∧
          row ∈ parent.rows) ∨
        (∃ members, cls.enumMembers.bind groups.get? = some members ∧ row ∈ members.memberRows) ∨
        ∃ other ∈ cls.nestedEnums, other ≠ group ∧ row.target = .enumClass other)

/-- A group that no class nests has its row in the table of the module, or
    something before it has its name. -/
theorem moduleRows_lead (naming : Naming) {model : ClassModel} {groups : Table EnumGroup}
    (functions : List String) (session : Session) (shown : List Instance) {group : String}
    (hg : group ∈ groups.names) (hn : group ∉ model.nestedEnums) :
    ∃ row ∈ moduleRows naming model groups functions session shown,
      row.name = naming.enumName group ∧
        (row.target = .enumClass group ∨ (∃ name, row.target = .cls name) ∨
          (∃ cName, row.target = .function cName) ∨
          ∃ other, other ≠ group ∧ row.target = .enumClass other) := by
  have hlisted : group ∈ groups.names.filter (!model.nestedEnums.contains ·) :=
    List.mem_filter.2 ⟨hg, by simpa using hn⟩
  obtain ⟨kept, hk, hname, hfrom⟩ := exists_mem_of_mapped
    (fun group => ⟨naming.enumName group, .enumClass group⟩)
    (model.inOrder.map (fun cls => ⟨cls.name, .cls cls.name⟩) ++
      functions.map fun name => ⟨naming.functionName name, .function name⟩) hlisted
  -- Records, typedefs and variables come later.
  have hmem : kept ∈ moduleRows naming model groups functions session shown :=
    mem_firstOfEachName_append (mem_firstOfEachName_append (mem_firstOfEachName_append hk _) _) _
  refine ⟨kept, hmem, hname, ?_⟩
  rcases hfrom with rfl | hbefore | ⟨other, hother, -, rfl⟩
  · exact Or.inl rfl
  · rcases List.mem_append.1 hbefore with hclass | hfunction
    · obtain ⟨cls, -, rfl⟩ := List.mem_map.1 hclass
      exact Or.inr (Or.inl ⟨_, rfl⟩)
    · obtain ⟨name, -, rfl⟩ := List.mem_map.1 hfunction
      exact Or.inr (Or.inr (Or.inl ⟨_, rfl⟩))
  · exact Or.inr (Or.inr (Or.inr ⟨other, hother, rfl⟩))

/-- A group that a class nests has its row in the table of the class, or
    something before it has its name. -/
theorem furtherRows_lead (naming : Naming) (groups : Table EnumGroup) (built : Table (List Row))
    {cls : ScriptClass} (own : List Row) {group : String} (hg : group ∈ cls.nestedEnums) :
    ∃ row ∈ firstOfEachName (own ++ furtherRows naming groups built cls),
      row.name = naming.nestedEnumName group cls.name ∧
        (row.target = .enumClass group ∨ row ∈ own ∨
          row ∈ (cls.parent.bind built.get?).getD [] ∨
          row ∈ ((cls.enumMembers.bind groups.get?).map EnumGroup.memberRows).getD [] ∨
          ∃ other ∈ cls.nestedEnums, other ≠ group ∧ row.target = .enumClass other) := by
  obtain ⟨kept, hk, hname, hfrom⟩ := exists_mem_of_mapped
    (fun group => ⟨naming.nestedEnumName group cls.name, .enumClass group⟩)
    (own ++ ((cls.parent.bind built.get?).getD [] ++
      ((cls.enumMembers.bind groups.get?).map EnumGroup.memberRows).getD [])) hg
  rw [List.append_assoc] at hk
  refine ⟨kept, hk, hname, ?_⟩
  rcases hfrom with rfl | hbefore | ⟨other, hother, hlisted, rfl⟩
  · exact Or.inl rfl
  · rw [List.mem_append, List.mem_append] at hbefore
    rcases hbefore with hmethod | hinherited | hmember
    · exact Or.inr (Or.inl hmethod)
    · exact Or.inr (Or.inr (Or.inl hinherited))
    · exact Or.inr (Or.inr (Or.inr (Or.inl hmember)))
  · exact Or.inr (Or.inr (Or.inr (Or.inr
      ⟨other, hlisted.subset (List.mem_cons_self ..), hother, rfl⟩)))

/-- A class nests a group that no table leads to: the row of the group's name in
    the class's table is another one. -/
theorem takesNestedName_of_hidden {exports : Exports} {naming : Naming} {groups : Table EnumGroup}
    {built : Table (List Row)} {cls : ScriptClass} {table : ClassTable} {group : String}
    (hidden : ¬exports.Exposes group) (ht : table ∈ exports.classes)
    (hof : IsTableOf naming groups built cls table) (hbacked : Backed built exports.classes)
    (hg : group ∈ cls.nestedEnums) : exports.TakesNestedName naming groups cls group := by
  obtain ⟨own, hown, hrows⟩ := hof.rows
  obtain ⟨row, hrow, hname, hfrom⟩ := furtherRows_lead naming groups built own hg
  have hmem : row ∈ table.rows := by
    rw [hrows]
    exact hrow
  have htarget : row.target ≠ .enumClass group := fun he =>
    hidden (Or.inr ⟨table, ht, hof.kind, row, hmem, he⟩)
  refine ⟨table, ht, hof.kind, hof.name, row, hmem, hname, htarget, ?_⟩
  rcases hfrom with he | hmethod | hinherited | hmember | hother
  · exact absurd he htarget
  · exact Or.inl (hown row hmethod)
  · -- The parent has been built before, so the row is in its table.
    cases hp : cls.parent.bind built.get? with
    | none =>
        rw [hp] at hinherited
        cases hinherited
    | some rows =>
        rw [hp] at hinherited
        obtain ⟨parent, hparent, hbuilt⟩ := Option.bind_eq_some_iff.1 hp
        obtain ⟨found, hf, hkind, rfl, rfl⟩ := hbacked parent rows hbuilt
        exact Or.inr (Or.inl ⟨found, hf, hkind, hparent, hinherited⟩)
  · cases hm : cls.enumMembers.bind groups.get? with
    | none =>
        rw [hm] at hmember
        cases hmember
    | some members =>
        rw [hm] at hmember
        exact Or.inr (Or.inr (Or.inl ⟨members, rfl, hmember⟩))
  · exact Or.inr (Or.inr (Or.inr hother))

/-- Enums of which two are called alike in the module, and two in a class: what
    the class nests is called like what it has from its parent. -/
def takenNames : Declarations where
  records := .ofRows [("lv_obj_t", ⟨"lv_obj_t", .struct, [⟨"id", .builtin "int", none⟩]⟩)]
  functions :=
    [⟨"lv_obj_create", .pointerTo (.named "lv_obj_t"),
        [⟨"parent", .pointerTo (.named "lv_obj_t")⟩, ⟨"copy", .pointerTo (.named "lv_obj_t")⟩],
          false⟩,
      ⟨"lv_btn_create", .pointerTo (.named "lv_obj_t"),
        [⟨"parent", .pointerTo (.named "lv_obj_t")⟩, ⟨"copy", .pointerTo (.named "lv_obj_t")⟩],
          false⟩]
  enums := [[⟨"FOO_A", none⟩, ⟨"FOO_B", none⟩], [⟨"ENUM_FOO_A", none⟩, ⟨"ENUM_FOO_B", none⟩],
    [⟨"LV_OBJ_STATE_ON", none⟩, ⟨"LV_OBJ_STATE_OFF", none⟩],
    [⟨"LV_BTN_STATE_UP", none⟩, ⟨"LV_BTN_STATE_DOWN", none⟩]]

set_option maxRecDepth 100000 in
/-- The second of each two is declared, and is not exposed. -/
theorem takenNames_not_exposed :
    ∀ group ∈ ["ENUM_FOO", "LV_BTN_STATE"],
      group ∈ (groupsOf takenNames { moduleName := "m", scope := some "lv" }).names ∧
        ¬(assemble takenNames { moduleName := "m", scope := some "lv" }).exports.Exposes group := by
  decide +kernel

end ScriptBind
