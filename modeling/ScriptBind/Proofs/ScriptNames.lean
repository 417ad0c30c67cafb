import ScriptBind.Proofs.ClassTables
import ScriptBind.Proofs.GroupNames
import ScriptBind.Proofs.Variables

/-!
# Names That Scripts Can Use

A script reaches an attribute by writing its name after a dot, so the name must not
start with a digit or be a word of the script language. C names are neither, but what is
left of one when its beginning goes may be either, and `Text.attributeName` mends it.

Methods, functions, members of enum groups and nested groups are all named that way, so
every name in the table of a class can be used. In the table of the module only functions
are: classes, groups, records, typedefs and variables have what is left of their C names
as it is. So all names there can be used exactly if these can.

## Main definitions

* `Text.isUsable`: A name that a script can write after a dot.
* `unmendedNames`: The names in the table of a module that nothing mends.

## Theorems

* `Text.isUsable_attributeName`, `Text.isUsable_callableName`: A mended name can be used.
* `Enums.usable_groups`: Members of enum groups can be used.
* `Progress.usable_classTables`: So can all that classes have.
* `rowNames_usable`: Which names of a module can be used.
* `wordNames_usable`: A library in which all can.
* `digitRecord_unusable`: A library in which one cannot.
-/

namespace ScriptBind

namespace Text

/-- Whether a script can write a name after a dot. -/
def isUsable (name : String) : Bool := !startsWithDigit name && !isKeyword name

theorem isUsable_iff {name : String} :
    isUsable name ↔ startsWithDigit name = false ∧ isKeyword name = false := by
  rw [isUsable, Bool.and_eq_true, Bool.not_eq_true', Bool.not_eq_true']

theorem mem_keywords_iff {name : String} : name ∈ keywords ↔ isKeyword name :=
  List.contains_iff_mem.symm

/-- An underscore in front of a name makes it usable. -/
theorem isUsable_underscore_append (name : String) : isUsable ("_" ++ name) := by
  have hchars : ("_" ++ name).toList = '_' :: name.toList := String.toList_append
  have hkeywords : ∀ word ∈ keywords, word.toList.head? ≠ some '_' := by decide
  refine isUsable_iff.2 ⟨?_, Bool.eq_false_iff.2 fun hk => ?_⟩
  · rw [startsWithDigit, hchars]
    rfl
  · exact hkeywords _ (mem_keywords_iff.2 hk) (by rw [hchars]; rfl)

/-- A mended name can be used. -/
theorem isUsable_attributeName (name : String) : isUsable (attributeName name) := by
  have hkeywords : ∀ word ∈ keywords, isUsable (word ++ "_") := by decide +kernel
  rw [attributeName]
  split
  · exact isUsable_underscore_append name
  · next hd =>
      split
      · next hk => exact hkeywords name (mem_keywords_iff.2 hk)
      · next hk => exact isUsable_iff.2 ⟨Bool.eq_false_iff.2 hd, Bool.eq_false_iff.2 hk⟩

/-- So can the mended name of something that is called. -/
theorem isUsable_callableName (name : String) : isUsable (callableName name) := by
  rw [callableName]
  split
  · decide
  · exact isUsable_attributeName name

end Text

open Text

/-- All names in some rows can be used. -/
def UsableRows (rows : List Row) : Prop := ∀ row ∈ rows, isUsable row.name

instance (rows : List Row) : Decidable (UsableRows rows) :=
  inferInstanceAs (Decidable (∀ _ ∈ _, _))

theorem usableRows_iff {rows : List Row} :
    UsableRows rows ↔ ∀ name ∈ rows.map Row.name, isUsable name := by
  rw [List.forall_mem_map]
  rfl

/-- The names that are left are those that were there. -/
theorem mem_names_firstOfEachName {rows : List Row} {name : String} :
    name ∈ (firstOfEachName rows).map Row.name ↔ name ∈ rows.map Row.name := by
  constructor
  · intro h
    obtain ⟨row, hrow, rfl⟩ := List.mem_map.1 h
    exact List.mem_map_of_mem (mem_of_mem_firstOfEachName hrow)
  · intro h
    obtain ⟨row, hrow, rfl⟩ := List.mem_map.1 h
    obtain ⟨front, back, rfl⟩ := List.append_of_mem hrow
    obtain ⟨kept, hkept, hname, -⟩ := exists_mem_firstOfEachName front back row
    exact hname ▸ List.mem_map_of_mem hkept

/-- Nothing unusable is hidden behind a name that was taken before. -/
theorem usableRows_firstOfEachName {rows : List Row} :
    UsableRows (firstOfEachName rows) ↔ UsableRows rows := by
  rw [usableRows_iff, usableRows_iff]
  simp only [mem_names_firstOfEachName]

/-- Members of enum groups can be used, from whatever enums they come together. -/
theorem Enums.usable_groups (naming : Naming) (enums : List (List Enumerator)) :
    ∀ row ∈ (groups naming enums).rows, UsableRows row.2.memberRows := by
  have hmembers : ∀ row ∈ (groups naming enums).rows, ∀ member ∈ row.2.members.rows,
      isUsable member.1 := by
    refine groups_induct (P := fun _ group => ∀ member ∈ group.members.rows, isUsable member.1)
      (fun _ _ hm => by cases hm) (fun values group _ hold member hm => ?_) enums
    -- A member was there before, or joins the group by its mended name.
    have hget := Table.get?_of_mem hm
    rw [EnumGroup.get?_merge] at hget
    rcases Option.or_eq_some_iff.1 hget with hbefore | ⟨-, hjoins⟩
    · exact hold member (Table.mem_of_get? hbefore)
    · rw [(mem_ofRows_members (Table.mem_of_get? hjoins)).2, memberName]
      exact isUsable_attributeName _
  intro row hrow member hm
  obtain ⟨listed, hlisted, rfl⟩ := List.mem_map.1 hm
  exact hmembers row hrow listed hlisted

/-- All that classes have can be used, if the members of enum groups can. -/
theorem Progress.usable_classTables {naming : Naming} {groups : Table EnumGroup}
    (hgroups : ∀ row ∈ groups.rows, UsableRows row.2.memberRows) (progress : Progress)
    (classes : List ScriptClass) :
    ∀ table ∈ progress.classTables naming groups .empty classes, UsableRows table.rows := by
  refine Progress.classTables_induct (P := UsableRows) (fun built hb cls _ => ?_)
    fun _ _ h => by cases h
  refine usableRows_firstOfEachName.2 fun row hrow => ?_
  rcases List.mem_append.1 hrow with hmethod | hfurther
  · obtain ⟨method, -, rfl⟩ := List.mem_map.1 hmethod
    exact isUsable_callableName _
  · rcases mem_furtherRows hfurther with ⟨parent, rows, hbuilt, hm⟩ | ⟨name, group, hgroup, hm⟩ |
      ⟨group, -, rfl⟩
    · exact hb parent rows hbuilt row hm
    · exact hgroups _ (Table.mem_of_get? hgroup) row hm
    · exact isUsable_attributeName _

section Modules

variable {decls : Declarations} {options : Options}

/-- The names in the table of a module that nothing mends: those of its classes as they
    are, and what is left of those of enum groups that no class nests, of records, of
    typedefs of records and of variables. -/
def unmendedNames (decls : Declarations) (options : Options) : List String :=
  let model := modelOf decls options
  let session := sessionAtEnd decls options
  let groups := (groupsOf decls options).names.filter (!model.nestedEnums.contains ·)
  let simplified := session.boundStructs.map BoundStruct.name ++ session.aliases.names ++
    (assemble decls options).definedVariables
  model.inOrder.map ScriptClass.name ++ groups.map options.naming.enumName ++
    simplified.map options.naming.simplify

/-- The names in the table of a module are those of functions and the names that nothing
    mends. -/
theorem mem_names_moduleRows (decls : Declarations) (options : Options) :
    ∃ functions : List String, ∀ name,
      name ∈ (assemble decls options).exports.moduleRows.map Row.name ↔
        name ∈ functions.map options.naming.functionName ∨ name ∈ unmendedNames decls options := by
  obtain ⟨own, hrows⟩ := moduleRows_assemble decls options
  refine ⟨own, fun name => ?_⟩
  rw [hrows, moduleRows, mem_names_firstOfEachName]
  simp only [unmendedNames, Module.definedVariables, Table.names, List.map_append, List.map_map,
    Function.comp_def, List.mem_append, or_assoc]
  -- The functions stand after the classes.
  exact or_left_comm

/-- A row of the module that leads to a function has a mended name. -/
theorem usable_of_function {row : Row} (hm : row ∈ (assemble decls options).exports.moduleRows)
    {cName : String} (ht : row.target = .function cName) : isUsable row.name := by
  obtain ⟨own, hrows⟩ := moduleRows_assemble decls options
  rw [(mem_moduleRows_function (hrows ▸ hm) ht).2]
  exact isUsable_callableName _

/-- Every name in the table of a class, be it of an object or of an enum group, can be
    used by a script, and so can that of every function in the table of the module. All
    names in the table of the module can be used exactly if those can that nothing
    mends. -/
theorem rowNames_usable (decls : Declarations) (options : Options) :
    (∀ table ∈ (assemble decls options).exports.classes, ∀ row ∈ table.rows, isUsable row.name) ∧
      (∀ row ∈ (assemble decls options).exports.moduleRows,
        (∃ cName, row.target = .function cName) → isUsable row.name) ∧
      ((∀ row ∈ (assemble decls options).exports.moduleRows, isUsable row.name) ↔
        ∀ name ∈ unmendedNames decls options, isUsable name) := by
  have hgroups := Enums.usable_groups options.naming decls.enums
  refine ⟨?_, fun row hm ⟨_, ht⟩ => usable_of_function hm ht, ?_⟩
  · obtain ⟨middle, _, -, hfollows⟩ := exists_follows decls options
    rw [hfollows.classes]
    intro table htable
    rcases List.mem_append.1 htable with hgroup | hobject
    · obtain ⟨group, hm, rfl⟩ := List.mem_map.1 hgroup
      obtain ⟨listed, hlisted, rfl⟩ := List.mem_map.1 hm
      exact hgroups listed hlisted
    · exact middle.usable_classTables hgroups _ table hobject
  · obtain ⟨functions, hnames⟩ := mem_names_moduleRows decls options
    refine usableRows_iff.trans ⟨?_, ?_⟩
    · exact fun h name hm => h name ((hnames name).2 (Or.inr hm))
    · intro h name hm
      rcases (hnames name).1 hm with hfunction | hunmended
      · obtain ⟨function, -, rfl⟩ := List.mem_map.1 hfunction
        exact isUsable_callableName _
      · exact h name hunmended

/-- A library in which names of functions and of an enum's members are words of the script
    language or start with a digit when their beginnings are gone. -/
def wordNames : Declarations where
  enums := [[⟨"LV_MODE_3D", none⟩, ⟨"LV_MODE_None", none⟩]]
  functions :=
    [⟨"lv_obj_create", .pointerTo (.named "lv_obj_t"),
        [⟨"parent", .pointerTo (.named "lv_obj_t")⟩, ⟨"copy", .pointerTo (.named "lv_obj_t")⟩],
        false⟩,
      ⟨"lv_obj_del", .void, [⟨"obj", .pointerTo (.named "lv_obj_t")⟩], false⟩,
      ⟨"lv_import", .void, [], false⟩]

set_option maxRecDepth 100000 in
/-- All its names are mended where they need to be. -/
theorem wordNames_usable :
    let exports := (assemble wordNames { moduleName := "m", scope := some "lv" }).exports
    exports.classes.map (fun table => table.rows.map Row.name) = [["_3D", "None_"], ["delete"]] ∧
      exports.moduleRows.map Row.name = ["obj", "import_", "MODE", "C_Pointer"] ∧
      (∃ row ∈ exports.moduleRows, row.target = .function "lv_import" ∧ isUsable row.name) ∧
      (∀ name ∈ unmendedNames wordNames { moduleName := "m", scope := some "lv" }, isUsable name) ∧
      ∀ row ∈ exports.moduleRows, isUsable row.name := by
  intro exports
  have hclasses : exports.classes.map (fun table => table.rows.map Row.name) =
      [["_3D", "None_"], ["delete"]] := by decide +kernel
  have hnames : exports.moduleRows.map Row.name = ["obj", "import_", "MODE", "C_Pointer"] := by
    decide +kernel
  have hfunction : ∃ row ∈ exports.moduleRows, row.target = .function "lv_import" := by
    decide +kernel
  have hunmended : ∀ name ∈ unmendedNames wordNames { moduleName := "m", scope := some "lv" },
      isUsable name := by
    decide +kernel
  obtain ⟨-, hfunctions, hrows⟩ :=
    rowNames_usable wordNames { moduleName := "m", scope := some "lv" }
  obtain ⟨row, hrow, ht⟩ := hfunction
  exact ⟨hclasses, hnames, ⟨row, hrow, ht, hfunctions row hrow ⟨_, ht⟩⟩, hunmended,
    hrows.2 hunmended⟩

/-- A library with a record and a function whose names have a digit after the scope. -/
def digitRecord : Declarations where
  records := .ofRows [("lv_3d_t", ⟨"lv_3d_t", .struct, [⟨"x", .builtin "int", none⟩]⟩)]
  functions := [⟨"lv_3d_init", .void, [⟨"a", .pointerTo (.named "lv_3d_t")⟩], false⟩]

set_option maxRecDepth 100000 in
/-- The function's name is mended and the record's is not. -/
theorem digitRecord_unusable :
    let rows := (assemble digitRecord { moduleName := "m", scope := some "lv" }).exports.moduleRows
    rows.map Row.name = ["_3d_init", "C_Pointer", "3d_t"] ∧ ¬ ∀ row ∈ rows, isUsable row.name := by
  decide +kernel

end Modules

end ScriptBind
