import ScriptBind.Proofs.TablesByNotes

/-!
# Where Functions and Records Are Reached

Every function with a wrapper and every bound record is meant for scripts. A
function is reached through the tables of the classes it is a method of, or else
through the table of the module, and a record is reached through the table of
the module. Names in these tables are cut from C names, so two of them may come
to be called alike, and then only the first is left. This is the only way to be
out of reach, and it is known what can have taken the name.

No function is in reach both ways: the module lists a function only if no class
has it for a method.

## Main definitions

* `Exports.HasMethod`, `Exports.HasFunction`, `Exports.HasStruct`: A class or
  the module leads to a function, and the module leads to a record.
* `Exports.TakesMethodName`, `Exports.TakesFunctionName`,
  `Exports.TakesStructName`: Something else has the name.

## Theorems

* `reached_or_taken`: Functions and records are reached unless their names are
  taken, and functions in one way only.
* `homonyms_unreached`: A library in which two functions and a record are not.
-/

namespace ScriptBind

namespace Exports

/-- The table of a class leads to a function. -/
def HasMethod (exports : Exports) (function : String) : Prop :=
  ∃ table ∈ exports.classes, ∃ row ∈ table.rows, row.target = .function function

/-- The table of the module leads to a function. -/
def HasFunction (exports : Exports) (function : String) : Prop :=
  ∃ row ∈ exports.moduleRows, row.target = .function function

/-- The table of the module leads to a record. -/
def HasStruct (exports : Exports) (struct : String) : Prop :=
  ∃ row ∈ exports.moduleRows, row.target = .struct struct

instance (exports : Exports) (function : String) : Decidable (exports.HasMethod function) :=
  inferInstanceAs (Decidable (∃ _ ∈ _, _))

instance (exports : Exports) (function : String) : Decidable (exports.HasFunction function) :=
  inferInstanceAs (Decidable (∃ _ ∈ _, _))

instance (exports : Exports) (struct : String) : Decidable (exports.HasStruct struct) :=
  inferInstanceAs (Decidable (∃ _ ∈ _, _))

/-- The name of a method in the table of a class is that of a method that comes
    before it. -/
def TakesMethodName (exports : Exports) (naming : Naming) (cls : ScriptClass) (method : String) :
    Prop :=
  ∃ table ∈ exports.classes, table.kind = .object ∧ table.name = cls.name ∧
    ∃ row ∈ table.rows, row.name = naming.methodName method cls.name ∧
      ∃ other, other ≠ method ∧ [other, method].Sublist cls.methods ∧ row.target = .function other

/-- The name of a function in the table of the module is that of a class or of
    another function. -/
def TakesFunctionName (exports : Exports) (naming : Naming) (function : String) : Prop :=
  ∃ row ∈ exports.moduleRows, row.name = naming.functionName function ∧
    ((∃ name, row.target = .cls name) ∨ ∃ other, other ≠ function ∧ row.target = .function other)

/-- The name of a record in the table of the module is that of a class, of a
    function, of an enum group or of another record. -/
def TakesStructName (exports : Exports) (naming : Naming) (struct : String) : Prop :=
  ∃ row ∈ exports.moduleRows, row.name = naming.simplify struct ∧
    ((∃ name, row.target = .cls name) ∨ (∃ cName, row.target = .function cName) ∨
      (∃ group, row.target = .enumClass group) ∨ ∃ other, other ≠ struct ∧
        row.target = .struct other)

end Exports

variable {naming : Naming} {model : ClassModel} {groups : Table EnumGroup} {exports : Exports}
  {middle after : Progress}

/-- Of the rows of a module only those of its own functions lead to functions. -/
theorem mem_moduleRows_function {functions : List String} {session : Session}
    {shown : List Instance} {row : Row}
    (hrow : row ∈ moduleRows naming model groups functions session shown) {name : String}
    (htarget : row.target = .function name) :
    name ∈ functions ∧ row.name = naming.functionName name := by
  have hlisted := mem_of_mem_firstOfEachName hrow
  simp only [List.mem_append, List.mem_map] at hlisted
  rcases hlisted with ((((⟨_, -, rfl⟩ | ⟨other, ho, rfl⟩) | ⟨_, -, rfl⟩) | ⟨_, -, rfl⟩) |
    ⟨_, -, rfl⟩) | ⟨_, -, rfl⟩ <;> simp only [Target.function.injEq, reduceCtorEq] at htarget
  subst htarget
  exact ⟨ho, rfl⟩

namespace Exports.Follows

variable (h : exports.Follows naming model groups middle after)

include h

/-- A function that is exported is noted at the end, and is one of the library. -/
theorem mem_names {name : String} (hm : name ∈ exports.functions.names) :
    after.wrapped.contains name ∧ name ∈ model.functions.map CFunction.name := by
  rw [h.functions] at hm
  have hc := Table.mem_names_iff.1 hm
  exact ⟨hc, h.sound.known name (Or.inl hc)⟩

/-- A function that a class has for a method is reached through the class, or a
    method before it has its name. -/
theorem hasMethod_or_taken {name : String} (hm : name ∈ exports.functions.names)
    {cls : ScriptClass} (hcls : cls ∈ model.inOrder) (hmethod : name ∈ cls.methods) :
    exports.HasMethod name ∨ exports.TakesMethodName naming cls name := by
  obtain ⟨hc, hn⟩ := h.mem_names hm
  have htried := (h.tried name hn).2 ⟨cls, hcls, hmethod⟩
  have hearly : middle.wrapped.contains name := by
    rw [← h.precedes.contains_of_tried h.sound htried]
    exact hc
  obtain ⟨table, htable, hkind, hname, further, hrows⟩ := h.tabled cls hcls
  have hfiltered : name ∈ cls.methods.filter middle.wrapped.contains :=
    List.mem_filter.2 ⟨hmethod, hearly⟩
  obtain ⟨kept, hk, hkept, hfrom⟩ := exists_mem_of_mapped
    (fun method => ⟨naming.methodName method cls.name, .function method⟩) [] hfiltered
  have hmem : kept ∈ table.rows := by
    rw [hrows]
    exact mem_firstOfEachName_append hk further
  rcases hfrom with rfl | hnone | ⟨other, hne, hbefore, rfl⟩
  · exact Or.inl ⟨table, htable, _, hmem, rfl⟩
  · cases hnone
  · exact Or.inr ⟨table, htable, hkind, hname, _, hmem, hkept, other, hne,
      hbefore.trans List.filter_sublist, rfl⟩

/-- A function that no class has for a method is reached through the module, or a
    class or another function has its name. -/
theorem hasFunction_or_taken {name : String} (hm : name ∈ exports.functions.names)
    (hfree : ∀ cls ∈ model.inOrder, name ∉ cls.methods) :
    exports.HasFunction name ∨ exports.TakesFunctionName naming name := by
  obtain ⟨hc, hn⟩ := h.mem_names hm
  have huntried : ¬middle.Tried name := fun ht => by
    obtain ⟨cls, hcls, hmethod⟩ := (h.tried name hn).1 ht
    exact hfree cls hcls hmethod
  obtain ⟨own, shown, hrows, hown⟩ := h.rows
  have hlisted : name ∈ own := (hown name).2 ⟨huntried, hc⟩
  obtain ⟨kept, hk, hname, hfrom⟩ := exists_mem_of_mapped
    (fun name => ⟨naming.functionName name, .function name⟩)
    (model.inOrder.map fun cls => ⟨cls.name, .cls cls.name⟩) hlisted
  have hmem : kept ∈ exports.moduleRows := by
    rw [hrows]
    -- Groups, records, typedefs and variables come later.
    exact mem_firstOfEachName_append (mem_firstOfEachName_append
      (mem_firstOfEachName_append (mem_firstOfEachName_append hk _) _) _) _
  rcases hfrom with rfl | hclass | ⟨other, hne, -, rfl⟩
  · exact Or.inl ⟨_, hmem, rfl⟩
  · obtain ⟨cls, -, rfl⟩ := List.mem_map.1 hclass
    exact Or.inr ⟨_, hmem, hname, Or.inl ⟨_, rfl⟩⟩
  · exact Or.inr ⟨_, hmem, hname, Or.inr ⟨other, hne, rfl⟩⟩

/-- A bound record is reached through the module, or something before it has its
    name. -/
theorem hasStruct_or_taken {bound : BoundStruct} (hb : bound ∈ after.session.boundStructs) :
    exports.HasStruct bound.name ∨ exports.TakesStructName naming bound.name := by
  obtain ⟨own, shown, hrows, -⟩ := h.rows
  have hlisted : bound.name ∈ after.session.boundStructs.map BoundStruct.name :=
    List.mem_map_of_mem hb
  obtain ⟨kept, hk, hname, hfrom⟩ := exists_mem_of_mapped
    (fun name => ⟨naming.simplify name, .struct name⟩)
    (model.inOrder.map (fun cls => ⟨cls.name, .cls cls.name⟩) ++
      own.map (fun name => ⟨naming.functionName name, .function name⟩) ++
      (groups.names.filter (!model.nestedEnums.contains ·)).map
        fun group => ⟨naming.enumName group, .enumClass group⟩) hlisted
  rw [List.map_map] at hk
  have hmem : kept ∈ exports.moduleRows := by
    rw [hrows]
    -- Typedefs and variables come later.
    exact mem_firstOfEachName_append (mem_firstOfEachName_append hk _) _
  rcases hfrom with rfl | hbefore | ⟨other, hne, -, rfl⟩
  · exact Or.inl ⟨_, hmem, rfl⟩
  · refine Or.inr ⟨_, hmem, hname, ?_⟩
    rw [List.mem_append, List.mem_append] at hbefore
    rcases hbefore with (hclass | hfunction) | hgroup
    · obtain ⟨cls, -, rfl⟩ := List.mem_map.1 hclass
      exact Or.inl ⟨_, rfl⟩
    · obtain ⟨name, -, rfl⟩ := List.mem_map.1 hfunction
      exact Or.inr (Or.inl ⟨_, rfl⟩)
    · obtain ⟨group, -, rfl⟩ := List.mem_map.1 hgroup
      exact Or.inr (Or.inr (Or.inl ⟨_, rfl⟩))
  · exact Or.inr ⟨_, hmem, hname, Or.inr (Or.inr (Or.inr ⟨other, hne, rfl⟩))⟩

/-- A function that is reached through the module has been tried by itself, with
    success. -/
theorem of_mem_moduleRows {row : Row} (hrow : row ∈ exports.moduleRows) {name : String}
    (htarget : row.target = .function name) :
    ¬middle.Tried name ∧ after.wrapped.contains name := by
  obtain ⟨own, shown, hrows, hown⟩ := h.rows
  exact (hown name).1 (mem_moduleRows_function (hrows ▸ hrow) htarget).1

/-- No function is reached both ways. -/
theorem not_both (name : String) : ¬(exports.HasMethod name ∧ exports.HasFunction name) := by
  rintro ⟨⟨table, htable, row, hrow, htarget⟩, row', hrow', htarget'⟩
  have hearly := h.backs table htable row hrow name htarget
  exact (h.of_mem_moduleRows hrow' htarget').1 (Or.inl hearly)

end Exports.Follows

/-- The classes written are those of the model. -/
theorem mem_inOrder_iff {cls : ScriptClass} : cls ∈ model.inOrder ↔ cls ∈ model.classes.values := by
  refine ⟨fun hm => ?_, mem_inOrder⟩
  obtain ⟨name, -, hget⟩ := List.mem_filterMap.1 hm
  exact List.mem_map.2 ⟨(name, cls), Table.mem_of_get? hget, rfl⟩

variable {decls : Declarations} {options : Options}

/-- The tables of a module follow the notes made while it was put together. -/
theorem exists_follows (decls : Declarations) (options : Options) :
    ∃ middle after, after.session = sessionAtEnd decls options ∧
      (assemble decls options).exports.Follows options.naming (modelOf decls options)
        (groupsOf decls options) middle after := by
  have hends : AssemblyM.Ends (libraryOf decls options)
      (assembleBody (modelOf decls options) (groupsOf decls options)) _ _ :=
    assembleBody_ends _ _ (.start options.naming)
  obtain ⟨middle, h⟩ := hends
  exact ⟨middle, _, rfl, h⟩

/-- A function that has a wrapper is reached through a class or else through the
    module, and never both ways, and a record that is bound is reached through the
    module, unless their names are taken. -/
theorem reached_or_taken (decls : Declarations) (options : Options) :
    (∀ name ∈ (assemble decls options).exports.functions.names,
      (assemble decls options).exports.HasMethod name ∨
        (assemble decls options).exports.HasFunction name ∨
        ((∃ cls ∈ (modelOf decls options).classes.values, name ∈ cls.methods) ∧
          ∀ cls ∈ (modelOf decls options).classes.values, name ∈ cls.methods →
            (assemble decls options).exports.TakesMethodName options.naming cls name) ∨
        ((∀ cls ∈ (modelOf decls options).classes.values, name ∉ cls.methods) ∧
          (assemble decls options).exports.TakesFunctionName options.naming name)) ∧
      (∀ name, ¬((assemble decls options).exports.HasMethod name ∧
        (assemble decls options).exports.HasFunction name)) ∧
      ∀ bound ∈ (sessionAtEnd decls options).boundStructs,
        (assemble decls options).exports.HasStruct bound.name ∨
          (assemble decls options).exports.TakesStructName options.naming bound.name := by
  obtain ⟨middle, after, hsession, h⟩ := exists_follows decls options
  refine ⟨fun name hname => ?_, h.not_both, fun bound hbound =>
    h.hasStruct_or_taken (hsession ▸ hbound)⟩
  by_cases hreached : (assemble decls options).exports.HasMethod name
  · exact Or.inl hreached
  by_cases hmethod : ∃ cls ∈ (modelOf decls options).classes.values, name ∈ cls.methods
  · refine Or.inr (Or.inr (Or.inl ⟨hmethod, fun cls hcls hm => ?_⟩))
    exact (h.hasMethod_or_taken hname (mem_inOrder hcls) hm).resolve_left hreached
  · have hfree : ∀ cls ∈ (modelOf decls options).classes.values, name ∉ cls.methods :=
      fun cls hcls hm => hmethod ⟨cls, hcls, hm⟩
    rcases h.hasFunction_or_taken hname fun cls hcls => hfree cls (mem_inOrder_iff.1 hcls) with
      hlisted | htaken
    · exact Or.inr (Or.inl hlisted)
    · exact Or.inr (Or.inr (Or.inr ⟨hfree, htaken⟩))

/-- Functions of which two are called alike, of which two are methods of a class
    called alike, and two records. -/
def homonyms : Declarations where
  records := .ofRows
    [("lv_obj_t", ⟨"lv_obj_t", .struct, [⟨"id", .builtin "int", none⟩]⟩),
      ("lv_area", ⟨"lv_area", .struct, [⟨"x", .builtin "int", none⟩]⟩),
      ("LV_area", ⟨"LV_area", .struct, [⟨"y", .builtin "int", none⟩]⟩)]
  functions :=
    [⟨"lv_obj_create", .pointerTo (.named "lv_obj_t"),
        [⟨"parent", .pointerTo (.named "lv_obj_t")⟩, ⟨"copy", .pointerTo (.named "lv_obj_t")⟩],
          false⟩,
      ⟨"lv_obj_del", .void, [⟨"obj", .pointerTo (.named "lv_obj_t")⟩], false⟩,
      ⟨"lv_obj_delete", .void, [⟨"obj", .pointerTo (.named "lv_obj_t")⟩], false⟩,
      ⟨"lv_tick", .void,
        [⟨"a", .pointerTo (.named "lv_area")⟩, ⟨"b", .pointerTo (.named "LV_area")⟩], false⟩,
      ⟨"LV_tick", .void, [], false⟩]

set_option maxRecDepth 100000 in
/-- The later ones are out of reach: a method, a function of the module and a
    record. -/
theorem homonyms_out_of_reach :
    (∀ name ∈ ["lv_obj_delete", "LV_tick"],
      name ∈ (assemble homonyms { moduleName := "m", scope := some "lv" }).exports.functions.names ∧
        ¬(assemble homonyms { moduleName := "m", scope := some "lv" }).exports.HasMethod name ∧
        ¬(assemble homonyms { moduleName := "m", scope := some "lv" }).exports.HasFunction name) ∧
      ∃ bound ∈ (sessionAtEnd homonyms { moduleName := "m", scope := some "lv" }).boundStructs,
        ¬(assemble homonyms { moduleName := "m", scope := some "lv" }).exports.HasStruct
          bound.name := by
  decide +kernel

/-- So not all functions and records are reached. -/
theorem homonyms_unreached :
    ¬((∀ name ∈
          (assemble homonyms { moduleName := "m", scope := some "lv" }).exports.functions.names,
        (assemble homonyms { moduleName := "m", scope := some "lv" }).exports.HasMethod name ∨
          (assemble homonyms { moduleName := "m", scope := some "lv" }).exports.HasFunction name) ∧
      (∀ name,
        ¬((assemble homonyms { moduleName := "m", scope := some "lv" }).exports.HasMethod name ∧
          (assemble homonyms { moduleName := "m", scope := some "lv" }).exports.HasFunction name)) ∧
      ∀ bound ∈ (sessionAtEnd homonyms { moduleName := "m", scope := some "lv" }).boundStructs,
        (assemble homonyms { moduleName := "m", scope := some "lv" }).exports.HasStruct
          bound.name) := by
  rintro ⟨hreached, -, -⟩
  obtain ⟨hname, hmethod, hfunction⟩ := homonyms_out_of_reach.1 "LV_tick" (by decide)
  exact (hreached "LV_tick" hname).elim hmethod hfunction

end ScriptBind
