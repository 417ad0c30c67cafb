import ScriptBind.Module.Basic

/-!
# What the Text of a Section Defines

A section says what it is code for, and other sections go by that: they call the
converters of a record, and the tables lead to the wrappers of functions. Whether
the names that they use are there is a question about the text, and here it is
answered: whatever a section is relied upon to define has a line in its text that
begins the definition.

## Main definitions

* `Section.provides`: The converters that a piece of code defines.
* `Defines`: A line begins the definition of a name.
* `DefinesAccessor`, `DefinesWrapper`: Lines that define all that the code for a
  record, or for a function, is relied upon for.

## Theorems

* `Section.provides_lines`: What a piece of code defines has a line that says so.
* `Accessor.defines_lines`, `Wrapper.defines_lines`: The texts of the code for
  records and for functions.
-/

namespace ScriptBind

/-- The converters that a piece of code defines. -/
def Section.provides : Section → List String
  | .accessor code =>
    ["mp_write_", "mp_read_", "mp_read_byref_", "mp_write_ptr_", "mp_read_ptr_"].map
    (· ++ code.name)
  | .arrayConverter code => [code.toArray, code.fromArray]
  | _ => []

/-- A line begins the definition of a function or of a macro. -/
def Defines (line name : String) : Prop :=
  ∃ lead rest, line = lead ++ name ++ "(" ++ rest ∧
    (lead = "#define " ∨ ∃ type, lead = "STATIC " ++ type)

/-- The converters of a record are three macros and two functions. -/
theorem Accessor.provides_lines {code : Accessor} {name : String}
    (h : name ∈ (Section.accessor code).provides) : ∃ line ∈ code.lines, Defines line name := by
  -- The converters stand in the middle of the code.
  have hlines : ∀ line ∈ code.converters, line ∈ code.lines := by
    intro line hm
    rw [Accessor.lines, List.mem_append, List.mem_append, List.mem_append, List.mem_append,
      List.mem_append]
    exact Or.inl (Or.inl (Or.inl (Or.inl (Or.inr hm))))
  suffices hdefined : ∃ line ∈ code.converters, Defines line name by
    obtain ⟨line, hm, hd⟩ := hdefined
    exact ⟨line, hlines line hm, hd⟩
  obtain ⟨record, type, accesses⟩ := code
  simp only [Section.provides, List.map_cons, List.map_nil, List.mem_cons, List.not_mem_nil,
    or_false] at h
  -- That a line begins as it should is seen by comparing texts letter by letter.
  rcases h with rfl | rfl | rfl | rfl | rfl
  · refine ⟨s!"#define mp_write_{record}(struct_obj) *mp_write_ptr_{record}(struct_obj)",
      by simp [Accessor.converters], "#define ",
      "struct_obj) *mp_write_ptr_" ++ record ++ "(struct_obj)", ?_, Or.inl rfl⟩
    simp [← String.toList_inj, toString]
  · refine ⟨
      s!"#define mp_read_{record}(field) mp_read_ptr_{record}(copy_buffer(&field, sizeof({type})))",
      by simp [Accessor.converters], "#define ",
      "field) mp_read_ptr_" ++ record ++ "(copy_buffer(&field, sizeof(" ++ type ++ ")))", ?_,
      Or.inl rfl⟩
    simp [← String.toList_inj, toString]
  · refine ⟨s!"#define mp_read_byref_{record}(field) mp_read_ptr_{record}(&field)",
      by simp [Accessor.converters], "#define ", "field) mp_read_ptr_" ++ record ++ "(&field)", ?_,
      Or.inl rfl⟩
    simp [← String.toList_inj, toString]
  · refine ⟨s!"STATIC inline {type}* mp_write_ptr_{record}(mp_obj_t self_in)",
      by simp [Accessor.converters, Text.headed], "STATIC " ++ ("inline " ++ type ++ "* "),
      "mp_obj_t self_in)", ?_, Or.inr ⟨_, rfl⟩⟩
    simp [← String.toList_inj, toString]
  · refine ⟨s!"STATIC inline mp_obj_t mp_read_ptr_{record}({type} *field)",
      by simp [Accessor.converters, Text.headed], "STATIC " ++ "inline mp_obj_t ",
      type ++ " *field)", ?_, Or.inr ⟨_, rfl⟩⟩
    simp [← String.toList_inj, toString]

/-- The converters of an array type are two functions. -/
theorem ArrayConverter.provides_lines {code : ArrayConverter} {name : String}
    (h : name ∈ (Section.arrayConverter code).provides) :
    ∃ line ∈ code.lines, Defines line name := by
  have hfunction : ∀ type rest : String, "STATIC " ++ type ++ name ++ "(" ++ rest ∈ code.lines →
      ∃ line ∈ code.lines, Defines line name :=
    fun type rest hm => ⟨_, hm, "STATIC " ++ type, rest, rfl, Or.inr ⟨type, rfl⟩⟩
  simp only [Section.provides, List.mem_cons, List.not_mem_nil, or_false] at h
  rcases h with rfl | rfl
  · refine hfunction (code.element.qualified ++ " *") "mp_obj_t mp_arr)" ?_
    simp [ArrayConverter.lines, Text.headed, ← String.toList_inj, toString]
  · refine hfunction "mp_obj_t " (code.element.qualified ++ " *arr)") ?_
    simp [ArrayConverter.lines, Text.headed, ← String.toList_inj, toString]

/-- What a piece of code defines has a line that says so. -/
theorem Section.provides_lines (moduleName : String) {code : Section} {name : String}
    (h : name ∈ code.provides) : ∃ line ∈ code.lines moduleName, Defines line name := by
  cases code with
  | accessor code => exact code.provides_lines h
  | arrayConverter code => exact code.provides_lines h
  | _ => cases h

/-- The functions by which the script's type for a record works. -/
def Accessor.functions (code : Accessor) : List String :=
  ["mp_" ++ code.name ++ "_attr", "mp_" ++ code.name ++ "_print"]

/-- Some lines define the converters of a record and the functions by which the
    script's type for it works. -/
def DefinesAccessor (lines : List String) (code : Accessor) : Prop :=
  ∀ name ∈ (Section.accessor code).provides ++ code.functions, ∃ line ∈ lines, Defines line name

theorem Accessor.functions_lines {code : Accessor} {name : String} (h : name ∈ code.functions) :
    ∃ line ∈ code.lines, Defines line name := by
  have hlines : ∀ line ∈ code.attributes ++ code.typeObject, line ∈ code.lines := by
    intro line hm
    rw [Accessor.lines]
    rcases List.mem_append.1 hm with hm | hm
    · exact List.mem_append_left _ (List.mem_append_left _ (List.mem_append_right _ hm))
    · exact List.mem_append_right _ hm
  obtain ⟨record, type, accesses⟩ := code
  simp only [Accessor.functions, List.mem_cons, List.not_mem_nil, or_false] at h
  rcases h with rfl | rfl
  · refine ⟨s!"STATIC void mp_{record}_attr(mp_obj_t self_in, qstr attr, mp_obj_t *dest)",
      hlines _ (by simp [Accessor.attributes, Text.headed]), "STATIC " ++ "void ",
      "mp_obj_t self_in, qstr attr, mp_obj_t *dest)", ?_, Or.inr ⟨_, rfl⟩⟩
    simp [← String.toList_inj, toString]
  · refine ⟨s!"STATIC void mp_{record}_print(const mp_print_t *print,",
      hlines _ (by simp [Accessor.typeObject]), "STATIC " ++ "void ",
        "const mp_print_t *print,", ?_,
      Or.inr ⟨_, rfl⟩⟩
    simp [← String.toList_inj, toString]

/-- The text of the code for a record defines all that it is relied upon for. -/
theorem Accessor.defines_lines (code : Accessor) : DefinesAccessor code.lines code := by
  intro name hm
  rcases List.mem_append.1 hm with hm | hm
  · exact code.provides_lines hm
  · exact code.functions_lines hm

/-- The line that makes the wrapper of a function an object of the script. -/
def objectLine (function : String) (count : Nat) : String :=
  s!"STATIC MP_DEFINE_CONST_LV_FUN_OBJ_VAR(mp_{function}_obj, {count}, mp_{function}, {function});"

/-- Some lines define the wrapper of a function and the object that stands for it. -/
def DefinesWrapper (lines : List String) (function : String) : Prop :=
  (∃ line ∈ lines, Defines line ("mp_" ++ function)) ∧ ∃ count, objectLine function count ∈ lines

/-- The text of the code for a function defines all that it is relied upon for. -/
theorem Wrapper.defines_lines (moduleName : String) (code : Wrapper) :
    DefinesWrapper (code.lines moduleName) code.function.name := by
  constructor
  · refine ⟨s!"STATIC mp_obj_t mp_{code.function.name}(size_t mp_n_args, const mp_obj_t *mp_args)",
      by simp [Wrapper.lines, Text.headed], "STATIC " ++ "mp_obj_t ",
      "size_t mp_n_args, const mp_obj_t *mp_args)", ?_, Or.inr ⟨_, rfl⟩⟩
    simp [← String.toList_inj, toString]
  · refine ⟨code.arguments.length, ?_⟩
    rw [Wrapper.lines]
    exact List.mem_append_right _ (List.mem_cons_of_mem _ (List.mem_singleton_self _))

/-- The lines of a section are lines of the module. -/
theorem Module.mem_lines {module : Module} {code : Section} (h : code ∈ module.body) {line : String}
    (hl : line ∈ code.lines module.naming.moduleName) : line ∈ module.lines :=
  List.mem_append_left _ (List.mem_append_right _ (List.mem_flatMap.2 ⟨code, h, hl⟩))

end ScriptBind
