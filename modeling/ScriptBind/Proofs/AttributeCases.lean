import ScriptBind.Code.Accessor

/-!
# The Cases of an Accessor

A script loads and stores a member of a record by one function, which has a switch for each of the
two. What cases the code has is read off its text here: the switch behind a remark is looked for,
and its cases are what stands between its braces. Whatever the names in the code are, there is one
case for each way to a member where members are loaded, and one where they are stored, both in
order; besides these there is a case that a script uses to get at the record itself, and one for
everything else.

## Main definitions

* `Text.switchCases`: The cases of the switch behind a remark.
* `Text.switch`: A switch with its remark.
* `Accessor.loadCases`, `Accessor.storeCases`: The cases in the code for a record.
* `Accessor.HasCases`: One case for each way to a member, where it is loaded and where it is stored.

## Theorems

* `Text.switchCases_switch`: A switch is found by its remark.
* `Accessor.lines_eq`: The code for a record has two switches.
* `Accessor.hasCases`: The code for a record has the cases of its ways.
-/

namespace ScriptBind

namespace Text

/-- The cases of the switch behind a remark, as lines of the text that it stands in. -/
def switchCases (margin remark : String) (lines : List String) : List String :=
  match lines.dropWhile (· != margin ++ remark) with
  | _ :: head :: brace :: rest =>
    if head = margin ++ "switch(attr)" ∧ brace = margin ++ "\x7b" then
      rest.takeWhile (· != margin ++ "\x7d")
    else []
  | _ => []

/-- A line is moved in by the margin that it has got and one step more. -/
theorem indented_margin {margin : String} (h : margin ≠ "") (line : String) :
    indented (margin ++ line) = "    " ++ margin ++ line := by
  rw [indented, if_neg, String.append_assoc]
  intro he
  simp [h] at he

/-- A switch with its remark. -/
def switch (margin remark : String) (cases : List String) : List String :=
  [margin ++ remark, margin ++ "switch(attr)", margin ++ "\x7b"] ++ cases ++ [margin ++ "\x7d"]

/-- A switch is found by its remark, and ends where its brace is closed. -/
theorem switchCases_switch {margin remark : String} {front cases : List String}
    (hfront : margin ++ remark ∉ front) (hcases : margin ++ "\x7d" ∉ cases) (back : List String) :
    switchCases margin remark (front ++ switch margin remark cases ++ back) = cases := by
  have hbefore : ∀ line ∈ front, (line != margin ++ remark) = true := by
    intro line hm
    rw [bne_iff_ne]
    exact fun he => hfront (he ▸ hm)
  have hinside : ∀ line ∈ cases, (line != margin ++ "\x7d") = true := by
    intro line hm
    rw [bne_iff_ne]
    exact fun he => hcases (he ▸ hm)
  rw [switchCases, List.append_assoc, List.dropWhile_append_of_pos hbefore]
  simp [switch, List.takeWhile_append_of_pos hinside]

end Text

namespace Access

/-- A case begins with the word for one, whatever its member is called. -/
theorem head?_case (field statement remark : String) :
    (case field statement remark).toList.head? = some 'c' := by
  unfold case
  simp only [toString, String.append_assoc, String.toList_append, List.head?_append]
  rfl

/-- So it is no blank line, and is moved in. -/
theorem indented_case (field statement remark : String) :
    Text.indented (case field statement remark) = "    " ++ case field statement remark := by
  refine if_neg fun he => ?_
  have hhead := head?_case field statement remark
  rw [he] at hhead
  cases hhead

/-- Every way to a member has a case of its name. -/
theorem exists_load (access : Access) :
    ∃ statement remark, access.load = case access.field statement remark := by
  cases access <;> exact ⟨_, _, rfl⟩

theorem exists_store (access : Access) :
    ∃ statement remark, access.store = case access.field statement remark := by
  cases access <;> exact ⟨_, _, rfl⟩

theorem indented_load (access : Access) : Text.indented access.load = "    " ++ access.load := by
  obtain ⟨statement, remark, he⟩ := access.exists_load
  rw [he, indented_case]

theorem indented_store (access : Access) : Text.indented access.store = "    " ++ access.store := by
  obtain ⟨statement, remark, he⟩ := access.exists_store
  rw [he, indented_case]

end Access

namespace Accessor

/-- The cases where members are loaded. -/
def loadCases (code : Accessor) : List String :=
  Text.switchCases "        " "// load attribute" code.lines

/-- The cases where members are stored. -/
def storeCases (code : Accessor) : List String :=
  Text.switchCases "            " "// store attribute" code.lines

/-- The case by which a script gets at the record itself. -/
def dereferenceCase : List String :=
  ["case MP_QSTR___dereference__: \x7b", "    dest[0] = (void*)&mp_lv_dereference_obj;",
    "    dest[1] = self_in;", "\x7d", "break;"]

/-- The lines of the function that loads and stores members up to the first switch. -/
def attributesHead (code : Accessor) : List String :=
  [s!"STATIC void mp_{code.name}_attr(mp_obj_t self_in, qstr attr, mp_obj_t *dest)", "\x7b",
    "    mp_lv_struct_t *self = MP_OBJ_TO_PTR(self_in);",
    s!"    {code.type} *data = ({code.type}*)self->data;",
    "", "    if (dest[0] == MP_OBJ_NULL) \x7b"]

/-- The cases where members are loaded, as they stand in the text. -/
def loadLines (code : Accessor) : List String :=
  (code.accesses.map Access.load ++ dereferenceCase).map fun line => "            " ++ line

/-- The cases where members are stored, as they stand in the text. -/
def storeLines (code : Accessor) : List String :=
  (code.accesses.map Access.store ++ ["default: return;"]).map fun line =>
    "                " ++ line

/-- What stands between the two switches. -/
def betweenSwitches : List String := ["    \x7d else \x7b", "        if (dest[1])", "        \x7b"]

open Text in
/-- The function that loads and stores members has two switches. -/
theorem attributes_eq (code : Accessor) : code.attributes =
    code.attributesHead ++ switch "        " "// load attribute" code.loadLines ++
      betweenSwitches ++ switch "            " "// store attribute" code.storeLines ++
      ["", "            dest[0] = MP_OBJ_NULL; // indicate success",
        "        \x7d", "    \x7d", "\x7d"] := by
  have hload : indented ∘ indented ∘ indented ∘ Access.load =
      (fun line => "            " ++ line) ∘ Access.load := by
    funext access
    simp [Access.indented_load, indented_margin]
  have hstore : indented ∘ indented ∘ indented ∘ indented ∘ Access.store =
      (fun line => "                " ++ line) ∘ Access.store := by
    funext access
    simp [Access.indented_store, indented_margin]
  have htype : indented s!"{code.type} *data = ({code.type}*)self->data;" =
      s!"    {code.type} *data = ({code.type}*)self->data;" := by
    rw [indented, if_neg (by simp [toString])]
    simp [toString, String.append_assoc]
  simp [attributes, loading, storing, headed, braced, enclosed, attributesHead, switch,
    loadLines, storeLines, betweenSwitches, dereferenceCase, hload, hstore, htype]
  simp [indented]

/-- What stands before the function that loads and stores members. -/
def upToAttributes (code : Accessor) : List String :=
  "" :: Text.comment [s!"Struct {code.name}"] ++ [""] ++ code.forward ++ code.converters ++ [""]

/-- A remark ends unlike the line that knows the type of the record. -/
theorem remark_ne_data {remark : String} (type : String) (h : remark.toList.getLast? ≠ some ';') :
    remark ≠ s!"    {type} *data = ({type}*)self->data;" := by
  rintro rfl
  refine h ?_
  rw [String.toList_append, List.getLast?_append]
  rfl

/-- The declarations of trampolines are no remarks. -/
theorem blank_not_mem_forward {remark : String} (h : remark.toList.head? = some ' ')
    (code : Accessor) : remark ∉ code.forward := by
  have hne : ∀ callback : Callback, remark ≠ callback.forwardDeclaration := by
    rintro callback rfl
    simp [Callback.forwardDeclaration, Callback.head, toString] at h
  have hempty : remark ≠ "" := by
    rintro rfl
    cases h
  rw [forward]
  split
  · exact List.not_mem_nil
  · simp only [List.mem_append, List.mem_map, List.mem_singleton, hempty, or_false]
    rintro ⟨callback, -, he⟩
    exact hne callback he.symm

/-- What stands before the first switch is not its remark, and not that of the second. -/
theorem remark_not_mem {remark : String}
    (h : remark = "        // load attribute" ∨ remark = "            // store attribute")
    (code : Accessor) : remark ∉ code.upToAttributes ++ code.attributesHead := by
  have hforward : remark ∉ code.forward := by
    refine blank_not_mem_forward ?_ code
    rcases h with rfl | rfl <;> rfl
  have hdata : remark ≠ s!"    {code.type} *data = ({code.type}*)self->data;" := by
    refine remark_ne_data code.type ?_
    rcases h with rfl | rfl <;> decide
  -- All other lines begin in another way, whatever the record is called.
  simp only [upToAttributes, attributesHead, List.mem_append, List.mem_cons, hforward, hdata]
  rcases h with rfl | rfl <;>
  simp [Text.comment, Text.starred, converters, Text.headed, Text.braced, Text.enclosed,
    Text.indented, ← String.toList_inj, toString]

/-- Lines that stand further in do not close a switch. -/
theorem closing_not_mem {margin deeper : String}
    (h : ∀ line : String, deeper ++ line ≠ margin ++ "\x7d") (lines : List String) :
    margin ++ "\x7d" ∉ lines.map fun line => deeper ++ line := by
  intro hm
  obtain ⟨line, -, he⟩ := List.mem_map.1 hm
  exact h line he

/-- The code for a record has two switches, the second behind the first. -/
theorem lines_eq (code : Accessor) : ∃ back, code.lines =
    code.upToAttributes ++ code.attributesHead ++
      Text.switch "        " "// load attribute" code.loadLines ++ betweenSwitches ++
      Text.switch "            " "// store attribute" code.storeLines ++ back := by
  refine ⟨["", "            dest[0] = MP_OBJ_NULL; // indicate success",
    "        \x7d", "    \x7d", "\x7d", ""] ++ code.typeObject, ?_⟩
  simp [lines, attributes_eq, upToAttributes]

/-- Where members are loaded there is one case for each way to a member, in order, and where they
    are stored there is one as well. -/
structure HasCases (code : Accessor) : Prop where
  /-- What is loaded. Besides the members there is the record itself. -/
  load : code.loadCases =
    (code.accesses.map Access.load ++ dereferenceCase).map fun line => "            " ++ line
  /-- What is stored. All else is left alone. -/
  store : code.storeCases =
    (code.accesses.map Access.store ++ ["default: return;"]).map fun line =>
      "                " ++ line

/-- The cases where members are loaded are no remarks. -/
theorem remark_not_mem_loadLines (code : Accessor) :
    "            // store attribute" ∉ code.loadLines := by
  intro hm
  obtain ⟨line, hline, he⟩ := List.mem_map.1 hm
  rcases List.mem_append.1 hline with hcase | hdereference
  · obtain ⟨access, -, rfl⟩ := List.mem_map.1 hcase
    obtain ⟨statement, remark, hload⟩ := access.exists_load
    have hhead := Access.head?_case access.field statement remark
    have hremark : "            // store attribute" = "            " ++ "// store attribute" := rfl
    rw [hremark, String.append_right_inj] at he
    rw [← hload, he] at hhead
    cases hhead
  · have hplain : ∀ line ∈ dereferenceCase,
        "            " ++ line ≠ "            // store attribute" := by decide
    exact hplain line hdereference he

/-- The code for a record has the cases of its ways, whatever they are. -/
theorem hasCases (code : Accessor) : code.HasCases := by
  obtain ⟨back, hlines⟩ := code.lines_eq
  constructor
  · rw [loadCases, hlines, List.append_assoc _ _ back, List.append_assoc _ betweenSwitches]
    refine Text.switchCases_switch (code.remark_not_mem (Or.inl rfl)) (closing_not_mem ?_ _) _
    intro line
    simp [← String.toList_inj]
  · have hfront : "            // store attribute" ∉ code.upToAttributes ++ code.attributesHead ++
        Text.switch "        " "// load attribute" code.loadLines ++ betweenSwitches := by
      simpa [Text.switch, betweenSwitches, code.remark_not_mem_loadLines]
        using code.remark_not_mem (Or.inr rfl)
    rw [storeCases, hlines]
    refine Text.switchCases_switch hfront (closing_not_mem ?_ _) _
    intro line
    simp [← String.toList_inj]

end Accessor

end ScriptBind
