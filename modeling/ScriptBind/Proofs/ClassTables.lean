import Mathlib.Data.List.Forall2
import ScriptBind.Proofs.FunctionPlaces

/-!
# The Tables of Classes

What is written of classes, whichever functions get wrappers. There is a table
for each enum group and one for each class, in order, and these are all. A table
of a class is named like the class and has its constructor; no name in a table
has two rows, and no row leads to a class of objects, a record or a variable,
which are found in the module only.

The rows that a class takes from its parent are those of a table written before,
so what holds of the rows of all tables is shown of the tables one after another.

## Main definitions

* `Target.isAttribute`: What the row of a class may lead to.
* `ClassTable.Portrays`: A table shows a class.
* `ClassTable.IsProper`: A table in itself.

## Theorems

* `Progress.classTables_portray`: Each class has its table, in order.
* `classes_assemble`: The tables of a module.
-/

namespace ScriptBind

/-- What stands in the one list has its counterpart in the other. -/
theorem exists_of_forall₂ {α β : Type} {R : α → β → Prop} {items : List α} {others : List β}
    (h : List.Forall₂ R items others) {item : α} (hm : item ∈ items) :
    ∃ other ∈ others, R item other := by
  induction h with
  | nil => cases hm
  | cons hr _ ih =>
      rcases List.mem_cons.1 hm with rfl | hm
      · exact ⟨_, List.mem_cons_self .., hr⟩
      · obtain ⟨other, ho, hr⟩ := ih hm
        exact ⟨other, List.mem_cons_of_mem _ ho, hr⟩

/-- What counterparts have in common makes the same list of both. -/
theorem map_eq_of_forall₂ {α β γ : Type} {R : α → β → Prop} {items : List α} {others : List β}
    {f : α → γ} {g : β → γ} (h : List.Forall₂ R items others)
    (he : ∀ item other, R item other → f item = g other) : items.map f = others.map g := by
  rw [← List.forall₂_eq_eq_eq, List.forall₂_map_left_iff, List.forall₂_map_right_iff]
  exact h.imp he

/-- Whether a class may have a row for a target. -/
def Target.isAttribute : Target → Bool
  | .function _ => true
  | .number _ _ => true
  | .text _ _ => true
  | .enumClass _ => true
  | _ => false

namespace ClassTable

/-- A table has no name twice, and only rows that a class may have. -/
structure IsProper (table : ClassTable) : Prop where
  /-- The names are different. -/
  distinct : (table.rows.map Row.name).Nodup
  /-- The rows lead to what a class may show. -/
  attributes : ∀ row ∈ table.rows, row.target.isAttribute

/-- A table shows a class. -/
structure Portrays (cls : ScriptClass) (table : ClassTable) : Prop where
  /-- It is the table of an object. -/
  kind : table.kind = .object
  /-- It is named like the class. -/
  name : table.name = cls.name
  /-- It has the class's constructor. -/
  constructor : table.constructor = cls.constructor
  /-- It is as tables are. -/
  proper : table.IsProper

end ClassTable

theorem attribute_of_mem_memberRows {group : EnumGroup} {row : Row} (h : row ∈ group.memberRows) :
    row.target.isAttribute := by
  obtain ⟨⟨label, value⟩, -, rfl⟩ := List.mem_map.1 h
  cases value with
  | number cName value => rfl
  | text cName written => rfl

/-- The names of an enum group's members are different. -/
theorem EnumGroup.isProper_table (group : EnumGroup) : group.table.IsProper where
  distinct := by
    show (group.memberRows.map Row.name).Nodup
    rw [memberRows, List.map_map]
    exact group.members.distinct
  attributes := fun _ hm => attribute_of_mem_memberRows hm

/-- What a class has besides its own methods may be shown, if that is so of the
    tables built before. -/
theorem attribute_of_mem_furtherRows {naming : Naming} {groups : Table EnumGroup}
    {built : Table (List Row)}
    (hb : ∀ name rows, built.get? name = some rows → ∀ row ∈ rows, row.target.isAttribute)
    {cls : ScriptClass} {row : Row} (h : row ∈ furtherRows naming groups built cls) :
    row.target.isAttribute := by
  rcases mem_furtherRows h with ⟨parent, rows, hbuilt, hrow⟩ | ⟨-, group, -, hrow⟩ | ⟨group, -, rfl⟩
  · exact hb parent rows hbuilt row hrow
  · exact attribute_of_mem_memberRows hrow
  · rfl

/-- Each class has its table, in order, by the notes. -/
theorem Progress.classTables_portray (progress : Progress) (naming : Naming)
    (groups : Table EnumGroup) (classes : List ScriptClass) :
    List.Forall₂ ClassTable.Portrays classes
      (progress.classTables naming groups .empty classes) := by
  have hattributes : ∀ table ∈ progress.classTables naming groups .empty classes,
      ∀ row ∈ table.rows, row.target.isAttribute := by
    refine Progress.classTables_induct (P := fun rows => ∀ row ∈ rows, row.target.isAttribute)
      (fun built hb cls _ row hrow => ?_) fun _ _ h => by cases h
    rcases List.mem_append.1 (mem_of_mem_firstOfEachName hrow) with hm | hm
    · obtain ⟨method, -, rfl⟩ := List.mem_map.1 hm
      rfl
    · exact attribute_of_mem_furtherRows hb hm
  generalize (Table.empty : Table (List Row)) = built at hattributes
  induction classes generalizing built with
  | nil => exact .nil
  | cons cls rest ih =>
      rw [Progress.classTables] at hattributes ⊢
      obtain ⟨hfirst, hrest⟩ := List.forall_mem_cons.1 hattributes
      exact .cons ⟨rfl, rfl, rfl, nodup_firstOfEachName _, hfirst⟩ (ih _ hrest)

/-- The tables of a module that is put together from what a library declares. -/
theorem classes_assemble (decls : Declarations) (options : Options) :
    ∃ objects, (assemble decls options).exports.classes =
        (groupsOf decls options).values.map EnumGroup.table ++ objects ∧
      List.Forall₂ ClassTable.Portrays (modelOf decls options).inOrder objects := by
  obtain ⟨middle, _, -, hfollows⟩ := exists_follows decls options
  exact ⟨_, hfollows.classes, middle.classTables_portray _ _ _⟩

end ScriptBind
