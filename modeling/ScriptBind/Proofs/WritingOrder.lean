import Mathlib.Data.List.Chain
import Mathlib.Data.List.Perm.Subperm
import Mathlib.Logic.Relation
import ScriptBind.Proofs.Exposure

/-!
# The Order of Writing

Parents may be anything: a class may derive from one that is not there, from itself or
from one of its descendants. The order of writing comes to an end all the same and has
every class once. A line of ancestors is cut where it comes to a class that is placed, to
one it has met, or to nothing, and only a line that has met a class of its own leaves a
class without its parent before it: the oldest of the line, which is on a circle with
that class. Every other class has its parent before it.

The steps that a line is given are as many as there are classes and one more. All classes
of a line are different, and only its oldest one can be missing, so a line that takes
every step has come to a class that is missing and would end there anyway.

## Main definitions

* `DerivesFrom`: One class derives directly from another.
* `OnCircle`: A class that descends from itself.
* `IsLine`: Classes each of which derives from the one before.
* `ParentsPrecede`: Names in an order that has parents first, circles apart.

## Theorems

* `lineTo_ends`: Where a line ends, and that no step is missing.
* `parentsPrecede_placed`: The order of writing has parents first, circles apart.
* `inOrder_perm`: Every class is written once.
* `inOrder_complete`: Every class is written once, and after its parent if it can be.
-/

namespace ScriptBind

/-- A class derives directly from another. -/
def DerivesFrom (classes : Table ScriptClass) (name parent : String) : Prop :=
  (classes.get? name).bind ScriptClass.parent = some parent

instance (classes : Table ScriptClass) (name parent : String) :
    Decidable (DerivesFrom classes name parent) :=
  inferInstanceAs (Decidable (_ = _))

/-- A class descends from itself. -/
def OnCircle (classes : Table ScriptClass) (name : String) : Prop :=
  Relation.TransGen (DerivesFrom classes) name name

/-- Classes each of which derives from the one before, and what the oldest derives from. -/
structure IsLine (classes : Table ScriptClass) (line : List String) (next : Option String) :
    Prop where
  /-- Each derives from the one before. -/
  chain : line.IsChain fun older name => DerivesFrom classes name older
  /-- The oldest derives from the next. -/
  next : ∀ oldest ∈ line.head?, (classes.get? oldest).bind ScriptClass.parent = next

/-- Names in an order that has the parent of each before it, or among some that have been
    placed already, but for the names on a circle. -/
def ParentsPrecede (classes : Table ScriptClass) (placed names : List String) : Prop :=
  ∀ before name after, names = before ++ name :: after → ¬OnCircle classes name →
    ∀ parent, DerivesFrom classes name parent → parent ∈ placed ++ before

variable {classes : Table ScriptClass} {name parent : String}

theorem DerivesFrom.unique {other : String} (h : DerivesFrom classes name parent)
    (h' : DerivesFrom classes name other) : parent = other :=
  Option.some.inj (h.symm.trans h')

theorem DerivesFrom.mem_names (h : DerivesFrom classes name parent) : name ∈ classes.names := by
  obtain ⟨cls, hget, -⟩ := Option.bind_eq_some_iff.1 h
  exact List.mem_map_of_mem (Table.mem_of_get? hget)

namespace IsLine

variable {line placed : List String} {next : Option String}

theorem nil (next : Option String) : IsLine classes [] next :=
  ⟨.nil, fun _ h => by cases h⟩

/-- A line goes on with what its oldest member derives from. -/
theorem cons (h : IsLine classes line (some name)) :
    IsLine classes (name :: line) ((classes.get? name).bind ScriptClass.parent) := by
  refine ⟨?_, fun oldest he => by rw [← Option.some.inj he]⟩
  cases line with
  | nil => exact .singleton name
  | cons first rest => exact List.isChain_cons_cons.2 ⟨h.next first rfl, h.chain⟩

/-- What a member of a line derives from is before it, or it is the oldest and derives
    from the next. -/
theorem parent_mem (h : IsLine classes line next) {before after : List String}
    (he : line = before ++ name :: after) (hd : DerivesFrom classes name parent) :
    parent ∈ before ∨ before = [] ∧ next = some parent := by
  subst he
  rcases List.eq_nil_or_concat before with rfl | ⟨front, older, rfl⟩
  · exact Or.inr ⟨rfl, (h.next name rfl).symm.trans hd⟩
  · have hlink := (List.isChain_append.1 h.chain).2.2 older
      (by rw [List.concat_eq_append, List.getLast?_concat]; rfl) name rfl
    rw [hd.unique hlink]
    exact Or.inl (by simp)

/-- All members of a line but the oldest are classes. -/
theorem mem_names {oldest : String} (h : IsLine classes (oldest :: line) next) :
    ∀ name ∈ line, name ∈ classes.names := by
  intro name hm
  obtain ⟨before, after, rfl⟩ := List.append_of_mem hm
  rw [← List.cons_append] at h
  obtain ⟨older, hlast⟩ :=
    Option.isSome_iff_exists.1 (List.getLast?_isSome.2 (List.cons_ne_nil oldest before))
  exact ((List.isChain_append.1 h.chain).2.2 older hlast name rfl).mem_names

/-- Every member of a line descends from the oldest. -/
theorem descends (h : IsLine classes line next) {oldest : String} (ho : oldest ∈ line.head?)
    (hm : name ∈ line) : Relation.ReflTransGen (DerivesFrom classes) name oldest := by
  have hchain := h.chain
  clear h
  induction line generalizing oldest with
  | nil => cases hm
  | cons first rest ih =>
      obtain rfl := Option.some.inj ho
      rcases List.mem_cons.1 hm with rfl | hm
      · exact .refl
      cases rest with
      | nil => cases hm
      | cons second rest =>
          obtain ⟨hlink, hchain⟩ := List.isChain_cons_cons.1 hchain
          exact .tail (ih rfl hm hchain) hlink

/-- A line that stops at a placed class, at a class of its own or at nothing has parents
    first. If it stops at one of its own, the oldest is on a circle. -/
theorem parentsPrecede (h : IsLine classes line next)
    (hnext : ∀ name ∈ next, name ∈ placed ∨ name ∈ line) : ParentsPrecede classes placed line := by
  intro before name after he hnot parent hd
  rcases h.parent_mem he hd with hm | ⟨rfl, hp⟩
  · exact List.mem_append_right _ hm
  · rcases hnext parent hp with hplaced | hmember
    · exact List.mem_append_left _ hplaced
    · exact absurd (.head' hd (h.descends (by rw [he]; rfl) hmember)) hnot

/-- A line of different classes that is longer than there are classes goes no further. -/
theorem next_eq_none (h : IsLine classes line next) (hd : line.Nodup)
    (hlong : line.length = classes.size + 1) : next = none := by
  cases line with
  | nil => cases hlong
  | cons oldest rest =>
      refine Option.eq_none_iff_forall_ne_some.2 fun name hn => ?_
      have holdest : DerivesFrom classes oldest name := (h.next oldest rfl).trans hn
      have hall : ∀ name ∈ oldest :: rest, name ∈ classes.names :=
        List.forall_mem_cons.2 ⟨holdest.mem_names, h.mem_names⟩
      have hlength := (hd.subperm hall).length_le
      rw [Table.names, List.length_map, hlong, Table.size] at hlength
      omega

end IsLine

section Lines

variable {placed : List String}

/-- A line that is followed ends at a placed class, at a class of its own or at nothing,
    and has no class twice. More steps do not lead further. -/
theorem lineTo_ends (classes : Table ScriptClass) (placed : List String) :
    ∀ (steps : Nat) (line : List String) (next : Option String),
    steps + line.length = classes.size + 1 → (line ++ placed).Nodup → IsLine classes line next →
      (∃ last, IsLine classes (lineTo classes placed steps line next) last ∧
        ∀ name ∈ last, name ∈ placed ∨ name ∈ lineTo classes placed steps line next) ∧
      (lineTo classes placed steps line next ++ placed).Nodup ∧
      ∀ more, lineTo classes placed (steps + more) line next =
        lineTo classes placed steps line next := by
  intro steps
  induction steps with
  | zero =>
      intro line next hroom hnodup hline
      rw [Nat.zero_add] at hroom
      obtain rfl := hline.next_eq_none (List.nodup_append.1 hnodup).1 hroom
      refine ⟨⟨none, hline, fun _ h => by cases h⟩, hnodup, fun more => ?_⟩
      cases more <;> rfl
  | succ steps ih =>
      intro line next hroom hnodup hline
      cases next with
      | none =>
          refine ⟨⟨none, hline, fun _ h => by cases h⟩, hnodup, fun more => ?_⟩
          rw [Nat.add_right_comm]
          rfl
      | some name =>
          by_cases hmet : (placed.contains name || line.contains name) = true
          · have hstop : ∀ more, lineTo classes placed (more + 1) line (some name) = line :=
              fun more => by rw [lineTo, if_pos hmet]
            rw [hstop]
            refine ⟨⟨some name, hline, fun other he => ?_⟩, hnodup, fun more => ?_⟩
            · rw [← Option.some.inj he]
              simpa using hmet
            · rw [Nat.add_right_comm, hstop]
          · have hgo : ∀ more, lineTo classes placed (more + 1) line (some name) =
                lineTo classes placed more (name :: line)
                  ((classes.get? name).bind ScriptClass.parent) :=
              fun more => by rw [lineTo, if_neg hmet]
            have hfresh : name ∉ line ++ placed := fun hm => hmet (by
              rw [List.mem_append] at hm
              simpa [or_comm] using hm)
            obtain ⟨hends, hdistinct, hmore⟩ :=
              ih (name :: line) _ (by rw [List.length_cons]; omega)
              (List.nodup_cons.2 ⟨hfresh, hnodup⟩) hline.cons
            rw [hgo]
            refine ⟨hends, hdistinct, fun more => ?_⟩
            rw [Nat.add_right_comm, hgo, hmore]

/-- A line to a class ends, has parents first, circles apart, and has no class twice. -/
theorem lineTo_spec (classes : Table ScriptClass) (hd : placed.Nodup) (name : String) :
    ParentsPrecede classes placed (lineTo classes placed (classes.size + 1) [] (some name)) ∧
      (placed ++ lineTo classes placed (classes.size + 1) [] (some name)).Nodup ∧
      ∀ more, lineTo classes placed (classes.size + 1 + more) [] (some name) =
        lineTo classes placed (classes.size + 1) [] (some name) := by
  obtain ⟨⟨last, hline, hlast⟩, hnodup, hmore⟩ := lineTo_ends classes placed
    (classes.size + 1) [] (some name) (by rw [List.length_nil, Nat.add_zero]) hd (.nil _)
  exact ⟨hline.parentsPrecede hlast, List.perm_append_comm.nodup_iff.1 hnodup, hmore⟩

theorem mem_lineTo {steps : Nat} {line : List String} {next : Option String}
    (h : name ∈ lineTo classes placed steps line next) :
    name ∈ line ∨ next = some name ∨ ∃ child, DerivesFrom classes child name := by
  induction steps generalizing line next with
  | zero => exact Or.inl h
  | succ steps ih =>
      cases next with
      | none => exact Or.inl h
      | some first =>
          rw [lineTo] at h
          split at h
          · exact Or.inl h
          · rcases ih h with hm | hp | hchild
            · rcases List.mem_cons.1 hm with rfl | hm
              · exact Or.inr (Or.inl rfl)
              · exact Or.inl hm
            · exact Or.inr (Or.inr ⟨first, hp⟩)
            · exact Or.inr (Or.inr hchild)

end Lines

section Order

theorem ParentsPrecede.nil (placed : List String) : ParentsPrecede classes placed [] :=
  fun before _ _ he => by cases before <;> cases he

theorem ParentsPrecede.append {placed names : List String} (h : ParentsPrecede classes [] placed)
    (hn : ParentsPrecede classes placed names) : ParentsPrecede classes [] (placed ++ names) := by
  intro before name after he hnot parent hparent
  rw [List.nil_append]
  rcases List.append_eq_append_iff.1 he with ⟨more, rfl, hnames⟩ | ⟨more, hplaced, hafter⟩
  · exact hn more name after hnames hnot parent hparent
  · cases more with
    | nil =>
        have hm := hn [] name after hafter.symm hnot parent hparent
        rw [List.append_nil] at hm hplaced
        exact hplaced ▸ hm
    | cons first more =>
        obtain ⟨rfl, -⟩ := List.cons.inj hafter
        exact h before name more hplaced hnot parent hparent

/-- The order of writing has parents first, circles apart, and no name twice. It is the
    same if every line is given more steps. -/
theorem parentsPrecede_placed (classes : Table ScriptClass) :
    ParentsPrecede classes [] (placed classes) ∧ (placed classes).Nodup ∧
      ∀ more, classes.names.foldl (fun before name =>
        before ++ lineTo classes before (classes.size + 1 + more) [] (some name)) [] =
          placed classes := by
  have hfold : ∀ (names before : List String), ParentsPrecede classes [] before → before.Nodup →
      ∀ order, order = names.foldl
        (fun before name => before ++ lineTo classes before (classes.size + 1) [] (some name))
          before →
      ParentsPrecede classes [] order ∧ order.Nodup ∧ ∀ more, names.foldl (fun before name =>
        before ++ lineTo classes before (classes.size + 1 + more) [] (some name)) before =
          order := by
    intro names
    induction names with
    | nil => exact fun before hfirst hd order he => he ▸ ⟨hfirst, hd, fun _ => rfl⟩
    | cons name rest ih =>
        intro before hfirst hd order he
        obtain ⟨hline, hlnodup, hmore⟩ := lineTo_spec classes hd name
        obtain ⟨horder, hdistinct, hsame⟩ := ih _ (hfirst.append hline) hlnodup order he
        refine ⟨horder, hdistinct, fun more => ?_⟩
        rw [List.foldl_cons, hmore, hsame]
  exact hfold classes.names [] (.nil _) List.nodup_nil _ rfl

/-- What is placed is a class, or some class derives from it. -/
theorem mem_names_of_mem_placed (h : name ∈ placed classes) :
    name ∈ classes.names ∨ ∃ child, DerivesFrom classes child name := by
  have hfold : ∀ names before : List String, (∀ first ∈ names, first ∈ classes.names) →
      name ∈ names.foldl
        (fun before name => before ++ lineTo classes before (classes.size + 1) [] (some name))
          before →
      name ∈ before ∨ name ∈ classes.names ∨ ∃ child, DerivesFrom classes child name := by
    intro names
    induction names with
    | nil => exact fun _ _ hm => Or.inl hm
    | cons first rest ih =>
        intro before hnames hm
        rcases ih _ (fun other ho => hnames other (List.mem_cons_of_mem _ ho)) hm with hm | hm
        · rcases List.mem_append.1 hm with hm | hm
          · exact Or.inl hm
          · rcases mem_lineTo hm with hm | hn | hchild
            · cases hm
            · exact Or.inr (Or.inl (Option.some.inj hn ▸ hnames first (List.mem_cons_self ..)))
            · exact Or.inr (Or.inr hchild)
        · exact Or.inr hm
  rcases hfold classes.names [] (fun _ hm => hm) h with hm | hm
  · cases hm
  · exact hm

theorem filterMap_get?_names (classes : Table ScriptClass) :
    classes.names.filterMap classes.get? = classes.values := by
  have hrows : ∀ rows : List (String × ScriptClass), (∀ row ∈ rows, row ∈ classes.rows) →
      (rows.map Prod.fst).filterMap classes.get? = rows.map Prod.snd := by
    intro rows
    induction rows with
    | nil => exact fun _ => rfl
    | cons row rest ih =>
        intro hm
        rw [List.map_cons, List.filterMap_cons_some
          (Table.get?_of_mem (hm row (List.mem_cons_self ..))),
          ih fun other ho => hm other (List.mem_cons_of_mem _ ho), List.map_cons]
  exact hrows classes.rows fun _ hm => hm

/-- The names of the order that are classes, with the classes they are the names of. -/
theorem map_get?_filter (classes : Table ScriptClass) (names : List String) :
    (names.filter classes.contains).map classes.get? = (names.filterMap classes.get?).map some := by
  induction names with
  | nil => rfl
  | cons name rest ih =>
      cases hget : classes.get? name with
      | none =>
          have hc : ¬classes.contains name = true := by
            rw [Table.contains, hget]; exact Bool.false_ne_true
          rw [List.filter_cons_of_neg hc, List.filterMap_cons_none hget, ih]
      | some cls =>
          have hc : classes.contains name = true := by rw [Table.contains, hget]; rfl
          rw [List.filter_cons_of_pos hc, List.filterMap_cons_some hget,
            List.map_cons, List.map_cons, ih, hget]

/-- The names that are placed and are those of classes, each once. -/
theorem filter_placed_perm (classes : Table ScriptClass) :
    ((placed classes).filter classes.contains).Perm classes.names := by
  obtain ⟨-, hnodup, -⟩ := parentsPrecede_placed classes
  refine (List.perm_ext_iff_of_nodup (hnodup.filter _) classes.distinct).2 fun name => ?_
  rw [List.mem_filter, ← Table.mem_names_iff]
  exact ⟨fun h => h.2, fun h => ⟨mem_placed h, h⟩⟩

/-- Every class is written once. -/
theorem inOrder_perm (model : ClassModel) : model.inOrder.Perm model.classes.values := by
  have horder := congrArg (List.filterMap id) (map_get?_filter model.classes (placed model.classes))
  rw [List.filterMap_map, List.filterMap_map, Function.id_comp, Function.id_comp,
    List.filterMap_some] at horder
  rw [ClassModel.inOrder, ← horder, ← filterMap_get?_names]
  exact (filter_placed_perm model.classes).filterMap _

/-- Whatever the parents of classes are, they are written each once, in an order in which
    a class stands after its parent if the parent is a class and the class does not
    descend from itself. The lines of ancestors have all the steps they can take. -/
theorem inOrder_complete (model : ClassModel) :
    model.inOrder.Perm model.classes.values ∧
    (∃ order : List String, order.Perm model.classes.names ∧
      order.map model.classes.get? = model.inOrder.map some ∧
      ∀ name parent, DerivesFrom model.classes name parent → parent ∈ model.classes.names →
        ¬Relation.TransGen (DerivesFrom model.classes) name name →
          ∃ before middle after, order = before ++ parent :: middle ++ name :: after) ∧
    ∀ more, model.classes.names.foldl (fun before name =>
      before ++ lineTo model.classes before (model.classes.size + 1 + more) [] (some name)) [] =
        placed model.classes := by
  obtain ⟨hfirst, -, hmore⟩ := parentsPrecede_placed model.classes
  refine ⟨inOrder_perm model, ⟨_, filter_placed_perm model.classes,
    map_get?_filter model.classes (placed model.classes), fun name parent hd hp hnot => ?_⟩, hmore⟩
  obtain ⟨before, after, he⟩ := List.append_of_mem (mem_placed hd.mem_names)
  have hbefore : parent ∈ before := hfirst before name after he hnot parent hd
  have hparent : parent ∈ before.filter model.classes.contains :=
    List.mem_filter.2 ⟨hbefore, Table.mem_names_iff.1 hp⟩
  obtain ⟨first, middle, hsplit⟩ := List.append_of_mem hparent
  refine ⟨first, middle, after.filter model.classes.contains, ?_⟩
  rw [he, List.filter_append, List.filter_cons_of_pos (Table.mem_names_iff.1 hd.mem_names), hsplit]

/-- Classes that derive from each other, one that derives from itself, one whose parent
    is missing, and two more that descend from the first ones. -/
def tangledClasses : ClassModel where
  classes := .ofRows <|
    [("leaf", "ring"), ("ring", "loop"), ("loop", "ring"), ("self", "self"), ("stray", "nowhere"),
      ("twig", "leaf")].map fun (name, parent) => (name, { name, parent := some parent })

/-- The line of the first class runs into a circle, and the class still follows its
    parent, and its own child follows it. -/
theorem tangledClasses_inOrder :
    tangledClasses.inOrder.map ScriptClass.name =
      ["loop", "ring", "leaf", "self", "stray", "twig"] ∧
    ∃ order : List String, order.Perm tangledClasses.classes.names ∧
      order.map tangledClasses.classes.get? = tangledClasses.inOrder.map some ∧
      ∃ before middle after, order = before ++ "leaf" :: middle ++ "twig" :: after := by
  obtain ⟨-, ⟨order, hperm, hsame, hparents⟩, -⟩ := inOrder_complete tangledClasses
  refine ⟨by decide +kernel, order, hperm, hsame, hparents "twig" "leaf" rfl (by decide) ?_⟩
  -- No class derives from the last one.
  intro hcircle
  obtain ⟨child, -, hchild⟩ := Relation.TransGen.tail'_iff.1 hcircle
  obtain ⟨cls, hget, hparent⟩ := Option.bind_eq_some_iff.1 hchild
  have hnone : ∀ row ∈ tangledClasses.classes.rows, row.2.parent ≠ some "twig" := by decide
  exact hnone _ (Table.mem_of_get? hget) hparent

end Order

end ScriptBind
