import ScriptBind.Proofs.SoundSessions
import ScriptBind.Proofs.WritingOrder

/-!
# Lines of Descent

Every class derives, over any number of others, from the base object, and no
line of parents has a circle. This is plain for the classes as they are found,
which all derive from the base object at once. It stays so when parents are
narrowed, although a record may claim any parent, and the claims are looked at
one by one against classes of which some have been narrowed already: a claim is
taken only if the line of the claimed parent ends without meeting the class, and
that line is not touched by the change.

With no circles, a class and its unplaced ancestors always reach up to a class
that is placed or to the base object, so the order of writing has every parent
before its children.

## Main definitions

* `RootedAt`: All classes descend from one.
* `ParentsFirst`: Names in an order that has parents first.
* `IsWritingOrder`: Classes in such an order, each of them once.

## Theorems

* `RootedAt.narrow`: Narrowing leaves all classes descending from the base.
* `parentsFirst_placed`: The order of writing has parents first.
* `classes_descend`: The classes of a library and the order they are written in.
-/

namespace ScriptBind

namespace Table

variable {α β : Type}

theorem find?_map (f : String → α → β) (name : String) (rows : List (String × α)) :
    find? name (rows.map fun row => (row.1, f row.1 row.2)) = (find? name rows).map (f name) := by
  induction rows with
  | nil => rfl
  | cons row rest ih =>
      obtain ⟨key, value⟩ := row
      rw [List.map_cons, find?, find?]
      split
      · next he => rw [he, Option.map_some]
      · exact ih

/-- A look-up after all values have changed. -/
theorem get?_modify (t : Table α) (f : String → α → β) (name : String) :
    (t.modify f).get? name = (t.get? name).map (f name) :=
  find?_map f name t.rows

end Table

/-- All classes descend from one. -/
structure RootedAt (classes : Table ScriptClass) (base : String) : Prop where
  /-- Every class is listed under its own name. -/
  named : ∀ row ∈ classes.rows, row.2.name = row.1
  /-- The base is a class. -/
  root : base ∈ classes.names
  /-- It derives from nothing. -/
  orphan : ∀ parent, ¬DerivesFrom classes base parent
  /-- Every other class derives from a class. -/
  parented : ∀ name ∈ classes.names, name ≠ base →
    ∃ parent ∈ classes.names, DerivesFrom classes name parent
  /-- Every line of parents comes to the base. -/
  descends : ∀ name ∈ classes.names, Relation.ReflTransGen (DerivesFrom classes) name base

/-- Names in an order that has the parent of each before it, or among some that
    have been placed already. -/
def ParentsFirst (classes : Table ScriptClass) (placed names : List String) : Prop :=
  ∀ before name after, names = before ++ name :: after →
    ∀ parent, DerivesFrom classes name parent → parent ∈ placed ++ before

variable {classes classes' : Table ScriptClass} {base : String}

/-- If one class descends from another, so does its parent, unless the parent is
    that class. -/
theorem DerivesFrom.of_transGen {name parent ancestor : String}
    (h : DerivesFrom classes name parent)
    (hline : Relation.TransGen (DerivesFrom classes) name ancestor) :
    Relation.ReflTransGen (DerivesFrom classes) parent ancestor := by
  obtain ⟨first, hfirst, hrest⟩ := Relation.TransGen.head'_iff.1 hline
  rw [h.unique hfirst]
  exact hrest

/-- A line of parents that has met a class leads to it, in however many steps it
    is followed. -/
theorem leadsTo_of_descends {name target : String}
    (h : Relation.ReflTransGen (DerivesFrom classes) name target) (steps : Nat) :
    leadsTo classes target steps name := by
  induction steps generalizing name with
  | zero => rfl
  | succ steps ih =>
      rw [leadsTo]
      split
      · rfl
      · next hne =>
          -- The class looked for lies further up.
          rcases Relation.ReflTransGen.cases_head h with he | ⟨parent, hparent, hrest⟩
          · exact absurd he hne
          · rw [DerivesFrom] at hparent
            rw [hparent]
            exact ih hrest

/-- A class whose line of parents comes to an end without meeting another class
    descends from the base by classes other than that one. -/
theorem descends_of_not_leadsTo (h : RootedAt classes base) {object : String}
    (hkept : ∀ name parent, name ≠ object → DerivesFrom classes name parent →
      DerivesFrom classes' name parent) :
    ∀ (steps : Nat) (name : String), name ∈ classes.names →
      leadsTo classes object steps name = false →
      Relation.ReflTransGen (DerivesFrom classes') name base := by
  intro steps
  induction steps with
  | zero => intro name _ hends; cases hends
  | succ steps ih =>
      intro name hname hends
      by_cases hbase : name = base
      · rw [hbase]
      obtain ⟨parent, hparent, hderives⟩ := h.parented name hname hbase
      rw [leadsTo] at hends
      split at hends
      · cases hends
      · next hne =>
          rw [DerivesFrom] at hderives
          rw [hderives] at hends
          exact .head (hkept name parent hne hderives) (ih parent hparent hends)

namespace RootedAt

/-- A class that derives from something is one, and so is what it derives from. -/
theorem mem_names (h : RootedAt classes base) {name parent : String}
    (hd : DerivesFrom classes name parent) : name ∈ classes.names ∧ parent ∈ classes.names := by
  obtain ⟨cls, hget, -⟩ := Option.bind_eq_some_iff.1 hd
  have hname : name ∈ classes.names := List.mem_map_of_mem (Table.mem_of_get? hget)
  have hne : name ≠ base := fun he => h.orphan parent (he ▸ hd)
  obtain ⟨other, hother, hd'⟩ := h.parented name hname hne
  exact ⟨hname, hd'.unique hd ▸ hother⟩

/-- No line of parents has a circle. A circle would keep the line of its classes
    from ever coming to the base. -/
theorem acyclic (h : RootedAt classes base) (name : String) :
    ¬Relation.TransGen (DerivesFrom classes) name name := by
  intro hcircle
  obtain ⟨parent, hfirst, -⟩ := Relation.TransGen.head'_iff.1 hcircle
  have hbase : Relation.TransGen (DerivesFrom classes) base base := by
    refine Relation.ReflTransGen.head_induction_on
      (motive := fun name _ => Relation.TransGen (DerivesFrom classes) name name →
        Relation.TransGen (DerivesFrom classes) base base)
      (h.descends name (h.mem_names hfirst).1) id ?_ hcircle
    -- The parent of a class on a circle is on it too.
    intro name parent hparent _ ih hround
    exact ih (.tail' (hparent.of_transGen hround) hparent)
  obtain ⟨parent, hparent, -⟩ := Relation.TransGen.head'_iff.1 hbase
  exact h.orphan parent hparent

/-- What is true of classes is true of others with the same names and parents. -/
theorem of_same (h : RootedAt classes base) (hnamed : ∀ row ∈ classes'.rows, row.2.name = row.1)
    (hnames : classes'.names = classes.names)
    (hparents : ∀ name parent, DerivesFrom classes' name parent ↔ DerivesFrom classes name parent) :
    RootedAt classes' base := by
  have hsame : DerivesFrom classes' = DerivesFrom classes :=
    funext fun name => funext fun parent => propext (hparents name parent)
  exact
    { named := hnamed
      root := hnames ▸ h.root
      orphan := hsame ▸ h.orphan
      parented := hnames ▸ hsame ▸ h.parented
      descends := hnames ▸ hsame ▸ h.descends }

/-- Changing classes but for their names and parents leaves them where they are. -/
theorem modify (h : RootedAt classes base) {f : String → ScriptClass → ScriptClass}
    (hf : ∀ name cls, (f name cls).name = cls.name ∧ (f name cls).parent = cls.parent) :
    RootedAt (classes.modify f) base := by
  refine h.of_same ?_ (Table.names_modify classes f) fun name parent => ?_
  · intro row hrow
    obtain ⟨old, hold, rfl⟩ := List.mem_map.1 hrow
    exact (hf old.1 old.2).1.trans (h.named old hold)
  · have hparent : ((classes.get? name).map (f name)).bind ScriptClass.parent =
        (classes.get? name).bind ScriptClass.parent := by
      cases classes.get? name with
      | none => rfl
      | some cls => exact (hf name cls).2
    rw [DerivesFrom, Table.get?_modify, hparent, DerivesFrom]

/-- Narrowing one parent leaves all classes descending from the base. -/
theorem narrowParent (h : RootedAt classes base) {object parent : String}
    (hp : parent ∈ classes.names) : RootedAt (narrowParent classes object parent) base := by
  unfold ScriptBind.narrowParent
  split
  · exact h
  next hends =>
  have hends : leadsTo classes object (classes.size + 1) parent = false := by
    simpa using hends
  generalize hc : classes.modify (fun name cls =>
    if name = object then { cls with parent := some parent } else cls) = classes'
  have hnames : classes'.names = classes.names := by
    rw [← hc]
    exact Table.names_modify classes _
  have hget : ∀ name, classes'.get? name = (classes.get? name).map fun cls =>
      if name = object then { cls with parent := some parent } else cls := by
    intro name
    rw [← hc]
    exact Table.get?_modify classes _ name
  have hothers : ∀ name other, name ≠ object →
      (DerivesFrom classes' name other ↔ DerivesFrom classes name other) := by
    intro name other hne
    rw [DerivesFrom, hget, DerivesFrom]
    simp only [if_neg hne, Option.map_id']
  -- The base is not narrowed, since every line of parents leads to it.
  have hne : base ≠ object := fun he => by
    rw [← he, leadsTo_of_descends (h.descends parent hp)] at hends
    cases hends
  have hobject : object ∈ classes.names → DerivesFrom classes' object parent := by
    intro hm
    obtain ⟨cls, hcls⟩ := Option.isSome_iff_exists.1 (Table.mem_names_iff.1 hm)
    rw [DerivesFrom, hget, hcls]
    simp
  have hreach : Relation.ReflTransGen (DerivesFrom classes') parent base :=
    descends_of_not_leadsTo h
      (fun name other hname hd => (hothers name other hname).2 hd) _ parent hp hends
  exact
    { named := by
        rw [← hc]
        intro row hrow
        obtain ⟨old, hold, rfl⟩ := List.mem_map.1 hrow
        rw [← h.named old hold]
        dsimp only
        split <;> rfl
      root := hnames ▸ h.root
      orphan := fun other hd => h.orphan other ((hothers base other hne).1 hd)
      parented := by
        rw [hnames]
        intro name hname hnb
        by_cases he : name = object
        · exact ⟨parent, hp, he ▸ hobject (he ▸ hname)⟩
        · obtain ⟨other, hother, hd⟩ := h.parented name hname hnb
          exact ⟨other, hother, (hothers name other he).2 hd⟩
      descends := by
        rw [hnames]
        intro name hname
        -- The old line is followed up to the class that was narrowed.
        refine Relation.ReflTransGen.head_induction_on
          (motive := fun name _ => Relation.ReflTransGen (DerivesFrom classes') name base)
          (h.descends name hname) .refl fun {name other} hd _ ih => ?_
        by_cases he : name = object
        · exact .head (he ▸ hobject (he ▸ (h.mem_names hd).1)) hreach
        · exact .head ((hothers name other he).2 hd) ih }

/-- Narrowing leaves all classes descending from the base. -/
theorem narrow (h : RootedAt classes base) (decls : Declarations) (naming : Naming) :
    RootedAt (narrow decls naming classes) base := by
  have hclaims : ∀ claim ∈ extensionParents decls naming classes, claim.2 ∈ classes.names := by
    intro claim hclaim
    obtain ⟨⟨key, record⟩, -, hkept⟩ := List.mem_filterMap.1 hclaim
    simp only [Option.bind_eq_bind, Option.bind_eq_some_iff] at hkept
    obtain ⟨object, -, first, -, parent, -, hkept⟩ := hkept
    split at hkept
    · next hc =>
        rw [← Option.some.inj hkept]
        exact Table.mem_names_iff.2 (Bool.and_eq_true_iff.1 hc).2
    · cases hkept
  unfold ScriptBind.narrow
  generalize extensionParents decls naming classes = claims at hclaims
  induction claims generalizing classes with
  | nil => exact h
  | cons claim rest ih =>
      rw [List.foldl_cons]
      refine ih (h.narrowParent (hclaims claim (List.mem_cons_self ..))) fun other hother => ?_
      rw [names_narrowParent]
      exact hclaims other (List.mem_cons_of_mem _ hother)

end RootedAt

/-- The class that a confirmed constructor makes. -/
def Candidate.scriptClass (naming : Naming) (candidate : Candidate) : ScriptClass where
  name := candidate.object
  parent := if candidate.object = naming.baseObject then none else some naming.baseObject
  constructor := some candidate.function.name

/-- A class as it is found is made by a constructor, or it is the base. -/
theorem constructedClasses_cases {naming : Naming} {found : List Candidate}
    {row : String × ScriptClass} (h : row ∈ (constructedClasses naming found).rows) :
    (∃ candidate ∈ found, row = (candidate.object, candidate.scriptClass naming)) ∨
      row = (naming.baseObject, { name := naming.baseObject }) := by
  have hown : ∀ row ∈ (Table.ofFirstRows <| found.map fun candidate =>
      (candidate.object, candidate.scriptClass naming)).rows,
      ∃ candidate ∈ found, row = (candidate.object, candidate.scriptClass naming) := by
    intro row hrow
    obtain ⟨candidate, hc, he⟩ := List.mem_map.1 (mem_of_get?_ofFirstRows (Table.get?_of_mem hrow))
    exact ⟨candidate, hc, he.symm⟩
  unfold constructedClasses at h
  dsimp only at h
  split at h
  · exact Or.inl (hown row h)
  · rw [Table.add_rows, List.mem_append] at h
    rcases h with h | h
    · exact Or.inl (hown row h)
    · split at h
      · cases h
      · exact Or.inr (List.mem_singleton.1 h)

/-- Every constructor's object is a class, made by the first constructor that the
    object has. -/
theorem exists_constructedClass {naming : Naming} {found : List Candidate} {candidate : Candidate}
    (h : candidate ∈ found) : ∃ first ∈ found, first.object = candidate.object ∧
      (candidate.object, first.scriptClass naming) ∈ (constructedClasses naming found).rows := by
  have hown : (Table.ofFirstRows <| found.map fun candidate =>
      (candidate.object, candidate.scriptClass naming)).contains candidate.object :=
    Table.contains_ofFirstRows (List.mem_map.2 ⟨candidate, h, rfl⟩)
  obtain ⟨cls, hget⟩ := Option.isSome_iff_exists.1 hown
  obtain ⟨first, hf, he⟩ := List.mem_map.1 (mem_of_get?_ofFirstRows hget)
  obtain ⟨hobject, rfl⟩ := Prod.mk.inj he
  refine ⟨first, hf, hobject, ?_⟩
  have hrow := Table.mem_of_get? hget
  unfold constructedClasses
  dsimp only
  split
  · exact hrow
  · exact (Table.prefix_add ..).subset hrow

/-- What enums are attached to classes does not concern their parents. -/
theorem RootedAt.attachEnums {model : ClassModel} (h : RootedAt model.classes base)
    (naming : Naming)
    (groups : List String) : RootedAt (model.attachEnums naming groups).classes base :=
  h.modify (f := fun _ cls => cls.attachEnums naming groups) fun _ _ => ⟨rfl, rfl⟩

/-- The classes as they are found derive from the base at once. -/
theorem constructedClasses_flat {naming : Naming} {found : List Candidate}
    {row : String × ScriptClass} (h : row ∈ (constructedClasses naming found).rows) :
    row.2.name = row.1 ∧
      row.2.parent = if row.1 = naming.baseObject then none else some naming.baseObject := by
  rcases constructedClasses_cases h with ⟨candidate, -, rfl⟩ | rfl
  · exact ⟨rfl, rfl⟩
  · exact ⟨rfl, (if_pos rfl).symm⟩

/-- If there are classes, the base is among them. -/
theorem base_mem_constructedClasses {naming : Naming} {found : List Candidate}
    (h : (constructedClasses naming found).names ≠ []) :
    naming.baseObject ∈ (constructedClasses naming found).names := by
  unfold constructedClasses at h ⊢
  dsimp only at h ⊢
  split
  · next he =>
      rw [if_pos he, Table.names, List.isEmpty_iff.1 he] at h
      exact absurd rfl h
  · rw [Table.names_add]
    split
    · next hm => exact hm
    · exact List.mem_append_right _ (List.mem_singleton_self _)

theorem rootedAt_constructedClasses {naming : Naming} {found : List Candidate}
    (h : (constructedClasses naming found).names ≠ []) :
    RootedAt (constructedClasses naming found) naming.baseObject := by
  have hbase := base_mem_constructedClasses h
  have hparent : ∀ name ∈ (constructedClasses naming found).names, ∀ parent,
      DerivesFrom (constructedClasses naming found) name parent ↔
        name ≠ naming.baseObject ∧ parent = naming.baseObject := by
    intro name hname parent
    obtain ⟨cls, hget⟩ := Option.isSome_iff_exists.1 (Table.mem_names_iff.1 hname)
    have hflat := (constructedClasses_flat (Table.mem_of_get? hget)).2
    rw [DerivesFrom, hget, Option.bind_some, hflat]
    by_cases he : name = naming.baseObject
    · simp [he]
    · simp [he, eq_comm]
  exact
    { named := fun row hrow => (constructedClasses_flat hrow).1
      root := hbase
      orphan := fun parent hd => ((hparent _ hbase parent).1 hd).1 rfl
      parented := fun name hname hne => ⟨_, hbase, (hparent name hname _).2 ⟨hne, rfl⟩⟩
      descends := fun name hname => by
        by_cases he : name = naming.baseObject
        · rw [he]
        · exact .single ((hparent name hname _).2 ⟨he, rfl⟩) }

/-- The classes of a library all descend from the base object. -/
theorem rootedAt_ofDeclarations {decls : Declarations} {naming : Naming} {exclude : List String}
    {narrowed : Bool}
    (h : (ClassModel.ofDeclarations decls naming exclude narrowed).classes.names ≠ []) :
    RootedAt (ClassModel.ofDeclarations decls naming exclude narrowed).classes
      naming.baseObject := by
  have hnames : (ClassModel.ofDeclarations decls naming exclude narrowed).classes.names =
      (constructedClasses naming (constructors decls naming exclude)).names := by
    unfold ClassModel.ofDeclarations
    dsimp only
    split
    · rw [names_narrow, Table.names_modify]
    · rw [Table.names_modify]
  have hflat := (rootedAt_constructedClasses (hnames ▸ h)).modify
    (f := fun _ cls =>
      { cls with methods := methodsOf naming (ClassModel.ofDeclarations decls naming exclude
          narrowed).functions cls.name }) fun _ _ => ⟨rfl, rfl⟩
  unfold ClassModel.ofDeclarations
  dsimp only
  split
  · exact hflat.narrow decls naming
  · exact hflat

section Order

/-- The order of writing has parents first, and only classes. -/
theorem parentsFirst_placed (h : RootedAt classes base) :
    ParentsFirst classes [] (placed classes) ∧ ∀ name ∈ placed classes, name ∈ classes.names := by
  obtain ⟨hfirst, -, -⟩ := parentsPrecede_placed classes
  refine ⟨fun before name after he => hfirst before name after he (h.acyclic name), ?_⟩
  intro name hm
  rcases mem_names_of_mem_placed hm with hname | ⟨child, hd⟩
  · exact hname
  · exact (h.mem_names hd).2

/-- Classes in an order of writing: each once, the base before all others and
    every parent before its children. -/
structure IsWritingOrder (classes : Table ScriptClass) (base : String) (order : List ScriptClass) :
    Prop where
  /-- The classes are all there, and each is there once. -/
  complete : order.Perm classes.values
  /-- The first one is the base, which has no parent. -/
  first : ∃ cls rest, order = cls :: rest ∧ cls.name = base ∧ cls.parent = none
  /-- Of every other one the parent has come before. -/
  parents : ∀ before cls after, order = before ++ cls :: after → ∀ parent,
    cls.parent = some parent → ∃ other ∈ before, other.name = parent

/-- The classes of an order of writing are called as they are listed. -/
theorem RootedAt.map_name (h : RootedAt classes base) {names : List String}
    (hn : ∀ name ∈ names, name ∈ classes.names) :
    (names.filterMap classes.get?).map ScriptClass.name = names := by
  induction names with
  | nil => rfl
  | cons name rest ih =>
      obtain ⟨cls, hget⟩ := Option.isSome_iff_exists.1
        (Table.mem_names_iff.1 (hn name (List.mem_cons_self ..)))
      rw [List.filterMap_cons_some hget, List.map_cons, h.named _ (Table.mem_of_get? hget),
        ih fun other ho => hn other (List.mem_cons_of_mem _ ho)]

/-- If all classes descend from one, they are written in order. -/
theorem RootedAt.isWritingOrder {model : ClassModel} (h : RootedAt model.classes base) :
    IsWritingOrder model.classes base model.inOrder := by
  obtain ⟨hfirst, hknown⟩ := parentsFirst_placed h
  have hnames : model.inOrder.map ScriptClass.name = placed model.classes := h.map_name hknown
  have hcomplete := inOrder_perm model
  have hown : ∀ cls ∈ model.inOrder, ∀ parent, cls.parent = some parent →
      DerivesFrom model.classes cls.name parent := by
    intro cls hcls parent hparent
    obtain ⟨⟨name, other⟩, hrow, rfl⟩ := List.mem_map.1 (hcomplete.mem_iff.1 hcls)
    rw [DerivesFrom, h.named _ hrow, Table.get?_of_mem hrow]
    exact hparent
  have hparents : ∀ before cls after, model.inOrder = before ++ cls :: after →
      ∀ parent, cls.parent = some parent → ∃ other ∈ before, other.name = parent := by
    intro before cls after he parent hparent
    have hcls : cls ∈ model.inOrder := he ▸ List.mem_append_right _ (List.mem_cons_self ..)
    rw [he, List.map_append, List.map_cons] at hnames
    have hm := hfirst _ _ _ hnames.symm parent (hown cls hcls parent hparent)
    exact List.mem_map.1 hm
  refine ⟨hcomplete, ?_, hparents⟩
  -- Nothing comes before the first class, so it has no parent, and that is the base alone.
  obtain ⟨root, hroot, hname⟩ : ∃ cls ∈ model.classes.values, cls.name = base := by
    obtain ⟨row, hrow, hkey⟩ := List.mem_map.1 h.root
    exact ⟨row.2, List.mem_map_of_mem hrow, (h.named row hrow).trans hkey⟩
  cases ho : model.inOrder with
  | nil =>
      rw [ho] at hcomplete
      rw [hcomplete.nil_eq.symm] at hroot
      cases hroot
  | cons cls rest =>
      have hnone : cls.parent = none := by
        refine Option.eq_none_iff_forall_ne_some.2 fun parent hparent => ?_
        obtain ⟨other, hother, -⟩ := hparents [] cls rest ho parent hparent
        cases hother
      refine ⟨cls, rest, rfl, ?_, hnone⟩
      obtain ⟨⟨name, other⟩, hrow, he⟩ :=
        List.mem_map.1 (hcomplete.mem_iff.1 (ho ▸ List.mem_cons_self ..))
      dsimp only at he
      subst he
      have hkey := h.named _ hrow
      refine hkey.trans (Decidable.byContradiction fun hne => ?_)
      obtain ⟨parent, -, hderives⟩ := h.parented name (List.mem_map_of_mem hrow) hne
      rw [DerivesFrom, Table.get?_of_mem hrow, Option.bind_some, hnone] at hderives
      cases hderives

end Order

/-- If a library has any classes, they all descend from the base object, without
    circles, whatever its records claim to extend, and they are written in order,
    before and after enums are attached to them. -/
theorem classes_descend (decls : Declarations) (naming : Naming) (exclude : List String)
    (narrowed : Bool)
    (hsome : (ClassModel.ofDeclarations decls naming exclude narrowed).classes.isEmpty = false) :
    let model := ClassModel.ofDeclarations decls naming exclude narrowed
    RootedAt model.classes naming.baseObject ∧
      (∀ name, ¬Relation.TransGen (DerivesFrom model.classes) name name) ∧
      IsWritingOrder model.classes naming.baseObject model.inOrder ∧
      ∀ groups, IsWritingOrder (model.attachEnums naming groups).classes naming.baseObject
        (model.attachEnums naming groups).inOrder := by
  intro model
  have hnames : model.classes.names ≠ [] := by
    intro he
    rw [Table.isEmpty, List.map_eq_nil_iff.1 he] at hsome
    cases hsome
  have h : RootedAt model.classes naming.baseObject := rootedAt_ofDeclarations hnames
  exact ⟨h, h.acyclic, h.isWritingOrder, fun groups => (h.attachEnums naming groups).isWritingOrder⟩

/-- Objects whose extensions include each other, and the base object's extension,
    which includes one of them. -/
def rivalExtensions : Declarations where
  records := .ofRows
    [("lv_obj_ext_t", ⟨"lv_obj_ext_t", .struct, [⟨"dial", .named "lv_dial_ext_t", none⟩]⟩),
      ("lv_dial_ext_t", ⟨"lv_dial_ext_t", .struct, [⟨"knob", .named "lv_knob_ext_t", none⟩]⟩),
      ("lv_knob_ext_t", ⟨"lv_knob_ext_t", .struct, [⟨"dial", .named "lv_dial_ext_t", none⟩]⟩)]
  functions :=
    ["lv_dial_create", "lv_knob_create"].map fun name =>
      ⟨name, .pointerTo (.named "lv_obj_t"),
        [⟨"parent", .pointerTo (.named "lv_obj_t")⟩, ⟨"copy", .pointerTo (.named "lv_obj_t")⟩],
          false⟩

/-- The first of the claims is taken, and the others are not. -/
theorem rivalExtensions_descend :
    let model :=
      ClassModel.ofDeclarations rivalExtensions { moduleName := "m", scope := "lv" } [] true
    model.classes.isEmpty = false ∧ RootedAt model.classes "obj" ∧
      model.inOrder.map (fun cls => (cls.name, cls.parent)) =
        [("obj", none), ("knob", some "obj"), ("dial", some "knob")] := by
  refine ⟨by decide +kernel, ?_, by decide +kernel⟩
  exact (classes_descend rivalExtensions { moduleName := "m", scope := "lv" } [] true
    (by decide +kernel)).1

end ScriptBind
