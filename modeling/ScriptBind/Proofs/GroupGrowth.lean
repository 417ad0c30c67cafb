import ScriptBind.Proofs.GroupMembers

/-!
# Groups Only Grow at Their Ends

More enums at the end of a library change nothing that a script has found so far. The
groups there were keep their places, and so do their members within them, names, values
and all; whatever is new stands behind them and is owed to one of the new enums.

Growth is a relation between the groups before and after. One list of members that joins
is a step of it, and it composes, so it holds from the groups of the first enums to those
of all of them.

## Main definitions

* `Enums.membersOf`: The members of a group in order.
* `Enums.Owed`: A member of a group that is owed to one of some enums.
* `Enums.Grows`: Groups that have grown by members of a certain kind.
* `Enums.IsListed`: A member of a list that joins groups.

## Theorems

* `Table.rows_foldl_add`: Adding rows leaves those of a table in front.
* `membersOf_addGroup`: What a list of members that joins adds to a group.
* `grows_addGroup`: A list of members that joins lets groups grow by its members.
* `grows_foldl`: Some enums that join let groups grow by members owed to them.
* `groups_append`: What more enums do to groups.
-/

namespace ScriptBind

/-- Adding rows leaves the rows of a table in front. -/
theorem Table.rows_foldl_add {α : Type} (rows : List (String × α)) (t : Table α) :
    ∃ more, (rows.foldl (fun t row => t.add row.1 row.2) t).rows = t.rows ++ more ∧
      ∀ row ∈ more, row ∈ rows := by
  induction rows generalizing t with
  | nil => exact ⟨[], (List.append_nil _).symm, fun _ h => h⟩
  | cons row rest ih =>
      obtain ⟨more, hrows, hmem⟩ := ih (t.add row.1 row.2)
      rw [List.foldl_cons, hrows, Table.add_rows, List.append_assoc]
      refine ⟨_, rfl, fun r hr => ?_⟩
      rcases List.mem_append.1 hr with hnew | hold
      · split at hnew
        · cases hnew
        · exact List.mem_cons.2 (.inl (List.mem_singleton.1 hnew))
      · exact List.mem_cons_of_mem _ (hmem r hold)

namespace Enums

/-- The members of the group of a name, in order. -/
def membersOf (all : Table EnumGroup) (name : String) : List (String × EnumValue) :=
  ((all.get? name).map (·.members.rows)).getD []

/-- A member of a group that is owed to one of some enums: a member of the enum becomes it,
    and its place is in the group and under the name it has there. -/
def Owed (naming : Naming) (enums : List (List Enumerator)) (group : String)
    (row : String × EnumValue) : Prop :=
  ∃ members ∈ enums, (∃ name, Becomes naming members name row.2) ∧
    (group, row.1) = placeOf naming members row.2

/-- Groups that have grown by some rows: old groups keep their places and their members,
    and new groups are not empty. -/
structure Grows (new : String → String × EnumValue → Prop) (before after : Table EnumGroup) :
    Prop where
  /-- The groups there were are in front, in their order. -/
  order : before.names <+: after.names
  /-- So are the members of each group, and the others are new. -/
  members : ∀ name, ∃ more, membersOf after name = membersOf before name ++ more ∧
    ∀ row ∈ more, new name row
  /-- A group that was not there has a member. -/
  fresh : ∀ name ∈ after.names, name ∉ before.names → membersOf after name ≠ []

namespace Grows

variable {naming : Naming} {new new' : String → String × EnumValue → Prop}
  {first second third : Table EnumGroup}

theorem refl (new : String → String × EnumValue → Prop) (all : Table EnumGroup) :
    Grows new all all where
  order := List.prefix_rfl
  members _ := ⟨[], (List.append_nil _).symm, fun _ h => by cases h⟩
  fresh _ hm hn := absurd hm hn

theorem mono (h : Grows new first second) (hnew : ∀ name row, new name row → new' name row) :
    Grows new' first second where
  order := h.order
  members name :=
    let ⟨more, hmore, hm⟩ := h.members name
    ⟨more, hmore, fun row hr => hnew name row (hm row hr)⟩
  fresh := h.fresh

theorem trans (h : Grows new first second) (h' : Grows new second third) :
    Grows new first third where
  order := h.order.trans h'.order
  members name := by
    obtain ⟨more, hmore, hnew⟩ := h.members name
    obtain ⟨more', hmore', hnew'⟩ := h'.members name
    refine ⟨more ++ more', by rw [hmore', hmore, List.append_assoc], fun row hr => ?_⟩
    exact (List.mem_append.1 hr).elim (hnew row) (hnew' row)
  fresh name hm hn := by
    by_cases hs : name ∈ second.names
    · -- It was there in between, and what it had then it still has.
      obtain ⟨more, hmore, -⟩ := h'.members name
      rw [hmore]
      exact List.append_ne_nil_of_left_ne_nil (h.fresh name hs hn) _
    · exact h'.fresh name hm hs

end Grows

section Joining

variable {naming : Naming}

theorem membersOf_of_get? {all : Table EnumGroup} {name : String} {group : EnumGroup}
    (h : all.get? name = some group) : membersOf all name = group.members.rows := by
  rw [membersOf, h, Option.map_some, Option.getD_some]

/-- What a script finds in a group is one of its members. -/
theorem membersOf_ne_nil {all : Table EnumGroup} {name key : String}
    (h : (memberAt? all (name, key)).isSome) : membersOf all name ≠ [] := by
  obtain ⟨value, hv⟩ := Option.isSome_iff_exists.1 h
  obtain ⟨group, hg, hk⟩ := Option.bind_eq_some_iff.1 hv
  rw [membersOf_of_get? hg]
  exact List.ne_nil_of_mem (Table.mem_of_get? hk)

/-- A member of a list that joins groups, by its name in the group that the list names. -/
def IsListed (values : List EnumValue) (group : String) (row : String × EnumValue) : Prop :=
  row.2 ∈ values ∧ group = groupName (values.map EnumValue.cName) ∧ row.1 = memberName group row.2

/-- A list that joins names one group, which goes last if it was not there. -/
theorem names_addGroup (all : Table EnumGroup) {values : List EnumValue} (h : values ≠ []) :
    (addGroup all values).names =
      if groupName (values.map EnumValue.cName) ∈ all.names then all.names
      else all.names ++ [groupName (values.map EnumValue.cName)] := by
  rw [addGroup, if_neg fun hnil => h (List.isEmpty_iff.1 hnil), Table.names_set]

/-- A list that joins adds some of its members to the group that it names, and none to any
    other. -/
theorem membersOf_addGroup (all : Table EnumGroup) (values : List EnumValue) (name : String) :
    ∃ more, membersOf (addGroup all values) name = membersOf all name ++ more ∧
      ∀ row ∈ more, IsListed values name row := by
  unfold addGroup
  split
  · exact ⟨[], (List.append_nil _).symm, fun _ h => by cases h⟩
  · simp only [membersOf, Table.get?_set]
    split
    · next he =>
        -- The group may be new; it is joined like one that has no members yet.
        obtain ⟨more, hmore, hmem⟩ := Table.rows_foldl_add
          (Table.ofRows (values.map fun value => (memberName name value, value))).rows
          ((all.get? name).getD ⟨name, .empty⟩).members
        subst he
        refine ⟨more, hmore.trans ?_, fun row hr => ?_⟩
        · cases all.get? (groupName (values.map EnumValue.cName)) <;> rfl
        · obtain ⟨hv, hk⟩ := mem_ofRows_members (hmem row hr)
          exact ⟨hv, rfl, hk⟩
    · exact ⟨[], (List.append_nil _).symm, fun _ h => by cases h⟩

/-- A list of members that joins lets groups grow by its members. -/
theorem grows_addGroup (all : Table EnumGroup) (values : List EnumValue) :
    Grows (IsListed values) all (addGroup all values) := by
  cases values with
  | nil => exact .refl _ _
  | cons first rest =>
      have hnames := names_addGroup all (List.cons_ne_nil first rest)
      refine ⟨?_, membersOf_addGroup all _, fun name hm hn => ?_⟩
      · rw [hnames]
        split
        · exact List.prefix_rfl
        · exact List.prefix_append ..
      · rw [hnames] at hm
        split at hm
        · exact absurd hm hn
        · -- The first member is found in the new group, whatever became of the others.
          have he := List.mem_singleton.1 ((List.mem_append.1 hm).resolve_left hn)
          have hlisted : (listed? (first :: rest) (name, memberName name first)).isSome :=
            isSome_listed? (List.mem_cons_self ..) he rfl
          exact membersOf_ne_nil (by rw [memberAt?_addGroup, Option.isSome_or,
            hlisted, Bool.or_true])

/-- One more enum lets groups grow by members owed to it. -/
theorem grows_addEnum (all : Table EnumGroup) (members : List Enumerator) :
    Grows (Owed naming [members]) all (addEnum naming all members) := by
  have howed : ∀ isText name row, IsListed (shown naming members isText) name row →
      Owed naming [members] name row := by
    rintro isText name row ⟨hv, hg, hk⟩
    obtain ⟨rfl, hb⟩ := mem_shown_iff.1 hv
    exact ⟨members, List.mem_singleton_self _, hb, Prod.ext hg (by rw [hk, hg, placeOf])⟩
  rw [addEnum_eq]
  exact ((grows_addGroup _ _).mono (howed false)).trans ((grows_addGroup _ _).mono (howed true))

/-- What is owed to some enums is owed to more of them. -/
theorem Owed.mono {enums enums' : List (List Enumerator)} {name : String} {row : String × EnumValue}
    (h : Owed naming enums name row) (hsub : enums ⊆ enums') : Owed naming enums' name row :=
  let ⟨members, hm, howed⟩ := h
  ⟨members, hsub hm, howed⟩

/-- Some enums that join let groups grow by members owed to them. -/
theorem grows_foldl (enums : List (List Enumerator)) (all : Table EnumGroup) :
    Grows (Owed naming enums) all (enums.foldl (addEnum naming) all) := by
  induction enums generalizing all with
  | nil => exact .refl _ _
  | cons members rest ih =>
      have hfirst : [members] ⊆ members :: rest := List.cons_subset_cons _ (List.nil_subset _)
      exact ((grows_addEnum all members).mono fun _ _ h => h.mono hfirst).trans
        ((ih _).mono fun _ _ h => h.mono (List.subset_cons_self ..))

end Joining

section Appending

/-- More enums at the end leave the groups as they are, in front and in their order, and in
    each group its members with their names and values, in front and in their order. All
    other members, those of old groups and those of new ones, are owed to the enums that
    came after, and no new group is empty. -/
theorem groups_append (naming : Naming) (enums more : List (List Enumerator)) :
    (groups naming enums).names <+: (groups naming (enums ++ more)).names ∧
    (∀ name group, (groups naming enums).get? name = some group →
      ∃ group' added, (groups naming (enums ++ more)).get? name = some group' ∧
        group'.name = group.name ∧ group'.members.rows = group.members.rows ++ added ∧
        ∀ row ∈ added, Owed naming more name row) ∧
    ∀ name group, (groups naming (enums ++ more)).get? name = some group →
      (groups naming enums).get? name = none →
        group.name = name ∧ group.members.rows ≠ [] ∧ ∀ row ∈ group.members.rows,
        Owed naming more name row := by
  have hgrows : Grows (Owed naming more) (groups naming enums) (groups naming (enums ++ more)) := by
    rw [groups, groups, List.foldl_append]
    exact grows_foldl more _
  refine ⟨hgrows.order, fun name group hg => ?_, fun name group hg hnone => ?_⟩
  · have hname : name ∈ (groups naming (enums ++ more)).names :=
      hgrows.order.subset (Table.mem_names_iff.2 (Option.isSome_of_eq_some hg))
    obtain ⟨group', hg'⟩ := Option.isSome_iff_exists.1 (Table.mem_names_iff.1 hname)
    obtain ⟨added, hadded, howed⟩ := hgrows.members name
    rw [membersOf_of_get? hg, membersOf_of_get? hg'] at hadded
    have hnamed := (isCut_groups enums _ (Table.mem_of_get? hg)).named
    have hnamed' := (isCut_groups (enums ++ more) _ (Table.mem_of_get? hg')).named
    exact ⟨group', added, hg', hnamed'.trans hnamed.symm, hadded, howed⟩
  · have hname : name ∉ (groups naming enums).names := fun hm => by
      rw [Table.mem_names_iff, Table.contains, hnone] at hm
      cases hm
    have hfresh := hgrows.fresh name (Table.mem_names_iff.2 (Option.isSome_of_eq_some hg)) hname
    obtain ⟨added, hadded, howed⟩ := hgrows.members name
    rw [membersOf_of_get? hg] at hfresh hadded
    rw [membersOf, hnone, Option.map_none, Option.getD_none, List.nil_append] at hadded
    exact ⟨(isCut_groups (enums ++ more) _ (Table.mem_of_get? hg)).named, hfresh, hadded ▸ howed⟩

/-- An enum of colours. -/
def colours : List (List Enumerator) := [[⟨"COLOR_3D", none⟩, ⟨"COLOR_RED", none⟩]]

/-- More colours, and an enum of sizes. -/
def laterEnums : List (List Enumerator) :=
  [[⟨"COLOR__3D", none⟩, ⟨"COLOR_LIME", none⟩], [⟨"SIZE_1X", none⟩, ⟨"SIZE_2X", none⟩]]

/-- When the enums follow, the group of colours grows by the one later colour whose place is
    free, and there is a group of sizes. -/
theorem colours_appended :
    (∃ group group' added, (groups lvNaming colours).get? "COLOR" = some group ∧
      (groups lvNaming (colours ++ laterEnums)).get? "COLOR" = some group' ∧
      group'.members.rows = group.members.rows ++ added ∧ added.map Prod.fst = ["LIME"] ∧
      ∀ row ∈ added, Owed lvNaming laterEnums "COLOR" row) ∧
    (groups lvNaming colours).get? "SIZE" = none ∧
    ∃ group, (groups lvNaming (colours ++ laterEnums)).get? "SIZE" = some group ∧
      group.members.rows ≠ [] ∧ ∀ row ∈ group.members.rows,
      Owed lvNaming laterEnums "SIZE" row := by
  have hbefore : ((groups lvNaming colours).get? "COLOR").map (·.members.names) =
      some ["_3D", "RED"] := by decide +kernel
  have hafter : ((groups lvNaming (colours ++ laterEnums)).get? "COLOR").map (·.members.names) =
      some ["_3D", "RED", "LIME"] := by decide +kernel
  have hnone : (groups lvNaming colours).get? "SIZE" = none :=
    Option.isNone_iff_eq_none.1 (by decide +kernel)
  have hsome : ((groups lvNaming (colours ++ laterEnums)).get? "SIZE").isSome := by decide +kernel
  obtain ⟨group, hgroup, hnames⟩ := Option.map_eq_some_iff.1 hbefore
  obtain ⟨group', added, hgroup', -, hadded, howed⟩ :=
    (groups_append lvNaming colours laterEnums).2.1 _ _ hgroup
  obtain ⟨sizes, hsizes⟩ := Option.isSome_iff_exists.1 hsome
  refine ⟨⟨group, group', added, hgroup, hgroup', hadded, ?_, howed⟩, hnone, sizes, hsizes,
    ((groups_append lvNaming colours laterEnums).2.2 _ _ hsizes hnone).2⟩
  rw [hgroup', Option.map_some, Option.some.injEq, Table.names, hadded, List.map_append,
    ← Table.names, hnames] at hafter
  exact List.append_cancel_left hafter

end Appending

end Enums

end ScriptBind
