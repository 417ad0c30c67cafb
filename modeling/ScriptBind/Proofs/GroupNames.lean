import ScriptBind.Enums.Group
import ScriptBind.Proofs.SessionChanges

/-!
# Groups Are Named by Segments

The name of a group is the longest run of whole segments that all its names start with:
no other text that is followed by an underscore in every name is longer. Only when there
is no such text at all does the group go by the plain name.

Groups of several enums are joined when they have one name. Each enum has been cut by the
name it was given, so whatever a group is joined from, every member carries the name of
the group in front, and a script finds it under the rest.

## Main definitions

* `Enums.IsSegmentStart`: A run of whole segments that some names start with.
* `EnumGroup.IsCut`: A group whose members are listed by what follows its name.

## Theorems

* `commonStartOf_greatest`: What all names start with begins the common start.
* `groupName_of_segmentStart`: The name of a group is the longest segment start.
* `groups_induct`: What holds of a group however it is joined.
* `groups_named_by_segments`: Groups are named, and their members keyed, by segments.
-/

namespace ScriptBind

/-- What a table of rows has under a name is one of the rows. -/
theorem mem_of_get?_ofRows {α : Type} {rows : List (String × α)} {name : String} {value : α}
    (h : (Table.ofRows rows).get? name = some value) : (name, value) ∈ rows := by
  rw [Table.get?_ofRows] at h
  exact List.mem_reverse.1 (Table.mem_of_find? h)

/-- A name in a joined group is that of the member that was there before, or else of the
    member that has joined it. -/
theorem EnumGroup.get?_merge (group : EnumGroup) (members : Table EnumValue) (name : String) :
    (group.merge members).members.get? name = (group.members.get? name).or (members.get? name) :=
  Table.get?_foldl_add members.rows group.members name

/-- A group under a name whose members have the name in front, unless it is the plain
    one, and are listed by what follows. -/
structure EnumGroup.IsCut (name : String) (group : EnumGroup) : Prop where
  /-- The group has the name it is found under. -/
  named : group.name = name
  /-- The members are listed by what follows the name. -/
  keyed : name ≠ Enums.plainGroup → ∀ row ∈ group.members.rows,
    ∃ rest, row.2.cName = name ++ "_" ++ rest ∧ row.1 = Text.attributeName rest

namespace Enums

section Names

variable {names : List String} {p : String}

/-- A beginning of two names begins what they have in common. -/
theorem commonStart_greatest {l a b : List Char} (ha : l <+: a) (hb : l <+: b) :
    l <+: commonStart a b := by
  induction l generalizing a b with
  | nil => exact List.nil_prefix
  | cons c l ih =>
      obtain ⟨as, rfl⟩ := ha
      obtain ⟨bs, rfl⟩ := hb
      rw [List.cons_append, List.cons_append, commonStart, if_pos rfl]
      exact List.cons_prefix_cons.2 ⟨rfl, ih (List.prefix_append ..) (List.prefix_append ..)⟩

/-- What all names start with begins the common start, and conversely. -/
theorem commonStartOf_greatest (hn : names ≠ []) {l : List Char} :
    l <+: commonStartOf names ↔ ∀ name ∈ names, l <+: name.toList := by
  have hfold : ∀ (rest : List (List Char)) (first : List Char),
      l <+: rest.foldl commonStart first ↔ l <+: first ∧ ∀ text ∈ rest, l <+: text := by
    intro rest
    induction rest with
    | nil => exact fun first => ⟨fun h => ⟨h, fun _ hm => by cases hm⟩, fun h => h.1⟩
    | cons text rest ih =>
        intro first
        rw [List.foldl_cons, ih, List.forall_mem_cons, ← and_assoc]
        refine and_congr_left fun _ => ⟨fun h => ?_, fun h => commonStart_greatest h.1 h.2⟩
        exact ⟨h.trans (commonStart_left ..), h.trans (commonStart_right ..)⟩
  cases names with
  | nil => exact absurd rfl hn
  | cons name rest => rw [commonStartOf, hfold, List.forall_mem_map, List.forall_mem_cons]

/-- Whatever stands before some occurrence of a character begins what stands before the
    last one. -/
theorem beforeLast?_greatest {mark : Char} {text front : List Char} (h : front ++ [mark] <+: text) :
    ∃ last, beforeLast? mark text = some last ∧ front <+: last := by
  induction text generalizing front with
  | nil => exact absurd (List.prefix_nil.1 h) (List.append_ne_nil_of_right_ne_nil _ (by simp))
  | cons c rest ih =>
      cases front with
      | nil =>
          -- The character stands in front, and it counts unless there is a later one.
          obtain ⟨rfl, -⟩ := List.cons_prefix_cons.1 h
          rw [beforeLast?]
          cases beforeLast? mark rest with
          | none => exact ⟨[], if_pos rfl, List.nil_prefix⟩
          | some later => exact ⟨mark :: later, rfl, List.nil_prefix⟩
      | cons d front =>
          obtain ⟨rfl, hrest⟩ := List.cons_prefix_cons.1 h
          obtain ⟨later, hl, hp⟩ := ih hrest
          rw [beforeLast?, hl]
          exact ⟨d :: later, rfl, List.cons_prefix_cons.2 ⟨rfl, hp⟩⟩

/-- A run of whole segments that names start with: each has it in front, then an
    underscore, then some rest. -/
def IsSegmentStart (names : List String) (p : String) : Prop :=
  p ≠ "" ∧ ∀ name ∈ names, ∃ rest, name = p ++ "_" ++ rest

theorem prefix_iff_exists_rest {name : String} :
    p.toList ++ ['_'] <+: name.toList ↔ ∃ rest, name = p ++ "_" ++ rest := by
  constructor
  · rintro ⟨rest, hr⟩
    refine ⟨String.ofList rest, String.ext ?_⟩
    have hrest : (String.ofList rest).toList = rest := String.toList_ofList
    rw [String.toList_append, String.toList_append, hrest, ← hr]
    rfl
  · rintro ⟨rest, rfl⟩
    rw [String.toList_append, String.toList_append]
    exact List.prefix_append ..

/-- Names start with a run of segments if their common start does. -/
theorem isSegmentStart_iff (hn : names ≠ []) :
    IsSegmentStart names p ↔ p ≠ "" ∧ p.toList ++ ['_'] <+: commonStartOf names := by
  rw [IsSegmentStart, commonStartOf_greatest hn]
  simp only [prefix_iff_exists_rest]

theorem ofList_cons_ne_empty (c : Char) (front : List Char) : String.ofList (c :: front) ≠ "" := by
  intro he
  have hnil := congrArg String.toList he
  rw [String.toList_ofList] at hnil
  cases hnil

/-- If names start with whole segments, their group is named by the longest run of
    them. -/
theorem groupName_of_segmentStart (hn : names ≠ []) (hp : IsSegmentStart names p) :
    IsSegmentStart names (groupName names) ∧ p.toList <+: (groupName names).toList := by
  obtain ⟨hne, hstart⟩ := (isSegmentStart_iff hn).1 hp
  obtain ⟨last, hlast, hpre⟩ := beforeLast?_greatest hstart
  cases last with
  | nil => exact absurd (String.ext (List.prefix_nil.1 hpre)) hne
  | cons c front =>
      have hname : groupName names = String.ofList (c :: front) := by rw [groupName, hlast]
      rw [isSegmentStart_iff hn, hname, String.toList_ofList]
      exact ⟨⟨ofList_cons_ne_empty c front, beforeLast?_eq_some hlast⟩, hpre⟩

/-- If names do not start with whole segments, their group has the plain name. -/
theorem groupName_of_no_segmentStart (hn : names ≠ []) (h : ∀ p, ¬ IsSegmentStart names p) :
    groupName names = plainGroup := by
  rw [groupName]
  split
  · next c front hlast =>
      refine absurd ((isSegmentStart_iff hn).2 ⟨ofList_cons_ne_empty c front, ?_⟩) (h _)
      rw [String.toList_ofList]
      exact beforeLast?_eq_some hlast
  · rfl

/-- A group that does not have the plain name is named by segments. -/
theorem isSegmentStart_groupName (hn : names ≠ []) (h : groupName names ≠ plainGroup) :
    IsSegmentStart names (groupName names) := by
  obtain ⟨p, hp⟩ := Classical.not_forall_not.1 fun hall => h (groupName_of_no_segmentStart hn hall)
  exact (groupName_of_segmentStart hn hp).1

end Names

section Groups

variable {naming : Naming}

/-- What is left of a name after its group and an underscore is the rest. -/
theorem afterGroup_append {group : String} (h : group ≠ plainGroup) (rest : String) :
    afterGroup group (group ++ "_" ++ rest) = rest := by
  have hgroup : Text.dropPrefix? group (group ++ "_" ++ rest) = some ("_" ++ rest) :=
    Text.dropPrefix?_eq_some_iff.2 String.append_assoc
  rw [afterGroup, if_neg h, hgroup, Option.bind_some, Text.dropPrefix?_eq_some_iff.2 rfl,
    Option.getD_some]

/-- What holds of an empty group, and stays true when a group is joined by members that
    its name was made from, holds of every group under its name. -/
theorem groups_induct {P : String → EnumGroup → Prop} (hempty : ∀ name, P name ⟨name, .empty⟩)
    (hjoin : ∀ (values : List EnumValue) (group : EnumGroup), values ≠ [] →
      P (groupName (values.map EnumValue.cName)) group →
        P (groupName (values.map EnumValue.cName)) (group.merge (.ofRows
          (values.map fun value =>
            (memberName (groupName (values.map EnumValue.cName)) value, value)))))
    (enums : List (List Enumerator)) : ∀ row ∈ (groups naming enums).rows, P row.1 row.2 := by
  have hadd : ∀ (all : Table EnumGroup) (values : List EnumValue),
      (∀ name group, all.get? name = some group → P name group) →
        ∀ name group, (addGroup all values).get? name = some group → P name group := by
    intro all values hall name group hget
    unfold addGroup at hget
    split at hget
    · exact hall name group hget
    · next hsome =>
        rw [Table.get?_set] at hget
        split at hget
        · next he =>
            obtain rfl := he
            rw [← Option.some.inj hget]
            refine hjoin values _ (fun hnil => hsome (List.isEmpty_iff.2 hnil)) ?_
            cases hold : all.get? (groupName (values.map EnumValue.cName)) with
            | none => exact hempty _
            | some old => exact hall _ old hold
        · exact hall name group hget
  have hall : ∀ (enums : List (List Enumerator)) (all : Table EnumGroup),
      (∀ name group, all.get? name = some group → P name group) →
        ∀ name group, (enums.foldl (addEnum naming) all).get? name = some group → P name group := by
    intro enums
    induction enums with
    | nil => exact fun _ h => h
    | cons enum rest ih => exact fun all h => ih _ (hadd _ _ (hadd _ _ h))
  exact fun row hrow => hall enums .empty (fun _ _ h => by cases h) _ _ (Table.get?_of_mem hrow)

/-- The rows of a list of members are the members by their names in the group. -/
theorem mem_ofRows_members {values : List EnumValue} {group : String} {row : String × EnumValue}
    (h : row ∈ (Table.ofRows (values.map fun value => (memberName group value, value))).rows) :
    row.2 ∈ values ∧ row.1 = memberName group row.2 := by
  obtain ⟨key, member⟩ := row
  obtain ⟨value, hvalue, hpair⟩ := List.mem_map.1 (mem_of_get?_ofRows (Table.get?_of_mem h))
  obtain ⟨rfl, rfl⟩ := Prod.mk.inj hpair
  exact ⟨hvalue, rfl⟩

/-- The members that name a group are cut by its name. -/
theorem isCut_ofRows {values : List EnumValue} (hn : values ≠ []) {name : String}
    (he : name = groupName (values.map EnumValue.cName)) (hg : name ≠ plainGroup)
    {row : String × EnumValue}
    (hrow : row ∈ (Table.ofRows (values.map fun value => (memberName name value, value))).rows) :
    ∃ rest, row.2.cName = name ++ "_" ++ rest ∧ row.1 = Text.attributeName rest := by
  obtain ⟨hvalue, hkey⟩ := mem_ofRows_members hrow
  have hstart : IsSegmentStart (values.map EnumValue.cName) name := by
    rw [he]
    exact isSegmentStart_groupName (fun hnil => hn (List.map_eq_nil_iff.1 hnil)) (he ▸ hg)
  obtain ⟨rest, hrest⟩ := hstart.2 row.2.cName (List.mem_map_of_mem hvalue)
  refine ⟨rest, hrest, ?_⟩
  rw [hkey, memberName, hrest, afterGroup_append hg]

/-- Every group is cut by its name, whatever it is joined from. -/
theorem isCut_groups (enums : List (List Enumerator)) :
    ∀ row ∈ (groups naming enums).rows, row.2.IsCut row.1 := by
  refine groups_induct (P := fun name group => group.IsCut name)
    (fun name => ⟨rfl, fun _ _ hrow => by cases hrow⟩)
      (fun values group hn hcut => ⟨hcut.named, ?_⟩) enums
  intro hg row hrow
  have hget := Table.get?_of_mem hrow
  rw [EnumGroup.get?_merge] at hget
  rcases Option.or_eq_some_iff.1 hget with hold | ⟨-, hnew⟩
  · exact hcut.keyed hg row (Table.mem_of_get? hold)
  · exact isCut_ofRows hn rfl hg (Table.mem_of_get? hnew)

/-- The name of a group is the longest run of whole segments that all its names start
    with, and the plain name if there is none. In every other group of a library, joined
    or not, the C name of every member is the name of the group, an underscore and some
    rest, and the member is found under the script name of the rest. -/
theorem groups_named_by_segments :
    (∀ names : List String, names ≠ [] →
      ((∃ p, IsSegmentStart names p) → IsSegmentStart names (groupName names) ∧
        ∀ p, IsSegmentStart names p → p.length ≤ (groupName names).length) ∧
      ((∀ p, ¬ IsSegmentStart names p) → groupName names = "enum")) ∧
    ∀ (naming : Naming) (enums : List (List Enumerator)) (name : String) (group : EnumGroup),
      (name, group) ∈ (groups naming enums).rows → name ≠ "enum" → group.name = name ∧
        ∀ (key : String) (value : EnumValue), (key, value) ∈ group.members.rows →
          ∃ rest, value.cName = name ++ "_" ++ rest ∧ key = Text.attributeName rest := by
  refine ⟨fun names hn => ⟨fun ⟨p, hp⟩ => ?_, groupName_of_no_segmentStart hn⟩, ?_⟩
  · refine ⟨(groupName_of_segmentStart hn hp).1, fun q hq => ?_⟩
    exact (groupName_of_segmentStart hn hq).2.length_le
  · intro naming enums name group hrow hg
    have hcut := isCut_groups enums _ hrow
    exact ⟨hcut.named, fun key value hm => hcut.keyed hg _ hm⟩

/-- The groups of two enums of colours, joined: both lists are cut at the same segment,
    although the second starts alike for one more letter. -/
theorem colours_named_by_segments :
    groupName ["COLOR_LIME", "COLOR_LIGHT"] = "COLOR" ∧
    IsSegmentStart ["COLOR_LIME", "COLOR_LIGHT"] "COLOR" ∧
    ∃ group, (groups { moduleName := "m", scope := "m" } [[⟨"COLOR_RED", none⟩, ⟨"COLOR_3D", none⟩],
        [⟨"COLOR_LIME", none⟩, ⟨"COLOR_LIGHT", none⟩]]).get? "COLOR" = some group ∧
      group.members.names = ["RED", "_3D", "LIME", "LIGHT"] ∧
      ∀ row ∈ group.members.rows, ∃ rest, row.2.cName = "COLOR" ++ "_" ++ rest ∧
        row.1 = Text.attributeName rest := by
  have hname : groupName ["COLOR_LIME", "COLOR_LIGHT"] = "COLOR" := by decide +kernel
  have hstart : IsSegmentStart ["COLOR_LIME", "COLOR_LIGHT"] "COLOR" := by
    refine ⟨by decide, ?_⟩
    rw [List.forall_mem_cons, List.forall_mem_singleton]
    exact ⟨⟨"LIME", by decide⟩, ⟨"LIGHT", by decide⟩⟩
  refine ⟨hname, ?_, ?_⟩
  · rw [← hname]
    exact ((groups_named_by_segments.1 _ (List.cons_ne_nil _ _)).1 ⟨_, hstart⟩).1
  · have hmembers :
        ((groups { moduleName := "m", scope := "m" } [[⟨"COLOR_RED", none⟩, ⟨"COLOR_3D", none⟩],
        [⟨"COLOR_LIME", none⟩, ⟨"COLOR_LIGHT", none⟩]]).get? "COLOR").map (·.members.names) =
          some ["RED", "_3D", "LIME", "LIGHT"] := by decide +kernel
    obtain ⟨group, hget, hnames⟩ := Option.map_eq_some_iff.1 hmembers
    refine ⟨group, hget, hnames, fun row hrow => ?_⟩
    exact (groups_named_by_segments.2 _ _ _ _ (Table.mem_of_get? hget) (by decide)).2
      row.1 row.2 hrow

end Groups

end Enums

end ScriptBind
