import ScriptBind.Proofs.GroupNames

/-!
# What a Script Finds in the Groups

The groups of a library are filled enum by enum, and one group may be filled by many. What
a script finds at a place, which is a group and a name in it, is nevertheless settled by the
enums one at a time: each enum by itself has something to give at the place or has not, and
the first that has gives it. Nothing that is there already gives way to a later enum.

Within one enum it is not so. Its members are first listed by themselves, and of two that
are listed under one name the later is kept.

## Main definitions

* `Enums.cValue`: The value that C gives a member of an enum.
* `Enums.Becomes`: What the member of a name becomes for a script.
* `Enums.shown`: The members of an enum of one kind, as a script is shown them.
* `Enums.placeOf`: The group of a member and its name there.
* `Enums.memberAt?`: What a script finds at a place.
* `Enums.given?`: What an enum by itself gives.

## Theorems

* `eq_of_classify_number`, `eq_of_classify_text`: What a number and a text keep of their
  enumerator.
* `numbered_getElem?`: The values that members are numbered with are those of C.
* `memberAt?_addGroup`: What a list of members adds to the groups.
* `memberAt?_groups`: A script finds what the first enum that has something gives.
* `becomes_of_given?`, `isSome_given?`: What an enum gives, and that it gives something at the
  place of each of its members.
-/

namespace ScriptBind

namespace Enums

/-- The value of a member of an enum by its position: its own, or else one more than the
    member before it has, in 64 bits. The first member has a value it is given. -/
def valueFrom (first : Int64) (members : List Enumerator) : Nat → Int64
  | 0 => (members[0]?.bind Enumerator.value).getD first
  | i + 1 => (members[i + 1]?.bind Enumerator.value).getD (valueFrom first members i + 1)

/-- The value that C gives to a member of an enum, which starts at zero. -/
def cValue (members : List Enumerator) (i : Nat) : Int64 := valueFrom 0 members i

/-- What the member of a name becomes for a script, if it becomes anything. -/
def Becomes (naming : Naming) (members : List Enumerator) (name : String) (value : EnumValue) :
    Prop :=
  ∃ i, members[i]?.map Enumerator.name = some name ∧
    classify naming name (cValue members i) = some value

/-- The members of an enum that a script is shown, of one kind: its texts or its numbers. -/
def shown (naming : Naming) (members : List Enumerator) (isText : Bool) : List EnumValue :=
  ((numbered members).filterMap fun (name, value) => classify naming name value).filter
    (·.isText == isText)

/-- The place of what a member of an enum becomes: the group that the members of its kind
    go to, and its name there. -/
def placeOf (naming : Naming) (members : List Enumerator) (value : EnumValue) : String × String :=
  let group := groupName ((shown naming members value.isText).map EnumValue.cName)
  (group, memberName group value)

/-- What a script finds at a place, which is the name of a group and of a member. -/
def memberAt? (all : Table EnumGroup) (place : String × String) : Option EnumValue :=
  (all.get? place.1).bind (·.members.get? place.2)

/-- What a list of members by itself gives at a place. -/
def listed? (values : List EnumValue) (place : String × String) : Option EnumValue :=
  if groupName (values.map EnumValue.cName) = place.1 then
    (Table.ofRows (values.map fun value => (memberName place.1 value, value))).get? place.2
  else none

/-- What an enum by itself gives at a place: one of its numbers, or else one of its texts. -/
def given? (naming : Naming) (place : String × String) (members : List Enumerator) :
    Option EnumValue :=
  (listed? (shown naming members false) place).or (listed? (shown naming members true) place)

/-- The names of a library whose scope is `lv`. -/
def lvNaming : Naming := { moduleName := "m", scope := "lv" }

section Classified

variable {naming : Naming} {name full text cName : String} {value : Int64}

theorem classify_of_plain (hs : naming.stringConstant? name = none)
    (hp : Text.startsWith "_" name = false) :
    classify naming name value = some (.number name value) := by
  rw [classify, hs]
  simp only [hp, Bool.false_eq_true, if_false]

theorem classify_of_text (hs : naming.stringConstant? name = some full)
    (ht : PackedText.unpack? value = some text) :
    classify naming name value = some (.text full text) := by
  rw [classify, hs]
  simp only [ht]

/-- A number keeps its C name and its value. -/
theorem eq_of_classify_number {number : Int64}
    (h : classify naming name value = some (.number cName number)) :
    cName = name ∧ number = value := by
  unfold classify at h
  split at h
  · split at h
    · cases h
    · cases h
      exact ⟨rfl, rfl⟩
  · split at h
    · cases h
    · cases h
      exact ⟨rfl, rfl⟩

/-- A text has the full name of its enumerator, and its value holds the text. -/
theorem eq_of_classify_text (h : classify naming name value = some (.text cName text)) :
    naming.stringConstant? name = some cName ∧ PackedText.unpack? value = some text := by
  unfold classify at h
  split at h
  · next hs =>
      split at h
      · next ht =>
          cases h
          exact ⟨hs, ht⟩
      · cases h
  · split at h <;> cases h

end Classified

section Values

variable {naming : Naming} {members : List Enumerator} {value : EnumValue}

/-- Without its first member, an enum goes on where that member has left off. -/
theorem valueFrom_cons (first : Int64) (member : Enumerator) (rest : List Enumerator) (i : Nat) :
    valueFrom first (member :: rest) (i + 1) =
      valueFrom (member.value.getD first + 1) rest i := by
  induction i with
  | zero => rfl
  | succ i ih => rw [valueFrom, ih, List.getElem?_cons_succ, valueFrom]

/-- The values that members are numbered with are those of C. -/
theorem numbered_getElem? (members : List Enumerator) (i : Nat) :
    (numbered members)[i]? = members[i]?.map fun member => (member.name, cValue members i) := by
  have hfrom : ∀ (members : List Enumerator) (first : Int64) (i : Nat),
      (numberedFrom first members)[i]? =
        members[i]?.map fun member => (member.name, valueFrom first members i) := by
    intro members
    induction members with
    | nil => exact fun _ _ => rfl
    | cons member rest ih =>
        intro first i
        cases i with
        | zero => rfl
        | succ i =>
            rw [numberedFrom, List.getElem?_cons_succ, List.getElem?_cons_succ, ih, valueFrom_cons]
  exact hfrom members 0 i

theorem mem_numbered_iff {name : String} {number : Int64} :
    (name, number) ∈ numbered members ↔
      ∃ i, members[i]?.map Enumerator.name = some name ∧ cValue members i = number := by
  rw [List.mem_iff_getElem?]
  refine exists_congr fun i => ?_
  rw [numbered_getElem?]
  cases members[i]? with
  | none => exact ⟨(fun h => by cases h), (fun h => by cases h.1)⟩
  | some member =>
      rw [Option.map_some, Option.map_some, Option.some.injEq, Option.some.injEq, Prod.mk.injEq]

/-- A script is shown what the members become. -/
theorem mem_shown_iff {isText : Bool} :
    value ∈ shown naming members isText ↔
      value.isText = isText ∧ ∃ name, Becomes naming members name value := by
  rw [shown, List.mem_filter, List.mem_filterMap, beq_iff_eq, and_comm]
  refine and_congr_right fun _ => ⟨?_, ?_⟩
  · rintro ⟨⟨name, number⟩, hm, hc⟩
    obtain ⟨i, hi, rfl⟩ := mem_numbered_iff.1 hm
    exact ⟨name, i, hi, hc⟩
  · rintro ⟨name, i, hi, hc⟩
    exact ⟨(name, cValue members i), mem_numbered_iff.2 ⟨i, hi, rfl⟩, hc⟩

end Values

section Finding

variable {naming : Naming} {place : String × String} {members : List Enumerator} {value : EnumValue}

/-- A list of members is found at the places where nothing has been before. -/
theorem memberAt?_addGroup (all : Table EnumGroup) (values : List EnumValue)
    (place : String × String) :
    memberAt? (addGroup all values) place = (memberAt? all place).or (listed? values place) := by
  unfold addGroup
  split
  · next hnil =>
      rw [List.isEmpty_iff.1 hnil, listed?]
      split <;> exact Option.or_none.symm
  · simp only [memberAt?, listed?, Table.get?_set]
    split
    · next he =>
        rw [Option.bind_some, EnumGroup.get?_merge, he]
        cases all.get? place.1 with
        | none => rfl
        | some old => rfl
    · exact Option.or_none.symm

/-- One more enum joins with its numbers and then with its texts. -/
theorem addEnum_eq (all : Table EnumGroup) (members : List Enumerator) :
    addEnum naming all members =
      addGroup (addGroup all (shown naming members false)) (shown naming members true) := by
  simp only [addEnum, shown, beq_false, beq_true]

/-- One more enum is found at the places where nothing has been before. -/
theorem memberAt?_addEnum (all : Table EnumGroup) (members : List Enumerator)
    (place : String × String) :
    memberAt? (addEnum naming all members) place =
      (memberAt? all place).or (given? naming place members) := by
  rw [addEnum_eq, memberAt?_addGroup, memberAt?_addGroup, Option.or_assoc, given?]

/-- A script finds at a place what the first enum that has something there gives. -/
theorem memberAt?_groups (naming : Naming) (enums : List (List Enumerator))
    (place : String × String) :
    memberAt? (groups naming enums) place = enums.findSome? (given? naming place) := by
  have hfold : ∀ (enums : List (List Enumerator)) (all : Table EnumGroup),
      memberAt? (enums.foldl (addEnum naming) all) place =
        (memberAt? all place).or (enums.findSome? (given? naming place)) := by
    intro enums
    induction enums with
    | nil => exact fun all => Option.or_none.symm
    | cons members rest ih =>
        intro all
        rw [List.foldl_cons, ih, memberAt?_addEnum, Option.or_assoc, List.findSome?_cons]
        cases given? naming place members <;> rfl
  exact hfold enums .empty

theorem listed?_eq_some {values : List EnumValue} (h : listed? values place = some value) :
    value ∈ values ∧ place.1 = groupName (values.map EnumValue.cName) ∧
      place.2 = memberName place.1 value := by
  unfold listed? at h
  split at h
  · next he =>
      obtain ⟨hm, hkey⟩ := mem_ofRows_members (Table.mem_of_get? h)
      exact ⟨hm, he.symm, hkey⟩
  · cases h

theorem isSome_listed? {values : List EnumValue} (h : value ∈ values)
    (hg : place.1 = groupName (values.map EnumValue.cName))
    (hk : place.2 = memberName place.1 value) :
    (listed? values place).isSome := by
  rw [listed?, if_pos hg.symm, Table.get?_ofRows, Option.isSome_iff_ne_none, ne_eq,
    Table.find?_eq_none_iff, Decidable.not_not, List.map_reverse, List.mem_reverse, List.map_map]
  exact List.mem_map.2 ⟨value, h, hk.symm⟩

/-- What an enum gives is what one of its members becomes, at its place. -/
theorem becomes_of_given? (h : given? naming place members = some value) :
    (∃ name, Becomes naming members name value) ∧ place = placeOf naming members value := by
  have hshown : ∀ isText, listed? (shown naming members isText) place = some value →
      (∃ name, Becomes naming members name value) ∧ place = placeOf naming members value := by
    intro isText hl
    obtain ⟨hm, hg, hk⟩ := listed?_eq_some hl
    obtain ⟨rfl, hb⟩ := mem_shown_iff.1 hm
    exact ⟨hb, Prod.ext hg (by rw [hk, hg, placeOf])⟩
  rcases Option.or_eq_some_iff.1 h with hn | ⟨-, ht⟩
  · exact hshown false hn
  · exact hshown true ht

/-- An enum has something at the place of each of its members. -/
theorem isSome_given? {name : String} (h : Becomes naming members name value) :
    (given? naming (placeOf naming members value) members).isSome := by
  have hl : (listed? (shown naming members value.isText) (placeOf naming members value)).isSome :=
    isSome_listed? (mem_shown_iff.2 ⟨rfl, name, h⟩) rfl rfl
  rw [given?, Option.isSome_or, Bool.or_eq_true]
  cases hk : value.isText with
  | false => exact .inl (hk ▸ hl)
  | true => exact .inr (hk ▸ hl)

end Finding

end Enums

end ScriptBind
