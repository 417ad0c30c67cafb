/-!
# Tables in Order of Insertion

A finite map from names to values that remembers the order in which its names
first came in.

Everything the generator collects is looked up by name and printed in the
order of declaration, so one container has to do both. A table is a list of
rows whose names are pairwise distinct; the distinctness is part of the type,
which is what makes a row's position and its value well defined.

There are two ways to add a row and they differ only on a name that is already
there. `set` replaces the value and leaves the position alone; `add` keeps the
old value. Memo tables grow by `add`, declarations are read by `set`.

## Main definitions

* `Table`: Rows with pairwise distinct names.
* `Table.get?`: The value under a name.
* `Table.set`: Adding a row, the later value winning.
* `Table.add`: Adding a row, the earlier value winning.
* `Table.erase`: Removing a row.
* `Table.modify`: Changing values in place.
* `Table.ofRows`: The table of a list of rows, the later value winning.

## Theorems

* `names_set`, `names_add`: What each way of adding does to the names.
* `get?_set`, `get?_add`: What each way of adding does to a look-up.
* `add_rows`: Adding leaves the old rows in front.
* `mem_names_iff`: A name is present exactly when it has a value.
-/

namespace ScriptBind

/-- Rows in order of insertion, no name twice. -/
structure Table (α : Type) where
  /-- The rows, oldest first. -/
  rows : List (String × α)
  /-- No name has two rows. -/
  distinct : (rows.map Prod.fst).Nodup := by decide

namespace Table

variable {α β : Type}

/-- The table without rows. -/
def empty : Table α := ⟨[], List.nodup_nil⟩

instance : Inhabited (Table α) := ⟨empty⟩
instance : EmptyCollection (Table α) := ⟨empty⟩

/-- The names, oldest first. -/
def names (t : Table α) : List String := t.rows.map Prod.fst

/-- The values, oldest first. -/
def values (t : Table α) : List α := t.rows.map Prod.snd

/-- The number of rows. -/
def size (t : Table α) : Nat := t.rows.length

/-- Whether there are no rows. -/
def isEmpty (t : Table α) : Bool := t.rows.isEmpty

/-- The value of the first row under a name. -/
def find? (name : String) : List (String × α) → Option α
  | [] => none
  | (key, value) :: rest => if key = name then some value else find? name rest

/-- The value under a name. -/
def get? (t : Table α) (name : String) : Option α := find? name t.rows

/-- Whether a name has a row. -/
def contains (t : Table α) (name : String) : Bool := (t.get? name).isSome

/-- Rows with the value under a name replaced, or one more row. -/
def setRows (name : String) (value : α) : List (String × α) → List (String × α)
  | [] => [(name, value)]
  | (key, old) :: rest =>
    if key = name then (key, value) :: rest else (key, old) :: setRows name value rest

/-- Replacing a value keeps the names; a new name goes last. -/
theorem names_setRows (name : String) (value : α) (rows : List (String × α)) :
    (setRows name value rows).map Prod.fst =
      if name ∈ rows.map Prod.fst then rows.map Prod.fst else rows.map Prod.fst ++ [name] := by
  induction rows with
  | nil => simp [setRows]
  | cons row rest ih =>
    obtain ⟨key, old⟩ := row
    by_cases h : key = name
    · simp [setRows, h]
    · -- The first row stays, and the rest decides whether the name is new.
      have h' : ¬ name = key := fun e => h e.symm
      by_cases hm : name ∈ rest.map Prod.fst
      · rw [if_pos hm] at ih
        simp only [setRows, h, if_false, List.map_cons, ih, List.mem_cons, hm, or_true, if_true]
      · rw [if_neg hm] at ih
        simp only [setRows, h, if_false, List.map_cons, ih, List.mem_cons, hm, h', or_self,
          List.cons_append]

/-- One more name keeps a list of names free of repetition if it is new. -/
theorem nodup_snoc {names : List String} {name : String} (h : names.Nodup)
    (hn : name ∉ names) : (names ++ [name]).Nodup := by
  refine List.nodup_append.2 ⟨h, by simp, ?_⟩
  intro a ha b hb
  rw [List.mem_singleton] at hb
  subst hb
  intro e
  exact hn (e ▸ ha)

/-- Add a row. A name that is there already keeps its position and takes the
    new value. -/
def set (t : Table α) (name : String) (value : α) : Table α where
  rows := setRows name value t.rows
  distinct := by
    rw [names_setRows]
    split
    · exact t.distinct
    · next h => exact nodup_snoc t.distinct h

theorem names_set (t : Table α) (name : String) (value : α) :
    (t.set name value).names = if name ∈ t.names then t.names else t.names ++ [name] :=
  names_setRows name value t.rows

theorem find?_eq_none_iff {name : String} {rows : List (String × α)} :
    find? name rows = none ↔ name ∉ rows.map Prod.fst := by
  induction rows with
  | nil => simp [find?]
  | cons row rest ih =>
    obtain ⟨key, value⟩ := row
    by_cases h : key = name
    · simp [find?, h]
    · have h' : ¬ name = key := fun e => h e.symm
      simp only [find?, h, if_false, ih, List.map_cons, List.mem_cons, h', false_or]

/-- A name is present exactly when it has a value. -/
theorem mem_names_iff {t : Table α} {name : String} : name ∈ t.names ↔ t.contains name := by
  rw [contains, get?, Option.isSome_iff_ne_none, ne_eq, find?_eq_none_iff]
  exact Decidable.not_not.symm

/-- Add a row unless the name is there already. -/
def add (t : Table α) (name : String) (value : α) : Table α :=
  if h : t.contains name then t
  else
    { rows := t.rows ++ [(name, value)]
      distinct := by
        rw [List.map_append]
        exact nodup_snoc t.distinct fun hm => h (mem_names_iff.1 hm) }

theorem add_of_contains {t : Table α} {name : String} (h : t.contains name) (value : α) :
    t.add name value = t := by
  rw [add, dif_pos h]

/-- Adding leaves the old rows in front. -/
theorem add_rows (t : Table α) (name : String) (value : α) :
    (t.add name value).rows = t.rows ++ if t.contains name then [] else [(name, value)] := by
  by_cases h : t.contains name
  · rw [add_of_contains h, if_pos h, List.append_nil]
  · rw [add, dif_neg h, if_neg h]

theorem names_add (t : Table α) (name : String) (value : α) :
    (t.add name value).names = if name ∈ t.names then t.names else t.names ++ [name] := by
  rw [names, add_rows]
  by_cases h : t.contains name
  · rw [if_pos h, if_pos (mem_names_iff.2 h), List.append_nil, names]
  · rw [if_neg h, if_neg (fun hm => h (mem_names_iff.1 hm)), List.map_append, names]
    rfl

theorem find?_setRows (name other : String) (value : α) (rows : List (String × α)) :
    find? other (setRows name value rows) =
      if name = other then some value else find? other rows := by
  induction rows with
  | nil => simp [setRows, find?]
  | cons row rest ih =>
    obtain ⟨key, old⟩ := row
    by_cases h : key = name
    · -- The row is replaced where it stands.
      subst h
      by_cases ho : key = other
      · simp [setRows, find?, ho]
      · simp [setRows, find?, ho]
    · by_cases ho : key = other
      · subst ho
        have h' : ¬ name = key := fun e => h e.symm
        simp [setRows, find?, h, h']
      · simp only [setRows, h, if_false, find?, ho, ih]

/-- After replacing, the name has the new value and the others theirs. -/
theorem get?_set (t : Table α) (name other : String) (value : α) :
    (t.set name value).get? other = if name = other then some value else t.get? other :=
  find?_setRows name other value t.rows

theorem find?_append (name : String) (front back : List (String × α)) :
    find? name (front ++ back) = (find? name front).or (find? name back) := by
  induction front with
  | nil => simp [find?]
  | cons row rest ih =>
    obtain ⟨key, value⟩ := row
    by_cases h : key = name
    · simp [find?, h]
    · simp only [List.cons_append, find?, h, if_false, ih]

/-- After adding, the name has its old value, or else the new one. -/
theorem get?_add (t : Table α) (name other : String) (value : α) :
    (t.add name value).get? other =
      (t.get? other).or (if name = other then some value else none) := by
  rw [get?, add_rows, find?_append]
  by_cases h : t.contains name
  · -- Nothing is added, and the old value is found first.
    rw [if_pos h]
    by_cases ho : name = other
    · subst ho
      obtain ⟨v, hv⟩ := Option.isSome_iff_exists.1 h
      rw [get?] at hv
      simp [get?, hv, find?]
    · simp [ho, find?, get?]
  · rw [if_neg h]
    by_cases ho : name = other
    · simp [find?, ho, get?]
    · simp [find?, ho, get?]

/-- Remove the row of a name, the others keeping their order. -/
def erase (t : Table α) (name : String) : Table α where
  rows := t.rows.filter fun row => row.1 != name
  distinct := List.Nodup.sublist (List.filter_sublist.map Prod.fst) t.distinct

/-- Change every value in place. -/
def modify (t : Table α) (f : String → α → β) : Table β where
  rows := t.rows.map fun row => (row.1, f row.1 row.2)
  distinct := by
    rw [List.map_map]
    exact t.distinct

/-- The names are not changed by a change of values. -/
theorem names_modify (t : Table α) (f : String → α → β) : (t.modify f).names = t.names := by
  rw [names, modify, List.map_map]
  rfl

/-- The table of a list of rows. A repeated name keeps its first position and
    takes its last value. -/
def ofRows (rows : List (String × α)) : Table α :=
  rows.foldl (fun t row => t.set row.1 row.2) empty

/-- The table of a list of rows. A repeated name keeps its first position and
    its first value. -/
def ofFirstRows (rows : List (String × α)) : Table α :=
  rows.foldl (fun t row => t.add row.1 row.2) empty

end Table

/-- Add a name at the end of a list of names unless it is there already. -/
def addName (names : List String) (name : String) : List String :=
  if name ∈ names then names else names ++ [name]

/-- A list of names without its repetitions, in order of first occurrence. -/
def distinctNames (names : List String) : List String :=
  names.foldl addName []

theorem nodup_addName {names : List String} (h : names.Nodup) (name : String) :
    (addName names name).Nodup := by
  unfold addName
  split
  · exact h
  · next hn => exact Table.nodup_snoc h hn

end ScriptBind
