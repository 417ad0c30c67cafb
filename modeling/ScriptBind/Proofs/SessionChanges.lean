import ScriptBind.Binding.Resolve

/-!
# Changes of a Session

The few ways in which binding changes a session, written out field by field.
Binding a record changes the most at once: code, conversions, the record's
outcome, diagnostics and awaited callbacks. `commit_eq` says all of it in one
equation, so that later proofs read a field off instead of following the
folds by which the session is built.

A table grows by rows at its end. Looking up a name that was there is not
changed by that, which is most of what is needed of tables.

## Main definitions

* `Session.awaitAll`: A table of callbacks after some have been awaited.
* `Session.committed`: The code that goes with a bound record.

## Theorems

* `get?_foldl_add`, `get?_foldl_set`: What a list of rows does to a look-up when its rows
  are added, or set, one after another.
* `get?_of_initial`: A value stays under its name when rows are added.
* `set_rows_of_fresh`: Setting a new name adds a row at the end.
* `shareWithAlias_cases`, `shareWithAlias_eq`: What a typedef takes over, which
  concerns conversions and identifiers only.
* `commit_eq`: A bound record, by what it changes.
* `get?_awaitAll_of_some`, `get?_awaitAll_of_none`: What awaiting does to names
  with and without an outcome.
-/

namespace ScriptBind

namespace Table

variable {α : Type}

theorem mem_of_find? {name : String} {value : α} {rows : List (String × α)}
    (h : find? name rows = some value) : (name, value) ∈ rows := by
  induction rows with
  | nil => cases h
  | cons row rest ih =>
      obtain ⟨key, first⟩ := row
      rw [find?] at h
      split at h
      · next he => rw [he, Option.some.inj h]; exact List.mem_cons_self ..
      · exact List.mem_cons_of_mem _ (ih h)

/-- A value found under a name is the value of a row. -/
theorem mem_of_get? {t : Table α} {name : String} {value : α} (h : t.get? name = some value) :
    (name, value) ∈ t.rows :=
  mem_of_find? h

theorem find?_of_mem {name : String} {value : α} {rows : List (String × α)}
    (hd : (rows.map Prod.fst).Nodup) (h : (name, value) ∈ rows) : find? name rows = some value := by
  induction rows with
  | nil => cases h
  | cons row rest ih =>
      obtain ⟨key, first⟩ := row
      rw [List.map_cons, List.nodup_cons] at hd
      rw [find?]
      rcases List.mem_cons.1 h with he | hm
      · obtain ⟨rfl, rfl⟩ := Prod.mk.inj he
        rw [if_pos rfl]
      · -- The names are distinct, so the first row is not the one looked for.
        have hne : key ≠ name := fun e => hd.1 (List.mem_map.2 ⟨_, hm, e.symm⟩)
        rw [if_neg hne]
        exact ih hd.2 hm

/-- The value of a row is found under its name. -/
theorem get?_of_mem {t : Table α} {name : String} {value : α} (h : (name, value) ∈ t.rows) :
    t.get? name = some value :=
  find?_of_mem t.distinct h

/-- After rows have been added, a name has its old value, or else its first new one. -/
theorem get?_foldl_add (rows : List (String × α)) (t : Table α) (name : String) :
    (rows.foldl (fun t row => t.add row.1 row.2) t).get? name =
      (t.get? name).or (find? name rows) := by
  induction rows generalizing t with
  | nil => rw [List.foldl_nil, find?, Option.or_none]
  | cons row rest ih =>
      rw [List.foldl_cons, ih, get?_add, Option.or_assoc, find?]
      split
      · rw [Option.some_or]
      · rw [Option.none_or]

/-- After rows have been set, a name has its last new value, or else its old one. -/
theorem get?_foldl_set (rows : List (String × α)) (t : Table α) (name : String) :
    (rows.foldl (fun t row => t.set row.1 row.2) t).get? name =
      (find? name rows.reverse).or (t.get? name) := by
  induction rows generalizing t with
  | nil => rw [List.foldl_nil, List.reverse_nil, find?, Option.none_or]
  | cons row rest ih =>
      rw [List.foldl_cons, ih, get?_set, List.reverse_cons, find?_append, Option.or_assoc, find?]
      split
      · rw [Option.some_or]
      · rw [find?, Option.none_or]

/-- A table of first rows has the first value of each name. -/
theorem get?_ofFirstRows (rows : List (String × α)) (name : String) :
    (ofFirstRows rows).get? name = find? name rows :=
  get?_foldl_add rows .empty name

/-- A table of rows has the last value of each name. -/
theorem get?_ofRows (rows : List (String × α)) (name : String) :
    (ofRows rows).get? name = find? name rows.reverse := by
  rw [ofRows, get?_foldl_set]
  exact Option.or_none

theorem eq_of_get?_set {t : Table α} {name key : String} {value new : α}
    (h : (t.set key new).get? name = some value) :
    t.get? name = some value ∨ key = name ∧ new = value := by
  rw [get?_set] at h
  split at h
  · next he => exact Or.inr ⟨he, Option.some.inj h⟩
  · exact Or.inl h

/-- A value stays under its name when rows are added at the end. -/
theorem get?_of_initial {t t' : Table α} {name : String} {value : α} (h : t.rows <+: t'.rows)
    (hv : t.get? name = some value) : t'.get? name = some value := by
  obtain ⟨added, ha⟩ := h
  rw [get?] at hv
  rw [get?, ← ha, find?_append, hv, Option.some_or]

theorem contains_of_initial {t t' : Table α} {name : String} (h : t.rows <+: t'.rows)
    (hc : t.contains name) : t'.contains name := by
  obtain ⟨value, hv⟩ := Option.isSome_iff_exists.1 hc
  exact Option.isSome_iff_exists.2 ⟨value, get?_of_initial h hv⟩

theorem prefix_add (t : Table α) (name : String) (value : α) :
    t.rows <+: (t.add name value).rows := by
  rw [add_rows]
  exact List.prefix_append ..

theorem setRows_of_not_mem {name : String} {value : α} {rows : List (String × α)}
    (h : name ∉ rows.map Prod.fst) : setRows name value rows = rows ++ [(name, value)] := by
  induction rows with
  | nil => rfl
  | cons row rest ih =>
      obtain ⟨key, old⟩ := row
      rw [List.map_cons, List.mem_cons, not_or] at h
      rw [setRows, if_neg (fun e => h.1 e.symm), ih h.2, List.cons_append]

/-- Setting a new name adds a row at the end. -/
theorem set_rows_of_fresh {t : Table α} {name : String} {value : α} (h : t.get? name = none) :
    (t.set name value).rows = t.rows ++ [(name, value)] := by
  refine setRows_of_not_mem fun hm => ?_
  have hc : t.contains name := mem_names_iff.1 hm
  rw [contains, h] at hc
  exact absurd hc (by simp)

theorem contains_set (t : Table α) (name other : String) (value : α) :
    (t.set name value).contains other = (decide (name = other) || t.contains other) := by
  rw [contains, contains, get?_set]
  by_cases h : name = other
  · simp [h]
  · simp [h]

theorem contains_add (t : Table α) (name other : String) (value : α) :
    (t.add name value).contains other = (t.contains other || decide (name = other)) := by
  rw [contains, contains, get?_add]
  by_cases h : name = other
  · simp [h]
  · simp [h]

/-- The other names stay. -/
theorem contains_erase {t : Table α} {name other : String} (h : other ≠ name)
    (hc : t.contains other) : (t.erase name).contains other := by
  obtain ⟨row, hrow, rfl⟩ := List.mem_map.1 (mem_names_iff.2 hc)
  refine mem_names_iff.1 (List.mem_map_of_mem (List.mem_filter.2 ⟨hrow, ?_⟩))
  simpa using h

end Table

theorem mem_addName {names : List String} {name other : String} :
    other ∈ addName names name ↔ other ∈ names ∨ other = name := by
  unfold addName
  split
  · next h => exact ⟨Or.inl, fun ho => ho.elim id fun he => he ▸ h⟩
  · rw [List.mem_append, List.mem_singleton]

namespace Session

theorem boundStruct?_of_get? {session : Session} {key : String} {bound : BoundStruct}
    (h : session.structs.get? key = some (.done bound)) :
    session.boundStruct? key = some bound := by
  rw [boundStruct?, h]

theorem get?_of_boundStruct? {session : Session} {key : String} {bound : BoundStruct}
    (h : session.boundStruct? key = some bound) :
    session.structs.get? key = some (.done bound) := by
  unfold boundStruct? at h
  split at h
  · next found hf => rw [hf, Option.some.inj h]
  · cases h

/-- What was known of a key comes first. -/
theorem get?_addConversion (session : Session) (key : String) (conversion : Conversion) :
    (session.addConversion key conversion).registry.get? key =
      (session.registry.get? key).or (some conversion) := by
  rw [addConversion, Table.get?_add, if_pos rfl]

/-- A typedef takes over the identifier of a bound record, and the conversion of
    pointers if there is one. -/
theorem shareWithAlias_cases (session : Session) (name underlying : String) :
    ∃ aliases, session.aliases.rows <+: aliases.rows ∧
      (session.shareWithAlias name underlying = { session with aliases } ∨
        ∃ conversion, session.registry.get? (underlying ++ " *") = some conversion ∧
          session.shareWithAlias name underlying =
            { session.addConversion (name ++ " *") conversion with aliases }) := by
  rw [shareWithAlias]
  cases session.registry.get? (underlying ++ " *") with
  | none =>
      dsimp only
      split
      · exact ⟨_, Table.prefix_add .., .inl rfl⟩
      · exact ⟨_, List.prefix_refl _, .inl rfl⟩
  | some conversion =>
      dsimp only
      split
      · exact ⟨_, Table.prefix_add .., .inr ⟨conversion, rfl, rfl⟩⟩
      · exact ⟨_, List.prefix_refl _, .inr ⟨conversion, rfl, rfl⟩⟩

/-- It concerns conversions and identifiers only. -/
theorem shareWithAlias_eq (session : Session) (name underlying : String) :
    ∃ registry aliases,
      session.shareWithAlias name underlying = { session with registry, aliases } := by
  obtain ⟨aliases, -, he | ⟨conversion, -, he⟩⟩ := session.shareWithAlias_cases name underlying
  · exact ⟨_, aliases, he⟩
  · exact ⟨_, aliases, he⟩

theorem foldl_emit (code : List Section) (session : Session) :
    code.foldl emit session = { session with body := session.body ++ code } := by
  induction code generalizing session with
  | nil => rw [List.foldl_nil, List.append_nil]
  | cons piece rest ih =>
      rw [List.foldl_cons, ih, emit]
      simp only [List.append_assoc, List.singleton_append]

theorem foldl_reject (diagnostics : List Diagnostic) (session : Session) :
    diagnostics.foldl reject session =
      { session with
        body := session.body ++ diagnostics.map Section.note
        diagnostics := session.diagnostics ++ diagnostics } := by
  induction diagnostics generalizing session with
  | nil => simp
  | cons diagnostic rest ih =>
      rw [List.foldl_cons, ih, reject]
      simp only [List.append_assoc, List.singleton_append, List.map_cons]

/-- The callbacks of a session after some have been awaited. -/
def awaitAll (callbacks : Table CallbackState) (awaited : List Callback) : Table CallbackState :=
  awaited.foldl (fun table callback => table.add callback.name (.pending callback)) callbacks

theorem foldl_awaitCallback (awaited : List Callback) (session : Session) :
    awaited.foldl awaitCallback session =
      { session with callbacks := awaitAll session.callbacks awaited } := by
  induction awaited generalizing session with
  | nil => rfl
  | cons callback rest ih =>
      rw [List.foldl_cons, ih, awaitAll, awaitCallback, awaitAll, List.foldl_cons]

/-- An outcome other than the one that is settled was there before. -/
theorem get?_of_settleCallback {session : Session} {id other : String} {new state : CallbackState}
    (h : (session.settleCallback id new).callbacks.get? other = some state) (hne : state ≠ new) :
    session.callbacks.get? other = some state := by
  rcases Table.eq_of_get?_set h with hold | ⟨-, hnew⟩
  · exact hold
  · exact absurd hnew.symm hne

/-- The code that goes with a bound record. -/
def committed (typedef : Option MemberTypedef) (members : BoundMembers) : List Section :=
  typedef.toList.map Section.memberTypedef ++ [.accessor members.accessor]
    ++ (members.dropped.map Prod.snd).map Section.note

/-- A bound record, by what it changes. -/
theorem commit_eq (session : Session) (typedef : Option MemberTypedef) (members : BoundMembers) :
    session.commit typedef members =
      { session with
        registry := (session.registry.add members.key members.conversion).add
          (members.key ++ " *") members.pointerConversion
        structs := session.structs.set members.key (.done members.bound)
        callbacks := awaitAll session.callbacks members.accessor.callbacks
        diagnostics := session.diagnostics ++ members.dropped.map Prod.snd
        body := session.body ++ committed typedef members } := by
  rw [commit, foldl_emit, foldl_reject, foldl_awaitCallback, committed]
  simp only [addConversion, settleStruct, List.append_assoc]

theorem get?_awaitAll_of_some {callbacks : Table CallbackState} {id : String}
    {state : CallbackState} (h : callbacks.get? id = some state) (awaited : List Callback) :
    (awaitAll callbacks awaited).get? id = some state := by
  induction awaited generalizing callbacks with
  | nil => exact h
  | cons callback rest ih =>
      rw [awaitAll, List.foldl_cons]
      exact ih (by rw [Table.get?_add, h, Option.some_or])

/-- What an awaited callback leaves under a name without an outcome is that it
    is pending. -/
theorem get?_awaitAll_of_none {callbacks : Table CallbackState} {id : String}
    (h : callbacks.get? id = none) (awaited : List Callback) :
    (awaitAll callbacks awaited).get? id =
      (awaited.find? (·.name == id)).map CallbackState.pending := by
  induction awaited generalizing callbacks with
  | nil => exact h
  | cons callback rest ih =>
      rw [awaitAll, List.foldl_cons, List.find?_cons]
      by_cases hid : callback.name = id
      · have hb : (callback.name == id) = true := by simpa using hid
        rw [hb]
        exact get?_awaitAll_of_some (by rw [Table.get?_add, h, if_pos hid, Option.none_or]) rest
      · have hb : (callback.name == id) = false := by simpa using hid
        rw [hb]
        exact ih (by rw [Table.get?_add, h, if_neg hid, Option.none_or])

/-- The callbacks that wait are those that the table says so of. -/
theorem mem_pendingCallbacks {session : Session} {callback : Callback} :
    callback ∈ session.pendingCallbacks ↔
      ∃ id, session.callbacks.get? id = some (.pending callback) := by
  unfold pendingCallbacks
  rw [List.mem_filterMap]
  constructor
  · rintro ⟨state, hs, hc⟩
    obtain ⟨row, hrow, rfl⟩ := List.mem_map.1 hs
    obtain ⟨id, state⟩ := row
    cases state with
    | pending other =>
        obtain rfl := Option.some.inj hc
        exact ⟨id, Table.get?_of_mem hrow⟩
    | emitted other => cases hc
    | failed error => cases hc
  · rintro ⟨id, hid⟩
    exact ⟨_, List.mem_map_of_mem (Table.mem_of_get? hid), rfl⟩

end Session

end ScriptBind
