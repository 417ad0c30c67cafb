import ScriptBind.Binding.PointerCell
import ScriptBind.Proofs.Weights

/-!
# What Binding Can Come To

Binding a record may lead to the records that the library declares, to those that
are put off, and to the types of their nameless members, which get made-up keys.
All of these are known from the start: there are no more of them than there are
constructors in what is declared and put off. An extent lists their keys. It holds
a record if it lists the key and, in turn, holds the types of nameless members.

Keys need not tell records apart here. Two members may make up the same name, or
one that a declared record has; then only the first of them is ever bound, and
the list is longer than it had to be.

## Main definitions

* `Extent.Holds`: A record is bound within an extent.
* `Encloses`: Every extent with some keys holds a record.
* `Extent.Covers`: An extent holds what the library declares.

## Theorems

* `exists_encloses`: A record needs no more keys than it has constructors.
* `exists_covers`: There is an extent for whatever is declared and put off.
-/

namespace ScriptBind

/-- An extent holds a record under a key: it lists the key, no type in the record
    is followed as far as the stride, and it holds the types of nameless
    members. -/
inductive Extent.Holds (extent : Extent) (decls : Declarations) : String → Record → Prop where
  /-- A record whose nameless members are held. -/
  | intro {key : String} {record : Record} : key ∈ extent.keys →
      record.size + decls.typedefSize < extent.stride →
      (∀ field ∈ record.flattened, ∀ inner, field.type = .anonymous inner →
        Holds extent decls (memberTypeName (bareTag key) field.name)
          { inner with name := memberTypeName (bareTag key) field.name }) →
      Holds extent decls key record

namespace Extent.Holds

variable {extent : Extent} {decls : Declarations} {key : String} {record : Record}

theorem key_mem (h : extent.Holds decls key record) : key ∈ extent.keys := by
  cases h
  assumption

theorem size_lt (h : extent.Holds decls key record) :
    record.size + decls.typedefSize < extent.stride := by
  cases h
  assumption

/-- The type of a nameless member is held. -/
theorem nested (h : extent.Holds decls key record) {field : Field} (hf : field ∈ record.flattened)
    {inner : Record} (ht : field.type = .anonymous inner) :
    extent.Holds decls (memberTypeName (bareTag key) field.name)
      { inner with name := memberTypeName (bareTag key) field.name } := by
  cases h with
  | intro _ _ hnested => exact hnested field hf inner ht

/-- The type of a member is not followed as far as the stride. -/
theorem weight_member (h : extent.Holds decls key record) {field : Field}
    (hf : field ∈ record.flattened) : decls.weight field.type < extent.stride :=
  Nat.lt_of_le_of_lt (decls.weight_member hf) h.size_lt

/-- Nor is what a callback among the members passes and returns. -/
theorem weight_value (h : extent.Holds decls key record) (hd : decls.IsFounded) {field : Field}
    (hf : field ∈ record.flattened) {signature : Signature}
    (hs : decls.functionPointer field.type = some signature) {type : CType}
    (ht : type ∈ signature.types) : decls.weight type < extent.stride :=
  Nat.lt_trans (Declarations.weight_value hd hf hs ht) h.size_lt

end Extent.Holds

section Keys

theorem total_append (front back : List Nat) :
    total (front ++ back) = total front + total back := by
  induction front with
  | nil => rw [List.nil_append, total, Nat.zero_add]
  | cons n rest ih => rw [List.cons_append, total, total, ih, Nat.add_assoc]

mutual

/-- Opening up nameless members leaves no more to count. -/
theorem total_flattenAll : ∀ fields : List Field,
    total ((Record.flattenAll fields).map fun field => field.type.size) ≤ sizeOfFields fields
  | [] => by
    rw [Record.flattenAll]
    exact Nat.zero_le _
  | ⟨name, type, width⟩ :: rest => by
    have hone : total ((Record.flattenOne ⟨name, type, width⟩).map fun field => field.type.size) ≤
        type.size := total_flattenOne ⟨name, type, width⟩
    have hrest := total_flattenAll rest
    rw [Record.flattenAll, List.map_append, total_append, sizeOfFields]
    omega

theorem total_flattenOne : ∀ field : Field,
    total ((Record.flattenOne field).map fun other => other.type.size) ≤ field.type.size
  | ⟨name, type, width⟩ => by
    cases type with
    | anonymous record =>
        obtain ⟨inner, kind, fields⟩ := record
        rw [Record.flattenOne]
        split
        · have hall := total_flattenAll fields
          rw [CType.size, Record.size]
          omega
        · exact Nat.le_of_eq (Nat.add_zero _)
    | _ =>
        rw [Record.flattenOne]
        · exact Nat.le_of_eq (Nat.add_zero _)
        · exact fun _ _ _ _ _ h => by cases h

end

/-- Every extent with some keys, and a stride that is long enough, holds a record
    under a key. -/
def Encloses (decls : Declarations) (keys : List String) (key : String) (record : Record) : Prop :=
  ∀ extent : Extent, (∀ other ∈ keys, other ∈ extent.keys) →
    record.size + decls.typedefSize < extent.stride → extent.Holds decls key record

theorem Encloses.mono {decls : Declarations} {keys keys' : List String} {key : String}
    {record : Record} (h : Encloses decls keys key record) (hk : ∀ other ∈ keys, other ∈ keys') :
    Encloses decls keys' key record :=
  fun extent hkeys hs => h extent (fun other ho => hkeys other (hk other ho)) hs

/-- What each item of a list needs keys for, the list needs no more keys for than
    all of them. -/
theorem exists_keys_all {α : Type} {items : List α} {P : α → List String → Prop} (size : α → Nat)
    (hmono : ∀ item keys keys', P item keys → (∀ other ∈ keys, other ∈ keys') → P item keys')
    (h : ∀ item ∈ items, ∃ keys : List String, keys.length ≤ size item ∧ P item keys) :
    ∃ keys : List String, keys.length ≤ total (items.map size) ∧ ∀ item ∈ items, P item keys := by
  induction items with
  | nil => exact ⟨[], Nat.le_refl _, fun item hm => by cases hm⟩
  | cons first rest ih =>
      obtain ⟨keys, hlength, hfirst⟩ := h first (List.mem_cons_self ..)
      obtain ⟨keys', hlength', hrest⟩ := ih fun item hm => h item (List.mem_cons_of_mem _ hm)
      refine ⟨keys ++ keys', ?_, fun item hm => ?_⟩
      · rw [List.length_append, List.map_cons, total]
        omega
      · rcases List.mem_cons.1 hm with rfl | hr
        · exact hmono _ _ _ hfirst fun other ho => List.mem_append_left _ ho
        · exact hmono _ _ _ (hrest item hr) fun other ho => List.mem_append_right _ ho

/-- A name does not count. -/
theorem Record.size_named (record : Record) (name : String) :
    ({ record with name } : Record).size = record.size := by
  obtain ⟨_, kind, fields⟩ := record
  show Record.size ⟨name, kind, fields⟩ = _
  rw [Record.size, Record.size]

/-- A record needs no more keys than it has constructors. -/
theorem exists_encloses (decls : Declarations) (record : Record) (key : String) :
    ∃ keys : List String, keys.length ≤ record.size ∧ Encloses decls keys key record := by
  induction hn : record.size using Nat.strongRecOn generalizing record key with
  | ind n ih =>
      subst hn
      -- The types of nameless members are smaller, and together smaller than the record.
      have hmember : ∀ field ∈ record.flattened, ∃ keys : List String,
          keys.length ≤ field.type.size ∧ ∀ inner, field.type = .anonymous inner →
            Encloses decls keys (memberTypeName (bareTag key) field.name)
              { inner with name := memberTypeName (bareTag key) field.name } := by
        intro field hf
        cases ht : field.type with
        | anonymous inner =>
            have hsize := inner.size_named (memberTypeName (bareTag key) field.name)
            have hfield : field.type.size = inner.size + 1 := by rw [ht, CType.size]
            have hle := Declarations.size_of_mem_flattened hf
            have hless : inner.size < record.size := by omega
            rw [← hsize] at hless
            obtain ⟨keys, hlength, hencloses⟩ := ih _ hless _ _ rfl
            refine ⟨keys, by rw [← ht]; omega, fun other ho => ?_⟩
            obtain rfl := CType.anonymous.inj ho
            exact hencloses
        | _ => exact ⟨[], Nat.zero_le _, fun inner hi => by cases hi⟩
      obtain ⟨keys, hlength, hkeys⟩ := exists_keys_all (fun field : Field => field.type.size)
        (fun field keys keys' hp hsub inner hi => (hp inner hi).mono hsub) hmember
      refine ⟨key :: keys, ?_, fun extent hsub hstride => ?_⟩
      · have htotal : total (record.flattened.map fun field => field.type.size) < record.size := by
          obtain ⟨name, kind, fields⟩ := record
          rw [Record.size]
          exact Nat.lt_succ_of_le (total_flattenAll fields)
        rw [List.length_cons]
        omega
      · refine .intro (hsub key (List.mem_cons_self ..)) hstride fun field hf inner hi => ?_
        refine hkeys field hf inner hi extent
          (fun other ho => hsub other (List.mem_cons_of_mem _ ho)) ?_
        have hle := Declarations.size_of_mem_flattened hf
        rw [hi, CType.size] at hle
        rw [inner.size_named]
        omega

end Keys

/-- An extent holds what the library declares, and the cell for a pointer. -/
structure Extent.Covers (extent : Extent) (library : Library) : Prop where
  /-- The records declared. -/
  declared : ∀ {key : String} {record : Record}, library.decls.records.get? key = some record →
    extent.Holds library.decls key record
  /-- The cell for a pointer. -/
  cell : extent.Holds library.decls pointerCell.name pointerCell

/-- There is an extent for what a library declares and for some more records that
    have no more constructors than allowed for. -/
theorem exists_covers (library : Library) (entries : List (String × Record)) {size : Nat}
    (hsize : library.decls.size + total (entries.map fun entry => entry.2.size) ≤ size) :
    ∃ extent : Extent, extent.Covers library ∧ extent.keys.length ≤ size + pointerCell.size ∧
      extent.stride = size + pointerCell.size + 1 ∧
      ∀ entry ∈ entries, extent.Holds library.decls entry.1 entry.2 := by
  let all := library.decls.records.rows ++ (pointerCell.name, pointerCell) :: entries
  have heach : ∀ entry ∈ all, ∃ keys : List String, keys.length ≤ entry.2.size ∧
      Encloses library.decls keys entry.1 entry.2 := fun entry _ =>
    exists_encloses library.decls entry.2 entry.1
  obtain ⟨keys, hlength, hkeys⟩ := exists_keys_all (fun entry : String × Record => entry.2.size)
    (fun _ _ _ hp hsub => hp.mono hsub) heach
  let extent : Extent := ⟨keys, size + pointerCell.size + 1⟩
  have hrecords :
      library.decls.size = total (library.decls.records.rows.map fun row => row.2.size) +
      library.decls.typedefSize := by
    rw [Declarations.size, Declarations.typedefSize, Table.values, List.map_map]
    rfl
  have htotal : total (all.map fun entry => entry.2.size) + library.decls.typedefSize =
      library.decls.size + pointerCell.size + total (entries.map fun entry => entry.2.size) := by
    show total ((_ ++ _ :: _).map _) + _ = _
    rw [List.map_append, total_append, List.map_cons, total, hrecords]
    dsimp only
    omega
  have hholds : ∀ entry ∈ all, extent.Holds library.decls entry.1 entry.2 := by
    intro entry hm
    refine hkeys entry hm extent (fun _ ho => ho) ?_
    have hentry : entry.2.size ≤ total (all.map fun entry => entry.2.size) :=
      le_total_of_mem (List.mem_map_of_mem hm)
    show _ < size + pointerCell.size + 1
    omega
  refine ⟨extent, ⟨fun hr => ?_, ?_⟩, ?_, rfl, fun entry hm => ?_⟩
  · exact hholds _ (List.mem_append_left _ (Table.mem_of_get? hr))
  · exact hholds _ (List.mem_append_right _ (List.mem_cons_self ..))
  · show keys.length ≤ _
    omega
  · exact hholds entry (List.mem_append_right _ (List.mem_cons_of_mem _ hm))

end ScriptBind
