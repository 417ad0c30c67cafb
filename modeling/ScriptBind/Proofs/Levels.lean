import ScriptBind.Proofs.BindingGrowth
import ScriptBind.Proofs.Convertible

/-!
# How Many Levels Binding Needs

Resolving and binding come to an end within a number of levels, and this is how
many they need at most. Two things are counted.

`Declarations.chase` bounds how far a type is followed until a record is met:
through the type itself, and through typedefs, each of which is followed once
since a typedef is declared after what it is made of.

`Session.room` bounds what can still happen to records. While something is
being bound, each record that is bound inside it is one that is neither being
bound nor settled, so there is one less of them on every level. When nothing is
being bound, a record can be bound in addition because it was put off, but only
once. The bound falls whenever a record is entered or taken from those put off,
and never rises.

## Main definitions

* `Declarations.chase`: How far a type is followed.
* `Declarations.stride`: How far any type in a record is followed.
* `Extent`: What binding may come to.
* `Session.room`: How far the binding of records can still go.

## Theorems

* `chase_typedef`: A typedef is followed farther than what it stands for.
* `chase_member`, `chase_value`: Types in records are not followed farther than
  a stride.
* `room_enter`, `room_takeDeferred`: The room falls.
* `room_of_grows`: The room never rises.
* `room_add_le_levelsFor`: The levels granted are enough.
-/

namespace ScriptBind

variable {α : Type}

theorem le_total_of_mem {n : Nat} {numbers : List Nat} (h : n ∈ numbers) : n ≤ total numbers := by
  induction numbers with
  | nil => cases h
  | cons m rest ih =>
      rw [total]
      rcases List.mem_cons.1 h with rfl | hr
      · omega
      · exact Nat.le_trans (ih hr) (Nat.le_add_left ..)

theorem total_filter_le {p q : α → Bool} (f : α → Nat) (items : List α)
    (h : ∀ item ∈ items, p item → q item) :
    total ((items.filter p).map f) ≤ total ((items.filter q).map f) := by
  induction items with
  | nil => exact Nat.le_refl _
  | cons item rest ih =>
      have hrest := ih fun other ho => h other (List.mem_cons_of_mem _ ho)
      have hitem := h item (List.mem_cons_self ..)
      by_cases hp : p item
      · rw [List.filter_cons_of_pos hp, List.filter_cons_of_pos (hitem hp), List.map_cons,
          List.map_cons, total, total]
        omega
      · rw [List.filter_cons_of_neg hp]
        by_cases hq : q item
        · rw [List.filter_cons_of_pos hq, List.map_cons, total]
          omega
        · rwa [List.filter_cons_of_neg hq]

/-- Keeping one more item adds its weight. -/
theorem total_filter_add_le {p q : α → Bool} (f : α → Nat) {items : List α} {item : α}
    (h : ∀ other ∈ items, p other → q other) (hm : item ∈ items) (hq : q item) (hp : ¬ p item) :
    total ((items.filter p).map f) + f item ≤ total ((items.filter q).map f) := by
  induction items with
  | nil => cases hm
  | cons other rest ih =>
      have hsub : ∀ third ∈ rest, p third → q third := fun third ht =>
        h third (List.mem_cons_of_mem _ ht)
      have hother := h other (List.mem_cons_self ..)
      rcases List.mem_cons.1 hm with rfl | hr
      · have hle := total_filter_le f rest hsub
        rw [List.filter_cons_of_neg hp, List.filter_cons_of_pos hq, List.map_cons, total]
        omega
      · have hle := ih hsub hr
        by_cases hp' : p other
        · rw [List.filter_cons_of_pos hp', List.filter_cons_of_pos (hother hp'), List.map_cons,
            List.map_cons, total, total]
          omega
        · rw [List.filter_cons_of_neg hp']
          by_cases hq' : q other
          · rw [List.filter_cons_of_pos hq', List.map_cons, total]
            omega
          · rwa [List.filter_cons_of_neg hq']

theorem total_ones (items : List α) : total (items.map fun _ => 1) = items.length := by
  induction items with
  | nil => rfl
  | cons item rest ih =>
      rw [List.map_cons, total, ih, List.length_cons]
      omega

namespace Declarations

variable (decls : Declarations)

/-- The size of what all typedefs stand for. -/
def typedefSize : Nat := total (decls.typedefs.values.map CType.size)

/-- The size of what the typedefs below a rank stand for. -/
def typedefSizeBelow (rank : String → Nat) (bound : Nat) : Nat :=
  total
    ((decls.typedefs.rows.filter fun row => decide (rank row.1 < bound)).map fun row => row.2.size)

/-- The rank above all typedefs that a type is made from. -/
def headRank (rank : String → Nat) (type : CType) : Nat :=
  match type.head? with
  | some name => if decls.typedefs.contains name then rank name + 1 else 0
  | none => 0

/-- How far a type is followed until a record is met. -/
def chase (rank : String → Nat) (type : CType) : Nat :=
  type.size + decls.typedefSizeBelow rank (decls.headRank rank type)

/-- A ranking of the typedefs in the order of their declaration. -/
def Ranked (rank : String → Nat) : Prop :=
  ∀ row ∈ decls.typedefs.rows, ∀ name ∈ decls.typedefs.names,
    row.2.head? = some name → rank name < rank row.1

variable {decls} {rank : String → Nat}

/-- A typedef is followed farther than what it stands for. -/
theorem chase_typedef (hr : decls.Ranked rank) {name : String} {underlying : CType}
    (h : decls.typedefs.get? name = some underlying) :
    decls.chase rank underlying < decls.chase rank (.named name) := by
  have hc : decls.typedefs.contains name := by rw [Table.contains, h]; rfl
  have hm := Table.mem_of_get? h
  have hrank : decls.headRank rank underlying ≤ rank name := by
    unfold headRank
    split
    · next head hh =>
        split
        · next hcontains => exact hr _ hm head (Table.mem_names_iff.2 hcontains) hh
        · exact Nat.zero_le _
    · exact Nat.zero_le _
  have hmono : decls.typedefSizeBelow rank (decls.headRank rank underlying) ≤
      decls.typedefSizeBelow rank (rank name) :=
    total_filter_le _ _ fun row _ hlt => by
      rw [decide_eq_true_eq] at hlt ⊢
      omega
  have hadd : decls.typedefSizeBelow rank (rank name) + underlying.size ≤
      decls.typedefSizeBelow rank (rank name + 1) :=
    total_filter_add_le (fun row : String × CType => row.2.size)
      (fun row _ hlt => by rw [decide_eq_true_eq] at hlt ⊢; omega) hm (by simp) (by simp)
  have hnamed : decls.headRank rank (.named name) = rank name + 1 := by
    rw [headRank, CType.head?]
    dsimp only
    rw [if_pos hc]
  rw [chase, chase, hnamed, CType.size]
  omega

theorem chase_pointer (rank : String → Nat) (pointee : CType) (isConst : Bool) :
    decls.chase rank (.pointer pointee isConst) = decls.chase rank pointee + 1 := by
  rw [chase, chase, headRank, CType.head?, CType.size, headRank]
  omega

theorem chase_array (rank : String → Nat) (element : CType) (length : Nat) :
    decls.chase rank (.array element length) = decls.chase rank element + 1 := by
  rw [chase, chase, headRank, CType.head?, CType.size, headRank]
  omega

theorem chase_pos (decls : Declarations) (rank : String → Nat) (type : CType) :
    0 < decls.chase rank type :=
  Nat.lt_of_lt_of_le type.size_pos (Nat.le_add_right ..)

theorem chase_le (decls : Declarations) (rank : String → Nat) (type : CType) :
    decls.chase rank type ≤ type.size + decls.typedefSize := by
  have h := total_filter_le (p := fun row => decide (rank row.1 < decls.headRank rank type))
    (q := fun _ => true) (fun row : String × CType => row.2.size) decls.typedefs.rows
    fun _ _ _ => rfl
  rw [List.filter_eq_self.2 fun _ _ => rfl] at h
  rw [chase, typedefSizeBelow, typedefSize, Table.values, List.map_map]
  exact Nat.add_le_add_left h _

/-- How far any type in a record is followed at most. -/
def stride (decls : Declarations) : Nat := 2 * decls.size + 1

mutual

theorem size_of_mem_flattenAll : ∀ fields : List Field, ∀ field ∈ Record.flattenAll fields,
    field.type.size ≤ sizeOfFields fields
  | [] => by rw [Record.flattenAll]; exact fun _ h => by cases h
  | ⟨name, type, width⟩ :: rest => by
    intro field hf
    rw [Record.flattenAll] at hf
    rw [sizeOfFields]
    rcases List.mem_append.1 hf with ho | hr
    · have hone : field.type.size ≤ type.size := size_of_mem_flattenOne ⟨name, type, width⟩ field ho
      omega
    · have hrest := size_of_mem_flattenAll rest field hr
      omega

theorem size_of_mem_flattenOne : ∀ field : Field, ∀ other ∈ Record.flattenOne field,
    other.type.size ≤ field.type.size
  | ⟨name, type, width⟩ => by
    intro other ho
    cases type with
    | anonymous record =>
        obtain ⟨inner, kind, fields⟩ := record
        rw [Record.flattenOne] at ho
        split at ho
        · have hall := size_of_mem_flattenAll fields other ho
          rw [CType.size, Record.size]
          omega
        · exact Nat.le_of_eq (congrArg (fun field => field.type.size) (List.mem_singleton.1 ho))
    | _ =>
        rw [Record.flattenOne] at ho
        · exact Nat.le_of_eq (congrArg (fun field => field.type.size) (List.mem_singleton.1 ho))
        · exact fun _ _ _ _ _ h => by cases h

end

/-- The type of a member is smaller than the record. -/
theorem size_of_mem_flattened {record : Record} {field : Field} (h : field ∈ record.flattened) :
    field.type.size ≤ record.size := by
  obtain ⟨name, kind, fields⟩ := record
  rw [Record.size]
  exact Nat.le_succ_of_le (size_of_mem_flattenAll fields field h)

theorem size_le_of_get? {key : String} {record : Record}
    (h : decls.records.get? key = some record) : record.size + decls.typedefSize ≤ decls.size := by
  have hm : record.size ∈ decls.records.values.map Record.size :=
    List.mem_map_of_mem (List.mem_map_of_mem (Table.mem_of_get? h))
  exact Nat.add_le_add_right (le_total_of_mem hm) _

theorem size_typedef_le {name : String} {type : CType} (h : decls.typedefs.get? name = some type) :
    type.size ≤ decls.typedefSize := by
  have hm : type.size ∈ decls.typedefs.values.map CType.size :=
    List.mem_map_of_mem (List.mem_map_of_mem (Table.mem_of_get? h))
  exact le_total_of_mem hm

/-- The type of a member is not followed farther than a stride. -/
theorem chase_member (rank : String → Nat) {key : String} {record : Record} {field : Field}
    (h : decls.records.get? key = some record) (hf : field ∈ record.flattened) :
    decls.chase rank field.type < decls.stride := by
  have hchase := chase_le decls rank field.type
  have hfield := size_of_mem_flattened hf
  have hrecord := size_le_of_get? h
  rw [stride]
  omega

/-- The signature of a callback is a part of its type, or of what a typedef
    stands for. -/
theorem size_signature {type : CType} {signature : Signature}
    (h : decls.functionPointer type = some signature) :
    (CType.function signature).size ≤ type.size ∨
      (CType.function signature).size ≤ decls.typedefSize := by
  have hwithin : ∀ bound type, decls.functionPointerWithin bound type = some signature →
      (CType.function signature).size ≤ type.size ∨
        (CType.function signature).size ≤ decls.typedefSize := by
    intro bound
    induction bound with
    | zero => exact fun type h => by cases h
    | succ bound ih =>
        intro type h
        cases type with
        | named name =>
            rw [functionPointerWithin] at h
            rcases Option.bind_eq_some_iff.1 h with ⟨underlying, hu, hs⟩
            exact Or.inr ((ih underlying hs).elim
              (fun hle => Nat.le_trans hle (size_typedef_le hu)) id)
        | pointer pointee isConst =>
            cases pointee with
            | function other =>
                rw [functionPointerWithin] at h
                rw [Option.some.inj h, CType.size]
                exact Or.inl (Nat.le_succ _)
            | _ => cases h
        | function other =>
            rw [functionPointerWithin] at h
            rw [Option.some.inj h]
            exact Or.inl (Nat.le_refl _)
        | _ => cases h
  exact hwithin _ _ h

theorem size_of_mem_params {params : List CType} {param : CType} (h : param ∈ params) :
    param.size ≤ sizeOfTypes params := by
  induction params with
  | nil => cases h
  | cons type rest ih =>
      rw [sizeOfTypes]
      rcases List.mem_cons.1 h with rfl | hr
      · exact Nat.le_add_right ..
      · exact Nat.le_trans (ih hr) (Nat.le_add_left ..)

end Declarations

/-- What a callback passes and returns. -/
def Signature.types (signature : Signature) : List CType := signature.result :: signature.params

namespace Declarations

variable {decls : Declarations} {rank : String → Nat}

/-- What a callback in a record passes and returns is not followed farther than
    a stride. -/
theorem chase_value (rank : String → Nat) {key : String} {record : Record} {field : Field}
    {signature : Signature} (h : decls.records.get? key = some record)
    (hf : field ∈ record.flattened) (hs : decls.functionPointer field.type = some signature)
    {type : CType} (ht : type ∈ signature.types) : decls.chase rank type < decls.stride := by
  have hchase := chase_le decls rank type
  have hfield := size_of_mem_flattened hf
  have hrecord := size_le_of_get? h
  have htype : type.size ≤ (CType.function signature).size := by
    obtain ⟨result, params, isVariadic⟩ := signature
    rw [CType.size]
    rcases List.mem_cons.1 ht with rfl | hp
    · omega
    · have hparam : type.size ≤ sizeOfTypes params := size_of_mem_params hp
      omega
  rw [stride]
  rcases size_signature hs with hle | hle
  · omega
  · omega

end Declarations

/-- What binding may come to: the records, by the keys they are bound under, and
    how far a type in one of them is followed at most. -/
structure Extent where
  /-- The keys. -/
  keys : List String
  /-- What no type in a record is followed as far as. -/
  stride : Nat

/-- The extent of what a library declares. -/
def Library.extent (library : Library) : Extent :=
  ⟨library.decls.records.names, library.decls.stride⟩

namespace Session

variable {session session' : Session}

/-- The number of records that are neither settled nor being bound. -/
def untouched (extent : Extent) (session : Session) : Nat :=
  total ((extent.keys.filter fun key =>
    !session.structs.contains key && !session.inProgress.contains key).map fun _ => 1)

/-- The number of records that have not been bound for the last time. -/
def unretried (extent : Extent) (session : Session) : Nat :=
  total ((extent.keys.filter fun key => !session.retried.contains key).map fun _ => 1)

/-- How far the binding of records can still go. -/
def room (extent : Extent) (session : Session) : Nat :=
  if session.inProgress = [] then
    extent.keys.length * extent.stride + session.unretried extent + 1
  else session.untouched extent * extent.stride

/-- Some of the keys are not more than all. -/
theorem total_filter_le_length (p : String → Bool) (keys : List String) :
    total ((keys.filter p).map fun _ => 1) ≤ keys.length := by
  have h := total_filter_le (p := p) (q := fun _ => true) (fun _ => 1) keys fun _ _ _ => rfl
  rwa [List.filter_eq_self.2 fun _ _ => rfl, total_ones keys] at h

theorem untouched_le (extent : Extent) (session : Session) :
    session.untouched extent ≤ extent.keys.length :=
  total_filter_le_length _ _

theorem unretried_le (extent : Extent) (session : Session) :
    session.unretried extent ≤ extent.keys.length :=
  total_filter_le_length _ _

theorem untouched_of_grows (h : session.Grows session') (extent : Extent) :
    session'.untouched extent ≤ session.untouched extent := by
  refine total_filter_le _ _ fun key _ hk => ?_
  rw [Bool.and_eq_true, Bool.not_eq_true', Bool.not_eq_true', h.inProgress] at hk
  rw [Bool.and_eq_true, Bool.not_eq_true', Bool.not_eq_true']
  refine ⟨Bool.eq_false_iff.2 fun hc => ?_, hk.2⟩
  rw [Table.contains_of_initial h.structs hc] at hk
  exact absurd hk.1 (by simp)

theorem unretried_of_initial (h : session.retried <+: session'.retried) (extent : Extent) :
    session'.unretried extent ≤ session.unretried extent := by
  refine total_filter_le _ _ fun key _ hk => ?_
  rw [Bool.not_eq_true', Bool.eq_false_iff, ne_eq, List.contains_iff_mem] at hk ⊢
  exact fun hm => hk (h.subset hm)

/-- The room never rises. -/
theorem room_of_grows (extent : Extent) (h : session.Grows session') :
    session'.room extent ≤ session.room extent := by
  rw [room, room, h.inProgress]
  split
  · exact Nat.succ_le_succ (Nat.add_le_add_left (unretried_of_initial h.retried extent) _)
  · exact Nat.mul_le_mul_right _ (untouched_of_grows h extent)

variable {extent : Extent}

/-- A record that is entered takes its room. -/
theorem room_enter {key : String} (hm : key ∈ extent.keys)
    (hn : session.structs.get? key = none) (hk : key ∉ session.inProgress) :
    (session.enter key).room extent + extent.stride ≤ session.room extent := by
  have hp := inProgress_enter hk
  have hne : (session.enter key).inProgress ≠ [] := by
    rw [hp]
    exact List.append_ne_nil_of_right_ne_nil _ (List.cons_ne_nil _ _)
  have hfewer : (session.enter key).untouched extent + 1 ≤ session.untouched extent := by
    refine total_filter_add_le (fun _ => 1) (fun other _ ho => ?_) hm ?_ ?_
    · rw [Bool.and_eq_true, Bool.not_eq_true', Bool.not_eq_true', hp] at ho
      rw [Bool.and_eq_true, Bool.not_eq_true', Bool.not_eq_true']
      refine ⟨ho.1, Bool.eq_false_iff.2 fun hc => ?_⟩
      rw [List.contains_iff_mem.2 (List.mem_append_left _ (List.contains_iff_mem.1 hc))] at ho
      exact absurd ho.2 (by simp)
    · rw [Table.contains, hn, List.contains_eq_mem, decide_eq_false hk]
      rfl
    · rw [hp, List.contains_iff_mem.2 (List.mem_append_right _ (List.mem_singleton_self key))]
      simp
  have hmul := Nat.mul_le_mul_right extent.stride hfewer
  rw [Nat.add_mul, Nat.one_mul] at hmul
  rw [room, room, if_neg hne]
  split
  · have hall := Nat.mul_le_mul_right extent.stride (untouched_le extent session)
    omega
  · exact hmul

theorem unretried_takeDeferred {key : String} (hm : key ∈ extent.keys)
    (hr : key ∉ session.retried) :
    (session.takeDeferred key).unretried extent + 1 ≤ session.unretried extent := by
  have hretried : (session.takeDeferred key).retried = session.retried ++ [key] := rfl
  refine total_filter_add_le (fun _ => 1) (fun other _ ho => ?_) hm ?_ ?_
  · rw [Bool.not_eq_true', hretried, Bool.eq_false_iff, ne_eq, List.contains_iff_mem] at ho
    rw [Bool.not_eq_true', Bool.eq_false_iff, ne_eq, List.contains_iff_mem]
    exact fun hc => ho (List.mem_append_left _ hc)
  · rw [List.contains_eq_mem, decide_eq_false hr]
    rfl
  · rw [hretried, List.contains_iff_mem.2 (List.mem_append_right _ (List.mem_singleton_self key))]
    simp

/-- A record that is bound for the last time takes its room. -/
theorem room_takeDeferred {key : String} (hm : key ∈ extent.keys)
    (hp : session.inProgress = []) (hr : key ∉ session.retried) :
    (session.takeDeferred key).room extent + 1 ≤ session.room extent := by
  have hfewer := unretried_takeDeferred hm hr
  have hp' : (session.takeDeferred key).inProgress = [] := hp
  rw [room, room, if_pos hp, if_pos hp']
  omega

/-- There is room for every record that has not been bound for the last time. -/
theorem unretried_lt_room (extent : Extent) (hp : session.inProgress = []) :
    session.unretried extent < session.room extent := by
  rw [room, if_pos hp]
  omega

/-- All room there is. -/
theorem room_le (extent : Extent) (session : Session) :
    session.room extent ≤ extent.keys.length * extent.stride + extent.keys.length + 1 := by
  have hretries := unretried_le extent session
  rw [room]
  split
  · omega
  · have hmul := Nat.mul_le_mul_right extent.stride (untouched_le extent session)
    omega

theorem size_records_le (decls : Declarations) : decls.records.size ≤ decls.size := by
  have h : ∀ rows : List (String × Record),
      rows.length ≤ total ((rows.map Prod.snd).map Record.size) := by
    intro rows
    induction rows with
    | nil => exact Nat.le_refl _
    | cons row rest ih =>
        obtain ⟨key, ⟨name, kind, fields⟩⟩ := row
        rw [List.map_cons, List.map_cons, total, Record.size, List.length_cons]
        omega
  exact Nat.le_trans (h _) (Nat.le_add_right ..)

/-- What the levels are needed for is at most quadratic in the side of the cube
    of levels granted. -/
theorem le_cube {m n side : Nat} (h : m + n + 4 ≤ side) :
    m * (2 * m + 1) + 3 * m + n + 2 ≤ side * side * side := by
  have hsquare : m * m ≤ side * side := Nat.mul_le_mul (by omega) (by omega)
  have hlinear : 4 * side ≤ side * side := Nat.mul_le_mul_right side (by omega)
  have hcube : side * side * 3 ≤ side * side * side := Nat.mul_le_mul_left _ (by omega)
  have hexpand : m * (2 * m + 1) = 2 * (m * m) + m := by
    rw [Nat.mul_add, Nat.mul_left_comm, Nat.mul_one]
  omega

/-- The levels granted are enough. -/
theorem room_add_le_levelsFor (library : Library) (rank : String → Nat) (session : Session)
    (type : CType) {size : Nat} (h : library.decls.size + type.size ≤ size) :
    session.room library.extent + library.decls.chase rank type + 1 ≤ levelsFor size := by
  have hchase := Declarations.chase_le library.decls rank type
  have htypedefs : library.decls.typedefSize ≤ library.decls.size := Nat.le_add_left ..
  have hkeys : library.extent.keys.length ≤ library.decls.size := by
    show library.decls.records.names.length ≤ _
    rw [Table.names, List.length_map]
    exact size_records_le library.decls
  have hroom := session.room_le library.extent
  have hmul := Nat.mul_le_mul_right library.extent.stride hkeys
  have hside : library.decls.size + type.size + 4 ≤ size + aliasLimit + 3 := by
    have hlimit : aliasLimit = 32 := rfl
    omega
  have hcube := le_cube hside
  have hstride : library.extent.stride = 2 * library.decls.size + 1 := rfl
  rw [hstride] at hroom hmul
  rw [levelsFor]
  omega

end Session

end ScriptBind
