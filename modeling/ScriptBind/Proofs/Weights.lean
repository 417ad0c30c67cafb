import Mathlib.Logic.Relation
import ScriptBind.Proofs.Levels

/-!
# How Much a Type Is Made From

A typedef that is made from itself is never followed to an end. One that is not
can be weighed: to the size of a type is added that of everything that the
typedefs below it stand for. A typedef weighs more than what it stands for,
since it is not among the typedefs below that; and a pointer, an array or a
function weighs more than its parts.

A type is made from the names in it, also from those in the signatures of
functions, but not from those in records defined in place. What a name leads to
does not matter for records: a record may be made from itself.

## Main definitions

* `CType.names`: The names that a type is made from.
* `Declarations.MadeFrom`: A typedef is made from a name.
* `Declarations.IsFounded`: No typedef is made from itself.
* `Declarations.weight`: The weight of a type.

## Theorems

* `weight_typedef`: A typedef weighs more than what it stands for.
* `weight_lt`: A type weighs more than its parts.
* `weight_signature`: A callback weighs no more than its type.
* `weight_member`, `weight_value`: Types in a record do not weigh more than it and
  the typedefs.
-/

namespace ScriptBind

mutual

/-- The names that a type is made from. -/
def CType.names : CType → List String
  | .named name => [name]
  | .pointer pointee _ => pointee.names
  | .array element _ => element.names
  | .function ⟨result, params, _⟩ => result.names ++ namesOfTypes params
  | _ => []

/-- The names that some types are made from. -/
def namesOfTypes : List CType → List String
  | [] => []
  | type :: rest => type.names ++ namesOfTypes rest

end

theorem mem_namesOfTypes {types : List CType} {type : CType} (h : type ∈ types) {name : String}
    (hn : name ∈ type.names) : name ∈ namesOfTypes types := by
  induction types with
  | nil => cases h
  | cons first rest ih =>
      rw [namesOfTypes]
      rcases List.mem_cons.1 h with rfl | hr
      · exact List.mem_append_left _ hn
      · exact List.mem_append_right _ (ih hr)

namespace Declarations

variable {decls : Declarations}

/-- A typedef is made from a name. -/
def MadeFrom (decls : Declarations) (name other : String) : Prop :=
  ∃ type, decls.typedefs.get? name = some type ∧ other ∈ type.names

/-- No typedef is made from itself, however many typedefs lie between. -/
def IsFounded (decls : Declarations) : Prop :=
  ∀ name, ¬ Relation.TransGen decls.MadeFrom name name

/-- A name is one that a type is made from, or lies below one of them. -/
def LiesBelow (decls : Declarations) (type : CType) (name : String) : Prop :=
  ∃ head ∈ type.names, Relation.ReflTransGen decls.MadeFrom head name

open Classical in
/-- The size of a type and of what the typedefs below it stand for. -/
noncomputable def weight (decls : Declarations) (type : CType) : Nat :=
  type.size + total ((decls.typedefs.rows.filter fun row =>
    decide (decls.LiesBelow type row.1)).map fun row => row.2.size)

/-- What lies below a name that a type is made from lies below the type. -/
theorem LiesBelow.mono {type type' : CType} (hn : ∀ name ∈ type.names, name ∈ type'.names)
    {name : String} (h : decls.LiesBelow type name) : decls.LiesBelow type' name := by
  obtain ⟨head, hh, hr⟩ := h
  exact ⟨head, hn head hh, hr⟩

/-- A type weighs more than its parts. -/
theorem weight_lt {type type' : CType} (hn : ∀ name ∈ type.names, name ∈ type'.names)
    (hs : type.size < type'.size) : decls.weight type < decls.weight type' := by
  classical
  have hbelow := total_filter_le (p := fun row => decide (decls.LiesBelow type row.1))
    (q := fun row => decide (decls.LiesBelow type' row.1)) (fun row : String × CType => row.2.size)
    decls.typedefs.rows fun row _ hrow => by
      rw [decide_eq_true_eq] at hrow ⊢
      exact hrow.mono hn
  unfold weight
  exact Nat.add_lt_add_of_lt_of_le hs hbelow

theorem weight_pointee (pointee : CType) (isConst : Bool) :
    decls.weight pointee < decls.weight (.pointer pointee isConst) := by
  refine weight_lt (fun name hn => ?_) ?_
  · rwa [CType.names]
  · rw [CType.size]
    exact Nat.lt_succ_self _

theorem weight_element (element : CType) (length : Nat) :
    decls.weight element < decls.weight (.array element length) := by
  refine weight_lt (fun name hn => ?_) ?_
  · rwa [CType.names]
  · rw [CType.size]
    exact Nat.lt_succ_self _

/-- What a function passes or returns weighs less than the function. -/
theorem weight_type {signature : Signature} {type : CType} (h : type ∈ signature.types) :
    decls.weight type < decls.weight (.function signature) := by
  obtain ⟨result, params, isVariadic⟩ := signature
  refine weight_lt (fun name hn => ?_) ?_
  · rw [CType.names]
    rcases List.mem_cons.1 h with rfl | hp
    · exact List.mem_append_left _ hn
    · exact List.mem_append_right _ (mem_namesOfTypes hp hn)
  · rw [CType.size]
    rcases List.mem_cons.1 h with rfl | hp
    · omega
    · have hparam : type.size ≤ sizeOfTypes params := size_of_mem_params hp
      omega

/-- A typedef weighs more than what it stands for. -/
theorem weight_typedef (hf : decls.IsFounded) {name : String} {underlying : CType}
    (h : decls.typedefs.get? name = some underlying) :
    decls.weight underlying < decls.weight (.named name) := by
  classical
  have hmade : ∀ other ∈ underlying.names, decls.MadeFrom name other := fun other ho =>
    ⟨underlying, h, ho⟩
  have hself : decls.LiesBelow (.named name) name := by
    refine ⟨name, ?_, .refl⟩
    rw [CType.names]
    exact List.mem_singleton_self name
  -- The typedef itself is not below what it stands for, or it would be made from itself.
  have hnot : ¬ decls.LiesBelow underlying name := by
    rintro ⟨head, hh, hr⟩
    exact hf name (.head' (hmade head hh) hr)
  have hmore := total_filter_add_le (p := fun row => decide (decls.LiesBelow underlying row.1))
    (q := fun row => decide (decls.LiesBelow (.named name) row.1))
    (fun row : String × CType => row.2.size) (fun row _ hrow => by
      rw [decide_eq_true_eq] at hrow ⊢
      obtain ⟨head, hh, hr⟩ := hrow
      refine ⟨name, ?_, .head (hmade head hh) hr⟩
      rw [CType.names]
      exact List.mem_singleton_self name)
    (Table.mem_of_get? h) (decide_eq_true hself) (by simpa using hnot)
  have hsize : (CType.named name).size = 1 := by rw [CType.size]
  dsimp only at hmore
  unfold weight
  rw [hsize]
  omega

theorem weight_pos (decls : Declarations) (type : CType) : 0 < decls.weight type :=
  Nat.lt_of_lt_of_le type.size_pos (Nat.le_add_right ..)

theorem weight_le (decls : Declarations) (type : CType) :
    decls.weight type ≤ type.size + decls.typedefSize := by
  classical
  have h := total_filter_le (p := fun row => decide (decls.LiesBelow type row.1))
    (q := fun _ => true) (fun row : String × CType => row.2.size) decls.typedefs.rows
    fun _ _ _ => rfl
  rw [List.filter_eq_self.2 fun _ _ => rfl] at h
  rw [weight, typedefSize, Table.values, List.map_map]
  exact Nat.add_le_add_left h _

/-- A callback weighs no more than its type. -/
theorem weight_signature (hf : decls.IsFounded) {type : CType} {signature : Signature}
    (h : decls.functionPointer type = some signature) :
    decls.weight (.function signature) ≤ decls.weight type := by
  have hwithin : ∀ bound type, decls.functionPointerWithin bound type = some signature →
      decls.weight (.function signature) ≤ decls.weight type := by
    intro bound
    induction bound with
    | zero => exact fun type h => by cases h
    | succ bound ih =>
        intro type h
        cases type with
        | named name =>
            rw [functionPointerWithin] at h
            obtain ⟨underlying, hu, hs⟩ := Option.bind_eq_some_iff.1 h
            exact Nat.le_of_lt (Nat.lt_of_le_of_lt (ih underlying hs) (weight_typedef hf hu))
        | pointer pointee isConst =>
            cases pointee with
            | function other =>
                rw [functionPointerWithin] at h
                rw [Option.some.inj h]
                exact Nat.le_of_lt (weight_pointee _ isConst)
            | _ => cases h
        | function other =>
            rw [functionPointerWithin] at h
            exact Nat.le_of_eq (by rw [Option.some.inj h])
        | _ => cases h
  exact hwithin _ _ h

/-- The type of a member weighs no more than the record and the typedefs. -/
theorem weight_member (decls : Declarations) {record : Record} {field : Field}
    (h : field ∈ record.flattened) : decls.weight field.type ≤ record.size + decls.typedefSize :=
  Nat.le_trans (decls.weight_le field.type) (Nat.add_le_add_right (size_of_mem_flattened h) _)

/-- What a callback among the members passes and returns weighs less. -/
theorem weight_value (hf : decls.IsFounded) {record : Record} {field : Field}
    {signature : Signature}
    (h : field ∈ record.flattened) (hs : decls.functionPointer field.type = some signature)
    {type : CType} (ht : type ∈ signature.types) :
    decls.weight type < record.size + decls.typedefSize :=
  Nat.lt_of_lt_of_le (weight_type ht)
    (Nat.le_trans (weight_signature hf hs) (decls.weight_member h))

end Declarations

end ScriptBind
