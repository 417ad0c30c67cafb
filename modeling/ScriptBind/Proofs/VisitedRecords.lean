import ScriptBind.Proofs.CNames
import ScriptBind.Proofs.Demands
import ScriptBind.Proofs.Resolution

/-!
# Records that a Type Leads to

Resolving a type visits records: the one that the type names, by way of pointers,
arrays and typedefs. Binding a record visits those that its members lead to, one member
after another, and stops at the first that has no conversion. So much can be said
without any session, and it says which records are bound in the end when some types are
resolved, whatever their order: those that are reached from the types.

Callbacks need more care. The values that a callback passes and returns are looked at,
but what comes of it may depend on the moment: a record that is being bound has no
conversion yet, and what became of a callback is remembered under its name, which another
member may have as well. A callback is steady if neither can happen. What it comes to is
then a matter of its type alone, like everything else.

A typedef is followed through so many others only, and through pointers to them. If it
leads farther than that, what is found depends on where one began.

## Main definitions

* `Declarations.followsWithin`: A type that does not lead too far.
* `Declarations.IsShort`: Declarations in which none leads too far.
* `Library.Visits`: The records that resolving a type visits.
* `ComesUp`: What comes up if one stops at the first failure.
* `Demand.IsAdmitted`, `Demand.Passes`: A callback whose values are looked at, and one
  that can be marshaled.
* `Demand.IsSteady`: A callback that comes to the same at every moment.
* `Field.Needs`: The types that binding a member resolves.
* `Library.Reaches`: The records reached from some types.

## Theorems

* `Visits.of_spelling`: Types of the same spelling visit the same records.
* `ConvertibleBut.cons_of_member`: A member does not need the record that it belongs to.
* `Reaches.perm`: The order of types does not matter.
-/

namespace ScriptBind

/-- The type that a typedef, or a pointer to one, is followed to. -/
def Declarations.next? (decls : Declarations) : CType → Option CType
  | .named name => decls.typedefs.get? name
  | .pointer (.named name) _ => if decls.typedefs.contains name then some (.named name) else none
  | _ => none

/-- Whether a type is followed at most so many times. -/
def Declarations.followsWithin (decls : Declarations) : Nat → CType → Bool
  | 0, type => (decls.next? type).isNone
  | bound + 1, type => (decls.next? type).all (decls.followsWithin bound)

/-- No typedef leads too far, and neither does a pointer to one. -/
def Declarations.IsShort (decls : Declarations) : Prop :=
  ∀ row ∈ decls.typedefs.rows, decls.followsWithin aliasLimit (.pointerTo (.named row.1))

namespace Declarations

variable {decls : Declarations}

/-- What a type is followed to is followed once less. -/
theorem followsWithin_next {bound : Nat} {type other : CType} (hn : decls.next? type = some other)
    (h : decls.followsWithin bound type) :
    ∃ rest, bound = rest + 1 ∧ decls.followsWithin rest other := by
  cases bound with
  | zero =>
      rw [followsWithin, hn] at h
      cases h
  | succ rest =>
      rw [followsWithin, hn, Option.all_some] at h
      exact ⟨rest, rfl, h⟩

/-- A type may be followed farther than it leads. -/
theorem followsWithin_succ {bound : Nat} {type : CType} (h : decls.followsWithin bound type) :
    decls.followsWithin (bound + 1) type := by
  induction bound generalizing type with
  | zero =>
      rw [followsWithin, Option.isNone_iff_eq_none] at h
      rw [followsWithin, h, Option.all_none]
  | succ bound ih =>
      rw [followsWithin] at h ⊢
      cases hn : decls.next? type with
      | none => rfl
      | some other =>
          rw [hn, Option.all_some] at h
          exact ih h

theorem next?_typedefPointer {name : String} (h : decls.typedefs.contains name) (isConst : Bool) :
    decls.next? (.pointer (.named name) isConst) = some (.named name) := by
  rw [next?, if_pos h]

/-- No type leads too far. -/
theorem IsShort.followsWithin (h : decls.IsShort) (type : CType) :
    decls.followsWithin aliasLimit type := by
  have hnone : decls.next? type = none → decls.followsWithin aliasLimit type := fun hn => by
    rw [aliasLimit, Declarations.followsWithin, hn, Option.all_none]
  -- A typedef leads as far as a pointer to it, but for the pointer.
  have htypedef : ∀ name, decls.typedefs.contains name →
      decls.followsWithin (aliasLimit - 1) (.named name) := by
    intro name hc
    obtain ⟨underlying, ht⟩ := Option.isSome_iff_exists.1 hc
    obtain ⟨rest, hrest, hn⟩ := followsWithin_next (next?_typedefPointer hc false)
      (h _ (Table.mem_of_get? ht))
    rw [hrest]
    exact hn
  cases type with
  | named name =>
      by_cases hc : decls.typedefs.contains name
      · exact followsWithin_succ (htypedef name hc)
      · exact hnone (Option.not_isSome_iff_eq_none.1 hc)
  | pointer pointee isConst =>
      cases pointee with
      | named name =>
          by_cases hc : decls.typedefs.contains name
          · rw [aliasLimit, Declarations.followsWithin, next?_typedefPointer hc, Option.all_some]
            exact htypedef name hc
          · exact hnone (if_neg hc)
      | _ => exact hnone rfl
  | _ => exact hnone rfl

end Declarations

/-- The records that resolving a type visits if nothing is known of it. -/
inductive Library.Visits (library : Library) : CType → String → Prop where
  /-- The record that the type names. -/
  | record {type : CType} {key : String} {record : Record} :
      (Registry.seeded library.naming).contains type.spelling = false →
      library.decls.bindable? type = some (key, record) → Visits library type key
  /-- The record that a pointer points to. -/
  | pointer {pointee : CType} {isConst : Bool} {key : String} {record : Record} :
      (Registry.seeded library.naming).contains (CType.pointer pointee isConst).spelling = false →
      library.decls.bindable? pointee = some (key, record) →
      Visits library (.pointer pointee isConst) key
  /-- Those that a typedef leads to, for a pointer to the typedef. -/
  | typedefPointer {name key : String} {isConst : Bool} :
      (Registry.seeded library.naming).contains (CType.pointer (.named name) isConst).spelling =
        false →
      library.decls.typedefs.contains name → Visits library (.named name) key →
      Visits library (.pointer (.named name) isConst) key
  /-- Those that the type of a typedef leads to, unless it is an enum. -/
  | typedef {name key : String} {underlying : CType} :
      (Registry.seeded library.naming).contains name = false →
      library.decls.typedefs.get? name = some underlying →
      library.decls.isEnum (.named name) = false → Visits library underlying key →
      Visits library (.named name) key
  /-- Those that the elements of an array lead to. -/
  | array {element : CType} {length : Nat} {key : String} :
      (Registry.seeded library.naming).contains (CType.array element length).spelling = false →
      0 < length → library.decls.isElement element → Visits library element key →
      Visits library (.array element length) key

variable {library : Library}

/-- The pointees of pointers with one spelling are spelled alike. -/
theorem spelling_pointee {pointee pointee' : CType} {isConst isConst' : Bool}
    (h : pointee.isFunction = false) (h' : pointee'.isFunction = false)
    (hs : (CType.pointer pointee isConst).spelling = (CType.pointer pointee' isConst').spelling) :
    pointee.spelling = pointee'.spelling := by
  rw [spelling_pointer h, spelling_pointer h'] at hs
  exact starAfter_injective hs

/-- Types of the same spelling visit the same records. -/
theorem Library.Visits.of_spelling {type type' : CType} {key : String}
    (hv : library.Visits type key) (h : type.isWellNamed) (h' : type'.isWellNamed)
    (hs : type.spelling = type'.spelling) : library.Visits type' key := by
  induction hv generalizing type' with
  | record hseed hb =>
      cases alike_of_spelling h h' hs with
      | same => exact .record hseed hb
      | _ => exact absurd hb (by simp [Declarations.bindable?])
  | @pointer pointee isConst key record hseed hb =>
      have hf := isFunction_of_bindable? hb
      cases alike_of_spelling h h' hs with
      | same => exact .pointer hseed hb
      | @pointers _ pointee' hp _ isConst' =>
          have hpointee := spelling_pointee hf (hp ▸ hf) hs
          rw [CType.isWellNamed] at h h'
          cases alike_of_spelling h h' hpointee with
          | same => exact .pointer (hs ▸ hseed) hb
          | _ => exact absurd hb (by simp [Declarations.bindable?])
  | @typedefPointer name key isConst hseed ht hn _ =>
      cases alike_of_spelling h h' hs with
      | same => exact .typedefPointer hseed ht hn
      | @pointers _ pointee' hp _ isConst' =>
          have hpointee := spelling_pointee rfl hp.symm hs
          rw [CType.isWellNamed] at h h'
          cases alike_of_spelling h h' hpointee with
          | same => exact .typedefPointer (hs ▸ hseed) ht hn
  | typedef hseed ht he hu _ =>
      cases alike_of_spelling h h' hs with
      | same => exact .typedef hseed ht he hu
  | array hseed hl hd he ih =>
      cases alike_of_spelling h h' hs with
      | same => exact .array hseed hl hd he
      | arrays hes =>
          rw [CType.isWellNamed] at h h'
          exact .array (hs ▸ hseed) hl ((alike_of_spelling h h' hes).isElement _ ▸ hd) (ih h h' hes)

/-- A type that has a conversion from the beginning visits nothing. -/
theorem Library.Visits.not_seeded {type : CType} {key : String} (h : library.Visits type key) :
    (Registry.seeded library.naming).contains type.spelling = false := by
  cases h with
  | record hseed => exact hseed
  | pointer hseed => exact hseed
  | typedefPointer hseed => exact hseed
  | typedef hseed =>
      rw [CType.spelling, CType.spell]
      exact hseed
  | array hseed => exact hseed

/-- A type that names a record visits that record only. -/
theorem Library.Visits.eq_of_bindable? (hregular : library.decls.Regular) {type : CType}
    {key other : String} {record : Record} (h : library.Visits type other)
    (hb : library.decls.bindable? type = some (key, record)) : other = key := by
  cases h with
  | record _ hb' => exact (Prod.mk.inj (Option.some.inj (hb'.symm.trans hb))).1
  | typedef _ ht _ _ =>
      have hr := Declarations.get?_of_bindable? hb
      have hk := Declarations.spelling_of_bindable? hb
      rw [CType.spelling, CType.spell] at hk
      rw [← hk] at hr
      cases ht.symm.trans (hregular.get?_typedefs_of_record hr)
  | pointer => cases hb
  | typedefPointer => cases hb
  | array => cases hb

/-- What comes up in a list if one stops at the first item without a property. -/
inductive ComesUp {α : Type} (P : α → Prop) : List α → α → Prop where
  /-- The first item comes up. -/
  | first {item : α} {rest : List α} : ComesUp P (item :: rest) item
  /-- Another one does if the first has the property. -/
  | later {item other : α} {rest : List α} :
      P item → ComesUp P rest other → ComesUp P (item :: rest) other

namespace ComesUp

variable {α : Type} {P Q : α → Prop} {items : List α} {item : α}

theorem mem (h : ComesUp P items item) : item ∈ items := by
  induction h with
  | first => exact List.mem_cons_self ..
  | later _ _ ih => exact List.mem_cons_of_mem _ ih

theorem imp (h : ComesUp P items item) (hpq : ∀ other ∈ items, P other → Q other) :
    ComesUp Q items item := by
  induction h with
  | first => exact .first
  | later hp _ ih =>
      exact .later (hpq _ (List.mem_cons_self ..) hp) (ih fun other ho =>
        hpq other (List.mem_cons_of_mem _ ho))

end ComesUp

/-- The values that are looked at when a callback is marshaled: what it returns, and
    what it takes except pointers. -/
def Signature.checked (signature : Signature) : List CType :=
  (if signature.returnsVoid then [] else [signature.result]) ++
    signature.params.filter (!·.isPointer)

theorem Signature.mem_types_of_checked {signature : Signature} {type : CType}
    (h : type ∈ signature.checked) : type ∈ signature.types := by
  rw [checked] at h
  rcases List.mem_append.1 h with hr | hp
  · split at hr
    · cases hr
    · rw [List.mem_singleton.1 hr]
      exact List.mem_cons_self ..
  · exact List.mem_cons_of_mem _ (List.mem_filter.1 hp).1

/-- A callback that is a member of a record of the library. -/
inductive Library.HasCallback (library : Library) : Demand → Prop where
  /-- It is a member with a name. -/
  | member {key : String} {record : Record} {field : Field} {signature : Signature} :
      library.decls.records.get? key = some record → field ∈ record.flattened → field.name ≠ "" →
      library.decls.functionPointer field.type = some signature →
      HasCallback library (.ofMember key record field signature)

namespace Demand

/-- A callback whose values are looked at: it names all its arguments, and finds the way
    to the script. -/
def IsAdmitted (library : Library) (demand : Demand) : Prop :=
  demand.signature.isVariadic = false ∧ ∃ way,
    library.callbackOwner demand.signature demand.typeName demand.id demand.expected = .ok way

/-- A callback that can be marshaled. -/
def Passes (library : Library) (demand : Demand) : Prop :=
  demand.IsAdmitted library ∧ ∀ type ∈ demand.signature.checked, Convertible library type

/-- A callback that comes to the same at every moment. -/
structure IsSteady (library : Library) (demand : Demand) : Prop where
  /-- Its values are convertible without any record, or not at all. -/
  values : ∀ type ∈ demand.signature.checked, Convertible library type →
    ConvertibleBut library library.decls.records.names type
  /-- No other callback has its name. -/
  alone : ∀ other : Demand, library.HasCallback other → other.id = demand.id → other = demand

end Demand

/-- The types that are resolved when a member of a record is bound, as far as some
    callbacks count. -/
inductive Field.Needs (library : Library) (counts : Demand → Prop) (key : String) (record : Record)
    (field : Field) : CType → Prop where
  /-- The type of the member, if it needs a conversion. -/
  | conversion : field.isConverted library.decls → Needs library counts key record field field.type
  /-- The values of a callback, up to the first that cannot be converted. -/
  | value {signature : Signature} {type : CType} : field.name ≠ "" →
      library.decls.functionPointer field.type = some signature →
      counts (.ofMember key record field signature) →
      (Demand.ofMember key record field signature).IsAdmitted library →
      ComesUp (Convertible library) signature.checked type →
      Needs library counts key record field type

theorem Field.Needs.imp {counts counts' : Demand → Prop} {key : String} {record : Record}
    {field : Field} {type : CType} (h : field.Needs library counts key record type)
    (hc : ∀ signature, library.decls.functionPointer field.type = some signature →
      field.name ≠ "" → counts (.ofMember key record field signature) →
      counts' (.ofMember key record field signature)) :
    field.Needs library counts' key record type := by
  cases h with
  | conversion h => exact .conversion h
  | value hn hs hcount ha ht => exact .value hn hs (hc _ hs hn hcount) ha ht

/-- A member has a conversion if it needs one. -/
def Field.Converts (library : Library) (avoided : List String) (field : Field) : Prop :=
  field.isConverted library.decls → ConvertibleBut library avoided field.type

/-- The records that are reached from some types, as far as some callbacks count. -/
inductive Library.Reaches (library : Library) (counts : Demand → Prop) (types : List CType) :
    String → Prop where
  /-- Those that one of the types visits. -/
  | type {type : CType} {key : String} :
      type ∈ types → library.Visits type key → Reaches library counts types key
  /-- Those that binding a record visits. -/
  | member {key other : String} {record : Record} {field : Field} {type : CType} :
      Reaches library counts types key → library.decls.records.get? key = some record →
      ComesUp (Field.Converts library []) record.flattened field →
      field.Needs library counts key record type → library.Visits type other →
      Reaches library counts types other

/-- The order of types does not matter for what is reached. -/
theorem Library.Reaches.perm {counts : Demand → Prop} {types others : List CType}
    (hp : types.Perm others) {key : String} (h : library.Reaches counts types key) :
    library.Reaches counts others key := by
  induction h with
  | type ht hv => exact .type (hp.mem_iff.1 ht) hv
  | member _ hr hf hn hv ih => exact .member ih hr hf hn hv

/-- If all callbacks count, it does not matter why they do. -/
theorem Library.Reaches.imp {counts counts' : Demand → Prop} {types : List CType} {key : String}
    (h : library.Reaches counts types key)
    (hc : ∀ demand, library.HasCallback demand → counts demand → counts' demand) :
    library.Reaches counts' types key := by
  induction h with
  | type ht hv => exact .type ht hv
  | member _ hr hf hn hv ih =>
      refine .member ih hr hf (hn.imp fun signature hs hne hcount => ?_) hv
      exact hc _ (.member hr hf.mem hne hs) hcount

/-- A member that has a conversion does not need the record that it belongs to. -/
theorem ConvertibleBut.cons_of_member {key : String} {record : Record} {field : Field}
    {avoided : List String} (hr : library.decls.records.get? key = some record)
    (hf : field ∈ record.flattened) (h : field.Converts library avoided) :
    field.Converts library (key :: avoided) :=
  fun hc => ((h hc).cons_or_members hr).elim id fun hm => hm field hf hc

end ScriptBind
