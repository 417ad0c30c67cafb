import ScriptBind.Binding.PointerCell
import ScriptBind.Proofs.Ensures

/-!
# What Binding May Meet

Binding a type leads to other types and to records: to what a pointer points to,
to the elements of an array, to what a typedef stands for, to the members of a
record. Some of what is to be shown of sessions holds only if the types met on
the way are as they should be, and of course it is asked of the types at the
beginning only. A scope is a choice of types and records that binding does not
lead out of. What is asked of everything in a scope then holds of everything
that is met.

A session keeps records to be bound later and callbacks to be written later. It
is within a scope if these are, and it is from such sessions that binding stays
in the scope. A comparison of sessions is guarded by a scope if it is asked only
for sessions within it.

## Main definitions

* `Scope`: Types and records that binding does not lead out of.
* `Scope.all`: Everything.
* `Session.Within`: What a session keeps for later is in a scope.
* `Scope.Guarded`: A comparison asked for sessions within a scope.
* `Scope.Brings`: A guarded comparison together with what is known of answers.

## Theorems

* `Scope.signature`: The signature behind a callback's type is in the scope.
* `Session.within_all`: Every session is within the scope of everything.
* `Brings.bind`: What is known of an answer helps with what comes after it.
-/

namespace ScriptBind

/-- Types and records that binding does not lead out of. -/
structure Scope (library : Library) where
  /-- The types. -/
  types : CType → Prop
  /-- The records, each with a key it may be bound under. -/
  records : String → Record → Prop
  /-- What pointers point to. -/
  pointee : ∀ {type isConst}, types (.pointer type isConst) → types type
  /-- The elements of arrays. -/
  element : ∀ {type length}, types (.array type length) → types type
  /-- What functions return. -/
  result : ∀ {signature}, types (.function signature) → types signature.result
  /-- What functions take. -/
  param : ∀ {signature type}, types (.function signature) → type ∈ signature.params → types type
  /-- What typedefs stand for. -/
  typedef : ∀ {name type}, library.decls.typedefs.get? name = some type → types type
  /-- The records that the library declares. -/
  declared : ∀ {key record}, library.decls.records.get? key = some record → records key record
  /-- The cell for a pointer. -/
  cell : records pointerCell.name pointerCell
  /-- The types of members. -/
  member : ∀ {key record} {field : Field}, records key record → field ∈ record.flattened →
    field.name ≠ "" → types field.type
  /-- The records defined in place as the types of members. -/
  nested : ∀ {key record inner} {field : Field}, records key record → field ∈ record.flattened →
    field.name ≠ "" → field.type = .anonymous inner →
    records (memberTypeName (bareTag key) field.name)
      { inner with name := memberTypeName (bareTag key) field.name }

namespace Scope

variable {library : Library}

/-- The scope of everything. -/
def all (library : Library) : Scope library where
  types := fun _ => True
  records := fun _ _ => True
  pointee := fun _ => trivial
  element := fun _ => trivial
  result := fun _ => trivial
  param := fun _ _ => trivial
  typedef := fun _ => trivial
  declared := fun _ => trivial
  cell := trivial
  member := fun _ _ _ => trivial
  nested := fun _ _ _ _ => trivial

theorem signatureWithin (scope : Scope library) {bound : Nat} {type : CType} {signature : Signature}
    (ht : scope.types type)
    (h : library.decls.functionPointerWithin bound type = some signature) :
    scope.types (.function signature) := by
  induction bound generalizing type with
  | zero => cases h
  | succ bound ih =>
      unfold Declarations.functionPointerWithin at h
      split at h
      · next he => cases he
      · obtain rfl := Option.some.inj h
        exact scope.pointee ht
      · obtain rfl := Option.some.inj h
        exact ht
      · next rest name he =>
          obtain rfl := Nat.succ.inj he
          obtain ⟨underlying, hu, hf⟩ := Option.bind_eq_some_iff.1 h
          exact ih (scope.typedef hu) hf
      · cases h

/-- The signature behind a callback's type is in the scope. -/
theorem signature (scope : Scope library) {type : CType} {signature : Signature}
    (ht : scope.types type) (h : library.decls.functionPointer type = some signature) :
    scope.types (.function signature) :=
  scope.signatureWithin ht h

end Scope

namespace Session

variable {library : Library} {scope : Scope library} {session session' : Session}

/-- What a session keeps for later is in a scope. -/
structure Within (scope : Scope library) (session : Session) : Prop where
  /-- The records put off. -/
  deferred : ∀ row ∈ session.deferred.rows, scope.records row.1 row.2.record
  /-- The callbacks that wait for their trampolines. -/
  pending : ∀ id callback, session.callbacks.get? id = some (.pending callback) →
    scope.types (.function callback.signature)
  /-- The callbacks that have their trampolines. -/
  emitted : ∀ id callback, session.callbacks.get? id = some (.emitted callback) →
    scope.types (.function callback.signature)

/-- Every session is within the scope of everything. -/
theorem within_all (session : Session) : session.Within (Scope.all library) :=
  ⟨fun _ _ => trivial, fun _ _ _ => trivial, fun _ _ _ => trivial⟩

theorem within_start (scope : Scope library) (naming : Naming) :
    (start naming).Within scope := by
  constructor
  · intro row hm
    cases hm
  · intro id callback h
    cases h
  · intro id callback h
    cases h

/-- A change of other things. -/
theorem Within.of_eq (h : session.Within scope) (hc : session'.callbacks = session.callbacks)
    (hd : ∀ row ∈ session'.deferred.rows, row ∈ session.deferred.rows) : session'.Within scope where
  deferred := fun row hm => h.deferred row (hd row hm)
  pending := by rw [hc]; exact h.pending
  emitted := by rw [hc]; exact h.emitted

end Session

/-- A comparison that is asked for sessions within a scope, and that does not
    lead out of it. -/
def Scope.Guarded {library : Library} (scope : Scope library) (R : Session → Session → Prop)
    (session session' : Session) : Prop :=
  session.Within scope → session'.Within scope ∧ R session session'

instance {library : Library} (scope : Scope library) (R : Session → Session → Prop)
    [IsPreorder Session R] : IsPreorder Session (scope.Guarded R) where
  refl := fun session h => ⟨h, refl_of R session⟩
  trans := by
    intro _ _ _ h h' hs
    obtain ⟨hw, hr⟩ := h hs
    obtain ⟨hw', hr'⟩ := h' hw
    exact ⟨hw', trans_of R hr hr'⟩

/-- Within the scope of everything, comparisons need no guard. -/
theorem Scope.keeps_all {library : Library} {R : Session → Session → Prop} {α : Type}
    {action : BindM α} :
    BindM.Keeps library ((Scope.all library).Guarded R) action ↔ BindM.Keeps library R action := by
  constructor
  · exact fun h session => (h session).mono fun _ _ hg => (hg session.within_all).2
  · exact fun h session => (h session).mono fun _ session' hr _ => ⟨session'.within_all, hr⟩

/-- A computation keeps a comparison that is guarded by a scope, and from a
    session within the scope what it answers satisfies a condition. -/
def Scope.Brings {library : Library} {α : Type} (scope : Scope library)
    (R : Session → Session → Prop) (post : α → Prop) (action : BindM α) : Prop :=
  ∀ session, session.Within scope →
    BindM.Ensures True library action session fun result session' =>
      (session'.Within scope ∧ R session session') ∧ ∀ answer, result = .ok answer → post answer

namespace Scope.Brings

open BindM

variable {library : Library} {scope : Scope library} {R : Session → Session → Prop} {α β : Type}
  {P : α → Prop} {Q : β → Prop}

theorem keeps {action : BindM α} (h : scope.Brings R P action) :
    Keeps library (scope.Guarded R) action := by
  intro session
  by_cases hs : session.Within scope
  · exact (h session hs).mono fun _ _ hall _ => hall.1
  · exact ensures_of_forall (fun _ _ hs' => absurd hs' hs) trivial

/-- Nothing need be known of an answer. -/
theorem of_keeps {action : BindM α} (h : Keeps library (scope.Guarded R) action) :
    scope.Brings R (fun _ => True) action := fun session hs =>
  (h session).mono fun _ _ hk => ⟨hk hs, fun _ _ => trivial⟩

theorem true_iff {action : BindM α} :
    scope.Brings R (fun _ => True) action ↔ Keeps library (scope.Guarded R) action :=
  ⟨keeps, of_keeps⟩

/-- A computation that keeps a comparison, and what it always answers. -/
theorem of_answers {action : BindM α} (h : Keeps library (scope.Guarded R) action)
    (ha : Answers library P action) : scope.Brings R P action := fun session hs =>
  ((h session).and (ha session)).mono fun _ _ hall => ⟨hall.1 hs, hall.2⟩

theorem update {f : Library → Session → Session}
    (h : ∀ session, scope.Guarded R session (f library session)) :
    scope.Brings R (fun _ => True) (BindM.update f) :=
  of_keeps (Keeps.update h)

theorem attempt {action : BindM β} (h : scope.Brings R Q action) :
    scope.Brings R (fun result => ∀ answer, result = .ok answer → Q answer) action.attempt := by
  intro session hs
  rw [ensures_attempt]
  refine (h session hs).mono fun result session' hall => ⟨hall.1, fun other ho => ?_⟩
  rw [← Except.ok.inj ho]
  exact hall.2

variable [IsPreorder Session R]

theorem pure {answer : α} (h : P answer) : scope.Brings R P (Pure.pure answer : BindM α) := by
  intro session hs
  rw [ensures_pure]
  refine ⟨⟨hs, refl_of R session⟩, fun other ho => ?_⟩
  rw [← Except.ok.inj ho]
  exact h

theorem fail (error : BindError) : scope.Brings R P (BindM.fail error : BindM α) := by
  intro session hs
  rw [ensures_fail]
  refine ⟨⟨hs, refl_of R session⟩, fun answer ha => ?_⟩
  cases ha

theorem ofExcept {result : Except BindError α} (h : ∀ answer, result = .ok answer → P answer) :
    scope.Brings R P (BindM.ofExcept result) := by
  intro session hs
  rw [ensures_ofExcept]
  exact ⟨⟨hs, refl_of R session⟩, h⟩

/-- What is seen in a session within the scope. -/
theorem look {f : Library → Session → α}
    (h : ∀ session, session.Within scope → P (f library session)) :
    scope.Brings R P (BindM.look f) := by
  intro session hs
  rw [ensures_look]
  refine ⟨⟨hs, refl_of R session⟩, fun answer ha => ?_⟩
  rw [← Except.ok.inj ha]
  exact h session hs

theorem read : scope.Brings R (fun answer => answer = library) (read : BindM Library) := by
  intro session hs
  rw [ensures_read]
  exact ⟨⟨hs, refl_of R session⟩, fun answer ha => (Except.ok.inj ha).symm⟩

/-- What is known of an answer helps with what comes after it. -/
theorem bind {action : BindM β} {next : β → BindM α} (h : scope.Brings R Q action)
    (hnext : ∀ answer, Q answer → scope.Brings R P (next answer)) :
    scope.Brings R P (action >>= next) := by
  intro session hs
  rw [ensures_bind]
  refine (h session hs).mono fun result session' hall => ?_
  obtain ⟨⟨hw, hr⟩, hpost⟩ := hall
  cases result with
  | error error =>
      refine ⟨⟨hw, hr⟩, fun answer ha => ?_⟩
      cases ha
  | ok answer =>
      exact (hnext answer (hpost answer rfl) session' hw).mono fun _ _ hall' =>
        ⟨⟨hall'.1.1, trans_of R hr hall'.1.2⟩, hall'.2⟩

end Scope.Brings

end ScriptBind
