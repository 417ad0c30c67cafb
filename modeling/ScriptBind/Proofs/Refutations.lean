import ScriptBind.Proofs.Levels
import ScriptBind.Proofs.SoundSessions

/-!
# What a Failure Says

Resolving a type is to have an answer exactly if the type is convertible. The
difficulty is records that refer to each other. While a record is being bound, a
type that contains it has no conversion yet, although it may have one in the
end. So a failure says less than an answer: that the type is not convertible
without the records being bound, and that it is not convertible at all unless
one of these was met on the way. `Session.Refutes` is this reading of a failure,
for types, members and records alike.

For a record that is itself being bound the first part is enough, since its
members do not need it. This is what makes a failure final when nothing else is
being bound: a record put off is bound once more, and only then.

What resolving and binding come to is said here, and for one level it will be
proved from the level below. Regular declarations are what makes this possible,
so what they say of a single member comes along.

## Main definitions

* `Session.Refutes`: What a failure says.
* `Resolved`, `Bound`: What resolving a type and binding a record come to.
* `Binders.Right`: Ways to resolve and bind that come to this.
* `Field.Fits`: What is known of a member of a declared record.

## Theorems

* `Refutes.after`, `Refutes.before`: A failure with something else before or
  after it.
* `Regular.fits`: Members of regular records fit.
* `Settled.enter`, `Settled.takeDeferred`: What is settled when a record is
  entered and when it is taken up again.
-/

namespace ScriptBind

open BindM

/-- What a failure between two sessions says of a condition that can be met with
    or without the use of some records: it is not met without those being bound,
    and not at all if none of these was met. -/
def Session.Refutes (session session' : Session) (P : List String → Prop) : Prop :=
  ¬ P session.inProgress ∧ (session'.meetings = session.meetings → ¬ P [])

/-- What a record needs to be bound without the use of some records. -/
def RecordBut (library : Library) (key : String) (record : Record) (avoided : List String) : Prop :=
  key ∉ avoided ∧ MembersBut library avoided record.flattened

/-- What resolving a type comes to. -/
def Resolved (library : Library) (links : Nat) (type : CType) (session : Session)
    (result : Except BindError Conversion) (session' : Session) : Prop :=
  session.Leads library session' ∧
    match result with
    | .ok conversion => session'.Converts library type ∧
      (conversion.inward = .register → (library.decls.functionPointer type).isSome)
    | .error _ => links ≤ aliasLimit → library.decls.linksWithin (aliasLimit - links) type →
      session.Refutes session' fun avoided => ConvertibleBut library avoided type

/-- What binding a record comes to. -/
def Bound (library : Library) (key : String) (record : Record) (session : Session)
    (result : Except BindError BoundStruct) (session' : Session) : Prop :=
  session.Leads library session' ∧
    match result with
    | .ok _ => ∃ bound, session'.structs.get? key = some (.done bound)
    | .error _ => session.Refutes session' (RecordBut library key record)

/-- Ways to resolve and bind that come to this within so many levels. -/
structure Binders.Right (library : Library) (rank : String → Nat) (levels : Nat)
    (binders : Binders) : Prop where
  /-- Ways that only add. -/
  grow : binders.Grow library
  /-- Resolving a type. -/
  resolve : ∀ links type session, type.isWellNamed → session.Sound library → session.Settled [] →
    Ensures (levels < session.room library.extent + library.decls.chase rank type + 1) library
      (binders.resolve links type) session (Resolved library links type session)
  /-- Binding a record. -/
  bind : ∀ key record session, library.decls.records.get? key = some record →
    session.Sound library → session.Settled [key] →
    Ensures (levels < session.room library.extent + 1) library
      (binders.bind key record none) session (Bound library key record session)

namespace Session

variable {library : Library} {session session' session'' : Session} {P Q : List String → Prop}

theorem Refutes.imp (h : session.Refutes session' P) (hq : ∀ avoided, Q avoided → P avoided) :
    session.Refutes session' Q :=
  ⟨fun hp => h.1 (hq _ hp), fun hm hp => h.2 hm (hq _ hp)⟩

/-- What is refuted without using any record is refuted. -/
theorem refutes_of_not (hp : ∀ avoided, ¬ P avoided) : session.Refutes session' P :=
  ⟨hp _, fun _ => hp _⟩

/-- A failure that comes after something else. -/
theorem Refutes.after (h : session'.Refutes session'' P) (hg : session.Grows session')
    (hg' : session'.Grows session'') : session.Refutes session'' P := by
  refine ⟨hg.inProgress ▸ h.1, fun hm => h.2 ?_⟩
  have hle := hg.meetings
  have hle' := hg'.meetings
  omega

/-- A failure that something else comes after. -/
theorem Refutes.before (h : session.Refutes session' P) (hg : session.Grows session')
    (hg' : session'.Grows session'') : session.Refutes session'' P := by
  refine ⟨h.1, fun hm => h.2 ?_⟩
  have hle := hg.meetings
  have hle' := hg'.meetings
  omega

end Session

/-- What is known of a member of a declared record. -/
structure Field.Fits (library : Library) (rank : String → Nat) (field : Field) : Prop where
  /-- Its type is made from C names. -/
  type : field.type.isWellNamed
  /-- It has no name if its type is defined in place. -/
  name : field.type.isAnonymous → field.name = ""
  /-- Its type is not followed farther than a stride. -/
  chase : library.decls.chase rank field.type < library.decls.stride
  /-- What it passes and returns, if it is a callback, is alike. -/
  values : ∀ signature, library.decls.functionPointer field.type = some signature →
    ∀ type ∈ signature.types, type.isWellNamed ∧
      library.decls.chase rank type < library.decls.stride

theorem areWellNamed_of_mem {types : List CType} (h : areWellNamed types) :
    ∀ type ∈ types, type.isWellNamed := by
  induction types with
  | nil => exact fun _ h => by cases h
  | cons type rest ih =>
      rw [areWellNamed, Bool.and_eq_true] at h
      intro other ho
      rcases List.mem_cons.1 ho with rfl | hr
      · exact h.1
      · exact ih h.2 other hr

theorem Signature.isWellNamed_of_mem {signature : Signature}
    (h : (CType.function signature).isWellNamed) : ∀ type ∈ signature.types, type.isWellNamed := by
  obtain ⟨result, params, isVariadic⟩ := signature
  rw [CType.isWellNamed, Bool.and_eq_true] at h
  intro type ht
  rcases List.mem_cons.1 ht with rfl | hp
  · exact h.1
  · exact areWellNamed_of_mem h.2 type hp

namespace Declarations

variable {decls : Declarations}

/-- The signature of a callback is made from C names if its type is. -/
theorem Regular.isWellNamed_signature (hregular : decls.Regular) {type : CType}
    {signature : Signature} (h : type.isWellNamed)
    (hs : decls.functionPointer type = some signature) :
    (CType.function signature).isWellNamed := by
  have hwithin : ∀ bound (type : CType), type.isWellNamed →
      decls.functionPointerWithin bound type = some signature →
        (CType.function signature).isWellNamed := by
    intro bound
    induction bound with
    | zero => exact fun type _ hs => by cases hs
    | succ bound ih =>
        intro type h hs
        cases type with
        | named name =>
            rw [functionPointerWithin] at hs
            rcases Option.bind_eq_some_iff.1 hs with ⟨underlying, hu, hw⟩
            exact ih underlying (hregular.typedefType _ (Table.mem_of_get? hu)) hw
        | pointer pointee isConst =>
            cases pointee with
            | function other =>
                rw [functionPointerWithin] at hs
                rw [CType.isWellNamed] at h
                exact Option.some.inj hs ▸ h
            | _ => cases hs
        | function other =>
            rw [functionPointerWithin] at hs
            exact Option.some.inj hs ▸ h
        | _ => cases hs
  exact hwithin _ _ h hs

/-- The types with the spelling of a record are that record. -/
theorem Regular.bindable?_of_spelling (hregular : decls.Regular) {key : String} {record : Record}
    (hr : decls.records.get? key = some record) {type : CType} (h : type.isWellNamed)
    (hs : type.spelling = key) : decls.bindable? type = some (key, record) := by
  rcases hregular.recordName _ (Table.mem_of_get? hr) with hn | ⟨kind, tag, ht, he⟩
  · have hnamed : (CType.named key).spelling = key := by rw [CType.spelling, CType.spell]
    have hw : (CType.named key).isWellNamed := hn
    cases alike_of_spelling h hw (hs.trans hnamed.symm) with
    | same => rw [bindable?, hr, Option.map_some]
  · have hw : (CType.tagged kind tag).isWellNamed := ht
    cases alike_of_spelling h hw (hs.trans he) with
    | same => rw [bindable?, hs, hr, Option.map_some]

theorem Regular.fits {library : Library} (hregular : library.decls.Regular) (rank : String → Nat)
    {key : String} {record : Record} {field : Field}
    (hr : library.decls.records.get? key = some record) (hf : field ∈ record.flattened) :
    field.Fits library rank where
  type := hregular.memberType _ (Table.mem_of_get? hr) field hf
  name := hregular.memberName _ (Table.mem_of_get? hr) field hf
  chase := chase_member rank hr hf
  values := fun _ hs type ht =>
    ⟨Signature.isWellNamed_of_mem (hregular.isWellNamed_signature
      (hregular.memberType _ (Table.mem_of_get? hr) field hf) hs) type ht,
        chase_value rank hr hf hs ht⟩

end Declarations

theorem Field.isConverted_of {decls : Declarations} (field : Field) (hn : ¬ field.name = "")
    (hf : decls.functionPointer field.type = none)
    (ha : ∀ element, field.type ≠ .array element 0) : field.isConverted decls := by
  rw [Field.isConverted, hf]
  split
  · next element length ht =>
      have hz : length ≠ 0 := fun hz => ha element (by rw [ht, hz])
      simp [hn, hz]
  · simp [hn]

/-- A value that is not registered has a way to C. -/
theorem exists_ofConversion {conversion : Conversion} (field : Field) (typeName : String)
    (h : conversion.inward ≠ .register) :
    ∃ access, Access.ofConversion field typeName conversion = .ok access := by
  unfold Access.ofConversion Conversion.inward?
  cases hi : conversion.inward with
  | apply converter => exact ⟨_, rfl⟩
  | register => exact absurd hi h

theorem exists_ofArray {conversion : Conversion} (field : Field) (element : CType) (length : Nat)
    (h : conversion.inward ≠ .register) :
    ∃ access, Access.ofArray field element length conversion = .ok access := by
  unfold Access.ofArray Conversion.inward?
  cases hi : conversion.inward with
  | apply converter => exact ⟨_, rfl⟩
  | register => exact absurd hi h

theorem Session.Sound.not_seeded {library : Library} {session : Session} (h : session.Sound library)
    {key : String} (hk : session.registry.get? key = none) :
    ¬ (Registry.seeded library.naming).contains key := by
  intro hc
  have hcontains := h.seeded key hc
  rw [Table.contains, hk] at hcontains
  exact absurd hcontains Bool.false_ne_true

theorem Session.Settled.exempting {session : Session} (h : session.Settled []) (key : String) :
    session.Settled [key] :=
  fun other ho => (h other ho).imp_right (Or.imp_right fun he => by cases he.1)

/-- A record that is settled or being bound needs no exemption. -/
theorem Session.Settled.of_exempt {session : Session} {key : String} (h : session.Settled [key])
    (hk : session.structs.contains key ∨ key ∈ session.inProgress) : session.Settled [] := by
  intro other ho
  rcases h other ho with hc | hp | ⟨he, -⟩
  · exact Or.inl hc
  · exact Or.inr (Or.inl hp)
  · rw [List.mem_singleton.1 he]
    exact hk.imp_right Or.inl

/-- A record that may be bound for the last time is being bound. -/
theorem Session.Settled.enter {session : Session} {key : String} (h : session.Settled [key])
    (hk : key ∉ session.inProgress) : (session.enter key).Settled [] := by
  intro other ho
  rw [Session.inProgress_enter hk]
  rcases h other ho with hc | hi | ⟨he, -⟩
  · exact Or.inl hc
  · exact Or.inr (Or.inl (List.mem_append_left _ hi))
  · exact Or.inr (Or.inl (List.mem_append_right _ he))

/-- A record is bound for the last time when nothing else is being bound. -/
theorem Session.Settled.inProgress_eq_nil {session : Session} {key : String}
    (h : session.Settled [key]) (hlast : key ∈ session.retried)
    (hn : session.structs.get? key = none) (hk : key ∉ session.inProgress) :
    session.inProgress = [] := by
  rcases h key hlast with hc | hi | ⟨-, hempty⟩
  · rw [Table.contains, hn] at hc
    exact absurd hc Bool.false_ne_true
  · exact absurd hi hk
  · exact hempty

/-- What was put off may be bound for the last time then. -/
theorem Session.Settled.takeDeferred {session : Session} (h : session.Settled [])
    (hp : session.inProgress = []) (key : String) : (session.takeDeferred key).Settled [key] := by
  intro other ho
  rcases List.mem_append.1 (ho : other ∈ session.retried ++ [key]) with ho | ho
  · exact (h other ho).imp_right (Or.imp_right fun he => by cases he.1)
  · exact Or.inr (Or.inr ⟨ho, hp⟩)

end ScriptBind
