import Mathlib.Data.List.Forall2
import ScriptBind.Proofs.SharedNames
import ScriptBind.Proofs.SourcedSessions

/-!
# The Ways to Members

What becomes of a member when a record is bound is in the outcome of the member:
the way on which a script reaches it, or the diagnostic that says why it is left
out. The way is by a value, by an array that is copied, or by a callback that is
registered, and it is the type of the member that decides which of them, whatever
the session. A value and an array are loaded and stored by the two directions of
one conversion, so there is no way that leads in one direction only.

Which conversion this is depends on the session, and so does the callback. They
are left open here as something that is known of the one or the other, and are
made out afterwards, from the code that has been written.

Members without a name and arrays without length are passed by. All others have
one outcome each, in their order, and only a callback can be left out.

## Main definitions

* `Divides`: A list is divided into two, in order.
* `Field.isBound`: The members that are bound with a record.
* `Access.LeadsTo`: The way to a member.
* `Field.IsLeftOut`: A member that is left out.
* `MemberOutcome.IsOf`, `BoundMembers.IsOf`: What becomes of members.

## Theorems

* `Divides.unique`: If the sides can be told apart, a list is divided in one way.
* `LeadsTo.sourced`: What is known of the conversion, if the way is sourced.
* `MemberOutcome.divides`: Members are divided by what becomes of them.
* `bindMembers_areOf`, `bindRecord_isOf`: What becomes of the members of a record,
  in order.
-/

namespace ScriptBind

open BindM

/-- A list is divided into two: each item is in one of them, and each of them is
    in the order of the list. -/
inductive Divides {α : Type} : List α → List α → List α → Prop where
  /-- Nothing is divided. -/
  | nil : Divides [] [] []
  /-- An item goes to the first. -/
  | left {item : α} {items front back : List α} :
      Divides items front back → Divides (item :: items) (item :: front) back
  /-- An item goes to the second. -/
  | right {item : α} {items front back : List α} :
      Divides items front back → Divides (item :: items) front (item :: back)

/-- A member is bound with its record: it has a name, and is no array without
    length. -/
def Field.isBound (field : Field) : Bool :=
  field.name != "" && match field.type with
    | .array _ length => length != 0
    | _ => true

/-- The spelling that the type of a member is converted by. -/
def Field.typeName (owner : String) (field : Field) : String :=
  match field.type with
  | .anonymous _ => memberTypeName owner field.name
  | type => type.spelling

/-- The way to a member. It is loaded and stored by the two directions of one
    conversion, or by one callback in its slot; something is known of either. -/
inductive Access.LeadsTo (library : Library) (owner : String) (isKnown : Conversion → Prop)
    (isMade : Callback → Prop) (field : Field) : Access → Prop where
  /-- A value. It is shown in its place if that is possible. -/
  | value {conversion : Conversion} {store : String} :
      library.decls.functionPointer field.type = none → isKnown conversion →
      conversion.inward = .apply store →
      LeadsTo library owner isKnown isMade field
        (.value field.name (field.typeName owner) field.type.isPointer store
          (conversion.byReference.getD conversion.outward))
  /-- An array, copied as a whole. -/
  | array {element : CType} {length : Nat} {conversion : Conversion} {store : String} :
      field.type = .array element length → isKnown conversion → conversion.inward = .apply store →
      LeadsTo library owner isKnown isMade field
        (.array field.name field.type.spelling element.qualified length store conversion.outward)
  /-- A callback, registered in the slot that it has in the record itself. -/
  | callback {signature : Signature} {callback : Callback} :
      library.decls.functionPointer field.type = some signature → isMade callback →
      LeadsTo library owner isKnown isMade field
        (.callback field.name field.type.spelling callback
          (callback.slot library.naming.userData "data"))

/-- A member is left out: it is a callback, and a diagnostic names it. -/
structure Field.IsLeftOut (library : Library) (owner : String) (field : Field)
    (diagnostic : Diagnostic) : Prop where
  /-- It is a callback. -/
  isCallback : (library.decls.functionPointer field.type).isSome
  /-- The diagnostic is the one for the member. -/
  diagnostic : ∃ error, diagnostic = memberDiagnostic owner field error

/-- What becomes of a member. -/
def MemberOutcome.IsOf (library : Library) (owner : String) (field : Field) : MemberOutcome → Prop
  | .reached access => access.LeadsTo library owner (fun _ => True) (fun _ => True) field
  | .dropped name diagnostic => name = field.name ∧ field.IsLeftOut library owner diagnostic

/-- What becomes of some members: each that is bound has one outcome, in order. -/
def MemberOutcome.AreOf (library : Library) (owner : String) (fields : List Field)
    (outcomes : List MemberOutcome) : Prop :=
  List.Forall₂ (fun field outcome => outcome.IsOf library owner field)
    (fields.filter Field.isBound) outcomes

/-- What became of the members is what becomes of those of a record. -/
structure BoundMembers.IsOf (library : Library) (record : Record) (members : BoundMembers) :
    Prop where
  /-- They are named after the record. -/
  name : members.name = bareTag members.key
  /-- Their outcomes are those of the record's members. -/
  outcomes : MemberOutcome.AreOf library members.name record.flattened members.outcomes

variable {library : Library} {scope : Scope library} {owner : String} {field : Field}

/-- Whatever is divided is on one of the sides. -/
theorem Divides.mem_iff {α : Type} {items front back : List α} (h : Divides items front back)
    {item : α} : item ∈ items ↔ item ∈ front ∨ item ∈ back := by
  induction h with
  | nil => simp
  | left _ ih => rw [List.mem_cons, List.mem_cons, ih, or_assoc]
  | right _ ih => rw [List.mem_cons, List.mem_cons, ih, or_left_comm]

/-- If the sides can be told apart, a list is divided in one way only. -/
theorem Divides.unique {α : Type} {P : α → Prop} {items front back front' back' : List α}
    (h : Divides items front back) (h' : Divides items front' back')
    (hfront : ∀ item ∈ front, P item) (hback : ∀ item ∈ back, ¬P item)
    (hfront' : ∀ item ∈ front', P item) (hback' : ∀ item ∈ back', ¬P item) :
    front = front' ∧ back = back' := by
  induction h generalizing front' back' with
  | nil =>
      cases h'
      exact ⟨rfl, rfl⟩
  | left h ih =>
      obtain ⟨hitem, hfront⟩ := List.forall_mem_cons.1 hfront
      cases h' with
      | left h' =>
          obtain ⟨rfl, rfl⟩ := ih h' hfront hback (List.forall_mem_cons.1 hfront').2 hback'
          exact ⟨rfl, rfl⟩
      | right => exact absurd hitem (List.forall_mem_cons.1 hback').1
  | right h ih =>
      obtain ⟨hitem, hback⟩ := List.forall_mem_cons.1 hback
      cases h' with
      | left => exact absurd (List.forall_mem_cons.1 hfront').1 hitem
      | right h' =>
          obtain ⟨rfl, rfl⟩ := ih h' hfront hback hfront' (List.forall_mem_cons.1 hback').2
          exact ⟨rfl, rfl⟩

theorem Field.isBound_iff :
    field.isBound ↔ field.name ≠ "" ∧ ∀ element, field.type ≠ .array element 0 := by
  rw [isBound, Bool.and_eq_true, bne_iff_ne]
  refine and_congr_right fun _ => ?_
  split
  · next element length ht =>
      rw [bne_iff_ne, ht]
      exact ⟨fun hl other he => hl (CType.array.inj he).2, fun h hl => h element (by rw [hl])⟩
  · next harray => exact iff_of_true rfl fun element he => harray _ _ he

theorem MemberOutcome.areOf_none (hb : ¬field.isBound) : AreOf library owner [field] [] := by
  rw [AreOf, List.filter_cons_of_neg hb]
  exact .nil

theorem MemberOutcome.areOf_some (hb : field.isBound) {outcome : MemberOutcome}
    (ho : outcome.IsOf library owner field) : AreOf library owner [field] [outcome] := by
  rw [AreOf, List.filter_cons_of_pos hb]
  exact .cons ho .nil

/-- A conversion that leads to C by a function. -/
theorem Conversion.inward?_eq_some {conversion : Conversion} {store : String} :
    conversion.inward? = some store ↔ conversion.inward = .apply store := by
  rw [Conversion.inward?]
  cases conversion.inward with
  | apply converter =>
      exact ⟨fun h => by rw [Option.some.inj h], fun h => by rw [Inward.apply.inj h]⟩
  | register => exact ⟨fun h => (by cases h), fun h => (by cases h)⟩

theorem Access.ofConversion_eq_ok {typeName : String} {conversion : Conversion} {access : Access}
    (h : Access.ofConversion field typeName conversion = .ok access) :
    ∃ store, conversion.inward = .apply store ∧ access = .value field.name typeName
      field.type.isPointer store (conversion.byReference.getD conversion.outward) := by
  unfold Access.ofConversion at h
  split at h
  · next store hs => exact ⟨store, Conversion.inward?_eq_some.1 hs, (Except.ok.inj h).symm⟩
  · cases h

theorem Access.ofArray_eq_ok {element : CType} {length : Nat} {conversion : Conversion}
    {access : Access} (h : Access.ofArray field element length conversion = .ok access) :
    ∃ store, conversion.inward = .apply store ∧ access = .array field.name field.type.spelling
      element.qualified length store conversion.outward := by
  unfold Access.ofArray at h
  dsimp only at h
  split at h
  · next store hs => exact ⟨store, Conversion.inward?_eq_some.1 hs, (Except.ok.inj h).symm⟩
  · cases h

theorem Access.leadsTo_ofConversion {conversion : Conversion} {access : Access}
    (hf : library.decls.functionPointer field.type = none)
    (h : Access.ofConversion field (field.typeName owner) conversion = .ok access) :
    access.LeadsTo library owner (fun _ => True) (fun _ => True) field := by
  obtain ⟨store, hs, rfl⟩ := ofConversion_eq_ok h
  exact .value hf trivial hs

theorem Access.leadsTo_ofArray {element : CType} {length : Nat} {conversion : Conversion}
    {access : Access} (ht : field.type = .array element length)
    (h : Access.ofArray field element length conversion = .ok access) :
    access.LeadsTo library owner (fun _ => True) (fun _ => True) field := by
  obtain ⟨store, hs, rfl⟩ := ofArray_eq_ok h
  exact .array ht trivial hs

/-- If a way to a member is sourced, the conversion of its two directions is, and what is
    known of the callback in it is known of the member's. -/
theorem Access.LeadsTo.sourced {access : Access} {body : List Section} {isMade : Callback → Prop}
    (h : access.LeadsTo library owner (fun _ => True) (fun _ => True) field)
    (hs : access.Sourced scope body)
    (hm : ∀ callback, access.callback? = some callback → isMade callback) :
    access.LeadsTo library owner (Conversion.Sourced scope body) isMade field := by
  cases h with
  | callback hf _ => exact .callback hf (hm _ rfl)
  -- Only a conversion that gives an access of the same shape can be its source.
  | value hf _ _ =>
      rcases hs with hs | ⟨other, hother, ⟨_, _, ho⟩ | ⟨_, _, _, ho⟩⟩
      · cases hs
      · obtain ⟨store, hstore, he⟩ := ofConversion_eq_ok ho
        obtain ⟨-, -, -, rfl, hload⟩ := Access.value.inj he
        rw [hload]
        exact .value hf hother hstore
      · obtain ⟨_, -, he⟩ := ofArray_eq_ok ho
        cases he
  | array ht _ _ =>
      rcases hs with hs | ⟨other, hother, ⟨_, _, ho⟩ | ⟨_, _, _, ho⟩⟩
      · cases hs
      · obtain ⟨_, -, he⟩ := ofConversion_eq_ok ho
        cases he
      · obtain ⟨store, hstore, he⟩ := ofArray_eq_ok ho
        obtain ⟨-, -, -, -, rfl, hload⟩ := Access.array.inj he
        rw [hload]
        exact .array ht hother hstore

theorem Access.LeadsTo.field_eq {access : Access} {isKnown : Conversion → Prop}
    {isMade : Callback → Prop} (h : access.LeadsTo library owner isKnown isMade field) :
    access.field = field.name := by
  cases h <;> rfl

/-- Members are divided by what becomes of them. -/
theorem MemberOutcome.divides {fields : List Field} {outcomes : List MemberOutcome}
    (h : List.Forall₂ (fun field outcome => outcome.IsOf library owner field) fields outcomes) :
    ∃ kept dropped, Divides fields kept dropped ∧
      List.Forall₂ (fun field access => access.LeadsTo library owner (fun _ => True)
        (fun _ => True) field) kept (outcomes.filterMap access?) ∧
      (outcomes.filterMap dropped?).map Prod.fst = dropped.map Field.name ∧
      ∀ field ∈ dropped, ∃ row ∈ outcomes.filterMap dropped?,
        field.IsLeftOut library owner row.2 := by
  induction h with
  | nil => exact ⟨[], [], .nil, .nil, rfl, fun _ hf => by cases hf⟩
  | @cons field outcome fields outcomes ho _ ih =>
      obtain ⟨kept, dropped, hdivides, hkept, hnames, hleft⟩ := ih
      -- What becomes of the first member says on which side it comes first.
      cases outcome with
      | reached access =>
          exact ⟨field :: kept, dropped, .left hdivides, .cons ho hkept, hnames, hleft⟩
      | dropped name diagnostic =>
          obtain ⟨rfl, hdiagnostic⟩ := ho
          refine ⟨kept, field :: dropped, .right hdivides, hkept, ?_, fun other hother => ?_⟩
          · exact congrArg (List.cons field.name) hnames
          · rcases List.mem_cons.1 hother with rfl | hother
            · exact ⟨_, List.mem_cons_self .., hdiagnostic⟩
            · obtain ⟨row, hrow, hrest⟩ := hleft other hother
              exact ⟨row, List.mem_cons_of_mem _ hrow, hrest⟩

variable (binders : Binders) (key : String) (record : Record)

theorem bindCallback_isOf {signature : Signature}
    (hs : library.decls.functionPointer field.type = some signature) :
    Answers library (fun outcome => outcome.IsOf library owner field)
      (bindCallback binders owner key record field signature) := by
  rw [bindCallback]
  refine (Answers.any _).bind fun result _ => ?_
  cases result with
  | ok callback =>
      intro session
      rw [ensures_bind, ensures_look]
      refine ensures_pure.2 fun outcome ho => ?_
      rw [← Except.ok.inj ho]
      exact .callback hs trivial
  | error error => exact .pure ⟨rfl, by rw [hs]; rfl, error, rfl⟩

theorem bindNameless_leadsTo {inner : Record} (ht : field.type = .anonymous inner)
    (hf : library.decls.functionPointer field.type = none) (place : String) :
    Answers library (fun access => access.LeadsTo library owner (fun _ => True)
      (fun _ => True) field) (bindNameless binders owner key place field inner) := by
  have hname : field.typeName owner = memberTypeName owner field.name := by
    rw [Field.typeName, ht]
  rw [bindNameless, ← hname]
  refine (Answers.any _).bind fun _ _ => (Answers.any _).bind fun known _ => ?_
  cases known with
  | some conversion => exact .ofExcept fun access ha => Access.leadsTo_ofConversion hf ha
  | none => exact .fail _

/-- A member that is bound has one outcome, and another member has none. -/
theorem bindMember_areOf (field : Field) :
    Answers library (fun outcome => MemberOutcome.AreOf library owner [field] outcome.toList)
      (bindMember binders owner key record field) := by
  have hnone : ¬field.isBound →
      Answers library (fun outcome => MemberOutcome.AreOf library owner [field] outcome.toList)
        (pure none : BindM (Option MemberOutcome)) :=
    fun hb => .pure (MemberOutcome.areOf_none hb)
  have hreached : ∀ {action : BindM Access}, field.isBound →
      Answers library (fun access => access.LeadsTo library owner (fun _ => True)
        (fun _ => True) field) action →
      Answers library (fun outcome => MemberOutcome.AreOf library owner [field] outcome.toList)
        (do return some (.reached (← action))) :=
    fun hb ha => ha.bind fun _ ho => .pure (MemberOutcome.areOf_some hb ho)
  rw [bindMember]
  by_cases hne : field.name = ""
  · rw [if_pos hne]
    exact hnone fun hb => (Field.isBound_iff.1 hb).1 hne
  rw [if_neg hne]
  intro session
  rw [ensures_bind, ensures_look]
  dsimp only
  -- Which members are bound depends on names and arrays only, so it has to be said of
  -- each kind that it is told apart from those that are not.
  cases hs : library.decls.functionPointer field.type with
  | some signature =>
      have hb : field.isBound := Field.isBound_iff.2 ⟨hne, fun element he => by
        rw [he] at hs
        cases hs⟩
      dsimp only
      refine (bindCallback_isOf binders key record hs).bind (fun outcome ho => ?_) session
      exact .pure (MemberOutcome.areOf_some hb ho)
  | none =>
      dsimp only
      split
      · next inner ht =>
          have hb : field.isBound := Field.isBound_iff.2 ⟨hne, fun element he => by
            rw [he] at ht
            cases ht⟩
          exact hreached hb (bindNameless_leadsTo binders key ht hs _) session
      · next element length ht =>
          split
          · next hzero =>
              exact hnone (fun hb => (Field.isBound_iff.1 hb).2 element (by rw [ht, hzero])) session
          · next hzero =>
              have hb : field.isBound := Field.isBound_iff.2 ⟨hne, fun other he => by
                rw [ht] at he
                exact hzero (CType.array.inj he).2⟩
              refine (Answers.any _).bind (fun conversion _ => hreached hb ?_) session
              exact .ofExcept fun access ha => Access.leadsTo_ofArray ht ha
      · next hanonymous harray =>
          have hb : field.isBound := Field.isBound_iff.2 ⟨hne, fun _ he => harray _ _ he⟩
          have hname : field.typeName owner = field.type.spelling := by
            rw [Field.typeName]
            split
            · next he => exact absurd he (hanonymous _)
            · rfl
          refine (Answers.any _).bind (fun conversion _ => hreached hb ?_) session
          rw [← hname]
          exact .ofExcept fun access ha => Access.leadsTo_ofConversion hs ha

theorem bindMembers_areOf (fields : List Field) :
    Answers library (MemberOutcome.AreOf library owner fields)
      (bindMembers binders owner key record fields) := by
  induction fields with
  | nil => exact .pure .nil
  | cons field rest ih =>
      rw [bindMembers]
      refine (bindMember_areOf binders key record field).bind fun first hfirst => ?_
      refine ih.bind fun others hothers => .pure ?_
      -- The outcomes of the first member and of the others stand one after another.
      rw [← List.singleton_append, MemberOutcome.AreOf, List.filter_append]
      exact List.rel_append hfirst hothers

/-- Whatever the session, the members of a record are bound one by one. -/
theorem bindRecord_isOf :
    Answers library (fun members => members.key = key ∧ members.IsOf library record)
      (bindRecord binders key record) := by
  rw [bindRecord]
  exact (bindMembers_areOf binders key record record.flattened).bind fun outcomes ho =>
    .pure ⟨rfl, rfl, ho⟩

end ScriptBind
