import ScriptBind.Proofs.Division
import ScriptBind.Proofs.VisitedRecords

/-!
# Sessions in Which Nothing Is Left Out

Whatever is bound, and whatever fails meanwhile, no record is visited that is not reached
from the types that were asked for, and none is left out. When a type has been resolved,
with or without an answer, all records that it visits have been begun; and when a record
has an outcome, the same is true of its members, up to the first that has no conversion.

What becomes of steady callbacks is kept track of in the same way. What is remembered
under the name of one is what its type says, so it is kept or left out in every record
alike.

This is an invariant of the session, and each change that binding makes to a session keeps
it, if what the change is about has been visited before.

## Main definitions

* `Session.HasVisited`: A type has been followed to all records that it visits.
* `Record.DividesInto`: Members kept and left out as steady callbacks have it.
* `Library.Encloses`: Records that binding does not lead out of.
* `Session.Thorough`: Nothing has been left out, and nothing has been added.
* `Session.Explores`: A later session of which this is true.
* `MemberOutcome.IsFair`: What becomes of a member, as steady callbacks have it.

## Theorems

* `thorough_start`: It is true where nothing has been bound.
* `Thorough.addConversion`, `Thorough.shareWithAlias`: Conversions are added.
* `Thorough.settle`, `Thorough.addRecord`: A record is settled, and is known as a type.
* `Thorough.settleFailed`, `Thorough.await`: Callbacks have failed, or are to be written.
-/

namespace ScriptBind

open BindM

/-- Whether a callback cannot be marshaled. -/
def CallbackState.hasFailed : CallbackState → Bool
  | .failed _ => true
  | _ => false

/-- All records that a type visits have been begun. -/
def Session.HasVisited (library : Library) (session : Session) (type : CType) : Prop :=
  ∀ key, library.Visits type key → key ∈ session.begun

/-- The values of a callback have been looked at, if any are. -/
def Session.HasLookedAt (library : Library) (session : Session) (demand : Demand) : Prop :=
  demand.IsAdmitted library → ∀ type, ComesUp (Convertible library) demand.signature.checked type →
    session.HasVisited library type

/-- The types that a member needs have been followed, as far as steady callbacks count. -/
def Session.HasFollowed (library : Library) (session : Session) (key : String) (record : Record)
    (field : Field) : Prop :=
  ∀ type, field.Needs library (Demand.IsSteady library) key record type →
    session.HasVisited library type

/-- A member that is a steady callback is kept if it passes. -/
def Field.IsKept (library : Library) (key : String) (record : Record) (field : Field) : Prop :=
  ∀ signature, library.decls.functionPointer field.type = some signature →
    (Demand.ofMember key record field signature).IsSteady library →
    (Demand.ofMember key record field signature).Passes library

/-- A member that is left out is a callback, and if it is a steady one it does not pass. -/
def Field.IsDropped (library : Library) (key : String) (record : Record) (field : Field) : Prop :=
  ∃ signature, library.decls.functionPointer field.type = some signature ∧
    ((Demand.ofMember key record field signature).IsSteady library →
      ¬(Demand.ofMember key record field signature).Passes library)

/-- The members of a record, those kept and those left out, as steady callbacks have
    it. -/
structure Record.DividesInto (library : Library) (key : String) (record : Record)
    (kept dropped : List Field) : Prop where
  /-- They are the members that are bound with the record, in order. -/
  divides : Divides (record.flattened.filter Field.isBound) kept dropped
  /-- Those that are kept. -/
  kept : ∀ field ∈ kept, field.IsKept library key record
  /-- Those that are left out. -/
  dropped : ∀ field ∈ dropped, field.IsDropped library key record

/-- Records that binding does not lead out of, whatever the callbacks among their
    members. -/
def Library.Encloses (library : Library) (reached : String → Prop) : Prop :=
  ∀ {key other record field type}, reached key → library.decls.records.get? key = some record →
    ComesUp (Field.Converts library []) record.flattened field →
    field.Needs library (fun _ => True) key record type → library.Visits type other → reached other

/-- Nothing that had to be visited has been left out, and only records have been begun
    that are reached. -/
structure Session.Thorough (library : Library) (reached : String → Prop) (session : Session) :
    Prop where
  /-- A type that has a conversion has been followed. -/
  registered : ∀ type : CType, type.isWellNamed → session.registry.contains type.spelling →
    session.HasVisited library type
  /-- A record that is settled, being bound or put off has been begun. -/
  begun : ∀ key, session.structs.contains key ∨ key ∈ session.inProgress ∨
    session.deferred.contains key → key ∈ session.begun
  /-- A record that has been begun is declared and reached. -/
  within : ∀ key ∈ session.begun, key ∈ library.decls.records.names ∧ reached key
  /-- The members of a settled record have been followed. -/
  settled : ∀ key record, library.decls.records.get? key = some record →
    session.structs.contains key → ∀ field,
    ComesUp (Field.Converts library []) record.flattened field →
    session.HasFollowed library key record field
  /-- A bound record is divided as steady callbacks have it. -/
  done : ∀ key bound, session.structs.get? key = some (.done bound) →
    ∃ record kept dropped, library.decls.records.get? key = some record ∧
      record.DividesInto library key kept dropped ∧
      bound = ⟨bareTag key, key, kept.map Field.name, dropped.map Field.name⟩
  /-- Callbacks go by their names. -/
  named : ∀ id callback, session.callbacks.get? id = some (.pending callback) ∨
    session.callbacks.get? id = some (.emitted callback) → callback.name = id
  /-- What is remembered of a steady callback is right. -/
  marshaled : ∀ demand state, library.HasCallback demand → demand.IsSteady library →
    session.callbacks.get? demand.id = some state →
    (state.hasFailed = false ↔ demand.Passes library) ∧ session.HasLookedAt library demand

/-- A later session in which nothing has been left out either. -/
structure Session.Explores (library : Library) (reached : String → Prop)
    (session session' : Session) : Prop where
  /-- Nothing has been left out. -/
  thorough : session'.Thorough library reached
  /-- What was begun stays so. -/
  begun : ∀ key ∈ session.begun, key ∈ session'.begun

/-- What becomes of a member, as steady callbacks have it. -/
def MemberOutcome.IsFair (library : Library) (key : String) (record : Record) (field : Field) :
    MemberOutcome → Prop
  | .reached access =>
    field.IsKept library key record ∧ ∀ callback, access.callback? = some callback →
    ∃ signature, library.decls.functionPointer field.type = some signature ∧ field.name ≠ "" ∧
      callback.name = (Demand.ofMember key record field signature).id
  | .dropped _ _ => field.IsDropped library key record

namespace Session

variable {library : Library} {reached : String → Prop} {session session' session'' : Session}

theorem HasVisited.mono {type : CType} (h : session.HasVisited library type)
    (hb : ∀ key ∈ session.begun, key ∈ session'.begun) : session'.HasVisited library type :=
  fun key hk => hb key (h key hk)

theorem HasLookedAt.mono {demand : Demand} (h : session.HasLookedAt library demand)
    (hb : ∀ key ∈ session.begun, key ∈ session'.begun) : session'.HasLookedAt library demand :=
  fun ha type ht => (h ha type ht).mono hb

theorem HasFollowed.mono {key : String} {record : Record} {field : Field}
    (h : session.HasFollowed library key record field)
    (hb : ∀ key ∈ session.begun, key ∈ session'.begun) :
    session'.HasFollowed library key record field :=
  fun type ht => (h type ht).mono hb

theorem Explores.refl (h : session.Thorough library reached) :
    session.Explores library reached session := ⟨h, fun _ hk => hk⟩

theorem Explores.trans (h : session.Explores library reached session')
    (h' : session'.Explores library reached session'') :
    session.Explores library reached session'' :=
  ⟨h'.thorough, fun key hk => h'.begun key (h.begun key hk)⟩

/-- What is being bound is declared. -/
theorem Thorough.mem_names (h : session.Thorough library reached) {key : String}
    (hk : key ∈ session.inProgress) : key ∈ library.decls.records.names :=
  (h.within key (h.begun key (.inr (.inl hk)))).1

theorem thorough_start (library : Library) (reached : String → Prop) :
    (start library.naming).Thorough library reached where
  registered := by
    intro type _ hc key hv
    rw [start_registry] at hc
    cases hc.symm.trans hv.not_seeded
  begun := by
    rintro key (hc | hp | hd)
    · cases hc
    · cases hp
    · cases hd
  within := fun _ hk => by cases hk
  settled := fun _ _ _ hc => by cases hc
  done := fun _ _ hd => by cases hd
  named := by
    rintro id callback (h | h)
    · cases h
    · cases h
  marshaled := fun _ _ _ _ h => by cases h

/-- A change of what is being bound, of what is put off and of the history. -/
theorem Thorough.of_begun (h : session.Thorough library reached)
    (hr : session'.registry = session.registry) (hs : session'.structs = session.structs)
    (hc : session'.callbacks = session.callbacks)
    (hb : ∀ key ∈ session.begun, key ∈ session'.begun)
    (hk : ∀ key, key ∈ session'.inProgress ∨ session'.deferred.contains key → key ∈ session'.begun)
    (hw : ∀ key ∈ session'.begun, key ∈ library.decls.records.names ∧ reached key) :
    session'.Thorough library reached where
  registered := fun type ht hc' => (h.registered type ht (hr ▸ hc')).mono hb
  begun := by
    rintro key (hc' | hp)
    · exact hb key (h.begun key (.inl (hs ▸ hc')))
    · exact hk key hp
  within := hw
  settled := fun key record hrecord hc' field hf =>
    (h.settled key record hrecord (hs ▸ hc') field hf).mono hb
  done := hs ▸ h.done
  named := hc ▸ h.named
  marshaled := by
    intro demand state hd hsteady hstate
    rw [hc] at hstate
    exact (h.marshaled demand state hd hsteady hstate).imp_right fun hl => hl.mono hb

/-- A change of other things. -/
theorem Thorough.congr (h : session.Thorough library reached)
    (hr : session'.registry = session.registry) (hs : session'.structs = session.structs)
    (hc : session'.callbacks = session.callbacks) (hb : session'.begun = session.begun)
    (hp : ∀ key ∈ session'.inProgress, key ∈ session.inProgress)
    (hd : ∀ key, session'.deferred.contains key → session.deferred.contains key) :
    session'.Thorough library reached := by
  refine h.of_begun hr hs hc (fun _ hk => hb ▸ hk) (fun key hk => hb ▸ ?_) (hb ▸ h.within)
  exact h.begun key (.inr (hk.imp (hp key) (hd key)))

/-- One more record is being bound. -/
theorem Thorough.enter (h : session.Thorough library reached) {key : String}
    (hk : key ∈ library.decls.records.names) (hr : reached key) :
    session.Explores library reached (session.enter key) := by
  have hb : ∀ other ∈ session.begun, other ∈ (session.enter key).begun :=
    fun other ho => List.mem_append_left _ ho
  refine ⟨h.of_begun rfl rfl rfl hb (fun other ho => ?_) fun other ho => ?_, hb⟩
  · rcases ho with hp | hd
    · rcases mem_addName.1 hp with hp | rfl
      · exact hb other (h.begun other (.inr (.inl hp)))
      · exact List.mem_append_right _ (List.mem_singleton_self _)
    · exact hb other (h.begun other (.inr (.inr hd)))
  · rcases List.mem_append.1 ho with ho | ho
    · exact h.within other ho
    · obtain rfl := List.mem_singleton.1 ho
      exact ⟨hk, hr⟩

/-- One more conversion, for types that have been followed. -/
theorem Thorough.addConversion (h : session.Thorough library reached) {key : String}
    {conversion : Conversion}
    (hv : ∀ type : CType, type.isWellNamed → type.spelling = key →
      session.HasVisited library type) :
    (session.addConversion key conversion).Thorough library reached :=
  { h with
    registered := by
      intro type ht hc
      rw [Session.addConversion, Table.contains_add, Bool.or_eq_true, decide_eq_true_eq] at hc
      exact hc.elim (h.registered type ht) fun he => hv type ht he.symm }

/-- One more conversion, for a type that has been followed. -/
theorem Thorough.learn (h : session.Thorough library reached) {type : CType}
    (hw : type.isWellNamed) (hv : session.HasVisited library type) (conversion : Conversion) :
    (session.addConversion type.spelling conversion).Thorough library reached :=
  h.addConversion fun _ ho hs key hk => hv key (hk.of_spelling ho hw hs)

end Session

/-- What a type is a pointer to if it is spelled like a pointer to a type with a name of
    its own. -/
theorem exists_pointee_of_star {type inner : CType} (hw : type.isWellNamed)
    (hi : inner.isWellNamed) (hp : inner.isPointer = false)
    (hs : type.spelling = inner.spelling ++ " *") :
    ∃ pointee isConst, type = .pointer pointee isConst ∧ pointee.isWellNamed ∧
      pointee.spelling = inner.spelling := by
  have hstar : endsWithStar type.spelling := hs ▸ endsWithStar_append inner.spelling
  obtain ⟨pointee, isConst, rfl⟩ := exists_pointee hw hstar
  have hend := ending_of_endsWithStar hw hstar
  have hf : pointee.isFunction = false := by
    cases pointee with
    | function signature => exact absurd hend (by simp [CType.ending, CType.isFunction])
    | _ => rfl
  have hinner : endsWithStar inner.spelling = false := by
    refine Bool.eq_false_iff.2 fun hends => ?_
    obtain ⟨other, isConst', rfl⟩ := exists_pointee hi hends
    cases hp
  rw [CType.isWellNamed] at hw
  exact ⟨pointee, isConst, rfl, hw, spelling_of_star hf hinner hs⟩

/-- A declared record is spelled like a type that names it. -/
theorem Declarations.Regular.exists_bindable {decls : Declarations} (hregular : decls.Regular)
    {key : String} {record : Record} (hr : decls.records.get? key = some record) :
    ∃ type : CType, type.isWellNamed ∧ type.isPointer = false ∧ type.spelling = key := by
  rcases hregular.recordName _ (Table.mem_of_get? hr) with hn | ⟨kind, tag, ht, he⟩
  · exact ⟨.named key, hn, rfl, by rw [CType.spelling, CType.spell]⟩
  · exact ⟨.tagged kind tag, ht, rfl, he.symm⟩

namespace Session

variable {library : Library} {reached : String → Prop} {session session' : Session}

/-- A typedef that has been followed takes over what is known of its type. -/
theorem Thorough.shareWithAlias (h : session.Thorough library reached) {name : String}
    (hw : (CType.named name).isWellNamed) (hr : library.decls.records.get? name = none)
    (hv : session.HasVisited library (.named name)) (underlying : String) :
    (session.shareWithAlias name underlying).Thorough library reached := by
  obtain ⟨aliases, -, he | ⟨conversion, -, he⟩⟩ := session.shareWithAlias_cases name underlying
  · rw [he]
    exact h.congr rfl rfl rfl rfl (fun _ hk => hk) fun _ hk => hk
  · have hspelling : (CType.named name).spelling = name := by rw [CType.spelling, CType.spell]
    have hb : library.decls.bindable? (.named name) = none := by
      rw [Declarations.bindable?, hr, Option.map_none]
    have hp : (session.addConversion (name ++ " *") conversion).Thorough library reached := by
      refine h.addConversion fun type ht hs key hk => ?_
      rw [← hspelling] at hs
      obtain ⟨pointee, isConst, rfl, hwp, hpointee⟩ := exists_pointee_of_star ht hw rfl hs
      -- Only the typedef itself has its name.
      cases alike_of_spelling hwp hw hpointee with
      | same =>
          cases hk with
          | record _ hb' => cases hb'
          | pointer _ hb' => cases hb.symm.trans hb'
          | typedefPointer _ _ hn => exact hv key hn
    rw [he]
    exact hp.congr rfl rfl rfl rfl (fun _ hk => hk) fun _ hk => hk

/-- The failure of a callback is remembered. -/
theorem Thorough.settleFailed (h : session.Thorough library reached) {demand : Demand}
    (hd : library.HasCallback demand) (error : BindError)
    (hn : demand.IsSteady library → ¬demand.Passes library ∧ session.HasLookedAt library demand) :
    (session.settleCallback demand.id (.failed error)).Thorough library reached :=
  { h with
    named := by
      intro id callback hc
      rw [settleCallback, Table.get?_set] at hc
      split at hc
      · rcases hc with hc | hc
        · cases hc
        · cases hc
      · exact h.named id callback hc
    marshaled := by
      intro other state ho hsteady hstate
      rw [settleCallback, Table.get?_set] at hstate
      split at hstate
      · next hid =>
          obtain rfl := hsteady.alone demand hd hid
          obtain ⟨hfails, hlooked⟩ := hn hsteady
          rw [← Option.some.inj hstate]
          exact ⟨iff_of_false Bool.noConfusion hfails, hlooked⟩
      · exact h.marshaled other state ho hsteady hstate }

/-- One more record is settled, its members having been followed. -/
theorem Thorough.settle (h : session.Thorough library reached) {key : String} {record : Record}
    (hr : library.decls.records.get? key = some record) (hk : key ∈ session.begun)
    (hf : ∀ field, ComesUp (Field.Converts library []) record.flattened field →
      session.HasFollowed library key record field) {outcome : StructOutcome}
    (ho : ∀ bound, outcome = .done bound → ∃ kept dropped,
      record.DividesInto library key kept dropped ∧
      bound = ⟨bareTag key, key, kept.map Field.name, dropped.map Field.name⟩) :
    (session.settleStruct key outcome).Thorough library reached :=
  { h with
    begun := by
      rintro other (hc | hrest)
      · rw [settleStruct, Table.contains_set, Bool.or_eq_true, decide_eq_true_eq] at hc
        rcases hc with rfl | hc
        · exact hk
        · exact h.begun other (.inl hc)
      · exact h.begun other (.inr hrest)
    settled := by
      intro other record' hr' hc
      rw [settleStruct, Table.contains_set, Bool.or_eq_true, decide_eq_true_eq] at hc
      rcases hc with rfl | hc
      · obtain rfl := Option.some.inj (hr.symm.trans hr')
        exact hf
      · exact h.settled other record' hr' hc
    done := by
      intro other bound hd
      rw [settleStruct, Table.get?_set] at hd
      split at hd
      · next he =>
          obtain ⟨kept, dropped, hdivides, hbound⟩ := ho bound (Option.some.inj hd)
          exact he ▸ ⟨record, kept, dropped, hr, hdivides, hbound⟩
      · exact h.done other bound hd }

/-- The record's own types are known, and they have been followed to it. -/
theorem Thorough.addRecord (h : session.Thorough library reached) (hregular : library.decls.Regular)
    {key : String} {record : Record} (hr : library.decls.records.get? key = some record)
    (hk : key ∈ session.begun) (conversion pointers : Conversion) :
    ((session.addConversion key conversion).addConversion (key ++ " *") pointers).Thorough library
      reached := by
  have hown : (session.addConversion key conversion).Thorough library reached :=
    h.addConversion fun type ht hs other ho =>
      ho.eq_of_bindable? hregular (hregular.bindable?_of_spelling hr ht hs) ▸ hk
  refine hown.addConversion fun type ht hs other ho => ?_
  obtain ⟨inner, hi, hp, hspelling⟩ := hregular.exists_bindable hr
  rw [← hspelling] at hs
  obtain ⟨pointee, isConst, rfl, hwp, hpointee⟩ := exists_pointee_of_star ht hi hp hs
  have hb := hregular.bindable?_of_spelling hr hwp (hpointee.trans hspelling)
  cases ho with
  | record _ hb' => cases hb'
  | pointer _ hb' => exact (Prod.mk.inj (Option.some.inj (hb.symm.trans hb'))).1 ▸ hk
  | typedefPointer _ _ hn => exact hn.eq_of_bindable? hregular hb ▸ hk

/-- The callbacks of a record wait for their trampolines. -/
theorem Thorough.await (h : session.Thorough library reached) {awaited : List Callback}
    (ha : ∀ callback ∈ awaited, ∃ demand, library.HasCallback demand ∧ callback.name = demand.id ∧
      (demand.IsSteady library → demand.Passes library ∧ session.HasLookedAt library demand)) :
    ({ session with callbacks := awaitAll session.callbacks awaited } : Session).Thorough library
      reached := by
  -- What is new under a name is one of the callbacks.
  have hnew : ∀ id state, (awaitAll session.callbacks awaited).get? id = some state →
      session.callbacks.get? id = some state ∨
        ∃ callback ∈ awaited, callback.name = id ∧ state = .pending callback := by
    intro id state hs
    cases hold : session.callbacks.get? id with
    | some other =>
        rw [get?_awaitAll_of_some hold] at hs
        exact .inl hs
    | none =>
        rw [get?_awaitAll_of_none hold] at hs
        obtain ⟨callback, hc, rfl⟩ := Option.map_eq_some_iff.1 hs
        exact .inr ⟨callback, List.mem_of_find?_eq_some hc, by simpa using List.find?_some hc, rfl⟩
  exact
    { h with
      named := by
        intro id callback hc
        rcases hc with hc | hc
        · rcases hnew id _ hc with hold | ⟨other, -, hname, he⟩
          · exact h.named id callback (.inl hold)
          · rw [CallbackState.pending.inj he]
            exact hname
        · rcases hnew id _ hc with hold | ⟨other, -, -, he⟩
          · exact h.named id callback (.inr hold)
          · cases he
      marshaled := by
        intro demand state hd hsteady hs
        rcases hnew demand.id state hs with hold | ⟨callback, hc, hname, rfl⟩
        · exact h.marshaled demand state hd hsteady hold
        · obtain ⟨other, ho, hid, hverdict⟩ := ha callback hc
          obtain rfl := hsteady.alone other ho (hid.symm.trans hname)
          obtain ⟨hpasses, hlooked⟩ := hverdict hsteady
          exact ⟨iff_of_true rfl hpasses, hlooked⟩ }

end Session

end ScriptBind
