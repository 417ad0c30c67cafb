import ScriptBind.Proofs.Refutations

/-!
# Records Are Bound if Their Members Can Be

One step of binding, given that the steps below come to what they should. A
member is bound unless it needs a conversion that its type does not have, and a
callback that cannot be marshaled fails nothing but itself. So the members of a
record are bound, or one of them is refuted, and with it the record.

A record that fails is put off or given up, and it is given up only if the
failure is final: either none of the records being bound was met, or the record
is bound for the last time, and then none is being bound but itself. When the
outermost record has been bound, those put off are bound once more.

That there are enough levels is shown along with it. Each of these computations
needs no more than the session has room for and, inside of a record, the stride
that the types of members keep within.

## Theorems

* `marshal_right`: A callback fails nothing but itself.
* `bindMember_right`, `bindMembers_right`: Members are bound or refuted.
* `bindFresh_right`: A record is bound, put off or given up.
* `retryDeferred_right`: The records put off are bound once more.
* `bindStep_right`: One step of binding a record.
-/

namespace ScriptBind

open BindM

variable {library : Library} {rank : String → Nat} {levels : Nat} {binders : Binders}

variable (h : binders.Right library rank levels)

include h

/-- What a callback passes and returns is looked at. -/
theorem checkValues_right {signature : Signature} {session : Session}
    (hv : ∀ type ∈ signature.types, type.isWellNamed ∧
      library.decls.chase rank type < library.decls.stride)
    (hs : session.Sound library) (hl : session.Settled []) :
    Ensures (levels < session.room library.extent + library.decls.stride) library
      (checkValues (binders.resolve 0) signature) session
      fun _ session' => session.Leads library session' := by
  have hresolve : ∀ type ∈ signature.types, ∀ session', session.Leads library session' →
      Ensures (levels < session.room library.extent + library.decls.stride) library
        (binders.resolve 0 type) session' fun _ session'' => session.Leads library session'' := by
    intro type ht session' hg
    have hroom := Session.room_of_grows library.extent hg.grows
    have hchase := (hv type ht).2
    refine ((h.resolve 0 type session' (hv type ht).1 hg.sound hg.settled).excuse fun he => ?_).mono
      fun _ _ hr => hg.trans hr.1
    omega
  have hparams : ∀ session', session.Leads library session' →
      Ensures (levels < session.room library.extent + library.decls.stride) library
        ((signature.params.filter (!·.isPointer)).forM fun param => do
          let _ ← binders.resolve 0 param) session'
        fun _ session'' => session.Leads library session'' := by
    intro session' hg
    refine Ensures.forM _ (fun param hp session'' hg' => ?_) hg
    have hm : param ∈ signature.types := List.mem_cons_of_mem _ (List.mem_filter.1 hp).1
    simp only [ensures_bind, ensures_pure]
    refine (hresolve param hm session'' hg').mono fun result _ hr => ?_
    cases result <;> exact hr
  unfold checkValues
  dsimp only
  split
  · exact hparams session (.refl hs hl)
  · rw [ensures_bind]
    refine (hresolve signature.result (List.mem_cons_self ..) session (.refl hs hl)).mono
      fun result session' hr => ?_
    cases result with
    | error error => exact hr
    | ok _ => exact hparams session' hr

theorem checkCallback_right {signature : Signature} {session : Session} (typeName id : String)
    (expected : Option (String × Record))
    (hv : ∀ type ∈ signature.types, type.isWellNamed ∧
      library.decls.chase rank type < library.decls.stride)
    (hs : session.Sound library) (hl : session.Settled []) :
    Ensures (levels < session.room library.extent + library.decls.stride) library
      (checkCallback (binders.resolve 0) signature typeName id expected) session
      fun _ session' => session.Leads library session' := by
  have hrefl : session.Leads library session := .refl hs hl
  unfold checkCallback
  split
  · exact hrefl
  · simp only [ensures_bind, ensures_read, ensures_ofExcept]
    split
    · simp only [ensures_within, ensures_pure]
      refine (checkValues_right h hv hs hl).mono fun result session' hr => ?_
      cases result <;> exact hr
    · exact hrefl

/-- A callback that cannot be marshaled is no reason for anything but itself to
    fail. -/
theorem marshal_right {signature : Signature} {session : Session} (typeName owner name : String)
    (expected : Option (String × Record))
    (hv : ∀ type ∈ signature.types, type.isWellNamed ∧
      library.decls.chase rank type < library.decls.stride)
    (hs : session.Sound library) (hl : session.Settled []) :
    Ensures (levels < session.room library.extent + library.decls.stride) library
      (marshal (binders.resolve 0) signature typeName owner name expected) session
      fun _ session' => session.Leads library session' := by
  have hrefl : session.Leads library session := .refl hs hl
  have hgrows := marshal_grows (h.grow.resolve 0) signature typeName owner name expected session
  have hright : Ensures (levels < session.room library.extent + library.decls.stride) library
      (marshal (binders.resolve 0) signature typeName owner name expected) session
      fun _ session' => session'.Sound library ∧ session'.Settled [] := by
    rw [marshal, ensures_bind, ensures_look]
    dsimp only
    split
    · exact ⟨hs, hl⟩
    · exact ⟨hs, hl⟩
    · exact ⟨hs, hl⟩
    · rw [ensures_bind, ensures_attempt]
      refine (checkCallback_right h typeName _ expected hv hs hl).mono fun result session' hr => ?_
      cases result with
      | ok callback => exact ⟨hr.sound, hr.settled⟩
      | error error => exact ⟨hr.sound.congr rfl rfl rfl rfl, hr.settled.congr rfl rfl rfl⟩
  exact (hright.and hgrows).mono fun _ _ hr => ⟨hr.2, hr.1.1, hr.1.2⟩

theorem bindCallback_right {signature : Signature} {session : Session} {field : Field}
    (owner key : String) (record : Record) (hfits : field.Fits library rank)
    (hf : library.decls.functionPointer field.type = some signature)
    (hs : session.Sound library) (hl : session.Settled []) :
    Ensures (levels < session.room library.extent + library.decls.stride) library
      (bindCallback binders owner key record field signature) session
      fun result session' => session.Leads library session' ∧ result.isOk := by
  unfold bindCallback
  simp only [ensures_bind, ensures_attempt, marshalMember]
  refine (marshal_right h _ _ _ _ (hfits.values signature hf) hs hl).mono
    fun result session' hr => ?_
  cases result <;> exact ⟨hr, rfl⟩

/-- A member is bound unless it needs a conversion that its type does not
    have. -/
theorem bindMember_right {session : Session} {field : Field} (owner key : String) (record : Record)
    (hfits : field.Fits library rank) (hregular : library.decls.Regular)
    (hs : session.Sound library) (hl : session.Settled []) :
    Ensures (levels < session.room library.extent + library.decls.stride) library
      (bindMember binders owner key record field) session fun result session' =>
        session.Leads library session' ∧
          match result with
          | .ok _ => field.isConverted library.decls → session'.Converts library field.type
          | .error _ => field.isConverted library.decls ∧
            session.Refutes session' fun avoided => ConvertibleBut library avoided field.type := by
  have hrefl : session.Leads library session := .refl hs hl
  unfold bindMember
  dsimp only
  split
  · next hn => exact ⟨hrefl, fun hc => absurd hc (by simp [Field.isConverted, hn])⟩
  next hn =>
  rw [ensures_bind, ensures_look]
  dsimp only
  split
  · next signature hf =>
      rw [ensures_bind]
      refine (bindCallback_right h owner key record hfits hf hs hl).mono
        fun result session' hr => ?_
      cases result with
      | ok outcome => exact ⟨hr.1, fun hc => absurd hc (by simp [Field.isConverted, hf])⟩
      | error error => exact absurd hr.2 Bool.false_ne_true
  next hf =>
  have hresolve : Ensures (levels < session.room library.extent + library.decls.stride) library
      (binders.resolve 0 field.type) session (Resolved library 0 field.type session) := by
    have hchase := hfits.chase
    refine (h.resolve 0 field.type session hfits.type hs hl).excuse fun he => ?_
    omega
  have hlinks := hregular.linksWithin field.type
  have hinward : ∀ conversion : Conversion,
      (conversion.inward = .register → (library.decls.functionPointer field.type).isSome) →
        conversion.inward ≠ .register := fun conversion hc hi => by
    have hsome := hc hi
    rw [hf] at hsome
    exact absurd hsome Bool.false_ne_true
  split
  · next inner ht => exact absurd (hfits.name (by rw [ht]; rfl)) hn
  · next element length ht =>
      split
      · next hz => exact ⟨hrefl, fun hc => absurd hc (by simp [Field.isConverted, ht, hz])⟩
      · next hz =>
          simp only [ensures_bind, ensures_within, ensures_ofExcept]
          refine hresolve.mono fun result session' hr => ?_
          cases result with
          | ok conversion =>
              rcases exists_ofArray field element length
                (hinward conversion hr.2.2) with ⟨access, he⟩
              simp only [mapError_ok, he]
              exact ⟨hr.1, fun _ => hr.2.1⟩
          | error error =>
              refine ⟨hr.1, field.isConverted_of hn hf fun other ho => ?_,
                hr.2 (Nat.zero_le _) hlinks⟩
              rw [ht] at ho
              exact hz (CType.array.inj ho).2
  · next ht =>
      simp only [ensures_bind, ensures_within, ensures_ofExcept]
      refine hresolve.mono fun result session' hr => ?_
      cases result with
      | ok conversion =>
          rcases exists_ofConversion field field.type.spelling (hinward conversion hr.2.2) with
            ⟨access, he⟩
          simp only [mapError_ok, he]
          exact ⟨hr.1, fun _ => hr.2.1⟩
      | error error =>
          exact ⟨hr.1, field.isConverted_of hn hf fun other ho => ht other 0 ho,
            hr.2 (Nat.zero_le _) hlinks⟩

/-- Members are bound unless one of them needs a conversion that its type does
    not have. -/
theorem bindMembers_right {session : Session} {fields : List Field} (owner key : String)
    (record : Record) (hfits : ∀ field ∈ fields, field.Fits library rank)
    (hregular : library.decls.Regular) (hs : session.Sound library) (hl : session.Settled []) :
    Ensures (levels < session.room library.extent + library.decls.stride) library
      (bindMembers binders owner key record fields) session fun result session' =>
        session.Leads library session' ∧
          match result with
          | .ok _ => session'.ConvertsAll library fields
          | .error _ =>
              session.Refutes session' fun avoided => MembersBut library avoided fields := by
  induction fields generalizing session with
  | nil => exact ⟨.refl hs hl, fun _ h => by cases h⟩
  | cons field rest ih =>
      rw [bindMembers, ensures_bind]
      refine (bindMember_right h owner key record (hfits field (List.mem_cons_self ..)) hregular hs
        hl).mono fun result session' hr => ?_
      cases result with
      | error error =>
          exact ⟨hr.1, hr.2.2.imp fun avoided hm => hm field (List.mem_cons_self ..) hr.2.1⟩
      | ok outcome =>
          have hroom := Session.room_of_grows library.extent hr.1.grows
          dsimp only
          rw [ensures_bind]
          refine ((ih (fun other ho => hfits other (List.mem_cons_of_mem _ ho)) hr.1.sound
            hr.1.settled).excuse fun he => by omega).mono fun result session'' hr' => ?_
          cases result with
          | ok outcomes =>
              refine ⟨hr.1.trans hr'.1, fun other ho => ?_⟩
              rcases List.mem_cons.1 ho with rfl | hrest
              · exact fun hc => (hr.2 hc).mono
                  (Session.boundStruct?_eq_none_of_initial hr'.1.grows.structs)
              · exact hr'.2 other hrest
          | error error =>
              exact ⟨hr.1.trans hr'.1, (hr'.2.after hr.1.grows hr'.1.grows).imp
                fun avoided hm other ho => hm other (List.mem_cons_of_mem _ ho)⟩

/-- A record whose members are being bound, and is left again. -/
theorem bindRecord_right {session : Session} {key : String} {record : Record}
    (hr : library.decls.records.get? key = some record) (hregular : library.decls.Regular)
    (hs : session.Sound library) (hl : session.Settled []) :
    Ensures (levels < session.room library.extent + library.decls.stride) library
      (bindRecord binders key record) session fun result session' =>
        session.Leads library session' ∧
          match result with
          | .ok members => members.key = key ∧ session'.ConvertsAll library record.flattened
          | .error _ => session.Refutes session'
            fun avoided => MembersBut library avoided record.flattened := by
  rw [bindRecord, ensures_bind]
  refine (bindMembers_right h (bareTag key) key record (fun field hf => hregular.fits rank hr hf)
    hregular hs hl).mono fun result session' hm => ?_
  cases result with
  | ok outcomes => exact ⟨hm.1, rfl, hm.2⟩
  | error error => exact hm

/-- A record is bound if its members are; if it fails it is put off or has
    failed for good. -/
theorem bindFresh_right {session : Session} {key : String} {record : Record}
    (hr : library.decls.records.get? key = some record) (hregular : library.decls.Regular)
    (hs : session.Sound library) (hl : session.Settled [key]) (hk : key ∉ session.inProgress)
    (hn : session.structs.get? key = none) :
    Ensures (levels < session.room library.extent) library
      (bindFresh binders key ⟨record, none⟩) session fun result session' =>
        ∃ answer, result = .ok answer ∧ Bound library key record session answer session' := by
  have hp := Session.inProgress_enter hk
  have hmem : key ∈ (session.enter key).inProgress := by
    rw [hp]
    exact List.mem_append_right _ (List.mem_singleton_self key)
  have hdeclared : key ∈ library.decls.records.names := List.mem_map_of_mem (Table.mem_of_get? hr)
  have hroom : (session.enter key).room library.extent + library.decls.stride ≤
      session.room library.extent := Session.room_enter hdeclared hn hk
  have hsound : (session.enter key).Sound library := hs.congr rfl rfl rfl rfl
  simp only [bindFresh, ensures_bind, ensures_look, ensures_update, ensures_attempt]
  refine ((bindRecord_right h hr hregular hsound (hl.enter hk)).excuse
    fun he => by omega).mono fun result session' hm => ?_
  have hleft := Session.grows_leave hk hm.1.grows
  have hk' : key ∉ (session'.leave key).inProgress := by rw [hleft.inProgress]; exact hk
  have hn' := Session.get?_leave hk hn hm.1.grows
  have hsound' : (session'.leave key).Sound library := hm.1.sound.congr rfl rfl rfl rfl
  have hretried : session'.retried = session.retried :=
    hm.1.grows.nested (List.ne_nil_of_mem hmem)
  -- Only the record itself may not be settled yet, if it is bound for the last time.
  have hsettled : ∀ final : Session, (session'.leave key).Grows final →
      final.retried = session'.retried → (key ∈ session'.retried → final.structs.contains key) →
        final.Settled [] := by
    intro final hg he hc other ho
    rw [he] at ho
    rcases hm.1.settled other ho with hs' | hi | ⟨hx, -⟩
    · exact Or.inl (Table.contains_of_initial hg.structs hs')
    · rw [hm.1.grows.inProgress, hp] at hi
      rcases List.mem_append.1 hi with hi | hself
      · exact Or.inr (Or.inl (by rw [hg.inProgress, hleft.inProgress]; exact hi))
      · rw [List.mem_singleton.1 hself] at ho ⊢
        exact Or.inl (hc ho)
    · cases hx
  cases result with
  | ok members =>
      obtain ⟨rfl, hmembers⟩ := hm.2
      have hgrows := Session.grows_commit hk' hn' none
      simp only [ensures_bind, ensures_update, ensures_pure]
      have hcommitted := hsound'.commit hr
        (fun type ht he => hregular.bindable?_of_spelling hr ht he) hmembers none
      refine ⟨_, rfl, ⟨hleft.trans hgrows, hcommitted, hsettled _ hgrows ?_ fun _ => ?_⟩,
        members.bound, ?_⟩
      · rw [Session.commit_eq]
        rfl
      · rw [Session.commit_eq]
        simp [Table.contains_set]
      · rw [Session.commit_eq]
        exact Session.get?_settleStruct ..
  | error error =>
      have hgrows := Session.grows_conclude hk' hn' ⟨record, none⟩ session.meetings error
      have hkept :
          ((session'.leave key).conclude key ⟨record, none⟩ session.meetings error).meetings =
          session'.meetings ∧ ((session'.leave key).conclude key ⟨record, none⟩ session.meetings
            error).retried = session'.retried := by
        rw [Session.conclude]
        split <;> exact ⟨rfl, rfl⟩
      -- The members of the record do not need the record.
      have hmembers : ¬ MembersBut library session.inProgress record.flattened := by
        intro hall
        refine hm.2.1 ((but_cons_of_members hr hall).anti fun other ho => ?_)
        rw [hp] at ho
        rcases List.mem_append.1 ho with hi | hself
        · exact List.mem_cons_of_mem _ hi
        · exact List.mem_cons.2 (Or.inl (List.mem_singleton.1 hself))
      have hfailed : (session'.leave key).meetings ≤ session.meetings ∨
          key ∈ (session'.leave key).retried → ¬ MembersBut library [] record.flattened := by
        rintro (hle | hlast)
        · exact hm.2.2 (Nat.le_antisymm hle hm.1.grows.meetings)
        · have hlast' : key ∈ session.retried := hretried ▸ hlast
          exact hl.inProgress_eq_nil hlast' hn hk ▸ hmembers
      have hrefutes : session.Refutes ((session'.leave key).conclude key ⟨record, none⟩
          session.meetings error) (RecordBut library key record) :=
        ⟨fun hb => hmembers hb.2, fun he hb => hm.2.2 (hkept.1.symm.trans he) hb.2⟩
      simp only [ensures_bind, ensures_update, ensures_pure]
      refine ⟨_, rfl, ⟨hleft.trans hgrows, hsound'.conclude hr hn' hfailed error,
        hsettled _ hgrows hkept.2 fun hlast => ?_⟩, hrefutes⟩
      have hlast' : (session'.leave key).retried.contains key := List.contains_iff_mem.2 hlast
      rw [Session.conclude, hlast', Bool.not_true, Bool.and_false, if_neg Bool.false_ne_true]
      simp [Session.reject, Session.settleStruct, Table.contains_set]

/-- The records put off are bound once more. -/
theorem retryDeferred_right {session : Session} (rounds : Nat) (hs : session.Sound library)
    (hl : session.Settled []) (hp : session.inProgress = []) :
    Ensures (levels < session.room library.extent ∨ rounds ≤ session.unretried library.extent)
      library (retryDeferred binders rounds) session
      fun result session' => session.Leads library session' ∧ result.isOk := by
  induction rounds generalizing session with
  | zero => exact Or.inr (Nat.zero_le _)
  | succ rounds ih =>
      rw [retryDeferred, ensures_bind, ensures_look]
      dsimp only
      split
      · exact ⟨.refl hs hl, rfl⟩
      next key deferred hhead =>
      have hrow : (key, deferred) ∈ session.deferred.rows := List.mem_of_mem_head? hhead
      rcases hs.deferred _ hrow with ⟨hr, ht, hk⟩
      have hdeclared : key ∈ library.decls.records.names :=
        List.mem_map_of_mem (Table.mem_of_get? hr)
      have hgrows := Session.grows_takeDeferred hp key
      have hroom : (session.takeDeferred key).room library.extent + 1 ≤
          session.room library.extent :=
        Session.room_takeDeferred hdeclared hp hk
      have hfewer : (session.takeDeferred key).unretried library.extent + 1 ≤
          session.unretried library.extent := Session.unretried_takeDeferred hdeclared hk
      have htaken := hl.takeDeferred hp key
      simp only [ensures_bind, ensures_update, ensures_attempt]
      rw [ht]
      refine ((h.bind key deferred.record _ hr (hs.takeDeferred key) htaken).excuse
        fun he => Or.inl (by omega)).mono fun result session' hb => ?_
      have hboth := hgrows.trans hb.1.grows
      have hroom' := Session.room_of_grows library.extent hb.1.grows
      have hfewer' := Session.unretried_of_initial hb.1.grows.retried library.extent
      refine ((ih hb.1.sound hb.1.settled (hboth.inProgress.trans hp)).excuse fun he => ?_).mono
        fun _ _ hr' => ⟨⟨hboth.trans hr'.1.grows, hr'.1.sound, hr'.1.settled⟩, hr'.2⟩
      omega

/-- Binding a record comes to what it should. -/
theorem bindStep_right (hregular : library.decls.Regular) {session : Session} {key : String}
    {record : Record} (hr : library.decls.records.get? key = some record)
    (hs : session.Sound library) (hl : session.Settled [key]) :
    Ensures (levels < session.room library.extent) library (bindStep levels binders key record none)
      session (Bound library key record session) := by
  rw [bindStep, ensures_bind, ensures_look]
  dsimp only
  split
  · next bound waiting hlook =>
      rw [Prod.mk.injEq] at hlook
      have hk : session.structs.contains key := by rw [Table.contains, hlook.1]; rfl
      exact ⟨.refl hs (hl.of_exempt (Or.inl hk)), bound, hlook.1⟩
  · next error waiting hlook =>
      rw [Prod.mk.injEq] at hlook
      have hk : session.structs.contains key := by rw [Table.contains, hlook.1]; rfl
      have hm := hs.failed key error record hlook.1 hr
      exact ⟨.refl hs (hl.of_exempt (Or.inl hk)),
        Session.refutes_of_not fun avoided hb => hm (hb.2.anti fun _ h => by cases h)⟩
  · next hlook =>
      rw [Prod.mk.injEq, List.contains_iff_mem] at hlook
      have hl' := hl.of_exempt (Or.inr hlook.2)
      rw [ensures_bind, ensures_update]
      refine ⟨⟨session.grows_meet, hs.congr rfl rfl rfl rfl, hl'.congr rfl rfl rfl⟩,
        fun hb => hb.1 hlook.2, fun he => ?_⟩
      exact absurd he (Nat.succ_ne_self _)
  next hlook =>
  rw [Prod.mk.injEq] at hlook
  have hk : key ∉ session.inProgress := by simpa using hlook.2
  rw [ensures_bind]
  refine (bindFresh_right h hr hregular hs hl hk hlook.1).mono fun result session' hb => ?_
  obtain ⟨answer, rfl, hb⟩ := hb
  dsimp only
  rw [ensures_bind, ensures_look]
  dsimp only
  split
  · next hempty =>
      have hp' : session'.inProgress = [] := List.isEmpty_iff.1 hempty
      have hp : session.inProgress = [] := hb.1.grows.inProgress ▸ hp'
      have hroom := Session.room_of_grows library.extent hb.1.grows
      have hretries := Session.unretried_lt_room library.extent hp
      have hfewer := Session.unretried_of_initial hb.1.grows.retried library.extent
      rw [ensures_bind]
      refine ((retryDeferred_right h levels hb.1.sound hb.1.settled hp').excuse
        fun he => by omega).mono fun result session'' hd => ?_
      cases result with
      | error error => exact absurd hd.2 Bool.false_ne_true
      | ok _ =>
          have hboth := hb.1.trans hd.1
          dsimp only
          rw [ensures_bind, ensures_look]
          dsimp only
          split
          · next error bound hbound =>
              exact ⟨hboth, bound, Session.get?_of_boundStruct? hbound⟩
          · next final _ _ _ =>
            rw [ensures_ofExcept]
            refine ⟨hboth, ?_⟩
            cases final with
            | ok answer =>
                rcases hb.2 with ⟨bound, hbound⟩
                exact ⟨bound, Table.get?_of_initial hd.1.grows.structs hbound⟩
            | error error => exact hb.2.before hb.1.grows hd.1.grows
  · exact ensures_ofExcept.2 hb

end ScriptBind
