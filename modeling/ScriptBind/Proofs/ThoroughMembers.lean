import ScriptBind.Proofs.ThoroughSessions

/-!
# Binding Members Leaves Nothing Out

The members of a record are bound one after another, and at the first that fails the rest
is not looked at. This is where order could do harm: a member may have no conversion at the
moment only, since a record that it needs is being bound. So a failure says less than
success. Members have been followed up to the first that cannot do without the records
being bound, and up to the first that has no conversion at all if none of those records was
met. `Session.FollowsUp` is this reading of a failure.

A callback does not fail its record, and leads to the same records and to the same end
whatever the session, if it is steady.

## Main definitions

* `MemberOutcome.AreFair`: What becomes of the members of a record.
* `Session.FollowsUp`: What a failure among members leaves.
* `Binders.Explore`: Ways to resolve and bind that leave nothing out.

## Theorems

* `resolveEach_explores`: Types are followed up to the first that fails.
* `marshal_explores`: What marshaling a steady callback comes to.
* `bindMember_explores`, `bindMembers_explores`: One member, and all of them.
* `MemberOutcome.AreFair.divides`: Members with fair outcomes are divided.
-/

namespace ScriptBind

open BindM

/-- What becomes of the members of a record, in order, as steady callbacks have it. -/
def MemberOutcome.AreFair (library : Library) (key : String) (record : Record) (fields : List Field)
    (outcomes : List MemberOutcome) : Prop :=
  List.Forall₂ (fun field outcome => outcome.IsOf library (bareTag key) field ∧
    outcome.IsFair library key record field) (fields.filter Field.isBound) outcomes

/-- What a failure between two sessions leaves: members have been followed up to the first
    that cannot do without the records that were being bound, and up to the first that has
    no conversion at all if none of these was met. -/
def Session.FollowsUp (library : Library) (key : String) (record : Record) (fields : List Field)
    (session session' : Session) : Prop :=
  ∀ avoided, avoided = session.inProgress ∨ avoided = [] ∧ session'.meetings = session.meetings →
    ∀ field, ComesUp (Field.Converts library avoided) fields field →
      session'.HasFollowed library key record field

/-- Ways to resolve and bind that leave nothing out. -/
structure Binders.Explore (library : Library) (reached : String → Prop) (binders : Binders) :
    Prop where
  /-- Resolving a type. -/
  resolve : ∀ links type session, type.isWellNamed → links ≤ aliasLimit →
    library.decls.followsWithin (aliasLimit - links) type → session.Sound library →
    session.Settled [] → session.Thorough library reached →
    (∀ key, library.Visits type key → reached key) →
    Ensures True library (binders.resolve links type) session fun _ session' =>
      session.Explores library reached session' ∧ session'.HasVisited library type
  /-- Binding a record. -/
  bind : ∀ key record session, library.decls.records.get? key = some record →
    session.Sound library → session.Settled [key] → session.Thorough library reached →
    reached key →
    Ensures True library (binders.bind key record none) session fun _ session' =>
      session.Explores library reached session' ∧ key ∈ session'.begun

variable {library : Library} {reached : String → Prop} {rank : String → Nat} {levels : Nat}
  {binders : Binders} {session : Session}

/-- A condition that is ensured if there are enough levels is ensured with less. -/
theorem BindM.Ensures.partially {α : Type} {endless : Prop} {action : BindM α}
    {post : Except BindError α → Session → Prop} (h : Ensures endless library action session post) :
    Ensures True library action session post :=
  h.excuse fun _ => trivial

/-- The values of a callback are looked at one by one. -/
theorem checkValues_eq (resolve : CType → BindM Conversion) (signature : Signature) :
    checkValues resolve signature =
      signature.checked.forM fun type => (do let _ ← resolve type : BindM PUnit) := by
  unfold checkValues Signature.checked
  dsimp only
  split
  · rfl
  · show _ = (resolve signature.result >>= fun _ => pure PUnit.unit) >>= fun _ => _
    rw [bind_assoc]
    simp only [pure_bind]
    rfl

section Steps

variable (hregular : library.decls.Regular) (hshort : library.decls.IsShort)
  (hclosed : library.Encloses reached) (hright : binders.Right library rank levels)
  (h : binders.Explore library reached)

include hregular hshort hright h

/-- What resolving a type comes to, and where it leads. -/
theorem resolve_explores {type : CType} (hw : type.isWellNamed) (hs : session.Sound library)
    (hl : session.Settled []) (ht : session.Thorough library reached)
    (hr : ∀ key, library.Visits type key → reached key) :
    Ensures True library (binders.resolve 0 type) session fun result session' =>
      (session.Leads library session' ∧ session.Explores library reached session' ∧
        session'.HasVisited library type) ∧
      match result with
      | .ok _ => Convertible library type
      | .error _ =>
          session.Refutes session' fun avoided => ConvertibleBut library avoided type := by
  refine ((hright.resolve 0 type session hw hs hl).partially.and (h.resolve 0 type session hw
    (Nat.zero_le _) (hshort.followsWithin type) hs hl ht hr)).mono fun result session' hall => ?_
  obtain ⟨⟨hleads, hresult⟩, hexplores, hvisited⟩ := hall
  refine ⟨⟨hleads, hexplores, hvisited⟩, ?_⟩
  cases result with
  | ok conversion => exact hresult.1.convertible
  | error error => exact hresult (Nat.zero_le _) (hregular.linksWithin type)

/-- Types are resolved one after another, up to the first that fails. If all of them are
    convertible without any record or not at all, this is the first that is not
    convertible. -/
theorem resolveEach_explores {types : List CType} (hw : ∀ type ∈ types, type.isWellNamed)
    (hs : session.Sound library) (hl : session.Settled []) (ht : session.Thorough library reached)
    (hr : ∀ type, ComesUp (Convertible library) types type →
      ∀ key, library.Visits type key → reached key) :
    Ensures True library (types.forM fun type => do let _ ← binders.resolve 0 type) session
      fun result session' => session.Explores library reached session' ∧
        ((∀ type ∈ types, Convertible library type →
            ConvertibleBut library library.decls.records.names type) →
          (result.isOk ↔ ∀ type ∈ types, Convertible library type) ∧
            ∀ type, ComesUp (Convertible library) types type →
            session'.HasVisited library type) := by
  induction types generalizing session with
  | nil =>
      exact ensures_pure.2 ⟨.refl ht, fun _ => ⟨iff_of_true rfl (List.forall_mem_nil _),
        fun _ ho => by cases ho⟩⟩
  | cons first rest ih =>
      show Ensures True library ((do let _ ← binders.resolve 0 first : BindM PUnit) >>= fun _ =>
        rest.forM _) session _
      simp only [ensures_bind, ensures_pure]
      refine (resolve_explores hregular hshort hright h (hw first (List.mem_cons_self ..)) hs hl ht
        (hr first .first)).mono fun result session' hall => ?_
      obtain ⟨⟨hleads, hexplores, hvisited⟩, hresult⟩ := hall
      cases result with
      | error error =>
          refine ⟨hexplores, fun hsteady => ?_⟩
          -- What is being bound is declared, and the type needs nothing that is declared.
          have hfirst : ¬Convertible library first := fun hc =>
            hresult.1 ((hsteady first (List.mem_cons_self ..) hc).anti fun _ => ht.mem_names)
          refine ⟨iff_of_false Bool.false_ne_true fun hall =>
            hfirst (hall first (List.mem_cons_self ..)), fun type hc => ?_⟩
          cases hc with
          | first => exact hvisited
          | later hc _ => exact absurd hc hfirst
      | ok conversion =>
          refine (ih (fun type hm => hw type (List.mem_cons_of_mem _ hm))
            hleads.sound hleads.settled
            hexplores.thorough fun type hc => hr type (.later hresult hc)).mono
            fun result session'' hrest => ⟨hexplores.trans hrest.1, fun hsteady => ?_⟩
          obtain ⟨hok, hall⟩ := hrest.2 fun type hm => hsteady type (List.mem_cons_of_mem _ hm)
          refine ⟨hok.trans ⟨fun hr => List.forall_mem_cons.2 ⟨hresult, hr⟩, fun hr =>
            (List.forall_mem_cons.1 hr).2⟩, fun type hc => ?_⟩
          cases hc with
          | first => exact hvisited.mono hrest.1.begun
          | later _ hc => exact hall type hc

/-- What looking at a callback comes to, if it is steady. -/
theorem check_explores {demand : Demand}
    (hw : ∀ type ∈ demand.signature.types, type.isWellNamed) (hs : session.Sound library)
    (hl : session.Settled []) (ht : session.Thorough library reached)
    (hr : demand.IsAdmitted library → ∀ type, ComesUp (Convertible library) demand.signature.checked
      type → ∀ key, library.Visits type key → reached key) :
    Ensures True library (demand.check (binders.resolve 0)) session fun result session' =>
      session.Explores library reached session' ∧
        (∀ callback, result = .ok callback → callback.name = demand.id) ∧
        (demand.IsSteady library → (result.isOk ↔ demand.Passes library) ∧
          session'.HasLookedAt library demand) := by
  rw [Demand.check, checkCallback]
  -- A callback that is not admitted fails before anything is looked at.
  have hrefuse : ∀ error : BindError, ¬demand.IsAdmitted library →
      session.Explores library reached session ∧
        (∀ callback, (.error error : Except BindError Callback) = .ok callback →
          callback.name = demand.id) ∧
        (demand.IsSteady library → ((.error error : Except BindError Callback).isOk ↔
          demand.Passes library) ∧ session.HasLookedAt library demand) := by
    refine fun error ha =>
      ⟨.refl ht, (fun _ he => by cases he), fun _ => ⟨?_, fun ha' => absurd ha' ha⟩⟩
    exact iff_of_false Bool.false_ne_true fun hp => ha hp.1
  split
  · next hvariadic =>
      exact ensures_fail.2 (hrefuse _ fun ha => by cases hvariadic.symm.trans ha.1)
  next hvariadic =>
  simp only [ensures_bind, ensures_read, ensures_ofExcept]
  cases howner : library.callbackOwner demand.signature demand.typeName demand.id
    demand.expected with
  | error error =>
      exact hrefuse error fun ha => by
        obtain ⟨way, hway⟩ := ha.2
        cases howner.symm.trans hway
  | ok way =>
      have ha : demand.IsAdmitted library := ⟨Bool.eq_false_iff.2 hvariadic, way, howner⟩
      simp only [ensures_within, ensures_pure, checkValues_eq]
      refine (resolveEach_explores hregular hshort hright h
        (fun type hm => hw type (Signature.mem_types_of_checked hm)) hs hl ht (hr ha)).mono
        fun result session' hall => ?_
      have hverdict := fun hsteady : demand.IsSteady library => hall.2 hsteady.values
      cases result with
      | ok _ =>
          refine ⟨hall.1, fun callback hc => ?_, fun hsteady => ⟨?_, fun _ => (hverdict hsteady).2⟩⟩
          · rw [← Except.ok.inj hc]
          · exact iff_of_true rfl ⟨ha, (hverdict hsteady).1.1 rfl⟩
      | error error =>
          refine ⟨hall.1, (fun _ he => by cases he), fun hsteady =>
            ⟨?_, fun _ => (hverdict hsteady).2⟩⟩
          exact iff_of_false Bool.false_ne_true fun hp =>
            Bool.false_ne_true ((hverdict hsteady).1.2 hp.2)

/-- What marshaling a callback of a record comes to, if it is steady. -/
theorem marshal_explores {demand : Demand} (hd : library.HasCallback demand)
    (hw : ∀ type ∈ demand.signature.types, type.isWellNamed) (hs : session.Sound library)
    (hl : session.Settled []) (ht : session.Thorough library reached)
    (hr : demand.IsAdmitted library → ∀ type, ComesUp (Convertible library) demand.signature.checked
      type → ∀ key, library.Visits type key → reached key) :
    Ensures True library (demand.marshal (binders.resolve 0)) session fun result session' =>
      session.Explores library reached session' ∧
        (∀ callback, result = .ok callback → callback.name = demand.id) ∧
        (demand.IsSteady library → (result.isOk ↔ demand.Passes library) ∧
          session'.HasLookedAt library demand) := by
  rw [Demand.marshal, marshal, ensures_bind, ensures_look]
  dsimp only
  -- What is remembered under the name of a steady callback was made of it.
  split
  · next callback hstate =>
      refine ensures_pure.2 ⟨.refl ht, fun other ho => ?_, fun hsteady => ?_⟩
      · exact Except.ok.inj ho ▸ ht.named _ _ (.inl hstate)
      · obtain ⟨hverdict, hlooked⟩ := ht.marshaled demand _ hd hsteady hstate
        exact ⟨iff_of_true rfl (hverdict.1 rfl), hlooked⟩
  · next callback hstate =>
      refine ensures_pure.2 ⟨.refl ht, fun other ho => ?_, fun hsteady => ?_⟩
      · exact Except.ok.inj ho ▸ ht.named _ _ (.inr hstate)
      · obtain ⟨hverdict, hlooked⟩ := ht.marshaled demand _ hd hsteady hstate
        exact ⟨iff_of_true rfl (hverdict.1 rfl), hlooked⟩
  · next error hstate =>
      refine ensures_fail.2 ⟨.refl ht, (fun _ he => by cases he), fun hsteady => ?_⟩
      obtain ⟨hverdict, hlooked⟩ := ht.marshaled demand _ hd hsteady hstate
      exact ⟨iff_of_false Bool.false_ne_true fun hp => Bool.noConfusion (hverdict.2 hp), hlooked⟩
  · rw [ensures_bind, ensures_attempt]
    refine (check_explores hregular hshort hright h hw hs hl ht hr).mono
      fun result session' hall => ?_
    obtain ⟨hexplores, hname, hverdict⟩ := hall
    cases result with
    | ok callback => exact ⟨hexplores, hname, hverdict⟩
    | error error =>
        have hfails : demand.IsSteady library →
            ¬demand.Passes library ∧ session'.HasLookedAt library demand := fun hsteady =>
          ⟨fun hp => Bool.false_ne_true ((hverdict hsteady).1.2 hp), (hverdict hsteady).2⟩
        exact ⟨⟨hexplores.thorough.settleFailed hd error hfails, hexplores.begun⟩,
          (fun _ he => by cases he), hverdict⟩

/-- A member that is a callback is kept or left out, and its values have been looked
    at. -/
theorem bindCallback_explores {key : String} {record : Record} {field : Field}
    {signature : Signature} (hrecord : library.decls.records.get? key = some record)
    (hf : field ∈ record.flattened) (hn : field.name ≠ "")
    (hsignature : library.decls.functionPointer field.type = some signature)
    (hs : session.Sound library) (hl : session.Settled []) (ht : session.Thorough library reached)
    (hr : ∀ type, field.Needs library (fun _ => True) key record type →
      ∀ other, library.Visits type other → reached other) :
    Ensures True library (bindCallback binders (bareTag key) key record field signature) session
      fun result session' => session.Explores library reached session' ∧
        session'.HasFollowed library key record field ∧
        ∀ outcome, result = .ok outcome → outcome.IsFair library key record field := by
  have hw : ∀ type ∈ signature.types, type.isWellNamed :=
    fun type hm => ((hregular.fits rank hrecord hf).values signature hsignature type hm).1
  have hmarshal := marshal_explores hregular hshort hright h
    (Library.HasCallback.member hrecord hf hn hsignature) hw hs hl ht
    fun ha type hc => hr type (.value hn hsignature trivial ha hc)
  have hunique : ∀ other, library.decls.functionPointer field.type = some other →
      signature = other := fun other ho => Option.some.inj (hsignature.symm.trans ho)
  simp only [bindCallback, marshalMember, ensures_bind, ensures_attempt]
  refine hmarshal.mono fun result session' hall => ?_
  obtain ⟨hexplores, hname, hverdict⟩ := hall
  have hfollowed : session'.HasFollowed library key record field := by
    intro type hneeds
    cases hneeds with
    | conversion hc => exact absurd hc (by simp [Field.isConverted, hsignature])
    | value _ ho hsteady ha hc =>
        obtain rfl := hunique _ ho
        exact (hverdict hsteady).2 ha type hc
  cases result with
  | ok callback =>
      simp only [ensures_bind, ensures_look, ensures_pure]
      refine ⟨hexplores, hfollowed, fun outcome ho => ?_⟩
      rw [← Except.ok.inj ho]
      refine ⟨fun other hother hsteady => ?_, fun found hfound => ⟨signature, hsignature, hn, ?_⟩⟩
      · obtain rfl := hunique other hother
        exact (hverdict hsteady).1.1 rfl
      · rw [← Option.some.inj hfound]
        exact hname callback rfl
  | error error =>
      refine ⟨hexplores, hfollowed, fun outcome ho => ?_⟩
      rw [← Except.ok.inj ho]
      exact ⟨signature, hsignature, fun hsteady hp =>
        Bool.false_ne_true ((hverdict hsteady).1.2 hp)⟩

/-- The types that a member needs are followed, whether it is bound or not. -/
theorem bindMember_explores {key : String} {record : Record} {field : Field}
    (hrecord : library.decls.records.get? key = some record) (hf : field ∈ record.flattened)
    (hs : session.Sound library) (hl : session.Settled []) (ht : session.Thorough library reached)
    (hr : ∀ type, field.Needs library (fun _ => True) key record type →
      ∀ other, library.Visits type other → reached other) :
    Ensures True library (bindMember binders (bareTag key) key record field) session
      fun result session' => session.Explores library reached session' ∧
        session'.HasFollowed library key record field ∧
        ∀ outcome, result = .ok (some outcome) → outcome.IsFair library key record field := by
  have hfits := hregular.fits rank hrecord hf
  have hrefl : session.Explores library reached session := .refl ht
  unfold bindMember
  dsimp only
  split
  · next hn =>
      refine ensures_pure.2 ⟨hrefl, fun type hneeds => ?_, fun _ ho => by cases Except.ok.inj ho⟩
      cases hneeds with
      | conversion hc => exact absurd hc (by simp [Field.isConverted, hn])
      | value hne => exact absurd hn hne
  next hn =>
  rw [ensures_bind, ensures_look]
  dsimp only
  split
  · next signature hsignature =>
      rw [ensures_bind]
      refine (bindCallback_explores hregular hshort hright h hrecord hf hn hsignature hs hl ht
        hr).mono fun result session' hall => ?_
      obtain ⟨hexplores, hfollowed, hfair⟩ := hall
      cases result with
      | ok outcome =>
          refine ensures_pure.2 ⟨hexplores, hfollowed, fun other ho => ?_⟩
          exact Option.some.inj (Except.ok.inj ho) ▸ hfair outcome rfl
      | error error => exact ⟨hexplores, hfollowed, fun _ he => by cases he⟩
  next hnone =>
  -- A member that is no callback needs its own type at most.
  have hfollowed : ∀ session' : Session,
      (field.isConverted library.decls → session'.HasVisited library field.type) →
        session'.HasFollowed library key record field := by
    intro session' hv type hneeds
    cases hneeds with
    | conversion hc => exact hv hc
    | value _ ho => cases hnone.symm.trans ho
  have hresolve : field.isConverted library.decls →
      Ensures True library (binders.resolve 0 field.type) session fun _ session' =>
        session.Explores library reached session' ∧ session'.HasFollowed library key record field :=
    fun hc => (resolve_explores hregular hshort hright h hfits.type hs hl ht
      (hr _ (.conversion hc))).mono fun _ _ hall => ⟨hall.1.2.1, hfollowed _ fun _ => hall.1.2.2⟩
  -- The way to a value registers no callback.
  have hfair : ∀ access : Access, access.callback? = none →
      (MemberOutcome.reached access).IsFair library key record field := by
    refine fun access hc => ⟨fun signature ho => ?_, fun callback hcallback => ?_⟩
    · cases hnone.symm.trans ho
    · cases hc.symm.trans hcallback
  split
  · next inner hinner => exact absurd (hfits.name (by rw [hinner]; rfl)) hn
  · next element length harray =>
      split
      · next hz =>
          refine ensures_pure.2 ⟨hrefl, hfollowed _ fun hc => ?_, fun _ ho => by
            cases Except.ok.inj ho⟩
          exact absurd hc (by simp [Field.isConverted, harray, hz])
      · next hz =>
          have hc := field.isConverted_of hn hnone fun other ho =>
            hz (CType.array.inj (harray.symm.trans ho)).2
          simp only [ensures_bind, ensures_within, ensures_ofExcept]
          refine (hresolve hc).mono fun result session' hall => ?_
          cases result with
          | error error => exact ⟨hall.1, hall.2, fun _ he => by cases he⟩
          | ok conversion =>
              rw [mapError_ok]
              dsimp only
              cases haccess : Access.ofArray field element length conversion with
              | error error => exact ⟨hall.1, hall.2, fun _ he => by cases he⟩
              | ok access =>
                  refine ensures_pure.2 ⟨hall.1, hall.2, fun outcome ho => ?_⟩
                  rw [← Option.some.inj (Except.ok.inj ho)]
                  exact hfair access (Access.callback?_ofArray haccess)
  · next harray =>
      have hc := field.isConverted_of hn hnone fun other ho => harray other 0 ho
      simp only [ensures_bind, ensures_within, ensures_ofExcept]
      refine (hresolve hc).mono fun result session' hall => ?_
      cases result with
      | error error => exact ⟨hall.1, hall.2, fun _ he => by cases he⟩
      | ok conversion =>
          rw [mapError_ok]
          dsimp only
          cases haccess : Access.ofConversion field field.type.spelling conversion with
          | error error => exact ⟨hall.1, hall.2, fun _ he => by cases he⟩
          | ok access =>
              refine ensures_pure.2 ⟨hall.1, hall.2, fun outcome ho => ?_⟩
              rw [← Option.some.inj (Except.ok.inj ho)]
              exact hfair access (Access.callback?_ofConversion haccess)

omit hregular hshort hright h in
theorem areFair_of_areOf {key : String} {record : Record} {field : Field}
    {outcome : Option MemberOutcome}
    (ho : MemberOutcome.AreOf library (bareTag key) [field] outcome.toList)
    (hfair : ∀ found, outcome = some found → found.IsFair library key record field) :
    MemberOutcome.AreFair library key record [field] outcome.toList := by
  unfold MemberOutcome.AreOf at ho
  unfold MemberOutcome.AreFair
  by_cases hb : field.isBound
  · rw [List.filter_cons_of_pos hb] at ho ⊢
    cases outcome with
    | none => cases ho
    | some found => exact .cons ⟨(List.forall₂_cons.1 ho).1, hfair found rfl⟩ .nil
  · rw [List.filter_cons_of_neg hb] at ho ⊢
    cases outcome with
    | none => exact .nil
    | some found => cases ho

/-- The members of a record are followed one after another, up to the first that fails. -/
theorem bindMembers_explores {key : String} {record : Record} {fields : List Field}
    (hrecord : library.decls.records.get? key = some record)
    (hf : ∀ field ∈ fields, field ∈ record.flattened) (hs : session.Sound library)
    (hl : session.Settled []) (ht : session.Thorough library reached)
    (hr : ∀ field, ComesUp (Field.Converts library []) fields field →
      ∀ type, field.Needs library (fun _ => True) key record type →
        ∀ other, library.Visits type other → reached other) :
    Ensures True library (bindMembers binders (bareTag key) key record fields) session
      fun result session' => session.Explores library reached session' ∧
        match result with
        | .ok outcomes => (∀ field ∈ fields, session'.HasFollowed library key record field) ∧
          MemberOutcome.AreFair library key record fields outcomes
        | .error _ => session.FollowsUp library key record fields session' := by
  induction fields generalizing session with
  | nil => exact ensures_pure.2 ⟨.refl ht, (fun _ ho => by cases ho), .nil⟩
  | cons field rest ih =>
      have hm := hf field (List.mem_cons_self ..)
      rw [bindMembers, ensures_bind]
      refine (((bindMember_right hright (bareTag key) key record (hregular.fits rank hrecord hm)
        hregular hs hl).partially.and (bindMember_explores hregular hshort hright h hrecord hm hs hl
          ht (hr field .first))).and (bindMember_areOf binders key record field session)).mono
        fun result session' hall => ?_
      obtain ⟨⟨⟨hleads, hresult⟩, hexplores, hfollowed, hfair⟩, hof⟩ := hall
      cases result with
      | error error =>
          obtain ⟨hc, hrefutes⟩ := hresult
          refine ⟨hexplores, fun avoided havoided other ho => ?_⟩
          -- Nothing comes up after a member that fails.
          cases ho with
          | first => exact hfollowed
          | later hconverts _ =>
              -- The failure says so of the avoided records, in both cases.
              rcases havoided with rfl | ⟨rfl, hmeetings⟩
              · exact absurd (hconverts hc) hrefutes.1
              · exact absurd (hconverts hc) (hrefutes.2 hmeetings)
      | ok outcome =>
          dsimp only at hresult ⊢
          have hconverts : field.Converts library [] := fun hc => (hresult hc).convertible
          rw [ensures_bind]
          refine (((bindMembers_right hright (bareTag key) key record (fun other ho =>
            hregular.fits rank hrecord (hf other (List.mem_cons_of_mem _ ho))) hregular hleads.sound
              hleads.settled).partially).and
                (ih (fun other ho => hf other (List.mem_cons_of_mem _ ho))
                hleads.sound hleads.settled hexplores.thorough fun other ho =>
                  hr other (.later hconverts ho))).mono fun result session'' hrest => ?_
          obtain ⟨⟨hleads', -⟩, hexplores', hresult'⟩ := hrest
          cases result with
          | error error =>
              refine ⟨hexplores.trans hexplores', fun avoided havoided other ho => ?_⟩
              cases ho with
              | first => exact hfollowed.mono hexplores'.begun
              | later _ ho =>
                  refine hresult' avoided (havoided.imp (fun he => ?_) (And.imp_right fun he => ?_))
                    other ho
                  · rw [he, hleads.grows.inProgress]
                  · have hle := hleads.grows.meetings
                    have hle' := hleads'.grows.meetings
                    omega
          | ok outcomes =>
              refine ensures_pure.2 ⟨hexplores.trans hexplores', List.forall_mem_cons.2
                ⟨hfollowed.mono hexplores'.begun, hresult'.1⟩, ?_⟩
              have hfirst := areFair_of_areOf (hof outcome rfl) fun found hfound =>
                hfair found (congrArg Except.ok hfound)
              rw [← List.singleton_append, MemberOutcome.AreFair, List.filter_append]
              exact List.rel_append hfirst hresult'.2

include hclosed in
/-- The members of a record that is reached are followed. -/
theorem bindRecord_explores {key : String} {record : Record}
    (hrecord : library.decls.records.get? key = some record) (hs : session.Sound library)
    (hl : session.Settled []) (ht : session.Thorough library reached) (hreached : reached key) :
    Ensures True library (bindRecord binders key record) session fun result session' =>
      session.Explores library reached session' ∧
        match result with
        | .ok members => (members.key = key ∧ members.name = bareTag key) ∧
          (∀ field ∈ record.flattened, session'.HasFollowed library key record field) ∧
          MemberOutcome.AreFair library key record record.flattened members.outcomes
        | .error _ => session.FollowsUp library key record record.flattened session' := by
  rw [bindRecord, ensures_bind]
  refine (bindMembers_explores hregular hshort hright h hrecord (fun _ hf => hf) hs hl ht
    fun field hf type hn other hv => hclosed hreached hrecord hf hn hv).mono
      fun result session' hm => ?_
  cases result with
  | ok outcomes => exact ⟨hm.1, ⟨rfl, rfl⟩, hm.2⟩
  | error error => exact hm

end Steps

/-- Members with fair outcomes are divided as steady callbacks have it, and the callbacks
    to be written are among those kept. -/
theorem MemberOutcome.AreFair.divides {key : String} {record : Record} {fields : List Field}
    {outcomes : List MemberOutcome}
    (h : MemberOutcome.AreFair library key record fields outcomes) :
    ∃ kept dropped, Divides (fields.filter Field.isBound) kept dropped ∧
      (∀ field ∈ kept, field.IsKept library key record) ∧
      (∀ field ∈ dropped, field.IsDropped library key record) ∧
      (outcomes.filterMap access?).map Access.field = kept.map Field.name ∧
      (outcomes.filterMap dropped?).map Prod.fst = dropped.map Field.name ∧
      ∀ callback ∈ (outcomes.filterMap access?).filterMap Access.callback?, ∃ field ∈ kept,
        ∃ signature, library.decls.functionPointer field.type = some signature ∧ field.name ≠ "" ∧
          callback.name = (Demand.ofMember key record field signature).id := by
  unfold MemberOutcome.AreFair at h
  generalize fields.filter Field.isBound = bound at h ⊢
  induction h with
  | nil => exact ⟨[], [], .nil, List.forall_mem_nil _, List.forall_mem_nil _, rfl, rfl,
      List.forall_mem_nil _⟩
  | @cons field outcome fields outcomes ho _ ih =>
      obtain ⟨kept, dropped, hdivides, hkept, hdropped, hfields, hnames, hcallbacks⟩ := ih
      cases outcome with
      | reached access =>
          refine ⟨field :: kept, dropped, .left hdivides, List.forall_mem_cons.2 ⟨ho.2.1, hkept⟩,
            hdropped, congrArg₂ List.cons ho.1.field_eq hfields, hnames, fun callback hc => ?_⟩
          rcases List.mem_filterMap.1 hc with ⟨other, hother, hcallback⟩
          rcases List.mem_cons.1 hother with rfl | hother
          · exact ⟨field, List.mem_cons_self .., ho.2.2 callback hcallback⟩
          · obtain ⟨found, hf, hfound⟩ := hcallbacks callback
              (List.mem_filterMap.2 ⟨other, hother, hcallback⟩)
            exact ⟨found, List.mem_cons_of_mem _ hf, hfound⟩
      | dropped name diagnostic =>
          exact ⟨kept, field :: dropped, .right hdivides, hkept,
            List.forall_mem_cons.2 ⟨ho.2, hdropped⟩, hfields,
              congrArg₂ List.cons ho.1.1 hnames, hcallbacks⟩

end ScriptBind
