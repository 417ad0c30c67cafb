import ScriptBind.Proofs.Operations

/-!
# Whatever Is Begun Is Concluded

Binding a record can lead to others to any depth, can fail anywhere, and can
put records off until nothing is being bound. When an operation is over that
started with nothing being bound and nothing put off, all of this is undone or
completed: again nothing is being bound and nothing is put off, and each record
that was begun meanwhile has an outcome.

In the middle of an operation less can be said. A record that was begun has an
outcome or is put off, and what is put off is taken up again only to be bound.
The difference is made at the outermost record, after which everything is bound
once more that was put off. What is bound then cannot be put off again, because
nothing is being bound around it that it could be waiting for.

## Main definitions

* `Session.Pursues`: A session in which nothing that was begun is forgotten.
* `Session.Concludes`: The same, and nothing stays put off that was not.
* `Binders.Conclude`: Ways to resolve and bind that conclude what they begin.

## Theorems

* `bindFresh_pursues`: A record that is bound is not forgotten.
* `retryDeferred_drains`: After all rounds nothing is put off.
* `concludes_carries`: Binding concludes what it begins.
-/

namespace ScriptBind

open BindM

namespace Session

/-- A record has an outcome or is put off. -/
def Minds (session : Session) (key : String) : Prop :=
  session.structs.contains key ∨ session.deferred.contains key

/-- A later session in which nothing that was begun is forgotten. -/
structure Pursues (session session' : Session) : Prop where
  /-- The same records are being bound. -/
  inProgress : session'.inProgress = session.inProgress
  /-- Outcomes stay. -/
  structs : ∀ key, session.structs.contains key → session'.structs.contains key
  /-- What was put off has an outcome or still is. -/
  deferred : ∀ key, session.deferred.contains key → session'.Minds key
  /-- So has what was begun. -/
  begun : ∃ started, session'.begun = session.begun ++ started ∧ ∀ key ∈ started, session'.Minds key

/-- A later session in which nothing is put off either, if nothing was being
    bound and nothing was put off. -/
structure Concludes (session session' : Session) : Prop extends Pursues session session' where
  /-- Nothing is put off. -/
  drained : session.inProgress = [] → session.deferred.rows = [] → session'.deferred.rows = []

variable {session session' session'' : Session}

/-- Where nothing is put off, a record that is not forgotten has an outcome. -/
theorem Minds.contains {key : String} (h : session.Minds key) (hd : session.deferred.rows = []) :
    session.structs.contains key := by
  refine h.resolve_right fun hc => ?_
  rw [Table.contains, Table.get?, hd] at hc
  cases hc

theorem Pursues.minds (h : session.Pursues session') {key : String} (hk : session.Minds key) :
    session'.Minds key :=
  hk.elim (fun hc => Or.inl (h.structs key hc)) (h.deferred key)

theorem Pursues.trans (h : session.Pursues session') (h' : session'.Pursues session'') :
    session.Pursues session'' where
  inProgress := h'.inProgress.trans h.inProgress
  structs := fun key hc => h'.structs key (h.structs key hc)
  deferred := fun key hc => h'.minds (h.deferred key hc)
  begun := by
    obtain ⟨started, hs, hall⟩ := h.begun
    obtain ⟨started', hs', hall'⟩ := h'.begun
    refine ⟨started ++ started', by rw [hs', hs, List.append_assoc], fun key hk => ?_⟩
    rcases List.mem_append.1 hk with hk | hk
    · exact h'.minds (hall key hk)
    · exact hall' key hk

/-- A change of other things. -/
theorem Pursues.of_eq (hp : session'.inProgress = session.inProgress)
    (hs : session'.structs = session.structs) (hd : session'.deferred = session.deferred)
    (hb : session'.begun = session.begun) : session.Pursues session' where
  inProgress := hp
  structs := fun key hc => by rw [hs]; exact hc
  deferred := fun key hc => Or.inr (by rw [hd]; exact hc)
  begun := ⟨[], by rw [hb, List.append_nil], fun key hk => by cases hk⟩

theorem Concludes.of_eq (hp : session'.inProgress = session.inProgress)
    (hs : session'.structs = session.structs) (hd : session'.deferred = session.deferred)
    (hb : session'.begun = session.begun) : session.Concludes session' :=
  { Pursues.of_eq hp hs hd hb with drained := fun _ hn => by rw [hd]; exact hn }

instance : IsPreorder Session Concludes where
  refl := fun _ => .of_eq rfl rfl rfl rfl
  trans := fun _ _ _ h h' =>
    { h.toPursues.trans h'.toPursues with
      drained := fun hp hd => h'.drained (h.inProgress.trans hp) (h.drained hp hd) }

theorem Addition.concludes {library : Library} {scope : Scope library}
    (h : session.Addition scope session') : session.Concludes session' := by
  cases h with
  | @typedef name underlying conversion =>
      obtain ⟨registry, aliases, he⟩ :=
        (session.addConversion name conversion).shareWithAlias_eq name underlying.spelling
      rw [he]
      exact .of_eq rfl rfl rfl rfl
  | learn => exact .of_eq rfl rfl rfl rfl
  | array => exact .of_eq rfl rfl rfl rfl
  | settleFailed => exact .of_eq rfl rfl rfl rfl
  | write => exact .of_eq rfl rfl rfl rfl
  | stub => exact .of_eq rfl rfl rfl rfl
  | wrap => exact .of_eq rfl rfl rfl rfl
  | emit => exact .of_eq rfl rfl rfl rfl
  | reject => exact .of_eq rfl rfl rfl rfl

theorem pursues_settleStruct (session : Session) (key : String) (outcome : StructOutcome) :
    session.Pursues (session.settleStruct key outcome) where
  inProgress := rfl
  structs := fun other hc => by
    rw [settleStruct, Table.contains_set, hc, Bool.or_true]
  deferred := fun _ hc => Or.inr hc
  begun := ⟨[], (List.append_nil _).symm, fun _ hk => by cases hk⟩

theorem pursues_defer (session : Session) (key : String) (deferred : DeferredStruct) :
    session.Pursues (session.defer key deferred) where
  inProgress := rfl
  structs := fun _ hc => hc
  deferred := fun _ hc => Or.inr (Table.contains_of_initial (Table.prefix_add ..) hc)
  begun := ⟨[], (List.append_nil _).symm, fun _ hk => by cases hk⟩

/-- A record that is bound has an outcome. -/
theorem pursues_commit (session : Session) (typedef : Option MemberTypedef)
    (members : BoundMembers) :
    session.Pursues (session.commit typedef members) ∧
      (session.commit typedef members).Minds members.key := by
  rw [commit_eq]
  refine ⟨(session.pursues_settleStruct members.key (.done members.bound)).trans
    (.of_eq rfl rfl rfl rfl), Or.inl ?_⟩
  rw [Table.contains_set, decide_eq_true rfl, Bool.true_or]

/-- A record that cannot be bound has an outcome or is put off. -/
theorem pursues_conclude (session : Session) (key : String) (deferred : DeferredStruct)
    (meetings : Nat) (error : BindError) :
    session.Pursues (session.conclude key deferred meetings error) ∧
      (session.conclude key deferred meetings error).Minds key := by
  rw [conclude]
  split
  · refine ⟨session.pursues_defer key deferred, Or.inr ?_⟩
    rw [defer, Table.contains_add, decide_eq_true rfl, Bool.or_true]
  · refine ⟨(session.pursues_settleStruct key (.failed error)).trans (.of_eq rfl rfl rfl rfl),
      Or.inl ?_⟩
    rw [reject, settleStruct, Table.contains_set, decide_eq_true rfl, Bool.true_or]

/-- A record is entered, its members are bound, and it is left and concluded. -/
theorem Pursues.around {key : String} (hk : key ∉ session.inProgress)
    (h : (session.enter key).Pursues session') (h' : (session'.leave key).Pursues session'')
    (hm : session''.Minds key) : session.Pursues session'' where
  inProgress := h'.inProgress.trans (inProgress_leave hk h.inProgress)
  structs := fun other hc => h'.structs other (h.structs other hc)
  deferred := fun other hc => h'.minds (h.deferred other hc)
  begun := by
    obtain ⟨started, hs, hall⟩ := h.begun
    obtain ⟨started', hs', hall'⟩ := h'.begun
    refine ⟨[key] ++ started ++ started', ?_, fun other ho => ?_⟩
    · rw [hs', show (session'.leave key).begun = session'.begun from rfl, hs]
      simp only [enter, List.append_assoc]
    · rcases List.mem_append.1 ho with ho | ho
      · rcases List.mem_append.1 ho with ho | ho
        · rwa [List.mem_singleton.1 ho]
        · exact h'.minds (hall other ho)
      · exact hall' other ho

/-- What is taken up again and then has an outcome was not forgotten. -/
theorem Pursues.taken {key : String} (h : (session.takeDeferred key).Pursues session')
    (hm : session'.Minds key) : session.Pursues session' where
  inProgress := h.inProgress
  structs := h.structs
  deferred := fun other hc => by
    by_cases he : other = key
    · rwa [he]
    · exact h.deferred other (Table.contains_erase he hc)
  begun := h.begun

end Session

/-- Ways to resolve and bind that conclude what they begin: at the outermost
    record, its own outcome is there afterwards. -/
structure Binders.Conclude (library : Library) (binders : Binders) : Prop where
  /-- What was begun is concluded. -/
  keep : binders.Keep (Scope.all library) ((Scope.all library).Guarded Session.Concludes)
  /-- A record that is bound while nothing else is, has an outcome. -/
  outcome : ∀ key record typedef session, session.inProgress = [] →
    Ensures True library (binders.bind key record typedef) session
      fun _ session' => session'.structs.contains key

section Binding

variable {library : Library} {binders : Binders} (h : binders.Conclude library)

include h

/-- A record that is bound is not forgotten. -/
theorem bindFresh_pursues (key : String) (deferred : DeferredStruct) (session : Session)
    (hk : key ∉ session.inProgress) :
    Ensures True library (bindFresh binders key deferred) session
      fun result session' => (∃ outcome, result = .ok outcome) ∧ session.Pursues session' ∧
        session'.Minds key := by
  have hrecord : (Scope.all library).records key deferred.record := trivial
  have hmembers := bindRecord_brings (fun _ _ _ => .of_eq rfl rfl rfl rfl) h.keep.parts hrecord
    (session.enter key) (session.enter key).within_all
  simp only [bindFresh, ensures_bind, ensures_look, ensures_update, ensures_attempt]
  refine hmembers.mono fun result session' hall => ?_
  obtain ⟨⟨-, hconcludes⟩, hmade⟩ := hall
  cases result with
  | ok members =>
      simp only [ensures_bind, ensures_update, ensures_pure]
      obtain ⟨rfl, -⟩ := hmade members rfl
      obtain ⟨hcommit, hminds⟩ :=
        Session.pursues_commit (session'.leave members.key) deferred.typedef members
      exact ⟨⟨_, rfl⟩, .around hk hconcludes.toPursues hcommit hminds, hminds⟩
  | error error =>
      simp only [ensures_bind, ensures_update, ensures_pure]
      obtain ⟨hconclude, hminds⟩ :=
        Session.pursues_conclude (session'.leave key) key deferred session.meetings error
      exact ⟨⟨_, rfl⟩, .around hk hconcludes.toPursues hconclude hminds, hminds⟩

/-- After all rounds nothing is put off. -/
theorem retryDeferred_drains (rounds : Nat) (session : Session) (hp : session.inProgress = []) :
    Ensures True library (retryDeferred binders rounds) session
      fun result session' => result = .ok () ∧ session.Pursues session' ∧
        session'.deferred.rows = [] := by
  induction rounds generalizing session with
  | zero => trivial
  | succ rounds ih =>
      rw [retryDeferred, ensures_bind, ensures_look]
      dsimp only
      split
      · next hnone =>
          exact ensures_pure.2 ⟨rfl, .of_eq rfl rfl rfl rfl, List.head?_eq_none_iff.1 hnone⟩
      · next key deferred _ =>
          simp only [ensures_bind, ensures_update, ensures_attempt]
          have hkeep := Scope.keeps_all.1 (h.keep.bind key deferred.record deferred.typedef trivial)
          refine ((hkeep (session.takeDeferred key)).and
            (h.outcome key deferred.record deferred.typedef _ hp)).mono fun _ session' hall => ?_
          obtain ⟨hconcludes, houtcome⟩ := hall
          -- Nothing else is being bound, so the record cannot be put off again.
          have htaken : session.Pursues session' := .taken hconcludes.toPursues (Or.inl houtcome)
          refine (ih session' (htaken.inProgress.trans hp)).mono fun _ _ hrest => ?_
          obtain ⟨hresult, hpursues, hrows⟩ := hrest
          exact ⟨hresult, htaken.trans hpursues, hrows⟩

/-- Binding a record concludes what it begins. -/
theorem bindStep_concludes (rounds : Nat) (key : String) (record : Record)
    (typedef : Option MemberTypedef) (session : Session) :
    Ensures True library (bindStep rounds binders key record typedef) session
      fun _ session' => session.Concludes session' ∧
        (session.inProgress = [] → session'.structs.contains key) := by
  rw [bindStep, ensures_bind, ensures_look]
  dsimp only
  split
  · next bound _ hlook =>
      rw [Prod.mk.injEq] at hlook
      exact ensures_pure.2 ⟨refl_of _ _, fun _ => Option.isSome_iff_exists.2 ⟨_, hlook.1⟩⟩
  · next error _ hlook =>
      rw [Prod.mk.injEq] at hlook
      exact ensures_fail.2 ⟨refl_of _ _, fun _ => Option.isSome_iff_exists.2 ⟨_, hlook.1⟩⟩
  · next hlook =>
      rw [Prod.mk.injEq, List.contains_iff_mem] at hlook
      rw [ensures_bind, ensures_update]
      refine ensures_fail.2 ⟨.of_eq rfl rfl rfl rfl, fun hp => ?_⟩
      rw [hp] at hlook
      cases hlook.2
  · next hlook =>
      rw [Prod.mk.injEq] at hlook
      have hk : key ∉ session.inProgress := by simpa using hlook.2
      rw [ensures_bind]
      refine (bindFresh_pursues h key ⟨record, typedef⟩ session hk).mono
        fun result session' hall => ?_
      obtain ⟨⟨outcome, rfl⟩, hpursues, hminds⟩ := hall
      dsimp only
      rw [ensures_bind, ensures_look]
      dsimp only
      split
      · next hempty =>
          -- The outermost record: everything put off is bound once more.
          rw [ensures_bind]
          refine (retryDeferred_drains h rounds session' (List.isEmpty_iff.1 hempty)).mono
            fun answer session'' hall => ?_
          obtain ⟨rfl, hrest, hrows⟩ := hall
          dsimp only
          have houtcome := (hrest.minds hminds).contains hrows
          have hboth : session.Concludes session'' :=
            { hpursues.trans hrest with drained := fun _ _ => hrows }
          rw [ensures_bind, ensures_look]
          dsimp only
          split
          · exact ensures_pure.2 ⟨hboth, fun _ => houtcome⟩
          · exact ensures_ofExcept.2 ⟨hboth, fun _ => houtcome⟩
      · next hbusy =>
          -- A record inside another one: it may still be put off.
          have hne : session.inProgress ≠ [] := by
            rw [← hpursues.inProgress]
            exact fun he => hbusy (List.isEmpty_iff.2 he)
          exact ensures_ofExcept.2
            ⟨{ hpursues with drained := fun hp => absurd hp hne }, fun hp => absurd hp hne⟩

end Binding

theorem bindersWithin_conclude (library : Library) (levels : Nat) :
    (bindersWithin levels).Conclude library := by
  induction levels with
  | zero =>
      refine ⟨⟨fun _ _ _ => Keeps.ofEndless, fun _ _ _ _ => Keeps.ofEndless,
        fun _ _ _ _ => trivial⟩, ?_⟩
      exact fun _ _ _ _ _ => trivial
  | succ levels ih =>
      refine ⟨⟨fun links type ht => ?_, fun key record typedef _ => ?_, ?_⟩,
        fun key record typedef session hp => ?_⟩
      · exact resolveStep_keeps (Session.allows_of_additions fun ha _ => ha.concludes)
          ih.keep.parts links ht
      · exact Scope.keeps_all.2 fun session =>
          (bindStep_concludes ih levels key record typedef session).mono fun _ _ hall => hall.1
      · exact (bindersWithin_grow (levels + 1)).verdict
      · exact (bindStep_concludes ih levels key record typedef session).mono fun _ _ hall =>
          hall.2 hp

/-- Binding concludes what it begins. -/
theorem concludes_carries (library : Library) :
    (Scope.all library).Carries Session.Concludes :=
  .of_allows (Session.allows_of_additions fun ha _ => ha.concludes).toAllowsLearning
    (fun ha _ => ha.concludes) fun levels => (bindersWithin_conclude library levels).keep.parts

/-- An operation on a session in which nothing is being bound and nothing is put
    off leaves it so, and every record that was begun meanwhile has an outcome. -/
theorem after_concludes (library : Library) (operation : Operation) {session : Session}
    (hp : session.inProgress = []) (hd : session.deferred.rows = []) :
    (operation.after library session).inProgress = [] ∧
      (operation.after library session).deferred.rows = [] ∧
      ∃ started, (operation.after library session).begun = session.begun ++ started ∧
        ∀ key ∈ started, (operation.after library session).structs.contains key := by
  have hconcludes := ((concludes_carries library).after operation.within_all session.within_all).2
  have hrows := hconcludes.drained hp hd
  obtain ⟨started, hstarted, hminds⟩ := hconcludes.begun
  exact ⟨hconcludes.inProgress.trans hp, hrows, started, hstarted, fun key hk =>
    (hminds key hk).contains hrows⟩

end ScriptBind
