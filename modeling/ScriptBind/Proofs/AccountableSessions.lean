import ScriptBind.Proofs.BindingGrowth
import ScriptBind.Proofs.Demands

/-!
# Accounts That Stay in Order

Each change of a session leaves it accountable. Most changes have nothing to do
with callbacks and only lengthen the code; one lemma serves for all of them. The
others are a record bound, a callback that failed and a trampoline written, and
each of them asks for what it records to come from somewhere.

## Theorems

* `Accountable.of_callbacks_eq`: Changes that leave callbacks alone.
* `Accountable.commit`, `Accountable.settleFailed`, `Accountable.write`: The
  changes of callbacks.
* `accountable_start`: Nothing is recorded at the start.
* `check_meets`: A callback that can be marshaled is the one demanded.
-/

namespace ScriptBind

namespace Session

variable {library : Library} {pass : Pass library} {session session' : Session}

namespace Accountable

/-- A callback whose trampoline counts as written is defined in the code. -/
theorem defined (h : session.Accountable pass) {id : String} {callback : Callback}
    (he : session.callbacks.get? id = some (.emitted callback)) :
    id ∈ definedNames session.body := by
  have hdefined := (h.written id callback he).defined
  rwa [(h.vouching.emitted id callback he).name] at hdefined

/-- A change that leaves callbacks alone, writes code, reports and puts nothing off. -/
theorem of_callbacks_eq (h : session.Accountable pass)
    (hc : session'.callbacks = session.callbacks) (hb : session.body <+: session'.body)
    (hr : session.diagnostics <+: session'.diagnostics)
    (hd : ∀ row ∈ session'.deferred.rows, row ∈ session.deferred.rows) :
    session'.Accountable pass where
  vouching :=
    { pending := by rw [hc]; exact h.vouching.pending
      emitted := by rw [hc]; exact h.vouching.emitted
      deferred := fun key deferred hm => h.vouching.deferred key deferred (hd _ hm) }
  failed := by
    rw [hc]
    exact fun id error hf => (h.failed id error hf).mono hr
  written := by
    rw [hc]
    exact fun id callback he => (h.written id callback he).mono hb

theorem emit (h : session.Accountable pass) (code : Section) :
    (session.emit code).Accountable pass :=
  h.of_callbacks_eq rfl (List.prefix_append ..) (List.prefix_refl _) fun _ hm => hm

theorem reject (h : session.Accountable pass) (diagnostic : Diagnostic) :
    (session.reject diagnostic).Accountable pass :=
  h.of_callbacks_eq rfl (List.prefix_append ..) (List.prefix_append ..) fun _ hm => hm

theorem defer (h : session.Accountable pass) {key : String} {deferred : DeferredStruct}
    (hk : Bindable library key deferred.record) :
    (session.defer key deferred).Accountable pass :=
  { h with
    vouching :=
      { h.vouching with
        deferred := by
          intro other row hm
          rw [Session.defer, Table.add_rows] at hm
          rcases List.mem_append.1 hm with hm | hm
          · exact h.vouching.deferred other row hm
          · split at hm
            · cases hm
            · obtain ⟨rfl, rfl⟩ := Prod.mk.inj (List.mem_singleton.1 hm)
              exact hk } }

/-- A record that fails or is put off. -/
theorem conclude (h : session.Accountable pass) {key : String} {deferred : DeferredStruct}
    (hk : Bindable library key deferred.record) (meetings : Nat) (error : BindError) :
    (session.conclude key deferred meetings error).Accountable pass := by
  rw [Session.conclude]
  split
  · exact h.defer hk
  · have hs : (session.settleStruct key (.failed error)).Accountable pass :=
      h.of_callbacks_eq rfl (List.prefix_refl _) (List.prefix_refl _) fun _ hm => hm
    exact hs.reject _

/-- A callback that has failed. -/
theorem settleFailed (h : session.Accountable pass) {id : String} {error : BindError}
    (hb : Blamed pass session.diagnostics id error) :
    (session.settleCallback id (.failed error)).Accountable pass where
  vouching :=
    { pending := fun other callback ho =>
        h.vouching.pending other callback (get?_of_settleCallback ho (by simp))
      emitted := fun other callback ho =>
        h.vouching.emitted other callback (get?_of_settleCallback ho (by simp))
      deferred := h.vouching.deferred }
  failed := by
    intro other error' ho
    rcases Table.eq_of_get?_set ho with hold | ⟨rfl, hnew⟩
    · exact h.failed other error' hold
    · obtain rfl := CallbackState.failed.inj hnew
      exact hb
  written := fun other callback ho =>
    h.written other callback (get?_of_settleCallback ho (by simp))

/-- A trampoline that has been written. -/
theorem write (h : session.Accountable pass) {trampoline : Trampoline} {callback : Callback}
    (ht : trampoline.callback = callback) (hv : Vouched library callback.name callback) :
    ((session.emit (.trampoline trampoline)).settleCallback callback.name
      (.emitted callback)).Accountable pass := by
  have hemit := h.emit (.trampoline trampoline)
  refine ⟨⟨fun other waiting ho => ?_, fun other written ho => ?_, hemit.vouching.deferred⟩,
    fun other error ho => ?_, fun other written ho => ?_⟩
  · exact hemit.vouching.pending other waiting (get?_of_settleCallback ho (by simp))
  · rcases Table.eq_of_get?_set ho with hold | ⟨rfl, hnew⟩
    · exact hemit.vouching.emitted other written hold
    · obtain rfl := CallbackState.emitted.inj hnew
      exact hv
  · exact hemit.failed other error (get?_of_settleCallback ho (by simp))
  · rcases Table.eq_of_get?_set ho with hold | ⟨-, hnew⟩
    · exact hemit.written other written hold
    · -- The section just written is the trampoline.
      obtain rfl := CallbackState.emitted.inj hnew
      exact ⟨trampoline, List.mem_append_right _ (List.mem_singleton_self _), ht⟩

/-- A record that has been bound. -/
theorem commit (h : session.Accountable pass) {members : BoundMembers}
    (hm : members.Fits pass session.diagnostics) (typedef : Option MemberTypedef) :
    (session.commit typedef members).Accountable pass := by
  rw [commit_eq]
  have hb : session.body <+: session.body ++ committed typedef members := List.prefix_append ..
  -- An outcome is either an old one or that of a callback now awaited.
  have hold :
      ∀ id state, (awaitAll session.callbacks members.accessor.callbacks).get? id = some state →
      session.callbacks.get? id = some state ∨
        ∃ callback, state = .pending callback ∧ Vouched library id callback := by
    intro id state hs
    cases hk : session.callbacks.get? id with
    | some other =>
        rw [get?_awaitAll_of_some hk] at hs
        exact Or.inl hs
    | none =>
        rw [get?_awaitAll_of_none hk] at hs
        obtain ⟨callback, hf, rfl⟩ := Option.map_eq_some_iff.1 hs
        obtain ⟨demand, -, -, hv⟩ := hm.vouched (List.mem_of_find?_eq_some hf)
        have hid : callback.name = id := by simpa using List.find?_some hf
        rw [← hv.name, hid] at hv
        exact Or.inr ⟨callback, rfl, hv⟩
  refine ⟨⟨?_, ?_, h.vouching.deferred⟩, ?_, ?_⟩
  · intro id callback hs
    rcases hold id _ hs with ho | ⟨other, he, hv⟩
    · exact h.vouching.pending id callback ho
    · rw [CallbackState.pending.inj he]
      exact hv
  · intro id callback hs
    rcases hold id _ hs with ho | ⟨other, he, -⟩
    · exact h.vouching.emitted id callback ho
    · cases he
  · intro id error hs
    rcases hold id _ hs with ho | ⟨other, he, -⟩
    · exact (h.failed id error ho).mono (List.prefix_append ..)
    · cases he
  · intro id callback hs
    rcases hold id _ hs with ho | ⟨other, he, -⟩
    · exact (h.written id callback ho).mono hb
    · cases he

end Accountable

/-- Nothing is recorded at the start. -/
theorem accountable_start (pass : Pass library) (naming : Naming) :
    (Session.start naming).Accountable pass := by
  have hc : (Session.start naming).callbacks.rows = [] := by rw [start]; rfl
  have hd : (Session.start naming).deferred.rows = [] := by rw [start]; rfl
  have hn : ∀ id state, (Session.start naming).callbacks.get? id ≠ some state := by
    intro id state hs
    have hm := Table.mem_of_get? hs
    rw [hc] at hm
    cases hm
  refine ⟨⟨fun id _ hs => absurd hs (hn id _), fun id _ hs => absurd hs (hn id _), ?_⟩,
    fun id _ hs => absurd hs (hn id _), fun id _ hs => absurd hs (hn id _)⟩
  intro key deferred hm
  rw [hd] at hm
  cases hm

end Session

open BindM

/-- A callback that can be marshaled is the one that the place demands. -/
theorem check_meets (library : Library) (resolve : CType → BindM Conversion) (demand : Demand) :
    Answers library (demand.MetBy library) (demand.check resolve) := by
  rw [Demand.check, checkCallback]
  by_cases hvariadic : demand.signature.isVariadic
  · rw [if_pos hvariadic]
    exact Answers.fail _
  · rw [if_neg hvariadic]
    intro session
    rw [ensures_bind, ensures_read]
    dsimp only
    rw [ensures_bind, ensures_ofExcept]
    cases ho : library.callbackOwner demand.signature demand.typeName demand.id demand.expected with
    | error error =>
        intro callback hc
        cases hc
    | ok found =>
        obtain ⟨owner, carrier⟩ := found
        refine Answers.bind (Answers.any _) (fun _ _ => Answers.pure ?_) session
        exact ⟨rfl, rfl, ho, by simpa using hvariadic⟩

end ScriptBind
