import ScriptBind.Proofs.Demands
import ScriptBind.Proofs.Extents

/-!
# Tidy Sessions

A record that is put off is bound once more, and only once: it is not put off
again. Otherwise two records that need each other could be put off in turns
forever. What keeps this from happening is that only records are put off that
have not been bound once more, and that a record is taken from those put off
before it is.

Callbacks have to be kept apart as well. What a callback returns is registered
under one name, whatever the callback, and no member of a record may wait under
this name; else the trampoline of the one would be written for the other.

A session is tidy if both is the case, and it fits an extent if moreover the
extent holds what the session has put off.

## Main definitions

* `Session.Tidy`: Nothing is put off twice, and callbacks go by their names.
* `Session.Fits`: A tidy session whose records are within an extent.

## Theorems

* `Tidy.conclude`, `Tidy.takeDeferred`: A record is put off and taken up again.
* `Tidy.commit`: A record is bound.
* `tidy_start`: Nothing is put off at the start.
-/

namespace ScriptBind

namespace Session

variable {session session' : Session}

/-- A session in which nothing is put off twice, and callbacks go by their
    names. -/
structure Tidy (session : Session) : Prop where
  /-- No record is bound once more a second time. -/
  once : session.retried.Nodup
  /-- What is put off has still to be bound once more. -/
  waiting : ∀ row ∈ session.deferred.rows, row.1 ∉ session.retried
  /-- A callback that waits has the name it waits under, which is not that of
      results. -/
  pending : ∀ id callback, session.callbacks.get? id = some (.pending callback) →
    callback.name = id ∧ id ≠ resultId
  /-- A callback with a trampoline has the name it is known by. -/
  emitted : ∀ id callback, session.callbacks.get? id = some (.emitted callback) →
    callback.name = id

namespace Tidy

/-- A change of other things. -/
theorem of_eq (h : session.Tidy) (hc : session'.callbacks = session.callbacks)
    (hr : session'.retried = session.retried) (hd : session'.deferred = session.deferred) :
    session'.Tidy where
  once := by rw [hr]; exact h.once
  waiting := by rw [hr, hd]; exact h.waiting
  pending := by rw [hc]; exact h.pending
  emitted := by rw [hc]; exact h.emitted

/-- A callback that has failed is not known by any name. -/
theorem settleFailed (h : session.Tidy) (id : String) (error : BindError) :
    (session.settleCallback id (.failed error)).Tidy where
  once := h.once
  waiting := h.waiting
  pending := fun other callback ho =>
    h.pending other callback (get?_of_settleCallback ho (by simp))
  emitted := fun other callback ho =>
    h.emitted other callback (get?_of_settleCallback ho (by simp))

/-- A trampoline is written under the name of its callback. -/
theorem write (h : session.Tidy) (callback : Callback) :
    (session.settleCallback callback.name (.emitted callback)).Tidy where
  once := h.once
  waiting := h.waiting
  pending := fun other waiting ho =>
    h.pending other waiting (get?_of_settleCallback ho (by simp))
  emitted := fun other written ho => by
    rcases Table.eq_of_get?_set ho with hold | ⟨hname, hnew⟩
    · exact h.emitted other written hold
    · rw [← CallbackState.emitted.inj hnew, hname]

/-- A record is put off only if it has still to be bound once more. -/
theorem conclude (h : session.Tidy) (key : String) (deferred : DeferredStruct) (meetings : Nat)
    (error : BindError) : (session.conclude key deferred meetings error).Tidy := by
  rw [Session.conclude]
  split
  · next hput =>
      rw [Bool.and_eq_true, Bool.not_eq_true', List.contains_eq_mem,
        decide_eq_false_iff_not] at hput
      refine ⟨h.once, fun row hm => ?_, h.pending, h.emitted⟩
      rw [Session.defer, Table.add_rows] at hm
      rcases List.mem_append.1 hm with hm | hm
      · exact h.waiting row hm
      · split at hm
        · cases hm
        · rw [List.mem_singleton.1 hm]
          exact hput.2
  · exact h.of_eq rfl rfl rfl

/-- A record is taken from those put off before it is bound once more. -/
theorem takeDeferred (h : session.Tidy) {key : String} {deferred : DeferredStruct}
    (hm : (key, deferred) ∈ session.deferred.rows) : (session.takeDeferred key).Tidy := by
  have hretried : (session.takeDeferred key).retried = session.retried ++ [key] := rfl
  refine ⟨?_, fun row hrow => ?_, h.pending, h.emitted⟩
  · rw [hretried]
    exact Table.nodup_snoc h.once (h.waiting _ hm)
  · obtain ⟨hold, hne⟩ := List.mem_filter.1 hrow
    rw [hretried, List.mem_append, List.mem_singleton, not_or]
    exact ⟨h.waiting row hold, by simpa using hne⟩

/-- The callbacks of a record wait under names that are not that of results. -/
theorem commit (h : session.Tidy) {members : BoundMembers}
    (hm : ∀ callback ∈ members.accessor.callbacks, callback.name ≠ resultId)
    (typedef : Option MemberTypedef) : (session.commit typedef members).Tidy := by
  rw [commit_eq]
  refine ⟨h.once, h.waiting, fun id callback hid => ?_, fun id callback hid => ?_⟩
  · cases hn : session.callbacks.get? id with
    | some state =>
        rw [get?_awaitAll_of_some hn] at hid
        exact h.pending id callback (by rw [hn]; exact hid)
    | none =>
        -- The callback is one of the record's own.
        rw [get?_awaitAll_of_none hn] at hid
        obtain ⟨other, hf, ho⟩ := Option.map_eq_some_iff.1 hid
        obtain rfl := CallbackState.pending.inj ho
        have hname : other.name = id := by simpa using List.find?_some hf
        exact ⟨hname, hname ▸ hm other (List.mem_of_find?_eq_some hf)⟩
  · cases hn : session.callbacks.get? id with
    | some state =>
        rw [get?_awaitAll_of_some hn] at hid
        exact h.emitted id callback (by rw [hn]; exact hid)
    | none =>
        rw [get?_awaitAll_of_none hn] at hid
        obtain ⟨other, -, ho⟩ := Option.map_eq_some_iff.1 hid
        cases ho

end Tidy

theorem tidy_start (naming : Naming) : (start naming).Tidy where
  once := List.nodup_nil
  waiting := fun row hm => by cases hm
  pending := fun id callback h => by cases h
  emitted := fun id callback h => by cases h

/-- A tidy session whose records are within an extent. -/
structure Fits (extent : Extent) (library : Library) (session : Session) : Prop where
  /-- It is tidy. -/
  tidy : session.Tidy
  /-- The extent holds what is put off. -/
  deferred : ∀ row ∈ session.deferred.rows, extent.Holds library.decls row.1 row.2.record

namespace Fits

variable {extent : Extent} {library : Library}

/-- A change of other things. -/
theorem of_eq (h : session.Fits extent library) (hc : session'.callbacks = session.callbacks)
    (hr : session'.retried = session.retried) (hd : session'.deferred = session.deferred) :
    session'.Fits extent library :=
  ⟨h.tidy.of_eq hc hr hd, by rw [hd]; exact h.deferred⟩

theorem conclude (h : session.Fits extent library) {key : String} {deferred : DeferredStruct}
    (hr : extent.Holds library.decls key deferred.record) (meetings : Nat) (error : BindError) :
    (session.conclude key deferred meetings error).Fits extent library := by
  refine ⟨h.tidy.conclude key deferred meetings error, fun row hm => ?_⟩
  rw [Session.conclude] at hm
  split at hm
  · rw [Session.defer, Table.add_rows] at hm
    rcases List.mem_append.1 hm with hm | hm
    · exact h.deferred row hm
    · split at hm
      · cases hm
      · rw [List.mem_singleton.1 hm]
        exact hr
  · exact h.deferred row hm

theorem takeDeferred (h : session.Fits extent library) {key : String} {deferred : DeferredStruct}
    (hm : (key, deferred) ∈ session.deferred.rows) :
    (session.takeDeferred key).Fits extent library :=
  ⟨h.tidy.takeDeferred hm, fun row hrow => h.deferred row (List.mem_filter.1 hrow).1⟩

theorem commit (h : session.Fits extent library) {members : BoundMembers}
    (hm : ∀ callback ∈ members.accessor.callbacks, callback.name ≠ resultId)
    (typedef : Option MemberTypedef) : (session.commit typedef members).Fits extent library := by
  refine ⟨h.tidy.commit hm typedef, ?_⟩
  rw [commit_eq]
  exact h.deferred

end Fits

end Session

end ScriptBind
