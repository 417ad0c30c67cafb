import Mathlib.Order.Defs.Unbundled
import ScriptBind.Binding.Computation

/-!
# What a Computation Ensures

Reasoning about computations that bind, one step at a time.

A computation ensures a condition if whatever it comes to satisfies it. There
are two readings, and both are needed: a computation that does not come to an
end may be excused, or it may count as a failure to ensure anything. The first
is enough for what holds of every library; the second says in addition that
there is an end. One definition serves for both: it takes the proposition that
a computation without an end is measured by.

Every way of putting computations together has its rule here, and each rule is
an equivalence, so a condition on a whole computation can be rewritten into
conditions on its parts. What a computation is built from is never opened again
after this.

Much of what is to be shown compares the session at the end with the one at the
beginning, whatever the answer: old rows stay, counts do not fall. Such a
comparison goes through a computation part by part as soon as it can be chained,
and `Keeps` is the form in which it does.

## Main definitions

* `BindM.Ensures`: Whatever a computation comes to satisfies a condition.
* `BindM.Answers`: Whatever a computation answers satisfies a condition.
* `BindM.Keeps`: Every session a computation comes to is related to its first.

## Theorems

* `ensures_bind`: One computation after another.
* `ensures_attempt`, `ensures_within`, `ensures_succeeds`: Looking at failures.
* `Ensures.withOutcome`: What a computation ensures is ensured of its outcome.
* `ensures_settled`: A computation made to come to an end.
* `Ensures.mono`, `Ensures.and`: Weaker conditions, and two at once.
* `Keeps.bind`: A relation that can be chained goes through two computations.
-/

namespace ScriptBind

namespace BindM

variable {α β : Type} {endless : Prop} {library : Library} {session : Session}

/-- Whatever a computation comes to from a session satisfies the condition; the
    proposition says what is to hold if it does not come to an end. -/
def Ensures (endless : Prop) (library : Library) (action : BindM α) (session : Session)
    (post : Except BindError α → Session → Prop) : Prop :=
  match action.outcome library session with
  | some (result, session') => post result session'
  | none => endless

variable {post post' : Except BindError α → Session → Prop}

theorem Ensures.mono {action : BindM α} (h : Ensures endless library action session post)
    (hpost : ∀ result session', post result session' → post' result session') :
    Ensures endless library action session post' := by
  unfold Ensures at *
  split at h
  · exact hpost _ _ h
  · exact h

/-- A better excuse. -/
theorem Ensures.excuse {endless' : Prop} {action : BindM α}
    (h : Ensures endless library action session post) (he : endless → endless') :
    Ensures endless' library action session post := by
  unfold Ensures at *
  split at h
  · exact h
  · exact he h

/-- A computation that comes to an end and ensures one condition if it does,
    ensures both. -/
theorem Ensures.and {action : BindM α} (h : Ensures endless library action session post)
    (h' : Ensures True library action session post') :
    Ensures endless library action session fun result session' =>
      post result session' ∧ post' result session' := by
  unfold Ensures at *
  split at h
  · next he => rw [he] at h'; exact ⟨h, h'⟩
  · exact h

/-- A condition that always holds needs an excuse only. -/
theorem ensures_of_forall {action : BindM α} (h : ∀ result session', post result session')
    (he : endless) : Ensures endless library action session post := by
  unfold Ensures
  split
  · exact h _ _
  · exact he

/-- A computation ensures that it comes to what it comes to. -/
theorem ensures_outcome (library : Library) (action : BindM α) (session : Session) :
    Ensures True library action session fun result session' =>
      action.outcome library session = some (result, session') := by
  unfold Ensures
  split
  · next he => exact he
  · trivial

/-- What a computation comes to is at hand together with what it ensures. -/
theorem Ensures.withOutcome {action : BindM α} (h : Ensures endless library action session post) :
    Ensures endless library action session fun result session' =>
      post result session' ∧ action.outcome library session = some (result, session') :=
  h.and (ensures_outcome library action session)

/-- What a computation comes to satisfies what it ensures. -/
theorem Ensures.of_outcome {action : BindM α} {result : Except BindError α} {session' : Session}
    (h : Ensures endless library action session post)
    (ho : action.outcome library session = some (result, session')) : post result session' := by
  rw [Ensures, ho] at h
  exact h

/-- What holds of what a computation comes to, it ensures. -/
theorem ensures_of_outcome {action : BindM α} {result : Except BindError α} {session' : Session}
    (ho : action.outcome library session = some (result, session')) (h : post result session') :
    Ensures endless library action session post := by
  rw [Ensures, ho]
  exact h

/-- What a computation comes to, by its answer. -/
theorem outcome_of_toOption {action : BindM α} {subject : String} {answer : α}
    (h : (action.run subject library session).1.toOption = some answer) :
    action.outcome library session =
      some (.ok answer, (action.run subject library session).2) := by
  have hrun : action.outcome library session = some (action.run subject library session) := by
    cases ho : action.outcome library session with
    | some result => rw [BindM.run, ho, Option.getD_some]
    | none =>
        rw [BindM.run, ho] at h
        cases h
  rw [hrun]
  cases he : (action.run subject library session).1 with
  | error error =>
      rw [he] at h
      cases h
  | ok other =>
      rw [he] at h
      rw [← Option.some.inj h, ← he]

/-- A computation that has no excuse comes to an end. -/
theorem Ensures.exists_outcome {action : BindM α}
    (h : Ensures False library action session post) :
    ∃ result session', action.outcome library session = some (result, session') ∧
      post result session' := by
  unfold Ensures at h
  split at h
  · next result session' he => exact ⟨result, session', he, h⟩
  · exact h.elim

/-- A computation that can come to nothing does not come to an end. -/
theorem Ensures.outcome_eq_none {action : BindM α}
    (h : Ensures True library action session fun _ _ => False) :
    action.outcome library session = none := by
  unfold Ensures at h
  split at h
  · exact h.elim
  · next he => exact he

theorem ensures_pure {answer : α} :
    Ensures endless library (pure answer) session post ↔ post (.ok answer) session := Iff.rfl

theorem ensures_fail {error : BindError} :
    Ensures endless library (fail error) session post ↔ post (.error error) session := Iff.rfl

theorem ensures_read {post : Except BindError Library → Session → Prop} :
    Ensures endless library (read : BindM Library) session post ↔ post (.ok library) session :=
  Iff.rfl

theorem ensures_look {f : Library → Session → α} :
    Ensures endless library (look f) session post ↔ post (.ok (f library session)) session :=
  Iff.rfl

theorem ensures_update {f : Library → Session → Session}
    {post : Except BindError Unit → Session → Prop} :
    Ensures endless library (update f) session post ↔ post (.ok ()) (f library session) := Iff.rfl

/-- One computation after another: the second starts where the first left off,
    and a failure of the first is a failure of both. -/
theorem ensures_bind {action : BindM β} {next : β → BindM α} :
    Ensures endless library (action >>= next) session post ↔
      Ensures endless library action session fun result session' =>
        match result with
        | .ok answer => Ensures endless library (next answer) session' post
        | .error error => post (.error error) session' := by
  unfold Ensures
  rw [outcome_bind]
  cases action.outcome library session with
  | none => exact Iff.rfl
  | some result =>
    obtain ⟨result, session'⟩ := result
    cases result <;> exact Iff.rfl

/-- An attempt answers whatever the computation came to. -/
theorem ensures_attempt {action : BindM β} {post : Except BindError (Except BindError β) →
    Session → Prop} :
    Ensures endless library action.attempt session post ↔
      Ensures endless library action session fun result session' => post (.ok result) session' := by
  have h : action.attempt.outcome library session =
      (action.outcome library session).map fun result => (.ok result.1, result.2) := rfl
  unfold Ensures
  rw [h]
  cases action.outcome library session <;> exact Iff.rfl

theorem ensures_ofExcept {result : Except BindError α} :
    Ensures endless library (ofExcept result) session post ↔ post result session := by
  cases result <;> exact Iff.rfl

theorem mapError_ok {ε ε' : Type} (f : ε → ε') (answer : α) :
    (Except.ok answer : Except ε α).mapError f = .ok answer := rfl

/-- Naming the place of a failure changes the failure only. -/
theorem ensures_within {place : String} {action : BindM α} :
    Ensures endless library (action.within place) session post ↔
      Ensures endless library action session fun result session' =>
        post (result.mapError (BindError.within place)) session' := by
  simp only [within, ensures_bind, ensures_attempt, ensures_ofExcept]

/-- So nothing changes for what is said of the session only. -/
theorem Ensures.within {action : BindM α} {post : Session → Prop}
    (h : Ensures endless library action session fun _ session' => post session') (place : String) :
    Ensures endless library (action.within place) session fun _ session' => post session' :=
  ensures_within.2 h

theorem ensures_succeeds {action : BindM β} {post : Except BindError Bool → Session → Prop} :
    Ensures endless library action.succeeds session post ↔
      Ensures endless library action session fun result session' =>
        post (.ok result.isOk) session' := by
  simp only [succeeds, ensures_bind, ensures_attempt, ensures_pure]

/-- A settled computation needs no excuse unless one waits for it: without an end
    it fails where it started. -/
theorem ensures_settled {subject : String} {action : BindM α} :
    Ensures endless library (action.settled subject) session post ↔
      Ensures (if library.isPatient then endless else post (.error (.endlessType subject)) session)
        library action session post := by
  have h : (action.settled subject).outcome library session =
      if library.isPatient then action.outcome library session
      else some (action.run subject library session) := rfl
  unfold Ensures
  rw [h, run]
  cases library.isPatient <;> cases action.outcome library session <;> exact Iff.rfl

/-- A settled computation, where no end is an excuse as well. -/
theorem Ensures.settled {subject : String} {action : BindM α}
    (h : Ensures True library action session post)
    (hend : post (.error (.endlessType subject)) session) :
    Ensures True library (action.settled subject) session post := by
  rw [ensures_settled]
  refine h.excuse fun _ => ?_
  split
  · exact trivial
  · exact hend

/-- What holds of a session and is kept by every computation of a list, holds
    after all of them. -/
theorem Ensures.forM {β : Type} {P : Session → Prop} {f : β → BindM PUnit} (items : List β)
    (h : ∀ item ∈ items, ∀ session, P session →
      Ensures endless library (f item) session fun _ session' => P session')
    (hs : P session) :
    Ensures endless library (items.forM f) session fun _ session' => P session' := by
  induction items generalizing session with
  | nil => exact hs
  | cons item rest ih =>
      show Ensures endless library (f item >>= fun _ => rest.forM f) session _
      rw [ensures_bind]
      refine (h item (List.mem_cons_self ..) session hs).mono fun result session' hs' => ?_
      cases result with
      | error error => exact hs'
      | ok _ => exact ih (fun other ho => h other (List.mem_cons_of_mem _ ho)) hs'

/-- Whatever a computation answers satisfies a condition, whatever the session. -/
def Answers (library : Library) (P : α → Prop) (action : BindM α) : Prop :=
  ∀ session, Ensures True library action session
    fun result _ => ∀ answer, result = .ok answer → P answer

theorem Answers.pure {P : α → Prop} {answer : α} (h : P answer) :
    Answers library P (Pure.pure answer : BindM α) := by
  intro session other ho
  rw [← Except.ok.inj ho]
  exact h

theorem Answers.fail {P : α → Prop} (error : BindError) :
    Answers library P (BindM.fail error : BindM α) := by
  intro session answer ha
  cases ha

theorem Answers.ofExcept {P : α → Prop} {result : Except BindError α}
    (h : ∀ answer, result = .ok answer → P answer) :
    Answers library P (BindM.ofExcept result) :=
  fun _ => ensures_ofExcept.2 h

/-- What an attempt came to satisfies the condition if it is an answer. -/
theorem Answers.attempt {P : α → Prop} {action : BindM α} (h : Answers library P action) :
    Answers library (fun result => ∀ answer, result = .ok answer → P answer) action.attempt := by
  intro session
  rw [ensures_attempt]
  refine (h session).mono fun result session' ha other ho => ?_
  rw [← Except.ok.inj ho]
  exact ha

/-- Nothing need be known of an answer. -/
theorem Answers.any (action : BindM α) : Answers library (fun _ => True) action :=
  fun _ => ensures_of_forall (fun _ _ _ _ => trivial) trivial

/-- What the second computation answers, knowing what the first has answered. -/
theorem Answers.bind {P : α → Prop} {Q : β → Prop} {action : BindM β} {next : β → BindM α}
    (h : Answers library Q action) (hnext : ∀ answer, Q answer → Answers library P (next answer)) :
    Answers library P (action >>= next) := by
  intro session
  rw [ensures_bind]
  refine (h session).mono fun result session' ha => ?_
  cases result with
  | error error =>
      intro answer he
      cases he
  | ok first => exact hnext first (ha first rfl) session'

/-- Every session that a computation comes to is related to the one it started
    from. -/
def Keeps (library : Library) (R : Session → Session → Prop) (action : BindM α) : Prop :=
  ∀ session, Ensures True library action session fun _ session' => R session session'

variable {R : Session → Session → Prop}

theorem Keeps.ofEndless : Keeps library R (BindM.endless : BindM α) := fun _ => trivial

theorem Keeps.update {f : Library → Session → Session}
    (h : ∀ session, R session (f library session)) : Keeps library R (update f) :=
  fun session => h session

theorem Keeps.attempt {action : BindM β} (h : Keeps library R action) :
    Keeps library R action.attempt :=
  fun session => ensures_attempt.2 (h session)

theorem Keeps.within {action : BindM α} (h : Keeps library R action) (place : String) :
    Keeps library R (action.within place) :=
  fun session => ensures_within.2 (h session)

variable [IsPreorder Session R]

theorem Keeps.pure (answer : α) : Keeps library R (Pure.pure answer : BindM α) :=
  fun session => refl_of R session

theorem Keeps.fail (error : BindError) : Keeps library R (fail error : BindM α) :=
  fun session => refl_of R session

theorem Keeps.look (f : Library → Session → α) : Keeps library R (look f) :=
  fun session => refl_of R session

theorem Keeps.ofExcept (result : Except BindError α) : Keeps library R (ofExcept result) :=
  fun session => ensures_ofExcept.2 (refl_of R session)

/-- What a computation is related to, the sessions it comes to are related to. -/
theorem Keeps.after {action : BindM α} (h : Keeps library R action) {start : Session}
    (hr : R start session) :
    Ensures True library action session fun _ session' => R start session' :=
  (h session).mono fun _ _ hr' => trans_of R hr hr'

/-- A computation without an end leaves the session as it is, so it need not come to
    one. -/
theorem Keeps.run {action : BindM α} (h : Keeps library R action) (subject : String)
    (session : Session) : R session (action.run subject library session).2 := by
  have hk := h session
  rw [BindM.run]
  unfold Ensures at hk
  split at hk
  · next he =>
      rw [he]
      exact hk
  · next he =>
      rw [he]
      exact refl_of R session

/-- A relation that can be chained goes through two computations. -/
theorem Keeps.bind {action : BindM β} {next : β → BindM α} (h : Keeps library R action)
    (hnext : ∀ answer, Keeps library R (next answer)) : Keeps library R (action >>= next) := by
  intro session
  rw [ensures_bind]
  refine (h session).mono (fun result session' hr => ?_)
  cases result with
  | error _ => exact hr
  | ok answer => exact (hnext answer).after hr

theorem Keeps.settled {action : BindM α} (h : Keeps library R action) (subject : String) :
    Keeps library R (action.settled subject) :=
  fun session => (h session).settled (refl_of R session)

theorem Keeps.forM {β : Type} {f : β → BindM PUnit} (items : List β)
    (h : ∀ item ∈ items, Keeps library R (f item)) : Keeps library R (items.forM f) := by
  induction items with
  | nil => exact Keeps.pure _
  | cons item rest ih =>
      show Keeps library R (f item >>= fun _ => rest.forM f)
      exact Keeps.bind (h item (List.mem_cons_self ..)) fun _ =>
        ih fun other hm => h other (List.mem_cons_of_mem _ hm)

end BindM

end ScriptBind
