import ScriptBind.Binding.Session

/-!
# Computations that Bind

A computation that binds reads the library, works on a session, and either has
an answer or fails. A failure keeps the session: what was bound on the way to
it stays bound.

Types are bound by following what they are made of. Nothing in the data forbids
a typedef that is made of itself, so a computation may also come to no end
within the bound it is given. That is a third possibility beside answer and
failure, and it is kept apart from both, so that a bound which is large enough
can be told from one which is not.

## Main definitions

* `BindM`: Computations that bind.
* `BindM.outcome`: What a computation comes to, if it comes to an end.
* `BindM.attempt`: Running a computation and looking at its failure.
* `BindM.settled`: A computation that always comes to an end.
* `BindM.run`: What a computation comes to.

## Theorems

* `outcome_pure`, `outcome_fail`: Neither answering nor failing changes a
  session.
* `outcome_bind`: One computation after another.
* `outcome_settled`: Settling changes nothing that comes to an end.
-/

namespace ScriptBind

/-- Computations that bind. One can fail, and what was bound before the failure
    stays bound; one without an answer has not come to an end within its
    bounds. -/
abbrev BindM := ReaderT Library (ExceptT BindError (StateT Session Option))

namespace BindM

variable {α β : Type}

/-- A computation by what it comes to from each session. -/
def ofOutcome (f : Library → Session → Option (Except BindError α × Session)) : BindM α :=
  fun library => ExceptT.mk (f library)

/-- What a computation comes to from a session, if it comes to an end. -/
def outcome (action : BindM α) (library : Library) (session : Session) :
    Option (Except BindError α × Session) :=
  (ExceptT.run (action library)).run session

/-- A computation that does not come to an end. -/
def endless : BindM α := ofOutcome fun _ _ => none

/-- A computation that fails. -/
def fail (error : BindError) : BindM α := ofOutcome fun _ session => some (.error error, session)

/-- A computation that only looks. -/
def look (f : Library → Session → α) : BindM α :=
  ofOutcome fun library session => some (.ok (f library session), session)

/-- A computation that only changes the session. -/
def update (f : Library → Session → Session) : BindM Unit :=
  ofOutcome fun library session => some (.ok (), f library session)

/-- The answer or the failure of a computation. -/
def attempt (action : BindM α) : BindM (Except BindError α) :=
  ofOutcome fun library session =>
    (action.outcome library session).map fun result => (.ok result.1, result.2)

/-- The answer that an attempt came to. -/
def ofExcept : Except BindError α → BindM α
  | .ok answer => pure answer
  | .error error => fail error

/-- Whether a computation has an answer. -/
def succeeds (action : BindM α) : BindM Bool := do
  return (← action.attempt).isOk

/-- A computation whose failures name the place that needed it. -/
def within (place : String) (action : BindM α) : BindM α := do
  ofExcept ((← action.attempt).mapError (BindError.within place))

/-- What a computation comes to from a session. One that does not come to an end
    fails and leaves the session as it was. -/
def run (action : BindM α) (subject : String) (library : Library) (session : Session) :
    Except BindError α × Session :=
  (action.outcome library session).getD (.error (.endlessType subject), session)

/-- A computation that comes to an end unless one waits for it: where the given
    one does not, it fails and leaves the session as it was. -/
def settled (subject : String) (action : BindM α) : BindM α :=
  ofOutcome fun library session =>
    if library.isPatient then action.outcome library session
    else some (action.run subject library session)

/-- Answering does not change a session. -/
theorem outcome_pure (answer : α) (library : Library) (session : Session) :
    outcome (pure answer) library session = some (.ok answer, session) := rfl

/-- Failing does not change a session. -/
theorem outcome_fail (error : BindError) (library : Library) (session : Session) :
    outcome (fail error : BindM α) library session = some (.error error, session) := rfl

/-- One computation after another starts from the session that the first left,
    if the first has an answer. -/
theorem outcome_bind (action : BindM α) (next : α → BindM β) (library : Library)
    (session : Session) :
    outcome (action >>= next) library session =
      match action.outcome library session with
      | some (.ok answer, session') => (next answer).outcome library session'
      | some (.error error, session') => some (.error error, session')
      | none => none := by
  show (ExceptT.run (action library) >>= ExceptT.bindCont fun a => next a library).run session = _
  rw [StateT.run_bind]
  -- Only an answer is handed on; a failure ends the computation where it stands.
  unfold outcome
  cases (ExceptT.run (action library)).run session with
  | none => rfl
  | some result =>
    obtain ⟨answer, session'⟩ := result
    cases answer <;> rfl

/-- Settling comes to the same wherever there is something to come to. -/
theorem outcome_settled {action : BindM α} {subject : String} {library : Library}
    {session : Session} {result : Except BindError α × Session}
    (h : action.outcome library session = some result) :
    (action.settled subject).outcome library session = some result := by
  show (if library.isPatient then action.outcome library session
    else some (action.run subject library session)) = some result
  rw [run, h, Option.getD_some, ite_self]

end BindM

end ScriptBind
