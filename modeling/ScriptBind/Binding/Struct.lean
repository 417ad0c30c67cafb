import ScriptBind.Binding.Members

/-!
# Binding a Record

A record is bound at most once and as a whole. Its members are bound first;
only when all of them are is anything of the record written. A record that
fails leaves nothing but a diagnostic, though whatever its members led to stays
bound.

Records may refer to each other. A record that fails after meeting one that is
still being bound is put off, and when nothing is being bound any more, all
records that were put off are bound once more. What fails then has failed.

## Main definitions

* `Session.commit`: The session with a record bound.
* `Session.conclude`: The session with a record failed or put off.
* `bindStep`: Binding a record, or finding out what became of it.
* `retryDeferred`: Binding once more what was put off.
-/

namespace ScriptBind

/-- A record whose members are bound. -/
structure BoundMembers where
  /-- The identifier that generated names are made from. -/
  name : String
  /-- The record's spelling. -/
  key : String
  /-- What became of the members. -/
  outcomes : List MemberOutcome
  deriving Inhabited

namespace BoundMembers

/-- The code for the record. -/
def accessor (members : BoundMembers) : Accessor where
  name := members.name
  type := members.key
  accesses := members.outcomes.filterMap MemberOutcome.access?

/-- The members left out, and why. -/
def dropped (members : BoundMembers) : List (String × Diagnostic) :=
  members.outcomes.filterMap MemberOutcome.dropped?

/-- The record as bound. -/
def bound (members : BoundMembers) : BoundStruct where
  name := members.name
  type := members.key
  fields := members.accessor.accesses.map Access.field
  dropped := members.dropped.map Prod.fst

/-- The conversion of the record itself. -/
def conversion (members : BoundMembers) : Conversion where
  inward := .apply s!"mp_write_{members.name}"
  outward := s!"mp_read_{members.name}"
  byReference := some s!"mp_read_byref_{members.name}"

/-- The conversion of pointers to the record. -/
def pointerConversion (members : BoundMembers) : Conversion :=
  .between s!"mp_write_ptr_{members.name}" s!"mp_read_ptr_{members.name}"

end BoundMembers

namespace Session

/-- The session with a callback to be written later, unless there is one of its
    name. -/
def awaitCallback (session : Session) (callback : Callback) : Session :=
  { session with callbacks := session.callbacks.add callback.name (.pending callback) }

/-- The session with a record bound: its code written, its conversions known,
    its dropped members reported and its callbacks awaited. -/
def commit (session : Session) (typedef : Option MemberTypedef) (members : BoundMembers) :
    Session :=
  let code := typedef.toList.map Section.memberTypedef ++ [.accessor members.accessor]
  let written := code.foldl emit session
  let known := (written.addConversion members.key members.conversion).addConversion
    (members.key ++ " *") members.pointerConversion
  let settled := known.settleStruct members.key (.done members.bound)
  let reported := (members.dropped.map Prod.snd).foldl reject settled
  members.accessor.callbacks.foldl awaitCallback reported

/-- The diagnostic for a record that has failed. -/
def structDiagnostic (key : String) (error : BindError) : Diagnostic where
  kind := .struct
  name := bareTag key
  reason := error.message
  declaration := key

/-- The session with a record put off, if it met one still being bound and was
    not put off before, and failed otherwise. -/
def conclude (session : Session) (key : String) (deferred : DeferredStruct) (meetings : Nat)
    (error : BindError) : Session :=
  if session.meetings > meetings && !session.retried.contains key then
    session.defer key deferred
  else
    (session.settleStruct key (.failed error)).reject (structDiagnostic key error)

/-- The session with a record no longer put off but bound for the last time. -/
def takeDeferred (session : Session) (key : String) : Session :=
  { session with
    deferred := session.deferred.erase key
    retried := session.retried ++ [key] }

end Session

/-- Bind the members of a record. -/
def bindRecord (binders : Binders) (key : String) (record : Record) : BindM BoundMembers := do
  let name := bareTag key
  return ⟨name, key, ← bindMembers binders name key record record.flattened⟩

/-- Bind once more each record that was put off, in at most so many rounds. -/
def retryDeferred (binders : Binders) : Nat → BindM Unit
  | 0 => .endless
  | rounds + 1 => do
    match ← BindM.look fun _ session => session.deferred.rows.head? with
    | none => return ()
    | some (key, deferred) =>
      BindM.update fun _ session => session.takeDeferred key
      let _ ← (binders.bind key deferred.record deferred.typedef).attempt
      retryDeferred binders rounds

/-- Bind a record that is not being bound, and conclude. -/
def bindFresh (binders : Binders) (key : String) (deferred : DeferredStruct) :
    BindM (Except BindError BoundStruct) := do
  let meetings ← BindM.look fun _ session => session.meetings
  BindM.update fun _ session => session.enter key
  let result ← (bindRecord binders key deferred.record).attempt
  BindM.update fun _ session => session.leave key
  match result with
  | .ok members =>
    BindM.update fun _ session => session.commit deferred.typedef members
    return .ok members.bound
  | .error error =>
    BindM.update fun _ session => session.conclude key deferred meetings error
    return .error error

/-- Bind a record, or find out what became of it. The records put off are bound
    once more when nothing else is being bound. -/
def bindStep (rounds : Nat) (binders : Binders) (key : String) (record : Record)
    (typedef : Option MemberTypedef) : BindM BoundStruct := do
  match ← BindM.look fun _ session => (session.structs.get? key, session.inProgress.contains key)
    with
  | (some (.done bound), _) => return bound
  | (some (.failed error), _) => BindM.fail error
  | (none, true) =>
    BindM.update fun _ session => session.meet
    BindM.fail (.missing key)
  | (none, false) =>
    let result ← bindFresh binders key ⟨record, typedef⟩
    if ← BindM.look fun _ session => session.inProgress.isEmpty then
      -- The record itself may be among those put off and be bound by now.
      retryDeferred binders rounds
      match result, ← BindM.look fun _ session => session.boundStruct? key with
      | .error _, some bound => return bound
      | result, _ => BindM.ofExcept result
    else BindM.ofExcept result

end ScriptBind
