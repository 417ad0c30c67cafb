import ScriptBind.Proofs.ResolvingComparisons
import ScriptBind.Proofs.SessionChanges

/-!
# Binding Only Adds

What binding a type does to a session, whatever the type, whatever was bound
before, and whether it succeeds or not: it adds. Rows of the tables stay where
they are and keep their values, the diagnostics and the code so far come first
in the later ones, and at the end the same records are being bound as at the
beginning.

Two of these facts are not visible at the places where a table is written. The
outcome of a record replaces whatever is there, so that nothing is replaced has
to come from somewhere else: a record being bound has no outcome, and nothing
that happens inside gives it one, since it would have to be bound for that and
is found to be in progress. `Grows` therefore says of the records in progress
that they get no outcome. The failure of a callback is written in the same way,
after its values have been looked at; its name was without an outcome before
they were, so no outcome that was there at the beginning is lost.

The facts are proved for one step of resolving and binding from the same facts
about the steps below it, and hold of every number of levels by induction.

## Main definitions

* `Section.isOfTypes`, `Section.isOfModule`: The kinds of section that binding
  types writes, and those of the module itself.
* `Section.isOfFunctions`: Those that say what became of functions.
* `Session.Grows`: The session before and after a type has been bound.
* `Binders.Grow`: Ways to resolve and bind that only add.

## Theorems

* `bindStep_settles`: Binding one record only adds, and tells whether the record
  is bound.
* `bindersWithin_grow`: Any number of steps only adds.
* `resolve_grows`, `resolveOpenArray_grows`: Resolving a type, or arrays of unknown
  length.
-/

namespace ScriptBind

/-- The kinds of section that binding types writes. -/
def Section.isOfTypes : Section → Bool
  | .memberTypedef _ => true
  | .accessor _ => true
  | .arrayConverter _ => true
  | .note _ => true
  | _ => false

/-- The kinds of section that a module has beside its types and its functions. -/
def Section.isOfModule : Section → Bool
  | .pointerCell => true
  | .classTable _ => true
  | .baseType _ => true
  | .functionsHeading => true
  | .global _ => true
  | .notGenerated _ => true
  | _ => false

/-- The kinds of section that say what became of a function as a whole. -/
def Section.isOfFunctions : Section → Bool
  | .wrapper _ => true
  | .notGenerated _ => true
  | _ => false

/-- Whether a section is a variable. -/
def Section.isVariable : Section → Bool
  | .global _ => true
  | _ => false

/-- The kinds of section that say what became of a function or a variable as a
    whole. -/
def Section.isOfDeclared (code : Section) : Bool := code.isOfFunctions || code.isVariable

theorem Section.isOfDeclared_of_isOfTypes {code : Section} (h : code.isOfTypes) :
    code.isOfDeclared = false := by
  cases code with
  | wrapper wrapper => cases h
  | notGenerated names => cases h
  | global shown => cases h
  | _ => rfl

/-- The session before and after a type has been bound. -/
structure Session.Grows (session session' : Session) : Prop where
  /-- The same records are being bound. -/
  inProgress : session'.inProgress = session.inProgress
  /-- The conversions stay. -/
  registry : session.registry.rows <+: session'.registry.rows
  /-- The outcomes of records stay. -/
  structs : session.structs.rows <+: session'.structs.rows
  /-- A record being bound gets no outcome. -/
  waiting : ∀ key ∈ session.inProgress, session.structs.get? key = none →
    session'.structs.get? key = none
  /-- The typedefs of records stay. -/
  aliases : session.aliases.rows <+: session'.aliases.rows
  /-- The outcomes of callbacks stay. -/
  callbacks : ∀ id state, session.callbacks.get? id = some state →
    session'.callbacks.get? id = some state
  /-- No trampoline is written. -/
  unwritten : ∀ id callback, session.callbacks.get? id = none →
    session'.callbacks.get? id ≠ some (.emitted callback)
  /-- The diagnostics stay. -/
  diagnostics : session.diagnostics <+: session'.diagnostics
  /-- The code stays, and only code for types is written. -/
  body : ∃ added, session'.body = session.body ++ added ∧ ∀ code ∈ added, code.isOfTypes
  /-- Meetings are only counted up. -/
  meetings : session.meetings ≤ session'.meetings
  /-- The records bound once more stay so. -/
  retried : session.retried <+: session'.retried
  /-- While something is being bound, nothing is bound once more. -/
  nested : session.inProgress ≠ [] → session'.retried = session.retried

namespace Session

theorem Grows.refl (session : Session) : session.Grows session where
  inProgress := rfl
  registry := List.prefix_refl _
  structs := List.prefix_refl _
  waiting := fun _ _ h => h
  aliases := List.prefix_refl _
  callbacks := fun _ _ h => h
  unwritten := fun id callback h => by rw [h]; exact (Option.some_ne_none _).symm
  diagnostics := List.prefix_refl _
  body := ⟨[], by rw [List.append_nil], fun _ h => by cases h⟩
  meetings := Nat.le_refl _
  retried := List.prefix_refl _
  nested := fun _ => rfl

theorem Grows.trans {s s' s'' : Session} (h : s.Grows s') (h' : s'.Grows s'') : s.Grows s'' where
  inProgress := h'.inProgress.trans h.inProgress
  registry := h.registry.trans h'.registry
  structs := h.structs.trans h'.structs
  waiting := fun key hk hn => h'.waiting key (by rw [h.inProgress]; exact hk) (h.waiting key hk hn)
  aliases := h.aliases.trans h'.aliases
  callbacks := fun id state hs => h'.callbacks id state (h.callbacks id state hs)
  unwritten := by
    intro id callback hn
    cases hm : s'.callbacks.get? id with
    | none => exact h'.unwritten id callback hm
    | some state =>
        rw [h'.callbacks id state hm, ← hm]
        exact h.unwritten id callback hn
  diagnostics := h.diagnostics.trans h'.diagnostics
  body := by
    obtain ⟨added, ha, hall⟩ := h.body
    obtain ⟨added', ha', hall'⟩ := h'.body
    refine ⟨added ++ added', by rw [ha', ha, List.append_assoc], fun code hc => ?_⟩
    exact (List.mem_append.1 hc).elim (hall code) (hall' code)
  meetings := Nat.le_trans h.meetings h'.meetings
  retried := h.retried.trans h'.retried
  nested := fun hp => (h'.nested (by rw [h.inProgress]; exact hp)).trans (h.nested hp)

instance : IsPreorder Session Grows where
  refl := Grows.refl
  trans := fun _ _ _ => Grows.trans

/-- One more conversion. -/
theorem grows_addConversion (session : Session) (key : String) (conversion : Conversion) :
    session.Grows (session.addConversion key conversion) :=
  { Grows.refl session with registry := Table.prefix_add .. }

/-- One more section of code for types. -/
theorem grows_emit (session : Session) {code : Section} (h : code.isOfTypes) :
    session.Grows (session.emit code) :=
  { Grows.refl session with
    body := ⟨[code], rfl, fun other ho => by rw [List.mem_singleton.1 ho]; exact h⟩ }

/-- One more meeting. -/
theorem grows_meet (session : Session) : session.Grows session.meet :=
  { Grows.refl session with meetings := Nat.le_succ _ }

/-- What a typedef takes over from what it stands for. -/
theorem grows_shareWithAlias (session : Session) (name underlying : String) :
    session.Grows (session.shareWithAlias name underlying) := by
  obtain ⟨aliases, ha, he | ⟨conversion, -, he⟩⟩ := session.shareWithAlias_cases name underlying
  · rw [he]
    exact { Grows.refl session with aliases := ha }
  · have hp := session.grows_addConversion (name ++ " *") conversion
    rw [he]
    exact hp.trans { Grows.refl _ with aliases := ha }

/-- One more callback that cannot be marshaled, after its values have been
    looked at. -/
theorem grows_settleCallback {s s' : Session} {id : String} (h : s.Grows s')
    (hn : s.callbacks.get? id = none) (error : BindError) :
    s.Grows (s'.settleCallback id (.failed error)) :=
  { h with
    callbacks := by
      intro other state hs
      have hne : id ≠ other := fun e => by rw [e, hs] at hn; exact absurd hn (by simp)
      rw [settleCallback, Table.get?_set, if_neg hne]
      exact h.callbacks other state hs
    unwritten := by
      intro other callback ho
      rw [settleCallback, Table.get?_set]
      split
      · exact fun e => absurd e (by simp)
      · exact h.unwritten other callback ho }

theorem inProgress_enter {session : Session} {key : String} (hk : key ∉ session.inProgress) :
    (session.enter key).inProgress = session.inProgress ++ [key] := by
  show addName session.inProgress key = _
  rw [addName, if_neg hk]

/-- A record that is entered and left again is not being bound any more. -/
theorem inProgress_leave {s s' : Session} {key : String} (hk : key ∉ s.inProgress)
    (h : s'.inProgress = (s.enter key).inProgress) : (s'.leave key).inProgress = s.inProgress := by
  show s'.inProgress.filter (· != key) = _
  rw [h, inProgress_enter hk, List.filter_append, List.filter_eq_self.2 fun other ho => ?_]
  · simp
  · simpa using fun e : other = key => hk (e ▸ ho)

/-- A record is no longer being bound, after its members have been. -/
theorem grows_leave {s s' : Session} {key : String} (hk : key ∉ s.inProgress)
    (h : (s.enter key).Grows s') : s.Grows (s'.leave key) := by
  have hp := inProgress_enter hk
  have hne : (s.enter key).inProgress ≠ [] := by
    rw [hp]
    exact List.append_ne_nil_of_right_ne_nil _ (List.cons_ne_nil _ _)
  exact
    { h with
      inProgress := inProgress_leave hk h.inProgress
      waiting := fun other ho => h.waiting other (by rw [hp]; exact List.mem_append_left _ ho)
      nested := fun _ => h.nested hne }

/-- The record has no outcome before it is concluded. -/
theorem get?_leave {s s' : Session} {key : String} (hk : key ∉ s.inProgress)
    (hn : s.structs.get? key = none) (h : (s.enter key).Grows s') :
    (s'.leave key).structs.get? key = none := by
  refine h.waiting key ?_ hn
  show key ∈ addName s.inProgress key
  rw [addName, if_neg hk]
  exact List.mem_append_right _ (List.mem_singleton_self key)

/-- One more record with an outcome. -/
theorem grows_settleStruct {session : Session} {key : String} (hk : key ∉ session.inProgress)
    (hn : session.structs.get? key = none) (outcome : StructOutcome) :
    session.Grows (session.settleStruct key outcome) :=
  { Grows.refl session with
    structs := by
      rw [settleStruct, Table.set_rows_of_fresh hn]
      exact List.prefix_append ..
    waiting := by
      intro other ho hother
      have hne : key ≠ other := fun e => hk (by rw [e]; exact ho)
      rw [settleStruct, Table.get?_set, if_neg hne]
      exact hother }

/-- One more declaration left out. -/
theorem grows_reject (session : Session) (diagnostic : Diagnostic) :
    session.Grows (session.reject diagnostic) :=
  { Grows.refl session with
    diagnostics := List.prefix_append ..
    body := ⟨[.note diagnostic], rfl, fun other ho => by rw [List.mem_singleton.1 ho]; rfl⟩ }

theorem committed_isOfTypes (typedef : Option MemberTypedef) (members : BoundMembers) :
    ∀ code ∈ committed typedef members, code.isOfTypes := by
  intro code hc
  simp only [committed, List.mem_append, List.mem_map, List.mem_singleton] at hc
  rcases hc with (⟨_, _, rfl⟩ | rfl) | ⟨_, _, rfl⟩ <;> rfl

/-- One more record bound. -/
theorem grows_commit {session : Session} {members : BoundMembers}
    (hk : members.key ∉ session.inProgress) (hn : session.structs.get? members.key = none)
    (typedef : Option MemberTypedef) : session.Grows (session.commit typedef members) := by
  have hs := grows_settleStruct hk hn (.done members.bound)
  rw [commit_eq]
  exact
    { Grows.refl session with
      registry := (Table.prefix_add ..).trans (Table.prefix_add ..)
      structs := hs.structs
      waiting := hs.waiting
      callbacks := fun id state hi => get?_awaitAll_of_some hi _
      unwritten := by
        intro id callback hi
        rw [get?_awaitAll_of_none hi]
        intro e
        obtain ⟨other, -, ho⟩ := Option.map_eq_some_iff.1 e
        exact absurd ho (by simp)
      diagnostics := List.prefix_append ..
      body := ⟨_, rfl, committed_isOfTypes typedef members⟩ }

/-- One more record failed or put off. -/
theorem grows_conclude {session : Session} {key : String} (hk : key ∉ session.inProgress)
    (hn : session.structs.get? key = none) (deferred : DeferredStruct) (meetings : Nat)
    (error : BindError) : session.Grows (session.conclude key deferred meetings error) := by
  rw [conclude]
  split
  · exact { Grows.refl session with }
  · exact (grows_settleStruct hk hn _).trans (grows_reject ..)

/-- A record that has been bound is found so. -/
theorem boundStruct?_commit (session : Session) (typedef : Option MemberTypedef)
    (members : BoundMembers) :
    (session.commit typedef members).boundStruct? members.key = some members.bound := by
  refine boundStruct?_of_get? ?_
  rw [commit_eq, Table.get?_set, if_pos rfl]

/-- A record that has failed or is put off is not bound. -/
theorem boundStruct?_conclude {session : Session} {key : String}
    (hn : session.structs.get? key = none) (deferred : DeferredStruct) (meetings : Nat)
    (error : BindError) :
    (session.conclude key deferred meetings error).boundStruct? key = none := by
  rw [conclude]
  split
  · rw [boundStruct?, defer, hn]
  · rw [boundStruct?, reject, settleStruct, Table.get?_set, if_pos rfl]

/-- One more record to be bound for the last time, while nothing is being
    bound. -/
theorem grows_takeDeferred {session : Session} (hp : session.inProgress = []) (key : String) :
    session.Grows (session.takeDeferred key) :=
  { Grows.refl session with
    retried := List.prefix_append ..
    nested := fun hne => absurd hp hne }

end Session

open BindM

variable {library : Library} {binders : Binders}

/-- Adding allows what resolving itself does. -/
theorem Session.grows_allows : Session.Allows (Scope.all library) Session.Grows where
  learn := fun session key conversion _ => session.grows_addConversion key conversion
  typedef := fun session name _ conversion _ _ =>
    (session.grows_addConversion name conversion).trans (Session.grows_shareWithAlias _ _ _)
  array := fun _ session _ _ _ _ _ hg =>
    hg.trans ((session.grows_emit rfl).trans (Session.grows_addConversion _ _ _))

/-- Ways to resolve and bind that only add. -/
abbrev Binders.Grow (library : Library) (binders : Binders) : Prop :=
  binders.Keep (Scope.all library) Session.Grows

section Values

variable {resolve : CType → BindM Conversion}
  (h : ∀ type, (Scope.all library).types type → Keeps library Session.Grows (resolve type))

include h

/-- The failure of a callback is remembered under a name that had no outcome
    when its values were looked at. -/
theorem marshal_grows (signature : Signature) (typeName owner name : String)
    (expected : Option (String × Record)) :
    Keeps library Session.Grows (marshal resolve signature typeName owner name expected) := by
  intro session
  rw [marshal, ensures_bind, ensures_look]
  dsimp only
  split
  · exact Session.Grows.refl _
  · exact Session.Grows.refl _
  · exact Session.Grows.refl _
  · next hn =>
      rw [ensures_bind, ensures_attempt]
      refine (checkCallback_keeps h trivial typeName _ expected session).mono
        fun result session' hg => ?_
      cases result with
      | ok callback => exact hg
      | error error => exact Session.grows_settleCallback hg hn error

end Values

section Steps

variable (h : binders.Grow library)

include h

theorem bindCallback_grows (owner key : String) (record : Record) (field : Field)
    (signature : Signature) :
    Keeps library Session.Grows (bindCallback binders owner key record field signature) := by
  unfold bindCallback
  refine Keeps.bind (Keeps.attempt (marshal_grows (h.resolve 0) _ _ _ _ _)) fun result => ?_
  cases result with
  | ok callback => exact Keeps.bind (Keeps.look _) fun _ => Keeps.pure _
  | error error => exact Keeps.pure _

theorem bindNameless_grows (owner key place : String) (field : Field) (inner : Record) :
    Keeps library Session.Grows (bindNameless binders owner key place field inner) := by
  unfold bindNameless
  refine Keeps.bind (Keeps.within (h.bind _ _ _ trivial) _) fun _ =>
    Keeps.bind (Keeps.look _) fun known => ?_
  cases known with
  | some conversion => exact Keeps.ofExcept _
  | none => exact Keeps.fail _

theorem bindMember_grows (owner key : String) (record : Record) (field : Field) :
    Keeps library Session.Grows (bindMember binders owner key record field) := by
  unfold bindMember
  dsimp only
  split
  · exact Keeps.pure _
  refine Keeps.bind (Keeps.look _) fun signature => ?_
  split
  · exact Keeps.bind (bindCallback_grows h _ _ _ _ _) fun _ => Keeps.pure _
  split
  · exact Keeps.bind (bindNameless_grows h _ _ _ _ _) fun _ => Keeps.pure _
  · split
    · exact Keeps.pure _
    · exact Keeps.bind (Keeps.within (h.resolve _ _ trivial) _) fun _ =>
        Keeps.bind (Keeps.ofExcept _) fun _ => Keeps.pure _
  · exact Keeps.bind (Keeps.within (h.resolve _ _ trivial) _) fun _ =>
      Keeps.bind (Keeps.ofExcept _) fun _ => Keeps.pure _

theorem bindMembers_grows (owner key : String) (record : Record) (fields : List Field) :
    Keeps library Session.Grows (bindMembers binders owner key record fields) := by
  induction fields with
  | nil => exact Keeps.pure _
  | cons field rest ih =>
      rw [bindMembers]
      exact Keeps.bind (bindMember_grows h _ _ _ _) fun _ => Keeps.bind ih fun _ => Keeps.pure _

theorem bindRecord_grows (key : String) (record : Record) :
    Keeps library Session.Grows (bindRecord binders key record) :=
  Keeps.bind (bindMembers_grows h _ _ _ _) fun _ => Keeps.pure _

omit h in
/-- The members of a record are bound under the record's own key. -/
theorem bindRecord_key (binders : Binders) (key : String) (record : Record) :
    Answers library (·.key = key) (bindRecord binders key record) :=
  Answers.bind (Answers.any _) fun _ _ => Answers.pure rfl

/-- A record is entered, its members are bound, and it is left and concluded:
    taken together this only adds, although entering and leaving by themselves
    do not. It tells whether the record is bound. -/
theorem bindFresh_grows (key : String) (deferred : DeferredStruct) (session : Session)
    (hk : key ∉ session.inProgress) (hn : session.structs.get? key = none) :
    Ensures True library (bindFresh binders key deferred) session
      fun result session' => session.Grows session' ∧
        ∃ outcome, result = .ok outcome ∧ outcome.isOk = (session'.boundStruct? key).isSome := by
  simp only [bindFresh, ensures_bind, ensures_look, ensures_update, ensures_attempt]
  refine ((bindRecord_grows h key deferred.record (session.enter key)).and
    (bindRecord_key binders key deferred.record _)).mono fun result session' ⟨hg, hkey⟩ => ?_
  have hleft := Session.grows_leave hk hg
  have hk' : key ∉ (session'.leave key).inProgress := by rw [hleft.inProgress]; exact hk
  have hn' := Session.get?_leave hk hn hg
  cases result with
  | ok members =>
      simp only [ensures_bind, ensures_update, ensures_pure]
      obtain rfl := hkey members rfl
      refine ⟨hleft.trans (Session.grows_commit hk' hn' _), _, rfl, ?_⟩
      rw [Session.boundStruct?_commit]
      rfl
  | error error =>
      simp only [ensures_bind, ensures_update, ensures_pure]
      refine ⟨hleft.trans (Session.grows_conclude hk' hn' ..), _, rfl, ?_⟩
      rw [Session.boundStruct?_conclude hn']
      rfl

theorem retryDeferred_grows (rounds : Nat) (session : Session) (hp : session.inProgress = []) :
    Ensures True library (retryDeferred binders rounds) session
      fun result session' => result = .ok () ∧ session.Grows session' := by
  induction rounds generalizing session with
  | zero => trivial
  | succ rounds ih =>
      rw [retryDeferred, ensures_bind, ensures_look]
      dsimp only
      split
      · exact ensures_pure.2 ⟨rfl, Session.Grows.refl _⟩
      · next key deferred _ =>
          have htaken := Session.grows_takeDeferred hp key
          simp only [ensures_bind, ensures_update, ensures_attempt]
          refine (h.bind key deferred.record deferred.typedef trivial _).mono
            fun _ session' hg => ?_
          have hboth := htaken.trans hg
          exact (ih session' (hboth.inProgress.trans hp)).mono fun _ _ hr =>
            ⟨hr.1, hboth.trans hr.2⟩

/-- Binding a record only adds, and tells whether the record is bound. -/
theorem bindStep_settles (rounds : Nat) (key : String) (record : Record)
    (typedef : Option MemberTypedef) (session : Session) :
    Ensures True library (bindStep rounds binders key record typedef) session
      fun result session' => session.Grows session' ∧
        result.isOk = (session'.boundStruct? key).isSome := by
  rw [bindStep, ensures_bind, ensures_look]
  dsimp only
  split
  · next bound _ hlook =>
      rw [Prod.mk.injEq] at hlook
      refine ensures_pure.2 ⟨Session.Grows.refl _, ?_⟩
      rw [Session.boundStruct?_of_get? hlook.1]
      rfl
  · next error _ hlook =>
      rw [Prod.mk.injEq] at hlook
      refine ensures_fail.2 ⟨Session.Grows.refl _, ?_⟩
      rw [Session.boundStruct?, hlook.1]
      rfl
  · next hlook =>
      rw [Prod.mk.injEq] at hlook
      rw [ensures_bind, ensures_update]
      refine ensures_fail.2 ⟨Session.grows_meet session, ?_⟩
      show false = (session.boundStruct? key).isSome
      rw [Session.boundStruct?, hlook.1]
      rfl
  · next hlook =>
      rw [Prod.mk.injEq] at hlook
      have hk : key ∉ session.inProgress := by simpa using hlook.2
      rw [ensures_bind]
      refine (bindFresh_grows h key ⟨record, typedef⟩ session hk hlook.1).mono
        fun result session' hall => ?_
      obtain ⟨hg, outcome, rfl, hverdict⟩ := hall
      dsimp only
      rw [ensures_bind, ensures_look]
      dsimp only
      split
      · next hempty =>
          rw [ensures_bind]
          refine (retryDeferred_grows h rounds session' (List.isEmpty_iff.1 hempty)).mono
            fun answer session'' hall => ?_
          obtain ⟨rfl, hr⟩ := hall
          have hboth := hg.trans hr
          dsimp only
          rw [ensures_bind, ensures_look]
          dsimp only
          cases outcome with
          | ok bound =>
              -- What is bound stays bound while the others are bound once more.
              obtain ⟨found, hfound⟩ := Option.isSome_iff_exists.1 hverdict.symm
              have hlater := Table.get?_of_initial hr.structs (Session.get?_of_boundStruct? hfound)
              have hstill := Session.boundStruct?_of_get? hlater
              rw [hstill]
              exact ensures_pure.2 ⟨hboth, by rw [hstill]; rfl⟩
          | error error =>
              cases hfound : session''.boundStruct? key with
              | some found => exact ensures_pure.2 ⟨hboth, by rw [hfound]; rfl⟩
              | none => exact ensures_fail.2 ⟨hboth, by rw [hfound]; rfl⟩
      · exact ensures_ofExcept.2 ⟨hg, hverdict⟩

theorem bindStep_grows (rounds : Nat) (key : String) (record : Record)
    (typedef : Option MemberTypedef) :
    Keeps library Session.Grows (bindStep rounds binders key record typedef) := fun session =>
  (bindStep_settles h rounds key record typedef session).mono fun _ _ hall => hall.1

end Steps

/-- Any number of steps only adds. -/
theorem bindersWithin_grow (levels : Nat) : (bindersWithin levels).Grow library := by
  induction levels with
  | zero =>
      exact ⟨fun _ _ _ => Keeps.ofEndless, fun _ _ _ _ => Keeps.ofEndless, fun _ _ _ _ => trivial⟩
  | succ levels ih =>
      exact ⟨fun links type ht => resolveStep_keeps Session.grows_allows ih.parts links ht,
        fun key record typedef _ => bindStep_grows ih levels key record typedef,
        fun key record typedef session =>
          (bindStep_settles ih levels key record typedef session).mono fun _ _ hall => hall.2⟩

/-- What everything needs and brings along that starts the binding of a type. -/
theorem withBinders_grows {α : Type} (subject : String) (size : Nat) {f : Binders → BindM α}
    (h : ∀ binders, binders.Grow library → Keeps library Session.Grows (f binders)) :
    Keeps library Session.Grows (withBinders subject size f) :=
  Keeps.settled (Keeps.bind (Keeps.look _) fun _ => h _ (bindersWithin_grow _)) subject

/-- Resolving a type only adds. -/
theorem resolve_grows (type : CType) : Keeps library Session.Grows (resolve type) :=
  withBinders_grows _ _ fun _ h => h.resolve 0 type trivial

theorem resolveOpenArray_grows (element : CType) :
    Keeps library Session.Grows (resolveOpenArray element) :=
  withBinders_grows _ _ fun _ h =>
    openArrayConversion_keeps (h.resolve 0) Session.grows_allows.toAllowsLearning trivial

end ScriptBind
