import ScriptBind.Proofs.Operations

/-!
# The Callbacks of Members

A callback in the place of a member goes by the name that the record and the member give. It may
have been made just now, and then it has this name by itself; or it was found under this name, and
then it has it because callbacks are filed under their own names. Nothing that happens to a session
files one otherwise.

What is filed stays filed. So it is enough to look at the session when all members have been bound:
if callbacks are in order then, they were in order for each member.

## Main definitions

* `Session.FilesByName`: Callbacks are filed under their names.
* `MemberOutcome.IsNamed`: The callback of a member goes by the member's name.

## Theorems

* `Reachable.filesByName`: In every reachable session callbacks are filed under their names.
* `bindRecord_named`: The callbacks of a record's members go by the members' names.
-/

namespace ScriptBind

open BindM

variable {library : Library} {scope : Scope library}

/-- A callback that goes by a name: it waits for its trampoline or has it. -/
def CallbackState.callback? : CallbackState → Option Callback
  | .pending callback => some callback
  | .emitted callback => some callback
  | .failed _ => none

namespace Session

variable {session session' : Session}

/-- Callbacks are filed under their names. -/
def FilesByName (session : Session) : Prop :=
  ∀ id state callback, session.callbacks.get? id = some state → state.callback? = some callback →
    callback.name = id

theorem FilesByName.of_eq (h : session.FilesByName) (he : session'.callbacks = session.callbacks) :
    session'.FilesByName := by
  rw [FilesByName, he]
  exact h

/-- What was filed before is filed in the same way later. -/
theorem FilesByName.anti (h : session'.FilesByName) (hg : session.Grows session') :
    session.FilesByName :=
  fun id state callback hs hc => h id state callback (hg.callbacks id state hs) hc

theorem FilesByName.settle (h : session.FilesByName) {id : String} {state : CallbackState}
    (hs : ∀ callback, state.callback? = some callback → callback.name = id) :
    (session.settleCallback id state).FilesByName := by
  intro other state' callback ho hc
  rw [settleCallback, Table.get?_set] at ho
  split at ho
  · next he =>
      rw [← he]
      exact hs callback (Option.some.inj ho ▸ hc)
  · exact h other state' callback ho hc

theorem FilesByName.commit (h : session.FilesByName) (typedef : Option MemberTypedef)
    (members : BoundMembers) : (session.commit typedef members).FilesByName := by
  intro id state callback hs hc
  rw [commit_eq] at hs
  cases hk : session.callbacks.get? id with
  | some other =>
      rw [get?_awaitAll_of_some hk] at hs
      exact h id state callback (hs ▸ hk) hc
  | none =>
      rw [get?_awaitAll_of_none hk] at hs
      obtain ⟨awaited, hf, rfl⟩ := Option.map_eq_some_iff.1 hs
      rw [← Option.some.inj hc]
      simpa using List.find?_some hf

/-- Nothing files a callback otherwise. -/
theorem Change.filesByName (hchange : session.Change scope session') (h : session.FilesByName) :
    session'.FilesByName := by
  cases hchange with
  | add ha =>
      cases ha with
      | typedef conversion _ _ =>
          refine h.of_eq ?_
          obtain ⟨registry, aliases, he⟩ :=
            (session.addConversion _ conversion).shareWithAlias_eq _ _
          rw [he]
          rfl
      | settleFailed id error => exact h.settle fun _ hc => by cases hc
      | write => exact (h.of_eq rfl).settle fun callback hc => by rw [Option.some.inj hc]
      | _ => exact h.of_eq rfl
  | commit typedef _ _ => exact h.commit typedef _
  | _ => exact h.of_eq rfl

/-- In every reachable session callbacks are filed under their names. -/
theorem Reachable.filesByName (h : session.Reachable scope) : session.FilesByName := by
  refine h.invariant (fun id state callback hs => ?_) fun hchange => hchange.filesByName
  have hm := Table.mem_of_get? hs
  cases hm

end Session

/-- The callback in the place of a member goes by the name that the record and the member give. -/
def MemberOutcome.IsNamed (owner : String) : MemberOutcome → Prop
  | .reached access => ∀ callback, access.callback? = some callback →
    callback.name = callbackName owner access.field
  | .dropped _ _ => True

section Members

variable {binders : Binders} (hgrow : binders.Grow library)

/-- A callback that is marshaled goes by the name that it is marshaled for. -/
theorem marshal_named (resolve : CType → BindM Conversion) (demand : Demand) (session : Session) :
    Ensures True library (demand.marshal resolve) session fun result session' =>
      session'.FilesByName → ∀ callback, result = .ok callback → callback.name = demand.id := by
  rw [Demand.marshal, marshal, ensures_bind, ensures_look]
  dsimp only
  split
  · next callback hs =>
      refine ensures_pure.2 fun h other ho => ?_
      rw [← Except.ok.inj ho]
      exact h _ _ _ hs rfl
  · next callback hs =>
      refine ensures_pure.2 fun h other ho => ?_
      rw [← Except.ok.inj ho]
      exact h _ _ _ hs rfl
  · refine ensures_fail.2 fun _ other ho => ?_
    cases ho
  · rw [ensures_bind, ensures_attempt]
    refine (check_meets library resolve demand session).mono fun result session' hmet => ?_
    cases result with
    | ok callback =>
        refine ensures_pure.2 fun _ other ho => ?_
        rw [← Except.ok.inj ho]
        exact (hmet callback rfl).name
    | error error =>
        dsimp only
        rw [ensures_bind, ensures_update]
        refine ensures_fail.2 fun _ other ho => ?_
        cases ho

theorem bindCallback_named (key : String) (record : Record) (field : Field) (signature : Signature)
    (session : Session) :
    Ensures True library (bindCallback binders (bareTag key) key record field signature) session
      fun result session' => session'.FilesByName →
        ∀ outcome, result = .ok outcome → outcome.IsNamed (bareTag key) := by
  rw [bindCallback, ensures_bind, ensures_attempt]
  refine (marshal_named (binders.resolve 0) (.ofMember key record field signature) session).mono
    fun result session' hnamed => ?_
  cases result with
  | ok callback =>
      dsimp only
      rw [ensures_bind, ensures_look]
      refine ensures_pure.2 fun h outcome ho => ?_
      obtain rfl := Except.ok.inj ho
      intro other hother
      rw [← Option.some.inj hother]
      exact hnamed h callback rfl
  | error error =>
      refine ensures_pure.2 fun _ outcome ho => ?_
      obtain rfl := Except.ok.inj ho
      trivial

/-- A member that is no callback by its type is none by what becomes of it. -/
theorem bindMember_plain {field : Field} (hf : library.decls.functionPointer field.type = none)
    (owner key : String) (record : Record) :
    Answers library (fun outcome => ∀ other ∈ outcome, MemberOutcome.IsNamed owner other)
      (bindMember binders owner key record field) := by
  have hreached : ∀ {action : BindM Access},
      Answers library (fun access => access.callback? = none) action →
      Answers library (fun outcome => ∀ other ∈ outcome, MemberOutcome.IsNamed owner other)
        (do return some (.reached (← action))) := by
    refine fun ha => ha.bind fun access hnone => .pure fun other ho => ?_
    obtain rfl := Option.some.inj ho
    intro callback hc
    rw [hnone] at hc
    cases hc
  have hpassed : Answers library
      (fun outcome => ∀ other ∈ outcome, MemberOutcome.IsNamed owner other)
      (pure none : BindM (Option MemberOutcome)) := by
    refine .pure fun other ho => ?_
    cases ho
  rw [bindMember]
  by_cases hne : field.name = ""
  · rw [if_pos hne]
    exact hpassed
  rw [if_neg hne]
  intro session
  rw [ensures_bind, ensures_look, hf]
  dsimp only
  split
  · refine hreached ?_ session
    refine (Answers.any _).bind fun _ _ => (Answers.any _).bind fun known _ => ?_
    cases known with
    | some conversion => exact .ofExcept fun _ ha => Access.callback?_ofConversion ha
    | none => exact .fail _
  · split
    · exact hpassed session
    · refine (Answers.any _).bind (fun conversion _ => hreached ?_) session
      exact .ofExcept fun _ ha => Access.callback?_ofArray ha
  · refine (Answers.any _).bind (fun conversion _ => hreached ?_) session
    exact .ofExcept fun _ ha => Access.callback?_ofConversion ha

theorem bindMember_named (key : String) (record : Record) (field : Field) (session : Session) :
    Ensures True library (bindMember binders (bareTag key) key record field) session
      fun result session' => session'.FilesByName → ∀ outcome, result = .ok outcome →
        ∀ other ∈ outcome, other.IsNamed (bareTag key) := by
  cases hf : library.decls.functionPointer field.type with
  | none => exact (bindMember_plain hf _ key record session).mono fun _ _ h _ => h
  | some signature =>
      rw [bindMember]
      split
      · refine ensures_pure.2 fun _ outcome ho other hm => ?_
        rw [← Except.ok.inj ho] at hm
        cases hm
      · rw [ensures_bind, ensures_look, hf]
        dsimp only
        rw [ensures_bind]
        refine (bindCallback_named key record field signature session).mono
          fun result session' hnamed => ?_
        cases result with
        | error error =>
            intro _ outcome ho
            cases ho
        | ok outcome =>
            refine ensures_pure.2 fun h other ho named hm => ?_
            rw [← Except.ok.inj ho] at hm
            rw [← Option.some.inj hm]
            exact hnamed h outcome rfl

include hgrow

theorem bindMembers_named (key : String) (record : Record) (fields : List Field)
    (session : Session) :
    Ensures True library (bindMembers binders (bareTag key) key record fields) session
      fun result session' => session'.FilesByName → ∀ outcomes, result = .ok outcomes →
        ∀ outcome ∈ outcomes, outcome.IsNamed (bareTag key) := by
  induction fields generalizing session with
  | nil =>
      refine ensures_pure.2 fun _ outcomes ho outcome hm => ?_
      rw [← Except.ok.inj ho] at hm
      cases hm
  | cons field rest ih =>
      rw [bindMembers, ensures_bind]
      refine (bindMember_named key record field session).mono fun result session' hfirst => ?_
      cases result with
      | error error =>
          intro _ outcomes ho
          cases ho
      | ok outcome =>
          dsimp only
          rw [ensures_bind]
          have hrest := bindMembers_grows hgrow (bareTag key) key record rest session'
          refine ((ih session').and hrest).mono fun result session'' hall => ?_
          obtain ⟨hothers, hg⟩ := hall
          cases result with
          | error error =>
              intro _ outcomes ho
              cases ho
          | ok others =>
              refine ensures_pure.2 fun h outcomes ho other hm => ?_
              rw [← Except.ok.inj ho] at hm
              rcases List.mem_append.1 hm with hm | hm
              · exact hfirst (h.anti hg) outcome rfl other (Option.mem_toList.1 hm)
              · exact hothers h others rfl other hm

/-- When the members of a record have been bound and callbacks are in order then, each callback
    among them goes by the name of its member. -/
theorem bindRecord_named (key : String) (record : Record) (session : Session) :
    Ensures True library (bindRecord binders key record) session fun result session' =>
      session'.FilesByName → ∀ members, result = .ok members →
        ∀ outcome ∈ members.outcomes, outcome.IsNamed members.name := by
  rw [bindRecord, ensures_bind]
  refine (bindMembers_named hgrow key record record.flattened session).mono
    fun result session' hnamed => ?_
  cases result with
  | error error =>
      intro _ members hm
      cases hm
  | ok outcomes =>
      refine ensures_pure.2 fun h members hm => ?_
      rw [← Except.ok.inj hm]
      exact hnamed h outcomes rfl

end Members

end ScriptBind
