import ScriptBind.Proofs.AccountableSessions

/-!
# Properties That Binding Keeps Up

What a property of sessions has to survive in order to hold throughout a pass:
the changes of code, callbacks and diagnostics, one by one, each with what is
known when it is made. Whatever survives these survives resolving any type and
binding any record that binding can come to, whether it succeeds or not, wherever
in the pass that is done.

The property is given together with the callbacks whose trampolines may be
written at all. That is a restriction only at the end, when trampolines that
have been given up must not be written any more.

## Main definitions

* `Converted.Fits`, `Wrapper.Fits`: Code that registers callbacks which have
  been made for the place and have their trampolines.
* `Upkeep`: A property and the changes it survives in a pass.
* `Upkeep.Kept`: The property holds and the session is accountable.
* `Upkeep.Sustains`, `Upkeep.SustainsAll`: A computation, and the ways to resolve and
  bind, keep the property wherever they are run in the pass.

## Theorems

* `Upkeep.marshal`: A callback is marshaled.
* `Upkeep.bindersWithin`: Resolving and binding within any number of levels.
* `Upkeep.resolve`, `Upkeep.bindStruct`: Resolving a type, binding a record.
-/

namespace ScriptBind

/-- A converted value registers, if anything, a callback made for the name of the
    site, in the slot that the site gives it, and the callback's trampoline is in
    the code. -/
def Converted.Fits (library : Library) (body : List Section) (site : Site) (value : Converted) :
    Prop :=
  ∀ callback, value.callback? = some callback →
    Vouched library site.id callback ∧ IsWritten body callback ∧
      value = .register site.expr callback (site.slot library.naming callback)

/-- An argument of a function's wrapper comes from the parameter at its
    position. -/
def Argument.Fits (library : Library) (body : List Section) (function : CFunction) (index : Nat)
    (argument : Argument) : Prop :=
  (namedParams function)[index]? = some argument.param ∧
    ∀ callback, argument.value.callback? = some callback →
      (library.decls.functionPointer argument.param.type).isSome ∧
        argument.value.Fits library body
          (argumentSite function.name (namedParams function) index argument.param)

theorem Argument.Fits.mono {library : Library} {body body' : List Section} {function : CFunction}
    {index : Nat} {argument : Argument} (h : argument.Fits library body function index)
    (hb : body <+: body') : argument.Fits library body' function index := by
  refine ⟨h.1, fun callback hc => ⟨(h.2 callback hc).1, fun other ho => ?_⟩⟩
  obtain ⟨hv, hwritten, hslot⟩ := (h.2 callback hc).2 other ho
  exact ⟨hv, hwritten.mono hb, hslot⟩

/-- The arguments of a wrapper come from the parameters of the function, and
    what the function returns is not registered. -/
def Wrapper.Fits (library : Library) (body : List Section) (wrapper : Wrapper) : Prop :=
  wrapper.function ∈ library.decls.functions ∧
    (∀ (index : Nat) (argument : Argument), wrapper.arguments[index]? = some argument →
      argument.Fits library body wrapper.function index) ∧
    ∀ value, wrapper.result = some value → value.callback? = none

/-- The arguments of a trampoline are not registered, and what it returns is made
    for the name of results. -/
def Trampoline.Fits (library : Library) (body : List Section) (trampoline : Trampoline) : Prop :=
  (∀ value ∈ trampoline.arguments, value.callback? = none) ∧
    ∀ value, trampoline.result = some value →
      value.Fits library body (resultSite trampoline.callback.signature.result)

/-- The code in which no callback occurs. -/
def Section.isPlain : Section → Bool
  | .accessor _ => false
  | .trampoline _ => false
  | .stub _ => false
  | .wrapper _ => false
  | .note _ => false
  | _ => true

theorem Section.isPlain_of_isOfModule {code : Section} (h : code.isOfModule) : code.isPlain := by
  cases code with
  | accessor code => cases h
  | trampoline code => cases h
  | stub callback => cases h
  | wrapper code => cases h
  | note diagnostic => cases h
  | _ => rfl

/-- The scope of all types and of the records that binding can come to. -/
def Scope.bindable (library : Library) : Scope library where
  types := fun _ => True
  records := Bindable library
  pointee := fun _ => trivial
  element := fun _ => trivial
  result := fun _ => trivial
  param := fun _ _ => trivial
  typedef := fun _ => trivial
  declared := .declared
  cell := .cell
  member := fun _ _ _ => trivial
  nested := .nested

/-- A callback has no trampoline, or is that of a result. -/
def Session.MayWrite (session : Session) (id : String) : Prop :=
  id = resultId ∨ ∀ callback, session.callbacks.get? id ≠ some (.emitted callback)

/-- A property of sessions, and the changes that it survives. -/
structure Upkeep {library : Library} (pass : Pass library) where
  /-- The property. -/
  holds : Session → Prop
  /-- The callbacks whose trampolines may be written. -/
  isOpen : String → Prop
  /-- Those of results may. -/
  isOpen_result : isOpen resultId
  /-- It concerns callbacks, code and diagnostics only. -/
  quiet : ∀ {session session' : Session}, holds session →
    session'.callbacks = session.callbacks → session'.body = session.body →
    session'.diagnostics = session.diagnostics → holds session'
  /-- Code without callbacks is written. -/
  emit : ∀ {session : Session} {code : Section}, holds session → code.isPlain →
    holds (session.emit code)
  /-- A declaration that is not a callback is left out. -/
  reject : ∀ {session : Session} {diagnostic : Diagnostic}, holds session →
    diagnostic.kind ≠ .callback → holds (session.reject diagnostic)
  /-- A callback fails. -/
  settleFailed : ∀ {session : Session} {id : String} {error : BindError}, holds session →
    session.Accountable pass → Blamed pass session.diagnostics id error → session.MayWrite id →
    holds (session.settleCallback id (.failed error))
  /-- A record is bound. -/
  commit : ∀ {session : Session} {members : BoundMembers} (typedef : Option MemberTypedef),
    holds session → session.Accountable pass → members.Fits pass session.diagnostics →
    holds (session.commit typedef members)
  /-- A trampoline is written. -/
  write : ∀ {session : Session} {trampoline : Trampoline} {callback : Callback}, holds session →
    session.Accountable pass → trampoline.callback = callback →
    trampoline.Fits library session.body → Vouched library callback.name callback →
    isOpen callback.name → session.MayWrite callback.name →
    holds ((session.emit (.trampoline trampoline)).settleCallback callback.name (.emitted callback))
  /-- The wrapper of a function is written. -/
  wrap : ∀ {session : Session} {wrapper : Wrapper}, holds session →
    session.Accountable pass → wrapper.Fits library session.body →
    holds (session.emit (.wrapper wrapper))
  /-- An argument of a function is left to the script. -/
  leave : ∀ {session : Session} {function : CFunction} {index : Nat} {param : Parameter}
    {error : BindError}, holds session → session.Accountable pass →
    function ∈ library.decls.functions → (namedParams function)[index]? = some param →
    (library.decls.functionPointer param.type).isSome →
    (Blamed pass session.diagnostics
        (argumentSite function.name (namedParams function) index param).id error ∨
      index = 0 ∧ error = .leadingCallback
        (argumentSite function.name (namedParams function) index param).id) →
    holds (session.reject (argumentDiagnostic function.name param error))

open BindM

namespace Upkeep

variable {library : Library} {pass : Pass library} (I : Upkeep pass)

/-- The property holds of an accountable session. -/
def Kept (session : Session) : Prop := session.Accountable pass ∧ I.holds session

/-- The property is kept. -/
def Keeping (session session' : Session) : Prop := I.Kept session → I.Kept session'

instance : IsPreorder Session I.Keeping where
  refl := fun _ h => h
  trans := fun _ _ _ h h' hs => h' (h hs)

variable {I} {session session' : Session}

theorem Kept.of_eq (h : I.Kept session) (hc : session'.callbacks = session.callbacks)
    (hb : session'.body = session.body) (hd : session'.diagnostics = session.diagnostics)
    (hdeferred : ∀ row ∈ session'.deferred.rows, row ∈ session.deferred.rows) : I.Kept session' :=
  ⟨h.1.of_callbacks_eq hc ⟨[], (List.append_nil _).trans hb.symm⟩
    ⟨[], (List.append_nil _).trans hd.symm⟩ hdeferred, I.quiet h.2 hc hb hd⟩

theorem Kept.emit (h : I.Kept session) {code : Section} (hp : code.isPlain) :
    I.Kept (session.emit code) :=
  ⟨h.1.emit code, I.emit h.2 hp⟩

theorem Kept.reject (h : I.Kept session) {diagnostic : Diagnostic}
    (hk : diagnostic.kind ≠ .callback) : I.Kept (session.reject diagnostic) :=
  ⟨h.1.reject diagnostic, I.reject h.2 hk⟩

theorem Kept.conclude (h : I.Kept session) {key : String} {deferred : DeferredStruct}
    (hk : Bindable library key deferred.record) (meetings : Nat) (error : BindError) :
    I.Kept (session.conclude key deferred meetings error) := by
  refine ⟨h.1.conclude hk meetings error, ?_⟩
  rw [Session.conclude]
  split
  · exact I.quiet h.2 rfl rfl rfl
  · have hs : I.holds (session.settleStruct key (.failed error)) := I.quiet h.2 rfl rfl rfl
    exact I.reject hs (show DeclarationKind.struct ≠ .callback by decide)

variable (I) in
/-- A computation keeps the property wherever it is run in the pass. -/
abbrev Sustains {α : Type} (action : BindM α) : Prop :=
  KeepsMet library (fun _ => pass.Runs) I.Keeping action

/-- What is ensured from every session with the property. -/
theorem sustains_of {α : Type} {action : BindM α}
    (h : ∀ session, pass.Runs action session → I.Kept session →
      Ensures True library action session fun _ session' => I.Kept session') :
    I.Sustains action := by
  intro session hrun
  by_cases hs : I.Kept session
  · exact (h session hrun hs).mono fun _ _ hs' _ => hs'
  · exact ensures_of_forall (fun _ _ hs' => absurd hs' hs) trivial

variable (I)

/-- Resolving by itself does nothing that the property does not survive. -/
theorem allows : Session.Allows (Scope.bindable library) I.Keeping where
  learn := fun _ _ _ _ h => h.of_eq rfl rfl rfl fun _ hm => hm
  typedef := by
    intro session name underlying conversion _ _ h
    obtain ⟨registry, aliases, he⟩ :=
      (session.addConversion name conversion).shareWithAlias_eq name underlying.spelling
    rw [he]
    exact h.of_eq rfl rfl rfl fun _ hm => hm
  array := fun _ _ _ _ _ _ _ hk h => ((hk h).emit rfl).of_eq rfl rfl rfl fun _ hm => hm

variable {I}

/-- A callback is marshaled: the place is told what some place of its name has
    come to, and that is all that changes. If the trampoline of that name has been
    written, it is that of the callback. -/
theorem marshal {resolve : CType → BindM Conversion} (hresolving : IsResolving resolve)
    (hkeep : ∀ type, (Scope.bindable library).types type → I.Sustains (resolve type))
    (hgrow : ∀ type, (Scope.all library).types type → Keeps library Session.Grows (resolve type))
    {demand : Demand} (hd : Demanded library demand)
    (hrun : pass.Runs (demand.marshal resolve) session) (h : I.Kept session) :
    Ensures True library (demand.marshal resolve) session fun result session' =>
      I.Kept session' ∧ demand.Answered pass session'.diagnostics result ∧
        ∀ callback other, result = .ok callback →
          session'.callbacks.get? demand.id = some (.emitted other) → other = callback := by
  rw [Demand.marshal, ScriptBind.marshal, ensures_bind, ensures_look]
  dsimp only
  split
  · next callback hc =>
      refine ⟨h, h.1.vouching.pending _ _ hc, fun _ other _ ho => ?_⟩
      cases ho.symm.trans hc
  · next callback hc =>
      refine ⟨h, h.1.vouching.emitted _ _ hc, fun _ other he ho => ?_⟩
      rw [← Except.ok.inj he]
      exact CallbackState.emitted.inj (Option.some.inj (ho.symm.trans hc))
  · next error hc =>
      refine ⟨h, h.1.failed _ _ hc, fun _ other _ ho => ?_⟩
      cases ho.symm.trans hc
  · next hn =>
      rw [ensures_bind, ensures_attempt]
      have hcheck : pass.Runs (demand.check resolve) session := hrun.call (.check hn)
      have hkept : I.Sustains (demand.check resolve) :=
        checkCallback_keepsMet pass.respects_runs hkeep trivial _ _ _
      have hgrown : Keeps library Session.Grows (demand.check resolve) :=
        checkCallback_keeps hgrow trivial _ _ _
      have hmeets := check_meets library resolve demand
      refine (((hkept session hcheck).and (hgrown session)).and (hmeets session)).withOutcome.mono
        fun result session' hall => ?_
      obtain ⟨⟨⟨hk, hg⟩, hm⟩, ho⟩ := hall
      have hs := hk h
      cases result with
      | ok callback =>
          exact ⟨hs, ⟨demand, hd, rfl, hm callback rfl⟩, fun _ other _ ho =>
            absurd ho (hg.unwritten demand.id other hn)⟩
      | error error =>
          have hblame : Blamed pass session'.diagnostics demand.id error :=
            .refused hd rfl hresolving hcheck hg.diagnostics ho
          exact ⟨⟨hs.1.settleFailed hblame, I.settleFailed hs.2 hs.1 hblame
            (Or.inr fun callback => hg.unwritten demand.id callback hn)⟩, hblame, fun _ _ he => by
              cases he⟩

variable (I) in
/-- Ways to resolve and bind that keep the property wherever they are run. -/
structure SustainsAll (binders : Binders) : Prop
    extends binders.KeepMet (Scope.bindable library) (fun _ => pass.Runs) I.Keeping where
  /-- Binding any record that binding can come to. -/
  bind : ∀ key record typedef, Bindable library key record →
    I.Sustains (binders.bind key record typedef)

section Members

variable {binders : Binders} (hresolving : IsResolving (binders.resolve 0))
  (hkeep : I.SustainsAll binders) (hgrow : binders.Grow library)

include hresolving hkeep hgrow

theorem bindCallback {key : String} {record : Record} (hrecord : Bindable library key record)
    {field : Field} (hfield : field ∈ record.flattened) (hne : field.name ≠ "")
    {signature : Signature} (hs : library.decls.functionPointer field.type = some signature)
    (hrun : pass.Runs (ScriptBind.bindMember binders (bareTag key) key record field) session)
    (h : I.Kept session) :
    Ensures True library (ScriptBind.bindCallback binders (bareTag key) key record field signature)
      session fun result session' => I.Kept session' ∧
        ∀ outcome, result = .ok outcome → outcome.Fits pass session'.diagnostics key record := by
  have hd : Demanded library (.ofMember key record field signature) := .member hrecord hfield hne hs
  rw [ScriptBind.bindCallback, ensures_bind, ensures_attempt]
  have hcall := hrun.call (.memberCallback hne hs)
  refine (marshal hresolving (hkeep.resolve 0) (hgrow.resolve 0) hd hcall h).mono
    fun result session' hall => ?_
  obtain ⟨hk, hanswer, -⟩ := hall
  cases result with
  | ok callback =>
      dsimp only
      rw [ensures_bind, ensures_look]
      dsimp only
      rw [ensures_pure]
      refine ⟨hk, fun outcome ho => ?_⟩
      obtain rfl := Except.ok.inj ho
      intro other hother
      obtain rfl := Option.some.inj hother
      exact ⟨field, signature, hfield, rfl, hne, hs, hanswer⟩
  | error error =>
      dsimp only
      rw [ensures_pure]
      refine ⟨hk, fun outcome ho => ?_⟩
      obtain rfl := Except.ok.inj ho
      exact ⟨field, signature, error, hfield, rfl, hne, hs, hanswer, rfl⟩

omit hresolving hgrow in
theorem bindNameless {key place : String} {record inner : Record}
    (hrecord : Bindable library key record) {field : Field} (hfield : field ∈ record.flattened)
    (hne : field.name ≠ "") (hs : library.decls.functionPointer field.type = none)
    (ht : field.type = .anonymous inner)
    (hrun : pass.Runs (ScriptBind.bindMember binders (bareTag key) key record field) session)
    (h : I.Kept session) :
    Ensures True library
      (ScriptBind.bindNameless binders (bareTag key) key place field inner) session
      fun result session' => I.Kept session' ∧
        ∀ access, result = .ok access → access.callback? = none := by
  rw [ScriptBind.bindNameless, ensures_bind]
  have hbound := hkeep.bind _ _ (some ⟨key, field.name, memberTypeName (bareTag key) field.name⟩)
    (.nested hrecord hfield hne ht) session (hrun.call (.memberRecord hne hs ht))
  refine (hbound.within place).mono fun result session' hk => ?_
  cases result with
  | error error =>
      refine ⟨hk h, fun access ha => ?_⟩
      cases ha
  | ok bound =>
      dsimp only
      rw [ensures_bind, ensures_look]
      dsimp only
      split
      · rw [ensures_ofExcept]
        exact ⟨hk h, fun access ha => Access.callback?_ofConversion ha⟩
      · rw [ensures_fail]
        refine ⟨hk h, fun access ha => ?_⟩
        cases ha

omit hresolving hkeep hgrow in
/-- A member that is not a callback fits whatever becomes of it. -/
theorem reach {key : String} {record : Record} {result : Except BindError Access}
    (hresult : ∀ access, result = .ok access → access.callback? = none) (h : I.Kept session) :
    Ensures True library
      (do return some (MemberOutcome.reached (← BindM.ofExcept result)) :
        BindM (Option MemberOutcome))
      session fun result session' => I.Kept session' ∧ ∀ outcome : MemberOutcome,
        result = .ok (some outcome) → outcome.Fits pass session'.diagnostics key record := by
  rw [ensures_bind, ensures_ofExcept]
  cases result with
  | error error =>
      refine ⟨h, fun outcome ho => ?_⟩
      cases ho
  | ok access =>
      dsimp only
      rw [ensures_pure]
      refine ⟨h, fun outcome ho => ?_⟩
      obtain rfl := Option.some.inj (Except.ok.inj ho)
      intro callback hc
      rw [hresult access rfl] at hc
      cases hc

theorem bindMember {key : String} {record : Record} (hrecord : Bindable library key record)
    {field : Field} (hfield : field ∈ record.flattened)
    (hrun : pass.Runs (ScriptBind.bindMember binders (bareTag key) key record field) session)
    (h : I.Kept session) :
    Ensures True library (ScriptBind.bindMember binders (bareTag key) key record field) session
      fun result session' => I.Kept session' ∧ ∀ outcome, result = .ok (some outcome) →
        outcome.Fits pass session'.diagnostics key record := by
  rw [ScriptBind.bindMember]
  by_cases hne : field.name = ""
  · rw [if_pos hne, ensures_pure]
    refine ⟨h, fun outcome ho => ?_⟩
    cases Except.ok.inj ho
  rw [if_neg hne, ensures_bind, ensures_look]
  dsimp only
  -- Whatever is resolved by its conversion keeps the property and is no callback.
  have hvalue : ∀ (f : Conversion → Except BindError Access),
      (∀ conversion access, f conversion = .ok access → access.callback? = none) →
      pass.Runs (binders.resolve 0 field.type) session →
      Ensures True library (do
          let conversion ← (binders.resolve 0 field.type).within
            s!"struct `{bareTag key}.{field.name}`"
          return some (MemberOutcome.reached (← BindM.ofExcept (f conversion))))
        session fun result session' => I.Kept session' ∧ ∀ outcome : MemberOutcome,
          result = .ok (some outcome) → outcome.Fits pass session'.diagnostics key record := by
    intro f hf hcall
    rw [ensures_bind]
    refine ((hkeep.resolve 0 field.type trivial session hcall).within _).mono
      fun result session' hk => ?_
    cases result with
    | error error =>
        refine ⟨hk h, fun outcome ho => ?_⟩
        cases ho
    | ok conversion => exact reach (hf conversion) (hk h)
  cases hs : library.decls.functionPointer field.type with
  | some signature =>
      dsimp only
      rw [ensures_bind]
      refine (bindCallback hresolving hkeep hgrow hrecord hfield hne hs hrun h).mono
        fun result session' hall => ?_
      obtain ⟨hk, hfits⟩ := hall
      cases result with
      | error error =>
          refine ⟨hk, fun outcome ho => ?_⟩
          cases ho
      | ok outcome =>
          dsimp only
          rw [ensures_pure]
          refine ⟨hk, fun other ho => ?_⟩
          obtain rfl := Option.some.inj (Except.ok.inj ho)
          exact hfits outcome rfl
  | none =>
      dsimp only
      split
      · next inner ht =>
          rw [ensures_bind]
          refine (bindNameless hkeep hrecord hfield hne hs ht hrun h).mono
            fun result session' hall => ?_
          have hreach := @reach library pass I session' key record result hall.2 hall.1
          rwa [ensures_bind, ensures_ofExcept] at hreach
      · next element length ht =>
          split
          · rw [ensures_pure]
            refine ⟨h, fun outcome ho => ?_⟩
            cases Except.ok.inj ho
          · next hlength =>
              refine hvalue _ (fun _ _ ha => Access.callback?_ofArray ha)
                (hrun.call (.memberValue hne hs (fun inner he => ?_) fun other he => ?_))
              · cases ht.symm.trans he
              · exact hlength (CType.array.inj (ht.symm.trans he)).2
      · next hnested harray =>
          exact hvalue _ (fun _ _ ha => Access.callback?_ofConversion ha)
            (hrun.call (.memberValue hne hs hnested fun element => harray element 0))

theorem bindMembers {key : String} {record : Record} (hrecord : Bindable library key record)
    {fields : List Field} (hfields : ∀ field ∈ fields, field ∈ record.flattened)
    (hrun : pass.Runs (ScriptBind.bindMembers binders (bareTag key) key record fields) session)
    (h : I.Kept session) :
    Ensures True library (ScriptBind.bindMembers binders (bareTag key) key record fields) session
      fun result session' => I.Kept session' ∧ ∀ outcomes, result = .ok outcomes →
        ∀ outcome ∈ outcomes, outcome.Fits pass session'.diagnostics key record := by
  induction fields generalizing session with
  | nil =>
      refine ⟨h, fun outcomes ho outcome hm => ?_⟩
      rw [← Except.ok.inj ho] at hm
      cases hm
  | cons field rest ih =>
      rw [ScriptBind.bindMembers, ensures_bind]
      refine (bindMember hresolving hkeep hgrow hrecord (hfields field (List.mem_cons_self ..))
        (hrun.call .member) h).withOutcome.mono fun result session' hall => ?_
      obtain ⟨⟨hk, hfits⟩, ho⟩ := hall
      cases result with
      | error error =>
          refine ⟨hk, fun outcomes ho => ?_⟩
          cases ho
      | ok first =>
          dsimp only
          rw [ensures_bind]
          have hrest := ih (fun other ho => hfields other (List.mem_cons_of_mem _ ho))
            (hrun.call (.nextMembers ho)) hk
          have hgrown := bindMembers_grows hgrow (bareTag key) key record rest session'
          refine (hrest.and hgrown).mono fun result session'' hall => ?_
          obtain ⟨⟨hk', hfits'⟩, hg⟩ := hall
          cases result with
          | error error =>
              refine ⟨hk', fun outcomes ho => ?_⟩
              cases ho
          | ok others =>
              dsimp only
              rw [ensures_pure]
              refine ⟨hk', fun outcomes ho outcome hm => ?_⟩
              obtain rfl := Except.ok.inj ho
              rcases List.mem_append.1 hm with hm | hm
              · rw [Option.mem_toList] at hm
                exact (hfits outcome (by rw [hm])).mono hg.diagnostics
              · exact hfits' others rfl outcome hm

theorem bindRecord {key : String} {record : Record} (hrecord : Bindable library key record)
    (hrun : pass.Runs
      (ScriptBind.bindMembers binders (bareTag key) key record record.flattened) session)
    (h : I.Kept session) :
    Ensures True library (ScriptBind.bindRecord binders key record) session
      fun result session' => I.Kept session' ∧ ∀ members, result = .ok members →
        members.key = key ∧ members.Fits pass session'.diagnostics := by
  rw [ScriptBind.bindRecord, ensures_bind]
  refine (bindMembers hresolving hkeep hgrow hrecord (fun _ hm => hm) hrun h).mono
    fun result session' hall => ?_
  obtain ⟨hk, hfits⟩ := hall
  cases result with
  | error error =>
      refine ⟨hk, fun members hm => ?_⟩
      cases hm
  | ok outcomes =>
      dsimp only
      rw [ensures_pure]
      refine ⟨hk, fun members hm => ?_⟩
      obtain rfl := Except.ok.inj hm
      exact ⟨rfl, rfl, record, hrecord, hfits outcomes rfl⟩

/-- A record is entered, its members are bound, and it is left and concluded. -/
theorem bindFresh {key : String} {deferred : DeferredStruct}
    (hrecord : Bindable library key deferred.record)
    (hrun : pass.Runs (ScriptBind.bindMembers binders (bareTag key) key deferred.record
      deferred.record.flattened) (session.enter key)) (h : I.Kept session) :
    Ensures True library (ScriptBind.bindFresh binders key deferred) session
      fun _ session' => I.Kept session' := by
  simp only [ScriptBind.bindFresh, ensures_bind, ensures_look, ensures_update, ensures_attempt]
  have hentered : I.Kept (session.enter key) := h.of_eq rfl rfl rfl fun _ hm => hm
  refine (bindRecord hresolving hkeep hgrow hrecord hrun hentered).mono
    fun result session' hall => ?_
  obtain ⟨hk, hmembers⟩ := hall
  have hleft : I.Kept (session'.leave key) := hk.of_eq rfl rfl rfl fun _ hm => hm
  cases result with
  | ok members =>
      obtain ⟨-, hfits⟩ := hmembers members rfl
      simp only [ensures_bind, ensures_update, ensures_pure]
      exact ⟨hleft.1.commit hfits _, I.commit _ hleft.2 hleft.1 hfits⟩
  | error error =>
      simp only [ensures_bind, ensures_update, ensures_pure]
      exact hleft.conclude hrecord ..

omit hresolving hgrow in
theorem retryDeferred (rounds : Nat) : I.Sustains (ScriptBind.retryDeferred binders rounds) := by
  induction rounds with
  | zero => exact fun _ _ => trivial
  | succ rounds ih =>
      refine sustains_of fun session hrun h => ?_
      rw [ScriptBind.retryDeferred, ensures_bind, ensures_look]
      dsimp only
      split
      · exact h
      · next key deferred hhead =>
          -- The record was put off, so it is one that binding can come to.
          have hrecord : Bindable library key deferred.record :=
            h.1.vouching.deferred key deferred (List.mem_of_mem_head? hhead)
          have htaken : I.Kept (session.takeDeferred key) :=
            h.of_eq rfl rfl rfl fun _ hm => (List.mem_filter.1 hm).1
          simp only [ensures_bind, ensures_update, ensures_attempt]
          refine (hkeep.bind key deferred.record deferred.typedef hrecord _
            (hrun.call (.deferred hhead))).withOutcome.mono fun _ session' hall => ?_
          exact (ih session' (hrun.call (.nextDeferred hhead hall.2))).mono
            fun _ _ hk => hk (hall.1 htaken)

/-- Binding one record keeps what its parts keep. -/
theorem bindStep (rounds : Nat) {key : String} {record : Record}
    (hrecord : Bindable library key record) (typedef : Option MemberTypedef) :
    I.Sustains (ScriptBind.bindStep rounds binders key record typedef) := by
  refine sustains_of fun session hrun h => ?_
  rw [ScriptBind.bindStep, ensures_bind, ensures_look]
  dsimp only
  split
  · exact h
  · exact h
  · simp only [ensures_bind, ensures_update, ensures_fail]
    exact h.of_eq rfl rfl rfl fun _ hm => hm
  · next hstate =>
      obtain ⟨hnew, hfree⟩ := Prod.mk.inj hstate
      rw [ensures_bind]
      refine (@bindFresh _ _ I _ binders hresolving hkeep hgrow key ⟨record, typedef⟩ hrecord
        (hrun.call (.members hnew hfree)) h).withOutcome.mono fun result session' hall => ?_
      obtain ⟨hk, ho⟩ := hall
      cases result with
      | error error => exact hk
      | ok result =>
          dsimp only
          rw [ensures_bind, ensures_look]
          dsimp only
          split
          · next hidle =>
              rw [ensures_bind]
              refine (retryDeferred hkeep rounds session'
                (hrun.call (.retry hnew hfree ho hidle))).mono fun result session'' hk' => ?_
              cases result with
              | error error => exact hk' hk
              | ok _ =>
                  dsimp only
                  rw [ensures_bind, ensures_look]
                  dsimp only
                  split
                  · exact hk' hk
                  · exact ensures_ofExcept.2 (hk' hk)
          · exact ensures_ofExcept.2 hk

end Members

variable (I)

/-- Any number of levels keeps the property. -/
theorem bindersWithin (levels : Nat) : I.SustainsAll (ScriptBind.bindersWithin levels) := by
  induction levels with
  | zero =>
      exact
        { resolve := fun _ _ _ _ _ => trivial
          named := fun _ _ _ _ _ => trivial
          verdict := fun _ _ _ _ => trivial
          bind := fun _ _ _ _ _ _ => trivial }
  | succ levels ih =>
      have hbind : ∀ key record typedef, Bindable library key record →
          I.Sustains ((ScriptBind.bindersWithin (levels + 1)).bind key record typedef) :=
        fun key record typedef hrecord =>
          bindStep (IsResolving.within levels) ih (bindersWithin_grow levels) levels hrecord typedef
      exact
        { resolve := fun links type ht => resolveStep_keepsMet pass.respects_runs I.allows
            ih.toKeepMet links ht
          named := fun key record hrecord => hbind key record none hrecord
          verdict := (bindersWithin_grow (levels + 1)).verdict
          bind := hbind }

/-- The same for whatever starts the binding of a type, if what it leads to is run
    within the levels that it grants. -/
theorem withBinders {α : Type} (subject : String) (size : Nat) {f : Binders → BindM α}
    (hcall : ∀ session, pass.Runs (ScriptBind.withBinders subject size f) session →
      pass.Runs (f (ScriptBind.bindersWithin
        (levelsFor (library.decls.size + session.pendingSize + size)))) session)
    (h : ∀ levels, I.Sustains (f (ScriptBind.bindersWithin levels))) :
    I.Sustains (ScriptBind.withBinders subject size f) := by
  intro session hrun
  refine Ensures.settled ?_ fun h => h
  rw [ensures_bind, ensures_look]
  exact h _ session (hcall session hrun)

/-- Resolving a type keeps the property. -/
theorem resolve (type : CType) : I.Sustains (ScriptBind.resolve type) :=
  I.withBinders _ _ (fun _ hrun => hrun.call .resolve)
    fun levels => (I.bindersWithin levels).resolve 0 type trivial

/-- Binding a record keeps the property, if binding can come to the record. -/
theorem bindStruct {key : String} {record : Record} (hrecord : Bindable library key record) :
    I.Sustains (ScriptBind.bindStruct key record) :=
  I.withBinders _ _ (fun _ hrun => hrun.call .bindStruct)
    fun levels => (I.bindersWithin levels).bind key record none hrecord

theorem resolveOpenArray (element : CType) : I.Sustains (ScriptBind.resolveOpenArray element) :=
  I.withBinders _ _ (fun _ hrun => hrun.call .openArray) fun levels =>
    openArrayConversion_keepsMet pass.respects_runs ((I.bindersWithin levels).resolve 0)
      I.allows.toAllowsLearning trivial

end Upkeep

end ScriptBind
