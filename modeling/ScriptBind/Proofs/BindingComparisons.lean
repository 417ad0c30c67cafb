import ScriptBind.Proofs.AccountableSessions
import ScriptBind.Proofs.BindingChanges

/-!
# What Is Carried Through Binding

A comparison of sessions that allows every addition goes through the binding of
a record's members, through the writing of trampolines and through the wrapping
of functions. What it needs for itself is only to go through the binding of
records, where the records are entered and left; everything that leads there and
everything that uses it is passed through here, once for all such comparisons.

Types and records are followed on the way: what is in the scope at the beginning
leads only to what is in the scope, and the callbacks that come out are in the
scope as well, wherever they come from.

## Main definitions

* `Scope.CarriesTypes`: A comparison that goes through binding, and through
  additions that spare functions and variables.
* `Scope.Carries`: A comparison that goes through additions and through binding.

## Theorems

* `bindRecord_brings`: The members of a record are bound.
* `CarriesTypes.resolve`, `CarriesTypes.bindStruct`: Types and records are bound.
* `CarriesTypes.emitCallback`, `CarriesTypes.emitPending`: Trampolines are
  written.
* `CarriesTypes.wrapArguments`, `CarriesTypes.bindPointerCell`: What functions
  take, and the cell for a pointer.
* `CarriesTypes.wrapOrReject`, `CarriesTypes.showGlobals`: Functions and
  variables, if the comparison allows what is said of them as a whole.
-/

namespace ScriptBind

open BindM

variable {library : Library} {scope : Scope library} {R : Session → Session → Prop}
  [IsPreorder Session R]

/-- A callback whose signature is in a scope. -/
def Callback.Within (scope : Scope library) (callback : Callback) : Prop :=
  scope.types (.function callback.signature)

omit [IsPreorder Session R] in
/-- A member that is no callback is made whatever its conversion is. -/
theorem MemberOutcome.made_of_callback?_eq_none {access : Access} (ha : access.callback? = none) :
    (MemberOutcome.reached access).Made scope := by
  intro callback hc
  rw [ha] at hc
  cases hc

section Members

variable (hR : ∀ (session : Session) (id : String) (error : BindError),
  R session (session.settleCallback id (.failed error)))

include hR

/-- A callback that is marshaled is in the scope: it was made for the place, or
    the session kept it. -/
theorem marshal_brings {resolve : CType → BindM Conversion}
    (hresolve : ∀ type, scope.types type → Keeps library (scope.Guarded R) (resolve type))
    {signature : Signature} (hs : scope.types (.function signature)) (typeName owner name : String)
    (expected : Option (String × Record)) :
    scope.Brings R (Callback.Within scope)
      (marshal resolve signature typeName owner name expected) := by
  have hlook : scope.Brings R (fun state => ∀ callback, state = some (.pending callback) ∨
      state = some (.emitted callback) → callback.Within scope)
      (BindM.look fun _ session => session.callbacks.get? (callbackName owner name)) :=
    .look fun session hw callback hc => hc.elim (hw.pending _ _) (hw.emitted _ _)
  have hcheck : scope.Brings R (Callback.Within scope)
      (checkCallback resolve signature typeName (callbackName owner name) expected) := by
    refine .of_answers (checkCallback_keeps hresolve hs _ _ _) fun session => ?_
    refine (check_meets library resolve ⟨signature, typeName, owner, name, expected⟩ session).mono
      fun result _ hmet callback hc => ?_
    rw [Callback.Within, (hmet callback hc).signature]
    exact hs
  rw [marshal]
  refine hlook.bind fun state hstate => ?_
  split
  · exact .pure (hstate _ (Or.inl rfl))
  · exact .pure (hstate _ (Or.inr rfl))
  · exact .fail _
  · -- The place is the first of its name, and the callback is made for it.
    refine hcheck.attempt.bind fun result hresult => ?_
    cases result with
    | ok callback => exact .pure (hresult callback rfl)
    | error error =>
        refine .bind (.update fun session hw => ⟨?_, hR session _ error⟩) fun _ _ => .fail error
        exact (Session.Addition.settleFailed session _ error).within hw

variable {binders : Binders} (h : binders.KeepParts scope (scope.Guarded R))

include h

theorem bindCallback_brings {field : Field} {signature : Signature}
    (ht : scope.types field.type)
    (hs : library.decls.functionPointer field.type = some signature) (owner key : String)
    (record : Record) :
    scope.Brings R (MemberOutcome.Made scope)
      (bindCallback binders owner key record field signature) := by
  rw [bindCallback]
  have hmarshal := marshal_brings hR (h.resolve 0) (scope.signature ht hs) field.type.spelling owner
    field.name (some (key, record))
  refine hmarshal.attempt.bind fun result hresult => ?_
  cases result with
  | ok callback =>
      refine .bind (.look fun _ _ => trivial) fun slot (_ : True) => .pure fun other ho => ?_
      rw [← Option.some.inj ho]
      exact hresult callback rfl
  | error error => exact .pure rfl

omit hR in
theorem bindNameless_brings {key : String} {record inner : Record} {field : Field}
    (hr : scope.records key record) (hf : field ∈ record.flattened) (hne : field.name ≠ "")
    (ht : field.type = .anonymous inner) (place : String) :
    scope.Brings R (fun access => access.callback? = none)
      (bindNameless binders (bareTag key) key place field inner) := by
  rw [bindNameless]
  have hbind := h.nested hr hf hne ht
  refine .bind (.of_keeps (Keeps.within hbind place)) fun _ _ => ?_
  refine .bind (.look fun _ _ => trivial) fun known (_ : True) => ?_
  split
  · exact .ofExcept fun access ha => Access.callback?_ofConversion ha
  · exact .fail _

theorem bindMember_brings {key : String} {record : Record} (hr : scope.records key record)
    {field : Field} (hf : field ∈ record.flattened) :
    scope.Brings R (fun outcome => ∀ made, outcome = some made → made.Made scope)
      (bindMember binders (bareTag key) key record field) := by
  rw [bindMember]
  by_cases hne : field.name = ""
  · rw [if_pos hne]
    refine .pure fun made hm => ?_
    cases hm
  rw [if_neg hne]
  have ht := scope.member hr hf hne
  -- Members that are not callbacks bring none along.
  have hreach : ∀ {result : Except BindError Access},
      (∀ access, result = .ok access → access.callback? = none) →
      scope.Brings R (fun outcome => ∀ made, outcome = some made → made.Made scope)
        (do return some (MemberOutcome.reached (← BindM.ofExcept result))) := by
    intro result hresult
    refine .bind (.ofExcept hresult) fun access ha => .pure fun made hm => ?_
    rw [← Option.some.inj hm]
    exact MemberOutcome.made_of_callback?_eq_none ha
  refine .bind (.look fun _ _ => rfl) fun signature? hsig => ?_
  cases hsig
  cases hs : library.decls.functionPointer field.type with
  | some signature =>
      refine (bindCallback_brings hR h ht hs _ key record).bind fun outcome ho =>
        .pure fun made hm => ?_
      rw [← Option.some.inj hm]
      exact ho
  | none =>
      dsimp only
      split
      · next inner hinner =>
          refine (bindNameless_brings h hr hf hne hinner _).bind fun access ha =>
            .pure fun made hm => ?_
          rw [← Option.some.inj hm]
          exact MemberOutcome.made_of_callback?_eq_none ha
      · split
        · refine .pure fun made hm => ?_
          cases hm
        · refine .bind (.of_keeps (Keeps.within (h.resolve _ _ ht) _)) fun conversion _ => hreach ?_
          exact fun access ha => Access.callback?_ofArray ha
      · refine .bind (.of_keeps (Keeps.within (h.resolve _ _ ht) _)) fun conversion _ => hreach ?_
        exact fun access ha => Access.callback?_ofConversion ha

theorem bindMembers_brings {key : String} {record : Record} (hr : scope.records key record)
    {fields : List Field} (hfields : ∀ field ∈ fields, field ∈ record.flattened) :
    scope.Brings R (fun outcomes => ∀ outcome ∈ outcomes, outcome.Made scope)
      (bindMembers binders (bareTag key) key record fields) := by
  induction fields with
  | nil =>
      refine .pure fun outcome hm => ?_
      cases hm
  | cons field rest ih =>
      rw [bindMembers]
      refine (bindMember_brings hR h hr (hfields field (List.mem_cons_self ..))).bind
        fun first hfirst => ?_
      refine (ih fun other ho => hfields other (List.mem_cons_of_mem _ ho)).bind
        fun others hothers => .pure fun outcome hm => ?_
      rcases List.mem_append.1 hm with hm | hm
      · exact hfirst outcome (Option.mem_toList.1 hm)
      · exact hothers outcome hm

/-- The members of a record are bound. -/
theorem bindRecord_brings {key : String} {record : Record} (hr : scope.records key record) :
    scope.Brings R (fun members => members.key = key ∧ members.Made scope)
      (bindRecord binders key record) := by
  rw [bindRecord]
  refine (bindMembers_brings hR h hr fun _ hm => hm).bind fun outcomes ho => .pure ?_
  exact ⟨rfl, rfl, ⟨record, hr⟩, ho⟩

end Members

/-- A comparison that goes through binding, within any number of levels, and
    through the additions that spare functions and variables. -/
structure Scope.CarriesTypes (scope : Scope library) (R : Session → Session → Prop) : Prop where
  /-- It allows the other additions that spare functions and variables. -/
  addition : ∀ {session session' : Session}, session.Addition scope session' →
    session.SparesDeclared session' → session.SparesConversions session' → R session session'
  /-- It goes through resolving and binding. -/
  levels : ∀ levels, (bindersWithin levels).KeepParts scope (scope.Guarded R)
  /-- It goes through arrays of a fixed length. -/
  arrays : ∀ levels element, scope.types element → ∀ length,
    Keeps library (scope.Guarded R)
      (arrayConversion ((bindersWithin levels).resolve 0) element length)
  /-- It goes through arrays of unknown length. -/
  openArrays : ∀ levels element, scope.types element →
    Keeps library (scope.Guarded R) (openArrayConversion ((bindersWithin levels).resolve 0) element)

/-- A comparison that goes through additions and through binding, within any
    number of levels. -/
structure Scope.Carries (scope : Scope library) (R : Session → Session → Prop) : Prop where
  /-- It allows the other additions. -/
  addition : ∀ {session session' : Session}, session.Addition scope session' →
    session.SparesConversions session' → R session session'
  /-- It goes through resolving and binding. -/
  levels : ∀ levels, (bindersWithin levels).KeepParts scope (scope.Guarded R)
  /-- It goes through arrays of a fixed length. -/
  arrays : ∀ levels element, scope.types element → ∀ length,
    Keeps library (scope.Guarded R)
      (arrayConversion ((bindersWithin levels).resolve 0) element length)
  /-- It goes through arrays of unknown length. -/
  openArrays : ∀ levels element, scope.types element →
    Keeps library (scope.Guarded R) (openArrayConversion ((bindersWithin levels).resolve 0) element)

/-- What allows what resolving itself does, goes through arrays. -/
theorem Scope.CarriesTypes.of_allows (hallows : Session.AllowsLearning scope (scope.Guarded R))
    (haddition : ∀ {session session' : Session}, session.Addition scope session' →
      session.SparesDeclared session' → session.SparesConversions session' → R session session')
    (hlevels : ∀ levels, (bindersWithin levels).KeepParts scope (scope.Guarded R)) :
    scope.CarriesTypes R where
  addition := haddition
  levels := hlevels
  arrays := fun levels _ he length =>
    arrayConversion_keeps ((hlevels levels).resolve 0) hallows he length
  openArrays := fun levels _ he => openArrayConversion_keeps ((hlevels levels).resolve 0) hallows he

theorem Scope.Carries.of_allows (hallows : Session.AllowsLearning scope (scope.Guarded R))
    (haddition : ∀ {session session' : Session}, session.Addition scope session' →
      session.SparesConversions session' → R session session')
    (hlevels : ∀ levels, (bindersWithin levels).KeepParts scope (scope.Guarded R)) :
    scope.Carries R where
  addition := haddition
  levels := hlevels
  arrays := fun levels _ he length =>
    arrayConversion_keeps ((hlevels levels).resolve 0) hallows he length
  openArrays := fun levels _ he => openArrayConversion_keeps ((hlevels levels).resolve 0) hallows he

/-- A function whose types are in a scope. -/
structure CFunction.Within (scope : Scope library) (function : CFunction) : Prop where
  /-- What it returns. -/
  result : scope.types function.result
  /-- What it takes. -/
  param : ∀ param ∈ function.params, scope.types param.type

omit [IsPreorder Session R] in
/-- The parameters a call has to give are among the function's. -/
theorem CFunction.mem_params_of_effective {function : CFunction} {param : Parameter}
    (h : param ∈ function.effectiveParams) : param ∈ function.params := by
  unfold effectiveParams at h
  split at h
  · next only he =>
      split at h
      · cases h
      · rw [he]
        exact h
  · exact h

omit [IsPreorder Session R] in
/-- Naming the parameters of a function leaves their types alone. -/
theorem CFunction.exists_param_of_named {function : CFunction} {param : Parameter}
    (h : param ∈ namedParams function) : ∃ given ∈ function.params, given.type = param.type := by
  obtain ⟨index, hi, rfl⟩ := List.mem_mapIdx.1 h
  refine ⟨_, mem_params_of_effective (List.getElem_mem hi), ?_⟩
  rw [namedParam]
  split
  · rfl
  · rfl

/-- A site in a scope. -/
def Site.Within (scope : Scope library) (site : Site) : Prop := scope.types site.type

namespace Scope.CarriesTypes

variable (h : scope.CarriesTypes R)

include h

omit h in
theorem withBinders {α : Type} (subject : String) (size : Nat) {f : Binders → BindM α}
    (hf : ∀ levels, Keeps library (scope.Guarded R) (f (bindersWithin levels))) :
    Keeps library (scope.Guarded R) (ScriptBind.withBinders subject size f) :=
  Keeps.settled (Keeps.bind (Keeps.look _) fun _ => hf _) subject

theorem resolve (type : CType) (ht : scope.types type) :
    Keeps library (scope.Guarded R) (ScriptBind.resolve type) :=
  withBinders _ _ fun levels => (h.levels levels).resolve 0 type ht

theorem bindStruct {key : String} {record : Record} (hr : scope.records key record) :
    Keeps library (scope.Guarded R) (ScriptBind.bindStruct key record) :=
  withBinders _ _ fun levels => (h.levels levels).named key record hr

theorem resolveArray {element : CType} (he : scope.types element) (length : Nat) :
    Keeps library (scope.Guarded R) (ScriptBind.resolveArray element length) :=
  withBinders _ _ fun levels => h.arrays levels element he length

theorem resolveOpenArray {element : CType} (he : scope.types element) :
    Keeps library (scope.Guarded R) (ScriptBind.resolveOpenArray element) :=
  withBinders _ _ fun levels => h.openArrays levels element he

omit [IsPreorder Session R] in
/-- An addition that spares functions and variables, as a computation. -/
theorem update {f : Library → Session → Session}
    (hf : ∀ session : Session, session.Addition scope (f library session))
    (hs : ∀ session : Session, session.SparesDeclared (f library session))
    (hc : ∀ session : Session, session.SparesConversions (f library session)) :
    Keeps library (scope.Guarded R) (BindM.update f) :=
  Keeps.update fun session =>
    Scope.guarded_of_addition (hf session) (h.addition (hf session) (hs session) (hc session))

/-- A callable is registered. -/
theorem registerWith {emit : Callback → BindM Unit}
    (hemit : ∀ callback, callback.Within scope → Keeps library (scope.Guarded R) (emit callback))
    {site : Site} (hs : site.Within scope) :
    Keeps library (scope.Guarded R) (ScriptBind.registerWith emit site) := by
  refine Scope.Brings.true_iff.1 ?_
  rw [ScriptBind.registerWith]
  refine Scope.Brings.bind .read fun answer ha => ?_
  obtain rfl := ha
  dsimp only
  cases hf : answer.decls.functionPointer site.type with
  | none => exact .fail _
  | some signature =>
      dsimp only
      split
      · exact .fail _
      · have hfail : ∀ (session : Session) (id : String) (error : BindError),
            R session (session.settleCallback id (.failed error)) :=
          fun session id error =>
            h.addition (.settleFailed session id error) (.of_eq rfl rfl) ⟨rfl, rfl⟩
        refine (marshal_brings hfail h.resolve (scope.signature hs hf) _ _ _ _).bind
          fun callback hc => ?_
        exact .bind (.of_keeps (hemit callback hc)) fun _ _ => .pure trivial

omit h in
/-- A value on its way to C. -/
theorem convertWith {register : Site → BindM Converted} {site : Site}
    (hregister : Keeps library (scope.Guarded R) (register site)) (conversion : Conversion) :
    Keeps library (scope.Guarded R) (ScriptBind.convertWith register conversion site) := by
  rw [ScriptBind.convertWith]
  split
  · exact Keeps.pure _
  · exact hregister

/-- A trampoline is found, what it returns being registered as given. -/
theorem renderWith {register : Site → BindM Converted} {callback : Callback}
    (hc : callback.Within scope)
    (hregister : ∀ site : Site, site.Within scope →
      Keeps library (scope.Guarded R) (register site)) :
    Keeps library (scope.Guarded R) (ScriptBind.renderWith register callback) := by
  unfold ScriptBind.renderWith
  have hparams : ∀ type ∈ callback.signature.params, scope.types type :=
    fun type hm => scope.param hc hm
  refine Keeps.bind (convertArguments_keeps h.resolve _ 0 hparams) fun arguments => ?_
  split
  · exact Keeps.pure _
  · refine Keeps.bind ?_ fun _ => Keeps.pure _
    have hresult : scope.types callback.signature.result := scope.result hc
    exact Keeps.bind (Keeps.within (h.resolve _ hresult) _) fun conversion =>
      convertWith (hregister (resultSite callback.signature.result) hresult) conversion

/-- A trampoline is written unless it is. -/
theorem emitWith {render : Callback → BindM Trampoline} {callback : Callback}
    (hc : callback.Within scope) (hrender : Keeps library (scope.Guarded R) (render callback)) :
    Keeps library (scope.Guarded R) (ScriptBind.emitWith render callback) := by
  unfold ScriptBind.emitWith
  refine Keeps.bind (Keeps.look _) fun state => ?_
  split
  · exact Keeps.pure _
  · refine Keeps.bind (Keeps.attempt hrender) fun result => ?_
    cases result with
    | ok trampoline =>
        refine h.update (fun session => .write session hc) (fun session => ?_) fun session => ?_
        · have hspares : session.SparesDeclared (session.emit (.trampoline trampoline)) :=
            session.sparesKinds_emit rfl
          exact ⟨hspares.body, hspares.diagnostics⟩
        · have hspares : session.SparesConversions (session.emit (.trampoline trampoline)) :=
            session.sparesConversions_emit rfl
          exact ⟨rfl, hspares.body⟩
    | error error =>
        exact Keeps.bind (h.update (fun session => .settleFailed session _ error)
          (fun _ => .of_eq rfl rfl) fun _ => ⟨rfl, rfl⟩) fun _ => Keeps.fail error

theorem renderWithin (levels : Nat) {callback : Callback} (hc : callback.Within scope) :
    Keeps library (scope.Guarded R) (ScriptBind.renderWithin levels callback) := by
  induction levels generalizing callback with
  | zero => exact Keeps.ofEndless
  | succ levels ih =>
      exact h.renderWith hc fun site hs => h.registerWith (fun other ho => h.emitWith ho (ih ho)) hs

theorem emitCallback {callback : Callback} (hc : callback.Within scope) :
    Keeps library (scope.Guarded R) (ScriptBind.emitCallback callback) :=
  h.emitWith hc (Keeps.settled (Keeps.bind (Keeps.look _) fun _ => h.renderWithin _ hc) _)

theorem registerCallable {site : Site} (hs : site.Within scope) :
    Keeps library (scope.Guarded R) (ScriptBind.registerCallable site) :=
  h.registerWith (fun _ => h.emitCallback) hs

/-- One callback that waits gets its trampoline, or a stub. -/
theorem emitOrStub {callback : Callback} (hc : callback.Within scope) :
    Keeps library (scope.Guarded R) (ScriptBind.emitOrStub callback) := by
  unfold ScriptBind.emitOrStub
  refine Keeps.bind (Keeps.attempt (h.emitCallback hc)) fun result => ?_
  cases result with
  | ok _ => exact Keeps.pure _
  | error error =>
      have hkind : (callbackDiagnostic callback error).kind ≠ .struct := by
        show DeclarationKind.callback ≠ .struct
        decide
      have hstub := h.update (f := fun _ session => session.emit (.stub callback))
        (fun session => .stub session callback) (fun session => session.sparesKinds_emit rfl)
        fun session => session.sparesConversions_emit rfl
      have hreject := h.update
        (f := fun _ session => session.reject (callbackDiagnostic callback error))
        (fun session => .reject session hkind)
        (fun session => session.sparesKinds_reject (fun _ => rfl) rfl)
        fun session => session.sparesConversions_reject _
      exact fun session => trans_of (scope.Guarded R) (hstub session) (hreject _)

/-- The callbacks that wait are those that the session keeps. -/
theorem emitPending : Keeps library (scope.Guarded R) ScriptBind.emitPending := by
  refine Scope.Brings.true_iff.1 ?_
  have hlook : scope.Brings R (fun waiting => ∀ callback ∈ waiting, callback.Within scope)
      (BindM.look fun _ session => session.pendingCallbacks) := by
    refine .look fun session hw callback hc => ?_
    obtain ⟨id, hid⟩ := Session.mem_pendingCallbacks.1 hc
    exact hw.pending id callback hid
  exact hlook.bind fun waiting hwaiting => .of_keeps <|
    Keeps.forM _ fun callback hc => h.emitOrStub (hwaiting callback hc)

theorem resolveParam {type : CType} (ht : scope.types type) :
    Keeps library (scope.Guarded R) (ScriptBind.resolveParam type) := by
  unfold ScriptBind.resolveParam
  split
  · exact h.resolveOpenArray (scope.element ht)
  · exact h.resolve _ ht

/-- A callable is registered, or left to the script with a diagnostic. -/
theorem wrapCallback {site : Site} (hs : site.Within scope) (function : String)
    (conversion : Conversion) (param : Parameter) :
    Keeps library (scope.Guarded R) (ScriptBind.wrapCallback function conversion site param) := by
  unfold ScriptBind.wrapCallback
  have hregistered := convertWith (h.registerCallable hs) conversion
  refine Keeps.bind (Keeps.attempt hregistered) fun result => ?_
  cases result with
  | ok value => exact Keeps.pure _
  | error error =>
      refine Keeps.bind (h.update (fun session => .reject session ?_)
        (fun session => session.sparesKinds_reject (fun _ => rfl) rfl)
        fun session => session.sparesConversions_reject _) fun _ => Keeps.pure _
      show DeclarationKind.callback ≠ .struct
      decide

theorem wrapArgument (function : String) (params : List Parameter) (index : Nat) {param : Parameter}
    (hp : scope.types param.type) :
    Keeps library (scope.Guarded R) (ScriptBind.wrapArgument function params index param) := by
  have hs : (argumentSite function params index param).Within scope := hp
  unfold ScriptBind.wrapArgument
  refine Keeps.bind (Keeps.within (h.resolveParam hp) _) fun conversion =>
    Keeps.bind (Keeps.look _) fun isCallback => ?_
  split
  · exact h.wrapCallback hs _ _ _
  · exact Keeps.bind (convertWith (h.registerCallable hs) conversion) fun _ => Keeps.pure _

theorem wrapArguments (function : String) (params : List Parameter) (index : Nat)
    {rest : List Parameter} (hrest : ∀ param ∈ rest, scope.types param.type) :
    Keeps library (scope.Guarded R) (ScriptBind.wrapArguments function params index rest) := by
  induction rest generalizing index with
  | nil => exact Keeps.pure _
  | cons param rest ih =>
      rw [ScriptBind.wrapArguments]
      refine Keeps.bind (h.wrapArgument _ _ _ (hrest param (List.mem_cons_self ..))) fun _ => ?_
      exact Keeps.bind (ih _ fun other ho => hrest other (List.mem_cons_of_mem _ ho)) fun _ =>
        Keeps.pure _

theorem resolveResult {function : CFunction} (hr : scope.types function.result) :
    Keeps library (scope.Guarded R) (ScriptBind.resolveResult function) := by
  unfold ScriptBind.resolveResult
  refine Keeps.bind (Keeps.look _) fun returnsArray => ?_
  split
  · next he => exact h.resolve _ (he ▸ hr)
  · next he => exact h.resolve _ (he ▸ hr)
  · next pointee isConst _ _ he =>
      have hp : scope.types (.pointer pointee isConst) := he ▸ hr
      split
      · exact h.resolveOpenArray (scope.pointee hp)
      · exact h.resolve _ hp
  · exact h.resolve _ hr

theorem wrapResult {function : CFunction} (hr : scope.types function.result) :
    Keeps library (scope.Guarded R) (ScriptBind.wrapResult function) := by
  unfold ScriptBind.wrapResult
  split
  · exact Keeps.pure _
  · exact Keeps.bind (Keeps.within (h.resolveResult hr) _) fun _ => Keeps.pure _

omit h [IsPreorder Session R] in
theorem types_of_mem_namedParams {function : CFunction} (hf : function.Within scope)
    {param : Parameter} (hp : param ∈ namedParams function) : scope.types param.type := by
  obtain ⟨given, hgiven, ht⟩ := CFunction.exists_param_of_named hp
  exact ht ▸ hf.param given hgiven

/-- The cell for a pointer is written and bound. -/
theorem bindPointerCell : Keeps library (scope.Guarded R) ScriptBind.bindPointerCell := by
  unfold ScriptBind.bindPointerCell
  exact Keeps.bind (h.update (fun session => .emit session rfl)
    (fun session => session.sparesKinds_emit rfl)
    fun session => session.sparesConversions_emit rfl) fun _ =>
      Keeps.bind (Keeps.attempt (h.bindStruct scope.cell)) fun _ => Keeps.pure _

section Declared

omit h [IsPreorder Session R] in
/-- A declaration is left out, which the comparison allows. -/
theorem leaveOut {kind : DeclarationKind} (hkind : kind ≠ .struct)
    (hreject : ∀ session diagnostic, diagnostic.kind = kind → R session (session.reject diagnostic))
    {diagnostic : Diagnostic} (hd : diagnostic.kind = kind) :
    Keeps library (scope.Guarded R) (BindM.update fun _ session => session.reject diagnostic) :=
  Keeps.update fun session =>
    Scope.guarded_of_addition (.reject session (hd ▸ hkind)) (hreject session diagnostic hd)

variable (hwrap : ∀ (session : Session) (wrapper : Wrapper),
  R session (session.emit (.wrapper wrapper)))

include hwrap

/-- A function gets its wrapper. -/
theorem wrapFunction {function : CFunction} (hf : function.Within scope) :
    Keeps library (scope.Guarded R) (ScriptBind.wrapFunction function) := by
  unfold ScriptBind.wrapFunction
  split
  · exact Keeps.fail _
  · have hparams : ∀ param ∈ namedParams function, scope.types param.type :=
      fun _ hp => types_of_mem_namedParams hf hp
    refine Keeps.bind (h.wrapArguments _ _ 0 hparams) fun _ => ?_
    refine Keeps.bind (h.wrapResult hf.result) fun _ => ?_
    refine Keeps.bind (Keeps.update fun session => ?_) fun _ => Keeps.pure _
    exact Scope.guarded_of_addition (.wrap session _) (hwrap session _)

/-- A function gets its wrapper, or a diagnostic says why not. -/
theorem wrapOrReject (hreject : ∀ (session : Session) (diagnostic : Diagnostic),
      diagnostic.kind = .function → R session (session.reject diagnostic))
    {function : CFunction} (hf : function.Within scope) :
    Keeps library (scope.Guarded R) (ScriptBind.wrapOrReject function) := by
  unfold ScriptBind.wrapOrReject
  refine Keeps.bind (Keeps.attempt (h.wrapFunction hwrap hf)) fun result => ?_
  cases result with
  | ok wrapped => exact Keeps.pure _
  | error error => exact Keeps.bind (leaveOut (by decide) hreject rfl) fun _ => Keeps.pure _

omit hwrap
variable (hshow : ∀ (session : Session) (shown : Instance),
    R session (session.emit (.global shown)))
  (hreject : ∀ (session : Session) (diagnostic : Diagnostic), diagnostic.kind = .global →
    R session (session.reject diagnostic))

include hshow hreject

/-- A variable is shown, or a diagnostic says why not. -/
theorem showGlobal {global : Global} (hg : scope.types global.type) :
    Keeps library (scope.Guarded R) (ScriptBind.showGlobal global) := by
  unfold ScriptBind.showGlobal
  refine Keeps.bind (Keeps.attempt (h.resolve _ hg)) fun resolved =>
    Keeps.bind (Keeps.look _) fun structName => ?_
  split
  · refine Keeps.bind (Keeps.update fun session => ?_) fun _ => Keeps.pure _
    exact Scope.guarded_of_addition (.emit session rfl) (hshow session _)
  · exact Keeps.bind (leaveOut (by decide) hreject rfl) fun _ => Keeps.pure _

/-- The variables are shown one by one. -/
theorem showGlobals {globals : List Global} (hg : ∀ global ∈ globals, scope.types global.type) :
    Keeps library (scope.Guarded R) (ScriptBind.showGlobals globals) := by
  induction globals with
  | nil => exact Keeps.pure _
  | cons global rest ih =>
      rw [ScriptBind.showGlobals]
      refine Keeps.bind (h.showGlobal hshow hreject (hg global (List.mem_cons_self ..))) fun _ => ?_
      exact Keeps.bind (ih fun other ho => hg other (List.mem_cons_of_mem _ ho)) fun _ =>
        Keeps.pure _

end Declared

end Scope.CarriesTypes

namespace Scope.Carries

variable (h : scope.Carries R)

include h

omit [IsPreorder Session R] in
/-- What allows all additions allows those that spare functions and variables. -/
theorem types : scope.CarriesTypes R :=
  ⟨fun ha _ hc => h.addition ha hc, h.levels, h.arrays, h.openArrays⟩

omit [IsPreorder Session R] in
theorem reject {kind : DeclarationKind} (hkind : kind ≠ .struct) (session : Session)
    (diagnostic : Diagnostic) (hd : diagnostic.kind = kind) :
    R session (session.reject diagnostic) :=
  h.addition (.reject session (hd ▸ hkind)) (session.sparesConversions_reject _)

/-- A function gets its wrapper. -/
theorem wrapFunction {function : CFunction} (hf : function.Within scope) :
    Keeps library (scope.Guarded R) (ScriptBind.wrapFunction function) :=
  h.types.wrapFunction
    (fun session _ => h.addition (.wrap session _) (session.sparesConversions_emit rfl)) hf

/-- A function gets its wrapper, or a diagnostic says why not. -/
theorem wrapOrReject {function : CFunction} (hf : function.Within scope) :
    Keeps library (scope.Guarded R) (ScriptBind.wrapOrReject function) :=
  h.types.wrapOrReject
    (fun session _ => h.addition (.wrap session _) (session.sparesConversions_emit rfl))
    (h.reject (by decide)) hf

/-- The variables are shown one by one. -/
theorem showGlobals {globals : List Global} (hg : ∀ global ∈ globals, scope.types global.type) :
    Keeps library (scope.Guarded R) (ScriptBind.showGlobals globals) :=
  h.types.showGlobals
    (fun session _ => h.addition (.emit session rfl) (session.sparesConversions_emit rfl))
    (h.reject (by decide)) hg

end Scope.Carries

end ScriptBind
