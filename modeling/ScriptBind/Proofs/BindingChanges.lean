import Mathlib.Logic.Relation
import ScriptBind.Proofs.BindingGrowth

/-!
# The Changes Binding Consists Of

Everything that happens to a session is made of a few changes, and for each it
is known what holds when it is made. A conversion is learned for a reason, a
record is bound or has failed only if it had no outcome, what waits for later is
in the scope. Whoever wants to show that something holds of all sessions that
can come about has to look at these changes only, one by one, and not at the
computations that make them.

Most changes add something and leave the records alone that are being bound.
They are set apart as additions, since a comparison that allows them goes
through all of binding but the binding of a record itself.

A record is entered, left, put off or taken up in changes of their own, so the
sessions that changes lead to include those in the middle of binding a record.

Few changes say what became of a function or a variable as a whole, and they are
made only where functions are wrapped and variables are shown. What goes through
all the others is told from them by what is left of the code and of the
diagnostics when everything else is removed.

## Main definitions

* `BoundMembers.Made`: Bound members as they are made of a record in a scope.
* `Session.Addition`: The changes outside the binding of a record.
* `Session.SparesKinds`: Nothing of some kind is said.
* `Session.SparesFunctions`, `Session.SparesVariables`: Nothing is said of
  functions as a whole, or of variables.
* `Session.SparesConversions`: Nothing is learned of types.
* `Session.Change`: All changes.
* `Session.AllowsBinding`: A comparison that allows those of binding a record.
* `Session.Foreknown`: What is known of members before their record is bound.
* `Session.AllowsKnown`: The same comparison, given what is known of members.
* `Session.Evolves`: Any number of changes.

## Theorems

* `Change.within`: What is kept for later stays in the scope.
* `Evolves.invariant`: What every change keeps holds after any number of them.
-/

namespace ScriptBind

variable {library : Library} {scope : Scope library}

/-- What becomes of a member, as it is made in a scope: the callback in its place
    is in the scope, and only callbacks are left out. -/
def MemberOutcome.Made (scope : Scope library) : MemberOutcome → Prop
  | .reached access => ∀ callback, access.callback? = some callback →
    scope.types (.function callback.signature)
  | .dropped _ diagnostic => diagnostic.kind = .callback

/-- Bound members as they are made of a record in a scope. -/
structure BoundMembers.Made (scope : Scope library) (members : BoundMembers) : Prop where
  /-- They are named after the record. -/
  name : members.name = bareTag members.key
  /-- The record is in the scope. -/
  record : ∃ record, scope.records members.key record
  /-- So is what became of its members. -/
  outcomes : ∀ outcome ∈ members.outcomes, outcome.Made scope

theorem BoundMembers.Made.callback {members : BoundMembers} (h : members.Made scope)
    {callback : Callback} (hc : callback ∈ members.accessor.callbacks) :
    scope.types (.function callback.signature) := by
  obtain ⟨access, ha, hcallback⟩ := List.mem_filterMap.1 hc
  obtain ⟨outcome, ho, haccess⟩ := List.mem_filterMap.1 ha
  have hmade := h.outcomes outcome ho
  cases outcome with
  | dropped name diagnostic => cases haccess
  | reached other =>
      obtain rfl := Option.some.inj haccess
      exact hmade callback hcallback

theorem BoundMembers.Made.kind_of_mem_dropped {members : BoundMembers} (h : members.Made scope)
    {diagnostic : Diagnostic} (hd : diagnostic ∈ members.dropped.map Prod.snd) :
    diagnostic.kind = .callback := by
  obtain ⟨dropped, hdropped, rfl⟩ := List.mem_map.1 hd
  obtain ⟨outcome, ho, he⟩ := List.mem_filterMap.1 hdropped
  have hmade := h.outcomes outcome ho
  cases outcome with
  | reached access => cases he
  | dropped name diagnostic =>
      obtain rfl := Option.some.inj he
      exact hmade

/-- Whether a diagnostic says that a function is left out. -/
def Diagnostic.isOfFunction (diagnostic : Diagnostic) : Bool := diagnostic.kind == .function

/-- Whether a diagnostic says that a variable is left out. -/
def Diagnostic.isOfVariable (diagnostic : Diagnostic) : Bool := diagnostic.kind == .global

/-- Whether a diagnostic says that a function or a variable is left out. -/
def Diagnostic.isOfDeclared (diagnostic : Diagnostic) : Bool :=
  diagnostic.isOfFunction || diagnostic.isOfVariable

theorem filter_append_of_none {α : Type} {p : α → Bool} (front : List α) {back : List α}
    (h : ∀ item ∈ back, p item = false) : (front ++ back).filter p = front.filter p := by
  have hnone : back.filter p = [] :=
    List.filter_eq_nil_iff.2 fun item hi => by rw [h item hi]; exact Bool.false_ne_true
  rw [List.filter_append, hnone, List.append_nil]

/-- A narrower choice from a wider one. -/
theorem filter_filter_of_imp {α : Type} {p p' : α → Bool}
    (h : ∀ item, p item = false → p' item = false) (items : List α) :
    (items.filter p).filter p' = items.filter p' := by
  rw [List.filter_filter]
  refine List.filter_congr fun item _ => ?_
  cases hp : p item with
  | false => rw [h item hp, Bool.false_and]
  | true => rw [Bool.and_true]

/-- Whether a piece of code is the converters of an array. -/
def Section.isArrayConverter : Section → Bool
  | .arrayConverter _ => true
  | _ => false

theorem Section.isArrayConverter_of_isOfModule {code : Section} (h : code.isOfModule) :
    code.isArrayConverter = false := by
  cases code with
  | arrayConverter converter => cases h
  | _ => rfl

namespace Session

/-- Nothing of some kind is said, neither in the code nor in the diagnostics. -/
structure SparesKinds (ofCode : Section → Bool) (ofDiagnostic : Diagnostic → Bool)
    (session session' : Session) : Prop where
  /-- The sections of the kind are the same. -/
  body : session'.body.filter ofCode = session.body.filter ofCode
  /-- So are the diagnostics. -/
  diagnostics : session'.diagnostics.filter ofDiagnostic = session.diagnostics.filter ofDiagnostic

/-- Nothing is said of functions as a whole. -/
abbrev SparesFunctions : Session → Session → Prop :=
  SparesKinds Section.isOfFunctions Diagnostic.isOfFunction

/-- Nothing is said of variables. -/
abbrev SparesVariables : Session → Session → Prop :=
  SparesKinds Section.isVariable Diagnostic.isOfVariable

/-- Nothing is said of functions or variables as a whole. -/
abbrev SparesDeclared : Session → Session → Prop :=
  SparesKinds Section.isOfDeclared Diagnostic.isOfDeclared

/-- No conversion is learned, and no converters of arrays are written. -/
structure SparesConversions (session session' : Session) : Prop where
  /-- The conversions are the same. -/
  registry : session'.registry = session.registry
  /-- So are the converters of arrays. -/
  body : session'.body.filter Section.isArrayConverter =
    session.body.filter Section.isArrayConverter

/-- The changes of a session outside the binding of a record. -/
inductive Addition (scope : Scope library) : Session → Session → Prop where
  /-- A conversion is learned. -/
  | learn {session : Session} {key : String} {conversion : Conversion} :
      session.Learns scope key conversion →
      Addition scope session (session.addConversion key conversion)
  /-- A typedef takes over what is known of what it stands for. -/
  | typedef {session : Session} {name : String} {underlying : CType} (conversion : Conversion) :
      library.decls.records.get? name = none →
      library.decls.typedefs.get? name = some underlying →
      Addition scope session
        ((session.addConversion name conversion).shareWithAlias name underlying.spelling)
  /-- The converters of an array are written. -/
  | array {session : Session} {element : CType} {key : String} (converter : ArrayConverter)
      (conversion : Conversion) :
      scope.types element → IsArrayKey element key →
      Addition scope session
        ((session.emit (.arrayConverter converter)).addConversion key conversion)
  /-- A callback fails. -/
  | settleFailed (session : Session) (id : String) (error : BindError) :
      Addition scope session (session.settleCallback id (.failed error))
  /-- A trampoline is written. -/
  | write (session : Session) {trampoline : Trampoline} {callback : Callback} :
      scope.types (.function callback.signature) →
      Addition scope session
        ((session.emit (.trampoline trampoline)).settleCallback callback.name (.emitted callback))
  /-- A stub is written. -/
  | stub (session : Session) (callback : Callback) :
      Addition scope session (session.emit (.stub callback))
  /-- The wrapper of a function is written. -/
  | wrap (session : Session) (wrapper : Wrapper) :
      Addition scope session (session.emit (.wrapper wrapper))
  /-- Code of the module itself is written. -/
  | emit (session : Session) {code : Section} :
      code.isOfModule → Addition scope session (session.emit code)
  /-- A declaration that is not a record is left out. -/
  | reject (session : Session) {diagnostic : Diagnostic} :
      diagnostic.kind ≠ .struct → Addition scope session (session.reject diagnostic)

/-- The changes of a session. -/
inductive Change (scope : Scope library) : Session → Session → Prop where
  /-- Something is added. -/
  | add {session session' : Session} :
      session.Addition scope session' → Change scope session session'
  /-- Binding a record begins. -/
  | enter {session : Session} {key : String} :
      key ∉ session.inProgress → session.structs.get? key = none →
      Change scope session (session.enter key)
  /-- Binding a record is over. -/
  | leave (session : Session) (key : String) : Change scope session (session.leave key)
  /-- A record is met while it is being bound. -/
  | meet (session : Session) : Change scope session session.meet
  /-- A record is put off. -/
  | defer {session : Session} {key : String} {deferred : DeferredStruct} :
      scope.records key deferred.record → session.structs.get? key = none →
      Change scope session (session.defer key deferred)
  /-- A record is taken up again. -/
  | takeDeferred (session : Session) (key : String) :
      Change scope session (session.takeDeferred key)
  /-- A record has failed. -/
  | fail {session : Session} {key : String} {record : Record} (error : BindError) :
      scope.records key record → session.structs.get? key = none →
      Change scope session
        ((session.settleStruct key (.failed error)).reject (structDiagnostic key error))
  /-- A record is bound. -/
  | commit {session : Session} {members : BoundMembers} (typedef : Option MemberTypedef) :
      members.Made scope → session.structs.get? members.key = none →
      Change scope session (session.commit typedef members)

variable {session session' : Session}

section Sparing

variable {ofCode : Section → Bool} {ofDiagnostic : Diagnostic → Bool}

theorem SparesKinds.of_eq (hb : session'.body = session.body)
    (hd : session'.diagnostics = session.diagnostics) :
    session.SparesKinds ofCode ofDiagnostic session' :=
  ⟨by rw [hb], by rw [hd]⟩

instance : IsPreorder Session (SparesKinds ofCode ofDiagnostic) where
  refl := fun _ => .of_eq rfl rfl
  trans := fun _ _ _ h h' => ⟨h'.body.trans h.body, h'.diagnostics.trans h.diagnostics⟩

/-- Where nothing of some kind is said, nothing of a narrower kind is. -/
theorem SparesKinds.mono {ofCode' : Section → Bool} {ofDiagnostic' : Diagnostic → Bool}
    (h : session.SparesKinds ofCode ofDiagnostic session')
    (hcode : ∀ code, ofCode code = false → ofCode' code = false)
    (hdiagnostic : ∀ diagnostic, ofDiagnostic diagnostic = false →
      ofDiagnostic' diagnostic = false) :
    session.SparesKinds ofCode' ofDiagnostic' session' where
  body := by
    rw [← filter_filter_of_imp hcode, h.body, filter_filter_of_imp hcode]
  diagnostics := by
    rw [← filter_filter_of_imp hdiagnostic, h.diagnostics, filter_filter_of_imp hdiagnostic]

theorem sparesKinds_emitAll (session : Session) {added : List Section}
    (h : ∀ code ∈ added, ofCode code = false) :
    session.SparesKinds ofCode ofDiagnostic { session with body := session.body ++ added } :=
  ⟨filter_append_of_none _ h, rfl⟩

theorem sparesKinds_emit (session : Session) {code : Section} (h : ofCode code = false) :
    session.SparesKinds ofCode ofDiagnostic (session.emit code) :=
  session.sparesKinds_emitAll fun other ho => by rw [List.mem_singleton.1 ho]; exact h

theorem sparesConversions_emit (session : Session) {code : Section}
    (h : code.isArrayConverter = false) : session.SparesConversions (session.emit code) :=
  ⟨rfl, filter_append_of_none _ fun other ho => by rw [List.mem_singleton.1 ho]; exact h⟩

theorem sparesConversions_reject (session : Session) (diagnostic : Diagnostic) :
    session.SparesConversions (session.reject diagnostic) :=
  ⟨rfl, filter_append_of_none _ fun other ho => by rw [List.mem_singleton.1 ho]; rfl⟩

theorem sparesKinds_rejectAll (session : Session) {added : List Diagnostic}
    (hnote : ∀ diagnostic, ofCode (.note diagnostic) = false)
    (h : ∀ diagnostic ∈ added, ofDiagnostic diagnostic = false) :
    session.SparesKinds ofCode ofDiagnostic { session with
      body := session.body ++ added.map Section.note
      diagnostics := session.diagnostics ++ added } := by
  refine ⟨filter_append_of_none _ fun code hc => ?_, filter_append_of_none _ h⟩
  obtain ⟨diagnostic, -, rfl⟩ := List.mem_map.1 hc
  exact hnote diagnostic

theorem sparesKinds_reject (session : Session) {diagnostic : Diagnostic}
    (hnote : ∀ diagnostic, ofCode (.note diagnostic) = false)
    (h : ofDiagnostic diagnostic = false) :
    session.SparesKinds ofCode ofDiagnostic (session.reject diagnostic) :=
  session.sparesKinds_rejectAll hnote fun other ho => by rw [List.mem_singleton.1 ho]; exact h

/-- What a typedef takes over is none of it. -/
theorem sparesKinds_typedef (session : Session) (name underlying : String)
    (conversion : Conversion) : session.SparesKinds ofCode ofDiagnostic
      ((session.addConversion name conversion).shareWithAlias name underlying) := by
  obtain ⟨registry, aliases, he⟩ :=
    (session.addConversion name conversion).shareWithAlias_eq name underlying
  rw [he]
  exact .of_eq rfl rfl

end Sparing

/-- What an addition keeps for later is in the scope. -/
theorem Addition.within (h : session.Addition scope session') (hw : session.Within scope) :
    session'.Within scope := by
  cases h with
  | learn => exact hw.of_eq rfl fun _ hm => hm
  | @typedef name underlying conversion =>
      obtain ⟨registry, aliases, he⟩ :=
        (session.addConversion name conversion).shareWithAlias_eq name underlying.spelling
      rw [he]
      exact hw.of_eq rfl fun _ hm => hm
  | array => exact hw.of_eq rfl fun _ hm => hm
  | settleFailed id error =>
      refine ⟨hw.deferred, fun other callback ho => ?_, fun other callback ho => ?_⟩
      · exact hw.pending other callback (get?_of_settleCallback ho (by simp))
      · exact hw.emitted other callback (get?_of_settleCallback ho (by simp))
  | @write _ callback hc =>
      refine ⟨hw.deferred, fun other waiting ho => ?_, fun other written ho => ?_⟩
      · exact hw.pending other waiting (get?_of_settleCallback ho (by simp))
      · rcases Table.eq_of_get?_set ho with hold | ⟨-, hnew⟩
        · exact hw.emitted other written hold
        · obtain rfl := CallbackState.emitted.inj hnew
          exact hc
  | stub => exact hw.of_eq rfl fun _ hm => hm
  | wrap => exact hw.of_eq rfl fun _ hm => hm
  | emit => exact hw.of_eq rfl fun _ hm => hm
  | reject => exact hw.of_eq rfl fun _ hm => hm

/-- What is kept for later stays in the scope. -/
theorem Change.within (h : session.Change scope session') (hw : session.Within scope) :
    session'.Within scope := by
  cases h with
  | add h => exact h.within hw
  | enter => exact hw.of_eq rfl fun _ hm => hm
  | leave => exact hw.of_eq rfl fun _ hm => hm
  | meet => exact hw.of_eq rfl fun _ hm => hm
  | @defer key deferred hr _ =>
      refine ⟨fun row hm => ?_, hw.pending, hw.emitted⟩
      rw [Session.defer, Table.add_rows] at hm
      rcases List.mem_append.1 hm with hm | hm
      · exact hw.deferred row hm
      · split at hm
        · cases hm
        · rw [List.mem_singleton.1 hm]
          exact hr
  | takeDeferred => exact hw.of_eq rfl fun _ hm => (List.mem_filter.1 hm).1
  | fail => exact hw.of_eq rfl fun _ hm => hm
  | @commit members typedef hm _ =>
      rw [commit_eq]
      refine ⟨hw.deferred, fun id callback hid => ?_, fun id callback hid => ?_⟩
      · cases hn : session.callbacks.get? id with
        | some state =>
            rw [get?_awaitAll_of_some hn] at hid
            exact hw.pending id callback (by rw [hn]; exact hid)
        | none =>
            -- The callback is one of the record's own.
            rw [get?_awaitAll_of_none hn] at hid
            obtain ⟨other, hf, ho⟩ := Option.map_eq_some_iff.1 hid
            rw [← CallbackState.pending.inj ho]
            exact hm.callback (List.mem_of_find?_eq_some hf)
      · cases hn : session.callbacks.get? id with
        | some state =>
            rw [get?_awaitAll_of_some hn] at hid
            exact hw.emitted id callback (by rw [hn]; exact hid)
        | none =>
            rw [get?_awaitAll_of_none hn] at hid
            obtain ⟨other, -, ho⟩ := Option.map_eq_some_iff.1 hid
            cases ho

/-- A comparison that allows what binding a record does by itself until the record
    is bound: a callback among its members fails, and the record is entered, met,
    left and put off, or has failed. -/
structure AllowsTrying (scope : Scope library) (R : Session → Session → Prop) : Prop where
  /-- A callback fails. -/
  settleFailed : ∀ session id error, R session (session.settleCallback id (.failed error))
  /-- Binding a record begins. -/
  enter : ∀ session key, key ∉ session.inProgress → session.structs.get? key = none →
    R session (session.enter key)
  /-- Binding a record is over. -/
  leave : ∀ session key, R session (session.leave key)
  /-- A record is met while it is being bound. -/
  meet : ∀ session, R session session.meet
  /-- A record is put off. -/
  defer : ∀ session key deferred, scope.records key deferred.record →
    session.structs.get? key = none → R session (session.defer key deferred)
  /-- A record is taken up again. -/
  takeDeferred : ∀ session key, R session (session.takeDeferred key)
  /-- A record has failed. -/
  fail : ∀ session key record error, scope.records key record →
    session.structs.get? key = none →
    R session ((session.settleStruct key (.failed error)).reject (structDiagnostic key error))

/-- A comparison that allows what the binding of a record does by itself: besides,
    the record is bound. -/
structure AllowsBinding (scope : Scope library) (R : Session → Session → Prop) : Prop
    extends AllowsTrying scope R where
  /-- A record is bound. -/
  commit : ∀ session typedef members, members.Made scope →
    session.structs.get? members.key = none → R session (session.commit typedef members)

/-- Until a record is bound, its binding leaves conversions alone. -/
theorem AllowsBinding.of_changes {R : Session → Session → Prop}
    (hchange : ∀ {session session' : Session}, session.Change scope session' →
      session'.registry = session.registry → R session session')
    (hcommit : ∀ session typedef members, members.Made scope →
      session.structs.get? members.key = none → R session (session.commit typedef members)) :
    AllowsBinding scope R where
  settleFailed := fun session id error => hchange (.add (.settleFailed session id error)) rfl
  enter := fun _ _ hk hn => hchange (.enter hk hn) rfl
  leave := fun session key => hchange (.leave session key) rfl
  meet := fun session => hchange (.meet session) rfl
  defer := fun _ _ _ hr hn => hchange (.defer hr hn) rfl
  takeDeferred := fun session key => hchange (.takeDeferred session key) rfl
  fail := fun _ _ _ error hr hn => hchange (.fail error hr hn) rfl
  commit := hcommit

/-- What is known of members as soon as they are bound, in whatever ways that
    grow sessions, and until the record itself is bound. -/
structure Foreknown (library : Library) (known : Session → Record → BoundMembers → Prop) :
    Prop where
  /-- It is known when the members are bound. -/
  members : ∀ {binders : Binders}, binders.Grow library → ∀ key record session,
    BindM.Ensures True library (bindRecord binders key record) session
      fun result session' => ∀ members, result = .ok members → known session' record members
  /-- It is still known when the record is left. -/
  leave : ∀ {session record members}, known session record members → ∀ key,
    known (session.leave key) record members

/-- A comparison that allows what the binding of a record does by itself, the
    record being bound with what is known of its members. -/
structure AllowsKnown (scope : Scope library) (known : Session → Record → BoundMembers → Prop)
    (R : Session → Session → Prop) : Prop extends AllowsTrying scope R where
  /-- A record is bound. -/
  commit : ∀ session typedef record members, members.Made scope →
    scope.records members.key record → known session record members →
    session.structs.get? members.key = none → R session (session.commit typedef members)

/-- Nothing need be known of members. -/
theorem foreknown_true (library : Library) : Foreknown library fun _ _ _ => True where
  members := fun _ _ _ _ => BindM.ensures_of_forall (fun _ _ _ _ => trivial) trivial
  leave := fun _ _ => trivial

theorem AllowsBinding.known {R : Session → Session → Prop} (h : AllowsBinding scope R) :
    AllowsKnown scope (fun _ _ _ => True) R where
  toAllowsTrying := h.toAllowsTrying
  commit := fun session typedef _ members hm _ _ hn => h.commit session typedef members hm hn

/-- Any number of changes. -/
def Evolves (scope : Scope library) : Session → Session → Prop :=
  Relation.ReflTransGen (Change scope)

instance : IsPreorder Session (Evolves scope) where
  refl := fun _ => .refl
  trans := fun _ _ _ => .trans

theorem Change.evolves (h : session.Change scope session') : session.Evolves scope session' :=
  .single h

theorem evolves_allowsBinding (scope : Scope library) : AllowsBinding scope (Evolves scope) :=
  .of_changes (fun hchange _ => hchange.evolves)
    fun _ typedef _ hm hn => (Change.commit typedef hm hn).evolves

/-- What every change keeps holds after any number of them. -/
theorem Evolves.invariant {P : Session → Prop}
    (hstep : ∀ {s s' : Session}, s.Change scope s' → P s → P s')
    (h : session.Evolves scope session') (hs : P session) : P session' := by
  induction h with
  | refl => exact hs
  | tail _ hchange ih => exact hstep hchange ih

theorem Evolves.within (h : session.Evolves scope session') (hw : session.Within scope) :
    session'.Within scope :=
  h.invariant Change.within hw

end Session

/-- An addition is allowed when guarded if it is allowed. -/
theorem Scope.guarded_of_addition {R : Session → Session → Prop} {session session' : Session}
    (h : session.Addition scope session') (hr : R session session') :
    scope.Guarded R session session' :=
  fun hw => ⟨h.within hw, hr⟩

/-- A comparison that allows the additions that spare functions and variables allows
    what resolving itself does. -/
theorem Session.allows_of_additions {R : Session → Session → Prop} [IsPreorder Session R]
    (hR : ∀ {session session' : Session}, session.Addition scope session' →
      session.SparesDeclared session' → R session session') :
    Session.Allows scope (scope.Guarded R) where
  learn := fun _ _ _ h => Scope.guarded_of_addition (.learn h) (hR (.learn h) (.of_eq rfl rfl))
  typedef := fun session name underlying conversion hr ht =>
    have hadd := Session.Addition.typedef conversion hr ht
    Scope.guarded_of_addition hadd
      (hR hadd (session.sparesKinds_typedef name underlying.spelling conversion))
  array := fun _ session element length conversion he _ hr =>
    have hadd : session.Addition scope (session.writeArray element length conversion) :=
      .array _ _ he (isArrayKey_arrayKey element length)
    have hspares : session.SparesDeclared (session.emit (.arrayConverter _)) :=
      session.sparesKinds_emit rfl
    trans_of (scope.Guarded R) hr <|
      Scope.guarded_of_addition hadd (hR hadd ⟨hspares.body, hspares.diagnostics⟩)

/-- Binding a record says nothing of functions or variables as a whole. -/
theorem Session.sparesKinds_allowsBinding (scope : Scope library) {ofCode : Section → Bool}
    {ofDiagnostic : Diagnostic → Bool}
    (hcode : ∀ code : Section, code.isOfDeclared = false → ofCode code = false)
    (hdiagnostic : ∀ diagnostic : Diagnostic, diagnostic.isOfDeclared = false →
      ofDiagnostic diagnostic = false) : AllowsBinding scope (SparesKinds ofCode ofDiagnostic) where
  settleFailed := fun _ _ _ => .of_eq rfl rfl
  enter := fun _ _ _ _ => .of_eq rfl rfl
  leave := fun _ _ => .of_eq rfl rfl
  meet := fun _ => .of_eq rfl rfl
  defer := fun _ _ _ _ _ => .of_eq rfl rfl
  takeDeferred := fun _ _ => .of_eq rfl rfl
  fail := fun session key _ error _ _ =>
    have hspares : session.SparesKinds ofCode ofDiagnostic
        (session.reject (structDiagnostic key error)) :=
      session.sparesKinds_reject (fun _ => hcode _ rfl) (hdiagnostic _ rfl)
    ⟨hspares.body, hspares.diagnostics⟩
  commit := fun session typedef members hm _ => by
    rw [commit_eq]
    have hall : ∀ code ∈ committed typedef members, ofCode code = false := fun code hc =>
      hcode code (Section.isOfDeclared_of_isOfTypes (committed_isOfTypes typedef members code hc))
    have hdropped : ∀ diagnostic ∈ members.dropped.map Prod.snd,
        ofDiagnostic diagnostic = false := by
      intro diagnostic hd
      refine hdiagnostic diagnostic ?_
      rw [Diagnostic.isOfDeclared, Diagnostic.isOfFunction, Diagnostic.isOfVariable,
        hm.kind_of_mem_dropped hd]
      rfl
    have hbody : session.SparesKinds ofCode ofDiagnostic _ := session.sparesKinds_emitAll hall
    have hdiagnostics : session.SparesKinds ofCode ofDiagnostic _ :=
      session.sparesKinds_rejectAll (fun _ => hcode _ rfl) hdropped
    exact ⟨hbody.body, hdiagnostics.diagnostics⟩

end ScriptBind
