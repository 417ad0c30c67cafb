import Mathlib.Data.List.Induction
import ScriptBind.Proofs.AssemblyInvariants
import ScriptBind.Proofs.BindingComparisons
import ScriptBind.Proofs.SoundSessions

/-!
# Where Converters Come From

The code of a module converts values by calling converters. Each of them is one
that the runtime has, for pointers passed untyped, for enums and for the types
that need nothing to be generated, or one that earlier code defines: the accessor
of a record, or the code for an array type. A conversion with such converters is
sourced, given the code there is.

A session is sourced if the conversions it knows are, and if each piece of its
code was so when it was written, given the code before it. The scope says which
keys are looked at. Of the conversions known under other keys nothing is said,
and as binding does not lead out of the scope, nothing is made of them.

## Main definitions

* `Scope.Key`: The keys that types in a scope lead to.
* `Conversion.Sourced`: A conversion whose converters there are.
* `Section.Sourced`: Code that calls only such converters.
* `Session.Sourced`: A session with such conversions and code.
* `Scope.Yields`: A computation that keeps a session sourced, and what it answers.

## Theorems

* `Session.sourced_start`: The session at the beginning is sourced.
* `Sourced.commit`: So is one in which one more record is bound.
* `Yields.bind`: What is known of an answer helps with what comes after it.
-/

namespace ScriptBind

variable {library : Library}

/-- The keys under which conversions are looked up and remembered for types in a
    scope. -/
inductive Scope.Key (scope : Scope library) : String → Prop where
  /-- The type itself. -/
  | type {type : CType} : scope.types type → Key scope type.spelling
  /-- Pointers to it. -/
  | pointer {type : CType} : scope.types type → Key scope (type.spelling ++ " *")
  /-- Arrays of unknown length of it. -/
  | openArray {type : CType} : scope.types type → Key scope (openArrayKey type)
  /-- A nameless record that is the type of a member. -/
  | nameless (owner field : String) : Key scope (memberTypeName owner field)

/-- A conversion whose converters the runtime has or the code defines. -/
inductive Conversion.Sourced (scope : Scope library) (body : List Section) : Conversion → Prop where
  /-- Pointers can be passed untyped. -/
  | untyped : Sourced scope body .untyped
  /-- Enums are integers. -/
  | integer : Sourced scope body .integer
  /-- Callbacks are registered. -/
  | callback : Sourced scope body .callback
  /-- Nothing need be generated for the type. -/
  | seed {key : String} {conversion : Conversion} : scope.Key key →
      (Registry.seeded library.naming).get? key = some conversion → Sourced scope body conversion
  /-- The record has its accessor. -/
  | record {members : BoundMembers} : .accessor members.accessor ∈ body →
      Sourced scope body members.conversion
  /-- So has the record that is pointed to. -/
  | pointer {members : BoundMembers} : .accessor members.accessor ∈ body →
      Sourced scope body members.pointerConversion
  /-- The array type has its code. -/
  | array {converter : ArrayConverter} : .arrayConverter converter ∈ body →
      Sourced scope body (.between converter.toArray converter.fromArray)

/-- The way to a member leads through sourced converters, if through any. -/
def Access.Sourced (scope : Scope library) (body : List Section) (access : Access) : Prop :=
  access.callback?.isSome ∨ ∃ conversion, Conversion.Sourced scope body conversion ∧
    ((∃ field typeName, Access.ofConversion field typeName conversion = .ok access) ∨
      ∃ field element length, Access.ofArray field element length conversion = .ok access)

/-- A value is on its way to C by a conversion. -/
def Converted.Inward (conversion : Conversion) : Converted → Prop
  | .call converter _ => conversion.inward? = some converter
  | .register _ _ _ => conversion.inward? = none

/-- A value is on its way to the script by a conversion. -/
def Converted.Outward (conversion : Conversion) : Converted → Prop
  | .call converter _ => converter = conversion.outward
  | .register _ _ _ => False

/-- A value on its way to C is converted by a sourced conversion. -/
def Converted.SourcedInward (scope : Scope library) (body : List Section) (value : Converted) :
    Prop :=
  ∃ conversion, Conversion.Sourced scope body conversion ∧ value.Inward conversion

/-- A value on its way to the script is converted by a sourced conversion. -/
def Converted.SourcedOutward (scope : Scope library) (body : List Section) (value : Converted) :
    Prop :=
  ∃ conversion, Conversion.Sourced scope body conversion ∧ value.Outward conversion

/-- A conversion is the one that a type has from the beginning, if it has one. -/
def Conversion.Befits (naming : Naming) (type : CType) (conversion : Conversion) : Prop :=
  ∀ seed, (Registry.seeded naming).get? type.spelling = some seed → conversion = seed

/-- An argument of a function is converted by a sourced conversion, which befits
    the type of the parameter if it is a plain one. -/
def Argument.Sourced (scope : Scope library) (body : List Section) (argument : Argument) : Prop :=
  ∃ conversion, Conversion.Sourced scope body conversion ∧ argument.value.Inward conversion ∧
    (argument.isCallback = false → (∀ element, argument.param.type ≠ .array element 0) →
      conversion.Befits library.naming argument.param.type)

/-- Code that calls only sourced converters. -/
def Section.Sourced (scope : Scope library) (body : List Section) : Section → Prop
  | .accessor code => ∀ access ∈ code.accesses, access.Sourced scope body
  | .arrayConverter code => ∃ conversion, Conversion.Sourced scope body conversion ∧
      code = .ofElement code.element code.length conversion
  | .trampoline code =>
    (∀ value ∈ code.arguments, value.SourcedOutward scope body) ∧
      ∀ value, code.result = some value → value.SourcedInward scope body
  | .wrapper code =>
    (∀ argument ∈ code.arguments, argument.Sourced scope body) ∧
      ∀ value, code.result = some value → value.SourcedOutward scope body
  | _ => True

/-- Code that converts nothing. -/
def Section.isSilent : Section → Bool
  | .accessor _ => false
  | .arrayConverter _ => false
  | .trampoline _ => false
  | .wrapper _ => false
  | _ => true

/-- Code of which each piece calls only converters sourced before it. -/
inductive AllSourced (scope : Scope library) : List Section → Prop where
  /-- There is no code. -/
  | nil : AllSourced scope []
  /-- One more piece is written. -/
  | snoc {body : List Section} {code : Section} : AllSourced scope body →
      code.Sourced scope body → AllSourced scope (body ++ [code])

/-- A session that knows only sourced conversions and whose code calls only
    converters sourced before it. -/
structure Session.Sourced (scope : Scope library) (session : Session) : Prop
    extends session.Within scope where
  /-- The conversions that need nothing to be generated are known. -/
  seeds : (Registry.seeded library.naming).rows <+: session.registry.rows
  /-- Those of the scope are sourced. -/
  registry : ∀ key conversion, scope.Key key → session.registry.get? key = some conversion →
    conversion.Sourced scope session.body
  /-- So is the code. -/
  body : AllSourced scope session.body

variable {scope : Scope library} {body body' : List Section} {session session' : Session}

/-- More code may have been written since. -/
theorem Conversion.Sourced.mono {conversion : Conversion} (h : conversion.Sourced scope body)
    (hb : body <+: body') : conversion.Sourced scope body' := by
  cases h with
  | untyped => exact .untyped
  | integer => exact .integer
  | callback => exact .callback
  | seed hk hc => exact .seed hk hc
  | record hm => exact .record (hb.subset hm)
  | pointer hm => exact .pointer (hb.subset hm)
  | array hm => exact .array (hb.subset hm)

theorem Access.Sourced.mono {access : Access} (h : access.Sourced scope body)
    (hb : body <+: body') : access.Sourced scope body' :=
  h.imp_right fun ⟨conversion, hc, hall⟩ => ⟨conversion, hc.mono hb, hall⟩

theorem Converted.SourcedInward.mono {value : Converted} (h : value.SourcedInward scope body)
    (hb : body <+: body') : value.SourcedInward scope body' := by
  obtain ⟨conversion, hc, hv⟩ := h
  exact ⟨conversion, hc.mono hb, hv⟩

theorem Converted.SourcedOutward.mono {value : Converted} (h : value.SourcedOutward scope body)
    (hb : body <+: body') : value.SourcedOutward scope body' := by
  obtain ⟨conversion, hc, hv⟩ := h
  exact ⟨conversion, hc.mono hb, hv⟩

theorem Argument.Sourced.mono {argument : Argument} (h : argument.Sourced scope body)
    (hb : body <+: body') : argument.Sourced scope body' := by
  obtain ⟨conversion, hc, hall⟩ := h
  exact ⟨conversion, hc.mono hb, hall⟩

/-- Silent code is sourced anywhere. -/
theorem Section.sourced_of_isSilent {code : Section} (h : code.isSilent)
    (scope : Scope library) (body : List Section) : code.Sourced scope body := by
  cases code with
  | accessor code => cases h
  | arrayConverter code => cases h
  | trampoline code => cases h
  | wrapper code => cases h
  | _ => trivial

theorem Section.isSilent_of_isOfModule {code : Section} (h : code.isOfModule) : code.isSilent := by
  cases code with
  | accessor code => cases h
  | arrayConverter code => cases h
  | trampoline code => cases h
  | wrapper code => cases h
  | _ => rfl

theorem AllSourced.append {more : List Section} (h : AllSourced scope body)
    (hmore : ∀ code ∈ more, ∀ before, body <+: before → code.Sourced scope before) :
    AllSourced scope (body ++ more) := by
  induction more using List.reverseRecOn with
  | nil => rwa [List.append_nil]
  | append_singleton more code ih =>
      -- The last piece is written when all others have been.
      rw [← List.append_assoc]
      refine (ih fun other ho => hmore other (List.mem_append_left _ ho)).snoc ?_
      exact hmore code (List.mem_append_right _ (List.mem_singleton_self _)) _
        (List.prefix_append ..)

/-- Each piece is sourced, given the code before it. -/
theorem AllSourced.section (h : AllSourced scope body) {front back : List Section}
    {code : Section} (hb : body = front ++ code :: back) : code.Sourced scope front := by
  induction h generalizing back with
  | nil => simp at hb
  | snoc _ hcode ih =>
      rcases List.eq_nil_or_concat back with rfl | ⟨back, last, rfl⟩
      · obtain ⟨rfl, he⟩ := List.append_inj' hb rfl
        exact (List.singleton_inj.1 he) ▸ hcode
      · rw [List.concat_eq_append, ← List.cons_append, ← List.append_assoc] at hb
        exact ih (List.append_inj' hb rfl).1

namespace Session

/-- The conversion of a type in the scope is sourced and befits it. -/
theorem Sourced.known (h : session.Sourced scope) {key : String} (hk : scope.Key key)
    {conversion : Conversion} (hc : session.registry.get? key = some conversion) :
    conversion.Sourced scope session.body :=
  h.registry key conversion hk hc

theorem Sourced.seed (h : session.Sourced scope) {key : String} {conversion : Conversion}
    (hc : (Registry.seeded library.naming).get? key = some conversion) :
    session.registry.get? key = some conversion :=
  Table.get?_of_initial h.seeds hc

/-- A change of other things. -/
theorem Sourced.of_eq (h : session.Sourced scope) (hw : session'.Within scope)
    (hr : session'.registry = session.registry) (hb : session'.body = session.body) :
    session'.Sourced scope where
  toWithin := hw
  seeds := by rw [hr]; exact h.seeds
  registry := by rw [hr, hb]; exact h.registry
  body := by rw [hb]; exact h.body

/-- One more piece of code that is sourced. -/
theorem Sourced.emit (h : session.Sourced scope) {code : Section}
    (hc : code.Sourced scope session.body) : (session.emit code).Sourced scope where
  toWithin := h.toWithin.of_eq rfl fun _ hm => hm
  seeds := h.seeds
  registry := fun key conversion hk hg =>
    (h.registry key conversion hk hg).mono (List.prefix_append ..)
  body := h.body.snoc hc

theorem Sourced.reject (h : session.Sourced scope) (diagnostic : Diagnostic) :
    (session.reject diagnostic).Sourced scope := by
  have hemit : (session.emit (.note diagnostic)).Sourced scope := h.emit trivial
  exact { hemit with }

/-- One more conversion that is sourced. -/
theorem Sourced.addConversion (h : session.Sourced scope) {key : String} {conversion : Conversion}
    (hc : scope.Key key → conversion.Sourced scope session.body) :
    (session.addConversion key conversion).Sourced scope where
  toWithin := h.toWithin.of_eq rfl fun _ hm => hm
  seeds := h.seeds.trans (Table.prefix_add ..)
  registry := by
    intro other found hk hf
    rw [Session.addConversion, Table.get?_add, Option.or_eq_some_iff] at hf
    rcases hf with hf | ⟨-, hf⟩
    · exact h.registry other found hk hf
    · split at hf
      · next he =>
          rw [← Option.some.inj hf]
          exact hc (he ▸ hk)
      · cases hf
  body := h.body

/-- A typedef takes over a conversion of pointers that is sourced. -/
theorem Sourced.shareWithAlias (h : session.Sourced scope) {underlying : CType}
    (hu : scope.types underlying) (name : String) :
    (session.shareWithAlias name underlying.spelling).Sourced scope := by
  obtain ⟨aliases, -, he | ⟨conversion, hk, he⟩⟩ :=
    session.shareWithAlias_cases name underlying.spelling
  · rw [he]
    exact h.of_eq (h.toWithin.of_eq rfl fun _ hm => hm) rfl rfl
  · have hp : (session.addConversion (name ++ " *") conversion).Sourced scope :=
      h.addConversion fun _ => h.known (.pointer hu) hk
    rw [he]
    exact hp.of_eq (hp.toWithin.of_eq rfl fun _ hm => hm) rfl rfl

/-- A callback that fails. -/
theorem Sourced.settleFailed (h : session.Sourced scope) (id : String) (error : BindError) :
    (session.settleCallback id (.failed error)).Sourced scope :=
  h.of_eq ((Addition.settleFailed session id error).within h.toWithin) rfl rfl

/-- A trampoline that is sourced is written. -/
theorem Sourced.write (h : session.Sourced scope) {trampoline : Trampoline} {callback : Callback}
    (ht : Section.Sourced scope session.body (.trampoline trampoline))
    (hc : callback.Within scope) :
    ((session.emit (.trampoline trampoline)).settleCallback callback.name
      (.emitted callback)).Sourced scope := by
  have hemit := h.emit ht
  exact hemit.of_eq ((Addition.write session hc).within h.toWithin) rfl rfl

end Session

/-- What becomes of a member, as it is made: the way to it leads through sourced
    converters, and the callback in its place is in the scope. -/
def MemberOutcome.Sourced (scope : Scope library) (body : List Section) : MemberOutcome → Prop
  | .reached access => access.Sourced scope body ∧
      ∀ callback, access.callback? = some callback → callback.Within scope
  | .dropped _ _ => True

theorem MemberOutcome.Sourced.mono {outcome : MemberOutcome} (h : outcome.Sourced scope body)
    (hb : body <+: body') : outcome.Sourced scope body' := by
  cases outcome with
  | reached access => exact ⟨h.1.mono hb, h.2⟩
  | dropped name diagnostic => trivial

namespace Session

/-- A record is bound whose members are sourced: its own conversions come from the
    accessor that is written for it. -/
theorem Sourced.commit (h : session.Sourced scope) {members : BoundMembers}
    (hm : ∀ outcome ∈ members.outcomes, outcome.Sourced scope session.body)
    (typedef : Option MemberTypedef) : (session.commit typedef members).Sourced scope := by
  have hcallback : ∀ callback ∈ members.accessor.callbacks, callback.Within scope := by
    intro callback hc
    obtain ⟨access, ha, hcallback⟩ := List.mem_filterMap.1 hc
    obtain ⟨outcome, ho, haccess⟩ := List.mem_filterMap.1 ha
    have hmade := hm outcome ho
    cases outcome with
    | dropped name diagnostic => cases haccess
    | reached other =>
        obtain rfl := Option.some.inj haccess
        exact hmade.2 callback hcallback
  have hcode : ∀ code ∈ committed typedef members, ∀ before, session.body <+: before →
      code.Sourced scope before := by
    intro code hc before hb
    rw [committed, List.mem_append, List.mem_append] at hc
    rcases hc with (hc | hc) | hc
    · obtain ⟨typedef, -, rfl⟩ := List.mem_map.1 hc
      trivial
    · rw [List.mem_singleton.1 hc]
      intro access ha
      obtain ⟨outcome, ho, haccess⟩ := List.mem_filterMap.1 ha
      have hmade := hm outcome ho
      cases outcome with
      | dropped name diagnostic => cases haccess
      | reached other =>
          obtain rfl := Option.some.inj haccess
          exact hmade.1.mono hb
    · obtain ⟨diagnostic, -, rfl⟩ := List.mem_map.1 hc
      trivial
  have haccessor : .accessor members.accessor ∈ session.body ++ committed typedef members := by
    refine List.mem_append_right _ (List.mem_append_left _ (List.mem_append_right _ ?_))
    exact List.mem_singleton_self _
  -- The code is written first, and then the two conversions are known.
  let written : Session := { session with body := session.body ++ committed typedef members }
  have hwritten : written.Sourced scope :=
    { toWithin := h.toWithin.of_eq rfl fun _ hm => hm
      seeds := h.seeds
      registry := fun key conversion hk hc => (h.known hk hc).mono (List.prefix_append ..)
      body := h.body.append hcode }
  have hrecord : (written.addConversion members.key members.conversion).Sourced scope :=
    hwritten.addConversion fun _ => .record haccessor
  have hknown : ((written.addConversion members.key members.conversion).addConversion
      (members.key ++ " *") members.pointerConversion).Sourced scope :=
    hrecord.addConversion fun _ => .pointer haccessor
  rw [commit_eq]
  refine hknown.of_eq ⟨hknown.deferred, fun id callback hid => ?_,
    fun id callback hid => ?_⟩ rfl rfl
  · cases hn : session.callbacks.get? id with
    | some state =>
        rw [get?_awaitAll_of_some hn] at hid
        exact h.pending id callback (hn.trans hid)
    | none =>
        -- The callback is one of the record's own.
        rw [get?_awaitAll_of_none hn] at hid
        obtain ⟨other, hf, ho⟩ := Option.map_eq_some_iff.1 hid
        rw [← CallbackState.pending.inj ho]
        exact hcallback other (List.mem_of_find?_eq_some hf)
  · cases hn : session.callbacks.get? id with
    | some state =>
        rw [get?_awaitAll_of_some hn] at hid
        exact h.emitted id callback (hn.trans hid)
    | none =>
        rw [get?_awaitAll_of_none hn] at hid
        obtain ⟨other, -, ho⟩ := Option.map_eq_some_iff.1 hid
        cases ho

/-- At the beginning nothing is known but what needs nothing to be generated. -/
theorem sourced_start (scope : Scope library) : (start library.naming).Sourced scope where
  toWithin := within_start scope _
  seeds := start_registry library.naming ▸ List.prefix_refl _
  registry := by
    intro key conversion hk hc
    rw [start_registry] at hc
    exact .seed hk hc
  body := .nil

end Session

/-- From a sourced session with at least the given code, a computation leaves a
    sourced session with more code, and what it answers is as stated, given the
    code at the end. -/
def Scope.Yields {α : Type} (scope : Scope library) (body : List Section)
    (post : List Section → α → Prop) (action : BindM α) : Prop :=
  ∀ session, session.Sourced scope → body <+: session.body →
    BindM.Ensures True library action session fun result session' =>
      session'.Sourced scope ∧ session.body <+: session'.body ∧
        ∀ answer, result = .ok answer → post session'.body answer

namespace Scope.Yields

open BindM

variable {α β : Type} {P : List Section → α → Prop} {Q : List Section → β → Prop}

/-- More code may have been written before. -/
theorem later {action : BindM α} (h : scope.Yields body P action) (hb : body <+: body') :
    scope.Yields body' P action :=
  fun session hs hbody => h session hs (hb.trans hbody)

theorem mono {P' : List Section → α → Prop} {action : BindM α} (h : scope.Yields body P action)
    (hp : ∀ body' answer, P body' answer → P' body' answer) : scope.Yields body P' action :=
  fun session hs hb => (h session hs hb).mono fun _ _ hall =>
    ⟨hall.1, hall.2.1, fun answer ha => hp _ answer (hall.2.2 answer ha)⟩

theorem pure {answer : α} (h : ∀ body', body <+: body' → P body' answer) :
    scope.Yields body P (Pure.pure answer : BindM α) := by
  intro session hs hb
  rw [ensures_pure]
  refine ⟨hs, List.prefix_refl _, fun other ho => ?_⟩
  rw [← Except.ok.inj ho]
  exact h _ hb

theorem fail (error : BindError) : scope.Yields body P (BindM.fail error : BindM α) := by
  intro session hs _
  rw [ensures_fail]
  refine ⟨hs, List.prefix_refl _, fun answer ha => ?_⟩
  cases ha

theorem ofEndless : scope.Yields body P (BindM.endless : BindM α) := fun _ _ _ => trivial

theorem ofExcept {result : Except BindError α}
    (h : ∀ answer, result = .ok answer → ∀ body', body <+: body' → P body' answer) :
    scope.Yields body P (BindM.ofExcept result) := by
  cases result with
  | ok answer => exact .pure (h answer rfl)
  | error error => exact .fail error

/-- What is seen in a sourced session. -/
theorem look {f : Library → Session → α}
    (h : ∀ session, session.Sourced scope → body <+: session.body →
      P session.body (f library session)) :
    scope.Yields body P (BindM.look f) := by
  intro session hs hb
  rw [ensures_look]
  refine ⟨hs, List.prefix_refl _, fun answer ha => ?_⟩
  rw [← Except.ok.inj ha]
  exact h session hs hb

theorem read : scope.Yields body (fun _ answer => answer = library) (read : BindM Library) := by
  intro session hs _
  rw [ensures_read]
  exact ⟨hs, List.prefix_refl _, fun answer ha => (Except.ok.inj ha).symm⟩

/-- A change after which the session is still sourced. -/
theorem update {P : List Section → Unit → Prop} {f : Library → Session → Session}
    (h : ∀ session, session.Sourced scope → body <+: session.body →
      (f library session).Sourced scope ∧ session.body <+: (f library session).body ∧
        P (f library session).body ()) :
    scope.Yields body P (BindM.update f) := by
  intro session hs hb
  rw [ensures_update]
  obtain ⟨hs', hb', hp⟩ := h session hs hb
  exact ⟨hs', hb', fun _ _ => hp⟩

theorem attempt {action : BindM β} (h : scope.Yields body Q action) :
    scope.Yields body (fun body' result => ∀ answer, result = .ok answer → Q body' answer)
      action.attempt := by
  intro session hs hb
  rw [ensures_attempt]
  refine (h session hs hb).mono fun result session' hall => ⟨hall.1, hall.2.1, fun other ho => ?_⟩
  rw [← Except.ok.inj ho]
  exact hall.2.2

theorem succeeds {action : BindM β} (h : scope.Yields body Q action) :
    scope.Yields body (fun _ _ => True) action.succeeds := by
  intro session hs hb
  rw [ensures_succeeds]
  exact (h session hs hb).mono fun _ _ hall => ⟨hall.1, hall.2.1, fun _ _ => trivial⟩

theorem within {action : BindM α} (h : scope.Yields body P action) (place : String) :
    scope.Yields body P (action.within place) := by
  intro session hs hb
  rw [ensures_within]
  refine (h session hs hb).mono fun result session' hall => ⟨hall.1, hall.2.1, fun answer ha => ?_⟩
  cases result with
  | ok other => exact hall.2.2 answer ha
  | error error => cases ha

/-- What is known of an answer helps with what comes after it, when there may be
    more code. -/
theorem bind {action : BindM β} {next : β → BindM α} (h : scope.Yields body Q action)
    (hnext : ∀ answer body', body <+: body' → Q body' answer → scope.Yields body' P (next answer)) :
    scope.Yields body P (action >>= next) := by
  intro session hs hb
  rw [ensures_bind]
  refine (h session hs hb).mono fun result session' hall => ?_
  obtain ⟨hs', hb', hq⟩ := hall
  cases result with
  | error error =>
      refine ⟨hs', hb', fun answer ha => ?_⟩
      cases ha
  | ok answer =>
      refine (hnext answer session'.body (hb.trans hb') (hq answer rfl) session' hs'
        (List.prefix_refl _)).mono fun _ _ hall' => ?_
      exact ⟨hall'.1, hb'.trans hall'.2.1, hall'.2.2⟩

/-- A look at the session, and what comes after it, whatever is seen. -/
theorem bindLook {f : Library → Session → β} {next : β → BindM α}
    (hnext : ∀ answer body', body <+: body' → scope.Yields body' P (next answer)) :
    scope.Yields body P (BindM.look f >>= next) :=
  .bind (Q := fun _ _ => True) (.look fun _ _ _ => trivial) fun answer body' hb _ =>
    hnext answer body' hb

/-- A change, and what comes after it. -/
theorem bindUpdate {f : Library → Session → Session} {next : Unit → BindM α}
    (h : ∀ session, session.Sourced scope → body <+: session.body →
      (f library session).Sourced scope ∧ session.body <+: (f library session).body)
    (hnext : ∀ body', body <+: body' → scope.Yields body' P (next ())) :
    scope.Yields body P (BindM.update f >>= next) :=
  .bind (Q := fun _ _ => True)
    (.update fun session hs hb => ⟨(h session hs hb).1, (h session hs hb).2, trivial⟩)
    fun _ body' hb _ => hnext body' hb

/-- Without an end, a settled computation fails where it started. -/
theorem settled {action : BindM α} (h : scope.Yields body P action) (subject : String) :
    scope.Yields body P (action.settled subject) := by
  intro session hs hb
  refine (h session hs hb).settled ⟨hs, List.prefix_refl _, fun answer ha => ?_⟩
  cases ha

/-- Computations one after another. -/
theorem forM {β : Type} {f : β → BindM PUnit} (items : List β)
    (h : ∀ item ∈ items, scope.Yields body (fun _ _ => True) (f item)) :
    scope.Yields body (fun _ _ => True) (items.forM f) := by
  induction items with
  | nil => exact .pure fun _ _ => trivial
  | cons item rest ih =>
      show scope.Yields body _ (f item >>= fun _ => rest.forM f)
      refine (h item (List.mem_cons_self ..)).bind fun _ body' hb _ => ?_
      exact (ih fun other ho => h other (List.mem_cons_of_mem _ ho)).later hb

end Scope.Yields

end ScriptBind
