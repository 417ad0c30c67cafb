import ScriptBind.Proofs.Passes

/-!
# Where Callbacks Come From

A callback is marshaled for a place that needs one: a member of a record, an
argument of a function, or what another callback returns. What becomes of it is
remembered under a name made from two words, and the next place that makes the
same name gets what the first one left. So a callback that is found under a
name need not be the one that the place itself would have made; but it is one
that some place of the same name has made. A failure under a name is one that a
place of the name has met with in the same pass, and what had been reported by
then says how early that was.

A session is accountable if this holds of everything in it: of the callbacks
waiting for their trampolines and those that have them, of the failures, and of
the records that have been put off, whose members are still to be bound.

## Main definitions

* `Demand`: What a place needs a callback for.
* `Bindable`: The records that binding can come to.
* `Demanded`: The places of a library that need a callback.
* `Vouched`: A callback that some place of the name has made.
* `Blamed`: A failure that some place of the name has met with in a pass.
* `Section.declares`, `Section.registers`, `Section.defines`: The callbacks
  whose trampolines a section declares, registers and defines.
* `Session.Accountable`: Everything in a session comes from somewhere.

## Theorems

* `Blamed.mono`: A failure stays blamed when more has been reported.
* `BoundMembers.Fits.vouched`: The callbacks of a record come from its members.
-/

namespace ScriptBind

/-- What a place needs a callback for. -/
structure Demand where
  /-- The signature. -/
  signature : Signature
  /-- The spelling of the callback's type. -/
  typeName : String
  /-- The word that the record or the function gives. -/
  owner : String
  /-- The word that the member or the argument gives. -/
  name : String
  /-- The record that the first parameter has to point to. -/
  expected : Option (String × Record)

/-- The name under which the outcome of a registration at a site is
    remembered. -/
def Site.id (site : Site) : String := callbackName site.ownerName site.name

namespace Demand

/-- The name under which the outcome is remembered. -/
def id (demand : Demand) : String := callbackName demand.owner demand.name

/-- A member of a record that is a callback. -/
def ofMember (key : String) (record : Record) (field : Field) (signature : Signature) : Demand :=
  ⟨signature, field.type.spelling, bareTag key, field.name, some (key, record)⟩

/-- A callable that is registered at a site. -/
def ofSite (site : Site) (signature : Signature) : Demand :=
  ⟨signature, site.type.spelling, site.ownerName, site.name, none⟩

/-- Looking at the values of the callback. -/
def check (resolve : CType → BindM Conversion) (demand : Demand) : BindM Callback :=
  checkCallback resolve demand.signature demand.typeName demand.id demand.expected

/-- The callback, its outcome being remembered. -/
def marshal (resolve : CType → BindM Conversion) (demand : Demand) : BindM Callback :=
  ScriptBind.marshal resolve demand.signature demand.typeName demand.owner demand.name
    demand.expected

/-- The callback that a place makes if its values can be converted. -/
structure MetBy (library : Library) (demand : Demand) (callback : Callback) : Prop where
  /-- It has the name of the place. -/
  name : callback.name = demand.id
  /-- It has the signature of the place. -/
  signature : callback.signature = demand.signature
  /-- It finds the way to the script that the place gives it. -/
  owner : library.callbackOwner demand.signature demand.typeName demand.id demand.expected =
    .ok (callback.owner, callback.carrier)
  /-- It names all its arguments. -/
  named : demand.signature.isVariadic = false

end Demand

/-- The records that binding can come to, under their keys. -/
inductive Bindable (library : Library) : String → Record → Prop where
  /-- The library declares it. -/
  | declared {key : String} {record : Record} :
      library.decls.records.get? key = some record → Bindable library key record
  /-- It is the cell for a pointer. -/
  | cell : Bindable library pointerCell.name pointerCell
  /-- It is the type of a member and has no name of its own. -/
  | nested {key : String} {record inner : Record} {field : Field} :
      Bindable library key record → field ∈ record.flattened → field.name ≠ "" →
      field.type = .anonymous inner →
      Bindable library (memberTypeName (bareTag key) field.name)
        { inner with name := memberTypeName (bareTag key) field.name }

/-- Where what a callback returns is converted. -/
def resultSite (type : CType) : Site := { type, expr := "callback_result" }

/-- What callbacks return is registered under one name. -/
def resultId : String := callbackName "" ""

/-- The places of a library that need a callback. -/
inductive Demanded (library : Library) : Demand → Prop where
  /-- A member of a record. -/
  | member {key : String} {record : Record} {field : Field} {signature : Signature} :
      Bindable library key record → field ∈ record.flattened → field.name ≠ "" →
      library.decls.functionPointer field.type = some signature →
      Demanded library (.ofMember key record field signature)
  /-- An argument of a function. -/
  | argument {function : CFunction} {index : Nat} {param : Parameter} {signature : Signature} :
      function ∈ library.decls.functions → (namedParams function)[index]? = some param →
      library.decls.functionPointer param.type = some signature →
      Demanded library
        (.ofSite (argumentSite function.name (namedParams function) index param) signature)
  /-- What a callback returns. -/
  | result {demand : Demand} {signature : Signature} :
      Demanded library demand →
      library.decls.functionPointer demand.signature.result = some signature →
      Demanded library (.ofSite (resultSite demand.signature.result) signature)

/-- A callback that some place of the name has made. -/
def Vouched (library : Library) (id : String) (callback : Callback) : Prop :=
  ∃ demand, Demanded library demand ∧ demand.id = id ∧ demand.MetBy library callback

theorem Vouched.name {library : Library} {id : String} {callback : Callback}
    (h : Vouched library id callback) : callback.name = id := by
  obtain ⟨demand, -, hid, hmet⟩ := h
  rw [hmet.name, hid]

/-- The callbacks whose trampolines a section declares. -/
def Section.declares : Section → List Callback
  | .accessor code => code.callbacks
  | _ => []

/-- The callback that a converted value registers. -/
def Converted.callback? : Converted → Option Callback
  | .call _ _ => none
  | .register _ callback _ => some callback

/-- The callbacks whose trampolines a section registers. -/
def Section.registers : Section → List Callback
  | .wrapper code =>
    (code.arguments.map Argument.value ++ code.result.toList).filterMap Converted.callback?
  | .trampoline code => (code.arguments ++ code.result.toList).filterMap Converted.callback?
  | _ => []

/-- The callbacks whose trampolines a section defines. -/
def Section.defines : Section → List Callback
  | .trampoline code => [code.callback]
  | .stub callback => [callback]
  | _ => []

/-- The names of the callbacks that a body declares trampolines of. -/
def declaredNames (body : List Section) : List String :=
  (body.flatMap Section.declares).map Callback.name

/-- The names of the callbacks that a body registers trampolines of. -/
def registeredNames (body : List Section) : List String :=
  (body.flatMap Section.registers).map Callback.name

/-- The names of the callbacks that a body defines trampolines of, one for each
    definition. -/
def definedNames (body : List Section) : List String :=
  (body.flatMap Section.defines).map Callback.name

/-- The trampoline of a callback is in a body. -/
def IsWritten (body : List Section) (callback : Callback) : Prop :=
  ∃ trampoline, .trampoline trampoline ∈ body ∧ trampoline.callback = callback

/-- The ways in which binding resolves the values of a callback. -/
inductive IsResolving : (CType → BindM Conversion) → Prop where
  /-- With bounds of its own. -/
  | whole : IsResolving resolve
  /-- Within the bounds of what is being bound. -/
  | within (levels : Nat) : IsResolving ((bindersWithin levels).resolve 0)

/-- The ways in which trampolines are found. -/
inductive IsRendering : (Callback → BindM Trampoline) → Prop where
  /-- With bounds of its own. -/
  | whole : IsRendering renderCallback
  /-- Within the bounds of the callback that returns this one. -/
  | within (levels : Nat) : IsRendering (renderWithin levels)

/-- The callbacks and records that a session remembers come from somewhere. -/
structure Session.Vouching (library : Library) (session : Session) : Prop where
  /-- A callback awaits its trampoline. -/
  pending : ∀ id callback, session.callbacks.get? id = some (.pending callback) →
    Vouched library id callback
  /-- A callback has its trampoline. -/
  emitted : ∀ id callback, session.callbacks.get? id = some (.emitted callback) →
    Vouched library id callback
  /-- A record has been put off. -/
  deferred : ∀ key deferred, (key, deferred) ∈ session.deferred.rows →
    Bindable library key deferred.record

/-- A failure that some place of the name has met with in a pass, when no more than
    the given diagnostics had been reported. -/
inductive Blamed {library : Library} (pass : Pass library) (reported : List Diagnostic)
    (id : String) : BindError → Prop where
  /-- The callback was looked at, and its values could not be converted. -/
  | refused {demand : Demand} {resolve : CType → BindM Conversion} {session session' : Session}
      {error : BindError} :
      Demanded library demand → demand.id = id → IsResolving resolve →
      pass.Runs (demand.check resolve) session → session.diagnostics <+: reported →
      (demand.check resolve).outcome library session = some (.error error, session') →
      Blamed pass reported id error
  /-- Its trampoline was to be written and could not be found. -/
  | unwritten {callback : Callback} {render : Callback → BindM Trampoline}
      {session session' : Session} {error : BindError} :
      Vouched library id callback → IsRendering render → pass.Runs (render callback) session →
      session.diagnostics <+: reported →
      (render callback).outcome library session = some (.error error, session') →
      Blamed pass reported id error

section Blame

variable {library : Library} {pass : Pass library} {reported reported' : List Diagnostic}

/-- More may have been reported since. -/
theorem Blamed.mono {id : String} {error : BindError} (h : Blamed pass reported id error)
    (hr : reported <+: reported') : Blamed pass reported' id error := by
  cases h with
  | refused hd hid hresolving hrun hbefore ho =>
      exact .refused hd hid hresolving hrun (hbefore.trans hr) ho
  | unwritten hc hrendering hrun hbefore ho =>
      exact .unwritten hc hrendering hrun (hbefore.trans hr) ho

/-- What a place that needs a callback is told comes from a place of its name. -/
def Demand.Answered (pass : Pass library) (reported : List Diagnostic) (demand : Demand) :
    Except BindError Callback → Prop
  | .ok callback => Vouched library demand.id callback
  | .error error => Blamed pass reported demand.id error

/-- Everything in a session of a pass comes from somewhere. -/
structure Session.Accountable (pass : Pass library) (session : Session) : Prop where
  /-- The callbacks and records do. -/
  vouching : session.Vouching library
  /-- The failures do. -/
  failed : ∀ id error, session.callbacks.get? id = some (.failed error) →
    Blamed pass session.diagnostics id error
  /-- A trampoline that counts as written is in the code. -/
  written : ∀ id callback, session.callbacks.get? id = some (.emitted callback) →
    IsWritten session.body callback

/-- The diagnostic for a member that is left out. -/
def memberDiagnostic (owner : String) (field : Field) (error : BindError) : Diagnostic where
  kind := .callback
  name := s!"{owner}.{field.name}"
  reason := error.message
  declaration := field.type.declare field.name

/-- What became of a member comes from the member: the callback in its place has
    been made for its name, and if it is left out, its name is to blame. -/
def MemberOutcome.Fits (pass : Pass library) (reported : List Diagnostic) (key : String)
    (record : Record) : MemberOutcome → Prop
  | .reached access => ∀ callback, access.callback? = some callback →
    ∃ field signature, field ∈ record.flattened ∧ field.name = access.field ∧ field.name ≠ "" ∧
      library.decls.functionPointer field.type = some signature ∧
      Vouched library (Demand.ofMember key record field signature).id callback
  | .dropped name diagnostic =>
    ∃ field signature error, field ∈ record.flattened ∧ field.name = name ∧ field.name ≠ "" ∧
      library.decls.functionPointer field.type = some signature ∧
      Blamed pass reported (Demand.ofMember key record field signature).id error ∧
      diagnostic = memberDiagnostic (bareTag key) field error

theorem MemberOutcome.Fits.mono {key : String} {record : Record} {outcome : MemberOutcome}
    (h : outcome.Fits pass reported key record) (hr : reported <+: reported') :
    outcome.Fits pass reported' key record := by
  cases outcome with
  | reached access => exact h
  | dropped name diagnostic =>
      obtain ⟨field, signature, error, hm, hn, hne, hs, hblame, hd⟩ := h
      exact ⟨field, signature, error, hm, hn, hne, hs, hblame.mono hr, hd⟩

/-- A way by a conversion leads to no callback. -/
theorem Access.callback?_ofConversion {field : Field} {typeName : String} {conversion : Conversion}
    {access : Access} (h : Access.ofConversion field typeName conversion = .ok access) :
    access.callback? = none := by
  unfold Access.ofConversion at h
  split at h
  · obtain rfl := Except.ok.inj h
    rfl
  · cases h

theorem Access.callback?_ofArray {field : Field} {element : CType} {length : Nat}
    {conversion : Conversion} {access : Access}
    (h : Access.ofArray field element length conversion = .ok access) :
    access.callback? = none := by
  unfold Access.ofArray at h
  dsimp only at h
  split at h
  · obtain rfl := Except.ok.inj h
    rfl
  · cases h

/-- The members of a record come from the record. -/
def BoundMembers.Fits (pass : Pass library) (reported : List Diagnostic)
    (members : BoundMembers) : Prop :=
  members.name = bareTag members.key ∧
    ∃ record, Bindable library members.key record ∧
      ∀ outcome ∈ members.outcomes, outcome.Fits pass reported members.key record

/-- A callback in the code of a record has been made for the name that the
    record and the member give. -/
theorem BoundMembers.Fits.vouched {members : BoundMembers} (h : members.Fits pass reported)
    {callback : Callback} (hc : callback ∈ members.accessor.callbacks) :
    ∃ demand, Demanded library demand ∧ demand.name ≠ "" ∧ Vouched library demand.id callback := by
  obtain ⟨-, record, hrecord, hfits⟩ := h
  obtain ⟨access, ha, hcallback⟩ := List.mem_filterMap.1 hc
  obtain ⟨outcome, ho, haccess⟩ := List.mem_filterMap.1 ha
  have hfit := hfits outcome ho
  cases outcome with
  | dropped name diagnostic => cases haccess
  | reached other =>
      obtain rfl := Option.some.inj haccess
      obtain ⟨field, signature, hm, -, hne, hs, hv⟩ := hfit callback hcallback
      exact ⟨_, .member hrecord hm hne hs, hne, hv⟩

end Blame

section Bodies

theorem definedNames_append (front back : List Section) :
    definedNames (front ++ back) = definedNames front ++ definedNames back := by
  rw [definedNames, List.flatMap_append, List.map_append, definedNames, definedNames]

theorem declaredNames_append (front back : List Section) :
    declaredNames (front ++ back) = declaredNames front ++ declaredNames back := by
  rw [declaredNames, List.flatMap_append, List.map_append, declaredNames, declaredNames]

theorem registeredNames_append (front back : List Section) :
    registeredNames (front ++ back) = registeredNames front ++ registeredNames back := by
  rw [registeredNames, List.flatMap_append, List.map_append, registeredNames, registeredNames]

theorem mem_definedNames_of_initial {body body' : List Section} {id : String} (h : body <+: body')
    (hid : id ∈ definedNames body) : id ∈ definedNames body' := by
  obtain ⟨added, rfl⟩ := h
  rw [definedNames_append]
  exact List.mem_append_left _ hid

theorem IsWritten.mono {body body' : List Section} {callback : Callback}
    (h : IsWritten body callback) (hb : body <+: body') : IsWritten body' callback := by
  obtain ⟨trampoline, hm, hc⟩ := h
  exact ⟨trampoline, hb.subset hm, hc⟩

theorem IsWritten.defined {body : List Section} {callback : Callback}
    (h : IsWritten body callback) : callback.name ∈ definedNames body := by
  obtain ⟨trampoline, hm, rfl⟩ := h
  exact List.mem_map_of_mem (List.mem_flatMap.2 ⟨_, hm, List.mem_singleton_self _⟩)

end Bodies

end ScriptBind
