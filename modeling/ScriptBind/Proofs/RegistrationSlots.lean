import ScriptBind.Proofs.AssemblyInvariants

/-!
# Where Callables Are Registered and Found

The wrapper of a function registers the callable that a script passes for a
callback in a dictionary, and the trampoline of the callback looks it up there.
Either the dictionary is the one that callbacks without a record share, or it
hangs off a member of a record: the wrapper takes the record that the function's
first parameter points to, the trampoline the one that its own first parameter
points to.

Only the second of these two records is looked at. It has the member, or there
is no callback. What the function's first parameter is goes unchecked, so the
two records are the same where the two parameters have one type, and otherwise
the member that the wrapper names need not exist.

## Main definitions

* `Library.StandsFor`, `Library.PointsTo`: A type is taken for a record, and is a
  pointer to what is.
* `registrations`: The callables that the wrappers of a module register.
* `Registration.Serves`: What is known of a registration and of the trampoline.
* `Registration.Leads`, `Registration.Lies`: The function's first parameter leads
  to the trampoline's record, and the slot lies there.

## Theorems

* `callbackOwner_eq_ok`: When there is a way from a callback to the script.
* `registrations_serve`: Every registration of a module serves its callback, and
  lies where the trampoline looks if the first parameter leads there.
* `misplacedCallback_slot`: A function whose first parameter is a number.
-/

namespace ScriptBind

variable {library : Library} {decls : Declarations} {options : Options}

/-- What a pointer points to, the pointer being followed through fewer typedefs
    than the given bound. -/
def Declarations.pointeeWithin (decls : Declarations) : Nat → CType → Option CType
  | 0, _ => none
  | _ + 1, .pointer pointee _ => some pointee
  | bound + 1, .named name => (decls.typedefs.get? name).bind (decls.pointeeWithin bound)
  | _ + 1, _ => none

/-- A type is taken for a record: it names the record, or the type or the record
    that it names is called like the record where this one is bound. -/
inductive Library.StandsFor (library : Library) (type : CType) : Record → Prop where
  /-- The type names it, directly or through typedefs. -/
  | named {record : Record} :
      library.decls.recordOf type = some record → StandsFor library type record
  /-- It is bound under the spelling of the type. -/
  | spelled {record : Record} :
      Bindable library type.spelling record → StandsFor library type record
  /-- It is bound under the name of the record that the type names. -/
  | called {key : String} {record named : Record} : Bindable library key record →
      library.decls.recordOf type = some named → named.name = key → StandsFor library type record

/-- A type is a pointer, directly or through typedefs, to what is taken for a
    record. -/
def Library.PointsTo (library : Library) (type : CType) (record : Record) : Prop :=
  ∃ pointee, library.decls.pointeeWithin (aliasLimit + 1) type = some pointee ∧
    library.StandsFor pointee record

theorem Library.pointsTo_of_pointee {type pointee : CType} {record : Record}
    (ht : type.pointee? = some pointee) (hr : library.StandsFor pointee record) :
    library.PointsTo type record := by
  cases type with
  | pointer target isConst =>
      obtain rfl := Option.some.inj ht
      exact ⟨target, rfl, hr⟩
  | _ => cases ht

/-- The record that a place expects is one that binding can come to. -/
theorem Demanded.expected {demand : Demand} (h : Demanded library demand) {key : String}
    {record : Record} (he : demand.expected = some (key, record)) :
    Bindable library key record := by
  cases h with
  | member hk _ _ _ =>
      obtain ⟨rfl, rfl⟩ := Prod.mk.inj (Option.some.inj he)
      exact hk
  | argument _ _ _ => cases he
  | result _ _ => cases he

/-- The record in which a callback finds the way to the script is one that its
    first parameter stands for. -/
theorem standsFor_of_contextRecord {pointee : CType} {expected : Option (String × Record)}
    {record : Record} (hexpected : ∀ key record, expected = some (key, record) →
      Bindable library key record)
    (h : library.contextRecord? pointee expected = some record) :
    library.StandsFor pointee record := by
  cases expected with
  | none => exact .named h
  | some found =>
      obtain ⟨key, other⟩ := found
      rw [Library.contextRecord?] at h
      split at h
      · next hcall =>
          obtain rfl := Option.some.inj h
          have hbound := hexpected key other rfl
          rcases hcall with rfl | hnamed
          · exact .spelled hbound
          · obtain ⟨named, hrecord, hname⟩ := Option.map_eq_some_iff.1 hnamed
            exact .called hbound hrecord hname
      · cases h

/-- There is a way from a callback to the script if it shares the common
    dictionary, or if the record that its first parameter points to has the member
    that leads to one. -/
theorem callbackOwner_eq_ok {signature : Signature} {typeName id : String}
    {expected : Option (String × Record)} {owner : CallbackOwner} {carrier : Option String}
    (h : library.callbackOwner signature typeName id expected = .ok (owner, carrier)) :
    (owner = .shared ∧ carrier = none) ∨
      ∃ pointee record, signature.params.head?.bind CType.pointee? = some pointee ∧
        library.contextRecord? pointee expected = some record ∧
        record.hasField library.naming.userData ∧ owner = .record pointee.spelling ∧
        carrier = some library.naming.userData := by
  unfold Library.callbackOwner at h
  dsimp only at h
  split at h
  · obtain ⟨rfl, rfl⟩ := Prod.mk.inj (Except.ok.inj h)
    exact Or.inl ⟨rfl, rfl⟩
  · split at h
    · cases h
    · next pointee hpointee =>
        split at h
        · cases h
        · next record hfound =>
            obtain ⟨rfl, rfl⟩ := Prod.mk.inj (Except.ok.inj h)
            obtain ⟨hrecord, hfield⟩ := Option.filter_eq_some_iff.1 hfound
            exact Or.inr ⟨pointee, record, hpointee, hrecord, hfield, rfl, rfl⟩

/-- A callback finds the way to the script where it says: nowhere of its own, or
    in the record that its first parameter points to. -/
theorem Vouched.carries {id : String} {callback : Callback} (h : Vouched library id callback) :
    (callback.owner = .shared ∧ callback.carrier = none) ∨
      callback.carrier = some library.naming.userData ∧
        ∃ own record, callback.signature.params.head? = some own ∧ library.PointsTo own record ∧
          record.hasField library.naming.userData := by
  obtain ⟨demand, hd, -, hmet⟩ := h
  rcases callbackOwner_eq_ok hmet.owner with hshared | ⟨pointee, record, hp, hr, hf, -, hc⟩
  · exact Or.inl hshared
  · rw [← hmet.signature] at hp
    obtain ⟨own, hown, hpointee⟩ := Option.bind_eq_some_iff.1 hp
    have hstands := standsFor_of_contextRecord (fun _ _ he => hd.expected he) hr
    exact Or.inr ⟨hc, own, record, hown, Library.pointsTo_of_pointee hpointee hstands, hf⟩

/-- A callable registered by the wrapper of a function. -/
structure Registration where
  /-- The function. -/
  function : CFunction
  /-- The parameter that the callable is passed for. -/
  param : Parameter
  /-- The callback in its place. -/
  callback : Callback
  /-- Where the dictionary is kept. -/
  slot : Slot
  deriving Inhabited

/-- The callable that a wrapper registers for an argument. -/
def Argument.registration? (function : CFunction) (argument : Argument) : Option Registration :=
  match argument.value with
  | .register _ callback slot => some ⟨function, argument.param, callback, slot⟩
  | .call _ _ => none

/-- The callables that the wrapper in a piece of code registers. -/
def Section.registrations : Section → List Registration
  | .wrapper code => code.arguments.filterMap (·.registration? code.function)
  | _ => []

/-- The callables that the wrappers in the code register. -/
def registrations (body : List Section) : List Registration := body.flatMap Section.registrations

/-- What is known of a callable registered in a slot by the wrapper of a function,
    for a parameter, and of the trampoline that looks it up. -/
def Slot.Serves (library : Library) (function : CFunction) (param : Parameter)
    (callback : Callback) : Slot → Prop
  | .shared => library.naming.isGlobalCallback param.type.spelling ∨ callback.carrier = none
  | .member base field =>
    -- The wrapper goes through the function's first parameter, whatever that is.
    (∃ first, (namedParams function).head? = some first ∧ base = first.name) ∧
      -- The trampoline goes through its own, to the same member of a record that has it.
      callback.carrier = some field ∧ field = library.naming.userData ∧
      ∃ own record, callback.signature.params.head? = some own ∧ library.PointsTo own record ∧
        record.hasField field

namespace Registration

/-- The slot of a registration serves its callback. -/
def Serves (library : Library) (registration : Registration) : Prop :=
  registration.slot.Serves library registration.function registration.param registration.callback

/-- The function's first parameter points to whatever record the callback's own
    points to. -/
def Leads (library : Library) (registration : Registration) : Prop :=
  ∀ first own, (namedParams registration.function).head? = some first →
    registration.callback.signature.params.head? = some own →
    ∀ record, library.PointsTo own record → library.PointsTo first.type record

/-- A slot in a record lies in the one that the trampoline reads: the function's
    first parameter points to the record that the callback's own does, and the
    record has the member. -/
def Lies (library : Library) (registration : Registration) : Prop :=
  ∀ base field, registration.slot = .member base field →
    ∃ first own record, (namedParams registration.function).head? = some first ∧
      base = first.name ∧ registration.callback.signature.params.head? = some own ∧
      library.PointsTo first.type record ∧ library.PointsTo own record ∧ record.hasField field

/-- A slot that serves lies where the trampoline reads if the function's first
    parameter leads there. -/
theorem Serves.lies {registration : Registration} (h : registration.Serves library)
    (hsame : registration.Leads library) : registration.Lies library := by
  intro base field hslot
  rw [Serves, hslot] at h
  obtain ⟨⟨first, hfirst, hbase⟩, -, -, own, record, hown, hrecord, hfield⟩ := h
  exact ⟨first, own, record, hfirst, hbase, hown, hsame first own hfirst hown record hrecord,
    hrecord, hfield⟩

end Registration

/-- The slot that an argument's site gives a callback serves it. -/
theorem Vouched.serves_slot {id : String} {callback : Callback} (h : Vouched library id callback)
    {function : CFunction} {index : Nat} {param : Parameter}
    (hp : (namedParams function)[index]? = some param) :
    ((argumentSite function.name (namedParams function) index param).slot library.naming
      callback).Serves library function param callback := by
  obtain ⟨first, hfirst⟩ : ∃ first, (namedParams function).head? = some first := by
    cases hparams : namedParams function with
    | nil =>
        rw [hparams] at hp
        cases hp
    | cons first rest => exact ⟨first, rfl⟩
  rw [Site.slot, argumentSite, hfirst]
  dsimp only
  split
  · next hglobal => exact Or.inl hglobal
  · rw [Callback.slot]
    rcases h.carries with ⟨ho, hc⟩ | ⟨hc, hrecord⟩
    · rw [ho, hc]
      exact Or.inr hc
    · rw [hc]
      exact ⟨⟨first, hfirst, rfl⟩, hc, rfl, hrecord⟩

/-- All wrappers in the code register callbacks made for their places, in the
    slots that the places give, with trampolines in the code. -/
def Session.Fitted (library : Library) (session : Session) : Prop :=
  ∀ wrapper, .wrapper wrapper ∈ session.body → wrapper.Fits library session.body

theorem Wrapper.Fits.mono {body body' : List Section} {wrapper : Wrapper}
    (h : wrapper.Fits library body) (hb : body <+: body') : wrapper.Fits library body' :=
  ⟨h.1, fun index argument ha => (h.2.1 index argument ha).mono hb, h.2.2⟩

namespace Session.Fitted

variable {session session' : Session}

/-- More code, with only such wrappers in it. -/
theorem extend (h : session.Fitted library) {code : List Section}
    (hb : session'.body = session.body ++ code)
    (hcode : ∀ wrapper, .wrapper wrapper ∈ code → wrapper.Fits library session.body) :
    session'.Fitted library := by
  have hprefix : session.body <+: session'.body := ⟨code, hb.symm⟩
  intro wrapper hm
  rw [hb] at hm
  rcases List.mem_append.1 hm with hm | hm
  · exact (h wrapper hm).mono hprefix
  · exact (hcode wrapper hm).mono hprefix

/-- More code without wrappers. -/
theorem emit (h : session.Fitted library) {code : Section}
    (hc : ∀ wrapper, code ≠ .wrapper wrapper) : (session.emit code).Fitted library :=
  h.extend rfl fun wrapper hm => absurd (List.mem_singleton.1 hm).symm (hc wrapper)

theorem reject (h : session.Fitted library) (diagnostic : Diagnostic) :
    (session.reject diagnostic).Fitted library :=
  h.extend rfl fun wrapper hm => by cases List.mem_singleton.1 hm

/-- The code of a record holds no wrapper. -/
theorem commit (h : session.Fitted library) (typedef : Option MemberTypedef)
    (members : BoundMembers) : (session.commit typedef members).Fitted library := by
  rw [Session.commit_eq]
  refine h.extend rfl fun wrapper hm => ?_
  rw [Session.committed, List.mem_append, List.mem_append, List.mem_map, List.mem_map,
    List.mem_singleton] at hm
  rcases hm with (⟨_, -, he⟩ | he) | ⟨_, -, he⟩ <;> cases he

theorem wrap (h : session.Fitted library) {wrapper : Wrapper}
    (hw : wrapper.Fits library session.body) :
    (session.emit (.wrapper wrapper)).Fitted library := by
  refine h.extend rfl fun other hm => ?_
  obtain rfl := Section.wrapper.inj (List.mem_singleton.1 hm)
  exact hw

end Session.Fitted

/-- That all wrappers fit is kept up by binding. -/
def fitting {library : Library} (pass : Pass library) : Upkeep pass where
  holds := Session.Fitted library
  isOpen := fun _ => True
  isOpen_result := trivial
  quiet := by
    intro session session' h _ hb _
    exact h.extend (hb.trans (List.append_nil _).symm) fun _ hm => by cases hm
  emit := fun h hp => h.emit fun wrapper he => by
    rw [he] at hp
    cases hp
  reject := fun h _ => h.reject _
  settleFailed := fun h _ _ _ => h
  commit := fun typedef h _ _ => h.commit typedef _
  write := fun h _ _ _ _ _ _ => h.emit fun _ he => by cases he
  wrap := fun h _ hw => h.wrap hw
  leave := fun h _ _ _ _ _ => h.reject _

/-- When a module is complete, all its wrappers fit. -/
theorem fitted_sessionAtEnd (decls : Declarations) (options : Options) :
    (sessionAtEnd decls options).Fitted (libraryOf decls options) := by
  refine (Upkeep.sessionAtEnd (fitting _) (fun _ => trivial) ?_ ?_).2
  · intro session callback error h _ _
    have hstub : (session.emit (.stub callback)).Fitted (libraryOf decls options) :=
      Session.Fitted.emit h fun _ he => by cases he
    exact hstub.reject _
  · intro wrapper hm
    rw [Session.start] at hm
    cases hm

/-- A registration is that of a wrapper's argument. -/
theorem mem_registrations {body : List Section} {registration : Registration}
    (h : registration ∈ registrations body) :
    ∃ (wrapper : Wrapper) (index : Nat) (argument : Argument) (expr : String),
      .wrapper wrapper ∈ body ∧ wrapper.arguments[index]? = some argument ∧
      registration.function = wrapper.function ∧ registration.param = argument.param ∧
      argument.value = .register expr registration.callback registration.slot := by
  obtain ⟨code, hcode, hm⟩ := List.mem_flatMap.1 h
  cases code with
  | wrapper wrapper =>
      obtain ⟨argument, ha, hr⟩ := List.mem_filterMap.1 hm
      obtain ⟨index, hindex⟩ := List.mem_iff_getElem?.1 ha
      rw [Argument.registration?] at hr
      split at hr
      · next expr callback slot hvalue =>
          obtain rfl := Option.some.inj hr
          exact ⟨wrapper, index, argument, expr, hcode, hindex, rfl, rfl, hvalue⟩
      · cases hr
  | _ => cases hm

/-- Every callable that a wrapper registers is registered in a slot that serves
    the callback, whose trampoline is in the module, and a slot in a record lies
    where the trampoline reads if the function's first parameter leads there. -/
theorem registrations_serve {registration : Registration}
    (h : registration ∈ registrations (assemble decls options).body) :
    IsWritten (assemble decls options).body registration.callback ∧
      registration.Serves (libraryOf decls options) ∧
      (registration.Leads (libraryOf decls options) →
        registration.Lies (libraryOf decls options)) := by
  obtain ⟨wrapper, index, argument, expr, hw, ha, hfunction, hparam, hv⟩ := mem_registrations h
  obtain ⟨-, harguments, -⟩ := fitted_sessionAtEnd decls options wrapper hw
  obtain ⟨hp, hfits⟩ := harguments index argument ha
  have hc : argument.value.callback? = some registration.callback := by
    rw [hv]
    rfl
  obtain ⟨-, hvalue⟩ := hfits _ hc
  obtain ⟨hvouched, hwritten, he⟩ := hvalue _ hc
  obtain ⟨-, -, hslot⟩ := Converted.register.inj (hv.symm.trans he)
  have hserves : registration.Serves (libraryOf decls options) := by
    rw [Registration.Serves, hfunction, hparam, hslot]
    exact hvouched.serves_slot hp
  exact ⟨hwritten, hserves, hserves.lies⟩

/-- A function whose first parameter is a number, and one that takes the record
    of its callback. -/
def misplacedCallback : Declarations where
  records := .ofRows [("K", ⟨"K", .struct, [⟨"user_data", .pointerTo .void, none⟩]⟩)]
  functions :=
    [⟨"f", .void, [⟨"x", .builtin "int"⟩,
        ⟨"cb", .pointerTo (.function ⟨.void, [.pointerTo (.named "K")], false⟩)⟩], false⟩,
      ⟨"g", .void, [⟨"k", .pointerTo (.named "K")⟩,
        ⟨"cb", .pointerTo (.function ⟨.void, [.pointerTo (.named "K")], false⟩)⟩], false⟩]

set_option maxRecDepth 100000 in
/-- The first function registers its callable in a member of a number, which is
    not where the trampoline looks it up. -/
theorem misplacedCallback_slot :
    ¬∀ registration ∈ registrations (assemble misplacedCallback { moduleName := "m" }).body,
      registration.Lies (libraryOf misplacedCallback { moduleName := "m" }) := by
  have hslot : (Slot.member "x" "user_data", some false) ∈
      (registrations (assemble misplacedCallback { moduleName := "m" }).body).map
        fun registration => (registration.slot, (namedParams registration.function).head?.map
          fun first => (misplacedCallback.pointeeWithin (aliasLimit + 1) first.type).isSome) := by
    decide +kernel
  intro hall
  obtain ⟨registration, hr, he⟩ := List.mem_map.1 hslot
  obtain ⟨hmember, hfirst⟩ := Prod.mk.inj he
  obtain ⟨first, -, -, hhead, -, -, ⟨pointee, hpointee, -⟩, -⟩ := hall registration hr _ _ hmember
  have hpointer : misplacedCallback.pointeeWithin (aliasLimit + 1) first.type = some pointee :=
    hpointee
  rw [hhead, Option.map_some, hpointer] at hfirst
  cases hfirst

/-- The name of the type that a pointer points to. -/
def CType.pointeeName? : CType → Option String
  | .pointer (.named name) _ => some name
  | _ => none

theorem CType.exists_of_pointeeName? {type : CType} {name : String}
    (h : type.pointeeName? = some name) : ∃ isConst, type = .pointer (.named name) isConst := by
  unfold CType.pointeeName? at h
  split at h
  · obtain rfl := Option.some.inj h
    exact ⟨_, rfl⟩
  · cases h

set_option maxRecDepth 100000 in
/-- The second function registers its callable where the trampoline looks it
    up. -/
theorem misplacedCallback_lies :
    ∃ registration ∈ registrations (assemble misplacedCallback { moduleName := "m" }).body,
      registration.slot = .member "k" "user_data" ∧
        registration.Lies (libraryOf misplacedCallback { moduleName := "m" }) := by
  have hslot : (Slot.member "k" "user_data", some (some "K"), some (some "K")) ∈
      (registrations (assemble misplacedCallback { moduleName := "m" }).body).map
        fun registration =>
          (registration.slot, (namedParams registration.function).head?.map (·.type.pointeeName?),
            registration.callback.signature.params.head?.map CType.pointeeName?) := by
    decide +kernel
  obtain ⟨registration, hr, he⟩ := List.mem_map.1 hslot
  obtain ⟨hmember, he⟩ := Prod.mk.inj he
  obtain ⟨hfirst, hown⟩ := Prod.mk.inj he
  refine ⟨registration, hr, hmember, (registrations_serve hr).2.2
    fun first own hf ho record h => ?_⟩
  -- Both parameters are pointers to the record of one name.
  rw [hf, Option.map_some] at hfirst
  rw [ho, Option.map_some] at hown
  obtain ⟨_, ht⟩ := CType.exists_of_pointeeName? (Option.some.inj hfirst)
  obtain ⟨_, ht'⟩ := CType.exists_of_pointeeName? (Option.some.inj hown)
  obtain ⟨pointee, hp, hstands⟩ := h
  rw [ht'] at hp
  exact ⟨pointee, by rw [ht]; exact hp, hstands⟩

end ScriptBind
