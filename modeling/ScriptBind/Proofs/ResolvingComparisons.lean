import ScriptBind.Proofs.Calls
import ScriptBind.Proofs.Scope
import ScriptBind.Proofs.SessionChanges

/-!
# What Resolving Keeps

A comparison of the session before with the session after goes through the
whole of resolving as soon as it allows the three ways in which resolving by
itself changes a session: it learns a conversion, it names what a typedef stands
for, and it writes the converters of an array. Everything else happens where a
record is bound, and is taken as given here: the ways to resolve and bind the
parts of a type are to keep the comparison too.

A conversion is learned for one of a few reasons, and what they say of its key is
what keeps the conversions of different types apart. That pointers to a record
are passed untyped is learned only of a record that has an outcome, and of a
bound one only if nothing better is known: binding a record has to report truly
whether the record is bound.

Comparisons that hold in some scope only are asked for the types and records of
that scope. Others hold only where a computation is run as chosen, in the course of
a pass for instance; then what it runs has to be chosen as well, and each step
passes the choice on to its parts.

## Main definitions

* `Session.Learns`: The reasons for which a conversion is learned.
* `Session.Allows`: A comparison that allows what resolving itself does.
* `Session.AllowsAnswered`: The same, given what is known of answers.
* `BindM.KeepsMet`: A computation keeps a comparison wherever it is run as chosen.
* `Binders.Keep`: Ways to resolve and bind that keep a comparison.
* `Binders.KeepMet`: The same wherever they are run as chosen.
* `Binders.KeepParts`: The same for the parts of types and records only.

## Theorems

* `checkCallback_keeps`: Looking at the values of a callback.
* `resolveStep_keepsMet`, `resolveStep_keeps`: One step of resolving.
* `convertArguments_keeps`: The arguments of a trampoline.
-/

namespace ScriptBind

/-- The reasons for which a session learns the conversion of a key. -/
inductive Session.Learns {library : Library} (scope : Scope library) (session : Session) :
    String → Conversion → Prop where
  /-- A callback has to be registered. -/
  | callback {pointee : CType} {isConst : Bool} {signature : Signature} :
      library.decls.functionPointer (.pointer pointee isConst) = some signature →
      Learns scope session (CType.pointer pointee isConst).spelling .callback
  /-- A pointer to a record that has an outcome and left no conversion. -/
  | record {pointee : CType} {isConst : Bool} {key : String} {record : Record} :
      library.decls.bindable? pointee = some (key, record) → session.structs.contains key →
      (session.boundStruct? key = none ∨
        session.registry.get? (CType.pointer pointee isConst).spelling = none) →
      Learns scope session (CType.pointer pointee isConst).spelling .untyped
  /-- A pointer to something that is not a record. -/
  | pointer {pointee : CType} {isConst : Bool} :
      scope.types pointee → library.decls.bindable? pointee = none →
      library.decls.functionPointer (.pointer pointee isConst) = none →
      Learns scope session (CType.pointer pointee isConst).spelling .untyped
  /-- A typedef of an enum. -/
  | typedef {name : String} {underlying : CType} :
      library.decls.records.get? name = none →
      library.decls.typedefs.get? name = some underlying → Learns scope session name .integer
  /-- An enum. -/
  | enumeration {tag : String} :
      scope.types (.enumeration tag) →
      Learns scope session (CType.enumeration tag).spelling .integer

/-- The keys that arrays of a type are converted under. -/
def IsArrayKey (element : CType) (key : String) : Prop :=
  (∃ length, key = (CType.array element length).spelling) ∨ key = openArrayKey element

/-- The key that arrays of a type and of a length are converted under. -/
def arrayKey (element : CType) : Option Nat → String
  | some length => (CType.array element length).spelling
  | none => openArrayKey element

theorem isArrayKey_arrayKey (element : CType) (length : Option Nat) :
    IsArrayKey element (arrayKey element length) := by
  cases length with
  | some length => exact .inl ⟨length, rfl⟩
  | none => exact .inr rfl

/-- The session with the converters of an array whose elements have a
    conversion. -/
def Session.writeArray (session : Session) (element : CType) (length : Option Nat)
    (conversion : Conversion) : Session :=
  let converter := ArrayConverter.ofElement element length conversion
  (session.emit (.arrayConverter converter)).addConversion (arrayKey element length)
    (.between converter.toArray converter.fromArray)

/-- A comparison of sessions that allows what resolving itself does for types
    other than typedefs. -/
structure Session.AllowsLearning {library : Library} (scope : Scope library)
    (R : Session → Session → Prop) : Prop where
  /-- One more conversion. -/
  learn : ∀ session key conversion, session.Learns scope key conversion →
    R session (session.addConversion key conversion)
  /-- An array, with its converters: it had none before its elements were
      resolved. -/
  array : ∀ before session element length conversion, scope.types element →
    before.registry.get? (arrayKey element length) = none → R before session →
    R before (session.writeArray element length conversion)

/-- A comparison of sessions that allows what resolving itself does. -/
structure Session.Allows {library : Library} (scope : Scope library)
    (R : Session → Session → Prop) : Prop extends Session.AllowsLearning scope R where
  /-- A typedef, with what it takes over from what it stands for. -/
  typedef : ∀ session name underlying conversion, library.decls.records.get? name = none →
    library.decls.typedefs.get? name = some underlying →
    R session ((session.addConversion name conversion).shareWithAlias name underlying.spelling)

/-- A comparison of sessions that allows what resolving itself does, a typedef of
    no enum being given what is known of the conversion that has been answered for
    what it stands for. -/
structure Session.AllowsAnswered {library : Library} (scope : Scope library)
    (known : Session → CType → Conversion → Prop) (R : Session → Session → Prop) : Prop
    extends Session.AllowsLearning scope R where
  /-- A typedef, with what it takes over from what it stands for. -/
  typedef : ∀ session name underlying conversion, library.decls.records.get? name = none →
    library.decls.typedefs.get? name = some underlying →
    library.decls.isEnum (.named name) = false → known session underlying conversion →
    R session ((session.addConversion name conversion).shareWithAlias name underlying.spelling)

/-- Ways to resolve of whose answers something is known. -/
def Binders.Answer (library : Library) (known : Session → CType → Conversion → Prop)
    (binders : Binders) : Prop :=
  ∀ links type session, BindM.Ensures True library (binders.resolve links type) session
    fun result session' => ∀ conversion, result = .ok conversion → known session' type conversion

/-- Nothing need be known of answers. -/
theorem Binders.answer_true (library : Library) (binders : Binders) :
    binders.Answer library fun _ _ _ => True :=
  fun _ _ _ => BindM.ensures_of_forall (fun _ _ _ _ => trivial) trivial

theorem Session.Allows.answered {library : Library} {scope : Scope library}
    {R : Session → Session → Prop} (h : Session.Allows scope R) :
    Session.AllowsAnswered scope (fun _ _ _ => True) R where
  toAllowsLearning := h.toAllowsLearning
  typedef := fun session name underlying conversion hr ht _ _ =>
    h.typedef session name underlying conversion hr ht

/-- A computation keeps a comparison wherever it is met. -/
def BindM.KeepsMet (library : Library) (met : (α : Type) → BindM α → Session → Prop)
    (R : Session → Session → Prop) {α : Type} (action : BindM α) : Prop :=
  ∀ session, met α action session →
    BindM.Ensures True library action session fun _ session' => R session session'

theorem BindM.Keeps.met {library : Library} {R : Session → Session → Prop} {α : Type}
    {action : BindM α} (h : BindM.Keeps library R action)
    (met : (α : Type) → BindM α → Session → Prop) : BindM.KeepsMet library met R action :=
  fun session _ => h session

/-- A computation may be met anywhere. -/
theorem BindM.keepsMet_anywhere {library : Library} {R : Session → Session → Prop} {α : Type}
    {action : BindM α} :
    BindM.KeepsMet library (fun _ _ _ => True) R action ↔ BindM.Keeps library R action :=
  ⟨fun h session => h session trivial, fun h => h.met _⟩

theorem respects_anywhere {library : Library} : Respects library fun _ _ _ => True :=
  fun _ _ => trivial

/-- Ways to resolve and bind that keep a comparison in a scope, and of which
    binding tells whether the record is bound. -/
structure Binders.Keep {library : Library} (scope : Scope library)
    (R : Session → Session → Prop) (binders : Binders) : Prop where
  /-- Resolving a type. -/
  resolve : ∀ links type, scope.types type → BindM.Keeps library R (binders.resolve links type)
  /-- Binding a record. -/
  bind : ∀ key record typedef, scope.records key record →
    BindM.Keeps library R (binders.bind key record typedef)
  /-- A record is bound exactly if binding it succeeds. -/
  verdict : ∀ key record typedef session, BindM.Ensures True library
    (binders.bind key record typedef) session fun result session' =>
      result.isOk = (session'.boundStruct? key).isSome

/-- Ways to resolve and bind the parts of types and records that keep a
    comparison in a scope. Of records, these are the ones that types name and the
    ones defined in place as the types of members. -/
structure Binders.KeepParts {library : Library} (scope : Scope library)
    (R : Session → Session → Prop) (binders : Binders) : Prop where
  /-- Resolving a type. -/
  resolve : ∀ links type, scope.types type → BindM.Keeps library R (binders.resolve links type)
  /-- Binding a record that has a name. -/
  named : ∀ key record, scope.records key record →
    BindM.Keeps library R (binders.bind key record none)
  /-- Binding a record that is defined in place. -/
  nested : ∀ {key : String} {record inner : Record} {field : Field}, scope.records key record →
    field ∈ record.flattened → field.name ≠ "" → field.type = .anonymous inner →
    BindM.Keeps library R (binders.bind (memberTypeName (bareTag key) field.name)
      { inner with name := memberTypeName (bareTag key) field.name }
      (some ⟨key, field.name, memberTypeName (bareTag key) field.name⟩))
  /-- A record is bound exactly if binding it succeeds. -/
  verdict : ∀ key record typedef session, BindM.Ensures True library
    (binders.bind key record typedef) session fun result session' =>
      result.isOk = (session'.boundStruct? key).isSome

/-- What keeps a comparison for all records keeps it for the parts. -/
theorem Binders.Keep.parts {library : Library} {scope : Scope library}
    {R : Session → Session → Prop} {binders : Binders} (h : binders.Keep scope R) :
    binders.KeepParts scope R where
  resolve := h.resolve
  named := fun key record hr => h.bind key record none hr
  nested := fun hr hf hne ht => h.bind _ _ _ (scope.nested hr hf hne ht)
  verdict := h.verdict

/-- Ways to resolve and bind that keep a comparison in a scope wherever they are
    met. Of records, these are the ones that types name. -/
structure Binders.KeepMet {library : Library} (scope : Scope library)
    (met : (α : Type) → BindM α → Session → Prop) (R : Session → Session → Prop)
    (binders : Binders) : Prop where
  /-- Resolving a type. -/
  resolve : ∀ links type, scope.types type →
    BindM.KeepsMet library met R (binders.resolve links type)
  /-- Binding a record that has a name. -/
  named : ∀ key record, scope.records key record →
    BindM.KeepsMet library met R (binders.bind key record none)
  /-- A record is bound exactly if binding it succeeds. -/
  verdict : ∀ key record typedef session, BindM.Ensures True library
    (binders.bind key record typedef) session fun result session' =>
      result.isOk = (session'.boundStruct? key).isSome

/-- What keeps a comparison anywhere keeps it wherever it is met. -/
theorem Binders.KeepParts.met {library : Library} {scope : Scope library}
    {R : Session → Session → Prop} {binders : Binders} (h : binders.KeepParts scope R)
    (met : (α : Type) → BindM α → Session → Prop) : binders.KeepMet scope met R where
  resolve := fun links type ht => (h.resolve links type ht).met met
  named := fun key record hr => (h.named key record hr).met met
  verdict := h.verdict

open BindM

variable {library : Library} {scope : Scope library} {R : Session → Session → Prop}
  [IsPreorder Session R] {met : (α : Type) → BindM α → Session → Prop}

theorem remember_keeps (hR : Session.AllowsLearning scope R) {key : String}
    {conversion : Conversion} (h : ∀ session : Session, session.Learns scope key conversion) :
    Keeps library R (remember key conversion) :=
  Keeps.bind (Keeps.update fun session => hR.learn session key conversion (h session))
    fun _ => Keeps.pure _

section Values

variable {resolve : CType → BindM Conversion} (hmet : Respects library met)
  (h : ∀ type, scope.types type → KeepsMet library met R (resolve type))

include hmet h

/-- Types are resolved one after another. -/
theorem resolveEach_keepsMet {types : List CType} (ht : ∀ type ∈ types, scope.types type) :
    KeepsMet library met R (resolveEach resolve types) := by
  induction types with
  | nil => exact fun session _ => refl_of R session
  | cons type rest ih =>
      intro session hm
      show Ensures True library ((do let _ ← resolve type) >>= fun _ => resolveEach resolve rest)
        session _
      rw [ensures_bind, ensures_bind]
      refine (h type (ht type (List.mem_cons_self ..)) session (hmet .first hm)).withOutcome.mono
        fun result session' hall => ?_
      cases result with
      | error error => exact hall.1
      | ok conversion =>
          have hrest := ih (fun other ho => ht other (List.mem_cons_of_mem _ ho)) session'
            (hmet (.nextTypes hall.2) hm)
          exact hrest.mono fun _ _ hr => trans_of R hall.1 hr

/-- The values of a callback are resolved: what it returns and then what it takes. -/
theorem checkCallback_keepsMet {signature : Signature} (hs : scope.types (.function signature))
    (typeName id : String) (expected : Option (String × Record)) :
    KeepsMet library met R (checkCallback resolve signature typeName id expected) := by
  intro session hm
  unfold checkCallback
  split
  · exact refl_of R session
  next hvariadic =>
  rw [ensures_bind, ensures_read]
  dsimp only
  rw [ensures_bind, ensures_ofExcept]
  cases howner : library.callbackOwner signature typeName id expected with
  | error error => exact refl_of R session
  | ok owner =>
      have hfixed : signature.isVariadic = false := Bool.eq_false_iff.2 hvariadic
      have hok : (library.callbackOwner signature typeName id expected).isOk := by
        rw [howner]
        rfl
      have hparams : KeepsMet library met R
          (resolveEach resolve (signature.params.filter (!·.isPointer))) :=
        resolveEach_keepsMet hmet h fun param hp => scope.param hs (List.mem_filter.1 hp).1
      have hvalues : Ensures True library (checkValues resolve signature) session
          fun _ session' => R session session' := by
        rw [checkValues]
        split
        · next hvoid =>
            exact hparams session (hmet (.valueParams hfixed hok (.inl ⟨hvoid, rfl⟩)) hm)
        next hvoid =>
        have hvalue : signature.returnsVoid = false := Bool.eq_false_iff.2 hvoid
        rw [ensures_bind]
        have hresult := h _ (scope.result hs) session (hmet (.valueResult hfixed hok hvalue) hm)
        refine hresult.withOutcome.mono fun result session' hall => ?_
        cases result with
        | error error => exact hall.1
        | ok conversion =>
            have hcall := hmet (.valueParams hfixed hok (.inr ⟨hvalue, conversion, hall.2⟩)) hm
            exact (hparams session' hcall).mono fun _ _ hr => trans_of R hall.1 hr
      dsimp only
      rw [ensures_bind, ensures_within]
      refine hvalues.mono fun result session' hr => ?_
      cases result with
      | error error => exact hr
      | ok _ => exact hr

omit hmet h in
/-- The elements of an array are resolved, if they can be elements. -/
theorem elementConversion_ensures {element : CType} {session : Session} {R : Session → Prop}
    (h : library.decls.isElement element → Ensures True library (resolve element) session
      fun _ session' => R session') (hr : R session) (key : String) :
    Ensures True library (elementConversion resolve element key) session
      fun _ session' => R session' := by
  rw [elementConversion, ensures_bind, ensures_look]
  dsimp only
  split
  · next he => exact (h he).within _
  · exact hr

/-- An array is looked up, and its converters are written if it had none. -/
theorem arrayConversion_keepsMet (hR : Session.AllowsLearning scope R) {element : CType}
    (he : scope.types element) (length : Nat) :
    KeepsMet library met R (arrayConversion resolve element length) := by
  intro session hm
  rw [arrayConversion, ensures_bind, ensures_look]
  dsimp only
  split
  · exact refl_of R session
  · next hn =>
      split
      · exact refl_of R session
      · next hlength =>
          rw [ensures_bind]
          have helement : Ensures True library
              (elementConversion resolve element (CType.array element length).spelling) session
              fun _ session' => R session session' :=
            elementConversion_ensures
              (fun hel => h element he session (hmet (.element hn hlength hel) hm))
              (refl_of R session) _
          refine helement.mono fun result session' hr => ?_
          cases result with
          | error error => exact hr
          | ok conversion =>
              exact hR.array session session' element (some length) conversion he hn hr

theorem openArrayConversion_keepsMet (hR : Session.AllowsLearning scope R) {element : CType}
    (he : scope.types element) : KeepsMet library met R (openArrayConversion resolve element) := by
  intro session hm
  rw [openArrayConversion, ensures_bind, ensures_look]
  dsimp only
  split
  · exact refl_of R session
  · next hn =>
      split
      · exact refl_of R session
      · next hvoid =>
          rw [ensures_bind]
          have hvalue : element.isVoid = false := Bool.eq_false_iff.2 hvoid
          have helement : Ensures True library
              (elementConversion resolve element (openArrayKey element)) session
              fun _ session' => R session session' :=
            elementConversion_ensures
              (fun hel => h element he session (hmet (.openElement hn hvalue hel) hm))
              (refl_of R session) _
          refine helement.mono fun result session' hr => ?_
          cases result with
          | error error => exact hr
          | ok conversion => exact hR.array session session' element none conversion he hn hr

end Values

section Steps

variable {binders : Binders} {known : Session → CType → Conversion → Prop}
  (hmet : Respects library met) (hanswer : binders.Answer library known)
  (hR : Session.AllowsAnswered scope known R) (h : binders.KeepMet scope met R)

omit [IsPreorder Session R] in
/-- A record is bound, and the conversion of a key looked up. -/
theorem afterBinding_ensures {key : String} {record : Record} {session : Session}
    (hb : Ensures True library (binders.bind key record none) session
      fun _ session' => R session session') :
    Ensures True library (afterBinding binders key record) session
      fun _ session' => R session session' := by
  rw [afterBinding, ensures_bind]
  refine hb.mono fun result session' hr => ?_
  cases result with
  | error error => exact hr
  | ok bound =>
      dsimp only
      rw [ensures_bind, ensures_look]
      dsimp only
      split
      · exact ensures_pure.2 hr
      · exact ensures_fail.2 hr

include hR

theorem resolveRecordPointer_ensures {pointee : CType} {recordKey : String} {record : Record}
    (hb : library.decls.bindable? pointee = some (recordKey, record)) (isConst : Bool)
    (hverdict : ∀ session, Ensures True library (binders.bind recordKey record none) session
      fun result session' => result.isOk = (session'.boundStruct? recordKey).isSome)
    {session : Session}
    (hbind : session.inProgress.contains recordKey = false →
      Ensures True library (binders.bind recordKey record none) session
        fun _ session' => R session session') :
    Ensures True library
      (resolveRecordPointer binders (CType.pointer pointee isConst).spelling recordKey record)
        session
      fun _ session' => R session session' := by
  rw [resolveRecordPointer, ensures_bind, ensures_look]
  dsimp only
  split
  · exact Keeps.pure _ session
  next hfree =>
  rw [ensures_bind, ensures_succeeds]
  refine ((hbind (Bool.eq_false_iff.2 hfree)).and (hverdict session)).mono
    fun result session' ⟨hr, hverdict⟩ => ?_
  dsimp only
  rw [ensures_bind, ensures_look]
  dsimp only
  -- Only what is learned for certain is remembered.
  have hlearn :
      ∀ conversion, session'.Learns scope (CType.pointer pointee isConst).spelling conversion →
      Ensures True library (remember (CType.pointer pointee isConst).spelling conversion) session'
        fun _ session'' => R session session'' := by
    intro conversion hc
    rw [remember, ensures_bind, ensures_update]
    exact ensures_pure.2 (trans_of R hr (hR.learn _ _ _ hc))
  split
  · exact ensures_pure.2 hr
  · next hok hknown =>
      rw [hok] at hverdict
      obtain ⟨bound, hbound⟩ := Option.isSome_iff_exists.1 hverdict.symm
      refine hlearn _ (.record hb ?_ (Or.inr hknown))
      rw [Table.contains, Session.get?_of_boundStruct? hbound]
      rfl
  · next hfailed =>
      rw [hfailed] at hverdict
      have hunbound : session'.boundStruct? recordKey = none :=
        Option.isNone_iff_eq_none.1 (Option.isSome_eq_false_iff.1 hverdict.symm)
      split
      · next hsettled => exact hlearn _ (.record hb hsettled (Or.inl hunbound))
      · exact ensures_pure.2 hr

/-- What a pointer to anything else leads to is a typedef. -/
theorem resolveOtherPointer_ensures (links : Nat) {pointee : CType} (hp : scope.types pointee)
    (hb : library.decls.bindable? pointee = none) {isConst : Bool}
    (hf : library.decls.functionPointer (.pointer pointee isConst) = none) {session : Session}
    (hresolve : ∀ name, pointee = .named name → library.decls.typedefs.contains name →
      Ensures True library (binders.resolve (links + 1) pointee) session
        fun _ session' => R session session') :
    Ensures True library
      (resolveOtherPointer binders links (CType.pointer pointee isConst).spelling pointee) session
      fun _ session' => R session session' := by
  have hlearn : Keeps library R (remember (CType.pointer pointee isConst).spelling .untyped) :=
    remember_keeps hR.toAllowsLearning fun _ => .pointer hp hb hf
  rw [resolveOtherPointer, ensures_bind, ensures_look]
  dsimp only
  split
  · next name =>
      split
      · next htypedef =>
          rw [ensures_bind, ensures_succeeds]
          refine (hresolve name rfl htypedef).mono fun result session' hr => ?_
          dsimp only
          rw [ensures_bind, ensures_look]
          dsimp only
          split
          · exact ensures_pure.2 hr
          · exact (hlearn session').mono fun _ _ hr' => trans_of R hr hr'
      · exact hlearn session
  · rw [if_neg Bool.false_ne_true]
    exact hlearn session

include hmet h

include hanswer in
theorem resolveTypedef_ensures (links : Nat) {name : String} {underlying : CType}
    (hr : library.decls.records.get? name = none)
    (ht : library.decls.typedefs.get? name = some underlying) {session : Session}
    (hm : met _ (resolveNamed binders links name) session) :
    Ensures True library (resolveTypedef binders links name underlying) session
      fun _ session' => R session session' := by
  rw [resolveTypedef, ensures_bind, ensures_look]
  dsimp only
  split
  · exact remember_keeps hR.toAllowsLearning (fun _ => .typedef hr ht) session
  · next henum =>
      have henum : library.decls.isEnum (.named name) = false := Bool.eq_false_iff.2 henum
      rw [ensures_bind]
      have hresolve := h.resolve (links + 1) underlying (scope.typedef ht) session
        (hmet (.typedef hr ht henum) hm)
      refine (hresolve.and (hanswer (links + 1) underlying session)).mono
        fun result session' hall => ?_
      cases result with
      | error error => exact hall.1
      | ok conversion =>
          dsimp only
          rw [ensures_bind, ensures_update]
          exact ensures_pure.2 (trans_of R hall.1 (hR.typedef session' name underlying conversion hr
            ht henum (hall.2 conversion rfl)))

theorem resolvePointer_keepsMet (links : Nat) {pointee : CType} (hp : scope.types pointee)
    (isConst : Bool) : KeepsMet library met R (resolvePointer binders links pointee isConst) := by
  intro session hm
  rw [resolvePointer, ensures_bind, ensures_read]
  dsimp only
  cases hf : library.decls.functionPointer (.pointer pointee isConst) with
  | some signature =>
      exact remember_keeps hR.toAllowsLearning (fun _ => .callback hf) session
  | none =>
      rw [Option.isSome_none, if_neg Bool.false_ne_true]
      split
      · next hb =>
          exact resolveRecordPointer_ensures hR hb isConst (h.verdict _ _ none) fun hfree =>
            h.named _ _ (scope.declared (Declarations.get?_of_bindable? hb)) session
              (hmet (.recordPointer hf hb hfree) hm)
      · next hb =>
          refine resolveOtherPointer_ensures hR links hp hb hf fun name hn ht => ?_
          subst hn
          exact h.resolve _ _ hp session (hmet (.typedefPointer hf hb ht) hm)

include hanswer in
theorem resolveNamed_keepsMet (links : Nat) (name : String) :
    KeepsMet library met R (resolveNamed binders links name) := by
  intro session hm
  rw [resolveNamed, ensures_bind, ensures_look]
  dsimp only
  split
  · next hr =>
      exact afterBinding_ensures (h.named _ _ (scope.declared hr) session (hmet (.named hr) hm))
  · next hr ht => exact resolveTypedef_ensures hmet hanswer hR h links hr ht hm
  · exact Keeps.fail _ session

omit hR in
theorem resolveTagged_keepsMet (key : String) :
    KeepsMet library met R (resolveTagged binders key) := by
  intro session hm
  rw [resolveTagged, ensures_bind, ensures_look]
  dsimp only
  split
  · next hr =>
      exact afterBinding_ensures (h.named _ _ (scope.declared hr) session (hmet (.tagged hr) hm))
  · exact Keeps.fail _ session

include hanswer in
theorem resolveFresh_keepsMet (links : Nat) {type : CType} (ht : scope.types type) :
    KeepsMet library met R (resolveFresh binders links type) := by
  cases type with
  | pointer pointee isConst =>
      exact resolvePointer_keepsMet hmet hR h links (scope.pointee ht) isConst
  | named name => exact resolveNamed_keepsMet hmet hanswer hR h _ _
  | tagged kind tag => exact resolveTagged_keepsMet hmet h _
  | enumeration tag =>
      exact (remember_keeps hR.toAllowsLearning fun _ => .enumeration ht).met met
  | array element length =>
      exact arrayConversion_keepsMet hmet (h.resolve 0) hR.toAllowsLearning (scope.element ht) _
  | _ => exact (Keeps.fail _).met met

include hanswer in
/-- One step of resolving keeps what its parts keep wherever they are met. -/
theorem resolveStep_keepsMetAnswered (links : Nat) {type : CType} (ht : scope.types type) :
    KeepsMet library met R (resolveStep binders links type) := by
  intro session hm
  rw [resolveStep, ensures_bind, ensures_look]
  dsimp only
  split
  · exact Keeps.pure _ session
  next hn =>
  split
  · exact Keeps.fail _ session
  · next hlinks =>
      have hcall := hmet (.fresh hn (Nat.le_of_not_lt hlinks)) hm
      exact resolveFresh_keepsMet hmet hanswer hR h links ht session hcall

omit hR h in
/-- The same where nothing need be known of answers. -/
theorem resolveStep_keepsMet (hR : Session.Allows scope R) (h : binders.KeepMet scope met R)
    (links : Nat) {type : CType} (ht : scope.types type) :
    KeepsMet library met R (resolveStep binders links type) :=
  resolveStep_keepsMetAnswered hmet (binders.answer_true library) hR.answered h links ht

end Steps

section Arguments

variable (hmet : Respects library met)
  (h : ∀ type, scope.types type → KeepsMet library met R (resolve type))

include hmet h

/-- The arguments of a trampoline are resolved one by one. -/
theorem convertArguments_keepsMet (place : String) (index : Nat) {types : List CType}
    (ht : ∀ type ∈ types, scope.types type) :
    KeepsMet library met R (convertArguments place index types) := by
  induction types generalizing index with
  | nil => exact fun session _ => refl_of R session
  | cons type rest ih =>
      intro session hm
      rw [convertArguments, ensures_bind]
      have hresolve := h type (ht type (List.mem_cons_self ..)) session (hmet .passedFirst hm)
      have hfirst : Ensures True library (convertArgument place index type) session
          fun _ session' => R session session' := by
        rw [convertArgument, ensures_bind]
        refine (hresolve.within place).mono fun result session' hr => ?_
        cases result with
        | error error => exact hr
        | ok conversion => exact hr
      refine hfirst.withOutcome.mono fun result session' hall => ?_
      cases result with
      | error error => exact hall.1
      | ok value =>
          dsimp only
          rw [ensures_bind]
          have hrest :=
            ih (index + 1) (fun other ho => ht other (List.mem_cons_of_mem _ ho)) session'
            (hmet (.nextPassed hall.2) hm)
          refine hrest.mono fun result session'' hr => ?_
          cases result with
          | error error => exact trans_of R hall.1 hr
          | ok values => exact trans_of R hall.1 hr

end Arguments

/-! Computations that keep a comparison whatever session they are run from. -/

section Anywhere

variable {resolve : CType → BindM Conversion}
  (h : ∀ type, scope.types type → Keeps library R (resolve type))

include h

theorem checkCallback_keeps {signature : Signature} (hs : scope.types (.function signature))
    (typeName id : String) (expected : Option (String × Record)) :
    Keeps library R (checkCallback resolve signature typeName id expected) :=
  keepsMet_anywhere.1 <|
    checkCallback_keepsMet respects_anywhere (fun type ht => (h type ht).met _) hs _ _ _

theorem elementConversion_keeps {element : CType} (he : scope.types element) (key : String) :
    Keeps library R (elementConversion resolve element key) := fun session =>
  elementConversion_ensures (fun _ => h element he session) (refl_of R session) key

theorem arrayConversion_keeps (hR : Session.AllowsLearning scope R) {element : CType}
    (he : scope.types element) (length : Nat) :
    Keeps library R (arrayConversion resolve element length) :=
  keepsMet_anywhere.1 <|
    arrayConversion_keepsMet respects_anywhere (fun type ht => (h type ht).met _) hR he length

theorem openArrayConversion_keeps (hR : Session.AllowsLearning scope R) {element : CType}
    (he : scope.types element) : Keeps library R (openArrayConversion resolve element) :=
  keepsMet_anywhere.1 <|
    openArrayConversion_keepsMet respects_anywhere (fun type ht => (h type ht).met _) hR he

end Anywhere

theorem convertArguments_keeps (h : ∀ type, scope.types type → Keeps library R (resolve type))
    (place : String) (index : Nat) {types : List CType} (ht : ∀ type ∈ types, scope.types type) :
    Keeps library R (convertArguments place index types) :=
  keepsMet_anywhere.1 <|
    convertArguments_keepsMet respects_anywhere (fun type ht => (h type ht).met _) place index ht

/-- One step of resolving keeps what its parts keep. -/
theorem resolveStep_keepsAnswered {binders : Binders} {known : Session → CType → Conversion → Prop}
    (hanswer : binders.Answer library known) (hR : Session.AllowsAnswered scope known R)
    (h : binders.KeepParts scope R) (links : Nat) {type : CType} (ht : scope.types type) :
    Keeps library R (resolveStep binders links type) :=
  keepsMet_anywhere.1 <|
    resolveStep_keepsMetAnswered respects_anywhere hanswer hR (h.met _) links ht

/-- The same where nothing need be known of answers. -/
theorem resolveStep_keeps {binders : Binders} (hR : Session.Allows scope R)
    (h : binders.KeepParts scope R) (links : Nat) {type : CType} (ht : scope.types type) :
    Keeps library R (resolveStep binders links type) :=
  resolveStep_keepsAnswered (binders.answer_true library) hR.answered h links ht

end ScriptBind
