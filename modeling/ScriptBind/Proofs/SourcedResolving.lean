import ScriptBind.Proofs.SourcedSessions

/-!
# Resolving Answers Sourced Conversions

From a sourced session, resolving a type answers a conversion whose converters
there are, and leaves a sourced session. For binding a record this means that
the ways to its members lead through converters defined before its accessor, and
the accessor defines those of the record itself.

A conversion that is answered need not be the one that is remembered for the type:
pointers to a record that is being bound are passed untyped for the time being.
It is sourced all the same, and it is the one that the type has from the beginning,
if it has one.

## Main definitions

* `Conversion.Answers`: What is known of the conversion answered for a type.
* `Binders.Source`: Ways to resolve and bind that keep sessions sourced.

## Theorems

* `resolveStep_yields`: One step of resolving.
* `bindStep_yields`: One step of binding.
* `bindersWithin_source`: Resolving and binding within any number of levels.
* `resolve_yields`, `bindStruct_yields`, `resolveArray_yields`,
  `resolveOpenArray_yields`: The same without a bound.
-/

namespace ScriptBind

variable {library : Library} {scope : Scope library} {body : List Section}

/-- What is known of the conversion answered for a type. -/
def Conversion.Answers (scope : Scope library) (type : CType) (body : List Section)
    (conversion : Conversion) : Prop :=
  conversion.Sourced scope body ∧ conversion.Befits library.naming type

/-- Ways to resolve and bind that keep sessions sourced. -/
structure Binders.Source (scope : Scope library) (binders : Binders) : Prop where
  /-- Resolving a type. -/
  resolve : ∀ links type, scope.types type → ∀ body,
    scope.Yields body (Conversion.Answers scope type) (binders.resolve links type)
  /-- Binding a record. -/
  bind : ∀ key record typedef, scope.records key record → ∀ body,
    scope.Yields body (fun _ _ => True) (binders.bind key record typedef)

/-- The conversion known under a key of the scope. -/
theorem lookup_yields {key : String} (hk : scope.Key key) :
    scope.Yields body (fun body' known => ∀ conversion, known = some conversion →
        Conversion.Sourced scope body' conversion)
      (BindM.look fun _ session => session.registry.get? key) :=
  .look fun _ hs _ _ hc => hs.known hk hc

theorem remember_yields {conversion : Conversion} (hc : conversion.Sourced scope body)
    (key : String) : scope.Yields body (Conversion.Sourced scope) (remember key conversion) := by
  rw [remember]
  refine .bindUpdate (fun session hs hb => ?_) fun body' hb => ?_
  · exact ⟨hs.addConversion fun _ => hc.mono hb, List.prefix_refl _⟩
  · exact .pure fun body'' hb' => hc.mono (hb.trans hb')

section Values

variable {resolve : CType → BindM Conversion}
  (h : ∀ type, scope.types type → ∀ body,
    scope.Yields body (Conversion.Sourced scope) (resolve type))

include h

theorem elementConversion_yields {element : CType} (he : scope.types element) (key : String) :
    scope.Yields body (Conversion.Sourced scope) (elementConversion resolve element key) := by
  rw [elementConversion]
  refine .bindLook fun isElement body' _ => ?_
  split
  · exact .within (h element he body') _
  · exact .fail _

omit h in
/-- The code of an array type is written from the conversion of its elements. -/
theorem writeArray_yields {conversion : Conversion} (hc : conversion.Sourced scope body)
    (key : String) (element : CType) (length : Option Nat) :
    scope.Yields body (Conversion.Sourced scope)
      (writeArray key (.ofElement element length conversion)) := by
  rw [writeArray]
  let converter := ArrayConverter.ofElement element length conversion
  refine .bind (Q := fun body' _ => .arrayConverter converter ∈ body')
    (.update fun session hs hb => ?_) fun _ body' _ hwritten => ?_
  · have hmem : .arrayConverter converter ∈ session.body ++ [.arrayConverter converter] :=
      List.mem_append_right _ (List.mem_singleton_self _)
    have hcode : Section.Sourced scope session.body (.arrayConverter converter) :=
      ⟨conversion, hc.mono hb, rfl⟩
    exact ⟨(hs.emit hcode).addConversion fun _ => .array hmem, List.prefix_append .., hmem⟩
  · exact .pure fun body'' hb => .array (hb.subset hwritten)

theorem arrayConversion_yields {element : CType} {length : Nat}
    (ht : scope.types (.array element length)) :
    scope.Yields body (Conversion.Sourced scope) (arrayConversion resolve element length) := by
  rw [arrayConversion]
  refine .bind (lookup_yields (.type ht)) fun known body' _ hknown => ?_
  split
  · exact .pure fun _ hb => (hknown _ rfl).mono hb
  split
  · exact .fail _
  · exact (elementConversion_yields h (scope.element ht) _).bind fun conversion _ _ hc =>
      writeArray_yields hc _ _ _

theorem openArrayConversion_yields {element : CType} (he : scope.types element) :
    scope.Yields body (Conversion.Sourced scope) (openArrayConversion resolve element) := by
  rw [openArrayConversion]
  refine .bind (lookup_yields (.openArray he)) fun known body' _ hknown => ?_
  split
  · exact .pure fun _ hb => (hknown _ rfl).mono hb
  split
  · exact .fail _
  · exact (elementConversion_yields h he _).bind fun conversion _ _ hc => writeArray_yields hc _ _ _

/-- Looking at the values of a callback leaves a sourced session. -/
theorem checkCallback_yields {signature : Signature} (hs : scope.types (.function signature))
    (typeName id : String) (expected : Option (String × Record)) :
    scope.Yields body (fun _ callback => callback.Within scope)
      (checkCallback resolve signature typeName id expected) := by
  have hparams : ∀ body, scope.Yields body (fun _ _ => True)
      ((signature.params.filter (!·.isPointer)).forM fun param => do let _ ← resolve param) :=
    fun body => .forM _ fun param hm =>
      (h param (scope.param hs (List.mem_filter.1 hm).1) body).bind fun _ _ _ _ =>
        .pure fun _ _ => trivial
  have hvalues : ∀ body, scope.Yields body (fun _ _ => True) (checkValues resolve signature) := by
    intro body
    rw [checkValues]
    dsimp only
    split
    · exact hparams body
    · exact (h _ (scope.result hs) body).bind fun _ body' _ _ => hparams body'
  rw [checkCallback]
  split
  · exact .fail _
  · refine Scope.Yields.read.bind fun library' body' _ hread => ?_
    refine .bind (Q := fun _ _ => True) (.ofExcept fun _ _ _ _ => trivial) fun found body' _ _ => ?_
    exact ((hvalues body').within _).bind fun _ _ _ _ => .pure fun _ _ => hs

/-- A callback that is marshaled is in the scope: it was made for the place, or
    the session kept it. -/
theorem marshal_yields {signature : Signature} (hs : scope.types (.function signature))
    (typeName owner name : String) (expected : Option (String × Record)) :
    scope.Yields body (fun _ callback => callback.Within scope)
      (marshal resolve signature typeName owner name expected) := by
  rw [marshal]
  have hlook : scope.Yields body (fun _ state => ∀ callback, state = some (.pending callback) ∨
      state = some (.emitted callback) → callback.Within scope)
      (BindM.look fun _ session => session.callbacks.get? (callbackName owner name)) :=
    .look fun session hw _ callback hc => hc.elim (hw.pending _ _) (hw.emitted _ _)
  refine hlook.bind fun state body' _ hstate => ?_
  split
  · exact .pure fun _ _ => hstate _ (Or.inl rfl)
  · exact .pure fun _ _ => hstate _ (Or.inr rfl)
  · exact .fail _
  · refine (checkCallback_yields h hs _ _ _).attempt.bind fun result body'' _ hresult => ?_
    cases result with
    | ok callback => exact .pure fun _ _ => hresult callback rfl
    | error error =>
        refine .bindUpdate (fun session hs _ => ?_) fun _ _ => .fail error
        exact ⟨hs.settleFailed _ error, List.prefix_refl _⟩

end Values

section Steps

variable {binders : Binders} (h : binders.Source scope)

include h

theorem afterBinding_yields {key : String} {record : Record} (hr : scope.records key record)
    (hk : scope.Key key) :
    scope.Yields body (Conversion.Sourced scope) (afterBinding binders key record) := by
  rw [afterBinding]
  refine (h.bind key record none hr body).bind fun _ body' _ _ => ?_
  refine .bind (lookup_yields hk) fun known body'' _ hknown => ?_
  split
  · exact .pure fun _ hb => (hknown _ rfl).mono hb
  · exact .fail _

theorem resolveRecordPointer_yields {key recordKey : String} {record : Record} (hk : scope.Key key)
    (hr : scope.records recordKey record) :
    scope.Yields body (Conversion.Sourced scope)
      (resolveRecordPointer binders key recordKey record) := by
  rw [resolveRecordPointer]
  refine .bindLook fun isEntered body' _ => ?_
  split
  · exact .pure fun _ _ => .untyped
  refine (h.bind recordKey record none hr body').succeeds.bind fun isBound body'' _ _ => ?_
  refine .bind (Q := fun body' found => ∀ conversion, found.1 = some conversion →
      Conversion.Sourced scope body' conversion)
    (.look fun session hs _ conversion hc => hs.known hk hc) fun found body₃ _ hfound => ?_
  obtain ⟨known, isSettled⟩ := found
  dsimp only
  split
  · exact .pure fun _ hb => (hfound _ rfl).mono hb
  · exact remember_yields .untyped _
  · split
    · exact remember_yields .untyped _
    · exact .pure fun _ _ => .untyped

theorem resolveOtherPointer_yields (links : Nat) {key : String} {pointee : CType}
    (hk : scope.Key key) (hp : scope.types pointee) :
    scope.Yields body (Conversion.Sourced scope)
      (resolveOtherPointer binders links key pointee) := by
  rw [resolveOtherPointer]
  refine .bindLook fun isTypedef body' _ => ?_
  split
  · refine (h.resolve _ _ hp body').succeeds.bind fun isResolved body'' _ _ => ?_
    refine .bind (lookup_yields hk) fun known body₃ _ hknown => ?_
    split
    · exact .pure fun _ hb => (hknown _ rfl).mono hb
    · exact remember_yields .untyped _
  · exact remember_yields .untyped _

theorem resolvePointer_yields (links : Nat) {pointee : CType} {isConst : Bool}
    (ht : scope.types (.pointer pointee isConst)) :
    scope.Yields body (Conversion.Sourced scope)
      (resolvePointer binders links pointee isConst) := by
  rw [resolvePointer]
  refine Scope.Yields.read.bind fun library' body' _ hread => ?_
  obtain rfl := hread
  split
  · exact remember_yields .callback _
  split
  · next hb =>
      exact resolveRecordPointer_yields h (.type ht)
        (scope.declared (Declarations.get?_of_bindable? hb))
  · exact resolveOtherPointer_yields h links (.type ht) (scope.pointee ht)

theorem resolveTypedef_yields (links : Nat) (name : String) {underlying : CType}
    (hu : scope.types underlying) :
    scope.Yields body (Conversion.Sourced scope)
      (resolveTypedef binders links name underlying) := by
  rw [resolveTypedef]
  refine .bindLook fun isEnum body' _ => ?_
  split
  · exact remember_yields .integer _
  · refine (h.resolve _ _ hu body').bind fun conversion body'' _ hc => ?_
    refine .bind (Q := fun body' _ => conversion.Sourced scope body')
      (.update fun session hs hb => ?_) fun _ body₃ _ hc => .pure fun _ hb => hc.mono hb
    have hknown : (session.addConversion name conversion).Sourced scope :=
      hs.addConversion fun _ => hc.1.mono hb
    have hshared := hknown.shareWithAlias hu name
    obtain ⟨registry, aliases, he⟩ :=
      (session.addConversion name conversion).shareWithAlias_eq name underlying.spelling
    rw [he] at hshared ⊢
    exact ⟨hshared, List.prefix_refl _, hc.1.mono hb⟩

theorem resolveNamed_yields (links : Nat) {name : String} (ht : scope.types (.named name)) :
    scope.Yields body (Conversion.Sourced scope) (resolveNamed binders links name) := by
  rw [resolveNamed]
  refine .bind (Q := fun _ decls => decls = library.decls) (.look fun _ _ _ => rfl)
    fun decls body' _ hd => ?_
  obtain rfl := hd
  split
  · next hr =>
      have hk : scope.Key (CType.named name).spelling := .type ht
      exact afterBinding_yields h (scope.declared hr) (by rwa [CType.spelling, CType.spell] at hk)
  · next hu => exact resolveTypedef_yields h links name (scope.typedef hu)
  · exact .fail _

theorem resolveTagged_yields {key : String} (hk : scope.Key key) :
    scope.Yields body (Conversion.Sourced scope) (resolveTagged binders key) := by
  rw [resolveTagged]
  refine .bind (Q := fun _ record => record = library.decls.records.get? key)
    (.look fun _ _ _ => rfl) fun record body' _ hrecord => ?_
  split
  · exact afterBinding_yields h (scope.declared hrecord.symm) hk
  · exact .fail _

theorem resolveFresh_yields (links : Nat) {type : CType} (ht : scope.types type) :
    scope.Yields body (Conversion.Sourced scope) (resolveFresh binders links type) := by
  have hresolve : ∀ type, scope.types type → ∀ body,
      scope.Yields body (Conversion.Sourced scope) (binders.resolve 0 type) :=
    fun type ht body => (h.resolve 0 type ht body).mono fun _ _ hc => hc.1
  cases type with
  | pointer pointee isConst => exact resolvePointer_yields h links ht
  | named name => exact resolveNamed_yields h links ht
  | tagged kind tag => exact resolveTagged_yields h (.type ht)
  | enumeration tag => exact remember_yields .integer _
  | array element length => exact arrayConversion_yields hresolve ht
  | _ => exact .fail _

/-- One step of resolving answers a sourced conversion, and the one that the type
    has from the beginning, if it has one. -/
theorem resolveStep_yields (links : Nat) {type : CType} (ht : scope.types type) :
    scope.Yields body (Conversion.Answers scope type) (resolveStep binders links type) := by
  rw [resolveStep]
  refine .bind (Q := fun body' known =>
      (∀ conversion, known = some conversion → conversion.Answers scope type body') ∧
        (known = none → ∀ conversion : Conversion, conversion.Befits library.naming type))
    (.look fun session hs _ => ⟨fun conversion hc => ?_, fun hn conversion seed hseed => ?_⟩)
    fun known body' _ hknown => ?_
  -- A type that has a conversion from the beginning is found, and with this one.
  · refine ⟨hs.known (.type ht) hc, fun seed hseed => ?_⟩
    exact Option.some.inj (hc.symm.trans (hs.seed hseed))
  · rw [hs.seed hseed] at hn
    cases hn
  · split
    · exact .pure fun _ hb => ⟨(hknown.1 _ rfl).1.mono hb, (hknown.1 _ rfl).2⟩
    split
    · exact .fail _
    · exact (resolveFresh_yields h links ht).mono fun _ conversion hc =>
        ⟨hc, hknown.2 rfl conversion⟩

end Steps

section Members

variable {binders : Binders} (h : binders.Source scope)

include h

theorem Binders.Source.conversion {type : CType} (ht : scope.types type) (body : List Section) :
    scope.Yields body (Conversion.Sourced scope) (binders.resolve 0 type) :=
  (h.resolve 0 type ht body).mono fun _ _ hc => hc.1

theorem bindCallback_yields {field : Field} {signature : Signature} (ht : scope.types field.type)
    (hs : library.decls.functionPointer field.type = some signature) (owner key : String)
    (record : Record) :
    scope.Yields body (MemberOutcome.Sourced scope)
      (bindCallback binders owner key record field signature) := by
  rw [bindCallback]
  refine (marshal_yields (fun _ ht => h.conversion ht) (scope.signature ht hs) _ _ _ _).attempt.bind
    fun result body' _ hresult => ?_
  cases result with
  | ok callback =>
      refine .bindLook fun slot _ _ => ?_
      refine .pure fun _ _ => ⟨Or.inl rfl, fun other ho => ?_⟩
      rw [← Option.some.inj ho]
      exact hresult callback rfl
  | error error => exact .pure fun _ _ => trivial

omit h in
/-- A way to a member that is made of a conversion is sourced, and there is no
    callback in its place. -/
theorem reached_sourced {access : Access} {conversion : Conversion}
    (hc : conversion.Sourced scope body)
    (ha : (∃ field typeName, Access.ofConversion field typeName conversion = .ok access) ∨
      ∃ field element length, Access.ofArray field element length conversion = .ok access) :
    (MemberOutcome.reached access).Sourced scope body := by
  refine ⟨Or.inr ⟨conversion, hc, ha⟩, fun callback hcallback => ?_⟩
  have hnone : access.callback? = none := by
    rcases ha with ⟨_, _, ha⟩ | ⟨_, _, _, ha⟩
    · exact Access.callback?_ofConversion ha
    · exact Access.callback?_ofArray ha
  rw [hnone] at hcallback
  cases hcallback

theorem bindNameless_yields {key : String} {record inner : Record} {field : Field}
    (hr : scope.records key record) (hf : field ∈ record.flattened) (hne : field.name ≠ "")
    (ht : field.type = .anonymous inner) (place : String) :
    scope.Yields body (fun body' access => (MemberOutcome.reached access).Sourced scope body')
      (bindNameless binders (bareTag key) key place field inner) := by
  rw [bindNameless]
  refine ((h.bind _ _ _ (scope.nested hr hf hne ht) body).within _).bind fun _ body' _ _ => ?_
  refine .bind (lookup_yields (.nameless _ _)) fun known body'' _ hknown => ?_
  split
  · exact .ofExcept fun access ha _ hb =>
      reached_sourced ((hknown _ rfl).mono hb) (Or.inl ⟨_, _, ha⟩)
  · exact .fail _

theorem bindMember_yields {key : String} {record : Record} (hr : scope.records key record)
    {field : Field} (hf : field ∈ record.flattened) :
    scope.Yields body (fun body' outcome => ∀ made, outcome = some made → made.Sourced scope body')
      (bindMember binders (bareTag key) key record field) := by
  rw [bindMember]
  by_cases hne : field.name = ""
  · rw [if_pos hne]
    refine .pure fun _ _ made hm => ?_
    cases hm
  rw [if_neg hne]
  have ht := scope.member hr hf hne
  have hreached : ∀ {action : BindM Access} {body : List Section},
      scope.Yields body (fun body' access =>
        (MemberOutcome.reached access).Sourced scope body') action →
      scope.Yields body (fun body' outcome => ∀ made, outcome = some made →
        made.Sourced scope body') (do return some (MemberOutcome.reached (← action))) := by
    intro action body ha
    refine ha.bind fun access body' _ hm => .pure fun _ hb made he => ?_
    rw [← Option.some.inj he]
    exact hm.mono hb
  -- What is resolved by its conversion is reached through it.
  have hvalue : ∀ (f : Conversion → Except BindError Access) (place : String) (body : List Section),
      (∀ conversion access, f conversion = .ok access →
        (∃ field typeName, Access.ofConversion field typeName conversion = .ok access) ∨
          ∃ field element length, Access.ofArray field element length conversion = .ok access) →
      scope.Yields body (fun body' outcome => ∀ made, outcome = some made →
        made.Sourced scope body') (do
          let conversion ← (binders.resolve 0 field.type).within place
          return some (MemberOutcome.reached (← BindM.ofExcept (f conversion)))) := by
    intro f place body hform
    refine ((h.conversion ht body).within place).bind fun conversion body' _ hc => ?_
    exact hreached (.ofExcept fun access ha _ hb =>
      reached_sourced (hc.mono hb) (hform conversion access ha))
  refine .bind (Q := fun _ found => found = library.decls.functionPointer field.type)
    (.look fun _ _ _ => rfl) fun found body' _ hfound => ?_
  subst hfound
  split
  · next signature hs =>
      refine (bindCallback_yields h ht hs _ key record).bind fun outcome body'' _ ho => ?_
      refine .pure fun _ hb made hm => ?_
      rw [← Option.some.inj hm]
      exact ho.mono hb
  · split
    · next inner hinner => exact hreached (bindNameless_yields h hr hf hne hinner _)
    · split
      · refine .pure fun _ _ made hm => ?_
        cases hm
      · exact hvalue _ _ _ fun _ _ ha => Or.inr ⟨_, _, _, ha⟩
    · exact hvalue _ _ _ fun _ _ ha => Or.inl ⟨_, _, ha⟩

theorem bindMembers_yields {key : String} {record : Record} (hr : scope.records key record)
    {fields : List Field} (hfields : ∀ field ∈ fields, field ∈ record.flattened) :
    scope.Yields body (fun body' outcomes => ∀ outcome ∈ outcomes, outcome.Sourced scope body')
      (bindMembers binders (bareTag key) key record fields) := by
  induction fields generalizing body with
  | nil =>
      refine .pure fun _ _ outcome hm => ?_
      cases hm
  | cons field rest ih =>
      rw [bindMembers]
      refine (bindMember_yields h hr (hfields field (List.mem_cons_self ..))).bind
        fun first body' _ hfirst => ?_
      refine (ih fun other ho => hfields other (List.mem_cons_of_mem _ ho)).bind
        fun others body'' hb hothers => .pure fun _ hb' outcome hm => ?_
      rcases List.mem_append.1 hm with hm | hm
      · exact (hfirst outcome (Option.mem_toList.1 hm)).mono (hb.trans hb')
      · exact (hothers outcome hm).mono hb'

theorem bindRecord_yields {key : String} {record : Record} (hr : scope.records key record) :
    scope.Yields body (fun body' members => ∀ outcome ∈ members.outcomes,
        MemberOutcome.Sourced scope body' outcome)
      (bindRecord binders key record) := by
  rw [bindRecord]
  refine (bindMembers_yields h hr fun _ hm => hm).bind fun outcomes body' _ ho => ?_
  exact .pure fun _ hb outcome hm => (ho outcome hm).mono hb

/-- A record is entered, its members are bound, and it is left and concluded. -/
theorem bindFresh_yields {key : String} {deferred : DeferredStruct}
    (hr : scope.records key deferred.record) :
    scope.Yields body (fun _ _ => True) (bindFresh binders key deferred) := by
  rw [bindFresh]
  refine .bindLook fun meetings body₁ _ => ?_
  refine .bindUpdate (fun session hs _ => ?_) fun body₂ _ => ?_
  · exact ⟨hs.of_eq (hs.toWithin.of_eq rfl fun _ hm => hm) rfl rfl, List.prefix_refl _⟩
  refine (bindRecord_yields h hr).attempt.bind fun result body₃ _ hresult => ?_
  -- The members are sourced given the code so far, which leaving keeps.
  refine .bind (Q := fun body' _ => body₃ <+: body') (.update fun session hs hb => ?_)
    fun _ body₄ _ hb => ?_
  · exact ⟨hs.of_eq (hs.toWithin.of_eq rfl fun _ hm => hm) rfl rfl, List.prefix_refl _, hb⟩
  cases result with
  | ok members =>
      refine .bindUpdate (fun session hs hb' => ?_) fun _ _ => .pure fun _ _ => trivial
      refine ⟨hs.commit (fun outcome hm => ?_) _, ?_⟩
      · exact (hresult members rfl outcome hm).mono (hb.trans hb')
      · rw [Session.commit_eq]
        exact List.prefix_append ..
  | error error =>
      refine .bindUpdate (fun session hs _ => ?_) fun _ _ => .pure fun _ _ => trivial
      rw [Session.conclude]
      split
      · refine ⟨hs.of_eq ⟨fun row hm => ?_, hs.pending, hs.emitted⟩ rfl rfl, List.prefix_refl _⟩
        rw [Session.defer, Table.add_rows] at hm
        rcases List.mem_append.1 hm with hm | hm
        · exact hs.deferred row hm
        · split at hm
          · cases hm
          · rw [List.mem_singleton.1 hm]
            exact hr
      · have hsettled : (session.settleStruct key (.failed error)).Sourced scope :=
          hs.of_eq (hs.toWithin.of_eq rfl fun _ hm => hm) rfl rfl
        exact ⟨hsettled.reject _, List.prefix_append ..⟩

theorem retryDeferred_yields (rounds : Nat) :
    scope.Yields body (fun _ _ => True) (retryDeferred binders rounds) := by
  induction rounds generalizing body with
  | zero => exact .ofEndless
  | succ rounds ih =>
      rw [retryDeferred]
      -- A record that was put off is one of the scope, for the session kept it.
      refine .bind (Q := fun _ row => ∀ key deferred, row = some (key, deferred) →
          scope.records key deferred.record)
        (.look fun session hs _ key deferred hrow =>
          hs.deferred _ (List.mem_of_mem_head? hrow)) fun row body₁ _ hrow => ?_
      split
      · exact .pure fun _ _ => trivial
      · next key deferred =>
          refine .bindUpdate (fun session hs _ => ?_) fun body₂ _ => ?_
          · exact ⟨hs.of_eq (hs.toWithin.of_eq rfl fun _ hm => (List.mem_filter.1 hm).1) rfl rfl,
              List.prefix_refl _⟩
          refine (h.bind key deferred.record deferred.typedef (hrow _ _ rfl) body₂).attempt.bind
            fun _ body₃ _ _ => ih

/-- One step of binding leaves a sourced session. -/
theorem bindStep_yields (rounds : Nat) {key : String} {record : Record}
    (hr : scope.records key record) (typedef : Option MemberTypedef) :
    scope.Yields body (fun _ _ => True) (bindStep rounds binders key record typedef) := by
  rw [bindStep]
  refine .bindLook fun state body₁ _ => ?_
  split
  · exact .pure fun _ _ => trivial
  · exact .fail _
  · refine .bindUpdate (fun session hs _ => ?_) fun _ _ => .fail _
    exact ⟨hs.of_eq (hs.toWithin.of_eq rfl fun _ hm => hm) rfl rfl, List.prefix_refl _⟩
  · have hrest : ∀ {body : List Section} (result : Except BindError BoundStruct),
        scope.Yields body (fun _ _ => True) (BindM.ofExcept result) :=
      fun _ => .ofExcept fun _ _ _ _ => trivial
    have hr' : scope.records key (DeferredStruct.mk record typedef).record := hr
    refine (bindFresh_yields h hr').bind fun result body₂ _ _ => ?_
    refine .bindLook fun isLast body₃ _ => ?_
    split
    · refine (retryDeferred_yields h rounds).bind fun _ body₄ _ _ => ?_
      refine .bindLook fun bound _ _ => ?_
      split
      · exact .pure fun _ _ => trivial
      · exact hrest _
    · exact hrest _

end Members

/-- Any number of levels keeps sessions sourced. -/
theorem bindersWithin_source (scope : Scope library) (levels : Nat) :
    (bindersWithin levels).Source scope := by
  induction levels with
  | zero => exact ⟨fun _ _ _ _ => .ofEndless, fun _ _ _ _ _ => .ofEndless⟩
  | succ levels ih =>
      exact ⟨fun links type ht _ => resolveStep_yields ih links ht,
        fun key record typedef hr _ => bindStep_yields ih levels hr typedef⟩

/-- The same for whatever starts the binding of a type. -/
theorem withBinders_yields {α : Type} {P : List Section → α → Prop} (subject : String) (size : Nat)
    {f : Binders → BindM α}
    (h : ∀ binders, binders.Source scope → ∀ body, scope.Yields body P (f binders)) :
    scope.Yields body P (withBinders subject size f) := by
  rw [withBinders]
  refine .settled (.bindLook fun reach body' _ => ?_) subject
  exact h _ (bindersWithin_source scope _) body'

/-- Resolving a type answers a sourced conversion. -/
theorem resolve_yields {type : CType} (ht : scope.types type) :
    scope.Yields body (Conversion.Answers scope type) (resolve type) :=
  withBinders_yields _ _ fun _ h body => h.resolve 0 type ht body

theorem bindStruct_yields {key : String} {record : Record} (hr : scope.records key record) :
    scope.Yields body (fun _ _ => True) (bindStruct key record) :=
  withBinders_yields _ _ fun _ h body => h.bind key record none hr body

theorem resolveArray_yields {element : CType} {length : Nat}
    (ht : scope.types (.array element length)) :
    scope.Yields body (Conversion.Sourced scope) (resolveArray element length) :=
  withBinders_yields _ _ fun _ h _ => arrayConversion_yields (fun _ ht => h.conversion ht) ht

theorem resolveOpenArray_yields {element : CType} (he : scope.types element) :
    scope.Yields body (Conversion.Sourced scope) (resolveOpenArray element) :=
  withBinders_yields _ _ fun _ h _ => openArrayConversion_yields (fun _ ht => h.conversion ht) he

end ScriptBind
