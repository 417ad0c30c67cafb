import ScriptBind.Proofs.ConversionOrigins

/-!
# Which Keys Are Those of Callbacks

Only a callback takes more than a function on its way to C: it has to be registered, and
this can fail. Conversions are kept by spelling, so the question for which keys a value
has to be registered is one about spellings. They are those of pointers to functions, and
those of typedefs that stand for such a key. Nothing else that a session learns has to be
registered, and this can be said of any library, whatever its names are.

An answer is right about this if the session that it is given in is. Since a later session
has all the conversions of an earlier one, what is right about the later is right about
the earlier.

If names are those of C, a type that goes by the name of a callback is one.

## Main definitions

* `Declarations.NamesCallback`: The keys of callbacks.
* `Session.CallbacksNamed`: Only what has such a key is registered.
* `Session.AnswersByName`: The same of an answer.
* `paramKey`: The key that the conversion of a parameter is found by.

## Theorems

* `bindersWithin_answersFor`: What is answered for a type is registered only if the type
  goes by the name of a callback.
* `Performed.callbacksNamed`: Between operations only callbacks are registered.
* `OfC.functionPointer_of_namesCallback`: In C, what goes by the name of a callback is one.
-/

namespace ScriptBind

open BindM

/-- The keys of callbacks: the spellings of pointers to functions, and typedefs that stand
    for one, with what pointers to the typedef take over. -/
inductive Declarations.NamesCallback (decls : Declarations) : String → Prop where
  /-- A pointer to a function. -/
  | signature (signature : Signature) (isConst : Bool) :
      NamesCallback decls (CType.pointer (.function signature) isConst).spelling
  /-- A typedef. -/
  | typedef {name : String} {underlying : CType} :
      decls.records.get? name = none → decls.typedefs.get? name = some underlying →
      decls.isEnum (.named name) = false → NamesCallback decls underlying.spelling →
      NamesCallback decls name
  /-- Pointers to a typedef. -/
  | typedefPointer {name : String} {underlying : CType} :
      decls.records.get? name = none → decls.typedefs.get? name = some underlying →
      decls.isEnum (.named name) = false → NamesCallback decls (underlying.spelling ++ " *") →
      NamesCallback decls (name ++ " *")

namespace Session

/-- Only what has the key of a callback is registered on its way to C. -/
def CallbacksNamed (decls : Declarations) (session : Session) : Prop :=
  ∀ key conversion, session.registry.get? key = some conversion →
    conversion.inward = .register → decls.NamesCallback key

/-- A conversion found under a key is to be registered only if the key is that of a
    callback, provided that the session is right about its own. -/
def AnswersByName (decls : Declarations) (session : Session) (key : String)
    (conversion : Conversion) : Prop :=
  session.CallbacksNamed decls → conversion.inward = .register → decls.NamesCallback key

variable {decls : Declarations} {session session' : Session} {key : String}
  {conversion : Conversion}

/-- What is right about a later session is right about an earlier one. -/
theorem CallbacksNamed.anti (h : session'.CallbacksNamed decls) (he : session.Extends session') :
    session.CallbacksNamed decls :=
  fun key conversion hk => h key conversion (Table.get?_of_initial he.registry hk)

/-- What a session has under a key is an answer for it. -/
theorem answersByName_of_get? (hk : session.registry.get? key = some conversion) :
    session.AnswersByName decls key conversion :=
  fun h hi => h key conversion hk hi

/-- What is converted by functions is an answer for any key. -/
theorem answersByName_of_ne (hi : conversion.inward ≠ .register) :
    session.AnswersByName decls key conversion :=
  fun _ hregister => absurd hregister hi

/-- A session starts with nothing to be registered. -/
theorem callbacksNamed_start (decls : Declarations) (naming : Naming) :
    (start naming).CallbacksNamed decls := by
  intro key conversion hk hi
  rw [start_registry, Registry.seeded] at hk
  exact absurd hi (seeds_inward naming _ (mem_of_get?_ofFirstRows hk))

end Session

section Answers

variable {library : Library} {session : Session}

/-- The answer of a computation is an answer for a key. -/
def BindM.AnswersFor (library : Library) (key : String) (action : BindM Conversion)
    (session : Session) : Prop :=
  Ensures True library action session fun result session' =>
    ∀ conversion, result = .ok conversion → session'.AnswersByName library.decls key conversion

theorem answersFor_pure {key : String} {conversion : Conversion}
    (h : session.AnswersByName library.decls key conversion) :
    AnswersFor library key (pure conversion) session := by
  refine ensures_pure.2 fun other ho => ?_
  rw [← Except.ok.inj ho]
  exact h

theorem answersFor_fail (key : String) (error : BindError) :
    AnswersFor library key (BindM.fail error) session := by
  refine ensures_fail.2 fun conversion he => ?_
  cases he

theorem answersFor_remember {key : String} {conversion : Conversion}
    (h : conversion.inward = .register → library.decls.NamesCallback key) :
    AnswersFor library key (remember key conversion) session := by
  rw [AnswersFor, remember, ensures_bind, ensures_update]
  exact answersFor_pure fun _ => h

/-- After any computation, what is known then is an answer. -/
theorem answersFor_bind {α : Type} {key : String} {action : BindM α} {next : α → BindM Conversion}
    (hnext : ∀ answer session', AnswersFor library key (next answer) session') :
    AnswersFor library key (action >>= next) session := by
  rw [AnswersFor, ensures_bind]
  refine ensures_of_forall (fun result session' => ?_) trivial
  cases result with
  | error error =>
      intro conversion he
      cases he
  | ok answer => exact hnext answer session'

theorem afterBinding_answersFor (binders : Binders) (key : String) (record : Record) :
    AnswersFor library key (afterBinding binders key record) session :=
  (afterBinding_answered binders key record session).mono fun _ _ hall conversion he =>
    Session.answersByName_of_get? (hall conversion he)

theorem resolveRecordPointer_answersFor (binders : Binders) (key recordKey : String)
    (record : Record) :
    AnswersFor library key (resolveRecordPointer binders key recordKey record) session := by
  have huntyped : Conversion.untyped.inward ≠ .register := inward_between _ _
  rw [AnswersFor, resolveRecordPointer, ensures_bind, ensures_look]
  dsimp only
  split
  · exact answersFor_pure (Session.answersByName_of_ne huntyped)
  · refine answersFor_bind fun isBound session' => ?_
    rw [AnswersFor, ensures_bind, ensures_look]
    dsimp only
    split
    · next hk => exact answersFor_pure (Session.answersByName_of_get? hk)
    · exact answersFor_remember fun hi => absurd hi huntyped
    · split
      · exact answersFor_remember fun hi => absurd hi huntyped
      · exact answersFor_pure (Session.answersByName_of_ne huntyped)

theorem resolveOtherPointer_answersFor (binders : Binders) (links : Nat) (key : String)
    (pointee : CType) :
    AnswersFor library key (resolveOtherPointer binders links key pointee) session := by
  have huntyped : ∀ session', AnswersFor library key (remember key .untyped) session' :=
    fun _ => answersFor_remember fun hi => absurd hi (inward_between _ _)
  unfold resolveOtherPointer
  refine answersFor_bind fun isTypedef session' => ?_
  split
  · refine answersFor_bind fun isResolved session'' => ?_
    rw [AnswersFor, ensures_bind, ensures_look]
    dsimp only
    split
    · next hk => exact answersFor_pure (Session.answersByName_of_get? hk)
    · exact huntyped session''
  · exact huntyped session'

/-- A pointer is registered if it is one to a function. -/
theorem resolvePointer_answersFor (binders : Binders) (links : Nat) (pointee : CType)
    (isConst : Bool) :
    AnswersFor library (CType.pointer pointee isConst).spelling
      (resolvePointer binders links pointee isConst) session := by
  rw [AnswersFor, resolvePointer, ensures_bind, ensures_read]
  dsimp only
  split
  · next hf =>
      refine answersFor_remember fun _ => ?_
      cases pointee with
      | function signature => exact .signature signature isConst
      | _ => cases hf
  · split
    · exact resolveRecordPointer_answersFor binders _ _ _
    · exact resolveOtherPointer_answersFor binders links _ pointee

/-- A typedef is registered if what it stands for is. -/
theorem resolveTypedef_answersFor {binders : Binders} {links : Nat} {name : String}
    {underlying : CType}
    (h : ∀ links type session,
      AnswersFor library type.spelling (binders.resolve links type) session)
    (hr : library.decls.records.get? name = none)
    (ht : library.decls.typedefs.get? name = some underlying) :
    AnswersFor library name (resolveTypedef binders links name underlying) session := by
  rw [AnswersFor, resolveTypedef, ensures_bind, ensures_look]
  dsimp only
  split
  · exact answersFor_remember fun hi => absurd hi (inward_between _ _)
  · next henum =>
      rw [ensures_bind]
      refine (h (links + 1) underlying session).mono fun result session' hall => ?_
      cases result with
      | error error =>
          intro conversion he
          cases he
      | ok conversion =>
          dsimp only
          rw [ensures_bind, ensures_update]
          refine answersFor_pure fun hnamed hi => .typedef hr ht (Bool.eq_false_iff.2 henum) ?_
          -- What is answered for the typedef has been answered in an earlier session.
          have hlater :
              session'.Extends ((session'.addConversion name conversion).shareWithAlias name
              underlying.spelling) :=
            ((session'.grows_addConversion name conversion).trans
              (Session.grows_shareWithAlias _ name underlying.spelling)).extends
          exact hall conversion rfl (hnamed.anti hlater) hi

theorem writeArray_answersFor (key : String) (converter : ArrayConverter) :
    AnswersFor library key (writeArray key converter) session := by
  rw [AnswersFor, writeArray]
  exact answersFor_bind fun _ _ =>
    answersFor_pure (Session.answersByName_of_ne (inward_between _ _))

theorem arrayConversion_answersFor (resolve : CType → BindM Conversion) (element : CType)
    (length : Nat) : AnswersFor library (CType.array element length).spelling
      (arrayConversion resolve element length) session := by
  rw [AnswersFor, arrayConversion, ensures_bind, ensures_look]
  dsimp only
  split
  · next hk => exact answersFor_pure (Session.answersByName_of_get? hk)
  · split
    · exact answersFor_fail _ _
    · exact answersFor_bind fun _ _ => writeArray_answersFor _ _

theorem openArrayConversion_answersFor (resolve : CType → BindM Conversion) (element : CType) :
    AnswersFor library (openArrayKey element) (openArrayConversion resolve element) session := by
  rw [AnswersFor, openArrayConversion, ensures_bind, ensures_look]
  dsimp only
  split
  · next hk => exact answersFor_pure (Session.answersByName_of_get? hk)
  · split
    · exact answersFor_fail _ _
    · exact answersFor_bind fun _ _ => writeArray_answersFor _ _

theorem resolveFresh_answersFor {binders : Binders}
    (h : ∀ links type session,
      AnswersFor library type.spelling (binders.resolve links type) session)
    (links : Nat) (type : CType) :
    AnswersFor library type.spelling (resolveFresh binders links type) session := by
  cases type with
  | pointer pointee isConst => exact resolvePointer_answersFor binders links pointee isConst
  | named name =>
      rw [spelling_named, AnswersFor, resolveFresh, resolveNamed, ensures_bind, ensures_look]
      dsimp only
      split
      · exact afterBinding_answersFor binders name _
      · next hr ht => exact resolveTypedef_answersFor h hr ht
      · exact answersFor_fail _ _
  | tagged kind tag =>
      rw [AnswersFor, resolveFresh, resolveTagged, ensures_bind, ensures_look]
      dsimp only
      split
      · exact afterBinding_answersFor binders _ _
      · exact answersFor_fail _ _
  | enumeration tag => exact answersFor_remember fun hi => absurd hi (inward_between _ _)
  | array element length => exact arrayConversion_answersFor _ element length
  | _ => exact answersFor_fail _ _

/-- What is answered for a type is registered only if the type goes by the name of a
    callback. -/
theorem bindersWithin_answersFor (levels links : Nat) (type : CType) (session : Session) :
    AnswersFor library type.spelling ((bindersWithin levels).resolve links type) session := by
  induction levels generalizing links type session with
  | zero => exact trivial
  | succ levels ih =>
      show AnswersFor library type.spelling (resolveStep (bindersWithin levels) links type) session
      rw [AnswersFor, resolveStep, ensures_bind, ensures_look]
      dsimp only
      split
      · next hk => exact answersFor_pure (Session.answersByName_of_get? hk)
      · split
        · exact answersFor_fail _ _
        · exact resolveFresh_answersFor ih links type

theorem answersFor_withBinders {key subject : String} {size : Nat} {f : Binders → BindM Conversion}
    (h : ∀ levels session, AnswersFor library key (f (bindersWithin levels)) session) :
    AnswersFor library key (withBinders subject size f) session := by
  refine Ensures.settled ?_ fun conversion he => ?_
  · rw [ensures_bind, ensures_look]
    exact h _ session
  · cases he

theorem resolve_answersFor (type : CType) :
    AnswersFor library type.spelling (resolve type) session :=
  answersFor_withBinders fun levels session => bindersWithin_answersFor levels 0 type session

theorem resolveOpenArray_answersFor (element : CType) :
    AnswersFor library (openArrayKey element) (resolveOpenArray element) session :=
  answersFor_withBinders fun _ _ => openArrayConversion_answersFor _ element

/-- The key that the conversion of a parameter is found by. -/
def paramKey : CType → String
  | .array element 0 => openArrayKey element
  | type => type.spelling

theorem resolveParam_answersFor (type : CType) :
    AnswersFor library (paramKey type) (resolveParam type) session := by
  cases type with
  | array element length =>
      cases length with
      | zero => exact resolveOpenArray_answersFor element
      | succ length => exact resolve_answersFor _
  | _ => exact resolve_answersFor _

end Answers

namespace Session

variable {library : Library} {session session' : Session}

/-- A later session that registers only what has the key of a callback if the earlier one
    does. -/
structure StaysNamed (decls : Declarations) (session session' : Session) : Prop where
  /-- It is later. -/
  later : session.Extends session'
  /-- It registers only callbacks. -/
  named : session.CallbacksNamed decls → session'.CallbacksNamed decls

instance (decls : Declarations) : IsPreorder Session (StaysNamed decls) where
  refl := fun session => ⟨Extends.refl session, id⟩
  trans := fun _ _ _ h h' => ⟨trans_of Extends h.later h'.later, h'.named ∘ h.named⟩

/-- It is enough to look at what becomes known. -/
theorem Change.staysNamed {scope : Scope library} (hchange : session.Change scope session')
    (hnew : session.CallbacksNamed library.decls → ∀ key conversion,
      session.registry.get? key = none → session'.registry.get? key = some conversion →
      conversion.inward = .register → library.decls.NamesCallback key) :
    session.StaysNamed library.decls session' := by
  refine ⟨hchange.extends, fun hnamed key conversion hget hi => ?_⟩
  rcases hchange.extends.known_or_new hget with hknown | hn
  · exact hnamed key conversion hknown hi
  · exact hnew hnamed key conversion hn hget hi

/-- Most changes are of other things. -/
theorem Change.staysNamed_of_eq {scope : Scope library} (hchange : session.Change scope session')
    (he : session'.registry = session.registry) : session.StaysNamed library.decls session' := by
  refine hchange.staysNamed fun _ key conversion hn hget => ?_
  rw [he, hn] at hget
  cases hget

/-- What is learned to be registered is a pointer to a function. -/
theorem Learns.namesCallback {scope : Scope library} {key : String} {conversion : Conversion}
    (hl : session.Learns scope key conversion) (hi : conversion.inward = .register) :
    library.decls.NamesCallback key := by
  cases hl with
  | @callback pointee isConst signature hf =>
      cases pointee with
      | function signature => exact .signature signature isConst
      | _ => cases hf
  | _ => exact absurd hi (inward_between _ _)

/-- What a typedef takes over is registered only under the keys of callbacks. -/
theorem CallbacksNamed.typedef (hnamed : session.CallbacksNamed library.decls) {name : String}
    {underlying : CType} {added : Conversion} (hr : library.decls.records.get? name = none)
    (ht : library.decls.typedefs.get? name = some underlying)
    (henum : library.decls.isEnum (.named name) = false)
    (hanswer : session.AnswersByName library.decls underlying.spelling added) {key : String}
    {conversion : Conversion} (hn : session.registry.get? key = none)
    (hget : ((session.addConversion name added).shareWithAlias name
      underlying.spelling).registry.get?
      key = some conversion) (hi : conversion.inward = .register) :
    library.decls.NamesCallback key := by
  have hname : ∀ {conversion : Conversion}, added = conversion → conversion.inward = .register →
      library.decls.NamesCallback name := fun he hi =>
    .typedef hr ht henum (hanswer hnamed (he ▸ hi))
  obtain ⟨aliases, -, he | ⟨pointers, hp, he⟩⟩ :=
    (session.addConversion name added).shareWithAlias_cases name underlying.spelling
  · rw [he] at hget
    obtain ⟨rfl, hadded⟩ := eq_of_get?_addConversion hn hget
    exact hname hadded hi
  · rw [he] at hget
    rcases eq_of_get?_addConversions hn hget with ⟨rfl, hadded⟩ | ⟨rfl, rfl⟩
    · exact hname hadded hi
    · -- What pointers to the typedef take over may have come with the typedef itself.
      refine .typedefPointer hr ht henum ?_
      cases hknown : session.registry.get? (underlying.spelling ++ " *") with
      | some known =>
          have hstays :=
            Table.get?_of_initial (session.grows_addConversion name added).registry hknown
          rw [hp] at hstays
          exact hnamed _ _ hknown (Option.some.inj hstays ▸ hi)
      | none =>
          obtain ⟨hsame, hadded⟩ := eq_of_get?_addConversion hknown hp
          exact hsame ▸ hname hadded hi

/-- What resolving itself adds is registered only under the keys of callbacks. -/
theorem staysNamed_allows (library : Library) (scope : Scope library) :
    AllowsAnswered scope
      (fun session type conversion => session.AnswersByName library.decls type.spelling conversion)
      (scope.Guarded (StaysNamed library.decls)) where
  learn := fun session other added hl => by
    have hadd : session.Addition scope (session.addConversion other added) := .learn hl
    refine Scope.guarded_of_addition hadd ((Change.add hadd).staysNamed
      fun _ key conversion hn hget hi => ?_)
    obtain ⟨rfl, rfl⟩ := eq_of_get?_addConversion hn hget
    exact hl.namesCallback hi
  array := fun before session element length added he _ hbefore => by
    have hadd : session.Addition scope (session.writeArray element length added) :=
      .array _ _ he (isArrayKey_arrayKey element length)
    refine trans_of _ hbefore (Scope.guarded_of_addition hadd ((Change.add hadd).staysNamed
      fun _ key conversion hn hget hi => ?_))
    -- The converters are written before the conversion is added.
    have hunknown : (session.emit (.arrayConverter
        (.ofElement element length added))).registry.get? key = none := hn
    obtain ⟨-, rfl⟩ := eq_of_get?_addConversion hunknown hget
    exact absurd hi (inward_between _ _)
  typedef := fun session name underlying added hr ht henum hanswer => by
    have hadd : session.Addition scope _ := .typedef added hr ht
    exact Scope.guarded_of_addition hadd ((Change.add hadd).staysNamed
      fun hnamed _ _ hn hget hi => hnamed.typedef hr ht henum hanswer hn hget hi)

/-- A record is converted by functions. -/
theorem staysNamed_allowsBinding (library : Library) (scope : Scope library) :
    AllowsBinding scope (StaysNamed library.decls) := by
  refine .of_changes Change.staysNamed_of_eq fun session typedef members hm hn => ?_
  refine (Change.commit typedef hm hn).staysNamed fun _ key conversion hunknown hget hi => ?_
  rw [commit_eq] at hget
  rcases eq_of_get?_addConversions hunknown hget with ⟨-, rfl⟩ | ⟨-, rfl⟩
  · cases hi
  · exact absurd hi (inward_between _ _)

/-- Binding keeps to it that only callbacks are registered. -/
theorem staysNamed_carries (library : Library) (scope : Scope library) :
    scope.Carries (StaysNamed library.decls) :=
  have hallows := staysNamed_allows library scope
  .of_allows hallows.toAllowsLearning
    (fun ha hs => (Change.add ha).staysNamed_of_eq hs.registry)
    fun levels => (bindersWithin_keepAnswered bindersWithin_answersFor
      (foreknown_true library) hallows (staysNamed_allowsBinding library scope).known levels).parts

/-- Between operations only callbacks are registered. -/
theorem Performed.callbacksNamed {scope : Scope library} (hs : session.Performed scope) :
    session.CallbacksNamed library.decls :=
  ((staysNamed_carries library scope).performed hs).named (callbacksNamed_start _ _)

end Session

namespace Declarations

variable {decls : Declarations} {type : CType}

/-- What ends like a function, or like a pointer to one, is one. -/
theorem isSome_functionPointer_of_ending (h : type.ending = some ')') :
    (decls.functionPointer type).isSome := by
  cases type with
  | pointer pointee isConst =>
      cases pointee with
      | function signature => rfl
      | _ => cases h
  | function signature => rfl
  | _ => cases h

/-- The key of a callback ends with a parenthesis or with a word. -/
theorem OfC.lastOf_callbackKey (h : decls.OfC) {key : String} (hk : decls.NamesCallback key) :
    ∃ c, lastOf key = some c ∧ (c = ')' ∨ Text.isWordChar c) := by
  induction hk with
  | signature signature isConst =>
      exact ⟨')', lastOf_callback (functionPointer_pointer decls signature isConst), .inl rfl⟩
  | typedef _ ht =>
      obtain ⟨c, hlast, hword⟩ := h.lastOf_typedef ht
      exact ⟨c, hlast, .inr hword⟩
  | typedefPointer _ _ _ _ ih =>
      -- So no star can be taken over to begin with.
      obtain ⟨c, hlast, hc⟩ := ih
      rw [lastOf_star] at hlast
      rw [← Option.some.inj hlast] at hc
      exact absurd hc (by decide)

/-- What ends in another way is not the key of a callback. -/
theorem OfC.not_namesCallback (h : decls.OfC) {key : String} {c : Char}
    (hlast : lastOf key = some c) (hc : ¬(c = ')' ∨ Text.isWordChar c)) :
    ¬decls.NamesCallback key := by
  intro hk
  obtain ⟨d, hd, hend⟩ := h.lastOf_callbackKey hk
  rw [hlast] at hd
  exact hc (Option.some.inj hd ▸ hend)

/-- A type that is spelled like a typedef is that typedef, or else the typedef has the name
    of a type of the language. -/
theorem eq_named_of_spelling (ht : type.isOfC) {name : String} (hn : Text.isIdentifier name)
    (hs : type.spelling = name) : type = .named name ∨ isTypeName name = false := by
  obtain ⟨c, hlast, hword⟩ := lastOf_identifier hn
  obtain ⟨d, hd, hend⟩ := lastOf_spelling ht
  rw [hs, hlast] at hd
  rw [← Option.some.inj hd, hword, if_pos rfl] at hend
  cases type with
  | void =>
      rw [← hs]
      exact .inr (by rw [CType.spelling, CType.spell]; decide)
  | builtin other =>
      rw [CType.spelling, CType.spell] at hs
      rw [CType.isOfC, hs] at ht
      refine .inr ?_
      rw [isTypeName, List.contains_cons, ht, Bool.or_true, Bool.not_true, Bool.and_false]
  | named other => exact .inl (by rw [← hs, spelling_named])
  | tagged kind tag =>
      rw [CType.spelling, CType.spell] at hs
      exact absurd hs.symm (ne_keyed_of_isIdentifier hn kind.keyword tag)
  | enumeration tag =>
      rw [CType.spelling, CType.spell] at hs
      exact absurd hs.symm (ne_keyed_of_isIdentifier hn "enum" tag)
  | _ => cases hend

/-- A type of C that goes by the name of a callback is one, if no typedef of a callback has
    the name of a type of the language or stands for it through too many others. -/
theorem OfC.functionPointer_of_namesCallback (h : decls.OfC)
    (hname : ∀ row ∈ decls.typedefs.rows, (decls.functionPointer row.2).isSome → isTypeName row.1)
    (hlinks : ∀ row ∈ decls.typedefs.rows, decls.linksWithin aliasLimit (.named row.1))
    (ht : type.isOfC) (hk : decls.NamesCallback type.spelling) :
    (decls.functionPointer type).isSome := by
  generalize hs : type.spelling = key at hk
  induction hk generalizing type with
  | signature signature isConst =>
      obtain ⟨c, hlast, hend⟩ := lastOf_spelling ht
      rw [hs, lastOf_callback (functionPointer_pointer decls signature isConst)] at hlast
      rw [← Option.some.inj hlast] at hend
      exact isSome_functionPointer_of_ending hend
  | @typedef name underlying _ htypedef _ _ ih =>
      have hm := Table.mem_of_get? htypedef
      have hunderlying := ih (h.typedefType _ hm) rfl
      rcases eq_named_of_spelling ht (h.typedefName _ hm) hs with rfl | hlanguage
      · rwa [functionPointer_typedef htypedef (hlinks _ hm)]
      · rw [hname _ hm hunderlying] at hlanguage
        cases hlanguage
  | typedefPointer _ _ _ hpointer =>
      exact absurd hpointer (h.not_namesCallback (lastOf_star _) (by decide))

end Declarations

end ScriptBind
