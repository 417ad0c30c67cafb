import ScriptBind.Proofs.CallbackKeys
import ScriptBind.Proofs.FunctionNotes

/-!
# Callbacks Never Cost a Function

A callback that cannot be registered is passed to C as it is, and a diagnostic says so.
The function is wrapped all the same. What keeps a function from being wrapped is that it
takes arguments it does not name, or that a type of its own has no conversion.

This is plain for the parameters that are function pointers, where the failure is looked
at. For all others it depends on what is registered at all: their conversions are applied
without looking, and they would fail if they were those of callbacks. They are not, unless
a type that is no function pointer goes by the name of one.

## Main definitions

* `CFunction.FailsBy`: What keeps a function from being wrapped.
* `CFunction.Unregistered`: A callback of a function that cannot be registered.
* `Library.Mistakes`: Types that go by the name of a callback and are none.

## Theorems

* `wrapArguments_fails`: Arguments fail by their types only.
* `wrapFunction_fails`, `FailsBy.outcome`: So do functions, and what is said to keep one from
  being wrapped does.
* `wrapFunction_unregistered`: A callback that cannot be registered is passed as it is.
* `callbacks_spare_functions`: Functions are wrapped whatever becomes of their callbacks.
-/

namespace ScriptBind

open BindM

/-- A type that is no function pointer, though it goes by the name of one. -/
def Library.Mistakes (library : Library) (type : CType) : Prop :=
  library.decls.functionPointer type = none ∧ library.decls.NamesCallback (paramKey type)

/-- A function is being wrapped, and the arguments for its first parameters are on their way
    to C. -/
def CFunction.Converts (function : CFunction) (library : Library) (session : Session)
    (front : List Parameter) (arguments : List Argument) (session' : Session) : Prop :=
  function.isVariadic = false ∧
    (wrapArguments function.name (namedParams function) 0 front).outcome library session =
      some (.ok arguments, session')

/-- What keeps a function from being wrapped: it takes arguments that it does not name, or
    a type of its own cannot be resolved when its turn comes. -/
inductive CFunction.FailsBy (function : CFunction) (library : Library) (session : Session) :
    BindError → Session → Prop where
  /-- It is variadic. -/
  | variadic : function.isVariadic → FailsBy function library session .variadicFunction session
  /-- A parameter has no conversion. -/
  | parameter {front back : List Parameter} {param : Parameter} {arguments : List Argument}
      {before after : Session} {error : BindError} :
      namedParams function = front ++ param :: back →
      function.Converts library session front arguments before →
      (resolveParam param.type).outcome library before = some (.error error, after) →
      FailsBy function library session (error.within s!"function `{function.name}`") after
  /-- What it returns has none. -/
  | result {arguments : List Argument} {before after : Session} {error : BindError} :
      function.Converts library session (namedParams function) arguments before →
      function.result.isVoid = false →
      (resolveResult function).outcome library before = some (.error error, after) →
      FailsBy function library session (error.within s!"function `{function.name}`") after

/-- The callback for the parameter at an index cannot be registered when its turn comes. -/
inductive CFunction.Unregistered (function : CFunction) (library : Library) (session : Session) :
    Nat → Parameter → BindError → Prop where
  | turn {front back : List Parameter} {param : Parameter} {arguments : List Argument}
      {before after failed : Session} {conversion : Conversion} {reason : BindError} :
      namedParams function = front ++ param :: back →
      function.Converts library session front arguments before →
      (resolveParam param.type).outcome library before = some (.ok conversion, after) →
      (library.decls.functionPointer param.type).isSome →
      (convertInward conversion (argumentSite function.name (namedParams function) front.length
        param)).outcome library after = some (.error reason, failed) →
      Unregistered function library session front.length param reason

variable {library : Library} {session : Session}

section Failing

/-- A callback is registered or passed as it is. -/
theorem wrapCallback_succeeds (function : String) (conversion : Conversion) (site : Site)
    (param : Parameter) :
    Ensures True library (wrapCallback function conversion site param) session
      fun result _ => ∃ argument, result = .ok argument := by
  rw [wrapCallback, ensures_bind, ensures_attempt]
  refine ensures_of_forall (fun result session' => ?_) trivial
  cases result with
  | ok value => exact ⟨_, rfl⟩
  | error error => exact ⟨_, rfl⟩

/-- A value that is not registered gets to C. -/
theorem convertInward_of_ne {conversion : Conversion} (hi : conversion.inward ≠ .register)
    (site : Site) : ∃ value, convertInward conversion site = pure value := by
  rw [convertInward, convertWith]
  cases hinward : conversion.inward with
  | apply converter => exact ⟨_, rfl⟩
  | register => exact absurd hinward hi

/-- An argument fails by its type only, if this is not mistaken for that of a callback. -/
theorem wrapArgument_fails (hnamed : session.CallbacksNamed library.decls) (function : String)
    (params : List Parameter) (index : Nat) {param : Parameter}
    (hm : ¬library.Mistakes param.type) :
    Ensures True library (wrapArgument function params index param) session
      fun result session' => ∀ error, result = .error error → ∃ reason,
        (resolveParam param.type).outcome library session = some (.error reason, session') ∧
        error = reason.within s!"function `{function}`" := by
  have hkeeps : Keeps library (Session.StaysNamed library.decls) (resolveParam param.type) :=
    Scope.keeps_all.1 ((Session.staysNamed_carries library _).types.resolveParam trivial)
  rw [wrapArgument, ensures_bind, ensures_within]
  refine (((hkeeps session).and (resolveParam_answersFor param.type)).and
    (ensures_outcome library _ session)).mono fun result session' hall => ?_
  obtain ⟨⟨hstays, hanswer⟩, ho⟩ := hall
  cases result with
  | error reason =>
      intro error he
      exact ⟨reason, ho, (Except.error.inj he).symm⟩
  | ok conversion =>
      show Ensures True library (_ >>= _) session' _
      rw [ensures_bind, ensures_look]
      dsimp only
      split
      · refine (wrapCallback_succeeds function conversion _ param).mono fun result _ hall => ?_
        obtain ⟨argument, rfl⟩ := hall
        intro error he
        cases he
      · next hf =>
          -- The conversion is not that of a callback, so it is by a function.
          have hi : conversion.inward ≠ .register := fun hi =>
            hm ⟨Option.not_isSome_iff_eq_none.1 hf, hanswer conversion rfl (hstays.named hnamed) hi⟩
          obtain ⟨value, hvalue⟩ :=
            convertInward_of_ne hi (argumentSite function params index param)
          rw [hvalue]
          intro error he
          cases he

/-- Arguments fail by the type of one of them, those in front of it being on their way. -/
theorem wrapArguments_fails (hnamed : session.CallbacksNamed library.decls) (function : String)
    (params : List Parameter) (index : Nat) {rest : List Parameter}
    (hm : ∀ param ∈ rest, ¬library.Mistakes param.type) :
    Ensures True library (wrapArguments function params index rest) session
      fun result session' => ∀ error, result = .error error →
        ∃ front param back arguments before reason, rest = front ++ param :: back ∧
          (wrapArguments function params index front).outcome library session =
            some (.ok arguments, before) ∧
          (resolveParam param.type).outcome library before = some (.error reason, session') ∧
          error = reason.within s!"function `{function}`" := by
  induction rest generalizing index session with
  | nil =>
      intro error he
      cases he
  | cons param rest ih =>
      have hkeeps : Keeps library (Session.StaysNamed library.decls)
          (wrapArgument function params index param) :=
        Scope.keeps_all.1 ((Session.staysNamed_carries library _).types.wrapArgument _ _ _ trivial)
      rw [wrapArguments, ensures_bind]
      refine (((hkeeps session).and (wrapArgument_fails hnamed function params index
        (hm param (List.mem_cons_self ..)))).and (ensures_outcome library _ session)).mono
        fun result session₁ hall => ?_
      obtain ⟨⟨hstays, hfails⟩, hfirst⟩ := hall
      cases result with
      | error error =>
          intro other ho
          obtain ⟨reason, hreason, he⟩ := hfails error rfl
          exact ⟨[], param, rest, [], session, reason, rfl, rfl, hreason, Except.error.inj ho ▸ he⟩
      | ok argument =>
          dsimp only
          rw [ensures_bind]
          refine (ih (hstays.named hnamed) (index + 1)
            fun other ho => hm other (List.mem_cons_of_mem _ ho)).mono
              fun result session₂ hrest => ?_
          cases result with
          | error error =>
              intro other ho
              obtain ⟨front, failing, back, arguments, before, reason, hsplit, hfront,
                  hreason, he⟩ :=
                hrest error rfl
              refine ⟨param :: front, failing, back, argument :: arguments, before, reason,
                by rw [hsplit, List.cons_append], ?_, hreason, Except.error.inj ho ▸ he⟩
              rw [wrapArguments, outcome_bind, hfirst]
              dsimp only
              rw [outcome_bind, hfront]
              rfl
          | ok arguments =>
              intro other ho
              cases ho

/-- A function is kept from being wrapped by its types only, if none of them is mistaken
    for that of a callback. -/
theorem wrapFunction_fails (hnamed : session.CallbacksNamed library.decls) {function : CFunction}
    (hm : ∀ param ∈ namedParams function, ¬library.Mistakes param.type) :
    Ensures True library (wrapFunction function) session
      fun result session' => ∀ error, result = .error error →
        function.FailsBy library session error session' := by
  rw [wrapFunction]
  split
  · next hvariadic =>
      intro error he
      rw [← Except.error.inj he]
      exact .variadic hvariadic
  · next hvariadic =>
    have hvariadic := Bool.eq_false_iff.2 hvariadic
    dsimp only
    rw [ensures_bind]
    refine ((wrapArguments_fails hnamed function.name (namedParams function) 0 hm).and
      (ensures_outcome library _ session)).mono fun result session₁ hall => ?_
    obtain ⟨hfails, harguments⟩ := hall
    cases result with
    | error error =>
        intro other ho
        obtain ⟨front, param, back, arguments, before, reason, hsplit, hfront, hreason, he⟩ :=
          hfails error rfl
        rw [← Except.error.inj ho, he]
        exact .parameter hsplit ⟨hvariadic, hfront⟩ hreason
    | ok arguments =>
        dsimp only
        rw [ensures_bind, wrapResult]
        split
        · intro error he
          cases he
        · next hvoid =>
          rw [ensures_bind, ensures_within]
          refine (ensures_outcome library _ session₁).mono fun result session₂ hresult => ?_
          cases result with
          | error reason =>
              intro error he
              rw [← Except.error.inj he]
              exact .result ⟨hvariadic, harguments⟩ (Bool.eq_false_iff.2 hvoid) hresult
          | ok conversion =>
              intro error he
              cases he

end Failing

section PassingOn

/-- The arguments after the first ones are counted from where these end. -/
theorem wrapArguments_append (function : String) (params : List Parameter) (index : Nat)
    (front rest : List Parameter) :
    wrapArguments function params index (front ++ rest) = do
      let arguments ← wrapArguments function params index front
      let others ← wrapArguments function params (index + front.length) rest
      return arguments ++ others := by
  induction front generalizing index with
  | nil => simp [wrapArguments]
  | cons param front ih =>
      have hindex : index + 1 + front.length = index + (param :: front).length := by
        rw [List.length_cons]
        omega
      simp [wrapArguments, ih, hindex]

/-- The arguments of a function, at the turn of one of its parameters. -/
theorem wrapArguments_split {function : CFunction} {front back : List Parameter}
    {param : Parameter} (hsplit : namedParams function = front ++ param :: back) :
    wrapArguments function.name (namedParams function) 0 (namedParams function) = do
      let arguments ← wrapArguments function.name (namedParams function) 0 front
      let others ← wrapArguments function.name (namedParams function) front.length (param :: back)
      return arguments ++ others := by
  have happend := wrapArguments_append function.name (namedParams function) 0 front (param :: back)
  rwa [← hsplit, Nat.zero_add] at happend

/-- What is said to keep a function from being wrapped does. -/
theorem CFunction.FailsBy.outcome {function : CFunction} {error : BindError} {session' : Session}
    (h : function.FailsBy library session error session') :
    (wrapFunction function).outcome library session = some (.error error, session') := by
  have hensures : Ensures False library (wrapFunction function) session
      fun result last => result = .error error ∧ last = session' := by
    cases h with
    | variadic hvariadic =>
        rw [wrapFunction, if_pos hvariadic]
        exact ⟨rfl, rfl⟩
    | parameter hsplit hfront hresolve =>
        rw [wrapFunction, if_neg (Bool.eq_false_iff.1 hfront.1)]
        dsimp only
        rw [ensures_bind, wrapArguments_split hsplit, ensures_bind]
        refine ensures_of_outcome hfront.2 ?_
        dsimp only
        rw [ensures_bind, wrapArguments, ensures_bind, wrapArgument, ensures_bind, ensures_within]
        exact ensures_of_outcome hresolve ⟨rfl, rfl⟩
    | result hall hvoid hresolve =>
        rw [wrapFunction, if_neg (Bool.eq_false_iff.1 hall.1)]
        dsimp only
        rw [ensures_bind]
        refine ensures_of_outcome hall.2 ?_
        dsimp only
        rw [ensures_bind, wrapResult, if_neg (Bool.eq_false_iff.1 hvoid), ensures_bind,
          ensures_within]
        exact ensures_of_outcome hresolve ⟨rfl, rfl⟩
  obtain ⟨result, last, ho, rfl, rfl⟩ := hensures.exists_outcome
  exact ho

/-- A callback that cannot be registered is passed as it is, and a diagnostic says so. -/
theorem wrapArgument_unregistered {endless : Prop} {function : String} {params : List Parameter}
    {index : Nat} {param : Parameter} {conversion : Conversion} {reason : BindError}
    {after failed : Session} {post : Except BindError Argument → Session → Prop}
    (hresolve : (resolveParam param.type).outcome library session = some (.ok conversion, after))
    (hf : (library.decls.functionPointer param.type).isSome)
    (hregister : (convertInward conversion (argumentSite function params index param)).outcome
      library after = some (.error reason, failed))
    (h : post (.ok ⟨param, true, .call "mp_to_ptr" s!"mp_args[{index}]"⟩)
      (failed.reject (argumentDiagnostic function param reason))) :
    Ensures endless library (wrapArgument function params index param) session post := by
  rw [wrapArgument, ensures_bind, ensures_within]
  refine ensures_of_outcome hresolve ?_
  show Ensures endless library (_ >>= _) after post
  rw [ensures_bind, ensures_look]
  dsimp only
  rw [if_pos hf, wrapCallback, ensures_bind, ensures_attempt]
  refine ensures_of_outcome hregister ?_
  dsimp only
  rw [ensures_bind, ensures_update]
  exact ensures_pure.2 h

/-- The code for a callback that is passed as it is. -/
theorem statement_passedOn (param : Parameter) (index : Nat) :
    Argument.statement ⟨param, true, .call "mp_to_ptr" s!"mp_args[{index}]"⟩ =
      s!"void *{param.name} = mp_to_ptr(mp_args[{index}]);" := by
  have hopen : " = mp_to_ptr(mp_args[" = " = " ++ ("mp_to_ptr" ++ ("(" ++ "mp_args[")) := by decide
  have hclose : "]);" = "]" ++ (")" ++ ";") := by decide
  show "void *" ++ param.name ++ " = " ++
      ("mp_to_ptr" ++ "(" ++ ("mp_args[" ++ toString index ++ "]") ++ ")") ++ ";" =
    "void *" ++ param.name ++ " = mp_to_ptr(mp_args[" ++ toString index ++ "]);"
  rw [hopen, hclose]
  simp only [String.append_assoc]

/-- The sessions that lead to the diagnostic for a callback, and those after it. -/
theorem diagnostics_of_extends {failed later : Session} {diagnostic : Diagnostic}
    (hfailed : session.Extends failed) (hlater : (failed.reject diagnostic).Extends later) :
    ∃ added, later.diagnostics = session.diagnostics ++ added ∧ diagnostic ∈ added := by
  obtain ⟨before, hbefore⟩ := hfailed.diagnostics
  obtain ⟨after, hafter⟩ := hlater.diagnostics
  refine ⟨before ++ [diagnostic] ++ after, ?_, by simp⟩
  have hreject : (failed.reject diagnostic).diagnostics = failed.diagnostics ++ [diagnostic] := rfl
  rw [← hafter, hreject, ← hbefore, List.append_assoc, List.append_assoc, List.append_assoc]

/-- The function gets its wrapper with the callback passed as it is, if it gets one, and
    in any case the diagnostic is there. -/
theorem wrapFunction_unregistered {function : CFunction} {index : Nat} {param : Parameter}
    {reason : BindError} (h : function.Unregistered library session index param reason) :
    Ensures True library (wrapFunction function) session fun result session' =>
      (∃ added, session'.diagnostics = session.diagnostics ++ added ∧
        argumentDiagnostic function.name param reason ∈ added) ∧
      ∀ wrapped, result = .ok wrapped → ∃ wrapper : Wrapper, wrapper.function = function ∧
        session'.body.getLast? = some (.wrapper wrapper) ∧
        (wrapper.arguments[index]?).map Argument.statement =
          some s!"void *{param.name} = mp_to_ptr(mp_args[{index}]);" := by
  obtain @⟨front, back, _, arguments, before, after, failed, conversion, _, hsplit,
    ⟨hvariadic, hfront⟩, hresolve, hf, hregister⟩ := h
  have hcarries := (Session.staysNamed_carries library (Scope.all library)).types
  have hextends : ∀ {α : Type} {action : BindM α},
      Keeps library ((Scope.all library).Guarded (Session.StaysNamed library.decls)) action →
      ∀ session, Ensures True library action session fun _ session' => session.Extends session' :=
    fun hk session => (Scope.keeps_all.1 hk session).mono fun _ _ hstays => hstays.later
  have hfailed : session.Extends failed :=
    trans_of Session.Extends
      ((hextends (hcarries.wrapArguments _ _ _ fun _ _ => trivial) session).of_outcome hfront)
      (trans_of Session.Extends
        ((hextends (hcarries.resolveParam trivial) before).of_outcome hresolve)
        ((hextends (Scope.CarriesTypes.convertWith (hcarries.registerCallable trivial) conversion)
          after).of_outcome hregister))
  have hlength : arguments.length = front.length := by
    rw [← (wrapArguments_params library _ _ _ _ session).of_outcome hfront arguments rfl,
      List.length_map]
  rw [wrapFunction, if_neg (Bool.eq_false_iff.1 hvariadic)]
  dsimp only
  rw [ensures_bind, wrapArguments_split hsplit, ensures_bind]
  refine ensures_of_outcome hfront ?_
  dsimp only
  rw [ensures_bind, wrapArguments, ensures_bind]
  refine wrapArgument_unregistered hresolve hf hregister ?_
  dsimp only
  rw [ensures_bind]
  -- What comes after the callback adds to the diagnostic, whether or not it succeeds.
  refine (hextends (hcarries.wrapArguments _ _ _ fun _ _ => trivial) _).mono
    fun result session₁ hrest => ?_
  cases result with
  | error error =>
      refine ⟨diagnostics_of_extends hfailed hrest, fun wrapped he => ?_⟩
      cases he
  | ok others =>
      show Ensures True library (wrapResult function >>= _) session₁ _
      rw [ensures_bind]
      refine (hextends (hcarries.wrapResult trivial) session₁).mono
        fun result session₂ hresult => ?_
      have hlater := trans_of Session.Extends hrest hresult
      cases result with
      | error error =>
          refine ⟨diagnostics_of_extends hfailed hlater, fun wrapped he => ?_⟩
          cases he
      | ok value =>
          dsimp only
          rw [ensures_bind, ensures_update, ensures_pure]
          obtain ⟨added, hadded, hm⟩ := diagnostics_of_extends hfailed hlater
          refine ⟨⟨added, hadded, hm⟩, fun wrapped _ =>
            ⟨⟨function, _, value⟩, rfl, List.getLast?_concat, ?_⟩⟩
          dsimp only
          rw [List.getElem?_append_right (Nat.le_of_eq hlength), hlength, Nat.sub_self]
          exact congrArg some (statement_passedOn param front.length)

end PassingOn

/-- A first argument cannot be registered: it has to lead to the slot. -/
theorem registerCallable_leading {site : Site}
    (hf : (library.decls.functionPointer site.type).isSome)
    (hglobal : library.naming.isGlobalCallback site.type.spelling = false) (hi : site.index = 0) :
    (registerCallable site).outcome library session =
      some (.error (.leadingCallback (callbackName site.ownerName site.name)), session) := by
  obtain ⟨signature, hsignature⟩ := Option.isSome_iff_exists.1 hf
  have hread : outcome (read : BindM Library) library session = some (.ok library, session) := rfl
  rw [registerCallable, registerWith, outcome_bind, hread]
  dsimp only
  rw [hsignature]
  dsimp only
  rw [hglobal, hi]
  rfl

/-- A parameter of C is not mistaken for a callback. -/
theorem Declarations.OfC.not_mistakes (hc : library.decls.OfC)
    (hname : ∀ row ∈ library.decls.typedefs.rows,
      (library.decls.functionPointer row.2).isSome → isTypeName row.1)
    (hlinks : ∀ row ∈ library.decls.typedefs.rows,
      library.decls.linksWithin aliasLimit (.named row.1)) {type : CType} (ht : type.isOfC) :
    ¬library.Mistakes type := by
  rintro ⟨hf, hk⟩
  have hspelling : ¬library.decls.NamesCallback type.spelling := fun hk => by
    have hsome := hc.functionPointer_of_namesCallback hname hlinks ht hk
    rw [hf] at hsome
    cases hsome
  cases type with
  | array element length =>
      cases length with
      | zero => exact hc.not_namesCallback (lastOf_array (.inr rfl)) (by decide) hk
      | succ length => exact absurd hk hspelling
  | _ => exact absurd hk hspelling

/-- Functions are wrapped whatever becomes of their callbacks. What keeps one from being
    wrapped is that it is variadic, that a type of its own has no conversion, or that a
    parameter which is no function pointer goes by the name of one; the first two always do,
    and where names are those of C, there is nothing of the last kind. A callback that cannot
    be registered is passed as it is and leaves a diagnostic. -/
theorem callbacks_spare_functions (hs : session.Performed (Scope.all library))
    (function : CFunction) :
    (∀ error session',
      (wrapFunction function).outcome library session = some (.error error, session') →
      function.FailsBy library session error session' ∨
        ∃ param ∈ namedParams function, library.Mistakes param.type) ∧
    (∀ error session', function.FailsBy library session error session' →
      (wrapFunction function).outcome library session = some (.error error, session')) ∧
    (library.isPatient = false →
      ∃ result session', (wrapFunction function).outcome library session =
        some (result, session')) ∧
    (∀ index param reason, function.Unregistered library session index param reason →
      ∀ result session',
        (wrapFunction function).outcome library session = some (result, session') →
        (∃ added, session'.diagnostics = session.diagnostics ++ added ∧
          ∃ diagnostic ∈ added, diagnostic.kind = .callback ∧
            diagnostic.name = s!"{function.name}.{param.name}" ∧
            diagnostic.reason = reason.message) ∧
        ∀ wrapped, result = .ok wrapped → ∃ wrapper : Wrapper, wrapper.function = function ∧
          session'.body.getLast? = some (.wrapper wrapper) ∧
          (wrapper.arguments[index]?).map Argument.statement =
            some s!"void *{param.name} = mp_to_ptr(mp_args[{index}]);") ∧
    (library.decls.OfC →
      (∀ row ∈ library.decls.typedefs.rows,
        (library.decls.functionPointer row.2).isSome → isTypeName row.1) →
      (∀ row ∈ library.decls.typedefs.rows, library.decls.linksWithin aliasLimit (.named row.1)) →
      (∀ param ∈ function.params, param.type.isOfC) →
      ∀ param ∈ namedParams function, ¬library.Mistakes param.type) := by
  refine ⟨fun error session' ho => ?_, fun error session' h => h.outcome, fun hl => ?_,
    fun index param reason h result session' ho => ?_, fun hc hname hlinks hparams param hm => ?_⟩
  · by_cases hmistaken : ∃ param ∈ namedParams function, library.Mistakes param.type
    · exact .inr hmistaken
    · refine .inl ((wrapFunction_fails hs.callbacksNamed fun param hm hmistakes => ?_).of_outcome ho
        error rfl)
      exact hmistaken ⟨param, hm, hmistakes⟩
  · obtain ⟨result, session', ho, -⟩ :=
      ((completes_impatient hl).wrapFunction function session trivial).exists_outcome
    exact ⟨result, session', ho⟩
  · obtain ⟨⟨added, hadded, hm⟩, hwrapped⟩ := (wrapFunction_unregistered h).of_outcome ho
    exact ⟨⟨added, hadded, _, hm, rfl, rfl, rfl⟩, hwrapped⟩
  · refine hc.not_mistakes hname hlinks ?_
    obtain ⟨given, hgiven, ht⟩ := CFunction.exists_param_of_named hm
    exact ht ▸ hparams given hgiven

/-- A library of tasks, with callbacks known by a typedef. -/
def taskLibrary : Library where
  decls :=
    { typedefs := .ofRows
        [("task_cb_t", .pointerTo (.function ⟨.void, [.pointerTo .void], false⟩))] }
  naming := { moduleName := "m", scope := "m" }

/-- A function that takes a callback first. -/
def createTask : CFunction :=
  ⟨"task_create", .void, [⟨"cb", .named "task_cb_t"⟩, ⟨"priority", .builtin "int"⟩], false⟩

set_option maxRecDepth 100000 in
/-- None of its types is mistaken for a callback. The callback is passed as it is, and the
    function is wrapped. -/
theorem createTask_spared :
    (∀ param ∈ namedParams createTask, ¬taskLibrary.Mistakes param.type) ∧
    ∃ wrapped session',
      (wrapFunction createTask).outcome taskLibrary (.start taskLibrary.naming) =
        some (.ok wrapped, session') ∧
      (∃ diagnostic ∈ session'.diagnostics, diagnostic.kind = .callback ∧
        diagnostic.name = "task_create.cb") ∧
      ∃ wrapper : Wrapper, session'.body.getLast? = some (.wrapper wrapper) ∧
        (wrapper.arguments[0]?).map Argument.statement =
          some "void *cb = mp_to_ptr(mp_args[0]);" := by
  let start := Session.start taskLibrary.naming
  let callback : Parameter := ⟨"cb", .named "task_cb_t"⟩
  obtain ⟨-, -, -, hpasses, hnames⟩ := callbacks_spare_functions
    (Session.Performed.start : start.Performed (Scope.all taskLibrary)) createTask
  have hresolved : ((resolveParam callback.type).run "" taskLibrary start).1.toOption =
      some .callback := by
    decide +kernel
  have hwrapped : ((wrapFunction createTask).run "" taskLibrary start).1.toOption.isSome := by
    decide +kernel
  have hlocal : taskLibrary.naming.isGlobalCallback callback.type.spelling = false := by
    decide +kernel
  have hsplit : namedParams createTask = [] ++ callback :: [⟨"priority", .builtin "int"⟩] := rfl
  have hfront : createTask.Converts taskLibrary start [] [] start := ⟨rfl, rfl⟩
  have hunregistered : ∃ reason, createTask.Unregistered taskLibrary start 0 callback reason :=
    ⟨_, .turn hsplit hfront (outcome_of_toOption hresolved) rfl
      (registerCallable_leading rfl hlocal rfl)⟩
  obtain ⟨reason, hreason⟩ := hunregistered
  obtain ⟨wrapped, hwrapped⟩ := Option.isSome_iff_exists.1 hwrapped
  have ho := outcome_of_toOption hwrapped
  obtain ⟨⟨added, hadded, diagnostic, hm, hkind, hname, -⟩, hwrapper⟩ :=
    hpasses 0 callback reason hreason _ _ ho
  obtain ⟨wrapper, -, hlast, hstatement⟩ := hwrapper wrapped rfl
  refine ⟨hnames (.of_identifiers (by decide) (by decide) (by decide) (by decide)) (by decide)
    (by decide) (by decide), wrapped, _, ho, ⟨diagnostic, ?_, hkind, hname⟩, wrapper, hlast,
    hstatement⟩
  rw [hadded]
  exact List.mem_append_right _ hm

/-- A library that declares nothing. -/
def bareLibrary : Library where
  decls := {}
  naming := { moduleName := "m", scope := "m" }

/-- A function with a parameter whose type has a name that is none of C: it is spelled like
    a pointer to a function. -/
def misnamedTask : CFunction := ⟨"f", .void, [⟨"x", .named "void (*)(void)"⟩], false⟩

set_option maxRecDepth 100000 in
/-- Such a parameter costs the function, once there is a callback of that spelling: its type
    is resolved, but what it is resolved to cannot be registered. -/
theorem misnamedTask_fails :
    ¬∀ (library : Library) (session : Session), session.Performed (Scope.all library) →
      (∀ row ∈ library.decls.typedefs.rows, library.decls.linksWithin aliasLimit (.named row.1)) →
      ∀ (function : CFunction) (error : BindError) (session' : Session),
        (wrapFunction function).outcome library session = some (.error error, session') →
        function.FailsBy library session error session' := by
  intro hall
  let callback := CType.pointerTo (.function ⟨.void, [], false⟩)
  let session := (Operation.resolve callback).after bareLibrary (.start bareLibrary.naming)
  have hs : session.Performed (Scope.all bareLibrary) := .perform _ .start trivial
  have hresolved :
      ((resolveParam (.named "void (*)(void)")).run "" bareLibrary session).1.toOption =
      some .callback := by
    decide +kernel
  have hfailed : ((wrapFunction misnamedTask).outcome bareLibrary session).map
      (fun result => result.1.isOk) = some false := by
    decide +kernel
  obtain ⟨⟨result, session'⟩, ho, hresult⟩ := Option.map_eq_some_iff.1 hfailed
  cases result with
  | ok wrapped => cases hresult
  | error error =>
      cases hall bareLibrary session hs (by decide) misnamedTask error session' ho with
      | variadic hvariadic => cases hvariadic
      | @parameter front back param arguments before _ reason hsplit hfront hresolve =>
          have hparams : namedParams misnamedTask = [⟨"x", .named "void (*)(void)"⟩] := rfl
          rw [hparams] at hsplit
          cases front with
          | nil =>
              -- The only parameter is resolved in the session that the function begins with.
              obtain ⟨rfl, -⟩ := List.cons.inj hsplit
              cases hfront.2
              rw [outcome_of_toOption hresolved] at hresolve
              cases hresolve
          | cons first rest =>
              have hnil := (List.cons.inj hsplit).2
              cases rest <;> cases hnil
      | result _ hvoid => cases hvoid

end ScriptBind
