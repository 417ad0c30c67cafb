import ScriptBind.Proofs.TrampolineInvariants

/-!
# What Wrapping Functions Keeps Up

The wrapper of a function registers a callable only after its trampoline has
been written, and nothing of the wrapper is written before all of it is known.
So the trampolines that a wrapper passes on are in the code before it. An
argument that cannot be registered has been refused by a place of its name, or
stands where the value belongs that carries the context.

Here every trampoline may be written.

## Theorems

* `Upkeep.wrapCallback`: A callable is registered or left to the script.
* `Upkeep.wrapFunction`, `Upkeep.wrapOrReject`: A function gets its wrapper.
* `Upkeep.showGlobals`: The variables are shown.
* `Upkeep.bindPointerCell`: The cell for a pointer is bound.
-/

namespace ScriptBind

open BindM

namespace Upkeep

variable {library : Library} {pass : Pass library} {I : Upkeep pass} {session : Session}

/-- The property is kept and the code stays. -/
abbrev Extending (I : Upkeep pass) : Session → Session → Prop := I.Sparing fun _ => True

variable (I)

/-- A computation keeps the property and the code wherever it is run in the pass. -/
abbrev Extends {α : Type} (action : BindM α) : Prop :=
  KeepsMet library (fun _ => pass.Runs) I.Extending action

theorem resolveOpenArray_extends (element : CType) :
    I.Extends (ScriptBind.resolveOpenArray element) := fun session hrun =>
  ((I.resolveOpenArray element session hrun).and (resolveOpenArray_grows element session)).mono
    fun _ _ hall hs => ⟨hall.1 hs, hall.2.spares⟩

/-- The type of an argument is that of an array of unknown length, or any other. -/
theorem resolveParam (type : CType) : I.Extends (ScriptBind.resolveParam type) := by
  unfold ScriptBind.resolveParam
  split
  · exact I.resolveOpenArray_extends _
  · exact I.resolve_sparing _ _

theorem resolveResult (function : CFunction) : I.Extends (ScriptBind.resolveResult function) := by
  intro session hrun
  -- Where the name of the function does not count, its type does.
  have htype : (∀ pointee isConst, function.result = .pointer pointee isConst → pointee ≠ .void →
      (∀ signature, pointee ≠ .function signature) →
      library.naming.returnsArray function.name = false) →
      Ensures True library (ScriptBind.resolve function.result) session
        fun _ session' => I.Extending session session' :=
    fun hplain => I.resolve_sparing _ _ session (hrun.call (.resultType hplain))
  rw [ScriptBind.resolveResult, ensures_bind, ensures_look]
  dsimp only
  split
  · next signature isConst he =>
      rw [he] at htype
      exact htype fun pointee _ hp _ hf => absurd (CType.pointer.inj hp).1.symm (hf signature)
  · next isConst he =>
      rw [he] at htype
      exact htype fun pointee _ hp hv _ => absurd (CType.pointer.inj hp).1.symm hv
  · next pointee isConst hfunction hvoid he =>
      split
      · next harray =>
          exact I.resolveOpenArray_extends pointee session (hrun.call (.resultArray he hvoid
            hfunction harray))
      · next harray =>
          rw [he] at htype
          exact htype fun _ _ _ _ _ => Bool.eq_false_iff.2 harray
  · next hpointer =>
      exact htype fun pointee isConst hp => absurd hp (hpointer pointee isConst)

theorem wrapResult {function : CFunction}
    (hrun : function.result.isVoid = false →
      pass.Runs (ScriptBind.resolveResult function) session) :
    Ensures True library (ScriptBind.wrapResult function) session
      fun _ session' => I.Extending session session' := by
  rw [ScriptBind.wrapResult]
  split
  · exact refl_of I.Extending session
  · next hvoid =>
      rw [ensures_bind]
      refine ((I.resolveResult function session (hrun (Bool.eq_false_iff.2 hvoid))).within _).mono
        fun result session' hr => ?_
      cases result with
      | error error => exact hr
      | ok conversion => exact hr

/-- What a function returns is not registered. -/
theorem wrapResult_calls (library : Library) (function : CFunction) :
    Answers library (fun result => ∀ value, result = some value → Converted.callback? value = none)
      (ScriptBind.wrapResult function) := by
  unfold ScriptBind.wrapResult
  split
  · refine Answers.pure fun value hv => ?_
    cases hv
  · refine Answers.bind (Answers.any _) fun _ _ => Answers.pure fun value hv => ?_
    obtain rfl := Option.some.inj hv
    rfl

variable {I} (hopen : ∀ id, I.isOpen id)

include hopen

/-- A callable is registered, or left to the script with a diagnostic. -/
theorem wrapCallback {function : CFunction} (hf : function ∈ library.decls.functions) {index : Nat}
    {param : Parameter} (hp : (namedParams function)[index]? = some param)
    (hs : (library.decls.functionPointer param.type).isSome) {conversion : Conversion}
    (hrun : pass.Runs (ScriptBind.convertInward conversion
      (argumentSite function.name (namedParams function) index param)) session)
    (h : I.Kept session) :
    Ensures True library
      (ScriptBind.wrapCallback function.name conversion
        (argumentSite function.name (namedParams function) index param) param) session
      fun result session' => (I.Kept session' ∧ session.Spares (fun _ => True) session') ∧
        ∀ argument, result = .ok argument → argument.Fits library session'.body function index := by
  rw [ScriptBind.wrapCallback, ensures_bind, ensures_attempt]
  have hdemand : ∀ signature, library.decls.functionPointer param.type = some signature →
      Demanded library
        (.ofSite (argumentSite function.name (namedParams function) index param) signature) :=
    fun signature hs => .argument hf hp hs
  refine (convertInward hopen hdemand hrun h).mono fun result session' hall => ?_
  obtain ⟨⟨hk, hspares⟩, hpost⟩ := hall
  cases result with
  | ok value =>
      dsimp only
      rw [ensures_pure]
      refine ⟨⟨hk, hspares⟩, fun argument ha => ?_⟩
      obtain rfl := Except.ok.inj ha
      exact ⟨hp, hpost⟩
  | error error =>
      dsimp only
      rw [ensures_bind, ensures_update]
      dsimp only
      rw [ensures_pure]
      refine ⟨⟨⟨hk.1.reject _, I.leave hk.2 hk.1 hf hp hs (hpost hs)⟩,
        hspares.trans (Session.spares_reject _)⟩, fun argument ha => ?_⟩
      obtain rfl := Except.ok.inj ha
      refine ⟨hp, fun callback hc => ?_⟩
      cases hc

theorem wrapArgument {function : CFunction} (hf : function ∈ library.decls.functions) {index : Nat}
    {param : Parameter} (hp : (namedParams function)[index]? = some param)
    (hrun : pass.Runs
      (ScriptBind.wrapArgument function.name (namedParams function) index param) session)
    (h : I.Kept session) :
    Ensures True library
      (ScriptBind.wrapArgument function.name (namedParams function) index param) session
      fun result session' => (I.Kept session' ∧ session.Spares (fun _ => True) session') ∧
        ∀ argument, result = .ok argument → argument.Fits library session'.body function index := by
  rw [ScriptBind.wrapArgument, ensures_bind, ensures_within]
  refine (I.resolveParam param.type session (hrun.call .argumentType)).withOutcome.mono
    fun result session₁ hall => ?_
  obtain ⟨hr, ho⟩ := hall
  obtain ⟨hk, hspares⟩ := hr h
  cases result with
  | error error =>
      refine ⟨⟨hk, hspares⟩, fun argument ha => ?_⟩
      cases ha
  | ok conversion =>
      have hvalue := hrun.call (.argumentValue ho)
      rw [mapError_ok]
      dsimp only
      rw [ensures_bind, ensures_look]
      dsimp only
      split
      · next hs =>
          refine (wrapCallback hopen hf hp hs hvalue hk).mono fun result session₂ hall => ?_
          exact ⟨⟨hall.1.1, hspares.trans hall.1.2⟩, hall.2⟩
      · next hs =>
          rw [ensures_bind]
          refine (convertInward hopen (fun signature hs' => ?_) hvalue hk).mono
            fun result session₂ hall => ?_
          · exact .argument hf hp hs'
          obtain ⟨⟨hk', hspares'⟩, hpost⟩ := hall
          cases result with
          | error error =>
              refine ⟨⟨hk', hspares.trans hspares'⟩, fun argument ha => ?_⟩
              cases ha
          | ok value =>
              dsimp only
              rw [ensures_pure]
              refine ⟨⟨hk', hspares.trans hspares'⟩, fun argument ha => ?_⟩
              obtain rfl := Except.ok.inj ha
              exact ⟨hp, hpost⟩

/-- The arguments of a function from a position on. -/
theorem wrapArguments {function : CFunction} (hf : function ∈ library.decls.functions) {index : Nat}
    {params : List Parameter}
    (hp : ∀ i param, params[i]? = some param → (namedParams function)[index + i]? = some param)
    (hrun : pass.Runs
      (ScriptBind.wrapArguments function.name (namedParams function) index params) session)
    (h : I.Kept session) :
    Ensures True library
      (ScriptBind.wrapArguments function.name (namedParams function) index params) session
      fun result session' => (I.Kept session' ∧ session.Spares (fun _ => True) session') ∧
        ∀ arguments, result = .ok arguments → ∀ (i : Nat) (argument : Argument),
          arguments[i]? = some argument → argument.Fits library session'.body function
            (index + i) := by
  induction params generalizing index session with
  | nil =>
      refine ⟨⟨h, Session.Spares.refl _⟩, fun arguments ha i argument hi => ?_⟩
      rw [← Except.ok.inj ha] at hi
      cases hi
  | cons param rest ih =>
      rw [ScriptBind.wrapArguments, ensures_bind]
      refine (wrapArgument hopen hf (hp 0 param rfl) (hrun.call .argument) h).withOutcome.mono
        fun result session₁ hall => ?_
      obtain ⟨⟨⟨hk, hspares⟩, hfirst⟩, ho⟩ := hall
      cases result with
      | error error =>
          refine ⟨⟨hk, hspares⟩, fun arguments ha => ?_⟩
          cases ha
      | ok first =>
          dsimp only
          rw [ensures_bind]
          have hrest : ∀ i other, rest[i]? = some other →
              (namedParams function)[index + 1 + i]? = some other := by
            intro i other ho
            rw [Nat.add_assoc, Nat.add_comm 1 i]
            exact hp (i + 1) other ho
          refine (ih hrest (hrun.call (.nextArguments ho)) hk).mono
            fun result session₂ hall => ?_
          obtain ⟨⟨hk', hspares'⟩, hothers⟩ := hall
          have hboth := hspares.trans hspares'
          cases result with
          | error error =>
              refine ⟨⟨hk', hboth⟩, fun arguments ha => ?_⟩
              cases ha
          | ok others =>
              dsimp only
              rw [ensures_pure]
              refine ⟨⟨hk', hboth⟩, fun arguments ha i argument hi => ?_⟩
              obtain rfl := Except.ok.inj ha
              cases i with
              | zero =>
                  obtain rfl := Option.some.inj hi
                  exact (hfirst first rfl).mono hspares'.body
              | succ i =>
                  have hfits := hothers others rfl i argument hi
                  rw [Nat.add_assoc, Nat.add_comm 1 i] at hfits
                  exact hfits

/-- A function gets its wrapper. -/
theorem wrapFunction {function : CFunction} (hf : function ∈ library.decls.functions) :
    I.Sustains (ScriptBind.wrapFunction function) := by
  refine sustains_of fun session hrun h => ?_
  rw [ScriptBind.wrapFunction]
  split
  · exact h
  · next hvariadic =>
      have hfixed : function.isVariadic = false := Bool.eq_false_iff.2 hvariadic
      dsimp only
      rw [ensures_bind]
      have hparams : ∀ (i : Nat) (param : Parameter), (namedParams function)[i]? = some param →
          (namedParams function)[0 + i]? = some param := by
        intro i param hi
        rw [Nat.zero_add]
        exact hi
      refine (wrapArguments hopen hf hparams (hrun.call (.arguments hfixed)) h).withOutcome.mono
        fun result session₁ hall => ?_
      obtain ⟨⟨⟨hk, hspares⟩, harguments⟩, ho⟩ := hall
      cases result with
      | error error => exact hk
      | ok arguments =>
          dsimp only
          rw [ensures_bind]
          refine ((I.wrapResult fun hvalue => hrun.call (.result hfixed ho hvalue)).and
            (wrapResult_calls library function session₁)).mono fun result session₂ hall => ?_
          obtain ⟨hr, hcalls⟩ := hall
          obtain ⟨hk', hspares'⟩ := hr hk
          cases result with
          | error error => exact hk'
          | ok value =>
              dsimp only
              rw [ensures_bind, ensures_update]
              dsimp only
              rw [ensures_pure]
              refine ⟨hk'.1.emit _, I.wrap hk'.2 hk'.1 ⟨hf, fun i argument hi => ?_,
                hcalls value rfl⟩⟩
              have hfits := harguments arguments rfl i argument hi
              rw [Nat.zero_add] at hfits
              exact hfits.mono hspares'.body

/-- A function gets its wrapper, or a diagnostic says why not. -/
theorem wrapOrReject {function : CFunction} (hf : function ∈ library.decls.functions) :
    I.Sustains (ScriptBind.wrapOrReject function) := by
  intro session hrun
  rw [ScriptBind.wrapOrReject, ensures_bind, ensures_attempt]
  refine (wrapFunction hopen hf session (hrun.call .wrap)).mono fun result session' hk => ?_
  cases result with
  | ok wrapped => exact ensures_pure.2 hk
  | error error =>
      dsimp only
      rw [ensures_bind, ensures_update]
      refine ensures_pure.2 fun h => (hk h).reject ?_
      show DeclarationKind.function ≠ .callback
      decide

omit hopen
variable (I)

theorem showGlobal (global : Global) : I.Sustains (ScriptBind.showGlobal global) := by
  intro session hrun
  rw [ScriptBind.showGlobal]
  dsimp only
  rw [ensures_bind, ensures_attempt]
  refine (I.resolve global.type session (hrun.call .globalType)).mono fun resolved session' hk => ?_
  dsimp only
  rw [ensures_bind, ensures_look]
  dsimp only
  split
  · rw [ensures_bind, ensures_update]
    exact ensures_pure.2 fun h => (hk h).emit rfl
  · rw [ensures_bind, ensures_update]
    refine ensures_pure.2 fun h => (hk h).reject ?_
    show DeclarationKind.global ≠ .callback
    decide

/-- The variables are shown one by one. -/
theorem showGlobals (globals : List Global) : I.Sustains (ScriptBind.showGlobals globals) := by
  induction globals with
  | nil => exact fun _ _ h => h
  | cons global rest ih =>
      intro session hrun
      rw [ScriptBind.showGlobals, ensures_bind]
      refine (I.showGlobal global session (hrun.call .global)).withOutcome.mono
        fun result session' hall => ?_
      cases result with
      | error error => exact hall.1
      | ok shown =>
          dsimp only
          rw [ensures_bind]
          refine (ih session' (hrun.call (.nextGlobals hall.2))).mono fun result _ hk => ?_
          cases result with
          | error error => exact fun h => hk (hall.1 h)
          | ok others => exact fun h => hk (hall.1 h)

/-- The cell for a pointer is written and bound. -/
theorem bindPointerCell : I.Sustains ScriptBind.bindPointerCell := by
  intro session hrun
  rw [ScriptBind.bindPointerCell, ensures_bind, ensures_update]
  dsimp only
  rw [ensures_bind, ensures_attempt]
  exact (I.bindStruct .cell _ (hrun.call .cell)).mono fun _ _ hk h => hk (h.emit rfl)

end Upkeep

end ScriptBind
