import ScriptBind.Proofs.SourcedResolving

/-!
# All Code Calls Sourced Converters

What is true of accessors and of the code for array types is true of trampolines
and of the wrappers of functions: they call only converters that the runtime has
or that earlier code defines. Nothing of either is written before all that it
converts has been resolved, and what has been resolved stays sourced when more
code is written.

So the session at the end of a module is sourced, in any scope that the
functions and the variables of the library are in.

## Theorems

* `registerWith_yields`, `renderWith_yields`, `emitWith_yields`: Callables are
  registered, and trampolines are found and written.
* `wrapFunction_yields`: A function gets its wrapper.
* `sourced_sessionAtEnd`: The end of a module is sourced.
-/

namespace ScriptBind

variable {library : Library} {scope : Scope library} {body : List Section}

/-- A callable is registered: no converter is called in its place. -/
theorem registerWith_yields {emit : Callback → BindM Unit}
    (hemit : ∀ callback, callback.Within scope → ∀ body,
      scope.Yields body (fun _ _ => True) (emit callback))
    {site : Site} (hs : site.Within scope) :
    scope.Yields body (fun _ value => ∃ callback slot, value = .register site.expr callback slot)
      (registerWith emit site) := by
  rw [registerWith]
  refine Scope.Yields.read.bind fun library' body₁ _ hread => ?_
  obtain rfl := hread
  dsimp only
  cases hf : library'.decls.functionPointer site.type with
  | none => exact .fail _
  | some signature =>
      dsimp only
      split
      · exact .fail _
      · refine (marshal_yields (fun _ ht _ => (resolve_yields ht).mono fun _ _ hc => hc.1)
          (scope.signature hs hf) _ _ _ _).bind fun callback body₂ _ hc => ?_
        exact (hemit callback hc body₂).bind fun _ _ _ _ => .pure fun _ _ => ⟨callback, _, rfl⟩

/-- A value on its way to C: it is converted by the conversion, or registered. -/
theorem convertWith_yields {register : Site → BindM Converted} {site : Site}
    (hregister : scope.Yields body
      (fun _ value => ∃ callback slot, value = .register site.expr callback slot) (register site))
    (conversion : Conversion) :
    scope.Yields body (fun _ value => value.Inward conversion)
      (convertWith register conversion site) := by
  rw [convertWith]
  split
  · next converter hconverter =>
      refine .pure fun _ _ => ?_
      rw [Converted.Inward, Conversion.inward?, hconverter]
  · next hregistered =>
      refine hregister.mono fun _ value hv => ?_
      obtain ⟨callback, slot, rfl⟩ := hv
      rw [Converted.Inward, Conversion.inward?, hregistered]

/-- The arguments of a trampoline are converted one by one. -/
theorem convertArguments_yields (place : String) (index : Nat) {types : List CType}
    (ht : ∀ type ∈ types, scope.types type) :
    scope.Yields body (fun body' values => ∀ value ∈ values, value.SourcedOutward scope body')
      (convertArguments place index types) := by
  induction types generalizing index body with
  | nil =>
      refine .pure fun _ _ value hm => ?_
      cases hm
  | cons type rest ih =>
      rw [convertArguments]
      have hfirst : scope.Yields body (fun body' value => value.SourcedOutward scope body')
          (convertArgument place index type) := by
        rw [convertArgument]
        refine ((resolve_yields (ht type (List.mem_cons_self ..))).within _).bind
          fun conversion _ _ hc => .pure fun _ hb => ?_
        exact ⟨conversion, hc.1.mono hb, rfl⟩
      refine hfirst.bind fun first body₁ _ hf => ?_
      refine (ih _ fun other ho => ht other (List.mem_cons_of_mem _ ho)).bind
        fun others body₂ hb ho => .pure fun _ hb' value hm => ?_
      rcases List.mem_cons.1 hm with rfl | hm
      · exact hf.mono (hb.trans hb')
      · exact (ho value hm).mono hb'

/-- A trampoline is found whose code is sourced, what it returns being registered
    as given. -/
theorem renderWith_yields {register : Site → BindM Converted} {callback : Callback}
    (hc : callback.Within scope)
    (hregister : ∀ (site : Site) (body : List Section), site.Within scope → scope.Yields body
      (fun _ value => ∃ callback slot, value = .register site.expr callback slot) (register site)) :
    scope.Yields body (fun body' trampoline => Section.Sourced scope body' (.trampoline trampoline))
      (renderWith register callback) := by
  rw [renderWith]
  have hparams : ∀ type ∈ callback.signature.params, scope.types type :=
    fun type hm => scope.param hc hm
  refine (convertArguments_yields _ 0 hparams).bind fun arguments body₁ _ ha => ?_
  split
  · refine .pure fun _ hb => ⟨fun value hm => (ha value hm).mono hb, fun value hv => ?_⟩
    cases hv
  · have hresult : scope.types callback.signature.result := scope.result hc
    have hvalue : scope.Yields body₁ (fun body' value => value.SourcedInward scope body')
        (convertResult register s!"callback `{callback.name}`" callback.signature.result) := by
      rw [convertResult]
      refine ((resolve_yields hresult).within _).bind fun conversion body₂ _ hconversion => ?_
      have hconverted := convertWith_yields
        (hregister (resultSite callback.signature.result) body₂ hresult) conversion
      -- Registering a callable may write code, and the conversion stays sourced.
      intro session hs hb
      refine (hconverted session hs hb).mono fun _ session' hall =>
        ⟨hall.1, hall.2.1, fun value hv => ?_⟩
      exact ⟨conversion, hconversion.1.mono (hb.trans hall.2.1), hall.2.2 value hv⟩
    refine hvalue.bind fun value body₂ hb hv => .pure fun _ hb' =>
      ⟨fun other ho => ?_, fun other ho => ?_⟩
    · exact (ha other ho).mono (hb.trans hb')
    · rw [← Option.some.inj ho]
      exact hv.mono hb'

/-- A trampoline is written unless it is. -/
theorem emitWith_yields {render : Callback → BindM Trampoline} {callback : Callback}
    (hc : callback.Within scope)
    (hrender : ∀ body, scope.Yields body
      (fun body' trampoline => Section.Sourced scope body' (.trampoline trampoline))
      (render callback)) :
    scope.Yields body (fun _ _ => True) (emitWith render callback) := by
  rw [emitWith]
  refine .bindLook fun state body₁ _ => ?_
  split
  · exact .pure fun _ _ => trivial
  · -- The code found is sourced when it is written, for nothing happens in between.
    intro session hs hb
    have hattempt := (hrender body₁).attempt session hs hb
    rw [BindM.ensures_bind]
    refine hattempt.mono fun result session' hall => ?_
    obtain ⟨hs', hb', hresult⟩ := hall
    cases result with
    | error error => exact ⟨hs', hb', fun _ ha => by cases ha⟩
    | ok result =>
        have htrampoline := hresult result rfl
        cases result with
        | ok trampoline =>
            dsimp only
            rw [BindM.ensures_update]
            exact ⟨hs'.write (htrampoline trampoline rfl) hc, hb'.trans (List.prefix_append ..),
              fun _ _ => trivial⟩
        | error error =>
            dsimp only
            rw [BindM.ensures_bind, BindM.ensures_update]
            dsimp only
            rw [BindM.ensures_fail]
            exact ⟨hs'.settleFailed _ error, hb', fun _ ha => by cases ha⟩

theorem renderWithin_yields (levels : Nat) {callback : Callback} (hc : callback.Within scope) :
    scope.Yields body (fun body' trampoline => Section.Sourced scope body' (.trampoline trampoline))
      (renderWithin levels callback) := by
  induction levels generalizing callback body with
  | zero => exact .ofEndless
  | succ levels ih =>
      exact renderWith_yields hc fun site body hs =>
        registerWith_yields (fun other ho _ => emitWith_yields ho fun _ => ih ho) hs

theorem emitCallback_yields {callback : Callback} (hc : callback.Within scope) :
    scope.Yields body (fun _ _ => True) (emitCallback callback) := by
  refine emitWith_yields hc fun body => ?_
  rw [renderCallback]
  exact .settled (.bindLook fun levels _ _ => renderWithin_yields _ hc) _

theorem convertInward_yields {site : Site} (hs : site.Within scope) (conversion : Conversion) :
    scope.Yields body (fun _ value => value.Inward conversion) (convertInward conversion site) :=
  convertWith_yields (registerWith_yields (fun _ hc _ => emitCallback_yields hc) hs) conversion

/-- One callback that waits gets its trampoline, or a stub. -/
theorem emitOrStub_yields {callback : Callback} (hc : callback.Within scope) :
    scope.Yields body (fun _ _ => True) (emitOrStub callback) := by
  rw [emitOrStub]
  refine (emitCallback_yields hc).attempt.bind fun result body₁ _ _ => ?_
  cases result with
  | ok _ => exact .pure fun _ _ => trivial
  | error error =>
      refine .update fun session hs _ => ?_
      have hstub : (session.emit (.stub callback)).Sourced scope := hs.emit trivial
      exact ⟨hstub.reject _, (List.prefix_append ..).trans (List.prefix_append ..), trivial⟩

/-- The callbacks that wait are those that the session keeps. -/
theorem emitPending_yields : scope.Yields body (fun _ _ => True) emitPending := by
  rw [emitPending]
  refine .bind (Q := fun _ waiting => ∀ callback ∈ waiting, callback.Within scope)
    (.look fun session hs _ callback hc => ?_) fun waiting body₁ _ hwaiting => ?_
  · obtain ⟨id, hid⟩ := Session.mem_pendingCallbacks.1 hc
    exact hs.pending id callback hid
  · exact .forM _ fun callback hc => emitOrStub_yields (hwaiting callback hc)

section Functions

/-- The conversion of a parameter is the one that its type has from the beginning,
    if it has one and the parameter is no array without length. -/
theorem resolveParam_yields {type : CType} (ht : scope.types type) :
    scope.Yields body (fun body' conversion => Conversion.Sourced scope body' conversion ∧
        ((∀ element, type ≠ .array element 0) → conversion.Befits library.naming type))
      (resolveParam type) := by
  unfold resolveParam
  split
  · next element =>
      exact (resolveOpenArray_yields (scope.element ht)).mono fun _ _ hc =>
        ⟨hc, fun hne => absurd rfl (hne element)⟩
  · exact (resolve_yields ht).mono fun _ _ hc => ⟨hc.1, fun _ => hc.2⟩

theorem resolveResult_yields {function : CFunction} (hr : scope.types function.result) :
    scope.Yields body (Conversion.Sourced scope) (resolveResult function) := by
  have hresolve : ∀ {type : CType} {body : List Section}, scope.types type →
      scope.Yields body (Conversion.Sourced scope) (resolve type) :=
    fun ht => (resolve_yields ht).mono fun _ _ hc => hc.1
  unfold resolveResult
  refine .bindLook fun returnsArray body₁ _ => ?_
  split
  · next he => exact hresolve (he ▸ hr)
  · next he => exact hresolve (he ▸ hr)
  · next pointee isConst _ _ he =>
      have hp : scope.types (.pointer pointee isConst) := he ▸ hr
      split
      · exact resolveOpenArray_yields (scope.pointee hp)
      · exact hresolve hp
  · exact hresolve hr

theorem wrapResult_yields {function : CFunction} (hr : scope.types function.result) :
    scope.Yields body (fun body' result => ∀ value, result = some value →
        Converted.SourcedOutward scope body' value) (wrapResult function) := by
  unfold wrapResult
  split
  · refine .pure fun _ _ value hv => ?_
    cases hv
  · refine ((resolveResult_yields hr).within _).bind fun conversion _ _ hc =>
      .pure fun _ hb value hv => ?_
    obtain rfl := Option.some.inj hv
    exact ⟨conversion, hc.mono hb, rfl⟩

/-- A callable is registered, or passed untyped with a diagnostic. -/
theorem wrapCallback_yields {site : Site} (hs : site.Within scope) (function : String)
    {conversion : Conversion} (hc : conversion.Sourced scope body) (param : Parameter) :
    scope.Yields body (fun body' argument => argument.Sourced scope body')
      (wrapCallback function conversion site param) := by
  rw [wrapCallback]
  refine (convertInward_yields hs conversion).attempt.bind fun result body₁ hb hresult => ?_
  cases result with
  | ok value =>
      exact .pure fun _ hb' => ⟨conversion, hc.mono (hb.trans hb'), hresult value rfl,
        fun hplain => by cases hplain⟩
  | error error =>
      refine .bindUpdate (fun session hs _ => ?_) fun _ _ => ?_
      · exact ⟨hs.reject _, List.prefix_append ..⟩
      · exact .pure fun _ _ => ⟨.untyped, .untyped, rfl, fun hplain => by cases hplain⟩

theorem wrapArgument_yields (function : String) (params : List Parameter) (index : Nat)
    {param : Parameter} (hp : scope.types param.type) :
    scope.Yields body (fun body' argument => argument.Sourced scope body')
      (wrapArgument function params index param) := by
  have hs : (argumentSite function params index param).Within scope := hp
  rw [wrapArgument]
  refine ((resolveParam_yields hp).within _).bind fun conversion body₁ _ hc => ?_
  refine .bind (Q := fun body' _ => body₁ <+: body') (.look fun _ _ hb => hb)
    fun isCallback body₂ _ hb => ?_
  split
  · exact wrapCallback_yields hs _ (hc.1.mono hb) _
  · refine (convertInward_yields hs conversion).bind
      fun value body₃ hb' hv => .pure fun _ hb'' => ?_
    exact ⟨conversion, hc.1.mono ((hb.trans hb').trans hb''), hv, fun _ => hc.2⟩

theorem wrapArguments_yields (function : String) (params : List Parameter) (index : Nat)
    {rest : List Parameter} (hrest : ∀ param ∈ rest, scope.types param.type) :
    scope.Yields body (fun body' arguments => ∀ argument ∈ arguments, argument.Sourced scope body')
      (wrapArguments function params index rest) := by
  induction rest generalizing index body with
  | nil =>
      refine .pure fun _ _ argument hm => ?_
      cases hm
  | cons param rest ih =>
      rw [wrapArguments]
      refine (wrapArgument_yields _ _ _ (hrest param (List.mem_cons_self ..))).bind
        fun first body₁ _ hf => ?_
      -- The first is still sourced when code has been written for the others.
      refine (ih _ fun other ho => hrest other (List.mem_cons_of_mem _ ho)).bind
        fun others body₂ hb ho => .pure fun _ hb' argument hm => ?_
      rcases List.mem_cons.1 hm with rfl | hm
      · exact hf.mono (hb.trans hb')
      · exact (ho argument hm).mono hb'

/-- A function gets its wrapper. -/
theorem wrapFunction_yields {function : CFunction} (hf : function.Within scope) :
    scope.Yields body (fun _ _ => True) (wrapFunction function) := by
  rw [wrapFunction]
  split
  · exact .fail _
  · have hparams : ∀ param ∈ namedParams function, scope.types param.type :=
      fun _ hp => Scope.CarriesTypes.types_of_mem_namedParams hf hp
    refine (wrapArguments_yields _ _ 0 hparams).bind fun arguments body₁ _ ha => ?_
    refine (wrapResult_yields hf.result).bind fun result body₂ hb hr => ?_
    refine .bindUpdate (fun session hs hb' => ?_) fun _ _ => .pure fun _ _ => trivial
    refine ⟨hs.emit ⟨fun argument hm => ?_, fun value hv => ?_⟩, List.prefix_append ..⟩
    · exact (ha argument hm).mono (hb.trans hb')
    · exact (hr value hv).mono hb'

theorem wrapOrReject_yields {function : CFunction} (hf : function.Within scope) :
    scope.Yields body (fun _ _ => True) (wrapOrReject function) := by
  rw [wrapOrReject]
  refine (wrapFunction_yields hf).attempt.bind fun result body₁ _ _ => ?_
  cases result with
  | ok wrapped => exact .pure fun _ _ => trivial
  | error error =>
      refine .bindUpdate (fun session hs _ => ?_) fun _ _ => .pure fun _ _ => trivial
      exact ⟨hs.reject _, List.prefix_append ..⟩

theorem showGlobal_yields {global : Global} (hg : scope.types global.type) :
    scope.Yields body (fun _ _ => True) (showGlobal global) := by
  rw [showGlobal]
  refine (resolve_yields hg).attempt.bind fun resolved body₁ _ _ => ?_
  refine .bindLook fun structName body₂ _ => ?_
  split
  · refine .bindUpdate (fun session hs _ => ?_) fun _ _ => .pure fun _ _ => trivial
    exact ⟨hs.emit trivial, List.prefix_append ..⟩
  · refine .bindUpdate (fun session hs _ => ?_) fun _ _ => .pure fun _ _ => trivial
    exact ⟨hs.reject _, List.prefix_append ..⟩

theorem showGlobals_yields {globals : List Global}
    (hg : ∀ global ∈ globals, scope.types global.type) :
    scope.Yields body (fun _ _ => True) (showGlobals globals) := by
  induction globals generalizing body with
  | nil => exact .pure fun _ _ => trivial
  | cons global rest ih =>
      rw [showGlobals]
      refine (showGlobal_yields (hg global (List.mem_cons_self ..))).bind fun _ _ _ _ => ?_
      exact (ih fun other ho => hg other (List.mem_cons_of_mem _ ho)).bind fun _ _ _ _ =>
        .pure fun _ _ => trivial

/-- The cell for a pointer is written and bound. -/
theorem bindPointerCell_yields : scope.Yields body (fun _ _ => True) bindPointerCell := by
  rw [bindPointerCell]
  refine .bindUpdate (fun session hs _ => ?_) fun body₁ _ => ?_
  · exact ⟨hs.emit trivial, List.prefix_append ..⟩
  · exact (bindStruct_yields scope.cell).attempt.bind fun _ _ _ _ => .pure fun _ _ => trivial

end Functions

/-- The end of a module is sourced. -/
theorem sourced_sessionAtEnd {decls : Declarations} {options : Options}
    {scope : Scope (libraryOf decls options)}
    (hf : ∀ function ∈ decls.functions, function.Within scope)
    (hg : ∀ global ∈ decls.globals, scope.types global.type) :
    (sessionAtEnd decls options).Sourced scope := by
  have hbinding : ∀ {α : Type} {action : BindM α},
      scope.Yields [] (fun _ _ => True) action →
      AssemblyM.Preserves (libraryOf decls options) (Session.Sourced scope)
        (AssemblyM.binding action) := fun h =>
    .binding fun session hs => (h session hs (List.nil_prefix)).mono fun _ _ hall => hall.1
  have hall : AssemblyM.Upholds (libraryOf decls options) (Session.Sourced scope) :=
    { emit := fun session code hp hs =>
        -- What a module writes by itself converts nothing.
        hs.emit (Section.sourced_of_isSilent (Section.isSilent_of_isOfModule hp) scope _)
      wrap := fun function hm => hbinding (wrapOrReject_yields (hf function hm))
      cell := hbinding bindPointerCell_yields
      globals := hbinding (showGlobals_yields hg) }
  exact hall.sessionAtEnd (hbinding emitPending_yields) (Session.sourced_start scope)

end ScriptBind
