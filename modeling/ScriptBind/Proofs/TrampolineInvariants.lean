import ScriptBind.Proofs.CallbackInvariants

/-!
# What Writing Trampolines Keeps Up

A trampoline is found before it is written, and finding it can do a good deal:
its arguments are resolved, which may bind records, and what it returns may be a
callback in its turn, whose trampoline is then written first. The callbacks that
are returned all share one name. So apart from the outcome under that name, the
outcomes of callbacks are left alone while a trampoline is found, and a callback
that had no trampoline at the beginning has none when its own is about to be
written. That is what `Spares` says, and it is why no trampoline is written
twice.

## Main definitions

* `Session.Spares`: Code and diagnostics stay, and the outcomes of callbacks are left
  alone, some excepted.
* `Upkeep.Rendered`, `Upkeep.Emitted`: What finding and writing a trampoline
  come to.

## Theorems

* `Upkeep.registerWith`: A callable is registered.
* `Upkeep.emitWith`: A trampoline is written once.
* `Upkeep.renderWithin`: A trampoline is found within any number of levels.
* `Upkeep.emitCallback`, `Upkeep.convertInward`: The same without a bound.
-/

namespace ScriptBind

/-- The code and the diagnostics so far come first, and the outcomes of callbacks are
    left alone but for some: what there is stays, and no trampoline is written. -/
structure Session.Spares (excepted : String → Prop) (session session' : Session) : Prop where
  /-- The code stays. -/
  body : session.body <+: session'.body
  /-- The diagnostics stay. -/
  diagnostics : session.diagnostics <+: session'.diagnostics
  /-- The outcomes stay. -/
  callbacks : ∀ id state, ¬excepted id → session.callbacks.get? id = some state →
    session'.callbacks.get? id = some state
  /-- No trampoline is written. -/
  unwritten : ∀ id, ¬excepted id →
    (∀ callback, session.callbacks.get? id ≠ some (.emitted callback)) →
    ∀ callback, session'.callbacks.get? id ≠ some (.emitted callback)

namespace Session

variable {excepted excepted' : String → Prop} {session session' : Session}

theorem Spares.refl (session : Session) : session.Spares excepted session :=
  ⟨List.prefix_refl _, List.prefix_refl _, fun _ _ _ h => h, fun _ _ h => h⟩

theorem Spares.trans {s s' s'' : Session} (h : s.Spares excepted s') (h' : s'.Spares excepted s'') :
    s.Spares excepted s'' where
  body := h.body.trans h'.body
  diagnostics := h.diagnostics.trans h'.diagnostics
  callbacks := fun id state he hs => h'.callbacks id state he (h.callbacks id state he hs)
  unwritten := fun id he hn => h'.unwritten id he (h.unwritten id he hn)

theorem Spares.mono (h : session.Spares excepted session')
    (he : ∀ id, excepted id → excepted' id) : session.Spares excepted' session' where
  body := h.body
  diagnostics := h.diagnostics
  callbacks := fun id state hid => h.callbacks id state fun hx => hid (he id hx)
  unwritten := fun id hid => h.unwritten id fun hx => hid (he id hx)

/-- Binding types spares every outcome. -/
theorem Grows.spares (h : session.Grows session') : session.Spares excepted session' where
  body := by
    obtain ⟨added, hb, -⟩ := h.body
    exact ⟨added, hb.symm⟩
  diagnostics := h.diagnostics
  callbacks := fun id state _ => h.callbacks id state
  unwritten := by
    intro id _ hn callback
    cases hs : session.callbacks.get? id with
    | none => exact h.unwritten id callback hs
    | some state =>
        rw [h.callbacks id state hs, ← hs]
        exact hn callback

/-- An outcome that is excepted. -/
theorem spares_settleCallback {id : String} (hid : excepted id) (state : CallbackState) :
    session.Spares excepted (session.settleCallback id state) where
  body := List.prefix_refl _
  diagnostics := List.prefix_refl _
  callbacks := by
    intro other state' ho hs
    have hne : id ≠ other := fun e => ho (e ▸ hid)
    rw [settleCallback, Table.get?_set, if_neg hne]
    exact hs
  unwritten := by
    intro other ho hn
    have hne : id ≠ other := fun e => ho (e ▸ hid)
    rw [settleCallback, Table.get?_set, if_neg hne]
    exact hn

theorem spares_emit (code : Section) : session.Spares excepted (session.emit code) :=
  ⟨List.prefix_append .., List.prefix_refl _, fun _ _ _ h => h, fun _ _ h => h⟩

theorem spares_reject (diagnostic : Diagnostic) :
    session.Spares excepted (session.reject diagnostic) :=
  ⟨List.prefix_append .., List.prefix_append .., fun _ _ _ h => h, fun _ _ h => h⟩

end Session

open BindM

namespace Upkeep

variable {library : Library} {pass : Pass library} (I : Upkeep pass) {session : Session}

/-- The property is kept, and the outcomes of callbacks are left alone but for
    some. -/
def Sparing (excepted : String → Prop) (session session' : Session) : Prop :=
  I.Kept session → I.Kept session' ∧ session.Spares excepted session'

instance (excepted : String → Prop) : IsPreorder Session (I.Sparing excepted) where
  refl := fun session h => ⟨h, Session.Spares.refl session⟩
  trans := by
    intro _ _ _ h h' hs
    obtain ⟨hk, hspares⟩ := h hs
    obtain ⟨hk', hspares'⟩ := h' hk
    exact ⟨hk', hspares.trans hspares'⟩

/-- Resolving a type spares every outcome. -/
theorem resolve_sparing (excepted : String → Prop) (type : CType) :
    KeepsMet library (fun _ => pass.Runs) (I.Sparing excepted) (ScriptBind.resolve type) :=
  fun session hrun => ((I.resolve type session hrun).and (resolve_grows type session)).mono
    fun _ _ hall hs => ⟨hall.1 hs, hall.2.spares⟩

/-- What finding the trampoline of a callback comes to. -/
def Rendered (callback : Callback) (render : BindM Trampoline) : Prop :=
  ∀ session, pass.Runs render session → I.Kept session →
    Ensures True library render session fun result session' =>
      (I.Kept session' ∧ session.Spares (· = resultId) session') ∧
        ∀ trampoline, result = .ok trampoline →
          trampoline.callback = callback ∧ trampoline.Fits library session'.body

/-- What writing the trampoline of a callback comes to. -/
def Emitted (excepted : String → Prop) (callback : Callback) (emit : BindM Unit) : Prop :=
  ∀ session, pass.Runs emit session → I.Kept session →
    Ensures True library emit session fun result session' =>
    (I.Kept session' ∧ session.Spares excepted session') ∧
      match result with
      | .ok _ => ∃ other, session'.callbacks.get? callback.name = some (.emitted other) ∧
          (other = callback ∨ session.callbacks.get? callback.name = some (.emitted other))
      | .error error => session'.callbacks.get? callback.name = some (.failed error)

variable {I}

/-- What registering a callable comes to at a site. -/
def RegisterPost (pass : Pass library) (site : Site) (session : Session) :
    Except BindError Converted → Prop
  | .ok value => ∀ callback, value.callback? = some callback →
    (library.decls.functionPointer site.type).isSome ∧ value.Fits library session.body site
  | .error error => (library.decls.functionPointer site.type).isSome →
    Blamed pass session.diagnostics site.id error ∨
      site.index = 0 ∧ error = .leadingCallback site.id

/-- A callable is registered: if that succeeds, the callback's trampoline is in
    the code. -/
theorem registerWith {excepted : String → Prop} {emit : Callback → BindM Unit} {site : Site}
    (hdemand : ∀ signature, library.decls.functionPointer site.type = some signature →
      Demanded library (.ofSite site signature))
    (hemit : ∀ callback, Vouched library site.id callback →
      I.Emitted excepted callback (emit callback))
    (hrun : pass.Runs (ScriptBind.registerWith emit site) session) (h : I.Kept session) :
    Ensures True library (ScriptBind.registerWith emit site) session fun result session' =>
      (I.Kept session' ∧ session.Spares excepted session') ∧
        RegisterPost pass site session' result := by
  rw [ScriptBind.registerWith, ensures_bind, ensures_read]
  dsimp only
  cases hs : library.decls.functionPointer site.type with
  | none =>
      dsimp only
      rw [ensures_fail]
      refine ⟨⟨h, Session.Spares.refl _⟩, fun hsome => ?_⟩
      rw [hs] at hsome
      cases hsome
  | some signature =>
      dsimp only
      split
      · next hleading =>
          rw [ensures_fail]
          refine ⟨⟨h, Session.Spares.refl _⟩, fun _ => Or.inr ⟨?_, rfl⟩⟩
          rw [Bool.and_eq_true, beq_iff_eq] at hleading
          exact hleading.2
      · next hplace =>
          have hplace : library.naming.isGlobalCallback site.type.spelling ∨ site.index ≠ 0 := by
            rw [Bool.and_eq_true, beq_iff_eq, Bool.not_eq_true', Classical.not_and_iff_not_or_not,
              Bool.not_eq_false] at hplace
            exact hplace
          rw [ensures_bind]
          have hd := hdemand signature hs
          have hresolve := marshal IsResolving.whole (fun type _ => I.resolve type)
            (fun type _ => resolve_grows type) hd (hrun.call (.registered hs hplace)) h
          have hgrown : Keeps library Session.Grows
              ((Demand.ofSite site signature).marshal ScriptBind.resolve) :=
            marshal_grows (fun type _ => resolve_grows type) _ _ _ _ _
          refine (hresolve.and (hgrown session)).withOutcome.mono fun result session' hall => ?_
          obtain ⟨⟨⟨hk, hanswer, hsame⟩, hg⟩, ho⟩ := hall
          cases result with
          | error error => exact ⟨⟨hk, hg.spares⟩, fun _ => Or.inl hanswer⟩
          | ok callback =>
              dsimp only
              rw [ensures_bind]
              refine (hemit callback hanswer session' (hrun.call (.emit hs hplace ho)) hk).mono
                fun result session'' hall => ?_
              obtain ⟨⟨hk', hspares⟩, hstate⟩ := hall
              have hboth := Session.Spares.trans hg.spares hspares
              have hname := Vouched.name hanswer
              cases result with
              | error error =>
                  refine ⟨⟨hk', hboth⟩, fun _ => Or.inl ?_⟩
                  have hfailed := hk'.1.failed _ _ hstate
                  rw [hname] at hfailed
                  exact hfailed
              | ok _ =>
                  dsimp only
                  rw [ensures_pure]
                  refine ⟨⟨hk', hboth⟩, fun other ho => ⟨by rw [hs]; rfl, fun other' ho' => ?_⟩⟩
                  obtain rfl := Option.some.inj ho'
                  obtain ⟨written, hw, hbefore⟩ := hstate
                  -- What had been written under the name is what was found for it.
                  obtain rfl : written = callback := hbefore.elim id fun hb =>
                    hsame callback written rfl (hname ▸ hb)
                  exact ⟨hanswer, hk'.1.written _ _ hw, rfl⟩

/-- A value on its way to C. -/
theorem convertWith {excepted : String → Prop} {register : Site → BindM Converted} {site : Site}
    (hregister : pass.Runs (register site) session → I.Kept session →
      Ensures True library (register site) session fun result session' =>
        (I.Kept session' ∧ session.Spares excepted session') ∧
          RegisterPost pass site session' result)
    {conversion : Conversion}
    (hrun : pass.Runs (ScriptBind.convertWith register conversion site) session)
    (h : I.Kept session) :
    Ensures True library (ScriptBind.convertWith register conversion site) session
      fun result session' => (I.Kept session' ∧ session.Spares excepted session') ∧
        RegisterPost pass site session' result := by
  rw [ScriptBind.convertWith]
  split
  · rw [ensures_pure]
    refine ⟨⟨h, Session.Spares.refl _⟩, fun callback hc => ?_⟩
    cases hc
  · next hinward => exact hregister (hrun.call (.callable hinward)) h

/-- A trampoline is written once: if it has been written, nothing happens. -/
theorem emitWith {render : Callback → BindM Trampoline} {callback : Callback}
    (hrendering : IsRendering render) (hv : Vouched library callback.name callback)
    (hopen : I.isOpen callback.name) (hrender : I.Rendered callback (render callback)) :
    I.Emitted (fun id => id = resultId ∨ id = callback.name) callback
      (ScriptBind.emitWith render callback) := by
  intro session hrun h
  rw [ScriptBind.emitWith, ensures_bind, ensures_look]
  dsimp only
  split
  · next other hstate =>
      rw [ensures_pure]
      exact ⟨⟨h, Session.Spares.refl _⟩, other, hstate, Or.inr hstate⟩
  · next hunwritten =>
      rw [ensures_bind, ensures_attempt]
      have hfound : pass.Runs (render callback) session := hrun.call (.render hunwritten)
      refine (hrender session hfound h).withOutcome.mono fun result session' hall => ?_
      obtain ⟨⟨⟨hk, hspares⟩, htrampoline⟩, ho⟩ := hall
      have hwide : session.Spares (fun id => id = resultId ∨ id = callback.name) session' :=
        hspares.mono fun _ hid => Or.inl hid
      -- Only the name of results could have got a trampoline in the meantime.
      have hmay : session'.MayWrite callback.name := by
        by_cases hname : callback.name = resultId
        · exact Or.inl hname
        · exact Or.inr (hspares.unwritten _ hname fun other hother => hunwritten other hother)
      cases result with
      | ok trampoline =>
          obtain ⟨ht, hfits⟩ := htrampoline trampoline rfl
          dsimp only
          rw [ensures_update]
          refine ⟨⟨⟨hk.1.write ht hv, I.write hk.2 hk.1 ht hfits hv hopen hmay⟩, ?_⟩, callback, ?_,
            Or.inl rfl⟩
          · exact hwide.trans ((Session.spares_emit _).trans
              (Session.spares_settleCallback (Or.inr rfl) _))
          · rw [Session.settleCallback, Table.get?_set, if_pos rfl]
      | error error =>
          dsimp only
          have hblame : Blamed pass session'.diagnostics callback.name error :=
            .unwritten hv hrendering hfound hspares.diagnostics ho
          rw [ensures_bind, ensures_update]
          dsimp only
          rw [ensures_fail]
          refine ⟨⟨⟨hk.1.settleFailed hblame, I.settleFailed hk.2 hk.1 hblame hmay⟩, ?_⟩, ?_⟩
          · exact hwide.trans (Session.spares_settleCallback (Or.inr rfl) _)
          · rw [Session.settleCallback, Table.get?_set, if_pos rfl]

/-- Nothing is registered among the arguments of a trampoline. -/
theorem convertArguments_calls (place : String) (index : Nat) (types : List CType) :
    Answers library (fun values => ∀ value ∈ values, Converted.callback? value = none)
      (convertArguments place index types) := by
  induction types generalizing index with
  | nil =>
      refine Answers.pure fun value hv => ?_
      cases hv
  | cons type rest ih =>
      rw [convertArguments]
      have hfirst : Answers library (fun value => Converted.callback? value = none)
          (convertArgument place index type) :=
        Answers.bind (Answers.any _) fun _ _ => Answers.pure rfl
      refine Answers.bind hfirst fun first hf => Answers.bind (ih _) fun others ho =>
        Answers.pure fun value hv => ?_
      rcases List.mem_cons.1 hv with rfl | hv
      · exact hf
      · exact ho value hv

/-- A trampoline is found, what it returns being registered as given. -/
theorem renderWith {register : Site → BindM Converted} {callback : Callback}
    (hregister : ∀ session, pass.Runs (register (resultSite callback.signature.result)) session →
      I.Kept session →
      Ensures True library (register (resultSite callback.signature.result)) session
        fun result session' => (I.Kept session' ∧ session.Spares (· = resultId) session') ∧
          RegisterPost pass (resultSite callback.signature.result) session' result) :
    I.Rendered callback (ScriptBind.renderWith register callback) := by
  intro session hrun h
  rw [ScriptBind.renderWith, ensures_bind]
  have hresolve : ∀ type, (Scope.all library).types type →
      KeepsMet library (fun _ => pass.Runs) (I.Sparing (· = resultId))
        (ScriptBind.resolve type) :=
    fun type _ => I.resolve_sparing _ type
  have hkeep :=
    convertArguments_keepsMet pass.respects_runs hresolve (trampolinePlace callback)
    0 (fun type (_ : type ∈ callback.signature.params) => trivial) session (hrun.call .passed)
  refine (hkeep.and (convertArguments_calls _ _ _ session)).withOutcome.mono
    fun result session₁ hall => ?_
  obtain ⟨⟨hs, hcalls⟩, hpassed⟩ := hall
  obtain ⟨hk, hspares⟩ := hs h
  cases result with
  | error error =>
      refine ⟨⟨hk, hspares⟩, fun trampoline ht => ?_⟩
      cases ht
  | ok arguments =>
      dsimp only
      split
      · rw [ensures_pure]
        refine ⟨⟨hk, hspares⟩, fun trampoline ht => ?_⟩
        obtain rfl := Except.ok.inj ht
        refine ⟨rfl, hcalls arguments rfl, fun value hv => ?_⟩
        cases hv
      · next hvoid =>
          have hreturned := hrun.call (.returned hpassed (Bool.eq_false_iff.2 hvoid))
          rw [ensures_bind, convertResult, ensures_bind, ensures_within]
          refine (I.resolve_sparing (· = resultId) callback.signature.result session₁
            (hreturned.call .returnedType)).withOutcome.mono fun result session₂ hall => ?_
          obtain ⟨hs, ho⟩ := hall
          obtain ⟨hk', hspares'⟩ := hs hk
          have hboth := hspares.trans hspares'
          cases result with
          | error error =>
              refine ⟨⟨hk', hboth⟩, fun trampoline ht => ?_⟩
              cases ht
          | ok conversion =>
              rw [mapError_ok]
              refine (convertWith (hregister session₂)
                (hreturned.call (.returnedCallable ho)) hk').mono fun result session₃ hall => ?_
              obtain ⟨⟨hk'', hspares''⟩, hpost⟩ := hall
              cases result with
              | error error =>
                  refine ⟨⟨hk'', hboth.trans hspares''⟩, fun trampoline ht => ?_⟩
                  cases ht
              | ok value =>
                  dsimp only
                  rw [ensures_pure]
                  refine ⟨⟨hk'', hboth.trans hspares''⟩, fun trampoline ht => ?_⟩
                  obtain rfl := Except.ok.inj ht
                  refine ⟨rfl, hcalls arguments rfl, fun other ho callback hc => ?_⟩
                  obtain rfl := Option.some.inj ho
                  exact (hpost callback hc).2 callback hc

/-- A place where a callback returns another is one that needs a callback. -/
theorem demanded_result {callback : Callback} {id : String} (hv : Vouched library id callback)
    {signature : Signature}
    (hs : library.decls.functionPointer callback.signature.result = some signature) :
    Demanded library (.ofSite (resultSite callback.signature.result) signature) := by
  obtain ⟨demand, hd, -, hmet⟩ := hv
  rw [hmet.signature] at hs ⊢
  exact .result hd hs

/-- Any number of levels finds a trampoline and spares all outcomes but that
    under the name of results. -/
theorem renderWithin (levels : Nat) {callback : Callback} {id : String}
    (hv : Vouched library id callback) :
    I.Rendered callback (ScriptBind.renderWithin levels callback) := by
  induction levels generalizing callback id with
  | zero => exact fun _ _ _ => trivial
  | succ levels ih =>
      refine renderWith fun session hrun h =>
        registerWith (fun signature hs => demanded_result hv hs) (fun other ho => ?_) hrun h
      have hname : other.name = resultId := ho.name
      intro session hrun h
      refine (emitWith (IsRendering.within levels) (by rw [hname]; exact ho)
        (by rw [hname]; exact I.isOpen_result) (ih ho) session hrun h).mono fun _ _ hall => ?_
      refine ⟨⟨hall.1.1, hall.1.2.mono fun id hid => ?_⟩, hall.2⟩
      rw [hname] at hid
      exact hid.elim (fun e => e) fun e => e

/-- The trampoline of a callback is found. -/
theorem renderCallback {callback : Callback} {id : String} (hv : Vouched library id callback) :
    I.Rendered callback (ScriptBind.renderCallback callback) := by
  intro session hrun h
  rw [ScriptBind.renderCallback]
  -- Where there is no end, everything is as it was.
  refine Ensures.settled ?_ ⟨⟨h, Session.Spares.refl _⟩, fun trampoline ht => ?_⟩
  · rw [ensures_bind, ensures_look]
    exact renderWithin _ hv session (hrun.call .renderWithin) h
  · cases ht

/-- The trampoline of a callback is written once. -/
theorem emitCallback {callback : Callback} (hv : Vouched library callback.name callback)
    (hopen : I.isOpen callback.name) :
    I.Emitted (fun id => id = resultId ∨ id = callback.name) callback
      (ScriptBind.emitCallback callback) :=
  emitWith IsRendering.whole hv hopen (renderCallback hv)

/-- A value on its way to C, any trampoline being allowed to be written. -/
theorem convertInward (hopen : ∀ id, I.isOpen id) {site : Site}
    (hdemand : ∀ signature, library.decls.functionPointer site.type = some signature →
      Demanded library (.ofSite site signature)) {conversion : Conversion}
    (hrun : pass.Runs (ScriptBind.convertInward conversion site) session) (h : I.Kept session) :
    Ensures True library (ScriptBind.convertInward conversion site) session
      fun result session' => (I.Kept session' ∧ session.Spares (fun _ => True) session') ∧
        RegisterPost pass site session' result := by
  refine convertWith (fun hrun h => registerWith hdemand
    (fun callback hv session hrun h => ?_) hrun h) hrun h
  have hname : callback.name = site.id := hv.name
  refine (emitCallback (by rw [hname]; exact hv) (hopen _) session hrun h).mono fun _ _ hall => ?_
  exact ⟨⟨hall.1.1, hall.1.2.mono fun _ _ => trivial⟩, hall.2⟩

end Upkeep

end ScriptBind
