import ScriptBind.Proofs.Operations
import ScriptBind.Proofs.TablesByNotes
import ScriptBind.Proofs.Termination

/-!
# Notes Tell What Is Written of Functions

While a module is put together, it is noted which functions have a wrapper and
which cannot have one. These are only notes. That they are right is shown by
comparing them with what is written: the wrappers in the code are those noted,
in the order in which they were noted, and the diagnostics for functions name
those noted as failed. Wrapping a function adds one to both at once, and nothing
else does. For this it matters that wrapping always comes to an end: without an
end it would leave neither a wrapper nor a diagnostic.

## Main definitions

* `Session.Wraps`, `Session.LeavesOut`: A session with one more wrapper, or with
  one more function left out.
* `Progress.Accounted`: The code and the diagnostics are as noted.
* `progressAtEnd`: How far a module has come when it is complete.

## Theorems

* `wrapOrReject_accounts`: A function gets one wrapper or one diagnostic.
* `tryFunction_accounts`: What is tried is noted and written.
* `accounted_progressAtEnd`: The notes are right when a module is complete.
-/

namespace ScriptBind

open BindM AssemblyM

/-- The wrapper that a section is. -/
def Section.wrapper? : Section → Option Wrapper
  | .wrapper code => some code
  | _ => none

/-- A wrapper as the tables know it. -/
def Wrapper.wrapped (wrapper : Wrapper) : WrappedFunction :=
  ⟨wrapper.function.name, wrapper.params, wrapper.function.result⟩

namespace Session

/-- A session with one more wrapper, and nothing else said of functions. -/
structure Wraps (session session' : Session) (wrapper : Wrapper) : Prop where
  /-- The wrapper comes last. -/
  body : session'.body.filter Section.isOfFunctions =
    session.body.filter Section.isOfFunctions ++ [.wrapper wrapper]
  /-- The diagnostics for functions are the same. -/
  diagnostics : session'.diagnostics.filter Diagnostic.isOfFunction =
    session.diagnostics.filter Diagnostic.isOfFunction

/-- A session with one more function left out, and nothing else said of
    functions. -/
structure LeavesOut (session session' : Session) (name : String) : Prop where
  /-- The sections on functions are the same. -/
  body : session'.body.filter Section.isOfFunctions = session.body.filter Section.isOfFunctions
  /-- The diagnostic comes last. -/
  diagnostics : (session'.diagnostics.filter Diagnostic.isOfFunction).map Diagnostic.name =
    (session.diagnostics.filter Diagnostic.isOfFunction).map Diagnostic.name ++ [name]

end Session

section Wrapping

variable {library : Library}

/-- What is found of types and written for callbacks says nothing of functions. -/
theorem sparing_of_carries {α : Type} {action : BindM α}
    (h : Keeps library ((Scope.all library).Guarded Session.SparesFunctions) action) :
    Keeps library Session.SparesFunctions action :=
  Scope.keeps_all.1 h

/-- Each argument is for one parameter. -/
theorem wrapArguments_params (library : Library) (function : String) (params : List Parameter)
    (index : Nat) (rest : List Parameter) :
    Answers library (fun arguments => arguments.map Argument.param = rest)
      (wrapArguments function params index rest) := by
  induction rest generalizing index with
  | nil => exact .pure rfl
  | cons param rest ih =>
      have hfirst : Answers library (fun argument => argument.param = param)
          (wrapArgument function params index param) := by
        unfold wrapArgument
        refine .bind (.any _) fun conversion _ => .bind (.any _) fun isCallback _ => ?_
        split
        · unfold wrapCallback
          refine .bind (.any _) fun result _ => ?_
          cases result with
          | ok value => exact .pure rfl
          | error error => exact .bind (.any _) fun _ _ => .pure rfl
        · exact .bind (.any _) fun value _ => .pure rfl
      rw [wrapArguments]
      refine .bind hfirst fun argument ha => .bind (ih _) fun arguments hrest => .pure ?_
      rw [List.map_cons, ha, hrest]

/-- The wrapper of a function is written at the very end, and if it is not
    written, nothing is said of the function. -/
theorem wrapFunction_accounts (library : Library) (function : CFunction) (session : Session) :
    Ensures True library (wrapFunction function) session fun result session' =>
      match result with
      | .ok wrapped => ∃ wrapper : Wrapper, wrapper.function = function ∧
          wrapped = wrapper.wrapped ∧ session.Wraps session' wrapper
      | .error _ => session.SparesFunctions session' := by
  have hcarries := sparesFunctions_carries (Scope.all library)
  have harguments : Keeps library Session.SparesFunctions
      (wrapArguments function.name (namedParams function) 0 (namedParams function)) :=
    sparing_of_carries (hcarries.wrapArguments _ _ _ fun _ _ => trivial)
  have hvalue : Keeps library Session.SparesFunctions (wrapResult function) :=
    sparing_of_carries (hcarries.wrapResult trivial)
  rw [wrapFunction]
  split
  · exact refl_of Session.SparesFunctions session
  dsimp only
  rw [ensures_bind]
  refine ((harguments session).and (wrapArguments_params library _ _ _ _ session)).mono
    fun result session₁ hall => ?_
  obtain ⟨hspares, hparams⟩ := hall
  cases result with
  | error error => exact hspares
  | ok arguments =>
      dsimp only
      rw [ensures_bind]
      refine (hvalue.after hspares).mono fun result session₂ hspares => ?_
      cases result with
      | error error => exact hspares
      | ok value =>
          dsimp only
          rw [ensures_bind, ensures_update, ensures_pure]
          refine ⟨⟨function, arguments, value⟩, rfl, ?_, ?_, hspares.diagnostics⟩
          · rw [Wrapper.wrapped, Wrapper.params, hparams arguments rfl]
          · show (session₂.body ++ [_]).filter Section.isOfFunctions = _
            rw [List.filter_append, hspares.body]
            rfl

/-- A function gets one wrapper or one diagnostic, and always one of them. -/
theorem wrapOrReject_accounts {library : Library} (hl : library.isPatient = false)
    (function : CFunction) (session : Session) :
    Ensures False library (wrapOrReject function) session fun result session' =>
      (∃ wrapper : Wrapper, wrapper.function = function ∧ result = .ok (some wrapper.wrapped) ∧
        session.Wraps session' wrapper) ∨
        result = .ok none ∧ session.LeavesOut session' function.name := by
  have hboth : Ensures True library (wrapOrReject function) session fun result session' =>
      (∃ wrapper : Wrapper, wrapper.function = function ∧ result = .ok (some wrapper.wrapped) ∧
        session.Wraps session' wrapper) ∨
        result = .ok none ∧ session.LeavesOut session' function.name := by
    rw [wrapOrReject, ensures_bind, ensures_attempt]
    refine (wrapFunction_accounts library function session).mono fun result session' hresult => ?_
    cases result with
    | ok wrapped =>
        obtain ⟨wrapper, hfunction, rfl, hwraps⟩ := hresult
        exact Or.inl ⟨wrapper, hfunction, rfl, hwraps⟩
    | error error =>
        -- What is written of it in the code is a note, which is no section on functions.
        refine Or.inr ⟨rfl, ?_, ?_⟩
        · have hnote : ∀ code ∈ [Section.note (functionDiagnostic function error)],
              code.isOfFunctions = false := by
            intro code hc
            rw [List.mem_singleton.1 hc]
            rfl
          exact (filter_append_of_none session'.body hnote).trans hresult.body
        · show ((session'.diagnostics ++ [functionDiagnostic function error]).filter _).map _ = _
          rw [List.filter_append, List.map_append, hresult.diagnostics]
          rfl
  -- That it comes to an end is known apart from what it comes to.
  exact (((completes_impatient hl).wrapOrReject function session trivial).and hboth).mono
    fun _ _ hall => hall.2

end Wrapping

/-- What is written of functions is what is noted of them, in the same order. -/
structure Progress.Accounted (progress : Progress) : Prop where
  /-- The wrappers are those noted, and no list of functions left out is written. -/
  wrappers : ∃ wrappers : List Wrapper,
    progress.session.body.filter Section.isOfFunctions = wrappers.map .wrapper ∧
      wrappers.map Wrapper.wrapped = progress.wrapped.values
  /-- The diagnostics for functions are for those that have failed. -/
  diagnostics : (progress.session.diagnostics.filter Diagnostic.isOfFunction).map Diagnostic.name =
    progress.failed
  /-- No function has failed twice. -/
  once : progress.failed.Nodup

namespace Progress

variable {before after : Progress}

theorem Accounted.of_spares (h : before.Accounted)
    (hs : before.session.SparesFunctions after.session) (hw : after.wrapped = before.wrapped)
    (hf : after.failed = before.failed) : after.Accounted where
  wrappers := by rw [hs.body, hw]; exact h.wrappers
  diagnostics := by rw [hs.diagnostics, hf]; exact h.diagnostics
  once := by rw [hf]; exact h.once

/-- One more function has a wrapper. -/
theorem Accounted.wrap (h : before.Accounted) {session : Session} {wrapper : Wrapper}
    {name : String} (hw : before.session.Wraps session wrapper)
    (hn : before.wrapped.get? name = none) (endless : Nat) :
    ({ before with session, endless, wrapped := before.wrapped.add name wrapper.wrapped } :
      Progress).Accounted where
  wrappers := by
    obtain ⟨wrappers, hbody, hvalues⟩ := h.wrappers
    have hfresh : ¬before.wrapped.contains name := by
      rw [Table.contains, hn]
      exact Bool.false_ne_true
    refine ⟨wrappers ++ [wrapper], by rw [hw.body, hbody, List.map_append]; rfl, ?_⟩
    show _ = (before.wrapped.add name wrapper.wrapped).rows.map Prod.snd
    rw [Table.add_rows, if_neg hfresh, List.map_append, List.map_append, hvalues]
    rfl
  diagnostics := by rw [hw.diagnostics]; exact h.diagnostics
  once := h.once

/-- One more function is left out. -/
theorem Accounted.leaveOut (h : before.Accounted) {session : Session} {name : String}
    (hl : before.session.LeavesOut session name) (hn : name ∉ before.failed) (endless : Nat) :
    ({ before with session, endless, failed := addName before.failed name } :
      Progress).Accounted where
  wrappers := by rw [hl.body]; exact h.wrappers
  diagnostics := by rw [hl.diagnostics, h.diagnostics, addName, if_neg hn]
  once := nodup_addName h.once name

theorem accounted_start (naming : Naming) :
    ({ session := .start naming } : Progress).Accounted :=
  ⟨⟨[], rfl, rfl⟩, rfl, List.nodup_nil⟩

end Progress

section Assembling

variable {library : Library}

/-- What a computation comes to that always comes to an end. -/
theorem run_of_ensures {α : Type} {action : BindM α} {session : Session}
    {post : Except BindError α → Session → Prop} (h : Ensures False library action session post)
    (subject : String) :
    post (action.run subject library session).1 (action.run subject library session).2 := by
  obtain ⟨result, session', he, hpost⟩ := h.exists_outcome
  rw [BindM.run, he]
  exact hpost

/-- What is tried is noted and written. -/
theorem tryFunction_accounts (hl : library.isPatient = false) (function : CFunction) :
    Maintains library Progress.Accounted (tryFunction function) := by
  intro before hb
  show Ends library (tryFunction function) before fun _ after => after.Accounted
  rw [tryFunction, ends_bind, ends_get]
  cases hw : before.wrapped.get? function.name with
  | some wrapped => exact hb
  | none =>
      dsimp only
      split
      · exact hb
      · next hf =>
          rw [List.contains_iff_mem] at hf
          rw [ends_bind, ends_binding]
          have hresult := run_of_ensures (wrapOrReject_accounts hl function before.session)
            library.naming.moduleName
          generalize (wrapOrReject function).run library.naming.moduleName library before.session =
            result at hresult ⊢
          obtain ⟨answer, session⟩ := result
          -- One name is added to the notes on either side, and it was on none before.
          rcases hresult with ⟨wrapper, hfunction, rfl, hwraps⟩ | ⟨rfl, hleaves⟩
          · exact hb.wrap hwraps hw _
          · exact hb.leaveOut hleaves hf _

/-- Binding types and variables leaves the account as it is. -/
theorem binding_accounts {α : Type} {action : BindM α}
    (h : Keeps library Session.SparesFunctions action) :
    Maintains library Progress.Accounted (binding action) := by
  intro before hb
  have hs : before.session.SparesFunctions (binding action library before).2.session := by
    have hkeep : Preserves library (before.session.SparesFunctions) (binding action) :=
      .binding fun session hr => h.after hr
    exact hkeep before (refl_of Session.SparesFunctions before.session)
  exact hb.of_spares hs rfl rfl

variable {decls : Declarations} {options : Options}

/-- How far a module has come when it is complete. -/
def progressAtEnd (decls : Declarations) (options : Options) : Progress :=
  (assembleBody (modelOf decls options) (groupsOf decls options) (libraryOf decls options)
    { session := .start options.naming }).2

/-- The notes are right before the list of the functions left out is written,
    which is all that comes after. -/
theorem accounted_progressAtEnd (decls : Declarations) (options : Options) :
    ∃ before : Progress, before.Accounted ∧
      before.wrapped = (progressAtEnd decls options).wrapped ∧
      before.failed = (progressAtEnd decls options).failed ∧
      ∃ names, names =
          ((modelOf decls options).functions.map CFunction.name).filter before.failed.contains ∧
        (sessionAtEnd decls options) =
          if names.isEmpty then before.session else before.session.emit (.notGenerated names) := by
  have hcarries := sparesFunctions_carries (Scope.all (libraryOf decls options))
  have hemit : ∀ code : Section, code.isOfModule → code.isOfDeclared = false →
      Maintains (libraryOf decls options) Progress.Accounted (AssemblyM.emit code) :=
    fun code _ hcode before hb =>
      hb.of_spares (before.session.sparesKinds_emit (Bool.or_eq_false_iff.1 hcode).1) rfl rfl
  have hreject : ∀ (session : Session) (diagnostic : Diagnostic), diagnostic.kind = .global →
      session.SparesFunctions (session.reject diagnostic) := fun session diagnostic hd =>
    session.sparesKinds_reject (fun _ => rfl) (by rw [Diagnostic.isOfFunction, hd]; rfl)
  have hglobals : ∀ global ∈ decls.globals,
      (Scope.all (libraryOf decls options)).types global.type := fun _ _ => trivial
  have hshow := hcarries.showGlobals (fun session _ => session.sparesKinds_emit rfl) hreject
    hglobals
  have hdeclared : Maintains (libraryOf decls options) Progress.Accounted
      (assembleDeclared (modelOf decls options) (groupsOf decls options)) :=
    assembleDeclared_maintains hemit (fun function _ => tryFunction_accounts rfl function)
      (binding_accounts (sparing_of_carries hcarries.bindPointerCell))
      (binding_accounts (sparing_of_carries hshow))
  have hpending : Maintains (libraryOf decls options) Progress.Accounted (binding emitPending) :=
    binding_accounts (sparing_of_carries hcarries.emitPending)
  have hbefore := hpending _ (hdeclared _ (Progress.accounted_start options.naming))
  refine ⟨_, hbefore, ?_⟩
  -- What comes after is the list, and it is written of the notes made so far.
  have hlast : ∀ before : Progress, Ends (libraryOf decls options)
      (emitNotGenerated (modelOf decls options).functions) before fun _ after =>
        before.wrapped = after.wrapped ∧ before.failed = after.failed ∧ ∃ names, names =
            ((modelOf decls options).functions.map CFunction.name).filter before.failed.contains ∧
          after.session =
            if names.isEmpty then before.session
            else before.session.emit (.notGenerated names) := by
    intro before
    rw [emitNotGenerated, ends_bind, ends_get]
    dsimp only
    split
    · next he => exact ⟨rfl, rfl, _, rfl, (if_pos he).symm⟩
    · next he => exact ⟨rfl, rfl, _, rfl, (if_neg he).symm⟩
  exact hlast _

/-- The tables of a module follow the notes at its end. -/
theorem follows_progressAtEnd (decls : Declarations) (options : Options) :
    ∃ middle, (assemble decls options).exports.Follows options.naming (modelOf decls options)
      (groupsOf decls options) middle (progressAtEnd decls options) := by
  have hends : Ends (libraryOf decls options)
      (assembleBody (modelOf decls options) (groupsOf decls options)) _ _ :=
    assembleBody_ends _ _ (.start options.naming)
  exact hends

end Assembling

end ScriptBind
