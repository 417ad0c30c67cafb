import ScriptBind.Binding.FunctionWrapper
import ScriptBind.Binding.PointerCell
import ScriptBind.Module.Globals
import ScriptBind.Proofs.Ensures

/-!
# What Comes to an End

Finding the conversion of a type need not come to an end within its bounds, for
a library may declare a type that is made of itself. It is settled where it is
asked for from outside: without an end it fails, unless one waits for it. So is
finding a trampoline. Everything else is put together from these two and from
steps that look, change the session or fail, and comes to an end with them.

With or without patience is the same argument, so it is made once. It needs a
property of sessions from which the settled computations come to an end, and
which everything keeps. Without patience any property will do.

## Main definitions

* `BindM.Completes`: A computation that comes to an end from every session with
  a property, which it keeps.
* `Library.Settles`: Types and records are settled, and changes keep the
  property.
* `Library.Completes`: So are trampolines.

## Theorems

* `Completes.bind`, `Completes.settled`: One computation after another, and a
  settled one.
* `emitWith`, `registerWith`: A trampoline is written or not, and a callable
  registered or not.
* `wrapOrReject`, `emitPending`: A function is wrapped or left out, and what
  waits is written.
* `completes_impatient`: Without patience everything comes to an end, whatever
  the library declares.
-/

namespace ScriptBind

namespace BindM

variable {α β : Type} {library : Library} {P : Session → Prop}

/-- A computation that comes to an end from every session with a property, and
    keeps the property. -/
def Completes (library : Library) (P : Session → Prop) (action : BindM α) : Prop :=
  ∀ session, P session → Ensures False library action session fun _ session' => P session'

namespace Completes

theorem pure (answer : α) : Completes library P (Pure.pure answer : BindM α) := fun _ hs => hs

theorem fail (error : BindError) : Completes library P (BindM.fail error : BindM α) :=
  fun _ hs => hs

theorem read : Completes library P (read : BindM Library) := fun _ hs => hs

theorem look (f : Library → Session → α) : Completes library P (BindM.look f) := fun _ hs => hs

theorem update {f : Library → Session → Session}
    (h : ∀ session, P session → P (f library session)) : Completes library P (BindM.update f) := h

theorem ofExcept (result : Except BindError α) : Completes library P (BindM.ofExcept result) :=
  fun _ hs => ensures_ofExcept.2 hs

theorem attempt {action : BindM α} (h : Completes library P action) :
    Completes library P action.attempt :=
  fun session hs => ensures_attempt.2 (h session hs)

theorem within {action : BindM α} (h : Completes library P action) (place : String) :
    Completes library P (action.within place) :=
  fun session hs => ensures_within.2 (h session hs)

/-- A settled computation that comes to an end by itself. -/
theorem settled {action : BindM α} (h : Completes library P action) (subject : String) :
    Completes library P (action.settled subject) :=
  fun session hs => ensures_settled.2 ((h session hs).excuse False.elim)

/-- One computation after another. A failure of the first is an end of both. -/
theorem bind {action : BindM β} {next : β → BindM α} (h : Completes library P action)
    (hnext : ∀ answer, Completes library P (next answer)) :
    Completes library P (action >>= next) := by
  intro session hs
  rw [ensures_bind]
  refine (h session hs).mono fun result session' hs' => ?_
  cases result with
  | ok answer => exact hnext answer session' hs'
  | error error => exact hs'

theorem forM {f : β → BindM PUnit} (items : List β) (h : ∀ item, Completes library P (f item)) :
    Completes library P (items.forM f) := by
  induction items with
  | nil => exact .pure _
  | cons item rest ih =>
      show Completes library P (f item >>= fun _ => rest.forM f)
      exact (h item).bind fun _ => ih

end Completes

end BindM

open BindM

/-- Types and records are settled from every session with a property, and the
    property is kept by what else there is to do. -/
structure Library.Settles (library : Library) (P : Session → Prop) : Prop where
  /-- The conversion of a type. -/
  resolve : ∀ type, BindM.Completes library P (resolve type)
  /-- That of arrays of a fixed length. -/
  array : ∀ element length, BindM.Completes library P (resolveArray element length)
  /-- That of arrays of unknown length. -/
  openArray : ∀ element, BindM.Completes library P (resolveOpenArray element)
  /-- Binding a record. -/
  bindStruct : ∀ key record, BindM.Completes library P (bindStruct key record)
  /-- Code is written. -/
  emit : ∀ session code, P session → P (session.emit code)
  /-- A declaration is left out. -/
  reject : ∀ session diagnostic, P session → P (session.reject diagnostic)
  /-- A callback fails. -/
  fail : ∀ session id error, P session → P (session.settleCallback id (.failed error))
  /-- A callback has its trampoline. -/
  write : ∀ session (callback : Callback), P session →
    P (session.settleCallback callback.name (.emitted callback))

/-- Trampolines are settled as well. -/
structure Library.Completes (library : Library) (P : Session → Prop) : Prop extends
    library.Settles P where
  /-- The trampoline of a callback. -/
  render : ∀ callback, BindM.Completes library P (renderCallback callback)

namespace Library.Settles

variable {library : Library} {P : Session → Prop} (h : library.Settles P)

include h

/-- The values of a callback are looked at, whatever they are. -/
theorem checkCallback (signature : Signature) (typeName id : String)
    (expected : Option (String × Record)) :
    BindM.Completes library P
      (ScriptBind.checkCallback ScriptBind.resolve signature typeName id expected) := by
  have hparams : BindM.Completes library P ((signature.params.filter (!·.isPointer)).forM
      fun param => do let _ ← ScriptBind.resolve param) :=
    .forM _ fun param => .bind (h.resolve param) fun _ => .pure _
  have hvalues : BindM.Completes library P (checkValues ScriptBind.resolve signature) := by
    unfold checkValues
    dsimp only
    split
    · exact hparams
    · exact .bind (h.resolve _) fun _ => hparams
  unfold ScriptBind.checkCallback
  split
  · exact .fail _
  · exact .bind .read fun _ => .bind (.ofExcept _) fun _ =>
      .bind (hvalues.within _) fun _ => .pure _

/-- A callback is marshaled or not. -/
theorem marshal (signature : Signature) (typeName owner name : String)
    (expected : Option (String × Record)) :
    BindM.Completes library P
      (ScriptBind.marshal ScriptBind.resolve signature typeName owner name expected) := by
  unfold ScriptBind.marshal
  refine .bind (.look _) fun state => ?_
  -- A callback that is known already is answered at once, or fails as before.
  split
  · exact .pure _
  · exact .pure _
  · exact .fail _
  · refine .bind (h.checkCallback signature typeName _ expected).attempt fun result => ?_
    cases result with
    | ok callback => exact .pure _
    | error error =>
        exact .bind (.update fun session hs => h.fail session _ error hs) fun _ => .fail _

/-- A trampoline is written if it can be found. -/
theorem emitWith {render : Callback → BindM Trampoline} {callback : Callback}
    (hrender : BindM.Completes library P (render callback)) :
    BindM.Completes library P (ScriptBind.emitWith render callback) := by
  unfold ScriptBind.emitWith
  refine .bind (.look _) fun state => ?_
  split
  · exact .pure _
  · refine .bind hrender.attempt fun result => ?_
    cases result with
    | ok trampoline => exact .update fun session hs => h.write _ callback (h.emit session _ hs)
    | error error =>
        exact .bind (.update fun session hs => h.fail session _ error hs) fun _ => .fail _

/-- A callable is registered if the trampoline is written. -/
theorem registerWith {emit : Callback → BindM Unit}
    (hemit : ∀ callback, BindM.Completes library P (emit callback))
    (site : Site) : BindM.Completes library P (ScriptBind.registerWith emit site) := by
  unfold ScriptBind.registerWith
  refine .bind .read fun library' => ?_
  dsimp only
  split
  · exact .fail _
  split
  · exact .fail _
  · exact .bind (h.marshal _ _ _ _ _) fun callback => .bind (hemit callback) fun _ => .pure _

/-- The arguments of a callback are converted or not. -/
theorem convertArguments (place : String) (index : Nat) (types : List CType) :
    BindM.Completes library P (ScriptBind.convertArguments place index types) := by
  induction types generalizing index with
  | nil => exact .pure _
  | cons type rest ih =>
      have hfirst : BindM.Completes library P (ScriptBind.convertArgument place index type) :=
        .bind ((h.resolve type).within place) fun _ => .pure _
      exact hfirst.bind fun _ => (ih (index + 1)).bind fun _ => .pure _

end Library.Settles

namespace Library.Completes

variable {library : Library} {P : Session → Prop} (h : library.Completes P)

include h

/-- A trampoline is written or not. -/
theorem emitCallback (callback : Callback) : BindM.Completes library P (emitCallback callback) :=
  h.emitWith (h.render callback)

theorem convertInward (conversion : Conversion) (site : Site) :
    BindM.Completes library P (convertInward conversion site) := by
  unfold ScriptBind.convertInward convertWith
  split
  · exact .pure _
  · exact h.registerWith h.emitCallback site

/-- Whatever waits gets its trampoline or a stub. -/
theorem emitPending : BindM.Completes library P emitPending := by
  have hone : ∀ callback, BindM.Completes library P (emitOrStub callback) := by
    intro callback
    unfold emitOrStub
    refine .bind (h.emitCallback callback).attempt fun result => ?_
    cases result with
    | ok _ => exact .pure _
    | error error => exact .update fun session hs => h.reject _ _ (h.emit session _ hs)
  unfold ScriptBind.emitPending
  exact .bind (.look _) fun callbacks => .forM callbacks hone

theorem wrapArgument (function : String) (params : List Parameter) (index : Nat)
    (param : Parameter) : BindM.Completes library P (wrapArgument function params index param) := by
  have hparam : BindM.Completes library P (resolveParam param.type) := by
    unfold resolveParam
    split
    · exact h.openArray _
    · exact h.resolve _
  unfold ScriptBind.wrapArgument
  refine .bind (hparam.within _) fun conversion => .bind (.look _) fun isCallback => ?_
  split
  · unfold wrapCallback
    refine .bind (h.convertInward _ _).attempt fun result => ?_
    cases result with
    | ok value => exact .pure _
    | error error => exact .bind (.update fun session hs => h.reject session _ hs) fun _ => .pure _
  · exact .bind (h.convertInward _ _) fun _ => .pure _

theorem wrapArguments (function : String) (params : List Parameter) (index : Nat)
    (rest : List Parameter) :
    BindM.Completes library P (wrapArguments function params index rest) := by
  induction rest generalizing index with
  | nil => exact .pure _
  | cons param rest ih =>
      rw [ScriptBind.wrapArguments]
      exact .bind (h.wrapArgument _ _ _ _) fun _ => .bind (ih _) fun _ => .pure _

theorem wrapResult (function : CFunction) : BindM.Completes library P (wrapResult function) := by
  have hresult : BindM.Completes library P (resolveResult function) := by
    unfold resolveResult
    refine .bind (.look _) fun returnsArray => ?_
    split
    · exact h.resolve _
    · exact h.resolve _
    · split
      · exact h.openArray _
      · exact h.resolve _
    · exact h.resolve _
  unfold ScriptBind.wrapResult
  split
  · exact .pure _
  · exact .bind (hresult.within _) fun _ => .pure _

theorem wrapFunction (function : CFunction) :
    BindM.Completes library P (wrapFunction function) := by
  unfold ScriptBind.wrapFunction
  split
  · exact .fail _
  · exact .bind (h.wrapArguments _ _ _ _) fun _ => .bind (h.wrapResult _) fun _ =>
      .bind (.update fun session hs => h.emit session _ hs) fun _ => .pure _

/-- A function is wrapped or left out. -/
theorem wrapOrReject (function : CFunction) :
    BindM.Completes library P (wrapOrReject function) := by
  unfold ScriptBind.wrapOrReject
  refine .bind (h.wrapFunction function).attempt fun result => ?_
  cases result with
  | ok wrapped => exact .pure _
  | error error => exact .bind (.update fun session hs => h.reject session _ hs) fun _ => .pure _

/-- Variables are shown or left out. -/
theorem showGlobals (globals : List Global) : BindM.Completes library P (showGlobals globals) := by
  have hone : ∀ global, BindM.Completes library P (showGlobal global) := by
    intro global
    unfold showGlobal
    refine .bind (h.resolve _).attempt fun resolved => .bind (.look _) fun name => ?_
    split
    · exact .bind (.update fun session hs => h.emit session _ hs) fun _ => .pure _
    · exact .bind (.update fun session hs => h.reject session _ hs) fun _ => .pure _
  induction globals with
  | nil => exact .pure _
  | cons global rest ih =>
      rw [ScriptBind.showGlobals]
      exact .bind (hone global) fun _ => .bind ih fun _ => .pure _

/-- The cell for a pointer is written, and bound or not. -/
theorem bindPointerCell : BindM.Completes library P bindPointerCell := by
  unfold ScriptBind.bindPointerCell
  exact .bind (.update fun session hs => h.emit session _ hs) fun _ =>
    .bind (h.bindStruct _ _).attempt fun _ => .pure _

end Library.Completes

/-- Without patience everything comes to an end, whatever the library declares. -/
theorem completes_impatient {library : Library} (hl : library.isPatient = false) :
    library.Completes fun _ => True := by
  have hsettled : ∀ {α : Type} (action : BindM α) (subject : String),
      BindM.Completes library (fun _ => True) (action.settled subject) := by
    intro α action subject session _
    rw [ensures_settled, hl]
    exact ensures_of_forall (fun _ _ => trivial) trivial
  exact
    { resolve := fun _ => hsettled _ _
      array := fun _ _ => hsettled _ _
      openArray := fun _ => hsettled _ _
      bindStruct := fun _ _ => hsettled _ _
      render := fun _ => hsettled _ _
      emit := fun _ _ _ => trivial
      reject := fun _ _ _ => trivial
      fail := fun _ _ _ _ => trivial
      write := fun _ _ _ => trivial }

end ScriptBind
