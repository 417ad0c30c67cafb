import ScriptBind.Proofs.Operations
import ScriptBind.Proofs.SufficientLevels
import ScriptBind.Proofs.Termination

/-!
# Everything Comes to an End

The number of levels that resolving and binding are granted depends on what the
library declares, on what the session has put off and on what is asked for. From
a tidy session it is enough, provided that no typedef is made from itself, so
resolving and binding come to an end by themselves and leave a tidy session.

What a callback returns may be a callback to be registered, whose trampoline is
written first, and so on. This comes to an end because the signature behind the
type of a result weighs less than the signature with the result, if the callback
has been made for the place. One that the session has known before need not have
been. But it goes by the name of results, so its trampoline is already written:
no member of a record waits under this name.

All of this holds with and without patience. With patience it means that nothing
was given up on the way.

## Main definitions

* `Operation.performAll`: The session after some operations, if all of them come to
  an end.

## Theorems

* `Tidy.exists_extent`: The levels granted are enough.
* `settles_of_isFounded`: Types and records are settled.
* `renderWithin_completes`: So are trampolines.
* `completes_of_isFounded`: Everything comes to an end.
* `ends_of_isFounded`: So do any operations, and putting a module together.
* `resolve_selfMade`: A typedef made from itself is never settled.
-/

namespace ScriptBind

open BindM

variable {library : Library}

/-- A tidy session fits an extent that holds what the library declares and what
    else is to be bound, and the levels granted are enough for it. -/
theorem Session.Tidy.exists_extent {session : Session} (h : session.Tidy) (library : Library)
    (entries : List (String × Record)) (extra : Nat) {size : Nat}
    (hsize : total (entries.map fun entry => entry.2.size) + extra ≤ size) :
    ∃ extent : Extent, extent.Covers library ∧ session.Fits extent library ∧
      (∀ entry ∈ entries, extent.Holds library.decls entry.1 entry.2) ∧
      session.room extent + (extra + library.decls.typedefSize + 1) ≤
        levelsFor (library.decls.size + session.pendingSize + size) := by
  let waiting := session.deferred.rows.map fun row => (row.1, row.2.record)
  let reach := library.decls.size + total ((waiting ++ entries).map fun entry => entry.2.size)
  obtain ⟨extent, hcovers, hkeys, hstride, hholds⟩ :=
    exists_covers library (waiting ++ entries) (Nat.le_refl reach)
  have hwaiting : total (waiting.map fun entry => entry.2.size) ≤ session.pendingSize := by
    show total ((session.deferred.rows.map _).map _) ≤ _
    rw [Session.pendingSize, Table.values, List.map_map, List.map_map]
    exact Nat.le_add_right _ _
  have hreach : reach = library.decls.size + (total (waiting.map fun entry => entry.2.size) +
      total (entries.map fun entry => entry.2.size)) := by
    show _ + total (List.map _ (waiting ++ entries)) = _
    rw [List.map_append, total_append]
  have hcell : pointerCell.size ≤ 31 := by decide +kernel
  have htypedefs : library.decls.typedefSize ≤ library.decls.size := Nat.le_add_left ..
  refine ⟨extent, hcovers, ⟨h, fun row hrow => ?_⟩, fun entry he => ?_, ?_⟩
  · exact hholds (row.1, row.2.record) (List.mem_append_left _ (List.mem_map_of_mem hrow))
  · exact hholds entry (List.mem_append_right _ he)
  · -- The room is at most quadratic in what there is, and the levels are cubic.
    have hroom := session.room_le extent
    have hmul := Nat.mul_le_mul_right extent.stride hkeys
    have hdouble : (reach + pointerCell.size) * (reach + pointerCell.size + 1) ≤
        (reach + pointerCell.size) * (2 * (reach + pointerCell.size) + 1) :=
      Nat.mul_le_mul_left _ (by omega)
    have hcube : (reach + pointerCell.size) * (2 * (reach + pointerCell.size) + 1) +
        3 * (reach + pointerCell.size) + extra + 2 ≤
          levelsFor (library.decls.size + session.pendingSize + size) :=
      Session.le_cube (by
        have hlimit : aliasLimit = 32 := rfl
        omega)
    rw [hstride] at hroom hmul
    omega

/-- What needs no more levels than are granted is settled. -/
theorem withBinders_completes {α : Type} (hd : library.decls.IsFounded) (subject : String)
    (entries : List (String × Record)) (extra : Nat) {size : Nat}
    (hsize : total (entries.map fun entry => entry.2.size) + extra ≤ size)
    {P : α → Prop} {f : Binders → BindM α}
    (hf : ∀ extent levels binders, binders.Suffice library extent levels →
      (∀ entry ∈ entries, extent.Holds library.decls entry.1 entry.2) →
      Needs library extent levels (extra + library.decls.typedefSize + 1) P (f binders)) :
    BindM.Completes library Session.Tidy (withBinders subject size f) := by
  refine .settled (fun session hs => ?_) subject
  obtain ⟨extent, hcovers, hfits, hentries, henough⟩ := hs.exists_extent library entries extra hsize
  have hneeds := hf extent _ _ (bindersWithin_suffice hd hcovers
    (levelsFor (library.decls.size + session.pendingSize + size))) hentries session hfits
  rw [ensures_bind, ensures_look]
  exact (hneeds.excuse fun he => absurd he (Nat.not_lt_of_le henough)).mono
    fun _ _ hall => hall.1.1.tidy

/-- From tidy sessions, types and records are settled. -/
theorem settles_of_isFounded (hd : library.decls.IsFounded) : library.Settles Session.Tidy where
  resolve := fun type =>
    withBinders_completes hd _ [] type.size
      (Nat.le_of_eq (Nat.zero_add _)) fun extent levels binders h _ =>
        (h.resolve 0 type).le (Nat.succ_le_succ (library.decls.weight_le type))
  array := fun element length =>
    withBinders_completes hd _ [] element.size
      (Nat.le_of_eq (Nat.zero_add _)) fun extent levels binders h _ =>
        (arrayConversion_needs h element length).le (by
          have hweight := library.decls.weight_le (.array element length)
          rw [CType.size] at hweight
          omega)
  openArray := fun element =>
    withBinders_completes hd _ [] element.size
      (Nat.le_of_eq (Nat.zero_add _)) fun extent levels binders h _ =>
        (openArrayConversion_needs h element).le
          (Nat.succ_le_succ (library.decls.weight_le element))
  bindStruct := fun key record =>
    withBinders_completes hd _ [(key, record)] 0
      (Nat.le_refl _) fun extent levels binders h hentries =>
        (h.bind key record none (hentries _ (List.mem_singleton_self _))).le
          (Nat.succ_le_succ (Nat.zero_le _))
  emit := fun _ _ hs => hs.of_eq rfl rfl rfl
  reject := fun _ _ hs => hs.of_eq rfl rfl rfl
  fail := fun _ id error hs => hs.settleFailed id error
  write := fun _ callback hs => hs.write callback

/-- What a callback returns is registered, if the trampoline of a callback made
    for it can be found. A callback that the session knows by the name of results
    has its trampoline. -/
theorem registerResult_completes (h : library.Settles Session.Tidy) {type : CType}
    {render : Callback → BindM Trampoline}
    (hrender : ∀ callback, library.decls.functionPointer type = some callback.signature →
      BindM.Completes library Session.Tidy (render callback)) :
    BindM.Completes library Session.Tidy (registerWith (emitWith render) (resultSite type)) := by
  intro session hs
  rw [registerWith, ensures_bind, ensures_read]
  dsimp only
  split
  · exact hs
  next signature hsignature =>
  split
  · exact hs
  rw [ensures_bind]
  have hid : callbackName (resultSite type).ownerName (resultSite type).name = resultId := rfl
  rw [marshal, hid, ensures_bind, ensures_look]
  dsimp only
  split
  · next callback hp => exact absurd rfl (hs.pending _ _ hp).2
  · next callback he =>
      have hname : callback.name = resultId := hs.emitted _ _ he
      rw [ensures_pure]
      dsimp only
      rw [ensures_bind, emitWith, ensures_bind, ensures_look, hname]
      dsimp only
      rw [he]
      exact hs
  · exact hs
  · have hmade := check_meets library resolve (.ofSite (resultSite type) signature) session
    rw [ensures_bind, ensures_attempt]
    refine ((h.checkCallback signature _ resultId none session hs).and hmade).mono
      fun result session' hall => ?_
    obtain ⟨hs', hmet⟩ := hall
    cases result with
    | ok callback =>
        have hsame : callback.signature = signature := (hmet callback rfl).signature
        rw [← hsame] at hsignature
        exact (h.emitWith (hrender callback hsignature)).bind (fun _ => .pure _) session' hs'
    | error error => exact hs'.settleFailed resultId error

/-- The trampoline of a callback is found within as many callbacks that return
    callbacks as the signature weighs. -/
theorem renderWithin_completes (hd : library.decls.IsFounded) (levels : Nat) {callback : Callback}
    (hl : library.decls.weight (.function callback.signature) ≤ levels) :
    BindM.Completes library Session.Tidy (renderWithin levels callback) := by
  have h := settles_of_isFounded hd
  induction levels generalizing callback with
  | zero => exact absurd hl (Nat.not_le_of_lt (library.decls.weight_pos _))
  | succ levels ih =>
      rw [renderWithin]
      unfold renderWith
      refine .bind (h.convertArguments _ _ _) fun arguments => ?_
      split
      · exact .pure _
      refine .bind (.bind ((h.resolve _).within _) fun conversion => ?_) fun _ => .pure _
      unfold convertWith
      split
      · exact .pure _
      · refine registerResult_completes h fun other hother => ih ?_
        -- The result weighs less than the callback, and no less than what it registers.
        have hresult : library.decls.weight callback.signature.result <
            library.decls.weight (.function callback.signature) :=
          Declarations.weight_type (List.mem_cons_self ..)
        have hregistered := Declarations.weight_signature hd hother
        omega

/-- From tidy sessions everything comes to an end, and in tidy ones, unless a
    typedef is made from itself. -/
theorem completes_of_isFounded (hd : library.decls.IsFounded) : library.Completes Session.Tidy where
  toSettles := settles_of_isFounded hd
  render := fun callback => by
    refine .settled (fun session hs => ?_) callback.name
    rw [ensures_bind, ensures_look]
    refine renderWithin_completes hd _ ?_ session hs
    have hweight := library.decls.weight_le (.function callback.signature)
    have htypedefs : library.decls.typedefSize ≤ library.decls.size := Nat.le_add_left ..
    show _ ≤ library.decls.size + (CType.function callback.signature).size + 1
    omega

/-- Every operation comes to an end if what is settled does. -/
theorem Library.Completes.action {P : Session → Prop} (h : library.Completes P)
    (operation : Operation) : BindM.Completes library P operation.action := by
  cases operation with
  | resolve type => exact .bind (h.resolve type) fun _ => .pure _
  | bind key record => exact .bind (h.bindStruct key record) fun _ => .pure _
  | array element length => exact .bind (h.array element length) fun _ => .pure _
  | openArray element => exact .bind (h.openArray element) fun _ => .pure _
  | register site => exact .bind (h.registerWith h.emitCallback site) fun _ => .pure _
  | emit callback => exact h.emitCallback callback
  | emitPending => exact h.emitPending
  | wrap function => exact .bind (h.wrapFunction function) fun _ => .pure _
  | wrapOrReject function => exact .bind (h.wrapOrReject function) fun _ => .pure _
  | showGlobals globals => exact .bind (h.showGlobals globals) fun _ => .pure _
  | bindCell => exact h.bindPointerCell

/-- The session after some operations, one after another, if all of them come to an
    end. Each may fail. -/
def Operation.performAll (library : Library) : List Operation → Session → Option Session
  | [], session => some session
  | operation :: rest, session =>
    (operation.action.outcome library session).bind fun result => performAll library rest result.2

/-- Operations come to an end one after another. -/
theorem Library.Completes.performAll {P : Session → Prop} (h : library.Completes P)
    (operations : List Operation) {session : Session} (hs : P session) :
    ∃ session', Operation.performAll library operations session = some session' ∧ P session' := by
  induction operations generalizing session with
  | nil => exact ⟨session, rfl, hs⟩
  | cons operation rest ih =>
      obtain ⟨result, session', ho, hs'⟩ := (h.action operation session hs).exists_outcome
      rw [Operation.performAll, ho, Option.bind_some]
      exact ih hs'

/-- A module is put together from what comes to an end. -/
theorem Library.Completes.assembleBody {P : Session → Prop} (h : library.Completes P)
    (model : ClassModel) (groups : Table EnumGroup) :
    AssemblyM.Maintains library (fun progress => P progress.session ∧ progress.endless = 0)
      (ScriptBind.assembleBody model groups) := by
  have hbinding : ∀ {α : Type} {action : BindM α}, BindM.Completes library P action →
      AssemblyM.Maintains library (fun progress => P progress.session ∧ progress.endless = 0)
        (AssemblyM.binding action) := by
    rintro α action haction progress ⟨hs, hzero⟩
    obtain ⟨result, session', ho, hs'⟩ := (haction progress.session hs).exists_outcome
    rw [AssemblyM.binding, ho]
    exact ⟨hs', hzero⟩
  exact assembleBody_maintains (fun _ _ _ hp => hp)
    (fun code _ progress hp => ⟨h.emit progress.session code hp.1, hp.2⟩)
    (fun function _ => hbinding (h.wrapOrReject function)) (hbinding h.bindPointerCell)
    (hbinding (h.showGlobals _)) (hbinding h.emitPending)

/-- Unless a typedef is made from itself, all operations that can be asked for come
    to an end, in whatever order, and so does putting a module together. No record
    is bound once more a second time. -/
theorem ends_of_isFounded (library : Library) (hd : library.decls.IsFounded) :
    (∀ operations : List Operation, ∃ session,
      Operation.performAll library operations (.start library.naming) = some session ∧
        session.retried.Nodup) ∧
      ∀ (model : ClassModel) (groups : Table EnumGroup),
        let progress := (assembleBody model groups library { session := .start library.naming }).2
        progress.endless = 0 ∧ progress.session.retried.Nodup := by
  have h := completes_of_isFounded hd
  have hstart := Session.tidy_start library.naming
  refine ⟨fun operations => ?_, fun model groups => ?_⟩
  · obtain ⟨session, hperform, hs⟩ := h.performAll operations hstart
    exact ⟨session, hperform, hs.once⟩
  · have hend := h.assembleBody model groups { session := .start library.naming } ⟨hstart, rfl⟩
    exact ⟨hend.2, hend.1.once⟩

/-- Two records, of which each leads to the other and to itself, and a typedef for
    callbacks over both. -/
def interwovenRecords : Declarations where
  records := .ofRows
    [("node", ⟨"node", .struct,
        [⟨"next", .pointerTo (.named "node"), none⟩, ⟨"leaf", .named "leaf", none⟩,
          ⟨"visit", .named "visit_cb", none⟩]⟩),
      ("leaf", ⟨"leaf", .struct,
        [⟨"owner", .pointerTo (.named "node"), none⟩, ⟨"self", .named "leaf", none⟩,
          ⟨"visit", .named "visit_cb", none⟩]⟩)]
  typedefs := .ofRows
    [("visit_cb", .pointerTo (.function
      ⟨.named "leaf", [.pointerTo (.named "node"), .named "node"], false⟩))]

/-- A typedef that is made from records only. -/
theorem interwovenRecords_isFounded : interwovenRecords.IsFounded := by
  have hmade : ∀ {name other : String}, interwovenRecords.MadeFrom name other →
      name = "visit_cb" ∧ other ≠ "visit_cb" := by
    rintro name other ⟨type, ht, ho⟩
    have hm := Table.mem_of_get? ht
    obtain ⟨rfl, rfl⟩ := Prod.mk.inj (List.mem_singleton.1 hm)
    refine ⟨rfl, ?_⟩
    revert ho
    revert other
    decide +kernel
  intro name hself
  obtain ⟨other, hfirst, hrest⟩ := Relation.TransGen.head'_iff.1 hself
  rcases Relation.ReflTransGen.cases_head hrest with rfl | ⟨third, hnext, -⟩
  · exact (hmade hfirst).2 (hmade hfirst).1
  · exact (hmade hfirst).2 (hmade hnext).1

/-- A library that declares them, with the patience to wait. -/
def interwovenLibrary : Library where
  decls := interwovenRecords
  naming := { moduleName := "m", scope := "m" }
  patience := ⟨true⟩

set_option maxRecDepth 100000 in
/-- Nobody waits in vain for records that lead to each other, although both are put
    off. -/
theorem ends_interwovenLibrary :
    interwovenLibrary.isPatient ∧ interwovenLibrary.decls.IsFounded ∧
      (∃ session, Operation.performAll interwovenLibrary [.resolve (.named "node"), .emitPending]
          (.start interwovenLibrary.naming) = some session ∧ session.retried.Nodup) ∧
      (Operation.performAll interwovenLibrary [.resolve (.named "node"), .emitPending]
        (.start interwovenLibrary.naming)).map (·.retried) = some ["leaf", "node"] :=
  ⟨rfl, interwovenRecords_isFounded,
    (ends_of_isFounded interwovenLibrary interwovenRecords_isFounded).1
      [.resolve (.named "node"), .emitPending], by decide +kernel⟩

/-- A typedef for arrays of itself, and the patience to wait for it. -/
def selfMadeLibrary : Library where
  decls := { typedefs := .ofRows [("t", .array (.named "t") 2)] }
  naming := { moduleName := "m", scope := "m" }
  patience := ⟨true⟩

/-- The limit on links of typedefs is no help where arrays lie between them: no
    number of levels is enough. -/
theorem resolveWithin_selfMade (levels : Nat) :
    Ensures True selfMadeLibrary ((bindersWithin levels).resolve 0 (.named "t"))
        (.start selfMadeLibrary.naming) (fun _ _ => False) ∧
      Ensures True selfMadeLibrary ((bindersWithin levels).resolve 1 (.array (.named "t") 2))
        (.start selfMadeLibrary.naming) (fun _ _ => False) := by
  have htype : (Session.start selfMadeLibrary.naming).registry.get? (CType.named "t").spelling =
      none := by decide +kernel
  have harray : (Session.start selfMadeLibrary.naming).registry.get?
      (CType.array (.named "t") 2).spelling = none := by decide +kernel
  have hrecord : selfMadeLibrary.decls.records.get? "t" = none := rfl
  have htypedef : selfMadeLibrary.decls.typedefs.get? "t" = some (.array (.named "t") 2) := rfl
  have henum : selfMadeLibrary.decls.isEnum (.named "t") = false := by decide +kernel
  have helement : selfMadeLibrary.decls.isElement (.named "t") = true := by decide +kernel
  have hlimit : ∀ links ≤ 1, ¬ links > aliasLimit := by decide
  induction levels with
  | zero => exact ⟨trivial, trivial⟩
  | succ levels ih =>
      refine ⟨?_, ?_⟩
      · show Ensures True _ (resolveStep (bindersWithin levels) 0 (.named "t")) _ _
        rw [resolveStep, ensures_bind, ensures_look, htype]
        dsimp only
        rw [if_neg (hlimit 0 (by decide)), resolveFresh, resolveNamed, ensures_bind, ensures_look]
        dsimp only
        rw [hrecord, htypedef]
        dsimp only
        rw [resolveTypedef, ensures_bind, ensures_look]
        dsimp only
        rw [henum, if_neg Bool.false_ne_true, ensures_bind]
        exact ih.2.mono fun _ _ hfalse => hfalse.elim
      · show Ensures True _ (resolveStep (bindersWithin levels) 1 (.array (.named "t") 2)) _ _
        rw [resolveStep, ensures_bind, ensures_look, harray]
        dsimp only
        rw [if_neg (hlimit 1 (by decide)), resolveFresh, arrayConversion, ensures_bind,
          ensures_look, harray]
        dsimp only
        rw [if_neg (by decide), ensures_bind, elementConversion, ensures_bind,
          ensures_look, helement]
        dsimp only
        rw [if_pos rfl, ensures_within]
        exact ih.1.mono fun _ _ hfalse => hfalse.elim

/-- Whoever waits for such a typedef waits in vain. -/
theorem resolve_selfMade :
    (resolve (.named "t")).outcome selfMadeLibrary (.start selfMadeLibrary.naming) = none := by
  refine Ensures.outcome_eq_none ?_
  rw [resolve, withBinders, ensures_settled, ensures_bind, ensures_look]
  dsimp only
  generalize levelsFor _ = levels
  exact (resolveWithin_selfMade levels).1

end ScriptBind
