import ScriptBind.Proofs.TidySessions
import ScriptBind.Proofs.Wiring

/-!
# Binding Comes to an End

Resolving a type leads to other types and to records, binding a record to the
types of its members, and what was put off is bound in the middle of all this. It
comes to an end nevertheless if no typedef is made from itself. What falls from
one level to the next is the room of the session together with the weight of the
type: a part of a type weighs less than the type, a record that is entered takes
as much room as any type in it weighs, and a record that is taken up again takes
some room as well. The limit on links of typedefs plays no part in this.

The steps need not know what they bind. They need not even know which records a
session has met before: it is enough that the session fits the extent. So each
step is given what it needs of the ones below, a number of levels beyond the room
of the session, and is shown to need as much itself as its type weighs.

## Main definitions

* `BindM.Needs`: A computation that needs no more levels than there is room for
  and some more.
* `Binders.Suffice`: Ways to resolve and bind that need as much as types weigh.

## Theorems

* `Needs.bind`: One computation after another.
* `marshal_needs`: A callback is known by the name of its place.
* `bindFresh_ends`, `retryDeferred_ends`: A record is bound, and what was put off
  is bound once more.
* `bindStep_needs`, `resolveStep_needs`: One level of binding and resolving.
* `bindersWithin_suffice`: Any number of levels.
-/

namespace ScriptBind

variable {library : Library} {extent : Extent} {levels cost : Nat}

namespace BindM

variable {α β : Type}

/-- A computation that needs no more levels than there is room for and the given
    number besides. Unless there are fewer it comes to an end, in a session that
    fits as well and has no more room, and what it answers satisfies a
    condition. -/
def Needs (library : Library) (extent : Extent) (levels cost : Nat) (post : α → Prop)
    (action : BindM α) : Prop :=
  ∀ session, session.Fits extent library →
    Ensures (levels < session.room extent + cost) library action session fun result session' =>
      (session'.Fits extent library ∧ session'.room extent ≤ session.room extent) ∧
        ∀ answer, result = .ok answer → post answer

namespace Needs

variable {P : α → Prop} {Q : β → Prop}

theorem pure {answer : α} (h : P answer) :
    Needs library extent levels cost P (Pure.pure answer : BindM α) := by
  intro session hs
  refine ensures_pure.2 ⟨⟨hs, Nat.le_refl _⟩, fun other ho => ?_⟩
  rw [← Except.ok.inj ho]
  exact h

theorem fail (error : BindError) :
    Needs library extent levels cost P (BindM.fail error : BindM α) := by
  intro session hs
  refine ensures_fail.2 ⟨⟨hs, Nat.le_refl _⟩, fun answer ha => ?_⟩
  cases ha

theorem look {f : Library → Session → α}
    (h : ∀ session, session.Fits extent library → P (f library session)) :
    Needs library extent levels cost P (BindM.look f) := by
  intro session hs
  refine ensures_look.2 ⟨⟨hs, Nat.le_refl _⟩, fun answer ha => ?_⟩
  rw [← Except.ok.inj ha]
  exact h session hs

theorem read : Needs library extent levels cost (· = library) (read : BindM Library) := by
  intro session hs
  refine ensures_read.2 ⟨⟨hs, Nat.le_refl _⟩, fun answer ha => ?_⟩
  exact (Except.ok.inj ha).symm

theorem ofExcept {result : Except BindError α} (h : ∀ answer, result = .ok answer → P answer) :
    Needs library extent levels cost P (BindM.ofExcept result) := by
  intro session hs
  exact ensures_ofExcept.2 ⟨⟨hs, Nat.le_refl _⟩, h⟩

/-- A change of what neither the fit nor the room depends on. -/
theorem update {f : Library → Session → Session}
    (h : ∀ session, ∃ registry aliases body,
      f library session = { session with registry, aliases, body }) :
    Needs library extent levels cost (fun _ => True) (BindM.update f) := by
  intro session hs
  obtain ⟨registry, aliases, body, he⟩ := h session
  rw [ensures_update, he]
  exact ⟨⟨hs.of_eq rfl rfl rfl, Nat.le_refl _⟩, fun _ _ => trivial⟩

theorem attempt {action : BindM α} (h : Needs library extent levels cost P action) :
    Needs library extent levels cost (fun result => ∀ answer, result = .ok answer → P answer)
      action.attempt := by
  intro session hs
  rw [ensures_attempt]
  refine (h session hs).mono fun result session' hall => ⟨hall.1, fun other ho => ?_⟩
  rw [← Except.ok.inj ho]
  exact hall.2

theorem within {action : BindM α} (h : Needs library extent levels cost P action) (place : String) :
    Needs library extent levels cost P (action.within place) := by
  intro session hs
  rw [ensures_within]
  refine (h session hs).mono fun result session' hall => ⟨hall.1, fun answer ha => ?_⟩
  cases result with
  | ok other => exact hall.2 answer ha
  | error error => cases ha

/-- More levels than needed. -/
theorem le {cost' : Nat} {action : BindM α} (h : Needs library extent levels cost P action)
    (hc : cost ≤ cost') : Needs library extent levels cost' P action :=
  fun session hs => (h session hs).excuse fun _ => by omega

/-- One computation after another. The second has no more room than the first. -/
theorem bind {action : BindM β} {next : β → BindM α} (h : Needs library extent levels cost Q action)
    (hnext : ∀ answer, Q answer → Needs library extent levels cost P (next answer)) :
    Needs library extent levels cost P (action >>= next) := by
  intro session hs
  rw [ensures_bind]
  refine (h session hs).mono fun result session' hall => ?_
  obtain ⟨⟨hs', hroom⟩, hpost⟩ := hall
  cases result with
  | error error =>
      refine ⟨⟨hs', hroom⟩, fun answer ha => ?_⟩
      cases ha
  | ok answer =>
      refine ((hnext answer (hpost answer rfl) session' hs').excuse fun _ => by omega).mono
        fun _ session'' hall' => ?_
      exact ⟨⟨hall'.1.1, Nat.le_trans hall'.1.2 hroom⟩, hall'.2⟩

/-- Looking needs nothing, whatever is seen. -/
theorem afterLook {f : Library → Session → β} {next : β → BindM α}
    (h : ∀ answer, Needs library extent levels cost P (next answer)) :
    Needs library extent levels cost P (BindM.look f >>= next) :=
  .bind (.look fun _ _ => trivial) fun answer (_ : True) => h answer

/-- What is looked up in the library is known. -/
theorem afterLibrary {f : Library → β} {next : β → BindM α}
    (h : Needs library extent levels cost P (next (f library))) :
    Needs library extent levels cost P ((BindM.look fun library _ => f library) >>= next) := by
  refine .bind (.look (P := (· = f library)) fun _ _ => rfl) fun answer ha => ?_
  rw [ha]
  exact h

theorem succeeds {action : BindM α} (h : Needs library extent levels cost P action) :
    Needs library extent levels cost (fun _ => True) action.succeeds :=
  h.attempt.bind fun _ _ => .pure trivial

theorem forM {f : β → BindM PUnit} {items : List β}
    (h : ∀ item ∈ items, Needs library extent levels cost (fun _ => True) (f item)) :
    Needs library extent levels cost (fun _ => True) (items.forM f) := by
  induction items with
  | nil => exact .pure trivial
  | cons item rest ih =>
      show Needs library extent levels cost _ (f item >>= fun _ => rest.forM f)
      exact (h item (List.mem_cons_self ..)).bind fun _ _ =>
        ih fun other ho => h other (List.mem_cons_of_mem _ ho)

end Needs

end BindM

open BindM

/-- Ways to resolve and bind that need one level more than there is room for and,
    where a type is resolved, as many more as it weighs. -/
structure Binders.Suffice (library : Library) (extent : Extent) (levels : Nat) (binders : Binders) :
    Prop where
  /-- They only add. -/
  grow : binders.Grow library
  /-- Resolving a type. -/
  resolve : ∀ links type, Needs library extent levels (library.decls.weight type + 1)
    (fun _ => True) (binders.resolve links type)
  /-- Binding a record. -/
  bind : ∀ key record typedef, extent.Holds library.decls key record →
    Needs library extent levels 1 (fun _ => True) (binders.bind key record typedef)

section Values

variable {resolve : CType → BindM Conversion}

/-- The values of a callback are looked at. -/
theorem checkCallback_needs {signature : Signature}
    (h : ∀ type ∈ signature.types,
      Needs library extent levels cost (fun _ => True) (resolve type))
    (typeName id : String) (expected : Option (String × Record)) :
    Needs library extent levels cost (fun callback => callback.name = id)
      (checkCallback resolve signature typeName id expected) := by
  have hparams : Needs library extent levels cost (fun _ => True)
      ((signature.params.filter (!·.isPointer)).forM fun param => do let _ ← resolve param) := by
    refine .forM fun param hp => .bind (h param ?_) fun _ _ => .pure trivial
    exact List.mem_cons_of_mem _ (List.mem_filter.1 hp).1
  have hvalues :
      Needs library extent levels cost (fun _ => True) (checkValues resolve signature) := by
    unfold checkValues
    dsimp only
    split
    · exact hparams
    · exact .bind (h _ (List.mem_cons_self ..)) fun _ _ => hparams
  unfold checkCallback
  split
  · exact .fail _
  · refine .bind .read fun _ _ => .bind (.ofExcept fun _ _ => trivial) fun way (_ : True) => ?_
    exact .bind (hvalues.within _) fun _ _ => .pure rfl

/-- A callback that is marshaled has the name of its place, also if the session
    has known it before. -/
theorem marshal_needs {signature : Signature}
    (h : ∀ type ∈ signature.types,
      Needs library extent levels cost (fun _ => True) (resolve type))
    (typeName owner name : String) (expected : Option (String × Record)) :
    Needs library extent levels cost (fun callback => callback.name = callbackName owner name)
      (marshal resolve signature typeName owner name expected) := by
  have hknown : Needs library extent levels cost
      (fun state => ∀ callback, state = some (.pending callback) ∨
        state = some (.emitted callback) → callback.name = callbackName owner name)
      (BindM.look fun _ session => session.callbacks.get? (callbackName owner name)) :=
    .look fun session hs callback hc =>
      hc.elim (fun hp => (hs.tidy.pending _ _ hp).1) (hs.tidy.emitted _ _)
  unfold marshal
  refine hknown.bind fun state hstate => ?_
  split
  · exact .pure (hstate _ (.inl rfl))
  · exact .pure (hstate _ (.inr rfl))
  · exact .fail _
  · refine .bind (checkCallback_needs h typeName _ expected).attempt fun result hresult => ?_
    cases result with
    | ok callback => exact .pure (hresult callback rfl)
    | error error =>
        have hfail : Needs library extent levels cost (fun _ => True)
            (BindM.update fun _ session =>
              session.settleCallback (callbackName owner name) (.failed error)) := fun session hs =>
          ⟨⟨⟨hs.tidy.settleFailed _ _, hs.deferred⟩, Nat.le_refl _⟩, fun _ _ => trivial⟩
        exact hfail.bind fun _ _ => .fail _

end Values

/-- What became of a member, where a callback is not known by the name of
    results. -/
def MemberOutcome.IsApart (outcome : MemberOutcome) : Prop :=
  ∀ access, outcome.access? = some access → ∀ callback, access.callback? = some callback →
    callback.name ≠ resultId

theorem MemberOutcome.isApart_of_callback?_eq_none {access : Access}
    (ha : access.callback? = none) : (MemberOutcome.reached access).IsApart := by
  intro other ho callback hc
  obtain rfl := Option.some.inj ho
  rw [ha] at hc
  cases hc

section Members

variable {binders : Binders} (hd : library.decls.IsFounded)
  (h : binders.Suffice library extent levels) {key : String} {record : Record}
  (hr : extent.Holds library.decls key record) {field : Field} (hf : field ∈ record.flattened)

include hd h hr hf

theorem bindCallback_needs (hne : field.name ≠ "") {signature : Signature}
    (hs : library.decls.functionPointer field.type = some signature) (owner : String) :
    Needs library extent levels extent.stride MemberOutcome.IsApart
      (bindCallback binders owner key record field signature) := by
  have hvalues : ∀ type ∈ signature.types,
      Needs library extent levels extent.stride (fun _ => True) (binders.resolve 0 type) :=
    fun type ht => (h.resolve 0 type).le (hr.weight_value hd hf hs ht)
  unfold bindCallback
  refine .bind (marshal_needs hvalues _ owner field.name _).attempt fun result hresult => ?_
  cases result with
  | ok callback =>
      refine .afterLook fun slot => .pure fun access ha other ho => ?_
      obtain rfl := Option.some.inj ha
      obtain rfl := Option.some.inj ho
      rw [hresult _ rfl]
      exact fun he => hne (callbackName_eq_resultId he)
  | error error =>
      refine .pure fun access ha => ?_
      cases ha

omit hd in
theorem bindNameless_needs {inner : Record} (ht : field.type = .anonymous inner) (place : String) :
    Needs library extent levels extent.stride (fun access => access.callback? = none)
      (bindNameless binders (bareTag key) key place field inner) := by
  have hpos : 1 ≤ extent.stride := Nat.lt_of_le_of_lt (Nat.zero_le _) hr.size_lt
  have hbind := (h.bind _ _ (some ⟨key, field.name, memberTypeName (bareTag key) field.name⟩)
    (hr.nested hf ht)).le hpos
  unfold bindNameless
  refine .bind (hbind.within place) fun _ _ => .afterLook fun known => ?_
  split
  · exact .ofExcept fun access ha => Access.callback?_ofConversion ha
  · exact .fail _

theorem bindMember_needs :
    Needs library extent levels extent.stride
      (fun outcome => ∀ made, outcome = some made → made.IsApart)
      (bindMember binders (bareTag key) key record field) := by
  have hresolve : Needs library extent levels extent.stride (fun _ => True)
      (binders.resolve 0 field.type) := (h.resolve 0 field.type).le (hr.weight_member hf)
  -- Members that are not callbacks bring none along.
  have hreach : ∀ {result : Except BindError Access},
      (∀ access, result = .ok access → access.callback? = none) →
      Needs library extent levels extent.stride
        (fun outcome => ∀ made, outcome = some made → made.IsApart)
        (do return some (MemberOutcome.reached (← BindM.ofExcept result))) := by
    intro result hresult
    refine .bind (.ofExcept hresult) fun access ha => .pure fun made hm => ?_
    obtain rfl := Option.some.inj hm
    exact MemberOutcome.isApart_of_callback?_eq_none ha
  rw [bindMember]
  by_cases hne : field.name = ""
  · rw [if_pos hne]
    refine .pure fun made hm => ?_
    cases hm
  rw [if_neg hne]
  refine .afterLibrary ?_
  split
  · next signature hs =>
      refine .bind (bindCallback_needs hd h hr hf hne hs _) fun outcome ho =>
        .pure fun made hm => ?_
      obtain rfl := Option.some.inj hm
      exact ho
  split
  · next inner ht =>
      refine .bind (bindNameless_needs h hr hf ht _) fun access ha => .pure fun made hm => ?_
      obtain rfl := Option.some.inj hm
      exact MemberOutcome.isApart_of_callback?_eq_none ha
  · split
    · refine .pure fun made hm => ?_
      cases hm
    · exact .bind (hresolve.within _) fun conversion _ =>
        hreach fun access ha => Access.callback?_ofArray ha
  · exact .bind (hresolve.within _) fun conversion _ =>
      hreach fun access ha => Access.callback?_ofConversion ha

omit hf in
theorem bindMembers_needs {fields : List Field}
    (hfields : ∀ field ∈ fields, field ∈ record.flattened) :
    Needs library extent levels extent.stride
      (fun outcomes => ∀ outcome ∈ outcomes, outcome.IsApart)
      (bindMembers binders (bareTag key) key record fields) := by
  induction fields with
  | nil =>
      refine .pure fun outcome hm => ?_
      cases hm
  | cons field rest ih =>
      have hfirst := bindMember_needs hd h hr (hfields field (List.mem_cons_self ..))
      have hrest := ih fun other ho => hfields other (List.mem_cons_of_mem _ ho)
      rw [bindMembers]
      refine hfirst.bind fun first hf => hrest.bind fun others ho => .pure fun outcome hm => ?_
      rcases List.mem_append.1 hm with hm | hm
      · exact hf outcome (Option.mem_toList.1 hm)
      · exact ho outcome hm

omit hf in
/-- The members of a record are bound. A type among them weighs less than the
    stride. -/
theorem bindRecord_needs :
    Needs library extent levels extent.stride
      (fun members => ∀ callback ∈ members.accessor.callbacks, callback.name ≠ resultId)
      (bindRecord binders key record) := by
  unfold bindRecord
  refine .bind (bindMembers_needs hd h hr fun _ hf => hf) fun outcomes ho =>
    .pure fun callback hc => ?_
  obtain ⟨access, ha, hcallback⟩ := List.mem_filterMap.1 hc
  obtain ⟨outcome, hm, haccess⟩ := List.mem_filterMap.1 ha
  exact ho outcome hm access haccess callback hcallback

end Members

section Binding

variable {binders : Binders} (hd : library.decls.IsFounded)
  (h : binders.Suffice library extent levels)

include hd h

/-- A record is entered, which takes the room that its members need; they are
    bound, and it is left and concluded. -/
theorem bindFresh_ends {key : String} (deferred : DeferredStruct)
    (hr : extent.Holds library.decls key deferred.record) {session : Session}
    (hs : session.Fits extent library) (hk : key ∉ session.inProgress)
    (hn : session.structs.get? key = none) :
    Ensures (levels < session.room extent) library (bindFresh binders key deferred) session
      fun _ session' => session'.Fits extent library := by
  have hroom : (session.enter key).room extent + extent.stride ≤ session.room extent :=
    Session.room_enter hr.key_mem hn hk
  have hentered : (session.enter key).Fits extent library := hs.of_eq rfl rfl rfl
  simp only [bindFresh, ensures_bind, ensures_look, ensures_update, ensures_attempt]
  refine ((bindRecord_needs hd h hr (session.enter key) hentered).excuse fun he => by omega).mono
    fun result session' hall => ?_
  obtain ⟨⟨hs', -⟩, hmembers⟩ := hall
  have hleft : (session'.leave key).Fits extent library := hs'.of_eq rfl rfl rfl
  cases result with
  | ok members =>
      simp only [ensures_bind, ensures_update, ensures_pure]
      exact hleft.commit (hmembers members rfl) deferred.typedef
  | error error =>
      simp only [ensures_bind, ensures_update, ensures_pure]
      exact hleft.conclude hr session.meetings error

omit hd in
/-- The records put off are bound once more, in no more rounds than there are
    records left to be. -/
theorem retryDeferred_ends (rounds : Nat) {session : Session} (hs : session.Fits extent library)
    (hp : session.inProgress = []) :
    Ensures (levels < session.room extent ∨ rounds ≤ session.unretried extent) library
      (retryDeferred binders rounds) session fun _ session' => session'.Fits extent library := by
  induction rounds generalizing session with
  | zero => exact Or.inr (Nat.zero_le _)
  | succ rounds ih =>
      rw [retryDeferred, ensures_bind, ensures_look]
      dsimp only
      split
      · exact hs
      next key deferred hhead =>
      have hrow : (key, deferred) ∈ session.deferred.rows := List.mem_of_mem_head? hhead
      have hr : extent.Holds library.decls key deferred.record := hs.deferred _ hrow
      have hk : key ∉ session.retried := hs.tidy.waiting _ hrow
      have hroom : (session.takeDeferred key).room extent + 1 ≤ session.room extent :=
        Session.room_takeDeferred hr.key_mem hp hk
      have hfewer : (session.takeDeferred key).unretried extent + 1 ≤ session.unretried extent :=
        Session.unretried_takeDeferred hr.key_mem hk
      have hbind := h.bind key deferred.record deferred.typedef hr _ (hs.takeDeferred hrow)
      have hgrow :=
        h.grow.bind key deferred.record deferred.typedef trivial (session.takeDeferred key)
      simp only [ensures_bind, ensures_update, ensures_attempt]
      refine ((hbind.and hgrow).excuse fun he => .inl (by omega)).mono
        fun result session' hall => ?_
      obtain ⟨⟨⟨hs', hroom'⟩, -⟩, hg⟩ := hall
      have hfewer' := Session.unretried_of_initial hg.retried extent
      have hp' : session'.inProgress = [] := hg.inProgress.trans hp
      exact (ih hs' hp').excuse fun he => by omega

/-- Binding a record needs the room there is. -/
theorem bindStep_needs {key : String} {record : Record} (hr : extent.Holds library.decls key record)
    (typedef : Option MemberTypedef) :
    Needs library extent levels 0 (fun _ => True) (bindStep levels binders key record typedef) := by
  intro session hs
  have hgrow := bindStep_grows h.grow levels key record typedef session
  have hfits : Ensures (levels < session.room extent) library
      (bindStep levels binders key record typedef) session
      fun _ session' => session'.Fits extent library := by
    rw [bindStep, ensures_bind, ensures_look]
    dsimp only
    split
    · exact hs
    · exact hs
    · rw [ensures_bind, ensures_update]
      have hmet : session.meet.Fits extent library := hs.of_eq rfl rfl rfl
      exact hmet
    next hlook =>
    rw [Prod.mk.injEq] at hlook
    have hk : key ∉ session.inProgress := by simpa using hlook.2
    rw [ensures_bind]
    refine ((bindFresh_ends hd h ⟨record, typedef⟩ hr hs hk hlook.1).and
      (bindFresh_grows h.grow key ⟨record, typedef⟩ session hk hlook.1)).mono
      fun result session' hall => ?_
    obtain ⟨hs', hg, answer, rfl, -⟩ := hall
    dsimp only
    rw [ensures_bind, ensures_look]
    dsimp only
    split
    · next hempty =>
        -- Where nothing is being bound there is room for all that was put off.
        have hp : session'.inProgress = [] := List.isEmpty_iff.1 hempty
        have hroom := Session.room_of_grows extent hg
        have hretries := Session.unretried_lt_room extent hp
        rw [ensures_bind]
        refine ((retryDeferred_ends h levels hs' hp).excuse fun he => by omega).mono
          fun result session'' hs'' => ?_
        cases result with
        | error error => exact hs''
        | ok _ =>
            dsimp only
            rw [ensures_bind, ensures_look]
            dsimp only
            split
            · exact hs''
            · exact ensures_ofExcept.2 hs''
    · exact ensures_ofExcept.2 hs'
  exact (hfits.and hgrow).mono fun _ _ hall =>
    ⟨⟨hall.1, Session.room_of_grows extent hall.2⟩, fun _ _ => trivial⟩

end Binding

/-- A conversion found is remembered. -/
theorem remember_needs (key : String) (conversion : Conversion) :
    Needs library extent levels cost (fun _ => True) (remember key conversion) := by
  unfold remember
  exact .bind (.update fun session => ⟨_, _, _, rfl⟩) fun _ _ => .pure trivial

section Resolving

variable {binders : Binders} (h : binders.Suffice library extent levels)

include h

/-- The elements of an array are resolved. -/
theorem elementConversion_needs (element : CType) (key : String) :
    Needs library extent levels (library.decls.weight element + 1) (fun _ => True)
      (elementConversion (binders.resolve 0) element key) := by
  unfold elementConversion
  refine .afterLook fun isElement => ?_
  split
  · exact (h.resolve 0 element).within _
  · exact .fail _

omit h in
theorem writeArray_needs (key : String) (converter : ArrayConverter) :
    Needs library extent levels cost (fun _ => True) (writeArray key converter) := by
  unfold writeArray
  exact .bind (.update fun session => ⟨_, _, _, rfl⟩) fun _ _ => .pure trivial

/-- An array weighs more than its elements. -/
theorem arrayConversion_needs (element : CType) (length : Nat) :
    Needs library extent levels (library.decls.weight (.array element length)) (fun _ => True)
      (arrayConversion (binders.resolve 0) element length) := by
  have helement := (elementConversion_needs h element (CType.array element length).spelling).le
    (Declarations.weight_element element length)
  unfold arrayConversion
  refine .afterLook fun known => ?_
  split
  · exact .pure trivial
  split
  · exact .fail _
  · exact helement.bind fun conversion _ => writeArray_needs _ _

theorem openArrayConversion_needs (element : CType) :
    Needs library extent levels (library.decls.weight element + 1) (fun _ => True)
      (openArrayConversion (binders.resolve 0) element) := by
  unfold openArrayConversion
  refine .afterLook fun known => ?_
  split
  · exact .pure trivial
  split
  · exact .fail _
  · exact (elementConversion_needs h element _).bind fun conversion _ => writeArray_needs _ _

variable (hcovers : extent.Covers library)

include hcovers

theorem afterBinding_needs {key : String} {record : Record}
    (hr : library.decls.records.get? key = some record) (type : CType) :
    Needs library extent levels (library.decls.weight type) (fun _ => True)
      (afterBinding binders key record) := by
  have hbind := (h.bind key record none (hcovers.declared hr)).le (library.decls.weight_pos type)
  unfold afterBinding
  refine hbind.bind fun _ _ => .afterLook fun known => ?_
  split
  · exact .pure trivial
  · exact .fail _

theorem resolveRecordPointer_needs (key : String) {recordKey : String} {record : Record}
    (hr : library.decls.records.get? recordKey = some record) (type : CType) :
    Needs library extent levels (library.decls.weight type) (fun _ => True)
      (resolveRecordPointer binders key recordKey record) := by
  have hbind :=
    (h.bind recordKey record none (hcovers.declared hr)).le (library.decls.weight_pos type)
  unfold resolveRecordPointer
  refine .afterLook fun isMet => ?_
  split
  · exact .pure trivial
  refine hbind.succeeds.bind fun isBound _ => .afterLook fun seen => ?_
  obtain ⟨known, isSettled⟩ := seen
  dsimp only
  split
  · exact .pure trivial
  · exact remember_needs _ _
  · split
    · exact remember_needs _ _
    · exact .pure trivial

omit hcovers in
theorem resolveOtherPointer_needs (links : Nat) (key : String) (pointee : CType) (isConst : Bool) :
    Needs library extent levels (library.decls.weight (.pointer pointee isConst)) (fun _ => True)
      (resolveOtherPointer binders links key pointee) := by
  have hresolve := (h.resolve (links + 1) pointee).le (Declarations.weight_pointee pointee isConst)
  unfold resolveOtherPointer
  refine .afterLook fun isTypedef => ?_
  split
  · refine hresolve.succeeds.bind fun isResolved _ => .afterLook fun known => ?_
    split
    · exact .pure trivial
    · exact remember_needs _ _
  · exact remember_needs _ _

/-- A pointer weighs more than what it points to. -/
theorem resolvePointer_needs (links : Nat) (pointee : CType) (isConst : Bool) :
    Needs library extent levels (library.decls.weight (.pointer pointee isConst)) (fun _ => True)
      (resolvePointer binders links pointee isConst) := by
  unfold resolvePointer
  refine .bind .read fun answer ha => ?_
  subst ha
  split
  · exact remember_needs _ _
  split
  · next hb => exact resolveRecordPointer_needs h hcovers _ (Declarations.get?_of_bindable? hb) _
  · exact resolveOtherPointer_needs h links _ pointee isConst

variable (hd : library.decls.IsFounded)

include hd

omit hcovers in
/-- A typedef weighs more than what it stands for. -/
theorem resolveTypedef_needs (links : Nat) {name : String} {underlying : CType}
    (ht : library.decls.typedefs.get? name = some underlying) :
    Needs library extent levels (library.decls.weight (.named name)) (fun _ => True)
      (resolveTypedef binders links name underlying) := by
  have hresolve := (h.resolve (links + 1) underlying).le (Declarations.weight_typedef hd ht)
  unfold resolveTypedef
  refine .afterLook fun isEnum => ?_
  split
  · exact remember_needs _ _
  · refine hresolve.bind fun conversion _ =>
      .bind (.update fun session => ?_) fun _ _ => .pure trivial
    obtain ⟨registry, aliases, he⟩ :=
      (session.addConversion name conversion).shareWithAlias_eq name underlying.spelling
    exact ⟨registry, aliases, session.body, he⟩

theorem resolveNamed_needs (links : Nat) (name : String) :
    Needs library extent levels (library.decls.weight (.named name)) (fun _ => True)
      (resolveNamed binders links name) := by
  unfold resolveNamed
  refine .afterLibrary ?_
  split
  · next record hr => exact afterBinding_needs h hcovers hr _
  · next underlying _ ht => exact resolveTypedef_needs h hd links ht
  · exact .fail _

omit hd in
theorem resolveTagged_needs (key : String) (type : CType) :
    Needs library extent levels (library.decls.weight type) (fun _ => True)
      (resolveTagged binders key) := by
  unfold resolveTagged
  refine .afterLibrary ?_
  split
  · next record hr => exact afterBinding_needs h hcovers hr type
  · exact .fail _

theorem resolveFresh_needs (links : Nat) (type : CType) :
    Needs library extent levels (library.decls.weight type) (fun _ => True)
      (resolveFresh binders links type) := by
  cases type with
  | pointer pointee isConst => exact resolvePointer_needs h hcovers links pointee isConst
  | named name => exact resolveNamed_needs h hcovers hd links name
  | tagged kind tag => exact resolveTagged_needs h hcovers _ _
  | enumeration tag => exact remember_needs _ _
  | array element length => exact arrayConversion_needs h element length
  | _ => exact .fail _

/-- Resolving a type needs as many levels as it weighs. -/
theorem resolveStep_needs (links : Nat) (type : CType) :
    Needs library extent levels (library.decls.weight type) (fun _ => True)
      (resolveStep binders links type) := by
  unfold resolveStep
  refine .afterLook fun known => ?_
  split
  · exact .pure trivial
  split
  · exact .fail _
  · exact resolveFresh_needs h hcovers hd links type

end Resolving

/-- Any number of levels is enough for what needs no more. -/
theorem bindersWithin_suffice (hd : library.decls.IsFounded) (hcovers : extent.Covers library)
    (levels : Nat) : (bindersWithin levels).Suffice library extent levels := by
  induction levels with
  | zero =>
      exact ⟨bindersWithin_grow 0, fun _ _ _ _ => Nat.succ_pos _, fun _ _ _ _ _ _ => Nat.succ_pos _⟩
  | succ levels ih =>
      refine ⟨bindersWithin_grow _, fun links type session hs => ?_,
        fun key record typedef hr session hs => ?_⟩
      · exact (resolveStep_needs ih hcovers hd links type session hs).excuse fun he => by omega
      · exact (bindStep_needs hd ih hr typedef session hs).excuse fun he => by omega

end ScriptBind
