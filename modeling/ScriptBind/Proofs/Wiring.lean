import ScriptBind.Proofs.AssemblyInvariants

/-!
# Declared, Registered and Defined

C code that mentions a trampoline needs its definition, and needs it once. An
accessor declares the trampolines of the callbacks among its members and leaves
the definitions for later; a wrapper registers a trampoline that is defined
already. `Wired` says how far this has come at any moment: a declared trampoline
belongs to a callback with an outcome, whatever the outcome, a registered one is
defined, and none is defined twice, because a definition is written only for a
callback that has none and leaves a trace where the outcome is kept.

The trampolines of results are not counted here. All of them have the same
name, and while one is being found another of that name may be written.

What is wired is not complete. A declared trampoline is defined in the end only
if its callback is still waiting when the last trampolines are written, and
nothing here says that it is.

## Main definitions

* `Session.Wired`: The trampolines of a session are in order, those that stubs
  stand for being given.
* `wiring`: Being wired as a property that binding keeps up.

## Theorems

* `callbackName_eq_resultId`: Only two empty words make the name of results.
* `Wired.commit`, `Wired.write`, `Wired.stub`: The changes that matter.
* `wired_start`: Nothing is declared at the start.
-/

namespace ScriptBind

/-- Only two empty words make the name of results. -/
theorem callbackName_eq_resultId {owner name : String} (h : callbackName owner name = resultId) :
    name = "" := by
  have hlength := congrArg String.length h
  rw [callbackName, resultId, callbackName, String.length_append, String.length_append] at hlength
  have hone : "_".length = 1 := rfl
  have hzero : ("" ++ "_" ++ "").length = 1 := rfl
  rw [hzero, hone] at hlength
  rw [← String.length_eq_zero_iff]
  omega

namespace Session

/-- The trampolines of a session are in order, those that stubs stand for being
    given. -/
structure Wired (stubbed : List String) (session : Session) : Prop where
  /-- A declared trampoline belongs to a callback with an outcome. -/
  declared : ∀ id ∈ declaredNames session.body, session.callbacks.contains id ∧ id ≠ resultId
  /-- A callback that waits for its trampoline has been declared. -/
  pending : ∀ id callback, session.callbacks.get? id = some (.pending callback) →
    id ∈ declaredNames session.body
  /-- A registered trampoline is defined. -/
  registered : ∀ id ∈ registeredNames session.body, id ∈ definedNames session.body
  /-- None is defined twice. -/
  once : ∀ id, id ≠ resultId → (definedNames session.body).count id ≤ 1
  /-- A definition leaves a trace. -/
  defined : ∀ id ∈ definedNames session.body, id ≠ resultId →
    (∃ callback, session.callbacks.get? id = some (.emitted callback)) ∨ id ∈ stubbed
  /-- What a stub stands for is defined by it and has failed. -/
  stubs : ∀ id ∈ stubbed, id ∈ definedNames session.body ∧
    ∃ error, session.callbacks.get? id = some (.failed error)

variable {stubbed : List String} {session session' : Session}

/-- A change of other things. -/
theorem Wired.of_eq (h : session.Wired stubbed) (hc : session'.callbacks = session.callbacks)
    (hdeclared : declaredNames session'.body = declaredNames session.body)
    (hregistered : registeredNames session'.body = registeredNames session.body)
    (hdefined : definedNames session'.body = definedNames session.body) :
    session'.Wired stubbed where
  declared := by rw [hc, hdeclared]; exact h.declared
  pending := by rw [hc, hdeclared]; exact h.pending
  registered := by rw [hregistered, hdefined]; exact h.registered
  once := by rw [hdefined]; exact h.once
  defined := by rw [hc, hdefined]; exact h.defined
  stubs := by rw [hc, hdefined]; exact h.stubs

/-- Code that mentions no trampoline. -/
theorem Wired.emit_silent (h : session.Wired stubbed) {code : Section}
    (hdeclares : code.declares = [])
    (hregisters : code.registers = []) (hdefines : code.defines = []) :
    (session.emit code).Wired stubbed := by
  refine h.of_eq rfl ?_ ?_ ?_
  · show declaredNames (session.body ++ [code]) = _
    rw [declaredNames_append, declaredNames, declaredNames]
    simp [hdeclares]
  · show registeredNames (session.body ++ [code]) = _
    rw [registeredNames_append, registeredNames, registeredNames]
    simp [hregisters]
  · show definedNames (session.body ++ [code]) = _
    rw [definedNames_append, definedNames, definedNames]
    simp [hdefines]

theorem Wired.emit (h : session.Wired stubbed) {code : Section} (hp : code.isPlain) :
    (session.emit code).Wired stubbed := by
  cases code with
  | accessor code => cases hp
  | trampoline code => cases hp
  | stub callback => cases hp
  | wrapper code => cases hp
  | note diagnostic => cases hp
  | _ => exact h.emit_silent rfl rfl rfl

theorem Wired.reject (h : session.Wired stubbed) (diagnostic : Diagnostic) :
    (session.reject diagnostic).Wired stubbed :=
  have hs : (session.emit (.note diagnostic)).Wired stubbed := h.emit_silent rfl rfl rfl
  hs.of_eq rfl rfl rfl rfl

/-- A callback without a trampoline fails. -/
theorem Wired.settleFailed (h : session.Wired stubbed) {id : String} (hmay : session.MayWrite id)
    (error : BindError) : (session.settleCallback id (.failed error)).Wired stubbed where
  declared := by
    intro other ho
    refine ⟨?_, (h.declared other ho).2⟩
    rw [settleCallback, Table.contains_set, (h.declared other ho).1, Bool.or_true]
  pending := fun other callback ho =>
    h.pending other callback (get?_of_settleCallback ho (by simp))
  registered := h.registered
  once := h.once
  defined := by
    intro other ho hne
    rw [settleCallback, Table.get?_set]
    by_cases he : id = other
    · -- It had no trampoline, so a stub is what defines it.
      rcases h.defined other ho hne with ⟨callback, hc⟩ | hs
      · rcases hmay with hr | hn
        · exact absurd (he ▸ hr) hne
        · exact absurd (he ▸ hc) (hn callback)
      · exact Or.inr hs
    · rw [if_neg he]
      exact h.defined other ho hne
  stubs := by
    intro other ho
    refine ⟨(h.stubs other ho).1, ?_⟩
    rw [settleCallback, Table.get?_set]
    split
    · exact ⟨error, rfl⟩
    · exact (h.stubs other ho).2

theorem flatMap_committed {α : Type} (f : Section → List α) (typedef : Option MemberTypedef)
    (members : BoundMembers) (htypedef : ∀ typedef, f (.memberTypedef typedef) = [])
    (hnote : ∀ diagnostic, f (.note diagnostic) = []) :
    (committed typedef members).flatMap f = f (.accessor members.accessor) := by
  have hnotes : ∀ diagnostics : List Diagnostic, (diagnostics.map Section.note).flatMap f = [] := by
    intro diagnostics
    induction diagnostics with
    | nil => rfl
    | cons diagnostic rest ih => rw [List.map_cons, List.flatMap_cons, hnote, ih, List.append_nil]
  have htypedefs : (typedef.toList.map Section.memberTypedef).flatMap f = [] := by
    cases typedef with
    | none => rfl
    | some typedef => simp [htypedef]
  rw [committed, List.flatMap_append, List.flatMap_append, htypedefs, hnotes, List.append_nil,
    List.nil_append, List.flatMap_singleton]

/-- A record is bound. Its callbacks are declared and have an outcome, which is
    that they wait unless there was one of the name. -/
theorem Wired.commit {library : Library} {pass : Pass library} {reported : List Diagnostic}
    (h : session.Wired stubbed) {members : BoundMembers}
    (hm : members.Fits pass reported) (typedef : Option MemberTypedef) :
    (session.commit typedef members).Wired stubbed := by
  have hdeclared : declaredNames (session.body ++ committed typedef members) =
      declaredNames session.body ++ members.accessor.callbacks.map Callback.name := by
    rw [declaredNames_append, declaredNames, declaredNames,
      flatMap_committed _ _ _ (fun _ => rfl) fun _ => rfl]
    rfl
  have hregistered : registeredNames (session.body ++ committed typedef members) =
      registeredNames session.body := by
    rw [registeredNames_append, registeredNames, registeredNames,
      flatMap_committed _ _ _ (fun _ => rfl) fun _ => rfl]
    exact List.append_nil _
  have hdefined : definedNames (session.body ++ committed typedef members) =
      definedNames session.body := by
    rw [definedNames_append, definedNames, definedNames,
      flatMap_committed _ _ _ (fun _ => rfl) fun _ => rfl]
    exact List.append_nil _
  have hkept : ∀ id state, session.callbacks.get? id = some state →
      (awaitAll session.callbacks members.accessor.callbacks).get? id = some state :=
    fun id state hs => get?_awaitAll_of_some hs _
  rw [commit_eq]
  constructor
  · intro id hid
    rw [hdeclared] at hid
    show (awaitAll session.callbacks members.accessor.callbacks).contains id ∧ id ≠ resultId
    rcases List.mem_append.1 hid with hid | hid
    · obtain ⟨hc, hne⟩ := h.declared id hid
      obtain ⟨state, hs⟩ := Option.isSome_iff_exists.1 hc
      exact ⟨Option.isSome_iff_exists.2 ⟨state, hkept id state hs⟩, hne⟩
    · obtain ⟨callback, hc, rfl⟩ := List.mem_map.1 hid
      obtain ⟨demand, -, hne, hv⟩ := hm.vouched hc
      refine ⟨Option.isSome_iff_exists.2 ?_, ?_⟩
      · cases hn : session.callbacks.get? callback.name with
        | some state => exact ⟨state, hkept _ state hn⟩
        | none =>
            -- The first callback of the name is now awaited.
            rw [get?_awaitAll_of_none hn]
            cases hf : members.accessor.callbacks.find? (·.name == callback.name) with
            | some other => exact ⟨_, rfl⟩
            | none => simpa using List.find?_eq_none.1 hf callback hc
      · rw [hv.name]
        exact fun he => hne (callbackName_eq_resultId he)
  · intro id callback hid
    show id ∈ declaredNames (session.body ++ committed typedef members)
    rw [hdeclared]
    cases hn : session.callbacks.get? id with
    | some state =>
        rw [hkept id state hn] at hid
        exact List.mem_append_left _ (h.pending id callback (by rw [hn]; exact hid))
    | none =>
        rw [get?_awaitAll_of_none hn] at hid
        obtain ⟨other, hf, -⟩ := Option.map_eq_some_iff.1 hid
        have hname : other.name = id := by simpa using List.find?_some hf
        rw [← hname]
        exact List.mem_append_right _ (List.mem_map_of_mem (List.mem_of_find?_eq_some hf))
  · rw [hregistered, hdefined]
    exact h.registered
  · rw [hdefined]
    exact h.once
  · intro id hid hne
    rw [hdefined] at hid
    rcases h.defined id hid hne with ⟨callback, hc⟩ | hs
    · exact Or.inl ⟨callback, hkept id _ hc⟩
    · exact Or.inr hs
  · intro id hid
    obtain ⟨hd, error, he⟩ := h.stubs id hid
    rw [hdefined]
    exact ⟨hd, error, hkept id _ he⟩

/-- The callbacks that a wrapper registers have their trampolines. -/
theorem Wired.wrap {library : Library} (h : session.Wired stubbed) {wrapper : Wrapper}
    (hw : wrapper.Fits library session.body) : (session.emit (.wrapper wrapper)).Wired stubbed := by
  obtain ⟨-, harguments, hresult⟩ := hw
  have hregistered : registeredNames (session.body ++ [.wrapper wrapper]) =
      registeredNames session.body ++ (Section.wrapper wrapper).registers.map Callback.name := by
    rw [registeredNames_append, registeredNames, registeredNames, List.flatMap_singleton]
  have hdefined : definedNames (session.body ++ [.wrapper wrapper]) =
      definedNames session.body := by
    rw [definedNames_append, definedNames, definedNames, List.flatMap_singleton]
    exact List.append_nil _
  have hdeclared : declaredNames (session.body ++ [.wrapper wrapper]) =
      declaredNames session.body := by
    rw [declaredNames_append, declaredNames, declaredNames, List.flatMap_singleton]
    exact List.append_nil _
  constructor
  · rw [Session.emit, hdeclared]; exact h.declared
  · rw [Session.emit, hdeclared]; exact h.pending
  · intro id hid
    rw [Session.emit, hregistered] at hid
    rw [Session.emit, hdefined]
    rcases List.mem_append.1 hid with hid | hid
    · exact h.registered id hid
    · obtain ⟨callback, hc, rfl⟩ := List.mem_map.1 hid
      obtain ⟨value, hv, hcallback⟩ := List.mem_filterMap.1 hc
      rcases List.mem_append.1 hv with hv | hv
      · obtain ⟨argument, ha, rfl⟩ := List.mem_map.1 hv
        obtain ⟨i, hi⟩ := List.mem_iff_getElem?.1 ha
        exact (((harguments i argument hi).2 callback hcallback).2 callback hcallback).2.1.defined
      · rw [hresult value (Option.mem_toList.1 hv)] at hcallback
        cases hcallback
  · rw [Session.emit, hdefined]; exact h.once
  · rw [Session.emit, hdefined]; exact h.defined
  · rw [Session.emit, hdefined]; exact h.stubs

/-- A callback without a trampoline is not defined, unless a stub stands for it. -/
theorem Wired.not_mem_definedNames (h : session.Wired stubbed) {id : String} (hne : id ≠ resultId)
    (hn : ∀ callback, session.callbacks.get? id ≠ some (.emitted callback)) (hs : id ∉ stubbed) :
    id ∉ definedNames session.body := by
  intro hid
  rcases h.defined id hid hne with ⟨callback, hc⟩ | hstub
  · exact hn callback hc
  · exact hs hstub

/-- One more definition, of a name that had none, is the only one. -/
theorem Wired.count_snoc (h : session.Wired stubbed) {id : String}
    (hid : id = resultId ∨ id ∉ definedNames session.body) {other : String}
    (ho : other ≠ resultId) :
    (definedNames session.body ++ [id]).count other ≤ 1 := by
  rw [List.count_append]
  by_cases he : id = other
  · rcases hid with hr | hn
    · exact absurd (he ▸ hr) ho
    · rw [he] at hn ⊢
      have hzero := List.count_eq_zero_of_not_mem hn
      have hone : [other].count other = 1 := List.count_singleton_self
      omega
  · have hzero : [id].count other = 0 := List.count_singleton.trans (by simp [he])
    have := h.once other ho
    omega

/-- A trampoline is written for a callback that has none. -/
theorem Wired.write {library : Library} (h : session.Wired stubbed) {trampoline : Trampoline}
    {callback : Callback} (ht : trampoline.callback = callback)
    (hfits : trampoline.Fits library session.body) (hopen : callback.name ∉ stubbed)
    (hmay : session.MayWrite callback.name) :
    ((session.emit (.trampoline trampoline)).settleCallback callback.name
      (.emitted callback)).Wired stubbed := by
  have hregistered : registeredNames (session.body ++ [.trampoline trampoline]) =
      registeredNames session.body ++
        (Section.trampoline trampoline).registers.map Callback.name := by
    rw [registeredNames_append, registeredNames, registeredNames, List.flatMap_singleton]
  have hdefined : definedNames (session.body ++ [.trampoline trampoline]) =
      definedNames session.body ++ [callback.name] := by
    rw [definedNames_append, definedNames, definedNames, List.flatMap_singleton, ← ht]
    rfl
  have hdeclared : declaredNames (session.body ++ [.trampoline trampoline]) =
      declaredNames session.body := by
    rw [declaredNames_append, declaredNames, declaredNames, List.flatMap_singleton]
    exact List.append_nil _
  constructor
  · intro id hid
    rw [settleCallback, Session.emit, hdeclared] at hid
    refine ⟨?_, (h.declared id hid).2⟩
    show ((session.callbacks.set callback.name (.emitted callback)).contains id) = true
    rw [Table.contains_set, (h.declared id hid).1, Bool.or_true]
  · intro id other hid
    rw [settleCallback, Session.emit, hdeclared]
    exact h.pending id other (get?_of_settleCallback hid (by simp))
  · intro id hid
    rw [settleCallback, Session.emit, hregistered] at hid
    rw [settleCallback, Session.emit, hdefined]
    refine List.mem_append_left _ ?_
    rcases List.mem_append.1 hid with hid | hid
    · exact h.registered id hid
    · obtain ⟨other, hc, rfl⟩ := List.mem_map.1 hid
      obtain ⟨value, hv, hcallback⟩ := List.mem_filterMap.1 hc
      rcases List.mem_append.1 hv with hv | hv
      · rw [hfits.1 value hv] at hcallback
        cases hcallback
      · exact (hfits.2 value (Option.mem_toList.1 hv) other hcallback).2.1.defined
  · intro id hne
    rw [settleCallback, Session.emit, hdefined]
    refine h.count_snoc ?_ hne
    rcases hmay with hr | hn
    · exact Or.inl hr
    · by_cases hr : callback.name = resultId
      · exact Or.inl hr
      · exact Or.inr (h.not_mem_definedNames hr hn hopen)
  · intro id hid hne
    rw [settleCallback, Session.emit, hdefined] at hid
    rw [settleCallback, Table.get?_set]
    by_cases he : callback.name = id
    · rw [if_pos he]
      exact Or.inl ⟨callback, rfl⟩
    · rw [if_neg he]
      rcases List.mem_append.1 hid with hid | hid
      · exact h.defined id hid hne
      · exact absurd (List.mem_singleton.1 hid).symm he
  · intro id hid
    obtain ⟨hd, error, he⟩ := h.stubs id hid
    have hother : callback.name ≠ id := fun e => hopen (e ▸ hid)
    rw [settleCallback, Session.emit, hdefined, Table.get?_set, if_neg hother]
    exact ⟨List.mem_append_left _ hd, error, he⟩

/-- A stub is written for a callback that has failed. -/
theorem Wired.stub (h : session.Wired stubbed) {callback : Callback}
    (hne : callback.name ≠ resultId) (hs : callback.name ∉ stubbed) {error : BindError}
    (hfailed : session.callbacks.get? callback.name = some (.failed error)) :
    (session.emit (.stub callback)).Wired (callback.name :: stubbed) := by
  have hdefined : definedNames (session.body ++ [.stub callback]) =
      definedNames session.body ++ [callback.name] := by
    rw [definedNames_append, definedNames, definedNames, List.flatMap_singleton]
    rfl
  have hdeclared : declaredNames (session.body ++ [.stub callback]) =
      declaredNames session.body := by
    rw [declaredNames_append, declaredNames, declaredNames, List.flatMap_singleton]
    exact List.append_nil _
  have hregistered : registeredNames (session.body ++ [.stub callback]) =
      registeredNames session.body := by
    rw [registeredNames_append, registeredNames, registeredNames, List.flatMap_singleton]
    exact List.append_nil _
  have hunwritten : ∀ other, session.callbacks.get? callback.name ≠ some (.emitted other) := by
    intro other ho
    rw [hfailed] at ho
    cases ho
  constructor
  · rw [Session.emit, hdeclared]; exact h.declared
  · rw [Session.emit, hdeclared]; exact h.pending
  · intro id hid
    rw [Session.emit, hregistered] at hid
    rw [Session.emit, hdefined]
    exact List.mem_append_left _ (h.registered id hid)
  · intro id hid
    rw [Session.emit, hdefined]
    exact h.count_snoc (Or.inr (h.not_mem_definedNames hne hunwritten hs)) hid
  · intro id hid hr
    rw [Session.emit, hdefined] at hid
    rcases List.mem_append.1 hid with hid | hid
    · exact (h.defined id hid hr).imp (fun e => e) (List.mem_cons_of_mem _)
    · rw [List.mem_singleton.1 hid]
      exact Or.inr (List.mem_cons_self ..)
  · intro id hid
    rw [Session.emit, hdefined]
    rcases List.mem_cons.1 hid with rfl | hid
    · exact ⟨List.mem_append_right _ (List.mem_singleton_self _), error, hfailed⟩
    · exact ⟨List.mem_append_left _ (h.stubs id hid).1, (h.stubs id hid).2⟩

/-- Nothing is declared at the start. -/
theorem wired_start (naming : Naming) : (Session.start naming).Wired [] := by
  have hb : (Session.start naming).body = [] := by rw [start]
  have hc : (Session.start naming).callbacks.rows = [] := by rw [start]; rfl
  constructor
  · rw [hb]
    exact fun id hid => absurd hid List.not_mem_nil
  · intro id callback hid
    have hm := Table.mem_of_get? hid
    rw [hc] at hm
    cases hm
  · rw [hb]
    exact fun id hid => absurd hid List.not_mem_nil
  · rw [hb]
    exact fun id _ => Nat.zero_le 1
  · rw [hb]
    exact fun id hid => absurd hid List.not_mem_nil
  · exact fun id hid => absurd hid List.not_mem_nil

end Session

/-- Being wired is kept up by binding, the trampolines excepted that stubs stand
    for. -/
def wiring {library : Library} (pass : Pass library) (stubbed : List String)
    (hs : resultId ∉ stubbed) : Upkeep pass where
  holds := Session.Wired stubbed
  isOpen := fun id => id ∉ stubbed
  isOpen_result := hs
  quiet := fun h hc hb _ => h.of_eq hc (by rw [hb]) (by rw [hb]) (by rw [hb])
  emit := fun h hp => h.emit hp
  reject := fun h _ => h.reject _
  settleFailed := fun h _ _ hmay => h.settleFailed hmay _
  commit := fun typedef h _ hm => h.commit hm typedef
  write := fun h _ ht hfits _ hopen hmay => h.write ht hfits hopen hmay
  wrap := fun h _ hw => h.wrap hw
  leave := fun h _ _ _ _ _ => h.reject _

end ScriptBind
