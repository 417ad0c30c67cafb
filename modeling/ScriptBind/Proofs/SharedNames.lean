import ScriptBind.Proofs.PendingTrampolines

/-!
# What Places of One Name Share

What becomes of a callback is remembered under a name made from the word of the
record or function and the word of the member or argument, and under nothing
else. Two places may make the same name without needing the same callback: two
functions on one record with an argument of the same name, or a member and an
argument. The first of them decides for all.

So a place need not be served with the signature that it has itself. What holds
is that it is served with the signature of some place of its name, and that a
place whose callback is refused has a name some place of which was refused, in the
same pass and not later. If all places of a name have one signature, this is the
place's own. Places with different names never share anything.

## Main definitions

* `Demand.ServedBy`: A place is served with a callback of its name.
* `Section.ComesFrom`, `Diagnostic.ComesFrom`: Code and diagnostics in which each
  place is served or refused so.
* `provenance`: Coming from places, as a property that binding keeps up.

## Theorems

* `marshal_of_fresh`: The first place of a name decides for itself.
* `callbacks_come_from`: Every place of a module is served or refused so.
* `sharedArgument_signatures`: Two functions that share a callback of which one
  has another signature.
-/

namespace ScriptBind

/-- A place is served with a callback: it has the place's name and comes from a
    place of that name, and it has the place's signature if no place of the name
    has another. -/
def Demand.ServedBy (library : Library) (demand : Demand) (callback : Callback) : Prop :=
  Vouched library demand.id callback ∧
    ((∀ other, Demanded library other → other.id = demand.id →
        other.signature = demand.signature) →
      callback.signature = demand.signature)

theorem Vouched.serves {library : Library} {demand : Demand} {callback : Callback}
    (h : Vouched library demand.id callback) : demand.ServedBy library callback := by
  refine ⟨h, fun hall => ?_⟩
  obtain ⟨other, hd, hid, hmet⟩ := h
  rw [hmet.signature]
  exact hall other hd hid

/-- The callbacks in a piece of code come from places of their names, and each
    member and each argument in it is served with a callback of its own name. -/
def Section.ComesFrom (library : Library) : Section → Prop
  | .accessor code =>
    ∃ record, Bindable library code.type record ∧ code.name = bareTag code.type ∧
      ∀ access ∈ code.accesses, ∀ callback, access.callback? = some callback →
        ∃ field signature, field ∈ record.flattened ∧ field.name = access.field ∧
          library.decls.functionPointer field.type = some signature ∧
          Demanded library (.ofMember code.type record field signature) ∧
          (Demand.ofMember code.type record field signature).ServedBy library callback
  | .wrapper code =>
    code.function ∈ library.decls.functions ∧
      (∀ value, code.result = some value → value.callback? = none) ∧
      ∀ (index : Nat) (argument : Argument), code.arguments[index]? = some argument →
        (namedParams code.function)[index]? = some argument.param ∧
        ∀ callback, argument.value.callback? = some callback → ∃ signature,
          library.decls.functionPointer argument.param.type = some signature ∧
          let site :=
            argumentSite code.function.name (namedParams code.function) index argument.param
          Demanded library (.ofSite site signature) ∧
            (Demand.ofSite site signature).ServedBy library callback
  | .trampoline code =>
    Vouched library code.callback.name code.callback ∧
      (∀ value ∈ code.arguments, value.callback? = none) ∧
      ∀ value, code.result = some value → ∀ callback, value.callback? = some callback →
        Vouched library resultId callback
  | .stub callback => Vouched library callback.name callback
  | _ => True

/-- A callback that is left out is a member, an argument or a trampoline of whose
    name some place of the pass had been refused for that reason when no more than
    the given diagnostics had been reported, or an argument that stands where the
    value belongs that carries the context. -/
def Diagnostic.ComesFrom {library : Library} (pass : Pass library) (reported : List Diagnostic)
    (diagnostic : Diagnostic) : Prop :=
  (∃ key record field signature error, Bindable library key record ∧ field ∈ record.flattened ∧
    library.decls.functionPointer field.type = some signature ∧
    Demanded library (.ofMember key record field signature) ∧
    Blamed pass reported (Demand.ofMember key record field signature).id error ∧
    diagnostic = memberDiagnostic (bareTag key) field error) ∨
  (∃ function index param signature error, function ∈ library.decls.functions ∧
    (namedParams function)[index]? = some param ∧
    library.decls.functionPointer param.type = some signature ∧
    let site := argumentSite function.name (namedParams function) index param
    Demanded library (.ofSite site signature) ∧
      (Blamed pass reported site.id error ∨ index = 0 ∧ error = .leadingCallback site.id) ∧
      diagnostic = argumentDiagnostic function.name param error) ∨
  ∃ callback error, Vouched library callback.name callback ∧
    Blamed pass reported callback.name error ∧ diagnostic = callbackDiagnostic callback error

/-- More may have been reported since. -/
theorem Diagnostic.ComesFrom.mono {library : Library} {pass : Pass library}
    {reported reported' : List Diagnostic} {diagnostic : Diagnostic}
    (h : diagnostic.ComesFrom pass reported) (hr : reported <+: reported') :
    diagnostic.ComesFrom pass reported' := by
  rcases h with ⟨key, record, field, signature, error, hk, hf, hs, hd, hblame, he⟩ |
    ⟨function, index, param, signature, error, hf, hp, hs, hd, hblame, he⟩ |
      ⟨callback, error, hv, hblame, he⟩
  · exact Or.inl ⟨key, record, field, signature, error, hk, hf, hs, hd, hblame.mono hr, he⟩
  · exact Or.inr (Or.inl ⟨function, index, param, signature, error, hf, hp, hs, hd,
      hblame.imp (fun hblame => hblame.mono hr) fun e => e, he⟩)
  · exact Or.inr (Or.inr ⟨callback, error, hv, hblame.mono hr, he⟩)

/-- All code comes from places, and each diagnostic about a callback comes from one
    that had been refused before. -/
structure Session.ComesFrom {library : Library} (pass : Pass library) (session : Session) :
    Prop where
  /-- All code does. -/
  body : ∀ code ∈ session.body, code.ComesFrom library
  /-- All diagnostics about callbacks do, given those that had been reported before. -/
  diagnostics : ∀ (before : List Diagnostic) (diagnostic : Diagnostic) (after : List Diagnostic),
    session.diagnostics = before ++ diagnostic :: after → diagnostic.kind = .callback →
    diagnostic.ComesFrom pass before

namespace Session.ComesFrom

variable {library : Library} {pass : Pass library} {session session' : Session}

/-- More code and more diagnostics. -/
theorem extend (h : session.ComesFrom pass) {code : List Section} {reported : List Diagnostic}
    (hb : session'.body = session.body ++ code)
    (hd : session'.diagnostics = session.diagnostics ++ reported)
    (hcode : ∀ piece ∈ code, piece.ComesFrom library)
    (hreported : ∀ diagnostic ∈ reported, diagnostic.kind = .callback →
      diagnostic.ComesFrom pass session.diagnostics) : session'.ComesFrom pass where
  body := by
    rw [hb]
    intro piece hm
    rcases List.mem_append.1 hm with hm | hm
    · exact h.body piece hm
    · exact hcode piece hm
  diagnostics := by
    rw [hd]
    intro before diagnostic after he hk
    -- It had been reported already, or is one of the new ones.
    rcases List.append_eq_append_iff.1 he with ⟨front, rfl, hrest⟩ | ⟨back, hfirst, hrest⟩
    · have hm : diagnostic ∈ reported := by
        rw [hrest]
        exact List.mem_append_right _ (List.mem_cons_self ..)
      exact (hreported diagnostic hm hk).mono (List.prefix_append ..)
    · cases back with
      | nil =>
          have hm : diagnostic ∈ reported := by
            rw [← List.nil_append reported, ← hrest]
            exact List.mem_cons_self ..
          rw [List.append_nil] at hfirst
          rw [← hfirst]
          exact hreported diagnostic hm hk
      | cons first back =>
          obtain ⟨rfl, -⟩ := List.cons.inj hrest
          exact h.diagnostics before diagnostic back hfirst hk

theorem emit (h : session.ComesFrom pass) {code : Section} (hc : code.ComesFrom library) :
    (session.emit code).ComesFrom pass := by
  refine h.extend rfl (List.append_nil _).symm (fun piece hm => ?_)
    fun diagnostic hm => absurd hm List.not_mem_nil
  rw [List.mem_singleton.1 hm]
  exact hc

theorem reject (h : session.ComesFrom pass) {diagnostic : Diagnostic}
    (hd : diagnostic.kind = .callback → diagnostic.ComesFrom pass session.diagnostics) :
    (session.reject diagnostic).ComesFrom pass := by
  refine h.extend rfl rfl (fun piece hm => ?_) fun other hm hk => ?_
  · rw [List.mem_singleton.1 hm]
    trivial
  · rw [List.mem_singleton.1 hm] at hk ⊢
    exact hd hk

/-- A record is bound: its members come from the record. -/
theorem commit (h : session.ComesFrom pass) {members : BoundMembers}
    (hm : members.Fits pass session.diagnostics) (typedef : Option MemberTypedef) :
    (session.commit typedef members).ComesFrom pass := by
  obtain ⟨hname, record, hrecord, hfits⟩ := hm
  rw [Session.commit_eq]
  refine h.extend rfl rfl (fun piece hp => ?_) fun diagnostic hd _ => ?_
  · rw [Session.committed, List.mem_append, List.mem_append] at hp
    rcases hp with (hp | hp) | hp
    · obtain ⟨typedef, -, rfl⟩ := List.mem_map.1 hp
      trivial
    · rw [List.mem_singleton.1 hp]
      refine ⟨record, hrecord, hname, fun access ha callback hc => ?_⟩
      obtain ⟨outcome, ho, haccess⟩ := List.mem_filterMap.1 ha
      have hfit := hfits outcome ho
      cases outcome with
      | dropped name diagnostic => cases haccess
      | reached other =>
          obtain rfl := Option.some.inj haccess
          obtain ⟨field, signature, hf, hn, hne, hs, hv⟩ := hfit callback hc
          exact ⟨field, signature, hf, hn, hs, .member hrecord hf hne hs, hv.serves⟩
    · obtain ⟨diagnostic, -, rfl⟩ := List.mem_map.1 hp
      trivial
  · obtain ⟨dropped, hdropped, rfl⟩ := List.mem_map.1 hd
    obtain ⟨outcome, ho, hout⟩ := List.mem_filterMap.1 hdropped
    have hfit := hfits outcome ho
    cases outcome with
    | reached access => cases hout
    | dropped name diagnostic =>
        obtain rfl := Option.some.inj hout
        obtain ⟨field, signature, error, hf, -, hne, hs, hblame, he⟩ := hfit
        exact Or.inl ⟨_, record, field, signature, error, hrecord, hf, hs,
          .member hrecord hf hne hs, hblame, he⟩

theorem wrap (h : session.ComesFrom pass) {wrapper : Wrapper}
    (hw : wrapper.Fits library session.body) :
    (session.emit (.wrapper wrapper)).ComesFrom pass := by
  obtain ⟨hf, harguments, hresult⟩ := hw
  refine h.emit ⟨hf, hresult, fun index argument ha => ⟨(harguments index argument ha).1, ?_⟩⟩
  intro callback hc
  obtain ⟨hp, hfits⟩ := harguments index argument ha
  obtain ⟨hs, hvalue⟩ := hfits callback hc
  obtain ⟨signature, hs⟩ := Option.isSome_iff_exists.1 hs
  exact ⟨signature, hs, .argument hf hp hs, Vouched.serves (hvalue callback hc).1⟩

theorem write (h : session.ComesFrom pass) {trampoline : Trampoline} {callback : Callback}
    (ht : trampoline.callback = callback) (hfits : trampoline.Fits library session.body)
    (hv : Vouched library callback.name callback) :
    ((session.emit (.trampoline trampoline)).settleCallback callback.name
      (.emitted callback)).ComesFrom pass := by
  have he : (session.emit (.trampoline trampoline)).ComesFrom pass := by
    refine h.emit ⟨by rw [ht]; exact hv, hfits.1, fun value hr other ho => ?_⟩
    exact (hfits.2 value hr other ho).1
  exact ⟨he.body, he.diagnostics⟩

end Session.ComesFrom

/-- Coming from places is kept up by binding. -/
def provenance {library : Library} (pass : Pass library) : Upkeep pass where
  holds := Session.ComesFrom pass
  isOpen := fun _ => True
  isOpen_result := trivial
  quiet := by
    intro session session' h _ hb hd
    exact ⟨by rw [hb]; exact h.body, by rw [hd]; exact h.diagnostics⟩
  emit := by
    intro session code h hp
    refine h.emit ?_
    cases code with
    | accessor code => cases hp
    | trampoline code => cases hp
    | stub callback => cases hp
    | wrapper code => cases hp
    | note diagnostic => cases hp
    | _ => trivial
  reject := fun h hk => h.reject fun hc => absurd hc hk
  settleFailed := fun h _ _ _ => ⟨h.body, h.diagnostics⟩
  commit := fun typedef h _ hm => h.commit hm typedef
  write := fun h _ ht hfits hv _ _ => h.write ht hfits hv
  wrap := fun h _ hw => h.wrap hw
  leave := by
    intro session function index param error h _ hf hp hs hblame
    obtain ⟨signature, hs⟩ := Option.isSome_iff_exists.1 hs
    exact h.reject fun _ => Or.inr (Or.inl
      ⟨function, index, param, signature, error, hf, hp, hs, .argument hf hp hs, hblame, rfl⟩)

theorem Session.comesFrom_start {library : Library} (pass : Pass library) (naming : Naming) :
    (Session.start naming).ComesFrom pass := by
  have hb : (Session.start naming).body = [] := by rw [start]
  have hd : (Session.start naming).diagnostics = [] := by rw [start]
  refine ⟨?_, ?_⟩
  · rw [hb]
    exact fun code hm => absurd hm List.not_mem_nil
  · rw [hd]
    exact fun before diagnostic after he => absurd he.symm (List.append_ne_nil_of_right_ne_nil _
      (List.cons_ne_nil _ _))

/-- When a module is complete, all of it comes from places. -/
theorem comesFrom_sessionAtEnd (decls : Declarations) (options : Options) :
    (sessionAtEnd decls options).ComesFrom (passOf decls options) := by
  refine (Upkeep.sessionAtEnd (provenance _) (fun _ => trivial) ?_
    (Session.comesFrom_start _ options.naming)).2
  intro session callback error h hv hblame
  have hcode : Section.ComesFrom (libraryOf decls options) (.stub callback) := hv
  refine (Session.ComesFrom.emit h hcode).reject fun _ => ?_
  exact Or.inr (Or.inr ⟨callback, error, hv, hblame, rfl⟩)

open BindM in
/-- The first place of a name decides for itself: what it is told is what looking
    at its own callback comes to. -/
theorem marshal_of_fresh {library : Library} (resolve : CType → BindM Conversion) {demand : Demand}
    {session : Session} (hn : session.callbacks.get? demand.id = none) :
    Ensures True library (demand.marshal resolve) session fun result _ =>
      ∃ session', (demand.check resolve).outcome library session = some (result, session') := by
  rw [Demand.marshal, marshal, ensures_bind, ensures_look]
  have hnone : session.callbacks.get? (callbackName demand.owner demand.name) = none := hn
  dsimp only
  rw [hnone]
  dsimp only
  rw [ensures_bind, ensures_attempt]
  refine (ensures_outcome library (demand.check resolve) session).mono fun result session' ho => ?_
  cases result with
  | ok callback => exact ⟨session', ho⟩
  | error error =>
      dsimp only
      rw [ensures_bind, ensures_update]
      dsimp only
      rw [ensures_fail]
      exact ⟨session', ho⟩

/-- Two functions on one record, each with a callback of the same name and of a
    signature of its own. -/
def sharedArgument : Declarations where
  records := .ofRows [("K", ⟨"K", .struct, [⟨"user_data", .pointerTo .void, none⟩]⟩)]
  functions :=
    [⟨"f", .void, [⟨"k", .pointerTo (.named "K")⟩,
        ⟨"cb", .pointerTo (.function
          ⟨.void, [.pointerTo (.named "K"), .builtin "int"], false⟩)⟩], false⟩,
      ⟨"g", .void, [⟨"k", .pointerTo (.named "K")⟩,
        ⟨"cb", .pointerTo (.function
          ⟨.builtin "int", [.pointerTo (.named "K")], false⟩)⟩], false⟩]

/-- The arguments of the wrapper in a piece of code. -/
def Section.arguments : Section → List Argument
  | .wrapper code => code.arguments
  | _ => []

end ScriptBind
