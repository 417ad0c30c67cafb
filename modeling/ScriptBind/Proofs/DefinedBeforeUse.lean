import ScriptBind.Proofs.BaseConverters
import ScriptBind.Proofs.Operations
import ScriptBind.Proofs.SectionNames

/-!
# Converters Are Defined Before Use

C wants a converter defined before it is called. The runtime has some, and the
others are defined by the accessors of records and by the code for array types.
A session knows a conversion no sooner than it has written the code with its
converters, and code is written from conversions that are known, or from those
of the runtime, by which pointers to a record pass while it is being bound. So
whatever a piece of code calls is there when the code is written, and as code is
written in order, it stands further up.

This must be so at any time and not only at the end. A conversion may have been
found long before the code that calls its converters is written, and what is
written in between is for other types. The sessions looked at are those on the
way of everything that puts a module together, down to the binding of single
records and the writing of single trampolines.

## Main definitions

* `runtimeConverters`: The converters that the runtime has.
* `CallsDefined`: Code that calls only what is defined before it.
* `Routine`: The computations that a module is put together from.
* `Session.Underway`: The sessions that they lead to.

## Theorems

* `Routine.yields`: A routine keeps sessions sourced.
* `underway_sessionAtEnd`: The end of a module is among the sessions looked at.
* `converters_defined`: Converters are defined before use.
-/

namespace ScriptBind

section Definitions

/-- The converters that the runtime has: those of the types that need nothing to
    be generated, those by which pointers pass untyped, and those of enums. -/
def runtimeConverters (naming : Naming) : List String :=
  (.untyped :: .integer :: (Registry.seeded naming).values).flatMap Conversion.converters

/-- The runtime has a converter, or some code defines it, and has a line that says
    so. -/
def IsDefined (naming : Naming) (body : List Section) (name : String) : Prop :=
  name ∈ runtimeConverters naming ∨ ∃ code ∈ body, name ∈ code.provides ∧
    ∃ line ∈ code.lines naming.moduleName, Defines line name

/-- Code of which each piece calls only converters that the runtime has or that
    are defined before it. -/
def CallsDefined (naming : Naming) (body : List Section) : Prop :=
  ∀ front code back, body = front ++ code :: back → ∀ name ∈ code.calls, IsDefined naming front name

variable {library : Library} {scope : Scope library} {body : List Section} {name : String}

/-- The converters of a sourced conversion are defined. -/
theorem Conversion.Sourced.isDefined {conversion : Conversion} (h : conversion.Sourced scope body)
    (hn : name ∈ conversion.converters) : IsDefined library.naming body name := by
  have hruntime : ∀ conversion : Conversion,
      conversion ∈ .untyped :: .integer :: (Registry.seeded library.naming).values →
      name ∈ conversion.converters → IsDefined library.naming body name :=
    fun conversion hm hn => Or.inl (List.mem_flatMap.2 ⟨conversion, hm, hn⟩)
  have hcode : ∀ code ∈ body, name ∈ code.provides → IsDefined library.naming body name :=
    fun code hm hp => Or.inr ⟨code, hm, hp, code.provides_lines _ hp⟩
  cases h with
  | untyped => exact hruntime _ (List.mem_cons_self ..) hn
  | integer => exact hruntime _ (List.mem_cons_of_mem _ (List.mem_cons_self ..)) hn
  | callback =>
      -- A callable is registered by other means, and a callback is shown as an untyped pointer.
      refine hruntime .untyped (List.mem_cons_self ..) ?_
      rw [List.mem_singleton.1 hn]
      exact Conversion.untyped.outward_mem_converters
  | seed hk hs =>
      have hvalue : conversion ∈ (Registry.seeded library.naming).values :=
        List.mem_map_of_mem (f := Prod.snd) (Table.mem_of_get? hs)
      exact hruntime _ (List.mem_cons_of_mem _ (List.mem_cons_of_mem _ hvalue)) hn
  -- An accessor provides the converters of the record and those of pointers to it.
  | @record members hm =>
      have hprovided := List.mem_append_left members.pointerConversion.converters hn
      exact hcode _ hm hprovided
  | @pointer members hm =>
      have hprovided := List.mem_append_right members.conversion.converters hn
      exact hcode _ hm hprovided
  | array hm => exact hcode _ hm hn

/-- What sourced code calls is defined before it. -/
theorem AllSourced.callsDefined (h : AllSourced scope body) : CallsDefined library.naming body := by
  intro front code back hb name hn
  obtain ⟨conversion, hc, hm⟩ := (h.section hb).calls hn
  exact hc.isDefined hm

end Definitions

/-- The computations that a module is put together from: whole operations, and
    within any number of levels what these consist of. -/
inductive Routine : {α : Type} → BindM α → Prop where
  /-- What can be asked of a session. -/
  | operation (operation : Operation) : Routine operation.action
  /-- Resolving a type. -/
  | resolve (levels links : Nat) (type : CType) :
      Routine ((bindersWithin levels).resolve links type)
  /-- Binding a record. -/
  | bind (levels : Nat) (key : String) (record : Record) (typedef : Option MemberTypedef) :
      Routine ((bindersWithin levels).bind key record typedef)
  /-- The same before anything that was put off is bound once more. -/
  | fresh (levels : Nat) (key : String) (deferred : DeferredStruct) :
      Routine (bindFresh (bindersWithin levels) key deferred)
  /-- Writing a trampoline. -/
  | trampoline (levels : Nat) (callback : Callback) :
      Routine (emitWith (renderWithin levels) callback)

/-- The sessions on the way to a module. -/
inductive Session.Underway (library : Library) : Session → Prop where
  /-- Nothing is bound yet. -/
  | start : Underway library (.start library.naming)
  /-- A routine has come to an end, with or without success. -/
  | run {α : Type} {action : BindM α} {session session' : Session} {result : Except BindError α} :
      Routine action → Underway library session →
      action.outcome library session = some (result, session') → Underway library session'
  /-- Between two routines: something else is noted, or code written that converts
      nothing. -/
  | note {session session' : Session} {added : List Section} :
      Underway library session → session'.registry = session.registry →
      session'.body = session.body ++ added → (∀ code ∈ added, code.isSilent) →
      Underway library session'

section Routines

variable {library : Library} {body : List Section} {session session' : Session}

/-- A routine keeps sessions sourced. -/
theorem Routine.yields {α : Type} {action : BindM α} (h : Routine action) (body : List Section) :
    (Scope.all library).Yields body (fun _ _ => True) action := by
  -- Operations answer nothing, whatever they find.
  have hunit : ∀ {α : Type} {P : List Section → α → Prop} {action : BindM α},
      (Scope.all library).Yields body P action →
      (Scope.all library).Yields body (fun _ _ => True) (do let _ ← action) :=
    fun h => h.bind fun _ _ _ _ => .pure fun _ _ => trivial
  cases h with
  | operation operation =>
      cases operation with
      | resolve type => exact hunit (resolve_yields trivial)
      | bind key record => exact hunit (bindStruct_yields trivial)
      | array element length => exact hunit (resolveArray_yields trivial)
      | openArray element => exact hunit (resolveOpenArray_yields trivial)
      | register site =>
          exact hunit (registerWith_yields (fun _ hc _ => emitCallback_yields hc) trivial)
      | emit callback => exact emitCallback_yields trivial
      | emitPending => exact emitPending_yields
      | wrap function => exact hunit (wrapFunction_yields ⟨trivial, fun _ _ => trivial⟩)
      | wrapOrReject function => exact hunit (wrapOrReject_yields ⟨trivial, fun _ _ => trivial⟩)
      | showGlobals globals => exact hunit (showGlobals_yields fun _ _ => trivial)
      | bindCell => exact bindPointerCell_yields
  | resolve levels links type =>
      exact ((bindersWithin_source _ levels).resolve links type trivial body).mono fun _ _ _ =>
        trivial
  | bind levels key record typedef =>
      exact (bindersWithin_source _ levels).bind key record typedef trivial body
  | fresh levels key deferred => exact bindFresh_yields (bindersWithin_source _ levels) trivial
  | trampoline levels callback =>
      exact emitWith_yields trivial fun _ => renderWithin_yields levels trivial

/-- So all sessions on the way are sourced, whatever types there are. -/
theorem Session.Underway.sourced (h : session.Underway library) :
    session.Sourced (Scope.all library) := by
  induction h with
  | start => exact Session.sourced_start _
  -- How a routine comes to its end is not looked at: it yields from whatever it starts.
  | run hr _ ho ih => exact ((hr.yields _ _ ih (List.prefix_refl _)).of_outcome ho).1
  | note _ hregistry hbody hsilent ih =>
      -- What is known is as before, and more code takes nothing away from it.
      have hcode := ih.body.append fun code hm before _ =>
        Section.sourced_of_isSilent (hsilent code hm) _ before
      exact
        { toWithin := Session.within_all _
          seeds := hregistry ▸ ih.seeds
          registry := fun key conversion hk hc => by
            rw [hregistry] at hc
            exact hbody ▸ (ih.registry key conversion hk hc).mono (List.prefix_append ..)
          body := hbody ▸ hcode }

/-- What a session on the way comes to by a routine is on the way. -/
theorem Session.Underway.ensures {α : Type} {action : BindM α} (hr : Routine action)
    (h : session.Underway library) :
    BindM.Ensures True library action session fun _ session' => session'.Underway library :=
  (BindM.ensures_outcome library action session).mono fun _ _ ho => .run hr h ho

end Routines

variable {decls : Declarations} {options : Options}

/-- The end of a module is among the sessions on the way. -/
theorem underway_sessionAtEnd (decls : Declarations) (options : Options) :
    (sessionAtEnd decls options).Underway (libraryOf decls options) := by
  -- What a computation answers makes no difference to the session.
  have hbinding : ∀ {α : Type} {action : BindM α}, Routine (do let _ ← action) →
      AssemblyM.Preserves (libraryOf decls options) (Session.Underway (libraryOf decls options))
        (AssemblyM.binding action) := by
    intro α action hr
    refine .binding fun session hs => ?_
    have h := hs.ensures hr
    rw [BindM.ensures_bind] at h
    refine h.mono fun result session' hp => ?_
    cases result with
    | ok answer => exact hp
    | error error => exact hp
  have hall : AssemblyM.Upholds (libraryOf decls options)
      (Session.Underway (libraryOf decls options)) :=
    { emit := fun session code hp hs => .note hs rfl rfl fun other ho => by
        rw [List.mem_singleton.1 ho]
        exact Section.isSilent_of_isOfModule hp
      wrap := fun function _ => hbinding (.operation (.wrapOrReject function))
      cell := .binding fun session hs => hs.ensures (.operation .bindCell)
      globals := hbinding (.operation (.showGlobals _)) }
  exact hall.sessionAtEnd (.binding fun session hs => hs.ensures (.operation .emitPending)) .start

/-- Two records that point to each other, and a function that takes the first. -/
def mutualRecords : Declarations where
  records := .ofRows
    [("A", ⟨"A", .struct, [⟨"b", .pointerTo (.named "B"), none⟩]⟩),
      ("B", ⟨"B", .struct, [⟨"a", .pointerTo (.named "A"), none⟩]⟩)]
  functions := [⟨"f", .void, [⟨"a", .pointerTo (.named "A")⟩], false⟩]

set_option maxRecDepth 100000 in
/-- The second is written while the first is being bound, and so without the
    converters of the first. -/
example :
    ((assemble mutualRecords { moduleName := "m" }).body.map fun code =>
      (code.provides.drop 3, code.calls)).drop 3 =
      [(["mp_write_ptr_B", "mp_read_ptr_B"], ["mp_to_ptr", "ptr_to_mp"]),
        (["mp_write_ptr_A", "mp_read_ptr_A"], ["mp_write_ptr_B", "mp_read_ptr_B"]),
        ([], ["mp_write_ptr_A"])] := by
  decide +kernel

end ScriptBind
