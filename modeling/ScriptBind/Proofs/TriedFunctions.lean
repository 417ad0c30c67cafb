import ScriptBind.Proofs.Exposure

/-!
# Functions Are Tried Once

While a module is put together it is noted which functions have a wrapper and
which cannot have one. Each function is tried by the first that asks for it, a
class of which it is a method or else the module, and whoever asks later is told
what is noted. So the notes only grow, no function is in both, and once a
function has been tried, what is noted of it at the end is what was noted then.

## Main definitions

* `Progress.Tried`: It is known whether a function can be wrapped.
* `Progress.Sound`, `Progress.Precedes`: The notes are right, and only grow.
* `Progress.methodRows`: The rows of a class's methods, by the notes.
* `Progress.classTables`: The tables of classes, by the notes.
* `AssemblyM.Ends`: What a step answers and leaves behind.

## Theorems

* `Precedes.contains_of_tried`: What is noted of a function does not change.
* `Precedes.methodRows_eq`: So the rows of methods that have been tried stay the
  same.
* `tryFunction_ends`: A function is tried.
-/

namespace ScriptBind

namespace Progress

/-- It has been found out whether a function can be wrapped. -/
def Tried (progress : Progress) (name : String) : Prop :=
  progress.wrapped.contains name ∨ name ∈ progress.failed

/-- What is noted of the functions of a library is right. -/
structure Sound (names : List String) (progress : Progress) : Prop where
  /-- A wrapper is noted under the name of its function. -/
  named : ∀ name function, progress.wrapped.get? name = some function → function.name = name
  /-- A function that cannot have a wrapper has none. -/
  apart : ∀ name ∈ progress.failed, progress.wrapped.contains name = false
  /-- Only functions of the library are tried. -/
  known : ∀ name, progress.Tried name → name ∈ names

/-- What is noted stays noted. -/
structure Precedes (before after : Progress) : Prop where
  /-- The wrappers. -/
  wrapped : before.wrapped.rows <+: after.wrapped.rows
  /-- The functions that cannot have one. -/
  failed : ∀ name ∈ before.failed, name ∈ after.failed

variable {before middle after : Progress} {names : List String} {name : String}

theorem Precedes.of_eq (hw : after.wrapped = before.wrapped) (hf : after.failed = before.failed) :
    before.Precedes after where
  wrapped := hw ▸ List.prefix_refl _
  failed := fun _ hm => hf ▸ hm

theorem Precedes.refl (progress : Progress) : progress.Precedes progress := .of_eq rfl rfl

theorem Precedes.trans (h : before.Precedes middle) (h' : middle.Precedes after) :
    before.Precedes after :=
  ⟨h.wrapped.trans h'.wrapped, fun name hm => h'.failed name (h.failed name hm)⟩

theorem Precedes.contains (h : before.Precedes after) (hc : before.wrapped.contains name) :
    after.wrapped.contains name :=
  Table.contains_of_initial h.wrapped hc

theorem Precedes.tried (h : before.Precedes after) (ht : before.Tried name) : after.Tried name :=
  ht.imp h.contains (h.failed name)

/-- What is noted of a function that has been tried does not change. -/
theorem Precedes.contains_of_tried (h : before.Precedes after) (hs : after.Sound names)
    (ht : before.Tried name) : after.wrapped.contains name = before.wrapped.contains name := by
  rcases ht with hc | hf
  · rw [hc, h.contains hc]
  · have hlater := hs.apart name (h.failed name hf)
    rw [hlater]
    refine (Bool.eq_false_iff.2 fun hc => ?_).symm
    rw [h.contains hc] at hlater
    cases hlater

/-- Whether the notes are right depends on them only. -/
theorem Sound.of_eq (h : before.Sound names) (hw : after.wrapped = before.wrapped)
    (hf : after.failed = before.failed) : after.Sound names where
  named := by rw [hw]; exact h.named
  apart := by rw [hw, hf]; exact h.apart
  known := fun name ht => h.known name (by rwa [Tried, hw, hf] at ht)

theorem sound_start (names : List String) (session : Session) :
    ({ session } : Progress).Sound names where
  named := fun _ _ h => by cases h
  apart := fun _ h => by cases h
  known := fun _ h => h.elim (fun hc => by cases hc) fun hf => by cases hf

/-- The rows of a class's methods, by the notes. -/
def methodRows (progress : Progress) (naming : Naming) (object : String) (methods : List String) :
    List Row :=
  (methods.filter progress.wrapped.contains).map fun method =>
    ⟨naming.methodName method object, .function method⟩

/-- All functions in some rows have wrappers. -/
def Backs (progress : Progress) (rows : List Row) : Prop :=
  ∀ row ∈ rows, ∀ name, row.target = .function name → progress.wrapped.contains name

theorem backs_methodRows (progress : Progress) (naming : Naming) (object : String)
    (methods : List String) : progress.Backs (progress.methodRows naming object methods) := by
  intro row hm name ht
  obtain ⟨method, hmethod, rfl⟩ := List.mem_map.1 hm
  obtain rfl := Target.function.inj ht
  exact (List.mem_filter.1 hmethod).2

theorem methodRows_append (progress : Progress) (naming : Naming) (object : String)
    (front back : List String) :
    progress.methodRows naming object (front ++ back) =
      progress.methodRows naming object front ++ progress.methodRows naming object back := by
  rw [methodRows, List.filter_append, List.map_append, methodRows, methodRows]

/-- The row of one method. -/
theorem Sound.rows_of_wrapped (h : before.Sound names) (naming : Naming) (object method : String) :
    ((before.wrapped.get? method).toList.map fun function =>
      (⟨naming.methodName method object, .function function.name⟩ : Row)) =
      before.methodRows naming object [method] := by
  rw [methodRows, List.filter_cons, Table.contains]
  cases hw : before.wrapped.get? method with
  | none => rfl
  | some function =>
      rw [Option.isSome_some, if_pos rfl, Option.toList_some, List.map_singleton, h.named _ _ hw]
      rfl

/-- Which methods have wrappers does not change once all of them have been tried. -/
theorem Precedes.filter_contains (h : before.Precedes after) (hs : after.Sound names)
    {methods : List String} (ht : ∀ method ∈ methods, method ∈ names → before.Tried method) :
    methods.filter after.wrapped.contains = methods.filter before.wrapped.contains := by
  refine List.filter_congr fun method hm => ?_
  by_cases hn : method ∈ names
  · exact h.contains_of_tried hs (ht method hm hn)
  · -- What is no function of the library is not noted at all.
    have hafter : after.wrapped.contains method = false :=
      Bool.eq_false_iff.2 fun hc => hn (hs.known method (Or.inl hc))
    rw [hafter]
    refine (Bool.eq_false_iff.2 fun hc => ?_).symm
    rw [h.contains hc] at hafter
    cases hafter

/-- The rows of methods that have been tried do not change. -/
theorem Precedes.methodRows_eq (h : before.Precedes after) (hs : after.Sound names)
    {methods : List String} (ht : ∀ method ∈ methods, method ∈ names → before.Tried method)
    (naming : Naming) (object : String) :
    after.methodRows naming object methods = before.methodRows naming object methods := by
  rw [methodRows, methodRows, h.filter_contains hs ht]

/-- The table of a class, by the notes and the tables built before. -/
def classTable (progress : Progress) (naming : Naming) (groups : Table EnumGroup)
    (built : Table (List Row)) (cls : ScriptClass) : ClassTable where
  name := cls.name
  kind := .object
  constructor := cls.constructor
  rows := firstOfEachName
    (progress.methodRows naming cls.name cls.methods ++ furtherRows naming groups built cls)

/-- The tables of classes in order, by the notes and the tables built before. -/
def classTables (progress : Progress) (naming : Naming) (groups : Table EnumGroup) :
    Table (List Row) → List ScriptClass → List ClassTable
  | _, [] => []
  | built, cls :: rest =>
    let table := progress.classTable naming groups built cls
    table :: progress.classTables naming groups (built.set table.name table.rows) rest

theorem classTables_of_eq (h : after.wrapped = before.wrapped) (naming : Naming)
    (groups : Table EnumGroup) (classes : List ScriptClass) (built : Table (List Row)) :
    after.classTables naming groups built classes =
      before.classTables naming groups built classes := by
  induction classes generalizing built with
  | nil => rfl
  | cons cls rest ih =>
      have htable :
          after.classTable naming groups built cls = before.classTable naming groups built cls := by
        rw [classTable, classTable, methodRows, methodRows, h]
      rw [classTables, classTables, htable, ih]

end Progress

namespace AssemblyM

variable {α β : Type} {library : Library}

/-- What a step answers and leaves behind satisfies a condition. -/
def Ends (library : Library) (action : AssemblyM α) (before : Progress)
    (post : α → Progress → Prop) : Prop :=
  post (action library before).1 (action library before).2

theorem Ends.mono {action : AssemblyM α} {before : Progress} {post post' : α → Progress → Prop}
    (h : Ends library action before post)
    (hpost : ∀ answer after, post answer after → post' answer after) :
    Ends library action before post' :=
  hpost _ _ h

/-- One step after another: the second starts where the first left off. -/
theorem ends_bind {action : AssemblyM β} {next : β → AssemblyM α} {before : Progress}
    {post : α → Progress → Prop} :
    Ends library (action >>= next) before post ↔
      Ends library action before fun answer middle => Ends library (next answer) middle post :=
  Iff.rfl

theorem ends_pure {answer : α} {before : Progress} {post : α → Progress → Prop} :
    Ends library (pure answer) before post ↔ post answer before := Iff.rfl

theorem ends_read {before : Progress} {post : Library → Progress → Prop} :
    Ends library (read : AssemblyM Library) before post ↔ post library before := Iff.rfl

theorem ends_get {before : Progress} {post : Progress → Progress → Prop} :
    Ends library (get : AssemblyM Progress) before post ↔ post before before := Iff.rfl

theorem ends_binding {action : BindM α} {before : Progress}
    {post : Except BindError α → Progress → Prop} :
    Ends library (binding action) before post ↔
      post (action.run library.naming.moduleName library before.session).1
        { before with
          session := (action.run library.naming.moduleName library before.session).2
          endless := (binding action library before).2.endless } :=
  Iff.rfl

/-- A step that leaves the notes alone. -/
def LeavesNotes (library : Library) (action : AssemblyM α) : Prop :=
  ∀ before, Ends library action before fun _ after =>
    after.wrapped = before.wrapped ∧ after.failed = before.failed

theorem LeavesNotes.binding (action : BindM α) : LeavesNotes library (AssemblyM.binding action) :=
  fun _ => ⟨rfl, rfl⟩

theorem LeavesNotes.emit (code : Section) : LeavesNotes library (AssemblyM.emit code) :=
  fun _ => ⟨rfl, rfl⟩

theorem LeavesNotes.pure (answer : α) : LeavesNotes library (Pure.pure answer : AssemblyM α) :=
  fun _ => ⟨rfl, rfl⟩

theorem LeavesNotes.bind {action : AssemblyM β} {next : β → AssemblyM α}
    (h : LeavesNotes library action) (hnext : ∀ answer, LeavesNotes library (next answer)) :
    LeavesNotes library (action >>= next) := by
  intro before
  obtain ⟨hw, hf⟩ := h before
  obtain ⟨hw', hf'⟩ := hnext (action library before).1 (action library before).2
  exact ⟨hw'.trans hw, hf'.trans hf⟩

theorem LeavesNotes.forM {f : β → AssemblyM PUnit} (items : List β)
    (h : ∀ item, LeavesNotes library (f item)) : LeavesNotes library (items.forM f) := by
  induction items with
  | nil => exact .pure _
  | cons item rest ih =>
      show LeavesNotes library (f item >>= fun _ => rest.forM f)
      exact (h item).bind fun _ => ih

end AssemblyM

open AssemblyM

variable {library : Library} {names : List String}

/-- A wrapped function is known by its name. -/
theorem wrapOrReject_answers (library : Library) (function : CFunction) :
    BindM.Answers library (fun answer => ∀ wrapped, answer = some wrapped →
      wrapped.name = function.name) (wrapOrReject function) := by
  have hname : BindM.Answers library (fun wrapped => wrapped.name = function.name)
      (wrapFunction function) := by
    rw [wrapFunction]
    split
    · exact .fail _
    · exact .bind (.any _) fun _ _ => .bind (.any _) fun _ _ => .bind (.any _) fun _ _ => .pure rfl
  intro session
  rw [wrapOrReject, BindM.ensures_bind, BindM.ensures_attempt]
  refine (hname session).mono fun result session' hanswer => ?_
  cases result with
  | ok wrapped =>
      intro answer ha other ho
      rw [← Except.ok.inj ha] at ho
      rw [← Option.some.inj ho]
      exact hanswer wrapped rfl
  | error error =>
      intro answer ha other ho
      rw [← Except.ok.inj ha] at ho
      cases ho

/-- What is answered by a computation that is brought to an end. -/
theorem run_of_answers {α : Type} {P : α → Prop} {action : BindM α}
    (h : BindM.Answers library P action) (subject : String) (session : Session) :
    ∀ answer, (action.run subject library session).1 = .ok answer → P answer := by
  have hs := h session
  intro answer ha
  rw [BindM.run] at ha
  unfold BindM.Ensures at hs
  split at hs
  · next he =>
      rw [he, Option.getD_some] at ha
      exact hs answer ha
  · next he =>
      rw [he, Option.getD_none] at ha
      cases ha

/-- What trying a function comes to: what is answered is what is noted. -/
structure Progress.Noted (names : List String) (name : String) (before : Progress)
    (answer : Option WrappedFunction) (after : Progress) : Prop where
  /-- The notes stay right. -/
  sound : after.Sound names
  /-- They only grow. -/
  precedes : before.Precedes after
  /-- The answer is noted. -/
  answer : answer = after.wrapped.get? name
  /-- The function has been tried. -/
  tried : after.Tried name
  /-- No other function has been tried meanwhile. -/
  others : ∀ other, after.Tried other → before.Tried other ∨ other = name

section Noting

variable {before : Progress} {name : String}

/-- The function had been tried before. -/
theorem Progress.noted_before (hs : before.Sound names) (ht : before.Tried name) :
    before.Noted names name (before.wrapped.get? name) before :=
  ⟨hs, .refl before, rfl, ht, fun _ ho => Or.inl ho⟩

/-- The function gets its wrapper. -/
theorem Progress.noted_wrapped (hs : before.Sound names) (hn : name ∈ names)
    (hw : before.wrapped.get? name = none) (hf : name ∉ before.failed) (session : Session)
    (endless : Nat) {function : WrappedFunction} (hname : function.name = name) :
    before.Noted names name (some function)
      { before with session, endless, wrapped := before.wrapped.add name function } := by
  have hget : ∀ other, (before.wrapped.add name function).get? other =
      (before.wrapped.get? other).or (if name = other then some function else none) :=
    fun other => before.wrapped.get?_add name other function
  have hself : (before.wrapped.add name function).get? name = some function := by
    rw [hget, hw, if_pos rfl, Option.none_or]
  have hothers : ∀ other, (before.wrapped.add name function).contains other ∨
      other ∈ before.failed → before.Tried other ∨ other = name := by
    intro other ho
    rw [Table.contains_add, Bool.or_eq_true, decide_eq_true_eq] at ho
    exact ho.elim (fun hc => hc.imp Or.inl Eq.symm) fun hm => Or.inl (Or.inr hm)
  refine ⟨⟨fun other found hfound => ?_, fun other hm => ?_, fun other ho => ?_⟩,
    ⟨Table.prefix_add .., fun _ hm => hm⟩, hself.symm, Or.inl ?_, hothers⟩
  · have hfound' := (hget other).symm.trans hfound
    rcases Option.or_eq_some_iff.1 hfound' with ho | ⟨-, ho⟩
    · exact hs.named other found ho
    · split at ho
      · next he => rw [← Option.some.inj ho, hname, he]
      · cases ho
  · show (before.wrapped.add name function).contains other = false
    have hne : name ≠ other := fun he => hf (he ▸ hm)
    rw [Table.contains_add, hs.apart other hm, decide_eq_false hne, Bool.or_false]
  · exact (hothers other ho).elim (hs.known other) fun he => he ▸ hn
  · exact Option.isSome_iff_exists.2 ⟨function, hself⟩

/-- The function cannot have a wrapper. -/
theorem Progress.noted_failed (hs : before.Sound names) (hn : name ∈ names)
    (hw : before.wrapped.get? name = none) (session : Session) (endless : Nat) :
    before.Noted names name none
      { before with session, endless, failed := addName before.failed name } := by
  have hothers : ∀ other, before.wrapped.contains other ∨ other ∈ addName before.failed name →
      before.Tried other ∨ other = name := by
    intro other ho
    rw [mem_addName] at ho
    exact ho.elim (fun hc => Or.inl (Or.inl hc)) fun hm => hm.imp_left Or.inr
  refine ⟨⟨hs.named, fun other hm => ?_, fun other ho => ?_⟩,
    ⟨List.prefix_refl _, fun other hm => mem_addName.2 (Or.inl hm)⟩, hw.symm,
    Or.inr (mem_addName.2 (Or.inr rfl)), hothers⟩
  · rcases mem_addName.1 hm with hm | rfl
    · exact hs.apart other hm
    · show before.wrapped.contains other = false
      rw [Table.contains, hw]
      rfl
  · exact (hothers other ho).elim (hs.known other) fun he => he ▸ hn

end Noting

theorem tryFunction_ends {function : CFunction} (hn : function.name ∈ names) {before : Progress}
    (hs : before.Sound names) :
    Ends library (tryFunction function) before (before.Noted names function.name) := by
  rw [tryFunction, ends_bind, ends_get]
  cases hw : before.wrapped.get? function.name with
  | some wrapped =>
      rw [ends_pure, ← hw]
      exact Progress.noted_before hs (Or.inl (Option.isSome_iff_exists.2 ⟨wrapped, hw⟩))
  | none =>
      dsimp only
      split
      · next hf =>
          rw [List.contains_iff_mem] at hf
          rw [ends_pure, ← hw]
          exact Progress.noted_before hs (Or.inr hf)
      · next hf =>
          rw [List.contains_iff_mem] at hf
          rw [ends_bind, ends_binding]
          -- Of the attempt only the answer's name matters, not the session it leaves.
          have hname := run_of_answers (wrapOrReject_answers library function)
            library.naming.moduleName before.session
          generalize (wrapOrReject function).run library.naming.moduleName library before.session =
            result at hname ⊢
          obtain ⟨answer, session⟩ := result
          rcases answer with error | wrapped | wrapped
          · exact Progress.noted_failed hs hn hw session _
          · exact Progress.noted_failed hs hn hw session _
          · exact Progress.noted_wrapped hs hn hw hf session _
              (hname (some wrapped) rfl wrapped rfl)

end ScriptBind
