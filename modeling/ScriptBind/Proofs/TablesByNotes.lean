import ScriptBind.Proofs.TriedFunctions

/-!
# Tables Follow the Notes

Since a function is tried only once, the tables of classes and of the module's
own functions are a matter of the notes at the end: a class has a row for each of
its methods that has a wrapper then, and the module lists just those functions
that no class has tried.

A class takes further rows from its parent, from the groups that it nests and
from the members of its own group. None of these leads to a function that is not
in the notes already, because the parent has been written before the class.

## Main definitions

* `IsTabled`: A class has its table, by the notes.
* `Exports.Follows`: The tables of a module are as the notes say.

## Theorems

* `objectTables_ends`: The tables of classes, by the notes at the end.
* `moduleFunctions_ends`: The module's own functions, by the notes.
* `assembleBody_ends`: The tables of a module, by the notes.
-/

namespace ScriptBind

open AssemblyM

variable {library : Library} {names : List String}

section Rows

theorem mem_of_mem_firstOfEachNameFrom {taken : List String} {rows : List Row} {row : Row}
    (h : row ∈ firstOfEachNameFrom taken rows) : row ∈ rows := by
  induction rows generalizing taken with
  | nil => exact h
  | cons first rest ih =>
      rw [firstOfEachNameFrom] at h
      split at h
      · exact List.mem_cons_of_mem _ (ih h)
      · rcases List.mem_cons.1 h with rfl | h
        · exact List.mem_cons_self ..
        · exact List.mem_cons_of_mem _ (ih h)

/-- Only rows are left that were there. -/
theorem mem_of_mem_firstOfEachName {rows : List Row} {row : Row} (h : row ∈ firstOfEachName rows) :
    row ∈ rows :=
  mem_of_mem_firstOfEachNameFrom h

theorem function_notMem_memberRows (group : EnumGroup) (name : String) :
    ∀ row ∈ group.memberRows, row.target ≠ .function name := by
  intro row hm ht
  obtain ⟨⟨label, value⟩, -, rfl⟩ := List.mem_map.1 hm
  cases value with
  | number => cases ht
  | text => cases ht

/-- What a class has besides its own methods is a row of its parent, a member of an enum
    group, or a nested enum group. -/
theorem mem_furtherRows {naming : Naming} {groups : Table EnumGroup} {built : Table (List Row)}
    {cls : ScriptClass} {row : Row} (h : row ∈ furtherRows naming groups built cls) :
    (∃ parent rows, built.get? parent = some rows ∧ row ∈ rows) ∨
      (∃ name group, groups.get? name = some group ∧ row ∈ group.memberRows) ∨
      ∃ group ∈ cls.nestedEnums,
      row = ⟨naming.nestedEnumName group cls.name, .enumClass group⟩ := by
  rw [furtherRows, List.mem_append, List.mem_append] at h
  rcases h with (hinherited | hmember) | hnested
  · cases hp : cls.parent.bind built.get? with
    | none =>
        rw [hp] at hinherited
        cases hinherited
    | some rows =>
        rw [hp] at hinherited
        obtain ⟨parent, -, hbuilt⟩ := Option.bind_eq_some_iff.1 hp
        exact Or.inl ⟨parent, rows, hbuilt, hinherited⟩
  · cases hg : cls.enumMembers.bind groups.get? with
    | none =>
        rw [hg] at hmember
        cases hmember
    | some group =>
        rw [hg] at hmember
        obtain ⟨name, -, hgroup⟩ := Option.bind_eq_some_iff.1 hg
        exact Or.inr (Or.inl ⟨name, group, hgroup, hmember⟩)
  · obtain ⟨group, hgroup, rfl⟩ := List.mem_map.1 hnested
    exact Or.inr (Or.inr ⟨group, hgroup, rfl⟩)

/-- What a class has besides its own methods leads to functions only in the rows of
    its parent. -/
theorem backs_furtherRows {progress : Progress} {naming : Naming} {groups : Table EnumGroup}
    {built : Table (List Row)}
    (hb : ∀ name rows, built.get? name = some rows → progress.Backs rows) (cls : ScriptClass) :
    progress.Backs (furtherRows naming groups built cls) := by
  intro row hm name ht
  rcases mem_furtherRows hm with ⟨parent, rows, hbuilt, hrow⟩ | ⟨-, group, -, hrow⟩ |
    ⟨group, -, rfl⟩
  · exact hb parent rows hbuilt row hrow name ht
  · exact absurd ht (function_notMem_memberRows group name row hrow)
  · cases ht

end Rows

section Methods

variable {functions : List CFunction}

/-- The rows of a class's methods are those that the notes give. -/
theorem methodRows_ends (hf : names = functions.map CFunction.name) (object : String)
    (methods : List String) {before : Progress} (hs : before.Sound names) :
    Ends library (methodRows functions object methods) before fun rows after =>
      after.Sound names ∧ before.Precedes after ∧
        rows = after.methodRows library.naming object methods ∧
        (∀ method ∈ methods, method ∈ names → after.Tried method) ∧
        ∀ name, after.Tried name → before.Tried name ∨ name ∈ methods := by
  induction methods generalizing before with
  | nil =>
      exact ends_pure.2 ⟨hs, .refl before, rfl, (fun _ hm => by cases hm), fun _ ht => Or.inl ht⟩
  | cons method rest ih =>
      rw [methodRows]
      -- Once the method itself has been tried, the others follow.
      have hrest : ∀ (wrapped : Option WrappedFunction) (middle : Progress), middle.Sound names →
          before.Precedes middle → wrapped = middle.wrapped.get? method →
          (method ∈ names → middle.Tried method) →
          (∀ other, middle.Tried other → before.Tried other ∨ other = method) →
          Ends library (do
            let naming := (← read).naming
            let own := wrapped.toList.map fun function =>
              { name := naming.methodName method object, target := .function function.name : Row }
            return own ++ (← methodRows functions object rest)) middle fun rows after =>
              after.Sound names ∧ before.Precedes after ∧
                rows = after.methodRows library.naming object (method :: rest) ∧
                (∀ other ∈ method :: rest, other ∈ names → after.Tried other) ∧
                ∀ name, after.Tried name → before.Tried name ∨ name ∈ method :: rest := by
        intro wrapped middle hm hprecedes hanswer htried hothers
        rw [ends_bind, ends_read, ends_bind]
        refine (ih hm).mono fun rows after hall => ?_
        obtain ⟨ha, hprecedes', hrows, htried', hothers'⟩ := hall
        rw [ends_pure]
        refine ⟨ha, hprecedes.trans hprecedes', ?_, ?_, ?_⟩
        · have hsingle : ∀ other ∈ [method], other ∈ names → middle.Tried other := by
            intro other ho hn
            rw [List.mem_singleton.1 ho] at hn ⊢
            exact htried hn
          have hmethod := hprecedes'.methodRows_eq ha hsingle library.naming object
          rw [hrows, hanswer, hm.rows_of_wrapped, ← hmethod, ← Progress.methodRows_append]
          rfl
        · intro other ho hn
          rcases List.mem_cons.1 ho with rfl | ho
          · exact hprecedes'.tried (htried hn)
          · exact htried' other ho hn
        · intro name ht
          rcases hothers' name ht with ht | hm
          · exact (hothers name ht).imp_right fun he => List.mem_cons.2 (Or.inl he)
          · exact Or.inr (List.mem_cons_of_mem _ hm)
      split
      · next function hfind =>
          have hm : function.name ∈ names :=
            hf ▸ List.mem_map_of_mem (List.mem_of_find?_eq_some hfind)
          obtain rfl : function.name = method := by simpa using List.find?_some hfind
          rw [ends_bind]
          exact (tryFunction_ends hm hs).mono fun answer middle h =>
            hrest answer middle h.sound h.precedes h.answer (fun _ => h.tried) h.others
      · next hfind =>
          have hm : method ∉ names := by
            intro hm
            rw [hf] at hm
            obtain ⟨function, hfunction, rfl⟩ := List.mem_map.1 hm
            exact List.find?_eq_none.1 hfind function hfunction (by simp)
          rw [ends_bind, ends_pure]
          refine hrest none before hs (.refl before) ?_ (fun hn => absurd hn hm)
            fun _ ht => Or.inl ht
          refine (Option.eq_none_iff_forall_ne_some.2 fun function hfunction => hm ?_).symm
          exact hs.known method (Or.inl (Option.isSome_iff_exists.2 ⟨function, hfunction⟩))

/-- A class's table begins with the rows of its methods, by the notes. -/
def IsTabled (naming : Naming) (progress : Progress) (cls : ScriptClass) (table : ClassTable) :
    Prop :=
  table.kind = .object ∧ table.name = cls.name ∧ ∃ further,
    table.rows = firstOfEachName (progress.methodRows naming cls.name cls.methods ++ further)

section Tables

variable {progress : Progress} {naming : Naming} {groups : Table EnumGroup}
  {built : Table (List Row)} {classes : List ScriptClass}

/-- What holds of the table of each class, whatever tables are built before it that it holds
    of, holds of all tables. -/
theorem Progress.classTables_induct {P : List Row → Prop}
    (htable : ∀ (built : Table (List Row)), (∀ name rows, built.get? name = some rows → P rows) →
      ∀ cls ∈ classes, P (progress.classTable naming groups built cls).rows)
    (hb : ∀ name rows, built.get? name = some rows → P rows) :
    ∀ table ∈ progress.classTables naming groups built classes, P table.rows := by
  induction classes generalizing built with
  | nil => exact fun _ hm => by cases hm
  | cons cls rest ih =>
      have hfirst := htable built hb cls (List.mem_cons_self ..)
      rw [Progress.classTables]
      refine List.forall_mem_cons.2 ⟨hfirst, ih (fun built' hb' other ho =>
        htable built' hb' other (List.mem_cons_of_mem _ ho)) fun name rows hr => ?_⟩
      rcases Table.eq_of_get?_set hr with hold | ⟨-, hnew⟩
      · exact hb name rows hold
      · exact hnew ▸ hfirst

/-- Every class has a table that begins with the rows of its methods. -/
theorem Progress.exists_isTabled {cls : ScriptClass} (h : cls ∈ classes) :
    ∃ table ∈ progress.classTables naming groups built classes,
    IsTabled naming progress cls table := by
  induction classes generalizing built with
  | nil => cases h
  | cons first rest ih =>
      rw [Progress.classTables]
      rcases List.mem_cons.1 h with rfl | hm
      · exact ⟨_, List.mem_cons_self .., rfl, rfl, furtherRows naming groups built cls, rfl⟩
      · obtain ⟨table, htable, hof⟩ := ih hm
        exact ⟨table, List.mem_cons_of_mem _ htable, hof⟩

/-- Tables lead only to functions that have wrappers by the notes. -/
theorem Progress.backs_classTables :
    ∀ table ∈ progress.classTables naming groups .empty classes, progress.Backs table.rows := by
  refine Progress.classTables_induct (fun built hb cls _ row hrow name htarget => ?_)
    fun _ _ h => by cases h
  rcases List.mem_append.1 (mem_of_mem_firstOfEachName hrow) with hm | hm
  · exact Progress.backs_methodRows _ _ _ _ row hm name htarget
  · exact backs_furtherRows hb cls row hm name htarget

end Tables

/-- The tables of classes are those that the notes give, and no others than the methods
    have been tried. -/
theorem objectTables_ends (hf : names = functions.map CFunction.name) (groups : Table EnumGroup)
    (classes : List ScriptClass) (built : Table (List Row)) {before : Progress}
    (hs : before.Sound names) :
    Ends library (objectTables functions groups built classes) before fun tables after =>
      after.Sound names ∧ before.Precedes after ∧
        tables = after.classTables library.naming groups built classes ∧
        (∀ cls ∈ classes, ∀ method ∈ cls.methods, method ∈ names → after.Tried method) ∧
        ∀ name, after.Tried name → before.Tried name ∨ ∃ cls ∈ classes, name ∈ cls.methods := by
  induction classes generalizing built before with
  | nil =>
      exact ends_pure.2 ⟨hs, .refl before, rfl, (fun _ hm => by cases hm), fun _ ht => Or.inl ht⟩
  | cons cls rest ih =>
      rw [objectTables, ends_bind, objectTable, ends_bind]
      refine (methodRows_ends hf cls.name cls.methods hs).mono fun own middle hall => ?_
      obtain ⟨hm, hprecedes, rfl, htried, hothers⟩ := hall
      rw [ends_bind, ends_read, ends_pure, ends_bind]
      -- Writing the table leaves the notes alone.
      refine (LeavesNotes.emit _ middle).mono fun _ written hsame => ?_
      have hsteps : middle.Precedes written := .of_eq hsame.1 hsame.2
      rw [ends_bind]
      refine (ih _ (hm.of_eq hsame.1 hsame.2)).mono fun tables after hall => ?_
      obtain ⟨ha, hprecedes', rfl, htried', hothers'⟩ := hall
      have hlater := hsteps.trans hprecedes'
      rw [ends_pure]
      refine ⟨ha, hprecedes.trans hlater, ?_, ?_, ?_⟩
      · -- All methods of the class have been tried, so the later notes give the same rows.
        rw [Progress.classTables, Progress.classTable, hlater.methodRows_eq ha htried]
      · intro other ho method hmethod hn
        rcases List.mem_cons.1 ho with rfl | ho
        · exact hlater.tried (htried method hmethod hn)
        · exact htried' other ho method hmethod hn
      · intro name ht
        rcases hothers' name ht with ht | ⟨other, ho, hmethod⟩
        · refine (hothers name ?_).imp_right fun hmethod => ⟨cls, List.mem_cons_self .., hmethod⟩
          rwa [Progress.Tried, hsame.1, hsame.2] at ht
        · exact Or.inr ⟨other, List.mem_cons_of_mem _ ho, hmethod⟩

/-- The module's own functions are those that have not been tried before and have
    a wrapper then. All of them have been tried then. -/
theorem moduleFunctions_ends (hf : ∀ function ∈ functions, function.name ∈ names)
    {before : Progress} (hs : before.Sound names) :
    Ends library (moduleFunctions functions) before fun own after =>
      after.Sound names ∧ before.Precedes after ∧
        (∀ function ∈ functions, after.Tried function.name) ∧
        (∀ name ∈ own, ¬before.Tried name ∧ after.wrapped.contains name) ∧
        ∀ function ∈ functions, after.wrapped.contains function.name →
          before.Tried function.name ∨ function.name ∈ own := by
  -- One function may stand twice in the list: the second time it has been tried.
  induction functions generalizing before with
  | nil =>
      exact ends_pure.2 ⟨hs, .refl before, (fun _ hm => by cases hm), (fun _ hm => by cases hm),
        fun _ hm => by cases hm⟩
  | cons function rest ih =>
      rw [moduleFunctions, ends_bind, ends_get]
      have hrest := fun other ho => hf other (List.mem_cons_of_mem function ho)
      dsimp only
      split
      · next htried =>
          rw [Bool.or_eq_true, List.contains_iff_mem] at htried
          rw [ends_bind, ends_pure, ends_bind]
          refine (ih hrest hs).mono fun own after hall => ?_
          obtain ⟨ha, hprecedes, hothers, hown, hall⟩ := hall
          refine ends_pure.2 ⟨ha, hprecedes, fun other ho => ?_, hown, fun other ho hc => ?_⟩
          · rcases List.mem_cons.1 ho with rfl | ho
            · exact hprecedes.tried htried
            · exact hothers other ho
          · rcases List.mem_cons.1 ho with rfl | ho
            · exact Or.inl htried
            · exact hall other ho hc
      · next htried =>
          rw [Bool.or_eq_true, List.contains_iff_mem] at htried
          rw [ends_bind]
          refine (tryFunction_ends (hf function (List.mem_cons_self ..)) hs).mono
            fun wrapped middle h => ?_
          rw [ends_bind]
          refine (ih hrest h.sound).mono fun own after hall => ?_
          obtain ⟨ha, hprecedes, hothers, hown, hall⟩ := hall
          have hanswer : ∀ found, wrapped = some found →
              found.name = function.name ∧ middle.wrapped.contains function.name := by
            rintro found rfl
            have hget := h.answer.symm
            exact ⟨h.sound.named _ _ hget, Option.isSome_iff_exists.2 ⟨found, hget⟩⟩
          refine ends_pure.2 ⟨ha, h.precedes.trans hprecedes, fun other ho => ?_, fun name hm => ?_,
            fun other ho hc => ?_⟩
          · rcases List.mem_cons.1 ho with rfl | ho
            · exact hprecedes.tried h.tried
            · exact hothers other ho
          · rcases List.mem_append.1 hm with hm | hm
            · obtain ⟨found, hfound, rfl⟩ := List.mem_map.1 hm
              obtain ⟨hname, hwrapped⟩ := hanswer found (Option.mem_toList.1 hfound)
              rw [hname]
              exact ⟨htried, hprecedes.contains hwrapped⟩
            · obtain ⟨hn, hc⟩ := hown name hm
              exact ⟨fun ht => hn (h.precedes.tried ht), hc⟩
          · -- What is noted of a function at the end is what was noted when it was tried.
            have hself : other.name = function.name → other.name ∈
                wrapped.toList.map WrappedFunction.name ++ own := by
              intro he
              rw [he] at hc ⊢
              rw [hprecedes.contains_of_tried ha h.tried] at hc
              obtain ⟨found, hfound⟩ := Option.isSome_iff_exists.1 hc
              refine List.mem_append_left _ (List.mem_map.2 ⟨found, ?_, h.sound.named _ _ hfound⟩)
              rw [h.answer, hfound]
              exact List.mem_singleton_self _
            rcases List.mem_cons.1 ho with rfl | ho
            · exact Or.inr (hself rfl)
            · rcases hall other ho hc with ht | hm
              · exact (h.others _ ht).imp_right hself
              · exact Or.inr (List.mem_append_right _ hm)

end Methods

/-- The tables of a module are as the notes say when its classes have been written
    and at the end. -/
structure Exports.Follows (naming : Naming) (model : ClassModel) (groups : Table EnumGroup)
    (exports : Exports) (middle after : Progress) : Prop where
  /-- The notes are right. -/
  sound : after.Sound (model.functions.map CFunction.name)
  /-- They only grow. -/
  precedes : middle.Precedes after
  /-- All functions have been tried at the end. -/
  complete : ∀ name ∈ model.functions.map CFunction.name, after.Tried name
  /-- What has a wrapper at the end is exported. -/
  functions : exports.functions = after.wrapped
  /-- The tables are those of the enum groups, and of the classes by what had a wrapper
      then. -/
  classes : exports.classes = groups.values.map EnumGroup.table ++
    middle.classTables naming groups .empty model.inOrder
  /-- The functions tried by then are the methods of classes. -/
  tried : ∀ name ∈ model.functions.map CFunction.name,
    middle.Tried name ↔ ∃ cls ∈ model.inOrder, name ∈ cls.methods
  /-- The module lists the others that have a wrapper. -/
  rows : ∃ own shown, exports.moduleRows =
      ScriptBind.moduleRows naming model groups own after.session shown ∧
    ∀ name, name ∈ own ↔ ¬middle.Tried name ∧ after.wrapped.contains name

theorem emitGroups_leavesNotes (groups : Table EnumGroup) :
    LeavesNotes library (emitGroups groups) :=
  .forM _ fun _ => .emit _

theorem emitRest_leavesNotes (globals : List Global) : LeavesNotes library (emitRest globals) :=
  (LeavesNotes.binding _).bind fun _ => (LeavesNotes.binding _).bind fun _ => .pure _

theorem emitNotGenerated_leavesNotes (functions : List CFunction) :
    LeavesNotes library (emitNotGenerated functions) := by
  intro before
  rw [emitNotGenerated, ends_bind, ends_get]
  dsimp only
  split
  · exact ⟨rfl, rfl⟩
  · exact ⟨rfl, rfl⟩

/-- The tables of all classes are written. -/
theorem emitClasses_ends (model : ClassModel) (groups : Table EnumGroup) {before : Progress}
    (hs : before.Sound (model.functions.map CFunction.name)) (hnone : ∀ name, ¬before.Tried name) :
    Ends library (emitClasses model groups) before fun tables after =>
      after.Sound (model.functions.map CFunction.name) ∧
        tables = after.classTables library.naming groups .empty model.inOrder ∧
        ∀ name ∈ model.functions.map CFunction.name,
          after.Tried name ↔ ∃ cls ∈ model.inOrder, name ∈ cls.methods := by
  rw [emitClasses, ends_bind]
  refine (objectTables_ends rfl groups model.inOrder .empty hs).mono fun tables after hall => ?_
  obtain ⟨ha, -, htables, htried, hothers⟩ := hall
  have hmethods : ∀ name ∈ model.functions.map CFunction.name,
      after.Tried name ↔ ∃ cls ∈ model.inOrder, name ∈ cls.methods := fun name hn =>
    ⟨fun ht => (hothers name ht).resolve_left (hnone name), fun ⟨cls, hcls, hm⟩ =>
      htried cls hcls name hm hn⟩
  dsimp only
  split
  · exact ⟨ha, htables, hmethods⟩
  · -- The way to the base object's type is written, and nothing is noted.
    have hsame : ∀ final : Progress, after.wrapped = final.wrapped →
        tables = final.classTables library.naming groups .empty model.inOrder :=
      fun final h => htables.trans (Progress.classTables_of_eq h ..)
    exact ⟨ha.of_eq rfl rfl, hsame _ rfl, hmethods⟩

/-- The table of each class begins with the class's methods. -/
theorem Exports.Follows.tabled {naming : Naming} {model : ClassModel} {groups : Table EnumGroup}
    {exports : Exports} {middle after : Progress}
    (h : exports.Follows naming model groups middle after) :
    ∀ cls ∈ model.inOrder, ∃ table ∈ exports.classes, IsTabled naming middle cls table := by
  intro cls hcls
  rw [h.classes]
  obtain ⟨table, htable, hof⟩ := Progress.exists_isTabled hcls
  exact ⟨table, List.mem_append_right _ htable, hof⟩

/-- Classes lead only to functions that had a wrapper when they were written. -/
theorem Exports.Follows.backs {naming : Naming} {model : ClassModel} {groups : Table EnumGroup}
    {exports : Exports} {middle after : Progress}
    (h : exports.Follows naming model groups middle after) :
    ∀ table ∈ exports.classes, middle.Backs table.rows := by
  intro table htable
  rw [h.classes] at htable
  rcases List.mem_append.1 htable with htable | htable
  · obtain ⟨group, -, rfl⟩ := List.mem_map.1 htable
    exact fun row hrow name ht => absurd ht (function_notMem_memberRows group name row hrow)
  · exact Progress.backs_classTables table htable

/-- The tables of a module follow the notes. -/
theorem assembleBody_ends (model : ClassModel) (groups : Table EnumGroup) (session : Session) :
    Ends library (assembleBody model groups) { session } fun exports after =>
      ∃ middle, exports.Follows library.naming model groups middle after := by
  have hstart := Progress.sound_start (model.functions.map CFunction.name) session
  have hnone : ∀ name, ¬({ session } : Progress).Tried name :=
    fun name ht => ht.elim (fun hc => by cases hc) fun hf => by cases hf
  rw [assembleBody, ends_bind, ends_read, ends_bind]
  refine (LeavesNotes.binding _ _).mono fun _ celled hcell => ?_
  rw [ends_bind]
  refine (emitGroups_leavesNotes groups celled).mono fun _ grouped hgroup => ?_
  rw [ends_bind]
  have hgrouped := (hstart.of_eq hcell.1 hcell.2).of_eq hgroup.1 hgroup.2
  have hfresh : ∀ name, ¬grouped.Tried name := fun name ht => hnone name <| by
    rwa [Progress.Tried, hgroup.1, hgroup.2, hcell.1, hcell.2] at ht
  refine (emitClasses_ends model groups hgrouped hfresh).mono fun objects middle hall => ?_
  obtain ⟨hm, rfl, htried⟩ := hall
  rw [ends_bind]
  refine (LeavesNotes.emit _ middle).mono fun _ headed hhead => ?_
  rw [ends_bind]
  refine (moduleFunctions_ends (fun function hf => List.mem_map_of_mem hf)
    (hm.of_eq hhead.1 hhead.2)).mono fun own functional hall => ?_
  obtain ⟨hf, hprecedes, hcomplete, hown, hall⟩ := hall
  rw [ends_bind]
  refine (emitRest_leavesNotes _ functional).mono fun shown rested hrest => ?_
  rw [ends_bind]
  refine (emitNotGenerated_leavesNotes _ rested).mono fun _ after hlast => ?_
  rw [ends_bind, ends_get, ends_pure]
  have hafter : after.wrapped = functional.wrapped ∧ after.failed = functional.failed :=
    ⟨hlast.1.trans hrest.1, hlast.2.trans hrest.2⟩
  have hheaded : ∀ name, headed.Tried name ↔ middle.Tried name := fun name => by
    rw [Progress.Tried, Progress.Tried, hhead.1, hhead.2]
  exact ⟨middle,
    { sound := hf.of_eq hafter.1 hafter.2
      precedes := (Progress.Precedes.of_eq hhead.1 hhead.2).trans
        (hprecedes.trans (.of_eq hafter.1 hafter.2))
      complete := fun name hm => by
        obtain ⟨function, hfunction, rfl⟩ := List.mem_map.1 hm
        rw [Progress.Tried, hafter.1, hafter.2]
        exact hcomplete function hfunction
      functions := rfl
      classes := rfl
      tried := htried
      rows := by
        refine ⟨own, shown, rfl, fun name => ?_⟩
        rw [← hheaded, hafter.1]
        refine ⟨hown name, fun hlisted => ?_⟩
        obtain ⟨hn, hc⟩ := hlisted
        obtain ⟨function, hfunction, rfl⟩ := List.mem_map.1 (hf.known name (Or.inl hc))
        exact (hall function hfunction hc).resolve_left hn }⟩

end ScriptBind
