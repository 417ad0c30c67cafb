import ScriptBind.Proofs.FinishedOperations
import ScriptBind.Proofs.SectionNames

/-!
# Records Are Bound All or Nothing

What becomes of a record is told once. A bound record has its accessor in the
code, and no diagnostic says that it was left out; for a record that has failed
it is the other way round. This is so however often the record was asked for,
put off and bound once more, and it is so in the middle of an operation too: a
record without an outcome has neither.

Together with what is known of operations from outside this says that a record
is bound as a whole or not at all. The text of an accessor defines what it is
relied upon for, so a bound record has its converters in the text.

## Main definitions

* `Session.told`: The accessors of a record and the diagnostics for it.
* `Session.Tells`: They are as the record's outcome says.
* `HasAccessor`: The accessor of a record is there, and its text defines it.

## Theorems

* `Change.tells`: Every change tells what it makes of a record.
* `bound_all_or_nothing`: What was begun is concluded, and told once.
-/

namespace ScriptBind

/-- Whether a piece of code is the accessor of a record. -/
def Section.isAccessorOf (key : String) : Section → Bool
  | .accessor code => code.type == key
  | _ => false

/-- Whether a diagnostic says that a record was left out. -/
def Diagnostic.isOfStruct (key : String) (diagnostic : Diagnostic) : Bool :=
  diagnostic.kind == .struct && diagnostic.declaration == key

/-- How many accessors and diagnostics a record is to have. -/
def StructOutcome.due : Option StructOutcome → Nat × Nat
  | none => (0, 0)
  | some (.done _) => (1, 0)
  | some (.failed _) => (0, 1)

namespace Session

/-- The numbers of accessors and of diagnostics that a record has. -/
def told (session : Session) (key : String) : Nat × Nat :=
  (session.body.countP (Section.isAccessorOf key),
    session.diagnostics.countP (Diagnostic.isOfStruct key))

/-- The accessors and diagnostics of a record are as its outcome says. -/
def Tells (session : Session) (key : String) : Prop :=
  session.told key = StructOutcome.due (session.structs.get? key)

variable {library : Library} {scope : Scope library} {session session' : Session} {key : String}

theorem told_emit (session : Session) {code : Section} (h : code.isAccessorOf key = false) :
    (session.emit code).told key = session.told key := by
  simp [told, emit, List.countP_append, h]

theorem told_reject (session : Session) {diagnostic : Diagnostic}
    (h : diagnostic.isOfStruct key = false) :
    (session.reject diagnostic).told key = session.told key := by
  have hnote : (Section.note diagnostic).isAccessorOf key = false := rfl
  simp [told, reject, List.countP_append, h, hnote]

theorem isAccessorOf_of_isOfModule {code : Section} (h : code.isOfModule) :
    code.isAccessorOf key = false := by
  cases code with
  | accessor code => cases h
  | _ => rfl

theorem isOfStruct_of_kind {diagnostic : Diagnostic} (h : diagnostic.kind ≠ .struct) :
    diagnostic.isOfStruct key = false := by
  rw [Diagnostic.isOfStruct, beq_eq_false_iff_ne.2 h, Bool.false_and]

theorem tells_start (naming : Naming) (key : String) : (start naming).Tells key := rfl

/-- What is added says nothing of records. -/
theorem Addition.tells (h : session.Addition scope session') (ht : session.Tells key) :
    session'.Tells key := by
  cases h with
  | learn => exact ht
  | @typedef name underlying conversion =>
      obtain ⟨registry, aliases, he⟩ :=
        (session.addConversion name conversion).shareWithAlias_eq name underlying.spelling
      rw [he]
      exact ht
  | array converter conversion => exact (session.told_emit rfl).trans ht
  | settleFailed => exact ht
  | write => exact (session.told_emit rfl).trans ht
  | stub => exact (session.told_emit rfl).trans ht
  | wrap => exact (session.told_emit rfl).trans ht
  | emit hm => exact (session.told_emit (isAccessorOf_of_isOfModule hm)).trans ht
  | reject hd => exact (session.told_reject (isOfStruct_of_kind hd)).trans ht

/-- A record without an outcome has not been told of. -/
theorem Tells.told_eq_zero (h : session.Tells key) (hn : session.structs.get? key = none) :
    session.told key = (0, 0) := by
  rw [Tells, hn] at h
  exact h

/-- A record that fails gets its diagnostic. -/
theorem tells_fail {other : String} (hn : session.structs.get? other = none) (error : BindError)
    (ht : session.Tells key) :
    ((session.settleStruct other (.failed error)).reject (structDiagnostic other error)).Tells
      key := by
  by_cases he : other = key
  · subst he
    have hzero := ht.told_eq_zero hn
    rw [told, Prod.mk.injEq] at hzero
    rw [Tells, told, reject, settleStruct, Table.get?_set, if_pos rfl]
    simp [List.countP_append, hzero, StructOutcome.due, Section.isAccessorOf, Diagnostic.isOfStruct,
      structDiagnostic]
  · have hd : (structDiagnostic other error).isOfStruct key = false := by
      simp [Diagnostic.isOfStruct, structDiagnostic, he]
    have hget : (session.structs.set other (.failed error)).get? key =
        session.structs.get? key := by
      rw [Table.get?_set, if_neg he]
    rw [Tells, told_reject _ hd]
    show session.told key = StructOutcome.due ((session.structs.set other (.failed error)).get? key)
    rw [hget]
    exact ht

/-- The code of a bound record has one accessor. -/
theorem countP_committed (typedef : Option MemberTypedef) (members : BoundMembers) (key : String) :
    (committed typedef members).countP (Section.isAccessorOf key) =
      if members.key = key then 1 else 0 := by
  have htypedef : (typedef.toList.map Section.memberTypedef).countP
      (Section.isAccessorOf key) = 0 := by
    refine List.countP_eq_zero.2 fun code hc => ?_
    obtain ⟨_, -, rfl⟩ := List.mem_map.1 hc
    exact Bool.false_ne_true
  have hnotes : ((members.dropped.map Prod.snd).map Section.note).countP
      (Section.isAccessorOf key) = 0 := by
    refine List.countP_eq_zero.2 fun code hc => ?_
    obtain ⟨_, -, rfl⟩ := List.mem_map.1 hc
    exact Bool.false_ne_true
  have haccessor : (Section.accessor members.accessor).isAccessorOf key = (members.key == key) :=
    rfl
  rw [committed, List.countP_append, List.countP_append, htypedef, hnotes, List.countP_singleton,
    haccessor]
  simp

theorem tells_commit {members : BoundMembers} (hm : members.Made scope)
    (hn : session.structs.get? members.key = none) (typedef : Option MemberTypedef)
    (ht : session.Tells key) : (session.commit typedef members).Tells key := by
  -- Of members only callbacks are left out, and their diagnostics name no record.
  have hdropped : (members.dropped.map Prod.snd).countP (Diagnostic.isOfStruct key) = 0 := by
    refine List.countP_eq_zero.2 fun diagnostic hd => ?_
    rw [isOfStruct_of_kind (by rw [hm.kind_of_mem_dropped hd]; decide)]
    exact Bool.false_ne_true
  have htold : (session.commit typedef members).told key =
      ((session.told key).1 + (if members.key = key then 1 else 0), (session.told key).2) := by
    rw [commit_eq, told, List.countP_append, List.countP_append, countP_committed, hdropped]
    rfl
  have hget : (session.commit typedef members).structs.get? key =
      if members.key = key then some (.done members.bound) else session.structs.get? key := by
    rw [commit_eq, Table.get?_set]
  rw [Tells, htold, hget]
  by_cases he : members.key = key
  · rw [if_pos he, if_pos he, ht.told_eq_zero (he ▸ hn)]
    rfl
  · rw [if_neg he, if_neg he]
    exact ht

/-- Every change tells what it makes of a record. -/
theorem Change.tells (h : session.Change scope session') (ht : session.Tells key) :
    session'.Tells key := by
  cases h with
  | add ha => exact ha.tells ht
  | enter => exact ht
  | leave => exact ht
  | meet => exact ht
  | defer => exact ht
  | takeDeferred => exact ht
  | fail error _ hn => exact tells_fail hn error ht
  | commit typedef hm hn => exact tells_commit hm hn typedef ht

theorem Reachable.tells (h : session.Reachable scope) (key : String) : session.Tells key :=
  h.invariant (tells_start library.naming key) Change.tells

theorem Tells.of_done (h : session.Tells key) {bound : BoundStruct}
    (hb : session.structs.get? key = some (.done bound)) :
    session.body.countP (Section.isAccessorOf key) = 1 ∧
      session.diagnostics.countP (Diagnostic.isOfStruct key) = 0 := by
  rw [Tells, hb] at h
  exact Prod.mk.inj h

theorem Tells.of_failed (h : session.Tells key) {error : BindError}
    (he : session.structs.get? key = some (.failed error)) :
    session.body.countP (Section.isAccessorOf key) = 0 ∧
      session.diagnostics.countP (Diagnostic.isOfStruct key) = 1 := by
  rw [Tells, he] at h
  exact Prod.mk.inj h

end Session

/-- Some code has the accessor of a record, and some lines define all that it is
    relied upon for. -/
def HasAccessor (body : List Section) (lines : List String) (key : String) : Prop :=
  ∃ code, .accessor code ∈ body ∧ code.type = key ∧ DefinesAccessor lines code

/-- Where accessors of a record are counted, there is one, and its text is among the
    lines. -/
theorem hasAccessor_of_countP {body : List Section} {lines : List String} {key : String}
    (h : body.countP (Section.isAccessorOf key) = 1)
    (hlines : ∀ code : Accessor, .accessor code ∈ body → ∀ line ∈ code.lines, line ∈ lines) :
    HasAccessor body lines key := by
  obtain ⟨code, hcode, hkey⟩ := List.countP_pos_iff.1 (Nat.lt_of_lt_of_eq Nat.zero_lt_one h.symm)
  cases code with
  | accessor code =>
      refine ⟨code, hcode, beq_iff_eq.1 hkey, fun name hname => ?_⟩
      obtain ⟨line, hline, hdefines⟩ := code.defines_lines name hname
      exact ⟨line, hlines code hcode line hline, hdefines⟩
  | _ => cases hkey

/-- An operation on a session in which nothing is being bound and nothing is put
    off leaves it so, and every record that was begun meanwhile has an outcome; the
    end of a module is such a session. In every session that operations lead to, and
    so in the module as a whole, a bound record has one accessor, which the text
    defines, and no diagnostic, and a record that has failed has no accessor and one
    diagnostic. -/
theorem bound_all_or_nothing :
    (∀ (library : Library) (session : Session) (operation : Operation),
      session.inProgress = [] → session.deferred.rows = [] →
      (operation.after library session).inProgress = [] ∧
        (operation.after library session).deferred.rows = [] ∧
        ∃ started, (operation.after library session).begun = session.begun ++ started ∧
          ∀ key ∈ started, (operation.after library session).structs.contains key) ∧
    (∀ (library : Library) (session : Session), session.Reachable (Scope.all library) → ∀ key,
      (∀ bound, session.structs.get? key = some (.done bound) →
        session.body.countP (Section.isAccessorOf key) = 1 ∧
          session.diagnostics.countP (Diagnostic.isOfStruct key) = 0 ∧
          HasAccessor session.body
            (session.body.flatMap (Section.lines library.naming.moduleName)) key) ∧
      ∀ error, session.structs.get? key = some (.failed error) →
        session.body.countP (Section.isAccessorOf key) = 0 ∧
          session.diagnostics.countP (Diagnostic.isOfStruct key) = 1) ∧
    ∀ (decls : Declarations) (options : Options),
      (sessionAtEnd decls options).inProgress = [] ∧
      (sessionAtEnd decls options).deferred.rows = [] ∧
      ∀ key, (∀ bound, (sessionAtEnd decls options).structs.get? key = some (.done bound) →
          (assemble decls options).body.countP (Section.isAccessorOf key) = 1 ∧
            (assemble decls options).diagnostics.countP (Diagnostic.isOfStruct key) = 0 ∧
            HasAccessor (assemble decls options).body (assemble decls options).lines key) ∧
        ∀ error, (sessionAtEnd decls options).structs.get? key = some (.failed error) →
          (assemble decls options).body.countP (Section.isAccessorOf key) = 0 ∧
            (assemble decls options).diagnostics.countP (Diagnostic.isOfStruct key) = 1 := by
  refine ⟨fun library session operation hp hd => ?_, fun library session hs key => ?_,
    fun decls options => ?_⟩
  · exact after_concludes library operation hp hd
  · have htells := hs.tells key
    refine ⟨fun bound hb => ?_, fun error he => htells.of_failed he⟩
    obtain ⟨hone, hnone⟩ := htells.of_done hb
    exact ⟨hone, hnone, hasAccessor_of_countP hone fun code hcode line hline =>
      List.mem_flatMap.2 ⟨_, hcode, hline⟩⟩
  · -- The end of the module is one of these sessions, and between two operations.
    have hend : (sessionAtEnd decls options).Performed (Scope.all (libraryOf decls options)) :=
      performed_sessionAtEnd (fun _ _ => ⟨trivial, fun _ _ => trivial⟩) fun _ _ => trivial
    refine ⟨hend.idle.1, hend.idle.2, fun key => ?_⟩
    have htells := hend.reachable.tells key
    rw [diagnostics_assemble]
    refine ⟨fun bound hb => ?_, fun error he => htells.of_failed he⟩
    obtain ⟨hone, hnone⟩ := htells.of_done hb
    exact ⟨hone, hnone, hasAccessor_of_countP hone fun code hcode line hline =>
      Module.mem_lines hcode hline⟩

/-- A record inside another, with a callback that takes the outer one by value.
    Nothing converts its last member, so it fails after having met the outer one,
    and both are put off. -/
def entangledRecords : Declarations where
  records := .ofRows
    [("outer", ⟨"outer", .struct, [⟨"inner", .named "inner", none⟩]⟩),
      ("inner", ⟨"inner", .struct,
        [⟨"user_data", .pointerTo .void, none⟩,
          ⟨"cb", .pointerTo (.function
            ⟨.void, [.pointerTo (.named "inner"), .named "outer"], false⟩), none⟩,
          ⟨"big", .builtin "long long", none⟩]⟩),
      ("list", ⟨"list", .struct, [⟨"next", .pointerTo (.named "list"), none⟩]⟩)]
  functions := [⟨"f", .void, [⟨"a", .pointerTo (.named "outer")⟩], false⟩,
    ⟨"g", .void, [⟨"l", .pointerTo (.named "list")⟩], false⟩]

/-- The session in which the outer record has been asked for. -/
def entangledSession : Session :=
  (Operation.resolve (.named "outer")).after (libraryOf entangledRecords { moduleName := "m" })
    (.start (libraryOf entangledRecords { moduleName := "m" }).naming)

set_option maxRecDepth 100000 in
/-- Neither stays put off: they fail, and are told of once. -/
theorem entangledRecords_told :
    entangledSession.deferred.rows = [] ∧
      entangledSession.diagnostics.countP (Diagnostic.isOfStruct "outer") = 1 ∧
      (assemble entangledRecords { moduleName := "m" }).diagnostics.countP
        (Diagnostic.isOfStruct "inner") = 1 ∧
      (assemble entangledRecords { moduleName := "m" }).body.countP
        (Section.isAccessorOf "list") = 1 := by
  let failure : StructOutcome :=
    .failed (.missingConversion "long long" (some "struct `inner.big`"))
  have houter : entangledSession.structs.get? "outer" = some failure := by decide +kernel
  have hinner : (sessionAtEnd entangledRecords { moduleName := "m" }).structs.get? "inner" =
      some failure := by decide +kernel
  have hlist :
      ((sessionAtEnd entangledRecords { moduleName := "m" }).boundStruct? "list").isSome := by
    decide +kernel
  obtain ⟨bound, hbound⟩ := Option.isSome_iff_exists.1 hlist
  have hreachable : entangledSession.Reachable (Scope.all _) := .perform _ .start trivial
  obtain ⟨hconcluded, hreached, htold⟩ := bound_all_or_nothing
  refine ⟨(hconcluded _ _ _ rfl rfl).2.1, ?_, ?_, ?_⟩
  · exact ((hreached _ _ hreachable "outer").2 _ houter).2
  · exact (((htold entangledRecords _).2.2 "inner").2 _ hinner).2
  · exact (((htold entangledRecords _).2.2 "list").1 bound
      (Session.get?_of_boundStruct? hbound)).1

end ScriptBind
