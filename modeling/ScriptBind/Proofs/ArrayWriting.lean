import Mathlib.Data.List.Basic
import ScriptBind.Proofs.DefinedBeforeUse
import ScriptBind.Proofs.SpellingShape

/-!
# How Often Array Converters Are Written

The converters of an array type are written when the type is first resolved, and
remembered under its spelling. It is looked up there before its elements are
resolved, though, and written after. If the elements are pointers to a record
that is bound on this occasion, and the record has a member of the same array
type, the member gets there first and the converters are written twice.

Outside of this nothing is written twice. A type whose converters are in the code
is known, and a type that is known gets no more of them. So all the converters of
a type come from the one time that it is resolved, and there is one more of them
than were written while its elements were.

They are named after the spelling with some characters replaced, and this does
not keep all types apart. It does keep apart lengths.

## Main definitions

* `arraysWritten`: How often the converters of an array type are in a body.
* `Session.Remembers`: What is written is known.
* `Session.WritesNew`: What is known is not written again.
* `convertArray`: Resolving arrays, of fixed or unknown length.
* `ArrayConverter.stem`: What the elements contribute to the names.

## Theorems

* `Routine.writesNew`: On the way to a module, what is known is not written again.
* `convertArray_writes`: Resolving an array writes its converters last.
* `toArray_eq_iff`: The types whose converters share a name.
* `arrays_written`: How often converters are written.
* `linkedArrays_rewritten`: An array that is written twice, and two arrays whose
  converters share a name.
-/

namespace ScriptBind

open BindM

/-- Whether a piece of code is the converters of the array type under a key. -/
def Section.isArrayOf (key : String) : Section → Bool
  | .arrayConverter code => arrayKey code.element code.length == key
  | _ => false

/-- How often the converters of the array type under a key are in a body. -/
def arraysWritten (body : List Section) (key : String) : Nat := body.countP (Section.isArrayOf key)

theorem arraysWritten_append (front back : List Section) (key : String) :
    arraysWritten (front ++ back) key = arraysWritten front key + arraysWritten back key :=
  List.countP_append

/-- Only the converters of arrays count. -/
theorem arraysWritten_filter (body : List Section) (key : String) :
    arraysWritten (body.filter Section.isArrayConverter) key = arraysWritten body key := by
  rw [arraysWritten, List.countP_filter, arraysWritten]
  refine List.countP_congr fun code _ => ?_
  cases code <;> simp [Section.isArrayOf, Section.isArrayConverter]

namespace Session

/-- An array type whose converters are in the code is known. -/
def Remembers (session : Session) : Prop :=
  ∀ key, 0 < arraysWritten session.body key → session.registry.contains key

/-- A later session in which an array type that was known has no more converters
    than before. -/
structure WritesNew (session session' : Session) : Prop where
  /-- What was known stays known. -/
  known : ∀ key, session.registry.contains key → session'.registry.contains key
  /-- What was known is not written again. -/
  written : ∀ key, session.registry.contains key →
    arraysWritten session'.body key = arraysWritten session.body key
  /-- What is written is remembered. -/
  remembers : session.Remembers → session'.Remembers

variable {library : Library} {session session' : Session}

instance : IsPreorder Session WritesNew where
  refl := fun _ => ⟨fun _ h => h, fun _ _ => rfl, fun h => h⟩
  trans := fun _ _ _ h h' =>
    ⟨fun key hk => h'.known key (h.known key hk),
      fun key hk => (h'.written key (h.known key hk)).trans (h.written key hk),
      fun hr => h'.remembers (h.remembers hr)⟩

theorem remembers_start (naming : Naming) : (start naming).Remembers := by
  intro key hk
  exact absurd hk (Nat.lt_irrefl 0)

/-- No converters are written. -/
theorem WritesNew.of_filter (hr : session.registry.rows <+: session'.registry.rows)
    (hb : session'.body.filter Section.isArrayConverter =
      session.body.filter Section.isArrayConverter) : session.WritesNew session' := by
  have hcount : ∀ key, arraysWritten session'.body key = arraysWritten session.body key := by
    intro key
    rw [← arraysWritten_filter, hb, arraysWritten_filter]
  refine ⟨fun key hk => Table.contains_of_initial hr hk, fun key _ => hcount key,
    fun hremembers key hk => ?_⟩
  rw [hcount] at hk
  exact Table.contains_of_initial hr (hremembers key hk)

theorem SparesConversions.writesNew (h : session.SparesConversions session') :
    session.WritesNew session' :=
  .of_filter (h.registry ▸ List.prefix_refl _) h.body

theorem WritesNew.of_eq (hr : session'.registry = session.registry)
    (hb : session'.body = session.body) : session.WritesNew session' :=
  .of_filter (hr ▸ List.prefix_refl _) (by rw [hb])

/-- Writing the converters of an array adds one to them. -/
theorem arraysWritten_writeArray (session : Session) (element : CType) (length : Option Nat)
    (conversion : Conversion) (key : String) :
    arraysWritten (session.writeArray element length conversion).body key =
      arraysWritten session.body key + if arrayKey element length = key then 1 else 0 := by
  have hbody : (session.writeArray element length conversion).body =
      session.body ++ [.arrayConverter (.ofElement element length conversion)] := rfl
  rw [hbody, arraysWritten_append, arraysWritten, arraysWritten, List.countP_singleton]
  have harray : Section.isArrayOf key (.arrayConverter (.ofElement element length conversion)) =
      (arrayKey element length == key) := rfl
  rw [harray]
  by_cases h : arrayKey element length = key
  · simp [h]
  · simp [h]

/-- An array that was not known before its elements were resolved. -/
theorem WritesNew.array {before : Session} {element : CType} {length : Option Nat}
    (h : before.WritesNew session) (hn : before.registry.get? (arrayKey element length) = none)
    (conversion : Conversion) :
    before.WritesNew (session.writeArray element length conversion) := by
  have hrows :
      session.registry.rows <+: (session.writeArray element length conversion).registry.rows :=
    Table.prefix_add ..
  refine ⟨fun key hk => Table.contains_of_initial hrows (h.known key hk), fun key hk => ?_,
    fun hremembers key hk => ?_⟩
  · have hne : arrayKey element length ≠ key := by
      rintro rfl
      rw [Table.contains, hn] at hk
      cases hk
    rw [arraysWritten_writeArray, if_neg hne, Nat.add_zero, h.written key hk]
  · by_cases he : arrayKey element length = key
    · have hadded : (session.writeArray element length conversion).registry.contains
          (arrayKey element length) := by
        show (Table.add _ _ _).contains _
        rw [Table.contains_add, decide_eq_true rfl, Bool.or_true]
      rwa [← he]
    · rw [arraysWritten_writeArray, if_neg he, Nat.add_zero] at hk
      exact Table.contains_of_initial hrows (h.remembers hremembers key hk)

/-- Resolving by itself writes what is new. -/
theorem writesNew_allows :
    Session.Allows (Scope.all library) ((Scope.all library).Guarded WritesNew) where
  learn := fun session key conversion _ hw =>
    ⟨within_all _, .of_filter (session.grows_addConversion key conversion).registry rfl⟩
  typedef := fun session name underlying conversion _ _ hw => by
    have hgrows := (session.grows_addConversion name conversion).trans
      (grows_shareWithAlias _ name underlying.spelling)
    refine ⟨within_all _, .of_filter hgrows.registry ?_⟩
    obtain ⟨registry, aliases, he⟩ :=
      (session.addConversion name conversion).shareWithAlias_eq name underlying.spelling
    rw [he]
    rfl
  array := fun before session element length conversion _ hn h hw =>
    ⟨within_all _, (h hw).2.array hn conversion⟩

/-- Binding a record writes no converters of arrays. -/
theorem writesNew_commit (session : Session) (typedef : Option MemberTypedef)
    (members : BoundMembers) : session.WritesNew (session.commit typedef members) := by
  rw [commit_eq]
  refine .of_filter ((Table.prefix_add ..).trans (Table.prefix_add ..))
    (filter_append_of_none _ fun code hc => ?_)
  simp only [committed, List.mem_append, List.mem_map, List.mem_singleton] at hc
  rcases hc with (⟨_, _, rfl⟩ | rfl) | ⟨_, _, rfl⟩ <;> rfl

theorem writesNew_fail (session : Session) (key : String) (error : BindError) :
    session.WritesNew
      ((session.settleStruct key (.failed error)).reject (structDiagnostic key error)) :=
  .of_filter (List.prefix_refl _)
    ((session.settleStruct key (.failed error)).sparesConversions_reject
    (structDiagnostic key error)).body

theorem writesNew_allowsBinding : AllowsBinding (Scope.all library) WritesNew where
  settleFailed := fun _ _ _ => .of_eq rfl rfl
  enter := fun _ _ _ _ => .of_eq rfl rfl
  leave := fun _ _ => .of_eq rfl rfl
  meet := fun _ => .of_eq rfl rfl
  defer := fun _ _ _ _ _ => .of_eq rfl rfl
  takeDeferred := fun _ _ => .of_eq rfl rfl
  fail := fun session key _ error _ _ => session.writesNew_fail key error
  commit := fun session typedef members _ _ => session.writesNew_commit typedef members

end Session

section Routines

variable {library : Library}

/-- Any number of levels writes what is new. -/
theorem bindersWithin_writesNew (levels : Nat) :
    (bindersWithin levels).Keep (Scope.all library)
    ((Scope.all library).Guarded Session.WritesNew) :=
  bindersWithin_keep Session.writesNew_allows Session.writesNew_allowsBinding levels

theorem writesNew_carries : (Scope.all library).Carries Session.WritesNew :=
  .of_allows Session.writesNew_allows.toAllowsLearning (fun _ hs => hs.writesNew) fun levels =>
    (bindersWithin_writesNew levels).parts

/-- A record that is bound, wherever this is begun. -/
theorem bindFresh_writesNew (levels : Nat) (key : String) (deferred : DeferredStruct) :
    Keeps library Session.WritesNew (bindFresh (bindersWithin levels) key deferred) := by
  intro session
  have hrecord : (Scope.all library).records key deferred.record := trivial
  have hmade := bindRecord_brings (fun _ _ _ => .of_eq rfl rfl)
    (bindersWithin_writesNew levels).parts hrecord (session.enter key) (Session.within_all _)
  simp only [bindFresh, ensures_bind, ensures_look, ensures_update, ensures_attempt]
  refine hmade.mono fun result session' hall => ?_
  obtain ⟨⟨-, hw⟩, -⟩ := hall
  have hentered : session.WritesNew (session.enter key) := .of_eq rfl rfl
  have hleaving : session'.WritesNew (session'.leave key) := .of_eq rfl rfl
  have hleft : session.WritesNew (session'.leave key) :=
    trans_of Session.WritesNew (trans_of Session.WritesNew hentered hw) hleaving
  cases result with
  | ok members =>
      simp only [ensures_bind, ensures_update, ensures_pure]
      exact trans_of Session.WritesNew hleft (Session.writesNew_commit _ _ _)
  | error error =>
      simp only [ensures_bind, ensures_update, ensures_pure]
      rw [Session.conclude]
      split
      · have hdeferred : (session'.leave key).WritesNew ((session'.leave key).defer key deferred) :=
          .of_eq rfl rfl
        exact trans_of Session.WritesNew hleft hdeferred
      · exact trans_of Session.WritesNew hleft (Session.writesNew_fail _ _ _)

/-- On the way to a module, what is known is not written again. -/
theorem Routine.writesNew {α : Type} {action : BindM α} (h : Routine action) :
    Keeps library Session.WritesNew action := by
  cases h with
  | operation operation => exact Scope.keeps_all.1 (writesNew_carries.action operation.within_all)
  | resolve levels links type =>
      exact Scope.keeps_all.1 ((bindersWithin_writesNew levels).resolve links type trivial)
  | bind levels key record typedef =>
      exact Scope.keeps_all.1 ((bindersWithin_writesNew levels).bind key record typedef trivial)
  | fresh levels key deferred => exact bindFresh_writesNew levels key deferred
  | trampoline levels callback =>
      have hc : callback.Within (Scope.all library) := trivial
      exact Scope.keeps_all.1
        (writesNew_carries.types.emitWith hc (writesNew_carries.types.renderWithin levels hc))

/-- So what is written is known in every session on the way. -/
theorem Session.Underway.remembers {session : Session} (h : session.Underway library) :
    session.Remembers := by
  induction h with
  | start => exact Session.remembers_start _
  | run hr _ ho ih => exact ((hr.writesNew _).of_outcome ho).remembers ih
  | @note session session' added _ hregistry hbody hsilent ih =>
      intro key hk
      have hadded : arraysWritten added key = 0 := by
        refine List.countP_eq_zero.2 fun code hc => ?_
        have hsilence := hsilent code hc
        cases code with
        | arrayConverter code => cases hsilence
        | _ => exact Bool.false_ne_true
      rw [hbody, arraysWritten_append, hadded, Nat.add_zero] at hk
      rw [hregistry]
      exact ih key hk

end Routines

/-- Resolving arrays of a fixed or of unknown length, within a number of levels
    for their elements. -/
def convertArray (levels : Nat) (element : CType) : Option Nat → BindM Conversion
  | some length => arrayConversion ((bindersWithin levels).resolve 0) element length
  | none => openArrayConversion ((bindersWithin levels).resolve 0) element

/-- What is answered for the elements of an array. -/
theorem elementConversion_answers {library : Library} {resolve : CType → BindM Conversion}
    {element : CType} {key : String} {session : Session} :
    Ensures True library (elementConversion resolve element key) session
      fun result session' => ∀ conversion, result = .ok conversion →
        (resolve element).outcome library session = some (.ok conversion, session') := by
  rw [elementConversion, ensures_bind, ensures_look]
  dsimp only
  split
  · rw [ensures_within]
    refine (ensures_outcome library (resolve element) session).mono fun result session' ho => ?_
    cases result with
    | ok found =>
        intro conversion hc
        rw [← Except.ok.inj hc]
        exact ho
    | error error =>
        intro conversion hc
        cases hc
  · refine ensures_fail.2 fun conversion hc => ?_
    cases hc

/-- An array type that is not known has its elements resolved first, and its
    converters are written last. -/
theorem convertArray_writes {library : Library} {levels : Nat} {element : CType}
    {length : Option Nat} {session after : Session} {conversion : Conversion}
    (hn : session.registry.get? (arrayKey element length) = none)
    (ho : (convertArray levels element length).outcome library session =
      some (.ok conversion, after)) :
    ∃ known inner, ((bindersWithin levels).resolve 0 element).outcome library session =
        some (.ok known, inner) ∧ after = inner.writeArray element length known := by
  have hfail : ∀ error : BindError,
      Ensures True library (BindM.fail error : BindM Conversion) session fun result after =>
        ∀ conversion, result = .ok conversion → ∃ known inner,
          ((bindersWithin levels).resolve 0 element).outcome library session =
            some (.ok known, inner) ∧ after = inner.writeArray element length known := by
    intro error
    refine ensures_fail.2 fun conversion hc => ?_
    cases hc
  have helements :
      Ensures True library (elementConversion ((bindersWithin levels).resolve 0) element
      (arrayKey element length) >>= fun known =>
        ScriptBind.writeArray (arrayKey element length) (.ofElement element length known)) session
      fun result after => ∀ conversion, result = .ok conversion → ∃ known inner,
        ((bindersWithin levels).resolve 0 element).outcome library session =
          some (.ok known, inner) ∧ after = inner.writeArray element length known := by
    rw [ensures_bind]
    refine elementConversion_answers.mono fun result inner hinner => ?_
    cases result with
    | error error =>
        intro conversion hc
        cases hc
    | ok known => exact fun _ _ => ⟨known, inner, hinner known rfl, rfl⟩
  suffices hall : Ensures True library (convertArray levels element length) session
      fun result after => ∀ conversion, result = .ok conversion → ∃ known inner,
        ((bindersWithin levels).resolve 0 element).outcome library session =
          some (.ok known, inner) ∧ after = inner.writeArray element length known from
    hall.of_outcome ho conversion rfl
  cases length with
  | some length =>
      have hnone : session.registry.get? (CType.array element length).spelling = none := hn
      rw [convertArray, arrayConversion, ensures_bind, ensures_look]
      dsimp only
      rw [hnone]
      dsimp only
      split
      · exact hfail _
      · exact helements
  | none =>
      have hnone : session.registry.get? (openArrayKey element) = none := hn
      rw [convertArray, openArrayConversion, ensures_bind, ensures_look]
      dsimp only
      rw [hnone]
      dsimp only
      split
      · exact hfail _
      · exact helements

namespace ArrayConverter

/-- A text as part of an identifier. -/
def identifierText (isFixed : Bool) (text : String) : String :=
  String.join (text.toList.map (identifierPart isFixed))

/-- What the type of the elements contributes to the names of the converters.
    Where the length is unknown, this is the pointer to them. -/
def stem (converter : ArrayConverter) : String :=
  match converter.length with
  | some _ => identifierText true converter.element.spelling
  | none => identifierText false (CType.pointerTo converter.element).spelling

theorem toList_identifierText (isFixed : Bool) (text : String) :
    (identifierText isFixed text).toList =
      text.toList.flatMap fun c => (identifierPart isFixed c).toList := by
  rw [identifierText, String.toList_join, List.flatMap_map]

theorem identifierText_append (isFixed : Bool) (front back : String) :
    identifierText isFixed (front ++ back) =
      identifierText isFixed front ++ identifierText isFixed back := by
  rw [← String.toList_inj]
  simp only [String.toList_append, toList_identifierText, List.flatMap_append]

/-- The digits of a number stay as they are. -/
theorem identifierText_number (length : Nat) :
    identifierText true (toString length) = toString length := by
  rw [← String.toList_inj, toList_identifierText, Nat.toString_eq_repr, Nat.toList_repr]
  have hdigit : ∀ c ∈ Nat.toDigits 10 length, (identifierPart true c).toList = [c] := by
    intro c hc
    have hd : c.isDigit := Nat.isDigit_of_mem_toDigits (by decide) (by decide) hc
    have hplain : ∀ special ∈ [' ', '*', '[', ']'], c ≠ special := by
      rintro special hspecial rfl
      have hnone : [' ', '*', '[', ']'].all fun special => !special.isDigit := by decide
      have hnot := List.all_eq_true.1 hnone c hspecial
      rw [hd] at hnot
      cases hnot
    have hopen : ¬ (c = '[' ∨ c = ']') := by
      rintro (h | h)
      · exact hplain '[' (by decide) h
      · exact hplain ']' (by decide) h
    rw [identifierPart, if_neg (hplain ' ' (by decide)),
      if_neg (hplain '*' (by decide)), Bool.true_and, if_neg (by simpa using hopen)]
    exact String.toList_singleton c
  rw [List.flatMap_congr hdigit, List.flatMap_singleton']

/-- The names for a fixed length, which stands at their end. -/
theorem typeIdentifier_fixed (element : CType) (length : Nat) (store load : String) :
    (ArrayConverter.mk element (some length) store load).typeIdentifier =
      identifierText true element.spelling ++ "___" ++ toString length ++ "__" := by
  show identifierText true (CType.array element length).spelling = _
  rw [CType.spelling, CType.spell]
  have hback : s!" [{length}]" = " [" ++ toString length ++ "]" := rfl
  rw [hback, identifierText_append, identifierText_append, identifierText_append,
    identifierText_number]
  have hopen : identifierText true " [" = "___" := by decide
  have hclose : identifierText true "]" = "__" := by decide
  rw [hopen, hclose, CType.spelling, String.append_assoc, String.append_assoc, String.append_assoc]

/-- Names for a fixed length end with an underscore. -/
theorem getLast?_fixed (element : CType) (length : Nat) (store load : String) :
    (ArrayConverter.mk element (some length) store load).typeIdentifier.toList.getLast? =
      some '_' := by
  rw [typeIdentifier_fixed, String.toList_append, List.getLast?_append]
  rfl

/-- The end of a text shows in the identifier. -/
theorem getLast?_identifierText {isFixed : Bool} {text : String} {c : Char} {rest part : List Char}
    {last : Char} (ht : fromEnd text = c :: rest)
    (hc : (identifierPart isFixed c).toList = part ++ [last]) :
    (identifierText isFixed text).toList.getLast? = some last := by
  have hlist : text.toList = rest.reverse ++ [c] := by
    rw [← List.reverse_eq_cons_iff, ← ht, fromEnd]
  rw [toList_identifierText, hlist, List.flatMap_append, List.flatMap_singleton, hc,
    ← List.append_assoc, List.getLast?_concat]

/-- Names for an unknown length end with a pointer, or with the parameters of a
    function. -/
theorem getLast?_open (element : CType) (store load : String) :
    (ArrayConverter.mk element none store load).typeIdentifier.toList.getLast? ≠ some '_' := by
  show (identifierText false (CType.pointer element false).spelling).toList.getLast? ≠ some '_'
  have hstar : (identifierPart false '*').toList = ['p', 't'] ++ ['r'] := by decide
  have hparameters : (identifierPart false ')').toList = [] ++ [')'] := by decide
  cases hf : element.isFunction with
  | false =>
      rcases fromEnd_pointer hf false with he | he
      · rw [getLast?_identifierText he hstar]
        decide
      · rw [getLast?_identifierText he hstar]
        decide
  | true =>
      obtain ⟨signature, rfl⟩ := CType.exists_signature hf
      rw [getLast?_identifierText (fromEnd_pointer_function signature false) hparameters]
      decide

/-- A length can be read off the end of a name. -/
theorem eq_of_fixed {stem stem' : String} {length length' : Nat}
    (h : stem ++ "___" ++ toString length ++ "__" = stem' ++ "___" ++ toString length' ++ "__") :
    length = length' ∧ stem = stem' := by
  have he := congrArg fromEnd h
  simp only [fromEnd_append, List.append_cancel_left_eq, fromEnd_number] at he
  have hunderscores : fromEnd "___" = ['_', '_', '_'] := rfl
  rw [hunderscores] at he
  obtain ⟨hlength, hfront⟩ := eq_of_numbered (by decide) he
  exact ⟨hlength, fromEnd_injective (by simpa using hfront)⟩

/-- The converters of two array types share their names if the lengths are the
    same and the elements contribute the same. -/
theorem toArray_eq_iff (converter converter' : ArrayConverter) :
    converter.toArray = converter'.toArray ↔
      converter.length = converter'.length ∧ converter.stem = converter'.stem := by
  obtain ⟨element, length, store, load⟩ := converter
  obtain ⟨element', length', store', load'⟩ := converter'
  rw [toArray, toArray, String.append_right_inj]
  cases length with
  | some length =>
      cases length' with
      | some length' =>
          rw [typeIdentifier_fixed, typeIdentifier_fixed]
          constructor
          · intro h
            exact ⟨congrArg some (eq_of_fixed h).1, (eq_of_fixed h).2⟩
          · rintro ⟨hlength, hstem⟩
            have hstems :
                identifierText true element.spelling = identifierText true element'.spelling :=
              hstem
            rw [hstems, Option.some.inj hlength]
      | none =>
          refine ⟨fun h => ?_, fun h => nomatch h.1⟩
          have hlast := getLast?_fixed element length store load
          rw [h] at hlast
          exact absurd hlast (getLast?_open _ _ _)
  | none =>
      cases length' with
      | some length' =>
          refine ⟨fun h => ?_, fun h => nomatch h.1⟩
          have hlast := getLast?_fixed element' length' store' load'
          rw [← h] at hlast
          exact absurd hlast (getLast?_open _ _ _)
      | none => exact ⟨fun h => ⟨rfl, h⟩, fun h => h.2⟩

end ArrayConverter

/-- An array type that is known is answered at once. -/
theorem convertArray_known {library : Library} (levels : Nat) {element : CType}
    {length : Option Nat} {session : Session} {conversion : Conversion}
    (hk : session.registry.get? (arrayKey element length) = some conversion) :
    (convertArray levels element length).outcome library session =
      some (.ok conversion, session) := by
  have hlook :
      (look fun _ session => session.registry.get? (arrayKey element length)).outcome library
        session = some (.ok (some conversion), session) := by
    rw [← hk]
    rfl
  cases length with
  | some length =>
      rw [arrayKey] at hlook
      rw [convertArray, arrayConversion, outcome_bind, hlook]
      rfl
  | none =>
      rw [arrayKey] at hlook
      rw [convertArray, openArrayConversion, outcome_bind, hlook]
      rfl

/-- Afterwards an array type is known. -/
theorem convertArray_contains {library : Library} {levels : Nat} {element : CType}
    {length : Option Nat} {session after : Session} {conversion : Conversion}
    (ho : (convertArray levels element length).outcome library session =
      some (.ok conversion, after)) : after.registry.contains (arrayKey element length) := by
  cases hk : session.registry.get? (arrayKey element length) with
  | some found =>
      rw [convertArray_known levels hk, Option.some.injEq, Prod.mk.injEq] at ho
      rw [← ho.2, Table.contains, hk]
      rfl
  | none =>
      obtain ⟨known, inner, -, rfl⟩ := convertArray_writes hk ho
      show (Table.add _ _ _).contains _
      rw [Table.contains_add, decide_eq_true rfl, Bool.or_true]

/-- On the way to a module, resolving an array that is known writes nothing. For
    one that is not known, its converters are written once its elements are
    resolved, and this is the first time if the array has not become known along
    with them. Nothing that is done from then on writes them again. All converters
    in the module are of arrays that are known at its end, and they share a name
    if their lengths are the same and their elements contribute the same. -/
theorem arrays_written {decls : Declarations} {options : Options} {levels : Nat} {element : CType}
    {length : Option Nat} {session after : Session} {conversion : Conversion}
    (h : session.Underway (libraryOf decls options))
    (ho : (convertArray levels element length).outcome (libraryOf decls options) session =
      some (.ok conversion, after)) :
    let key := arrayKey element length
    (session.registry.contains key →
        arraysWritten after.body key = arraysWritten session.body key) ∧
      (session.registry.get? key = none → ∃ known inner,
        ((bindersWithin levels).resolve 0 element).outcome (libraryOf decls options) session =
            some (.ok known, inner) ∧
          arraysWritten after.body key = arraysWritten inner.body key + 1 ∧
          (inner.registry.get? key = none → arraysWritten after.body key = 1)) ∧
      (∀ (α : Type) (action : BindM α) (result : Except BindError α) (later : Session),
        Routine action → action.outcome (libraryOf decls options) after = some (result, later) →
        arraysWritten later.body key = arraysWritten after.body key) ∧
      (∀ other, 0 < arraysWritten (assemble decls options).body other →
        (sessionAtEnd decls options).registry.contains other) ∧
      ∀ converter converter' : ArrayConverter, converter.toArray = converter'.toArray ↔
        converter.length = converter'.length ∧ converter.stem = converter'.stem := by
  intro key
  refine ⟨fun hknown => ?_, fun hn => ?_, fun α action result later hroutine hlater => ?_,
    fun other hpos => ?_, ArrayConverter.toArray_eq_iff⟩
  · obtain ⟨found, hfound⟩ := Option.isSome_iff_exists.1 hknown
    rw [convertArray_known levels hfound, Option.some.injEq, Prod.mk.injEq] at ho
    rw [ho.2]
  · obtain ⟨known, inner, helement, rfl⟩ := convertArray_writes hn ho
    have hone : arraysWritten (inner.writeArray element length known).body key =
        arraysWritten inner.body key + 1 := by
      rw [Session.arraysWritten_writeArray, if_pos rfl]
    refine ⟨known, inner, helement, hone, fun hnone => ?_⟩
    -- The session in between is on the way as well, so it remembers what it wrote.
    have hinner : inner.Remembers :=
      (Session.Underway.run (.resolve levels 0 element) h helement).remembers
    have hzero : arraysWritten inner.body key = 0 := by
      by_contra hpos
      have hcontained := hinner key (Nat.pos_of_ne_zero hpos)
      rw [Table.contains, hnone] at hcontained
      cases hcontained
    rw [hone, hzero]
  · exact ((hroutine.writesNew _).of_outcome hlater).written key (convertArray_contains ho)
  · rw [body_assemble] at hpos
    exact (underway_sessionAtEnd decls options).remembers other hpos

/-- A record that has an array of pointers to itself, found through an array of
    another record, and two types of elements that are named alike. -/
def linkedArrays : Declarations where
  records := .ofRows
    [("S", ⟨"S", .struct, [⟨"next", .array (.pointerTo (.named "S")) 2, none⟩]⟩),
      ("T", ⟨"T", .struct, [⟨"items", .array (.pointerTo (.named "S")) 2, none⟩]⟩),
      ("foo", ⟨"foo", .struct, [⟨"x", .builtin "int", none⟩]⟩),
      ("foo_ptr", ⟨"foo_ptr", .struct, [⟨"y", .builtin "int", none⟩]⟩),
      ("U", ⟨"U", .struct, [⟨"a", .array (.pointerTo (.named "foo")) 3, none⟩,
        ⟨"b", .array (.named "foo_ptr") 3, none⟩]⟩)]
  functions := [⟨"f", .void,
    [⟨"t", .pointerTo (.named "T")⟩, ⟨"u", .pointerTo (.named "U")⟩], false⟩]

theorem linkedArrays_ofC : linkedArrays.OfC where
  recordName := by
    intro row hm
    have hrows : linkedArrays.records.rows.map Prod.fst = ["S", "T", "foo", "foo_ptr", "U"] := by
      decide +kernel
    have hkey := List.mem_map_of_mem (f := Prod.fst) hm
    rw [hrows] at hkey
    have hnames : ["S", "T", "foo", "foo_ptr", "U"].all Text.isIdentifier := by decide
    exact .inl (List.all_eq_true.1 hnames _ hkey)
  memberType := by decide +kernel
  typedefName := by decide +kernel
  typedefType := by decide +kernel
  functionType := by decide +kernel
  globalType := by decide +kernel

set_option maxRecDepth 100000 in
/-- Resolving the array of pointers binds the record, which writes the converters
    for its member, and then writes them once more. -/
theorem linkedArrays_resolved :
    let library := libraryOf linkedArrays { moduleName := "m" }
    let element := CType.pointerTo (.named "S")
    ∃ conversion after known inner,
      (convertArray 4 element (some 2)).outcome library (.start library.naming) =
          some (.ok conversion, after) ∧
        arraysWritten after.body "S * [2]" = 2 ∧
        ((bindersWithin 4).resolve 0 element).outcome library (.start library.naming) =
          some (.ok known, inner) ∧
        arraysWritten inner.body "S * [2]" = 1 := by
  intro library element
  have hkey : arrayKey element (some 2) = "S * [2]" := by decide
  have hends : (((convertArray 4 element (some 2)).outcome library (.start library.naming)).map
      fun result => (result.1.isOk, arraysWritten result.2.body "S * [2]")) = some (true, 2) := by
    decide +kernel
  obtain ⟨⟨result, after⟩, houtcome, hresult⟩ := Option.map_eq_some_iff.1 hends
  rw [Prod.mk.injEq] at hresult
  obtain ⟨hok, hcount⟩ := hresult
  cases result with
  | error error => cases hok
  | ok conversion =>
      obtain ⟨-, hwrites, -⟩ :=
        @arrays_written linkedArrays { moduleName := "m" } 4 element (some 2)
        _ after conversion .start houtcome
      obtain ⟨known, inner, hinner, hone, -⟩ := hwrites rfl
      rw [hkey, hcount] at hone
      exact ⟨conversion, after, known, inner, houtcome, hcount, hinner, (Nat.succ.inj hone).symm⟩

/-- The array types whose converters are in a body, by their keys and the names of
    the converters. -/
def arrayTypes (body : List Section) : List (String × String) :=
  body.filterMap fun
    | .arrayConverter code => some (arrayKey code.element code.length, code.toArray)
    | _ => none

set_option maxRecDepth 100000 in
/-- So converters are not always written once, and not always under a name of
    their own. -/
theorem linkedArrays_rewritten :
    (¬ ∀ (decls : Declarations) (options : Options), (libraryOf decls options).decls.OfC →
      ∀ key, arraysWritten (assemble decls options).body key ≤ 1) ∧
    ¬ ∀ (decls : Declarations) (options : Options), (libraryOf decls options).decls.OfC →
      ∀ type ∈ arrayTypes (assemble decls options).body,
        ∀ other ∈ arrayTypes (assemble decls options).body, type.2 = other.2 →
        type.1 = other.1 := by
  have hwritten :
      arraysWritten (assemble linkedArrays { moduleName := "m" }).body "S * [2]" = 2 := by
    decide +kernel
  have hshared : ∀ type ∈ [("foo * [3]", "mp_arr_to_foo_ptr___3__"),
      ("foo_ptr [3]", "mp_arr_to_foo_ptr___3__")],
      type ∈ arrayTypes (assemble linkedArrays { moduleName := "m" }).body := by
    decide +kernel
  constructor
  · intro hall
    have hone := hall linkedArrays { moduleName := "m" } linkedArrays_ofC "S * [2]"
    rw [hwritten] at hone
    exact absurd hone (by decide)
  · intro hall
    have hsame := hall linkedArrays { moduleName := "m" } linkedArrays_ofC _
      (hshared ("foo * [3]", "mp_arr_to_foo_ptr___3__") (by decide)) _
      (hshared ("foo_ptr [3]", "mp_arr_to_foo_ptr___3__") (by decide)) rfl
    exact absurd hsame (by decide)

end ScriptBind
