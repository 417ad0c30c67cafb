import ScriptBind.Proofs.CoherentSessions
import ScriptBind.Proofs.DeferredRecords

/-!
# Resolving Again

A type that has been resolved is not resolved again: its conversion is found by
its spelling, and what is once found there stays. What has to be shown is that
it is the conversion that was answered the first time, for the two are made
apart. On the way to an answer other types are resolved and records are bound,
and among these the type itself may be met again. What it gets there is
remembered first.

Step by step, what is answered is compared with what is remembered. The two are
the same for every type that does not lead to a pointer to a record, and when
nothing is being bound for these pointers too. A failure leaves nothing
remembered, so what a typedef or an array type gets in passing cannot outlast
the failure of what it is made of.

The typedefs of such pointers are the exception. While the record is being
bound, the typedef is answered with an untyped pointer and this is remembered,
though the answer to the type asked for at first is the conversion of the bound
record.

## Main definitions

* `Session.Recalls`: What an answer or a failure says of what is remembered.
* `Session.Learned`: This, in a session in which what was learned is coherent.
* `Binders.Stable`: Ways to resolve and bind of which this is true.

## Theorems

* `resolveStep_learned`, `bindersWithin_stable`: One step of resolving, and all.
* `resolve_stable`: A type keeps the conversion that it is first resolved by.
* `typedefList_changes`: A typedef of a pointer to a record does not.
-/

namespace ScriptBind

open BindM

namespace Declarations

variable {decls : Declarations}

/-- Records do not lead to pointers. -/
theorem OfC.not_leadsToRecord (h : decls.OfC) {key : String} {record : Record}
    (hr : decls.records.get? key = some record) : ¬decls.LeadsToRecord key := by
  intro hl
  cases hl with
  | pointer _ =>
      have hstar := h.endsWithStar_record hr
      rw [endsWithStar_append] at hstar
      cases hstar
  | typedef hn _ _ =>
      rw [hr] at hn
      cases hn

/-- A typedef leads where what it stands for leads. -/
theorem OfC.leadsToRecord_typedef (h : decls.OfC) {name : String} {underlying : CType}
    (ht : decls.typedefs.get? name = some underlying) (hl : decls.LeadsToRecord name) :
    decls.LeadsToRecord underlying.spelling := by
  cases hl with
  | pointer _ =>
      have hstar := h.endsWithStar_typedef ht
      rw [endsWithStar_append] at hstar
      cases hstar
  | typedef _ ht' hl' =>
      rw [ht] at ht'
      rwa [Option.some.inj ht']

/-- Neither do arrays. -/
theorem OfC.not_leadsToRecord_array (h : decls.OfC) (element : CType) (length : Nat) :
    ¬decls.LeadsToRecord (CType.array element length).spelling := by
  have hlast : lastOf (CType.array element length).spelling = some ']' :=
    lastOf_array (.inl ⟨length, rfl⟩)
  generalize (CType.array element length).spelling = key at hlast
  intro hl
  cases hl with
  | pointer _ => exact absurd rfl (ne_star_of_lastOf hlast (by decide) _)
  | typedef _ ht _ =>
      rw [h.get?_typedefs_of_lastOf hlast (by decide)] at ht
      cases ht

end Declarations

/-- What resolving a type comes to, compared with what is then remembered. An
    answer is the conversion under the type's spelling, unless the type is a
    typedef that leads to a pointer to a record, or such a pointer met while
    something is being bound. A failure leaves nothing, and nothing at all has
    happened if the type leads to such a pointer. -/
def Session.Recalls (library : Library) (type : CType) (session session' : Session) :
    Except BindError Conversion → Prop
  | .ok conversion =>
    session'.registry.get? type.spelling = some conversion ∨
      library.decls.LeadsToRecord type.spelling ∧
        ((∃ name, type = .named name) ∧ session'.registry.contains type.spelling ∨
          session.inProgress ≠ [])
  | .error _ =>
    session'.registry.get? type.spelling = none ∧
      (library.decls.LeadsToRecord type.spelling → session' = session)

/-- Resolving a type, or a part of it, from a session in which nothing is known
    of it. -/
structure Session.Learned (library : Library) (hc : library.decls.OfC) (base : Session)
    (type : CType) (session : Session) (result : Except BindError Conversion)
    (session' : Session) : Prop where
  /-- What is kept for later is in the scope. -/
  within : session'.Within (Scope.ofC hc)
  /-- Coherence is kept. -/
  stays : Session.StaysCoherent library base session session'
  /-- The outcome is what is remembered. -/
  recalls : session'.Apart library → session.Coherent library base →
    session.Recalls library type session' result

/-- Ways to resolve and bind that remember what they answer. -/
structure Binders.Stable (library : Library) (hc : library.decls.OfC) (base : Session)
    (binders : Binders) : Prop where
  /-- They keep sessions coherent. -/
  keep : binders.Keep (Scope.ofC hc) ((Scope.ofC hc).Guarded (Session.StaysCoherent library base))
  /-- What is answered is remembered. -/
  resolve : ∀ links type, type.isOfC → ∀ session, session.Within (Scope.ofC hc) →
    Ensures True library (binders.resolve links type) session fun result session' =>
      Session.Learned library hc base type session result session'
  /-- A record that is bound while nothing else is, has an outcome. -/
  outcome : ∀ key record typedef session,
    Ensures True library (binders.bind key record typedef) session
      fun _ session' => session.inProgress = [] → session'.structs.contains key

section Steps

variable {library : Library} {hc : library.decls.OfC} {base session session' : Session}

theorem Session.Coherent.unknown (h : session.Coherent library base) {key : String}
    (hn : session.registry.get? key = none) : base.registry.get? key = none := by
  refine Option.eq_none_iff_forall_ne_some.2 fun conversion hb => ?_
  rw [Table.get?_of_initial h.since.registry hb] at hn
  cases hn

/-- A conversion that is new and fits. -/
theorem Session.Coherent.fitsNew (h : session.Coherent library base)
    (h' : session'.Coherent library base) {key : String} {conversion : Conversion}
    (hn : session.registry.get? key = none) (hk : session'.registry.get? key = some conversion) :
    conversion.Fits library session' key :=
  h'.fits key conversion (h.unknown hn) hk

/-- A failure before anything has happened. -/
theorem learned_fail {type : CType} (hw : session.Within (Scope.ofC hc))
    (hn : session.registry.get? type.spelling = none) (error : BindError) :
    Ensures True library (BindM.fail error) session
      (Session.Learned library hc base type session) :=
  ensures_fail.2 ⟨hw, refl_of _ session, fun _ _ => ⟨hn, fun _ => rfl⟩⟩

/-- A conversion is remembered and answered. -/
theorem learned_remember {type : CType} {conversion : Conversion}
    (hw : session'.Within (Scope.ofC hc))
    (hs : Session.StaysCoherent library base session session')
    (hf : conversion.Fits library (session'.addConversion type.spelling conversion) type.spelling)
    (hknown : session'.Apart library → session.Coherent library base →
      ∀ known, session'.registry.get? type.spelling = some known → known = conversion) :
    Ensures True library (remember type.spelling conversion) session'
      (Session.Learned library hc base type session) := by
  rw [remember, ensures_bind, ensures_update]
  have hlater : session'.Extends (session'.addConversion type.spelling conversion) :=
    (session'.grows_addConversion _ _).extends
  refine ensures_pure.2 ⟨hw.of_eq rfl fun _ hm => hm, ?_, fun ha h => .inl ?_⟩
  · exact trans_of (Session.StaysCoherent library base) hs
      ⟨hlater, fun _ h' => h'.addConversion fun _ => hf⟩
  · -- Adding keeps what is there, so what is known by now had better be the same.
    rw [Session.get?_addConversion]
    cases hk : session'.registry.get? type.spelling with
    | none => rfl
    | some known =>
        rw [hknown (ha.of_extends hlater) h known hk]
        rfl

/-- A conversion is remembered of which nothing was known. -/
theorem learned_remember_fresh {type : CType} {conversion : Conversion}
    (hw : session.Within (Scope.ofC hc)) (hn : session.registry.get? type.spelling = none)
    (hf : conversion.Fits library (session.addConversion type.spelling conversion) type.spelling) :
    Ensures True library (remember type.spelling conversion) session
      (Session.Learned library hc base type session) := by
  refine learned_remember hw (refl_of _ session) hf fun _ _ known hk => ?_
  rw [hn] at hk
  cases hk

/-- A typedef takes over what has been answered for what it stands for. -/
theorem Session.Learned.typedef {name : String} {underlying : CType} {conversion : Conversion}
    (h : Session.Learned library hc base underlying session (.ok conversion) session')
    (hr : library.decls.records.get? name = none)
    (ht : library.decls.typedefs.get? name = some underlying)
    (henum : library.decls.isEnum (.named name) = false)
    (hn : session.registry.get? name = none) :
    Session.Learned library hc base (.named name) session (.ok conversion)
      ((session'.addConversion name conversion).shareWithAlias name underlying.spelling) := by
  have hname : (CType.named name).spelling = name := by rw [CType.spelling, CType.spell]
  obtain ⟨c, hl, hword⟩ := hc.lastOf_typedef ht
  have hadded : session'.Extends (session'.addConversion name conversion) :=
    (session'.grows_addConversion name conversion).extends
  have hshared := (Session.grows_shareWithAlias (session'.addConversion name conversion) name
    underlying.spelling).extends
  have hlater := trans_of Session.Extends hadded hshared
  have hget := session'.get?_addConversion name conversion
  refine ⟨(Session.Addition.typedef conversion hr ht).within h.within,
    ⟨trans_of Session.Extends h.stays.later hlater, fun ha hcoherent => ?_⟩, fun ha hcoherent => ?_⟩
  · -- It fits: what the typedef stands for has the same conversion.
    have hapart := ha.of_extends hlater
    have hcontains : (session'.addConversion name conversion).registry.contains name := by
      rw [Table.contains, hget, Option.isSome_or, Option.isSome_some, Bool.or_true]
    refine ((h.stays.coherent hapart hcoherent).addConversion fun _ => ?_).shareWithAlias hc hr
      hcontains _
    refine Conversion.fits_of_word hl hword (fun other _ ho _ => ?_) fun record hrecord => ?_
    · rw [ht] at ho
      obtain rfl := Option.some.inj ho
      exact (h.recalls hapart hcoherent).symm.imp And.left (Table.get?_of_initial hadded.registry)
    · rw [hr] at hrecord
      cases hrecord
  · -- It is remembered, unless something was in the meantime.
    have hapart := ha.of_extends hlater
    rw [Session.Recalls, hname]
    cases hknown : session'.registry.get? name with
    | none =>
        refine .inl (Table.get?_of_initial hshared.registry ?_)
        rw [hget, hknown, Option.none_or]
    | some known =>
        -- Both were taken over from what the typedef stands for.
        have hlearned := Table.get?_of_initial hlater.registry hknown
        have hcontains := Option.isSome_iff_exists.2 ⟨known, hlearned⟩
        have hfits := hcoherent.fitsNew (h.stays.coherent hapart hcoherent) hn hknown
        rcases hfits.typedef underlying hr ht henum with hu | hk
        · exact .inr ⟨.typedef hr ht hu, .inl ⟨⟨name, rfl⟩, hcontains⟩⟩
        rcases h.recalls hapart hcoherent with hk' | ⟨hu, -⟩
        · rw [hk] at hk'
          obtain rfl := Option.some.inj hk'
          exact .inl hlearned
        · exact .inr ⟨.typedef hr ht hu, .inl ⟨⟨name, rfl⟩, hcontains⟩⟩

/-- The converters of an array type are named after its spelling. -/
theorem arrayConversion_of_spelling {element element' : CType} {length length' : Nat}
    (hs : (CType.array element length).spelling = (CType.array element' length').spelling) :
    element.arrayConversion length = element'.arrayConversion length' := by
  simp only [CType.arrayConversion, ArrayConverter.toArray, ArrayConverter.fromArray,
    ArrayConverter.typeIdentifier, ArrayConverter.typeName, hs, Option.isSome_some]

/-- The converters of an array type are written. -/
theorem Session.Learned.array {element : CType} {length : Nat} {conversion : Conversion}
    (h : Session.Learned library hc base element session (.ok conversion) session')
    (he : element.isOfC)
    (hn : session.registry.get? (CType.array element length).spelling = none) :
    Session.Learned library hc base (.array element length) session
      (.ok (element.arrayConversion length))
      ((session'.emit (.arrayConverter (.ofElement element (some length) conversion))).addConversion
        (CType.array element length).spelling (element.arrayConversion length)) := by
  have hlast : lastOf (CType.array element length).spelling = some ']' :=
    lastOf_array (.inl ⟨length, rfl⟩)
  have hemitted := session'.extends_emit
    (.arrayConverter (.ofElement element (some length) conversion))
  have hlater := trans_of Session.Extends hemitted (Session.grows_addConversion _
    (CType.array element length).spelling (element.arrayConversion length)).extends
  have hadded : session'.Addition (Scope.ofC hc) _ := .array
    (.ofElement element (some length) conversion) (element.arrayConversion length) he
    (.inl ⟨length, rfl⟩)
  refine ⟨hadded.within h.within,
    ⟨trans_of Session.Extends h.stays.later hlater, fun ha hcoherent => ?_⟩,
    fun ha hcoherent => .inl ?_⟩
  · have hapart := ha.of_extends hlater
    refine ((h.stays.coherent hapart hcoherent).of_eq hemitted rfl).addConversion fun _ => ?_
    refine Conversion.fits_of_mark hc hlast (by decide) (fun element' length' hk => ?_)
      (fun name _ hk _ _ => absurd hk (ne_star_of_lastOf hlast (by decide) name))
      fun name _ hk _ => absurd hk (ne_star_of_lastOf hlast (by decide) name)
    refine ⟨arrayConversion_of_spelling hk, ?_⟩
    rw [← (eq_of_spelling_array hk).2]
    refine (h.recalls hapart hcoherent).symm.imp And.left fun hk' => ?_
    have hlearned := Table.get?_of_initial hlater.registry hk'
    rw [Table.contains, hlearned]
    rfl
  · rw [Session.get?_addConversion]
    show (session'.registry.get? (CType.array element length).spelling).or _ = _
    cases hk : session'.registry.get? (CType.array element length).spelling with
    | none => rfl
    | some known =>
        have hfits := hcoherent.fitsNew
          (h.stays.coherent (ha.of_extends hlater) hcoherent) hn hk
        rw [(hfits.array element length rfl).1]
        rfl

variable {binders : Binders} (h : binders.Stable library hc base)

include h

/-- A record is bound, and what is then known of it is answered. -/
theorem afterBinding_learned {type : CType} {key : String} {record : Record}
    (hr : library.decls.records.get? key = some record) (ht : type.spelling = key)
    (hw : session.Within (Scope.ofC hc)) (hn : session.registry.get? key = none) :
    Ensures True library (afterBinding binders key record) session
      (Session.Learned library hc base type session) := by
  subst ht
  rw [afterBinding, ensures_bind]
  have hscope : (Scope.ofC hc).records type.spelling record := (Scope.ofC hc).declared hr
  refine ((h.keep.bind type.spelling record none hscope session).and
    (h.keep.verdict type.spelling record none session)).mono fun result session' hall => ?_
  obtain ⟨hkeep, hverdict⟩ := hall
  obtain ⟨hw', hs⟩ := hkeep hw
  cases result with
  | error error =>
      refine ⟨hw', hs, fun ha hcoherent => ⟨?_, fun hl => absurd hl (hc.not_leadsToRecord hr)⟩⟩
      -- Only a bound record could have a conversion.
      refine Option.eq_none_iff_forall_ne_some.2 fun conversion hk => ?_
      obtain ⟨bound, hb⟩ := (hcoherent.fitsNew (hs.coherent ha hcoherent) hn hk).record record hr
      rw [Session.boundStruct?_of_get? hb] at hverdict
      cases hverdict
  | ok bound =>
      dsimp only
      rw [ensures_bind, ensures_look]
      dsimp only
      split
      · next conversion hk => exact ensures_pure.2 ⟨hw', hs, fun _ _ => .inl hk⟩
      · next hk =>
          refine ensures_fail.2 ⟨hw', hs, fun _ _ => ⟨hk, fun hl => ?_⟩⟩
          exact absurd hl (hc.not_leadsToRecord hr)

/-- A pointer to a record is always answered. What it is answered with is
    remembered if nothing is being bound. -/
theorem resolveRecordPointer_learned {pointee : CType} {isConst : Bool} {key : String}
    {record : Record} (hb : library.decls.bindable? pointee = some (key, record))
    (hw : session.Within (Scope.ofC hc))
    (hn : session.registry.get? (CType.pointer pointee isConst).spelling = none) :
    Ensures True library
      (resolveRecordPointer binders (CType.pointer pointee isConst).spelling key record) session
      (Session.Learned library hc base (.pointer pointee isConst) session) := by
  have hr := Declarations.get?_of_bindable? hb
  have hf := isFunction_of_bindable? hb
  have hspelling : (CType.pointer pointee isConst).spelling = key ++ " *" := by
    rw [spelling_pointer hf, Declarations.spelling_of_bindable? hb, starAfter, if_neg]
    have hstar := hc.endsWithStar_record hr
    rwa [endsWithStar, beq_eq_false_iff_ne] at hstar
  have hleads : library.decls.LeadsToRecord (CType.pointer pointee isConst).spelling := by
    rw [hspelling]
    exact .pointer hr
  rw [resolveRecordPointer, ensures_bind, ensures_look]
  dsimp only
  split
  · next hmet =>
      -- The record is being bound, and nothing is remembered of the pointer.
      refine ensures_pure.2 ⟨hw, refl_of _ session, fun _ _ => .inr ⟨hleads, .inr fun he => ?_⟩⟩
      rw [he] at hmet
      cases hmet
  rw [ensures_bind, ensures_succeeds]
  have hscope : (Scope.ofC hc).records key record := (Scope.ofC hc).declared hr
  refine (((h.keep.bind key record none hscope session).and
    (h.keep.verdict key record none session)).and
    (h.outcome key record none session)).mono fun result session' hall => ?_
  obtain ⟨⟨hkeep, hverdict⟩, houtcome⟩ := hall
  obtain ⟨hw', hs⟩ := hkeep hw
  have huntyped : Conversion.untyped.Fits library
      (session'.addConversion (CType.pointer pointee isConst).spelling .untyped)
      (CType.pointer pointee isConst).spelling :=
    Conversion.fits_untyped hc (lastOf_pointer hf isConst)
  dsimp only
  rw [ensures_bind, ensures_look]
  dsimp only
  split
  · next hk => exact ensures_pure.2 ⟨hw', hs, fun _ _ => .inl hk⟩
  · next hk =>
      refine learned_remember hw' hs huntyped fun _ _ known hknown => ?_
      rw [hk] at hknown
      cases hknown
  · next hfailed =>
      split
      · refine learned_remember hw' hs huntyped fun ha hcoherent known hknown => ?_
        have hfits := hcoherent.fitsNew (hs.coherent ha hcoherent) hn hknown
        -- Any other conversion is that of a bound record, and this one has failed.
        refine (hfits.recordPointer key record hspelling hr).resolve_right fun hdone => ?_
        obtain ⟨bound, hbound⟩ := hdone
        rw [hfailed, Session.boundStruct?_of_get? hbound] at hverdict
        cases hverdict
      · next hopen =>
          exact ensures_pure.2 ⟨hw', hs, fun _ _ =>
            .inr ⟨hleads, .inr fun he => hopen (houtcome he)⟩⟩

/-- So is a pointer to anything else, and it is remembered in any case. -/
theorem resolveOtherPointer_learned (links : Nat) {pointee : CType} {isConst : Bool}
    (hp : pointee.isOfC) (hb : library.decls.bindable? pointee = none)
    (hf : library.decls.functionPointer (.pointer pointee isConst) = none)
    (hw : session.Within (Scope.ofC hc))
    (hn : session.registry.get? (CType.pointer pointee isConst).spelling = none) :
    Ensures True library
      (resolveOtherPointer binders links (CType.pointer pointee isConst).spelling pointee) session
      (Session.Learned library hc base (.pointer pointee isConst) session) := by
  have hfun := isFunction_of_functionPointer hf
  have huntyped : ∀ s : Session, Conversion.untyped.Fits library s
      (CType.pointer pointee isConst).spelling :=
    fun _ => Conversion.fits_untyped hc (lastOf_pointer hfun isConst)
  rw [resolveOtherPointer, ensures_bind, ensures_look]
  cases pointee with
  | named name =>
      dsimp only
      split
      · next htypedef =>
          obtain ⟨underlying, ht⟩ := Option.isSome_iff_exists.1 htypedef
          have hrecord : library.decls.records.get? name = none := Option.map_eq_none_iff.1 hb
          have hname : (CType.named name).spelling = name := by rw [CType.spelling, CType.spell]
          have hspelling : (CType.pointer (.named name) isConst).spelling = name ++ " *" := by
            rw [spelling_pointer hfun, hname, starAfter, if_neg]
            have hstar := hc.endsWithStar_typedef ht
            rwa [endsWithStar, beq_eq_false_iff_ne] at hstar
          rw [ensures_bind, ensures_succeeds]
          refine (h.resolve (links + 1) (.named name) hp session hw).mono
            fun result session' hall => ?_
          dsimp only
          rw [ensures_bind, ensures_look]
          dsimp only
          split
          · next hk => exact ensures_pure.2 ⟨hall.within, hall.stays, fun _ _ => .inl hk⟩
          · next hother =>
              refine learned_remember hall.within hall.stays (huntyped _)
                fun ha hcoherent known hknown => ?_
              have hfits := hcoherent.fitsNew (hall.stays.coherent ha hcoherent) hn hknown
              refine (hfits.typedefPointer name underlying hspelling hrecord ht).resolve_right
                fun hcontains => ?_
              -- The typedef has failed, which leaves no conversion of it.
              cases result with
              | ok conversion => exact hother known rfl hknown
              | error error =>
                  have hnone := (hall.recalls ha hcoherent).1
                  rw [hname] at hnone
                  rw [Table.contains, hnone] at hcontains
                  cases hcontains
      · exact learned_remember_fresh hw hn (huntyped _)
  | _ => exact learned_remember_fresh hw hn (huntyped _)

theorem resolvePointer_learned (links : Nat) {pointee : CType} {isConst : Bool}
    (ht : (CType.pointer pointee isConst).isOfC) (hw : session.Within (Scope.ofC hc))
    (hn : session.registry.get? (CType.pointer pointee isConst).spelling = none) :
    Ensures True library (resolvePointer binders links pointee isConst) session
      (Session.Learned library hc base (.pointer pointee isConst) session) := by
  rw [CType.isOfC] at ht
  rw [resolvePointer, ensures_bind, ensures_read]
  dsimp only
  cases hf : library.decls.functionPointer (.pointer pointee isConst) with
  | some signature =>
      exact learned_remember_fresh hw hn (Conversion.fits_callback hc (lastOf_callback hf))
  | none =>
      rw [Option.isSome_none, if_neg Bool.false_ne_true]
      split
      · next hb => exact resolveRecordPointer_learned h hb hw hn
      · next hb => exact resolveOtherPointer_learned h links ht hb hf hw hn

/-- A typedef is remembered by what it stands for, unless it was remembered by
    something else in the meantime. -/
theorem resolveTypedef_learned (links : Nat) {name : String} {underlying : CType}
    (hr : library.decls.records.get? name = none)
    (ht : library.decls.typedefs.get? name = some underlying)
    (hw : session.Within (Scope.ofC hc)) (hn : session.registry.get? name = none) :
    Ensures True library (resolveTypedef binders links name underlying) session
      (Session.Learned library hc base (.named name) session) := by
  have hname : (CType.named name).spelling = name := by rw [CType.spelling, CType.spell]
  obtain ⟨c, hl, hword⟩ := hc.lastOf_typedef ht
  have hnotRecord : ∀ (s : Session) (record : Record),
      library.decls.records.get? name = some record →
      ∃ bound, s.structs.get? name = some (.done bound) := by
    intro s record hrecord
    rw [hr] at hrecord
    cases hrecord
  rw [resolveTypedef, ensures_bind, ensures_look]
  dsimp only
  split
  · next henum =>
      have hn' : session.registry.get? (CType.named name).spelling = none := by rw [hname]; exact hn
      have hfresh : Ensures True library (remember (CType.named name).spelling .integer) session
          (Session.Learned library hc base (.named name) session) := by
        refine learned_remember_fresh hw hn' ?_
        rw [hname]
        refine Conversion.fits_of_word hl hword (fun _ _ _ hnot => ?_) (hnotRecord _)
        rw [henum] at hnot
        cases hnot
      rwa [hname] at hfresh
  · next henum =>
      rw [Bool.not_eq_true] at henum
      rw [ensures_bind]
      have hunderlying : underlying.isOfC := (Scope.ofC hc).typedef ht
      refine (h.resolve (links + 1) underlying hunderlying session hw).mono
        fun result session' hall => ?_
      cases result with
      | error error =>
          refine ⟨hall.within, hall.stays, fun ha hcoherent => ?_⟩
          obtain ⟨hnone, hsame⟩ := hall.recalls ha hcoherent
          rw [Session.Recalls, hname]
          refine ⟨?_, fun hleads => hsame (hc.leadsToRecord_typedef ht hleads)⟩
          -- What the typedef was remembered by would be known of what it stands for.
          refine Option.eq_none_iff_forall_ne_some.2 fun known hknown => ?_
          have hfits := hcoherent.fitsNew (hall.stays.coherent ha hcoherent) hn hknown
          rcases hfits.typedef underlying hr ht henum with hleads | hk
          · rw [hsame hleads, hn] at hknown
            cases hknown
          · rw [hnone] at hk
            cases hk
      | ok conversion =>
          dsimp only
          rw [ensures_bind, ensures_update]
          exact ensures_pure.2 (hall.typedef hr ht henum hn)

theorem resolveNamed_learned (links : Nat) {name : String} (hw : session.Within (Scope.ofC hc))
    (hn : session.registry.get? name = none) :
    Ensures True library (resolveNamed binders links name) session
      (Session.Learned library hc base (.named name) session) := by
  have hname : (CType.named name).spelling = name := by rw [CType.spelling, CType.spell]
  rw [resolveNamed, ensures_bind, ensures_look]
  dsimp only
  split
  · next hr => exact afterBinding_learned h hr hname hw hn
  · next hr ht => exact resolveTypedef_learned h links hr ht hw hn
  · exact learned_fail hw (by rw [hname]; exact hn) _

theorem resolveTagged_learned {kind : RecordKind} {tag : String}
    (hw : session.Within (Scope.ofC hc))
    (hn : session.registry.get? (CType.tagged kind tag).spelling = none) :
    Ensures True library (resolveTagged binders (CType.tagged kind tag).spelling) session
      (Session.Learned library hc base (.tagged kind tag) session) := by
  rw [resolveTagged, ensures_bind, ensures_look]
  dsimp only
  split
  · next hr => exact afterBinding_learned h hr rfl hw hn
  · exact learned_fail hw hn _

omit h in
/-- An enum is no typedef and no record. -/
theorem fits_enumeration (hc : library.decls.OfC) {tag : String}
    (ht : (CType.enumeration tag).isOfC) (session : Session) :
    Conversion.integer.Fits library session (CType.enumeration tag).spelling := by
  have hi : Text.isIdentifier tag := by rwa [CType.isOfC] at ht
  obtain ⟨c, hl, hword⟩ := lastOf_keyed "enum " hi
  have hspelling : (CType.enumeration tag).spelling = "enum " ++ tag := by
    rw [CType.spelling, CType.spell]
  refine Conversion.fits_of_word (by rw [hspelling]; exact hl) hword (fun underlying _ hu _ => ?_)
    fun record hr => absurd rfl (hc.ne_enumeration hr tag)
  exact absurd hspelling
    (ne_keyed_of_isIdentifier (hc.typedefName _ (Table.mem_of_get? hu)) "enum" tag)

/-- An array type is remembered under its own name, whatever its elements are
    converted by. -/
theorem arrayConversion_learned {element : CType} {length : Nat} (he : element.isOfC)
    (hw : session.Within (Scope.ofC hc))
    (hn : session.registry.get? (CType.array element length).spelling = none) :
    Ensures True library (arrayConversion (binders.resolve 0) element length) session
      (Session.Learned library hc base (.array element length) session) := by
  rw [arrayConversion, ensures_bind, ensures_look]
  dsimp only
  rw [hn]
  dsimp only
  split
  · exact learned_fail hw hn _
  rw [ensures_bind, elementConversion, ensures_bind, ensures_look]
  dsimp only
  split
  · rw [ensures_within]
    refine (h.resolve 0 element he session hw).mono fun result session' hall => ?_
    cases result with
    | error error =>
        refine ⟨hall.within, hall.stays, fun ha hcoherent => ⟨?_, fun hleads => ?_⟩⟩
        · -- An array type that was remembered has elements that were.
          obtain ⟨hnone, hsame⟩ := hall.recalls ha hcoherent
          refine Option.eq_none_iff_forall_ne_some.2 fun known hknown => ?_
          have hfits := hcoherent.fitsNew (hall.stays.coherent ha hcoherent) hn hknown
          rcases (hfits.array element length rfl).2 with hleads | hk
          · rw [hsame hleads, hn] at hknown
            cases hknown
          · rw [Table.contains, hnone] at hk
            cases hk
        · exact absurd hleads (hc.not_leadsToRecord_array element length)
    | ok conversion =>
        dsimp only [Except.mapError]
        rw [writeArray, ensures_bind, ensures_update]
        exact ensures_pure.2 (hall.array he hn)
  · exact learned_fail hw hn _

/-- One step of resolving a type of which nothing is known. -/
theorem resolveFresh_learned (links : Nat) {type : CType} (ht : type.isOfC)
    (hw : session.Within (Scope.ofC hc)) (hn : session.registry.get? type.spelling = none) :
    Ensures True library (resolveFresh binders links type) session
      (Session.Learned library hc base type session) := by
  cases type with
  | pointer pointee isConst => exact resolvePointer_learned h links ht hw hn
  | named name =>
      have hname : (CType.named name).spelling = name := by rw [CType.spelling, CType.spell]
      rw [hname] at hn
      exact resolveNamed_learned h links hw hn
  | tagged kind tag => exact resolveTagged_learned h hw hn
  | enumeration tag => exact learned_remember_fresh hw hn (fits_enumeration hc ht _)
  | array element length =>
      rw [CType.isOfC] at ht
      exact arrayConversion_learned h ht hw hn
  | _ => exact learned_fail hw hn _

/-- One step of resolving. -/
theorem resolveStep_learned (links : Nat) {type : CType} (ht : type.isOfC)
    (hw : session.Within (Scope.ofC hc)) :
    Ensures True library (resolveStep binders links type) session
      (Session.Learned library hc base type session) := by
  rw [resolveStep, ensures_bind, ensures_look]
  dsimp only
  split
  · next hk => exact ensures_pure.2 ⟨hw, refl_of _ session, fun _ _ => .inl hk⟩
  · next hn =>
      split
      · exact learned_fail hw hn _
      · exact resolveFresh_learned h links ht hw hn

end Steps

variable {library : Library} {hc : library.decls.OfC}

theorem bindersWithin_stable (base : Session) (levels : Nat) :
    (bindersWithin levels).Stable library hc base := by
  -- That a record is concluded is known already, and not part of the induction.
  have houtcome : ∀ levels key record typedef (session : Session),
      Ensures True library ((bindersWithin levels).bind key record typedef) session
        fun _ session' => session.inProgress = [] → session'.structs.contains key := by
    intro levels key record typedef session
    by_cases hp : session.inProgress = []
    · exact ((bindersWithin_conclude library levels).outcome key record typedef session hp).mono
        fun _ _ hall _ => hall
    · exact ensures_of_forall (fun _ _ hidle => absurd hidle hp) trivial
  induction levels with
  | zero =>
      exact ⟨⟨fun _ _ _ => Keeps.ofEndless, fun _ _ _ _ => Keeps.ofEndless, fun _ _ _ _ => trivial⟩,
        fun _ _ _ _ _ => trivial, houtcome 0⟩
  | succ levels ih =>
      refine ⟨⟨fun links type ht session => ?_, fun key record typedef hr => ?_,
        (bindersWithin_grow (levels + 1)).verdict⟩,
        fun links type ht session hw => resolveStep_learned ih links ht hw, houtcome (levels + 1)⟩
      · by_cases hw : session.Within (Scope.ofC hc)
        · exact (resolveStep_learned ih links ht hw).mono fun _ _ hall _ =>
            ⟨hall.within, hall.stays⟩
        · exact ensures_of_forall (fun _ _ hw' => absurd hw' hw) trivial
      · exact bindStep_keeps (Session.foreknown_true library)
          (Session.staysCoherent_allowsBinding base).known ih.keep
          (bindersWithin_grow levels) levels hr typedef

/-- What resolving a type answers is what is then remembered. -/
theorem resolve_learned {type : CType} (ht : type.isOfC) {session : Session}
    (hw : session.Within (Scope.ofC hc)) :
    Ensures True library (resolve type) session
      fun result session' => ∀ conversion, result = .ok conversion →
        Session.Learned library hc session type session result session' := by
  rw [resolve, withBinders]
  refine Ensures.settled ?_ fun conversion he => ?_
  · rw [ensures_bind, ensures_look]
    exact ((bindersWithin_stable session _).resolve 0 type ht session hw).mono
      fun _ _ hall _ _ => hall
  · cases he

/-- There are always a few levels. -/
theorem exists_levelsFor (size : Nat) : ∃ levels, levelsFor size = levels + 3 := by
  have hside : 3 ≤ size + aliasLimit + 3 := Nat.le_add_left ..
  have hlevels : 3 ≤ levelsFor size := by
    rw [levelsFor]
    exact Nat.le_trans hside (Nat.le_mul_of_pos_left _ (Nat.mul_pos (by omega) (by omega)))
  exact Nat.exists_eq_add_of_le' hlevels

/-- A conversion that is known is answered on any level. -/
theorem bindersWithin_resolve_known {type : CType} {conversion : Conversion} {session : Session}
    (hk : session.registry.get? type.spelling = some conversion) (levels links : Nat) :
    Ensures False library ((bindersWithin (levels + 1)).resolve links type) session
      fun result session' => result = .ok conversion ∧ session' = session := by
  show Ensures False library (resolveStep (bindersWithin levels) links type) session _
  rw [resolveStep, ensures_bind, ensures_look]
  dsimp only
  rw [hk]
  exact ensures_pure.2 ⟨rfl, rfl⟩

/-- What a type is resolved to within a few levels is what it is resolved to. -/
theorem resolve_of_levels {type : CType} {session : Session}
    {post : Except BindError Conversion → Session → Prop}
    (h : ∀ levels, Ensures False library ((bindersWithin (levels + 3)).resolve 0 type)
      session post) :
    ∃ result session', (resolve type).outcome library session = some (result, session') ∧
      post result session' := by
  have hresolve : Ensures False library (resolve type) session post := by
    rw [resolve, withBinders, ensures_settled, ensures_bind, ensures_look]
    dsimp only
    obtain ⟨levels, hlevels⟩ :=
      exists_levelsFor (library.decls.size + session.pendingSize + type.size)
    rw [hlevels]
    exact (h levels).excuse False.elim
  exact hresolve.exists_outcome

/-- A conversion that is known is answered, and nothing is changed. -/
theorem resolve_of_known {type : CType} {conversion : Conversion} {session : Session}
    (hk : session.registry.get? type.spelling = some conversion) :
    (resolve type).outcome library session = some (.ok conversion, session) := by
  have hrun : ∀ levels, Ensures False library ((bindersWithin (levels + 3)).resolve 0 type) session
      fun result session' => result = .ok conversion ∧ session' = session :=
    fun levels => bindersWithin_resolve_known hk (levels + 2) 0
  obtain ⟨result, session', ho, rfl, rfl⟩ := resolve_of_levels hrun
  exact ho

/-- A type that has been resolved while nothing was being bound has one conversion
    from then on, whatever happens in between. It is the one that was answered,
    unless the type is a typedef that leads to a pointer to a record. -/
theorem resolve_stable (hc : library.decls.OfC) {session session' : Session}
    (hs : session.Reachable (Scope.ofC hc)) (hidle : session.inProgress = []) {type : CType}
    (ht : type.isOfC) {conversion : Conversion}
    (h : (resolve type).outcome library session = some (.ok conversion, session'))
    (ha : session'.Apart library) :
    ∃ known,
      (∀ later, session'.Evolves (Scope.ofC hc) later →
        (resolve type).outcome library later = some (.ok known, later)) ∧
      (known = conversion ∨ ∃ name, type = .named name ∧ library.decls.LeadsToRecord name) := by
  have hw : session.Within (Scope.ofC hc) := hs.evolves.within (Session.within_start _ _)
  have hlearned := (resolve_learned ht hw).of_outcome h conversion rfl
  -- What is remembered now is found by its spelling ever after.
  have hstays : ∀ known, session'.registry.get? type.spelling = some known →
      ∀ later, session'.Evolves (Scope.ofC hc) later →
        (resolve type).outcome library later = some (.ok known, later) :=
    fun known hk later hl => resolve_of_known (Table.get?_of_initial hl.extends.registry hk)
  rcases hlearned.recalls ha (Session.coherent_self library session) with hk | ⟨hl, hcase⟩
  · exact ⟨conversion, hstays conversion hk, .inl rfl⟩
  · rcases hcase with ⟨⟨name, rfl⟩, hcontains⟩ | hbusy
    · obtain ⟨known, hk⟩ := Option.isSome_iff_exists.1 hcontains
      rw [CType.spelling, CType.spell] at hl
      exact ⟨known, hstays known hk, .inr ⟨name, rfl, hl⟩⟩
    · exact absurd hidle hbusy

/-- A record with a member whose type is a typedef of pointers to the record. -/
def typedefList : Library where
  decls :=
    { records := .ofRows [("node", ⟨"node", .struct, [⟨"next", .named "link", none⟩]⟩)]
      typedefs := .ofRows [("link", .pointerTo (.named "node"))] }
  naming := { moduleName := "m", scope := "m" }

theorem typedefList_ofC : typedefList.decls.OfC :=
  .of_identifiers (by decide) (by decide) (by decide) (by decide)

set_option maxRecDepth 100000 in
/-- The typedef is met while the record is being bound. When it is resolved again,
    it has the conversion that it got there. -/
theorem typedefList_changes :
    ¬∀ (conversion known : Conversion) (session' later : Session),
      (resolve (.named "link")).outcome typedefList (.start typedefList.naming) =
        some (.ok conversion, session') →
      (resolve (.named "link")).outcome typedefList session' = some (.ok known, later) →
      known = conversion := by
  let first := (resolve (.named "link")).run "link" typedefList (.start typedefList.naming)
  let second := (resolve (.named "link")).run "link" typedefList first.2
  have hfirst : first.1.toOption = some (.between "mp_write_ptr_node" "mp_read_ptr_node") := by
    decide +kernel
  have hsecond : second.1.toOption = some .untyped := by decide +kernel
  intro hall
  have hsame := hall _ _ _ _ (outcome_of_toOption hfirst) (outcome_of_toOption hsecond)
  exact absurd hsame (by decide)

set_option maxRecDepth 100000 in
/-- The record itself keeps its conversion, whatever happens after it has been
    resolved. -/
theorem typedefList_keeps :
    ∃ (conversion : Conversion) (session' : Session),
      (resolve (.named "node")).outcome typedefList (.start typedefList.naming) =
        some (.ok conversion, session') ∧
      ∀ later, session'.Evolves (Scope.ofC typedefList_ofC) later →
        (resolve (.named "node")).outcome typedefList later = some (.ok conversion, later) := by
  let first := (resolve (.named "node")).run "node" typedefList (.start typedefList.naming)
  have hresult : first.1.toOption.isSome ∧ first.2.Apart typedefList := by decide +kernel
  obtain ⟨conversion, hconversion⟩ := Option.isSome_iff_exists.1 hresult.1
  obtain ⟨record, hrecord⟩ : ∃ record, typedefList.decls.records.get? "node" = some record :=
    ⟨_, rfl⟩
  have houtcome := outcome_of_toOption hconversion
  obtain ⟨known, hstays, hknown⟩ :=
    resolve_stable typedefList_ofC .start rfl (by decide) houtcome hresult.2
  refine ⟨conversion, first.2, houtcome, ?_⟩
  -- A record leads to no pointer.
  have hsame : known = conversion := by
    refine hknown.resolve_right fun hexcepted => ?_
    obtain ⟨name, hname, hleads⟩ := hexcepted
    obtain rfl := CType.named.inj hname
    exact typedefList_ofC.not_leadsToRecord hrecord hleads
  rw [← hsame]
  exact hstays

end ScriptBind
