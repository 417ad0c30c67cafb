import ScriptBind.Proofs.RightBinding

/-!
# Resolving Finds What Is Convertible

Resolving a type has an answer exactly if the type is convertible, whatever was
resolved before.

One step of resolving comes to what it should if the steps below do, and so does
one step of binding a record. With enough levels both come to an end, so the two
are proved together by induction on the levels. What falls is what an array, a
pointer or a typedef still has to be chased through, since each of them asks the
level below for what it is made of.

At the start nothing is being bound, and what is refuted without the use of no
record is not convertible at all. So the reading of a failure becomes a plain
negation, and answers and failures together decide what is convertible.

## Theorems

* `resolveStep_right`: One step of resolving.
* `bindersWithin_right`: Any number of steps.
* `resolve_ensures`: Resolving a type.
* `isOk_resolve_iff_convertible`: After any types, resolving one has an answer
  exactly if it is convertible.
-/

namespace ScriptBind

open BindM

variable {library : Library} {rank : String → Nat} {levels : Nat} {binders : Binders}

section Steps

variable (h : binders.Right library rank levels)

include h

theorem elementConversion_right {session : Session} {element : CType} (key : String)
    (hw : element.isWellNamed) (hregular : library.decls.Regular)
    (hs : session.Sound library) (hl : session.Settled []) :
    Ensures (levels < session.room library.extent + library.decls.chase rank element + 1) library
      (elementConversion (binders.resolve 0) element key) session fun result session' =>
        session.Leads library session' ∧
          match result with
          | .ok _ => library.decls.isElement element ∧ session'.Converts library element
          | .error _ => session.Refutes session' fun avoided =>
            library.decls.isElement element ∧ ConvertibleBut library avoided element := by
  rw [elementConversion, ensures_bind, ensures_look]
  dsimp only
  split
  · next he =>
      rw [ensures_within]
      refine (h.resolve 0 element session hw hs hl).mono fun result session' hr => ?_
      cases result with
      | ok conversion => exact ⟨hr.1, he, hr.2.1⟩
      | error error =>
          exact ⟨hr.1, (hr.2 (Nat.zero_le _) (hregular.linksWithin element)).imp fun _ hc => hc.2⟩
  · next he =>
      rw [ensures_fail]
      exact ⟨.refl hs hl, Session.refutes_of_not fun avoided hc => he hc.1⟩

/-- An array is converted if its elements are. -/
theorem arrayConversion_right (hregular : library.decls.Regular) {session : Session}
    {element : CType} {length : Nat} (hw : element.isWellNamed)
    (hmiss : session.registry.get? (CType.array element length).spelling = none)
    (hs : session.Sound library) (hl : session.Settled []) :
    Ensures
      (levels < session.room library.extent + library.decls.chase rank (.array element length))
      library (arrayConversion (binders.resolve 0) element length) session
      (Resolved library 0 (.array element length) session) := by
  have hseed := hs.not_seeded hmiss
  rw [arrayConversion, ensures_bind, ensures_look]
  dsimp only
  rw [hmiss]
  dsimp only
  split
  · next hz =>
      exact ⟨.refl hs hl, fun _ _ => Session.refutes_of_not fun avoided hc =>
        absurd (hc.element hseed).1 (by omega)⟩
  next hz =>
  rw [ensures_bind, Declarations.chase_array]
  refine (elementConversion_right h _ hw hregular hs hl).mono fun result session' hr => ?_
  cases result with
  | error error =>
      exact ⟨hr.1, fun _ _ => hr.2.imp fun avoided hc => (hc.element hseed).2⟩
  | ok conversion =>
      dsimp only
      rw [writeArray, ensures_bind, ensures_update]
      dsimp only
      have hc : session'.Converts library (.array element length) := fun avoided hu =>
        .array (Nat.pos_of_ne_zero hz) hr.2.1 (hr.2.2 avoided hu)
      have hsound : (session'.emit (.arrayConverter
          (.ofElement element (some length) conversion))).Sound library :=
        hr.1.sound.congr rfl rfl rfl rfl
      refine ⟨hr.1.then ((session'.grows_emit rfl).trans (Session.grows_addConversion _ _ _))
        (hsound.learn (CType.isWellNamed_array.2 hw) hc fun hi => by cases hi) rfl, hc,
        fun hi => by cases hi⟩

omit h in
/-- A conversion found is remembered. -/
theorem remember_right {endless : Prop} {session session' : Session} {links : Nat} {type : CType}
    {conversion : Conversion} (hw : type.isWellNamed) (hc : session'.Converts library type)
    (hi : conversion.inward = .register → (library.decls.functionPointer type).isSome)
    (hg : session.Leads library session') :
    Ensures endless library (remember type.spelling conversion) session'
      (Resolved library links type session) := by
  rw [remember, ensures_bind, ensures_update]
  exact ⟨hg.then (session'.grows_addConversion _ _) (hg.sound.learn hw hc hi) rfl, hc, hi⟩

/-- A record is converted if it can be bound. -/
theorem afterBinding_right (hregular : library.decls.Regular) {session : Session} {links : Nat}
    {type : CType} {key : String} {record : Record} (hw : type.isWellNamed)
    (hb : library.decls.bindable? type = some (key, record))
    (hmiss : session.registry.get? type.spelling = none)
    (hs : session.Sound library) (hl : session.Settled []) :
    Ensures (levels < session.room library.extent + library.decls.chase rank type) library
      (afterBinding binders key record) session (Resolved library links type session) := by
  have hr := Declarations.get?_of_bindable? hb
  have hspelling := Declarations.spelling_of_bindable? hb
  have hchase := Declarations.chase_pos library.decls rank type
  have hseed := hs.not_seeded hmiss
  rw [afterBinding, ensures_bind]
  refine ((h.bind key record session hr hs (hl.exempting key)).excuse fun he => by omega).mono
    fun result session' hbound => ?_
  cases result with
  | error error =>
      exact ⟨hbound.1, fun _ _ => hbound.2.imp fun avoided hc =>
        hc.members_of_bindable? hregular hb hseed⟩
  | ok bound =>
      obtain ⟨found, hdone⟩ := hbound.2
      dsimp only
      rw [ensures_bind, ensures_look]
      dsimp only
      split
      · next conversion hconversion =>
          refine ⟨hbound.1, fun avoided hu => .record hb (fun hin => ?_) ?_, fun hi => ?_⟩
          · have hnone := hu key hin
            rw [Session.boundStruct?_of_get? hdone] at hnone
            cases hnone
          · exact ((hbound.1.sound.done key found hdone).2 record hr).membersBut hu
          · exact (hbound.1.sound.register _ _ hconversion hi).2 type hw hspelling
      · next hnone =>
          have hcontains := (hbound.1.sound.done key found hdone).1
          rw [Table.contains, hnone] at hcontains
          exact absurd hcontains Bool.false_ne_true

/-- A pointer to a record is passed untyped if nothing better is known. -/
theorem resolveRecordPointer_right {session : Session} {links : Nat}
    {pointee : CType} {isConst : Bool} {key : String} {record : Record}
    (hw : (CType.pointer pointee isConst).isWellNamed)
    (hr : library.decls.records.get? key = some record)
    (hs : session.Sound library) (hl : session.Settled []) :
    Ensures
      (levels < session.room library.extent + library.decls.chase rank (.pointer pointee isConst))
      library
      (resolveRecordPointer binders (CType.pointer pointee isConst).spelling key record) session
      (Resolved library links (.pointer pointee isConst) session) := by
  have hchase := Declarations.chase_pos library.decls rank (.pointer pointee isConst)
  have hpointer : ∀ final : Session, final.Converts library (.pointer pointee isConst) :=
    fun final => final.converts_pointer pointee isConst
  rw [resolveRecordPointer, ensures_bind, ensures_look]
  dsimp only
  split
  · exact ⟨.refl hs hl, hpointer _, fun hi => by cases hi⟩
  rw [ensures_bind, ensures_succeeds]
  refine ((h.bind key record session hr hs (hl.exempting key)).excuse fun he => by omega).mono
    fun result session' hbound => ?_
  dsimp only
  rw [ensures_bind, ensures_look]
  dsimp only
  split
  · next conversion hconversion =>
      exact ⟨hbound.1, hpointer _, fun hi =>
        (hbound.1.sound.register _ _ hconversion hi).2 _ hw rfl⟩
  · exact remember_right hw (hpointer _) (fun hi => by cases hi) hbound.1
  · split
    · exact remember_right hw (hpointer _) (fun hi => by cases hi) hbound.1
    · exact ⟨hbound.1, hpointer _, fun hi => by cases hi⟩

/-- A pointer to anything else is passed untyped if nothing better is known. -/
theorem resolveOtherPointer_right {session : Session} {links : Nat}
    {pointee : CType} {isConst : Bool} (hw : (CType.pointer pointee isConst).isWellNamed)
    (hs : session.Sound library) (hl : session.Settled []) :
    Ensures
      (levels < session.room library.extent + library.decls.chase rank (.pointer pointee isConst))
      library
      (resolveOtherPointer binders links (CType.pointer pointee isConst).spelling pointee) session
      (Resolved library links (.pointer pointee isConst) session) := by
  have hpointer : ∀ final : Session, final.Converts library (.pointer pointee isConst) :=
    fun final => final.converts_pointer pointee isConst
  have hwp : pointee.isWellNamed := by rwa [CType.isWellNamed] at hw
  rw [resolveOtherPointer, ensures_bind, ensures_look]
  dsimp only
  split
  · split
    · rw [ensures_bind, ensures_succeeds, Declarations.chase_pointer]
      refine (h.resolve (links + 1) _ session hwp hs hl).mono fun result session' hr => ?_
      dsimp only
      rw [ensures_bind, ensures_look]
      dsimp only
      split
      · next conversion hconversion =>
          exact ⟨hr.1, hpointer _, fun hi => (hr.1.sound.register _ _ hconversion hi).2 _ hw rfl⟩
      · exact remember_right hw (hpointer _) (fun hi => by cases hi) hr.1
    · exact remember_right hw (hpointer _) (fun hi => by cases hi) (.refl hs hl)
  · rw [if_neg Bool.false_ne_true]
    exact remember_right hw (hpointer _) (fun hi => by cases hi) (.refl hs hl)

/-- Pointers always have a conversion. -/
theorem resolvePointer_right {session : Session} {links : Nat}
    {pointee : CType} {isConst : Bool} (hw : (CType.pointer pointee isConst).isWellNamed)
    (hs : session.Sound library) (hl : session.Settled []) :
    Ensures
      (levels < session.room library.extent + library.decls.chase rank (.pointer pointee isConst))
      library (resolvePointer binders links pointee isConst) session
      (Resolved library links (.pointer pointee isConst) session) := by
  rw [resolvePointer, ensures_bind, ensures_read]
  dsimp only
  split
  · next hf =>
      exact remember_right hw (session.converts_pointer pointee isConst) (fun _ => hf) (.refl hs hl)
  split
  · next recordKey record hb =>
      exact resolveRecordPointer_right h hw (Declarations.get?_of_bindable? hb) hs hl
  · exact resolveOtherPointer_right h hw hs hl

/-- A typedef is converted if what it stands for is. -/
theorem resolveTypedef_right (hregular : library.decls.Regular)
    (hrank : library.decls.Ranked rank) {session : Session} {links : Nat} {name : String}
    {underlying : CType} (ht : library.decls.typedefs.get? name = some underlying)
    (hrecord : library.decls.records.get? name = none)
    (hmiss : session.registry.get? name = none)
    (hs : session.Sound library) (hl : session.Settled []) :
    Ensures (levels < session.room library.extent + library.decls.chase rank (.named name)) library
      (resolveTypedef binders links name underlying) session
      (Resolved library links (.named name) session) := by
  have hspelling : (CType.named name).spelling = name := by rw [CType.spelling, CType.spell]
  have hw : (CType.named name).isWellNamed := hregular.typedefName _ (Table.mem_of_get? ht)
  have hwu : underlying.isWellNamed := hregular.typedefType _ (Table.mem_of_get? ht)
  have hchase := Declarations.chase_typedef hrank ht
  have hseed := hs.not_seeded hmiss
  rw [resolveTypedef, ensures_bind, ensures_look]
  dsimp only
  split
  · next he =>
      have hremember : Ensures
          (levels < session.room library.extent + library.decls.chase rank (.named name)) library
          (remember (CType.named name).spelling .integer) session
          (Resolved library links (.named name) session) :=
        remember_right hw (fun _ _ => .enumeration he) (fun hi => by cases hi) (.refl hs hl)
      rwa [hspelling] at hremember
  next he =>
  rw [ensures_bind]
  refine ((h.resolve (links + 1) underlying session hwu hs hl).excuse fun he => by omega).mono
    fun result session' hr => ?_
  cases result with
  | ok conversion =>
      dsimp only
      rw [ensures_bind, ensures_update]
      have hc : session'.Converts library (.named name) := fun avoided hu =>
        .typedef ht (hr.2.1 avoided hu)
      have hi : conversion.inward = .register →
          (library.decls.functionPointer (.named name)).isSome := by
        rw [hregular.functionPointer_typedef ht]
        exact hr.2.2
      have hsound : ((session'.addConversion name conversion).shareWithAlias name
          underlying.spelling).Sound library := by
        have hlearned := hr.1.sound.learn hw hc hi
        rw [hspelling] at hlearned
        exact hlearned.shareWithAlias name underlying.spelling
      have hgrown := (session'.grows_addConversion name conversion).trans
        (Session.grows_shareWithAlias _ name underlying.spelling)
      exact ⟨hr.1.then hgrown hsound (Session.retried_shareWithAlias _ _ _),
        hc.mono (Session.boundStruct?_eq_none_of_initial hgrown.structs), hi⟩
  | error error =>
      refine ⟨hr.1, fun hlinks hwithin => ?_⟩
      rcases Declarations.linksWithin_typedef ht hwithin with ⟨rest, hrest, hu⟩
      have hlimit : rest = aliasLimit - (links + 1) := by omega
      refine (hr.2 (by omega) (hlimit ▸ hu)).imp fun avoided hc => ?_
      cases hc with
      | seeded hc => exact absurd (hspelling ▸ hc) hseed
      | enumeration hc => exact absurd hc he
      | typedef ht' hu' =>
          rw [ht] at ht'
          exact Option.some.inj ht' ▸ hu'
      | record hb => exact absurd hb (by simp [Declarations.bindable?, hrecord])

/-- A named type is converted as the record or the typedef of that name. -/
theorem resolveNamed_right (hregular : library.decls.Regular)
    (hrank : library.decls.Ranked rank) {session : Session} {links : Nat} {name : String}
    (hw : (CType.named name).isWellNamed) (hmiss : session.registry.get? name = none)
    (hs : session.Sound library) (hl : session.Settled []) :
    Ensures (levels < session.room library.extent + library.decls.chase rank (.named name)) library
      (resolveNamed binders links name) session (Resolved library links (.named name) session) := by
  have hspelling : (CType.named name).spelling = name := by rw [CType.spelling, CType.spell]
  have hseed := hs.not_seeded hmiss
  rw [resolveNamed, ensures_bind, ensures_look]
  dsimp only
  split
  · next record hr =>
      have hb : library.decls.bindable? (.named name) = some (name, record) := by
        rw [Declarations.bindable?, hr, Option.map_some]
      exact afterBinding_right h hregular hw hb (hspelling.symm ▸ hmiss) hs hl
  · next underlying hrecord ht => exact resolveTypedef_right h hregular hrank ht hrecord hmiss hs hl
  · next hrecord ht =>
      refine ⟨.refl hs hl, fun _ _ => Session.refutes_of_not fun avoided hc => ?_⟩
      cases hc with
      | seeded hc => exact absurd (hspelling ▸ hc) hseed
      | enumeration hc =>
          rw [Declarations.isEnum, aliasLimit, Declarations.isEnumWithin, ht] at hc
          exact absurd hc Bool.false_ne_true
      | typedef ht' => cases ht.symm.trans ht'
      | record hb => exact absurd hb (by simp [Declarations.bindable?, hrecord])

/-- What is found for a type that has no conversion yet. -/
theorem resolveFresh_right (hregular : library.decls.Regular)
    (hrank : library.decls.Ranked rank) {session : Session} {links : Nat} {type : CType}
    (hw : type.isWellNamed) (hmiss : session.registry.get? type.spelling = none)
    (hs : session.Sound library) (hl : session.Settled []) :
    Ensures (levels < session.room library.extent + library.decls.chase rank type) library
      (resolveFresh binders links type) session (Resolved library links type session) := by
  have hseed := hs.not_seeded hmiss
  cases type with
  | pointer pointee isConst => exact resolvePointer_right h hw hs hl
  | named name =>
      have hspelling : (CType.named name).spelling = name := by rw [CType.spelling, CType.spell]
      exact resolveNamed_right h hregular hrank hw (hspelling ▸ hmiss) hs hl
  | tagged kind tag =>
      rw [resolveFresh, resolveTagged, ensures_bind, ensures_look]
      dsimp only
      split
      · next record hr =>
          have hb : library.decls.bindable? (.tagged kind tag) =
              some ((CType.tagged kind tag).spelling, record) := by
            rw [Declarations.bindable?, hr, Option.map_some]
          exact afterBinding_right h hregular hw hb hmiss hs hl
      · next hr =>
          refine ⟨.refl hs hl, fun _ _ => Session.refutes_of_not fun avoided hc => ?_⟩
          cases hc with
          | seeded hc => exact absurd hc hseed
          | enumeration hc => exact absurd hc Bool.false_ne_true
          | record hb => exact absurd hb (by simp [Declarations.bindable?, hr])
  | enumeration tag =>
      exact remember_right hw (fun _ _ => .enumeration rfl) (fun hi => by cases hi) (.refl hs hl)
  | array element length =>
      have he := arrayConversion_right h hregular (CType.isWellNamed_array.1 hw) hmiss hs hl
      exact he.mono fun result session' hr => ⟨hr.1, by cases result with
        | ok _ => exact hr.2
        | error _ => exact fun _ _ => hr.2 (Nat.zero_le _) (hregular.linksWithin _)⟩
  | _ =>
      refine ⟨.refl hs hl, fun _ _ => Session.refutes_of_not fun avoided hc => ?_⟩
      cases hc with
      | seeded hc => exact absurd hc hseed
      | enumeration hc => exact absurd hc Bool.false_ne_true
      | record hb => cases hb

/-- Resolving a type comes to what it should. -/
theorem resolveStep_right (hregular : library.decls.Regular)
    (hrank : library.decls.Ranked rank) {session : Session} {links : Nat} {type : CType}
    (hw : type.isWellNamed) (hs : session.Sound library) (hl : session.Settled []) :
    Ensures (levels < session.room library.extent + library.decls.chase rank type) library
      (resolveStep binders links type) session (Resolved library links type session) := by
  rw [resolveStep, ensures_bind, ensures_look]
  dsimp only
  split
  · next conversion hconversion =>
      have hknown : session.registry.contains type.spelling := by
        rw [Table.contains, hconversion]; rfl
      exact ⟨.refl hs hl, hs.registered type hw hknown,
        fun hi => (hs.register _ _ hconversion hi).2 type hw rfl⟩
  next hmiss =>
  split
  · next hlinks => exact ⟨.refl hs hl, fun hle => absurd hlinks (by omega)⟩
  · exact resolveFresh_right h hregular hrank hw hmiss hs hl

end Steps

/-- Any number of levels is put to the right use. -/
theorem bindersWithin_right (hregular : library.decls.Regular) (hrank : library.decls.Ranked rank)
    (levels : Nat) : (bindersWithin levels).Right library rank levels := by
  induction levels with
  | zero =>
      exact ⟨bindersWithin_grow 0, fun _ _ _ _ _ _ => Nat.succ_pos _,
        fun _ _ _ _ _ _ => Nat.succ_pos _⟩
  | succ levels ih =>
      refine ⟨bindersWithin_grow _, fun links type session hw hs hl => ?_,
        fun key record session hr hs hl => ?_⟩
      · exact (resolveStep_right ih hregular hrank hw hs hl).excuse fun he => by omega
      · exact (bindStep_right ih hregular hr hs hl).excuse fun he => by omega

/-- Resolving a type comes to an end, and to what it should. -/
theorem resolve_ensures (hregular : library.decls.Regular) {session : Session} {type : CType}
    (hw : type.isWellNamed) (hs : session.Sound library) (hl : session.Settled []) :
    Ensures False library (resolve type) session (Resolved library 0 type session) := by
  obtain ⟨rank, hrank⟩ := hregular.acyclic
  have henough := Session.room_add_le_levelsFor library rank session type
    (Nat.add_le_add_right (Nat.le_add_right library.decls.size session.pendingSize) type.size)
  rw [resolve, withBinders, ensures_settled, ensures_bind, ensures_look]
  refine ((bindersWithin_right hregular hrank _).resolve 0 type session hw hs hl).excuse
    fun he => ?_
  exact absurd he (Nat.not_lt_of_le henough)

/-- The session after some types have been resolved, one after another. -/
def resolveAll (library : Library) (types : List CType) (session : Session) : Session :=
  types.foldl (fun session type => ((resolve type).run type.spelling library session).2) session

theorem resolveAll_cons (library : Library) (type : CType) (types : List CType)
    (session : Session) : resolveAll library (type :: types) session =
      resolveAll library types ((resolve type).run type.spelling library session).2 := rfl

/-- What resolving a type comes to, with and without an answer. -/
theorem run_resolve (hregular : library.decls.Regular) {session : Session} {type : CType}
    (hw : type.isWellNamed) (hs : session.Sound library) (hl : session.Settled []) :
    Resolved library 0 type session ((resolve type).run type.spelling library session).1
      ((resolve type).run type.spelling library session).2 := by
  rcases (resolve_ensures hregular hw hs hl).exists_outcome with ⟨result, session', ho, hr⟩
  rw [BindM.run, ho, Option.getD_some]
  exact hr

/-- Resolving types one after another keeps a session sound. -/
theorem resolveAll_leads (hregular : library.decls.Regular) {types : List CType}
    {session : Session} (htypes : ∀ type ∈ types, type.isWellNamed) (hs : session.Sound library)
    (hl : session.Settled []) : session.Leads library (resolveAll library types session) := by
  induction types generalizing session with
  | nil => exact .refl hs hl
  | cons type rest ih =>
      have hfirst := (run_resolve hregular (htypes type (List.mem_cons_self ..)) hs hl).1
      rw [resolveAll_cons]
      exact hfirst.trans (ih (fun other ho => htypes other (List.mem_cons_of_mem _ ho)) hfirst.sound
        hfirst.settled)

/-- Resolving a type has an answer exactly if the type is convertible, no matter
    which types were resolved before, and in which order. -/
theorem isOk_resolve_iff_convertible (library : Library) (hregular : library.decls.Regular)
    (types : List CType) (htypes : ∀ type ∈ types, type.isWellNamed) (type : CType)
    (hw : type.isWellNamed) :
    ((resolve type).run type.spelling library
      (resolveAll library types (.start library.naming))).1.isOk ↔ Convertible library type := by
  have hbefore := resolveAll_leads hregular htypes (Session.sound_start library)
    (Session.settled_start [] library.naming)
  have hafter := run_resolve hregular hw hbefore.sound hbefore.settled
  cases hresult : ((resolve type).run type.spelling library
      (resolveAll library types (.start library.naming))).1 with
  | ok conversion =>
      rw [hresult] at hafter
      exact ⟨fun _ => hafter.2.1.convertible, fun _ => rfl⟩
  | error error =>
      rw [hresult] at hafter
      have hrefutes := hafter.2 (Nat.zero_le _) (hregular.linksWithin type)
      rw [Session.Refutes, hbefore.grows.inProgress] at hrefutes
      exact ⟨fun h => absurd h Bool.false_ne_true, fun h => absurd h hrefutes.1⟩

/-- Two records, of which one contains the other by way of two typedefs, and is
    pointed at by it. -/
def nestedLibrary : Library where
  decls :=
    { records := .ofRows
        [("inner_t", ⟨"inner_t", .struct, [⟨"outer", .pointerTo (.named "outer_t"), none⟩]⟩),
          ("outer_t", ⟨"outer_t", .struct, [⟨"inner", .named "part_t", none⟩]⟩)]
      typedefs := .ofRows
        [("member_t", .named "inner_t"), ("part_t", .named "member_t")] }
  naming := { moduleName := "nested", scope := "n" }

theorem nestedLibrary_regular : nestedLibrary.decls.Regular where
  recordName := fun row hr => Or.inl (by revert row; decide)
  memberType := by decide
  memberName := by decide
  typedefName := by decide
  typedefType := by decide
  apart := by decide
  acyclic := ⟨fun name => if name = "part_t" then 1 else 0, by decide⟩
  short := by decide

/-- The outer record is met while the inner one is being bound, and the inner one
    once more inside of it; both have a conversion in the end. -/
theorem isOk_resolve_nested :
    ((resolve (.named "outer_t")).run "outer_t" nestedLibrary
      (resolveAll nestedLibrary [.named "inner_t"] (.start nestedLibrary.naming))).1.isOk := by
  refine (isOk_resolve_iff_convertible nestedLibrary nestedLibrary_regular [.named "inner_t"]
    (by decide) (.named "outer_t") (by decide)).2 ?_
  have hinner : Convertible nestedLibrary (.named "inner_t") := by
    refine .record rfl List.not_mem_nil fun field hf _ => ?_
    rw [List.mem_singleton.1 hf]
    exact .pointer _ _
  refine .record rfl List.not_mem_nil fun field hf _ => ?_
  rw [List.mem_singleton.1 hf]
  exact .typedef rfl (.typedef rfl hinner)

end ScriptBind
