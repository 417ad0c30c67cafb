import ScriptBind.Proofs.RecordNames

/-!
# The Order of Member Typedefs

The type of a nameless member is given a name by a typedef, which is written
just before the accessor of that type, when its members are bound. So it is
written after everything that its members lead to. If one of them is nameless in
its turn, the typedef of the inner type comes first, although it is taken from a
member of the outer one: C reads a name there that is not declared yet.

A made-up name may come about in more than one way, and then it is not clear
whose members are bound when it is. For a name that stands for one record only,
its typedef is never among the earlier ones when a typedef is taken from one of
its members. Members of the records that the library declares are not concerned.

What carries this is that a record is bound only after the types of its nameless
members are. It is an invariant of binding and not of the changes one by one,
since the members are bound in other changes than the record.

## Main definitions

* `MemberTypedef.IsOfMember`: A typedef is that of a nameless member.
* `Session.BindsNested`: The types of a record's nameless members are bound.
* `Session.InnermostFirst`: The typedefs of inner types come first.
* `IsSingle`: A key stands for one record.

## Theorems

* `bindMembers_nested`: Members are bound only with the types of nameless ones.
* `InnermostFirst.commit`: One more record is bound.
* `bindersWithin_order`: Resolving and binding, within any number of levels.
* `memberTypedefs_ordered`: The typedefs in a module.
* `nestedMembers_unordered`: A member of a member, whose typedef comes too early.
-/

namespace ScriptBind

open BindM

/-- The typedef that a piece of code is. -/
def Section.memberTypedef? : Section → Option MemberTypedef
  | .memberTypedef typedef => some typedef
  | _ => none

/-- The member typedefs in a body, in order. -/
def memberTypedefs (body : List Section) : List MemberTypedef :=
  body.filterMap Section.memberTypedef?

theorem memberTypedefs_append (front back : List Section) :
    memberTypedefs (front ++ back) = memberTypedefs front ++ memberTypedefs back :=
  List.filterMap_append

theorem mem_memberTypedefs {body : List Section} {typedef : MemberTypedef} :
    typedef ∈ memberTypedefs body ↔ .memberTypedef typedef ∈ body := by
  rw [memberTypedefs, List.mem_filterMap]
  constructor
  · rintro ⟨code, hc, he⟩
    cases code with
    | memberTypedef other =>
        obtain rfl := Option.some.inj he
        exact hc
    | _ => cases he
  · exact fun hm => ⟨_, hm, rfl⟩

theorem memberTypedefs_of_forall {body : List Section}
    (h : ∀ code ∈ body, code.isOfRecords = false) : memberTypedefs body = [] := by
  refine List.filterMap_eq_nil_iff.2 fun code hc => ?_
  have hspared := h code hc
  cases code with
  | memberTypedef typedef => cases hspared
  | _ => rfl

theorem memberTypedefs_committed (typedef : Option MemberTypedef) (members : BoundMembers) :
    memberTypedefs (Session.committed typedef members) = typedef.toList := by
  have hnotes : memberTypedefs ((members.dropped.map Prod.snd).map Section.note) = [] := by
    refine memberTypedefs_of_forall fun code hc => ?_
    obtain ⟨diagnostic, -, rfl⟩ := List.mem_map.1 hc
    rfl
  rw [Session.committed, memberTypedefs_append, memberTypedefs_append, hnotes]
  cases typedef <;> rfl

/-- A typedef is that of a nameless member of a record that binding can come
    to. -/
structure MemberTypedef.IsOfMember (library : Library) (typedef : MemberTypedef) : Prop where
  /-- The name is made from those of the record and the member. -/
  name : typedef.name = memberTypeName (bareTag typedef.owner) typedef.field
  /-- The record has such a member. -/
  member : ∃ record field inner, Bindable library typedef.owner record ∧
    field ∈ record.flattened ∧ field.name = typedef.field ∧ field.name ≠ "" ∧
    field.type = .anonymous inner

/-- A typedef goes with a key: it names a member's type by it. -/
def MemberTypedef.GoesWith (library : Library) (typedef : Option MemberTypedef) (key : String) :
    Prop :=
  ∀ found, typedef = some found → found.IsOfMember library ∧ found.name = key

/-- A key stands for one record. -/
def IsSingle (library : Library) (key : String) : Prop :=
  ∀ record other, Bindable library key record → Bindable library key other → record = other

namespace Session

/-- The types of the nameless members among some members of a record are
    bound. -/
def BindsNested (session : Session) (key : String) (fields : List Field) : Prop :=
  ∀ field ∈ fields, ∀ inner, field.name ≠ "" → field.type = .anonymous inner →
    (session.boundStruct? (memberTypeName (bareTag key) field.name)).isSome

/-- Typedefs are those of members, and the typedef of an inner type comes before
    that of the outer one. -/
structure InnermostFirst (library : Library) (session : Session) : Prop where
  /-- A typedef in the code is that of a member. -/
  origin : ∀ typedef ∈ memberTypedefs session.body, typedef.IsOfMember library
  /-- What it names is bound. -/
  bound : ∀ typedef ∈ memberTypedefs session.body, (session.boundStruct? typedef.name).isSome
  /-- The typedef of a record put off goes with the record. -/
  deferred : ∀ row ∈ session.deferred.rows, MemberTypedef.GoesWith library row.2.typedef row.1
  /-- A record is bound with the types of its nameless members. -/
  nested : ∀ key, (session.boundStruct? key).isSome →
    ∃ record, Bindable library key record ∧ session.BindsNested key record.flattened
  /-- No typedef comes after that of its owner. -/
  order : (memberTypedefs session.body).Pairwise fun earlier later =>
    IsSingle library later.owner → earlier.name ≠ later.owner

/-- The order of typedefs is kept. -/
def KeepsOrder (library : Library) (session session' : Session) : Prop :=
  session.InnermostFirst library → session'.InnermostFirst library

instance (library : Library) : IsPreorder Session (KeepsOrder library) where
  refl := fun _ h => h
  trans := fun _ _ _ h h' hs => h' (h hs)

variable {library : Library} {session session' : Session}

/-- Bound records stay bound. -/
theorem isSome_boundStruct?_of_rows (h : session.structs.rows <+: session'.structs.rows)
    {key : String}
    (hk : (session.boundStruct? key).isSome) : (session'.boundStruct? key).isSome := by
  obtain ⟨bound, hb⟩ := Option.isSome_iff_exists.1 hk
  have hlater := Table.get?_of_initial h (get?_of_boundStruct? hb)
  exact Option.isSome_iff_exists.2 ⟨bound, boundStruct?_of_get? hlater⟩

theorem BindsNested.mono {key : String} {fields : List Field} (h : session.BindsNested key fields)
    (hs : session.structs.rows <+: session'.structs.rows) : session'.BindsNested key fields :=
  fun field hf inner hne ht => isSome_boundStruct?_of_rows hs (h field hf inner hne ht)

theorem innermostFirst_start (naming : Naming) : (start naming).InnermostFirst library where
  origin := fun _ hm => by cases hm
  bound := fun _ hm => by cases hm
  deferred := fun _ hm => by cases hm
  nested := fun key hk => by cases hk
  order := .nil

/-- A change that does not touch the outcomes of records, and writes no code of
    them. -/
theorem InnermostFirst.of_body (h : session.InnermostFirst library)
    (hs : session'.structs = session.structs)
    (hd : ∀ row ∈ session'.deferred.rows, MemberTypedef.GoesWith library row.2.typedef row.1)
    (hb : memberTypedefs session'.body = memberTypedefs session.body) :
    session'.InnermostFirst library := by
  have hbound : ∀ key, session'.boundStruct? key = session.boundStruct? key := by
    intro key
    rw [boundStruct?, boundStruct?, hs]
  refine ⟨?_, ?_, hd, fun key hk => ?_, ?_⟩
  · rw [hb]
    exact h.origin
  · intro typedef hm
    rw [hb] at hm
    rw [hbound]
    exact h.bound typedef hm
  · rw [hbound] at hk
    obtain ⟨record, hr, hnested⟩ := h.nested key hk
    refine ⟨record, hr, fun field hf inner hne ht => ?_⟩
    rw [hbound]
    exact hnested field hf inner hne ht
  · rw [hb]
    exact h.order

theorem InnermostFirst.of_spares (h : session.InnermostFirst library)
    (hs : session.SparesRecords session') : session'.InnermostFirst library := by
  obtain ⟨hstructs, hdeferred, added, hb, hadded⟩ := hs
  refine h.of_body hstructs (by rw [hdeferred]; exact h.deferred) ?_
  rw [hb, memberTypedefs_append, memberTypedefs_of_forall hadded, List.append_nil]

/-- A record is put off with its typedef. -/
theorem InnermostFirst.defer (h : session.InnermostFirst library) {key : String}
    {deferred : DeferredStruct} (ht : MemberTypedef.GoesWith library deferred.typedef key) :
    (session.defer key deferred).InnermostFirst library := by
  refine h.of_body rfl (fun row hm => ?_) rfl
  rw [Session.defer, Table.add_rows] at hm
  rcases List.mem_append.1 hm with hm | hm
  · exact h.deferred row hm
  · split at hm
    · cases hm
    · rw [List.mem_singleton.1 hm]
      exact ht

theorem InnermostFirst.takeDeferred (h : session.InnermostFirst library) (key : String) :
    (session.takeDeferred key).InnermostFirst library :=
  h.of_body rfl (fun row hm => h.deferred row (List.mem_filter.1 hm).1) rfl

/-- A record that fails is not bound, and neither is anything else. -/
theorem InnermostFirst.fail (h : session.InnermostFirst library) {key : String}
    (hn : session.structs.get? key = none) (error : BindError) :
    ((session.settleStruct key (.failed error)).reject
      (structDiagnostic key error)).InnermostFirst library := by
  let failed := (session.settleStruct key (.failed error)).reject (structDiagnostic key error)
  have hrows : session.structs.rows <+: failed.structs.rows := by
    show _ <+: (session.structs.set key (.failed error)).rows
    rw [Table.set_rows_of_fresh hn]
    exact List.prefix_append ..
  have hbody : memberTypedefs failed.body = memberTypedefs session.body := by
    show memberTypedefs (session.body ++ [_]) = _
    rw [memberTypedefs_append]
    exact List.append_nil _
  have hbefore : ∀ other, (failed.boundStruct? other).isSome →
      (session.boundStruct? other).isSome := by
    intro other ho
    by_cases he : key = other
    · subst he
      have hsettled : failed.structs.get? key = some (.failed error) :=
        session.get?_settleStruct key (.failed error)
      rw [boundStruct?, hsettled] at ho
      cases ho
    · have hother : failed.boundStruct? other = session.boundStruct? other :=
        session.boundStruct?_settleStruct_of_ne he (.failed error)
      rwa [hother] at ho
  exact
    { origin := by rw [hbody]; exact h.origin
      bound := by
        rw [hbody]
        exact fun typedef hm => isSome_boundStruct?_of_rows hrows (h.bound typedef hm)
      deferred := h.deferred
      nested := fun other ho => by
        obtain ⟨record, hr, hnested⟩ := h.nested other (hbefore other ho)
        exact ⟨record, hr, hnested.mono hrows⟩
      order := by rw [hbody]; exact h.order }

/-- One more record is bound, after the types of its nameless members. Its
    typedef comes last. If that of its owner were there, the owner would be bound
    and so would the record itself. -/
theorem InnermostFirst.commit (h : session.InnermostFirst library) {members : BoundMembers}
    {record : Record} (hr : Bindable library members.key record)
    (hnested : session.BindsNested members.key record.flattened)
    (hn : session.structs.get? members.key = none) {typedef : Option MemberTypedef}
    (ht : MemberTypedef.GoesWith library typedef members.key) :
    (session.commit typedef members).InnermostFirst library := by
  have hbody : memberTypedefs (session.commit typedef members).body =
      memberTypedefs session.body ++ typedef.toList := by
    rw [commit_eq, memberTypedefs_append, memberTypedefs_committed]
  have hrows : session.structs.rows <+: (session.commit typedef members).structs.rows := by
    rw [commit_eq, Table.set_rows_of_fresh hn]
    exact List.prefix_append ..
  have hself : ((session.commit typedef members).boundStruct? members.key).isSome := by
    rw [boundStruct?_commit]
    rfl
  refine ⟨fun found hm => ?_, fun found hm => ?_, ?_, fun key hk => ?_, ?_⟩
  · rw [hbody, List.mem_append, Option.mem_toList] at hm
    exact hm.elim (h.origin found) fun hf => (ht found hf).1
  · rw [hbody, List.mem_append, Option.mem_toList] at hm
    rcases hm with hm | hf
    · exact isSome_boundStruct?_of_rows hrows (h.bound found hm)
    · rw [(ht found hf).2]
      exact hself
  · rw [commit_eq]
    exact h.deferred
  · by_cases he : members.key = key
    · exact ⟨record, he ▸ hr, he ▸ hnested.mono hrows⟩
    · rw [boundStruct?, commit_eq, Table.get?_set, if_neg he] at hk
      obtain ⟨other, ho, hothers⟩ := h.nested key hk
      exact ⟨other, ho, hothers.mono hrows⟩
  · rw [hbody]
    refine List.pairwise_append.2 ⟨h.order, ?_, fun earlier he later hl hsingle hname => ?_⟩
    · cases typedef <;> simp
    · obtain ⟨horigin, hkey⟩ := ht later (Option.mem_toList.1 hl)
      obtain ⟨owner, field, inner, howner, hf, hfield, hne, htype⟩ := horigin.member
      obtain ⟨other, ho, hothers⟩ := h.nested later.owner (hname ▸ h.bound earlier he)
      -- The owner is bound, so the member's type is, which is the record at hand.
      obtain rfl := hsingle _ _ howner ho
      have hbound := hothers field hf inner hne htype
      rw [hfield, ← horigin.name, hkey, boundStruct?, hn] at hbound
      cases hbound

end Session

variable {library : Library} {binders : Binders}

section Nested

variable (hgrow : binders.Grow library)

include hgrow

/-- A nameless member that is bound has its type bound. -/
theorem bindNameless_nested (owner key place : String) (field : Field) (inner : Record)
    (session : Session) :
    Ensures True library (bindNameless binders owner key place field inner) session
      fun result session' => ∀ access, result = .ok access →
        (session'.boundStruct? (memberTypeName owner field.name)).isSome := by
  rw [bindNameless, ensures_bind, ensures_within]
  refine (hgrow.verdict _ _ _ session).mono fun result session' hverdict => ?_
  cases result with
  | error error =>
      intro access ha
      cases ha
  | ok bound =>
      rw [mapError_ok]
      dsimp only
      rw [ensures_bind, ensures_look]
      dsimp only
      split
      · exact ensures_ofExcept.2 fun _ _ => hverdict.symm
      · exact ensures_fail.2 fun _ _ => hverdict.symm

theorem bindMember_nested (key : String) (record : Record) (field : Field) (session : Session) :
    Ensures True library (bindMember binders (bareTag key) key record field) session
      fun result session' => ∀ outcome, result = .ok outcome →
      session'.BindsNested key [field] := by
  by_cases hinner : ∃ inner, field.type = .anonymous inner
  · obtain ⟨inner, ht⟩ := hinner
    unfold bindMember
    dsimp only
    split
    · next hname =>
        refine ensures_pure.2 fun outcome _ other ho inner' hne => ?_
        rw [List.mem_singleton.1 ho] at hne
        exact absurd hname hne
    · rw [ensures_bind, ensures_look]
      have hnone : library.decls.functionPointer field.type = none := by rw [ht]; rfl
      rw [hnone, ht]
      dsimp only
      rw [ensures_bind]
      refine (bindNameless_nested hgrow (bareTag key) key _ field inner session).mono
        fun result session' hbound => ?_
      cases result with
      | error error =>
          intro outcome ho
          cases ho
      | ok access =>
          refine ensures_pure.2 fun outcome _ other ho inner' _ _ => ?_
          rw [List.mem_singleton.1 ho]
          exact hbound access rfl
  · refine ensures_of_forall (fun _ _ _ _ other ho inner _ ht => ?_) trivial
    rw [List.mem_singleton.1 ho] at ht
    exact absurd ⟨inner, ht⟩ hinner

/-- Members are bound only with the types of the nameless ones among them. -/
theorem bindMembers_nested (key : String) (record : Record) (fields : List Field)
    (session : Session) :
    Ensures True library (bindMembers binders (bareTag key) key record fields) session
      fun result session' => ∀ outcomes, result = .ok outcomes →
        session'.BindsNested key fields := by
  induction fields generalizing session with
  | nil =>
      refine ensures_pure.2 fun _ _ field hf => ?_
      cases hf
  | cons field rest ih =>
      rw [bindMembers, ensures_bind]
      refine (bindMember_nested hgrow key record field session).mono
        fun result session' hfirst => ?_
      cases result with
      | error error =>
          intro outcomes ho
          cases ho
      | ok outcome =>
          dsimp only
          rw [ensures_bind]
          -- What is bound for the first member stays bound for the others.
          have hrest := bindMembers_grows hgrow (bareTag key) key record rest session'
          refine ((ih session').and hrest).mono fun result session'' hall => ?_
          obtain ⟨hothers, hg⟩ := hall
          cases result with
          | error error =>
              intro outcomes ho
              cases ho
          | ok outcomes =>
              refine ensures_pure.2 fun _ _ other ho => ?_
              rcases List.mem_cons.1 ho with rfl | hm
              · exact (hfirst outcome rfl).mono hg.structs _ (List.mem_singleton_self _)
              · exact hothers outcomes rfl _ hm

theorem bindRecord_nested (key : String) (record : Record) (session : Session) :
    Ensures True library (bindRecord binders key record) session
      fun result session' => ∀ members, result = .ok members →
        session'.BindsNested key record.flattened := by
  rw [bindRecord, ensures_bind]
  refine (bindMembers_nested hgrow key record record.flattened session).mono
    fun result session' hnested => ?_
  cases result with
  | error error =>
      intro members hm
      cases hm
  | ok outcomes => exact ensures_pure.2 fun _ _ => hnested outcomes rfl

end Nested

/-- A session within the scope of what binding can come to, whose typedefs are in
    order. -/
structure Session.Orderly (library : Library) (session : Session) : Prop where
  /-- What is kept for later is in the scope. -/
  within : session.Within (Scope.bindable library)
  /-- The typedefs are in order. -/
  innermost : session.InnermostFirst library

/-- What a computation does to orderly sessions, if it consists of changes. -/
theorem guarded_of_orderly {α : Type} {action : BindM α}
    (hchanges : Keeps library ((Scope.bindable library).Guarded
      (Session.Evolves (Scope.bindable library))) action)
    (h : ∀ session, session.Orderly library →
      Ensures True library action session fun _ session' => session'.Orderly library) :
    Keeps library ((Scope.bindable library).Guarded (Session.KeepsOrder library)) action := by
  intro session
  by_cases ho : session.Orderly library
  · exact (h session ho).mono fun _ _ ho' _ => ⟨ho'.within, fun _ => ho'.innermost⟩
  · exact (hchanges session).mono fun _ _ hg hw => ⟨(hg hw).1, fun hi => absurd ⟨hw, hi⟩ ho⟩

/-- Ways to resolve and bind that keep the order of typedefs, if the typedef that
    goes with a record is its own. -/
structure Binders.Order (library : Library) (binders : Binders) : Prop where
  /-- They consist of changes. -/
  changes : binders.Keep (Scope.bindable library)
    ((Scope.bindable library).Guarded (Session.Evolves (Scope.bindable library)))
  /-- Resolving a type. -/
  resolve : ∀ links type session, session.Orderly library →
    Ensures True library (binders.resolve links type) session
      fun _ session' => session'.Orderly library
  /-- Binding a record. -/
  bind : ∀ key record typedef session, Bindable library key record →
    MemberTypedef.GoesWith library typedef key → session.Orderly library →
    Ensures True library (binders.bind key record typedef) session
      fun _ session' => session'.Orderly library

/-- The typedef of a nameless member is its own. -/
theorem Binders.Order.parts (h : binders.Order library) :
    binders.KeepParts (Scope.bindable library)
      ((Scope.bindable library).Guarded (Session.KeepsOrder library)) where
  resolve := fun links type ht =>
    guarded_of_orderly (h.changes.resolve links type ht) (h.resolve links type)
  named := fun key record hr =>
    guarded_of_orderly (h.changes.bind key record none hr) fun session ho =>
      h.bind key record none session hr (fun _ he => by cases he) ho
  nested := fun {_ record inner field} hr hf hne ht => by
    refine guarded_of_orderly (h.changes.parts.nested hr hf hne ht) fun session ho =>
      h.bind _ _ _ session (.nested hr hf hne ht) (fun found he => ?_) ho
    obtain rfl := Option.some.inj he
    exact ⟨⟨rfl, record, field, inner, hr, hf, rfl, hne, ht⟩, rfl⟩
  verdict := h.changes.verdict

section Binding

variable (h : binders.Order library)

include h

/-- A record is entered, its members are bound with the types of the nameless
    ones, and it is left and concluded. -/
theorem bindFresh_order (hgrow : binders.Grow library) {key : String} {deferred : DeferredStruct}
    (hr : Bindable library key deferred.record)
    (ht : MemberTypedef.GoesWith library deferred.typedef key) {session : Session}
    (hs : session.Orderly library) (hk : key ∉ session.inProgress)
    (hn : session.structs.get? key = none) :
    Ensures True library (bindFresh binders key deferred) session
      fun _ session' => session'.Orderly library := by
  have hentered : session.Change (Scope.bindable library) (session.enter key) := .enter hk hn
  have hrecord : (Scope.bindable library).records key deferred.record := hr
  have hfailed : ∀ (session : Session) (id : String) (error : BindError),
      Session.KeepsOrder library session (session.settleCallback id (.failed error)) :=
    fun _ _ _ hs' => hs'.of_spares (.of_eq rfl rfl rfl)
  have hmade := bindRecord_brings hfailed h.parts hrecord (session.enter key)
    (hentered.within hs.within)
  simp only [bindFresh, ensures_bind, ensures_look, ensures_update, ensures_attempt]
  refine ((hmade.and (bindRecord_grows hgrow key deferred.record _)).and
    (bindRecord_nested hgrow key deferred.record _)).mono fun result session' hall => ?_
  obtain ⟨⟨⟨⟨hw, hordered⟩, hmembers⟩, hg⟩, hnested⟩ := hall
  have hwleft : (session'.leave key).Within (Scope.bindable library) :=
    (Session.Change.leave session' key).within hw
  have hleft : (session'.leave key).InnermostFirst library :=
    (hordered (hs.innermost.of_spares (.of_eq rfl rfl rfl))).of_spares (.of_eq rfl rfl rfl)
  have hn' := Session.get?_leave hk hn hg
  cases result with
  | ok members =>
      simp only [ensures_bind, ensures_update, ensures_pure]
      obtain ⟨rfl, hm⟩ := hmembers members rfl
      exact ⟨(Session.Change.commit deferred.typedef hm hn').within hwleft,
        hleft.commit hr (hnested members rfl) hn' ht⟩
  | error error =>
      simp only [ensures_bind, ensures_update, ensures_pure]
      rw [Session.conclude]
      split
      · exact ⟨(Session.Change.defer hrecord hn').within hwleft, hleft.defer ht⟩
      · exact ⟨(Session.Change.fail error hrecord hn').within hwleft, hleft.fail hn' error⟩

/-- What was put off is bound once more, with the typedef that it was put off
    with. -/
theorem retryDeferred_order (rounds : Nat) {session : Session} (hs : session.Orderly library) :
    Ensures True library (retryDeferred binders rounds) session
      fun _ session' => session'.Orderly library := by
  induction rounds generalizing session with
  | zero => trivial
  | succ rounds ih =>
      rw [retryDeferred, ensures_bind, ensures_look]
      dsimp only
      split
      · exact ensures_pure.2 hs
      · next key deferred hhead =>
          have hrow : (key, deferred) ∈ session.deferred.rows := List.mem_of_mem_head? hhead
          have htaken : (session.takeDeferred key).Orderly library :=
            ⟨(Session.Change.takeDeferred session key).within hs.within,
              hs.innermost.takeDeferred key⟩
          simp only [ensures_bind, ensures_update, ensures_attempt]
          exact (h.bind key deferred.record deferred.typedef _ (hs.within.deferred _ hrow)
            (hs.innermost.deferred _ hrow) htaken).mono fun _ _ hs' => ih hs'

/-- Binding a record with its own typedef keeps the order. -/
theorem bindStep_order (hgrow : binders.Grow library) (rounds : Nat) {key : String}
    {record : Record} (hr : Bindable library key record) {typedef : Option MemberTypedef}
    (ht : MemberTypedef.GoesWith library typedef key) {session : Session}
    (hs : session.Orderly library) :
    Ensures True library (bindStep rounds binders key record typedef) session
      fun _ session' => session'.Orderly library := by
  rw [bindStep, ensures_bind, ensures_look]
  dsimp only
  split
  · exact ensures_pure.2 hs
  · exact ensures_fail.2 hs
  · rw [ensures_bind, ensures_update]
    exact ensures_fail.2
      ⟨(Session.Change.meet session).within hs.within, hs.innermost.of_spares (.of_eq rfl rfl rfl)⟩
  · next hlook =>
      rw [Prod.mk.injEq] at hlook
      have hk : key ∉ session.inProgress := by simpa using hlook.2
      have hfresh : Ensures True library (bindFresh binders key ⟨record, typedef⟩) session
          fun _ session' => session'.Orderly library := bindFresh_order h hgrow hr ht hs hk hlook.1
      rw [ensures_bind]
      refine hfresh.mono fun result session' hs' => ?_
      cases result with
      | error error => exact hs'
      | ok result =>
          dsimp only
          rw [ensures_bind, ensures_look]
          dsimp only
          split
          · rw [ensures_bind]
            refine (retryDeferred_order h rounds hs').mono fun answer session'' hs'' => ?_
            cases answer with
            | error error => exact hs''
            | ok _ =>
                dsimp only
                rw [ensures_bind, ensures_look]
                dsimp only
                split
                · exact ensures_pure.2 hs''
                · exact ensures_ofExcept.2 hs''
          · exact ensures_ofExcept.2 hs'

end Binding

/-- Resolving by itself leaves the order of typedefs alone. -/
theorem Session.keepsOrder_of_addition {scope : Scope library} {session session' : Session}
    (h : session.Addition scope session') : session.KeepsOrder library session' :=
  fun hs => hs.of_spares h.sparesRecords

/-- Any number of levels keeps the order. -/
theorem bindersWithin_order (levels : Nat) : (bindersWithin levels).Order library := by
  have hallows : Session.Allows (Scope.bindable library)
      ((Scope.bindable library).Guarded (Session.KeepsOrder library)) :=
    Session.allows_of_additions fun ha _ => Session.keepsOrder_of_addition ha
  have hchanges : ∀ levels, (bindersWithin levels).Keep (Scope.bindable library)
      ((Scope.bindable library).Guarded (Session.Evolves (Scope.bindable library))) :=
    bindersWithin_keep (Session.allows_of_additions fun ha _ => (Session.Change.add ha).evolves)
      (Session.evolves_allowsBinding _)
  induction levels with
  | zero => exact ⟨hchanges 0, fun _ _ _ _ => trivial, fun _ _ _ _ _ _ _ => trivial⟩
  | succ levels ih =>
      refine ⟨hchanges (levels + 1), fun links type session hs => ?_,
        fun key record typedef session hr ht hs => ?_⟩
      · have htype : (Scope.bindable library).types type := trivial
        refine (resolveStep_keeps hallows ih.parts links htype session).mono fun _ _ hg => ?_
        obtain ⟨hw, hordered⟩ := hg hs.within
        exact ⟨hw, hordered hs.innermost⟩
      · exact bindStep_order ih (bindersWithin_grow levels) levels hr ht hs

/-- The order of typedefs goes through binding. -/
theorem keepsOrder_carries (library : Library) :
    (Scope.bindable library).Carries (Session.KeepsOrder library) :=
  .of_allows
    (Session.allows_of_additions fun ha _ => Session.keepsOrder_of_addition ha).toAllowsLearning
    (fun ha _ => Session.keepsOrder_of_addition ha) fun levels => (bindersWithin_order levels).parts

/-- A typedef in a module is that of a nameless member of a record of the library
    or of a type that is nameless itself. If the name of its owner stands for one
    record, that name is not declared earlier by a typedef: of nested types the
    inner one comes first, whatever has failed or was put off. -/
theorem memberTypedefs_ordered (decls : Declarations) (options : Options)
    {front back : List Section} {typedef : MemberTypedef}
    (h : (assemble decls options).body = front ++ .memberTypedef typedef :: back) :
    typedef.IsOfMember (libraryOf decls options) ∧
      (IsSingle (libraryOf decls options) typedef.owner →
        ∀ earlier, .memberTypedef earlier ∈ front → earlier.name ≠ typedef.owner) := by
  have hordered := ((keepsOrder_carries (libraryOf decls options)).sessionAtEnd
    (fun _ _ => ⟨trivial, fun _ _ => trivial⟩) fun _ _ => trivial).2
    (Session.innermostFirst_start options.naming)
  rw [body_assemble] at h
  have hbody : memberTypedefs (sessionAtEnd decls options).body =
      memberTypedefs front ++ typedef :: memberTypedefs back := by
    rw [h, memberTypedefs_append]
    rfl
  refine ⟨hordered.origin typedef ?_, fun hsingle earlier he => ?_⟩
  · rw [hbody]
    exact List.mem_append_right _ (List.mem_cons_self ..)
  · have horder := hordered.order
    rw [hbody, List.pairwise_append] at horder
    exact horder.2.2 earlier (mem_memberTypedefs.2 he) typedef (List.mem_cons_self ..) hsingle

/-- The type of a member of a member. -/
def innerMember : Record := ⟨"", .struct, [⟨"x", .builtin "int", none⟩]⟩

/-- The type of a member. -/
def outerMember : Record := ⟨"", .struct, [⟨"b", .anonymous innerMember, none⟩]⟩

/-- A record with a nameless member that has a nameless member itself. -/
def nestingRecord : Record := ⟨"K", .struct, [⟨"a", .anonymous outerMember, none⟩]⟩

/-- A library that declares it. -/
def nestedMembers : Declarations where
  records := .ofRows [("K", nestingRecord)]
  functions := [⟨"f", .void, [⟨"k", .pointerTo (.named "K")⟩], false⟩]

/-- The typedef of the inner type, which is taken from the outer one. -/
def innerTypedef : MemberTypedef := ⟨"K_a_t", "b", "K_a_b_t"⟩

/-- The records that binding can come to, and their keys. -/
theorem nestedMembers_bindable {key : String} {record : Record}
    (h : Bindable (libraryOf nestedMembers { moduleName := "m" }) key record) :
    (key = "K" ∧ record = nestingRecord) ∨
      (key = pointerCell.name ∧ record = pointerCell) ∨
      (key = "K_a_t" ∧ record = { outerMember with name := "K_a_t" }) ∨
      (key = "K_a_b_t" ∧ record = { innerMember with name := "K_a_b_t" }) := by
  induction h with
  | @declared key record hr =>
      have hfound : (if "K" = key then some nestingRecord else none) = some record := hr
      split at hfound
      · next he => exact .inl ⟨he.symm, (Option.some.inj hfound).symm⟩
      · cases hfound
  | cell => exact .inr (.inl ⟨rfl, rfl⟩)
  | @nested key record inner field _ hf _ ht ih =>
      rcases ih with ⟨rfl, rfl⟩ | ⟨rfl, rfl⟩ | ⟨rfl, rfl⟩ | ⟨rfl, rfl⟩
      · obtain rfl := List.mem_singleton.1 hf
        obtain rfl := CType.anonymous.inj ht
        have hname : memberTypeName (bareTag "K") "a" = "K_a_t" := by decide
        exact .inr (.inr (.inl ⟨hname, by rw [hname]; rfl⟩))
      · -- The members of the cell have types with names.
        have hmembers : ∀ field ∈ pointerCell.flattened, field.type ≠ .anonymous inner := by
          intro field hfield he
          rcases List.mem_cons.1 hfield with rfl | hfield
          · cases he
          rcases List.mem_cons.1 hfield with rfl | hfield
          · cases he
          obtain rfl := List.mem_singleton.1 hfield
          cases he
        exact absurd ht (hmembers _ hf)
      · obtain rfl := List.mem_singleton.1 hf
        obtain rfl := CType.anonymous.inj ht
        have hname : memberTypeName (bareTag "K_a_t") "b" = "K_a_b_t" := by decide
        exact .inr (.inr (.inr ⟨hname, by rw [hname]; rfl⟩))
      · obtain rfl := List.mem_singleton.1 hf
        cases ht

theorem nestedMembers_single :
    IsSingle (libraryOf nestedMembers { moduleName := "m" }) "K_a_t" := by
  intro record other hr ho
  rcases nestedMembers_bindable hr with ⟨he, -⟩ | ⟨he, -⟩ | ⟨-, rfl⟩ | ⟨he, -⟩
  · exact absurd he (by decide)
  · exact absurd he (by decide)
  · rcases nestedMembers_bindable ho with ⟨he, -⟩ | ⟨he, -⟩ | ⟨-, rfl⟩ | ⟨he, -⟩
    · exact absurd he (by decide)
    · exact absurd he (by decide)
    · rfl
    · exact absurd he (by decide)
  · exact absurd he (by decide)

set_option maxRecDepth 100000 in
/-- The typedefs in the module: the inner one comes first. -/
theorem memberTypedefs_nestedMembers :
    memberTypedefs (assemble nestedMembers { moduleName := "m" }).body =
      [⟨"K_a_t", "b", "K_a_b_t"⟩, ⟨"K", "a", "K_a_t"⟩] := by
  decide +kernel

/-- The code before the first typedef has none. -/
theorem exists_front_nestedMembers :
    ∃ front back, (assemble nestedMembers { moduleName := "m" }).body =
        front ++ .memberTypedef innerTypedef :: back ∧
      memberTypedefs front = [] := by
  obtain ⟨front, code, back, hbody, hfront, hcode, -⟩ :=
    List.filterMap_eq_cons_iff.1 memberTypedefs_nestedMembers
  refine ⟨front, back, ?_, List.filterMap_eq_nil_iff.2 hfront⟩
  cases code with
  | memberTypedef typedef =>
      obtain rfl := Option.some.inj hcode
      exact hbody
  | _ => cases hcode

/-- Where the typedef of the inner type is taken from the outer one, no typedef
    has declared the outer one. -/
theorem nestedMembers_innermost :
    ∃ front back, (assemble nestedMembers { moduleName := "m" }).body =
        front ++ .memberTypedef innerTypedef :: back ∧
      ∀ earlier, .memberTypedef earlier ∈ front → earlier.name ≠ "K_a_t" := by
  obtain ⟨front, back, hbody, -⟩ := exists_front_nestedMembers
  exact ⟨front, back, hbody,
    (memberTypedefs_ordered nestedMembers { moduleName := "m" } hbody).2 nestedMembers_single⟩

/-- So typedefs are not always taken from types that are declared. -/
theorem nestedMembers_unordered :
    ¬ ∀ (decls : Declarations) (options : Options) (front back : List Section)
        (typedef : MemberTypedef),
      (assemble decls options).body = front ++ .memberTypedef typedef :: back →
      decls.records.contains typedef.owner ∨
        ∃ earlier, .memberTypedef earlier ∈ front ∧ earlier.name = typedef.owner := by
  intro hall
  obtain ⟨front, back, hbody, hnone⟩ := exists_front_nestedMembers
  rcases hall _ _ front back _ hbody with hrecord | ⟨earlier, he, -⟩
  · exact absurd hrecord (by decide)
  · rw [← mem_memberTypedefs, hnone] at he
    cases he

end ScriptBind
