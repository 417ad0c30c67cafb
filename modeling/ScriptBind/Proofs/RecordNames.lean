import Mathlib.Data.List.Nodup
import ScriptBind.Proofs.CNames

/-!
# What Bound Records Are Called

A record is bound under a key and its code is named after the key without the
keyword. The key is what a record is remembered by, so no key is bound twice,
but two keys may differ in their keyword alone. C has one name space for tags
and another for typedefs and allows that. The identifiers in the code are then
the same.

The accessors in a module follow the bound records one by one, under the
identifiers that the keys give. An identifier is therefore defined as often as
there are bound records among the three that it can come from: the typedef, the
struct and the union of that name. A name made up for the type of a member is
that of a typedef here.

## Main definitions

* `Section.isOfRecords`: The kinds of section that binding a record writes.
* `Session.boundKeys`: The keys of the bound records.
* `Session.Names`: The accessors and the bound records go by the keys.

## Theorems

* `Addition.sparesRecords`: What is added outside the binding of a record leaves
  the records alone.
* `bareTag_eq_iff`: The three keys that an identifier can come from.
* `accessors_named`: The identifiers in a module, and how often there is each.
* `homonymousRecords_collide`: A typedef and a struct of one name.
-/

namespace ScriptBind

/-- The kinds of section that the binding of a record writes. -/
def Section.isOfRecords : Section → Bool
  | .memberTypedef _ => true
  | .accessor _ => true
  | _ => false

/-- The accessor that a piece of code is. -/
def Section.accessor? : Section → Option Accessor
  | .accessor code => some code
  | _ => none

theorem Section.isOfRecords_of_isOfModule {code : Section} (h : code.isOfModule) :
    code.isOfRecords = false := by
  cases code with
  | accessor code => cases h
  | memberTypedef typedef => cases h
  | _ => rfl

theorem Section.accessor?_of_isOfRecords {code : Section} (h : code.isOfRecords = false) :
    code.accessor? = none := by
  cases code with
  | accessor code => cases h
  | _ => rfl

/-- The identifiers in the accessors of a body. -/
def accessorNames (body : List Section) : List String :=
  (body.filterMap Section.accessor?).map Accessor.name

theorem accessorNames_append (front back : List Section) :
    accessorNames (front ++ back) = accessorNames front ++ accessorNames back := by
  simp [accessorNames, List.filterMap_append]

theorem accessorNames_of_forall {body : List Section}
    (h : ∀ code ∈ body, code.isOfRecords = false) : accessorNames body = [] := by
  rw [accessorNames, List.filterMap_eq_nil_iff.2 fun code hc =>
    Section.accessor?_of_isOfRecords (h code hc), List.map_nil]

/-- The key of a row if its record is bound. -/
def boundKey? : String × StructOutcome → Option String
  | (key, .done _) => some key
  | (_, .failed _) => none

namespace Session

/-- The keys of the bound records, in order of completion. -/
def boundKeys (session : Session) : List String := session.structs.rows.filterMap boundKey?

/-- What happens to a session and leaves the records alone: none is concluded,
    put off or taken up again, and no code of one is written. -/
structure SparesRecords (session session' : Session) : Prop where
  /-- The outcomes of records. -/
  structs : session'.structs = session.structs
  /-- The records put off. -/
  deferred : session'.deferred = session.deferred
  /-- The code that is written is not that of a record. -/
  body : ∃ added, session'.body = session.body ++ added ∧ ∀ code ∈ added, code.isOfRecords = false

variable {library : Library} {scope : Scope library} {session session' : Session}

theorem SparesRecords.of_eq (hs : session'.structs = session.structs)
    (hd : session'.deferred = session.deferred) (hb : session'.body = session.body) :
    session.SparesRecords session' := by
  refine ⟨hs, hd, [], ?_, fun code hc => ?_⟩
  · rw [hb, List.append_nil]
  · cases hc

theorem SparesRecords.of_section {c : Section} (hs : session'.structs = session.structs)
    (hd : session'.deferred = session.deferred) (hb : session'.body = session.body ++ [c])
    (hc : c.isOfRecords = false) : session.SparesRecords session' := by
  refine ⟨hs, hd, [c], hb, fun other ho => ?_⟩
  rw [List.mem_singleton.1 ho]
  exact hc

/-- What is added outside the binding of a record leaves the records alone. -/
theorem Addition.sparesRecords (h : session.Addition scope session') :
    session.SparesRecords session' := by
  cases h with
  | learn => exact .of_eq rfl rfl rfl
  | @typedef name underlying conversion =>
      obtain ⟨registry, aliases, he⟩ :=
        (session.addConversion name conversion).shareWithAlias_eq name underlying.spelling
      rw [he]
      exact .of_eq rfl rfl rfl
  | array converter => exact .of_section (c := .arrayConverter converter) rfl rfl rfl rfl
  | settleFailed => exact .of_eq rfl rfl rfl
  | @write trampoline => exact .of_section (c := .trampoline trampoline) rfl rfl rfl rfl
  | stub callback => exact .of_section (c := .stub callback) rfl rfl rfl rfl
  | wrap wrapper => exact .of_section (c := .wrapper wrapper) rfl rfl rfl rfl
  | emit hm => exact .of_section rfl rfl rfl (Section.isOfRecords_of_isOfModule hm)
  | @reject diagnostic => exact .of_section (c := .note diagnostic) rfl rfl rfl rfl

/-- The keys of the bound records after one more record has been concluded. -/
theorem boundKeys_settleStruct {key : String} (hn : session.structs.get? key = none)
    (outcome : StructOutcome) :
    (session.settleStruct key outcome).boundKeys =
      session.boundKeys ++ (boundKey? (key, outcome)).toList := by
  rw [boundKeys, settleStruct, Table.set_rows_of_fresh hn, List.filterMap_append]
  cases outcome <;> rfl

theorem mem_boundKeys_iff {key : String} :
    key ∈ session.boundKeys ↔ (session.boundStruct? key).isSome := by
  rw [boundKeys, List.mem_filterMap, Option.isSome_iff_exists]
  constructor
  · rintro ⟨⟨other, outcome⟩, hrow, he⟩
    cases outcome with
    | failed error => cases he
    | done bound =>
        obtain rfl := Option.some.inj he
        exact ⟨bound, boundStruct?_of_get? (Table.get?_of_mem hrow)⟩
  · rintro ⟨bound, hb⟩
    exact ⟨_, Table.mem_of_get? (get?_of_boundStruct? hb), rfl⟩

/-- No key is bound twice. -/
theorem nodup_boundKeys (session : Session) : session.boundKeys.Nodup := by
  have hsub : ∀ rows : List (String × StructOutcome),
      (rows.filterMap boundKey?).Sublist (rows.map Prod.fst) := by
    intro rows
    induction rows with
    | nil => exact .slnil
    | cons row rest ih =>
        obtain ⟨key, outcome⟩ := row
        cases outcome with
        | done bound => exact ih.cons_cons key
        | failed error => exact ih.cons key
  exact List.Nodup.sublist (hsub _) session.structs.distinct

/-- The accessors, and the bound records, are named after the keys, one after
    the other. -/
structure Names (session : Session) : Prop where
  /-- The accessors in the code. -/
  accessors : accessorNames session.body = session.boundKeys.map bareTag
  /-- The bound records. -/
  structs : session.boundStructs.map BoundStruct.name = session.boundKeys.map bareTag

theorem names_start (naming : Naming) : (start naming).Names := ⟨rfl, rfl⟩

theorem SparesRecords.names (h : session.SparesRecords session') (hn : session.Names) :
    session'.Names := by
  obtain ⟨added, hb, hadded⟩ := h.body
  refine ⟨?_, ?_⟩
  · rw [hb, accessorNames_append, accessorNames_of_forall hadded, List.append_nil, boundKeys,
      h.structs]
    exact hn.accessors
  · rw [boundStructs, boundKeys, h.structs]
    exact hn.structs

theorem boundStructs_settleStruct {key : String} (hn : session.structs.get? key = none)
    (outcome : StructOutcome) :
    (session.settleStruct key outcome).boundStructs =
      session.boundStructs ++ (match outcome with | .done bound => [bound] | .failed _ => []) := by
  rw [boundStructs, Table.values, settleStruct, Table.set_rows_of_fresh hn, List.map_append,
    List.filterMap_append]
  cases outcome <;> rfl

/-- A record that fails has no code and is not bound. -/
theorem Names.fail {key : String} (h : session.Names) (hn : session.structs.get? key = none)
    (error : BindError) :
    ((session.settleStruct key (.failed error)).reject (structDiagnostic key error)).Names := by
  have hkeys : (session.settleStruct key (.failed error)).boundKeys = session.boundKeys := by
    rw [boundKeys_settleStruct hn, boundKey?, Option.toList_none, List.append_nil]
  have hstructs : (session.settleStruct key (.failed error)).boundStructs =
      session.boundStructs := by
    rw [boundStructs_settleStruct hn, List.append_nil]
  refine ⟨?_, ?_⟩
  · show accessorNames (session.body ++ [.note (structDiagnostic key error)]) =
      (session.settleStruct key (.failed error)).boundKeys.map bareTag
    rw [accessorNames_append, hkeys, h.accessors]
    exact List.append_nil _
  · show (session.settleStruct key (.failed error)).boundStructs.map BoundStruct.name =
      (session.settleStruct key (.failed error)).boundKeys.map bareTag
    rw [hstructs, hkeys, h.structs]

theorem accessorNames_committed (typedef : Option MemberTypedef) (members : BoundMembers) :
    accessorNames (committed typedef members) = [members.name] := by
  have htypedef : accessorNames (typedef.toList.map Section.memberTypedef) = [] := by
    cases typedef <;> rfl
  have hnotes : accessorNames ((members.dropped.map Prod.snd).map Section.note) = [] := by
    refine accessorNames_of_forall fun code hc => ?_
    obtain ⟨diagnostic, -, rfl⟩ := List.mem_map.1 hc
    rfl
  rw [committed, accessorNames_append, accessorNames_append, htypedef, hnotes]
  rfl

/-- A bound record has one accessor, and both are named after the key. -/
theorem Names.commit {members : BoundMembers} (h : session.Names) (hm : members.Made scope)
    (hn : session.structs.get? members.key = none) (typedef : Option MemberTypedef) :
    (session.commit typedef members).Names := by
  have hsettled : (session.commit typedef members).structs =
      (session.settleStruct members.key (.done members.bound)).structs := by
    rw [commit_eq]
    rfl
  have hkeys : (session.commit typedef members).boundKeys =
      session.boundKeys ++ [members.key] := by
    rw [boundKeys, hsettled]
    exact boundKeys_settleStruct hn _
  have hstructs : (session.commit typedef members).boundStructs =
      session.boundStructs ++ [members.bound] := by
    rw [boundStructs, hsettled]
    exact boundStructs_settleStruct hn _
  refine ⟨?_, ?_⟩
  · rw [hkeys, commit_eq, accessorNames_append, accessorNames_committed, h.accessors,
      List.map_append, hm.name]
    rfl
  · rw [hkeys, hstructs, List.map_append, h.structs, List.map_append]
    show _ ++ [members.name] = _
    rw [hm.name]
    rfl

/-- Every change names what it binds after the key. -/
theorem Change.names (h : session.Change scope session') (hn : session.Names) : session'.Names := by
  cases h with
  | add ha => exact ha.sparesRecords.names hn
  | enter => exact ⟨hn.accessors, hn.structs⟩
  | leave => exact ⟨hn.accessors, hn.structs⟩
  | meet => exact ⟨hn.accessors, hn.structs⟩
  | defer => exact ⟨hn.accessors, hn.structs⟩
  | takeDeferred => exact ⟨hn.accessors, hn.structs⟩
  | fail error _ hnone => exact hn.fail hnone error
  | commit typedef hm hnone => exact hn.commit hm hnone typedef

theorem Reachable.names (h : session.Reachable scope) : session.Names :=
  h.invariant (names_start library.naming) Change.names

end Session

/-- The keys that an identifier can come from. -/
def keysNamed (name : String) : List String := [name, "struct " ++ name, "union " ++ name]

theorem nodup_keysNamed (name : String) : (keysNamed name).Nodup := by
  have hlonger : ∀ keyword : String, 0 < keyword.length → name ≠ keyword ++ name := by
    intro keyword hpos he
    have hlength := congrArg String.length he
    rw [String.length_append] at hlength
    omega
  have hkeyword : "struct " ++ name ≠ "union " ++ name := by
    intro he
    have hlength := congrArg String.length he
    rw [String.length_append, String.length_append, Nat.add_right_cancel_iff] at hlength
    exact absurd hlength (by decide)
  simp only [keysNamed, List.nodup_cons, List.mem_cons, List.not_mem_nil, or_false, not_or,
    not_false_eq_true, List.nodup_nil, and_true]
  exact ⟨⟨hlonger _ (by decide), hlonger _ (by decide)⟩, hkeyword⟩

/-- A keyword that a text starts with is dropped. -/
theorem dropPrefix?_append (lead rest : String) :
    Text.dropPrefix? lead (lead ++ rest) = some rest :=
  Text.dropPrefix?_eq_some_iff.2 rfl

theorem dropPrefix?_keyword {name : String} (h : Text.isIdentifier name) (keyword : String) :
    Text.dropPrefix? (keyword ++ " ") name = none := by
  refine Option.eq_none_iff_forall_ne_some.2 fun rest he => ?_
  exact ne_keyed_of_isIdentifier h keyword rest (Text.dropPrefix?_eq_some_iff.1 he)

/-- A key gives an identifier if it is the identifier itself or has a keyword
    before it. -/
theorem bareTag_eq_iff {name : String} (h : Text.isIdentifier name) (key : String) :
    bareTag key = name ↔ key ∈ keysNamed name := by
  simp only [keysNamed, List.mem_cons, List.not_mem_nil, or_false]
  constructor
  · intro he
    rw [bareTag] at he
    cases hs : Text.dropPrefix? "struct " key with
    | some rest =>
        rw [hs, Option.some_or, Option.getD_some] at he
        exact .inr (.inl (he ▸ Text.dropPrefix?_eq_some_iff.1 hs))
    | none =>
        cases hu : Text.dropPrefix? "union " key with
        | some rest =>
            rw [hs, hu, Option.none_or, Option.getD_some] at he
            exact .inr (.inr (he ▸ Text.dropPrefix?_eq_some_iff.1 hu))
        | none =>
            rw [hs, hu] at he
            exact .inl he
  · rintro (rfl | rfl | rfl)
    · have hstruct : Text.dropPrefix? "struct " key = none := dropPrefix?_keyword h "struct"
      have hunion : Text.dropPrefix? "union " key = none := dropPrefix?_keyword h "union"
      rw [bareTag, hstruct, hunion]
      rfl
    · rw [bareTag, dropPrefix?_append]
      rfl
    · -- The keywords already differ in their first letter.
      have hstruct : Text.dropPrefix? "struct " ("union " ++ name) = none := by
        refine Option.eq_none_iff_forall_ne_some.2 fun rest he => ?_
        have hchars := congrArg String.toList (Text.dropPrefix?_eq_some_iff.1 he)
        rw [String.toList_append, String.toList_append] at hchars
        exact absurd (List.cons.inj hchars).1 (by decide)
      rw [bareTag, hstruct, dropPrefix?_append]
      rfl

/-- Members of one list that are in another are as many as the other way round. -/
theorem countP_mem_comm {front back : List String} (hf : front.Nodup) (hb : back.Nodup) :
    front.countP (· ∈ back) = back.countP (· ∈ front) := by
  rw [List.countP_eq_length_filter, List.countP_eq_length_filter]
  refine List.Perm.length_eq ((List.perm_ext_iff_of_nodup (hf.filter _) (hb.filter _)).2 ?_)
  intro key
  simp only [List.mem_filter, decide_eq_true_eq]
  exact And.comm

/-- An identifier stands as often among the names of the bound records as there
    are records bound under the keys that it can come from. -/
theorem Session.count_bareTag (session : Session) {name : String} (h : Text.isIdentifier name) :
    (session.boundKeys.map bareTag).count name =
      (keysNamed name).countP (· ∈ session.boundKeys) := by
  rw [← countP_mem_comm session.nodup_boundKeys (nodup_keysNamed name), List.count, List.countP_map]
  refine List.countP_congr fun key _ => ?_
  simp [bareTag_eq_iff h key]

theorem names_sessionAtEnd (decls : Declarations) (options : Options) :
    (sessionAtEnd decls options).Names := by
  have hend : (sessionAtEnd decls options).Reachable (Scope.all (libraryOf decls options)) :=
    Session.reachable_sessionAtEnd (fun _ _ => ⟨trivial, fun _ _ => trivial⟩) fun _ _ => trivial
  exact hend.names

/-- In every module the accessors go by the identifiers of the bound records, one
    after the other, and the identifier of a bound record is its key without the
    keyword. The identifiers are pairwise different exactly if no two bound
    records have keys that differ in their keywords only, and an identifier is
    there as often as records are bound under the typedef, the struct and the
    union of its name. -/
theorem accessors_named (decls : Declarations) (options : Options) :
    let session := sessionAtEnd decls options
    accessorNames (assemble decls options).body = session.boundStructs.map BoundStruct.name ∧
      session.boundStructs.map BoundStruct.name = session.boundKeys.map bareTag ∧
      ((session.boundStructs.map BoundStruct.name).Nodup ↔
        ∀ key ∈ session.boundKeys, ∀ other ∈ session.boundKeys, bareTag key = bareTag other →
          key = other) ∧
      ∀ name, Text.isIdentifier name →
        (accessorNames (assemble decls options).body).count name =
          (keysNamed name).countP fun key => (session.boundStruct? key).isSome := by
  intro session
  obtain ⟨haccessors, hstructs⟩ := names_sessionAtEnd decls options
  have hbody : accessorNames (assemble decls options).body = session.boundKeys.map bareTag := by
    rw [body_assemble]
    exact haccessors
  refine ⟨hbody.trans hstructs.symm, hstructs, ?_, fun name hname => ?_⟩
  · rw [hstructs, List.nodup_map_iff_inj_on session.nodup_boundKeys]
  · rw [hbody, session.count_bareTag hname]
    refine List.countP_congr fun key _ => ?_
    rw [decide_eq_true_eq]
    exact Session.mem_boundKeys_iff

/-- A typedef and a struct of one name, and a member whose type gets the name of
    another struct. -/
def homonymousRecords : Declarations where
  records := .ofRows
    [("foo", ⟨"foo", .struct, [⟨"x", .builtin "int", none⟩]⟩),
      ("struct foo", ⟨"struct foo", .struct, [⟨"y", .builtin "int", none⟩]⟩),
      ("K", ⟨"K", .struct, [⟨"a", .anonymous ⟨"", .struct, [⟨"z", .builtin "int", none⟩]⟩, none⟩]⟩),
      ("struct K_a_t", ⟨"struct K_a_t", .struct, [⟨"w", .builtin "int", none⟩]⟩)]
  functions := [⟨"f", .void,
    [⟨"a", .pointerTo (.named "foo")⟩, ⟨"b", .pointerTo (.tagged .struct "foo")⟩,
      ⟨"c", .pointerTo (.named "K")⟩, ⟨"d", .pointerTo (.tagged .struct "K_a_t")⟩], false⟩]

theorem homonymousRecords_ofC : homonymousRecords.OfC where
  recordName := by
    intro row hm
    have hrows : homonymousRecords.records.rows.map Prod.fst =
        ["foo", "struct foo", "K", "struct K_a_t"] := by decide +kernel
    have hkey := List.mem_map_of_mem (f := Prod.fst) hm
    rw [hrows] at hkey
    simp only [List.mem_cons, List.not_mem_nil, or_false] at hkey
    rcases hkey with hk | hk | hk | hk
    · exact .inl (by rw [hk]; decide)
    · exact .inr ⟨.struct, "foo", by decide, by rw [hk]; decide⟩
    · exact .inl (by rw [hk]; decide)
    · exact .inr ⟨.struct, "K_a_t", by decide, by rw [hk]; decide⟩
  memberType := by decide +kernel
  typedefName := by decide +kernel
  typedefType := by decide +kernel
  functionType := by decide +kernel
  globalType := by decide +kernel

set_option maxRecDepth 100000 in
/-- Both `foo` and `K_a_t` are bound under two of the keys they can come from, so
    the code defines each twice. -/
theorem homonymousRecords_named :
    let body := (assemble homonymousRecords { moduleName := "m" }).body
    (accessorNames body).count "foo" = 2 ∧ (accessorNames body).count "K_a_t" = 2 := by
  obtain ⟨-, -, -, hcount⟩ := accessors_named homonymousRecords { moduleName := "m" }
  have hbound : ∀ name ∈ ["foo", "K_a_t"], ((keysNamed name).countP fun key =>
      ((sessionAtEnd homonymousRecords { moduleName := "m" }).boundStruct? key).isSome) = 2 := by
    decide +kernel
  intro body
  refine ⟨?_, ?_⟩
  · rw [hcount "foo" (by decide), hbound _ (by decide)]
  · rw [hcount "K_a_t" (by decide), hbound _ (by decide)]

set_option maxRecDepth 100000 in
/-- So the names of C do not keep the identifiers of bound records apart. -/
theorem homonymousRecords_collide :
    ¬ ∀ (decls : Declarations) (options : Options), (libraryOf decls options).decls.OfC →
      ((sessionAtEnd decls options).boundStructs.map BoundStruct.name).Nodup := by
  intro hall
  have hnodup := hall homonymousRecords { moduleName := "m" } homonymousRecords_ofC
  exact absurd hnodup (by decide +kernel)

end ScriptBind
