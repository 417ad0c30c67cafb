import ScriptBind.Proofs.Division

/-!
# The Types of Nameless Members

The type of a nameless member is bound under a name made from those of its owner
and of the member. Between operations every nameless member of a bound record has
its type bound under that name. What is bound there was bound from a record that
may go by the name. This is the member's own type if no other record does; but a
record that the library declares may have taken the name, and then it is that
record's members that a script sees in place of the member's.

## Theorems

* `nameless_bound`: What the type of a nameless member is bound from.
* `takenName_misbound`: A declared record in the place of a member's type.
-/

namespace ScriptBind

variable {library : Library}

/-- The type of each nameless member of a bound record is bound under the name
    made for it, and its members are divided like those of any record. It was
    bound from a record that may go by that name: from the member's own type, if
    no other record may. -/
theorem nameless_bound (library : Library) {session : Session}
    (hs : session.Performed (Scope.bindable library)) {key : String}
    (hb : (session.boundStruct? key).isSome) :
    ∃ record kept dropped, Bindable library key record ∧
      session.Divided library key record kept dropped ∧
      ∀ field ∈ kept, ∀ inner, field.type = .anonymous inner →
        let name := memberTypeName (bareTag key) field.name
        ∃ other keptThere droppedThere, Bindable library name other ∧
          session.Divided library name other keptThere droppedThere ∧
          (IsSingle library name → other = { inner with name }) := by
  obtain ⟨record, members, rfl, hr, hholds⟩ := hs.holdsAll.held key hb
  obtain ⟨kept, dropped, hdivided⟩ := hholds.divided hs.reachable hs.underway
  refine ⟨record, kept, dropped, hr, hdivided, fun field hf inner ht => ?_⟩
  obtain ⟨hmem, hbound⟩ := List.mem_filter.1 (hdivided.divides.mem_iff.2 (.inl hf))
  have hne := (Field.isBound_iff.1 hbound).1
  -- The type was bound before the record was, and is held since.
  obtain ⟨other, others, hname, hother, hheld⟩ :=
    hs.holdsAll.held _ (hholds.nested field hmem inner hne ht)
  obtain ⟨keptThere, droppedThere, hthere⟩ := hheld.divided hs.reachable hs.underway
  rw [hname] at hthere
  exact ⟨other, keptThere, droppedThere, hother, hthere,
    fun hsingle => hsingle _ _ hother (.nested hr hmem hne ht)⟩

/-- The session in which a record with nested nameless members has been asked for. -/
def nestedSession : Session :=
  (Operation.resolve (.named "K")).after (libraryOf nestedMembers { moduleName := "m" })
    (.start (libraryOf nestedMembers { moduleName := "m" }).naming)

set_option maxRecDepth 100000 in
/-- The name of the outer member's type is its own, so it is bound from it. -/
theorem nestedSession_bound :
    ∃ kept dropped, nestedSession.Divided (libraryOf nestedMembers { moduleName := "m" }) "K_a_t"
      { outerMember with name := "K_a_t" } kept dropped := by
  have hs : nestedSession.Performed (Scope.bindable _) := .perform _ .start trivial
  have hk : nestedSession.boundStruct? "K" = some ⟨"K", "K", ["a"], []⟩ := by decide +kernel
  obtain ⟨record, kept, dropped, hr, hdivided, hnested⟩ :=
    nameless_bound (libraryOf nestedMembers { moduleName := "m" }) hs (by rw [hk]; rfl)
  -- The record has one member, which is kept.
  obtain rfl : record = nestingRecord := by
    rcases nestedMembers_bindable hr with ⟨-, h⟩ | ⟨h, -⟩ | ⟨h, -⟩ | ⟨h, -⟩
    · exact h
    · exact absurd h (by decide)
    · exact absurd h (by decide)
    · exact absurd h (by decide)
  have hkept : kept.map Field.name = ["a"] :=
    (BoundStruct.mk.inj (Option.some.inj (hdivided.bound.symm.trans hk))).2.2.1
  obtain ⟨field, rest, rfl, hfield, -⟩ := List.map_eq_cons_iff.1 hkept
  have hmem := (List.mem_filter.1 (hdivided.divides.mem_iff.2 (.inl (List.mem_cons_self ..)))).1
  obtain rfl := List.mem_singleton.1 hmem
  have hname : memberTypeName (bareTag "K") "a" = "K_a_t" := by decide
  obtain ⟨other, keptThere, droppedThere, hother, hthere, hsingle⟩ :=
    hnested _ (List.mem_cons_self ..) outerMember rfl
  rw [hname] at hthere hsingle
  exact ⟨keptThere, droppedThere, hsingle nestedMembers_single ▸ hthere⟩

/-- A record with a nameless member, and another one that is called as the type of
    the member is going to be. -/
def takenName : Library where
  decls :=
    { records := .ofRows
        [("K", ⟨"K", .struct,
            [⟨"a", .anonymous ⟨"", .struct, [⟨"x", .builtin "int", none⟩]⟩, none⟩]⟩),
          ("K_a_t", ⟨"K_a_t", .struct, [⟨"y", .builtin "int", none⟩]⟩)] }
  naming := { moduleName := "m", scope := "m" }

/-- The session in which the other one has been asked for first. -/
def takenSession : Session :=
  (Operation.resolve (.named "K")).after takenName
    ((Operation.resolve (.named "K_a_t")).after takenName (.start takenName.naming))

set_option maxRecDepth 100000 in
/-- So the type of a nameless member need not be bound from the member. -/
theorem takenName_misbound :
    ¬∀ (library : Library) (session : Session), session.Performed (Scope.bindable library) →
      ∀ key record, library.decls.records.get? key = some record →
      ∀ bound, session.boundStruct? key = some bound →
      ∀ field ∈ record.flattened, field.name ∈ bound.fields →
      ∀ inner, field.type = .anonymous inner →
      ∀ there, session.boundStruct? (memberTypeName (bareTag key) field.name) = some there →
        (there.fields ++ there.dropped).Perm
          ((inner.flattened.filter Field.isBound).map Field.name) := by
  intro hall
  have hs : takenSession.Performed (Scope.bindable takenName) :=
    .perform _ (.perform _ .start trivial) trivial
  have hk : takenSession.boundStruct? "K" = some ⟨"K", "K", ["a"], []⟩ := by decide +kernel
  have hthere : takenSession.boundStruct? (memberTypeName (bareTag "K") "a") =
      some ⟨"K_a_t", "K_a_t", ["y"], []⟩ := by decide +kernel
  have hperm := hall takenName takenSession hs "K" _ rfl _ hk _ (List.mem_singleton_self _)
    (List.mem_singleton_self _) _ rfl _ hthere
  exact absurd hperm (by decide)

end ScriptBind
