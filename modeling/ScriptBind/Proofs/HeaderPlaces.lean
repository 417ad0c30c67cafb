import Mathlib.Data.List.Forall2
import ScriptBind.Config.Headers
import ScriptBind.Files.Tree

/-!
# Where Headers Are Found

The entries of a configuration are looked for in the base directory and then in the
include paths, and an entry that is nowhere keeps its place in the base directory.
`IsFoundAt` says so by what is there and what is not, and knows nothing of a search.

An entry is taken from the base directory. An include path is not: it is taken as it is,
and one that is not absolute leads from the directory in which the program happens to run.
What is found through it is a path from there as well, and it is the only way to come by a
path that is not absolute. So all files of a configuration are absolute paths exactly if no
entry is found that way. They are if its include paths are absolute, and then it makes no
difference whether these are taken from the base directory.

## Main definitions

* `IsFoundThrough`: An entry is found through an include path.
* `IsFoundAt`: Where an entry is found.
* `Config.entries`, `Config.files`: What a configuration names, and the files it stands for.

## Theorems

* `isFoundAt_iff`: Headers are where they are found.
* `IsFoundAt.isAbsolute_iff`: Which entries lead to absolute paths.
* `entries_found`: Where the files of a configuration are.
* `searchedHeaders_found`: A configuration with absolute include paths.
* `strayHeaders_relative`: A configuration whose include path is not absolute.
-/

namespace ScriptBind

open ScriptBind.Path

/-- An entry is found through an include path: it is not in the base directory, and the
    include path is the first that has it. -/
structure IsFoundThrough (isThere : String → Bool) (base : String) (includePaths : List String)
    (entry directory : String) : Prop where
  isRelative : isAbsolute entry = false
  notInBase : isThere (join base entry) = false
  isFirst : isThere (join directory entry) ∧ ∃ front back,
    includePaths = front ++ directory :: back ∧ ∀ other ∈ front, isThere (join other entry) = false

/-- Where an entry is found, given which paths lead somewhere, the base directory and the
    include paths. -/
inductive IsFoundAt (isThere : String → Bool) (base : String) (includePaths : List String)
    (entry : String) : String → Prop where
  /-- An absolute entry is the path it stands for. -/
  | absolute (ha : isAbsolute entry) : IsFoundAt isThere base includePaths entry entry
  /-- What is in the base directory is found there. -/
  | inBase (ha : isAbsolute entry = false) (ht : isThere (join base entry)) :
    IsFoundAt isThere base includePaths entry (join base entry)
  /-- What is not is found through an include path. -/
  | included {directory : String} (h : IsFoundThrough isThere base includePaths entry directory) :
    IsFoundAt isThere base includePaths entry (join directory entry)
  /-- What is nowhere keeps its place in the base directory. -/
  | nowhere (ha : isAbsolute entry = false)
    (hn : ∀ directory ∈ base :: includePaths, isThere (join directory entry) = false) :
    IsFoundAt isThere base includePaths entry (join base entry)

section Search

variable {isThere : String → Bool} {base entry : String} {includePaths : List String}

/-- The include path through which an entry is found is the first that has it. -/
theorem IsFoundThrough.find? {directory : String}
    (h : IsFoundThrough isThere base includePaths entry directory) :
    includePaths.find? (fun other => isThere (join other entry)) = some directory := by
  obtain ⟨ht, front, back, hsplit, hfront⟩ := h.isFirst
  refine List.find?_eq_some_iff_append.2 ⟨ht, front, back, hsplit, fun other ho => ?_⟩
  rw [hfront other ho, Bool.not_false]

theorem isFoundThrough_of_find? {directory : String} (ha : isAbsolute entry = false)
    (hb : isThere (join base entry) = false)
    (h : includePaths.find? (fun other => isThere (join other entry)) = some directory) :
    IsFoundThrough isThere base includePaths entry directory := by
  obtain ⟨ht, front, back, hsplit, hfront⟩ := List.find?_eq_some_iff_append.1 h
  refine ⟨ha, hb, ht, front, back, hsplit, fun other ho => ?_⟩
  simpa using hfront other ho

/-- An entry that is not in the base directory is looked for in the include paths. -/
theorem resolveHeader_of_notInBase (ha : isAbsolute entry = false)
    (hb : isThere (join base entry) = false) :
    resolveHeader isThere base includePaths entry =
      join ((includePaths.find? fun other => isThere (join other entry)).getD base) entry := by
  have hcandidates : (headerCandidates base includePaths entry).find? isThere =
      (includePaths.find? fun other => isThere (join other entry)).map (join · entry) := by
    rw [headerCandidates, List.map_cons, List.find?_cons_of_neg (Bool.eq_false_iff.1 hb),
      List.find?_map]
    rfl
  rw [resolveHeader, if_neg (Bool.eq_false_iff.1 ha), hcandidates]
  cases includePaths.find? fun other => isThere (join other entry) <;> rfl

/-- Every entry is found where it is resolved. -/
theorem isFoundAt_resolveHeader (isThere : String → Bool) (base : String)
    (includePaths : List String) (entry : String) :
    IsFoundAt isThere base includePaths entry (resolveHeader isThere base includePaths entry) := by
  cases ha : isAbsolute entry with
  | true =>
      rw [resolveHeader_of_isAbsolute ha]
      exact .absolute ha
  | false =>
    cases hb : isThere (join base entry) with
    | true =>
        rw [resolveHeader_of_isThere hb]
        exact .inBase ha hb
    | false =>
      rw [resolveHeader_of_notInBase ha hb]
      cases hfind : includePaths.find? fun other => isThere (join other entry) with
      | some directory => exact .included (isFoundThrough_of_find? ha hb hfind)
      | none =>
          refine .nowhere ha (List.forall_mem_cons.2 ⟨hb, fun directory hd => ?_⟩)
          exact Bool.eq_false_iff.2 (List.find?_eq_none.1 hfind directory hd)

/-- Headers are where they are found. -/
theorem isFoundAt_iff {place : String} :
    IsFoundAt isThere base includePaths entry place ↔
      resolveHeader isThere base includePaths entry = place := by
  refine ⟨fun h => ?_, fun h => h ▸ isFoundAt_resolveHeader ..⟩
  cases h with
  | absolute ha => exact resolveHeader_of_isAbsolute ha _ _ _
  | inBase _ ht => exact resolveHeader_of_isThere ht _
  | included hthrough =>
      rw [resolveHeader_of_notInBase hthrough.isRelative hthrough.notInBase, hthrough.find?,
        Option.getD_some]
  | nowhere _ hn => exact resolveHeader_of_nowhere hn

/-- An entry leads to an absolute path unless it is found through an include path that is
    not absolute. -/
theorem IsFoundAt.isAbsolute_iff {place : String} (hbase : isAbsolute base)
    (h : IsFoundAt isThere base includePaths entry place) :
    isAbsolute place ↔
      ∀ directory, IsFoundThrough isThere base includePaths entry directory →
      isAbsolute directory := by
  cases h with
  | absolute ha =>
      refine iff_of_true ha fun directory hthrough => ?_
      rw [hthrough.isRelative] at ha
      cases ha
  | inBase _ ht =>
      refine iff_of_true (isAbsolute_join hbase entry) fun directory hthrough => ?_
      rw [hthrough.notInBase] at ht
      cases ht
  | included hthrough =>
      rw [isAbsolute_join_of_relative hthrough.isRelative]
      refine ⟨fun ha other hother => ?_, fun hall => hall _ hthrough⟩
      -- There is only one include path that an entry is found through.
      exact Option.some.inj (hthrough.find?.symm.trans hother.find?) ▸ ha
  | nowhere _ hn =>
      refine iff_of_true (isAbsolute_join hbase entry) fun directory hthrough => ?_
      obtain ⟨ht, front, back, hsplit, -⟩ := hthrough.isFirst
      rw [hn directory (List.mem_cons_of_mem _ (hsplit ▸ List.mem_append_cons_self)),
        Bool.false_eq_true] at ht
      exact ht.elim

end Search

/-- The files that are read, whether as such or from one that includes them. -/
def Input.files : Input → List String
  | .file path => [path]
  | .combined _ headers => headers

namespace Config

/-- The entries of a configuration: what is to be read, and the files whose declarations
    count. -/
def entries (config : Config) : List String :=
  (match config.preprocessed with
    | some path => [path]
    | none => config.headers) ++ config.traverse

/-- The files that the entries of a configuration stand for. -/
def files (config : Config) (isThere : String → Bool) (base : String) : List String :=
  (config.input isThere base).files ++ config.traversed isThere base

variable (config : Config) (isThere : String → Bool) (base : String)

/-- There is one file for each entry, in the same order. -/
theorem files_eq_map :
    config.files isThere base = config.entries.map (config.resolve isThere base) := by
  have hinput : (config.input isThere base).files =
      (match config.preprocessed with
        | some path => [path]
        | none => config.headers).map (config.resolve isThere base) := by
    unfold input
    split
    · next hp => rw [hp]; rfl
    · next hp hh => rw [hp, hh]; rfl
    · next hp _ => rw [hp]; rfl
  rw [files, entries, List.map_append, hinput, traversed]

/-- Reading starts at one of the files, or at a path in the base directory. -/
theorem path_input : (config.input isThere base).path ∈ config.files isThere base ∨
    (config.input isThere base).path = join base combinedName := by
  rw [files]
  unfold input
  split
  · exact .inl (List.mem_append_left _ (List.mem_singleton.2 rfl))
  · exact .inl (List.mem_append_left _ (List.mem_singleton.2 rfl))
  · exact .inr rfl

variable {config isThere base}

/-- The files of a configuration are absolute paths exactly if none of its entries is found
    through an include path that is not absolute. -/
theorem files_absolute_iff (hbase : isAbsolute base) :
    (∀ path ∈ config.files isThere base, isAbsolute path) ↔
      ∀ entry ∈ config.entries, ∀ directory,
        IsFoundThrough isThere base config.includePaths entry directory → isAbsolute directory := by
  rw [files_eq_map, List.forall_mem_map]
  exact forall₂_congr fun entry _ => (isFoundAt_resolveHeader ..).isAbsolute_iff hbase

end Config

/-- Each entry of a configuration stands for the file that it is found at. All these files,
    and the path at which reading starts, are absolute exactly if no entry is found through
    an include path that is not. So they are if all include paths are absolute, and then
    they are what they would be if these were taken from the base directory. -/
theorem entries_found (config : Config) (isThere : String → Bool) {base : String}
    (hbase : isAbsolute base) :
    List.Forall₂ (IsFoundAt isThere base config.includePaths) config.entries
        (config.files isThere base) ∧
      ((∀ path ∈ (config.input isThere base).path :: config.files isThere base, isAbsolute path) ↔
        ∀ entry ∈ config.entries, ∀ directory,
          IsFoundThrough isThere base config.includePaths entry directory → isAbsolute directory) ∧
      ((∀ directory ∈ config.includePaths, isAbsolute directory) →
        (∀ path ∈ (config.input isThere base).path :: config.files isThere base, isAbsolute path) ∧
        List.Forall₂ (IsFoundAt isThere base (config.includePaths.map (join base))) config.entries
          (config.files isThere base)) := by
  have hfound : List.Forall₂ (IsFoundAt isThere base config.includePaths) config.entries
      (config.files isThere base) := by
    rw [Config.files_eq_map, List.forall₂_map_right_iff, List.forall₂_same]
    exact fun entry _ => isFoundAt_resolveHeader ..
  have hpath : (∀ path ∈ config.files isThere base, isAbsolute path) →
      isAbsolute (config.input isThere base).path := by
    intro hfiles
    rcases Config.path_input config isThere base with hm | he
    · exact hfiles _ hm
    · exact he ▸ isAbsolute_join hbase combinedName
  have hiff := (List.forall_mem_cons.trans (and_iff_right_of_imp hpath)).trans
    (Config.files_absolute_iff hbase)
  refine ⟨hfound, hiff, fun habsolute => ⟨hiff.2 fun entry _ directory hthrough => ?_, ?_⟩⟩
  · obtain ⟨-, front, back, hsplit, -⟩ := hthrough.isFirst
    exact habsolute directory (hsplit ▸ List.mem_append_cons_self)
  · -- An absolute include path is taken from nowhere, so not from the base directory either.
    have hsame : config.includePaths.map (join base) = config.includePaths :=
      (List.map_congr_left fun directory hd =>
        join_of_isAbsolute (habsolute directory hd) base).trans (List.map_id _)
    rwa [hsame]

/-- A configuration with headers in several places. -/
def searchedHeaders : Config where
  moduleName := some "m"
  headers := ["a.h", "/sys/b.h", "c.h", "d.h"]
  includePaths := ["/old", "/new"]
  traverse := ["c.h"]

/-- A file tree in which three of its headers are found in as many ways. -/
def hasHeaders (path : String) : Bool := ["/base/a.h", "/new/a.h", "/new/c.h"].contains path

/-- All its files are absolute paths. -/
theorem searchedHeaders_found :
    isAbsolute "/base" ∧ (∀ directory ∈ searchedHeaders.includePaths, isAbsolute directory) ∧
      searchedHeaders.files hasHeaders "/base" =
        ["/base/a.h", "/sys/b.h", "/new/c.h", "/base/d.h", "/new/c.h"] ∧
      (∀ path ∈ (searchedHeaders.input hasHeaders "/base").path ::
        searchedHeaders.files hasHeaders "/base", isAbsolute path) ∧
      List.Forall₂ (IsFoundAt hasHeaders "/base" (searchedHeaders.includePaths.map (join "/base")))
        searchedHeaders.entries (searchedHeaders.files hasHeaders "/base") := by
  have hbase : isAbsolute "/base" := by decide
  have hincludes : ∀ directory ∈ searchedHeaders.includePaths, isAbsolute directory := by decide
  have hfiles : searchedHeaders.files hasHeaders "/base" =
      ["/base/a.h", "/sys/b.h", "/new/c.h", "/base/d.h", "/new/c.h"] := by decide
  exact ⟨hbase, hincludes, hfiles, (entries_found searchedHeaders hasHeaders hbase).2.2 hincludes⟩

/-- A configuration with an include path that is not absolute. -/
def strayHeaders : Config where
  moduleName := some "m"
  headers := ["a.h", "b.h"]
  includePaths := ["inc"]
  traverse := ["a.h"]

/-- A file that is there from where the program runs. -/
def strayTree : Tree := .ofFiles [("inc/a.h", "")]

/-- It has no fault, but what is found through the include path is no absolute path. Were the
    include path taken from the base directory, the header would be nowhere and keep its
    place there. -/
theorem strayHeaders_relative :
    strayHeaders.fault? = none ∧ isAbsolute "/base" ∧
      (strayHeaders.input strayTree.exists "/base").text? =
        some "#include \"inc/a.h\"\n#include \"/base/b.h\"\n" ∧
      strayHeaders.traversed strayTree.exists "/base" = ["inc/a.h"] ∧
      (¬∀ path ∈ strayHeaders.files strayTree.exists "/base", isAbsolute path) ∧
      IsFoundAt strayTree.exists "/base" (strayHeaders.includePaths.map (join "/base")) "a.h"
        "/base/a.h" := by
  refine ⟨by decide, by decide, by decide +kernel, by decide +kernel, by decide +kernel, ?_⟩
  exact isFoundAt_iff.2 (by decide +kernel)

end ScriptBind
