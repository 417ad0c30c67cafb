import ScriptBind.Text.CommentSafe

/-!
# Marks That Line Ends Split

Before C looks for comments it joins each line that ends in a backslash with the next one. That
can put a star and a slash together which nothing stood between but the ends of continued lines. In
a text that has been made safe every other mark has been taken apart, so the marks that are there
when the lines have been joined are those that were split. Making a text safe does nothing about
them.

## Main definitions

* `Text.joinLines`: A text with its continued lines joined.
* `Text.hasSplitMark`: Whether a mark comes about when lines are joined.

## Theorems

* `Text.hasClosingMark_cons_iff`: What a text without closing mark starts with.
* `Text.joinLines_append`: Texts that are joined one by one.
* `Text.hasClosingMark_joinLines`: The marks that joining lines makes in a safe text.
* `Text.hasSplitMark_separate`: Taking marks apart leaves split marks as they are.
* `Text.hasSplitMark_append_break`: No split mark goes from one line to an indented one.
-/

namespace ScriptBind

namespace Text

/-- A text with its continued lines joined: a line that ends in a backslash goes on in the
    next one. -/
def joinLines : List Char → List Char
  | '\\' :: '\n' :: rest => joinLines rest
  | c :: rest => c :: joinLines rest
  | [] => []

/-- Whether a slash comes next when the lines have been joined. -/
def continuesToSlash : List Char → Bool
  | '/' :: _ => true
  | '\\' :: '\n' :: rest => continuesToSlash rest
  | _ => false

/-- Whether nothing stands between a star and a slash but the ends of continued lines. -/
def hasSplitMark : List Char → Bool
  | '*' :: '\\' :: '\n' :: rest => continuesToSlash rest || hasSplitMark rest
  | _ :: rest => hasSplitMark rest
  | [] => false

section Joining

variable {c : Char} {text front back : List Char}

/-- A text has no closing mark if it does not begin with one and there is none behind its first
    character. -/
theorem hasClosingMark_cons_iff :
    hasClosingMark (c :: text) = false ↔
      (c = '*' → text.head? ≠ some '/') ∧ hasClosingMark text = false := by
  by_cases hmark : c = '*' ∧ text.head? = some '/'
  · obtain ⟨rfl, hslash⟩ := hmark
    obtain ⟨rest, rfl⟩ := List.head?_eq_some_iff.1 hslash
    exact iff_of_false (by simp [hasClosingMark]) fun h => h.1 rfl rfl
  · have hstart : c = '*' → text.head? ≠ some '/' := fun hc hh => hmark ⟨hc, hh⟩
    rw [hasClosingMark_cons hstart]
    exact (and_iff_right hstart).symm

/-- Texts are joined one by one unless the second begins with a line break. -/
theorem joinLines_append (h : back.head? ≠ some '\n') :
    joinLines (front ++ back) = joinLines front ++ joinLines back := by
  fun_induction joinLines front with
  | case1 rest ih => exact ih
  | case2 c rest hc ih =>
      -- If a line break follows a backslash, both are in the first text.
      rw [List.cons_append, joinLines, ih, List.cons_append]
      intro tail hbackslash ht
      cases rest with
      | nil => exact h (by rw [← List.nil_append back, ht, List.head?_cons])
      | cons d rest => exact hc rest hbackslash (by rw [(List.cons.inj ht).1])
  | case3 => rfl

/-- The first character of joined lines is a slash if one comes next. -/
theorem head?_joinLines (text : List Char) :
    (joinLines text).head? = some '/' ↔ continuesToSlash text := by
  fun_induction continuesToSlash text with
  | case1 rest => simp [joinLines]
  | case2 rest ih => rwa [joinLines]
  | case3 text hslash hcontinued =>
      refine iff_of_false (fun h => ?_) (by simp)
      cases text with
      | nil => cases h
      | cons c rest =>
          rw [joinLines, List.head?_cons] at h
          · exact hslash rest (by rw [Option.some.inj h])
          · rintro tail rfl rfl
            exact hcontinued tail rfl

/-- In a safe text, joining lines makes the marks that were split and no others. -/
theorem hasClosingMark_joinLines (h : hasClosingMark text = false) :
    hasClosingMark (joinLines text) = false ↔ hasSplitMark text = false := by
  fun_induction hasSplitMark text with
  | case1 rest ih =>
      have hrest : hasClosingMark rest = false := by simpa [hasClosingMark_cons_iff] using h
      have hjoined : joinLines ('*' :: '\\' :: '\n' :: rest) = '*' :: joinLines rest := by
        simp [joinLines]
      rw [hjoined, hasClosingMark_cons_iff, Bool.or_eq_false_iff, ih hrest,
        ← Bool.not_eq_true (continuesToSlash rest), ← head?_joinLines]
      exact and_congr_left fun _ => forall_prop_of_true rfl
  | case2 c rest hc ih =>
      obtain ⟨hstart, hrest⟩ := hasClosingMark_cons_iff.1 h
      rw [← ih hrest]
      by_cases hcontinued : c = '\\' ∧ rest.head? = some '\n'
      · -- The line break that goes away belongs to no mark.
        obtain ⟨rfl, hbreak⟩ := hcontinued
        obtain ⟨tail, rfl⟩ := List.head?_eq_some_iff.1 hbreak
        rw [joinLines, joinLines, hasClosingMark_cons (by simp)]
        simp
      · have hjoined : joinLines (c :: rest) = c :: joinLines rest := by
          rw [joinLines]
          rintro tail rfl rfl
          exact hcontinued ⟨rfl, rfl⟩
        rw [hjoined, hasClosingMark_cons]
        -- Behind a star there is neither a slash nor the end of a continued line.
        rintro rfl hslash
        have hnext : continuesToSlash rest := (head?_joinLines rest).1 hslash
        unfold continuesToSlash at hnext
        split at hnext
        · exact hstart rfl rfl
        · exact hc _ rfl rfl
        · cases hnext
  | case3 => exact iff_of_true rfl rfl

/-- What begins neither with a slash nor with the end of a continued line. -/
theorem continuesToSlash_cons (hslash : c ≠ '/')
    (hcontinued : c = '\\' → text.head? ≠ some '\n') : continuesToSlash (c :: text) = false := by
  unfold continuesToSlash
  split
  · next rest he => exact absurd (List.cons.inj he).1 hslash
  · next rest he =>
      obtain ⟨rfl, rfl⟩ := List.cons.inj he
      exact absurd rfl (hcontinued rfl)
  · rfl

/-- Taking marks apart changes nothing of what comes next. -/
theorem continuesToSlash_separate (text : List Char) :
    continuesToSlash (separate text) = continuesToSlash text := by
  fun_induction continuesToSlash text with
  | case1 rest => rfl
  | case2 rest ih => exact ih
  | case3 text hslash hcontinued =>
      fun_cases separate text with
      | case1 rest => rfl
      | case2 c rest hc =>
          refine continuesToSlash_cons (fun he => hslash rest (by rw [he])) fun he => ?_
          rw [head?_separate]
          rintro hbreak
          obtain ⟨tail, rfl⟩ := List.head?_eq_some_iff.1 hbreak
          exact hcontinued tail (by rw [he])
      | case3 => rfl

/-- Taking marks apart leaves those that are split as they are. -/
theorem hasSplitMark_separate (text : List Char) :
    hasSplitMark (separate text) = hasSplitMark text := by
  fun_induction hasSplitMark text with
  | case1 rest ih =>
      show (continuesToSlash (separate rest) || hasSplitMark (separate rest)) = _
      rw [continuesToSlash_separate, ih]
  | case2 c rest hc ih => 
      rw [← ih]
      by_cases hslash : c = '*' ∧ rest.head? = some '/'
      · obtain ⟨rfl, hslash⟩ := hslash
        obtain ⟨tail, rfl⟩ := List.head?_eq_some_iff.1 hslash
        simp [separate, hasSplitMark]
      · have hseparate : separate (c :: rest) = c :: separate rest := by
          rw [separate]
          rintro tail rfl rfl
          exact hslash ⟨rfl, rfl⟩
        rw [hseparate, hasSplitMark]
        -- What comes behind a star begins as it did before.
        rintro tail rfl hcontinued
        have hhead := head?_separate rest
        rw [hcontinued, List.head?_cons] at hhead
        obtain ⟨tail', rfl⟩ := List.head?_eq_some_iff.1 hhead.symm
        have hbehind : separate tail' = '\n' :: tail := (List.cons.inj hcontinued).2
        have hhead' := head?_separate tail'
        rw [hbehind, List.head?_cons] at hhead'
        obtain ⟨tail'', rfl⟩ := List.head?_eq_some_iff.1 hhead'.symm
        exact hc tail'' rfl rfl
  | case3 => rfl

/-- Nothing is continued through the end of a line that is followed by a blank. -/
theorem continuesToSlash_append_break (text back : List Char) :
    continuesToSlash (text ++ '\n' :: ' ' :: back) = continuesToSlash text := by
  fun_induction continuesToSlash text with
  | case1 rest => rfl
  | case2 rest ih => exact ih
  | case3 text hslash hcontinued =>
      cases text with
      | nil => rfl
      | cons c rest =>
          have hc : c ≠ '/' := fun he => hslash rest (by rw [he])
          by_cases hlast : c = '\\' ∧ rest = []
          · obtain ⟨rfl, rfl⟩ := hlast
            rfl
          · refine continuesToSlash_cons hc ?_
            rintro rfl hbreak
            cases rest with
            | nil => exact hlast ⟨rfl, rfl⟩
            | cons d rest => exact hcontinued rest (by rw [Option.some.inj hbreak])

/-- Neither does a split mark go through it. -/
theorem hasSplitMark_append_break (front back : List Char) :
    hasSplitMark (front ++ '\n' :: ' ' :: back) = (hasSplitMark front || hasSplitMark back) := by
  fun_induction hasSplitMark front with
  | case1 rest ih =>
      rw [Bool.or_assoc, ← ih, ← continuesToSlash_append_break rest back]
      rfl
  | case2 c rest hc ih =>
      by_cases hlast : c = '*' ∧ rest = ['\\']
      · obtain ⟨rfl, rfl⟩ := hlast
        rfl
      · rw [← ih, List.cons_append, hasSplitMark]
        rintro tail rfl he
        -- Both the backslash and the line break are in front.
        rcases List.append_eq_cons_iff.1 he with ⟨-, hbreak⟩ | ⟨rest, rfl, htail⟩
        · cases hbreak
        rcases List.cons_eq_append_iff.1 htail with ⟨rfl, -⟩ | ⟨rest, rfl, -⟩
        · exact hlast ⟨rfl, rfl⟩
        · exact hc rest rfl rfl
  | case3 => simp [hasSplitMark]

/-- Without a backslash no mark is split. -/
theorem hasSplitMark_of_not_mem (h : '\\' ∉ text) : hasSplitMark text = false := by
  fun_induction hasSplitMark text with
  | case1 rest ih => simp at h
  | case2 c rest hc ih => exact ih fun hm => h (List.mem_cons_of_mem _ hm)
  | case3 => rfl

end Joining

end Text

end ScriptBind
