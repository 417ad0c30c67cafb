import ScriptBind.Binding.Session
import ScriptBind.Proofs.SplitMarks

/-!
# Comments Are Closed Where They End

The comment for a declaration left out quotes texts that may be anything: why it is left
out, and the declaration itself. A closing mark in one of them would end the comment, and
what comes after it would be code.

A mark is two characters, and it can come about wherever two pieces of text meet. So each
piece is looked at together with what stands around it. In a text that has been made safe a
blank stands between a star and a slash, and around every line of a comment stand blanks and
line breaks, which belong to no mark. What is left is the mark that closes the comment.

C joins continued lines before it looks for comments, and a mark that the end of such a line
splits is a mark then. So the comment is read as one comment exactly if there is no split mark in
the reason and in the declaration. If there is one, the comment is closed early and what comes
behind is read as code.

## Main definitions

* `Text.closingMarks`: How many closing marks there are in a text.
* `Text.blankComments`: A text with a blank for each comment.
* `Text.readComments`: A text the way C reads it.
* `Text.commentInside`: What stands between the marks of a comment block.
* `Diagnostic.quoted`: The texts of the comment for a declaration left out.

## Theorems

* `Text.hasClosingMark_append`: Texts that meet without making a mark.
* `Text.blankComments_append`, `Text.closingMarks_append`: The first mark ends a comment.
* `Text.blankComments_leaks`: What comes behind a mark inside is read.
* `Text.hasClosingMark_commentInside`: The inside of a comment with safe lines has no mark.
* `Diagnostic.hasClosingMark_quoted`: The texts that are quoted are safe.
* `Diagnostic.toList_comment`: The comment is a line break and a comment block.
* `comment_closed_iff`: When the comment for a declaration left out is one comment.
* `splitReason_leaks`: A reason that closes the comment early.
-/

namespace ScriptBind

namespace Text

/-- How many closing marks there are in a text. -/
def closingMarks : List Char → Nat
  | '*' :: '/' :: rest => closingMarks rest + 1
  | _ :: rest => closingMarks rest
  | [] => 0

/-- A text with a blank for each comment, the way C reads it; the flag tells whether it begins
    inside of one. What stands in a comment that is not closed is gone. -/
def blankComments : Bool → List Char → List Char
  | true, '*' :: '/' :: rest => ' ' :: blankComments false rest
  | true, _ :: rest => blankComments true rest
  | false, '/' :: '*' :: rest => blankComments true rest
  | false, c :: rest => c :: blankComments false rest
  | _, [] => []

/-- A text the way C reads it, comments being blanks. -/
def readComments (text : List Char) : List Char := blankComments false (joinLines text)

section Marks

variable {c : Char} {text front back : List Char}

/-- Where two texts meet, a closing mark needs a star at the end of the first and a slash at the
    beginning of the second. -/
theorem hasClosingMark_append (hf : hasClosingMark front = false) (hb : hasClosingMark back = false)
    (h : back.head? ≠ some '/') : hasClosingMark (front ++ back) = false := by
  induction front with
  | nil => exact hb
  | cons c front ih =>
      obtain ⟨hstart, hrest⟩ := hasClosingMark_cons_iff.1 hf
      refine hasClosingMark_cons_iff.2 ⟨fun hc => ?_, ih hrest⟩
      -- What follows a star is in the first text, or it is the beginning of the second.
      cases front with
      | nil => exact h
      | cons d front => exact hstart hc

theorem blankComments_cons (h : c = '*' → text.head? ≠ some '/') :
    blankComments true (c :: text) = blankComments true text := by
  rw [blankComments]
  intro rest hc ht
  exact h hc (by rw [ht, List.head?_cons])

theorem closingMarks_cons (h : c = '*' → text.head? ≠ some '/') :
    closingMarks (c :: text) = closingMarks text := by
  rw [closingMarks]
  intro rest hc ht
  exact h hc (by rw [ht, List.head?_cons])

/-- Up to a closing mark there is no slash behind a star. -/
theorem head?_ne_slash (h : c = '*' → front.head? ≠ some '/') :
    c = '*' → (front ++ '*' :: text).head? ≠ some '/' := by
  intro hc
  cases front with
  | nil => simp
  | cons d front => exact h hc

/-- The first closing mark ends a comment. -/
theorem blankComments_append (h : hasClosingMark front = false) (rest : List Char) :
    blankComments true (front ++ '*' :: '/' :: rest) = ' ' :: blankComments false rest := by
  induction front with
  | nil => rfl
  | cons c front ih =>
      obtain ⟨hstart, hrest⟩ := hasClosingMark_cons_iff.1 h
      rw [List.cons_append, blankComments_cons (head?_ne_slash hstart), ih hrest]

/-- The first closing mark counts, and then those behind it. -/
theorem closingMarks_append (h : hasClosingMark front = false) (rest : List Char) :
    closingMarks (front ++ '*' :: '/' :: rest) = closingMarks rest + 1 := by
  induction front with
  | nil => rfl
  | cons c front ih =>
      obtain ⟨hstart, hrest⟩ := hasClosingMark_cons_iff.1 h
      rw [List.cons_append, closingMarks_cons (head?_ne_slash hstart), ih hrest]

end Marks

section Leaks

variable {text : List Char}

/-- A text that ends like a comment block has characters left when comments are blanks. -/
theorem two_le_length_blankComments (isInside : Bool) (h : [' ', '*', '/', '\n'] <:+ text) :
    2 ≤ (blankComments isInside text).length := by
  fun_induction blankComments isInside text with
  | case1 rest ih =>
      -- The ending begins with a blank, so it does not begin with the mark.
      have hrest : [' ', '*', '/', '\n'] <:+ rest := by simpa [List.suffix_cons_iff] using h
      exact Nat.le_succ_of_le (ih hrest)
  | case2 c rest hc ih =>
      rcases List.suffix_cons_iff.1 h with he | hrest
      · obtain ⟨rfl, rfl⟩ := List.cons.inj he
        exact Nat.le_refl _
      · exact ih hrest
  | case3 rest ih =>
      have hrest : [' ', '*', '/', '\n'] <:+ rest := by simpa [List.suffix_cons_iff] using h
      exact ih hrest
  | case4 c rest hc ih =>
      rcases List.suffix_cons_iff.1 h with he | hrest
      · obtain ⟨rfl, rfl⟩ := List.cons.inj he
        decide
      · exact Nat.le_succ_of_le (ih hrest)
  | case5 => simp at h

/-- If there is a mark inside of a comment block, what comes behind it is read. -/
theorem blankComments_leaks (h : hasClosingMark text = true) (hblank : [' '] <:+ text) :
    blankComments true (text ++ ['*', '/', '\n']) ≠ [' ', '\n'] := by
  fun_induction hasClosingMark text with
  | case1 rest =>
      have hending : [' ', '*', '/', '\n'] <:+ rest ++ ['*', '/', '\n'] := by
        obtain ⟨front, hfront⟩ : [' '] <:+ rest := by simpa [List.suffix_cons_iff] using hblank
        exact ⟨front, by rw [← hfront, List.append_assoc]; rfl⟩
      have hlength := two_le_length_blankComments false hending
      intro he
      have hrest : blankComments false (rest ++ ['*', '/', '\n']) = ['\n'] :=
        (List.cons.inj he).2
      rw [hrest] at hlength
      simp at hlength
  | case2 c rest hc ih =>
      rcases List.suffix_cons_iff.1 hblank with he | hrest
      · obtain ⟨rfl, rfl⟩ := List.cons.inj he
        cases h
      · rw [List.cons_append, blankComments_cons]
        · exact ih h hrest
        · rintro rfl
          cases rest with
          | nil => cases h
          | cons d rest => 
              intro hd
              exact hc rest rfl (by rw [Option.some.inj hd])
  | case3 => cases h

end Leaks

section Blocks

/-- A line of a comment block, with its line break. -/
def commentLine (text : String) : List Char := ' ' :: '*' :: ' ' :: text.toList ++ ['\n']

/-- What stands between the marks of a comment block. -/
def commentInside (texts : List String) : List Char := '\n' :: texts.flatMap commentLine ++ [' ']

theorem toList_unlines (lines : List String) :
    (unlines lines).toList = lines.flatMap fun line => line.toList ++ ['\n'] := by
  induction lines with
  | nil => rfl
  | cons line rest ih =>
      have hsplit : unlines (line :: rest) = line ++ "\n" ++ unlines rest := by
        rw [← List.singleton_append, unlines_append]
        simp [unlines]
      rw [hsplit, String.toList_append, String.toList_append, ih, List.flatMap_cons]
      rfl

/-- A comment block is its inside between two marks. -/
theorem toList_comment (texts : List String) :
    (unlines (comment texts)).toList =
      '/' :: '*' :: commentInside texts ++ ['*', '/', '\n'] := by
  have hlines : (fun text => (starred text).toList ++ ['\n']) = commentLine := by
    funext text
    simp [starred, commentLine]
  simp [toList_unlines, comment, commentInside, List.flatMap_map, hlines]

/-- A line has no closing mark if its text has none: a blank stands before the text, and a line
    break behind it. -/
theorem hasClosingMark_commentLine {text : String} {rest : List Char}
    (ht : hasClosingMark text.toList = false) (hr : hasClosingMark rest = false) :
    hasClosingMark (commentLine text ++ rest) = false := by
  have hbreak : hasClosingMark ('\n' :: rest) = false := by rw [hasClosingMark_cons (by simp), hr]
  have htext : hasClosingMark (text.toList ++ '\n' :: rest) = false :=
    hasClosingMark_append ht hbreak (by simp)
  have hline : commentLine text ++ rest = ' ' :: '*' :: ' ' :: (text.toList ++ '\n' :: rest) := by
    simp [commentLine]
  rw [hline, hasClosingMark_cons (by simp), hasClosingMark_cons (by simp),
    hasClosingMark_cons (by simp), htext]

/-- The inside of a comment block has no closing mark if its lines have none. -/
theorem hasClosingMark_commentInside {texts : List String}
    (h : ∀ text ∈ texts, hasClosingMark text.toList = false) :
    hasClosingMark (commentInside texts) = false := by
  rw [commentInside, List.cons_append, hasClosingMark_cons (by simp)]
  induction texts with
  | nil => rfl
  | cons text texts ih =>
      rw [List.flatMap_cons, List.append_assoc]
      exact hasClosingMark_commentLine (h text List.mem_cons_self)
        (ih fun text ht => h text (List.mem_cons_of_mem _ ht))

/-- The split marks inside of a comment block are those of its lines. -/
theorem hasSplitMark_commentInside (texts : List String) :
    hasSplitMark (commentInside texts) = false ↔
      ∀ text ∈ texts, hasSplitMark text.toList = false := by
  -- Every line begins with a blank, and so does what comes behind the last.
  have hlines : ∀ texts : List String, ∃ back,
      texts.flatMap commentLine ++ [' '] = ' ' :: back ∧
        (hasSplitMark back = false ↔ ∀ text ∈ texts, hasSplitMark text.toList = false) := by
    intro texts
    induction texts with
    | nil => exact ⟨[], rfl, by simp [hasSplitMark]⟩
    | cons text texts ih =>
        obtain ⟨back, hback, hsplit⟩ := ih
        refine ⟨'*' :: ' ' :: (text.toList ++ '\n' :: ' ' :: back), ?_, ?_⟩
        · rw [List.flatMap_cons, List.append_assoc, hback]
          simp [commentLine]
        · have hstar : hasSplitMark ('*' :: ' ' :: (text.toList ++ '\n' :: ' ' :: back)) =
              hasSplitMark (text.toList ++ '\n' :: ' ' :: back) := rfl
          rw [hstar, hasSplitMark_append_break, Bool.or_eq_false_iff, hsplit, List.forall_mem_cons]
  obtain ⟨back, hback, hsplit⟩ := hlines texts
  have hinside : commentInside texts = '\n' :: ' ' :: back := by
    rw [commentInside, List.cons_append, hback]
  rw [hinside, ← hsplit]
  rfl

end Blocks

end Text

namespace Diagnostic

open Text

/-- The texts of the comment, one for each of its lines. -/
def quoted (diagnostic : Diagnostic) : List String :=
  [diagnostic.kind.title ++ " NOT generated:", commentSafe diagnostic.reason] ++
    if diagnostic.declaration = "" then [] else [commentSafe diagnostic.declaration]

/-- What holds of the title, the reason and the declaration holds of every text. -/
theorem forall_mem_quoted {diagnostic : Diagnostic} {p : String → Prop}
    (ht : p (diagnostic.kind.title ++ " NOT generated:")) (hr : p (commentSafe diagnostic.reason))
    (hd : p (commentSafe diagnostic.declaration)) : ∀ text ∈ diagnostic.quoted, p text := by
  intro text hm
  simp only [quoted, List.mem_append, List.mem_cons, List.not_mem_nil, or_false] at hm
  obtain (rfl | rfl) | hdeclaration := hm
  · exact ht
  · exact hr
  · -- There is a line for the declaration only if it is known.
    split at hdeclaration
    · exact absurd hdeclaration List.not_mem_nil
    · rwa [List.mem_singleton.1 hdeclaration]

/-- None of the texts closes the comment. -/
theorem hasClosingMark_quoted (diagnostic : Diagnostic) :
    ∀ text ∈ diagnostic.quoted, hasClosingMark text.toList = false := by
  have hsafe (text : String) : hasClosingMark (commentSafe text).toList = false := by
    rw [commentSafe, String.toList_ofList, hasClosingMark_separate]
  have htitle : hasClosingMark (diagnostic.kind.title ++ " NOT generated:").toList = false := by
    cases diagnostic.kind <;> decide
  exact forall_mem_quoted htitle (hsafe _) (hsafe _)

/-- The split marks of the texts are those of the reason and of the declaration. -/
theorem hasSplitMark_quoted (diagnostic : Diagnostic) :
    (∀ text ∈ diagnostic.quoted, hasSplitMark text.toList = false) ↔
      hasSplitMark diagnostic.reason.toList = false ∧
        hasSplitMark diagnostic.declaration.toList = false := by
  have hsafe (text : String) :
      hasSplitMark (commentSafe text).toList = hasSplitMark text.toList := by
    rw [commentSafe, String.toList_ofList, hasSplitMark_separate]
  have htitle : hasSplitMark (diagnostic.kind.title ++ " NOT generated:").toList = false := by
    cases diagnostic.kind <;> decide
  constructor
  · intro h
    have hreason := h _ (List.mem_append_left _ (List.mem_cons_of_mem _ List.mem_cons_self))
    rw [hsafe] at hreason
    refine ⟨hreason, ?_⟩
    by_cases hd : diagnostic.declaration = ""
    · rw [hd]
      rfl
    · rw [← hsafe]
      exact h _ (List.mem_append_right _ (by rw [if_neg hd]; exact List.mem_cons_self))
  · rintro ⟨hreason, hdeclaration⟩
    exact forall_mem_quoted htitle (by rwa [hsafe]) (by rwa [hsafe])

/-- The comment is a line break and a comment block. -/
theorem toList_comment (diagnostic : Diagnostic) :
    diagnostic.comment.toList =
      '\n' :: '/' :: '*' :: commentInside diagnostic.quoted ++ ['*', '/', '\n'] := by
  have hlines : diagnostic.lines = [""] ++ Text.comment diagnostic.quoted := rfl
  rw [Diagnostic.comment, hlines, unlines_append, String.toList_append, Text.toList_comment]
  rfl

end Diagnostic

open Text

/-- What C reads of a comment and the code behind it. -/
theorem readComments_comment (diagnostic : Diagnostic) (rest : List Char) :
    readComments (diagnostic.comment.toList ++ rest) =
      '\n' :: blankComments true
        (joinLines (commentInside diagnostic.quoted) ++ '*' :: '/' :: '\n' :: joinLines rest) := by
  have hcomment : diagnostic.comment.toList ++ rest =
      '\n' :: '/' :: '*' :: (commentInside diagnostic.quoted ++ '*' :: '/' :: '\n' :: rest) := by
    simp [diagnostic.toList_comment]
  have hjoined : joinLines ('*' :: '/' :: '\n' :: rest) = '*' :: '/' :: '\n' :: joinLines rest := by
    simp [joinLines]
  rw [readComments, hcomment, ← hjoined, ← joinLines_append (by simp)]
  simp [joinLines, blankComments]

/-- The comment for a declaration left out opens after a line break, it has a single closing mark
    as it stands, and nothing comes behind that but a line break. Wherever it is put, C reads a
    blank between two line breaks and then the code that follows, exactly if no mark is split by
    the end of a continued line in the reason or in the declaration; it is so in particular if
    there is no backslash in them. To leave a declaration out adds the comment to the code and
    nothing else. -/
theorem comment_closed_iff (diagnostic : Diagnostic) :
    diagnostic.comment.toList =
        '\n' :: '/' :: '*' :: commentInside diagnostic.quoted ++ ['*', '/', '\n'] ∧
      closingMarks diagnostic.comment.toList = 1 ∧
      ((∀ rest, readComments (diagnostic.comment.toList ++ rest) =
          '\n' :: ' ' :: '\n' :: readComments rest) ↔
        hasSplitMark diagnostic.reason.toList = false ∧
          hasSplitMark diagnostic.declaration.toList = false) ∧
      ('\\' ∉ diagnostic.reason.toList → '\\' ∉ diagnostic.declaration.toList →
        hasSplitMark diagnostic.reason.toList = false ∧
          hasSplitMark diagnostic.declaration.toList = false) ∧
      ∀ moduleName (session : Session), bodyText moduleName (session.reject diagnostic).body =
        bodyText moduleName session.body ++ diagnostic.comment := by
  have hinside : hasClosingMark (commentInside diagnostic.quoted) = false :=
    hasClosingMark_commentInside diagnostic.hasClosingMark_quoted
  have hjoined := (hasClosingMark_joinLines hinside).trans
    ((hasSplitMark_commentInside _).trans diagnostic.hasSplitMark_quoted)
  refine ⟨diagnostic.toList_comment, ?_, ?_, fun hr hd => ?_, fun moduleName session => ?_⟩
  · -- The opening mark has a star, and what comes behind it is a line break.
    have hopening :
        hasClosingMark ('\n' :: '/' :: '*' :: commentInside diagnostic.quoted) = false := by
      rw [hasClosingMark_cons (by simp), hasClosingMark_cons (by simp),
        hasClosingMark_cons (by simp [commentInside]), hinside]
    rw [diagnostic.toList_comment, closingMarks_append hopening]
    rfl
  · rw [← hjoined]
    constructor
    · intro hread
      rw [← Bool.not_eq_true]
      intro hmark
      have hblank : [' '] <:+ joinLines (commentInside diagnostic.quoted) := by
        rw [commentInside, joinLines_append (by simp)]
        exact List.suffix_append ..
      -- With nothing behind the comment, what is left over is seen at once.
      have hnothing := hread []
      rw [readComments_comment] at hnothing
      exact blankComments_leaks hmark hblank (List.cons.inj hnothing).2
    · intro hmark rest
      rw [readComments_comment, blankComments_append hmark, readComments]
      simp [blankComments]
  · exact ⟨hasSplitMark_of_not_mem hr, hasSplitMark_of_not_mem hd⟩
  · rw [Session.reject, bodyText_append]
    simp [bodyText, Section.lines, Diagnostic.comment]

/-- A function left out for a reason that has the end of a continued line within a mark. -/
def splitReason : Diagnostic where
  kind := .function
  name := "f"
  reason := "x *\\\n/ int leaked;"
  declaration := ""

/-- What stands behind the mark is read as code. -/
theorem splitReason_leaks :
    ¬∀ rest, readComments (splitReason.comment.toList ++ rest) =
      '\n' :: ' ' :: '\n' :: readComments rest := by
  intro hread
  have hleak : readComments (splitReason.comment.toList ++ []) =
      "\n  int leaked;\n */\n".toList := by
    decide +kernel
  rw [hread []] at hleak
  cases hleak

end ScriptBind
