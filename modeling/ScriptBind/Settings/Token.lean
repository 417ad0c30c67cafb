import ScriptBind.Settings.QuotedText

/-!
# Tokens of Settings Files

A settings file consists of words, texts in quotes, a few marks, and the ends of
its lines. Blanks and comments only keep tokens apart. Characters that are none
of these, and the marks of things that no setting can be, have no tokens: a file
with any of them is refused as a whole.

## Main definitions

* `Token`: A token.
* `tokens?`: The tokens of a file.
-/

namespace ScriptBind

namespace Settings

/-- A token of a settings file. -/
inductive Token where
  /-- Letters, digits, underscores and hyphens, outside quotes. -/
  | word (text : String)
  /-- A text in quotes. -/
  | text (text : String) (isBlock : Bool)
  /-- The mark between a setting's name and its value. -/
  | equals
  /-- The mark between the items of a list. -/
  | comma
  /-- The start of a list. -/
  | opening
  /-- The end of a list. -/
  | closing
  /-- The end of a line. -/
  | lineEnd
  deriving DecidableEq, Repr, Inhabited

/-- The token of a mark. -/
def mark? (c : Char) : Option Token :=
  match c with
  | '=' => some .equals
  | ',' => some .comma
  | '[' => some .opening
  | ']' => some .closing
  | '\n' => some .lineEnd
  | _ => none

/-- A character of a word. -/
def isWordPart (c : Char) : Bool := c.isAlphanum || c == '_' || c == '-'

/-- Whether a character neither ends a line nor is the first of two that do. -/
def isInLine (c : Char) : Bool := c != '\n' && c != '\r'

/-- How a text is quoted, given its first quote and the characters after it, and
    the characters after all its opening quotes. The end of the line right after
    those of a block does not belong to the text. -/
def opening (quote : Char) (rest : List Char) : Quoting × List Char :=
  if rest.take 2 = [quote, quote] then
    let inside := rest.drop 2
    let isEnd := inside.take 1 = ['\n']
    let isLongEnd := inside.take 2 = ['\r', '\n']
    (⟨quote, true⟩, inside.drop (if isEnd then 1 else if isLongEnd then 2 else 0))
  else (⟨quote, false⟩, rest)

/-- A text is no longer than what follows its first quote. -/
theorem length_opening (quote : Char) (rest : List Char) :
    (opening quote rest).2.length ≤ rest.length := by
  unfold opening
  split
  · simp only [List.length_drop]
    omega
  · exact Nat.le_refl _

/-- What is left after leading characters have been dropped is no longer. -/
theorem length_dropWhile (p : Char → Bool) (chars : List Char) :
    (chars.dropWhile p).length ≤ chars.length :=
  (List.dropWhile_sublist p).length_le

/-- The tokens of a file. -/
def tokens? : List Char → Option (List Token)
  | [] => some []
  | c :: rest =>
    if isBlank c then tokens? rest
    else if c = '\r' then
      -- A carriage return belongs to a line end and has no other place.
      if rest.head? = some '\n' then tokens? rest else none
    else if c = '#' then
      if (rest.takeWhile isInLine).all isPlain then tokens? (rest.dropWhile isInLine) else none
    else if c = '"' ∨ c = '\'' then
      match h : readText? (opening c rest).1 (opening c rest).2 with
      | none => none
      | some (text, after) =>
        have : after.length < rest.length :=
          Nat.lt_of_lt_of_le (length_readText? h) (length_opening c rest)
        (tokens? after).map (.text (String.ofList text) (opening c rest).1.isBlock :: ·)
    else if isWordPart c then
      (tokens? (rest.dropWhile isWordPart)).map
        (.word (String.ofList (c :: rest.takeWhile isWordPart)) :: ·)
    else
      match mark? c with
      | none => none
      | some token => (tokens? rest).map (token :: ·)
termination_by chars => chars.length
decreasing_by
  · exact Nat.lt_succ_self _
  · exact Nat.lt_succ_self _
  · exact Nat.lt_succ_of_le (length_dropWhile isInLine rest)
  · exact Nat.lt_succ_of_lt this
  · exact Nat.lt_succ_of_le (length_dropWhile isWordPart rest)
  · exact Nat.lt_succ_self _

end Settings

end ScriptBind
