/-!
# Texts in Settings Files

A settings file writes a text in quotes, four ways in all. Between double
quotes a backslash starts an escape; between single quotes it stands for itself.
One quote on each side encloses a text within a line, and three enclose a block,
which may run over several lines.

A block may hold up to two quotes in a row. They may also stand right before
the closing ones, so that of a longer run the last three close the block. In a
block with escapes, a backslash at the end of a line joins the line to whatever
comes next that is not blank.

## Main definitions

* `Quoting`: One of the four ways to quote.
* `escape?`: What an escape stands for.
* `piece?`: The next piece of a text.
* `readText?`: A text up to its closing quotes, and what comes after them.

## Theorems

* `length_readText?`: Something is read of every text.
-/

namespace ScriptBind

namespace Settings

/-- A way to quote a text. -/
structure Quoting where
  /-- The quote. -/
  quote : Char
  /-- Whether the text is a block, between three quotes on each side. -/
  isBlock : Bool
  deriving DecidableEq, Repr, Inhabited

/-- Whether a backslash starts an escape. -/
def Quoting.hasEscapes (quoting : Quoting) : Bool := quoting.quote == '"'

/-- A blank that does not end a line. -/
def isBlank (c : Char) : Bool := c == ' ' || c == '\t'

/-- A blank or the end of a line. -/
def isSpace (c : Char) : Bool := isBlank c || c == '\n' || c == '\r'

/-- A character that may stand in a text or a comment: any but the control
    characters, and among those the tab. -/
def isPlain (c : Char) : Bool := c == '\t' || (0x20 ≤ c.toNat && c.toNat != 0x7F)

/-- The value of a hexadecimal digit. -/
def hexDigit? (c : Char) : Option Nat :=
  if c.isDigit then some (c.toNat - 0x30)
  else if 'a' ≤ c ∧ c ≤ 'f' then some (c.toNat - 0x61 + 10)
  else if 'A' ≤ c ∧ c ≤ 'F' then some (c.toNat - 0x41 + 10)
  else none

/-- The number that hexadecimal digits write. -/
def hexNumber? (digits : List Char) : Option Nat :=
  digits.foldlM (fun n c => (hexDigit? c).map (16 * n + ·)) 0

/-- The character that some hexadecimal digits at the start of a list number, if
    there are as many and they number one. -/
def numbered? (count : Nat) (chars : List Char) : Option Char := do
  let digits := chars.take count
  if digits.length < count then none
  let n ← hexNumber? digits
  if n.isValidChar then some (Char.ofNat n) else none

/-- What an escape stands for, and how many characters it takes after the
    backslash. -/
def escape? : List Char → Option (Char × Nat)
  | [] => none
  | c :: rest =>
    match c with
    | 'b' => some ('\x08', 1)
    | 't' => some ('\t', 1)
    | 'n' => some ('\n', 1)
    | 'f' => some ('\x0c', 1)
    | 'r' => some ('\r', 1)
    | 'e' => some ('\x1b', 1)
    | '"' => some ('"', 1)
    | '\\' => some ('\\', 1)
    | 'x' => (numbered? 2 rest).map (·, 3)
    | 'u' => (numbered? 4 rest).map (·, 5)
    | 'U' => (numbered? 8 rest).map (·, 9)
    | _ => none

/-- Whether every carriage return is followed by a line feed. -/
def linesEnd : List Char → Bool
  | [] => true
  | '\r' :: '\n' :: rest => linesEnd rest
  | c :: rest => c != '\r' && linesEnd rest

/-- How many characters after a backslash only join its line to what comes next,
    if its line ends there. -/
def joint? (chars : List Char) : Option Nat :=
  let gap := chars.takeWhile isSpace
  let hasEnd := match gap.dropWhile isBlank with
    | [] => false
    | _ => linesEnd gap
  if hasEnd then some gap.length else none

/-- The next piece of a text, given its first character and those after it: what
    it stands for, and how many of those after it belong to it. -/
def piece? (quoting : Quoting) (c : Char) (rest : List Char) : Option (List Char × Nat) :=
  if c = '\\' ∧ quoting.hasEscapes then
    match if quoting.isBlock then joint? rest else none with
    | some n => some ([], n)
    | none => (escape? rest).map fun (e, n) => ([e], n)
  else if c = '\n' ∧ quoting.isBlock then some (['\n'], 0)
  else if c = '\r' ∧ quoting.isBlock ∧ rest.head? = some '\n' then some (['\r', '\n'], 1)
  else if isPlain c then some ([c], 0)
  else none

/-- The end of a text, if it is here: the quotes that still belong to it, and how
    many characters it takes. -/
def end? (quoting : Quoting) (chars : List Char) : Option (List Char × Nat) :=
  let run := min 5 (chars.takeWhile (· == quoting.quote)).length
  if quoting.isBlock then
    if 3 ≤ run then some (List.replicate (run - 3) quoting.quote, run) else none
  else if 1 ≤ run then some ([], 1)
  else none

/-- A text up to its closing quotes, and what comes after them. -/
def readText? (quoting : Quoting) : List Char → Option (List Char × List Char)
  | [] => none
  | c :: rest =>
    match end? quoting (c :: rest) with
    | some (more, n) => some (more, rest.drop (n - 1))
    | none =>
      match piece? quoting c rest with
      | none => none
      | some (piece, n) =>
        (readText? quoting (rest.drop n)).map fun (text, after) => (piece ++ text, after)
termination_by chars => chars.length
decreasing_by
  rw [List.length_drop, List.length_cons]
  omega

/-- Something is read of every text. -/
theorem length_readText? {quoting : Quoting} {chars text after : List Char}
    (h : readText? quoting chars = some (text, after)) : after.length < chars.length := by
  fun_induction readText? quoting chars generalizing text with
  | case1 => exact absurd h (by simp)
  | case2 c rest more n hend =>
    simp only [Option.some.injEq, Prod.mk.injEq] at h
    rw [← h.2, List.length_drop, List.length_cons]
    omega
  | case3 => exact absurd h (by simp)
  | case4 c rest hend piece n hpiece ih =>
    -- A piece takes up at least its first character.
    obtain ⟨⟨more, last⟩, hmore, he⟩ := Option.map_eq_some_iff.1 h
    simp only [Prod.mk.injEq] at he
    have := ih (he.2 ▸ hmore)
    rw [List.length_drop] at this
    rw [List.length_cons]
    omega

end Settings

end ScriptBind
