import ScriptBind.Text.StringLiteral

/-!
# Literals Are Read Back

A C compiler that reads the literal of a text finds the bytes of the text.

The reader is written here by the rules of C and knows nothing of how a literal is made: a
backslash before a quote or a backslash stands for that character, and a backslash before
octal digits takes all of them that follow, but three at most. The danger is in the last
rule, since a text may have a digit right behind a byte that has to be escaped. The escape
of a byte always has three digits, so the reader has had its fill when it gets there.

## Main definitions

* `Text.IsLiteralInside`: Characters that may stand between the quotes of a literal.
* `Text.readLiteral?`: The bytes that a literal stands for.

## Theorems

* `octalValue_escape`: Three octal digits of a byte stand for the byte.
* `literalByte_cases`: The three ways a byte is written.
* `readInside?_literalByte`: A byte is read back, whatever follows it.
* `stringLiteral_read_back`: A literal is well formed and stands for its text.
-/

namespace ScriptBind

namespace Text

/-- Whether a character is a digit of base eight. -/
def isOctalDigit (c : Char) : Bool := '0' ≤ c && c ≤ '7'

/-- The number that digits of base eight stand for, the first digit highest. -/
def octalValue (digits : List Char) : Nat :=
  digits.foldl (fun n digit => 8 * n + (digit.toNat - '0'.toNat)) 0

/-- The digits that an octal escape takes: as many as follow, but three at most. -/
def escapeDigits (text : List Char) : List Char := (text.take 3).takeWhile isOctalDigit

/-- Whether a character is printable ASCII. -/
def isPrintable (c : Char) : Bool := 0x20 ≤ c.toNat && c.toNat ≤ 0x7e

/-- The bytes that the rest of a literal stands for. The first quote that is not escaped
    closes the literal, and nothing may follow it. -/
def readInside? : List Char → Option (List UInt8)
  | [] => none
  | c :: rest =>
    if c = '"' then if rest.isEmpty then some [] else none
    else if c = '\\' then
      match rest with
      | [] => none
      | d :: after =>
        if d = '"' ∨ d = '\\' then (readInside? after).map (d.toNat.toUInt8 :: ·)
        else
          let digits := escapeDigits (d :: after)
          if digits.isEmpty ∨ 256 ≤ octalValue digits then none
          else
            (readInside? ((d :: after).drop digits.length)).map
              ((octalValue digits).toUInt8 :: ·)
    else if isPrintable c then (readInside? rest).map (c.toNat.toUInt8 :: ·)
    else none
termination_by text => text.length
decreasing_by all_goals simp only [List.length_cons, List.length_drop]; omega

/-- The bytes that a literal stands for, if it is one literal and nothing more. -/
def readLiteral? (literal : String) : Option (List UInt8) :=
  match literal.toList with
  | '"' :: rest => readInside? rest
  | _ => none

/-- Characters that may stand between the quotes of a literal: printable ones that are
    neither quote nor backslash, and escapes. -/
inductive IsLiteralInside : List Char → Prop where
  /-- Nothing at all. -/
  | empty : IsLiteralInside []
  /-- A character that stands for itself. -/
  | plain {c : Char} {rest : List Char} (hc : isPrintable c) (hq : c ≠ '"') (hb : c ≠ '\\')
      (h : IsLiteralInside rest) : IsLiteralInside (c :: rest)
  /-- A quote or a backslash behind a backslash. -/
  | escaped {c : Char} {rest : List Char} (hc : c = '"' ∨ c = '\\') (h : IsLiteralInside rest) :
      IsLiteralInside ('\\' :: c :: rest)
  /-- One to three octal digits behind a backslash. -/
  | octal {digits rest : List Char} (hn : digits ≠ []) (hl : digits.length ≤ 3)
      (hd : digits.all isOctalDigit) (h : IsLiteralInside rest) :
      IsLiteralInside ('\\' :: (digits ++ rest))

section Digits

theorem isOctalDigit_octalDigit (n : Nat) : isOctalDigit (octalDigit n) = true := by
  unfold octalDigit
  have h : n % 8 < 8 := Nat.mod_lt n (by decide)
  generalize n % 8 = k at h
  revert k
  decide

theorem toNat_octalDigit (n : Nat) : (octalDigit n).toNat - '0'.toNat = n % 8 := by
  unfold octalDigit
  have h : n % 8 < 8 := Nat.mod_lt n (by decide)
  generalize n % 8 = k at h
  revert k
  decide

/-- Three octal digits of a byte stand for the byte. -/
theorem octalValue_escape {n : Nat} (h : n < 256) :
    octalValue [octalDigit (n / 64), octalDigit (n / 8), octalDigit n] = n := by
  simp only [octalValue, List.foldl_cons, List.foldl_nil, toNat_octalDigit]
  omega

/-- An escape of three digits takes no more, even if more digits follow. -/
theorem escapeDigits_escape (a b c : Nat) (rest : List Char) :
    escapeDigits (octalDigit a :: octalDigit b :: octalDigit c :: rest) =
      [octalDigit a, octalDigit b, octalDigit c] := by
  simp only [escapeDigits, List.take_succ_cons, List.take_zero, List.takeWhile_cons,
    isOctalDigit_octalDigit, if_true, List.takeWhile_nil]

end Digits

section Bytes

/-- A byte is written in one of three ways: as the character it stands for behind a
    backslash, as that character alone, or as three octal digits. -/
theorem literalByte_cases (byte : UInt8) :
    (∃ c, literalByte byte = ['\\', c] ∧ (c = '"' ∨ c = '\\') ∧ c.toNat = byte.toNat) ∨
    (∃ c, literalByte byte = [c] ∧ isPrintable c ∧ c ≠ '"' ∧ c ≠ '\\' ∧ c.toNat = byte.toNat) ∨
    literalByte byte = ['\\', octalDigit (byte.toNat / 64), octalDigit (byte.toNat / 8),
      octalDigit byte.toNat] := by
  unfold literalByte
  simp only
  split
  · next hq => exact .inl ⟨'"', rfl, .inl rfl, hq.symm⟩
  · next hq =>
    split
    · next hb => exact .inl ⟨'\\', rfl, .inr rfl, hb.symm⟩
    · next hb =>
      split
      · next hp =>
        have hc : (Char.ofNat byte.toNat).toNat = byte.toNat :=
          toNat_ofNat_ascii (Nat.lt_of_le_of_lt hp.2 (by decide))
        refine .inr (.inl ⟨_, rfl, ?_, fun he => hq ?_, fun he => hb ?_, hc⟩)
        · rw [isPrintable, hc, Bool.and_eq_true, decide_eq_true_eq, decide_eq_true_eq]
          exact hp
        · rw [← hc, he]
        · rw [← hc, he]
      · exact .inr (.inr rfl)

/-- A byte may stand in front of whatever may stand in a literal. -/
theorem isLiteralInside_append (byte : UInt8) {rest : List Char} (h : IsLiteralInside rest) :
    IsLiteralInside (literalByte byte ++ rest) := by
  rcases literalByte_cases byte with ⟨c, hw, hc, -⟩ | ⟨c, hw, hc, hq, hb, -⟩ | hw
  · exact hw ▸ .escaped hc h
  · exact hw ▸ .plain hc hq hb h
  · refine hw ▸ .octal (List.cons_ne_nil _ [_, _]) (Nat.le_refl 3) ?_ h
    simp only [List.all_cons, List.all_nil, isOctalDigit_octalDigit, Bool.and_self]

end Bytes

section Reading

variable {c : Char} {rest : List Char}

theorem readInside?_plain (hc : isPrintable c) (hq : c ≠ '"') (hb : c ≠ '\\') :
    readInside? (c :: rest) = (readInside? rest).map (c.toNat.toUInt8 :: ·) := by
  rw [readInside?.eq_def]
  simp only [if_neg hq, if_neg hb, if_pos hc]

theorem readInside?_escaped (hc : c = '"' ∨ c = '\\') :
    readInside? ('\\' :: c :: rest) = (readInside? rest).map (c.toNat.toUInt8 :: ·) := by
  rw [readInside?, if_neg (by decide), if_pos rfl]
  simp only [if_pos hc]

/-- Three octal digits that stand for no more than a byte are read as that byte. -/
theorem readInside?_octal {n : Nat} (hn : n < 256) :
    readInside? ('\\' :: octalDigit (n / 64) :: octalDigit (n / 8) :: octalDigit n :: rest) =
      (readInside? rest).map (n.toUInt8 :: ·) := by
  have hdigit := isOctalDigit_octalDigit (n / 64)
  have hmark : ¬(octalDigit (n / 64) = '"' ∨ octalDigit (n / 64) = '\\') := by
    rintro (he | he) <;> rw [he] at hdigit <;> exact absurd hdigit (by decide)
  rw [readInside?, if_neg (by decide), if_pos rfl]
  simp only [if_neg hmark, escapeDigits_escape, octalValue_escape hn, List.isEmpty_cons,
    Bool.false_eq_true, false_or, if_neg (Nat.not_le.2 hn), List.length_cons, List.length_nil,
    List.drop_succ_cons, List.drop_zero]

-- Three digits leave the digit behind them alone; two would take it.
example : readLiteral? "\"\\0017\\17\"" = some [1, 55, 15] := by cbv

/-- A byte is read back, whatever follows it. -/
theorem readInside?_literalByte (byte : UInt8) (rest : List Char) :
    readInside? (literalByte byte ++ rest) = (readInside? rest).map (byte :: ·) := by
  have hbyte : byte.toNat.toUInt8 = byte := UInt8.ofNat_toNat
  rcases literalByte_cases byte with ⟨c, hw, hc, hn⟩ | ⟨c, hw, hc, hq, hb, hn⟩ | hw
  · rw [hw, List.cons_append, List.singleton_append, readInside?_escaped hc, hn, hbyte]
  · rw [hw, List.singleton_append, readInside?_plain hc hq hb, hn, hbyte]
  · rw [hw, List.cons_append, List.cons_append, List.cons_append, List.singleton_append,
      readInside?_octal (UInt8.toNat_lt_size byte), hbyte]

/-- The bytes between the quotes are read back. -/
theorem readInside?_flatMap (bytes : List UInt8) :
    readInside? (bytes.flatMap literalByte ++ ['"']) = some bytes := by
  induction bytes with
  | nil =>
      rw [List.flatMap_nil, List.nil_append, readInside?, if_pos rfl, List.isEmpty_nil, if_pos rfl]
  | cons byte rest ih =>
    rw [List.flatMap_cons, List.append_assoc, readInside?_literalByte, ih, Option.map_some]

/-- The literal of a text is a quote, printable ASCII in which quotes and backslashes stand
    in escapes only, and a quote, and by the rules of C it stands for the bytes of the
    text. -/
theorem stringLiteral_read_back (text : String) :
    (∃ inside, (stringLiteral text).toList = '"' :: inside ++ ['"'] ∧ IsLiteralInside inside ∧
      ∀ c ∈ inside, isPrintable c) ∧
    readLiteral? (stringLiteral text) = some (utf8Bytes text) := by
  have hlist : (stringLiteral text).toList = '"' :: (utf8Bytes text).flatMap literalByte ++ ['"'] :=
    String.toList_ofList
  refine ⟨⟨_, hlist, ?_, fun c hc => ?_⟩, ?_⟩
  · induction utf8Bytes text with
    | nil => exact .empty
    | cons byte rest ih => exact List.flatMap_cons ▸ isLiteralInside_append byte ih
  · obtain ⟨byte, -, hmem⟩ := List.mem_flatMap.1 hc
    rw [isPrintable, Bool.and_eq_true, decide_eq_true_eq, decide_eq_true_eq]
    exact literalByte_printable byte c hmem
  · rw [readLiteral?, hlist]
    exact readInside?_flatMap _

end Reading

end Text

end ScriptBind
