/-!
# C String Literals

Any text as a C string literal on one line.

The literal is written byte by byte in UTF-8. A byte that cannot stand for
itself becomes an octal escape of exactly three digits: C reads at most three,
so a digit that follows the escape is not swallowed by it.

## Main definitions

* `literalByte`: A byte as it stands in a literal.
* `stringLiteral`: A text as a literal.

## Theorems

* `literalByte_printable`: A byte in a literal is written in printable ASCII.
-/

namespace ScriptBind

namespace Text

/-- A digit of base eight. -/
def octalDigit (n : Nat) : Char := Char.ofNat ('0'.toNat + n % 8)

/-- A byte as it stands in a literal. -/
def literalByte (byte : UInt8) : List Char :=
  let n := byte.toNat
  if n = '"'.toNat then ['\\', '"']
  else if n = '\\'.toNat then ['\\', '\\']
  else if 0x20 ≤ n ∧ n ≤ 0x7e then [Char.ofNat n]
  else ['\\', octalDigit (n / 64), octalDigit (n / 8), octalDigit n]

/-- The bytes of a text in UTF-8. -/
def utf8Bytes (text : String) : List UInt8 := text.toUTF8.data.toList

/-- A text as a literal. -/
def stringLiteral (text : String) : String :=
  String.ofList ('"' :: (utf8Bytes text).flatMap literalByte ++ ['"'])

theorem toNat_ofNat_ascii {n : Nat} (h : n < 128) : (Char.ofNat n).toNat = n := by
  revert h
  revert n
  decide

theorem octalDigit_printable (n : Nat) :
    0x20 ≤ (octalDigit n).toNat ∧ (octalDigit n).toNat ≤ 0x7e := by
  unfold octalDigit
  have h : n % 8 < 8 := Nat.mod_lt n (by decide)
  generalize n % 8 = k at h
  revert k
  decide

/-- A byte in a literal is written in printable ASCII. -/
theorem literalByte_printable (byte : UInt8) :
    ∀ c ∈ literalByte byte, 0x20 ≤ c.toNat ∧ c.toNat ≤ 0x7e := by
  intro c hc
  unfold literalByte at hc
  simp only at hc
  split at hc
  · -- A quote goes behind a backslash.
    simp only [List.mem_cons, List.not_mem_nil, or_false] at hc
    rcases hc with rfl | rfl <;> decide
  · split at hc
    · simp only [List.mem_cons, List.not_mem_nil, or_false, or_self] at hc
      subst hc
      decide
    · split at hc
      · next h =>
        rw [List.mem_singleton] at hc
        subst hc
        rw [toNat_ofNat_ascii (by omega)]
        exact h
      · simp only [List.mem_cons, List.not_mem_nil, or_false] at hc
        rcases hc with rfl | rfl | rfl | rfl
        · decide
        all_goals exact octalDigit_printable _

end Text

end ScriptBind
