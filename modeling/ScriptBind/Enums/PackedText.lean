/-!
# Text Packed into a Number

A string enumerator holds up to four bytes of UTF-8 in its value, the first
byte lowest. Zero bytes at the end are padding and do not belong to the text.

## Main definitions

* `lowBytes`: The bytes of a number, lowest first, without the zeros at its
  end.
* `ofLowBytes`: The number that bytes stand for.
* `unpack?`: The text packed into a value, if there is one.

## Theorems

* `ofLowBytes_lowBytes`: Bytes lose nothing of a number that fits them.
-/

namespace ScriptBind

namespace PackedText

/-- At most so many bytes of a number, lowest first, until nothing is left. -/
def lowBytes : Nat → Nat → List UInt8
  | 0, _ => []
  | count + 1, n => if n = 0 then [] else n.toUInt8 :: lowBytes count (n / 256)

/-- The number that bytes stand for, lowest first. -/
def ofLowBytes : List UInt8 → Nat
  | [] => 0
  | byte :: rest => byte.toNat + 256 * ofLowBytes rest

/-- Bytes lose nothing of a number that fits them. -/
theorem ofLowBytes_lowBytes {count n : Nat} (h : n < Nat.pow 256 count) :
    ofLowBytes (lowBytes count n) = n := by
  induction count generalizing n with
  | zero =>
    rw [Nat.pow, Nat.lt_one_iff] at h
    rw [h, lowBytes, ofLowBytes]
  | succ count ih =>
    rw [lowBytes]
    split
    · -- Zero has no bytes, whatever the room for them.
      next h0 => rw [h0, ofLowBytes]
    · rw [ofLowBytes, ih]
      · rw [Nat.toUInt8_eq, UInt8.toNat_ofNat']
        omega
      · rw [Nat.pow, Nat.mul_eq] at h
        omega

/-- The text packed into a value. A value that needs more than four bytes, or
    whose bytes are not UTF-8, holds none. -/
def unpack? (value : Int64) : Option String :=
  let n := value.toInt
  if 0 ≤ n ∧ n < 0x100000000 then String.fromUTF8? ⟨(lowBytes 4 n.toNat).toArray⟩ else none

end PackedText

end ScriptBind
