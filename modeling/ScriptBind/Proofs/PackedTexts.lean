import Mathlib.Data.List.DropRight
import ScriptBind.Proofs.GroupMembers
import ScriptBind.Text.StringLiteral

/-!
# Packed Texts Are Read Back

An enumerator marked as a text becomes one exactly when its value holds one: a number of
32 bits whose bytes, lowest first and without the zeros at their end, are UTF-8. The bytes
of the text are then those bytes, and padded with zeros again they are the number, so no
text stands for two values. Zeros inside the text are kept, and zero itself is the empty
text.

Whatever is marked but holds no text is shown as the number it is, under its own name. That
an underscore in front makes an enumerator private does not count here.

## Main definitions

* `PackedText.littleEndian`: A given number of bytes of a number, lowest first.
* `PackedText.HoldsText`: Whether a value holds a text.

## Theorems

* `lowBytes_eq_rdropWhile`: What unpacking reads are the bytes without the zeros at their end.
* `rightpad_lowBytes`: Padded, they are all bytes again.
* `unpack?_eq_some_iff`: When a value is unpacked to a text.
* `Enums.members_single`: An enumerator that is alone in its enum is shown as what it becomes.
* `Enums.marked_read_back`: What becomes of an enumerator that is marked as a text.
-/

namespace ScriptBind

namespace PackedText

/-- A given number of bytes of a number, lowest first. -/
def littleEndian : Nat → Nat → List UInt8
  | 0, _ => []
  | count + 1, n => n.toUInt8 :: littleEndian count (n / 256)

/-- The bytes that a value of 32 bits has for a text: those up to the last that is not
    zero. -/
def textBytes (value : Int64) : List UInt8 :=
  (littleEndian 4 value.toInt.toNat).rdropWhile (· == 0)

/-- Whether a value holds a text: it is a number of 32 bits, and its bytes up to the last
    that is not zero are UTF-8. -/
def HoldsText (value : Int64) : Prop :=
  (0 ≤ value.toInt ∧ value.toInt < 0x100000000) ∧ ByteArray.IsValidUTF8 ⟨(textBytes value).toArray⟩

section Bytes

variable {count n : Nat}

theorem littleEndian_zero (count : Nat) : littleEndian count 0 = List.replicate count 0 := by
  induction count with
  | zero => rfl
  | succ count ih => rw [littleEndian, Nat.zero_div, ih, List.replicate_succ]; rfl

theorem length_littleEndian (count n : Nat) : (littleEndian count n).length = count := by
  induction count generalizing n with
  | zero => rfl
  | succ count ih => rw [littleEndian, List.length_cons, ih]

/-- Padded with zeros, the low bytes of a number are all of its bytes. -/
theorem rightpad_lowBytes (count n : Nat) :
    (lowBytes count n).rightpad count 0 = littleEndian count n := by
  induction count generalizing n with
  | zero => rfl
  | succ count ih =>
      rw [lowBytes]
      split
      · next h0 => rw [h0, littleEndian_zero, List.rightpad]; rfl
      · rw [littleEndian, ← ih, List.rightpad, List.rightpad, List.cons_append, List.length_cons,
          Nat.add_sub_add_right]

theorem length_lowBytes_le (count n : Nat) : (lowBytes count n).length ≤ count := by
  have hlength := congrArg List.length (rightpad_lowBytes count n)
  rw [List.length_rightpad, length_littleEndian] at hlength
  omega

theorem div_lt_of_fits (h : n < Nat.pow 256 (count + 1)) : n / 256 < Nat.pow 256 count := by
  rw [Nat.pow, Nat.mul_eq, Nat.mul_comm] at h
  exact Nat.div_lt_of_lt_mul h

/-- All bytes of a number that fits them are the number again. -/
theorem ofLowBytes_littleEndian (h : n < Nat.pow 256 count) :
    ofLowBytes (littleEndian count n) = n := by
  induction count generalizing n with
  | zero => exact (Nat.lt_one_iff.1 h).symm
  | succ count ih =>
      rw [littleEndian, ofLowBytes, ih (div_lt_of_fits h), Nat.toUInt8_eq, UInt8.toNat_ofNat']
      omega

/-- The low bytes of a number that fits them do not end in a zero. -/
theorem getLast_lowBytes_ne_zero (h : n < Nat.pow 256 count) (hne : lowBytes count n ≠ []) :
    (lowBytes count n).getLast hne ≠ 0 := by
  induction count generalizing n with
  | zero => exact absurd rfl hne
  | succ count ih =>
      by_cases h0 : n = 0
      · subst h0
        exact absurd rfl hne
      · have hcons : lowBytes (count + 1) n = n.toUInt8 :: lowBytes count (n / 256) := by
          rw [lowBytes, if_neg h0]
        simp only [hcons]
        by_cases hnil : lowBytes count (n / 256) = []
        · -- The last byte is the only one, so it is the number.
          have hn : n / 256 = 0 := by
            rw [← ofLowBytes_lowBytes (div_lt_of_fits h), hnil, ofLowBytes]
          simp only [hnil, List.getLast_singleton]
          intro he
          have hbyte := congrArg UInt8.toNat he
          rw [Nat.toUInt8_eq, UInt8.toNat_ofNat', UInt8.toNat_zero] at hbyte
          omega
        · rw [List.getLast_cons hnil]
          exact ih (div_lt_of_fits h) hnil

/-- Zeros at the end are dropped, and no more if there is something else in front. -/
theorem rdropWhile_append_replicate {bytes : List UInt8}
    (h : ∀ hne : bytes ≠ [], bytes.getLast hne ≠ 0)
    (zeros : Nat) : (bytes ++ List.replicate zeros 0).rdropWhile (· == 0) = bytes := by
  induction zeros with
  | zero =>
      rw [List.replicate_zero, List.append_nil, List.rdropWhile_eq_self_iff]
      exact fun hne he => h hne (beq_iff_eq.1 he)
  | succ zeros ih =>
      rw [List.replicate_succ', ← List.append_assoc, List.rdropWhile_concat_pos _ _ _ rfl, ih]

/-- The low bytes of a number are its bytes up to the last that is not zero. -/
theorem lowBytes_eq_rdropWhile (h : n < Nat.pow 256 count) :
    lowBytes count n = (littleEndian count n).rdropWhile (· == 0) := by
  rw [← rightpad_lowBytes, List.rightpad]
  exact (rdropWhile_append_replicate (getLast_lowBytes_ne_zero h) _).symm

end Bytes

section Unpacking

variable {value : Int64} {text : String}

/-- Bytes are read as the text that has them. -/
theorem fromUTF8?_eq_some_iff {bytes : List UInt8} :
    String.fromUTF8? ⟨bytes.toArray⟩ = some text ↔ Text.utf8Bytes text = bytes := by
  have hbytes : text.toUTF8 = ⟨bytes.toArray⟩ ↔ Text.utf8Bytes text = bytes := by
    refine ⟨fun h => by rw [Text.utf8Bytes, h], fun h => ByteArray.ext ?_⟩
    rw [← h, Text.utf8Bytes, Array.toArray_toList]
  rw [← hbytes]
  unfold String.fromUTF8?
  split
  · next hv =>
    rw [Option.some.injEq, ← String.toByteArray_inj]
    exact eq_comm
  · next hv => exact ⟨(fun h => by cases h), fun h => absurd (h ▸ text.isValidUTF8) hv⟩

/-- Bytes are UTF-8 if they are the bytes of some text. -/
theorem isValidUTF8_iff {bytes : List UInt8} :
    ByteArray.IsValidUTF8 ⟨bytes.toArray⟩ ↔ ∃ text, Text.utf8Bytes text = bytes := by
  constructor
  · intro hv
    exact ⟨String.fromUTF8 _ hv, rfl⟩
  · rintro ⟨text, rfl⟩
    exact text.isValidUTF8

/-- A value of 32 bits fits four bytes. -/
theorem fits_of_range (h : 0 ≤ value.toInt ∧ value.toInt < 0x100000000) :
    value.toInt.toNat < Nat.pow 256 4 := by
  have hfour : Nat.pow 256 4 = 0x100000000 := by decide
  omega

/-- A value is unpacked to the text that has its bytes. -/
theorem unpack?_eq_some_iff :
    unpack? value = some text ↔
      (0 ≤ value.toInt ∧ value.toInt < 0x100000000) ∧ Text.utf8Bytes text = textBytes value := by
  by_cases hrange : 0 ≤ value.toInt ∧ value.toInt < 0x100000000
  · rw [unpack?]
    simp only [if_pos hrange]
    rw [fromUTF8?_eq_some_iff, lowBytes_eq_rdropWhile (fits_of_range hrange), ← textBytes]
    exact ⟨fun h => ⟨hrange, h⟩, fun h => h.2⟩
  · rw [unpack?]
    simp only [if_neg hrange]
    exact ⟨(fun h => by cases h), fun h => absurd h.1 hrange⟩

/-- A value holds a text if it is unpacked to one. -/
theorem holdsText_iff : HoldsText value ↔ ∃ text, unpack? value = some text := by
  simp only [unpack?_eq_some_iff, exists_and_left, HoldsText, isValidUTF8_iff]

/-- Padded with zeros to four, the bytes of an unpacked text are the value. -/
theorem ofLowBytes_of_unpack? (h : unpack? value = some text) :
    (Text.utf8Bytes text).length ≤ 4 ∧
      (ofLowBytes ((Text.utf8Bytes text).rightpad 4 0) : Int) = value.toInt := by
  obtain ⟨hrange, hbytes⟩ := unpack?_eq_some_iff.1 h
  have hfits := fits_of_range hrange
  have hlow : Text.utf8Bytes text = lowBytes 4 value.toInt.toNat := by
    rw [hbytes, textBytes, lowBytes_eq_rdropWhile hfits]
  rw [hlow, rightpad_lowBytes, ofLowBytes_littleEndian hfits]
  exact ⟨length_lowBytes_le .., Int.toNat_of_nonneg hrange.1⟩

end Unpacking

end PackedText

namespace Enums

open PackedText

section Marked

variable {naming : Naming} {name full : String} {value : Int64}

/-- One member that joins no groups is all that they have. -/
theorem values_addGroup_single (member : EnumValue) :
    (addGroup .empty [member]).values.flatMap (·.members.values) = [member] := rfl

/-- An enumerator that is alone in its enum is shown as what it becomes, and nothing else
    is. -/
theorem members_single (naming : Naming) (name : String) (value : Int64) :
    (groups naming [[⟨name, some value⟩]]).values.flatMap (·.members.values) =
      (classify naming name value).toList := by
  have hshown : ∀ isText, shown naming [⟨name, some value⟩] isText =
      (classify naming name value).toList.filter (·.isText == isText) := by
    intro isText
    have hnumbered : numbered [⟨name, some value⟩] = [(name, value)] := rfl
    simp only [shown, hnumbered, List.filterMap_cons, List.filterMap_nil]
    cases classify naming name value <;> rfl
  have hgroups : groups naming [[⟨name, some value⟩]] =
      addGroup (addGroup .empty (shown naming [⟨name, some value⟩] false))
        (shown naming [⟨name, some value⟩] true) := addEnum_eq _ _
  rw [hgroups, hshown, hshown]
  cases classify naming name value with
  | none => rfl
  | some member =>
      cases member with
      | number cName number => exact values_addGroup_single (.number cName number)
      | text cName text => exact values_addGroup_single (.text cName text)

/-- An enumerator marked as a text is shown as a text, under its full name, exactly when
    its value holds one. The bytes of the text are those of the value, up to the last that
    is not zero; padded with zeros to four and read lowest first they are the value, so no
    other value is shown as the same text. Every other marked enumerator is shown as a
    number under its own name with its value, private or not. -/
theorem marked_read_back (naming : Naming) {name full : String} (value : Int64)
    (hmark : naming.stringConstant? name = some full) :
    ((∃ text, classify naming name value = some (.text full text)) ↔ HoldsText value) ∧
    (∀ text, classify naming name value = some (.text full text) →
      Text.utf8Bytes text = textBytes value ∧ (Text.utf8Bytes text).length ≤ 4 ∧
      (ofLowBytes ((Text.utf8Bytes text).rightpad 4 0) : Int) = value.toInt ∧
      ∀ other otherFull otherValue,
        classify naming other otherValue = some (.text otherFull text) → otherValue = value) ∧
    (¬HoldsText value → classify naming name value = some (.number name value)) ∧
    (groups naming [[⟨name, some value⟩]]).values.flatMap (·.members.values) =
      (classify naming name value).toList := by
  have htext : ∀ text, classify naming name value = some (.text full text) ↔
      unpack? value = some text :=
    fun text => ⟨fun h => (eq_of_classify_text h).2, classify_of_text hmark⟩
  refine ⟨by simp only [htext, holdsText_iff], fun text h => ?_, fun h => ?_, members_single ..⟩
  · have hunpack := (htext text).1 h
    obtain ⟨hlength, hvalue⟩ := ofLowBytes_of_unpack? hunpack
    refine ⟨(unpack?_eq_some_iff.1 hunpack).2, hlength, hvalue,
      fun other otherFull otherValue h' => ?_⟩
    have hother := (ofLowBytes_of_unpack? (eq_of_classify_text h').2).2
    exact Int64.toInt_inj.1 (hother.symm.trans hvalue)
  · have hnone : unpack? value = none :=
      Option.eq_none_iff_forall_ne_some.2 fun text ht => h (holdsText_iff.2 ⟨text, ht⟩)
    rw [classify, hmark]
    simp only [hnone]

/-- Of two symbols one holds a text, with a zero between two letters, and the other, which is
    private but for its mark, is the number that it is. -/
theorem symbols_read_back :
    lvNaming.stringConstant? "LV_STR_A_A" = some "LV_A_A" ∧
    classify lvNaming "LV_STR_A_A" 0x410041 = some (.text "LV_A_A" "A\x00A") ∧
    (ofLowBytes ((Text.utf8Bytes "A\x00A").rightpad 4 0) : Int) = (0x410041 : Int64).toInt ∧
    lvNaming.stringConstant? "_LV_STR_BROKEN" = some "LV_BROKEN" ∧ ¬HoldsText (-1) ∧
    classify lvNaming "_LV_STR_BROKEN" (-1) = some (.number "_LV_STR_BROKEN" (-1)) := by
  have hmark : lvNaming.stringConstant? "LV_STR_A_A" = some "LV_A_A" := by decide +kernel
  have htext : classify lvNaming "LV_STR_A_A" 0x410041 = some (.text "LV_A_A" "A\x00A") := by
    decide +kernel
  have hmark' : lvNaming.stringConstant? "_LV_STR_BROKEN" = some "LV_BROKEN" := by decide +kernel
  have hbroken : ¬HoldsText (-1) := fun h => absurd h.1.1 (by decide)
  exact ⟨hmark, htext, ((marked_read_back lvNaming 0x410041 hmark).2.1 _ htext).2.2.1, hmark',
    hbroken, (marked_read_back lvNaming (-1) hmark').2.2.1 hbroken⟩

end Marked

end Enums

end ScriptBind
