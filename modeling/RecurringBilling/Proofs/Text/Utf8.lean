import Mathlib.Data.List.Basic
import RecurringBilling.Text.Utf8

/-!
# Reading back what was written in UTF-8

The bytes of a character are read as that character, whatever bytes follow, and as many
of them are passed over as the character took.  So a text is read back character by
character, and no byte of it is foreign.
-/

namespace RecurringBilling.Text.Utf8

/-! ## One character -/

theorem isTail_of_toNat {b : UInt8} {y : Nat} (hb : b.toNat = 128 + y) (hy : y < 64) :
    isTail b = true ∧ payload b = y := by
  simp only [isTail, payload, Bool.and_eq_true, decide_eq_true_eq, UInt8.le_iff_toNat_le, hb,
    UInt8.reduceToNat]
  omega

/-- A first byte of two, and one more. -/
theorem two?_of_toNat {a b : UInt8} {x y : Nat} (ha : a.toNat = 192 + x) (hb : b.toNat = 128 + y)
    (hx : x < 32) (hy : y < 64) (hlong : 2 ≤ x) :
    two? a b = some (Char.ofNat (x * 64 + y)) := by
  obtain ⟨htail, hpayload⟩ := isTail_of_toNat hb hy
  have hfirst : 0xC2 ≤ a ∧ a ≤ 0xDF := by
    simp only [UInt8.le_iff_toNat_le, ha, UInt8.reduceToNat]
    omega
  have hrest : a.toNat % 32 = x := by omega
  simp [two?, hfirst, htail, hpayload, hrest]

theorem two?_of_le {a b : UInt8} (ha : 224 ≤ a.toNat) : two? a b = none := by
  have hfirst : ¬a ≤ 0xDF := by
    simp only [UInt8.le_iff_toNat_le, UInt8.reduceToNat]
    omega
  simp [two?, hfirst]

theorem three?_of_toNat {a b c : UInt8} {x y z : Nat} (ha : a.toNat = 224 + x)
    (hb : b.toNat = 128 + y) (hc : c.toNat = 128 + z) (hx : x < 16) (hy : y < 64) (hz : z < 64)
    (hlong : 0x800 ≤ x * 4096 + y * 64 + z)
    (hchar : x * 4096 + y * 64 + z < 0xD800 ∨ 0xDFFF < x * 4096 + y * 64 + z) :
    three? a b c = some (Char.ofNat (x * 4096 + y * 64 + z)) := by
  obtain ⟨htailb, hpayloadb⟩ := isTail_of_toNat hb hy
  obtain ⟨htailc, hpayloadc⟩ := isTail_of_toNat hc hz
  have hfirst : 0xE0 ≤ a ∧ a ≤ 0xEF := by
    simp only [UInt8.le_iff_toNat_le, ha, UInt8.reduceToNat]
    omega
  have hrest : a.toNat % 16 = x := by omega
  have hscalar : 0xD800 ≤ x * 4096 + y * 64 + z → 0xDFFF < x * 4096 + y * 64 + z := by omega
  simpa [three?, htailb, htailc, hpayloadb, hpayloadc, hrest, hfirst, hlong] using hscalar

theorem three?_of_le {a b c : UInt8} (ha : 240 ≤ a.toNat) : three? a b c = none := by
  have hfirst : ¬a ≤ 0xEF := by
    simp only [UInt8.le_iff_toNat_le, UInt8.reduceToNat]
    omega
  simp [three?, hfirst]

theorem four?_of_toNat {a b c d : UInt8} {x y z w : Nat} (ha : a.toNat = 240 + x)
    (hb : b.toNat = 128 + y) (hc : c.toNat = 128 + z) (hd : d.toNat = 128 + w) (hx : x < 5)
    (hy : y < 64) (hz : z < 64) (hw : w < 64)
    (hlong : 0x10000 ≤ x * 262144 + y * 4096 + z * 64 + w)
    (hchar : x * 262144 + y * 4096 + z * 64 + w ≤ 0x10FFFF) :
    four? a b c d = some (Char.ofNat (x * 262144 + y * 4096 + z * 64 + w)) := by
  obtain ⟨htailb, hpayloadb⟩ := isTail_of_toNat hb hy
  obtain ⟨htailc, hpayloadc⟩ := isTail_of_toNat hc hz
  obtain ⟨htaild, hpayloadd⟩ := isTail_of_toNat hd hw
  have hfirst : 0xF0 ≤ a ∧ a ≤ 0xF4 := by
    simp only [UInt8.le_iff_toNat_le, ha, UInt8.reduceToNat]
    omega
  have hrest : a.toNat % 8 = x := by omega
  simp [four?, htailb, htailc, htaild, hpayloadb, hpayloadc, hpayloadd, hrest, hfirst, hlong,
    hchar]

/-! ## Looking at the first byte -/

section CharAt

variable {a b c d : UInt8} {ch : Char} (rest : List UInt8)

theorem charAt?_of_two (ha : 128 ≤ a.toNat) (h : two? a b = some ch) :
    charAt? a (b :: rest) = some (ch, 1) := by
  have hlong : ¬a < 0x80 := by simpa [UInt8.lt_iff_toNat_lt] using ha
  unfold charAt?
  rw [if_neg hlong]
  -- how much is looked at depends on how many bytes are left
  match rest with
  | [] => simp [h]
  | [_] => simp [h]
  | _ :: _ :: _ => simp [h]

theorem charAt?_of_three (ha : 224 ≤ a.toNat) (h : three? a b c = some ch) :
    charAt? a (b :: c :: rest) = some (ch, 2) := by
  have hlong : ¬a < 0x80 := by
    simp only [UInt8.lt_iff_toNat_lt, UInt8.reduceToNat]
    omega
  unfold charAt?
  rw [if_neg hlong]
  match rest with
  | [] => simp [two?_of_le ha, h]
  | _ :: _ => simp [two?_of_le ha, h]

theorem charAt?_of_four (ha : 240 ≤ a.toNat) (h : four? a b c d = some ch) :
    charAt? a (b :: c :: d :: rest) = some (ch, 3) := by
  have hlong : ¬a < 0x80 := by
    simp only [UInt8.lt_iff_toNat_lt, UInt8.reduceToNat]
    omega
  unfold charAt?
  rw [if_neg hlong]
  simp [two?_of_le (Nat.le_trans (by decide) ha), three?_of_le ha, h]

end CharAt

/-- The bytes of a character are read as that character, whatever follows them. -/
theorem charAt?_encodeChar (ch : Char) :
    ∃ a tail, String.utf8EncodeChar ch = a :: tail ∧
      ∀ rest, charAt? a (tail ++ rest) = some (ch, tail.length) := by
  have hread : ∀ n, n = ch.val.toNat → Char.ofNat n = ch := by
    rintro n rfl
    exact ch.ofNat_toNat
  have hvalid : ch.val.toNat < 0xD800 ∨ 0xDFFF < ch.val.toNat ∧ ch.val.toNat < 0x110000 :=
    ch.valid
  -- one case for each number of bytes, and in it each byte is its mark and its digits to base 64
  unfold String.utf8EncodeChar
  revert hread hvalid
  generalize ch.val.toNat = v
  intro hread hvalid
  dsimp only
  split
  · next hone =>
    refine ⟨_, [], rfl, fun rest => ?_⟩
    have hvalue : (UInt8.ofNat v).toNat = v := by
      rw [UInt8.toNat_ofNat']
      omega
    have hshort : UInt8.ofNat v < 0x80 := by
      rw [UInt8.lt_iff_toNat_lt, hvalue]
      exact Nat.lt_succ_of_le hone
    unfold charAt?
    rw [if_pos hshort, hvalue, hread v rfl]
    rfl
  · next hone =>
    split
    · next htwo =>
      refine ⟨_, [_], rfl, fun rest => charAt?_of_two rest ?_ ?_⟩
      · rw [UInt8.toNat_ofNat']
        omega
      · rw [two?_of_toNat (x := v / 64) (y := v % 64), hread _ (by omega)]
        all_goals first | rw [UInt8.toNat_ofNat']; omega | omega
    · next htwo =>
      split
      · next hthree =>
        refine ⟨_, [_, _], rfl, fun rest => charAt?_of_three rest ?_ ?_⟩
        · rw [UInt8.toNat_ofNat']
          omega
        · rw [three?_of_toNat (x := v / 4096) (y := v / 64 % 64) (z := v % 64), hread _ (by omega)]
          all_goals first | rw [UInt8.toNat_ofNat']; omega | omega
      · next hthree =>
        refine ⟨_, [_, _, _], rfl, fun rest => charAt?_of_four rest ?_ ?_⟩
        · rw [UInt8.toNat_ofNat']
          omega
        · rw [four?_of_toNat (x := v / 262144) (y := v / 4096 % 64) (z := v / 64 % 64)
            (w := v % 64), hread _ (by omega)]
          all_goals first | rw [UInt8.toNat_ofNat']; omega | omega

/-! ## Texts -/

theorem decodeAfter_append (tail rest : List UInt8) :
    decodeAfter tail.length (tail ++ rest) = decodeAfter 0 rest := by
  induction tail with
  | nil => rfl
  | cons b tail ih => exact ih

theorem decode_encodeChar_append (ch : Char) (rest : List UInt8) :
    decode (String.utf8EncodeChar ch ++ rest) = some ch :: decode rest := by
  obtain ⟨a, tail, hbytes, hread⟩ := charAt?_encodeChar ch
  rw [hbytes, List.cons_append, decode, decodeAfter, hread]
  simp only [decodeAfter_append, decode]

/-- A text is read back as it was written. -/
theorem decode_encode (s : List Char) : decode (encode s) = s.map some := by
  induction s with
  | nil => rfl
  | cons ch s ih =>
    rw [encode, List.flatMap_cons, decode_encodeChar_append]
    exact congrArg (some ch :: ·) ih

end RecurringBilling.Text.Utf8
