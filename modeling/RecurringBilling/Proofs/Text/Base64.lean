import Mathlib.Data.List.Basic
import RecurringBilling.Text.Base64

/-!
# Base 64 is exact

In the alphabet for addresses the digits and the numbers below 64 determine each other.  So
reading undoes writing, and a text that is read as some bytes is what these bytes are
written as: no two texts are read as the same bytes.  No digit is a dot, so written bytes
can stand between dots.
-/

namespace RecurringBilling.Text.Base64

/-! ## Digits -/

theorem value?_digit {n : Nat} (hn : n < 64) :
    Alphabet.url.value? (Alphabet.url.digit n) = some n := by
  revert n
  decide

/-- A digit and its value determine each other. -/
theorem value?_eq_some_iff {c : Char} {n : Nat} :
    Alphabet.url.value? c = some n ↔ n < 64 ∧ c = Alphabet.url.digit n := by
  constructor
  · intro h
    -- a digit is what is written for its value, because it is the character of its code
    have hcode : ∀ k, k = c.toNat → c = Char.ofNat k := by
      rintro k rfl
      exact c.ofNat_toNat.symm
    unfold Alphabet.value? at h
    unfold Alphabet.digit
    split at h
    · next hupper =>
      obtain rfl := Option.some.inj h
      refine ⟨by omega, ?_⟩
      rw [if_pos (by omega)]
      exact hcode _ (by omega)
    · split at h
      · next hlower =>
        obtain rfl := Option.some.inj h
        refine ⟨by omega, ?_⟩
        rw [if_neg (by omega), if_pos (by omega)]
        exact hcode _ (by omega)
      · split at h
        · next hdecimal =>
          obtain rfl := Option.some.inj h
          refine ⟨by omega, ?_⟩
          rw [if_neg (by omega), if_neg (by omega), if_pos (by omega)]
          exact hcode _ (by omega)
        · split at h
          · next h62 =>
            obtain rfl := Option.some.inj h
            exact ⟨by decide, h62⟩
          · split at h
            · next h63 =>
              obtain rfl := Option.some.inj h
              exact ⟨by decide, h63⟩
            · cases h
  · rintro ⟨hn, rfl⟩
    exact value?_digit hn

theorem digit_ne_dot (n : Nat) : Alphabet.url.digit n ≠ '.' := by
  by_cases hn : n < 63
  · revert n
    decide
  · have hlast : Alphabet.url.digit n = '_' := by
      unfold Alphabet.digit
      rw [if_neg (by omega), if_neg (by omega), if_neg (by omega), if_neg (by omega)]
      rfl
    rw [hlast]
    decide

theorem dot_not_mem_encode (bytes : List UInt8) : '.' ∉ encode .url bytes := by
  fun_induction encode Alphabet.url bytes with
  | case1 a b c rest ih => simp [ih, (digit_ne_dot _).symm]
  | case2 a b => simp [(digit_ne_dot _).symm]
  | case3 a => simp [(digit_ne_dot _).symm]
  | case4 => simp

/-! ## Writing and reading -/

theorem decode_encode (bytes : List UInt8) : decode .url (encode .url bytes) = some bytes := by
  fun_induction encode Alphabet.url bytes with
  | case1 a b c rest ih =>
    have ha := a.toNat_lt
    have hb := b.toNat_lt
    have hc := c.toNat_lt
    rw [decode, value?_digit (by omega), value?_digit (by omega), value?_digit (by omega),
      value?_digit (by omega)]
    simp only [ih, Option.map_some, Option.some.injEq, List.cons.injEq, and_true]
    refine ⟨?_, ?_, ?_⟩
    all_goals
      rw [← UInt8.toNat_inj, UInt8.toNat_ofNat']
      omega
  | case2 a b =>
    have ha := a.toNat_lt
    have hb := b.toNat_lt
    rw [decode, value?_digit (by omega), value?_digit (by omega), value?_digit (by omega)]
    simp only
    rw [if_pos (by omega)]
    simp only [Option.some.injEq, List.cons.injEq, and_true]
    refine ⟨?_, ?_⟩
    all_goals
      rw [← UInt8.toNat_inj, UInt8.toNat_ofNat']
      omega
  | case3 a =>
    have ha := a.toNat_lt
    rw [decode, value?_digit (by omega), value?_digit (by omega)]
    simp only
    rw [if_pos (by omega)]
    simp only [Option.some.injEq, List.cons.injEq, and_true]
    rw [← UInt8.toNat_inj, UInt8.toNat_ofNat']
    omega
  | case4 => rfl

/-- What is read as some bytes is what these bytes are written as. -/
theorem encode_of_decode {s : List Char} {bytes : List UInt8} (h : decode .url s = some bytes) :
    encode .url bytes = s := by
  fun_induction decode Alphabet.url s generalizing bytes with
  | case1 a b c d rest w x y z ha hb hc hd ih =>
    obtain ⟨tail, htail, rfl⟩ := Option.map_eq_some_iff.mp h
    obtain ⟨hw, rfl⟩ := value?_eq_some_iff.mp ha
    obtain ⟨hx, rfl⟩ := value?_eq_some_iff.mp hb
    obtain ⟨hy, rfl⟩ := value?_eq_some_iff.mp hc
    obtain ⟨hz, rfl⟩ := value?_eq_some_iff.mp hd
    simp only [encode, UInt8.toNat_ofNat', ih htail, List.cons.injEq, and_true]
    refine ⟨?_, ?_, ?_, ?_⟩ <;> exact congrArg _ (by omega)
  | case3 a b c w x y ha hb hc hlow =>
    obtain rfl := Option.some.inj h
    obtain ⟨hw, rfl⟩ := value?_eq_some_iff.mp ha
    obtain ⟨hx, rfl⟩ := value?_eq_some_iff.mp hb
    obtain ⟨hy, rfl⟩ := value?_eq_some_iff.mp hc
    simp only [encode, UInt8.toNat_ofNat', List.cons.injEq, and_true]
    refine ⟨?_, ?_, ?_⟩ <;> exact congrArg _ (by omega)
  | case6 a b w x ha hb hlow =>
    obtain rfl := Option.some.inj h
    obtain ⟨hw, rfl⟩ := value?_eq_some_iff.mp ha
    obtain ⟨hx, rfl⟩ := value?_eq_some_iff.mp hb
    simp only [encode, UInt8.toNat_ofNat', List.cons.injEq, and_true]
    refine ⟨?_, ?_⟩ <;> exact congrArg _ (by omega)
  | case10 =>
    obtain rfl := Option.some.inj h
    rfl
  | _ => cases h

/-- Bytes are read exactly from what they are written as. -/
theorem decode_eq_some_iff {s : List Char} {bytes : List UInt8} :
    decode .url s = some bytes ↔ s = encode .url bytes := by
  constructor
  · intro h
    exact (encode_of_decode h).symm
  · rintro rfl
    exact decode_encode bytes

end RecurringBilling.Text.Base64
