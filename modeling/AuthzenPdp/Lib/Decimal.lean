import Mathlib.Data.List.Basic
import Mathlib.Tactic

/-!
# Decimal numerals

* `Numeral`: a decimal numeral of a number, with any number of leading zeros;
* **`numeral_iff`**: the numerals of `n` are the non-empty digit lists of value `n`;
* `le_ofDigitChars`: the value of a digit list is above that of every prefix.
-/

namespace Decimal

/-- The digits of `n`, after leading zeros. -/
def Numeral (cs : List Char) (n : ℕ) : Prop := ∃ k, cs = List.replicate k '0' ++ Nat.toDigits 10 n

theorem digitChar_sub {c : Char} (h : c.isDigit = true) : Nat.digitChar (c.toNat - '0'.toNat) = c := by
  have hc : 48 ≤ c.toNat ∧ c.toNat ≤ 57 := Char.isDigit_iff_toNat.mp h
  apply Char.toNat_inj.mp
  rw [Nat.toNat_digitChar_of_lt_ten (by simp only [Char.reduceToNat]; omega)]
  simp only [Char.reduceToNat]
  omega

theorem sub_lt_ten {c : Char} (h : c.isDigit = true) : c.toNat - '0'.toNat < 10 := by
  have hc : 48 ≤ c.toNat ∧ c.toNat ≤ 57 := Char.isDigit_iff_toNat.mp h
  simp only [Char.reduceToNat]
  omega

theorem le_ofDigitChars (cs : List Char) (m : ℕ) : m ≤ Nat.ofDigitChars 10 cs m := by
  rw [Nat.ofDigitChars_eq_ofDigitChars_zero]
  have hpos : 0 < 10 ^ cs.length := by positivity
  nlinarith

/-- One more digit. -/
theorem Numeral.snoc {cs : List Char} {m : ℕ} (h : Numeral cs m) {c : Char} (hc : c.isDigit = true) :
    Numeral (cs ++ [c]) (10 * m + (c.toNat - '0'.toNat)) := by
  obtain ⟨k, rfl⟩ := h
  have hdigit : Nat.toDigits 10 (c.toNat - '0'.toNat) = [c] := by
    rw [Nat.toDigits_of_lt_base (sub_lt_ten hc), digitChar_sub hc]
  by_cases hm : m = 0
  · subst hm
    refine ⟨k + 1, ?_⟩
    rw [Nat.mul_zero, Nat.zero_add, hdigit, Nat.toDigits_zero, List.replicate_succ', List.append_assoc]
  · refine ⟨k, ?_⟩
    rw [← Nat.toDigits_append_toDigits (by decide) (Nat.pos_of_ne_zero hm) (sub_lt_ten hc), hdigit,
      List.append_assoc]

theorem numeral_of_digits {cs : List Char} (hne : cs ≠ []) (hd : ∀ c ∈ cs, c.isDigit = true) :
    Numeral cs (Nat.ofDigitChars 10 cs 0) := by
  induction cs using List.reverseRecOn with
  | nil => exact absurd rfl hne
  | append_singleton cs c ih =>
    have hc : c.isDigit = true := hd c (by simp)
    rw [Nat.ofDigitChars_append, Nat.ofDigitChars_cons, Nat.ofDigitChars_nil]
    by_cases hcs : cs = []
    · subst hcs
      refine ⟨0, ?_⟩
      rw [Nat.ofDigitChars_nil, Nat.mul_zero, Nat.zero_add, Nat.toDigits_of_lt_base (sub_lt_ten hc),
        digitChar_sub hc]
      rfl
    · exact (ih hcs fun c' hc' => hd c' (List.mem_append_left _ hc')).snoc hc

/-- **The numerals of `n`.** -/
theorem numeral_iff {cs : List Char} {n : ℕ} :
    Numeral cs n ↔ cs ≠ [] ∧ (∀ c ∈ cs, c.isDigit = true) ∧ Nat.ofDigitChars 10 cs 0 = n := by
  constructor
  · rintro ⟨k, rfl⟩
    refine ⟨by simp, fun c hc => ?_, ?_⟩
    · rcases List.mem_append.mp hc with hc | hc
      · rw [List.eq_of_mem_replicate hc]
        rfl
      · exact Nat.isDigit_of_mem_toDigits (by decide) (by decide) hc
    · rw [Nat.ofDigitChars_append, Nat.ofDigitChars_replicate_zero, Nat.mul_zero,
        Nat.ofDigitChars_ten_toDigits]
  · rintro ⟨hne, hd, rfl⟩
    exact numeral_of_digits hne hd

end Decimal
