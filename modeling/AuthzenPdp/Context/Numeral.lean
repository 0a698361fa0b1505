import AuthzenPdp.Context.Valid
import AuthzenPdp.Lib.Decimal

/-!
# `@priority` as it is written

* `PriorityText`, `parsePriority_eq_some_iff`: the texts that `u32::from_str` accepts: an optional plus
  sign and a decimal numeral below `2 ^ 32`, with any number of leading zeros;
* **`validatePriorities_numerals`**: the sets that the loader accepts, and the ranks it gives them.
-/

namespace AuthzenPdp

open Decimal

variable {β : Type}

/-- The text is a number, as `u32::from_str` understands it. -/
def PriorityText (raw : String) (n : U32) : Prop :=
  ∃ cs, (raw.toList = cs ∨ raw.toList = '+' :: cs) ∧ Numeral cs n.val

/-- The loop of `u32::from_str`: an overflow in between is one of the result. -/
theorem foldlM_digitStep {cs : List Char} {acc n : U32} : cs.foldlM digitStep acc = some n ↔
    (∀ c ∈ cs, c.isDigit = true) ∧ Nat.ofDigitChars 10 cs acc.val = n.val := by
  induction cs generalizing acc with
  | nil =>
    rw [List.foldlM_nil, Nat.ofDigitChars_nil]
    exact ⟨fun h => ⟨by simp, congrArg Fin.val (Option.some.inj h)⟩, fun h => congrArg some (Fin.ext h.2)⟩
  | cons c cs ih =>
    rw [List.foldlM_cons, List.forall_mem_cons, Nat.ofDigitChars_cons, digitStep]
    by_cases hc : c.isDigit = true
    · rw [if_pos hc]
      split_ifs with hlt
      · rw [Option.bind_eq_bind, Option.bind_some, ih, Nat.mul_comm 10]
        exact ⟨fun h => ⟨⟨hc, h.1⟩, h.2⟩, fun h => ⟨h.1.2, h.2⟩⟩
      · -- the value only grows
        refine iff_of_false nofun fun h => hlt ?_
        calc acc.val * 10 + (c.toNat - '0'.toNat)
            = 10 * acc.val + (c.toNat - '0'.toNat) := by rw [Nat.mul_comm]
          _ ≤ n.val := h.2 ▸ le_ofDigitChars cs _
          _ < 2 ^ 32 := n.isLt
    · rw [if_neg hc]
      exact iff_of_false nofun fun h => hc h.1.1

theorem parseDigits_eq_some_iff {cs : List Char} {n : U32} :
    parseDigits cs = some n ↔ Numeral cs n.val := by
  rw [numeral_iff]
  cases cs with
  | nil => exact iff_of_false nofun fun h => h.1 rfl
  | cons c cs =>
    rw [parseDigits, foldlM_digitStep, Fin.val_zero]
    exact (and_iff_right (List.cons_ne_nil c cs)).symm

theorem not_numeral_plus {cs : List Char} {n : ℕ} : ¬ Numeral ('+' :: cs) n :=
  fun h => absurd ((numeral_iff.mp h).2.1 '+' List.mem_cons_self) (by decide)

/-- **The texts that are accepted.** -/
theorem parsePriority_eq_some_iff {raw : String} {n : U32} :
    parsePriority raw = some n ↔ PriorityText raw n := by
  unfold parsePriority PriorityText
  split
  · next cs hraw =>
    rw [parseDigits_eq_some_iff, hraw]
    constructor
    · exact fun h => ⟨cs, .inr rfl, h⟩
    · rintro ⟨cs', rfl | heq, h⟩
      · exact absurd h not_numeral_plus
      · cases heq
        exact h
  · next cs hplus =>
    rw [parseDigits_eq_some_iff]
    constructor
    · exact fun h => ⟨_, .inl rfl, h⟩
    · rintro ⟨cs', rfl | heq, h⟩
      · exact h
      · exact absurd heq (hplus cs')

/-- **The priorities that the loader accepts.** Every `@priority` is the text of a number, and the
policy ranks by that number. -/
theorem validatePriorities_numerals (ps : PolicySet β) :
    validatePriorities ps = .ok () ↔ ∀ p ∈ ps.policies, ∀ raw,
      p.annotationAt priorityAnnotation = some raw → PriorityText raw (priorityOf p) := by
  rw [validatePriorities_ok_iff]
  refine forall₂_congr fun p _ => ?_
  unfold invalidPriority priorityOf
  cases p.annotationAt priorityAnnotation with
  | none => simp
  | some raw =>
    simp only [Option.some.injEq, forall_eq', ← parsePriority_eq_some_iff]
    cases parsePriority raw <;> simp

end AuthzenPdp
