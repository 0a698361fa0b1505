import Mathlib.Data.List.Infix
import Mathlib.Tactic

/-!
# Patterns with wildcards

* `Fits`: a list is made of the letters of a pattern, with anything in place of a wildcard;
* `accepts`, **`accepts_iff`**: the matcher;
* `fits_prefix_iff`: a pattern that ends in its only wildcard asks for a prefix.
-/

namespace Wildcard

variable {α : Type*}

inductive Piece (α : Type*) where
  | lit (a : α)
  | star
  deriving DecidableEq

/-- The list is an instance of the pattern. -/
inductive Fits : List (Piece α) → List α → Prop where
  | nil : Fits [] []
  | lit (a : α) {p : List (Piece α)} {xs : List α} (h : Fits p xs) : Fits (.lit a :: p) (a :: xs)
  | star (ys : List α) {p : List (Piece α)} {xs : List α} (h : Fits p xs) : Fits (.star :: p) (ys ++ xs)

/-- Does some rest of the list, itself included, satisfy `f`? -/
def anyRest (f : List α → Bool) : List α → Bool
  | [] => f []
  | x :: xs => f (x :: xs) || anyRest f xs

/-- The matcher. -/
def accepts [DecidableEq α] : List (Piece α) → List α → Bool
  | [], xs => xs.isEmpty
  | .lit _ :: _, [] => false
  | .lit a :: p, x :: xs => a == x && accepts p xs
  | .star :: p, xs => anyRest (accepts p) xs

theorem anyRest_iff {f : List α → Bool} {xs : List α} :
    anyRest f xs = true ↔ ∃ ys zs, xs = ys ++ zs ∧ f zs = true := by
  induction xs with
  | nil =>
    constructor
    · exact fun h => ⟨[], [], rfl, h⟩
    · rintro ⟨ys, zs, hyz, h⟩
      obtain ⟨rfl, rfl⟩ := List.append_eq_nil_iff.mp hyz.symm
      exact h
  | cons x xs ih =>
    rw [anyRest, Bool.or_eq_true, ih]
    constructor
    · rintro (h | ⟨ys, zs, rfl, h⟩)
      · exact ⟨[], _, rfl, h⟩
      · exact ⟨x :: ys, zs, rfl, h⟩
    · rintro ⟨ys, zs, hyz, h⟩
      cases ys with
      | nil => exact .inl (by rwa [show x :: xs = zs from hyz])
      | cons y ys =>
        cases hyz
        exact .inr ⟨ys, zs, rfl, h⟩

/-- **The matcher accepts exactly the instances of a pattern.** -/
theorem accepts_iff [DecidableEq α] {p : List (Piece α)} {xs : List α} :
    accepts p xs = true ↔ Fits p xs := by
  induction p generalizing xs with
  | nil =>
    rw [accepts, List.isEmpty_iff]
    constructor
    · rintro rfl
      exact .nil
    · rintro ⟨⟩
      rfl
  | cons e p ih =>
    cases e with
    | lit a =>
      cases xs with
      | nil => exact iff_of_false nofun nofun
      | cons x xs =>
        rw [accepts, Bool.and_eq_true, beq_iff_eq, ih]
        constructor
        · rintro ⟨rfl, h⟩
          exact .lit a h
        · rintro (- | ⟨-, h⟩)
          exact ⟨rfl, h⟩
    | star =>
      simp only [accepts, anyRest_iff, ih]
      constructor
      · rintro ⟨ys, zs, rfl, h⟩
        exact .star ys h
      · rintro (- | - | ⟨ys, h⟩)
        exact ⟨ys, _, rfl, h⟩

/-- A literal text and then anything. -/
theorem fits_prefix_iff {pre xs : List α} : Fits (pre.map .lit ++ [.star]) xs ↔ pre <+: xs := by
  induction pre generalizing xs with
  | nil =>
    refine iff_of_true ?_ (List.nil_prefix)
    have h : Fits [.star] (xs ++ []) := .star xs .nil
    rwa [List.append_nil] at h
  | cons a pre ih =>
    rw [List.map_cons, List.cons_append]
    constructor
    · rintro (- | ⟨-, h⟩)
      exact (List.prefix_cons_inj a).mpr (ih.mp h)
    · rintro ⟨ys, rfl⟩
      exact .lit a (ih.mpr ⟨ys, rfl⟩)

end Wildcard
