import Mathlib.Data.List.MinMax
import Mathlib.Data.List.Sort
import Mathlib.Order.Compare
import Mathlib.Tactic

/-!
# The first least element of a list

`minBy cmp l` scans `l` from the left and keeps the running candidate unless the next element
compares strictly below it, so of several least elements the first one wins.

* `minBy_eq_argmin`: when `cmp` compares keys in a linear order, `minBy` is `List.argmin`;
* `LeastIn`, `minBy_leastIn`, `minBy_cons_of_leastIn`: the least elements, and that each of them
  wins in some order;
* `exists_split_of_minBy`, `mem_or_eq_of_minBy`: the winner comes before every other least element;
* **`minBy_map_perm_iff`**: what is read off the winner is the same in every order iff all least
  elements agree on it;
* `rel_minBy`: related lists that compare alike have related winners;
* `compared`, `mem_of_mem_compared`: the comparisons the scan makes;
* `sort_eq_of_perm`: sorting forgets the order.
-/

namespace MinBy

variable {α β γ : Type*}

/-- Keep the candidate `x` unless `y` is strictly below it. -/
def keep (cmp : α → α → Ordering) (x y : α) : α :=
  match cmp x y with
  | .gt => y
  | _ => x

/-- The first least element under `cmp`. -/
def minBy (cmp : α → α → Ordering) : List α → Option α
  | [] => none
  | x :: l => some (l.foldl (keep cmp) x)

/-- The comparisons made with candidate `x`. -/
def comparedFrom (cmp : α → α → Ordering) (x : α) : List α → List (α × α)
  | [] => []
  | y :: l => (x, y) :: comparedFrom cmp (keep cmp x y) l

/-- The comparisons made by `minBy`. -/
def compared (cmp : α → α → Ordering) : List α → List (α × α)
  | [] => []
  | x :: l => comparedFrom cmp x l

/-! ## The comparisons -/

theorem keep_eq_or (cmp : α → α → Ordering) (x y : α) : keep cmp x y = x ∨ keep cmp x y = y := by
  unfold keep
  split
  · exact .inr rfl
  · exact .inl rfl

theorem mem_of_mem_comparedFrom (cmp : α → α → Ordering) {p : α × α} :
    ∀ (x : α) (l : List α), p ∈ comparedFrom cmp x l → p.1 ∈ x :: l ∧ p.2 ∈ x :: l
  | _, [], h => by cases h
  | x, y :: l, h => by
    rcases List.mem_cons.mp h with rfl | h
    · simp
    · obtain ⟨h1, h2⟩ := mem_of_mem_comparedFrom cmp _ l h
      rcases keep_eq_or cmp x y with hk | hk <;> rw [hk] at h1 h2 <;>
        simp only [List.mem_cons] at h1 h2 ⊢ <;> tauto

/-- Only elements of the list are compared. -/
theorem mem_of_mem_compared (cmp : α → α → Ordering) {p : α × α} {l : List α}
    (h : p ∈ compared cmp l) : p.1 ∈ l ∧ p.2 ∈ l := by
  cases l with
  | nil => cases h
  | cons x l => exact mem_of_mem_comparedFrom cmp x l h

theorem minBy_eq_none {cmp : α → α → Ordering} {l : List α} : minBy cmp l = none ↔ l = [] := by
  cases l <;> simp [minBy]

theorem exists_minBy (cmp : α → α → Ordering) {l : List α} (hl : l ≠ []) :
    ∃ p, minBy cmp l = some p :=
  Option.ne_none_iff_exists'.mp (mt minBy_eq_none.mp hl)

/-! ## Related lists -/

section Rel

variable {R : α → β → Prop} {cmp : α → α → Ordering} {cmp' : β → β → Ordering}

theorem rel_foldl_keep (h : ∀ x x' y y', R x x' → R y y' → cmp x y = cmp' x' y') {l : List α}
    {l' : List β} (hl : List.Forall₂ R l l') :
    ∀ x x', R x x' → R (l.foldl (keep cmp) x) (l'.foldl (keep cmp') x') := by
  induction hl with
  | nil => exact fun _ _ hx => hx
  | cons hy _ ih =>
    intro x x' hx
    refine ih _ _ ?_
    unfold keep
    rw [h _ _ _ _ hx hy]
    split
    · exact hy
    · exact hx

/-- **Lists that compare alike have related first least elements.** -/
theorem rel_minBy (h : ∀ x x' y y', R x x' → R y y' → cmp x y = cmp' x' y') {l : List α}
    {l' : List β} (hl : List.Forall₂ R l l') : Option.Rel R (minBy cmp l) (minBy cmp' l') := by
  cases hl with
  | nil => exact .none
  | cons hx hl => exact .some (rel_foldl_keep h hl _ _ hx)

end Rel

/-! ## Comparisons of a key -/

section Key

variable [LinearOrder β] {cmp : α → α → Ordering} {key : α → β}

/-- **`minBy` on a key is `List.argmin`.** -/
theorem minBy_eq_argmin (h : ∀ a b, cmp a b = compare (key a) (key b)) (l : List α) :
    minBy cmp l = l.argmin key := by
  have hk : ∀ x y, some (keep cmp x y) = List.argAux (fun b c => key b < key c) (some x) y := by
    intro x y
    simp only [keep, h, List.argAux]
    rcases lt_trichotomy (key x) (key y) with hxy | hxy | hxy
    · rw [compare_lt_iff_lt.mpr hxy, if_neg hxy.not_gt]
    · rw [compare_eq_iff_eq.mpr hxy, if_neg hxy.not_gt]
    · rw [compare_gt_iff_gt.mpr hxy, if_pos hxy]
  have hf : ∀ (l : List α) (x : α), some (l.foldl (keep cmp) x) =
      l.foldl (List.argAux fun b c => key b < key c) (some x) := by
    intro l
    induction l with
    | nil => intro x; rfl
    | cons y l ih => intro x; rw [List.foldl_cons, List.foldl_cons, ih, hk]
  cases l with
  | nil => rfl
  | cons x l => exact hf l x

/-- `p` is an element of `l` of least key. -/
def LeastIn (key : α → β) (l : List α) (p : α) : Prop := p ∈ l ∧ ∀ q ∈ l, key p ≤ key q

theorem LeastIn.key_eq {l : List α} {p q : α} (hp : LeastIn key l p) (hq : LeastIn key l q) :
    key p = key q :=
  le_antisymm (hp.2 q hq.1) (hq.2 p hp.1)

theorem LeastIn.of_perm {l l' : List α} {p : α} (hp : LeastIn key l p) (h : l.Perm l') :
    LeastIn key l' p :=
  ⟨h.mem_iff.mp hp.1, fun q hq => hp.2 q (h.mem_iff.mpr hq)⟩

theorem minBy_leastIn (h : ∀ a b, cmp a b = compare (key a) (key b)) {l : List α} {p : α}
    (hp : minBy cmp l = some p) : LeastIn key l p := by
  rw [minBy_eq_argmin h] at hp
  exact ⟨List.argmin_mem hp, fun q hq => List.le_of_mem_argmin hq hp⟩

/-- **The winner is the first least element**: strictly below what precedes it. -/
theorem exists_split_of_minBy (h : ∀ a b, cmp a b = compare (key a) (key b)) {l : List α} {p : α}
    (hp : minBy cmp l = some p) :
    ∃ l₁ l₂, l = l₁ ++ p :: l₂ ∧ (∀ q ∈ l₁, key p < key q) ∧ ∀ q ∈ l₂, key p ≤ key q := by
  rw [minBy_eq_argmin h] at hp
  induction l with
  | nil => cases hp
  | cons x l ih =>
    rw [List.argmin_cons] at hp
    cases hl : l.argmin key with
    | none =>
      rw [hl] at hp
      cases hp
      rw [List.argmin_eq_none.mp hl]
      exact ⟨[], [], rfl, by simp, by simp⟩
    | some c =>
      simp only [hl] at hp
      split_ifs at hp with hc
      · cases hp
        obtain ⟨l₁, l₂, rfl, h₁, h₂⟩ := ih hl
        refine ⟨x :: l₁, l₂, rfl, fun q hq => ?_, h₂⟩
        rcases List.mem_cons.mp hq with rfl | hq
        · exact hc
        · exact h₁ q hq
      · cases hp
        refine ⟨[], l, rfl, by simp, fun q hq => ?_⟩
        exact (not_lt.mp hc).trans (List.le_of_mem_argmin hq hl)

/-- The winner does not come after a least element. -/
theorem mem_or_eq_of_minBy (h : ∀ a b, cmp a b = compare (key a) (key b)) {l₁ l₂ : List α} {p q : α}
    (hp : minBy cmp (l₁ ++ q :: l₂) = some p) (hq : LeastIn key (l₁ ++ q :: l₂) q) :
    p ∈ l₁ ∨ p = q := by
  obtain ⟨m₁, m₂, hl, hlt, -⟩ := exists_split_of_minBy h hp
  have hq₁ : q ∉ m₁ := by
    intro hm
    exact (hlt q hm).not_ge (hq.2 p (hl ▸ by simp))
  rcases List.append_eq_append_iff.mp hl with ⟨l₃, rfl, he⟩ | ⟨l₃, rfl, he⟩
  · cases l₃ with
    | nil => exact .inr (List.cons.inj he).1.symm
    | cons x l₃ =>
      rw [(List.cons.inj he).1] at hq₁
      simp at hq₁
  · cases l₃ with
    | nil => exact .inr (List.cons.inj he).1
    | cons x l₃ =>
      rw [(List.cons.inj he).1]
      simp

/-- A least element at the head wins. -/
theorem minBy_cons_of_leastIn (h : ∀ a b, cmp a b = compare (key a) (key b)) {l : List α} {p : α}
    (hp : ∀ q ∈ l, key p ≤ key q) : minBy cmp (p :: l) = some p := by
  have : ∀ l : List α, (∀ q ∈ l, key p ≤ key q) → l.foldl (keep cmp) p = p := by
    intro l
    induction l with
    | nil => intro _; rfl
    | cons q l ih =>
      intro hl
      have hk : keep cmp p q = p := by
        rw [keep, h]
        split
        · rename_i hgt
          exact absurd (compare_gt_iff_gt.mp hgt) (hl q List.mem_cons_self).not_gt
        · rfl
      rw [List.foldl_cons, hk, ih fun q' hq' => hl q' (List.mem_cons_of_mem _ hq')]
  rw [minBy, this l hp]

/-- **Order independence.** What `f` reads off the winner is the same in every order of `l` iff
all least elements agree on it. -/
theorem minBy_map_perm_iff (h : ∀ a b, cmp a b = compare (key a) (key b)) (f : α → γ)
    (l : List α) :
    (∀ l', l'.Perm l → (minBy cmp l').map f = (minBy cmp l).map f) ↔
      ∀ p q, LeastIn key l p → LeastIn key l q → f p = f q := by
  constructor
  · intro hf
    have hfirst : ∀ p, LeastIn key l p → (minBy cmp l).map f = some (f p) := by
      intro p hp
      obtain ⟨l₁, l₂, hl⟩ := List.append_of_mem hp.1
      have hperm : (p :: (l₁ ++ l₂)).Perm l := by rw [hl]; exact List.perm_middle.symm
      rw [← hf _ hperm, minBy_cons_of_leastIn h fun q hq =>
        hp.2 q (hperm.mem_iff.mp (List.mem_cons_of_mem _ hq))]
      rfl
    intro p q hp hq
    exact Option.some.inj ((hfirst p hp).symm.trans (hfirst q hq))
  · intro hf l' hl'
    cases hm : minBy cmp l with
    | none =>
      have hl : l = [] := minBy_eq_none.mp hm
      have : l' = [] := by rw [hl] at hl'; exact hl'.eq_nil
      rw [this]
      rfl
    | some p =>
      have hne : l' ≠ [] := by
        rintro rfl
        rw [hl'.symm.eq_nil] at hm
        cases hm
      obtain ⟨q, hq⟩ := exists_minBy cmp hne
      rw [hq, Option.map_some, Option.map_some]
      rw [hf q p ((minBy_leastIn h hq).of_perm hl') (minBy_leastIn h hm)]

end Key

/-! ## Sorting -/

/-- Sorting gives the same list in every order. -/
theorem sort_eq_of_perm [LinearOrder α] {l l' : List α} (h : l.Perm l') :
    l.insertionSort (· ≤ ·) = l'.insertionSort (· ≤ ·) :=
  ((List.perm_insertionSort _ l).trans (h.trans (List.perm_insertionSort _ l').symm)).eq_of_pairwise'
    (List.pairwise_insertionSort _ l) (List.pairwise_insertionSort _ l')

end MinBy
