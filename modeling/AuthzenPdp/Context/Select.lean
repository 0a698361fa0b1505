import AuthzenPdp.Context.Model

/-!
# Single-source selection

One of the determining policies supplies all entries, or none are supplied at all.

* `LeastPair`: the least of some policies by effective priority and display id;
* `Supplies`: the entries of a policy;
* `contextRank_le_iff`, `leastPair_iff`: least pairs are least ranks;
* **`toDecisionContext_singleSource`**: what `to_decision_context` answers for any list of ids.
-/

namespace AuthzenPdp

open MinBy

variable {β : Type}

/-- `p` has the least pair of effective priority and display id in `l`, display ids compared by
code points. -/
structure LeastPair (l : List (Policy β)) (p : Policy β) : Prop where
  mem : p ∈ l
  least : ∀ q ∈ l, priorityOf p < priorityOf q ∨
    priorityOf p = priorityOf q ∧ (displayId p).toList ≤ (displayId q).toList

/-- `p` has an annotation `decision_context_<k>`, `k` non-empty, that is copied as `k ↦ w`. -/
def Supplies (p : Policy β) (k : String) (w : Value) : Prop :=
  ∃ v, w = .string v ∧ k ≠ "" ∧ p.annotationAt (decisionContextPrefix ++ k) = some v

/-- **Single-source selection without fallback.** A context is that of one policy of least pair; no
context means that there is no policy, or that one of least pair supplies nothing. -/
structure SingleSource (ps : PolicySet β) (reasonIds : List PolicyId) : Prop where
  present : ∀ dc, toDecisionContext ps reasonIds = some dc →
    ∃ p, LeastPair (determining ps reasonIds) p ∧ dc.policyId = displayId p ∧
      ∀ k w, dc.context.lookup k = some w ↔ Supplies p k w
  absent : toDecisionContext ps reasonIds = none → determining ps reasonIds = [] ∨
    ∃ p, LeastPair (determining ps reasonIds) p ∧ ∀ k w, ¬ Supplies p k w

/-! ## Least pairs -/

theorem contextRank_le_iff {p q : Policy β} : contextRank p ≤ contextRank q ↔
    priorityOf p < priorityOf q ∨
      priorityOf p = priorityOf q ∧ (displayId p).toList ≤ (displayId q).toList := by
  rw [contextRank, contextRank, Prod.Lex.toLex_le_toLex, String.le_iff_toList_le]

theorem leastPair_iff {l : List (Policy β)} {p : Policy β} :
    LeastPair l p ↔ LeastIn contextRank l p := by
  constructor
  · intro h
    exact ⟨h.mem, fun q hq => contextRank_le_iff.mpr (h.least q hq)⟩
  · intro h
    exact ⟨h.1, fun q hq => contextRank_le_iff.mp (h.2 q hq)⟩

theorem winner_leastPair {ps : PolicySet β} {ids : List PolicyId} {p : Policy β}
    (h : winner ps ids = some p) : LeastPair (determining ps ids) p :=
  leastPair_iff.mpr (winner_leastIn h)

/-! ## Entries -/

theorem lookup_annotationContext_eq_some_iff {p : Policy β} {k : String} {w : Value} :
    (annotationContext p).lookup k = some w ↔ Supplies p k w := by
  rw [lookup_annotationContext]
  constructor
  · intro h
    split_ifs at h with hk
    obtain ⟨v, hv, rfl⟩ := Option.map_eq_some_iff.mp h
    exact ⟨v, rfl, hk, hv⟩
  · rintro ⟨v, rfl, hk, hv⟩
    rw [if_neg hk, hv]
    rfl

theorem annotationContext_isEmpty_iff {p : Policy β} :
    (annotationContext p).isEmpty = true ↔ ∀ k w, ¬ Supplies p k w := by
  rw [JsonMap.isEmpty_iff]
  constructor
  · intro h k w hk
    rw [← lookup_annotationContext_eq_some_iff, h, Finmap.lookup_empty] at hk
    cases hk
  · intro h
    refine Finmap.ext_lookup fun k => ?_
    rw [Finmap.lookup_empty, Option.eq_none_iff_forall_ne_some]
    exact fun w hw => h k w (lookup_annotationContext_eq_some_iff.mp hw)

theorem contextOf_eq_some_iff {p : Policy β} {dc : DecisionContext} :
    contextOf p = some dc ↔
      (annotationContext p).isEmpty = false ∧ dc = ⟨displayId p, annotationContext p⟩ := by
  unfold contextOf
  split_ifs with h
  · simp [h]
  · simp [h, eq_comm]

theorem contextOf_eq_none_iff {p : Policy β} : contextOf p = none ↔ ∀ k w, ¬ Supplies p k w := by
  rw [← annotationContext_isEmpty_iff]
  unfold contextOf
  split_ifs with h <;> simp [h]

/-! ## The selection -/

/-- **`to_decision_context` reads one policy**, the first of least pair, and never falls back on
another. -/
theorem toDecisionContext_singleSource (ps : PolicySet β) (reasonIds : List PolicyId) :
    SingleSource ps reasonIds where
  present := by
    intro dc h
    rw [toDecisionContext_eq, Option.bind_eq_some_iff] at h
    obtain ⟨p, hp, hdc⟩ := h
    obtain ⟨-, rfl⟩ := contextOf_eq_some_iff.mp hdc
    exact ⟨p, winner_leastPair hp, rfl, fun k w => lookup_annotationContext_eq_some_iff⟩
  absent := by
    intro h
    rw [toDecisionContext_eq] at h
    cases hw : winner ps reasonIds with
    | none => exact .inl (minBy_eq_none.mp hw)
    | some p =>
      rw [hw, Option.bind_some] at h
      exact .inr ⟨p, winner_leastPair hw, contextOf_eq_none_iff.mp h⟩

end AuthzenPdp
