import AuthzenPdp.Context.Select
import AuthzenPdp.Evaluate.Reference

/-!
# Prioritised policies

A policy without `@priority` has the lowest priority, `u32::MAX`, which is also a value that
`@priority` accepts. There the two are told apart by display id only.

* `Policy.HasPriority`, `Policy.priority`: the annotation and its value;
* `PrioritisedFirst`: a policy with `@priority` is selected before all policies without it;
* `priorityOf_of_priority`, `priorityOf_of_unset`: how the value is encoded;
* **`prioritisedFirst_iff`**: exactly when this holds for an accepted set;
* `unset_before_prioritised`: an accepted set where a policy without `@priority` is selected first.
-/

namespace AuthzenPdp

open MinBy

variable {β σ : Type}

/-- The policy carries `@priority`. -/
def Policy.HasPriority (p : Policy β) : Prop := p.annotationAt priorityAnnotation ≠ none

/-- The value of `@priority`, when there is one and it is valid. -/
def Policy.priority (p : Policy β) : Option U32 :=
  (p.annotationAt priorityAnnotation).bind parsePriority

/-- **A prioritised policy supplies the context.** If a determining policy carries `@priority`, then
so does the selected one, and no determining policy has a smaller value; a policy without it is
selected only when none carries it. -/
structure PrioritisedFirst (ps : PolicySet β) (reasonIds : List PolicyId) : Prop where
  carried : (∃ q ∈ determining ps reasonIds, q.HasPriority) → ∃ p, winner ps reasonIds = some p ∧
    p.HasPriority ∧ ∀ q ∈ determining ps reasonIds, ∀ m n,
      p.priority = some m → q.priority = some n → m ≤ n
  unset : ∀ p, winner ps reasonIds = some p → ¬ p.HasPriority →
    ∀ q ∈ determining ps reasonIds, ¬ q.HasPriority

/-- No policy of `l` carries `@priority`, or one does with a value below `u32::MAX`, or one does
whose display id comes before those of all policies without it: strictly when they are listed
earlier. -/
def PriorityDecides (l : List (Policy β)) : Prop :=
  (∀ q ∈ l, ¬ q.HasPriority) ∨
  (∃ q ∈ l, ∃ n, q.priority = some n ∧ n < lowestPriority) ∨
  ∃ l₁ q l₂, l = l₁ ++ q :: l₂ ∧ q.HasPriority ∧
    (∀ r ∈ l₁, ¬ r.HasPriority → displayId q < displayId r) ∧
    ∀ r ∈ l₂, ¬ r.HasPriority → displayId q ≤ displayId r

/-! ## The encoding of `@priority` -/

theorem priorityOf_of_priority {p : Policy β} {n : U32} (h : p.priority = some n) :
    priorityOf p = n := by
  obtain ⟨raw, hraw, hn⟩ := Option.bind_eq_some_iff.mp h
  simp only [priorityOf, hraw, hn, Option.getD_some]

/-- A missing `@priority` is encoded as a value of `@priority`. -/
theorem priorityOf_of_unset {p : Policy β} (h : ¬ p.HasPriority) : priorityOf p = lowestPriority := by
  simp only [priorityOf, not_not.mp h]

theorem Policy.WellAnnotated.exists_priority {p : Policy β} (h : p.WellAnnotated)
    (hp : p.HasPriority) : ∃ n, p.priority = some n := by
  obtain ⟨raw, hraw⟩ := Option.ne_none_iff_exists'.mp hp
  have hvalid := h.priority
  simp only [invalidPriority, hraw, Option.isNone_eq_false_iff, Option.isSome_iff_exists] at hvalid
  rw [Policy.priority, hraw]
  exact hvalid

theorem priorityOf_le_of_rank {p q : Policy β} (h : contextRank p ≤ contextRank q) :
    priorityOf p ≤ priorityOf q := by
  rcases contextRank_le_iff.mp h with hlt | ⟨heq, -⟩
  · exact hlt.le
  · exact heq.le

theorem priorityOf_le_lowest (p : Policy β) : priorityOf p ≤ lowestPriority := Fin.le_last _

/-- Below a policy of lowest priority comes only what has a smaller display id. -/
theorem displayId_lt_of_rank {p q : Policy β} (hp : priorityOf p = lowestPriority)
    (h : contextRank p < contextRank q) : displayId p < displayId q := by
  rcases Prod.Lex.toLex_lt_toLex.mp h with hlt | ⟨-, hid⟩
  · exact absurd (hp ▸ hlt) (priorityOf_le_lowest q).not_gt
  · exact hid

theorem displayId_le_of_rank {p q : Policy β} (hp : priorityOf p = lowestPriority)
    (h : contextRank p ≤ contextRank q) : displayId p ≤ displayId q := by
  rcases Prod.Lex.toLex_le_toLex.mp h with hlt | ⟨-, hid⟩
  · exact absurd (hp ▸ hlt) (priorityOf_le_lowest q).not_gt
  · exact hid

/-! ## The selection -/

/-- A policy with `@priority` whose display id comes before those of all policies without it. -/
theorem hasPriority_of_before {l₁ l₂ : List (Policy β)} {p q : Policy β} (hset : q.HasPriority)
    (h₁ : ∀ r ∈ l₁, ¬ r.HasPriority → displayId q < displayId r)
    (h₂ : ∀ r ∈ l₂, ¬ r.HasPriority → displayId q ≤ displayId r)
    (hp : minBy compareForContext (l₁ ++ q :: l₂) = some p) : p.HasPriority := by
  by_contra hunset
  have hlow := priorityOf_of_unset hunset
  have hleast := minBy_leastIn compareForContext_eq hp
  have hmem₁ : p ∉ l₁ := by
    intro h
    exact (h₁ p h hunset).not_ge (displayId_le_of_rank hlow (hleast.2 q (by simp)))
  have hmem₂ : p ∈ l₂ := by
    rcases List.mem_append.mp hleast.1 with h | h
    · exact absurd h hmem₁
    · exact (List.mem_cons.mp h).resolve_left fun e => hunset (e ▸ hset)
  -- `q` has no greater rank and is listed before `p`, so it would win
  have hrank : contextRank q ≤ contextRank p := by
    refine Prod.Lex.toLex_le_toLex.mpr ?_
    rcases (priorityOf_le_lowest q).lt_or_eq with hlt | heq
    · exact .inl (hlow ▸ hlt)
    · exact .inr ⟨heq.trans hlow.symm, h₂ p hmem₂ hunset⟩
  have hq : LeastIn contextRank (l₁ ++ q :: l₂) q :=
    ⟨by simp, fun r hr => hrank.trans (hleast.2 r hr)⟩
  rcases mem_or_eq_of_minBy compareForContext_eq hp hq with h | rfl
  · exact hmem₁ h
  · exact hunset hset

/-- When priorities decide, the winner carries `@priority` if any determining policy does. -/
theorem hasPriority_of_decides {ps : PolicySet β} {ids : List PolicyId} {p : Policy β}
    (hd : PriorityDecides (determining ps ids)) (hp : winner ps ids = some p)
    (hex : ∃ q ∈ determining ps ids, q.HasPriority) : p.HasPriority := by
  rcases hd with hnone | ⟨q, hq, n, hn, hlt⟩ | ⟨l₁, q, l₂, hl, hset, h₁, h₂⟩
  · obtain ⟨q, hq, hset⟩ := hex
    exact absurd hset (hnone q hq)
  · by_contra hunset
    have hle := priorityOf_le_of_rank ((winner_leastIn hp).2 q hq)
    rw [priorityOf_of_unset hunset, priorityOf_of_priority hn] at hle
    exact hle.not_gt hlt
  · have hw : minBy compareForContext (l₁ ++ q :: l₂) = some p := hl ▸ hp
    exact hasPriority_of_before hset h₁ h₂ hw

/-- A winner that carries `@priority` shows that priorities decide. -/
theorem decides_of_hasPriority {ps : PolicySet β} (hps : ps.WellAnnotated) {ids : List PolicyId}
    {p : Policy β} (hp : winner ps ids = some p) (hset : p.HasPriority) :
    PriorityDecides (determining ps ids) := by
  obtain ⟨n, hn⟩ := (hps p (winner_mem hp).1).exists_priority hset
  rcases (Fin.le_last n).lt_or_eq with hlt | heq
  · exact .inr (.inl ⟨p, (winner_leastIn hp).1, n, hn, hlt⟩)
  · have hlow : priorityOf p = lowestPriority := (priorityOf_of_priority hn).trans heq
    obtain ⟨l₁, l₂, hl, h₁, h₂⟩ := exists_split_of_minBy compareForContext_eq hp
    exact .inr (.inr ⟨l₁, p, l₂, hl, hset, fun r hr _ => displayId_lt_of_rank hlow (h₁ r hr),
      fun r hr _ => displayId_le_of_rank hlow (h₂ r hr)⟩)

/-- **Exactly when a prioritised policy supplies the context**, for an accepted set and any list of
its ids. -/
theorem prioritisedFirst_iff {api : PolicyApi β σ} {schema : σ} {path : String} {ps : PolicySet β}
    (hps : Accepted api schema path ps) (reasonIds : List PolicyId) :
    PrioritisedFirst ps reasonIds ↔ PriorityDecides (determining ps reasonIds) := by
  constructor
  · intro h
    by_cases hex : ∃ q ∈ determining ps reasonIds, q.HasPriority
    · obtain ⟨p, hp, hset, -⟩ := h.carried hex
      exact decides_of_hasPriority hps.wellAnnotated hp hset
    · exact .inl fun q hq hset => hex ⟨q, hq, hset⟩
  · intro hd
    refine ⟨fun hex => ?_, fun p hp hunset q hq hset => ?_⟩
    · obtain ⟨q, hq, -⟩ := id hex
      obtain ⟨p, hp⟩ := exists_minBy (compareForContext (β := β)) (List.ne_nil_of_mem hq)
      refine ⟨p, hp, hasPriority_of_decides hd hp hex, fun q hq m n hm hn => ?_⟩
      have hle := priorityOf_le_of_rank ((winner_leastIn hp).2 q hq)
      rwa [priorityOf_of_priority hm, priorityOf_of_priority hn] at hle
    · exact hunset (hasPriority_of_decides hd hp ⟨q, hq, hset⟩)

/-! ## A policy at the lowest value -/

/-- Two `forbid` policies; the second has `@priority` and asks for a second step. -/
def prioritySet (priority : String) : PolicySet Rule where
  policies := [
    rule "policy0" [("id", "audit")] .forbid none,
    rule "policy1" [("id", "block-external"), ("priority", priority),
      ("decision_context_step_up", "external-auth")] .forbid (some aClient)]
  nodup := by simp [rule]

theorem accepted_prioritySet {priority : String}
    (h : validatePriorities (prioritySet priority) = .ok ())
    (hc : validateDecisionContexts (prioritySet priority) = .ok ()) :
    Accepted (knownSources (Schema Ty) [prioritySet priority]) loginSchema "policies.cedar"
      (prioritySet priority) :=
  ⟨_, validates_sourceText (by simp) (List.mem_singleton_self _) h hc _⟩

/-- With the value of the convention, the prioritised policy is selected. -/
theorem prioritisedFirst_hundred : PrioritisedFirst (prioritySet "100") ["policy0", "policy1"] :=
  (prioritisedFirst_iff (accepted_prioritySet rfl rfl) _).mpr
    (.inr (.inl ⟨_, List.mem_cons_of_mem _ List.mem_cons_self, 100, rfl, by decide⟩))

/-- **A policy without `@priority` is selected before one that carries it**, with the largest
accepted value: what the caller is told to do next gets lost. -/
theorem unset_before_prioritised :
    Accepted (knownSources (Schema Ty) [prioritySet "4294967295"]) loginSchema "policies.cedar"
      (prioritySet "4294967295") ∧
    (∀ id ∈ ["policy0", "policy1"], id ∈ (prioritySet "4294967295").policies.map Policy.id) ∧
    ¬ PrioritisedFirst (prioritySet "4294967295") ["policy0", "policy1"] ∧
    toDecisionContext (prioritySet "4294967295") ["policy0", "policy1"] = none := by
  refine ⟨accepted_prioritySet rfl rfl, by decide, fun h => ?_, rfl⟩
  obtain ⟨p, hp, hset, -⟩ := h.carried
    ⟨_, List.mem_cons_of_mem _ List.mem_cons_self, Option.some_ne_none "4294967295"⟩
  cases (show some (rule "policy0" [("id", "audit")] .forbid none) = some p from hp)
  exact hset rfl

end AuthzenPdp
