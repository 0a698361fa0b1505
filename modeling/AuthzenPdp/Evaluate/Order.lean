import AuthzenPdp.Context.Lossless
import AuthzenPdp.Evaluate.Reference

/-!
# The order of the determining policies

The authorizer yields the determining ids in an arbitrary order. Names are sorted; the selected
context depends on the order only when several determining policies share the least rank.

* `determining_perm`: the orders of the ids are the orders of the policies they resolve to;
* `answer_perm`: what an order can change is the selected context;
* `sameContext_of_answer`, `toDecisionContext_perm`: what all orders agree on;
* **`answer_order_independent_iff`**: the response and the logged context policy are the same in
  every order iff all least determining policies carry the same `decision_context_*` annotations;
* `answer_depends_on_order`: an accepted set whose answer depends on the order.
-/

namespace AuthzenPdp

open MinBy

variable {β σ : Type}

/-! ## Orders -/

theorem map_id_filterMap_policy {ps : PolicySet β} {ids : List PolicyId}
    (h : ∀ id ∈ ids, id ∈ ps.policies.map Policy.id) :
    (ids.filterMap ps.policy).map Policy.id = ids := by
  induction ids with
  | nil => rfl
  | cons id ids ih =>
    obtain ⟨p, hp⟩ := PolicySet.exists_policy (h id List.mem_cons_self)
    rw [List.filterMap_cons_some hp, List.map_cons, ih fun i hi => h i (List.mem_cons_of_mem _ hi),
      (PolicySet.policy_eq_some_iff.mp hp).2]

theorem filterMap_policy_map_id {ps : PolicySet β} {l : List (Policy β)}
    (h : ∀ p ∈ l, p ∈ ps.policies) : (l.map Policy.id).filterMap ps.policy = l := by
  induction l with
  | nil => rfl
  | cons p l ih =>
    rw [List.map_cons, List.filterMap_cons_some (PolicySet.policy_of_mem (h p List.mem_cons_self)),
      ih fun q hq => h q (List.mem_cons_of_mem _ hq)]

/-- **Every order of the policies comes from an order of the ids.** -/
theorem determining_perm {ps : PolicySet β} {ids : List PolicyId}
    (h : ∀ id ∈ ids, id ∈ ps.policies.map Policy.id) {l : List (Policy β)}
    (hl : l.Perm (ids.filterMap ps.policy)) :
    (l.map Policy.id).Perm ids ∧ (l.map Policy.id).filterMap ps.policy = l := by
  refine ⟨?_, filterMap_policy_map_id fun p hp => ?_⟩
  · rw [← map_id_filterMap_policy h]
    exact hl.map Policy.id
  · exact (mem_determining_iff.mp (hl.mem_iff.mp hp)).1

/-! ## What an order can change -/

theorem resolveReason_perm_eq {ids ids' : List PolicyId} (h : ids.Perm ids')
    (ps : Option (PolicySet β)) : resolveReason ids ps = resolveReason ids' ps :=
  sort_eq_of_perm (h.map _)

/-- An order changes the answer through the selected context only. -/
theorem answer_perm {target : LogTarget} {d : Decision} {ids ids' : List PolicyId}
    {errors : List String} {ps : PolicySet β} (h : ids.Perm ids')
    (hc : toDecisionContext ps ids = toDecisionContext ps ids') :
    answer target ⟨d, ids, errors⟩ (some ps) = answer target ⟨d, ids', errors⟩ (some ps) :=
  answer_congr (resolveReason_perm_eq h _) hc

/-- Every entry of the winner can be read off the response. -/
theorem annotation_of_answer {ps : PolicySet β} (h : ps.WellAnnotated) {target : LogTarget}
    {d : Decision} {ids ids' : List PolicyId} {errors : List String}
    (heq : (answer target ⟨d, ids, errors⟩ (some ps)).1 = (answer target ⟨d, ids', errors⟩ (some ps)).1)
    (k : String) :
    (winner ps ids).bind (fun p => p.annotationAt (decisionContextPrefix ++ k)) =
      (winner ps ids').bind fun p => p.annotationAt (decisionContextPrefix ++ k) := by
  have hauthor : (authorContext ps ids).lookup k = (authorContext ps ids').lookup k := by
    by_cases hk : k = reservedReasonKey ∨ k = reservedErrorsKey
    · rw [Finmap.lookup_eq_none.mpr (reserved_notMem_authorContext h ids hk),
        Finmap.lookup_eq_none.mpr (reserved_notMem_authorContext h ids' hk)]
    · rw [not_or] at hk
      have hctx := congrArg (fun r : EvaluationResponse => (r.context.getD ∅).lookup k) heq
      simp only [answer_context, lookup_buildResponseContext, hk.1, hk.2, false_and, if_false] at hctx
      exact hctx
  rw [lookup_authorContext_of_wellAnnotated h, lookup_authorContext_of_wellAnnotated h] at hauthor
  have hinj : Function.Injective (Option.map Value.string) :=
    Option.map_injective fun _ _ => Value.string.inj
  refine hinj ?_
  rw [Option.map_bind, Option.map_bind]
  exact hauthor

theorem winner_none_iff_of_perm (ps : PolicySet β) {ids ids' : List PolicyId} (h : ids.Perm ids') :
    winner ps ids = none ↔ winner ps ids' = none := by
  have hl : (ids.filterMap ps.policy).Perm (ids'.filterMap ps.policy) := h.filterMap _
  rw [winner, winner, minBy_eq_none, minBy_eq_none, ← List.length_eq_zero_iff, hl.length_eq,
    List.length_eq_zero_iff]

/-- An answer that is the same in every order shows the annotations of all least policies. -/
theorem sameContext_of_answer {ps : PolicySet β} (hps : ps.WellAnnotated) {ids : List PolicyId}
    (hids : ∀ id ∈ ids, id ∈ ps.policies.map Policy.id) {target : LogTarget} {d : Decision}
    {errors : List String}
    (h : ∀ ids', ids'.Perm ids → (answer target ⟨d, ids', errors⟩ (some ps)).1 =
      (answer target ⟨d, ids, errors⟩ (some ps)).1) {p q : Policy β}
    (hp : LeastIn contextRank (ids.filterMap ps.policy) p)
    (hq : LeastIn contextRank (ids.filterMap ps.policy) q) : SameContext p q := by
  have hread := (minBy_map_perm_iff compareForContext_eq
    (fun p : Policy β => fun k => p.annotationAt (decisionContextPrefix ++ k))
    (ids.filterMap ps.policy)).mp ?_ p q hp hq
  · exact congrFun hread
  · intro l hl
    obtain ⟨hperm, hfm⟩ := determining_perm hids hl
    have hann := annotation_of_answer hps (h _ hperm)
    have hnone := winner_none_iff_of_perm ps hperm
    have hw : winner ps (l.map Policy.id) = minBy compareForContext l := by rw [winner, hfm]
    rw [← hw]
    change _ = (winner ps ids).map _
    cases h1 : winner ps (l.map Policy.id) with
    | none => rw [hnone.mp h1]
    | some p1 =>
      cases h2 : winner ps ids with
      | none => rw [hnone.mpr h2] at h1; cases h1
      | some p2 =>
        rw [h1, h2] at hann
        rw [Option.map_some, Option.map_some]
        exact congrArg some (funext hann)

/-- Least policies with the same annotations contribute the same context in every order. -/
theorem toDecisionContext_perm {ps : PolicySet β} {ids ids' : List PolicyId}
    (h : ∀ p q, LeastIn contextRank (ids.filterMap ps.policy) p →
      LeastIn contextRank (ids.filterMap ps.policy) q → SameContext p q) (h' : ids'.Perm ids) :
    toDecisionContext ps ids' = toDecisionContext ps ids := by
  have hsame := (minBy_map_perm_iff compareForContext_eq contextOf (ids.filterMap ps.policy)).mpr
    (fun p q hp hq => contextOf_congr (congrArg (fun r => (ofLex r).2) (hp.key_eq hq)) (h p q hp hq))
    _ (h'.filterMap ps.policy)
  have hjoin : ∀ o : Option (Policy β), o.bind contextOf = (o.map contextOf).join :=
    fun o => by cases o <;> rfl
  rw [toDecisionContext_eq, toDecisionContext_eq, winner, winner, hjoin, hjoin, hsame]

/-- **Order independence of an answer.** For an accepted set, the response and the logged context
policy are the same for any two orders of the determining ids iff all determining policies of least
priority and display id carry the same `decision_context_*` annotations. -/
theorem answer_order_independent_iff {api : PolicyApi β σ} {schema : σ} {path : String}
    {ps : PolicySet β} (hps : Accepted api schema path ps) {ids : List PolicyId}
    (hids : ∀ id ∈ ids, id ∈ ps.policies.map Policy.id) (target : LogTarget) (d : Decision)
    (errors : List String) :
    (∀ ids₁ ids₂, ids₁.Perm ids → ids₂.Perm ids →
      (answer target ⟨d, ids₁, errors⟩ (some ps)).1 = (answer target ⟨d, ids₂, errors⟩ (some ps)).1 ∧
      (answer target ⟨d, ids₁, errors⟩ (some ps)).2.contextPolicy =
        (answer target ⟨d, ids₂, errors⟩ (some ps)).2.contextPolicy) ↔
    ∀ p q, LeastIn contextRank (ids.filterMap ps.policy) p →
      LeastIn contextRank (ids.filterMap ps.policy) q → SameContext p q := by
  constructor
  · intro h p q hp hq
    exact sameContext_of_answer hps.wellAnnotated hids
      (fun ids' h' => (h ids' ids h' (List.Perm.refl ids)).1) hp hq
  · intro h ids₁ ids₂ h₁ h₂
    rw [answer_perm (h₁.trans h₂.symm)
      ((toDecisionContext_perm h h₁).trans (toDecisionContext_perm h h₂).symm)]
    exact ⟨rfl, rfl⟩

/-! ## A tie -/

/-- Two `forbid` policies of one `@id`; the second asks for `stepUp`. -/
def tiedSet (stepUp : String) : PolicySet Rule where
  policies := [
    rule "policy0" [("id", "block-external"), ("decision_context_step_up", "external-auth")] .forbid
      (some ⟨⟨"Client"⟩, "a-client"⟩),
    rule "policy1" [("id", "block-external"), ("decision_context_step_up", stepUp)] .forbid none]
  nodup := by simp [rule]

theorem accepted_tiedSet {stepUp : String} (h : validateDecisionContexts (tiedSet stepUp) = .ok ()) :
    Accepted (knownSources (Schema Ty) [tiedSet stepUp]) loginSchema "policies.cedar"
      (tiedSet stepUp) :=
  ⟨_, validates_sourceText (by simp) (List.mem_singleton_self _) rfl h _⟩

def loginTarget : LogTarget := LogTarget.new (loginTo "a-client")

theorem annotations_tiedSet {p : Policy Rule} (h : p ∈ (tiedSet "external-auth").policies) :
    p.annotations = (rule "policy0" [("id", "block-external"),
      ("decision_context_step_up", "external-auth")] .forbid none).annotations := by
  revert p
  simp [tiedSet, rule]

/-- With equal contexts, the tie is harmless. -/
theorem answer_order_independent_tied :
    (answer loginTarget ⟨.deny, ["policy0", "policy1"], []⟩ (some (tiedSet "external-auth"))).1 =
      (answer loginTarget ⟨.deny, ["policy1", "policy0"], []⟩ (some (tiedSet "external-auth"))).1 ∧
    (answer loginTarget ⟨.deny, ["policy0", "policy1"], []⟩
      (some (tiedSet "external-auth"))).2.contextPolicy =
        (answer loginTarget ⟨.deny, ["policy1", "policy0"], []⟩
          (some (tiedSet "external-auth"))).2.contextPolicy := by
  have hids : ∀ id ∈ ["policy0", "policy1"],
      id ∈ (tiedSet "external-auth").policies.map Policy.id := by decide
  refine (answer_order_independent_iff (accepted_tiedSet rfl) hids loginTarget .deny []).mpr
    (fun p q hp hq k => ?_) _ _ (List.Perm.refl _) (List.Perm.swap _ _ _)
  rw [Policy.annotationAt, Policy.annotationAt, annotations_tiedSet (mem_determining_iff.mp hp.1).1,
    annotations_tiedSet (mem_determining_iff.mp hq.1).1]

/-- **The answer of an accepted set can depend on the order**: what the caller is told to do next
is taken from whichever policy comes first. -/
theorem answer_depends_on_order :
    Accepted (knownSources (Schema Ty) [tiedSet "none"]) loginSchema "policies.cedar"
      (tiedSet "none") ∧
    ["policy1", "policy0"].Perm ["policy0", "policy1"] ∧
    (answer loginTarget ⟨.deny, ["policy0", "policy1"], []⟩ (some (tiedSet "none"))).1 ≠
      (answer loginTarget ⟨.deny, ["policy1", "policy0"], []⟩ (some (tiedSet "none"))).1 := by
  refine ⟨accepted_tiedSet rfl, List.Perm.swap _ _ _, fun h => ?_⟩
  have hstep := congrArg (fun r : EvaluationResponse => (r.context.getD ∅).lookup "step_up") h
  have h1 : ((answer loginTarget ⟨.deny, ["policy0", "policy1"], []⟩
    (some (tiedSet "none"))).1.context.getD ∅).lookup "step_up" = some (.string "external-auth") := rfl
  have h2 : ((answer loginTarget ⟨.deny, ["policy1", "policy0"], []⟩
    (some (tiedSet "none"))).1.context.getD ∅).lookup "step_up" = some (.string "none") := rfl
  rw [h1, h2] at hstep
  exact absurd (Value.string.inj (Option.some.inj hstep)) (by decide)

end AuthzenPdp
