import AuthzenPdp.Context.Lossless
import AuthzenPdp.Evaluate.Reference

/-!
# Non-interference of annotations

Two accepted sets of the same policies, evaluated on the same request.

* `rel_policy_of_samePolicies`: the policies of one id, related by what their annotations share;
* `SameReadAnnotations`, `servedAlike_of_sameReadAnnotations`: the annotations that are read at all;
* `AgreeOffEntries`: the same decision, `reason` and `errors`; other keys differ only if they are
  annotation-derived;
* **`evaluate_noninterference`**: unread annotations change nothing, and with the same `@id`
  everything else changes annotation-derived keys only.
-/

namespace AuthzenPdp

open MinBy

variable {β σ τ ν : Type}

theorem map_id_of_samePolicies {ps ps' : PolicySet β} (h : SamePolicies ps ps') :
    ps.policies.map Policy.id = ps'.policies.map Policy.id := by
  have hl : ∀ l l' : List (Policy β), List.Forall₂ (fun p p' => p.id = p'.id ∧ p.body = p'.body) l l' →
      l.map Policy.id = l'.map Policy.id := by
    intro l l' hf
    induction hf with
    | nil => rfl
    | cons hp _ ih => rw [List.map_cons, List.map_cons, hp.1, ih]
  exact hl _ _ h

/-- The policies of one id in the two sets. -/
theorem rel_policy_of_samePolicies {R : Policy β → Policy β → Prop} {ps ps' : PolicySet β}
    (h : SamePolicies ps ps')
    (hR : ∀ p ∈ ps.policies, ∀ p' ∈ ps'.policies, p.id = p'.id → R p p') (id : PolicyId) :
    Option.Rel R (ps.policy id) (ps'.policy id) := by
  have hids := map_id_of_samePolicies h
  cases hp : ps.policy id with
  | none =>
    cases hp' : ps'.policy id with
    | none => exact .none
    | some p' =>
      obtain ⟨hmem, rfl⟩ := PolicySet.policy_eq_some_iff.mp hp'
      obtain ⟨q, hq⟩ := PolicySet.exists_policy (hids ▸ List.mem_map_of_mem hmem)
      rw [hq] at hp
      cases hp
  | some p =>
    obtain ⟨hmem, rfl⟩ := PolicySet.policy_eq_some_iff.mp hp
    have hmem' : p.id ∈ ps'.policies.map Policy.id := hids ▸ List.mem_map_of_mem hmem
    obtain ⟨p', hp'⟩ := PolicySet.exists_policy hmem'
    rw [hp']
    obtain ⟨hp'mem, hid⟩ := PolicySet.policy_eq_some_iff.mp hp'
    exact .some (hR p hmem p' hp'mem hid.symm)

/-! ## The annotations that are read -/

/-- The same `@id`, `@priority` and `@decision_context_*`. -/
structure SameReadAnnotations (p q : Policy β) : Prop where
  id : p.annotationAt idAnnotation = q.annotationAt idAnnotation
  priority : p.annotationAt priorityAnnotation = q.annotationAt priorityAnnotation
  context : SameContext p q

theorem servedAlike_of_sameReadAnnotations {p q : Policy β} (hid : p.id = q.id)
    (h : SameReadAnnotations p q) : ServedAlike p q where
  name := by rw [displayId, displayId, h.id, hid]
  priority := by rw [priorityOf, priorityOf, h.priority]
  context := h.context

/-- `key` is derived from an annotation of the set. -/
def AnnotationDerived (ps : PolicySet β) (key : String) : Prop :=
  ∃ p ∈ ps.policies, p.annotationAt (decisionContextPrefix ++ key) ≠ none

/-- **The outcomes agree off the annotation-derived keys.** -/
def AgreeOffEntries (ps ps' : PolicySet β) :
    Except ApiError (EvaluationResponse × AccessLog) →
      Except ApiError (EvaluationResponse × AccessLog) → Prop
  | .ok (r, _), .ok (r', _) => r.decision = r'.decision ∧
      (r.context.getD ∅).lookup reservedReasonKey = (r'.context.getD ∅).lookup reservedReasonKey ∧
      (r.context.getD ∅).lookup reservedErrorsKey = (r'.context.getD ∅).lookup reservedErrorsKey ∧
      ∀ k, (r.context.getD ∅).lookup k ≠ (r'.context.getD ∅).lookup k →
        AnnotationDerived ps k ∨ AnnotationDerived ps' k
  | .error e, .error e' => e = e'
  | _, _ => False

theorem annotationDerived_of_mem_authorContext {ps : PolicySet β} (h : ps.WellAnnotated)
    {ids : List PolicyId} {k : String} (hk : k ∈ authorContext ps ids) : AnnotationDerived ps k := by
  obtain ⟨v, hv⟩ := Finmap.mem_iff.mp hk
  rw [lookup_authorContext_of_wellAnnotated h, Option.bind_eq_some_iff] at hv
  obtain ⟨p, hp, hv⟩ := hv
  exact ⟨p, (winner_mem hp).1, fun hn => by rw [hn] at hv; cases hv⟩

/-- The reserved keys of an answer for an accepted set. -/
theorem lookup_answer_context {ps : PolicySet β} (target : LogTarget) (response : Response)
    (k : String) : ((answer target response (some ps)).1.context.getD ∅).lookup k =
      if k = reservedErrorsKey ∧ response.errors ≠ [] then some (jsonStringArray response.errors)
      else if k = reservedReasonKey ∧ resolveReason response.reason (some ps) ≠ [] then
        some (jsonStringArray (resolveReason response.reason (some ps)))
      else (authorContext ps response.reason).lookup k := by
  rw [answer_context, lookup_buildResponseContext]
  rfl

theorem answer_agreeOffEntries {ps ps' : PolicySet β} (h : ps.WellAnnotated) (h' : ps'.WellAnnotated)
    {response : Response} (hr : resolveReason response.reason (some ps) =
      resolveReason response.reason (some ps')) (target : LogTarget) :
    AgreeOffEntries ps ps' (.ok (answer target response (some ps)))
      (.ok (answer target response (some ps'))) := by
  have hkey : ∀ k, ((answer target response (some ps)).1.context.getD ∅).lookup k ≠
      ((answer target response (some ps')).1.context.getD ∅).lookup k →
        AnnotationDerived ps k ∨ AnnotationDerived ps' k := by
    intro k hk
    rw [lookup_answer_context, lookup_answer_context, hr] at hk
    split_ifs at hk
    · exact absurd rfl hk
    · exact absurd rfl hk
    · by_contra hnot
      rw [not_or] at hnot
      refine hk ?_
      rw [Finmap.lookup_eq_none.mpr (mt (annotationDerived_of_mem_authorContext h) hnot.1),
        Finmap.lookup_eq_none.mpr (mt (annotationDerived_of_mem_authorContext h') hnot.2)]
  have hreserved : ∀ k, k = reservedReasonKey ∨ k = reservedErrorsKey →
      ((answer target response (some ps)).1.context.getD ∅).lookup k =
        ((answer target response (some ps')).1.context.getD ∅).lookup k := by
    intro k hk
    by_contra hne
    rcases hkey k hne with ⟨p, hp, hann⟩ | ⟨p, hp, hann⟩
    · obtain ⟨-, h1, h2⟩ := (h p hp).key k hann
      exact hk.elim h1 h2
    · obtain ⟨-, h1, h2⟩ := (h' p hp).key k hann
      exact hk.elim h1 h2
  exact ⟨rfl, hreserved _ (.inl rfl), hreserved _ (.inr rfl), hkey⟩

/-- **Non-interference of annotations.** Take two accepted sets of the same policies and a request
that sees one set throughout. Annotations other than `@id`, `@priority` and `@decision_context_*`
change nothing in the outcome; and if the `@id`s agree, all annotations together change nothing but
annotation-derived keys. -/
theorem evaluate_noninterference {state : AppState β τ ν} (hstate : state.IgnoresAnnotations)
    {api : PolicyApi β σ} {schema : σ} {path : String} {ps ps' : PolicySet β}
    (h : Accepted api schema path ps) (h' : Accepted api schema path ps')
    (hsame : SamePolicies ps ps') (body : List UInt8) :
    ((∀ p ∈ ps.policies, ∀ p' ∈ ps'.policies, p.id = p'.id → SameReadAnnotations p p') →
      evaluate state ps (some ps) body = evaluate state ps' (some ps') body) ∧
    ((∀ p ∈ ps.policies, ∀ p' ∈ ps'.policies, p.id = p'.id →
        p.annotationAt idAnnotation = p'.annotationAt idAnnotation) →
      AgreeOffEntries ps ps' (evaluate state ps (some ps) body)
        (evaluate state ps' (some ps') body)) := by
  have hauth : authorized state ps body = authorized state ps' body :=
    authorized_congr (fun request entities => hstate ps ps' request entities hsame) body
  cases hr : authorized state ps body with
  | error e =>
    have hr' := hauth.symm.trans hr
    rw [evaluate_of_error hr, evaluate_of_error hr']
    exact ⟨fun _ => rfl, fun _ => rfl⟩
  | ok out =>
    obtain ⟨target, response⟩ := out
    have hr' := hauth.symm.trans hr
    rw [evaluate_of_authorized hr, evaluate_of_authorized hr']
    constructor
    · intro hann
      rw [answer_of_servedAlike fun id _ => rel_policy_of_samePolicies hsame
        (fun p hp p' hp' e => servedAlike_of_sameReadAnnotations e (hann p hp p' hp' e)) id]
    · intro hid
      refine answer_agreeOffEntries h.wellAnnotated h'.wellAnnotated ?_ target
      refine resolveReason_congr fun id _ => rel_policy_of_samePolicies hsame ?_ id
      intro p hp p' hp' e
      rw [displayId, displayId, hid p hp p' hp' e, e]

/-! ## Two accepted sets -/

/-- A `forbid` policy with a description and a priority. -/
def describedSet (description priority : String) : PolicySet Rule where
  policies := [rule "policy0" [("description", description), ("id", "block-external"),
    ("priority", priority), ("decision_context_step_up", "external-auth")] .forbid none]
  nodup := List.nodup_singleton _

theorem annotation_describedSet {d d' pr : String} {p p' : Policy Rule}
    (hp : p ∈ (describedSet d pr).policies) (hp' : p' ∈ (describedSet d' pr).policies) {key : String}
    (hkey : key ≠ "description") : p.annotationAt key = p'.annotationAt key := by
  have hskip : ∀ (d : String) (l : List (Sigma fun _ : String => String)),
      (⟨"description", d⟩ :: l).dlookup key = l.dlookup key :=
    fun d l => List.dlookup_cons_ne l ⟨"description", d⟩ hkey
  rw [describedSet, List.mem_singleton] at hp hp'
  rw [hp, hp']
  simp only [Policy.annotationAt, rule, List.map_cons, AList.lookup_to_alist]
  rw [hskip, hskip]

/-- A new description is invisible, and a new priority leaves decision, names and errors alone. -/
theorem evaluate_noninterference_described :
    evaluate (pdp loginSchema (loginTo "a-client")) (describedSet "first" "10")
      (some (describedSet "first" "10")) [] =
        evaluate (pdp loginSchema (loginTo "a-client")) (describedSet "second" "10")
          (some (describedSet "second" "10")) [] ∧
    AgreeOffEntries (describedSet "first" "10") (describedSet "first" "20")
      (evaluate (pdp loginSchema (loginTo "a-client")) (describedSet "first" "10")
        (some (describedSet "first" "10")) [])
      (evaluate (pdp loginSchema (loginTo "a-client")) (describedSet "first" "20")
        (some (describedSet "first" "20")) []) := by
  have hacc : ∀ ps ∈ [describedSet "first" "10", describedSet "second" "10", describedSet "first" "20"],
      Accepted (knownSources (Schema Ty) [describedSet "first" "10", describedSet "second" "10",
        describedSet "first" "20"]) loginSchema "policies.cedar" ps := by
    intro ps hps
    refine ⟨_, validates_sourceText (by decide +kernel) hps ?_ ?_ _⟩
    all_goals
      simp only [List.mem_cons, List.not_mem_nil, or_false] at hps
      rcases hps with rfl | rfl | rfl <;> rfl
  have hsame : ∀ d pr d' pr', SamePolicies (describedSet d pr) (describedSet d' pr') :=
    fun _ _ _ _ => .cons ⟨rfl, rfl⟩ .nil
  constructor
  · refine (evaluate_noninterference (pdp_ignoresAnnotations _ _) (hacc _ (by simp)) (hacc _ (by simp))
      (hsame _ _ _ _) []).1 fun p hp p' hp' _ => ?_
    refine ⟨annotation_describedSet hp hp' (by decide), annotation_describedSet hp hp' (by decide),
      fun k => annotation_describedSet hp hp' fun hk => ?_⟩
    have := decisionContextKey_append k
    rw [hk] at this
    exact absurd this (by simp [show decisionContextKey "description" = none by decide])
  · refine (evaluate_noninterference (pdp_ignoresAnnotations _ _) (hacc _ (by simp)) (hacc _ (by simp))
      (hsame _ _ _ _) []).2 fun p hp p' hp' _ => ?_
    rw [describedSet, List.mem_singleton] at hp hp'
    rw [hp, hp']
    rfl

end AuthzenPdp
