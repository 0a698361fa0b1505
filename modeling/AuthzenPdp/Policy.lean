import AuthzenPdp.Authzen

/-!
# Policies, policy sets and authorization answers

The data of the Cedar types that the server reads. A policy carries its internal id, its
annotations and a body of an arbitrary type `β` (effect, scope, conditions) that only Cedar looks
at; the ids in a set are distinct, and so are the annotation keys of a policy.

* `Policy.annotationAt`, `PolicySet.policy`, `policy_eq_some_iff`;
* `Response`: decision, determining ids in iteration order, evaluation errors;
* `PolicyApi`: the crate functions that read and validate policies;
* `SamePolicies`: two sets that differ in annotations only.
-/

namespace AuthzenPdp

abbrev PolicyId : Type := String

/-- A static policy. -/
structure Policy (β : Type) where
  id : PolicyId
  annotations : AList fun _ : String => String
  body : β

/-- A policy set, in iteration order. -/
structure PolicySet (β : Type) where
  policies : List (Policy β)
  nodup : (policies.map Policy.id).Nodup

inductive Decision where
  | allow
  | deny
  deriving DecidableEq

/-- The answer of the authorizer: `reason` and `errors` as the diagnostics yield them. -/
structure Response where
  decision : Decision
  reason : List PolicyId
  errors : List String
  deriving DecidableEq

/-- What the server calls to read policies: `PolicySet::from_str`, the errors of
`Validator::validate` in strict mode, and the text of `PolicySetProvider::new` for a path whose file it
cannot read or parse. -/
structure PolicyApi (β σ : Type) where
  fromStr : String → Except String (PolicySet β)
  validateStrict : σ → PolicySet β → List String
  providerError : String → Except String String → String

variable {β : Type}

/-- `Policy::annotation`. -/
def Policy.annotationAt (p : Policy β) (key : String) : Option String := p.annotations.lookup key

/-- `PolicySet::policy`. -/
def PolicySet.policy (ps : PolicySet β) (id : PolicyId) : Option (Policy β) :=
  ps.policies.find? fun p => p.id == id

/-- The two sets hold the same policies in the same order and differ in annotations only. -/
def SamePolicies (ps ps' : PolicySet β) : Prop :=
  List.Forall₂ (fun p p' => p.id = p'.id ∧ p.body = p'.body) ps.policies ps'.policies

theorem PolicySet.id_injOn (ps : PolicySet β) {p q : Policy β} (hp : p ∈ ps.policies)
    (hq : q ∈ ps.policies) (h : p.id = q.id) : p = q :=
  List.inj_on_of_nodup_map ps.nodup hp hq h

theorem PolicySet.policy_eq_some_iff {ps : PolicySet β} {id : PolicyId} {p : Policy β} :
    ps.policy id = some p ↔ p ∈ ps.policies ∧ p.id = id := by
  constructor
  · intro h
    exact ⟨List.mem_of_find?_eq_some h, by simpa using List.find?_some h⟩
  · rintro ⟨hp, rfl⟩
    cases hf : ps.policy p.id with
    | none =>
      have := List.find?_eq_none.mp hf p hp
      simp at this
    | some q =>
      have hq : q.id = p.id := by simpa using List.find?_some hf
      rw [ps.id_injOn (List.mem_of_find?_eq_some hf) hp hq]

theorem PolicySet.policy_of_mem {ps : PolicySet β} {p : Policy β} (hp : p ∈ ps.policies) :
    ps.policy p.id = some p :=
  PolicySet.policy_eq_some_iff.mpr ⟨hp, rfl⟩

/-- An id of the set resolves. -/
theorem PolicySet.exists_policy {ps : PolicySet β} {id : PolicyId}
    (h : id ∈ ps.policies.map Policy.id) : ∃ p, ps.policy id = some p := by
  obtain ⟨p, hp, rfl⟩ := List.mem_map.mp h
  exact ⟨p, PolicySet.policy_of_mem hp⟩

end AuthzenPdp
