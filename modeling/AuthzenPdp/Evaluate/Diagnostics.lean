import AuthzenPdp.Evaluate.Order

/-!
# The order that a call finds

Cedar keeps the determining ids in a hash set, and every answer of the authorizer has its own: calls that
are the same otherwise can find the ids in different orders.

* `ReasonOrder`, `AppState.inOrder`: the application, as a call sees it that finds the ids in an order;
* `authorized_inOrder`: only the order of the ids differs;
* `PolicySet.Untied`, **`evaluate_inOrder_of_untied`**: the sets whose answers are the same in all orders.
-/

namespace AuthzenPdp

open MinBy

variable {β τ ν : Type}

/-- The order in which one call finds the determining ids. -/
structure ReasonOrder where
  apply : List PolicyId → List PolicyId
  perm (ids : List PolicyId) : (apply ids).Perm ids

namespace ReasonOrder

/-- As the authorizer of the model lists them. -/
def given : ReasonOrder := ⟨id, .refl⟩

def reversed : ReasonOrder := ⟨List.reverse, List.reverse_perm⟩

end ReasonOrder

def Response.inOrder (o : ReasonOrder) (r : Response) : Response := { r with reason := o.apply r.reason }

/-- The application, with the determining ids in the order `o`. -/
def AppState.inOrder (state : AppState β τ ν) (o : ReasonOrder) : AppState β τ ν :=
  { state with isAuthorized := fun ps request entities =>
      (state.isAuthorized ps request entities).map (Response.inOrder o) }

variable {state : AppState β τ ν} {o : ReasonOrder}

theorem isAuthorized_inOrder_iff {ps : PolicySet β} {request : Request ν} {entities : Entities ν}
    {r : Response} : (state.inOrder o).isAuthorized ps request entities = .ok r ↔
      ∃ r₀, state.isAuthorized ps request entities = .ok r₀ ∧ r₀.inOrder o = r := by
  change (state.isAuthorized ps request entities).map (Response.inOrder o) = .ok r ↔ _
  cases state.isAuthorized ps request entities with
  | error e => exact iff_of_false nofun nofun
  | ok r₀ =>
    change Except.ok (r₀.inOrder o) = .ok r ↔ _
    simp only [Except.ok.injEq, exists_eq_left']

/-- An order changes nothing but the order. -/
theorem authorized_inOrder (state : AppState β τ ν) (o : ReasonOrder) (ps : PolicySet β)
    (body : List UInt8) : authorized (state.inOrder o) ps body =
      (authorized state ps body).map fun out => (out.1, out.2.inOrder o) := by
  cases hreq : state.fromSlice body with
  | error e =>
    have hreq' : (state.inOrder o).fromSlice body = .error e := hreq
    rw [authorized_of_invalidJson hreq, authorized_of_invalidJson hreq']
    rfl
  | ok request =>
    have hreq' : (state.inOrder o).fromSlice body = .ok request := hreq
    cases hconv : toCedar state.api request state.schema with
    | error e =>
      rw [authorized_of_rejected hreq hconv, authorized_of_rejected hreq' hconv]
      rfl
    | ok converted =>
      rw [authorized_of_converted hreq hconv, authorized_of_converted hreq' hconv]
      change ((state.isAuthorized ps converted.1 converted.2).map (Response.inOrder o)).mapError _ >>= _ = _
      cases state.isAuthorized ps converted.1 converted.2 <;> rfl

theorem authorized_inOrder_error_iff {ps : PolicySet β} {body : List UInt8} {e : ApiError} :
    authorized (state.inOrder o) ps body = .error e ↔ authorized state ps body = .error e := by
  rw [authorized_inOrder]
  cases authorized state ps body with
  | error e' => exact Iff.rfl
  | ok out => exact iff_of_false nofun nofun

/-! ## Sets without ties -/

/-- **Policies that compete for the context on equal terms carry the same context.** -/
def PolicySet.Untied (ps : PolicySet β) : Prop :=
  ∀ p ∈ ps.policies, ∀ q ∈ ps.policies, contextRank p = contextRank q → SameContext p q

/-- Distinct names break all ties. -/
theorem untied_of_nodup {ps : PolicySet β} (h : (ps.policies.map displayId).Nodup) : ps.Untied := by
  intro p hp q hq hrank
  rw [List.inj_on_of_nodup_map h hp hq (congrArg (fun r => (ofLex r).2) hrank)]
  exact fun _ => rfl

theorem answer_inOrder_of_untied {ps : PolicySet β} (h : ps.Untied) (o : ReasonOrder)
    (target : LogTarget) (response : Response) :
    answer target (response.inOrder o) (some ps) = answer target response (some ps) := by
  have hperm : (o.apply response.reason).Perm response.reason := o.perm response.reason
  have hleast : ∀ p q, LeastIn contextRank (response.reason.filterMap ps.policy) p →
      LeastIn contextRank (response.reason.filterMap ps.policy) q → SameContext p q :=
    fun p q hp hq => h p (mem_determining_iff.mp hp.1).1 q (mem_determining_iff.mp hq.1).1 (hp.key_eq hq)
  exact answer_perm hperm (toDecisionContext_perm hleast hperm)

/-- **Without ties, all orders give the same answer.** -/
theorem evaluate_inOrder_of_untied {ps : PolicySet β} (h : ps.Untied) (state : AppState β τ ν)
    (o : ReasonOrder) (body : List UInt8) :
    evaluate (state.inOrder o) ps (some ps) body = evaluate state ps (some ps) body := by
  have hauth := authorized_inOrder state o ps body
  cases hout : authorized state ps body with
  | error e =>
    rw [hout] at hauth
    rw [evaluate_of_error hout, evaluate_of_error hauth]
  | ok out =>
    rw [hout] at hauth
    rw [evaluate_of_authorized hout, evaluate_of_authorized hauth, answer_inOrder_of_untied h]

end AuthzenPdp
