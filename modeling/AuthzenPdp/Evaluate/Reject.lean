import AuthzenPdp.Evaluate.Concurrent
import AuthzenPdp.Request.Outcome

/-!
# Rejected calls

A call is rejected before it reaches the policies, so policies, reloads and other calls cannot change
which calls are rejected, nor how.

* `ClientError`: the codes that body and schema alone give;
* `authorized_rejects_iff`: `authorized` fails with them on every set;
* `AuthorizerFails`, `authorized_evaluation_iff`: the server error;
* **`outcome_status`**: which calls of a server fail, in every run, and with which codes.
-/

namespace AuthzenPdp

open Trans

variable {β τ ν ι : Type}

/-- The body is rejected with `code`: it is no request, or the request does not pass a stage. -/
inductive ClientError (state : AppState β τ ν) (T : Typing τ ν) (body : List UInt8) : String → Prop where
  | invalidJson {error : String} (h : state.fromSlice body = .error error) :
      ClientError state T body "invalid_json"
  | conversion {request : EvaluationRequest} {code : String} (h : state.fromSlice body = .ok request)
      (hj : Judges state.api T state.schema request (some code)) : ClientError state T body code

/-- The error answer is the client's, with `code`. -/
def ApiError.Rejects (e : ApiError) (code : String) : Prop := e.status = 400 ∧ e.code = code

theorem ApiError.rejects_conversion {error : ConversionError} {code : String} :
    (ApiError.conversion error).Rejects code ↔ error.code = code :=
  and_iff_right rfl

theorem ApiError.not_rejects_evaluation {code : String} : ¬ ApiError.evaluation.Rejects code :=
  fun h => absurd h.1 (by decide)

variable {state : AppState β τ ν} {T : Typing τ ν}

theorem clientError_of_fromSlice {body : List UInt8} {request : EvaluationRequest}
    (h : state.fromSlice body = .ok request) {code : String} :
    ClientError state T body code ↔ Judges state.api T state.schema request (some code) := by
  constructor
  · rintro (hbody | ⟨hbody, hj⟩)
    · rw [h] at hbody
      cases hbody
    · rw [h] at hbody
      cases hbody
      exact hj
  · exact fun hj => .conversion h hj

/-- `authorized` rejects a body for the reasons of `ClientError`, on every policy set. -/
theorem authorized_rejects_iff (h : state.api.Lawful T) {body : List UInt8} {code : String}
    (ps : PolicySet β) : (∃ e, authorized state ps body = .error e ∧ e.Rejects code) ↔
      ClientError state T body code := by
  cases hbody : state.fromSlice body with
  | error error =>
    rw [authorized_of_invalidJson hbody]
    constructor
    · rintro ⟨e, he, -, rfl⟩
      cases he
      exact .invalidJson hbody
    · rintro (- | ⟨hreq, -⟩)
      · exact ⟨_, rfl, rfl, rfl⟩
      · rw [hbody] at hreq
        cases hreq
  | ok request =>
    have hj : Judges state.api T state.schema request (some code) ↔
        codeOf (toCedar state.api request state.schema) = some code :=
      ⟨codeOf_toCedar h, fun hcode => hcode ▸ judges_codeOf h state.schema request⟩
    rw [clientError_of_fromSlice hbody, hj]
    cases hc : toCedar state.api request state.schema with
    | error error =>
      rw [authorized_of_rejected hbody hc]
      simp only [Except.error.injEq, exists_eq_left', ApiError.rejects_conversion, codeOf,
        Option.some.injEq]
    | ok out =>
      obtain ⟨q, es⟩ := out
      rw [authorized_of_converted hbody hc]
      refine iff_of_false ?_ nofun
      rintro ⟨e, he, hrej⟩
      cases hauth : state.isAuthorized ps q es with
      | error error =>
        rw [hauth] at he
        cases he
        exact ApiError.not_rejects_evaluation hrej
      | ok response =>
        rw [hauth] at he
        cases he

/-- The request converts, and the authorizer fails on it with the set `ps`. -/
def AuthorizerFails (state : AppState β τ ν) (ps : PolicySet β) (body : List UInt8) : Prop :=
  ∃ request q es error, state.fromSlice body = .ok request ∧
    toCedar state.api request state.schema = .ok (q, es) ∧ state.isAuthorized ps q es = .error error

theorem authorized_evaluation_iff {ps : PolicySet β} {body : List UInt8} :
    authorized state ps body = .error .evaluation ↔ AuthorizerFails state ps body := by
  constructor
  · intro h
    cases hbody : state.fromSlice body with
    | error error =>
      rw [authorized_of_invalidJson hbody] at h
      cases h
    | ok request =>
      cases hc : toCedar state.api request state.schema with
      | error error =>
        rw [authorized_of_rejected hbody hc] at h
        cases h
      | ok out =>
        rw [authorized_of_converted hbody hc] at h
        cases hauth : state.isAuthorized ps out.1 out.2 with
        | error error => exact ⟨request, out.1, out.2, error, hbody, hc, hauth⟩
        | ok response =>
          rw [hauth] at h
          cases h
  · rintro ⟨request, q, es, error, hbody, hc, hauth⟩
    rw [authorized_of_converted hbody hc, hauth]
    rfl

/-! ## Runs -/

variable [DecidableEq ι] {orders : ι → ReasonOrder} {api : PolicyApi β (Schema τ)} {policyPath : String}
  {bodies : ι → List UInt8}

/-- **Which calls fail.** In every run of the server, a call is rejected with a code iff its body is,
whatever the policies are; and it fails inside the server iff the authorizer fails on the set that is
live at its first read. -/
theorem outcome_status (hapi : state.api.Lawful T) {file : File} {ls : List (ServerLabel ι)}
    {w : Server β ι}
    (h : run (serveAll state orders api policyPath bodies) (Server.boot file) ls = some w) {i : ι}
    {outcome : Except ApiError (EvaluationResponse × AccessLog)} (hi : w.calls i = .done outcome) :
    (∀ code, (∃ e, outcome = .error e ∧ e.Rejects code) ↔ ClientError state T (bodies i) code) ∧
      ∃ ls₁ ls₂ ls₃ S₁ S₂, ls = ls₁ ++ .read i :: (ls₂ ++ .read i :: ls₃) ∧
        ServedAfter state orders api policyPath bodies file ls₁ S₁ ∧
        ServedAfter state orders api policyPath bodies file (ls₁ ++ .read i :: ls₂) S₂ ∧
        outcome = evaluate (state.inOrder (orders i)) S₁ (some S₂) (bodies i) ∧
        (outcome = .error .evaluation ↔ AuthorizerFails state S₁ (bodies i)) := by
  obtain ⟨ls₁, ls₂, ls₃, S₁, S₂, hls, h₁, h₂, rfl⟩ := outcome_eq_evaluate h hi
  have herror : ∀ e, evaluate (state.inOrder (orders i)) S₁ (some S₂) (bodies i) = .error e ↔
      authorized state S₁ (bodies i) = .error e :=
    fun e => evaluate_error_iff.trans authorized_inOrder_error_iff
  refine ⟨fun code => ?_, ls₁, ls₂, ls₃, S₁, S₂, hls, h₁, h₂, rfl, ?_⟩
  · simp only [herror]
    exact authorized_rejects_iff hapi S₁
  · rw [herror, authorized_evaluation_iff]

/-! ## A rejected call -/

/-- `login` to a resource of an undeclared type. -/
abbrev robotPdp : AppState Rule Ty Prim :=
  pdp loginSchema ⟨⟨"User", "alice", none⟩, ⟨"login"⟩, ⟨"Robot", "a-client", none⟩, none⟩

theorem run_robotReads : ∃ w error, run (serveAll robotPdp twoOrders files "policies.cedar" fun _ => [])
    (Server.boot (.ok (sourceText blockExternal))) (startupSteps.map .sys ++ nestedReads) = some w ∧
      w.calls true = .done (.error (.conversion (.request error))) := by
  have hv : Validates files robotPdp.schema "policies.cedar" (sourceText blockExternal) blockExternal :=
    validates_blockExternal "policies.cedar"
  exact ⟨_, _, run_append.mpr ⟨_, run_started hv, rfl⟩, rfl⟩

/-- The call is rejected, and the authorizer does not fail on the set of its first read. -/
theorem outcome_status_robot : ClientError robotPdp prims [] "invalid_request" ∧
    ∃ ls S, ServedAfter robotPdp twoOrders files "policies.cedar" (fun _ => [])
      (.ok (sourceText blockExternal)) ls S ∧ ¬ AuthorizerFails robotPdp S [] := by
  obtain ⟨w, error, hw, htrue⟩ := run_robotReads
  obtain ⟨hrejected, ls₁, -, -, S, -, -, hserved, -, -, hfails⟩ :=
    outcome_status reference_lawful hw htrue
  refine ⟨(hrejected _).mp ⟨_, rfl, rfl, rfl⟩, ls₁, S, hserved, fun hf => ?_⟩
  cases hfails.mpr hf

end AuthzenPdp
