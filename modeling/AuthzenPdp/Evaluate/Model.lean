import AuthzenPdp.Context.Valid
import AuthzenPdp.Request.Model

/-!
# The evaluation handler

`evaluate` reads the provider twice: inside the authorizer, and again to resolve the determining
ids. The two reads are two arguments here.

* `ApiError` with its status, code and body; `LogTarget`, `AccessLog`;
* `authorized`: the handler up to the answer of the authorizer, on the first read;
* `answer`: what it makes of that answer, on the second read;
* `evaluate`, `evaluate_of_authorized`, `authorized_ok_iff`;
* `IgnoresAnnotations`: authorization does not depend on annotations;
* **`answer_of_servedAlike`**: what an answer reads of a policy set.
-/

namespace AuthzenPdp

open MinBy

variable {β τ ν : Type}

/-- What the handler shares between requests, and the crate functions it calls: the JSON
deserializer of the request body, the Cedar constructors, the authorizer. -/
structure AppState (β τ ν : Type) where
  schema : Schema τ
  api : RequestApi τ ν
  fromSlice : List UInt8 → Except String EvaluationRequest
  isAuthorized : PolicySet β → Request ν → Entities ν → Except String Response

inductive ApiError where
  | invalidJson (error : String)
  | conversion (error : ConversionError)
  | evaluation
  deriving DecidableEq

def ApiError.status : ApiError → Nat
  | .invalidJson _ | .conversion _ => 400
  | .evaluation => 500

def ApiError.code : ApiError → String
  | .invalidJson _ => "invalid_json"
  | .conversion error => error.code
  | .evaluation => "evaluation_failed"

def ApiError.text : ApiError → String
  | .invalidJson error => error
  | .conversion error => error.text
  | .evaluation => "authorization failed"

def ApiError.body (e : ApiError) : ErrorBody := ⟨e.code, e.text⟩

structure LogTarget where
  subject : String
  action : String
  resource : String
  deriving DecidableEq

def LogTarget.new (request : EvaluationRequest) : LogTarget where
  subject := request.subject.entityType ++ "::" ++ request.subject.id
  action := request.action.name
  resource := request.resource.entityType ++ "::" ++ request.resource.id

/-- The record logged at the end of an evaluation, without its latency. -/
structure AccessLog where
  target : LogTarget
  decision : String
  externalAuthForced : Bool
  determiningPolicies : String
  contextPolicy : String
  deriving DecidableEq

def noContextPolicy : String := "-"

def parseRequest (state : AppState β τ ν) (body : List UInt8) : Except ApiError EvaluationRequest :=
  (state.fromSlice body).mapError .invalidJson

def convertRequest (state : AppState β τ ν) (request : EvaluationRequest) :
    Except ApiError (Request ν × Entities ν) :=
  (toCedar state.api request state.schema).mapError .conversion

/-- `authorize`: the authorizer reads the policy set `ps` from the provider. -/
def authorize (state : AppState β τ ν) (ps : PolicySet β) (request : Request ν)
    (entities : Entities ν) : Except ApiError Response :=
  (state.isAuthorized ps request entities).mapError fun _ => .evaluation

/-- `evaluate` up to the answer of the authorizer. -/
def authorized (state : AppState β τ ν) (ps : PolicySet β) (body : List UInt8) :
    Except ApiError (LogTarget × Response) := do
  let request ← parseRequest state body
  let (cedarRequest, entities) ← convertRequest state request
  let response ← authorize state ps cedarRequest entities
  .ok (LogTarget.new request, response)

/-- The rest of `evaluate`, with the policy set that the handler reads itself. -/
def answer (target : LogTarget) (response : Response) (ps : Option (PolicySet β)) :
    EvaluationResponse × AccessLog :=
  let allowed := response.decision == .allow
  let reason := resolveReason response.reason ps
  let decisionContext := ps.bind fun ps => toDecisionContext ps response.reason
  let context := buildResponseContext (decisionContext.map DecisionContext.context) reason
    response.errors
  (EvaluationResponse.withContext (.new allowed) context, {
    target := target
    decision := if allowed then "allow" else "deny"
    externalAuthForced := !allowed
    determiningPolicies := ",".intercalate reason
    contextPolicy := (decisionContext.map DecisionContext.policyId).getD noContextPolicy })

/-- The handler, with the two policy sets that it reads. -/
def evaluate (state : AppState β τ ν) (first : PolicySet β) (second : Option (PolicySet β))
    (body : List UInt8) : Except ApiError (EvaluationResponse × AccessLog) := do
  let (target, response) ← authorized state first body
  .ok (answer target response second)

/-- Authorization and its diagnostics do not depend on annotations. -/
def AppState.IgnoresAnnotations (state : AppState β τ ν) : Prop :=
  ∀ ps ps' request entities, SamePolicies ps ps' →
    state.isAuthorized ps request entities = state.isAuthorized ps' request entities

/-! ## Equations -/

theorem evaluate_of_authorized {state : AppState β τ ν} {first : PolicySet β} {body : List UInt8}
    {target : LogTarget} {response : Response}
    (h : authorized state first body = .ok (target, response)) (second : Option (PolicySet β)) :
    evaluate state first second body = .ok (answer target response second) := by
  rw [evaluate, h]
  rfl

theorem evaluate_of_error {state : AppState β τ ν} {first : PolicySet β} {body : List UInt8}
    {e : ApiError} (h : authorized state first body = .error e) (second : Option (PolicySet β)) :
    evaluate state first second body = .error e := by
  rw [evaluate, h]
  rfl

theorem evaluate_ok_iff {state : AppState β τ ν} {first : PolicySet β} {second : Option (PolicySet β)}
    {body : List UInt8} {out : EvaluationResponse × AccessLog} :
    evaluate state first second body = .ok out ↔ ∃ target response,
      authorized state first body = .ok (target, response) ∧ out = answer target response second := by
  rw [evaluate, bind_eq_ok]
  constructor
  · rintro ⟨⟨target, response⟩, hauth, heq⟩
    exact ⟨target, response, hauth, (Except.ok.inj heq).symm⟩
  · rintro ⟨target, response, hauth, rfl⟩
    exact ⟨(target, response), hauth, rfl⟩

/-- Authorization depends on the policy set through the authorizer only. -/
theorem authorized_congr {state : AppState β τ ν} {ps ps' : PolicySet β}
    (h : ∀ request entities, state.isAuthorized ps request entities =
      state.isAuthorized ps' request entities) (body : List UInt8) :
    authorized state ps body = authorized state ps' body := by
  simp only [authorized, authorize, h]

theorem authorized_of_invalidJson {state : AppState β τ ν} {body : List UInt8} {error : String}
    (h : state.fromSlice body = .error error) (ps : PolicySet β) :
    authorized state ps body = .error (.invalidJson error) := by
  rw [authorized, parseRequest, h]
  rfl

theorem authorized_of_rejected {state : AppState β τ ν} {body : List UInt8}
    {request : EvaluationRequest} (h : state.fromSlice body = .ok request) {error : ConversionError}
    (hc : toCedar state.api request state.schema = .error error) (ps : PolicySet β) :
    authorized state ps body = .error (.conversion error) := by
  rw [authorized, parseRequest, h]
  change (convertRequest state request >>= _) = _
  rw [convertRequest, hc]
  rfl

theorem authorized_of_converted {state : AppState β τ ν} {body : List UInt8}
    {request : EvaluationRequest} (h : state.fromSlice body = .ok request) {q : Request ν}
    {es : Entities ν}
    (hc : toCedar state.api request state.schema = .ok (q, es)) (ps : PolicySet β) :
    authorized state ps body =
      (state.isAuthorized ps q es).mapError (fun _ => .evaluation) >>= fun response =>
        .ok (LogTarget.new request, response) := by
  rw [authorized, parseRequest, h]
  change (convertRequest state request >>= _) = _
  rw [convertRequest, hc]
  rfl

/-- What `authorized` has done when it succeeds. -/
theorem authorized_ok_iff {state : AppState β τ ν} {ps : PolicySet β} {body : List UInt8}
    {target : LogTarget} {response : Response} : authorized state ps body = .ok (target, response) ↔
      ∃ request q es, state.fromSlice body = .ok request ∧
        toCedar state.api request state.schema = .ok (q, es) ∧
          state.isAuthorized ps q es = .ok response ∧ target = LogTarget.new request := by
  simp only [authorized, parseRequest, convertRequest, authorize, bind_eq_ok, mapError_eq_ok,
    Except.ok.injEq, Prod.mk.injEq, Prod.exists]
  constructor
  · rintro ⟨request, hbody, q, es, hc, r, hr, rfl, rfl⟩
    exact ⟨request, q, es, hbody, hc, hr, rfl⟩
  · rintro ⟨request, q, es, hbody, hc, hr, rfl⟩
    exact ⟨request, hbody, q, es, hc, response, hr, rfl, rfl⟩

theorem evaluate_error_iff {state : AppState β τ ν} {first : PolicySet β}
    {second : Option (PolicySet β)} {body : List UInt8} {e : ApiError} :
    evaluate state first second body = .error e ↔ authorized state first body = .error e := by
  cases h : authorized state first body with
  | error e' => rw [evaluate_of_error h, Except.error.injEq, Except.error.injEq]
  | ok out =>
    rw [evaluate_of_authorized h]
    exact iff_of_false nofun nofun

theorem answer_context (target : LogTarget) (response : Response) (ps : PolicySet β) :
    (answer target response (some ps)).1.context = buildResponseContext
      ((toDecisionContext ps response.reason).map DecisionContext.context)
      (resolveReason response.reason (some ps)) response.errors := rfl

/-- The answer depends on the determining ids through their names and the selected context. -/
theorem answer_congr {target : LogTarget} {d : Decision} {ids ids' : List PolicyId}
    {errors : List String} {ps ps' : PolicySet β}
    (hr : resolveReason ids (some ps) = resolveReason ids' (some ps'))
    (hc : toDecisionContext ps ids = toDecisionContext ps' ids') :
    answer target ⟨d, ids, errors⟩ (some ps) = answer target ⟨d, ids', errors⟩ (some ps') := by
  simp only [answer, Option.bind_some, hr, hc]

/-! ## Policies served alike -/

/-- The two policies are served alike: same name, same rank, same entries. -/
structure ServedAlike (p q : Policy β) : Prop where
  name : displayId p = displayId q
  priority : priorityOf p = priorityOf q
  context : SameContext p q

theorem servedAlike_refl : ∀ o : Option (Policy β), Option.Rel ServedAlike o o
  | none => .none
  | some _ => .some ⟨rfl, rfl, fun _ => rfl⟩

theorem resolveReason_congr {ps ps' : PolicySet β} {ids : List PolicyId}
    (h : ∀ id ∈ ids, Option.Rel (fun p q => displayId p = displayId q) (ps.policy id) (ps'.policy id)) :
    resolveReason ids (some ps) = resolveReason ids (some ps') := by
  refine congrArg (List.insertionSort (· ≤ ·)) (List.map_congr_left fun id hid => ?_)
  have hrel := h id hid
  simp only [Option.bind_some]
  generalize ps.policy id = o, ps'.policy id = o' at hrel ⊢
  cases hrel with
  | none => rfl
  | some hname => exact hname

theorem forall₂_filterMap_policy {R : Policy β → Policy β → Prop} {ps ps' : PolicySet β}
    {ids : List PolicyId} (h : ∀ id ∈ ids, Option.Rel R (ps.policy id) (ps'.policy id)) :
    List.Forall₂ R (ids.filterMap ps.policy) (ids.filterMap ps'.policy) := by
  induction ids with
  | nil => exact .nil
  | cons id ids ih =>
    have ih := ih fun i hi => h i (List.mem_cons_of_mem _ hi)
    rw [List.filterMap_cons, List.filterMap_cons]
    match ps.policy id, ps'.policy id, h id List.mem_cons_self with
    | _, _, .none => exact ih
    | _, _, .some hpq => exact .cons hpq ih

theorem toDecisionContext_congr {ps ps' : PolicySet β} {ids : List PolicyId}
    (h : ∀ id ∈ ids, Option.Rel ServedAlike (ps.policy id) (ps'.policy id)) :
    toDecisionContext ps ids = toDecisionContext ps' ids := by
  have hrel : Option.Rel ServedAlike (winner ps ids) (winner ps' ids) := by
    refine rel_minBy (fun x x' y y' hx hy => ?_) (forall₂_filterMap_policy h)
    rw [compareForContext, compareForContext, hx.priority, hx.name, hy.priority, hy.name]
  rw [toDecisionContext_eq, toDecisionContext_eq]
  match winner ps ids, winner ps' ids, hrel with
  | _, _, .none => rfl
  | _, _, .some hw => exact contextOf_congr hw.name hw.context

/-- **The answer reads a set through how the determining policies are served.** -/
theorem answer_of_servedAlike {ps ps' : PolicySet β} {response : Response}
    (h : ∀ id ∈ response.reason, Option.Rel ServedAlike (ps.policy id) (ps'.policy id))
    (target : LogTarget) : answer target response (some ps) = answer target response (some ps') := by
  refine answer_congr (resolveReason_congr fun id hid => ?_) (toDecisionContext_congr h)
  match ps.policy id, ps'.policy id, h id hid with
  | _, _, .none => exact .none
  | _, _, .some hpq => exact .some hpq.name

end AuthzenPdp
