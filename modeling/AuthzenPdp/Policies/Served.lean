import AuthzenPdp.Evaluate.Steady
import AuthzenPdp.Policies.Shipped

/-!
# Serving the shipped policies

What may be asked of the server under the shipped files, and what it answers.

* `ShippedCase`, `answer_shipped`: the three answers;
* `decided_shipped`: which of them Cedar gives;
* `ShippedRequest`, `converts_shipped_iff`: the requests that are not rejected;
* `AppState.AnswersOn`, `AnsweredAs`, **`outcome_shipped`**: the outcome of every call once the shipped
  policies are loaded.
-/

namespace AuthzenPdp

open Trans

variable {api : RequestApi Ty Prim} {req : EvaluationRequest} {q : Request Prim} {es : Entities Prim}

/-! ## The answers -/

/-- The policy that decides. -/
inductive ShippedCase where
  | allowLogin
  | aClientDeny
  | bClientDeny
  deriving DecidableEq

def ShippedCase.Applies : ShippedCase → EvaluationRequest → Prop
  | .allowLogin, req => ¬ ForcedByAClient req ∧ ¬ ForcedByBClient req
  | .aClientDeny, req => ForcedByAClient req
  | .bClientDeny, req => ForcedByBClient req

/-- The response of Cedar. -/
def ShippedCase.decided : ShippedCase → Response
  | .allowLogin => ⟨.allow, ["policy0"], []⟩
  | .aClientDeny => ⟨.deny, ["policy1"], []⟩
  | .bClientDeny => ⟨.deny, ["policy2"], []⟩

/-- The response body. -/
def ShippedCase.response : ShippedCase → EvaluationResponse
  | .allowLogin => ⟨true, some (Finmap.insert "reason" (jsonStringArray ["allow-login"]) ∅)⟩
  | .aClientDeny => ⟨false, some (((Finmap.insert "reason_user"
      (.string "External authentication is required for this access route.") ∅).insert
      "step_up" (.string "external-auth")).insert "reason" (jsonStringArray ["a-client-deny"]))⟩
  | .bClientDeny => ⟨false, some (Finmap.insert "reason" (jsonStringArray ["b-client-deny"]) ∅)⟩

/-- What is logged. -/
def ShippedCase.logged (req : EvaluationRequest) : ShippedCase → AccessLog
  | .allowLogin => ⟨LogTarget.new req, "allow", false, "allow-login", "-"⟩
  | .aClientDeny => ⟨LogTarget.new req, "deny", true, "a-client-deny", "a-client-deny"⟩
  | .bClientDeny => ⟨LogTarget.new req, "deny", true, "b-client-deny", "-"⟩

theorem exists_applies (req : EvaluationRequest) : ∃ c : ShippedCase, c.Applies req := by
  by_cases ha : ForcedByAClient req
  · exact ⟨.aClientDeny, ha⟩
  · by_cases hb : ForcedByBClient req
    · exact ⟨.bClientDeny, hb⟩
    · exact ⟨.allowLogin, ha, hb⟩

/-- The two rules are about different clients. -/
theorem not_forcedByBClient (h : ForcedByAClient req) : ¬ ForcedByBClient req :=
  fun hb => absurd (h.client.symm.trans hb.client) (by decide)

theorem answer_shipped (c : ShippedCase) (req : EvaluationRequest) :
    answer (LogTarget.new req) c.decided (some shippedPolicies) = (c.response, c.logged req) := by
  cases c <;> rfl

/-- The satisfied policies, from those of the three that are. -/
theorem satisfiedClauses_shipped {a b : Bool} (hseen : Seen req q es)
    (ha : (aClientDeny.body.eval q es == some true) = a)
    (hb : (bClientDeny.body.eval q es == some true) = b) :
    satisfiedClauses shippedPolicies q es .permit = ["policy0"] ∧
      satisfiedClauses shippedPolicies q es .forbid =
        (if a then ["policy1"] else []) ++ if b then ["policy2"] else [] := by
  have h0 : (allowLogin.body.eval q es == some true) = true := by
    rw [satisfied_allowLogin hseen]
    rfl
  have heffect : allowLogin.body.effect = .permit ∧ aClientDeny.body.effect = .forbid ∧
      bClientDeny.body.effect = .forbid := ⟨rfl, rfl, rfl⟩
  simp only [satisfiedClauses, shippedPolicies, List.filter_cons, List.filter_nil, heffect, h0, ha, hb]
  constructor
  · rfl
  · cases a <;> cases b <;> rfl

theorem determining_shipped (hseen : Seen req q es) {c : ShippedCase} (hc : c.Applies req) :
    determiningClauses shippedPolicies q es = c.decided.reason ∧
      (satisfiedClauses shippedPolicies q es .forbid = [] ∧
        satisfiedClauses shippedPolicies q es .permit ≠ [] ↔ c.decided.decision = .allow) := by
  have ha := satisfied_aClientDeny hseen
  have hb := satisfied_bClientDeny hseen
  unfold determiningClauses
  cases c with
  | allowLogin =>
    obtain ⟨hp, hf⟩ := satisfiedClauses_shipped hseen (beq_eq_false_iff_ne.mpr (mt ha.mp hc.1))
      (beq_eq_false_iff_ne.mpr (mt hb.mp hc.2))
    rw [hp, hf]
    exact ⟨rfl, iff_of_true ⟨rfl, by simp⟩ rfl⟩
  | aClientDeny =>
    obtain ⟨hp, hf⟩ := satisfiedClauses_shipped hseen (beq_iff_eq.mpr (ha.mpr hc))
      (beq_eq_false_iff_ne.mpr (mt hb.mp (not_forcedByBClient hc)))
    rw [hp, hf]
    exact ⟨rfl, iff_of_false (fun h => by simp at h) (by decide)⟩
  | bClientDeny =>
    obtain ⟨hp, hf⟩ := satisfiedClauses_shipped hseen
      (beq_eq_false_iff_ne.mpr (mt ha.mp fun h => not_forcedByBClient h hc)) (beq_iff_eq.mpr (hb.mpr hc))
    rw [hp, hf]
    exact ⟨rfl, iff_of_false (fun h => by simp at h) (by decide)⟩

/-- No shipped policy fails. -/
theorem eval_shipped_ne_none (h : api.Lawful prims) (hok : toCedar api req shippedSchema = .ok (q, es)) :
    ∀ p ∈ shippedPolicies.policies, p.body.eval q es ≠ none := by
  intro p hp hnone
  obtain ⟨-, -, dr, k, a, hdr, -, hk, -⟩ := eval_none_of_toCedar h hok (checks_shippedPolicies p hp) hnone
  rw [(seen_of_toCedar h hok).resource] at hdr
  obtain rfl : ⟨∅, none⟩ = dr := Option.some.inj hdr
  cases hk

/-- **The decision of the shipped policies** on a request that converts. -/
theorem decided_shipped (h : api.Lawful prims) (hok : toCedar api req shippedSchema = .ok (q, es))
    {r : Response} (hr : Answers shippedPolicies q es r) {c : ShippedCase} (hc : c.Applies req) :
    r = c.decided := by
  obtain ⟨hreason, hdecision⟩ := determining_shipped (seen_of_toCedar h hok) hc
  obtain ⟨decision, reason, errors⟩ := r
  have hperm : reason.Perm c.decided.reason := hreason ▸ hr.reason
  have herrors : errors = [] := hr.errors.mpr (eval_shipped_ne_none h hok)
  have hallow : decision = .allow ↔ c.decided.decision = .allow := hr.decision.trans hdecision
  have hr' : reason = c.decided.reason := by
    cases c <;> exact List.perm_singleton.mp hperm
  have hd : decision = c.decided.decision := Decision.eq_of_allow_iff hallow
  have he : c.decided.errors = [] := by cases c <;> rfl
  rw [hd, hr', herrors, ← he]

/-! ## The requests -/

/-- A request that the shipped schema admits: `login` of a `User` to a `Client`, with strings for the
declared attributes and nothing else. -/
structure ShippedRequest (api : RequestApi Ty Prim) (req : EvaluationRequest) : Prop where
  subject_type : api.typeNameFromStr req.subject.entityType = .ok userType
  action : req.action.name = "login"
  resource_type : api.typeNameFromStr req.resource.entityType = .ok clientType
  subject : ∀ f ∈ (subjectProps req).fields, f.1 ∈ ["user_type", "department"] ∧ ∃ s, f.2 = .string s
  resource : (resourceProps req).isEmpty = true
  context : ∀ v, req.context = some v → ∃ fields, v = .object fields ∧
    ∀ f ∈ fields, f.1 ∈ ["access_route", "ip"] ∧ ∃ s, f.2 = .string s

theorem lookup_optionalStrings_iff {keys : List String} {k : String} {a : AttrDecl Ty} :
    (optionalStrings keys).lookup k = some a ↔ k ∈ keys ∧ a = ⟨.string, false⟩ := by
  by_cases hk : k ∈ keys
  · rw [lookup_optionalStrings hk, Option.some.injEq]
    exact ⟨fun h => ⟨hk, h.symm⟩, fun h => h.2.symm⟩
  · have hnone : (optionalStrings keys).lookup k = none := by
      rw [optionalStrings, AList.lookup_to_alist, List.dlookup_eq_none]
      simpa [List.keys] using hk
    rw [hnone]
    exact iff_of_false (by simp) fun h => hk h.1

theorem readPrim_string_iff {v : Value} : (∃ w, readPrim .string v = some w) ↔ ∃ s, v = .string s := by
  cases v <;> simp [readPrim]

/-- The objects of a type of optional strings. -/
theorem exists_readRecord_iff {keys : List String} {fields : List (String × Value)} :
    (∃ r, readRecord prims (optionalStrings keys) fields = some r) ↔
      ∀ f ∈ fields, f.1 ∈ keys ∧ ∃ s, f.2 = .string s := by
  have hreq : ∀ r : Record Prim, HasRequired (optionalStrings keys) r := by
    intro r k a hk ha
    obtain ⟨-, rfl⟩ := lookup_optionalStrings_iff.mp hk
    cases ha
  simp only [readRecord_eq_some_iff, hreq, and_true, exists_readFields_iff, lookup_optionalStrings_iff]
  refine forall₂_congr fun f _ => ?_
  constructor
  · rintro ⟨a, w, ⟨hk, rfl⟩, hw⟩
    exact ⟨hk, readPrim_string_iff.mp ⟨w, hw⟩⟩
  · rintro ⟨hk, hs⟩
    obtain ⟨w, hw⟩ := readPrim_string_iff.mpr hs
    exact ⟨_, w, ⟨hk, rfl⟩, hw⟩

theorem shippedRequest_of_toCedar (h : api.Lawful prims)
    (hok : toCedar api req shippedSchema = .ok (q, es)) : ShippedRequest api req := by
  obtain ⟨hpt, -, ha, hrt, -, hctx, ⟨⟨d, hd, hp, hr, -⟩, -, -⟩, -⟩ := (toCedar_eq_ok_iff h).mp hok
  obtain ⟨⟨dp, hdp, hsubject⟩, hresource, -⟩ := attrs_of_toCedar h hok
  obtain ⟨haction, rfl⟩ := lookup_loginAction hd
  rw [List.mem_singleton] at hp hr
  rw [hp] at hpt hdp
  obtain rfl : ⟨optionalStrings ["user_type", "department"], none⟩ = dp := Option.some.inj hdp
  refine ⟨hpt, congrArg EntityUid.id (ha.symm.trans haction), by rw [hrt, hr],
    exists_readRecord_iff.mp ⟨_, hsubject⟩, ?_, fun v hv => ?_⟩
  · -- a client has no attributes
    by_contra hemp
    obtain ⟨dr, hdr, hread⟩ := hresource (by simpa using hemp)
    rw [hr] at hdr
    obtain rfl : ⟨∅, none⟩ = dr := Option.some.inj hdr
    have hnone := exists_readFields_iff.mp ⟨_, (readRecord_eq_some_iff.mp hread).1⟩
    cases hentries : (resourceProps req).entries with
    | nil => exact hemp (by rw [Properties.isEmpty, hentries]; rfl)
    | cons e entries =>
      obtain ⟨a, w, hk, -⟩ := hnone (e.1, e.2) (by simp [Properties.fields, hentries])
      cases hk
  · unfold contextOfRequest at hctx
    rw [hv] at hctx
    obtain ⟨d', fields, hd', rfl, hread⟩ := (h.context _ _ _ _).mp (mapError_eq_ok.mp hctx)
    obtain ⟨-, rfl⟩ := lookup_loginAction hd'
    exact ⟨fields, rfl, exists_readRecord_iff.mp ⟨_, hread⟩⟩

/-- **The requests that are not rejected.** -/
theorem converts_shipped_iff (h : api.Lawful prims) :
    (∃ q es, toCedar api req shippedSchema = .ok (q, es)) ↔ ShippedRequest api req := by
  refine ⟨fun ⟨q, es, hok⟩ => shippedRequest_of_toCedar h hok, fun hreq => ?_⟩
  have hlogin : actionUid req = loginAction := by rw [actionUid, hreq.action]; rfl
  have hd : Denoted api req ⟨userType, req.subject.id⟩ ⟨clientType, req.resource.id⟩ :=
    ⟨hreq.subject_type, rfl, hreq.resource_type, rfl⟩
  have hcontext : ContextReads prims shippedSchema req := by
    intro v hv
    obtain ⟨fields, rfl, hfields⟩ := hreq.context v hv
    obtain ⟨ctx, hctx⟩ := exists_readRecord_iff.mpr hfields
    exact ⟨_, fields, ctx, by rw [hlogin]; rfl, rfl, hctx⟩
  have hfits : RequestFits shippedSchema req ⟨userType, req.subject.id⟩ ⟨clientType, req.resource.id⟩ := by
    refine ⟨⟨_, by rw [hlogin]; rfl, List.mem_singleton_self _, List.mem_singleton_self _,
      fun _ k a hk => ?_⟩, ⟨_, rfl, rfl⟩, ⟨_, rfl, rfl⟩⟩
    obtain ⟨-, rfl⟩ := lookup_optionalStrings_iff.mp hk
    rfl
  have hprops : PropertiesFit prims shippedSchema req ⟨userType, req.subject.id⟩
      ⟨clientType, req.resource.id⟩ := by
    obtain ⟨rp, hrp⟩ := exists_readRecord_iff.mpr hreq.subject
    exact ⟨rp, ⟨_, rfl, hrp⟩, .inl hreq.resource⟩
  have hcode := codeOf_toCedar h (.converted hd hcontext hfits hprops)
  cases hc : toCedar api req shippedSchema with
  | ok out => exact ⟨out.1, out.2, rfl⟩
  | error e =>
    rw [hc] at hcode
    cases hcode

/-! ## The server -/

variable {ι : Type} {state : AppState Clause Ty Prim} {body : List UInt8}

/-- The authorizer answers on the set, whatever it is asked. -/
def AppState.AnswersOn (state : AppState Clause Ty Prim) (ps : PolicySet Clause) : Prop :=
  ∀ q es, ∃ r, state.isAuthorized ps q es = .ok r

theorem AppState.AnswersOn.inOrder {ps : PolicySet Clause} (h : state.AnswersOn ps) (o : ReasonOrder) :
    (state.inOrder o).AnswersOn ps := fun q es => by
  obtain ⟨r, hr⟩ := h q es
  exact ⟨r.inOrder o, isAuthorized_inOrder_iff.mpr ⟨r, hr, rfl⟩⟩

/-- What the shipped policies make of a request. -/
structure AnsweredAs (api : RequestApi Ty Prim) (req : EvaluationRequest)
    (outcome : Except ApiError (EvaluationResponse × AccessLog)) : Prop where
  rejected : (∃ e code, outcome = .error e ∧ e.Rejects code) ↔ ¬ ShippedRequest api req
  answered : ShippedRequest api req →
    ∃ c : ShippedCase, c.Applies req ∧ outcome = .ok (c.response, c.logged req)

theorem evaluate_shipped (hapi : state.api.Lawful prims) (hdecides : state.Decides)
    (hanswers : state.AnswersOn shippedPolicies) (hschema : state.schema = shippedSchema)
    (hbody : state.fromSlice body = .ok req) :
    AnsweredAs state.api req (evaluate state shippedPolicies (some shippedPolicies) body) := by
  cases hc : toCedar state.api req state.schema with
  | error e =>
    have hnot : ¬ ShippedRequest state.api req := by
      rw [← converts_shipped_iff hapi, ← hschema, hc]
      rintro ⟨q, es, hok⟩
      cases hok
    rw [evaluate_of_error (authorized_of_rejected hbody hc _)]
    exact ⟨iff_of_true ⟨_, _, rfl, rfl, rfl⟩ hnot, fun hreq => absurd hreq hnot⟩
  | ok out =>
    obtain ⟨q, es⟩ := out
    have hok : toCedar state.api req shippedSchema = .ok (q, es) := hschema ▸ hc
    have hreq : ShippedRequest state.api req := shippedRequest_of_toCedar hapi hok
    obtain ⟨r, hauth⟩ := hanswers q es
    have hresp : authorized state shippedPolicies body = .ok (LogTarget.new req, r) :=
      authorized_ok_iff.mpr ⟨req, q, es, hbody, hc, hauth, rfl⟩
    rw [evaluate_of_authorized hresp]
    obtain ⟨c, happ⟩ := exists_applies req
    refine ⟨iff_of_false (by simp) (not_not.mpr hreq), fun _ => ⟨c, happ, ?_⟩⟩
    rw [decided_shipped hapi hok (hdecides _ _ _ _ hauth) happ, answer_shipped]

variable [DecidableEq ι] {orders : ι → ReasonOrder} {papi : PolicyApi Clause (Schema Ty)}
  {policyPath : String} {bodies : ι → List UInt8}

/-- **What the server answers with the shipped policies.** Once `policies.cedar` is loaded, and as long
as no other source is accepted, every call is rejected when its request is not of the shipped schema,
and else answered as the two rules say, whatever events, faults and other calls there are. The authorizer
has to answer on the shipped policies. -/
theorem outcome_shipped (hapi : state.api.Lawful prims) (hdecides : state.Decides)
    (hanswers : state.AnswersOn shippedPolicies) (hschema : state.schema = shippedSchema)
    {w w' : Server Clause ι} {q : Pdp Clause} {ls : List (ServerLabel ι)} (hpc : w.sys.pc = .recv)
    (hq : w.sys.pdp = some q) (hset : q.provider = shippedPolicies)
    (hfile : Idle papi state.schema policyPath q w.sys.file)
    (hls : ∀ file, .sys (.write file) ∈ ls → Idle papi state.schema policyPath q file)
    (h : run (serveAll state orders papi policyPath bodies) w ls = some w') {i : ι}
    (hbegin : w.calls i = .waiting) {outcome : Except ApiError (EvaluationResponse × AccessLog)}
    (hi : w'.calls i = .done outcome) {req : EvaluationRequest}
    (hbody : state.fromSlice (bodies i) = .ok req) : AnsweredAs state.api req outcome := by
  have hapi' : (state.inOrder (orders i)).api.Lawful prims := hapi
  have hcall := evaluate_shipped hapi' (hdecides.inOrder _) (hanswers.inOrder _) hschema hbody
  rwa [(steadyCall_of_run hpc hq hfile hls h hbegin).outcome hi, hset]

/-! ## A forced login -/

/-- An employee of department `A1` at `a-client`, over the internet. -/
def internetLogin : EvaluationRequest :=
  ⟨⟨"User", "alice", some [⟨"user_type", .string "employee"⟩, ⟨"department", .string "A1"⟩].toAList⟩,
    ⟨"login"⟩, ⟨"Client", "a-client", none⟩, some (.object [("access_route", .string "internet")])⟩

theorem forced_internetLogin : ForcedByAClient internetLogin :=
  ⟨rfl, rfl, ⟨"A1", rfl, by decide⟩, rfl⟩

theorem shippedRequest_internetLogin : ShippedRequest reference internetLogin := by
  obtain ⟨q, es, hok⟩ : ∃ q es, toCedar reference internetLogin shippedSchema = .ok (q, es) :=
    ⟨_, _, rfl⟩
  exact shippedRequest_of_toCedar reference_lawful hok

/-- The loader accepts the shipped policies. -/
theorem validates_shippedPolicies (path : String) :
    Validates (clauseFiles [("policies", shippedPolicies)]) shippedSchema path "policies"
      shippedPolicies :=
  validates_iff.mpr ⟨rfl, rfl, (annotation_checks_ok_iff _).mp ⟨rfl, rfl⟩⟩

abbrev shippedFiles : PolicyApi Clause (Schema Ty) := clauseFiles [("policies", shippedPolicies)]

/-- The server for calls that ask for the forced login. -/
abbrev serveInternet : Server Clause Bool → ServerLabel Bool → Option (Server Clause Bool) :=
  serveAll (clausePdp shippedSchema internetLogin) twoOrders shippedFiles "policies.cedar" fun _ => []

/-- The authorizer of the model always answers. -/
theorem answersOn_clausePdp (schema : Schema Ty) (request : EvaluationRequest)
    (ps : PolicySet Clause) : (clausePdp schema request).AnswersOn ps :=
  fun _ _ => ⟨_, rfl⟩

/-- A call during an event, on the server that startup gives. -/
theorem outcome_shipped_internet : ∃ w, run serveInternet (Server.boot (.ok "policies"))
      (startupSteps.map .sys ++ [.read true, .sys (.recv .event), .read true]) = some w ∧
    w.calls true = .done (.ok (ShippedCase.aClientDeny.response,
      ShippedCase.aClientDeny.logged internetLogin)) := by
  obtain ⟨w, outcome, hw, hcall⟩ : ∃ w outcome, run serveInternet
      (Server.started "policies" shippedPolicies) [.read true, .sys (.recv .event), .read true] =
        some w ∧ w.calls true = .done outcome := ⟨_, _, rfl, rfl⟩
  have hanswered := outcome_shipped reference_lawful (decides_clausePdp _ _) (answersOn_clausePdp _ _ _)
    rfl (q := ⟨shippedPolicies, "policies", true⟩) rfl rfl rfl idle_loaded (by simp) hw rfl hcall rfl
  obtain ⟨c, happ, rfl⟩ := hanswered.answered shippedRequest_internetLogin
  have hcase : c = .aClientDeny := by
    cases c with
    | aClientDeny => rfl
    | allowLogin => exact absurd forced_internetLogin happ.1
    | bClientDeny => exact absurd happ (not_forcedByBClient forced_internetLogin)
  subst hcase
  exact ⟨w, run_append.mpr ⟨_, run_started (validates_shippedPolicies _), hw⟩, hcall⟩

end AuthzenPdp
