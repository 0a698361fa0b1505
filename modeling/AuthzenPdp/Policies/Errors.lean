import AuthzenPdp.Context.Lossless
import AuthzenPdp.Evaluate.Reject
import AuthzenPdp.Policies.Clause
import AuthzenPdp.Request.Sound

/-!
# Policies that fail on a request

Strict validation of the policies and the conversion of the request together leave one evaluation
error: `to_cedar` hands over no resource entity without resource properties, so a policy that relies
on a required attribute of the resource fails then, and is ignored.

* `models_of_toCedar`: a converted request keeps to the declarations that a policy is checked against;
* `ReadsRequired`, **`eval_none_of_toCedar`**: the policies that can fail, and when;
* `errors_of_answer`: the `errors` of a response are those of the authorizer;
* **`outcome_errors`**: the errors that a server reports, in every run;
* `tierPolicies`: a `forbid` that fails.
-/

namespace AuthzenPdp

open Trans

/-! ## A converted request -/

variable {api : RequestApi Ty Prim} {schema : Schema Ty} {req : EvaluationRequest} {q : Request Prim}
  {es : Entities Prim}

/-- What a record of a declared type holds. -/
theorem declared_of_typed {d : RecordDecl Ty} {r : Record Prim} (h : Typed prims d r) {k : String}
    {x : Prim} (hx : r.lookup k = some x) : ∃ a, d.lookup k = some a ∧ x.ty = a.ty := h k x hx

theorem StringTest.isSome_holds (t : StringTest) {x : Prim} (hx : x.ty = .string) :
    (t.holds x).isSome = true := by
  cases x with
  | string s => cases t <;> rfl
  | bool b => cases hx
  | long n => cases hx

/-- The attributes that policies see on the resource are typed; the required ones are there when it has
properties or is the subject. -/
theorem resource_of_toCedar (h : api.Lawful prims) (hok : toCedar api req schema = .ok (q, es)) :
    ∃ dr, schema.entityTypes.lookup q.resource.typeName = some dr ∧
      Typed prims dr.attrs (attrsOf es q.resource) ∧
      ((resourceProps req).isEmpty = false ∨ q.resource = q.principal →
        HasRequired dr.attrs (attrsOf es q.resource)) := by
  obtain ⟨⟨dp, hdp, hrp⟩, hfull, hempty⟩ := attrs_of_toCedar h hok
  obtain ⟨-, -, -, -, -, -, ⟨-, -, ⟨dr, hdr, -⟩⟩, -⟩ := (toCedar_eq_ok_iff h).mp hok
  refine ⟨dr, hdr, ?_⟩
  by_cases hsame : q.resource = q.principal
  · rw [hsame] at hdr ⊢
    obtain rfl := Option.some.inj (hdp.symm.trans hdr)
    exact ⟨(readRecord_conforms hrp).2, fun _ => (readRecord_conforms hrp).1⟩
  · cases hemp : (resourceProps req).isEmpty with
    | false =>
      obtain ⟨d, hd, hrr⟩ := hfull hemp
      obtain rfl := Option.some.inj (hd.symm.trans hdr)
      exact ⟨(readRecord_conforms hrr).2, fun _ => (readRecord_conforms hrr).1⟩
    | true =>
      rw [hempty hemp hsame]
      refine ⟨fun k w hk => ?_, fun hor => absurd (hor.resolve_left (by simp)) hsame⟩
      rw [Finmap.lookup_empty] at hk
      cases hk

/-- The declarations behind a converted request. -/
structure Declared (schema : Schema Ty) (q : Request Prim) (es : Entities Prim) (d : ActionDecl Ty)
    (dp dr : EntityDecl Ty) : Prop where
  action : schema.actions.lookup q.action = some d
  principal_mem : q.principal.typeName ∈ d.principalTypes
  resource_mem : q.resource.typeName ∈ d.resourceTypes
  principal : schema.entityTypes.lookup q.principal.typeName = some dp
  resource : schema.entityTypes.lookup q.resource.typeName = some dr
  context_conforms : Conforms prims d.context q.context
  principal_conforms : Conforms prims dp.attrs (attrsOf es q.principal)
  resource_typed : Typed prims dr.attrs (attrsOf es q.resource)

theorem declared_of_toCedar (h : api.Lawful prims) (hok : toCedar api req schema = .ok (q, es)) :
    ∃ d dp dr, Declared schema q es d dp dr ∧
      ((resourceProps req).isEmpty = false ∨ q.resource = q.principal →
        HasRequired dr.attrs (attrsOf es q.resource)) := by
  obtain ⟨-, -, -, -, -, -, ⟨⟨d, hd, hp, hr, hctx⟩, -, -⟩, -⟩ := (toCedar_eq_ok_iff h).mp hok
  obtain ⟨⟨dp, hdp, hrp⟩, -, -⟩ := attrs_of_toCedar h hok
  obtain ⟨dr, hdr, htyped, hreq⟩ := resource_of_toCedar h hok
  exact ⟨d, dp, dr, ⟨hd, hp, hr, hdp, hdr, hctx, readRecord_conforms hrp, htyped⟩, hreq⟩

variable {d : ActionDecl Ty} {dp dr : EntityDecl Ty}

/-- What stands at a place has its declared type. -/
theorem Declared.declOf_eq (h : Declared schema q es d dp dr) {p : Place} {x : Prim}
    (hx : placeOf q es p = some x) : ∃ a, declOf d dp dr p = some a ∧ x.ty = a.ty := by
  obtain ⟨owner, k⟩ := p
  cases owner with
  | principal => exact declared_of_typed h.principal_conforms.2 hx
  | resource => exact declared_of_typed h.resource_typed hx
  | context => exact declared_of_typed h.context_conforms.2 hx

/-- **A converted request keeps to the declarations of its environment.** -/
theorem Declared.models (h : Declared schema q es d dp dr) :
    Guard.Models StringTest.holds (sigOf d dp dr) (placeOf q es) := by
  refine ⟨fun p x hx => ?_, fun p hreq hknown => ?_, fun p x t hx hfits => ?_⟩
  · obtain ⟨a, ha, -⟩ := h.declOf_eq hx
    simp only [sigOf, ha, Option.isSome_some]
  · obtain ⟨owner, k⟩ := p
    obtain rfl : owner = .context := beq_iff_eq.mp hknown
    obtain ⟨a, ha, hr⟩ := (Option.any_eq_true _ _).mp hreq
    exact Finmap.lookup_isSome.mpr (h.context_conforms.1 k a ha hr)
  · obtain ⟨a, ha, hty⟩ := h.declOf_eq hx
    simp only [sigOf, ha, Option.any_some, beq_iff_eq] at hfits
    exact t.isSome_holds (hty.trans hfits)

/-- The condition tests a required attribute of the resource's type. -/
def Clause.ReadsRequired (schema : Schema Ty) (c : Clause) (q : Request Prim) : Prop :=
  ∃ dr k a, schema.entityTypes.lookup q.resource.typeName = some dr ∧
    ⟨.resource, k⟩ ∈ Guard.tested c.condition ∧ dr.attrs.lookup k = some a ∧ a.required = true

/-- **The policies that can fail.** A policy that checks fails on a converted request only when it tests
a required attribute of a resource whose properties the request leaves out. -/
theorem eval_none_of_toCedar (h : api.Lawful prims) (hok : toCedar api req schema = .ok (q, es))
    {c : Clause} (hc : c.checks schema = true) (hnone : c.eval q es = none) :
    (resourceProps req).isEmpty = true ∧ q.resource ≠ q.principal ∧ c.ReadsRequired schema q := by
  obtain ⟨d, dp, dr, hdecl, hreq⟩ := declared_of_toCedar h hok
  unfold Clause.eval at hnone
  split_ifs at hnone with hscope
  obtain ⟨r, hr⟩ := check_of_checks hc hscope hdecl.action hdecl.principal_mem hdecl.resource_mem
    hdecl.principal hdecl.resource
  have hmiss : Guard.Missing (sigOf d dp dr) (placeOf q es) c.condition := by
    rcases Guard.eval_of_check hdecl.models hr (fun _ hv => absurd hv List.not_mem_nil) with
      ⟨b, hb, -⟩ | ⟨-, hmiss⟩
    · rw [hnone] at hb
      cases hb
    · exact hmiss
  obtain ⟨⟨owner, k⟩, htested, hrequired, hknown, hempty⟩ := hmiss
  obtain ⟨a, ha, har⟩ := (Option.any_eq_true _ _).mp hrequired
  cases owner with
  | context => cases hknown
  | principal =>
    -- the subject is always handed over, with its required attributes
    have hin := Finmap.lookup_isSome.mpr (hdecl.principal_conforms.1 k a ha har)
    rw [show (attrsOf es q.principal).lookup k = none from hempty] at hin
    cases hin
  | resource =>
    have hnot : ¬ HasRequired dr.attrs (attrsOf es q.resource) := by
      intro hall
      have hin := Finmap.lookup_isSome.mpr (hall k a ha har)
      rw [show (attrsOf es q.resource).lookup k = none from hempty] at hin
      cases hin
    obtain ⟨hemp, hne⟩ := not_or.mp (mt hreq hnot)
    exact ⟨by simpa using hemp, hne, dr, k, a, hdecl.resource, htested, ha, har⟩

/-! ## The errors of a response -/

theorem errorsKey_mem_answer {β : Type} {target : LogTarget} {response : Response} {ps : PolicySet β}
    (h : response.errors ≠ []) :
    reservedErrorsKey ∈ (answer target response (some ps)).1.context.getD ∅ := by
  rw [← Finmap.lookup_isSome, answer_context, lookup_buildResponseContext, if_pos ⟨rfl, h⟩]
  rfl

/-- The context of an answer names errors iff the authorizer reports some. -/
theorem errors_of_answer {β : Type} {target : LogTarget} {response : Response} {ps : PolicySet β}
    (h : ps.WellAnnotated) :
    reservedErrorsKey ∈ (answer target response (some ps)).1.context.getD ∅ ↔ response.errors ≠ [] := by
  have hauthor : reservedErrorsKey ∉ authorContext ps response.reason :=
    reserved_notMem_authorContext h _ (.inr rfl)
  by_cases herr : response.errors = []
  · rw [← Finmap.lookup_isSome, answer_context, lookup_buildResponseContext]
    have hreason : ¬ (reservedErrorsKey = reservedReasonKey ∧
        resolveReason response.reason (some ps) ≠ []) :=
      fun hr => reservedReasonKey_ne_errors hr.1.symm
    rw [if_neg fun he => he.2 herr, if_neg hreason, ← authorContext, Finmap.lookup_isSome]
    exact iff_of_false hauthor fun hne => hne herr
  · exact iff_of_true (errorsKey_mem_answer herr) herr

/-! ## Runs -/

variable {ι : Type} [DecidableEq ι] {state : AppState Clause Ty Prim} {orders : ι → ReasonOrder}
  {papi : PolicyApi Clause (Schema Ty)} {policyPath : String} {bodies : ι → List UInt8}

/-- **The errors that a server reports.** Along safe reads, a response reports errors iff a policy of
the set that decides it, which is the one live at the first read, fails on the request; and such a policy
tests a required attribute of a resource whose properties the request leaves out. -/
theorem outcome_errors (hapi : state.api.Lawful prims) (hdecides : state.Decides) (hstrict : papi.Strict)
    {file : File} {ls : List (ServerLabel ι)} {w : Server Clause ι}
    (hc : Along (serveAll state orders papi policyPath bodies) (SafeServer state papi policyPath)
      (Server.boot file) ls)
    (h : run (serveAll state orders papi policyPath bodies) (Server.boot file) ls = some w) {i : ι}
    {out : EvaluationResponse × AccessLog} (hi : w.calls i = .done (.ok out)) :
    ∃ ls₁ ls₂ ls₃ S₁ S₂ req q es, ls = ls₁ ++ .read i :: (ls₂ ++ .read i :: ls₃) ∧
      ServedAfter state orders papi policyPath bodies file ls₁ S₁ ∧
      ServedAfter state orders papi policyPath bodies file (ls₁ ++ .read i :: ls₂) S₂ ∧
      .ok out = evaluate (state.inOrder (orders i)) S₁ (some S₂) (bodies i) ∧
      Accepted papi state.schema policyPath S₁ ∧
      state.fromSlice (bodies i) = .ok req ∧ toCedar state.api req state.schema = .ok (q, es) ∧
      (reservedErrorsKey ∈ out.1.context.getD ∅ ↔ ∃ p ∈ S₁.policies, p.body.eval q es = none) ∧
      ∀ p ∈ S₁.policies, p.body.eval q es = none →
        (resourceProps req).isEmpty = true ∧ q.resource ≠ q.principal ∧
          p.body.ReadsRequired state.schema q := by
  obtain ⟨ls₁, ls₂, ls₃, S₁, S₂, rfl, h₁, h₂, heq⟩ := outcome_eq_evaluate h hi
  obtain ⟨hacc, hacc₂⟩ := accepted_of_reads hc h₁ h₂
  obtain ⟨target, response, hauth, rfl⟩ := evaluate_ok_iff.mp heq.symm
  obtain ⟨req, q, es, hbody, hconv, hresp, rfl⟩ := authorized_ok_iff.mp hauth
  refine ⟨ls₁, ls₂, ls₃, S₁, S₂, req, q, es, rfl, h₁, h₂, heq, hacc, hbody, hconv, ?_,
    fun p hp hnone => ?_⟩
  · rw [errors_of_answer hacc₂.wellAnnotated, ne_eq, (hdecides.inOrder _ _ _ _ _ hresp).errors]
    simp
  · obtain ⟨src, hsrc⟩ := hacc
    have hvalid := (validates_iff.mp hsrc).2.1
    exact eval_none_of_toCedar hapi hconv (hstrict _ _ hvalid p hp) hnone

/-! ## A `forbid` that fails -/

/-- An application state for one request, whatever the bytes of its body. -/
def clausePdp (schema : Schema Ty) (request : EvaluationRequest) : AppState Clause Ty Prim where
  schema := schema
  api := reference
  fromSlice _ := .ok request
  isAuthorized := authorizeClauses

theorem decides_clausePdp (schema : Schema Ty) (request : EvaluationRequest) :
    (clausePdp schema request).Decides :=
  fun _ _ _ _ h => answers_authorizeClauses h

/-- Everybody may log in, but not to a client of the `basic` tier. -/
def tierPolicies : PolicySet Clause where
  policies := [
    ⟨"policy0", ∅, ⟨.permit, none, none, .lit true⟩⟩,
    ⟨"policy1", AList.singleton "id" "deny-basic",
      ⟨.forbid, none, none, .test ⟨.resource, "tier"⟩ (.eq "basic")⟩⟩]
  nodup := by decide

def tierFiles : PolicyApi Clause (Schema Ty) := clauseFiles [("tier.cedar", tierPolicies)]

theorem validates_tierPolicies :
    Validates tierFiles tierSchema "policies.cedar" "tier.cedar" tierPolicies :=
  validates_iff.mpr ⟨rfl, rfl, (annotation_checks_ok_iff _).mp ⟨rfl, rfl⟩⟩

abbrev tierPdp : AppState Clause Ty Prim := clausePdp tierSchema (loginRequest none)

/-- The server, for one call. -/
abbrev serveTier : Server Clause Unit → ServerLabel Unit → Option (Server Clause Unit) :=
  serveAll tierPdp (fun _ => .given) tierFiles "policies.cedar" fun _ => []

/-- **A `forbid` is ignored**: it relies on the tier of the client, which the schema requires, and the
request leaves out the properties of the client. -/
theorem run_ignoredForbid : ∃ w out, run serveTier (Server.boot (.ok "tier.cedar"))
      (startupSteps.map .sys ++ [.read (), .read ()]) = some w ∧
    w.calls () = .done (.ok out) ∧ out.1.decision = true ∧
      reservedErrorsKey ∈ out.1.context.getD ∅ := by
  have hv : Validates tierFiles tierPdp.schema "policies.cedar" "tier.cedar" tierPolicies :=
    validates_tierPolicies
  exact ⟨_, _, run_append.mpr ⟨_, run_started hv, rfl⟩, rfl, rfl, by decide⟩

/-- The policy that fails in that run. -/
theorem outcome_errors_tier : ∃ q es S, Accepted tierFiles tierSchema "policies.cedar" S ∧
    ∃ p ∈ S.policies, p.body.eval q es = none ∧ p.body.ReadsRequired tierSchema q := by
  obtain ⟨w, out, hw, hcall, -, herr⟩ := run_ignoredForbid
  have hsafe : Along serveTier (SafeServer tierPdp tierFiles "policies.cedar")
      (Server.boot (.ok "tier.cedar")) (startupSteps.map .sys ++ [.read (), .read ()]) :=
    safe_started validates_tierPolicies (by simp [ServerLabel.sysLabel])
  obtain ⟨-, -, -, S, -, req, q, es, -, -, -, -, hacc, -, -, hiff, hreads⟩ := outcome_errors
    reference_lawful (decides_clausePdp _ _) (strict_clauseFiles _) hsafe hw hcall
  obtain ⟨p, hp, hnone⟩ := hiff.mp herr
  exact ⟨q, es, S, hacc, p, hp, hnone, (hreads p hp hnone).2.2⟩

end AuthzenPdp
