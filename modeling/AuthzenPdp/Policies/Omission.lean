import AuthzenPdp.Evaluate.Log
import AuthzenPdp.Policies.Served

/-!
# Requests that leave attributes out

A caller may leave attributes of subject, resource and context out. Policies then see less, and with a
base `permit` and exceptions that only ask for attributes, what is left out never forces a denial.

* `Omits`: the second request leaves out what the first one has;
* `Sees`, **`sees_of_omits`**: policies see of the second what they see of the first, or nothing;
* `PolicySet.BaseAndExceptions`, `denied_of_sees`: the authoring convention, and its decisions;
* **`outcome_omission`**: the two calls to a server.
-/

namespace AuthzenPdp

open Trans

/-- The members of the context. -/
def contextFields (req : EvaluationRequest) : List (String × Value) :=
  match req.context with
  | some (.object fields) => fields
  | _ => []

/-- `req'` is `req`, with attributes left out. -/
structure Omits (req req' : EvaluationRequest) : Prop extends SameParties req req' where
  subject : ∀ k v, (subjectProps req').lookup k = some v → (subjectProps req).lookup k = some v
  resource : ∀ k v, (resourceProps req').lookup k = some v → (resourceProps req).lookup k = some v
  context : ∀ k v, (contextFields req').lookup k = some v → (contextFields req).lookup k = some v

/-! ## What policies see -/

section Sees

variable {τ ν : Type} {api : RequestApi τ ν} {T : Typing τ ν} {schema : Schema τ}
  {req req' : EvaluationRequest} {q q' : Request ν} {es es' : Entities ν}

/-- What policies see of `q'` they see of `q`. -/
structure Sees (q : Request ν) (es : Entities ν) (q' : Request ν) (es' : Entities ν) : Prop where
  principal : q'.principal = q.principal
  action : q'.action = q.action
  resource : q'.resource = q.resource
  principal_attrs : ∀ k w, (attrsOf es' q'.principal).lookup k = some w →
    (attrsOf es q.principal).lookup k = some w
  resource_attrs : ∀ k w, (attrsOf es' q'.resource).lookup k = some w →
    (attrsOf es q.resource).lookup k = some w
  context : ∀ k w, q'.context.lookup k = some w → q.context.lookup k = some w

theorem readFields_mono {d : RecordDecl τ} {fields fields' : List (String × Value)} {r r' : Record ν}
    (h : readFields T d fields = some r) (h' : readFields T d fields' = some r')
    (hle : ∀ k v, fields'.lookup k = some v → fields.lookup k = some v) {k : String} {w : ν}
    (hk : r'.lookup k = some w) : r.lookup k = some w := by
  rw [lookup_readFields h'] at hk
  obtain ⟨v, hv, hw⟩ := Option.bind_eq_some_iff.mp hk
  rw [lookup_readFields h, hle k v hv, Option.bind_some, hw]

theorem AttrsRead.mono {uid : EntityUid} {m m' : Properties} {r r' : Record ν}
    (h : AttrsRead T schema uid m r) (h' : AttrsRead T schema uid m' r')
    (hle : ∀ k v, m'.lookup k = some v → m.lookup k = some v) {k : String} {w : ν}
    (hk : r'.lookup k = some w) : r.lookup k = some w := by
  obtain ⟨d, hd, hr⟩ := h
  obtain ⟨d', hd', hr'⟩ := h'
  obtain rfl := Option.some.inj (hd.symm.trans hd')
  refine readFields_mono (readRecord_eq_some_iff.mp hr).1 (readRecord_eq_some_iff.mp hr').1 ?_ hk
  simpa only [lookup_fields] using hle

theorem readFields_contextOfRequest (h : api.Lawful T) {a : EntityUid} {d : ActionDecl τ}
    (hd : schema.actions.lookup a = some d) {ctx : Record ν}
    (hctx : contextOfRequest api req schema a = .ok ctx) :
    readFields T d.context (contextFields req) = some ctx := by
  unfold contextOfRequest at hctx
  unfold contextFields
  cases hv : req.context with
  | none =>
    rw [hv] at hctx
    cases hctx
    rfl
  | some v =>
    rw [hv] at hctx
    obtain ⟨d', fields, hd', rfl, hr⟩ := (h.context _ _ _ _).mp (mapError_eq_ok.mp hctx)
    obtain rfl := Option.some.inj (hd.symm.trans hd')
    exact (readRecord_eq_some_iff.mp hr).1

theorem Properties.isEmpty_iff {m : Properties} : m.isEmpty = true ↔ ∀ k, m.lookup k = none := by
  simp only [AList.lookup_eq_none]
  rw [Properties.isEmpty, List.isEmpty_iff]
  constructor
  · intro h k hk
    rw [AList.mem_keys, AList.keys, h] at hk
    exact List.not_mem_nil hk
  · intro h
    cases he : m.entries with
    | nil => rfl
    | cons e entries => exact absurd (AList.mem_keys.mpr (by simp [AList.keys, he])) (h e.1)

theorem Omits.isEmpty (h : Omits req req') (he : (resourceProps req).isEmpty = true) :
    (resourceProps req').isEmpty = true := by
  refine Properties.isEmpty_iff.mpr fun k => Option.eq_none_iff_forall_ne_some.mpr fun v hv => ?_
  have hk : (resourceProps req).lookup k = none := Properties.isEmpty_iff.mp he k
  rw [h.resource k v hv] at hk
  cases hk

/-- **Policies see less of a request that leaves attributes out**, when both convert. -/
theorem sees_of_omits (h : api.Lawful T) (hok : toCedar api req schema = .ok (q, es))
    (hok' : toCedar api req' schema = .ok (q', es')) (hom : Omits req req') : Sees q es q' es' := by
  obtain ⟨hpt, hpi, ha, hrt, hri, hctx, ⟨⟨d, hd, -⟩, -, -⟩, -⟩ := (toCedar_eq_ok_iff h).mp hok
  obtain ⟨hpt', hpi', ha', hrt', hri', hctx', -⟩ := (toCedar_eq_ok_iff h).mp hok'
  obtain ⟨hp, hfull, -⟩ := attrs_of_toCedar h hok
  obtain ⟨hp', hfull', hempty'⟩ := attrs_of_toCedar h hok'
  rw [← hom.subject_type, hpt, Except.ok.injEq] at hpt'
  rw [← hom.resource_type, hrt, Except.ok.injEq] at hrt'
  have hprincipal : q'.principal = q.principal :=
    EntityUid.ext hpt'.symm (by rw [hpi', hpi, hom.subject_id])
  have haction : q'.action = q.action := by rw [ha', ha, hom.action]
  have hresource : q'.resource = q.resource :=
    EntityUid.ext hrt'.symm (by rw [hri', hri, hom.resource_id])
  rw [hprincipal] at hp'
  have hattrs : ∀ k w, (attrsOf es' q.principal).lookup k = some w →
      (attrsOf es q.principal).lookup k = some w := fun k w => hp.mono hp' hom.subject
  refine ⟨hprincipal, haction, hresource, by rwa [hprincipal], ?_, fun k w => ?_⟩
  · rw [hresource] at hfull' hempty' ⊢
    rw [hprincipal] at hempty'
    cases hemp' : (resourceProps req').isEmpty with
    | false =>
      have hemp : (resourceProps req).isEmpty = false :=
        Bool.eq_false_iff.mpr fun he => Bool.eq_false_iff.mp hemp' (hom.isEmpty he)
      exact fun k w => (hfull hemp).mono (hfull' hemp') hom.resource
    | true =>
      by_cases hsame : q.resource = q.principal
      · -- the resource is the subject, and has its attributes
        rw [hsame]
        exact hattrs
      · rw [hempty' hemp' hsame]
        intro k w hk
        rw [Finmap.lookup_empty] at hk
        cases hk
  · rw [haction] at hctx'
    exact readFields_mono (readFields_contextOfRequest h hd hctx)
      (readFields_contextOfRequest h hd hctx') hom.context

end Sees

/-! ## Base and exceptions -/

variable {q q' : Request Prim} {es es' : Entities Prim} {ps : PolicySet Clause}

/-- **The authoring convention**: the `permit` policies are unconditional in their scope, and the
`forbid` policies ask for attributes, without negation. -/
structure PolicySet.BaseAndExceptions (ps : PolicySet Clause) : Prop where
  permit : ∀ p ∈ ps.policies, p.body.effect = .permit → p.body.condition = .lit true
  forbid : ∀ p ∈ ps.policies, p.body.effect = .forbid → Guard.Positive p.body.condition

theorem Sees.place (h : Sees q es q' es') {p : Place} {x : Prim} (hx : placeOf q' es' p = some x) :
    placeOf q es p = some x := by
  obtain ⟨owner, k⟩ := p
  cases owner with
  | principal => exact h.principal_attrs k x hx
  | resource => exact h.resource_attrs k x hx
  | context => exact h.context k x hx

theorem Sees.inScope (h : Sees q es q' es') (c : Clause) : c.inScope q' = c.inScope q := by
  rw [Clause.inScope, h.action, h.resource, Clause.inScope]

/-- A positive policy that is satisfied stays so when more is seen, unless it fails then. -/
theorem Sees.satisfied (h : Sees q es q' es') {c : Clause} (hc : Guard.Positive c.condition)
    (hsat : c.eval q' es' = some true) : c.eval q es = some true ∨ c.eval q es = none := by
  unfold Clause.eval at hsat ⊢
  rw [h.inScope] at hsat
  split_ifs at hsat ⊢ with hscope
  · exact Guard.eval_mono (fun p x => h.place) hc hsat
  · cases hsat

theorem mem_satisfiedClauses_iff {e : Effect} {id : PolicyId} :
    id ∈ satisfiedClauses ps q es e ↔
      ∃ p ∈ ps.policies, p.body.effect = e ∧ p.body.eval q es = some true ∧ p.id = id := by
  simp [satisfiedClauses, and_assoc]

/-- **What is left out forces no denial**, unless the full request makes a policy fail. -/
theorem denied_of_sees (hps : ps.BaseAndExceptions) (h : Sees q es q' es') {r r' : Response}
    (hr : Answers ps q es r) (hr' : Answers ps q' es' r') (hdeny : r'.decision = .deny) :
    r.decision = .deny ∨ r.errors ≠ [] := by
  by_contra hcon
  push Not at hcon
  obtain ⟨hallow, hsound⟩ := hcon
  have hd : r.decision = .allow := by
    cases hdec : r.decision with
    | allow => rfl
    | deny => exact absurd hdec hallow
  obtain ⟨hforbid, hpermit⟩ := hr.decision.mp hd
  have hne : ¬ (satisfiedClauses ps q' es' .forbid = [] ∧ satisfiedClauses ps q' es' .permit ≠ []) := by
    rw [← hr'.decision, hdeny]
    exact nofun
  refine hne ⟨List.eq_nil_iff_forall_not_mem.mpr fun id hid => ?_, ?_⟩
  · -- a satisfied exception would be satisfied, or fail, on the full request
    obtain ⟨p, hp, he, hsat, -⟩ := mem_satisfiedClauses_iff.mp hid
    rcases h.satisfied (hps.forbid p hp he) hsat with ht | hf
    · have hmem := mem_satisfiedClauses_iff.mpr ⟨p, hp, he, ht, rfl⟩
      rw [hforbid] at hmem
      cases hmem
    · exact hr.errors.mp hsound p hp hf
  · obtain ⟨id, hid⟩ := List.exists_mem_of_ne_nil _ hpermit
    obtain ⟨p, hp, he, hsat, hpid⟩ := mem_satisfiedClauses_iff.mp hid
    have hsat' : p.body.eval q' es' = some true := by
      unfold Clause.eval at hsat ⊢
      rw [hps.permit p hp he] at hsat ⊢
      rwa [h.inScope]
    exact List.ne_nil_of_mem (mem_satisfiedClauses_iff.mpr ⟨p, hp, he, hsat', hpid⟩)

/-! ## The server -/

section Serve

variable {ι : Type} [DecidableEq ι] {state : AppState Clause Ty Prim} {orders : ι → ReasonOrder}
  {papi : PolicyApi Clause (Schema Ty)} {policyPath : String} {bodies : ι → List UInt8}

/-- **What a caller leaves out forces no denial.** While a set of the authoring convention is live, a
call that leaves attributes out is denied only if the call that has them is denied too, or is told of
policies that failed; whatever events, faults and other calls there are. -/
theorem outcome_omission (hapi : state.api.Lawful prims) (hdecides : state.Decides)
    {w w' : Server Clause ι} {p : Pdp Clause} {ls : List (ServerLabel ι)} (hpc : w.sys.pc = .recv)
    (hp : w.sys.pdp = some p) (hset : p.provider.BaseAndExceptions)
    (hfile : Idle papi state.schema policyPath p w.sys.file)
    (hls : ∀ file, .sys (.write file) ∈ ls → Idle papi state.schema policyPath p file)
    (h : run (serveAll state orders papi policyPath bodies) w ls = some w') {i j : ι}
    (hbegin : w.calls i = .waiting) (hbegin' : w.calls j = .waiting)
    {out out' : EvaluationResponse × AccessLog} (hi : w'.calls i = .done (.ok out))
    (hj : w'.calls j = .done (.ok out')) {req req' : EvaluationRequest}
    (hbody : state.fromSlice (bodies i) = .ok req) (hbody' : state.fromSlice (bodies j) = .ok req')
    (hom : Omits req req') (hdeny : out'.1.decision = false) :
    out.1.decision = false ∨ reservedErrorsKey ∈ out.1.context.getD ∅ := by
  obtain ⟨target, r, hauth, rfl⟩ := evaluate_ok_iff.mp
    ((steadyCall_of_run hpc hp hfile hls h hbegin).outcome hi).symm
  obtain ⟨target', r', hauth', rfl⟩ := evaluate_ok_iff.mp
    ((steadyCall_of_run hpc hp hfile hls h hbegin').outcome hj).symm
  obtain ⟨req₁, q, es, hreq, hok, hr, rfl⟩ := authorized_ok_iff.mp hauth
  obtain ⟨req₁', q', es', hreq', hok', hr', rfl⟩ := authorized_ok_iff.mp hauth'
  obtain rfl := Except.ok.inj (hbody.symm.trans hreq)
  obtain rfl := Except.ok.inj (hbody'.symm.trans hreq')
  have hdeny' : r'.decision = .deny := by
    cases hd : r'.decision with
    | deny => rfl
    | allow =>
      have : (r'.decision == .allow) = false := hdeny
      rw [hd] at this
      cases this
  rcases denied_of_sees hset (sees_of_omits hapi hok hok' hom)
    (hdecides.inOrder _ _ _ _ _ hr) (hdecides.inOrder _ _ _ _ _ hr') hdeny' with hd | herr
  · left
    change (r.decision == .allow) = false
    rw [hd]
    rfl
  · exact .inr (errorsKey_mem_answer herr)

end Serve

/-! ## The shipped policies -/

theorem baseAndExceptions_shipped : shippedPolicies.BaseAndExceptions := by
  refine ⟨fun p hp he => ?_, fun p hp he => ?_⟩
  · simp only [shippedPolicies, List.mem_cons, List.not_mem_nil, or_false] at hp
    rcases hp with rfl | rfl | rfl
    · rfl
    · cases he
    · cases he
  · simp only [shippedPolicies, List.mem_cons, List.not_mem_nil, or_false] at hp
    rcases hp with rfl | rfl | rfl
    · cases he
    · exact ⟨⟨⟨⟨⟨trivial, trivial⟩, trivial⟩, trivial⟩, trivial⟩, trivial⟩
    · exact ⟨⟨⟨trivial, trivial⟩, trivial⟩, trivial⟩

/-- The forced login with the address of the client. -/
def addressedLogin : EvaluationRequest :=
  { internetLogin with
    context := some (.object [("access_route", .string "internet"), ("ip", .string "203.0.113.7")]) }

theorem omits_internetLogin : Omits addressedLogin internetLogin := by
  refine ⟨⟨rfl, rfl, rfl, rfl, rfl⟩, fun _ _ h => h, fun _ _ h => h, fun k v h => ?_⟩
  by_cases hk : k = "access_route"
  · subst hk
    exact h
  · have hbeq : (k == "access_route") = false := beq_eq_false_iff_ne.mpr hk
    rw [contextFields, internetLogin, List.lookup_cons, hbeq] at h
    cases h

/-- The shipped server, where an empty body stands for the login without the address. -/
def addressPdp : AppState Clause Ty Prim :=
  { clausePdp shippedSchema internetLogin with
    fromSlice := fun body => .ok (if body.isEmpty then internetLogin else addressedLogin) }

/-- The server, for a call with the address and one without it. -/
abbrev serveAddress : Server Clause Bool → ServerLabel Bool → Option (Server Clause Bool) :=
  serveAll addressPdp twoOrders shippedFiles "policies.cedar" fun i => if i then [0] else []

theorem outcome_omission_address : ∃ w out out',
    run serveAddress (Server.started "policies" shippedPolicies) nestedReads = some w ∧
    w.calls true = .done (.ok out) ∧ w.calls false = .done (.ok out') ∧ out'.1.decision = false ∧
      (out.1.decision = false ∨ reservedErrorsKey ∈ out.1.context.getD ∅) := by
  obtain ⟨w, out, out', hw, hcall, hcall', hdeny⟩ : ∃ w out out',
      run serveAddress (Server.started "policies" shippedPolicies) nestedReads = some w ∧
      w.calls true = .done (.ok out) ∧ w.calls false = .done (.ok out') ∧ out'.1.decision = false :=
    ⟨_, _, _, rfl, rfl, rfl, rfl⟩
  exact ⟨w, out, out', hw, hcall, hcall', hdeny, outcome_omission reference_lawful
    (fun _ _ _ _ h => answers_authorizeClauses h) (p := ⟨shippedPolicies, "policies", true⟩) rfl rfl
    baseAndExceptions_shipped idle_loaded (by simp [nestedReads]) hw rfl rfl hcall hcall' rfl rfl
    omits_internetLogin hdeny⟩

end AuthzenPdp
