import AuthzenPdp.Evaluate.Order
import AuthzenPdp.Policies.Served

/-!
# Rules for other requests

A request is decided by the policies in whose scope it is. A rule for another client or another action
can be changed in its place, and be added behind the others or removed from there, without a trace in the
answers, also while a call reads the sets. In front of the others it would shift their internal ids.

* `PolicySet.scoped`, `SameScope`: the policies that matter for a request, with their internal ids;
* `alike_of_sameScope`: what the authorizer says of two such sets;
* `answer_of_sameScope`: what is made of it, with other two such sets;
* **`outcome_scope`**: the calls for one request, in every run.
-/

namespace AuthzenPdp

open MinBy Trans

/-- The policies in whose scope the request is. -/
def PolicySet.scoped (ps : PolicySet Clause) (q : Request Prim) : List (Policy Clause) :=
  ps.policies.filter fun p => p.body.inScope q

/-- The sets have the same policies for the request: the same bodies and annotations, and also the same
internal ids, which count the policies of the file. -/
def SameScope (q : Request Prim) (ps ps' : PolicySet Clause) : Prop := (ps.scoped q).Perm (ps'.scoped q)

variable {q : Request Prim} {es : Entities Prim} {ps ps' : PolicySet Clause}

/-- Rules out of scope, behind the others. -/
theorem sameScope_of_append {l : List (Policy Clause)} (h : ps'.policies = ps.policies ++ l)
    (hl : ∀ p ∈ l, p.body.inScope q = false) : SameScope q ps ps' := by
  have hnil : l.filter (fun p => p.body.inScope q) = [] :=
    List.filter_eq_nil_iff.mpr fun p hp => by simp [hl p hp]
  rw [SameScope, PolicySet.scoped, PolicySet.scoped, h, List.filter_append, hnil, List.append_nil]

/-! ## The authorizer -/

theorem satisfiedClauses_eq_scoped (e : Effect) : satisfiedClauses ps q es e =
    ((ps.scoped q).filter fun p => p.body.effect == e && p.body.eval q es == some true).map Policy.id := by
  rw [satisfiedClauses, PolicySet.scoped, List.filter_filter]
  refine congrArg (List.map Policy.id) (List.filter_congr fun p _ => ?_)
  cases hscope : p.body.inScope q with
  | true => rw [Bool.and_true]
  | false =>
    rw [eval_of_not_scope hscope, Bool.and_false]
    exact Bool.and_false _

theorem SameScope.satisfied (h : SameScope q ps ps') (e : Effect) :
    (satisfiedClauses ps q es e).Perm (satisfiedClauses ps' q es e) := by
  rw [satisfiedClauses_eq_scoped, satisfiedClauses_eq_scoped]
  exact (h.filter _).map _

theorem SameScope.satisfied_nil (h : SameScope q ps ps') (e : Effect) :
    satisfiedClauses ps q es e = [] ↔ satisfiedClauses ps' q es e = [] := by
  have hperm : (satisfiedClauses ps q es e).Perm (satisfiedClauses ps' q es e) := h.satisfied e
  constructor
  · intro hnil
    exact List.nil_perm.mp (hnil ▸ hperm)
  · intro hnil
    exact List.perm_nil.mp (hnil ▸ hperm)

theorem SameScope.determining (h : SameScope q ps ps') :
    (determiningClauses ps q es).Perm (determiningClauses ps' q es) := by
  unfold determiningClauses
  by_cases hnil : satisfiedClauses ps q es .forbid = []
  · rw [if_pos hnil, if_pos ((h.satisfied_nil _).mp hnil)]
    exact h.satisfied _
  · rw [if_neg hnil, if_neg (mt (h.satisfied_nil _).mpr hnil)]
    exact h.satisfied _

/-- A policy that fails is in scope. -/
theorem sound_iff_scoped :
    (∀ p ∈ ps.policies, p.body.eval q es ≠ none) ↔ ∀ p ∈ ps.scoped q, p.body.eval q es ≠ none := by
  constructor
  · intro h p hp
    exact h p (List.mem_filter.mp hp).1
  · intro h p hp
    cases hscope : p.body.inScope q with
    | true => exact h p (List.mem_filter.mpr ⟨hp, hscope⟩)
    | false =>
      rw [eval_of_not_scope hscope]
      exact Option.some_ne_none _

/-- The responses have the same decision, for the same policies. -/
structure Response.Alike (r r' : Response) : Prop where
  decision : r.decision = r'.decision
  reason : r.reason.Perm r'.reason
  errors : r.errors = [] ↔ r'.errors = []

/-- **The authorizer looks at the policies in scope.** -/
theorem alike_of_sameScope (h : SameScope q ps ps') {r r' : Response} (hr : Answers ps q es r)
    (hr' : Answers ps' q es r') : r.Alike r' := by
  have hallow : r.decision = .allow ↔ r'.decision = .allow := by
    rw [hr.decision, hr'.decision, h.satisfied_nil, ne_eq, h.satisfied_nil]
  refine ⟨Decision.eq_of_allow_iff hallow, hr.reason.trans (h.determining.trans hr'.reason.symm), ?_⟩
  rw [hr.errors, hr'.errors, sound_iff_scoped, sound_iff_scoped]
  exact forall_congr' fun p => imp_congr_left h.mem_iff

/-- The determining policies are in scope. -/
theorem Answers.scoped {r : Response} (hr : Answers ps q es r) {id : PolicyId} (hid : id ∈ r.reason) :
    ∃ p ∈ ps.scoped q, p.id = id := by
  have hmem := hr.reason.mem_iff.mp hid
  have hsat : ∃ e, id ∈ satisfiedClauses ps q es e := by
    unfold determiningClauses at hmem
    split_ifs at hmem
    · exact ⟨_, hmem⟩
    · exact ⟨_, hmem⟩
  obtain ⟨e, hsat⟩ := hsat
  rw [satisfiedClauses_eq_scoped] at hsat
  obtain ⟨p, hp, rfl⟩ := List.mem_map.mp hsat
  exact ⟨p, (List.mem_filter.mp hp).1, rfl⟩

/-! ## The answer -/

theorem SameScope.policy (h : SameScope q ps ps') {p : Policy Clause} (hp : p ∈ ps.scoped q) :
    ps.policy p.id = ps'.policy p.id := by
  rw [PolicySet.policy_of_mem (List.mem_filter.mp hp).1,
    PolicySet.policy_of_mem (List.mem_filter.mp (h.mem_iff.mp hp)).1]

/-- The names of the policies in scope are distinct. -/
def ScopeNamed (q : Request Prim) (ps : PolicySet Clause) : Prop :=
  ∀ p ∈ ps.scoped q, ∀ p' ∈ ps.scoped q, displayId p = displayId p' → p = p'

theorem scopeNamed_of_nodup (h : (ps.policies.map displayId).Nodup) : ScopeNamed q ps :=
  fun _ hp _ hp' => List.inj_on_of_nodup_map h (List.mem_filter.mp hp).1 (List.mem_filter.mp hp').1

theorem SameScope.named (h : SameScope q ps ps') (hps : ScopeNamed q ps) : ScopeNamed q ps' :=
  fun p hp p' hp' => hps p (h.mem_iff.mpr hp) p' (h.mem_iff.mpr hp')

/-- The same but for the texts of evaluation errors. -/
structure SameButErrors (out out' : EvaluationResponse × AccessLog) : Prop where
  decision : out.1.decision = out'.1.decision
  logged : out.2 = out'.2
  context : ∀ k, k ≠ reservedErrorsKey →
    (out.1.context.getD ∅).lookup k = (out'.1.context.getD ∅).lookup k
  errors : reservedErrorsKey ∈ out.1.context.getD ∅ ↔ reservedErrorsKey ∈ out'.1.context.getD ∅
  eq : reservedErrorsKey ∉ out.1.context.getD ∅ → out = out'

/-- An answer depends on the errors in their texts only. -/
theorem sameButErrors_of_answer {target : LogTarget} {d : Decision} {ids ids' : List PolicyId}
    {errors errors' : List String} (hr : resolveReason ids (some ps) = resolveReason ids' (some ps))
    (hc : toDecisionContext ps ids = toDecisionContext ps ids') (he : errors = [] ↔ errors' = []) :
    SameButErrors (answer target ⟨d, ids, errors⟩ (some ps))
      (answer target ⟨d, ids', errors'⟩ (some ps)) := by
  have heq : errors = [] → answer target ⟨d, ids, errors⟩ (some ps) =
      answer target ⟨d, ids', errors'⟩ (some ps) := by
    intro hnil
    rw [hnil, he.mp hnil]
    exact answer_congr hr hc
  refine ⟨rfl, ?_, fun k hk => ?_, ?_, fun hnot => heq ?_⟩
  · simp only [answer, Option.bind_some, hr, hc]
  · have hne : ∀ texts : List String, ¬ (k = reservedErrorsKey ∧ texts ≠ []) := fun _ h => hk h.1
    rw [answer_context, answer_context, lookup_buildResponseContext, lookup_buildResponseContext,
      if_neg (hne _), if_neg (hne _), hr, hc]
  · by_cases hnil : errors = []
    · rw [heq hnil]
    · exact iff_of_true (errorsKey_mem_answer hnil) (errorsKey_mem_answer (mt he.mpr hnil))
  · by_contra hne
    exact hnot (errorsKey_mem_answer hne)

/-- **The answer looks at the policies in scope.** -/
theorem answer_of_sameScope {S S' : PolicySet Clause} (hdec : SameScope q ps S) (hann : SameScope q S S')
    (hnamed : ScopeNamed q S') {r r' : Response} (hr : Answers ps q es r) (halike : r.Alike r')
    (target : LogTarget) :
    SameButErrors (answer target r (some S)) (answer target r' (some S')) := by
  have hserved : ∀ id ∈ r.reason, Option.Rel ServedAlike (S.policy id) (S'.policy id) := by
    intro id hid
    obtain ⟨p, hp, rfl⟩ := hr.scoped hid
    rw [hann.policy (hdec.mem_iff.mp hp)]
    exact servedAlike_refl _
  have hscoped : ∀ p ∈ r.reason.filterMap S'.policy, p ∈ S'.scoped q := by
    intro p hp
    obtain ⟨id, hid, hpol⟩ := List.mem_filterMap.mp hp
    obtain ⟨p', hp', rfl⟩ := hr.scoped hid
    have hmem := hann.mem_iff.mp (hdec.mem_iff.mp hp')
    rw [PolicySet.policy_of_mem (List.mem_filter.mp hmem).1] at hpol
    exact Option.some.inj hpol ▸ hmem
  have hleast : ∀ p p', LeastIn contextRank (r.reason.filterMap S'.policy) p →
      LeastIn contextRank (r.reason.filterMap S'.policy) p' → SameContext p p' := by
    intro p p' hp hp'
    have hname : displayId p = displayId p' := congrArg (fun x => (ofLex x).2) (hp.key_eq hp')
    rw [hnamed p (hscoped p hp.1) p' (hscoped p' hp'.1) hname]
    exact fun _ => rfl
  rw [answer_of_servedAlike hserved]
  obtain ⟨d, ids, errors⟩ := r
  obtain ⟨d', ids', errors'⟩ := r'
  obtain ⟨rfl, hperm, he⟩ := halike
  exact sameButErrors_of_answer (resolveReason_perm_eq hperm _)
    (toDecisionContext_perm hleast hperm.symm).symm he

/-! ## The server -/

variable {ι : Type} [DecidableEq ι] {state : AppState Clause Ty Prim} {orders : ι → ReasonOrder}
  {papi : PolicyApi Clause (Schema Ty)} {policyPath : String} {bodies : ι → List UInt8}

/-- **Rules for other requests leave no trace.** If all contents of the file read as sets that have the
same policies for a request, with the same internal ids and distinct names, any two calls with this request
are answered alike, whenever they read the live set, whatever the reload task does between their reads, and
in whatever orders they find the determining ids. -/
theorem outcome_scope (hdecides : state.Decides) {req : EvaluationRequest}
    (hok : toCedar state.api req state.schema = .ok (q, es)) {S : PolicySet Clause}
    (hnamed : ScopeNamed q S) {file : File} {ls : List (ServerLabel ι)} {w : Server Clause ι}
    (hF : ∀ f, f = file ∨ .sys (.write f) ∈ ls → ∀ ps, providerRead papi f = .ok ps → SameScope q ps S)
    (h : run (serveAll state orders papi policyPath bodies) (Server.boot file) ls = some w) {i j : ι}
    {out out' : EvaluationResponse × AccessLog} (hi : w.calls i = .done (.ok out))
    (hj : w.calls j = .done (.ok out')) (hbody : state.fromSlice (bodies i) = .ok req)
    (hbody' : state.fromSlice (bodies j) = .ok req) : SameButErrors out out' := by
  have hreads : ∀ {k : ι} {o : EvaluationResponse × AccessLog}, w.calls k = .done (.ok o) →
      state.fromSlice (bodies k) = .ok req → ∃ S₁ S₂ r, SameScope q S₁ S ∧ SameScope q S₂ S ∧
        Answers S₁ q es r ∧ o = answer (LogTarget.new req) r (some S₂) := by
    intro k o hk hb
    obtain ⟨S₁, S₂, f₁, f₂, ⟨hf₁, hS₁⟩, ⟨hf₂, hS₂⟩, heq⟩ := reads_of_contents
      (F := fun f => f = file ∨ .sys (.write f) ∈ ls) (.inl rfl) (fun f hf => .inr hf) h hk
    obtain ⟨target, r, hauth, rfl⟩ := evaluate_ok_iff.mp heq.symm
    obtain ⟨req', q', es', hreq, hok', hr, rfl⟩ := authorized_ok_iff.mp hauth
    obtain rfl := Except.ok.inj (hb.symm.trans hreq)
    obtain ⟨rfl, rfl⟩ := Prod.mk.inj (Except.ok.inj (hok.symm.trans hok'))
    exact ⟨S₁, S₂, r, hF f₁ hf₁ S₁ hS₁, hF f₂ hf₂ S₂ hS₂, hdecides.inOrder _ _ _ _ _ hr, rfl⟩
  obtain ⟨S₁, S₂, r, h₁, h₂, hr, rfl⟩ := hreads hi hbody
  obtain ⟨S₁', S₂', r', h₁', h₂', hr', rfl⟩ := hreads hj hbody'
  exact answer_of_sameScope (h₁.trans h₂.symm) (h₂.trans h₂'.symm) (SameScope.named h₂'.symm hnamed) hr
    (alike_of_sameScope (h₁.trans h₁'.symm) hr hr') _

/-! ## A second client -/

/-- The shipped policies before `b-client` was added. -/
def oneClientPolicies : PolicySet Clause where
  policies := [allowLogin, aClientDeny]
  nodup := by decide

def clientFiles : PolicyApi Clause (Schema Ty) :=
  clauseFiles [("one client", oneClientPolicies), ("policies", shippedPolicies)]

/-- A call at `a-client` during the reload that adds `b-client`, and one after it. -/
def readsAroundRollout : List (ServerLabel Bool) :=
  .read true :: .sys (.write (.ok "policies")) :: (quietEvent 6).map .sys ++
    [.read true, .read false, .read false]

/-- The server for calls that ask for the forced login, beside a rollout. -/
abbrev serveRollout : Server Clause Bool → ServerLabel Bool → Option (Server Clause Bool) :=
  serveAll (clausePdp shippedSchema internetLogin) twoOrders clientFiles "policies.cedar" fun _ => []

theorem outcome_scope_rollout : ∃ w out out', run serveRollout (Server.boot (.ok "one client"))
      (startupSteps.map .sys ++ readsAroundRollout) = some w ∧
    w.sys.live = some shippedPolicies ∧ w.calls true = .done (.ok out) ∧
      w.calls false = .done (.ok out') ∧ SameButErrors out out' := by
  have hv : Validates clientFiles shippedSchema "policies.cedar" "one client" oneClientPolicies :=
    validates_iff.mpr ⟨rfl, rfl, (annotation_checks_ok_iff _).mp ⟨rfl, rfl⟩⟩
  obtain ⟨w, out, out', hw, hlive, hcall, hcall'⟩ : ∃ w out out',
      run serveRollout (Server.started "one client" oneClientPolicies) readsAroundRollout = some w ∧
      w.sys.live = some shippedPolicies ∧ w.calls true = .done (.ok out) ∧
        w.calls false = .done (.ok out') := ⟨_, _, _, rfl, rfl, rfl, rfl⟩
  have hrun := run_append.mpr ⟨_, run_started hv, hw⟩
  obtain ⟨q, es, hok⟩ : ∃ q es, toCedar reference internetLogin shippedSchema = .ok (q, es) :=
    ⟨_, _, rfl⟩
  have hclient : bClientDeny.body.inScope q = true ↔ internetLogin.resource.id = "b-client" :=
    inScope_client (seen_of_toCedar reference_lawful hok) rfl rfl
  have hother : ∀ p ∈ [bClientDeny], p.body.inScope q = false := by
    intro p hp
    rw [List.mem_singleton.mp hp, Bool.eq_false_iff, ne_eq, hclient]
    decide
  refine ⟨w, out, out', hrun, hlive, hcall, hcall', outcome_scope (decides_clausePdp _ _) hok
    (S := shippedPolicies) (scopeNamed_of_nodup (by decide)) (fun f hf ps hps => ?_) hrun hcall hcall' rfl
    rfl⟩
  have hcontents : f = .ok "one client" ∨ f = .ok "policies" := by
    simpa [readsAroundRollout, quietEvent, startupSteps] using hf
  rcases hcontents with rfl | rfl
  · obtain rfl := Except.ok.inj hps
    exact sameScope_of_append rfl hother
  · obtain rfl := Except.ok.inj hps
    exact List.Perm.refl _

end AuthzenPdp
