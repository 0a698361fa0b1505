import AuthzenPdp.Policies.Errors

/-!
# The shipped policies

`policies.cedar` under `schema.cedar.json`, and what the policies ask of a request.

* `shippedSchema`, `shippedPolicies`: the two files;
* `subjectText`, `contextText`, `seen_of_toCedar`: the strings of a request, and where policies see them;
* `ForcedByAClient`, `ForcedByBClient`, **`satisfied_aClientDeny`**, **`satisfied_bClientDeny`**: the two
  rules, as conditions on the request.
-/

namespace AuthzenPdp

open Trans Wildcard

/-! ## The files -/

def userType : EntityTypeName := ⟨"User"⟩

def clientType : EntityTypeName := ⟨"Client"⟩

def loginAction : EntityUid := ⟨⟨"Action"⟩, "login"⟩

/-- Optional attributes of type `String`. -/
def optionalStrings (keys : List String) : RecordDecl Ty :=
  (keys.map fun k => (⟨k, ⟨.string, false⟩⟩ : Sigma fun _ : String => AttrDecl Ty)).toAList

def shippedTypes : AList fun _ : EntityTypeName => EntityDecl Ty :=
  [⟨userType, ⟨optionalStrings ["user_type", "department"], none⟩⟩, ⟨clientType, ⟨∅, none⟩⟩].toAList

/-- The context type of `login`. -/
def loginContext : RecordDecl Ty := optionalStrings ["access_route", "ip"]

/-- `schema.cedar.json`. -/
def shippedSchema : Schema Ty :=
  oneAction shippedTypes loginAction ⟨[userType], [clientType], loginContext⟩ (by decide) (by decide)

/-- The annotations of a policy. -/
def annotationsOf (l : List (String × String)) : AList fun _ : String => String :=
  (l.map fun a => (⟨a.1, a.2⟩ : Sigma fun _ : String => String)).toAList

def allowLogin : Policy Clause where
  id := "policy0"
  annotations := annotationsOf [("id", "allow-login"),
    ("description", "Baseline: permit all logins. Client-specific forbid rules below override this " ++
      "to force external auth for risky conditions.")]
  body := ⟨.permit, some loginAction, none, .lit true⟩

def aClientDeny : Policy Clause where
  id := "policy1"
  annotations := annotationsOf [("id", "a-client-deny"), ("priority", "100"),
    ("description", "a-client: force external auth for employees in dept A* arriving over the internet. " ++
      "Step up privileged-department access from untrusted routes."),
    ("decision_context_reason_user", "External authentication is required for this access route."),
    ("decision_context_step_up", "external-auth")]
  body := {
    effect := .forbid
    action := some loginAction
    resource := some ⟨clientType, "a-client"⟩
    condition := [.test ⟨.principal, "user_type"⟩ (.eq "employee"),
      .has ⟨.principal, "department"⟩,
      .test ⟨.principal, "department"⟩ (.like ("A".toList.map .lit ++ [.star])),
      .has ⟨.context, "access_route"⟩,
      .test ⟨.context, "access_route"⟩ (.eq "internet")].foldl .and (.has ⟨.principal, "user_type"⟩) }

def bClientDeny : Policy Clause where
  id := "policy2"
  annotations := annotationsOf [("id", "b-client-deny"), ("priority", "100"),
    ("description", "b-client: force external auth for partners arriving over the internal route.")]
  body := {
    effect := .forbid
    action := some loginAction
    resource := some ⟨clientType, "b-client"⟩
    condition := [.test ⟨.principal, "user_type"⟩ (.eq "partner"),
      .has ⟨.context, "access_route"⟩,
      .test ⟨.context, "access_route"⟩ (.eq "internal")].foldl .and (.has ⟨.principal, "user_type"⟩) }

/-- `policies.cedar`. -/
def shippedPolicies : PolicySet Clause where
  policies := [allowLogin, aClientDeny, bClientDeny]
  nodup := by decide

theorem checks_shippedPolicies : ∀ p ∈ shippedPolicies.policies, p.body.checks shippedSchema = true := by
  decide

/-! ## The strings of a request -/

def textOf : Value → Option String
  | .string s => some s
  | _ => none

/-- A property of the subject that is a string. -/
def subjectText (req : EvaluationRequest) (k : String) : Option String :=
  ((subjectProps req).lookup k).bind textOf

/-- A member of the context that is a string. -/
def contextText (req : EvaluationRequest) (k : String) : Option String :=
  match req.context with
  | some (.object fields) => (fields.lookup k).bind textOf
  | _ => none

theorem readPrim_string (v : Value) : readPrim .string v = (textOf v).map .string := by
  cases v <;> rfl

theorem lookup_readFields_string {d : RecordDecl Ty} {fields : List (String × Value)} {r : Record Prim}
    (h : readFields prims d fields = some r) {k : String} {required : Bool}
    (hd : d.lookup k = some ⟨.string, required⟩) :
    r.lookup k = ((fields.lookup k).bind textOf).map .string := by
  rw [lookup_readFields h, hd, Option.map_bind]
  exact Option.bind_congr fun v _ => readPrim_string v

/-! ## What policies see -/

variable {api : RequestApi Ty Prim} {req : EvaluationRequest} {q : Request Prim} {es : Entities Prim}

theorem lookup_contextOfRequest {a : EntityUid} {schema : Schema Ty} {d : ActionDecl Ty}
    (h : api.Lawful prims) (hd : schema.actions.lookup a = some d) {ctx : Record Prim}
    (hctx : contextOfRequest api req schema a = .ok ctx) {k : String} {required : Bool}
    (hk : d.context.lookup k = some ⟨.string, required⟩) :
    ctx.lookup k = (contextText req k).map .string := by
  unfold contextOfRequest at hctx
  unfold contextText
  cases hv : req.context with
  | none =>
    rw [hv] at hctx
    cases hctx
    exact Finmap.lookup_empty k
  | some v =>
    rw [hv] at hctx
    obtain ⟨d', fields, hd', rfl, hr⟩ := (h.context _ _ _ _).mp (mapError_eq_ok.mp hctx)
    obtain rfl := Option.some.inj (hd.symm.trans hd')
    exact lookup_readFields_string (readRecord_eq_some_iff.mp hr).1 hk

/-- A request that converts, and the strings that policies see of it. -/
structure Seen (req : EvaluationRequest) (q : Request Prim) (es : Entities Prim) : Prop where
  action : q.action = loginAction
  resource : q.resource = ⟨clientType, req.resource.id⟩
  subject : ∀ k ∈ ["user_type", "department"],
    placeOf q es ⟨.principal, k⟩ = (subjectText req k).map .string
  context : ∀ k ∈ ["access_route", "ip"], placeOf q es ⟨.context, k⟩ = (contextText req k).map .string

theorem lookup_loginAction {a : EntityUid} {d : ActionDecl Ty}
    (h : shippedSchema.actions.lookup a = some d) :
    a = loginAction ∧ d = ⟨[userType], [clientType], loginContext⟩ := by
  have he : (⟨a, d⟩ : Sigma fun _ : EntityUid => ActionDecl Ty) ∈
      [⟨loginAction, ⟨[userType], [clientType], loginContext⟩⟩] := AList.mem_lookup_iff.mp h
  rw [List.mem_singleton] at he
  cases he
  exact ⟨rfl, rfl⟩

theorem lookup_optionalStrings {keys : List String} {k : String} (h : k ∈ keys) :
    (optionalStrings keys).lookup k = some ⟨.string, false⟩ := by
  rw [optionalStrings, AList.lookup_to_alist]
  induction keys with
  | nil => cases h
  | cons k' keys ih =>
    by_cases hk : k = k'
    · subst hk
      exact List.dlookup_cons_eq _ _ _
    · rw [List.map_cons, List.dlookup_cons_ne _ _ hk]
      exact ih ((List.mem_cons.mp h).resolve_left hk)

/-- **What the shipped policies see of a request that converts.** -/
theorem seen_of_toCedar (h : api.Lawful prims) (hok : toCedar api req shippedSchema = .ok (q, es)) :
    Seen req q es := by
  obtain ⟨-, -, -, -, hrid, hctx, ⟨⟨d, hd, hp, hr, -⟩, -, -⟩, -⟩ := (toCedar_eq_ok_iff h).mp hok
  obtain ⟨⟨dp, hdp, hread⟩, -, -⟩ := attrs_of_toCedar h hok
  obtain ⟨haction, rfl⟩ := lookup_loginAction hd
  rw [List.mem_singleton] at hp hr
  rw [hp] at hdp
  obtain rfl : ⟨optionalStrings ["user_type", "department"], none⟩ = dp := Option.some.inj hdp
  refine ⟨haction, EntityUid.ext hr hrid, fun k hk => ?_, fun k hk => ?_⟩
  · rw [subjectText, ← lookup_fields]
    exact lookup_readFields_string (readRecord_eq_some_iff.mp hread).1 (lookup_optionalStrings hk)
  · exact lookup_contextOfRequest h hd hctx (lookup_optionalStrings hk)

/-! ## The two rules -/

/-- External authentication is forced for `a-client`: employees of a department `A*`, over the
internet. -/
structure ForcedByAClient (req : EvaluationRequest) : Prop where
  client : req.resource.id = "a-client"
  user_type : subjectText req "user_type" = some "employee"
  department : ∃ s, subjectText req "department" = some s ∧ "A".toList <+: s.toList
  access_route : contextText req "access_route" = some "internet"

/-- External authentication is forced for `b-client`: partners, over the internal route. -/
structure ForcedByBClient (req : EvaluationRequest) : Prop where
  client : req.resource.id = "b-client"
  user_type : subjectText req "user_type" = some "partner"
  access_route : contextText req "access_route" = some "internal"

section Rules

variable (hseen : Seen req q es)

theorem eval_has_iff {p : Place} {text : Option String} (hp : placeOf q es p = text.map .string) :
    Guard.eval StringTest.holds (placeOf q es) (.has p) = some true ↔ ∃ s, text = some s := by
  rw [Guard.eval, hp, Option.some.injEq, Option.isSome_map, Option.isSome_iff_exists]

theorem eval_eq_iff {p : Place} {text : Option String} (hp : placeOf q es p = text.map .string)
    (s : String) :
    Guard.eval StringTest.holds (placeOf q es) (.test p (.eq s)) = some true ↔ text = some s := by
  rw [Guard.eval, hp]
  cases text with
  | none => simp
  | some t => simp [StringTest.holds]

theorem eval_like_iff {p : Place} {text : Option String} (hp : placeOf q es p = text.map .string)
    (pre : List Char) :
    Guard.eval StringTest.holds (placeOf q es) (.test p (.like (pre.map .lit ++ [.star]))) = some true ↔
      ∃ s, text = some s ∧ pre <+: s.toList := by
  rw [Guard.eval, hp]
  cases text with
  | none => simp
  | some t => simp [StringTest.holds, accepts_iff, fits_prefix_iff]

theorem eval_of_scope {c : Clause} (hc : c.inScope q = true) :
    c.eval q es = Guard.eval StringTest.holds (placeOf q es) c.condition := if_pos hc

theorem eval_of_not_scope {c : Clause} (hc : c.inScope q = false) : c.eval q es = some false := by
  rw [Clause.eval, hc]
  rfl

include hseen

/-- The scope of a rule for one client. -/
theorem inScope_client {c : Clause} {client : String} (haction : c.action = some loginAction)
    (hresource : c.resource = some ⟨clientType, client⟩) :
    c.inScope q = true ↔ req.resource.id = client := by
  rw [Clause.inScope, haction, hresource, hseen.action, hseen.resource]
  simp only [Option.all_some, beq_self_eq_true, Bool.true_and, beq_iff_eq, EntityUid.mk.injEq, true_and]
  exact eq_comm

theorem satisfied_aClientDeny : aClientDeny.body.eval q es = some true ↔ ForcedByAClient req := by
  have huser := hseen.subject "user_type" (by simp)
  have hdept := hseen.subject "department" (by simp)
  have hroute := hseen.context "access_route" (by simp)
  have hscope : aClientDeny.body.inScope q = true ↔ req.resource.id = "a-client" :=
    inScope_client hseen rfl rfl
  by_cases hclient : req.resource.id = "a-client"
  · rw [eval_of_scope (hscope.mpr hclient), aClientDeny, Guard.eval_foldl_and_true]
    simp only [List.forall_mem_cons, List.not_mem_nil, false_implies, implies_true, and_true,
      eval_has_iff huser, eval_eq_iff huser, eval_has_iff hdept, eval_like_iff hdept,
      eval_has_iff hroute, eval_eq_iff hroute]
    constructor
    · rintro ⟨-, hu, -, hd, -, hr⟩
      exact ⟨hclient, hu, hd, hr⟩
    · rintro ⟨-, hu, ⟨s, hs, hA⟩, hr⟩
      exact ⟨⟨_, hu⟩, hu, ⟨s, hs⟩, ⟨s, hs, hA⟩, ⟨_, hr⟩, hr⟩
  · rw [eval_of_not_scope (by simpa using mt hscope.mp hclient)]
    exact iff_of_false (by simp) fun h => hclient h.client

theorem satisfied_bClientDeny : bClientDeny.body.eval q es = some true ↔ ForcedByBClient req := by
  have huser := hseen.subject "user_type" (by simp)
  have hroute := hseen.context "access_route" (by simp)
  have hscope : bClientDeny.body.inScope q = true ↔ req.resource.id = "b-client" :=
    inScope_client hseen rfl rfl
  by_cases hclient : req.resource.id = "b-client"
  · rw [eval_of_scope (hscope.mpr hclient), bClientDeny, Guard.eval_foldl_and_true]
    simp only [List.forall_mem_cons, List.not_mem_nil, false_implies, implies_true, and_true,
      eval_has_iff huser, eval_eq_iff huser, eval_has_iff hroute, eval_eq_iff hroute]
    constructor
    · rintro ⟨-, hu, -, hr⟩
      exact ⟨hclient, hu, hr⟩
    · rintro ⟨-, hu, hr⟩
      exact ⟨⟨_, hu⟩, hu, ⟨_, hr⟩, hr⟩
  · rw [eval_of_not_scope (by simpa using mt hscope.mp hclient)]
    exact iff_of_false (by simp) fun h => hclient h.client

theorem satisfied_allowLogin : allowLogin.body.eval q es = some true := by
  have hscope : allowLogin.body.inScope q = true := by
    rw [Clause.inScope, hseen.action]
    rfl
  rw [eval_of_scope hscope]
  rfl

end Rules

end AuthzenPdp
