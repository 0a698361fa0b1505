import AuthzenPdp.Evaluate.Diagnostics
import AuthzenPdp.Lib.Guard
import AuthzenPdp.Lib.Wildcard

/-!
# Policies with conditions

The policies of the language that `policies.cedar` is written in: a scope, and a condition about
string attributes of principal, resource and context. What the authorizer and the strict validator
do with them is Cedar's documented behaviour.

* `Place`, `StringTest`, `Clause`: the body of a policy;
* `placeOf`, `Clause.eval`: its value for a request, `none` when Cedar reports an error;
* `Answers`: Cedar's decision rule, with the determining ids in any order;
* `sigOf`, `Clause.checks`: strict validation, in every environment that the scope admits;
* `authorizeClauses`, `clauseFiles`: both as executable functions.
-/

namespace AuthzenPdp

open Wildcard

/-- Whose attribute. -/
inductive Owner where
  | principal
  | resource
  | context
  deriving DecidableEq

structure Place where
  owner : Owner
  attr : String
  deriving DecidableEq

/-- `== "s"` and `like "pattern"`. -/
inductive StringTest where
  | eq (s : String)
  | like (pattern : List (Piece Char))
  deriving DecidableEq

/-- `==` compares any values, `like` is for strings. -/
def StringTest.holds : StringTest → Prim → Option Bool
  | .eq s, x => some (x == .string s)
  | .like pattern, .string s => some (accepts pattern s.toList)
  | .like _, _ => none

abbrev Condition : Type := Guard.Cond Place StringTest

/-- The body of a policy: effect, scope, and the conjunction of its `when` clauses. -/
structure Clause where
  effect : Effect
  action : Option EntityUid
  resource : Option EntityUid
  condition : Condition

/-! ## Evaluation -/

/-- What stands at a place; nothing when the entity or the attribute is not there. -/
def placeOf (q : Request Prim) (es : Entities Prim) (p : Place) : Option Prim :=
  match p.owner with
  | .principal => (attrsOf es q.principal).lookup p.attr
  | .resource => (attrsOf es q.resource).lookup p.attr
  | .context => q.context.lookup p.attr

def Clause.inScope (c : Clause) (q : Request Prim) : Bool :=
  c.action.all (· == q.action) && c.resource.all (· == q.resource)

/-- Whether the policy is satisfied; `none` when its evaluation fails. -/
def Clause.eval (c : Clause) (q : Request Prim) (es : Entities Prim) : Option Bool :=
  if c.inScope q then Guard.eval StringTest.holds (placeOf q es) c.condition else some false

def satisfiedClauses (ps : PolicySet Clause) (q : Request Prim) (es : Entities Prim) (e : Effect) :
    List PolicyId :=
  (ps.policies.filter fun p => p.body.effect == e && p.body.eval q es == some true).map Policy.id

/-- The satisfied `forbid` policies determine a denial, else the satisfied `permit` policies an
approval. -/
def determiningClauses (ps : PolicySet Clause) (q : Request Prim) (es : Entities Prim) :
    List PolicyId :=
  if satisfiedClauses ps q es .forbid = [] then satisfiedClauses ps q es .permit
  else satisfiedClauses ps q es .forbid

/-- **Cedar's decision rule.** Policies whose evaluation fails are ignored and reported. -/
structure Answers (ps : PolicySet Clause) (q : Request Prim) (es : Entities Prim) (r : Response) :
    Prop where
  decision : r.decision = .allow ↔
    satisfiedClauses ps q es .forbid = [] ∧ satisfiedClauses ps q es .permit ≠ []
  reason : r.reason.Perm (determiningClauses ps q es)
  errors : r.errors = [] ↔ ∀ p ∈ ps.policies, p.body.eval q es ≠ none

theorem Decision.eq_of_allow_iff {d d' : Decision} (h : d = .allow ↔ d' = .allow) : d = d' := by
  cases d with
  | allow => exact (h.mp rfl).symm
  | deny =>
    cases d' with
    | allow => exact h.mpr rfl
    | deny => rfl

/-- The authorizer decides as documented, when it answers. -/
def AppState.Decides (state : AppState Clause Ty Prim) : Prop :=
  ∀ ps q es r, state.isAuthorized ps q es = .ok r → Answers ps q es r

theorem AppState.Decides.inOrder {state : AppState Clause Ty Prim} (h : state.Decides)
    (o : ReasonOrder) : (state.inOrder o).Decides := by
  intro ps q es r hr
  obtain ⟨r, hr₀, rfl⟩ := isAuthorized_inOrder_iff.mp hr
  obtain ⟨hdecision, hreason, herrors⟩ := h ps q es r hr₀
  exact ⟨hdecision, (o.perm r.reason).trans hreason, herrors⟩

/-- The decision rule, with a fixed order and text. -/
def authorizeClauses (ps : PolicySet Clause) (q : Request Prim) (es : Entities Prim) :
    Except String Response :=
  let decision := if (satisfiedClauses ps q es .forbid).isEmpty &&
    !(satisfiedClauses ps q es .permit).isEmpty then .allow else .deny
  .ok ⟨decision, determiningClauses ps q es,
    (ps.policies.filter fun p => p.body.eval q es == none).map fun p =>
      "error while evaluating policy `" ++ p.id ++ "`"⟩

theorem answers_authorizeClauses {ps : PolicySet Clause} {q : Request Prim} {es : Entities Prim}
    {r : Response} (h : authorizeClauses ps q es = .ok r) : Answers ps q es r := by
  cases h
  refine ⟨?_, .refl _, ?_⟩
  · simp
  · simp

/-! ## Validation -/

def declOf (d : ActionDecl Ty) (dp dr : EntityDecl Ty) (p : Place) : Option (AttrDecl Ty) :=
  match p.owner with
  | .principal => dp.attrs.lookup p.attr
  | .resource => dr.attrs.lookup p.attr
  | .context => d.context.lookup p.attr

/-- What a schema declares about the places of a request. Of an entity, Cedar does not take it for
granted that it is in the store. -/
def sigOf (d : ActionDecl Ty) (dp dr : EntityDecl Ty) : Guard.Sig Place StringTest where
  declared p := (declOf d dp dr p).isSome
  required p := (declOf d dp dr p).any AttrDecl.required
  known p := p.owner == .context
  fits p _ := (declOf d dp dr p).any fun a => a.ty == .string

/-- The condition checks for every action, principal type and resource type that the scope admits. -/
def Clause.checks (schema : Schema Ty) (c : Clause) : Bool :=
  schema.actions.entries.all fun e => !c.action.all (· == e.1) || e.2.principalTypes.all fun tp =>
    e.2.resourceTypes.all fun tr => !c.resource.all (·.typeName == tr) ||
      match schema.entityTypes.lookup tp, schema.entityTypes.lookup tr with
      | some dp, some dr => (Guard.check (sigOf e.2 dp dr) [] c.condition).isSome
      | _, _ => true

/-- A strict validator that reports nothing has checked every policy. -/
def PolicyApi.Strict (api : PolicyApi Clause (Schema Ty)) : Prop :=
  ∀ schema ps, api.validateStrict schema ps = [] → ∀ p ∈ ps.policies, p.body.checks schema = true

/-- A reader of the given sources, with a strict validator. -/
def clauseFiles (table : List (String × PolicySet Clause)) : PolicyApi Clause (Schema Ty) where
  fromStr src := match table.lookup src with
    | some ps => .ok ps
    | none => .error "unexpected token"
  validateStrict schema ps := (ps.policies.filter fun p => !p.body.checks schema).map fun p =>
    "for policy `" ++ p.id ++ "`, unable to guarantee safety of access"
  providerError path _ := "cannot load `" ++ path ++ "`"

theorem strict_clauseFiles (table : List (String × PolicySet Clause)) : (clauseFiles table).Strict := by
  intro schema ps h p hp
  have hnil : ps.policies.filter (fun p => !p.body.checks schema) = [] := List.map_eq_nil_iff.mp h
  simpa using List.filter_eq_nil_iff.mp hnil p hp

/-- The check of the environment of a request. -/
theorem check_of_checks {schema : Schema Ty} {c : Clause} (h : c.checks schema = true)
    {q : Request Prim} (hscope : c.inScope q = true) {d : ActionDecl Ty}
    (hd : schema.actions.lookup q.action = some d) (hp : q.principal.typeName ∈ d.principalTypes)
    (hr : q.resource.typeName ∈ d.resourceTypes) {dp dr : EntityDecl Ty}
    (hdp : schema.entityTypes.lookup q.principal.typeName = some dp)
    (hdr : schema.entityTypes.lookup q.resource.typeName = some dr) :
    ∃ r, Guard.check (sigOf d dp dr) [] c.condition = some r := by
  obtain ⟨haction, hresource⟩ := Bool.and_eq_true_iff.mp hscope
  have he : (⟨q.action, d⟩ : Sigma fun _ : EntityUid => ActionDecl Ty) ∈ schema.actions.entries :=
    AList.mem_lookup_iff.mp hd
  have htypes := List.all_eq_true.mp h _ he
  rw [haction, Bool.not_true, Bool.false_or] at htypes
  have henv := List.all_eq_true.mp (List.all_eq_true.mp htypes _ hp) _ hr
  have hsame : c.resource.all (·.typeName == q.resource.typeName) = true := by
    cases hc : c.resource with
    | none => rfl
    | some uid =>
      rw [hc] at hresource
      have huid : uid = q.resource := beq_iff_eq.mp hresource
      rw [huid]
      exact beq_self_eq_true _
  rw [hsame, Bool.not_true, Bool.false_or, hdp, hdr] at henv
  exact Option.isSome_iff_exists.mp henv

end AuthzenPdp
