import AuthzenPdp.Evaluate.Model
import AuthzenPdp.Request.Reference

/-!
# Executable policies

Policies with an effect and an optional resource in their scope, and Cedar's decision rule for
them: the satisfied `forbid` policies determine a denial, else the satisfied `permit` policies
determine an approval.

* `Rule`, `isAuthorizedRules`, `isAuthorizedRules_congr`: the rule looks at no annotation;
* `sourceText`, `knownSources`, `validates_sourceText`: Cedar source for them, and a reader of the
  sources of finitely many sets;
* `pdp`: an application state over the executable constructors;
* `loginSchema`, `loginTo`, `rule`, `files`: a schema, a request, and six policy files.
-/

namespace AuthzenPdp

inductive Effect where
  | permit
  | forbid
  deriving DecidableEq

/-- The body of a policy: its effect, and the resource it is scoped to. -/
structure Rule where
  effect : Effect
  resource : Option EntityUid
  deriving DecidableEq

def Rule.satisfied (r : Rule) (request : Request Prim) : Bool :=
  match r.resource with
  | none => true
  | some uid => uid == request.resource

/-- The ids of the satisfied policies of an effect. -/
def satisfiedIds (ps : PolicySet Rule) (request : Request Prim) (e : Effect) : List PolicyId :=
  (ps.policies.filter fun p => p.body.effect == e && p.body.satisfied request).map Policy.id

/-- `forbid` overrides `permit`; nothing satisfied is a denial. -/
def isAuthorizedRules (ps : PolicySet Rule) (request : Request Prim) (_ : Entities Prim) :
    Except String Response :=
  let forbids := satisfiedIds ps request .forbid
  let permits := satisfiedIds ps request .permit
  if !forbids.isEmpty then .ok ⟨.deny, forbids, []⟩
  else if !permits.isEmpty then .ok ⟨.allow, permits, []⟩
  else .ok ⟨.deny, [], []⟩

theorem satisfiedIds_congr {ps ps' : PolicySet Rule} (h : SamePolicies ps ps')
    (request : Request Prim) (e : Effect) : satisfiedIds ps request e = satisfiedIds ps' request e := by
  have hl : ∀ l l' : List (Policy Rule),
      List.Forall₂ (fun p p' => p.id = p'.id ∧ p.body = p'.body) l l' →
        (l.filter fun p => p.body.effect == e && p.body.satisfied request).map Policy.id =
          (l'.filter fun p => p.body.effect == e && p.body.satisfied request).map Policy.id := by
    intro l l' hf
    induction hf with
    | nil => rfl
    | cons hp _ ih =>
      rw [List.filter_cons, List.filter_cons, hp.2]
      split_ifs
      · rw [List.map_cons, List.map_cons, hp.1, ih]
      · exact ih
  exact hl _ _ h

/-- **The decision rule looks at no annotation.** -/
theorem isAuthorizedRules_congr {ps ps' : PolicySet Rule} (h : SamePolicies ps ps')
    (request : Request Prim) (entities : Entities Prim) :
    isAuthorizedRules ps request entities = isAuthorizedRules ps' request entities := by
  simp only [isAuthorizedRules, satisfiedIds_congr h]

/-! ## Sources -/

def Effect.keyword : Effect → String
  | .permit => "permit"
  | .forbid => "forbid"

def scopeText : Option EntityUid → String
  | none => "resource"
  | some uid => "resource == " ++ uid.typeName.name ++ "::" ++ strDebug uid.id

/-- A policy as Cedar source. -/
def policyText (p : Policy Rule) : String :=
  String.join (p.annotations.entries.map fun a => "@" ++ a.1 ++ "(" ++ strDebug a.2 ++ ")\n") ++
    p.body.effect.keyword ++ "(principal, action, " ++ scopeText p.body.resource ++ ");\n"

def sourceText (ps : PolicySet Rule) : String := String.join (ps.policies.map policyText)

/-- A reader of the sources of the listed sets, all of them free of strict validation errors. -/
def knownSources (σ : Type) (table : List (PolicySet Rule)) : PolicyApi Rule σ where
  fromStr src := match table.find? fun ps => sourceText ps == src with
    | some ps => .ok ps
    | none => .error "unexpected token"
  validateStrict _ _ := []
  providerError path _ := "cannot load `" ++ path ++ "`"

theorem fromStr_sourceText {table : List (PolicySet Rule)} (h : (table.map sourceText).Nodup)
    {ps : PolicySet Rule} (hps : ps ∈ table) (σ : Type) :
    (knownSources σ table).fromStr (sourceText ps) = .ok ps := by
  have hfind : table.find? (fun ps' => sourceText ps' == sourceText ps) = some ps := by
    cases hf : table.find? fun ps' => sourceText ps' == sourceText ps with
    | none => simpa using List.find?_eq_none.mp hf ps hps
    | some ps' =>
      have heq : sourceText ps' = sourceText ps := by simpa using List.find?_some hf
      rw [List.inj_on_of_nodup_map h (List.mem_of_find?_eq_some hf) hps heq]
  simp only [knownSources, hfind]

theorem validates_sourceText {σ : Type} {table : List (PolicySet Rule)} {schema : σ}
    (h : (table.map sourceText).Nodup) {ps : PolicySet Rule} (hps : ps ∈ table)
    (hp : validatePriorities ps = .ok ()) (hc : validateDecisionContexts ps = .ok ())
    (path : String) : Validates (knownSources σ table) schema path (sourceText ps) ps :=
  validates_iff.mpr ⟨fromStr_sourceText h hps σ, rfl, (annotation_checks_ok_iff ps).mp ⟨hp, hc⟩⟩

/-! ## An application -/

/-- An application state for one request, whatever the bytes of its body. -/
def pdp (schema : Schema Ty) (request : EvaluationRequest) : AppState Rule Ty Prim where
  schema := schema
  api := reference
  fromSlice _ := .ok request
  isAuthorized := isAuthorizedRules

theorem pdp_ignoresAnnotations (schema : Schema Ty) (request : EvaluationRequest) :
    (pdp schema request).IgnoresAnnotations :=
  fun _ _ request entities h => isAuthorizedRules_congr h request entities

/-- `login` of a `User` to a `Client`. -/
def loginSchema : Schema Ty :=
  oneAction [⟨⟨"User"⟩, ⟨∅, none⟩⟩, ⟨⟨"Client"⟩, ⟨∅, none⟩⟩].toAList ⟨⟨"Action"⟩, "login"⟩
    ⟨[⟨"User"⟩], [⟨"Client"⟩], ∅⟩ (by decide) (by decide)

def loginTo (client : String) : EvaluationRequest :=
  ⟨⟨"User", "alice", none⟩, ⟨"login"⟩, ⟨"Client", client, none⟩, none⟩

/-- A policy with the listed annotations. -/
def rule (id : PolicyId) (annotations : List (String × String)) (effect : Effect)
    (resource : Option EntityUid) : Policy Rule where
  id := id
  annotations := (annotations.map fun a => ⟨a.1, a.2⟩).toAList
  body := ⟨effect, resource⟩

/-! ## Policy files -/

def aClient : EntityUid := ⟨⟨"Client"⟩, "a-client"⟩

/-- Everybody may log in. -/
def permitAll : PolicySet Rule where
  policies := [rule "policy0" [("id", "allow-login")] .permit none]
  nodup := List.nodup_singleton _

/-- External logins to `a-client` need a second step. -/
def blockExternal : PolicySet Rule where
  policies := [
    rule "policy0" [("id", "block-external"), ("decision_context_step_up", "external-auth")] .forbid
      (some aClient),
    rule "policy1" [("id", "allow-login")] .permit none]
  nodup := by decide

/-- `blockExternal` behind a `forbid` for another client. -/
def blockMaintenance : PolicySet Rule where
  policies := [
    rule "policy0" [("id", "maintenance"), ("decision_context_step_up", "retry-later")] .forbid
      (some ⟨⟨"Client"⟩, "b-client"⟩),
    rule "policy1" [("id", "block-external"), ("decision_context_step_up", "external-auth")] .forbid
      (some aClient),
    rule "policy2" [("id", "allow-login")] .permit none]
  nodup := by decide

/-- `blockExternal`, its rule moved to another client. -/
def blockMoved : PolicySet Rule where
  policies := [
    rule "policy0" [("id", "block-external"), ("decision_context_step_up", "external-auth")] .forbid
      (some ⟨⟨"Client"⟩, "b-client"⟩),
    rule "policy1" [("id", "allow-login")] .permit none]
  nodup := by decide

/-- `blockExternal`, its rule renamed and without the second step. -/
def blockRenamed : PolicySet Rule where
  policies := [
    rule "policy0" [("id", "block-guests"), ("decision_context_step_up", "none")] .forbid (some aClient),
    rule "policy1" [("id", "allow-login")] .permit none]
  nodup := by decide

/-- A set that parses, with a priority that is no number. -/
def badPriority : PolicySet Rule where
  policies := [rule "policy0" [("id", "allow-login"), ("priority", "high")] .permit none]
  nodup := List.nodup_singleton _

def policyFiles : List (PolicySet Rule) :=
  [permitAll, blockExternal, blockMaintenance, blockMoved, blockRenamed, badPriority]

def files : PolicyApi Rule (Schema Ty) := knownSources _ policyFiles

theorem policyFiles_nodup : (policyFiles.map sourceText).Nodup := by decide +kernel

theorem fromStr_files {ps : PolicySet Rule} (h : ps ∈ policyFiles) :
    files.fromStr (sourceText ps) = .ok ps :=
  fromStr_sourceText policyFiles_nodup h _

theorem validates_permitAll (path : String) :
    Validates files loginSchema path (sourceText permitAll) permitAll :=
  validates_sourceText policyFiles_nodup (by simp [policyFiles]) rfl rfl path

theorem validates_blockExternal (path : String) :
    Validates files loginSchema path (sourceText blockExternal) blockExternal :=
  validates_sourceText policyFiles_nodup (by simp [policyFiles]) rfl rfl path

theorem validates_blockMaintenance (path : String) :
    Validates files loginSchema path (sourceText blockMaintenance) blockMaintenance :=
  validates_sourceText policyFiles_nodup (by simp [policyFiles]) rfl rfl path

theorem validates_blockMoved (path : String) :
    Validates files loginSchema path (sourceText blockMoved) blockMoved :=
  validates_sourceText policyFiles_nodup (by simp [policyFiles]) rfl rfl path

theorem validates_blockRenamed (path : String) :
    Validates files loginSchema path (sourceText blockRenamed) blockRenamed :=
  validates_sourceText policyFiles_nodup (by simp [policyFiles]) rfl rfl path

theorem blockExternal_ne_permitAll : sourceText blockExternal ≠ sourceText permitAll := by
  decide +kernel

theorem blockMaintenance_ne_blockExternal : sourceText blockMaintenance ≠ sourceText blockExternal := by
  decide +kernel

theorem blockMoved_ne_blockExternal : sourceText blockMoved ≠ sourceText blockExternal := by
  decide +kernel

theorem blockRenamed_ne_blockExternal : sourceText blockRenamed ≠ sourceText blockExternal := by
  decide +kernel

/-- The last file is rejected. -/
theorem not_accepted_badPriority (path : String) : ¬ Accepted files loginSchema path badPriority := by
  intro h
  have := (h.wellAnnotated _ (List.mem_singleton_self _)).priority
  exact absurd this (by decide)

end AuthzenPdp
