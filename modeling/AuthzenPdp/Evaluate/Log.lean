import AuthzenPdp.Evaluate.Order
import AuthzenPdp.Evaluate.Reject
import AuthzenPdp.Lib.Fields

/-!
# Reading the access record

The record of a call has the request as three texts, the decision, the names of the determining
policies joined by commas, and the policy of the context.

* `AccessLog.names`, `names_answer`: the names are read back;
* `AccessLog.replay`, `replay_answer`: the response, from the record and the set;
* **`outcome_replay`**: the record of every call of a server determines its response;
* `SameParties`, **`target_injective_iff`**: the schemas for which the three texts tell requests apart.
-/

namespace AuthzenPdp

open MinBy Fields Trans

variable {β τ ν ι : Type}

/-! ## The names -/

/-- **The record can tell the policies**: their display ids are distinct, not empty and free of
commas. -/
structure PolicySet.Named (ps : PolicySet β) : Prop where
  distinct : ∀ p ∈ ps.policies, ∀ q ∈ ps.policies, displayId p = displayId q → p = q
  nonempty : ∀ p ∈ ps.policies, displayId p ≠ ""
  comma : ∀ p ∈ ps.policies, ',' ∉ (displayId p).toList

/-- The names of the determining policies. -/
def AccessLog.names (log : AccessLog) : List String :=
  (split ',' log.determiningPolicies.toList).map String.ofList

/-- The ids of the policies with these names. -/
def AccessLog.ids (log : AccessLog) (ps : PolicySet β) : List PolicyId :=
  (ps.policies.filter fun p => decide (displayId p ∈ log.names)).map Policy.id

/-- The response that belongs to the record, with the errors of the evaluation. -/
def AccessLog.replay (log : AccessLog) (ps : PolicySet β) (errors : List String) :
    EvaluationResponse :=
  .withContext (.new (log.decision == "allow"))
    (buildResponseContext ((toDecisionContext ps (log.ids ps)).map DecisionContext.context)
      log.names errors)

theorem mem_resolveReason_iff {ps : PolicySet β} {ids : List PolicyId}
    (h : ∀ id ∈ ids, id ∈ ps.policies.map Policy.id) {name : String} :
    name ∈ resolveReason ids (some ps) ↔ ∃ p ∈ ids.filterMap ps.policy, displayId p = name := by
  rw [(resolveReason_perm h).mem_iff, List.mem_map]

theorem names_answer {ps : PolicySet β} (hps : ps.Named) {response : Response}
    (h : ∀ id ∈ response.reason, id ∈ ps.policies.map Policy.id) (target : LogTarget) :
    (answer target response (some ps)).2.names = resolveReason response.reason (some ps) := by
  have hmem : ∀ name ∈ resolveReason response.reason (some ps),
      ∃ p ∈ ps.policies, displayId p = name := by
    intro name hname
    obtain ⟨p, hp, rfl⟩ := (mem_resolveReason_iff h).mp hname
    exact ⟨p, (mem_determining_iff.mp hp).1, rfl⟩
  have hjoin : (answer target response (some ps)).2.determiningPolicies.toList =
      [','].intercalate ((resolveReason response.reason (some ps)).map String.toList) :=
    String.toList_intercalate
  rw [AccessLog.names, hjoin, split_intercalate, List.map_map]
  · exact List.map_id'' (fun _ => String.ofList_toList) _
  · intro hnil
    obtain ⟨name, hname, hempty⟩ := List.mem_map.mp hnil
    obtain ⟨p, hp, rfl⟩ := hmem name hname
    exact hps.nonempty p hp (String.toList_eq_nil_iff.mp hempty)
  · intro f hf
    obtain ⟨name, hname, rfl⟩ := List.mem_map.mp hf
    obtain ⟨p, hp, rfl⟩ := hmem name hname
    exact hps.comma p hp

/-- The record names the policies that determined the response. -/
theorem mem_determining_of_names {ps : PolicySet β} (hps : ps.Named) {log : AccessLog}
    {ids : List PolicyId} (h : ∀ id ∈ ids, id ∈ ps.policies.map Policy.id)
    (hnames : log.names = resolveReason ids (some ps)) {p : Policy β} :
    p ∈ (log.ids ps).filterMap ps.policy ↔ p ∈ ids.filterMap ps.policy := by
  have hids : (log.ids ps).filterMap ps.policy =
      ps.policies.filter fun p => decide (displayId p ∈ log.names) :=
    filterMap_policy_map_id fun p hp => (List.mem_filter.mp hp).1
  rw [hids, List.mem_filter, decide_eq_true_iff, hnames, mem_resolveReason_iff h]
  constructor
  · rintro ⟨hp, q, hq, hname⟩
    rwa [← hps.distinct q (mem_determining_iff.mp hq).1 p hp hname]
  · intro hp
    exact ⟨(mem_determining_iff.mp hp).1, p, hp, rfl⟩

/-- With distinct names, the selected policy depends on which policies there are only. -/
theorem winner_congr_of_named {ps : PolicySet β} (hps : ps.Named) {ids ids' : List PolicyId}
    (h : ∀ p, p ∈ ids.filterMap ps.policy ↔ p ∈ ids'.filterMap ps.policy) :
    winner ps ids = winner ps ids' := by
  cases hw : winner ps ids with
  | none =>
    have hnil : ids.filterMap ps.policy = [] := minBy_eq_none.mp hw
    refine (minBy_eq_none.mpr (List.eq_nil_iff_forall_not_mem.mpr fun p hp => ?_)).symm
    have hp' := (h p).mpr hp
    rw [hnil] at hp'
    cases hp'
  | some p =>
    have hp : LeastIn contextRank (ids.filterMap ps.policy) p := minBy_leastIn compareForContext_eq hw
    cases hw' : winner ps ids' with
    | none =>
      have hp' := (h p).mp hp.1
      rw [minBy_eq_none.mp hw'] at hp'
      cases hp'
    | some q =>
      have hq : LeastIn contextRank (ids'.filterMap ps.policy) q :=
        minBy_leastIn compareForContext_eq hw'
      have hq' : LeastIn contextRank (ids.filterMap ps.policy) q :=
        ⟨(h q).mpr hq.1, fun r hr => hq.2 r ((h r).mp hr)⟩
      have hname : displayId p = displayId q := congrArg (fun r => (ofLex r).2) (hp.key_eq hq')
      rw [hps.distinct p (winner_mem hw).1 q (winner_mem hw').1 hname]

/-- **The response is read off the record.** -/
theorem replay_answer {ps : PolicySet β} (hps : ps.Named) {response : Response}
    (h : ∀ id ∈ response.reason, id ∈ ps.policies.map Policy.id) (target : LogTarget) :
    (answer target response (some ps)).2.replay ps response.errors =
      (answer target response (some ps)).1 := by
  have hnames := names_answer hps h target
  have hwinner := winner_congr_of_named hps fun p =>
    mem_determining_of_names hps h hnames (p := p)
  have hdecision : ((answer target response (some ps)).2.decision == "allow") =
      (response.decision == .allow) := by
    change ((if response.decision == .allow then "allow" else "deny") == "allow") = _
    cases response.decision <;> rfl
  rw [AccessLog.replay, hnames, hdecision, toDecisionContext_eq, hwinner, ← toDecisionContext_eq]
  rfl

section Serve

variable [DecidableEq ι] {state : AppState β τ ν} {orders : ι → ReasonOrder}
  {api : PolicyApi β (Schema τ)} {policyPath : String} {bodies : ι → List UInt8}

/-- **The record of a call determines its response.** In every run of the server, the response of a
call is read off its record and the set that is live at its second read, when that set has all
policies that the authorizer has named. -/
theorem outcome_replay {file : File} {ls : List (ServerLabel ι)} {w : Server β ι}
    (h : run (serveAll state orders api policyPath bodies) (Server.boot file) ls = some w) {i : ι}
    {response : EvaluationResponse} {log : AccessLog} (hi : w.calls i = .done (.ok (response, log))) :
    ∃ ls₁ ls₂ ls₃ S₁ S₂ r, ls = ls₁ ++ .read i :: (ls₂ ++ .read i :: ls₃) ∧
      ServedAfter state orders api policyPath bodies file ls₁ S₁ ∧
      ServedAfter state orders api policyPath bodies file (ls₁ ++ .read i :: ls₂) S₂ ∧
      authorized (state.inOrder (orders i)) S₁ (bodies i) = .ok (log.target, r) ∧
      (S₂.Named → (∀ id ∈ r.reason, id ∈ S₂.policies.map Policy.id) →
        log.replay S₂ r.errors = response) := by
  obtain ⟨ls₁, ls₂, ls₃, S₁, S₂, hls, h₁, h₂, heq⟩ := outcome_eq_evaluate h hi
  obtain ⟨target, r, hauth, hout⟩ := evaluate_ok_iff.mp heq.symm
  cases hout
  exact ⟨ls₁, ls₂, ls₃, S₁, S₂, r, hls, h₁, h₂, hauth, fun hnamed hids => replay_answer hnamed hids target⟩

end Serve

/-! ## Two calls -/

theorem named_blockExternal : blockExternal.Named where
  distinct := List.inj_on_of_nodup_map (by decide)
  nonempty := by decide
  comma := by decide

/-- No other set is live while the two calls are answered. -/
theorem served_twoCalls {ls ls' : List (ServerLabel Bool)} {S : PolicySet Rule}
    (hls : startupSteps.map .sys ++ nestedReads = ls ++ ls')
    (h : ServedAfter loginPdp twoOrders files "policies.cedar" (fun _ => [])
      (.ok (sourceText blockExternal)) ls S) : S = blockExternal := by
  have hwrites : ∀ f, .sys (.write f) ∈ ls ++ ls' → f = .ok (sourceText blockExternal) := by
    rw [← hls]
    simp [startupSteps, nestedReads]
  obtain ⟨f, rfl, hread⟩ :=
    served_of_contents (F := fun f => f = .ok (sourceText blockExternal)) rfl hwrites h
  rw [providerRead, fromStr_files (by simp [policyFiles])] at hread
  exact (Except.ok.inj hread).symm

/-- The response of the outer call is read off its record. -/
theorem outcome_replay_outer : ∃ r,
    authorized (loginPdp.inOrder .given) blockExternal [] = .ok (blockedAnswer.2.target, r) ∧
      blockedAnswer.2.replay blockExternal r.errors = blockedAnswer.1 := by
  obtain ⟨w, hw, htrue, -⟩ := run_twoCalls
  obtain ⟨ls₁, ls₂, ls₃, S₁, S₂, r, hls, h₁, h₂, hauth, hreplay⟩ := outcome_replay hw htrue
  obtain rfl := served_twoCalls hls h₁
  obtain rfl := served_twoCalls (by rw [hls, List.append_assoc, List.cons_append]) h₂
  refine ⟨r, hauth, hreplay named_blockExternal fun id hid => ?_⟩
  obtain ⟨-, rfl⟩ := Prod.mk.inj (Except.ok.inj (authorized_blockExternal.symm.trans hauth))
  rw [List.mem_singleton.mp hid]
  exact List.mem_cons_self

/-! ## The texts of the request -/

/-- The text names an entity type of the schema. -/
def SpellsType (api : RequestApi τ ν) (schema : Schema τ) (s : String) : Prop :=
  ∃ t, api.typeNameFromStr s = .ok t ∧ t ∈ schema.entityTypes

/-- The two requests are of the same subject, action and resource. -/
structure SameParties (req req' : EvaluationRequest) : Prop where
  subject_type : req.subject.entityType = req'.subject.entityType
  subject_id : req.subject.id = req'.subject.id
  action : req.action.name = req'.action.name
  resource_type : req.resource.entityType = req'.resource.entityType
  resource_id : req.resource.id = req'.resource.id

/-- How the record begins for an entity of the type. -/
def typeMark (s : String) : List Char := s.toList ++ [':', ':']

theorem typeMark_inj {s s' : String} (h : typeMark s = typeMark s') : s = s' :=
  String.toList_inj.mp (List.append_cancel_right h)

theorem toList_target (s id : String) : (s ++ "::" ++ id).toList = typeMark s ++ id.toList := by
  rw [String.toList_append, String.toList_append]
  rfl

/-- The types of the schema, as the record begins with them. -/
def typeMarks (api : RequestApi τ ν) (schema : Schema τ) : Set (List Char) :=
  {l | ∃ s, SpellsType api schema s ∧ l = typeMark s}

theorem sameParties_of_target {api : RequestApi τ ν} {schema : Schema τ}
    (h : PrefixFree (typeMarks api schema)) {req req' : EvaluationRequest}
    (hs : SpellsType api schema req.subject.entityType)
    (hr : SpellsType api schema req.resource.entityType)
    (hs' : SpellsType api schema req'.subject.entityType)
    (hr' : SpellsType api schema req'.resource.entityType)
    (htarget : LogTarget.new req = LogTarget.new req') : SameParties req req' := by
  have hparty : ∀ {t id t' id' : String}, SpellsType api schema t → SpellsType api schema t' →
      t ++ "::" ++ id = t' ++ "::" ++ id' → t = t' ∧ id = id' := by
    intro t id t' id' ht ht' heq
    rw [← String.toList_inj, toList_target, toList_target] at heq
    obtain ⟨hmark, hid⟩ := append_inj_iff.mpr h _ ⟨t, ht, rfl⟩ _ ⟨t', ht', rfl⟩ _ _ heq
    exact ⟨typeMark_inj hmark, String.toList_inj.mp hid⟩
  obtain ⟨hst, hsi⟩ := hparty hs hs' (congrArg LogTarget.subject htarget)
  obtain ⟨hrt, hri⟩ := hparty hr hr' (congrArg LogTarget.resource htarget)
  exact ⟨hst, hsi, congrArg LogTarget.action htarget, hrt, hri⟩

/-- **Which requests the record tells apart**: for two requests on types of the schema, equal texts
mean the same subject, action and resource, iff no type, with `::` after it, begins another one. -/
theorem target_injective_iff {api : RequestApi τ ν} {schema : Schema τ} :
    (∀ req req' : EvaluationRequest,
      SpellsType api schema req.subject.entityType → SpellsType api schema req.resource.entityType →
      SpellsType api schema req'.subject.entityType → SpellsType api schema req'.resource.entityType →
      LogTarget.new req = LogTarget.new req' → SameParties req req') ↔
    PrefixFree (typeMarks api schema) := by
  constructor
  · refine fun h => append_inj_iff.mp ?_
    rintro _ ⟨s, hs, rfl⟩ _ ⟨s', hs', rfl⟩ r r' heq
    have htext : s ++ "::" ++ String.ofList r = s' ++ "::" ++ String.ofList r' := by
      rw [← String.toList_inj, toList_target, toList_target, String.toList_ofList,
        String.toList_ofList, heq]
    have hsame := h ⟨⟨s, String.ofList r, none⟩, ⟨""⟩, ⟨s, "", none⟩, none⟩
      ⟨⟨s', String.ofList r', none⟩, ⟨""⟩, ⟨s, "", none⟩, none⟩ hs hs hs' hs (by
        simp only [LogTarget.new, htext])
    exact ⟨congrArg typeMark hsame.subject_type, String.ofList_injective hsame.subject_id⟩
  · exact fun h req req' hs hr hs' hr' => sameParties_of_target h hs hr hs' hr'

/-- A type and a longer one below it. -/
example : LogTarget.new ⟨⟨"App", "User::alice", none⟩, ⟨"login"⟩, ⟨"Client", "a-client", none⟩, none⟩ =
    LogTarget.new ⟨⟨"App::User", "alice", none⟩, ⟨"login"⟩, ⟨"Client", "a-client", none⟩, none⟩ := by
  decide

end AuthzenPdp
