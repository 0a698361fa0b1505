import AuthzenPdp.Request.Optional

/-!
# What becomes of a request

`to_cedar` checks a request in four stages and reports the first that fails: the entity types, the
context, the request, the properties.

* `Denoted`, `ContextReads`, `RequestFits`, `PropertiesFit`: what each stage asks of the request and the
  schema;
* `Judges`: the verdict, by the first stage that fails;
* `codeOf`: the verdict of a conversion;
* `contextOfRequest_ok_iff`, `applies_iff_requestFits`, `exists_entities_iff_fit`: the stages as the
  constructors check them;
* **`judges_iff`**: the verdict of `to_cedar` on every request.
-/

namespace AuthzenPdp

variable {τ ν : Type}

section Stages

variable (api : RequestApi τ ν) (T : Typing τ ν) (schema : Schema τ) (req : EvaluationRequest)

/-- Subject and resource denote the entities `p` and `r`. -/
structure Denoted (p r : EntityUid) : Prop where
  subject_type : api.typeNameFromStr req.subject.entityType = .ok p.typeName
  subject_id : p.id = req.subject.id
  resource_type : api.typeNameFromStr req.resource.entityType = .ok r.typeName
  resource_id : r.id = req.resource.id

/-- The action of the request. -/
def actionUid : EntityUid := ⟨⟨"Action"⟩, req.action.name⟩

/-- A context that is there is an object of the context type of a declared action. -/
def ContextReads : Prop :=
  ∀ v, req.context = some v → ∃ d fields ctx, schema.actions.lookup (actionUid req) = some d ∧
    v = .object fields ∧ readRecord T d.context fields = some ctx

/-- The action is declared and applies to both types, which admit the ids, and a context that is not
there is not missed. -/
def RequestFits (p r : EntityUid) : Prop :=
  (∃ d, schema.actions.lookup (actionUid req) = some d ∧ p.typeName ∈ d.principalTypes ∧
    r.typeName ∈ d.resourceTypes ∧
      (req.context = none → ∀ k a, d.context.lookup k = some a → a.required = false)) ∧
  schema.Admits p ∧ schema.Admits r

/-- The properties read at the entity types, those of the resource when there are any, and as the same
attributes when both are one entity. -/
def PropertiesFit (p r : EntityUid) : Prop :=
  ∃ rp, AttrsRead T schema p (subjectProps req) rp ∧ ((resourceProps req).isEmpty = true ∨
    ∃ rr, AttrsRead T schema r (resourceProps req) rr ∧ (p = r → rp = rr))

/-- **The verdict on a request**: no code when all stages pass, else the code of the first that
fails. -/
inductive Judges : Option String → Prop where
  | entity (h : ¬ NamesTypes api req) : Judges (some "invalid_entity")
  | context {p r : EntityUid} (h : Denoted api req p r) (hc : ¬ ContextReads T schema req) :
      Judges (some "invalid_context")
  | request {p r : EntityUid} (h : Denoted api req p r) (hc : ContextReads T schema req)
      (hq : ¬ RequestFits schema req p r) : Judges (some "invalid_request")
  | properties {p r : EntityUid} (h : Denoted api req p r) (hc : ContextReads T schema req)
      (hq : RequestFits schema req p r) (hp : ¬ PropertiesFit T schema req p r) :
      Judges (some "invalid_properties")
  | converted {p r : EntityUid} (h : Denoted api req p r) (hc : ContextReads T schema req)
      (hq : RequestFits schema req p r) (hp : PropertiesFit T schema req p r) : Judges none

end Stages

/-- The code of a conversion that fails. -/
def codeOf {α : Type} : Except ConversionError α → Option String
  | .ok _ => none
  | .error e => some e.code

variable {api : RequestApi τ ν} {T : Typing τ ν} {schema : Schema τ} {req : EvaluationRequest}
  {p r : EntityUid}

/-! ## The stages -/

theorem exists_denoted (h : NamesTypes api req) : ∃ p r, Denoted api req p r := by
  obtain ⟨⟨tp, hp⟩, tr, hr⟩ := h
  exact ⟨⟨tp, req.subject.id⟩, ⟨tr, req.resource.id⟩, hp, rfl, hr, rfl⟩

theorem entityUid_error {entityType : String} (h : ∀ t, api.typeNameFromStr entityType ≠ .ok t)
    (id : String) : ∃ e, entityUid api entityType id = .error (.entity e) := by
  cases ht : api.typeNameFromStr entityType with
  | ok t => exact absurd ht (h t)
  | error e =>
    refine ⟨"type `" ++ entityType ++ "`: " ++ e, ?_⟩
    rw [entityUid, ht]
    rfl

theorem Denoted.uids (h : api.Lawful T) (hd : Denoted api req p r) :
    entityUid api req.subject.entityType req.subject.id = .ok p ∧
      entityUid api "Action" req.action.name = .ok (actionUid req) ∧
      entityUid api req.resource.entityType req.resource.id = .ok r :=
  ⟨(entityUid_eq_ok_iff h.entityId).mpr ⟨hd.subject_type, hd.subject_id⟩,
    (entityUid_eq_ok_iff h.entityId).mpr ⟨h.action_typeName, rfl⟩,
    (entityUid_eq_ok_iff h.entityId).mpr ⟨hd.resource_type, hd.resource_id⟩⟩

theorem contextOfRequest_ok_iff (h : api.Lawful T) :
    (∃ ctx, contextOfRequest api req schema (actionUid req) = .ok ctx) ↔ ContextReads T schema req := by
  unfold contextOfRequest ContextReads
  cases req.context with
  | none => simp
  | some v =>
    simp only [mapError_eq_ok, h.context, Option.some.injEq, forall_eq']
    constructor
    · rintro ⟨ctx, d, fields, hd, hv, hr⟩
      exact ⟨d, fields, ctx, hd, hv, hr⟩
    · rintro ⟨d, fields, ctx, hd, hv, hr⟩
      exact ⟨ctx, d, fields, hd, hv, hr⟩

theorem contextOfRequest_error {a : EntityUid}
    (h : ¬ ∃ ctx, contextOfRequest api req schema a = .ok ctx) :
    ∃ e, contextOfRequest api req schema a = .error (.context e) := by
  cases hreq : req.context with
  | none => exact absurd ⟨∅, by rw [contextOfRequest, hreq]⟩ h
  | some v =>
    simp only [contextOfRequest, hreq] at h ⊢
    cases hv : api.contextFromJson v schema a with
    | ok ctx => exact absurd ⟨ctx, mapError_eq_ok.mpr hv⟩ h
    | error e => exact ⟨e, rfl⟩

/-- With the context that was read, the request conforms iff it fits. -/
theorem applies_iff_requestFits (h : api.Lawful T) {ctx : Record ν}
    (hctx : contextOfRequest api req schema (actionUid req) = .ok ctx) :
    (schema.Applies T ⟨p, actionUid req, r, ctx⟩ ∧ schema.Admits p ∧ schema.Admits r) ↔
      RequestFits schema req p r := by
  refine and_congr_left fun _ => exists_congr fun d => and_congr_right fun hd =>
    and_congr_right fun _ => and_congr_right fun _ => ?_
  unfold contextOfRequest at hctx
  cases hv : req.context with
  | none =>
    rw [hv] at hctx
    cases hctx
    rw [conforms_empty, hasRequired_empty_iff]
    exact ⟨fun hr _ => hr, fun hr => hr rfl⟩
  | some v =>
    rw [hv] at hctx
    obtain ⟨d', fields, hd', -, hr⟩ := (h.context _ _ _ _).mp (mapError_eq_ok.mp hctx)
    obtain rfl := Option.some.inj (hd.symm.trans hd')
    exact iff_of_true (readRecord_conforms hr) nofun

theorem exists_entities_iff_fit (h : api.Lawful T) (hd : Denoted api req p r) (hp : schema.Admits p)
    (hr : schema.Admits r) :
    (∃ es, api.entitiesFromJson (.array ((entityEntries req).map EntityEntry.json)) schema = .ok es) ↔
      PropertiesFit T schema req p r := by
  simp only [entities_ok_iff h hp hr hd.subject_type hd.subject_id hd.resource_type hd.resource_id]
  unfold PropertiesFit
  rw [exists_comm]
  refine exists_congr fun rp => ?_
  rw [exists_and_left]
  refine and_congr_right fun _ => ?_
  by_cases hemp : (resourceProps req).isEmpty = true
  · simp [hemp]
  · simp only [if_neg hemp, or_iff_right hemp]
    constructor
    · rintro ⟨es, rr, hrr, hsame, -⟩
      exact ⟨rr, hrr, hsame⟩
    · rintro ⟨rr, hrr, hsame⟩
      exact ⟨_, rr, hrr, hsame, rfl⟩

/-- Without a request. -/
theorem requestNew_error {a : EntityUid} {ctx : Record ν}
    (h : ¬ ∃ q, api.requestNew p a r ctx schema = .ok q) :
    ∃ e, api.requestNew p a r ctx schema = .error e := by
  cases hq : api.requestNew p a r ctx schema with
  | ok q => exact absurd ⟨q, hq⟩ h
  | error e => exact ⟨e, rfl⟩

theorem entitiesFromJson_error {v : Value} (h : ¬ ∃ es, api.entitiesFromJson v schema = .ok es) :
    ∃ e, api.entitiesFromJson v schema = .error e := by
  cases hes : api.entitiesFromJson v schema with
  | ok es => exact absurd ⟨es, hes⟩ h
  | error e => exact ⟨e, rfl⟩

theorem requestNew_ok_iff (h : api.Lawful T) {ctx : Record ν}
    (hctx : contextOfRequest api req schema (actionUid req) = .ok ctx) :
    (∃ q, api.requestNew p (actionUid req) r ctx schema = .ok q) ↔ RequestFits schema req p r := by
  simp only [h.request, exists_eq_left, ← applies_iff_requestFits h hctx]

/-! ## The verdict -/

/-- The stages after the uids. -/
theorem Denoted.toCedar_eq (h : api.Lawful T) (hd : Denoted api req p r) :
    toCedar api req schema = (do
      let context ← contextOfRequest api req schema (actionUid req)
      let request ← (api.requestNew p (actionUid req) r context schema).mapError .request
      let entities ← (api.entitiesFromJson
        (.array ((entityEntries req).map EntityEntry.json)) schema).mapError .properties
      .ok (request, entities)) := by
  obtain ⟨hp, ha, hr⟩ := hd.uids h
  rw [AuthzenPdp.toCedar_eq, hp, ha, hr]
  rfl

theorem codeOf_toCedar_entity (h : api.Lawful T) (hn : ¬ NamesTypes api req) :
    codeOf (toCedar api req schema) = some "invalid_entity" := by
  rw [toCedar_eq]
  by_cases hp : ∃ t, api.typeNameFromStr req.subject.entityType = .ok t
  · have hr : ∀ t, api.typeNameFromStr req.resource.entityType ≠ .ok t := fun t ht => hn ⟨hp, t, ht⟩
    obtain ⟨t, ht⟩ := hp
    have hsubject : entityUid api req.subject.entityType req.subject.id = .ok ⟨t, req.subject.id⟩ :=
      (entityUid_eq_ok_iff h.entityId).mpr ⟨ht, rfl⟩
    have haction : entityUid api "Action" req.action.name = .ok (actionUid req) :=
      (entityUid_eq_ok_iff h.entityId).mpr ⟨h.action_typeName, rfl⟩
    obtain ⟨e, he⟩ := entityUid_error hr req.resource.id
    rw [hsubject, haction, he]
    rfl
  · obtain ⟨e, he⟩ := entityUid_error (fun t ht => hp ⟨t, ht⟩) req.subject.id
    rw [he]
    rfl

theorem codeOf_toCedar_context (h : api.Lawful T) (hd : Denoted api req p r)
    (hc : ¬ ContextReads T schema req) : codeOf (toCedar api req schema) = some "invalid_context" := by
  obtain ⟨e, he⟩ := contextOfRequest_error (mt (contextOfRequest_ok_iff h).mp hc)
  rw [hd.toCedar_eq h, he]
  rfl

theorem codeOf_toCedar_request (h : api.Lawful T) (hd : Denoted api req p r)
    (hc : ContextReads T schema req) (hq : ¬ RequestFits schema req p r) :
    codeOf (toCedar api req schema) = some "invalid_request" := by
  obtain ⟨ctx, hctx⟩ := (contextOfRequest_ok_iff h).mpr hc
  obtain ⟨e, he⟩ := requestNew_error (mt (requestNew_ok_iff h hctx).mp hq)
  rw [hd.toCedar_eq h, hctx]
  simp only [bind, Except.bind, he]
  rfl

/-- The stages before the properties are passed. -/
theorem codeOf_toCedar_fits (h : api.Lawful T) (hd : Denoted api req p r)
    (hc : ContextReads T schema req) (hq : RequestFits schema req p r) :
    codeOf (toCedar api req schema) = codeOf ((api.entitiesFromJson
      (.array ((entityEntries req).map EntityEntry.json)) schema).mapError .properties) := by
  obtain ⟨ctx, hctx⟩ := (contextOfRequest_ok_iff h).mpr hc
  obtain ⟨q, hnew⟩ := (requestNew_ok_iff h hctx).mpr hq
  rw [hd.toCedar_eq h, hctx]
  simp only [bind, Except.bind, hnew]
  cases api.entitiesFromJson (.array ((entityEntries req).map EntityEntry.json)) schema <;> rfl

/-- Each verdict is that of `to_cedar`. -/
theorem codeOf_toCedar (h : api.Lawful T) {verdict : Option String}
    (hj : Judges api T schema req verdict) : codeOf (toCedar api req schema) = verdict := by
  cases hj with
  | entity hn => exact codeOf_toCedar_entity h hn
  | context hd hc => exact codeOf_toCedar_context h hd hc
  | request hd hc hq => exact codeOf_toCedar_request h hd hc hq
  | properties hd hc hq hp =>
    obtain ⟨e, he⟩ := entitiesFromJson_error (mt (exists_entities_iff_fit h hd hq.2.1 hq.2.2).mp hp)
    rw [codeOf_toCedar_fits h hd hc hq, he]
    rfl
  | converted hd hc hq hp =>
    obtain ⟨es, hes⟩ := (exists_entities_iff_fit h hd hq.2.1 hq.2.2).mpr hp
    rw [codeOf_toCedar_fits h hd hc hq, hes]
    rfl

/-- Each request has a verdict. -/
theorem exists_judges (api : RequestApi τ ν) (T : Typing τ ν) (schema : Schema τ)
    (req : EvaluationRequest) : ∃ verdict, Judges api T schema req verdict := by
  by_cases hn : NamesTypes api req
  · obtain ⟨p, r, hd⟩ := exists_denoted hn
    by_cases hc : ContextReads T schema req
    · by_cases hq : RequestFits schema req p r
      · by_cases hp : PropertiesFit T schema req p r
        · exact ⟨_, .converted hd hc hq hp⟩
        · exact ⟨_, .properties hd hc hq hp⟩
      · exact ⟨_, .request hd hc hq⟩
    · exact ⟨_, .context hd hc⟩
  · exact ⟨_, .entity hn⟩

theorem judges_codeOf (h : api.Lawful T) (schema : Schema τ) (req : EvaluationRequest) :
    Judges api T schema req (codeOf (toCedar api req schema)) := by
  obtain ⟨verdict, hj⟩ := exists_judges api T schema req
  rwa [codeOf_toCedar h hj]

/-- **The verdict on every request**: `to_cedar` fails with the code of the first stage that the
request does not pass, and converts the request when there is none. -/
theorem judges_iff (h : api.Lawful T) {verdict : Option String} :
    Judges api T schema req verdict ↔ codeOf (toCedar api req schema) = verdict := by
  constructor
  · exact codeOf_toCedar h
  · rintro rfl
    exact judges_codeOf h schema req

/-- Without its required context, a login fails at the request; with an empty one, at the context. -/
theorem judges_iff_route :
    Judges reference prims (routeSchema true) ((routeRequest "login").withMembers leftOut)
      (some "invalid_request") ∧
    Judges reference prims (routeSchema true) ((routeRequest "login").withMembers emptyContext)
      (some "invalid_context") :=
  ⟨(judges_iff reference_lawful).mpr rfl, (judges_iff reference_lawful).mpr rfl⟩

end AuthzenPdp
