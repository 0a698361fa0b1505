import AuthzenPdp.Request.Schema

/-!
# Conversion of a request

`to_cedar` turns an AuthZEN request into a Cedar request and an entity store, in six fallible
steps: three uids, the context, the request, the entities. The Cedar constructors are the fields of
a `RequestApi`; `Lawful` states what they do for the inputs that `to_cedar` can hand them.

* `entityUid`, `entityJson`, `toCedar`, `ConversionError.code`;
* `RequestApi.Lawful`: the documented behaviour of the constructors;
* `entityUid_eq_ok_iff`, `contextOfRequest`, `entityEntries`: the steps of `to_cedar`;
* **`toCedar_eq_ok_iff`**: what a successful conversion has done.
-/

namespace AuthzenPdp

variable {τ ν : Type}

/-- The Cedar constructors that `to_cedar` calls, with a schema where it passes one, and the action
entities that a schema-checked parse adds to a store. -/
structure RequestApi (τ ν : Type) where
  typeNameFromStr : String → Except String EntityTypeName
  entityIdFromStr : String → Except String String
  contextFromJson : Value → Schema τ → EntityUid → Except String (Record ν)
  requestNew : EntityUid → EntityUid → EntityUid → Record ν → Schema τ → Except String (Request ν)
  entitiesFromJson : Value → Schema τ → Except String (Entities ν)
  actionEntities : Schema τ → Entities ν

inductive ConversionError where
  | entity (detail : String)
  | context (detail : String)
  | properties (detail : String)
  | request (detail : String)
  deriving DecidableEq

def ConversionError.text : ConversionError → String
  | .entity detail => "invalid entity reference: " ++ detail
  | .context detail => "invalid context: " ++ detail
  | .properties detail => "invalid properties: " ++ detail
  | .request detail => "invalid request: " ++ detail

def ConversionError.code : ConversionError → String
  | .entity _ => "invalid_entity"
  | .context _ => "invalid_context"
  | .properties _ => "invalid_properties"
  | .request _ => "invalid_request"

def entityUid (api : RequestApi τ ν) (entityType id : String) : Except ConversionError EntityUid := do
  let typeName ← (api.typeNameFromStr entityType).mapError fun e =>
    .entity ("type `" ++ entityType ++ "`: " ++ e)
  let entityId ← (api.entityIdFromStr id).mapError fun e => .entity ("id `" ++ id ++ "`: " ++ e)
  .ok ⟨typeName, entityId⟩

def entityJson (entityType id : String) (properties : Properties) : Value :=
  .object [
    ("uid", .object [("type", .string entityType), ("id", .string id)]),
    ("attrs", .object properties.fields),
    ("parents", .array [])]

/-- The context of a request whose action is `action`. -/
def contextOfRequest (api : RequestApi τ ν) (req : EvaluationRequest) (schema : Schema τ)
    (action : EntityUid) : Except ConversionError (Record ν) :=
  match req.context with
  | some value => (api.contextFromJson value schema action).mapError .context
  | none => .ok ∅

def toCedar (api : RequestApi τ ν) (req : EvaluationRequest) (schema : Schema τ) :
    Except ConversionError (Request ν × Entities ν) := do
  let principal ← entityUid api req.subject.entityType req.subject.id
  let action ← entityUid api "Action" req.action.name
  let resource ← entityUid api req.resource.entityType req.resource.id
  let context ← contextOfRequest api req schema action
  let request ← (api.requestNew principal action resource context schema).mapError .request
  let noProperties : Properties := ∅
  let subjectProps := req.subject.properties.getD noProperties
  let entitiesJson := [entityJson req.subject.entityType req.subject.id subjectProps]
  let entitiesJson := match req.resource.properties.filter fun p => !p.isEmpty with
    | some props => entitiesJson ++ [entityJson req.resource.entityType req.resource.id props]
    | none => entitiesJson
  let entities ← (api.entitiesFromJson (.array entitiesJson) schema).mapError .properties
  .ok (request, entities)

/-! ## What the constructors do -/

/-- An entity of the JSON entity format without parents: type text, id, attributes. -/
structure EntityEntry where
  typeText : String
  id : String
  attrs : Properties

/-- The JSON entity format. -/
def EntityEntry.json (e : EntityEntry) : Value :=
  .object [
    ("uid", .object [("type", .string e.typeText), ("id", .string e.id)]),
    ("attrs", .object e.attrs.fields),
    ("parents", .array [])]

/-- The entry denotes the entity `uid` with attributes `r`. -/
def EntityEntry.Reads (api : RequestApi τ ν) (T : Typing τ ν) (schema : Schema τ) (e : EntityEntry)
    (uid : EntityUid) (r : Record ν) : Prop :=
  api.typeNameFromStr e.typeText = .ok uid.typeName ∧ uid.id = e.id ∧
    ∃ d, schema.entityTypes.lookup uid.typeName = some d ∧ d.admits uid.id = true ∧
      readRecord T d.attrs e.attrs.fields = some r

/-- The store of a list of entities without parents, beside the action entities. -/
def storeOf (api : RequestApi τ ν) (schema : Schema τ) (l : List (EntityUid × Record ν)) :
    Entities ν :=
  l.foldr (fun e es => es.insert e.1 ⟨e.2, ∅⟩) (api.actionEntities schema)

/-- **The documented behaviour of the constructors.** An id is taken literally. A context needs a
declared action and an object of its context type; a request is checked against `appliesTo`, the
context type and the ids of enumerated types, but not against entity attributes; entities of
declared entity types need their attributes at their types, and two entries for one uid must be the
same entity. -/
structure RequestApi.Lawful (api : RequestApi τ ν) (T : Typing τ ν) : Prop where
  action_typeName : api.typeNameFromStr "Action" = .ok ⟨"Action"⟩
  entityId : ∀ id, api.entityIdFromStr id = .ok id
  context : ∀ v schema a r, api.contextFromJson v schema a = .ok r ↔
    ∃ d fields, schema.actions.lookup a = some d ∧ v = .object fields ∧
      readRecord T d.context fields = some r
  request : ∀ p a r ctx schema q, api.requestNew p a r ctx schema = .ok q ↔
    q = ⟨p, a, r, ctx⟩ ∧ schema.Applies T q ∧ schema.Admits p ∧ schema.Admits r
  entities : ∀ schema (l : List EntityEntry),
    (∀ e ∈ l, ∃ t, api.typeNameFromStr e.typeText = .ok t ∧ t ∈ schema.entityTypes) → ∀ es,
    (api.entitiesFromJson (.array (l.map EntityEntry.json)) schema = .ok es ↔
      ∃ rs, List.Forall₂ (fun e x => e.Reads api T schema x.1 x.2) l rs ∧
        (∀ x ∈ rs, ∀ y ∈ rs, x.1 = y.1 → x.2 = y.2) ∧ es = storeOf api schema rs)
  action_entities : ∀ schema uid, uid ∈ api.actionEntities schema → uid ∈ schema.actions

/-! ## The steps of `to_cedar` -/

/-- The properties of the subject, empty when absent. -/
def subjectProps (req : EvaluationRequest) : Properties := req.subject.properties.getD ∅

/-- The properties of the resource, empty when absent. -/
def resourceProps (req : EvaluationRequest) : Properties := req.resource.properties.getD ∅

/-- The entries handed to Cedar: the subject, and the resource when it has properties. -/
def entityEntries (req : EvaluationRequest) : List EntityEntry :=
  ⟨req.subject.entityType, req.subject.id, subjectProps req⟩ ::
    if (resourceProps req).isEmpty then []
    else [⟨req.resource.entityType, req.resource.id, resourceProps req⟩]

theorem mem_entityEntries_iff {req : EvaluationRequest} {e : EntityEntry} :
    e ∈ entityEntries req ↔ e = ⟨req.subject.entityType, req.subject.id, subjectProps req⟩ ∨
      (resourceProps req).isEmpty = false ∧
        e = ⟨req.resource.entityType, req.resource.id, resourceProps req⟩ := by
  rw [entityEntries, List.mem_cons]
  split_ifs with h
  · simp [h]
  · simp [h]

theorem entityJson_eq (entityType id : String) (properties : Properties) :
    entityJson entityType id properties = EntityEntry.json ⟨entityType, id, properties⟩ := rfl

theorem entityUid_eq_ok_iff {api : RequestApi τ ν} (h : ∀ id, api.entityIdFromStr id = .ok id)
    {entityType id : String} {uid : EntityUid} :
    entityUid api entityType id = .ok uid ↔
      api.typeNameFromStr entityType = .ok uid.typeName ∧ uid.id = id := by
  unfold entityUid
  simp only [bind_eq_ok, mapError_eq_ok, h]
  constructor
  · rintro ⟨t, ht, i, hi, hu⟩
    cases hi
    cases hu
    exact ⟨ht, rfl⟩
  · rintro ⟨ht, rfl⟩
    exact ⟨_, ht, _, rfl, rfl⟩

theorem entitiesJson_eq (req : EvaluationRequest) :
    (match req.resource.properties.filter fun p => !p.isEmpty with
      | some props => [entityJson req.subject.entityType req.subject.id (subjectProps req)] ++
          [entityJson req.resource.entityType req.resource.id props]
      | none => [entityJson req.subject.entityType req.subject.id (subjectProps req)]) =
      (entityEntries req).map EntityEntry.json := by
  unfold entityEntries resourceProps
  cases req.resource.properties with
  | none => rfl
  | some p =>
    cases hp : p.isEmpty with
    | true => simp [Option.filter, hp, entityJson_eq]
    | false => simp [Option.filter, hp, entityJson_eq]

/-- `to_cedar` over the entries that it hands to Cedar. -/
theorem toCedar_eq (api : RequestApi τ ν) (req : EvaluationRequest) (schema : Schema τ) :
    toCedar api req schema = (do
      let principal ← entityUid api req.subject.entityType req.subject.id
      let action ← entityUid api "Action" req.action.name
      let resource ← entityUid api req.resource.entityType req.resource.id
      let context ← contextOfRequest api req schema action
      let request ← (api.requestNew principal action resource context schema).mapError .request
      let entities ← (api.entitiesFromJson
        (.array ((entityEntries req).map EntityEntry.json)) schema).mapError .properties
      .ok (request, entities)) := by
  rw [← entitiesJson_eq]
  rfl

/-- **What a successful conversion has done**, step by step. -/
theorem toCedar_eq_ok_iff {api : RequestApi τ ν} {T : Typing τ ν} (h : api.Lawful T)
    {req : EvaluationRequest} {schema : Schema τ} {q : Request ν} {es : Entities ν} :
    toCedar api req schema = .ok (q, es) ↔
      api.typeNameFromStr req.subject.entityType = .ok q.principal.typeName ∧
      q.principal.id = req.subject.id ∧ q.action = ⟨⟨"Action"⟩, req.action.name⟩ ∧
      api.typeNameFromStr req.resource.entityType = .ok q.resource.typeName ∧
      q.resource.id = req.resource.id ∧
      contextOfRequest api req schema q.action = .ok q.context ∧
      (schema.Applies T q ∧ schema.Admits q.principal ∧ schema.Admits q.resource) ∧
      api.entitiesFromJson (.array ((entityEntries req).map EntityEntry.json)) schema = .ok es := by
  rw [toCedar_eq]
  simp only [bind_eq_ok, mapError_eq_ok, entityUid_eq_ok_iff h.entityId, h.action_typeName, h.request,
    Except.ok.injEq, Prod.mk.injEq]
  constructor
  · rintro ⟨p, ⟨hp, hpi⟩, a, ⟨ha, hai⟩, r, ⟨hr, hri⟩, ctx, hctx, q', ⟨rfl, hq⟩, es', hes, rfl, rfl⟩
    have ha' : a = ⟨⟨"Action"⟩, req.action.name⟩ := EntityUid.ext ha.symm hai
    exact ⟨hp, hpi, ha', hr, hri, hctx, hq, hes⟩
  · rintro ⟨hp, hpi, ha, hr, hri, hctx, hq, hes⟩
    refine ⟨q.principal, ⟨hp, hpi⟩, q.action, by rw [ha]; exact ⟨rfl, rfl⟩, q.resource, ⟨hr, hri⟩,
      q.context, hctx, q, ⟨rfl, hq⟩, es, hes, rfl, rfl⟩

end AuthzenPdp
