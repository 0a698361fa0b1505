import AuthzenPdp.Request.Reference
import Mathlib.Logic.Relation

/-!
# The JSON entity format

How Cedar reads any JSON array of entities, whoever wrote it: `uid`, `attrs` and `parents` are
fields at the top of each object, and the ancestors in the store are the transitive closure of the
parents.

* `readUid`, `topField`, `Denotes`: a JSON value as an entity;
* `HasParent`: the parents that the entities and the schema name;
* `RequestApi.ReadsJson`: what the constructors do with arbitrary JSON;
* **`reference_readsJson`**: the executable constructors meet it.
-/

namespace AuthzenPdp

variable {τ ν : Type}

/-- The fields `type` and `id`. -/
def typeAndId (fields : List (String × Value)) : Option (String × String) :=
  match fields.lookup "type", fields.lookup "id" with
  | some (.string typeText), some (.string id) => some (typeText, id)
  | _, _ => none

/-- A uid may stand behind the escape `__entity`. -/
def unescape (fields : List (String × Value)) : List (String × Value) :=
  match fields.lookup "__entity" with
  | some (.object escaped) => escaped
  | _ => fields

def readUid (api : RequestApi τ ν) : Value → Option EntityUid
  | .object fields =>
    (typeAndId (unescape fields)).bind fun (typeText, id) =>
      (api.typeNameFromStr typeText).toOption.map fun typeName => ⟨typeName, id⟩
  | _ => none

/-- A field at the top of a JSON object. -/
def topField (key : String) : Value → Option Value
  | .object fields => fields.lookup key
  | _ => none

/-- An entity as a JSON value gives it. -/
structure ParsedEntity (ν : Type) where
  uid : EntityUid
  attrs : Record ν
  parents : List EntityUid

/-- The JSON value is the entity `x`; attributes are read at its entity type. -/
structure Denotes (api : RequestApi τ ν) (T : Typing τ ν) (schema : Schema τ) (v : Value)
    (x : ParsedEntity ν) : Prop where
  uid : (topField "uid" v).bind (readUid api) = some x.uid
  attrs : ∃ fields, topField "attrs" v = some (.object fields) ∧
    ∀ d, schema.entityTypes.lookup x.uid.typeName = some d →
      readRecord T d.attrs fields = some x.attrs
  parents : ∃ vs, topField "parents" v = some (.array vs) ∧ vs.mapM (readUid api) = some x.parents

/-- `u` is given the parent `w`, by an entity of the JSON text or by the schema. -/
def HasParent (api : RequestApi τ ν) (schema : Schema τ) (l : List (ParsedEntity ν))
    (u w : EntityUid) : Prop :=
  (∃ x ∈ l, x.uid = u ∧ w ∈ x.parents) ∨
    ∃ e, (api.actionEntities schema).lookup u = some e ∧ w ∈ e.parents

/-- **The constructors on arbitrary JSON.** Ids are taken literally; a request has the given parts
and conforms to the schema; a store holds what the array denotes, with all ancestors, and beside it
only action entities. -/
structure RequestApi.ReadsJson (api : RequestApi τ ν) (T : Typing τ ν) : Prop where
  action_typeName : api.typeNameFromStr "Action" = .ok ⟨"Action"⟩
  entityId : ∀ id, api.entityIdFromStr id = .ok id
  request : ∀ p a r ctx schema q, api.requestNew p a r ctx schema = .ok q →
    q = ⟨p, a, r, ctx⟩ ∧ schema.Applies T q
  entities : ∀ v schema es, api.entitiesFromJson v schema = .ok es → ∃ vs l, v = .array vs ∧
    List.Forall₂ (Denotes api T schema) vs l ∧
    (∀ x ∈ l, ∃ e, es.lookup x.uid = some e ∧ e.attrs = x.attrs ∧
      ∀ u, u ∈ e.parents ↔ Relation.TransGen (HasParent api schema l) x.uid u) ∧
    ∀ uid ∈ es, uid ∈ schema.actions ∨ ∃ x ∈ l, x.uid = uid
  action_entities : ∀ schema uid, uid ∈ api.actionEntities schema → uid ∈ schema.actions

/-! ## The executable constructors -/

theorem readUid_eq (api : RequestApi τ ν) (typeText id : String) :
    readUid api (.object [("type", .string typeText), ("id", .string id)]) =
      (api.typeNameFromStr typeText).toOption.map fun typeName => ⟨typeName, id⟩ := rfl

theorem decodeEntry_eq_some_iff {v : Value} {t i : String} {fields : List (String × Value)} :
    decodeEntry v = some (t, i, fields) ↔ v = .object [
      ("uid", .object [("type", .string t), ("id", .string i)]), ("attrs", .object fields),
      ("parents", .array [])] := by
  constructor
  · intro h
    unfold decodeEntry at h
    split at h
    · cases h
      rfl
    · cases h
  · rintro rfl
    rfl

/-- An entry that is read denotes a parentless entity. -/
theorem denotes_of_readEntry {schema : Schema Ty} {v : Value} {x : EntityUid × Record Prim}
    (h : readEntry schema v = some x) : Denotes reference prims schema v ⟨x.1, x.2, []⟩ := by
  simp only [readEntry, Option.bind_eq_bind, Option.bind_eq_some_iff] at h
  obtain ⟨⟨t, i, fields⟩, hdec, d, hd, r, hr, h⟩ := h
  split_ifs at h with hc
  rw [Bool.and_eq_true] at hc
  cases h
  obtain rfl := decodeEntry_eq_some_iff.mp hdec
  have ht : reference.typeNameFromStr t = .ok ⟨t⟩ := typeNameFromStr_reference.mpr ⟨hc.1, rfl⟩
  refine ⟨?_, ⟨fields, rfl, fun d' hd' => ?_⟩, [], rfl, rfl⟩
  · change readUid reference (.object [("type", .string t), ("id", .string i)]) = _
    rw [readUid_eq, ht]
    rfl
  · rw [hd] at hd'
    cases hd'
    exact hr

theorem lookup_actionStore {schema : Schema Ty} {uid : EntityUid} {e : Entity Prim}
    (h : (actionStore schema).lookup uid = some e) : e.parents = ∅ := by
  have hl : ∀ l : List EntityUid, (l.foldr
      (fun a (es : Entities Prim) => es.insert a ⟨∅, ∅⟩) ∅).lookup uid = some e → e.parents = ∅ := by
    intro l
    induction l with
    | nil => intro h; cases h
    | cons a l ih =>
      intro h
      by_cases ha : uid = a
      · subst ha
        rw [List.foldr_cons, Finmap.lookup_insert, Option.some.injEq] at h
        rw [← h]
      · rw [List.foldr_cons, Finmap.lookup_insert_of_ne _ ha] at h
        exact ih h
  exact hl _ h

/-- **The executable constructors read JSON as documented.** -/
theorem reference_readsJson : reference.ReadsJson prims where
  action_typeName := reference_lawful.action_typeName
  entityId := reference_lawful.entityId
  request p a r ctx schema q h := by
    obtain ⟨hq, happ, -⟩ := (reference_lawful.request _ _ _ _ _ _).mp h
    exact ⟨hq, happ⟩
  entities v schema es h := by
    obtain ⟨vs, rs, rfl, hrs, hc, rfl⟩ := entitiesFromJson_reference.mp h
    refine ⟨vs, rs.map fun x => ⟨x.1, x.2, []⟩, rfl, ?_, fun y hy => ?_, fun uid hu => ?_⟩
    · rw [List.forall₂_map_right_iff]
      exact hrs.imp fun _ _ => denotes_of_readEntry
    · obtain ⟨x, hx, rfl⟩ := List.mem_map.mp hy
      refine ⟨_, lookup_storeOf_mem hc hx, rfl, fun u => iff_of_false (Finset.notMem_empty u) ?_⟩
      intro hu
      obtain ⟨w, hw, -⟩ := Relation.TransGen.head'_iff.mp hu
      rcases hw with ⟨y, hy, -, hw⟩ | ⟨e, he, hw⟩
      · obtain ⟨z, -, rfl⟩ := List.mem_map.mp hy
        cases hw
      · rw [lookup_actionStore he] at hw
        exact Finset.notMem_empty w hw
    · by_cases hx : ∃ x ∈ rs, x.1 = uid
      · obtain ⟨x, hx, rfl⟩ := hx
        exact .inr ⟨_, List.mem_map_of_mem hx, rfl⟩
      · obtain ⟨e, he⟩ := Finmap.mem_iff.mp hu
        rw [lookup_storeOf_notMem fun x hx' e => hx ⟨x, hx', e⟩] at he
        exact .inl (mem_actionStore (Finmap.mem_of_lookup_eq_some he))
  action_entities _ _ h := mem_actionStore h

end AuthzenPdp
