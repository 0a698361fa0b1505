import AuthzenPdp.Request.Format

/-!
# Identity-faithful conversion

The uid of an entity reaches Cedar twice: parsed by `entity_uid` for the request, and written into a
JSON text by `entity_json` for the store, next to properties that the caller chooses.

* `jsonUid`, `jsonUid_entityJson`: both encodings name the same uid, for every id and all properties;
* `denotes_entityJson`: what Cedar reads of an entry of `to_cedar`;
* `StoredExactly`, `IdentityFaithful`: the properties as attributes, and nothing else;
* **`toCedar_identityFaithful`**: every successful conversion is faithful;
* `toCedar_identityFaithful_splice`: properties named like the fields of the entity format.
-/

namespace AuthzenPdp

variable {τ ν : Type} {api : RequestApi τ ν} {T : Typing τ ν} {schema : Schema τ}

/-- The uid of a JSON entity. -/
def jsonUid (api : RequestApi τ ν) (v : Value) : Option EntityUid :=
  (topField "uid" v).bind (readUid api)

/-- The store holds `uid` without parents, with exactly these properties as attributes. -/
def StoredExactly (T : Typing τ ν) (schema : Schema τ) (es : Entities ν) (uid : EntityUid)
    (m : Properties) : Prop :=
  ∃ d e, schema.entityTypes.lookup uid.typeName = some d ∧ es.lookup uid = some e ∧
    HoldsExactly T d.attrs m e.attrs ∧ e.parents = ∅

/-- **The conversion is faithful to the identities in the request**: its uids are those that the
request names, and beside action entities the store holds the subject with its properties, the
resource with its properties when there are any, and nothing else. -/
structure IdentityFaithful (api : RequestApi τ ν) (T : Typing τ ν) (schema : Schema τ)
    (req : EvaluationRequest) (q : Request ν) (es : Entities ν) : Prop where
  principal : api.typeNameFromStr req.subject.entityType = .ok q.principal.typeName ∧
    q.principal.id = req.subject.id
  action : q.action = ⟨⟨"Action"⟩, req.action.name⟩
  resource : api.typeNameFromStr req.resource.entityType = .ok q.resource.typeName ∧
    q.resource.id = req.resource.id
  subject_stored : StoredExactly T schema es q.principal (subjectProps req)
  resource_stored : (resourceProps req).isEmpty = false →
    StoredExactly T schema es q.resource (resourceProps req)
  only : ∀ uid ∈ es, uid ∈ schema.actions ∨ uid = q.principal ∨
    uid = q.resource ∧ (resourceProps req).isEmpty = false
  stored_uid : ∀ entityType id properties uid,
    jsonUid api (entityJson entityType id properties) = some uid ↔
      entityUid api entityType id = .ok uid

/-! ## One entry -/

/-- **The two encodings of an identity agree**, whatever the properties. -/
theorem jsonUid_entityJson (h : ∀ id, api.entityIdFromStr id = .ok id) (entityType id : String)
    (properties : Properties) (uid : EntityUid) :
    jsonUid api (entityJson entityType id properties) = some uid ↔
      entityUid api entityType id = .ok uid := by
  have hread : jsonUid api (entityJson entityType id properties) =
      (api.typeNameFromStr entityType).toOption.map fun typeName => ⟨typeName, id⟩ := rfl
  rw [hread, entityUid_eq_ok_iff h]
  cases api.typeNameFromStr entityType with
  | error e => exact iff_of_false (by simp [Except.toOption]) fun h => by cases h.1
  | ok t =>
    obtain ⟨t', i⟩ := uid
    simp [Except.toOption, eq_comm]

/-- The properties are read below `attrs`, so no key among them can stand for another field. -/
theorem denotes_entityJson (h : ∀ id, api.entityIdFromStr id = .ok id) {entityType id : String}
    {properties : Properties} {uid : EntityUid} {x : ParsedEntity ν}
    (hu : entityUid api entityType id = .ok uid)
    (hx : Denotes api T schema (entityJson entityType id properties) x) :
    x.uid = uid ∧ x.parents = [] ∧ ∀ d, schema.entityTypes.lookup uid.typeName = some d →
      HoldsExactly T d.attrs properties x.attrs := by
  have huid : x.uid = uid :=
    Except.ok.inj (((jsonUid_entityJson h entityType id properties x.uid).mp hx.uid).symm.trans hu)
  subst huid
  refine ⟨rfl, ?_, fun d hd => ?_⟩
  · obtain ⟨vs, hvs, hread⟩ := hx.parents
    cases hvs
    exact (Option.some.inj hread).symm
  · obtain ⟨fields, hfields, hread⟩ := hx.attrs
    cases hfields
    exact readRecord_exact (hread d hd)

/-! ## The store -/

theorem exists_of_forall₂ {α γ : Type} {R : α → γ → Prop} {l : List α} {l' : List γ}
    (h : List.Forall₂ R l l') : (∀ a ∈ l, ∃ c ∈ l', R a c) ∧ ∀ c ∈ l', ∃ a ∈ l, R a c := by
  induction h with
  | nil => simp
  | cons hR _ ih =>
    refine ⟨fun a ha => ?_, fun c hc => ?_⟩
    · rcases List.mem_cons.mp ha with rfl | ha
      · exact ⟨_, List.mem_cons_self, hR⟩
      · obtain ⟨c, hc, hR'⟩ := ih.1 a ha
        exact ⟨c, List.mem_cons_of_mem _ hc, hR'⟩
    · rcases List.mem_cons.mp hc with rfl | hc
      · exact ⟨_, List.mem_cons_self, hR⟩
      · obtain ⟨a, ha, hR'⟩ := ih.2 c hc
        exact ⟨a, List.mem_cons_of_mem _ ha, hR'⟩

/-- An entity that is no action has no parents when the entries name none. -/
theorem parents_eq_empty {l : List (ParsedEntity ν)} {uid : EntityUid} {parents : Finset EntityUid}
    (hl : ∀ x ∈ l, x.parents = []) (hu : uid ∉ api.actionEntities schema)
    (hp : ∀ u, u ∈ parents ↔ Relation.TransGen (HasParent api schema l) uid u) : parents = ∅ := by
  refine Finset.eq_empty_of_forall_notMem fun u hmem => ?_
  obtain ⟨w, hw, -⟩ := Relation.TransGen.head'_iff.mp ((hp u).mp hmem)
  rcases hw with ⟨x, hx, -, hw⟩ | ⟨e, he, -⟩
  · rw [hl x hx] at hw
    cases hw
  · exact hu (Finmap.mem_of_lookup_eq_some he)

/-- The entry names a uid of a declared entity type. -/
def EntityEntry.Named (api : RequestApi τ ν) (schema : Schema τ) (e : EntityEntry) : Prop :=
  ∃ uid, entityUid api e.typeText e.id = .ok uid ∧ uid.typeName ∈ schema.entityTypes

/-- **The store of any entries without parents**: each named uid with its properties, and action
entities. -/
theorem stored_of_entries (h : api.ReadsJson T) {entries : List EntityEntry} {es : Entities ν}
    (hnamed : ∀ e ∈ entries, e.Named api schema)
    (hes : api.entitiesFromJson (.array (entries.map EntityEntry.json)) schema = .ok es) :
    (∀ e ∈ entries, ∀ uid, entityUid api e.typeText e.id = .ok uid →
      StoredExactly T schema es uid e.attrs) ∧
    ∀ uid ∈ es, uid ∈ schema.actions ∨
      ∃ e ∈ entries, entityUid api e.typeText e.id = .ok uid := by
  obtain ⟨vs, l, hvs, hden, hstored, honly⟩ := h.entities _ _ _ hes
  cases hvs
  obtain ⟨hleft, hright⟩ := exists_of_forall₂ (List.forall₂_map_left_iff.mp hden)
  have hnone : ∀ x ∈ l, x.parents = [] := by
    intro x hx
    obtain ⟨e, he, hd⟩ := hright x hx
    obtain ⟨uid, hu, -⟩ := hnamed e he
    exact (denotes_entityJson h.entityId hu hd).2.1
  refine ⟨fun e he uid hu => ?_, fun uid hmem => ?_⟩
  · obtain ⟨x, hx, hd⟩ := hleft e he
    obtain ⟨rfl, -, hattrs⟩ := denotes_entityJson h.entityId hu hd
    obtain ⟨ent, hent, hea, hep⟩ := hstored x hx
    obtain ⟨uid', hu', hdecl⟩ := hnamed e he
    obtain rfl := Except.ok.inj (hu.symm.trans hu')
    obtain ⟨d, hd⟩ := Option.isSome_iff_exists.mp (AList.lookup_isSome.mpr hdecl)
    refine ⟨d, ent, hd, hent, hea ▸ hattrs d hd, parents_eq_empty hnone ?_ hep⟩
    exact fun hact => schema.action_type _ (h.action_entities _ _ hact) hdecl
  · refine (honly uid hmem).imp_right ?_
    rintro ⟨x, hx, rfl⟩
    obtain ⟨e, he, hd⟩ := hright x hx
    obtain ⟨uid, hu, -⟩ := hnamed e he
    exact ⟨e, he, (denotes_entityJson h.entityId hu hd).1 ▸ hu⟩

/-! ## The conversion -/

/-- **Identity-faithful conversion.** Whatever the property maps contain, a successful conversion
asks about the entities that the request names, and stores their properties and nothing else. -/
theorem toCedar_identityFaithful (h : api.ReadsJson T) {req : EvaluationRequest} {q : Request ν}
    {es : Entities ν} (hok : toCedar api req schema = .ok (q, es)) :
    IdentityFaithful api T schema req q es := by
  rw [toCedar_eq] at hok
  simp only [bind_eq_ok, mapError_eq_ok, Except.ok.injEq, Prod.mk.injEq] at hok
  obtain ⟨p, hp, a, ha, r, hr, ctx, -, q', hq, es', hes, rfl, rfl⟩ := hok
  obtain ⟨rfl, d, hd, hdp, hdr, -⟩ := h.request _ _ _ _ _ _ hq
  obtain ⟨hpt, hpi⟩ := (entityUid_eq_ok_iff h.entityId).mp hp
  obtain ⟨hat, hai⟩ := (entityUid_eq_ok_iff h.entityId).mp ha
  obtain ⟨hrt, hri⟩ := (entityUid_eq_ok_iff h.entityId).mp hr
  have hnamed : ∀ e ∈ entityEntries req, e.Named api schema := by
    intro e he
    rcases mem_entityEntries_iff.mp he with rfl | ⟨-, rfl⟩
    · exact ⟨p, hp, schema.declared _ d hd _ (List.mem_append_left _ hdp)⟩
    · exact ⟨r, hr, schema.declared _ d hd _ (List.mem_append_right _ hdr)⟩
  obtain ⟨hstored, honly⟩ := stored_of_entries h hnamed hes
  refine ⟨⟨hpt, hpi⟩, ?_, ⟨hrt, hri⟩, ?_, fun hemp => ?_, fun uid hu => ?_,
    jsonUid_entityJson h.entityId⟩
  · exact EntityUid.ext (Except.ok.inj (hat.symm.trans h.action_typeName)) hai
  · exact hstored _ (mem_entityEntries_iff.mpr (.inl rfl)) p hp
  · exact hstored _ (mem_entityEntries_iff.mpr (.inr ⟨hemp, rfl⟩)) r hr
  · refine (honly uid hu).imp_right ?_
    rintro ⟨e, he, hue⟩
    rcases mem_entityEntries_iff.mp he with rfl | ⟨hemp, rfl⟩
    · exact .inl (Except.ok.inj (hue.symm.trans hp))
    · exact .inr ⟨Except.ok.inj (hue.symm.trans hr), hemp⟩

/-! ## Properties named like fields -/

/-- Optional string attributes under the names that the entity format uses. -/
def formatAttrs : RecordDecl Ty :=
  [⟨"uid", ⟨.string, false⟩⟩, ⟨"type", ⟨.string, false⟩⟩, ⟨"parents", ⟨.string, false⟩⟩,
    ⟨"attrs", ⟨.string, false⟩⟩].toAList

def spliceSchema : Schema Ty :=
  oneAction [⟨⟨"User"⟩, ⟨formatAttrs, none⟩⟩, ⟨⟨"Client"⟩, ⟨formatAttrs, none⟩⟩].toAList
    ⟨⟨"Action"⟩, "login"⟩ ⟨[⟨"User"⟩], [⟨"Client"⟩], ∅⟩ (by decide) (by decide)

/-- A caller who would rather be `root`. -/
def spliceRequest : EvaluationRequest :=
  ⟨⟨"User", "alice", some [⟨"parents", .string "admins"⟩, ⟨"uid", .string "root"⟩].toAList⟩, ⟨"login"⟩,
    ⟨"Client", "a-client", some (AList.singleton "type" (.string "User"))⟩, none⟩

theorem toCedar_identityFaithful_splice : ∃ q es,
    toCedar reference spliceRequest spliceSchema = .ok (q, es) ∧
      IdentityFaithful reference prims spliceSchema spliceRequest q es := by
  obtain ⟨q, es, hok⟩ : ∃ q es, toCedar reference spliceRequest spliceSchema = .ok (q, es) :=
    ⟨_, _, rfl⟩
  exact ⟨q, es, hok, toCedar_identityFaithful reference_readsJson hok⟩

end AuthzenPdp
