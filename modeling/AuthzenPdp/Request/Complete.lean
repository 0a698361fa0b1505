import AuthzenPdp.Request.Reference

/-!
# Completeness of the conversion

A request whose parts all conform to the schema is converted, except when subject and resource
denote one entity with different attributes: `to_cedar` hands Cedar two entries for one uid.

* `Schema.NoNamespaces`, `RequestConforms`, `ContextConforms`: a conforming request;
* `contextOfRequest_ok`, `exists_entities_iff`: its context is accepted, and when its entities are;
* **`toCedar_ok_iff`**: exactly when a conforming request is converted;
* `toCedar_rejects_self`: a conforming request about oneself that is rejected.
-/

namespace AuthzenPdp

variable {τ ν : Type} {api : RequestApi τ ν} {T : Typing τ ν} {schema : Schema τ}

/-- All actions are declared without a namespace. -/
def Schema.NoNamespaces (schema : Schema τ) : Prop := ∀ a ∈ schema.actions, a.typeName = ⟨"Action"⟩

/-- The context has the context type of the action; an absent one counts as the empty record. -/
def ContextConforms (T : Typing τ ν) (d : RecordDecl τ) : Option Value → Prop
  | some v => ∃ fields r, v = .object fields ∧ readRecord T d fields = some r
  | none => HasRequired d (∅ : Record ν)

/-- **All parts of the request conform to the schema**: `p` and `r` are the entities that subject
and resource denote, `rp` and `rr` their attributes. -/
structure RequestConforms (api : RequestApi τ ν) (T : Typing τ ν) (schema : Schema τ)
    (req : EvaluationRequest) (p r : EntityUid) (rp rr : Record ν) : Prop where
  subject_type : api.typeNameFromStr req.subject.entityType = .ok p.typeName
  subject_id : p.id = req.subject.id
  resource_type : api.typeNameFromStr req.resource.entityType = .ok r.typeName
  resource_id : r.id = req.resource.id
  admits : schema.Admits p ∧ schema.Admits r
  action : ∃ a d, schema.actions.lookup a = some d ∧ a.id = req.action.name ∧
    p.typeName ∈ d.principalTypes ∧ r.typeName ∈ d.resourceTypes ∧
      ContextConforms T d.context req.context
  subject : AttrsRead T schema p (subjectProps req) rp
  resource : AttrsRead T schema r (resourceProps req) rr

/-- The two property maps give no key two different values. -/
def Agree (m m' : Properties) : Prop :=
  ∀ k v v', m.lookup k = some v → m'.lookup k = some v' → v = v'

theorem contextOfRequest_ok (h : api.Lawful T) {req : EvaluationRequest} {a : EntityUid}
    {d : ActionDecl τ} (ha : schema.actions.lookup a = some d)
    (hc : ContextConforms T d.context req.context) :
    ∃ ctx, contextOfRequest api req schema a = .ok ctx ∧ Conforms T d.context ctx := by
  unfold contextOfRequest
  cases hctx : req.context with
  | none =>
    rw [hctx] at hc
    exact ⟨∅, rfl, conforms_empty.mpr hc⟩
  | some v =>
    rw [hctx] at hc
    obtain ⟨fields, r, rfl, hr⟩ := hc
    refine ⟨r, ?_, readRecord_conforms hr⟩
    exact mapError_eq_ok.mpr ((h.context _ _ _ _).mpr ⟨d, fields, ha, rfl, hr⟩)

/-- Cedar accepts the entries unless one uid comes with two records. -/
theorem exists_entities_iff (h : api.Lawful T) {req : EvaluationRequest} {p r : EntityUid}
    {rp rr : Record ν} (hc : RequestConforms api T schema req p r rp rr) :
    (∃ es, api.entitiesFromJson (.array ((entityEntries req).map EntityEntry.json)) schema = .ok es) ↔
      p ≠ r ∨ (resourceProps req).isEmpty = true ∨ rp = rr := by
  simp only [entities_ok_iff h hc.admits.1 hc.admits.2 hc.subject_type hc.subject_id hc.resource_type
    hc.resource_id]
  by_cases hemp : (resourceProps req).isEmpty = true
  · simp only [if_pos hemp]
    exact iff_of_true ⟨_, rp, hc.subject, rfl⟩ (.inr (.inl hemp))
  · simp only [if_neg hemp]
    constructor
    · rintro ⟨es, rp', hrp', rr', hrr', hsame, -⟩
      rw [hc.subject.unique hrp', hc.resource.unique hrr']
      by_cases hpr : p = r
      · exact .inr (.inr (hsame hpr))
      · exact .inl hpr
    · intro hcond
      refine ⟨_, rp, hc.subject, rr, hc.resource, fun e => ?_, rfl⟩
      exact (hcond.resolve_left (not_not.mpr e)).resolve_left hemp

/-- **Exactly when a conforming request is converted**: subject and resource are different
entities, the resource has no properties, or both property maps read to the same attributes. -/
theorem toCedar_ok_iff (h : api.Lawful T) (hns : schema.NoNamespaces) {req : EvaluationRequest}
    {p r : EntityUid} {rp rr : Record ν} (hc : RequestConforms api T schema req p r rp rr) :
    (∃ out, toCedar api req schema = .ok out) ↔
      p ≠ r ∨ (resourceProps req).isEmpty = true ∨ rp = rr := by
  rw [← exists_entities_iff h hc]
  constructor
  · rintro ⟨⟨q, es⟩, hok⟩
    obtain ⟨-, -, -, -, -, -, -, hes⟩ := (toCedar_eq_ok_iff h).mp hok
    exact ⟨es, hes⟩
  · rintro ⟨es, hes⟩
    obtain ⟨a, d, ha, hai, hdp, hdr, hctx⟩ := hc.action
    have ha' : a = ⟨⟨"Action"⟩, req.action.name⟩ :=
      EntityUid.ext (hns a (AList.lookup_isSome.mp (by rw [ha]; rfl))) hai
    obtain ⟨ctx, hok, hconf⟩ := contextOfRequest_ok h ha hctx
    refine ⟨(⟨p, a, r, ctx⟩, es), (toCedar_eq_ok_iff h).mpr ?_⟩
    exact ⟨hc.subject_type, hc.subject_id, ha', hc.resource_type, hc.resource_id, hok,
      ⟨⟨d, ha, hdp, hdr, hconf⟩, hc.admits⟩, hes⟩

/-! ## A request about oneself -/

/-- `view` of a `User` by a `User`, with two optional attributes. -/
def viewSchema : Schema Ty :=
  oneAction
    [⟨⟨"User"⟩, ⟨[⟨"department", .string, false⟩, ⟨"nickname", .string, false⟩].toAList, none⟩⟩].toAList
    ⟨⟨"Action"⟩, "view"⟩ ⟨[⟨"User"⟩], [⟨"User"⟩], ∅⟩ (by decide) (by decide)

def viewRequest (id : String) : EvaluationRequest :=
  ⟨⟨"User", "alice", some (AList.singleton "department" (.string "A1"))⟩, ⟨"view"⟩,
    ⟨"User", id, some (AList.singleton "nickname" (.string "al"))⟩, none⟩

def departmentA1 : Record Prim := Finmap.insert "department" (.string "A1") ∅

def nicknameAl : Record Prim := Finmap.insert "nickname" (.string "al") ∅

theorem viewSchema_noNamespaces : viewSchema.NoNamespaces := by
  intro a ha
  rw [AList.mem_keys] at ha
  exact (List.mem_singleton.mp ha) ▸ rfl

theorem viewRequest_conforms (id : String) : RequestConforms reference prims viewSchema
    (viewRequest id) ⟨⟨"User"⟩, "alice"⟩ ⟨⟨"User"⟩, id⟩ departmentA1 nicknameAl where
  subject_type := typeNameFromStr_reference.mpr ⟨show isIdent "User" = true by decide, rfl⟩
  subject_id := rfl
  resource_type := typeNameFromStr_reference.mpr ⟨show isIdent "User" = true by decide, rfl⟩
  resource_id := rfl
  admits := ⟨⟨_, rfl, rfl⟩, ⟨_, rfl, rfl⟩⟩
  action := by
    refine ⟨⟨⟨"Action"⟩, "view"⟩, ⟨[⟨"User"⟩], [⟨"User"⟩], ∅⟩, rfl, rfl, List.mem_singleton_self _,
      List.mem_singleton_self _, ?_⟩
    exact fun k a hk => by cases hk
  subject := ⟨_, rfl, rfl⟩
  resource := ⟨_, rfl, rfl⟩

/-- A request about somebody else is converted. -/
theorem toCedar_ok_view : ∃ out, toCedar reference (viewRequest "bob") viewSchema = .ok out :=
  (toCedar_ok_iff reference_lawful viewSchema_noNamespaces (viewRequest_conforms "bob")).mpr
    (.inl (by decide))

/-- **A conforming request about oneself is rejected**, although its two property maps give no key
two values. -/
theorem toCedar_rejects_self :
    viewSchema.NoNamespaces ∧ RequestConforms reference prims viewSchema (viewRequest "alice")
      ⟨⟨"User"⟩, "alice"⟩ ⟨⟨"User"⟩, "alice"⟩ departmentA1 nicknameAl ∧
    Agree (subjectProps (viewRequest "alice")) (resourceProps (viewRequest "alice")) ∧
    ∃ e, toCedar reference (viewRequest "alice") viewSchema = .error (.properties e) := by
  refine ⟨viewSchema_noNamespaces, viewRequest_conforms "alice", ?_, _, rfl⟩
  intro k v v' hv hv'
  have hk : (⟨k, v⟩ : Sigma fun _ : String => Value) ∈ [⟨"department", .string "A1"⟩] :=
    AList.mem_lookup_iff.mp hv
  have hk' : (⟨k, v'⟩ : Sigma fun _ : String => Value) ∈ [⟨"nickname", .string "al"⟩] :=
    AList.mem_lookup_iff.mp hv'
  rw [List.mem_singleton] at hk hk'
  have hkey : "department" = "nickname" :=
    (congrArg Sigma.fst hk).symm.trans (congrArg Sigma.fst hk')
  exact absurd hkey (by decide)

end AuthzenPdp
