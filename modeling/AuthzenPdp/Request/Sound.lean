import AuthzenPdp.Request.Reference

/-!
# Soundness of request validation

What a successful conversion guarantees: the request conforms to the schema, and so do the
attributes of the subject. The resource entity is only handed over when it has properties, so its
required attributes are only guaranteed then.

* `store_of_toCedar`, `attrs_of_toCedar`: the store of a successful conversion, and the attributes
  that policies see in it;
* **`toCedar_conforms`**, and when the required attributes of the resource are there;
* `toCedar_resource_unchecked`: a conversion that succeeds without a required resource attribute.
-/

namespace AuthzenPdp

variable {τ ν : Type} {api : RequestApi τ ν} {T : Typing τ ν} {schema : Schema τ}

/-- The subject's properties as `to_cedar` stores them, and what else is in the store. -/
theorem store_of_toCedar (h : api.Lawful T) {req : EvaluationRequest} {q : Request ν}
    {es : Entities ν} (hok : toCedar api req schema = .ok (q, es)) :
    ∃ rp, AttrsRead T schema q.principal (subjectProps req) rp ∧
      if (resourceProps req).isEmpty then es = storeOf api schema [(q.principal, rp)]
      else ∃ rr, AttrsRead T schema q.resource (resourceProps req) rr ∧
        (q.principal = q.resource → rp = rr) ∧
          es = storeOf api schema [(q.principal, rp), (q.resource, rr)] := by
  obtain ⟨hpt, hpi, -, hrt, hri, -, ⟨-, hp, hr⟩, hes⟩ := (toCedar_eq_ok_iff h).mp hok
  exact (entities_ok_iff h hp hr hpt hpi hrt hri).mp hes

theorem attrsOf_storeOf_mem {l : List (EntityUid × Record ν)}
    (hl : ∀ x ∈ l, ∀ y ∈ l, x.1 = y.1 → x.2 = y.2) {x : EntityUid × Record ν} (hx : x ∈ l) :
    attrsOf (storeOf api schema l) x.1 = x.2 := by
  rw [attrsOf, lookup_storeOf_mem hl hx]
  rfl

/-- An entity that was not handed over has no attributes. -/
theorem attrsOf_storeOf_notMem (h : api.Lawful T) {l : List (EntityUid × Record ν)}
    {uid : EntityUid} (hu : schema.Admits uid) (hl : ∀ x ∈ l, x.1 ≠ uid) :
    attrsOf (storeOf api schema l) uid = ∅ := by
  rw [attrsOf, lookup_storeOf_notMem hl,
    Finmap.lookup_eq_none.mpr (admitted_notMem_actionEntities h hu)]
  rfl

/-- **The attributes that policies see** after a successful conversion. -/
theorem attrs_of_toCedar (h : api.Lawful T) {req : EvaluationRequest} {q : Request ν}
    {es : Entities ν} (hok : toCedar api req schema = .ok (q, es)) :
    AttrsRead T schema q.principal (subjectProps req) (attrsOf es q.principal) ∧
    ((resourceProps req).isEmpty = false →
      AttrsRead T schema q.resource (resourceProps req) (attrsOf es q.resource)) ∧
    ((resourceProps req).isEmpty = true → q.resource ≠ q.principal →
      attrsOf es q.resource = ∅) := by
  obtain ⟨-, -, -, -, -, -, ⟨-, -, hr⟩, -⟩ := (toCedar_eq_ok_iff h).mp hok
  obtain ⟨rp, hrp, hstore⟩ := store_of_toCedar h hok
  by_cases hemp : (resourceProps req).isEmpty = true
  · rw [if_pos hemp] at hstore
    subst hstore
    have hone : ∀ x ∈ [(q.principal, rp)], ∀ y ∈ [(q.principal, rp)], x.1 = y.1 → x.2 = y.2 := by
      simp
    have hap : attrsOf (storeOf api schema [(q.principal, rp)]) q.principal = rp :=
      attrsOf_storeOf_mem hone (List.mem_singleton_self _)
    refine ⟨hap.symm ▸ hrp, fun hne => absurd (hemp.symm.trans hne) (by simp), fun _ hne => ?_⟩
    exact attrsOf_storeOf_notMem h hr (by simpa using Ne.symm hne)
  · rw [if_neg hemp] at hstore
    obtain ⟨rr, hrr, hsame, rfl⟩ := hstore
    have hap : attrsOf (storeOf api schema [(q.principal, rp), (q.resource, rr)]) q.principal = rp :=
      attrsOf_storeOf_mem (pair_noConflict hsame) List.mem_cons_self
    have har : attrsOf (storeOf api schema [(q.principal, rp), (q.resource, rr)]) q.resource = rr :=
      attrsOf_storeOf_mem (pair_noConflict hsame) (List.mem_cons_of_mem _ List.mem_cons_self)
    exact ⟨hap.symm ▸ hrp, fun _ => har.symm ▸ hrr, fun he => absurd he hemp⟩

/-- **Soundness of request validation.** The request conforms to the schema and the subject's
attributes have its entity type. The resource's attributes are of its entity type, and the required
ones are all there exactly when it has properties, is the subject, or its type requires none. -/
theorem toCedar_conforms (h : api.Lawful T) {req : EvaluationRequest} {q : Request ν}
    {es : Entities ν} (hok : toCedar api req schema = .ok (q, es)) :
    schema.Applies T q ∧ EntityConforms T schema es q.principal ∧
      ∃ d, schema.entityTypes.lookup q.resource.typeName = some d ∧
        Typed T d.attrs (attrsOf es q.resource) ∧
        (HasRequired d.attrs (attrsOf es q.resource) ↔ (resourceProps req).isEmpty = false ∨
          q.resource = q.principal ∨ HasRequired d.attrs (∅ : Record ν)) := by
  obtain ⟨-, -, -, -, -, -, ⟨hq, -, hr⟩, -⟩ := (toCedar_eq_ok_iff h).mp hok
  obtain ⟨⟨dp, hdp, hrp⟩, hfull, hempty⟩ := attrs_of_toCedar h hok
  obtain ⟨dr, hdr, -⟩ := hr
  have hcp := readRecord_conforms hrp
  refine ⟨hq, ⟨dp, hdp, hcp⟩, dr, hdr, ?_⟩
  by_cases hsame : q.resource = q.principal
  · -- the resource's attributes are those of the subject
    rw [hsame] at hdr ⊢
    obtain rfl := Option.some.inj (hdp.symm.trans hdr)
    exact ⟨hcp.2, iff_of_true hcp.1 (.inr (.inl rfl))⟩
  · cases hemp : (resourceProps req).isEmpty with
    | false =>
      obtain ⟨d, hd, hrr⟩ := hfull hemp
      obtain rfl := Option.some.inj (hd.symm.trans hdr)
      exact ⟨(readRecord_conforms hrr).2, iff_of_true (readRecord_conforms hrr).1 (.inl rfl)⟩
    | true =>
      rw [hempty hemp hsame]
      refine ⟨fun k w hk => ?_, by simp [hsame]⟩
      rw [Finmap.lookup_empty] at hk
      cases hk

/-! ## A resource without its required attribute -/

/-- `login` of a `User` to a `Client`, whose `tier` is required. -/
def tierSchema : Schema Ty :=
  oneAction [⟨⟨"User"⟩, ⟨∅, none⟩⟩, ⟨⟨"Client"⟩, ⟨AList.singleton "tier" ⟨.string, true⟩, none⟩⟩].toAList
    ⟨⟨"Action"⟩, "login"⟩ ⟨[⟨"User"⟩], [⟨"Client"⟩], ∅⟩ (by decide) (by decide)

def loginRequest (resourceProperties : Option Properties) : EvaluationRequest :=
  ⟨⟨"User", "alice", none⟩, ⟨"login"⟩, ⟨"Client", "a-client", resourceProperties⟩, none⟩

/-- With its `tier`, the resource conforms too. -/
theorem toCedar_conforms_login : ∃ q es,
    toCedar reference (loginRequest (some (AList.singleton "tier" (.string "gold")))) tierSchema =
      .ok (q, es) ∧ tierSchema.Applies prims q ∧ EntityConforms prims tierSchema es q.principal ∧
        EntityConforms prims tierSchema es q.resource := by
  obtain ⟨q, es, hok⟩ : ∃ q es, toCedar reference
    (loginRequest (some (AList.singleton "tier" (.string "gold")))) tierSchema = .ok (q, es) :=
      ⟨_, _, rfl⟩
  obtain ⟨hq, hp, d, hd, hty, hreq⟩ := toCedar_conforms reference_lawful hok
  exact ⟨q, es, hok, hq, hp, d, hd, hreq.mpr (.inl rfl), hty⟩

/-- **A conversion succeeds although the resource lacks a required attribute.** -/
theorem toCedar_resource_unchecked : ∃ q es,
    toCedar reference (loginRequest none) tierSchema = .ok (q, es) ∧
      ¬ EntityConforms prims tierSchema es q.resource := by
  refine ⟨_, _, rfl, ?_⟩
  rintro ⟨d, hd, hreq, -⟩
  cases hd
  exact absurd (hreq "tier" _ rfl rfl) (by decide)

end AuthzenPdp
