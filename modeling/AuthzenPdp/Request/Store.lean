import AuthzenPdp.Request.Model

/-!
# The entity store of a request

* `lookup_storeOf_mem`, `lookup_storeOf_notMem`: what a store of parentless entities holds;
* **`entities_ok_iff`**: when Cedar accepts the entries of `to_cedar`, and the store it builds: the
  subject with its attributes, and the resource when it has properties;
* `admitted_notMem_actionEntities`: neither is an action entity.
-/

namespace AuthzenPdp

variable {τ ν : Type} {api : RequestApi τ ν} {T : Typing τ ν} {schema : Schema τ}

theorem lookup_storeOf_mem {l : List (EntityUid × Record ν)}
    (hl : ∀ x ∈ l, ∀ y ∈ l, x.1 = y.1 → x.2 = y.2) {x : EntityUid × Record ν} (hx : x ∈ l) :
    (storeOf api schema l).lookup x.1 = some ⟨x.2, ∅⟩ := by
  induction l with
  | nil => cases hx
  | cons e l ih =>
    change (Finmap.insert e.1 ⟨e.2, ∅⟩ (storeOf api schema l)).lookup x.1 = _
    by_cases he : x.1 = e.1
    · rw [he, Finmap.lookup_insert, hl x hx e List.mem_cons_self he]
    · rw [Finmap.lookup_insert_of_ne _ he]
      refine ih (fun y hy z hz => hl y (List.mem_cons_of_mem _ hy) z (List.mem_cons_of_mem _ hz)) ?_
      exact (List.mem_cons.mp hx).resolve_left fun h => he (h ▸ rfl)

theorem lookup_storeOf_notMem {l : List (EntityUid × Record ν)} {uid : EntityUid}
    (h : ∀ x ∈ l, x.1 ≠ uid) :
    (storeOf api schema l).lookup uid = (api.actionEntities schema).lookup uid := by
  induction l with
  | nil => rfl
  | cons e l ih =>
    change (Finmap.insert e.1 ⟨e.2, ∅⟩ (storeOf api schema l)).lookup uid = _
    rw [Finmap.lookup_insert_of_ne _ (h e List.mem_cons_self).symm,
      ih fun x hx => h x (List.mem_cons_of_mem _ hx)]

/-- Two entities that agree when they have one uid. -/
theorem pair_noConflict {p r : EntityUid} {rp rr : Record ν} (h : p = r → rp = rr) :
    ∀ x ∈ [(p, rp), (r, rr)], ∀ y ∈ [(p, rp), (r, rr)], x.1 = y.1 → x.2 = y.2 := by
  simp only [List.mem_cons, List.not_mem_nil, or_false]
  rintro x (rfl | rfl) y (rfl | rfl) e
  · rfl
  · exact h e
  · exact (h e.symm).symm
  · rfl

theorem Schema.Admits.mem {uid : EntityUid} (h : schema.Admits uid) :
    uid.typeName ∈ schema.entityTypes := by
  obtain ⟨d, hd, -⟩ := h
  exact AList.lookup_isSome.mp (by rw [hd]; rfl)

/-- An entity of a declared entity type is no action entity. -/
theorem admitted_notMem_actionEntities (h : api.Lawful T) {uid : EntityUid}
    (hu : schema.Admits uid) : uid ∉ api.actionEntities schema :=
  fun hm => schema.action_type uid (h.action_entities schema uid hm) hu.mem

theorem reads_iff {uid : EntityUid} {r : Record ν} {e : EntityEntry} (hu : schema.Admits uid)
    (ht : api.typeNameFromStr e.typeText = .ok uid.typeName) (hi : uid.id = e.id)
    {u : EntityUid} : e.Reads api T schema u r ↔
      u = uid ∧ AttrsRead T schema uid e.attrs r := by
  constructor
  · rintro ⟨ht', hi', d, hd, -, hr⟩
    have hn : u.typeName = uid.typeName := Except.ok.inj (ht'.symm.trans ht)
    exact ⟨EntityUid.ext hn (hi'.trans hi.symm), d, by rw [← hn]; exact hd, hr⟩
  · rintro ⟨rfl, d, hd, hr⟩
    obtain ⟨d', hd', ha⟩ := hu
    rw [hd] at hd'
    cases hd'
    exact ⟨ht, hi, d, hd, ha, hr⟩

/-- **The entries of `to_cedar`.** Cedar accepts them iff the subject's properties read at its
type, and so do the resource's when there are any, with the same result when both denote one
entity. -/
theorem entities_ok_iff (h : api.Lawful T) {req : EvaluationRequest} {p r : EntityUid}
    (hp : schema.Admits p) (hr : schema.Admits r)
    (hpt : api.typeNameFromStr req.subject.entityType = .ok p.typeName)
    (hpi : p.id = req.subject.id)
    (hrt : api.typeNameFromStr req.resource.entityType = .ok r.typeName)
    (hri : r.id = req.resource.id) {es : Entities ν} :
    api.entitiesFromJson (.array ((entityEntries req).map EntityEntry.json)) schema = .ok es ↔
      ∃ rp, AttrsRead T schema p (subjectProps req) rp ∧
        if (resourceProps req).isEmpty then es = storeOf api schema [(p, rp)]
        else ∃ rr, AttrsRead T schema r (resourceProps req) rr ∧ (p = r → rp = rr) ∧
          es = storeOf api schema [(p, rp), (r, rr)] := by
  have hdecl : ∀ e ∈ entityEntries req, ∃ t, api.typeNameFromStr e.typeText = .ok t ∧
      t ∈ schema.entityTypes := by
    intro e he
    rcases mem_entityEntries_iff.mp he with rfl | ⟨-, rfl⟩
    · exact ⟨_, hpt, hp.mem⟩
    · exact ⟨_, hrt, hr.mem⟩
  rw [h.entities schema _ hdecl es]
  by_cases hemp : (resourceProps req).isEmpty = true
  · simp only [entityEntries, hemp, if_true, List.forall₂_cons_left_iff, List.forall₂_nil_left_iff]
    constructor
    · rintro ⟨rs, ⟨⟨u, rp⟩, l, hreads, rfl, rfl⟩, -, rfl⟩
      obtain ⟨rfl, hd⟩ := (reads_iff hp hpt hpi).mp hreads
      exact ⟨rp, hd, rfl⟩
    · rintro ⟨rp, hd, rfl⟩
      refine ⟨[(p, rp)], ⟨(p, rp), [], (reads_iff hp hpt hpi).mpr ⟨rfl, hd⟩, rfl, rfl⟩, ?_, rfl⟩
      simp
  · rw [Bool.not_eq_true] at hemp
    simp only [entityEntries, hemp, Bool.false_eq_true, if_false, List.forall₂_cons_left_iff,
      List.forall₂_nil_left_iff]
    constructor
    · rintro ⟨rs, ⟨⟨u, rp⟩, l, hreads, ⟨⟨u', rr⟩, l', hreads', rfl, rfl⟩, rfl⟩, hdup, rfl⟩
      obtain ⟨rfl, hd⟩ := (reads_iff hp hpt hpi).mp hreads
      obtain ⟨rfl, hd'⟩ := (reads_iff hr hrt hri).mp hreads'
      exact ⟨rp, hd, rr, hd', fun e => hdup (u, rp) (by simp) (u', rr) (by simp) e, rfl⟩
    · rintro ⟨rp, hd, rr, hd', hsame, rfl⟩
      refine ⟨[(p, rp), (r, rr)], ⟨(p, rp), _, (reads_iff hp hpt hpi).mpr ⟨rfl, hd⟩,
        ⟨(r, rr), [], (reads_iff hr hrt hri).mpr ⟨rfl, hd'⟩, rfl, rfl⟩, rfl⟩,
        pair_noConflict hsame, rfl⟩

end AuthzenPdp
