import AuthzenPdp.Request.Reference

/-!
# Optional members of a request

`context`, `subject.properties` and `resource.properties` may be left out, `null` or empty. Each is
defaulted in its own way: an absent context is the empty one and is only checked with the request,
absent subject properties are an empty map, an empty resource map is dropped.

* `OptionalMembers`, `Interchangeable`: the three members, and bodies that differ in blank ones;
* `outcome`: the result of `to_cedar` as the caller sees it;
* `outcome_absent`, `outcome_empty`: what becomes of an empty context that the action does not take;
* `toCedar_withMembers_eq`: when blank members make no difference;
* **`outcome_eq_iff`**: exactly when the outcome is the same, and the two codes when it is not;
* `outcome_absent_ne_empty`: one request with two codes.
-/

namespace AuthzenPdp

variable {τ ν : Type} {api : RequestApi τ ν} {T : Typing τ ν} {schema : Schema τ}

/-- An optional member of a JSON body: left out, `null`, or a value. -/
abbrev Member (α : Type) : Type := Option (Option α)

/-- The optional members of an evaluation request that `to_cedar` reads. -/
structure OptionalMembers where
  subjectProperties : Member Properties
  resourceProperties : Member Properties
  context : Member Value

/-- The request with these members: `serde` reads one that is left out or `null` as `None`. -/
def EvaluationRequest.withMembers (req : EvaluationRequest) (m : OptionalMembers) :
    EvaluationRequest where
  subject := { req.subject with properties := m.subjectProperties.join }
  action := req.action
  resource := { req.resource with properties := m.resourceProperties.join }
  context := m.context.join

/-- The member is left out, `null` or empty. -/
def Blank {α : Type} (empty : α) (m : Member α) : Prop :=
  m = none ∨ m = some none ∨ m = some (some empty)

/-- The two members are the same, or both are blank. -/
def SameOrBlank {α : Type} (empty : α) (m m' : Member α) : Prop :=
  m = m' ∨ Blank empty m ∧ Blank empty m'

/-- **The two bodies differ only in blank members.** -/
structure Interchangeable (m m' : OptionalMembers) : Prop where
  subjectProperties : SameOrBlank ∅ m.subjectProperties m'.subjectProperties
  resourceProperties : SameOrBlank ∅ m.resourceProperties m'.resourceProperties
  context : SameOrBlank (.object []) m.context m'.context

/-- The request and the entities, or the code of the error. -/
def outcome (api : RequestApi τ ν) (req : EvaluationRequest) (schema : Schema τ) :
    Except String (Request ν × Entities ν) :=
  (toCedar api req schema).mapError ConversionError.code

/-- The entity types of subject and resource parse. -/
def NamesTypes (api : RequestApi τ ν) (req : EvaluationRequest) : Prop :=
  (∃ t, api.typeNameFromStr req.subject.entityType = .ok t) ∧
    ∃ t, api.typeNameFromStr req.resource.entityType = .ok t

/-- The action of the request is declared, and its context type requires no attribute. -/
def TakesEmptyContext (schema : Schema τ) (req : EvaluationRequest) : Prop :=
  ∃ d, schema.actions.lookup ⟨⟨"Action"⟩, req.action.name⟩ = some d ∧
    ∀ k a, d.context.lookup k = some a → a.required = false

/-- The code for an action that does not take the empty context. -/
def emptyContextCode : Option Value → String
  | none => "invalid_request"
  | some _ => "invalid_context"

/-! ## Blank members -/

theorem Blank.join_eq {α : Type} {empty : α} {m : Member α} (h : Blank empty m) :
    m.join = none ∨ m.join = some empty := by
  rcases h with rfl | rfl | rfl
  · exact .inl rfl
  · exact .inl rfl
  · exact .inr rfl

theorem Blank.getD_join {α : Type} {empty : α} {m : Member α} (h : Blank empty m) :
    m.join.getD empty = empty := by
  rcases h.join_eq with hm | hm <;> rw [hm] <;> rfl

theorem SameOrBlank.getD_join {α : Type} {empty : α} {m m' : Member α}
    (h : SameOrBlank empty m m') : m.join.getD empty = m'.join.getD empty := by
  rcases h with rfl | ⟨hm, hm'⟩
  · rfl
  · rw [hm.getD_join, hm'.getD_join]

/-- Blank property maps are handed to Cedar alike. -/
theorem entityEntries_withMembers {m m' : OptionalMembers} (hm : Interchangeable m m')
    (req : EvaluationRequest) :
    entityEntries (req.withMembers m) = entityEntries (req.withMembers m') := by
  have hs : subjectProps (req.withMembers m) = subjectProps (req.withMembers m') :=
    hm.subjectProperties.getD_join
  have hr : resourceProps (req.withMembers m) = resourceProps (req.withMembers m') :=
    hm.resourceProperties.getD_join
  rw [entityEntries, entityEntries, hs, hr]
  rfl

/-- The context makes the only difference, once the uids are built. -/
theorem toCedar_withMembers_congr {m m' : OptionalMembers} (hm : Interchangeable m m')
    {req : EvaluationRequest}
    (hctx : ∀ p r, entityUid api req.subject.entityType req.subject.id = .ok p →
      entityUid api req.resource.entityType req.resource.id = .ok r →
      ∀ a, entityUid api "Action" req.action.name = .ok a →
        contextOfRequest api (req.withMembers m) schema a =
          contextOfRequest api (req.withMembers m') schema a) :
    toCedar api (req.withMembers m) schema = toCedar api (req.withMembers m') schema := by
  rw [toCedar_eq, toCedar_eq, entityEntries_withMembers hm]
  refine bind_congr_ok fun p hp => bind_congr_ok fun a ha => bind_congr_ok fun r hr => ?_
  rw [hctx p r hp hr a ha]

/-! ## Blank contexts -/

theorem exists_uids (h : api.Lawful T) {req : EvaluationRequest} (hn : NamesTypes api req) :
    ∃ p r, entityUid api req.subject.entityType req.subject.id = .ok p ∧
      entityUid api "Action" req.action.name = .ok ⟨⟨"Action"⟩, req.action.name⟩ ∧
      entityUid api req.resource.entityType req.resource.id = .ok r := by
  obtain ⟨⟨tp, hp⟩, tr, hr⟩ := hn
  exact ⟨⟨tp, req.subject.id⟩, ⟨tr, req.resource.id⟩, (entityUid_eq_ok_iff h.entityId).mpr ⟨hp, rfl⟩,
    (entityUid_eq_ok_iff h.entityId).mpr ⟨h.action_typeName, rfl⟩,
    (entityUid_eq_ok_iff h.entityId).mpr ⟨hr, rfl⟩⟩

theorem namesTypes_of_uids (h : api.Lawful T) {req : EvaluationRequest} {p r : EntityUid}
    (hp : entityUid api req.subject.entityType req.subject.id = .ok p)
    (hr : entityUid api req.resource.entityType req.resource.id = .ok r) : NamesTypes api req :=
  ⟨⟨_, ((entityUid_eq_ok_iff h.entityId).mp hp).1⟩, _, ((entityUid_eq_ok_iff h.entityId).mp hr).1⟩

/-- The empty object is a context of the action iff it takes the empty context. -/
theorem contextFromJson_empty_iff (h : api.Lawful T) {req : EvaluationRequest} {ctx : Record ν} :
    api.contextFromJson (.object []) schema ⟨⟨"Action"⟩, req.action.name⟩ = .ok ctx ↔
      ctx = ∅ ∧ TakesEmptyContext schema req := by
  rw [h.context]
  constructor
  · rintro ⟨d, fields, hd, hf, hr⟩
    cases hf
    obtain ⟨hempty, hreq⟩ := readRecord_eq_some_iff.mp hr
    cases hempty
    exact ⟨rfl, d, hd, hasRequired_empty_iff.mp hreq⟩
  · rintro ⟨rfl, d, hd, hreq⟩
    exact ⟨d, [], hd, rfl, readRecord_eq_some_iff.mpr ⟨rfl, hasRequired_empty_iff.mpr hreq⟩⟩

/-- Without a context, the request itself is rejected. -/
theorem outcome_absent (h : api.Lawful T) {req : EvaluationRequest} (hn : NamesTypes api req)
    (ht : ¬ TakesEmptyContext schema req) (hc : req.context = none) :
    outcome api req schema = .error "invalid_request" := by
  obtain ⟨p, r, hp, ha, hr⟩ := exists_uids h hn
  have hctx : contextOfRequest api req schema ⟨⟨"Action"⟩, req.action.name⟩ = .ok ∅ := by
    rw [contextOfRequest, hc]
  cases hq : api.requestNew p ⟨⟨"Action"⟩, req.action.name⟩ r ∅ schema with
  | error e =>
    rw [outcome, toCedar_eq, hp, ha, hr]
    simp only [bind, Except.bind, hctx, hq]
    rfl
  | ok q =>
    obtain ⟨rfl, ⟨d, hd, -, -, hreq, -⟩, -⟩ := (h.request _ _ _ _ _ _).mp hq
    exact absurd ⟨d, hd, hasRequired_empty_iff.mp hreq⟩ ht

/-- With the empty object, the context is rejected. -/
theorem outcome_empty (h : api.Lawful T) {req : EvaluationRequest} (hn : NamesTypes api req)
    (ht : ¬ TakesEmptyContext schema req) (hc : req.context = some (.object [])) :
    outcome api req schema = .error "invalid_context" := by
  obtain ⟨p, r, hp, ha, hr⟩ := exists_uids h hn
  cases hj : api.contextFromJson (.object []) schema ⟨⟨"Action"⟩, req.action.name⟩ with
  | error e =>
    have hctx : contextOfRequest api req schema ⟨⟨"Action"⟩, req.action.name⟩ =
        .error (.context e) := by
      rw [contextOfRequest, hc]
      simp only [hj]
      rfl
    rw [outcome, toCedar_eq, hp, ha, hr]
    simp only [bind, Except.bind, hctx]
    rfl
  | ok ctx => exact absurd ((contextFromJson_empty_iff h).mp hj).2 ht

/-- A blank context that the action does not take is rejected under its own code. -/
theorem outcome_blank (h : api.Lawful T) {req : EvaluationRequest} {m : OptionalMembers}
    (hn : NamesTypes api req) (ht : ¬ TakesEmptyContext schema req)
    (hm : Blank (.object []) m.context) :
    outcome api (req.withMembers m) schema = .error (emptyContextCode m.context.join) := by
  have hn' : NamesTypes api (req.withMembers m) := hn
  have ht' : ¬ TakesEmptyContext schema (req.withMembers m) := ht
  rcases hm.join_eq with hc | hc
  · rw [hc]
    exact outcome_absent h hn' ht' hc
  · rw [hc]
    exact outcome_empty h hn' ht' hc

/-- A blank context that the action takes is the empty one. -/
theorem contextOfRequest_blank (h : api.Lawful T) {req : EvaluationRequest} {m : OptionalMembers}
    (ht : TakesEmptyContext schema req) (hm : Blank (.object []) m.context) :
    contextOfRequest api (req.withMembers m) schema ⟨⟨"Action"⟩, req.action.name⟩ = .ok ∅ := by
  have hj : api.contextFromJson (.object []) schema ⟨⟨"Action"⟩, req.action.name⟩ = .ok ∅ :=
    (contextFromJson_empty_iff h).mpr ⟨rfl, ht⟩
  have hreq : (req.withMembers m).context = m.context.join := rfl
  rcases hm.join_eq with hc | hc
  · rw [contextOfRequest, hreq, hc]
  · rw [contextOfRequest, hreq, hc]
    change (api.contextFromJson (.object []) schema _).mapError _ = _
    rw [hj]
    rfl

theorem emptyContextCode_ne {m m' : Member Value} (hm : Blank (.object []) m)
    (hm' : Blank (.object []) m') (h : m.join ≠ m'.join) :
    emptyContextCode m.join ≠ emptyContextCode m'.join := by
  have hcode : emptyContextCode none ≠ emptyContextCode (some (.object [])) := by decide
  rcases hm.join_eq with h1 | h1 <;> rcases hm'.join_eq with h2 | h2 <;> rw [h1, h2] at h ⊢
  · exact absurd rfl h
  · exact hcode
  · exact hcode.symm
  · exact absurd rfl h

/-! ## The outcome -/

/-- Blank members make no difference when the contexts are the same, when `to_cedar` does not get to
the context, and when the action takes the empty context. -/
theorem toCedar_withMembers_eq (h : api.Lawful T) {req : EvaluationRequest} {m m' : OptionalMembers}
    (hm : Interchangeable m m') (hcond : m.context.join = m'.context.join ∨ ¬ NamesTypes api req ∨
      TakesEmptyContext schema req) :
    toCedar api (req.withMembers m) schema = toCedar api (req.withMembers m') schema := by
  refine toCedar_withMembers_congr hm fun p r hp hr a ha => ?_
  have hsame : m.context.join = m'.context.join →
      contextOfRequest api (req.withMembers m) schema a =
        contextOfRequest api (req.withMembers m') schema a := by
    intro hc
    have hc' : (req.withMembers m).context = (req.withMembers m').context := hc
    rw [contextOfRequest, contextOfRequest, hc']
  rcases hcond with hc | hn | ht
  · exact hsame hc
  · exact absurd (namesTypes_of_uids h hp hr) hn
  · obtain ⟨-, -, -, haction, -⟩ := exists_uids h (namesTypes_of_uids h hp hr)
    obtain rfl := Except.ok.inj (ha.symm.trans haction)
    rcases hm.context with hc | ⟨hb, hb'⟩
    · exact hsame (by rw [hc])
    · rw [contextOfRequest_blank h ht hb, contextOfRequest_blank h ht hb']

/-- **Absent and empty members are interchangeable up to one error code.** The outcome is the same
unless one context is absent and the other empty, the entity types parse, and the action does not
take the empty context; then both fail, each with its own code. -/
theorem outcome_eq_iff (h : api.Lawful T) (req : EvaluationRequest) {m m' : OptionalMembers}
    (hm : Interchangeable m m') :
    (outcome api (req.withMembers m) schema = outcome api (req.withMembers m') schema ↔
      m.context.join = m'.context.join ∨ ¬ NamesTypes api req ∨ TakesEmptyContext schema req) ∧
    (outcome api (req.withMembers m) schema ≠ outcome api (req.withMembers m') schema →
      outcome api (req.withMembers m) schema = .error (emptyContextCode m.context.join) ∧
      outcome api (req.withMembers m') schema = .error (emptyContextCode m'.context.join)) := by
  by_cases hcond : m.context.join = m'.context.join ∨ ¬ NamesTypes api req ∨
    TakesEmptyContext schema req
  · have heq : outcome api (req.withMembers m) schema = outcome api (req.withMembers m') schema := by
      rw [outcome, outcome, toCedar_withMembers_eq h hm hcond]
    exact ⟨iff_of_true heq hcond, fun hne => absurd heq hne⟩
  · obtain ⟨hc, hn, ht⟩ := by simpa only [not_or, not_not] using hcond
    obtain ⟨hb, hb'⟩ := hm.context.resolve_left fun e => hc (by rw [e])
    have h1 : outcome api (req.withMembers m) schema = _ := outcome_blank h hn ht hb
    have h2 : outcome api (req.withMembers m') schema = _ := outcome_blank h hn ht hb'
    refine ⟨iff_of_false (fun heq => ?_) hcond, fun _ => ⟨h1, h2⟩⟩
    rw [h1, h2] at heq
    exact emptyContextCode_ne hb hb' hc (Except.error.inj heq)

/-! ## Two codes -/

def loginTypes : AList fun _ : EntityTypeName => EntityDecl Ty :=
  [⟨⟨"User"⟩, ⟨∅, none⟩⟩, ⟨⟨"Client"⟩, ⟨∅, none⟩⟩].toAList

theorem mem_loginTypes : ∀ t ∈ [EntityTypeName.mk "User", ⟨"Client"⟩], t ∈ loginTypes := by decide

/-- `login` of a `User` to a `Client`, from an access route. -/
def routeSchema (required : Bool) : Schema Ty :=
  oneAction loginTypes ⟨⟨"Action"⟩, "login"⟩
    ⟨[⟨"User"⟩], [⟨"Client"⟩], AList.singleton "access_route" ⟨.string, required⟩⟩
    mem_loginTypes (by decide)

def routeRequest (action : String) : EvaluationRequest :=
  ⟨⟨"User", "alice", none⟩, ⟨action⟩, ⟨"Client", "a-client", none⟩, none⟩

def leftOut : OptionalMembers := ⟨none, none, none⟩

def emptyContext : OptionalMembers := ⟨none, none, some (some (.object []))⟩

def allEmpty : OptionalMembers := ⟨some (some ∅), some none, some (some (.object []))⟩

/-- A `login` without a route, in two ways. -/
theorem outcome_eq_login : outcome reference ((routeRequest "login").withMembers leftOut)
      (routeSchema false) =
    outcome reference ((routeRequest "login").withMembers allEmpty) (routeSchema false) := by
  have hm : Interchangeable leftOut allEmpty :=
    ⟨.inr ⟨.inl rfl, .inr (.inr rfl)⟩, .inr ⟨.inl rfl, .inr (.inl rfl)⟩,
      .inr ⟨.inl rfl, .inr (.inr rfl)⟩⟩
  refine (outcome_eq_iff reference_lawful (routeRequest "login") hm).1.mpr (.inr (.inr ?_))
  refine ⟨_, rfl, fun k a hk => ?_⟩
  have he : (⟨k, a⟩ : Sigma fun _ : String => AttrDecl Ty) ∈ [⟨"access_route", ⟨.string, false⟩⟩] :=
    AList.mem_lookup_iff.mp hk
  rw [List.mem_singleton] at he
  cases he
  rfl

/-- **The code of a failure depends on whether the context is absent or empty**: for an action that
is not declared, and for one whose context requires an attribute. -/
theorem outcome_absent_ne_empty : Interchangeable leftOut emptyContext ∧
    outcome reference ((routeRequest "logout").withMembers leftOut) (routeSchema false) ≠
      outcome reference ((routeRequest "logout").withMembers emptyContext) (routeSchema false) ∧
    outcome reference ((routeRequest "login").withMembers leftOut) (routeSchema true) ≠
      outcome reference ((routeRequest "login").withMembers emptyContext) (routeSchema true) := by
  have hcode : (Except.error "invalid_request" : Except String (Request Prim × Entities Prim)) ≠
      .error "invalid_context" := fun h => absurd (Except.error.inj h) (by decide)
  exact ⟨⟨.inl rfl, .inl rfl, .inr ⟨.inl rfl, .inr (.inr rfl)⟩⟩, hcode, hcode⟩

end AuthzenPdp
