import AuthzenPdp.Request.Store

/-!
# Executable Cedar constructors

An instance of `RequestApi` that runs: boolean, integer and string attributes, type names without a
namespace. It shows that `Lawful` can be met and evaluates concrete requests.

* `prims`: the typing of the three primitive types;
* `reference`: the constructors, `entitiesFromJson_reference`, **`reference_lawful`**;
* `oneAction`: a schema with one action.
-/

namespace AuthzenPdp

/-- The primitive attribute types. -/
inductive Ty where
  | bool
  | long
  | string
  deriving DecidableEq

inductive Prim where
  | bool (b : Bool)
  | long (n : Int)
  | string (s : String)
  deriving DecidableEq

def Prim.ty : Prim → Ty
  | .bool _ => .bool
  | .long _ => .long
  | .string _ => .string

/-- Longs are 64-bit; there is no Cedar value for a float. -/
def readPrim : Ty → Value → Option Prim
  | .bool, .bool b => some (.bool b)
  | .string, .string s => some (.string s)
  | .long, .number (.posInt n) => if n.toNat < 2 ^ 63 then some (.long n.toNat) else none
  | .long, .number (.negInt n) => some (.long n.toInt)
  | _, _ => none

theorem readPrim_ty {t : Ty} {v : Value} {w : Prim} (h : readPrim t v = some w) : w.ty = t := by
  unfold readPrim at h
  split at h
  · cases h; rfl
  · cases h; rfl
  · split_ifs at h
    cases h; rfl
  · cases h; rfl
  · cases h

def prims : Typing Ty Prim where
  read := readPrim
  HasType w t := w.ty = t
  read_hasType _ _ _ h := readPrim_ty h

/-! ## The checks -/

/-- A Cedar identifier. -/
def isIdent (s : String) : Bool :=
  match s.toList with
  | [] => false
  | c :: cs => (c.isAlpha || c == '_') && cs.all fun c => c.isAlphanum || c == '_'

def typed (d : RecordDecl Ty) (r : Record Prim) : Bool :=
  decide (∀ k ∈ r.keys, (match r.lookup k, d.lookup k with
    | some w, some a => w.ty == a.ty
    | _, _ => false) = true)

theorem typed_iff (d : RecordDecl Ty) (r : Record Prim) : typed d r = true ↔ Typed prims d r := by
  rw [typed, decide_eq_true_iff]
  constructor
  · intro h k w hk
    have := h k (Finmap.mem_keys.mpr (Finmap.mem_iff.mpr ⟨w, hk⟩))
    rw [hk] at this
    cases ha : d.lookup k with
    | none => rw [ha] at this; cases this
    | some a => rw [ha] at this; exact ⟨a, rfl, beq_iff_eq.mp this⟩
  · intro h k hk
    obtain ⟨w, hw⟩ := Finmap.mem_iff.mp (Finmap.mem_keys.mp hk)
    obtain ⟨a, ha, hty⟩ := h k w hw
    rw [hw, ha]
    exact beq_iff_eq.mpr hty

def admits (schema : Schema Ty) (uid : EntityUid) : Bool :=
  match schema.entityTypes.lookup uid.typeName with
  | none => false
  | some d => d.admits uid.id

theorem admits_iff (schema : Schema Ty) (uid : EntityUid) :
    admits schema uid = true ↔ schema.Admits uid := by
  unfold admits Schema.Admits
  cases schema.entityTypes.lookup uid.typeName with
  | none => simp
  | some d => simp

def applies (schema : Schema Ty) (q : Request Prim) : Bool :=
  match schema.actions.lookup q.action with
  | none => false
  | some d => d.principalTypes.contains q.principal.typeName &&
      d.resourceTypes.contains q.resource.typeName && hasRequired d.context q.context &&
        typed d.context q.context

theorem applies_iff (schema : Schema Ty) (q : Request Prim) :
    applies schema q = true ↔ schema.Applies prims q := by
  unfold applies Schema.Applies Conforms
  cases schema.actions.lookup q.action with
  | none => simp
  | some d => simp [← hasRequired_iff, ← typed_iff, and_assoc]

/-! ## The entity format -/

/-- The type text, id and attributes of a parentless entity. -/
def decodeEntry : Value → Option (String × String × List (String × Value))
  | .object [("uid", .object [("type", .string t), ("id", .string i)]), ("attrs", .object fields),
      ("parents", .array [])] => some (t, i, fields)
  | _ => none

def readEntry (schema : Schema Ty) (v : Value) : Option (EntityUid × Record Prim) := do
  let (t, i, fields) ← decodeEntry v
  let d ← schema.entityTypes.lookup ⟨t⟩
  let r ← readRecord prims d.attrs fields
  if isIdent t && d.admits i then some (⟨⟨t⟩, i⟩, r) else none

def actionStore (schema : Schema Ty) : Entities Prim :=
  schema.actions.keys.foldr (fun a es => es.insert a ⟨∅, ∅⟩) ∅

/-- Two entries for one uid are the same entity. -/
def noConflict (rs : List (EntityUid × Record Prim)) : Bool :=
  decide (∀ x ∈ rs, ∀ y ∈ rs, x.1 = y.1 → x.2 = y.2)

/-- **The executable constructors.** -/
def reference : RequestApi Ty Prim where
  typeNameFromStr s := if isIdent s then .ok ⟨s⟩ else .error "unexpected token"
  entityIdFromStr id := .ok id
  contextFromJson v schema a :=
    match schema.actions.lookup a, v with
    | some d, .object fields =>
      match readRecord prims d.context fields with
      | some r => .ok r
      | none => .error "expected the context to have the context type of the action"
    | none, _ => .error "action does not exist in the supplied schema"
    | _, _ => .error "expression is not a record"
  requestNew p a r ctx schema :=
    if applies schema ⟨p, a, r, ctx⟩ && admits schema p && admits schema r then .ok ⟨p, a, r, ctx⟩
    else .error "request does not conform to the schema"
  entitiesFromJson v schema :=
    match v with
    | .array vs =>
      match vs.mapM (readEntry schema) with
      | some rs =>
        if noConflict rs then .ok (rs.foldr (fun e es => es.insert e.1 ⟨e.2, ∅⟩) (actionStore schema))
        else .error "duplicate entity entry"
      | none => .error "entity does not conform to the schema"
    | _ => .error "expected an array of entities"
  actionEntities := actionStore

/-! ## The constructors are lawful -/

theorem mapM_eq_some_iff {α γ : Type} {f : α → Option γ} {l : List α} {rs : List γ} :
    l.mapM f = some rs ↔ List.Forall₂ (fun a c => f a = some c) l rs := by
  induction l generalizing rs with
  | nil => simp [List.forall₂_nil_left_iff, eq_comm]
  | cons a l ih =>
    simp only [List.mapM_cons, Option.bind_eq_bind, Option.bind_eq_some_iff,
      List.forall₂_cons_left_iff, Option.pure_def, Option.some.injEq]
    constructor
    · rintro ⟨c, hc, rs', hrs, rfl⟩
      exact ⟨c, rs', hc, ih.mp hrs, rfl⟩
    · rintro ⟨c, rs', hc, hrs, rfl⟩
      exact ⟨c, hc, rs', ih.mpr hrs, rfl⟩

theorem typeNameFromStr_reference {s : String} {t : EntityTypeName} :
    reference.typeNameFromStr s = .ok t ↔ isIdent s = true ∧ t = ⟨s⟩ := by
  change (if isIdent s then _ else _) = _ ↔ _
  split_ifs with h <;> simp [h, eq_comm]

theorem decodeEntry_json (e : EntityEntry) :
    decodeEntry e.json = some (e.typeText, e.id, e.attrs.fields) := rfl

theorem readEntry_json {schema : Schema Ty} {e : EntityEntry} {x : EntityUid × Record Prim} :
    readEntry schema e.json = some x ↔ e.Reads reference prims schema x.1 x.2 := by
  obtain ⟨⟨⟨n⟩, i⟩, r⟩ := x
  simp only [EntityEntry.Reads, typeNameFromStr_reference, EntityTypeName.mk.injEq, readEntry,
    decodeEntry_json, Option.bind_eq_bind, Option.bind_some, Option.bind_eq_some_iff]
  constructor
  · rintro ⟨d, hd, r', hr, h⟩
    split_ifs at h with hc
    rw [Bool.and_eq_true] at hc
    cases h
    exact ⟨⟨hc.1, rfl⟩, rfl, d, hd, hc.2, hr⟩
  · rintro ⟨⟨hi, rfl⟩, rfl, d, hd, ha, hr⟩
    exact ⟨d, hd, r, hr, by rw [hi, ha]; rfl⟩

theorem mem_actionStore {schema : Schema Ty} {uid : EntityUid} (h : uid ∈ actionStore schema) :
    uid ∈ schema.actions := by
  have hl : ∀ l : List EntityUid, uid ∈ l.foldr
      (fun a (es : Entities Prim) => es.insert a ⟨∅, ∅⟩) ∅ → uid ∈ l := by
    intro l
    induction l with
    | nil => intro h; exact absurd h Finmap.notMem_empty
    | cons a l ih =>
      intro h
      rcases Finmap.mem_insert.mp h with rfl | h
      · exact List.mem_cons_self
      · exact List.mem_cons_of_mem _ (ih h)
  exact AList.mem_keys.mpr (hl _ h)

/-- The array of entities, read entry by entry. -/
theorem entitiesFromJson_reference {v : Value} {schema : Schema Ty} {es : Entities Prim} :
    reference.entitiesFromJson v schema = .ok es ↔ ∃ vs rs, v = .array vs ∧
      List.Forall₂ (fun v x => readEntry schema v = some x) vs rs ∧
      (∀ x ∈ rs, ∀ y ∈ rs, x.1 = y.1 → x.2 = y.2) ∧ es = storeOf reference schema rs := by
  cases v with
  | array vs =>
    change (match vs.mapM (readEntry schema) with
      | some rs => if noConflict rs then Except.ok (storeOf reference schema rs) else .error _
      | none => .error _) = _ ↔ _
    simp only [← mapM_eq_some_iff, Value.array.injEq, exists_and_left, exists_eq_left']
    cases vs.mapM (readEntry schema) with
    | none => simp
    | some rs =>
      simp only [noConflict, decide_eq_true_eq, Option.some.injEq, exists_eq_left']
      split_ifs with hc
      · rw [Except.ok.injEq]
        exact ⟨fun h => ⟨hc, h.symm⟩, fun h => h.2.symm⟩
      · exact iff_of_false (fun h => by cases h) fun h => hc h.1
  | _ => exact iff_of_false (fun h => by cases h) (by simp)

/-- **The executable constructors behave as documented.** -/
theorem reference_lawful : reference.Lawful prims where
  action_typeName := by decide
  entityId _ := rfl
  context v schema a r := by
    change (match schema.actions.lookup a, v with
      | some d, .object fields =>
        match readRecord prims d.context fields with
        | some r => Except.ok r
        | none => .error _
      | none, _ => .error _
      | _, _ => .error _) = _ ↔ _
    cases schema.actions.lookup a with
    | none => simp
    | some d =>
      cases v with
      | object fields => cases hr : readRecord prims d.context fields <;> simp [hr]
      | _ => simp
  request p a r ctx schema q := by
    change (if applies schema ⟨p, a, r, ctx⟩ && admits schema p && admits schema r then
      Except.ok (Request.mk p a r ctx) else .error _) = _ ↔ _
    simp only [← applies_iff, ← admits_iff]
    split_ifs with h
    · rw [Bool.and_eq_true, Bool.and_eq_true] at h
      rw [Except.ok.injEq]
      constructor
      · rintro rfl
        exact ⟨rfl, h.1.1, h.1.2, h.2⟩
      · exact fun hq => hq.1.symm
    · refine iff_of_false (by simp) ?_
      rintro ⟨rfl, h1, h2, h3⟩
      exact h (by rw [h1, h2, h3]; rfl)
  entities schema l _ es := by
    rw [entitiesFromJson_reference]
    constructor
    · rintro ⟨vs, rs, hvs, hrs, hc, rfl⟩
      cases hvs
      exact ⟨rs, (List.forall₂_map_left_iff.mp hrs).imp fun _ _ => readEntry_json.mp, hc, rfl⟩
    · rintro ⟨rs, hrs, hc, rfl⟩
      refine ⟨_, rs, rfl, List.forall₂_map_left_iff.mpr ?_, hc, rfl⟩
      exact hrs.imp fun _ _ => readEntry_json.mpr
  action_entities _ _ h := mem_actionStore h

/-- A schema with one action. -/
def oneAction (entityTypes : AList fun _ : EntityTypeName => EntityDecl Ty) (a : EntityUid)
    (d : ActionDecl Ty) (hd : ∀ t ∈ d.principalTypes ++ d.resourceTypes, t ∈ entityTypes)
    (ha : a.typeName ∉ entityTypes) : Schema Ty where
  entityTypes := entityTypes
  actions := AList.singleton a d
  declared a' d' h t ht := by
    have he : (⟨a', d'⟩ : Sigma fun _ : EntityUid => ActionDecl Ty) ∈ [⟨a, d⟩] :=
      AList.mem_lookup_iff.mp h
    rw [List.mem_singleton] at he
    cases he
    exact hd t ht
  action_type a' h := by
    rw [AList.mem_keys, AList.keys_singleton, List.mem_singleton] at h
    exact h ▸ ha

end AuthzenPdp
