import AuthzenPdp.Authzen

/-!
# Schemas, requests and entities

What a Cedar schema declares, and what it means that a record, a request or an entity store
conforms to it. Attribute types `τ` and Cedar values `ν` stay abstract; a `Typing` reads a JSON
value at a type.

* `Schema`: entity types and actions; the types an action applies to are declared;
* `Conforms`: a record has exactly declared attributes of their types, and all required ones;
* `readRecord`, `AttrsRead`: a JSON object read at a record type, `readRecord_conforms`;
* `HoldsExactly`, `readRecord_exact`: what is read has exactly the fields of the object;
* `Request`, `Entities`, `attrsOf`: the attributes a policy sees on an entity;
* `Schema.Applies`, `EntityConforms`: a request and an entity of the store conform.
-/

namespace AuthzenPdp

/-- A parsed entity type name. -/
structure EntityTypeName where
  name : String
  deriving DecidableEq

structure EntityUid where
  typeName : EntityTypeName
  id : String
  deriving DecidableEq

/-- A record of Cedar values. -/
abbrev Record (ν : Type) : Type := Finmap fun _ : String => ν

/-- An attribute of a record type. -/
structure AttrDecl (τ : Type) where
  ty : τ
  required : Bool

/-- A record type. -/
abbrev RecordDecl (τ : Type) : Type := AList fun _ : String => AttrDecl τ

/-- An entity type; an enumerated one lists its ids. -/
structure EntityDecl (τ : Type) where
  attrs : RecordDecl τ
  ids : Option (List String)

def EntityDecl.admits {τ : Type} (d : EntityDecl τ) (id : String) : Bool :=
  match d.ids with
  | none => true
  | some ids => ids.contains id

/-- An action with its `appliesTo`. -/
structure ActionDecl (τ : Type) where
  principalTypes : List EntityTypeName
  resourceTypes : List EntityTypeName
  context : RecordDecl τ

/-- A schema: actions apply to declared entity types, and no entity type is an action type. -/
structure Schema (τ : Type) where
  entityTypes : AList fun _ : EntityTypeName => EntityDecl τ
  actions : AList fun _ : EntityUid => ActionDecl τ
  declared : ∀ a d, actions.lookup a = some d → ∀ t ∈ d.principalTypes ++ d.resourceTypes,
    t ∈ entityTypes
  action_type : ∀ a ∈ actions, a.typeName ∉ entityTypes

/-- How JSON values are read at a type, and the type of a Cedar value. -/
structure Typing (τ ν : Type) where
  read : τ → Value → Option ν
  HasType : ν → τ → Prop
  read_hasType : ∀ t v w, read t v = some w → HasType w t

structure Request (ν : Type) where
  principal : EntityUid
  action : EntityUid
  resource : EntityUid
  context : Record ν

structure Entity (ν : Type) where
  attrs : Record ν
  parents : Finset EntityUid

/-- An entity store. -/
abbrev Entities (ν : Type) : Type := Finmap fun _ : EntityUid => Entity ν

variable {τ ν : Type}

/-- The attributes a policy sees on `uid`: none when the store has no such entity. -/
def attrsOf (es : Entities ν) (uid : EntityUid) : Record ν :=
  ((es.lookup uid).map Entity.attrs).getD ∅

/-! ## Conformance -/

/-- All required attributes are there. -/
def HasRequired (d : RecordDecl τ) (r : Record ν) : Prop :=
  ∀ k a, d.lookup k = some a → a.required = true → k ∈ r

/-- All attributes are declared, with their types. -/
def Typed (T : Typing τ ν) (d : RecordDecl τ) (r : Record ν) : Prop :=
  ∀ k w, r.lookup k = some w → ∃ a, d.lookup k = some a ∧ T.HasType w a.ty

/-- The record has the record type. -/
def Conforms (T : Typing τ ν) (d : RecordDecl τ) (r : Record ν) : Prop :=
  HasRequired d r ∧ Typed T d r

/-- The request conforms to the schema. -/
def Schema.Applies (schema : Schema τ) (T : Typing τ ν) (q : Request ν) : Prop :=
  ∃ d, schema.actions.lookup q.action = some d ∧ q.principal.typeName ∈ d.principalTypes ∧
    q.resource.typeName ∈ d.resourceTypes ∧ Conforms T d.context q.context

/-- The entity type of `uid` is declared and admits its id. -/
def Schema.Admits (schema : Schema τ) (uid : EntityUid) : Prop :=
  ∃ d, schema.entityTypes.lookup uid.typeName = some d ∧ d.admits uid.id = true

/-- The attributes that the store gives `uid` conform to its entity type. -/
def EntityConforms (T : Typing τ ν) (schema : Schema τ) (es : Entities ν) (uid : EntityUid) : Prop :=
  ∃ d, schema.entityTypes.lookup uid.typeName = some d ∧ Conforms T d.attrs (attrsOf es uid)

/-! ## Reading JSON objects -/

/-- Read each field at the declared type of its attribute. -/
def readFields (T : Typing τ ν) (d : RecordDecl τ) : List (String × Value) → Option (Record ν)
  | [] => some ∅
  | (k, v) :: fields => do
    let a ← d.lookup k
    let w ← T.read a.ty v
    let r ← readFields T d fields
    some (r.insert k w)

def hasRequired (d : RecordDecl τ) (r : Record ν) : Bool :=
  d.entries.all fun e => !e.2.required || decide (e.1 ∈ r)

/-- Read a JSON object at a record type. -/
def readRecord (T : Typing τ ν) (d : RecordDecl τ) (fields : List (String × Value)) :
    Option (Record ν) := do
  let r ← readFields T d fields
  if hasRequired d r then some r else none

/-- The property map reads as the record `r` at the entity type of `uid`. -/
def AttrsRead (T : Typing τ ν) (schema : Schema τ) (uid : EntityUid) (m : Properties)
    (r : Record ν) : Prop :=
  ∃ d, schema.entityTypes.lookup uid.typeName = some d ∧ readRecord T d.attrs m.fields = some r

@[ext]
theorem EntityUid.ext {u w : EntityUid} (ht : u.typeName = w.typeName) (hi : u.id = w.id) :
    u = w := by
  cases u
  cases w
  rw [EntityUid.mk.injEq]
  exact ⟨ht, hi⟩

theorem hasRequired_iff (d : RecordDecl τ) (r : Record ν) :
    hasRequired d r = true ↔ HasRequired d r := by
  rw [hasRequired, List.all_eq_true]
  constructor
  · intro h k a hk ha
    have := h ⟨k, a⟩ (AList.mem_lookup_iff.mp hk)
    simpa [ha] using this
  · rintro h ⟨k, a⟩ he
    have hk : d.lookup k = some a := AList.mem_lookup_iff.mpr he
    cases ha : a.required with
    | false => simp
    | true => simpa [ha] using h k a hk ha

theorem readFields_cons {T : Typing τ ν} {d : RecordDecl τ} {k : String} {v : Value}
    {fields : List (String × Value)} {r : Record ν} :
    readFields T d ((k, v) :: fields) = some r ↔ ∃ a w r', d.lookup k = some a ∧
      T.read a.ty v = some w ∧ readFields T d fields = some r' ∧ r = r'.insert k w := by
  simp only [readFields, Option.bind_eq_bind, Option.bind_eq_some_iff, Option.some.injEq]
  constructor
  · rintro ⟨a, ha, w, hw, r', hr', rfl⟩
    exact ⟨a, w, r', ha, hw, hr', rfl⟩
  · rintro ⟨a, w, r', ha, hw, hr', rfl⟩
    exact ⟨a, ha, w, hw, r', hr', rfl⟩

theorem readFields_typed {T : Typing τ ν} {d : RecordDecl τ} {fields : List (String × Value)}
    {r : Record ν} (h : readFields T d fields = some r) : Typed T d r := by
  induction fields generalizing r with
  | nil =>
    cases h
    intro k w hk
    rw [Finmap.lookup_empty] at hk
    cases hk
  | cons f fields ih =>
    obtain ⟨a, w, r', ha, hw, hr', rfl⟩ := readFields_cons.mp h
    intro k w' hk
    by_cases hkf : k = f.1
    · subst hkf
      rw [Finmap.lookup_insert, Option.some.injEq] at hk
      exact ⟨a, ha, hk ▸ T.read_hasType _ _ _ hw⟩
    · rw [Finmap.lookup_insert_of_ne _ hkf] at hk
      exact ih hr' k w' hk

theorem readRecord_eq_some_iff {T : Typing τ ν} {d : RecordDecl τ} {fields : List (String × Value)}
    {r : Record ν} :
    readRecord T d fields = some r ↔ readFields T d fields = some r ∧ HasRequired d r := by
  rw [readRecord, Option.bind_eq_bind, Option.bind_eq_some_iff]
  constructor
  · rintro ⟨r', hr', h⟩
    split_ifs at h with hreq
    rw [Option.some.injEq] at h
    exact h ▸ ⟨hr', (hasRequired_iff d r').mp hreq⟩
  · rintro ⟨h, hreq⟩
    exact ⟨r, h, by rw [if_pos ((hasRequired_iff d r).mpr hreq)]⟩

/-- **What is read at a record type conforms to it.** -/
theorem readRecord_conforms {T : Typing τ ν} {d : RecordDecl τ} {fields : List (String × Value)}
    {r : Record ν} (h : readRecord T d fields = some r) : Conforms T d r :=
  ⟨(readRecord_eq_some_iff.mp h).2, readFields_typed (readRecord_eq_some_iff.mp h).1⟩

/-- The record holds exactly the properties, each read at its declared type. -/
structure HoldsExactly (T : Typing τ ν) (d : RecordDecl τ) (m : Properties) (r : Record ν) : Prop where
  mem_iff : ∀ k, k ∈ r ↔ k ∈ m
  value : ∀ k v, m.lookup k = some v →
    ∃ a w, d.lookup k = some a ∧ T.read a.ty v = some w ∧ r.lookup k = some w

theorem readFields_exact {T : Typing τ ν} {d : RecordDecl τ} {fields : List (String × Value)}
    (hnd : (fields.map Prod.fst).Nodup) {r : Record ν} (h : readFields T d fields = some r) :
    (∀ k, k ∈ r ↔ k ∈ fields.map Prod.fst) ∧ ∀ f ∈ fields,
      ∃ a w, d.lookup f.1 = some a ∧ T.read a.ty f.2 = some w ∧ r.lookup f.1 = some w := by
  induction fields generalizing r with
  | nil =>
    cases h
    exact ⟨fun k => iff_of_false Finmap.notMem_empty List.not_mem_nil, fun f hf => by cases hf⟩
  | cons f fields ih =>
    obtain ⟨a, w, r', ha, hw, hr', rfl⟩ := readFields_cons.mp h
    rw [List.map_cons, List.nodup_cons] at hnd
    obtain ⟨hkeys, hvals⟩ := ih hnd.2 hr'
    refine ⟨fun k => ?_, fun g hg => ?_⟩
    · rw [Finmap.mem_insert, hkeys, List.map_cons, List.mem_cons]
    · rcases List.mem_cons.mp hg with rfl | hg
      · exact ⟨a, w, ha, hw, Finmap.lookup_insert _⟩
      · obtain ⟨a', w', ha', hw', hl⟩ := hvals g hg
        have hne : g.1 ≠ f.1 := fun e => hnd.1 (e ▸ List.mem_map_of_mem hg)
        exact ⟨a', w', ha', hw', by rw [Finmap.lookup_insert_of_ne _ hne, hl]⟩

/-- **What is read of a property map is the property map.** -/
theorem readRecord_exact {T : Typing τ ν} {d : RecordDecl τ} {m : Properties} {r : Record ν}
    (h : readRecord T d m.fields = some r) : HoldsExactly T d m r := by
  have hkeys : m.fields.map Prod.fst = m.keys := by
    rw [Properties.fields, List.map_map]
    rfl
  obtain ⟨hmem, hvals⟩ := readFields_exact (hkeys ▸ m.keys_nodup) (readRecord_eq_some_iff.mp h).1
  refine ⟨fun k => ?_, fun k v hk => ?_⟩
  · rw [hmem, hkeys, AList.mem_keys]
  · exact hvals (k, v) (List.mem_map_of_mem (AList.mem_lookup_iff.mp hk))

/-- A field list is read when every field is. -/
theorem exists_readFields_iff {T : Typing τ ν} {d : RecordDecl τ} {fields : List (String × Value)} :
    (∃ r, readFields T d fields = some r) ↔
      ∀ f ∈ fields, ∃ a w, d.lookup f.1 = some a ∧ T.read a.ty f.2 = some w := by
  induction fields with
  | nil => exact iff_of_true ⟨∅, rfl⟩ fun f hf => absurd hf List.not_mem_nil
  | cons f fields ih =>
    rw [List.forall_mem_cons, ← ih]
    constructor
    · rintro ⟨r, hr⟩
      obtain ⟨a, w, r', ha, hw, hr', -⟩ := readFields_cons.mp hr
      exact ⟨⟨a, w, ha, hw⟩, r', hr'⟩
    · rintro ⟨⟨a, w, ha, hw⟩, r', hr'⟩
      exact ⟨_, readFields_cons.mpr ⟨a, w, r', ha, hw, hr', rfl⟩⟩

/-- What is read at a key: the first field of that name. -/
theorem lookup_readFields {T : Typing τ ν} {d : RecordDecl τ} {fields : List (String × Value)}
    {r : Record ν} (h : readFields T d fields = some r) (k : String) :
    r.lookup k = (fields.lookup k).bind fun v => (d.lookup k).bind fun a => T.read a.ty v := by
  induction fields generalizing r with
  | nil =>
    cases h
    exact Finmap.lookup_empty k
  | cons f fields ih =>
    obtain ⟨a, w, r', ha, hw, hr', rfl⟩ := readFields_cons.mp h
    by_cases hk : k = f.1
    · subst hk
      rw [Finmap.lookup_insert, List.lookup_cons_self, Option.bind_some, ha, Option.bind_some, hw]
    · have hbeq : (k == f.1) = false := beq_eq_false_iff_ne.mpr hk
      rw [Finmap.lookup_insert_of_ne _ hk, ih hr', List.lookup_cons, hbeq]

/-- The fields of a property map. -/
theorem lookup_fields (m : Properties) (k : String) : m.fields.lookup k = m.lookup k := by
  obtain ⟨entries, hnd⟩ := m
  change (entries.map fun e => (e.1, e.2)).lookup k = entries.dlookup k
  induction entries with
  | nil => rfl
  | cons e entries ih =>
    obtain ⟨k', v⟩ := e
    by_cases hk : k = k'
    · subst hk
      rw [List.map_cons, List.lookup_cons_self, List.dlookup_cons_eq]
    · have hbeq : (k == k') = false := beq_eq_false_iff_ne.mpr hk
      have hne : List.dlookup k (⟨k', v⟩ :: entries) = entries.dlookup k :=
        List.dlookup_cons_ne entries _ hk
      rw [List.map_cons, List.lookup_cons, hbeq, hne]
      exact ih (List.nodupKeys_cons.mp hnd).2

theorem AttrsRead.unique {T : Typing τ ν} {schema : Schema τ} {uid : EntityUid} {m : Properties}
    {r r' : Record ν} (h : AttrsRead T schema uid m r) (h' : AttrsRead T schema uid m r') : r = r' := by
  obtain ⟨d, hd, hr⟩ := h
  obtain ⟨d', hd', hr'⟩ := h'
  rw [hd] at hd'
  cases hd'
  exact Option.some.inj (hr.symm.trans hr')

theorem conforms_empty {T : Typing τ ν} {d : RecordDecl τ} :
    Conforms T d (∅ : Record ν) ↔ HasRequired d (∅ : Record ν) := by
  refine ⟨And.left, fun h => ⟨h, fun k w hk => ?_⟩⟩
  rw [Finmap.lookup_empty] at hk
  cases hk

/-- The empty record will do when nothing is required. -/
theorem hasRequired_empty_iff {d : RecordDecl τ} :
    HasRequired d (∅ : Record ν) ↔ ∀ k a, d.lookup k = some a → a.required = false := by
  constructor
  · intro h k a hk
    by_contra ha
    exact Finmap.notMem_empty (h k a hk (by simpa using ha))
  · intro h k a hk ha
    rw [h k a hk] at ha
    cases ha

end AuthzenPdp
