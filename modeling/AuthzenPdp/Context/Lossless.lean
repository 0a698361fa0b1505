import AuthzenPdp.Context.Valid

/-!
# Load-time validation is the serve-time precondition

* `Lossless`: serving a list of determining ids drops and replaces nothing;
* `lossless_of_wellAnnotated`, `wellAnnotated_of_lossless`;
* `servedContext_eq_union`, `servedContext_eq_none_iff`: the context put together from its parts;
* `ContextParts`: the response context as the disjoint union of the author's entries, `reason` and
  `errors` (`contextParts_of_wellAnnotated`);
* **`annotation_checks_iff_lossless`**: the loader's two annotation checks accept exactly the sets
  that are always served without loss.
-/

namespace AuthzenPdp

open MinBy

variable {β : Type}

/-- `insert_annotation_entry` skips a prefixed annotation. -/
def skipsEntry (key : String) : Prop := decisionContextKey key = some ""

/-- `build_response_context` inserts `key`, and the author part already has it. -/
def overwrites (author : JsonMap) (key : String) (values : List String) : Prop :=
  values ≠ [] ∧ key ∈ author

/-- The author part of the context handed to `build_response_context`. -/
def authorContext (ps : PolicySet β) (ids : List PolicyId) : JsonMap :=
  ((toDecisionContext ps ids).map DecisionContext.context).getD ∅

/-- **Serving `ids` with `errors` is lossless**: no comparison falls back on an invalid
`@priority`, no prefixed annotation of the winner is skipped, no author key is overwritten. -/
structure Lossless (ps : PolicySet β) (ids : List PolicyId) (errors : List String) : Prop where
  priority : ∀ c ∈ compared compareForContext (ids.filterMap ps.policy),
    invalidPriority c.1 = false ∧ invalidPriority c.2 = false
  entry : ∀ p, winner ps ids = some p → ∀ e ∈ p.annotations.entries, ¬ skipsEntry e.1
  reason : ¬ overwrites (authorContext ps ids) reservedReasonKey (resolveReason ids (some ps))
  errors : ¬ overwrites (authorContext ps ids) reservedErrorsKey errors

/-- The response context that `evaluate` builds for `ids` and `errors`. -/
def servedContext (ps : PolicySet β) (ids : List PolicyId) (errors : List String) : Option JsonMap :=
  buildResponseContext ((toDecisionContext ps ids).map DecisionContext.context)
    (resolveReason ids (some ps)) errors

/-- A reserved part: one key when there is something to report. -/
def reservedPart (key : String) (values : List String) : JsonMap :=
  if values = [] then ∅ else Finmap.singleton key (jsonStringArray values)

/-- **The three parts of the context**: the annotations of the selected policy, the sorted display
ids of all determining policies, the errors. -/
structure ContextParts (ps : PolicySet β) (ids : List PolicyId) (errors : List String)
    (author : JsonMap) (names : List String) : Prop where
  author_lookup : ∀ k, author.lookup k =
    (winner ps ids).bind fun p => (p.annotationAt (decisionContextPrefix ++ k)).map Value.string
  names_perm : names.Perm ((ids.filterMap ps.policy).map displayId)
  names_sorted : names.Pairwise (· ≤ ·)
  author_reason : Finmap.Disjoint author (reservedPart reservedReasonKey names)
  author_errors : Finmap.Disjoint author (reservedPart reservedErrorsKey errors)
  reason_errors : Finmap.Disjoint (reservedPart reservedReasonKey names)
    (reservedPart reservedErrorsKey errors)
  union : (servedContext ps ids errors).getD ∅ =
    author ∪ reservedPart reservedReasonKey names ∪ reservedPart reservedErrorsKey errors
  absent : servedContext ps ids errors = none ↔ author = ∅ ∧ ids = [] ∧ errors = []

theorem lookup_authorContext (ps : PolicySet β) (ids : List PolicyId) (k : String) :
    (authorContext ps ids).lookup k = (winner ps ids).bind fun p =>
      if k = "" then none else (p.annotationAt (decisionContextPrefix ++ k)).map Value.string := by
  rw [authorContext, toDecisionContext_eq]
  cases h : winner ps ids with
  | none => simp
  | some p => rw [Option.bind_some, contextOf_context, lookup_annotationContext]; rfl

theorem resolveReason_perm {ps : PolicySet β} {ids : List PolicyId}
    (h : ∀ id ∈ ids, id ∈ ps.policies.map Policy.id) :
    (resolveReason ids (some ps)).Perm ((ids.filterMap ps.policy).map displayId) := by
  refine (List.perm_insertionSort _ _).trans (List.Perm.of_eq ?_)
  induction ids with
  | nil => rfl
  | cons id ids ih =>
    obtain ⟨p, hp⟩ := PolicySet.exists_policy (h id List.mem_cons_self)
    rw [List.map_cons, List.filterMap_cons_some hp, List.map_cons,
      ih fun i hi => h i (List.mem_cons_of_mem _ hi)]
    simp [hp]

theorem resolveReason_eq_nil_iff {ps : Option (PolicySet β)} {ids : List PolicyId} :
    resolveReason ids ps = [] ↔ ids = [] := by
  rw [← List.length_eq_zero_iff, resolveReason, List.length_insertionSort, List.length_map,
    List.length_eq_zero_iff]

/-! ## Both directions -/

/-- The author part of an accepted set. -/
theorem lookup_authorContext_of_wellAnnotated {ps : PolicySet β} (h : ps.WellAnnotated)
    (ids : List PolicyId) (k : String) : (authorContext ps ids).lookup k =
      (winner ps ids).bind fun p => (p.annotationAt (decisionContextPrefix ++ k)).map Value.string := by
  rw [lookup_authorContext]
  cases hw : winner ps ids with
  | none => rfl
  | some p =>
    rw [Option.bind_some, Option.bind_some]
    split_ifs with hk
    · cases hp : p.annotationAt (decisionContextPrefix ++ k) with
      | none => rfl
      | some v =>
        exact absurd hk ((h p (winner_mem hw).1).key k (by rw [hp]; exact Option.some_ne_none v)).1
    · rfl

/-- The author part of an accepted set has no reserved key. -/
theorem reserved_notMem_authorContext {ps : PolicySet β} (h : ps.WellAnnotated) (ids : List PolicyId)
    {k : String} (hk : k = reservedReasonKey ∨ k = reservedErrorsKey) : k ∉ authorContext ps ids := by
  intro hin
  obtain ⟨v, hv⟩ := Finmap.mem_iff.mp hin
  rw [lookup_authorContext_of_wellAnnotated h, Option.bind_eq_some_iff] at hv
  obtain ⟨p, hp, hv⟩ := hv
  obtain ⟨-, h1, h2⟩ := (h p (winner_mem hp).1).key k fun hn => by rw [hn] at hv; cases hv
  exact hk.elim h1 h2

theorem lossless_of_wellAnnotated {ps : PolicySet β} (h : ps.WellAnnotated) (ids : List PolicyId)
    (errors : List String) : Lossless ps ids errors := by
  have hmem : ∀ p ∈ ids.filterMap ps.policy, p.WellAnnotated :=
    fun p hp => h p (mem_determining_iff.mp hp).1
  refine ⟨fun c hc => ?_, fun p hp e he hskip => ?_, fun ho => ?_, fun ho => ?_⟩
  · obtain ⟨h1, h2⟩ := mem_of_mem_compared _ hc
    exact ⟨(hmem _ h1).priority, (hmem _ h2).priority⟩
  · have hann := (mem_entries_iff p e.1 e.2).mp he
    rw [decisionContextKey_eq_some_iff.mp hskip] at hann
    exact ((h p (winner_mem hp).1).key "" fun hn => by rw [hn] at hann; cases hann).1 rfl
  · exact reserved_notMem_authorContext h ids (.inl rfl) ho.2
  · exact reserved_notMem_authorContext h ids (.inr rfl) ho.2

theorem winner_pair {ps : PolicySet β} {p : Policy β} (hp : p ∈ ps.policies) :
    winner ps [p.id, p.id] = some p := by
  have hl : [p.id, p.id].filterMap ps.policy = [p, p] := by simp [PolicySet.policy_of_mem hp]
  obtain ⟨q, hq⟩ := exists_minBy (compareForContext (β := β)) (l := [p, p]) (by simp)
  have hqp : q ∈ [p, p] := (minBy_leastIn compareForContext_eq hq).1
  rw [winner, hl, hq]
  simpa using hqp

/-- Serving each policy with itself, and with an error, shows every annotation that is lost. -/
theorem wellAnnotated_of_lossless {ps : PolicySet β}
    (h : ∀ ids, ids ≠ [] → (∀ id ∈ ids, id ∈ ps.policies.map Policy.id) → ∀ errors,
      Lossless ps ids errors) : ps.WellAnnotated := by
  intro p hp
  have hl := h [p.id, p.id] (by simp) (by simpa using ⟨p, hp, rfl⟩) [""]
  have hw := winner_pair hp
  refine ⟨?_, fun k hk => ?_⟩
  · have hc : (p, p) ∈ compared compareForContext ([p.id, p.id].filterMap ps.policy) := by
      simp [PolicySet.policy_of_mem hp, compared, comparedFrom]
    exact (hl.priority _ hc).1
  · obtain ⟨v, hv⟩ := Option.ne_none_iff_exists'.mp hk
    have hne : k ≠ "" := by
      rintro rfl
      refine hl.entry p hw ⟨decisionContextPrefix ++ "", v⟩ ((mem_entries_iff p _ v).mpr hv) ?_
      exact decisionContextKey_append ""
    have hin : k ∈ authorContext ps [p.id, p.id] := by
      rw [Finmap.mem_iff]
      exact ⟨.string v, by rw [lookup_authorContext, hw, Option.bind_some, if_neg hne, hv]; rfl⟩
    refine ⟨hne, ?_, ?_⟩
    · rintro rfl
      exact hl.reason ⟨by rw [ne_eq, resolveReason_eq_nil_iff]; simp, hin⟩
    · rintro rfl
      exact hl.errors ⟨by simp, hin⟩

/-! ## The three parts -/

theorem lookup_reservedPart (key : String) (values : List String) (k : String) :
    (reservedPart key values).lookup k =
      if k = key ∧ values ≠ [] then some (jsonStringArray values) else none := by
  unfold reservedPart
  split_ifs with h1 h2 h2
  · exact absurd h1 h2.2
  · exact Finmap.lookup_empty k
  · rw [h2.1]; exact Finmap.lookup_singleton_eq
  · rw [Finmap.lookup_eq_none, Finmap.mem_singleton]
    exact fun hk => h2 ⟨hk, h1⟩

theorem mem_reservedPart {key : String} {values : List String} {k : String}
    (h : k ∈ reservedPart key values) : k = key ∧ values ≠ [] := by
  obtain ⟨v, hv⟩ := Finmap.mem_iff.mp h
  rw [lookup_reservedPart] at hv
  split_ifs at hv with hk
  exact hk

theorem lookup_union (m m' : JsonMap) (k : String) :
    (m ∪ m').lookup k = (m.lookup k).or (m'.lookup k) := by
  by_cases hk : k ∈ m
  · obtain ⟨v, hv⟩ := Finmap.mem_iff.mp hk
    rw [Finmap.lookup_union_left hk, hv, Option.some_or]
  · rw [Finmap.lookup_union_right hk, Finmap.lookup_eq_none.mpr hk, Option.none_or]

/-- The served context of an accepted set, put together from its parts. -/
theorem servedContext_eq_union {ps : PolicySet β} (h : ps.WellAnnotated) (ids : List PolicyId)
    (errors : List String) : (servedContext ps ids errors).getD ∅ = authorContext ps ids ∪
      reservedPart reservedReasonKey (resolveReason ids (some ps)) ∪
        reservedPart reservedErrorsKey errors := by
  refine Finmap.ext_lookup fun k => ?_
  rw [servedContext, lookup_buildResponseContext, lookup_union, lookup_union, lookup_reservedPart,
    lookup_reservedPart, ← authorContext]
  by_cases he : k = reservedErrorsKey ∧ errors ≠ []
  · have hr : ¬ (k = reservedReasonKey ∧ resolveReason ids (some ps) ≠ []) :=
      fun hr => reservedReasonKey_ne_errors (hr.1.symm.trans he.1)
    have ha := Finmap.lookup_eq_none.mpr (reserved_notMem_authorContext h ids (.inr he.1))
    simp only [if_pos he, if_neg hr, ha, Option.none_or]
  · by_cases hr : k = reservedReasonKey ∧ resolveReason ids (some ps) ≠ []
    · have ha := Finmap.lookup_eq_none.mpr (reserved_notMem_authorContext h ids (.inl hr.1))
      simp only [if_neg he, if_pos hr, ha, Option.none_or, Option.or_none]
    · simp only [if_neg he, if_neg hr, Option.or_none]

theorem reservedPart_eq_empty_iff {key : String} {values : List String} :
    reservedPart key values = ∅ ↔ values = [] := by
  constructor
  · intro h
    by_contra hne
    have hk := lookup_reservedPart key values key
    rw [h, if_pos ⟨rfl, hne⟩, Finmap.lookup_empty] at hk
    cases hk
  · rintro rfl
    rfl

theorem union_eq_empty_iff {m m' : JsonMap} : m ∪ m' = ∅ ↔ m = ∅ ∧ m' = ∅ := by
  constructor
  · intro h
    have hk : ∀ k, m.lookup k = none ∧ m'.lookup k = none := by
      intro k
      rw [← Option.or_eq_none_iff, ← lookup_union, h, Finmap.lookup_empty]
    exact ⟨Finmap.ext_lookup fun k => by rw [(hk k).1, Finmap.lookup_empty],
      Finmap.ext_lookup fun k => by rw [(hk k).2, Finmap.lookup_empty]⟩
  · rintro ⟨rfl, rfl⟩
    rfl

/-- A context is absent when there is nothing to report. -/
theorem servedContext_eq_none_iff {ps : PolicySet β} (h : ps.WellAnnotated) {ids : List PolicyId}
    {errors : List String} :
    servedContext ps ids errors = none ↔ authorContext ps ids = ∅ ∧ ids = [] ∧ errors = [] := by
  rw [servedContext, buildResponseContext_eq_none_iff, ← servedContext, servedContext_eq_union h,
    union_eq_empty_iff, union_eq_empty_iff, reservedPart_eq_empty_iff, reservedPart_eq_empty_iff,
    resolveReason_eq_nil_iff, and_assoc]

theorem contextParts_of_wellAnnotated {ps : PolicySet β} (h : ps.WellAnnotated) {ids : List PolicyId}
    (hids : ∀ id ∈ ids, id ∈ ps.policies.map Policy.id) (errors : List String) :
    ContextParts ps ids errors (authorContext ps ids) (resolveReason ids (some ps)) where
  author_lookup := lookup_authorContext_of_wellAnnotated h ids
  names_perm := resolveReason_perm hids
  names_sorted := List.pairwise_insertionSort _ _
  author_reason _ hk hk' := reserved_notMem_authorContext h ids (.inl (mem_reservedPart hk').1) hk
  author_errors _ hk hk' := reserved_notMem_authorContext h ids (.inr (mem_reservedPart hk').1) hk
  reason_errors _ hk hk' :=
    reservedReasonKey_ne_errors ((mem_reservedPart hk).1.symm.trans (mem_reservedPart hk').1)
  union := servedContext_eq_union h ids errors
  absent := servedContext_eq_none_iff h

/-- **The loader's annotation checks are exactly the serve-time precondition.** They accept a set
iff serving any non-empty list of its ids with any errors is lossless; and the context answered for
an accepted set is the disjoint union of its three parts, absent iff all are empty. -/
theorem annotation_checks_iff_lossless (ps : PolicySet β) :
    ((validatePriorities ps = .ok () ∧ validateDecisionContexts ps = .ok ()) ↔
      ∀ ids, ids ≠ [] → (∀ id ∈ ids, id ∈ ps.policies.map Policy.id) → ∀ errors,
        Lossless ps ids errors) ∧
    (validatePriorities ps = .ok () ∧ validateDecisionContexts ps = .ok () →
      ∀ ids, (∀ id ∈ ids, id ∈ ps.policies.map Policy.id) → ∀ errors,
        ∃ author names, ContextParts ps ids errors author names) := by
  rw [annotation_checks_ok_iff]
  exact ⟨⟨fun h ids _ _ errors => lossless_of_wellAnnotated h ids errors, wellAnnotated_of_lossless⟩,
    fun h ids hids errors => ⟨_, _, contextParts_of_wellAnnotated h hids errors⟩⟩

end AuthzenPdp
