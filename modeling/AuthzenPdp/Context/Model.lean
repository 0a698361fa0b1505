import AuthzenPdp.Policy
import AuthzenPdp.Lib.MinBy
import Mathlib.Data.String.Basic
import Mathlib.Data.Prod.Lex

/-!
# The response context

Of the determining policies, one supplies the annotation-derived entries of the response context:
the least by `@priority`, then by display id. To these the server adds the reserved keys `reason`
and `errors`.

* `displayId`, `parsePriority`, `priorityOf`, `decisionContextKey`;
* `toDecisionContext`, `buildResponseContext`, `resolveReason`;
* `decisionContextKey_eq_some_iff`, **`lookup_annotationContext`**: the entries a policy supplies
  are its `decision_context_<key>` annotations with a non-empty key;
* **`toDecisionContext_eq`**: the selection in terms of `winner`;
* `determining`, `mem_determining_iff`: the policies that the ids resolve to;
* `SameContext`, `contextOf_congr`: policies that contribute the same entries;
* `lookup_buildResponseContext`: the merged context, key by key.
-/

namespace AuthzenPdp

open MinBy

def idAnnotation : String := "id"

/-- Annotations copied into the response context. -/
def decisionContextPrefix : String := "decision_context_"

def priorityAnnotation : String := "priority"

/-- `u32`. -/
abbrev U32 : Type := Fin (2 ^ 32)

/-- `u32::MAX`, the priority of a policy without `@priority`. -/
def lowestPriority : U32 := Fin.last _

def reservedReasonKey : String := "reason"

def reservedErrorsKey : String := "errors"

variable {β : Type}

def displayId (p : Policy β) : String := (p.annotationAt idAnnotation).getD p.id

/-! ## `@priority` -/

/-- One digit of `u32::from_str`, with its overflow check. -/
def digitStep (acc : U32) (c : Char) : Option U32 :=
  if c.isDigit then
    if h : acc.val * 10 + (c.toNat - '0'.toNat) < 2 ^ 32 then some ⟨_, h⟩ else none
  else none

/-- The digits of `u32::from_str`; an empty text is no number. -/
def parseDigits : List Char → Option U32
  | [] => none
  | c :: cs => (c :: cs).foldlM digitStep 0

/-- `raw.parse::<u32>().ok()`: digits after an optional plus sign. -/
def parsePriority (raw : String) : Option U32 :=
  match raw.toList with
  | '+' :: cs => parseDigits cs
  | cs => parseDigits cs

def priorityOf (p : Policy β) : U32 :=
  match p.annotationAt priorityAnnotation with
  | none => lowestPriority
  | some raw => (parsePriority raw).getD lowestPriority

/-- `priority_of` takes its fallback for an invalid value (and warns). -/
def invalidPriority (p : Policy β) : Bool :=
  match p.annotationAt priorityAnnotation with
  | none => false
  | some raw => (parsePriority raw).isNone

/-! ## Annotation-derived entries -/

/-- `str::strip_prefix`. -/
def stripPrefix (s pre : String) : Option String :=
  (s.toList.dropPrefix? pre.toList).map String.ofList

def decisionContextKey (annotationKey : String) : Option String :=
  stripPrefix annotationKey decisionContextPrefix

def isReservedContextKey (key : String) : Bool :=
  key == reservedReasonKey || key == reservedErrorsKey

def insertAnnotationEntry (context : JsonMap) (key value : String) : JsonMap :=
  match decisionContextKey key with
  | none => context
  | some contextKey => if contextKey.isEmpty then context else context.insert contextKey (.string value)

/-- The loop of `to_decision_context` over the annotations of the winner. -/
def annotationContext (p : Policy β) : JsonMap := p.annotations.foldl insertAnnotationEntry ∅

/-! ## Selection -/

structure DecisionContext where
  policyId : String
  context : JsonMap

/-- The comparison of `to_decision_context`. -/
def compareForContext (a b : Policy β) : Ordering :=
  (compare (priorityOf a) (priorityOf b)).then (compare (displayId a) (displayId b))

/-- The policy that supplies the context. -/
def winner (ps : PolicySet β) (reasonIds : List PolicyId) : Option (Policy β) :=
  minBy compareForContext (reasonIds.filterMap ps.policy)

def toDecisionContext (ps : PolicySet β) (reasonIds : List PolicyId) : Option DecisionContext := do
  let winner ← winner ps reasonIds
  let context := annotationContext winner
  if context.isEmpty then none else some ⟨displayId winner, context⟩

def jsonStringArray (values : List String) : Value := .array (values.map .string)

def buildResponseContext (annotationContext : Option JsonMap) (reason errors : List String) :
    Option JsonMap :=
  let context := annotationContext.getD ∅
  let context := if reason.isEmpty then context
    else context.insert reservedReasonKey (jsonStringArray reason)
  let context := if errors.isEmpty then context
    else context.insert reservedErrorsKey (jsonStringArray errors)
  if context.isEmpty then none else some context

/-- The sorted display ids of the determining policies; an unknown id is shown as it is. -/
def resolveReason (reasonIds : List PolicyId) (ps : Option (PolicySet β)) : List String :=
  (reasonIds.map fun id =>
    match ps.bind fun ps => ps.policy id with
    | none => id
    | some p => displayId p).insertionSort (· ≤ ·)

/-! ## Keys -/

theorem stripPrefix_eq_some_iff {s pre k : String} : stripPrefix s pre = some k ↔ s = pre ++ k := by
  rw [stripPrefix, Option.map_eq_some_iff]
  constructor
  · rintro ⟨cs, h, rfl⟩
    obtain ⟨p', hs, hp⟩ := List.dropPrefix?_eq_some_iff.mp h
    rw [beq_iff_eq] at hp
    rw [← String.toList_inj, hs, hp, String.toList_append, String.toList_ofList]
  · rintro rfl
    refine ⟨k.toList, List.dropPrefix?_eq_some_iff.mpr ⟨pre.toList, ?_, beq_self_eq_true _⟩, ?_⟩
    · exact String.toList_append
    · exact String.ofList_toList

theorem decisionContextKey_eq_some_iff {key k : String} :
    decisionContextKey key = some k ↔ key = decisionContextPrefix ++ k :=
  stripPrefix_eq_some_iff

theorem decisionContextKey_append (k : String) :
    decisionContextKey (decisionContextPrefix ++ k) = some k :=
  decisionContextKey_eq_some_iff.mpr rfl

theorem prefix_injective : Function.Injective fun k : String => decisionContextPrefix ++ k := by
  intro k k' h
  have h' := decisionContextKey_append k
  rw [show decisionContextPrefix ++ k = decisionContextPrefix ++ k' from h,
    decisionContextKey_append] at h'
  exact (Option.some.inj h').symm

theorem isReservedContextKey_iff {k : String} :
    isReservedContextKey k = true ↔ k = reservedReasonKey ∨ k = reservedErrorsKey := by
  rw [isReservedContextKey, Bool.or_eq_true, beq_iff_eq, beq_iff_eq]

/-! ## The entries a policy supplies -/

theorem lookup_insertAnnotationEntry (m : JsonMap) (key value k : String) :
    (insertAnnotationEntry m key value).lookup k =
      if key = decisionContextPrefix ++ k ∧ k ≠ "" then some (.string value) else m.lookup k := by
  unfold insertAnnotationEntry
  cases hk : decisionContextKey key with
  | none =>
    rw [if_neg]
    rintro ⟨rfl, -⟩
    rw [decisionContextKey_append] at hk
    cases hk
  | some k' =>
    obtain rfl := decisionContextKey_eq_some_iff.mp hk
    by_cases he : k' = ""
    · subst he
      rw [if_neg]
      · rfl
      · rintro ⟨h, hne⟩
        exact hne (prefix_injective h).symm
    · have he' : k'.isEmpty = false := by rw [Bool.eq_false_iff, ne_eq, String.isEmpty_iff]; exact he
      simp only [he', Bool.false_eq_true, if_false]
      by_cases hkk : k = k'
      · subst hkk
        rw [Finmap.lookup_insert, if_pos ⟨rfl, he⟩]
      · rw [Finmap.lookup_insert_of_ne _ hkk, if_neg]
        rintro ⟨h, -⟩
        exact hkk (prefix_injective h).symm

theorem lookup_foldl_insertAnnotationEntry (k : String) :
    ∀ (l : List (Sigma fun _ : String => String)) (m : JsonMap), l.NodupKeys →
      (l.foldl (fun r a => insertAnnotationEntry r a.1 a.2) m).lookup k =
        if k = "" then m.lookup k
        else match l.dlookup (decisionContextPrefix ++ k) with
          | none => m.lookup k
          | some v => some (.string v)
  | [], m, _ => by simp
  | ⟨key, value⟩ :: l, m, hl => by
    have hl' := List.nodupKeys_cons.mp hl
    rw [List.foldl_cons, lookup_foldl_insertAnnotationEntry k l _ hl'.2,
      lookup_insertAnnotationEntry]
    by_cases hk : k = ""
    · simp [hk]
    · simp only [hk, if_false, ne_eq, not_false_eq_true, and_true]
      by_cases hkey : key = decisionContextPrefix ++ k
      · subst hkey
        rw [List.dlookup_cons_eq, List.dlookup_eq_none.mpr hl'.1]
        simp
      · rw [List.dlookup_cons_ne l _ (Ne.symm hkey), if_neg hkey]

/-- **The entries of a policy**: `k ↦ v` for its annotations `decision_context_k = v`, `k ≠ ""`. -/
theorem lookup_annotationContext (p : Policy β) (k : String) :
    (annotationContext p).lookup k =
      if k = "" then none else (p.annotationAt (decisionContextPrefix ++ k)).map Value.string := by
  rw [annotationContext, AList.foldl, lookup_foldl_insertAnnotationEntry k _ _ p.annotations.nodupKeys,
    Finmap.lookup_empty]
  change (if k = "" then none else match p.annotationAt (decisionContextPrefix ++ k) with
    | none => none
    | some v => some (Value.string v)) = _
  cases p.annotationAt (decisionContextPrefix ++ k) <;> rfl

/-! ## The selection -/

/-- The key that `to_decision_context` minimises. -/
def contextRank (p : Policy β) : U32 ×ₗ String := toLex (priorityOf p, displayId p)

theorem compareForContext_eq (a b : Policy β) :
    compareForContext a b = compare (contextRank a) (contextRank b) := by
  rw [Prod.Lex.compare_def]
  rfl

theorem winner_leastIn {ps : PolicySet β} {ids : List PolicyId} {p : Policy β}
    (h : winner ps ids = some p) : LeastIn contextRank (ids.filterMap ps.policy) p :=
  minBy_leastIn compareForContext_eq h

/-- The policies that the reason ids resolve to, with repetitions; unknown ids are dropped. -/
def determining (ps : PolicySet β) (reasonIds : List PolicyId) : List (Policy β) :=
  reasonIds.filterMap ps.policy

theorem mem_determining_iff {ps : PolicySet β} {ids : List PolicyId} {p : Policy β} :
    p ∈ determining ps ids ↔ p ∈ ps.policies ∧ p.id ∈ ids := by
  rw [determining, List.mem_filterMap]
  constructor
  · rintro ⟨id, hid, hp⟩
    obtain ⟨hmem, rfl⟩ := PolicySet.policy_eq_some_iff.mp hp
    exact ⟨hmem, hid⟩
  · rintro ⟨hp, hid⟩
    exact ⟨p.id, hid, PolicySet.policy_of_mem hp⟩

theorem winner_mem {ps : PolicySet β} {ids : List PolicyId} {p : Policy β}
    (h : winner ps ids = some p) : p ∈ ps.policies ∧ p.id ∈ ids :=
  mem_determining_iff.mp (winner_leastIn h).1

/-- What the winner contributes: nothing, or its display id and its entries. -/
def contextOf (p : Policy β) : Option DecisionContext :=
  if (annotationContext p).isEmpty then none else some ⟨displayId p, annotationContext p⟩

theorem toDecisionContext_eq (ps : PolicySet β) (ids : List PolicyId) :
    toDecisionContext ps ids = (winner ps ids).bind contextOf := rfl

/-- The entries that reach the response, empty when none do. -/
theorem contextOf_context (p : Policy β) :
    ((contextOf p).map DecisionContext.context).getD ∅ = annotationContext p := by
  unfold contextOf
  split_ifs with h
  · exact (JsonMap.isEmpty_iff.mp h).symm
  · rfl

/-- The two policies carry the same `decision_context_*` annotations. -/
def SameContext (p q : Policy β) : Prop :=
  ∀ k, p.annotationAt (decisionContextPrefix ++ k) = q.annotationAt (decisionContextPrefix ++ k)

theorem annotationContext_congr {p q : Policy β} (h : SameContext p q) :
    annotationContext p = annotationContext q :=
  Finmap.ext_lookup fun k => by rw [lookup_annotationContext, lookup_annotationContext, h k]

theorem contextOf_congr {p q : Policy β} (hid : displayId p = displayId q) (h : SameContext p q) :
    contextOf p = contextOf q := by
  rw [contextOf, contextOf, annotationContext_congr h, hid]

/-! ## The merged context -/

theorem reservedReasonKey_ne_errors : reservedReasonKey ≠ reservedErrorsKey := by decide

theorem ite_isEmpty_eq_none (m : JsonMap) : (if m.isEmpty then none else some m) = none ↔ m = ∅ := by
  rw [← JsonMap.isEmpty_iff]
  split_ifs with h <;> simp [h]

/-- A context is answered iff it has an entry, and then all of them. -/
theorem getD_of_isEmpty (m : JsonMap) : (if m.isEmpty then none else some m).getD ∅ = m := by
  split_ifs with h
  · exact (JsonMap.isEmpty_iff.mp h).symm
  · rfl

/-- **The merged context, key by key.** -/
theorem lookup_buildResponseContext (m : Option JsonMap) (reason errors : List String) (k : String) :
    ((buildResponseContext m reason errors).getD ∅).lookup k =
      if k = reservedErrorsKey ∧ errors ≠ [] then some (jsonStringArray errors)
      else if k = reservedReasonKey ∧ reason ≠ [] then some (jsonStringArray reason)
      else (m.getD ∅).lookup k := by
  unfold buildResponseContext
  rw [getD_of_isEmpty]
  have hins : ∀ (m : JsonMap) (key : String) (vs : List String),
      (if vs.isEmpty then m else m.insert key (jsonStringArray vs)).lookup k =
        if k = key ∧ vs ≠ [] then some (jsonStringArray vs) else m.lookup k := by
    intro m key vs
    cases vs with
    | nil => simp
    | cons v vs =>
      by_cases hk : k = key
      · subst hk; simp [Finmap.lookup_insert]
      · simp [hk, Finmap.lookup_insert_of_ne _ hk]
  rw [hins, hins]

theorem buildResponseContext_eq_none_iff (m : Option JsonMap) (reason errors : List String) :
    buildResponseContext m reason errors = none ↔
      (buildResponseContext m reason errors).getD ∅ = ∅ := by
  unfold buildResponseContext
  rw [getD_of_isEmpty, ite_isEmpty_eq_none]

end AuthzenPdp
