import AuthzenPdp.Context.Model
import AuthzenPdp.Lib.Printable

/-!
# Load-time validation

`validateSource` is the gate of the loader: parse, strict validation, `@priority`,
`@decision_context_*`.

* `validatePriorities`, `validateDecisionContexts`, `validateSource`, and what each accepts
  (`validatePriorities_ok_iff`, `validateDecisionContexts_ok_iff`, `validateSource_ok_iff`);
* `WellAnnotated`: the policies that the two annotation checks let through
  (`annotation_checks_ok_iff`);
* `Validates`, `Accepted`: an accepted source, and a set read from one.
-/

namespace AuthzenPdp

variable {β σ : Type}

/-- `policy::PolicyError`, without the schema and configuration errors of startup. -/
inductive PolicyError where
  | fileRead (path source : String)
  | policyParse (path source : String)
  | provider (source : String)
  | validation (errors : String)
  | annotation (errors : String)
  deriving DecidableEq

def PolicyError.text : PolicyError → String
  | .fileRead path source => "read `" ++ path ++ "`: " ++ source
  | .policyParse path source => "parse `" ++ path ++ "`: " ++ source
  | .provider source => "policy provider: " ++ source
  | .validation errors => "schema validation: " ++ errors
  | PolicyError.annotation errors => "invalid annotation: " ++ errors

/-- `char::escape_unicode`. -/
def escapeUnicode (c : Char) : String :=
  "\\u\x7b" ++ String.ofList (Nat.toDigits 16 c.toNat) ++ "\x7d"

/-- The `{:?}` form of a character of a string. -/
def escapeDebug (c : Char) : String :=
  if c = '\x00' then "\\0"
  else if c = '\t' then "\\t"
  else if c = '\r' then "\\r"
  else if c = '\n' then "\\n"
  else if c = '"' then "\\\""
  else if c = '\\' then "\\\\"
  else if Printable.isEscaped c.toNat then escapeUnicode c
  else c.toString

/-- The `{:?}` form of a string. -/
def strDebug (s : String) : String := "\"" ++ String.join (s.toList.map escapeDebug) ++ "\""

/-- A combining accent and a zero-width space are escaped, a letter is not. -/
example : strDebug "é\u0301\u200b" = "\"é\\u\x7b301\x7d\\u\x7b200b\x7d\"" := by decide +kernel

/-- The message of `validate_priorities` about one policy. -/
def priorityIssue (p : Policy β) : Option String := do
  let raw ← p.annotationAt priorityAnnotation
  if (parsePriority raw).isNone then
    some ("policy `" ++ displayId p ++ "`: invalid @priority value " ++ strDebug raw)
  else none

def validatePriorities (ps : PolicySet β) : Except PolicyError Unit :=
  let errors := ps.policies.filterMap priorityIssue
  if errors.isEmpty then .ok () else .error <| PolicyError.annotation ("; ".intercalate errors)

/-- The message of `validate_decision_contexts` about one annotation of a policy. -/
def decisionContextIssue (p : Policy β) (key : String) : Option String := do
  let contextKey ← decisionContextKey key
  if contextKey.isEmpty then
    some ("policy `" ++ displayId p ++ "`: `@decision_context_` without a context key")
  else if isReservedContextKey contextKey then
    some ("policy `" ++ displayId p ++ "`: `@decision_context_" ++ contextKey ++
      "` collides with a PDP-reserved context key")
  else none

def validateDecisionContexts (ps : PolicySet β) : Except PolicyError Unit :=
  let errors := ps.policies.flatMap fun p =>
    p.annotations.entries.filterMap fun e => decisionContextIssue p e.1
  if errors.isEmpty then .ok ()
  else .error <| PolicyError.annotation ("; ".intercalate (errors.insertionSort (· ≤ ·)))

/-- `validate_source`: the number of policies, or why the source is rejected. -/
def validateSource (api : PolicyApi β σ) (src path : String) (schema : σ) : Except PolicyError Nat :=
  match api.fromStr src with
  | .error source => .error (.policyParse path source)
  | .ok ps =>
    let errors := api.validateStrict schema ps
    if !errors.isEmpty then .error (.validation ("; ".intercalate errors))
    else do
      validatePriorities ps
      validateDecisionContexts ps
      .ok ps.policies.length

/-! ## What the checks accept -/

/-- The annotations of a policy that the server can serve as written. -/
structure Policy.WellAnnotated (p : Policy β) : Prop where
  priority : invalidPriority p = false
  key : ∀ k, p.annotationAt (decisionContextPrefix ++ k) ≠ none →
    k ≠ "" ∧ k ≠ reservedReasonKey ∧ k ≠ reservedErrorsKey

def PolicySet.WellAnnotated (ps : PolicySet β) : Prop := ∀ p ∈ ps.policies, p.WellAnnotated

theorem priorityIssue_eq_none_iff (p : Policy β) :
    priorityIssue p = none ↔ invalidPriority p = false := by
  unfold priorityIssue invalidPriority
  cases p.annotationAt priorityAnnotation with
  | none => simp
  | some raw => cases h : parsePriority raw <;> simp [h]

theorem validatePriorities_ok_iff (ps : PolicySet β) :
    validatePriorities ps = .ok () ↔ ∀ p ∈ ps.policies, invalidPriority p = false := by
  have h : validatePriorities ps = .ok () ↔ ps.policies.filterMap priorityIssue = [] := by
    unfold validatePriorities
    cases ps.policies.filterMap priorityIssue <;> simp
  rw [h, List.filterMap_eq_nil_iff]
  exact forall₂_congr fun p _ => priorityIssue_eq_none_iff p

theorem decisionContextIssue_eq_none_iff (p : Policy β) (key : String) :
    decisionContextIssue p key = none ↔ ∀ k, key = decisionContextPrefix ++ k →
      k ≠ "" ∧ k ≠ reservedReasonKey ∧ k ≠ reservedErrorsKey := by
  unfold decisionContextIssue
  cases hk : decisionContextKey key with
  | none =>
    refine iff_of_true rfl fun k h => ?_
    rw [h, decisionContextKey_append] at hk
    cases hk
  | some k =>
    obtain rfl := decisionContextKey_eq_some_iff.mp hk
    have hall : (∀ k', decisionContextPrefix ++ k = decisionContextPrefix ++ k' →
        k' ≠ "" ∧ k' ≠ reservedReasonKey ∧ k' ≠ reservedErrorsKey) ↔
          k ≠ "" ∧ k ≠ reservedReasonKey ∧ k ≠ reservedErrorsKey :=
      ⟨fun h => h k rfl, fun h k' e => prefix_injective e ▸ h⟩
    rw [hall, ← not_or, ← isReservedContextKey_iff]
    change (if k.isEmpty then _ else if isReservedContextKey k then _ else none) = none ↔ _
    split_ifs with h1 h2
    · simp [String.isEmpty_iff.mp h1]
    · simp [h2]
    · rw [String.isEmpty_iff] at h1
      simp [h1, h2]

theorem mem_entries_iff (p : Policy β) (key value : String) :
    ⟨key, value⟩ ∈ p.annotations.entries ↔ p.annotationAt key = some value := by
  rw [Policy.annotationAt, ← Option.mem_def, AList.mem_lookup_iff]

theorem validateDecisionContexts_ok_iff (ps : PolicySet β) :
    validateDecisionContexts ps = .ok () ↔ ∀ p ∈ ps.policies, ∀ k,
      p.annotationAt (decisionContextPrefix ++ k) ≠ none →
        k ≠ "" ∧ k ≠ reservedReasonKey ∧ k ≠ reservedErrorsKey := by
  have h : validateDecisionContexts ps = .ok () ↔ (ps.policies.flatMap fun p =>
      p.annotations.entries.filterMap fun e => decisionContextIssue p e.1) = [] := by
    unfold validateDecisionContexts
    cases ps.policies.flatMap fun p =>
      p.annotations.entries.filterMap fun e => decisionContextIssue p e.1 <;> simp
  rw [h, List.flatMap_eq_nil_iff]
  refine forall₂_congr fun p _ => ?_
  rw [List.filterMap_eq_nil_iff]
  constructor
  · intro hp k hk
    obtain ⟨v, hv⟩ := Option.ne_none_iff_exists'.mp hk
    exact (decisionContextIssue_eq_none_iff p _).mp (hp _ ((mem_entries_iff p _ v).mpr hv)) k rfl
  · rintro hp ⟨key, v⟩ he
    refine (decisionContextIssue_eq_none_iff p key).mpr fun k hk => hp k ?_
    rw [← hk, (mem_entries_iff p key v).mp he]
    exact Option.some_ne_none v

/-- **The two annotation checks accept exactly the well-annotated sets.** -/
theorem annotation_checks_ok_iff (ps : PolicySet β) :
    (validatePriorities ps = .ok () ∧ validateDecisionContexts ps = .ok ()) ↔ ps.WellAnnotated := by
  rw [validatePriorities_ok_iff, validateDecisionContexts_ok_iff]
  exact ⟨fun h p hp => ⟨h.1 p hp, h.2 p hp⟩,
    fun h => ⟨fun p hp => (h p hp).priority, fun p hp => (h p hp).key⟩⟩

theorem validateSource_of_fromStr {api : PolicyApi β σ} {src : String} {ps : PolicySet β}
    (hp : api.fromStr src = .ok ps) (path : String) (schema : σ) (n : Nat) :
    validateSource api src path schema = .ok n ↔
      api.validateStrict schema ps = [] ∧ ps.WellAnnotated ∧ n = ps.policies.length := by
  rw [← annotation_checks_ok_iff]
  simp only [validateSource, hp]
  cases api.validateStrict schema ps with
  | cons e es => simp
  | nil =>
    cases validatePriorities ps with
    | error e => simp [bind, Except.bind]
    | ok u =>
      cases validateDecisionContexts ps with
      | error e => simp [bind, Except.bind]
      | ok u => simp [bind, Except.bind, eq_comm (a := n)]

/-- **What `validate_source` accepts.** -/
theorem validateSource_ok_iff {api : PolicyApi β σ} {src path : String} {schema : σ} {n : Nat} :
    validateSource api src path schema = .ok n ↔ ∃ ps, api.fromStr src = .ok ps ∧
      api.validateStrict schema ps = [] ∧ ps.WellAnnotated ∧ n = ps.policies.length := by
  cases hp : api.fromStr src with
  | error e => simp [validateSource, hp]
  | ok ps =>
    rw [validateSource_of_fromStr hp]
    constructor
    · intro h
      exact ⟨ps, rfl, h⟩
    · rintro ⟨ps', h, h'⟩
      cases h
      exact h'

/-! ## Accepted sources and sets -/

/-- `validate_source` accepts `src`, which reads as `ps`. -/
def Validates (api : PolicyApi β σ) (schema : σ) (path src : String) (ps : PolicySet β) : Prop :=
  api.fromStr src = .ok ps ∧ ∃ n, validateSource api src path schema = .ok n

/-- `ps` is read from a source that `validate_source` accepts. -/
def Accepted (api : PolicyApi β σ) (schema : σ) (path : String) (ps : PolicySet β) : Prop :=
  ∃ src, Validates api schema path src ps

theorem validates_iff {api : PolicyApi β σ} {schema : σ} {path src : String} {ps : PolicySet β} :
    Validates api schema path src ps ↔
      api.fromStr src = .ok ps ∧ api.validateStrict schema ps = [] ∧ ps.WellAnnotated := by
  refine and_congr_right fun hp => ?_
  simp only [validateSource_of_fromStr hp, ← and_assoc, exists_and_left, exists_eq, and_true]

theorem Accepted.wellAnnotated {api : PolicyApi β σ} {schema : σ} {path : String}
    {ps : PolicySet β} (h : Accepted api schema path ps) : ps.WellAnnotated := by
  obtain ⟨src, hsrc⟩ := h
  exact (validates_iff.mp hsrc).2.2

end AuthzenPdp
