import AuthzenPdp.Context.Valid
import AuthzenPdp.Lib.MinBy

/-!
# What the loader reports

Cedar iterates over the policies of a set and over the annotations of a policy in no fixed order.

* `Reordered`: two sets with the same policies and annotations, each in its own order;
* `decisionContextIssues`, `priorityIssues`: the messages of the two annotation checks;
* **`validate_reordered`**: the report about contexts is the same in every order, the one about
  priorities up to the order of its parts;
* `priorityReport_depends_on_order`: two orders with two texts.
-/

namespace AuthzenPdp

variable {β : Type}

/-- The same policy, with its annotations in another order. -/
structure SamePolicy (p p' : Policy β) : Prop where
  id : p.id = p'.id
  body : p.body = p'.body
  annotations : p.annotations.entries.Perm p'.annotations.entries

/-- The same policies in another order. -/
def Reordered (ps ps' : PolicySet β) : Prop :=
  ∃ l, ps.policies.Perm l ∧ List.Forall₂ SamePolicy l ps'.policies

def priorityIssues (ps : PolicySet β) : List String := ps.policies.filterMap priorityIssue

def decisionContextIssues (ps : PolicySet β) : List String :=
  ps.policies.flatMap fun p => p.annotations.entries.filterMap fun e => decisionContextIssue p e.1

/-- The result of a check with these messages. -/
def reportOf (issues : List String) : Except PolicyError Unit :=
  if issues.isEmpty then .ok () else .error <| PolicyError.annotation ("; ".intercalate issues)

theorem validatePriorities_eq (ps : PolicySet β) : validatePriorities ps = reportOf (priorityIssues ps) :=
  rfl

theorem validateDecisionContexts_eq (ps : PolicySet β) :
    validateDecisionContexts ps = reportOf ((decisionContextIssues ps).insertionSort (· ≤ ·)) := by
  have hempty : ∀ l : List String, (l.insertionSort (· ≤ ·)).isEmpty = l.isEmpty := by
    intro l
    rw [Bool.eq_iff_iff, List.isEmpty_iff_length_eq_zero, List.isEmpty_iff_length_eq_zero,
      List.length_insertionSort]
  rw [reportOf, hempty]
  rfl

/-! ## In another order -/

theorem SamePolicy.annotationAt {p p' : Policy β} (h : SamePolicy p p') (key : String) :
    p.annotationAt key = p'.annotationAt key := AList.perm_lookup h.annotations

theorem SamePolicy.displayId {p p' : Policy β} (h : SamePolicy p p') :
    AuthzenPdp.displayId p = AuthzenPdp.displayId p' := by
  rw [AuthzenPdp.displayId, AuthzenPdp.displayId, h.annotationAt, h.id]

theorem SamePolicy.priorityIssue {p p' : Policy β} (h : SamePolicy p p') :
    AuthzenPdp.priorityIssue p = AuthzenPdp.priorityIssue p' := by
  rw [AuthzenPdp.priorityIssue, AuthzenPdp.priorityIssue, h.annotationAt, h.displayId]

theorem SamePolicy.decisionContextIssue {p p' : Policy β} (h : SamePolicy p p') (key : String) :
    AuthzenPdp.decisionContextIssue p key = AuthzenPdp.decisionContextIssue p' key := by
  rw [AuthzenPdp.decisionContextIssue, AuthzenPdp.decisionContextIssue, h.displayId]

theorem filterMap_priorityIssue_eq {l l' : List (Policy β)} (h : List.Forall₂ SamePolicy l l') :
    l.filterMap priorityIssue = l'.filterMap priorityIssue := by
  induction h with
  | nil => rfl
  | cons hp _ ih => rw [List.filterMap_cons, List.filterMap_cons, hp.priorityIssue, ih]

theorem flatMap_decisionContextIssue_perm {l l' : List (Policy β)} (h : List.Forall₂ SamePolicy l l') :
    (l.flatMap fun p => p.annotations.entries.filterMap fun e => decisionContextIssue p e.1).Perm
      (l'.flatMap fun p => p.annotations.entries.filterMap fun e => decisionContextIssue p e.1) := by
  induction h with
  | nil => exact .refl _
  | cons hp _ ih =>
    rw [List.flatMap_cons, List.flatMap_cons]
    refine List.Perm.append ?_ ih
    simp only [hp.decisionContextIssue]
    exact hp.annotations.filterMap _

theorem priorityIssues_perm {ps ps' : PolicySet β} (h : Reordered ps ps') :
    (priorityIssues ps).Perm (priorityIssues ps') := by
  obtain ⟨l, hl, hsame⟩ := h
  exact (hl.filterMap _).trans (.of_eq (filterMap_priorityIssue_eq hsame))

theorem decisionContextIssues_perm {ps ps' : PolicySet β} (h : Reordered ps ps') :
    (decisionContextIssues ps).Perm (decisionContextIssues ps') := by
  obtain ⟨l, hl, hsame⟩ := h
  exact (hl.flatMap_right _).trans (flatMap_decisionContextIssue_perm hsame)

theorem reportOf_ok_iff {issues : List String} : reportOf issues = .ok () ↔ issues = [] := by
  unfold reportOf
  cases issues <;> simp

/-- **Reports in every order.** The two sets are accepted by the same checks; the report about contexts
is the same text, and that about priorities has the same parts. -/
theorem validate_reordered {ps ps' : PolicySet β} (h : Reordered ps ps') :
    validateDecisionContexts ps = validateDecisionContexts ps' ∧
      (validatePriorities ps = .ok () ↔ validatePriorities ps' = .ok ()) ∧
      ∃ parts parts', parts.Perm parts' ∧ validatePriorities ps = reportOf parts ∧
        validatePriorities ps' = reportOf parts' := by
  have hperm := priorityIssues_perm h
  refine ⟨?_, ?_, _, _, hperm, validatePriorities_eq ps, validatePriorities_eq ps'⟩
  · rw [validateDecisionContexts_eq, validateDecisionContexts_eq,
      MinBy.sort_eq_of_perm (decisionContextIssues_perm h)]
  · rw [validatePriorities_eq, validatePriorities_eq, reportOf_ok_iff, reportOf_ok_iff]
    exact ⟨fun hnil => (hnil ▸ hperm).symm.eq_nil, fun hnil => (hnil ▸ hperm).eq_nil⟩

/-! ## Two orders -/

/-- A policy whose priority is no number, and whose context has a reserved key. -/
def unserved (id : PolicyId) : Policy Unit where
  id := id
  annotations := [⟨"priority", "high"⟩, ⟨"decision_context_reason", "none"⟩].toAList
  body := ()

def highLow : PolicySet Unit := ⟨[unserved "high", unserved "low"], by decide⟩

def lowHigh : PolicySet Unit := ⟨[unserved "low", unserved "high"], by decide⟩

theorem reordered_highLow : Reordered highLow lowHigh :=
  ⟨_, .swap _ _ _, List.forall₂_same.mpr fun _ _ => ⟨rfl, rfl, .refl _⟩⟩

theorem validate_reordered_pair : validateDecisionContexts highLow = validateDecisionContexts lowHigh :=
  (validate_reordered reordered_highLow).1

/-- The report about priorities is not sorted. -/
theorem priorityReport_depends_on_order : Reordered highLow lowHigh ∧
    validatePriorities highLow ≠ validatePriorities lowHigh :=
  ⟨reordered_highLow, by decide⟩

end AuthzenPdp
