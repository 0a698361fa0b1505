import AuthzenPdp.Reload.Steps
import AuthzenPdp.Evaluate.Reference

/-!
# The trace semantics of reload

Every event sees one snapshot of the file, for the loader and for the provider.

* `Event`, `handle`, `handleAll`: runs of the reload task over snapshots;
* `Succeeds`: readable, accepted, and already loaded or installed without a fault;
* `Consistent`: the live set is what the loaded source reads as, and that source is accepted;
* `handle_of_run`: the server handles an event like this while the file does not change;
* `handle_of_succeeds`, `handle_of_not_succeeds`: an event in a consistent state;
* **`handleAll_trace`**: live set, loaded source and readiness of every run, from its history.
-/

namespace AuthzenPdp

open Trans

variable {β σ : Type}

/-- A reload event: what the file is throughout, and whether the provider fails by itself. -/
structure Event where
  snapshot : File
  fault : Option String

section Trace

variable (api : PolicyApi β σ) (schema : σ) (policyPath : String)

def handle (p : Pdp β) (e : Event) : Pdp β :=
  reload api schema policyPath p e.snapshot e.snapshot e.fault

/-- The state after a sequence of events. -/
def handleAll (p : Pdp β) (es : List Event) : Pdp β := es.foldl (handle api schema policyPath) p

/-- The snapshot is readable and accepted, and it is loaded already or installed now. -/
def Succeeds (p : Pdp β) (e : Event) : Prop :=
  ∃ src, e.snapshot = .ok src ∧ (∃ n, validateSource api src policyPath schema = .ok n) ∧
    (src = p.loadedSrc ∨ e.fault = none)

/-- The live set is what the loaded source reads as, and that source is accepted. -/
def Consistent (p : Pdp β) : Prop := Validates api schema policyPath p.loadedSrc p.provider

variable {api schema policyPath}

theorem handleAll_concat (p : Pdp β) (es : List Event) (e : Event) :
    handleAll api schema policyPath p (es ++ [e]) =
      handle api schema policyPath (handleAll api schema policyPath p es) e := by
  rw [handleAll, List.foldl_append]
  rfl

/-- An event of the server during which the file does not change. -/
theorem handle_of_run {G : Option String → Prop} (hG : G none) {s t : Sys β} {p : Pdp β}
    {ls : List Label} (hs : s.pc = .recv) (hp : s.pdp = some p)
    (hls : ∀ l ∈ ls, Within (· = s.file) G l)
    (h : run (step api schema policyPath) s (.recv .event :: ls) = some t) (ht : t.pc = .recv) :
    ∃ fault, G fault ∧ t.pdp = some (handle api schema policyPath p ⟨s.file, fault⟩) := by
  obtain ⟨q, hq, _, _, fault, rfl, rfl, hfault, rfl⟩ :=
    reload_of_run (F := (· = s.file)) hG hs hp rfl hls h ht
  exact ⟨fault, hfault, hq⟩

/-! ## One event -/

/-- A successful event loads its snapshot. -/
theorem handle_of_succeeds {p : Pdp β} {e : Event} (hp : Consistent api schema policyPath p)
    (he : Succeeds api schema policyPath p e) :
    ∃ src ps, e.snapshot = .ok src ∧ Validates api schema policyPath src ps ∧
      handle api schema policyPath p e = ⟨ps, src, true⟩ := by
  obtain ⟨snapshot, fault⟩ := e
  obtain ⟨src, rfl, ⟨n, hv⟩, hor⟩ := he
  by_cases hs : src = p.loadedSrc
  · subst hs
    exact ⟨_, p.provider, rfl, hp, by simp only [handle, reload, readSource, if_pos]⟩
  · obtain ⟨ps, hps, -⟩ := validateSource_ok_iff.mp hv
    obtain rfl : fault = none := hor.resolve_left hs
    refine ⟨src, ps, rfl, ⟨hps, n, hv⟩, ?_⟩
    simp only [handle, reload, readSource, if_neg hs, hv, updateProviderData, providerRead, hps]

/-- **Fail-static**: a failing event keeps the live set and the loaded source. -/
theorem handle_of_not_succeeds {p : Pdp β} {e : Event} (hp : Consistent api schema policyPath p)
    (he : ¬ Succeeds api schema policyPath p e) :
    handle api schema policyPath p e = { p with ready := false } := by
  obtain ⟨snapshot, fault⟩ := e
  cases snapshot with
  | error e => rfl
  | ok src =>
    by_cases hs : src = p.loadedSrc
    · exact absurd ⟨src, rfl, hs ▸ hp.2, .inl hs⟩ he
    · cases hv : validateSource api src policyPath schema with
      | error e => simp only [handle, reload, readSource, if_neg hs, hv]
      | ok n =>
        cases fault with
        | none => exact absurd ⟨src, rfl, ⟨n, hv⟩, .inr rfl⟩ he
        | some e => simp only [handle, reload, readSource, if_neg hs, hv, updateProviderData]

theorem consistent_handle {p : Pdp β} (hp : Consistent api schema policyPath p) (e : Event) :
    Consistent api schema policyPath (handle api schema policyPath p e) := by
  by_cases he : Succeeds api schema policyPath p e
  · obtain ⟨src, ps, -, hv, heq⟩ := handle_of_succeeds hp he
    rw [heq]
    exact hv
  · rw [handle_of_not_succeeds hp he]
    exact hp

/-- The same snapshot again changes nothing. -/
theorem handle_again {p : Pdp β} {e : Event} (hp : Consistent api schema policyPath p)
    (he : Succeeds api schema policyPath p e) (fault : Option String) :
    handle api schema policyPath (handle api schema policyPath p e) ⟨e.snapshot, fault⟩ =
      handle api schema policyPath p e := by
  obtain ⟨src, ps, hsrc, -, heq⟩ := handle_of_succeeds hp he
  rw [heq, handle, hsrc]
  simp only [reload, readSource, if_pos]

/-! ## Runs -/

theorem consistent_startup {file : File} {p : Pdp β}
    (h : startup api schema policyPath file file = .ok p) : Consistent api schema policyPath p := by
  obtain ⟨hp, rfl, hv, -⟩ := startup_eq_ok_iff.mp h
  exact ⟨hp, hv⟩

theorem consistent_handleAll {p : Pdp β} (hp : Consistent api schema policyPath p) (es : List Event) :
    Consistent api schema policyPath (handleAll api schema policyPath p es) := by
  induction es generalizing p with
  | nil => exact hp
  | cons e es ih => exact ih (consistent_handle hp e)

variable (api schema policyPath) in
/-- No event of `es` succeeds. -/
def NoneSucceeds (p : Pdp β) (es : List Event) : Prop :=
  ∀ es₁ e es₂, es = es₁ ++ e :: es₂ →
    ¬ Succeeds api schema policyPath (handleAll api schema policyPath p es₁) e

variable (api schema policyPath) in
/-- `snapshot` is that of the most recent successful event, or of startup when there is none. -/
def MostRecent (file : File) (p : Pdp β) (es : List Event) (snapshot : File) : Prop :=
  (snapshot = file ∧ NoneSucceeds api schema policyPath p es) ∨
  ∃ es₁ e es₂, es = es₁ ++ e :: es₂ ∧ snapshot = e.snapshot ∧
    Succeeds api schema policyPath (handleAll api schema policyPath p es₁) e ∧
    NoneSucceeds api schema policyPath (handleAll api schema policyPath p (es₁ ++ [e])) es₂

theorem handleAll_append (p : Pdp β) (es es' : List Event) :
    handleAll api schema policyPath p (es ++ es') =
      handleAll api schema policyPath (handleAll api schema policyPath p es) es' :=
  List.foldl_append

theorem noneSucceeds_concat {p : Pdp β} {es : List Event} {e : Event}
    (h : NoneSucceeds api schema policyPath p es)
    (he : ¬ Succeeds api schema policyPath (handleAll api schema policyPath p es) e) :
    NoneSucceeds api schema policyPath p (es ++ [e]) := by
  intro es₁ e' es₂ heq
  rcases List.eq_nil_or_concat' es₂ with rfl | ⟨es₃, e₃, rfl⟩
  · obtain ⟨rfl, h1⟩ := List.append_inj' heq rfl
    cases h1
    exact he
  · rw [← List.cons_append, ← List.append_assoc] at heq
    exact h es₁ e' es₃ (List.append_inj' heq rfl).1

/-- The snapshot that is served after each run. -/
theorem exists_mostRecent {file : File} {p : Pdp β}
    (h : startup api schema policyPath file file = .ok p) (es : List Event) :
    MostRecent api schema policyPath file p es
      (.ok (handleAll api schema policyPath p es).loadedSrc) := by
  have hp := consistent_startup h
  induction es using List.reverseRecOn with
  | nil =>
    refine .inl ⟨(startup_eq_ok_iff.mp h).2.1.symm, fun es₁ e es₂ heq => ?_⟩
    simp at heq
  | append_singleton es e ih =>
    have hq := consistent_handleAll hp es
    rw [handleAll_concat]
    by_cases he : Succeeds api schema policyPath (handleAll api schema policyPath p es) e
    · obtain ⟨src, ps, hsrc, -, heq⟩ := handle_of_succeeds hq he
      rw [heq]
      refine .inr ⟨es, e, [], rfl, hsrc.symm, he, fun es₁ e' es₂ hnil => ?_⟩
      simp at hnil
    · rw [handle_of_not_succeeds hq he]
      rcases ih with ⟨hs, hnone⟩ | ⟨es₁, e', es₂, rfl, hs, hsucc, hnone⟩
      · exact .inl ⟨hs, noneSucceeds_concat hnone he⟩
      · refine .inr ⟨es₁, e', es₂ ++ [e], by simp, hs, hsucc, noneSucceeds_concat hnone ?_⟩
        rw [← handleAll_append, List.append_assoc]
        exact he

/-- Readiness is the success of the last event. -/
theorem ready_handleAll_iff {file : File} {p : Pdp β}
    (h : startup api schema policyPath file file = .ok p) (es : List Event) :
    (handleAll api schema policyPath p es).ready = true ↔ es = [] ∨ ∃ es' e, es = es' ++ [e] ∧
      Succeeds api schema policyPath (handleAll api schema policyPath p es') e := by
  rcases List.eq_nil_or_concat' es with rfl | ⟨es', e, rfl⟩
  · exact iff_of_true (startup_eq_ok_iff.mp h).2.2.2 (.inl rfl)
  · have hq := consistent_handleAll (consistent_startup h) es'
    rw [handleAll_concat]
    by_cases he : Succeeds api schema policyPath (handleAll api schema policyPath p es') e
    · obtain ⟨src, ps, -, -, heq⟩ := handle_of_succeeds hq he
      rw [heq]
      exact iff_of_true rfl (.inr ⟨es', e, rfl, he⟩)
    · rw [handle_of_not_succeeds hq he]
      refine iff_of_false Bool.false_ne_true ?_
      rintro (hnil | ⟨es'', e', heq, he'⟩)
      · simp at hnil
      · obtain ⟨rfl, h1⟩ := List.append_inj' heq rfl
        cases h1
        exact he he'

variable (api schema policyPath) in
/-- **The fail-static contract** after the events `es`. -/
structure FailStatic (file : File) (p : Pdp β) (es : List Event) : Prop where
  loaded : MostRecent api schema policyPath file p es
    (.ok (handleAll api schema policyPath p es).loadedSrc)
  live : Validates api schema policyPath (handleAll api schema policyPath p es).loadedSrc
    (handleAll api schema policyPath p es).provider
  ready : (handleAll api schema policyPath p es).ready = true ↔ es = [] ∨ ∃ es' e, es = es' ++ [e] ∧
    Succeeds api schema policyPath (handleAll api schema policyPath p es') e
  failed : ∀ e, ¬ Succeeds api schema policyPath (handleAll api schema policyPath p es) e →
    (handleAll api schema policyPath p (es ++ [e])).provider =
      (handleAll api schema policyPath p es).provider ∧
    (handleAll api schema policyPath p (es ++ [e])).loadedSrc =
      (handleAll api schema policyPath p es).loadedSrc
  again : ∀ e, Succeeds api schema policyPath (handleAll api schema policyPath p es) e → ∀ fault,
    handleAll api schema policyPath p (es ++ [e, ⟨e.snapshot, fault⟩]) =
      handleAll api schema policyPath p (es ++ [e])

/-- **The trace semantics of reload.** After startup on one snapshot and any events, the live set
and the loaded source are those of the most recent success, readiness tells whether the last event
succeeded, a failing event keeps both, and repeating a successful event changes nothing. -/
theorem handleAll_trace {file : File} {p : Pdp β}
    (h : startup api schema policyPath file file = .ok p) (es : List Event) :
    FailStatic api schema policyPath file p es where
  loaded := exists_mostRecent h es
  live := consistent_handleAll (consistent_startup h) es
  ready := ready_handleAll_iff h es
  failed e he := by
    rw [handleAll_concat, handle_of_not_succeeds (consistent_handleAll (consistent_startup h) es) he]
    exact ⟨rfl, rfl⟩
  again e he fault := by
    rw [show es ++ [e, ⟨e.snapshot, fault⟩] = es ++ [e] ++ [⟨e.snapshot, fault⟩] by simp,
      handleAll_concat, handleAll_concat,
      handle_again (consistent_handleAll (consistent_startup h) es) he]

end Trace

/-- An update, a rejected file and an unreadable one. -/
theorem handleAll_trace_files : FailStatic files loginSchema "policies.cedar"
    (.ok (sourceText permitAll)) ⟨permitAll, sourceText permitAll, true⟩
    [⟨.ok (sourceText blockExternal), none⟩, ⟨.ok (sourceText badPriority), none⟩,
      ⟨.error "No such file", none⟩] := by
  have hv := validates_permitAll "policies.cedar"
  have hstart : startup files loginSchema "policies.cedar" (.ok (sourceText permitAll))
      (.ok (sourceText permitAll)) = .ok ⟨permitAll, sourceText permitAll, true⟩ :=
    startup_eq_ok_iff.mpr ⟨hv.1, rfl, hv.2, rfl⟩
  exact handleAll_trace hstart _

end AuthzenPdp
