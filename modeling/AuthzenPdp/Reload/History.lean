import AuthzenPdp.Reload.Atomic

/-!
# Histories under races

Between two events, the server is where a startup and a sequence of reloads have taken it, and every such
sequence is some run.

* `Installs`, `Skips`, `reload_of_fails`: what one reload can do;
* `reloadAll_served`, `ready_reload_iff`: what a sequence leaves, from its history;
* **`run_served`**: the same for every run of the server, on what its events find;
* `exists_run_reload`: every reload is a run;
* **`idle_iff`**: the states between two events are exactly those of sequences of reloads.
-/

namespace AuthzenPdp

open Trans

variable {β σ : Type}

section Reads

variable (api : PolicyApi β σ) (schema : σ) (policyPath : String)

/-- The event validates the new source `src`, and the provider installs `ps`. -/
structure Installs (p : Pdp β) (e : Reads) (src : String) (ps : PolicySet β) : Prop where
  file : e.file = .ok src
  changed : src ≠ p.loadedSrc
  accepted : ∃ n, validateSource api src policyPath schema = .ok n
  provider : providerRead api e.providerFile = .ok ps
  fault : e.fault = none

/-- The event finds the loaded source. -/
def Skips (p : Pdp β) (e : Reads) : Prop := e.file = .ok p.loadedSrc

/-- The event ends with the server ready. -/
def EndsReady (p : Pdp β) (e : Reads) : Prop :=
  Skips p e ∨ ∃ src ps, Installs api schema policyPath p e src ps

/-- No event of `es` installs a set. -/
def NoneInstalls (p : Pdp β) (es : List Reads) : Prop :=
  ∀ es₁ e es₂ src ps, es = es₁ ++ e :: es₂ →
    ¬ Installs api schema policyPath (reloadAll api schema policyPath p es₁) e src ps

/-- **What is served after the events `es`.** The live set and the loaded source are those of the most
recent installation, or those from before; the server is ready iff the last event ended so. -/
structure Served (p : Pdp β) (es : List Reads) (q : Pdp β) : Prop where
  recent : (q.provider = p.provider ∧ q.loadedSrc = p.loadedSrc ∧
      NoneInstalls api schema policyPath p es) ∨
    ∃ es₁ e es₂, es = es₁ ++ e :: es₂ ∧
      Installs api schema policyPath (reloadAll api schema policyPath p es₁) e q.loadedSrc q.provider ∧
      NoneInstalls api schema policyPath (reloadAll api schema policyPath p (es₁ ++ [e])) es₂
  ready : q.ready = true ↔ (es = [] ∧ p.ready = true) ∨ ∃ es' e, es = es' ++ [e] ∧
    EndsReady api schema policyPath (reloadAll api schema policyPath p es') e

variable {api schema policyPath}

/-! ## One reload -/

theorem reload_of_installs {p : Pdp β} {e : Reads} {src : String} {ps : PolicySet β}
    (h : Installs api schema policyPath p e src ps) :
    reload api schema policyPath p e.file e.providerFile e.fault = ⟨ps, src, true⟩ := by
  obtain ⟨file, providerFile, fault⟩ := e
  obtain ⟨rfl, hne, ⟨n, hv⟩, hp, rfl⟩ := h
  simp only [reload, readSource, if_neg hne, hv, updateProviderData, hp]

theorem reload_of_skips {p : Pdp β} {e : Reads} (h : Skips p e) :
    reload api schema policyPath p e.file e.providerFile e.fault = { p with ready := true } := by
  rw [reload, show e.file = .ok p.loadedSrc from h]
  simp only [readSource, if_pos]

/-- **Fail-static**: an event that does neither keeps the live set and the loaded source. -/
theorem reload_of_fails {p : Pdp β} {e : Reads} (h : ¬ EndsReady api schema policyPath p e) :
    reload api schema policyPath p e.file e.providerFile e.fault = { p with ready := false } := by
  obtain ⟨file, providerFile, fault⟩ := e
  cases file with
  | error e => rfl
  | ok src =>
    by_cases hs : src = p.loadedSrc
    · exact absurd (.inl (hs ▸ rfl)) h
    · cases hv : validateSource api src policyPath schema with
      | error e => simp only [reload, readSource, if_neg hs, hv]
      | ok n =>
        cases hu : updateProviderData api providerFile fault with
        | error e => simp only [reload, readSource, if_neg hs, hv, hu]
        | ok ps =>
          cases fault with
          | none => exact absurd (.inr ⟨src, ps, rfl, hs, ⟨n, hv⟩, hu, rfl⟩) h
          | some e => cases hu

/-- An event that installs nothing keeps the live set and the loaded source. -/
theorem reload_of_not_installs {p : Pdp β} {e : Reads}
    (h : ∀ src ps, ¬ Installs api schema policyPath p e src ps) :
    (reload api schema policyPath p e.file e.providerFile e.fault).provider = p.provider ∧
      (reload api schema policyPath p e.file e.providerFile e.fault).loadedSrc = p.loadedSrc := by
  by_cases hs : Skips p e
  · rw [reload_of_skips hs]
    exact ⟨rfl, rfl⟩
  · rw [reload_of_fails (by rintro (h' | ⟨src, ps, h'⟩); exacts [hs h', h src ps h'])]
    exact ⟨rfl, rfl⟩

theorem ready_reload_iff {p : Pdp β} {e : Reads} :
    (reload api schema policyPath p e.file e.providerFile e.fault).ready = true ↔
      EndsReady api schema policyPath p e := by
  by_cases h : EndsReady api schema policyPath p e
  · refine iff_of_true ?_ h
    rcases h with hs | ⟨src, ps, hi⟩
    · rw [reload_of_skips hs]
    · rw [reload_of_installs hi]
  · rw [reload_of_fails h]
    exact iff_of_false Bool.false_ne_true h

/-! ## Sequences -/

theorem noneInstalls_nil (p : Pdp β) : NoneInstalls api schema policyPath p [] := by
  intro es₁ e es₂ src ps heq
  simp at heq

theorem noneInstalls_concat {p : Pdp β} {es : List Reads} {e : Reads}
    (h : NoneInstalls api schema policyPath p es)
    (he : ∀ src ps, ¬ Installs api schema policyPath (reloadAll api schema policyPath p es) e src ps) :
    NoneInstalls api schema policyPath p (es ++ [e]) := by
  intro es₁ e' es₂ src ps heq
  rcases List.eq_nil_or_concat' es₂ with rfl | ⟨es₃, e₃, rfl⟩
  · obtain ⟨rfl, h1⟩ := List.append_inj' heq rfl
    cases h1
    exact he src ps
  · rw [← List.cons_append, ← List.append_assoc] at heq
    exact h es₁ e' es₃ src ps (List.append_inj' heq rfl).1

variable (api schema policyPath) in
/-- **What a sequence of reloads leaves.** -/
theorem reloadAll_served (p : Pdp β) (es : List Reads) :
    Served api schema policyPath p es (reloadAll api schema policyPath p es) := by
  induction es using List.reverseRecOn with
  | nil => exact ⟨.inl ⟨rfl, rfl, noneInstalls_nil p⟩, by simp [reloadAll]⟩
  | append_singleton es e ih =>
    refine ⟨?_, ?_⟩
    · by_cases hi : ∃ src ps, Installs api schema policyPath (reloadAll api schema policyPath p es) e src ps
      · obtain ⟨src, ps, hi⟩ := hi
        refine .inr ⟨es, e, [], rfl, ?_, noneInstalls_nil _⟩
        rw [reloadAll_concat, reload_of_installs hi]
        exact hi
      · have hnone : ∀ src ps,
            ¬ Installs api schema policyPath (reloadAll api schema policyPath p es) e src ps :=
          fun src ps h => hi ⟨src, ps, h⟩
        rw [reloadAll_concat, (reload_of_not_installs hnone).1, (reload_of_not_installs hnone).2]
        rcases ih.recent with ⟨hp, hl, hno⟩ | ⟨es₁, e', es₂, rfl, hi', hno⟩
        · exact .inl ⟨hp, hl, noneInstalls_concat hno hnone⟩
        · refine .inr ⟨es₁, e', es₂ ++ [e], by simp, hi', noneInstalls_concat hno ?_⟩
          rw [← reloadAll_append, List.append_assoc]
          exact hnone
    · rw [reloadAll_concat, ready_reload_iff]
      constructor
      · exact fun h => .inr ⟨es, e, rfl, h⟩
      · rintro (⟨hnil, -⟩ | ⟨es', e', heq, h⟩)
        · simp at hnil
        · obtain ⟨rfl, h1⟩ := List.append_inj' heq rfl
          cases h1
          exact h

end Reads

/-! ## Runs of the server -/

section Runs

variable {api : PolicyApi β σ} {schema : σ} {policyPath : String}

/-- **What every run serves.** Whatever is written when, the live set and the loaded source between two
events are those of the most recent event that installed a set, or of startup, and the server is ready
iff the last event installed one or found the loaded source. The events are those of the schedule, each
with the two contents that its own statements find. -/
theorem run_served {file : File} {ls : List Label} {t : Sys β}
    (h : run (step api schema policyPath) (Sys.boot file) ls = some t) (ht : t.pc = .recv) :
    (eventReads file ls).length = eventCount ls ∧
      ∃ providerFile file' p q, startupReads file ls = some (providerFile, file') ∧
        startup api schema policyPath providerFile file' = .ok p ∧ t.pdp = some q ∧
        Served api schema policyPath p (eventReads file ls) q := by
  obtain ⟨providerFile, file', p, hreads, hstart, hq⟩ := reloadAll_of_boot rfl h ht
  exact ⟨length_eventReads h ht, providerFile, file', p, _, hreads, hstart, hq,
    reloadAll_served api schema policyPath p _⟩

/-- What is served after a reload whose two reads differ. -/
theorem run_served_torn : ∃ t p q, run (step files loginSchema "policies.cedar")
      (Sys.boot (.ok (sourceText permitAll))) tornSteps = some t ∧ t.pdp = some q ∧
    q = ⟨badPriority, sourceText blockExternal, true⟩ ∧
    startup files loginSchema "policies.cedar" (.ok (sourceText permitAll))
      (.ok (sourceText permitAll)) = .ok p ∧
    Served files loginSchema "policies.cedar" p
      [⟨.ok (sourceText blockExternal), .ok (sourceText badPriority), none⟩] q := by
  obtain ⟨-, providerFile, file, p, q, hreads, hstart, hq, hserved⟩ := run_served run_torn rfl
  rw [startupReads_torn] at hreads
  obtain ⟨hprovider, hfile⟩ := Prod.mk.inj (Option.some.inj hreads)
  rw [← hprovider, ← hfile] at hstart
  rw [eventReads_torn] at hserved
  exact ⟨_, p, q, run_torn, hq, (Option.some.inj hq).symm, hstart, hserved⟩

/-! ## Every sequence is a run -/

/-- Nothing is written. -/
def NoWrite (ls : List Label) : Prop := ∀ l ∈ ls, ∀ file, l ≠ .write file

/-- The server between two events, with `file` as the content of the file. -/
def idleAt (p : Pdp β) (file : File) : Sys β :=
  ⟨file, some p.provider, some p.loadedSrc, p.ready, .recv⟩

variable (api schema policyPath) in
/-- An event up to the read of `reload`, and the rest of it. -/
theorem exists_run_event (p : Pdp β) (e : Reads) : ∃ pc ls,
    (∀ file, run (step api schema policyPath) (idleAt p file) [.write e.file, .recv .event, .run] =
      some { idleAt p e.file with pc := pc }) ∧ NoWrite ls ∧
    run (step api schema policyPath) { idleAt p e.providerFile with pc := pc } ls =
      some (idleAt (reload api schema policyPath p e.file e.providerFile e.fault) e.providerFile) := by
  obtain ⟨file₁, file₂, fault⟩ := e
  cases file₁ with
  | error e => exact ⟨.setReady false, [.run], fun _ => rfl, by simp [NoWrite], rfl⟩
  | ok src =>
    by_cases hsrc : src = p.loadedSrc
    · refine ⟨.setReady true, [.run], fun file => ?_, by simp [NoWrite], ?_⟩
      · simp [idleAt, run, step, exec, readSource, hsrc]
      · rw [reload_of_skips (e := ⟨.ok src, file₂, fault⟩) (congrArg Except.ok hsrc)]
        rfl
    · have hread : ∀ file, run (step api schema policyPath) (idleAt p file)
          [.write (.ok src), .recv .event, .run] =
            some { idleAt p (.ok src) with pc := .validateSource src } := by
        intro file
        simp [idleAt, run, step, exec, readSource, hsrc]
      simp only [reload, readSource, if_neg hsrc]
      cases hv : validateSource api src policyPath schema with
      | error e =>
        refine ⟨_, [.run, .run], hread, by simp [NoWrite], ?_⟩
        simp [idleAt, run, step, exec, hv]
      | ok n =>
        cases fault with
        | some e =>
          refine ⟨_, [.run, .fault e, .run], hread, by simp [NoWrite], ?_⟩
          simp [idleAt, run, step, exec, hv, updateProviderData]
        | none =>
          cases hu : providerRead api file₂ with
          | error e =>
            refine ⟨_, [.run, .run, .run], hread, by simp [NoWrite], ?_⟩
            simp [idleAt, run, step, exec, hv, updateProviderData, hu]
          | ok ps =>
            refine ⟨_, [.run, .run, .run, .run, .run], hread, by simp [NoWrite], ?_⟩
            simp [idleAt, run, step, exec, hv, updateProviderData, hu]

variable (api schema policyPath) in
/-- Every reload is a run: the file is rewritten before the event, and again after the first read. -/
theorem exists_run_reload (p : Pdp β) (file : File) (e : Reads) :
    ∃ ls, run (step api schema policyPath) (idleAt p file) ls =
      some (idleAt (reload api schema policyPath p e.file e.providerFile e.fault) e.providerFile) := by
  obtain ⟨pc, ls, hread, -, hrest⟩ := exists_run_event api schema policyPath p e
  exact ⟨_ ++ .write e.providerFile :: ls,
    run_append.mpr ⟨_, hread file, run_cons.mpr ⟨_, rfl, hrest⟩⟩⟩

/-- A startup whose reads find `providerFile` and then `file`. -/
theorem exists_run_startup {providerFile file : File} {p : Pdp β}
    (h : startup api schema policyPath providerFile file = .ok p) :
    ∃ ls, run (step api schema policyPath) (Sys.boot providerFile) ls = some (idleAt p file) := by
  obtain ⟨hp, rfl, ⟨n, hv⟩, hready⟩ := startup_eq_ok_iff.mp h
  have hnew : newProvider api policyPath providerFile = .ok p.provider := newProvider_eq_ok_iff.mpr hp
  have hload : loadAndValidate api policyPath schema (.ok p.loadedSrc) = .ok (p.loadedSrc, n) :=
    loadAndValidate_eq_ok_iff.mpr ⟨rfl, hv⟩
  refine ⟨[.run, .write (.ok p.loadedSrc), .run], ?_⟩
  simp [idleAt, run, step, exec, Sys.boot, hnew, hload, hready]

variable (api schema policyPath) in
theorem exists_run_reloadAll (p : Pdp β) (file : File) (es : List Reads) :
    ∃ ls file', run (step api schema policyPath) (idleAt p file) ls =
      some (idleAt (reloadAll api schema policyPath p es) file') := by
  induction es generalizing p file with
  | nil => exact ⟨[], file, rfl⟩
  | cons e es ih =>
    obtain ⟨ls₁, h₁⟩ := exists_run_reload api schema policyPath p file e
    obtain ⟨ls₂, file', h₂⟩ := ih _ _
    exact ⟨ls₁ ++ ls₂, file', run_append.mpr ⟨_, h₁, h₂⟩⟩

/-- **The states between two events.** They are exactly what a startup and a sequence of reloads give,
the two reads of each finding any two contents. -/
theorem idle_iff {q : Pdp β} :
    (∃ file ls t, run (step api schema policyPath) (Sys.boot file) ls = some t ∧ t.pc = .recv ∧
      t.pdp = some q) ↔
    ∃ providerFile file p es, startup api schema policyPath providerFile file = .ok p ∧
      q = reloadAll api schema policyPath p es := by
  constructor
  · rintro ⟨file, ls, t, h, ht, hq⟩
    obtain ⟨providerFile, file', p, -, hstart, hq'⟩ := reloadAll_of_boot rfl h ht
    exact ⟨providerFile, file', p, _, hstart, Option.some.inj (hq.symm.trans hq')⟩
  · rintro ⟨providerFile, file, p, es, hstart, rfl⟩
    obtain ⟨ls₁, h₁⟩ := exists_run_startup hstart
    obtain ⟨ls₂, file', h₂⟩ := exists_run_reloadAll api schema policyPath p file es
    exact ⟨_, ls₁ ++ ls₂, _, run_append.mpr ⟨_, h₁, h₂⟩, rfl, rfl⟩

end Runs

end AuthzenPdp
