import AuthzenPdp.Reload.Live

/-!
# The end of the reload loop

Every error of the receiver ends the loop: a closed channel, and also a report of missed events, after
which the receiver could go on. The readiness flag keeps its value.

* `Sys.readyz`: the readiness endpoint;
* `stopped_run`: after the loop has ended, nothing but the file changes;
* **`stopped_not_ready_iff`**: the loop never ends while the server answers ready iff every error of
  the receiver arrives while it is not ready;
* `lagged_stops_ready`: a run where it does.
-/

namespace AuthzenPdp

open Trans

variable {β σ : Type} {api : PolicyApi β σ} {schema : σ} {policyPath : String}

/-- The status of `readyz`. -/
def Sys.readyz (s : Sys β) : Nat := if s.ready then 200 else 503

/-- The loop has ended, and the server answers ready. -/
def StoppedReady (s : Sys β) : Prop := s.pc = .stopped ∧ s.readyz = 200

/-- An error of the receiver arrives while the server is not ready. -/
def ErrorsNotReady (s : Sys β) (l : Label) : Prop :=
  ∀ r, l = .recv r → s.pc = .recv → r ≠ .event → s.ready = false

theorem readyz_eq_iff (s : Sys β) : s.readyz = 200 ↔ s.ready = true := by
  cases h : s.ready <;> simp [Sys.readyz, h]

theorem not_stoppedReady_step {s s' : Sys β} {l : Label} (hl : ErrorsNotReady s l)
    (h : Move api schema policyPath s l s') (hs : ¬ StoppedReady s) : ¬ StoppedReady s' := by
  cases h with
  | write _ => exact hs
  | closed hr =>
    rintro ⟨-, hready⟩
    have := hl _ rfl rfl hr
    rw [readyz_eq_iff] at hready
    exact Bool.false_ne_true (this.symm.trans hready)
  | _ =>
    rintro ⟨hpc, -⟩
    cases hpc

/-- The condition is exact for one step. -/
theorem errorsNotReady_iff (s : Sys β) (l : Label) (hs : ¬ StoppedReady s) :
    ErrorsNotReady s l ↔
      ∀ s', step api schema policyPath s l = some s' → ¬ StoppedReady s' := by
  constructor
  · exact fun hl s' hstep => not_stoppedReady_step hl (move_of_step hstep) hs
  · rintro h r rfl hpc hr
    have hstep : step api schema policyPath s (.recv r) = some { s with pc := .stopped } := by
      cases r with
      | event => exact absurd rfl hr
      | lagged n => simp only [step, hpc]
      | closed => simp only [step, hpc]
    by_contra hready
    exact h _ hstep ⟨rfl, (readyz_eq_iff _).mpr (by simpa using hready)⟩

/-- After the loop has ended, nothing but the file changes. -/
theorem stopped_run {s t : Sys β} {ls : List Label} (hs : s.pc = .stopped)
    (h : run (step api schema policyPath) s ls = some t) :
    t.pc = .stopped ∧ t.live = s.live ∧ t.ready = s.ready := by
  have hmove : ∀ (u : Sys β) (l : Label) u', True → Move api schema policyPath u l u' →
      u.pc = .stopped ∧ u.live = s.live ∧ u.ready = s.ready →
        u'.pc = .stopped ∧ u'.live = s.live ∧ u'.ready = s.ready := by
    intro u l u' _ hu hi
    cases hu with
    | write _ => exact hi
    | _ => cases hi.1
  exact run_move_inv hmove ⟨hs, rfl, rfl⟩ (along_of_forall s fun _ _ => trivial) h

/-- **The loop never ends silently iff no error finds the server ready.** In a run, no state has the
loop ended while the server answers ready, iff every lag report and every closed channel arrives
while the server is not ready. -/
theorem stopped_not_ready_iff (api : PolicyApi β σ) (schema : σ) (policyPath : String) (file : File)
    (ls : List Label) :
    (∀ t, Visits (step api schema policyPath) (Sys.boot file) ls t → ¬ StoppedReady t) ↔
      Along (step api schema policyPath) ErrorsNotReady (Sys.boot file) ls := by
  have hboot : ¬ StoppedReady (Sys.boot file : Sys β) := by
    rintro ⟨hpc, -⟩
    cases hpc
  exact (along_iff_visits (fun s l hs => errorsNotReady_iff s l hs) hboot).symm

/-- **A lag report ends reloading for good**, and the server keeps answering ready. -/
theorem lagged_stops_ready : ∃ t,
    run (step files loginSchema "policies.cedar") (Sys.boot (.ok (sourceText permitAll)))
      (startupSteps ++ [.recv (.lagged 1)]) = some t ∧ StoppedReady t ∧
        ∀ ls u, run (step files loginSchema "policies.cedar") t ls = some u →
          u.live = some permitAll ∧ StoppedReady u := by
  have hv := validates_permitAll "policies.cedar"
  refine ⟨⟨.ok (sourceText permitAll), some permitAll, some (sourceText permitAll), true, .stopped⟩,
    run_append.mpr ⟨_, run_startup hv, rfl⟩, ⟨rfl, rfl⟩, fun ls u hu => ?_⟩
  obtain ⟨hpc, hlive, hready⟩ := stopped_run rfl hu
  exact ⟨hlive, hpc, (readyz_eq_iff u).mpr hready⟩

end AuthzenPdp
