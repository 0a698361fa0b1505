import AuthzenPdp.Evaluate.Steady
import AuthzenPdp.Reload.Quiet

/-!
# Deploying a policy file

A file is put in place and left there. What becomes of the server, and of its callers.

* `Deployed`, `deployed_handle`: what one event makes of the file;
* `handle_of_deployed`: further events change nothing;
* `Still`, `snapshots_of_still`, `deployed_of_run`: the events of a run on such a file;
* **`outcome_deployed`**: the file, the readiness and the answers after a deployment.
-/

namespace AuthzenPdp

open Trans

variable {β σ τ ν ι : Type}

section Deployed

variable (api : PolicyApi β σ) (schema : σ) (policyPath : String)

/-- **A deployment of `file` over `p` ends in `q`**: an accepted new source is live and loaded, and makes
the server ready; the loaded source only makes it ready; and any other file only makes it not ready. -/
structure Deployed (p : Pdp β) (file : File) (q : Pdp β) : Prop where
  installed : ∀ src ps, file = .ok src → src ≠ p.loadedSrc →
    Validates api schema policyPath src ps → q = ⟨ps, src, true⟩
  loaded : file = .ok p.loadedSrc → q = { p with ready := true }
  rejected : file ≠ .ok p.loadedSrc → Idle api schema policyPath p file → q = { p with ready := false }

variable {api schema policyPath}

/-- The three kinds of files. -/
theorem file_cases (api : PolicyApi β σ) (schema : σ) (policyPath : String) (p : Pdp β) (file : File) :
    file = .ok p.loadedSrc ∨
      (∃ src ps, file = .ok src ∧ src ≠ p.loadedSrc ∧ Validates api schema policyPath src ps) ∨
      (file ≠ .ok p.loadedSrc ∧ Idle api schema policyPath p file) := by
  by_cases hidle : Idle api schema policyPath p file
  · by_cases hfile : file = .ok p.loadedSrc
    · exact .inl hfile
    · exact .inr (.inr ⟨hfile, hidle⟩)
  · unfold Idle at hidle
    push Not at hidle
    obtain ⟨src, hsrc, hne, n, hn⟩ := hidle
    obtain ⟨ps, hps, -⟩ := validateSource_ok_iff.mp hn
    exact .inr (.inl ⟨src, ps, hsrc, hne, hps, n, hn⟩)

variable (api schema policyPath) in
/-- **One event.** -/
theorem deployed_handle (p : Pdp β) (file : File) :
    Deployed api schema policyPath p file (handle api schema policyPath p ⟨file, none⟩) := by
  refine ⟨fun src ps hsrc hne hv => ?_, fun hfile => ?_, fun hne hidle => ?_⟩
  · exact reload_of_installs (e := ⟨file, file, none⟩) ⟨hsrc, hne, hv.2, hsrc ▸ hv.1, rfl⟩
  · exact reload_of_skips (e := ⟨file, file, none⟩) hfile
  · refine reload_of_fails (e := ⟨file, file, none⟩) ?_
    rintro (hfile | ⟨src, ps, hi⟩)
    · exact hne hfile
    · exact ((hidle src hi.file).resolve_left hi.changed) hi.accepted

variable {p q : Pdp β} {file : File}

/-- Nothing is left to be done. -/
theorem Deployed.idle (h : Deployed api schema policyPath p file q) :
    Idle api schema policyPath q file := by
  rcases file_cases api schema policyPath p file with hfile | ⟨src, ps, hsrc, hne, hv⟩ | ⟨hne, hidle⟩
  · rw [h.loaded hfile, hfile]
    exact fun src hsrc => .inl (Except.ok.inj hsrc).symm
  · rw [h.installed src ps hsrc hne hv, hsrc]
    exact fun src' hsrc' => .inl (Except.ok.inj hsrc').symm
  · rw [h.rejected hne hidle]
    exact hidle

/-- **Another event changes nothing.** -/
theorem handle_of_deployed (h : Deployed api schema policyPath p file q) :
    handle api schema policyPath q ⟨file, none⟩ = q := by
  have hagain := deployed_handle api schema policyPath q file
  rcases file_cases api schema policyPath p file with hfile | ⟨src, ps, hsrc, hne, hv⟩ | ⟨hne, hidle⟩
  · obtain rfl := h.loaded hfile
    exact hagain.loaded hfile
  · obtain rfl := h.installed src ps hsrc hne hv
    exact hagain.loaded hsrc
  · obtain rfl := h.rejected hne hidle
    exact hagain.rejected hne hidle

theorem deployed_handleAll {es : List Event} (hes : ∀ e ∈ es, e = ⟨file, none⟩) (hne : es ≠ []) :
    Deployed api schema policyPath p file (handleAll api schema policyPath p es) := by
  induction es using List.reverseRecOn with
  | nil => exact absurd rfl hne
  | append_singleton es e ih =>
    obtain ⟨hinit, hlast⟩ := List.forall_mem_append.mp hes
    obtain rfl := hlast e List.mem_cons_self
    rw [handleAll_concat]
    by_cases hnil : es = []
    · rw [hnil]
      exact deployed_handle api schema policyPath p file
    · rw [handle_of_deployed (ih hinit hnil)]
      exact ih hinit hnil

/-! ## Runs -/

/-- Nobody writes the file, and the provider does not fail. -/
def Still (ls : List Label) : Prop := ∀ l ∈ ls, (∀ file, l ≠ .write file) ∧ ∀ error, l ≠ .fault error

theorem file_of_still {s t : Sys β} {ls : List Label} (hls : Still ls)
    (h : run (step api schema policyPath) s ls = some t) : t.file = s.file := by
  have hmove : ∀ (u : Sys β) (l : Label) u', (∀ file, l ≠ .write file) →
      Move api schema policyPath u l u' → u.file = s.file → u'.file = s.file := by
    intro u l u' hl hu hi
    cases hu with
    | write file => exact absurd rfl (hl file)
    | _ => exact hi
  exact run_move_inv hmove rfl (along_of_forall s fun l hl => (hls l hl).1) h

theorem fault_of_still {ls : List Label} (hls : Still ls) (file : File) :
    ∀ x ∈ statements file ls, x.2 = none := by
  induction ls with
  | nil => exact fun x hx => absurd hx List.not_mem_nil
  | cons l ls ih =>
    obtain ⟨hl, htail⟩ := List.forall_mem_cons.mp hls
    cases l with
    | recv r => exact fun x hx => absurd hx List.not_mem_nil
    | write file' => exact absurd rfl (hl.1 file')
    | fault error => exact absurd rfl (hl.2 error)
    | run => exact List.forall_mem_cons.mpr ⟨rfl, ih htail⟩

theorem faultOf_eq_none {found : List (File × Option String)} (h : ∀ x ∈ found, x.2 = none) :
    faultOf found = none := by
  rcases found with _ | ⟨x, _ | ⟨y, _ | ⟨z, found⟩⟩⟩
  · rfl
  · rfl
  · rfl
  · exact h z (by simp)

/-- Every event finds the file that is there. -/
theorem snapshots_of_still {ls : List Label} (hls : Still ls) (file : File) :
    ∀ e ∈ snapshots file ls, e = ⟨file, none⟩ := by
  induction ls with
  | nil => exact fun e he => absurd he List.not_mem_nil
  | cons l ls ih =>
    obtain ⟨hl, htail⟩ := List.forall_mem_cons.mp hls
    cases l with
    | recv r =>
      cases r with
      | event =>
        have hfault := faultOf_eq_none (fault_of_still htail file)
        exact List.forall_mem_cons.mpr ⟨by rw [hfault], ih htail⟩
      | lagged n => exact ih htail
      | closed => exact ih htail
    | write file' => exact absurd rfl (hl.1 file')
    | fault error => exact absurd rfl (hl.2 error)
    | run => exact ih htail

/-- Events, one at least, on a file that stays. -/
theorem deployed_of_run {s t : Sys β} {ls : List Label} (hs : s.pc = .recv) (hp : s.pdp = some p)
    (hls : Still ls) (hcount : eventCount ls ≠ 0)
    (h : run (step api schema policyPath) s ls = some t) (ht : t.pc = .recv) :
    ∃ q, t.pdp = some q ∧ Deployed api schema policyPath p s.file q := by
  have hc : Along (step api schema policyPath) Between s ls :=
    (along_of_forall s hls).mono fun _ _ hl file hw => absurd hw (hl.1 file)
  have hne : snapshots s.file ls ≠ [] := by
    intro hnil
    rw [← length_snapshots s.file ls, hnil] at hcount
    exact hcount rfl
  exact ⟨_, handleAll_of_run hs hp hc h ht, deployed_handleAll (snapshots_of_still hls s.file) hne⟩

end Deployed

/-! ## The callers -/

section Callers

variable [DecidableEq ι] {state : AppState β τ ν} {orders : ι → ReasonOrder}
  {api : PolicyApi β (Schema τ)} {policyPath : String} {bodies : ι → List UInt8}

/-- **A deployment reaches the callers.** From any state between two events, on a file that is left
alone: after the next event, an accepted new source is live and the server ready, the loaded source has
made it ready, and any other file has made it not ready. From then on, every call that begins has the
outcome of the live set alone, until another source is accepted: in the order that the call finds, and if
the live set has no ties, in every order. -/
theorem outcome_deployed {w u w' : Server β ι} {p : Pdp β} (hpc : w.sys.pc = .recv)
    (hp : w.sys.pdp = some p) {ls ls' : List (ServerLabel ι)}
    (hls : Still (ls.filterMap ServerLabel.sysLabel))
    (hcount : eventCount (ls.filterMap ServerLabel.sysLabel) ≠ 0)
    (h : run (serveAll state orders api policyPath bodies) w ls = some u) (hu : u.sys.pc = .recv)
    (h' : run (serveAll state orders api policyPath bodies) u ls' = some w') {i : ι}
    (hbegin : u.calls i = .waiting) {outcome : Except ApiError (EvaluationResponse × AccessLog)}
    (hi : w'.calls i = .done outcome) :
    ∃ q, u.sys.pdp = some q ∧ Deployed api state.schema policyPath p w.sys.file q ∧
      ((∀ file, .sys (.write file) ∈ ls' → Idle api state.schema policyPath q file) →
        outcome = evaluate (state.inOrder (orders i)) q.provider (some q.provider) (bodies i) ∧
        (q.provider.Untied → outcome = evaluate state q.provider (some q.provider) (bodies i))) := by
  have hrun := run_sysLabel h
  obtain ⟨q, hq, hdeployed⟩ := deployed_of_run hpc hp hls hcount hrun hu
  refine ⟨q, hq, hdeployed, fun hls' => ?_⟩
  have hfile : Idle api state.schema policyPath q u.sys.file := by
    rw [file_of_still hls hrun]
    exact hdeployed.idle
  have hsteady := steadyCall_of_run hu hq hfile hls' h' hbegin
  exact ⟨hsteady.outcome hi, hsteady.outcome_untied hi⟩

end Callers

/-! ## A recovery -/

theorem untied_blockMaintenance : blockMaintenance.Untied := untied_of_nodup (by decide)

/-- The stale server answers from `blockMaintenance` after the next event. -/
theorem outcome_deployed_stale : ∃ u w', run serveLogins ⟨staleServer, fun _ => .waiting⟩
      ((quietEvent 6).map .sys) = some u ∧
    run serveLogins u nestedReads = some w' ∧
    u.sys.pdp = some ⟨blockMaintenance, sourceText blockMaintenance, true⟩ ∧
    ∀ i, w'.calls i = .done (evaluate loginPdp blockMaintenance (some blockMaintenance) []) := by
  have hv : Validates files loginPdp.schema "policies.cedar" (sourceText blockMaintenance)
    blockMaintenance := validates_blockMaintenance "policies.cedar"
  have hne := blockMaintenance_ne_blockExternal
  have hsys := run_quietEvent (p := ⟨permitAll, sourceText blockExternal, true⟩) hv hne
  have hrun : run serveLogins ⟨staleServer, fun _ => .waiting⟩ ((quietEvent 6).map .sys) =
      some ⟨_, _⟩ := run_sysOnly hsys _
  obtain ⟨w', outcomes, hw', hcalls⟩ : ∃ w' outcomes, run serveLogins ⟨idleAt
      ⟨blockMaintenance, sourceText blockMaintenance, true⟩ (.ok (sourceText blockMaintenance)),
      fun _ => .waiting⟩ nestedReads = some w' ∧ ∀ i, w'.calls i = .done (outcomes i) :=
    ⟨_, fun i => evaluate (loginPdp.inOrder (twoOrders i)) blockMaintenance (some blockMaintenance) [],
      rfl, Bool.forall_bool.mpr ⟨rfl, rfl⟩⟩
  have hstill : Still (((quietEvent 6).map ServerLabel.sys : List (ServerLabel Bool)).filterMap
      ServerLabel.sysLabel) := by
    simp [Still, quietEvent, ServerLabel.sysLabel]
  refine ⟨_, w', hrun, hw', rfl, fun i => ?_⟩
  obtain ⟨q, hq, hdeployed, hout⟩ :=
    outcome_deployed rfl rfl hstill (by decide) hrun rfl hw' rfl (hcalls i)
  obtain rfl := hdeployed.installed _ _ rfl hne hv
  obtain ⟨-, halike⟩ := hout (by simp [nestedReads])
  rw [hcalls i, halike untied_blockMaintenance]

end AuthzenPdp
