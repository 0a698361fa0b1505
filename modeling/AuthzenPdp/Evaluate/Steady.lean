import AuthzenPdp.Evaluate.Concurrent

/-!
# Between installations

What the server does while the file holds nothing that an event would install, and what its callers are
told then.

* `Idle`, `Kept`, `kept_step`: such contents, and what the server keeps;
* `SteadyCall`, `steadyCall_of_run`: calls that have seen one set only;
* **`outcome_steady`**: they are answered from the live set alone, each in its order, and without ties
  in that set all in one way.
-/

namespace AuthzenPdp

open Trans

variable {β τ ν ι : Type}

/-! ## The server -/

section Kept

variable {σ : Type} (api : PolicyApi β σ) (schema : σ) (policyPath : String) (q : Pdp β)

/-- A content of the file that no event installs over `q`: it cannot be read, it is the loaded source,
or the loader rejects it. -/
def Idle (file : File) : Prop :=
  ∀ src, file = .ok src → src = q.loadedSrc ∨ ¬ ∃ n, validateSource api src policyPath schema = .ok n

/-- The server keeps what `q` has live and loaded. -/
structure Kept (s : Sys β) : Prop where
  file : Idle api schema policyPath q s.file
  live : s.live = some q.provider
  loadedSrc : s.loadedSrc = some q.loadedSrc
  pc : s.pc = .recv ∨ s.pc = .readSource ∨ (∃ src, s.pc = .validateSource src ∧
    ¬ ∃ n, validateSource api src policyPath schema = .ok n) ∨ (∃ b, s.pc = .setReady b) ∨
      s.pc = .stopped

variable {api schema policyPath q}

theorem idle_loaded : Idle api schema policyPath q (.ok q.loadedSrc) :=
  fun _ h => .inl (Except.ok.inj h).symm

theorem kept_step {s s' : Sys β} {l : Label}
    (hl : ∀ file, l = .write file → Idle api schema policyPath q file)
    (h : Move api schema policyPath s l s') (hs : Kept api schema policyPath q s) :
    Kept api schema policyPath q s' := by
  obtain ⟨hfile, hlive, hloaded, hpc⟩ := hs
  cases h with
  | write file' => exact ⟨hl file' rfl, hlive, hloaded, hpc⟩
  | event => exact ⟨hfile, hlive, hloaded, .inr (.inl rfl)⟩
  | closed _ => exact ⟨hfile, hlive, hloaded, .inr (.inr (.inr (.inr rfl)))⟩
  | same src => exact ⟨hfile, hlive, hloaded, .inr (.inr (.inr (.inl ⟨_, rfl⟩)))⟩
  | flagged b => exact ⟨hfile, hlive, hloaded, .inl rfl⟩
  | unreadable e => exact ⟨hfile, hlive, hloaded, .inr (.inr (.inr (.inl ⟨_, rfl⟩)))⟩
  | changed src hne =>
    have hsrc : src ≠ q.loadedSrc := fun heq => hne (heq ▸ hloaded.symm)
    exact ⟨hfile, hlive, hloaded, .inr (.inr (.inl ⟨src, rfl, (hfile src rfl).resolve_left hsrc⟩))⟩
  | rejected hv => exact ⟨hfile, hlive, hloaded, .inr (.inr (.inr (.inl ⟨_, rfl⟩)))⟩
  | accepted hv =>
    simp only [reduceCtorEq, Pc.validateSource.injEq, exists_eq_left', exists_false, false_or,
      or_false] at hpc
    exact absurd ⟨_, hv⟩ hpc
  | _ => simp at hpc

end Kept

/-! ## Its callers -/

section Callers

variable [DecidableEq ι] {state : AppState β τ ν} {orders : ι → ReasonOrder}
  {api : PolicyApi β (Schema τ)} {policyPath : String} {bodies : ι → List UInt8}

variable (state orders bodies) in
/-- Where a call stands that has seen no other set than `S`. -/
def SteadyCall (S : PolicySet β) (i : ι) : Call β → Prop
  | .waiting => True
  | .authorized _ result => result = authorized (state.inOrder (orders i)) S (bodies i)
  | .done outcome => outcome = evaluate (state.inOrder (orders i)) S (some S) (bodies i)

omit [DecidableEq ι] in
theorem SteadyCall.outcome {S : PolicySet β} {i : ι} {c : Call β}
    {outcome : Except ApiError (EvaluationResponse × AccessLog)} (h : SteadyCall state orders bodies S i c)
    (hc : c = .done outcome) : outcome = evaluate (state.inOrder (orders i)) S (some S) (bodies i) := by
  rw [hc] at h
  exact h

omit [DecidableEq ι] in
/-- Without ties in `S`, the order makes no difference. -/
theorem SteadyCall.outcome_untied {S : PolicySet β} {i : ι} {c : Call β}
    {outcome : Except ApiError (EvaluationResponse × AccessLog)}
    (h : SteadyCall state orders bodies S i c) (hc : c = .done outcome) (hS : S.Untied) :
    outcome = evaluate state S (some S) (bodies i) :=
  (h.outcome hc).trans (evaluate_inOrder_of_untied hS state (orders i) (bodies i))

theorem steadyCall_read {S : PolicySet β} {i : ι} {w w' : Server β ι}
    (h : serveAll state orders api policyPath bodies w (.read i) = some w') (hlive : w.sys.live = some S)
    (hw : SteadyCall state orders bodies S i (w.calls i)) :
    SteadyCall state orders bodies S i (w'.calls i) := by
  have hmove := callMove_of_read h
  generalize w.calls i = c, w'.calls i = c' at hw hmove
  cases hmove with
  | @first p hp =>
    have hset : p.provider = S := Option.some.inj ((pdp_eq_some_iff.mp hp).1.symm.trans hlive)
    rw [hset]
    exact rfl
  | reject set e =>
    have hres : .error e = authorized (state.inOrder (orders i)) S (bodies i) := hw
    exact (evaluate_of_error hres.symm _).symm
  | second set target response =>
    have hres : .ok (target, response) = authorized (state.inOrder (orders i)) S (bodies i) := hw
    rw [hlive]
    exact (evaluate_of_authorized hres.symm _).symm

/-- A call that begins while an invariant of the reload task keeps `S` live. -/
theorem steadyCall_of_inv {C : Label → Prop} {I : Sys β → Prop} {S : PolicySet β}
    (hlive : ∀ s, I s → s.live = some S)
    (hmove : ∀ s l s', C l → Move api state.schema policyPath s l s' → I s → I s') {w w' : Server β ι}
    {ls : List (ServerLabel ι)} (hw : I w.sys) (hC : ∀ l, .sys l ∈ ls → C l)
    (h : run (serveAll state orders api policyPath bodies) w ls = some w') {i : ι}
    (hbegin : w.calls i = .waiting) : SteadyCall state orders bodies S i (w'.calls i) := by
  have hstep : ∀ (u : Server β ι) l u', (∀ l', l = .sys l' → C l') →
      serveAll state orders api policyPath bodies u l = some u' →
      I u.sys ∧ SteadyCall state orders bodies S i (u.calls i) →
        I u'.sys ∧ SteadyCall state orders bodies S i (u'.calls i) := by
    rintro u (l | j) u' hl hu ⟨hs, hcall⟩
    · obtain ⟨hsys, hcalls⟩ := serveAll_sys hu
      rw [hcalls]
      exact ⟨hmove _ _ _ (hl l rfl) (move_of_step hsys) hs, hcall⟩
    · obtain ⟨hsys, hcalls, -⟩ := serveAll_read hu
      rw [hsys]
      by_cases hj : i = j
      · subst hj
        exact ⟨hs, steadyCall_read hu (hlive _ hs) hcall⟩
      · rw [hcalls i hj]
        exact ⟨hs, hcall⟩
  have hstart : I w.sys ∧ SteadyCall state orders bodies S i (w.calls i) := by
    rw [hbegin]
    exact ⟨hw, trivial⟩
  exact (run_inv hstep hstart (along_of_forall w fun l hl l' hl' => hC l' (hl' ▸ hl)) h).2

/-- A call that begins while the server keeps what it has. -/
theorem steadyCall_of_run {w w' : Server β ι} {q : Pdp β} {ls : List (ServerLabel ι)}
    (hpc : w.sys.pc = .recv) (hq : w.sys.pdp = some q)
    (hfile : Idle api state.schema policyPath q w.sys.file)
    (hls : ∀ file, .sys (.write file) ∈ ls → Idle api state.schema policyPath q file)
    (h : run (serveAll state orders api policyPath bodies) w ls = some w') {i : ι}
    (hbegin : w.calls i = .waiting) : SteadyCall state orders bodies q.provider i (w'.calls i) := by
  obtain ⟨hlive, hloaded, -⟩ := pdp_eq_some_iff.mp hq
  have hstart : Kept api state.schema policyPath q w.sys := ⟨hfile, hlive, hloaded, .inl hpc⟩
  exact steadyCall_of_inv
    (C := fun l => ∀ file, l = .write file → Idle api state.schema policyPath q file)
    (fun _ => Kept.live) (fun _ _ _ => kept_step) hstart (fun l hl file hw => hls file (hw ▸ hl)) h hbegin

/-- **Only an accepted new source changes answers.** From any state between two events, and while the
file holds nothing but the loaded source, sources that the loader rejects, or nothing readable, every
call that begins has the outcome of the live set alone, in the order that the call finds, whatever events,
faults and other calls there are. If the live set has no ties, the order makes no difference. -/
theorem outcome_steady {w w' : Server β ι} {q : Pdp β} {ls : List (ServerLabel ι)}
    (hpc : w.sys.pc = .recv) (hq : w.sys.pdp = some q)
    (hfile : Idle api state.schema policyPath q w.sys.file)
    (hls : ∀ file, .sys (.write file) ∈ ls → Idle api state.schema policyPath q file)
    (h : run (serveAll state orders api policyPath bodies) w ls = some w') {i : ι}
    (hbegin : w.calls i = .waiting) {outcome : Except ApiError (EvaluationResponse × AccessLog)}
    (hi : w'.calls i = .done outcome) :
    outcome = evaluate (state.inOrder (orders i)) q.provider (some q.provider) (bodies i) ∧
      (q.provider.Untied → outcome = evaluate state q.provider (some q.provider) (bodies i)) := by
  have hsteady := steadyCall_of_run hpc hq hfile hls h hbegin
  exact ⟨hsteady.outcome hi, hsteady.outcome_untied hi⟩

end Callers

/-! ## Two orders -/

/-- Two rules of one name and with one context. -/
abbrev stepUpSet : PolicySet Rule := tiedSet "external-auth"

theorem untied_stepUpSet : stepUpSet.Untied := fun p hp q hq _ k => by
  rw [Policy.annotationAt, Policy.annotationAt, annotations_tiedSet hp, annotations_tiedSet hq]

/-- Two calls during an event that finds no file. -/
def readsWhileGone : List (ServerLabel Bool) :=
  [.sys (.write (.error "No such file")), .read true, .read false, .sys (.recv .event), .sys .run,
    .read false, .read true]

/-- The calls find both rules, in opposite orders, and are answered alike. -/
theorem outcome_steady_gone : ∃ w, run (serveAll loginPdp twoOrders
      (knownSources (Schema Ty) [stepUpSet]) "policies.cedar" fun _ => [])
      (Server.started (sourceText stepUpSet) stepUpSet) readsWhileGone = some w ∧
    ∀ i, w.calls i = .done (evaluate loginPdp stepUpSet (some stepUpSet) []) := by
  obtain ⟨w, outcomes, hw, hcalls⟩ : ∃ w outcomes, run (serveAll loginPdp twoOrders
      (knownSources (Schema Ty) [stepUpSet]) "policies.cedar" fun _ => [])
      (Server.started (sourceText stepUpSet) stepUpSet) readsWhileGone = some w ∧
        ∀ i, w.calls i = .done (outcomes i) :=
    ⟨_, fun i => evaluate (loginPdp.inOrder (twoOrders i)) stepUpSet (some stepUpSet) [], rfl,
      Bool.forall_bool.mpr ⟨rfl, rfl⟩⟩
  refine ⟨w, hw, fun i => ?_⟩
  have hgone : ∀ file, .sys (.write file) ∈ readsWhileGone →
      Idle (knownSources (Schema Ty) [stepUpSet]) loginSchema "policies.cedar"
        ⟨stepUpSet, sourceText stepUpSet, true⟩ file := by
    intro file hfile
    simp only [readsWhileGone, List.mem_cons, ServerLabel.sys.injEq, Label.write.injEq, reduceCtorEq,
      List.not_mem_nil, or_false] at hfile
    rw [hfile]
    exact nofun
  obtain ⟨-, halike⟩ := outcome_steady rfl rfl idle_loaded hgone hw rfl (hcalls i)
  rw [hcalls i, halike untied_stepUpSet]

end AuthzenPdp
