import AuthzenPdp.Evaluate.Diagnostics
import AuthzenPdp.Evaluate.Snapshot

/-!
# Concurrent evaluations

Any number of calls share the server with its reload task. Each reads the live set twice, and any steps
of the server and of other calls may come before, between and after. Each finds the determining ids in an
order of its own.

* `Server`, `serveAll`: the server and its calls, in steps;
* `ServedAfter`: the set that a schedule leaves live;
* `outcome_eq_evaluate`: every outcome is that of `evaluate` on the sets that are live at the two reads
  of the call;
* `accepted_of_served`, **`outcome_accepted`**: with reads as in `SafeRead`, both sets are accepted;
* **`outcome_annotations`**: rewrites of annotations never change a decision, whenever they happen.
-/

namespace AuthzenPdp

open Trans

variable {β τ ν ι : Type}

/-- The server and its calls. -/
structure Server (β ι : Type) where
  sys : Sys β
  calls : ι → Call β

/-- A step of the server, or the next read of a call. -/
inductive ServerLabel (ι : Type) where
  | sys (l : Label)
  | read (i : ι)

/-- The server before startup, and calls to come. -/
def Server.boot (file : File) : Server β ι := ⟨Sys.boot file, fun _ => .waiting⟩

/-- What the call `i` has to do with. -/
def Server.view (i : ι) (w : Server β ι) : World β := ⟨w.sys, w.calls i⟩

variable [DecidableEq ι]

/-- The step that the reload task sees. -/
def ServerLabel.sysLabel : ServerLabel ι → Option Label
  | .sys l => some l
  | .read _ => none

section Serve

variable (state : AppState β τ ν) (orders : ι → ReasonOrder) (api : PolicyApi β (Schema τ))
  (policyPath : String) (bodies : ι → List UInt8)

/-- The calls take their steps as `serve` says, one at a time, each with its order. -/
def serveAll (w : Server β ι) : ServerLabel ι → Option (Server β ι)
  | .sys l => (step api state.schema policyPath w.sys l).map fun s => { w with sys := s }
  | .read i => (serve (state.inOrder (orders i)) api policyPath (bodies i) (w.view i) .read).map fun v =>
      { w with calls := Function.update w.calls i v.call }

/-- `S` is the live set after the schedule. -/
def ServedAfter (file : File) (ls : List (ServerLabel ι)) (S : PolicySet β) : Prop :=
  ∃ w p, run (serveAll state orders api policyPath bodies) (Server.boot file) ls = some w ∧
    w.sys.pdp = some p ∧ p.provider = S

/-- Where the call `i` stands after a schedule. -/
def Answering (file : File) (i : ι) (ls : List (ServerLabel ι)) (w : Server β ι) : Prop :=
  match w.calls i with
  | .waiting => True
  | .authorized first result => (∃ p, w.sys.pdp = some p) ∧ ∃ ls₁ ls₂, ls = ls₁ ++ .read i :: ls₂ ∧
      ServedAfter state orders api policyPath bodies file ls₁ first ∧
        result = authorized (state.inOrder (orders i)) first (bodies i)
  | .done outcome => ∃ ls₁ ls₂ ls₃ S₁ S₂, ls = ls₁ ++ .read i :: (ls₂ ++ .read i :: ls₃) ∧
      ServedAfter state orders api policyPath bodies file ls₁ S₁ ∧
      ServedAfter state orders api policyPath bodies file (ls₁ ++ .read i :: ls₂) S₂ ∧
      outcome = evaluate (state.inOrder (orders i)) S₁ (some S₂) (bodies i)

variable {state orders api policyPath bodies}

/-! ## What the parties see -/

theorem serveAll_read {w w' : Server β ι} {i : ι}
    (h : serveAll state orders api policyPath bodies w (.read i) = some w') :
    w'.sys = w.sys ∧ (∀ j, j ≠ i → w'.calls j = w.calls j) ∧
      serve (state.inOrder (orders i)) api policyPath (bodies i) (w.view i) .read = some (w'.view i) := by
  obtain ⟨v, hv, rfl⟩ := Option.map_eq_some_iff.mp h
  refine ⟨rfl, fun j hj => Function.update_of_ne hj _ _, ?_⟩
  have hsys : v.sys = w.sys := serve_read_sys hv
  have hcall : Function.update w.calls i v.call i = v.call := Function.update_self _ _ _
  rw [hv]
  simp only [Server.view, hcall, ← hsys]

variable (state) in
/-- The reads of a call with the given body, beside the server `s`. -/
inductive CallMove (body : List UInt8) (s : Sys β) : Call β → Call β → Prop where
  | first {p : Pdp β} (hp : s.pdp = some p) :
      CallMove body s .waiting (.authorized p.provider (authorized state p.provider body))
  | reject (set : PolicySet β) (e : ApiError) :
      CallMove body s (.authorized set (.error e)) (.done (.error e))
  | second (set : PolicySet β) (target : LogTarget) (response : Response) :
      CallMove body s (.authorized set (.ok (target, response)))
        (.done (.ok (answer target response s.live)))

/-- **Inversion of a read.** -/
theorem callMove_of_read {w w' : Server β ι} {i : ι}
    (h : serveAll state orders api policyPath bodies w (.read i) = some w') :
    CallMove (state.inOrder (orders i)) (bodies i) w.sys (w.calls i) (w'.calls i) := by
  obtain ⟨-, -, hread⟩ := serveAll_read h
  change CallMove (state.inOrder (orders i)) (bodies i) w.sys (w.calls i) (w'.view i).call
  generalize w'.view i = v at hread ⊢
  unfold Server.view at hread
  generalize w.calls i = c at hread ⊢
  cases c with
  | waiting =>
    obtain ⟨p, hp, heq⟩ := Option.map_eq_some_iff.mp hread
    cases heq
    exact .first hp
  | authorized set result =>
    cases result with
    | error e =>
      cases hread
      exact .reject set e
    | ok out =>
      cases hread
      exact .second set out.1 out.2
  | done outcome => cases hread

theorem serveAll_sys {w w' : Server β ι} {l : Label}
    (h : serveAll state orders api policyPath bodies w (.sys l) = some w') :
    step api state.schema policyPath w.sys l = some w'.sys ∧ w'.calls = w.calls := by
  obtain ⟨s, hs, rfl⟩ := Option.map_eq_some_iff.mp h
  exact ⟨hs, rfl⟩

/-- A step of the reload task. -/
theorem sys_of_seen (w : Server β ι) (l : ServerLabel ι) (w' : Server β ι) (l' : Label)
    (h : serveAll state orders api policyPath bodies w l = some w') (hl : l.sysLabel = some l') :
    step api state.schema policyPath w.sys l' = some w'.sys := by
  cases l with
  | sys l =>
    cases hl
    exact (serveAll_sys h).1
  | read j => cases hl

theorem sys_of_unseen (w : Server β ι) (l : ServerLabel ι) (w' : Server β ι)
    (h : serveAll state orders api policyPath bodies w l = some w') (hl : l.sysLabel = none) :
    w'.sys = w.sys := by
  cases l with
  | sys l => cases hl
  | read j => exact (serveAll_read h).1

/-- The calls do not affect the server. -/
theorem run_sysLabel {w w' : Server β ι} {ls : List (ServerLabel ι)}
    (h : run (serveAll state orders api policyPath bodies) w ls = some w') :
    run (step api state.schema policyPath) w.sys (ls.filterMap ServerLabel.sysLabel) = some w'.sys :=
  run_filterMap sys_of_seen sys_of_unseen h

/-! ## The two reads of a call -/

theorem exists_pdp_iff {s : Sys β} :
    (∃ p, s.pdp = some p) ↔ (∃ ps, s.live = some ps) ∧ ∃ src, s.loadedSrc = some src := by
  obtain ⟨file, live, loaded, ready, pc⟩ := s
  constructor
  · rintro ⟨p, hp⟩
    obtain ⟨hlive, hl, -⟩ := pdp_eq_some_iff.mp hp
    exact ⟨⟨_, hlive⟩, _, hl⟩
  · rintro ⟨⟨ps, rfl⟩, src, rfl⟩
    exact ⟨⟨ps, src, ready⟩, rfl⟩

/-- The server goes on serving. -/
theorem exists_pdp_step {σ : Type} {api : PolicyApi β σ} {schema : σ} {s s' : Sys β} {l : Label}
    (h : Move api schema policyPath s l s') (hs : ∃ p, s.pdp = some p) : ∃ p, s'.pdp = some p := by
  rw [exists_pdp_iff] at hs ⊢
  refine ⟨live_isSome_step h hs.1, ?_⟩
  cases h with
  | started _ => exact ⟨_, rfl⟩
  | loaded src => exact ⟨src, rfl⟩
  | _ => exact hs.2

/-- A step that is not a read of `i` leaves it where it stands. -/
theorem answering_frame {file : File} {i : ι} {ls : List (ServerLabel ι)} {w w' : Server β ι}
    {l : ServerLabel ι} (hcall : w'.calls i = w.calls i)
    (hpdp : (∃ p, w.sys.pdp = some p) → ∃ p, w'.sys.pdp = some p)
    (hw : Answering state orders api policyPath bodies file i ls w) :
    Answering state orders api policyPath bodies file i (ls ++ [l]) w' := by
  unfold Answering at hw ⊢
  rw [hcall]
  cases hc : w.calls i with
  | waiting => trivial
  | authorized first result =>
    rw [hc] at hw
    obtain ⟨hp, ls₁, ls₂, rfl, hfirst⟩ := hw
    exact ⟨hpdp hp, ls₁, ls₂ ++ [l], by simp, hfirst⟩
  | done outcome =>
    rw [hc] at hw
    obtain ⟨ls₁, ls₂, ls₃, S₁, S₂, rfl, hS⟩ := hw
    exact ⟨ls₁, ls₂, ls₃ ++ [l], S₁, S₂, by simp, hS⟩

/-- A read of `i`. -/
theorem answering_read {file : File} {i : ι} {ls : List (ServerLabel ι)} {w w' : Server β ι}
    (hr : run (serveAll state orders api policyPath bodies) (Server.boot file) ls = some w)
    (hw : Answering state orders api policyPath bodies file i ls w)
    (h : serveAll state orders api policyPath bodies w (.read i) = some w') :
    Answering state orders api policyPath bodies file i (ls ++ [.read i]) w' := by
  have hsys := (serveAll_read h).1
  have hmove := callMove_of_read h
  unfold Answering at hw ⊢
  generalize w.calls i = c, w'.calls i = c' at hw hmove
  cases hmove with
  | @first p hp => exact ⟨⟨p, by rw [hsys]; exact hp⟩, ls, [], rfl, ⟨w, p, hr, hp, rfl⟩, rfl⟩
  | reject set e =>
    obtain ⟨⟨p, hp⟩, ls₁, ls₂, rfl, hfirst, hres⟩ := hw
    exact ⟨ls₁, ls₂, [], set, p.provider, by simp, hfirst, ⟨w, p, hr, hp, rfl⟩,
      (evaluate_of_error hres.symm _).symm⟩
  | second set target response =>
    obtain ⟨⟨p, hp⟩, ls₁, ls₂, rfl, hfirst, hres⟩ := hw
    have hlive : w.sys.live = some p.provider := (pdp_eq_some_iff.mp hp).1
    refine ⟨ls₁, ls₂, [], set, p.provider, by simp, hfirst, ⟨w, p, hr, hp, rfl⟩, ?_⟩
    rw [hlive, evaluate_of_authorized hres.symm]

theorem answering_step {file : File} {i : ι} {ls : List (ServerLabel ι)} {w w' : Server β ι}
    {l : ServerLabel ι}
    (hr : run (serveAll state orders api policyPath bodies) (Server.boot file) ls = some w)
    (hw : Answering state orders api policyPath bodies file i ls w)
    (h : serveAll state orders api policyPath bodies w l = some w') :
    Answering state orders api policyPath bodies file i (ls ++ [l]) w' := by
  cases l with
  | sys l =>
    obtain ⟨hs, hcalls⟩ := serveAll_sys h
    exact answering_frame (congrFun hcalls i) (exists_pdp_step (move_of_step hs)) hw
  | read j =>
    by_cases hj : i = j
    · subst hj
      exact answering_read hr hw h
    · obtain ⟨hsys, hcalls, -⟩ := serveAll_read h
      exact answering_frame (hcalls i hj) (hsys ▸ id) hw

/-- **What a call answers.** Whatever the reload task, the other calls and the writers of the file do
meanwhile, the outcome of a call is that of `evaluate` on the sets that are live at its two reads. -/
theorem outcome_eq_evaluate {file : File} {ls : List (ServerLabel ι)} {w : Server β ι}
    (h : run (serveAll state orders api policyPath bodies) (Server.boot file) ls = some w) {i : ι}
    {outcome : Except ApiError (EvaluationResponse × AccessLog)} (hi : w.calls i = .done outcome) :
    ∃ ls₁ ls₂ ls₃ S₁ S₂, ls = ls₁ ++ .read i :: (ls₂ ++ .read i :: ls₃) ∧
      ServedAfter state orders api policyPath bodies file ls₁ S₁ ∧
      ServedAfter state orders api policyPath bodies file (ls₁ ++ .read i :: ls₂) S₂ ∧
      outcome = evaluate (state.inOrder (orders i)) S₁ (some S₂) (bodies i) := by
  have hboot : Answering state orders api policyPath bodies file i [] (Server.boot file) := trivial
  have hend : Answering state orders api policyPath bodies file i ls w :=
    run_history (C := fun _ _ => True) hboot (fun _ _ _ _ hr _ hw hs => answering_step hr hw hs)
      (along_of_forall _ fun _ _ => trivial) h
  unfold Answering at hend
  rw [hi] at hend
  exact hend

/-! ## Accepted sets -/

variable (state api policyPath) in
/-- The provider reads nothing unsafe. -/
def SafeServer (w : Server β ι) (l : ServerLabel ι) : Prop :=
  ∀ l', l.sysLabel = some l' → SafeRead api state.schema policyPath w.sys l'

/-- A source is loaded at the end of startup. -/
def LoadedIfStarted (s : Sys β) : Prop := s.Started ∨ s.loadedSrc = none

theorem loadedIfStarted_step {σ : Type} {api : PolicyApi β σ} {schema : σ} {s s' : Sys β} {l : Label}
    (h : Move api schema policyPath s l s') (hs : LoadedIfStarted s) : LoadedIfStarted s' := by
  cases h with
  | write _ => exact hs
  | provider _ => exact hs.imp_left id
  | noProvider _ => exact hs.imp_left id
  | notStarted _ => exact hs.imp_left id
  | _ => exact .inl trivial

/-- **What is served is accepted**, along safe reads. -/
theorem accepted_of_pdp {σ : Type} {api : PolicyApi β σ} {schema : σ} {file : File} {ls : List Label}
    {t : Sys β} {p : Pdp β}
    (hc : Along (step api schema policyPath) (SafeRead api schema policyPath) (Sys.boot file) ls)
    (h : run (step api schema policyPath) (Sys.boot file) ls = some t) (hp : t.pdp = some p) :
    Accepted api schema policyPath p.provider := by
  have hstart : LoadedIfStarted t :=
    run_move_inv (fun _ _ _ _ => loadedIfStarted_step) (C := fun _ _ => True) (.inr rfl)
      (along_of_forall _ fun _ _ => trivial) h
  have hboot : SafeState api schema policyPath (Sys.boot file : Sys β) := trivial
  have hsafe : SafeState api schema policyPath t := run_move_inv (fun _ _ _ => safeState_step) hboot hc h
  obtain ⟨f, live, loaded, ready, pc⟩ := t
  obtain ⟨rfl, rfl, -⟩ := pdp_eq_some_iff.mp hp
  have hlive : LiveAccepted api schema policyPath ⟨f, some p.provider, some p.loadedSrc, ready, pc⟩ := by
    cases pc with
    | newProvider => exact absurd (hstart.resolve_left id) (Option.some_ne_none _)
    | loadAndValidate => exact absurd (hstart.resolve_left id) (Option.some_ne_none _)
    | failed => exact absurd (hstart.resolve_left id) (Option.some_ne_none _)
    | updateProviderData src => exact hsafe.1
    | swap src ps => exact hsafe.1
    | _ => exact hsafe
  obtain ⟨ps, hps, hacc⟩ := hlive
  cases hps
  exact hacc

theorem accepted_of_served {file : File} {ls : List (ServerLabel ι)} {S : PolicySet β}
    (ls' : List (ServerLabel ι))
    (hc : Along (serveAll state orders api policyPath bodies) (SafeServer state api policyPath)
      (Server.boot file) (ls ++ ls')) (h : ServedAfter state orders api policyPath bodies file ls S) :
    Accepted api state.schema policyPath S := by
  obtain ⟨w, p, hr, hp, rfl⟩ := h
  exact accepted_of_pdp (along_filterMap sys_of_seen sys_of_unseen (fun _ _ _ hl => hl _)
    (along_append.mp hc).1 hr) (run_sysLabel hr) hp

/-- Both sets that a call reads. -/
theorem accepted_of_reads {file : File} {ls₁ ls₂ ls₃ : List (ServerLabel ι)} {i : ι}
    {S₁ S₂ : PolicySet β}
    (hc : Along (serveAll state orders api policyPath bodies) (SafeServer state api policyPath)
      (Server.boot file) (ls₁ ++ .read i :: (ls₂ ++ .read i :: ls₃)))
    (h₁ : ServedAfter state orders api policyPath bodies file ls₁ S₁)
    (h₂ : ServedAfter state orders api policyPath bodies file (ls₁ ++ .read i :: ls₂) S₂) :
    Accepted api state.schema policyPath S₁ ∧ Accepted api state.schema policyPath S₂ := by
  refine ⟨accepted_of_served _ hc h₁, accepted_of_served (.read i :: ls₃) ?_ h₂⟩
  rwa [List.append_assoc, List.cons_append]

/-- **Only accepted sets answer.** Along safe reads, the outcome of every call is that of `evaluate` on
the sets that are live at its two reads, and both are accepted. -/
theorem outcome_accepted {file : File} {ls : List (ServerLabel ι)} {w : Server β ι}
    (hc : Along (serveAll state orders api policyPath bodies) (SafeServer state api policyPath)
      (Server.boot file) ls)
    (h : run (serveAll state orders api policyPath bodies) (Server.boot file) ls = some w) {i : ι}
    {outcome : Except ApiError (EvaluationResponse × AccessLog)} (hi : w.calls i = .done outcome) :
    ∃ ls₁ ls₂ ls₃ S₁ S₂, ls = ls₁ ++ .read i :: (ls₂ ++ .read i :: ls₃) ∧
      ServedAfter state orders api policyPath bodies file ls₁ S₁ ∧
      ServedAfter state orders api policyPath bodies file (ls₁ ++ .read i :: ls₂) S₂ ∧
      Accepted api state.schema policyPath S₁ ∧ Accepted api state.schema policyPath S₂ ∧
      outcome = evaluate (state.inOrder (orders i)) S₁ (some S₂) (bodies i) := by
  obtain ⟨ls₁, ls₂, ls₃, S₁, S₂, rfl, h₁, h₂, heq⟩ := outcome_eq_evaluate h hi
  obtain ⟨hacc₁, hacc₂⟩ := accepted_of_reads hc h₁ h₂
  exact ⟨ls₁, ls₂, ls₃, S₁, S₂, rfl, h₁, h₂, hacc₁, hacc₂, heq⟩

/-! ## Rewrites of annotations -/

theorem served_of_contents {F : File → Prop} {file : File} {ls ls' : List (ServerLabel ι)}
    {S : PolicySet β} (hF : F file) (hls : ∀ f, .sys (.write f) ∈ ls ++ ls' → F f)
    (h : ServedAfter state orders api policyPath bodies file ls S) :
    ∃ f, F f ∧ providerRead api f = .ok S := by
  obtain ⟨w, p, hr, hp, rfl⟩ := h
  refine live_of_contents hF (fun f hf => ?_) (visits_of_run (run_sysLabel hr))
    (pdp_eq_some_iff.mp hp).1
  obtain ⟨l, hl, hlf⟩ := List.mem_filterMap.mp hf
  cases l with
  | sys l =>
    cases hlf
    exact hls f (List.mem_append_left _ hl)
  | read j => cases hlf

/-- The two sets that answer a call. -/
theorem reads_of_contents {F : File → Prop} {file : File} {ls : List (ServerLabel ι)}
    {w : Server β ι} (hF : F file) (hls : ∀ f, .sys (.write f) ∈ ls → F f)
    (h : run (serveAll state orders api policyPath bodies) (Server.boot file) ls = some w) {i : ι}
    {outcome : Except ApiError (EvaluationResponse × AccessLog)} (hi : w.calls i = .done outcome) :
    ∃ S₁ S₂ f₁ f₂, (F f₁ ∧ providerRead api f₁ = .ok S₁) ∧ (F f₂ ∧ providerRead api f₂ = .ok S₂) ∧
      outcome = evaluate (state.inOrder (orders i)) S₁ (some S₂) (bodies i) := by
  obtain ⟨ls₁, ls₂, ls₃, S₁, S₂, rfl, h₁, h₂, heq⟩ := outcome_eq_evaluate h hi
  have hls₂ : ∀ f, .sys (.write f) ∈ (ls₁ ++ .read i :: ls₂) ++ .read i :: ls₃ → F f := by
    simpa only [List.append_assoc, List.cons_append] using hls
  obtain ⟨f₁, hf₁⟩ := served_of_contents hF hls h₁
  obtain ⟨f₂, hf₂⟩ := served_of_contents hF hls₂ h₂
  exact ⟨S₁, S₂, f₁, f₂, hf₁, hf₂, heq⟩

/-- What two outcomes for one request have in common when they differ in names and annotations at
most. -/
structure SameDecision (outcome outcome' : Except ApiError (EvaluationResponse × AccessLog)) : Prop where
  error : ∀ e, outcome = .error e ↔ outcome' = .error e
  decision : outcome.map (fun out => out.1.decision) = outcome'.map fun out => out.1.decision
  target : outcome.map (fun out => out.2.target) = outcome'.map fun out => out.2.target
  logged : outcome.map (fun out => (out.2.decision, out.2.externalAuthForced)) =
    outcome'.map fun out => (out.2.decision, out.2.externalAuthForced)

/-- **Rewrites of annotations never change a decision.** If all contents of the file read as sets that
differ from `S` in annotations at most, every call is decided as `S` decides it, whatever the reload
task does meanwhile. -/
theorem outcome_annotations (hstate : state.IgnoresAnnotations) {S : PolicySet β} {file : File}
    {ls : List (ServerLabel ι)} {w : Server β ι}
    (hF : ∀ f, f = file ∨ .sys (.write f) ∈ ls → ∀ ps, providerRead api f = .ok ps → SamePolicies ps S)
    (h : run (serveAll state orders api policyPath bodies) (Server.boot file) ls = some w) {i : ι}
    {outcome : Except ApiError (EvaluationResponse × AccessLog)} (hi : w.calls i = .done outcome) :
    SameDecision outcome (evaluate state S (some S) (bodies i)) := by
  obtain ⟨S₁, S₂, f, -, ⟨hf, hread⟩, -, rfl⟩ := reads_of_contents
    (F := fun f => f = file ∨ .sys (.write f) ∈ ls) (.inl rfl) (fun f hf => .inr hf) h hi
  have hsame := authorized_inOrder state (orders i) S₁ (bodies i)
  rw [authorized_congr (fun request entities => hstate _ _ _ _ (hF f hf S₁ hread))] at hsame
  cases hauth : authorized state S (bodies i) with
  | error e =>
    rw [hauth] at hsame
    rw [evaluate_of_error hsame, evaluate_of_error hauth]
    exact ⟨fun _ => Iff.rfl, rfl, rfl, rfl⟩
  | ok out =>
    rw [hauth] at hsame
    rw [evaluate_of_authorized hsame, evaluate_of_authorized hauth]
    exact ⟨fun e => iff_of_false nofun nofun, rfl, rfl, rfl⟩

/-! ## A started server -/

/-- A step of the reload task alone. -/
theorem serveAll_sysOnly (calls : ι → Call β) (s : Sys β) (l : Label) (s' : Sys β)
    (h : step api state.schema policyPath s l = some s') :
    serveAll state orders api policyPath bodies ⟨s, calls⟩ (.sys l) = some ⟨s', calls⟩ := by
  simp only [serveAll, h, Option.map_some]

theorem run_sysOnly {s s' : Sys β} {ls : List Label}
    (h : run (step api state.schema policyPath) s ls = some s') (calls : ι → Call β) :
    run (serveAll state orders api policyPath bodies) ⟨s, calls⟩ (ls.map .sys) = some ⟨s', calls⟩ :=
  run_map (fun s => (⟨s, calls⟩ : Server β ι)) (serveAll_sysOnly calls) h

/-- The server after startup on `src`, before any call. -/
def Server.started (src : String) (ps : PolicySet β) : Server β ι :=
  ⟨⟨.ok src, some ps, some src, true, .recv⟩, fun _ => .waiting⟩

theorem run_started {src : String} {ps : PolicySet β}
    (hv : Validates api state.schema policyPath src ps) :
    run (serveAll state orders api policyPath bodies) (Server.boot (.ok src)) (startupSteps.map .sys) =
      some (Server.started src ps) :=
  run_sysOnly (run_startup hv) _

/-- Startup on a still file, and reads of calls. -/
theorem safe_started {src : String} {ps : PolicySet β}
    (hv : Validates api state.schema policyPath src ps) {reads : List (ServerLabel ι)}
    (hreads : ∀ l ∈ reads, l.sysLabel = none) :
    Along (serveAll state orders api policyPath bodies) (SafeServer state api policyPath)
      (Server.boot (.ok src)) (startupSteps.map .sys ++ reads) := by
  have hsys : Along (step api state.schema policyPath) (SafeRead api state.schema policyPath)
      (Sys.boot (.ok src)) startupSteps := by
    refine along_startup hv (fun _ => trivial) fun _ ps' hps' => .inl ?_
    cases hps'
    exact hv.1
  refine along_append.mpr ⟨along_map (fun s => (⟨s, fun _ => .waiting⟩ : Server β ι)) (serveAll_sysOnly _)
    (fun s l hl l' hl' => ?_) hsys (run_startup hv), fun t _ => ?_⟩
  · rw [← Option.some.inj hl']
    exact hl
  · refine (along_of_forall t hreads).mono fun _ _ hnone l' hl' => ?_
    rw [hnone] at hl'
    cases hl'

end Serve

/-! ## Two calls -/

/-- The reads of two calls, one inside the other. -/
def nestedReads : List (ServerLabel Bool) := [.read true, .read false, .read false, .read true]

theorem sysLabel_nestedReads : ∀ l ∈ nestedReads, l.sysLabel = none := by
  simp [nestedReads, ServerLabel.sysLabel]

/-- The calls find the determining ids in opposite orders. -/
def twoOrders (i : Bool) : ReasonOrder := if i then .given else .reversed

/-- The server after startup on `blockExternal`. -/
abbrev startedServer : Server Rule Bool := Server.started (sourceText blockExternal) blockExternal

/-- The server, for two calls. -/
abbrev serveLogins : Server Rule Bool → ServerLabel Bool → Option (Server Rule Bool) :=
  serveAll loginPdp twoOrders files "policies.cedar" fun _ => []

/-- What `blockExternal` answers. -/
def blockedAnswer : EvaluationResponse × AccessLog :=
  answer (LogTarget.new (loginTo "a-client")) ⟨.deny, ["policy0"], []⟩ (some blockExternal)

theorem run_nestedReads : ∃ w, run serveLogins startedServer nestedReads = some w ∧
    w.calls true = .done (.ok blockedAnswer) ∧ w.calls false = .done (.ok blockedAnswer) :=
  ⟨_, rfl, rfl, rfl⟩

theorem validates_loginPdp :
    Validates files loginPdp.schema "policies.cedar" (sourceText blockExternal) blockExternal :=
  validates_blockExternal "policies.cedar"

theorem run_twoCalls : ∃ w,
    run serveLogins (Server.boot (.ok (sourceText blockExternal)))
      (startupSteps.map .sys ++ nestedReads) = some w ∧
    w.calls true = .done (.ok blockedAnswer) ∧ w.calls false = .done (.ok blockedAnswer) := by
  obtain ⟨w, hw, hcalls⟩ := run_nestedReads
  exact ⟨w, run_append.mpr ⟨_, run_started validates_loginPdp, hw⟩, hcalls⟩

/-- The outer call. -/
theorem outcome_accepted_outer : ∃ ls₁ ls₂ ls₃ S₁ S₂,
    startupSteps.map .sys ++ nestedReads = ls₁ ++ .read true :: (ls₂ ++ .read true :: ls₃) ∧
      ServedAfter loginPdp twoOrders files "policies.cedar" (fun _ => [])
        (.ok (sourceText blockExternal)) ls₁ S₁ ∧
      ServedAfter loginPdp twoOrders files "policies.cedar" (fun _ => [])
        (.ok (sourceText blockExternal)) (ls₁ ++ .read true :: ls₂) S₂ ∧
      Accepted files loginSchema "policies.cedar" S₁ ∧ Accepted files loginSchema "policies.cedar" S₂ ∧
      .ok blockedAnswer = evaluate (loginPdp.inOrder .given) S₁ (some S₂) [] := by
  obtain ⟨w, hw, htrue, -⟩ := run_twoCalls
  exact outcome_accepted (safe_started validates_loginPdp sysLabel_nestedReads) hw htrue

/-! ## A rule is renamed during a call -/

/-- Startup, and a call during which the server reloads `blockRenamed`. -/
def renamingSteps : List (ServerLabel Bool) :=
  startupSteps.map .sys ++ (.read true ::
    ((reloadSteps (sourceText blockRenamed) (.ok (sourceText blockRenamed))).map .sys ++ [.read true]))

/-- What the renamed rule answers. -/
def renamedAnswer : EvaluationResponse × AccessLog :=
  answer (LogTarget.new (loginTo "a-client")) ⟨.deny, ["policy0"], []⟩ (some blockRenamed)

theorem run_renamingSteps : ∃ w, run serveLogins (Server.boot (.ok (sourceText blockExternal)))
    renamingSteps = some w ∧ w.calls true = .done (.ok renamedAnswer) := by
  obtain ⟨hp, n, hn⟩ := validates_blockRenamed "policies.cedar"
  have hread : providerRead files (.ok (sourceText blockRenamed)) = .ok blockRenamed := hp
  have hreload : run (step files loginPdp.schema "policies.cedar") startedServer.sys
      (reloadSteps (sourceText blockRenamed) (.ok (sourceText blockRenamed))) =
        some ⟨.ok (sourceText blockRenamed), some blockRenamed, some (sourceText blockRenamed), true,
          .recv⟩ :=
    run_reloadSteps hn hread (mt Option.some.inj blockRenamed_ne_blockExternal) true
  exact ⟨_, run_append.mpr ⟨_, run_started validates_loginPdp, run_cons.mpr ⟨_, rfl,
    run_append.mpr ⟨_, run_sysOnly hreload _, rfl⟩⟩⟩, rfl⟩

/-- The answer has the new name, and the decision of the old rule. -/
theorem outcome_annotations_renamed :
    SameDecision (.ok renamedAnswer) (evaluate loginPdp blockExternal (some blockExternal) []) := by
  obtain ⟨w, hw, htrue⟩ := run_renamingSteps
  refine outcome_annotations (pdp_ignoresAnnotations _ _) (fun f hf ps hps => ?_) hw htrue
  have hfile : f = .ok (sourceText blockExternal) ∨ f = .ok (sourceText blockRenamed) := by
    simpa [renamingSteps, startupSteps, reloadSteps] using hf
  rcases hfile with rfl | rfl
  · rw [providerRead, fromStr_files (by simp [policyFiles])] at hps
    obtain rfl := Except.ok.inj hps
    exact List.forall₂_same.mpr fun p _ => ⟨rfl, rfl⟩
  · rw [providerRead, fromStr_files (by simp [policyFiles])] at hps
    obtain rfl := Except.ok.inj hps
    exact .cons ⟨rfl, rfl⟩ (.cons ⟨rfl, rfl⟩ .nil)

end AuthzenPdp
