import AuthzenPdp.Evaluate.Reference
import AuthzenPdp.Reload.Live

/-!
# An evaluation under hot reload

A call of `evaluate` reads the live set twice, and the server may swap it in between.

* `Call`, `World`, `serve`: one call beside the server, in steps;
* `ReadsAlike`: the second read gives the determining ids the meaning they had at the first read, or
  at least the decision and the diagnostics that it would give itself;
* **`evaluate_snapshot`**: along such steps, the outcome is that of one set, live during the call;
* `swapTo`, `evaluate_mixes_sets`: a reload between the reads, and an outcome that is that of no live set.
-/

namespace AuthzenPdp

open Trans

variable {β τ ν : Type}

/-- The state of a call: before the authorizer reads the live set, between the two reads, and after.
Between the reads, the set that the authorizer used is kept along. -/
inductive Call (β : Type) where
  | waiting
  | authorized (first : PolicySet β) (result : Except ApiError (LogTarget × Response))
  | done (outcome : Except ApiError (EvaluationResponse × AccessLog))

structure World (β : Type) where
  sys : Sys β
  call : Call β

/-- A step of the server, or the next read of the call. -/
inductive WorldLabel where
  | sys (l : Label)
  | read

/-- The server before startup, and a call to come. -/
def World.boot (file : File) : World β := ⟨Sys.boot file, .waiting⟩

/-- The call is between its two reads. -/
def World.InCall (w : World β) : Prop := ∃ first result, w.call = .authorized first result

section Serve

variable (state : AppState β τ ν) (api : PolicyApi β (Schema τ)) (policyPath : String)
  (body : List UInt8)

/-- Calls are served from the end of startup on. -/
def serve (w : World β) : WorldLabel → Option (World β)
  | .sys l => (step api state.schema policyPath w.sys l).map fun s => { w with sys := s }
  | .read => match w.call with
    | .waiting => w.sys.pdp.map fun p =>
        { w with call := .authorized p.provider (authorized state p.provider body) }
    | .authorized _ (.error e) => some { w with call := .done (.error e) }
    | .authorized _ (.ok (target, response)) =>
        some { w with call := .done (.ok (answer target response w.sys.live)) }
    | .done _ => none

/-- **The second read fits the first**: either it serves the determining ids like the first, or it
gives the request the same decision and diagnostics. -/
def ReadsAlike (w : World β) (l : WorldLabel) : Prop :=
  l = .read → ∀ first target response ps, w.call = .authorized first (.ok (target, response)) →
    w.sys.live = some ps →
      (∀ id ∈ response.reason, Option.Rel ServedAlike (first.policy id) (ps.policy id)) ∨
        authorized state ps body = .ok (target, response)

/-- The outcome is that of a set that is live during the call. -/
def OneSet (file : File) (ls : List WorldLabel)
    (outcome : Except ApiError (EvaluationResponse × AccessLog)) : Prop :=
  ∃ w S, Visits (serve state api policyPath body) (World.boot file) ls w ∧ w.InCall ∧
    w.sys.live = some S ∧ outcome = evaluate state S (some S) body

/-- What a call keeps, from the schedule so far. -/
def CallHistory (file : File) (ls : List WorldLabel) (w : World β) : Prop :=
  match w.call with
  | .waiting => True
  | .authorized first result => result = authorized state first body ∧
      (∃ ps, w.sys.live = some ps) ∧
      ∃ w', Visits (serve state api policyPath body) (World.boot file) ls w' ∧ w'.InCall ∧
        w'.sys.live = some first
  | .done outcome => OneSet state api policyPath body file ls outcome

variable {state api policyPath body}

theorem live_isSome_step {σ : Type} {api : PolicyApi β σ} {schema : σ} {s s' : Sys β} {l : Label}
    (h : Move api schema policyPath s l s') (hs : ∃ ps, s.live = some ps) : ∃ ps, s'.live = some ps := by
  cases h with
  | provider _ => exact ⟨_, rfl⟩
  | swapped _ ps => exact ⟨ps, rfl⟩
  | _ => exact hs

theorem evaluate_of_servedAlike {first ps : PolicySet β} {target : LogTarget} {response : Response}
    (hfirst : authorized state first body = .ok (target, response))
    (h : ∀ id ∈ response.reason, Option.Rel ServedAlike (first.policy id) (ps.policy id)) :
    .ok (answer target response (some ps)) = evaluate state first (some first) body := by
  rw [evaluate_of_authorized hfirst, answer_of_servedAlike h]

theorem callHistory_step {file : File} {ls : List WorldLabel} {w w' : World β} {l : WorldLabel}
    (hr : run (serve state api policyPath body) (World.boot file) ls = some w)
    (hl : ReadsAlike state body w l) (hw : CallHistory state api policyPath body file ls w)
    (h : serve state api policyPath body w l = some w') :
    CallHistory state api policyPath body file (ls ++ [l]) w' := by
  have hlast : Visits (serve state api policyPath body) (World.boot file) (ls ++ [l]) w' :=
    visits_of_run (run_concat.mpr ⟨w, hr, h⟩)
  have hnow : Visits (serve state api policyPath body) (World.boot file) (ls ++ [l]) w :=
    (visits_of_run hr).append [l]
  obtain ⟨sys, call⟩ := w
  cases l with
  | sys l =>
    obtain ⟨sys', hs, rfl⟩ := Option.map_eq_some_iff.mp h
    cases call with
    | waiting => trivial
    | authorized first result =>
      obtain ⟨hres, hlive, v, hv, hin, hfirst⟩ := hw
      exact ⟨hres, live_isSome_step (move_of_step hs) hlive, v, hv.append _, hin, hfirst⟩
    | done outcome =>
      obtain ⟨v, S, hv, hin, hS, heq⟩ := hw
      exact ⟨v, S, hv.append _, hin, hS, heq⟩
  | read =>
    cases call with
    | waiting =>
      obtain ⟨p, hp, rfl⟩ := Option.map_eq_some_iff.mp h
      have hlive : sys.live = some p.provider := (pdp_eq_some_iff.mp hp).1
      exact ⟨rfl, ⟨_, hlive⟩, _, hlast, ⟨_, _, rfl⟩, hlive⟩
    | authorized first result =>
      obtain ⟨hres, ⟨ps, hps⟩, v, hv, hin, hfirst⟩ := hw
      cases result with
      | error e =>
        cases h
        exact ⟨v, first, hv.append _, hin, hfirst, (evaluate_of_error hres.symm _).symm⟩
      | ok out =>
        obtain ⟨target, response⟩ := out
        cases h
        have hps' : sys.live = some ps := hps
        rcases hl rfl first target response ps rfl hps with halike | hauth
        · refine ⟨v, first, hv.append _, hin, hfirst, ?_⟩
          rw [hps']
          exact evaluate_of_servedAlike hres.symm halike
        · refine ⟨_, ps, hnow, ⟨_, _, rfl⟩, hps, ?_⟩
          rw [hps', evaluate_of_authorized hauth]
    | done outcome => cases h

/-- **Snapshot consistency.** In every run of a call beside the server in which the second read fits
the first, the outcome is the one that a single set gives, live during the call. -/
theorem evaluate_snapshot {file : File} {ls : List WorldLabel}
    (hc : Along (serve state api policyPath body) (ReadsAlike state body) (World.boot file) ls)
    {w : World β} (h : Visits (serve state api policyPath body) (World.boot file) ls w)
    {outcome : Except ApiError (EvaluationResponse × AccessLog)} (hw : w.call = .done outcome) :
    OneSet state api policyPath body file ls outcome := by
  obtain ⟨ls₁, ls₂, rfl, hr⟩ := h
  have hboot : CallHistory state api policyPath body file [] (World.boot file : World β) := trivial
  have hhist : CallHistory state api policyPath body file ls₁ w :=
    run_history hboot (fun _ _ _ _ hr hl hw hs => callHistory_step hr hl hw hs)
      (along_append.mp hc).1 hr
  unfold CallHistory at hhist
  rw [hw] at hhist
  obtain ⟨v, S, hv, hin, hS, heq⟩ := hhist
  exact ⟨v, S, hv.append ls₂, hin, hS, heq⟩

/-! ## The server is not affected by the call -/

/-- The steps of the server in a schedule. -/
def sysLabels (ls : List WorldLabel) : List Label :=
  ls.filterMap fun | .sys l => some l | .read => none

theorem serve_read_sys {w w' : World β} (h : serve state api policyPath body w .read = some w') :
    w'.sys = w.sys := by
  obtain ⟨sys, call⟩ := w
  cases call with
  | waiting =>
    obtain ⟨p, -, rfl⟩ := Option.map_eq_some_iff.mp h
    rfl
  | authorized first result =>
    cases result <;> cases h <;> rfl
  | done outcome => cases h

theorem run_sysLabels {w w' : World β} {ls : List WorldLabel}
    (h : run (serve state api policyPath body) w ls = some w') :
    run (step api state.schema policyPath) w.sys (sysLabels ls) = some w'.sys := by
  refine run_filterMap (fun w l w' l' hw hl => ?_) (fun w l w' hw hl => ?_) h
  · cases l with
    | sys l =>
      cases hl
      obtain ⟨s, hs, rfl⟩ := Option.map_eq_some_iff.mp hw
      exact hs
    | read => cases hl
  · cases l with
    | sys l => cases hl
    | read => exact serve_read_sys hw

theorem visits_sysLabels {w w' : World β} {ls : List WorldLabel}
    (h : Visits (serve state api policyPath body) w ls w') :
    Visits (step api state.schema policyPath) w.sys (sysLabels ls) w'.sys := by
  obtain ⟨ls₁, ls₂, rfl, hr⟩ := h
  exact ⟨sysLabels ls₁, sysLabels ls₂, List.filterMap_append, run_sysLabels hr⟩

/-- Steps of the server, beside a call. -/
theorem run_sys {s s' : Sys β} {ls : List Label}
    (h : run (step api state.schema policyPath) s ls = some s') (call : Call β) :
    run (serve state api policyPath body) ⟨s, call⟩ (ls.map .sys) = some ⟨s', call⟩ := by
  have hstep : ∀ u l u', step api state.schema policyPath u l = some u' →
      serve state api policyPath body ⟨u, call⟩ (.sys l) = some ⟨u', call⟩ := by
    intro u l u' hu
    simp only [serve, hu, Option.map_some]
  exact run_map (fun s => (⟨s, call⟩ : World β)) hstep h

end Serve

/-! ## A swap between the reads -/

abbrev loginPdp : AppState Rule Ty Prim := pdp loginSchema (loginTo "a-client")

theorem authorized_blockExternal : authorized loginPdp blockExternal [] =
    .ok (LogTarget.new (loginTo "a-client"), ⟨.deny, ["policy0"], []⟩) := rfl

theorem authorized_blockMaintenance : authorized loginPdp blockMaintenance [] =
    .ok (LogTarget.new (loginTo "a-client"), ⟨.deny, ["policy1"], []⟩) := rfl

/-- The server after startup on `blockExternal`, and the call after its first read. -/
def midCall : World Rule where
  sys := ⟨.ok (sourceText blockExternal), some blockExternal, some (sourceText blockExternal), true,
    .recv⟩
  call := .authorized blockExternal (authorized loginPdp blockExternal [])

theorem run_beforeCall : run (serve loginPdp files "policies.cedar" [])
    (World.boot (.ok (sourceText blockExternal))) (startupSteps.map .sys) =
      some ⟨midCall.sys, .waiting⟩ := by
  have hstart : run (step files loginPdp.schema "policies.cedar")
      (Sys.boot (.ok (sourceText blockExternal))) startupSteps = some midCall.sys :=
    run_startup (validates_blockExternal "policies.cedar")
  exact run_sys hstart .waiting

theorem run_midCall : run (serve loginPdp files "policies.cedar" [])
    (World.boot (.ok (sourceText blockExternal))) (startupSteps.map .sys ++ [.read]) = some midCall :=
  run_append.mpr ⟨_, run_beforeCall, rfl⟩

/-- Startup, a call whose second read finds the file and the set replaced by `ps`. -/
def swapTo (ps : PolicySet Rule) : List WorldLabel :=
  startupSteps.map .sys ++ [.read] ++
    ((reloadSteps (sourceText ps) (.ok (sourceText ps))).map .sys ++ [.read])

/-- The server after the reload. -/
def swappedTo (ps : PolicySet Rule) : Sys Rule :=
  ⟨.ok (sourceText ps), some ps, some (sourceText ps), true, .recv⟩

section Swap

variable {ps : PolicySet Rule} (hv : Validates files loginSchema "policies.cedar" (sourceText ps) ps)
  (hne : sourceText ps ≠ sourceText blockExternal)

include hv hne

theorem run_reloadBetween : run (serve loginPdp files "policies.cedar" []) midCall
    ((reloadSteps (sourceText ps) (.ok (sourceText ps))).map .sys) =
      some ⟨swappedTo ps, midCall.call⟩ := by
  obtain ⟨hp, n, hn⟩ := hv
  have hread : providerRead files (.ok (sourceText ps)) = .ok ps := hp
  have hreload : run (step files loginSchema "policies.cedar") midCall.sys
      (reloadSteps (sourceText ps) (.ok (sourceText ps))) = some (swappedTo ps) :=
    run_reloadSteps hn hread (mt Option.some.inj hne) true
  exact run_sys hreload _

theorem run_swapTo : run (serve loginPdp files "policies.cedar" [])
    (World.boot (.ok (sourceText blockExternal))) (swapTo ps) = some ⟨swappedTo ps,
      .done (.ok (answer (LogTarget.new (loginTo "a-client")) ⟨.deny, ["policy0"], []⟩ (some ps)))⟩ :=
  run_append.mpr ⟨midCall, run_midCall, run_append.mpr ⟨_, run_reloadBetween hv hne, rfl⟩⟩

/-- What the second read has to fit. -/
theorem along_swapTo (hfit : ReadsAlike loginPdp [] ⟨swappedTo ps, midCall.call⟩ .read) :
    Along (serve loginPdp files "policies.cedar" []) (ReadsAlike loginPdp [])
      (World.boot (.ok (sourceText blockExternal))) (swapTo ps) := by
  have hsys : ∀ (w : World Rule) (ls : List Label), Along (serve loginPdp files "policies.cedar" [])
      (ReadsAlike loginPdp []) w (ls.map .sys) := fun w ls =>
    (along_of_forall (D := fun l => l ≠ .read) w (by simp)).mono fun _ _ hl hread => absurd hread hl
  refine along_append.mpr ⟨along_append.mpr ⟨hsys _ _, fun t ht => ⟨?_, fun _ _ => trivial⟩⟩,
    fun t ht => along_append.mpr ⟨hsys _ _, fun u hu => ⟨?_, fun _ _ => trivial⟩⟩⟩
  · obtain rfl := Option.some.inj (ht.symm.trans run_beforeCall)
    exact fun _ _ _ _ _ hcall => nomatch hcall
  · obtain rfl := Option.some.inj (ht.symm.trans run_midCall)
    obtain rfl := Option.some.inj (hu.symm.trans (run_reloadBetween hv hne))
    exact hfit

end Swap

/-- The rule is moved to another client between the two reads. It is named and ranked as before, so that
the answer is the one of `blockExternal`; `blockMoved` would let the request pass. -/
theorem evaluate_snapshot_moved :
    OneSet loginPdp files "policies.cedar" [] (.ok (sourceText blockExternal)) (swapTo blockMoved)
      (.ok (answer (LogTarget.new (loginTo "a-client")) ⟨.deny, ["policy0"], []⟩ (some blockMoved))) ∧
    authorized loginPdp blockMoved [] =
      .ok (LogTarget.new (loginTo "a-client"), ⟨.allow, ["policy1"], []⟩) := by
  have hv := validates_blockMoved "policies.cedar"
  have hfit : ReadsAlike loginPdp [] ⟨swappedTo blockMoved, midCall.call⟩ .read := by
    rintro - first target response ps hcall hlive
    obtain ⟨rfl, hauth⟩ := Call.authorized.inj hcall
    obtain rfl := Option.some.inj hlive
    rw [authorized_blockExternal] at hauth
    obtain ⟨rfl, rfl⟩ := Prod.mk.inj (Except.ok.inj hauth)
    refine .inl fun id hid => ?_
    rw [List.mem_singleton.mp hid]
    exact .some ⟨rfl, rfl, fun _ => rfl⟩
  exact ⟨evaluate_snapshot (along_swapTo hv blockMoved_ne_blockExternal hfit)
    (visits_of_run (run_swapTo hv blockMoved_ne_blockExternal)) rfl, rfl⟩

/-- A rule is put in front of the others between the two reads. -/
def swapBetweenReads : List WorldLabel := swapTo blockMaintenance

/-- What the two reads answer together. -/
def mixedAnswer : EvaluationResponse × AccessLog :=
  answer (LogTarget.new (loginTo "a-client")) ⟨.deny, ["policy0"], []⟩ (some blockMaintenance)

theorem run_swapBetweenReads : ∃ sys, run (serve loginPdp files "policies.cedar" [])
    (World.boot (.ok (sourceText blockExternal))) swapBetweenReads =
      some ⟨sys, .done (.ok mixedAnswer)⟩ :=
  ⟨_, run_swapTo (validates_blockMaintenance "policies.cedar") blockMaintenance_ne_blockExternal⟩

/-- The sets that are live in that run. -/
theorem live_swapBetweenReads {w : World Rule} {S : PolicySet Rule}
    (hw : Visits (serve loginPdp files "policies.cedar" [])
      (World.boot (.ok (sourceText blockExternal))) swapBetweenReads w) (hS : w.sys.live = some S) :
    S = blockExternal ∨ S = blockMaintenance := by
  obtain ⟨f, hf, hread⟩ := live_of_contents
    (F := fun f => f = .ok (sourceText blockExternal) ∨ f = .ok (sourceText blockMaintenance)) (.inl rfl)
    (by simp [sysLabels, swapBetweenReads, swapTo, startupSteps, reloadSteps]) (visits_sysLabels hw) hS
  rcases hf with rfl | rfl
  · exact .inl (Except.ok.inj (hread.symm.trans (fromStr_files (by simp [policyFiles]))))
  · exact .inr (Except.ok.inj (hread.symm.trans (fromStr_files (by simp [policyFiles]))))

/-- **The outcome of a call can be that of no live set**: `blockExternal` determines the denial, and
the answer names the policy that has its internal id in `blockMaintenance`, which is about another
client. -/
theorem evaluate_mixes_sets : ∃ sys, run (serve loginPdp files "policies.cedar" [])
    (World.boot (.ok (sourceText blockExternal))) swapBetweenReads =
      some ⟨sys, .done (.ok mixedAnswer)⟩ ∧
    (mixedAnswer.1.context.getD ∅).lookup reservedReasonKey = some (jsonStringArray ["maintenance"]) ∧
    ¬ OneSet loginPdp files "policies.cedar" [] (.ok (sourceText blockExternal)) swapBetweenReads
      (.ok mixedAnswer) := by
  obtain ⟨sys, hrun⟩ := run_swapBetweenReads
  refine ⟨sys, hrun, rfl, ?_⟩
  rintro ⟨w, S, hw, -, hS, heq⟩
  have hnames : ∀ out, evaluate loginPdp S (some S) [] = .ok out →
      (out.1.context.getD ∅).lookup reservedReasonKey = some (jsonStringArray ["block-external"]) := by
    intro out hout
    rcases live_swapBetweenReads hw hS with rfl | rfl
    · rw [evaluate_of_authorized authorized_blockExternal] at hout
      cases hout
      rfl
    · rw [evaluate_of_authorized authorized_blockMaintenance] at hout
      cases hout
      rfl
  have hmixed := hnames mixedAnswer heq.symm
  change some (jsonStringArray ["maintenance"]) = some (jsonStringArray ["block-external"]) at hmixed
  simp [jsonStringArray] at hmixed

end AuthzenPdp
