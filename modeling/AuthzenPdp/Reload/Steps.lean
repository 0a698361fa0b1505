import AuthzenPdp.Reload.Model

/-!
# What a step can do

* `Move`, **`move_of_step`**: the steps of the server, one constructor for each exit;
* **`live_of_contents`**: where live sets come from;
* `Sys.pdp`: the state between two events;
* `Mid`, **`reload_of_run`**: every interleaving of one event with rewrites of the file is `reload` on
  two of the contents the file had meanwhile.
-/

namespace AuthzenPdp

open Trans

variable {β σ : Type}

section Move

variable (api : PolicyApi β σ) (schema : σ) (policyPath : String)

/-- The steps of the server. -/
inductive Move : Sys β → Label → Sys β → Prop where
  | write {file live loaded ready pc} (file' : File) :
      Move ⟨file, live, loaded, ready, pc⟩ (.write file') ⟨file', live, loaded, ready, pc⟩
  | event {file live loaded ready} :
      Move ⟨file, live, loaded, ready, .recv⟩ (.recv .event) ⟨file, live, loaded, ready, .readSource⟩
  | closed {file live loaded ready r} (hr : r ≠ .event) :
      Move ⟨file, live, loaded, ready, .recv⟩ (.recv r) ⟨file, live, loaded, ready, .stopped⟩
  | faulted {file live loaded ready src} (error : String) :
      Move ⟨file, live, loaded, ready, .updateProviderData src⟩ (.fault error)
        ⟨file, live, loaded, ready, .setReady false⟩
  | provider {file live loaded ready ps} (hp : newProvider api policyPath file = .ok ps) :
      Move ⟨file, live, loaded, ready, .newProvider⟩ .run
        ⟨file, some ps, loaded, ready, .loadAndValidate⟩
  | noProvider {file live loaded ready e} (hp : newProvider api policyPath file = .error e) :
      Move ⟨file, live, loaded, ready, .newProvider⟩ .run ⟨file, live, loaded, ready, .failed⟩
  | started {file live loaded ready src n}
      (hv : loadAndValidate api policyPath schema file = .ok (src, n)) :
      Move ⟨file, live, loaded, ready, .loadAndValidate⟩ .run ⟨file, live, some src, true, .recv⟩
  | notStarted {file live loaded ready e}
      (hv : loadAndValidate api policyPath schema file = .error e) :
      Move ⟨file, live, loaded, ready, .loadAndValidate⟩ .run ⟨file, live, loaded, ready, .failed⟩
  | unreadable {live loaded ready} (e : String) :
      Move ⟨.error e, live, loaded, ready, .readSource⟩ .run
        ⟨.error e, live, loaded, ready, .setReady false⟩
  | same {live ready} (src : String) :
      Move ⟨.ok src, live, some src, ready, .readSource⟩ .run
        ⟨.ok src, live, some src, ready, .setReady true⟩
  | changed {live loaded ready} (src : String) (hs : some src ≠ loaded) :
      Move ⟨.ok src, live, loaded, ready, .readSource⟩ .run
        ⟨.ok src, live, loaded, ready, .validateSource src⟩
  | rejected {file live loaded ready src e}
      (hv : validateSource api src policyPath schema = .error e) :
      Move ⟨file, live, loaded, ready, .validateSource src⟩ .run
        ⟨file, live, loaded, ready, .setReady false⟩
  | accepted {file live loaded ready src n}
      (hv : validateSource api src policyPath schema = .ok n) :
      Move ⟨file, live, loaded, ready, .validateSource src⟩ .run
        ⟨file, live, loaded, ready, .updateProviderData src⟩
  | notUpdated {file live loaded ready src e} (hu : providerRead api file = .error e) :
      Move ⟨file, live, loaded, ready, .updateProviderData src⟩ .run
        ⟨file, live, loaded, ready, .setReady false⟩
  | updated {file live loaded ready src ps} (hu : providerRead api file = .ok ps) :
      Move ⟨file, live, loaded, ready, .updateProviderData src⟩ .run
        ⟨file, live, loaded, ready, .swap src ps⟩
  | swapped {file live loaded ready} (src : String) (ps : PolicySet β) :
      Move ⟨file, live, loaded, ready, .swap src ps⟩ .run
        ⟨file, some ps, loaded, ready, .setLoaded src⟩
  | loaded {file live loaded ready} (src : String) :
      Move ⟨file, live, loaded, ready, .setLoaded src⟩ .run
        ⟨file, live, some src, ready, .setReady true⟩
  | flagged {file live loaded ready} (b : Bool) :
      Move ⟨file, live, loaded, ready, .setReady b⟩ .run ⟨file, live, loaded, b, .recv⟩

variable {api schema policyPath}

theorem move_of_exec {s s' : Sys β} (h : exec api schema policyPath s = some s') :
    Move api schema policyPath s .run s' := by
  obtain ⟨file, live, loaded, ready, pc⟩ := s
  cases pc with
  | newProvider =>
    simp only [exec, Option.some.injEq] at h
    split at h <;> subst h
    · exact .provider ‹_›
    · exact .noProvider ‹_›
  | loadAndValidate =>
    simp only [exec, Option.some.injEq] at h
    split at h <;> subst h
    · exact .started ‹_›
    · exact .notStarted ‹_›
  | readSource =>
    cases file with
    | error e =>
      simp only [exec, readSource, Option.some.injEq] at h
      subst h
      exact .unreadable e
    | ok src =>
      simp only [exec, readSource, Option.some.injEq] at h
      split_ifs at h with hs <;> subst h
      · subst hs
        exact .same src
      · exact .changed src hs
  | validateSource src =>
    simp only [exec, Option.some.injEq] at h
    split at h <;> subst h
    · exact .rejected ‹_›
    · exact .accepted ‹_›
  | updateProviderData src =>
    simp only [exec, updateProviderData, Option.some.injEq] at h
    split at h <;> subst h
    · exact .updated ‹_›
    · exact .notUpdated ‹_›
  | swap src ps =>
    cases h
    exact .swapped src ps
  | setLoaded src =>
    cases h
    exact .loaded src
  | setReady b =>
    cases h
    exact .flagged b
  | failed => cases h
  | recv => cases h
  | stopped => cases h

/-- **Inversion of a step.** -/
theorem move_of_step {s s' : Sys β} {l : Label} (h : step api schema policyPath s l = some s') :
    Move api schema policyPath s l s' := by
  cases l with
  | run => exact move_of_exec h
  | write file' =>
    cases h
    exact .write file'
  | recv r =>
    obtain ⟨file, live, loaded, ready, pc⟩ := s
    cases pc <;> cases r <;> cases h
    · exact .event
    · exact .closed (by simp)
    · exact .closed (by simp)
  | fault error =>
    obtain ⟨file, live, loaded, ready, pc⟩ := s
    cases pc <;> cases h
    exact .faulted error

/-- The run rule, for the exits of a step. -/
theorem run_move_inv {C : Sys β → Label → Prop} {Inv : Sys β → Prop}
    (hmove : ∀ s l s', C s l → Move api schema policyPath s l s' → Inv s → Inv s') {s t : Sys β}
    {ls : List Label} (hs : Inv s) (hc : Along (step api schema policyPath) C s ls)
    (h : run (step api schema policyPath) s ls = some t) : Inv t :=
  run_inv (fun s l s' hl hstep => hmove s l s' hl (move_of_step hstep)) hs hc h

theorem visits_move_inv {C : Sys β → Label → Prop} {Inv : Sys β → Prop}
    (hmove : ∀ s l s', C s l → Move api schema policyPath s l s' → Inv s → Inv s') {s t : Sys β}
    {ls : List Label} (hs : Inv s) (hc : Along (step api schema policyPath) C s ls)
    (h : Visits (step api schema policyPath) s ls t) : Inv t :=
  visits_inv (fun s l s' hl hstep => hmove s l s' hl (move_of_step hstep)) hs hc h

end Move

/-! ## The live set -/

/-- The file is in `F`, and the live set and the set about to be live are what contents in `F` read
as. -/
structure FromContents (api : PolicyApi β σ) (F : File → Prop) (s : Sys β) : Prop where
  file : F s.file
  live : ∀ ps, s.live = some ps → ∃ f, F f ∧ providerRead api f = .ok ps
  swap : ∀ src ps, s.pc = .swap src ps → ∃ f, F f ∧ providerRead api f = .ok ps

section Contents

variable {api : PolicyApi β σ} {schema : σ} {policyPath : String} {F : File → Prop}

theorem fromContents_step {s s' : Sys β} {l : Label} (hl : ∀ f, l = .write f → F f)
    (h : Move api schema policyPath s l s') (hs : FromContents api F s) : FromContents api F s' := by
  obtain ⟨hfile, hlive, hswap⟩ := hs
  cases h with
  | write file' => exact ⟨hl file' rfl, hlive, hswap⟩
  | provider hp =>
    refine ⟨hfile, fun ps hps => ?_, nofun⟩
    cases hps
    exact ⟨_, hfile, newProvider_eq_ok_iff.mp hp⟩
  | updated hu =>
    refine ⟨hfile, hlive, fun src ps hps => ?_⟩
    cases hps
    exact ⟨_, hfile, hu⟩
  | swapped src ps =>
    refine ⟨hfile, fun ps' hps => ?_, nofun⟩
    cases hps
    exact hswap src ps rfl
  | _ => exact ⟨hfile, hlive, nofun⟩

/-- **Every live set is what some content of the file reads as.** -/
theorem live_of_contents {file : File} {ls : List Label} {t : Sys β} (hF : F file)
    (hls : ∀ f, .write f ∈ ls → F f)
    (h : Visits (step api schema policyPath) (Sys.boot file) ls t) {ps : PolicySet β}
    (hps : t.live = some ps) : ∃ f, F f ∧ providerRead api f = .ok ps := by
  have hboot : FromContents api F (Sys.boot file : Sys β) := ⟨hF, nofun, nofun⟩
  have hc : Along (step api schema policyPath) (fun _ l => ∀ f, l = .write f → F f) (Sys.boot file) ls :=
    along_of_forall _ fun l hl f hf => hls f (hf ▸ hl)
  exact (visits_move_inv (fun _ _ _ => fromContents_step) hboot hc h).live ps hps

end Contents

/-! ## One event -/

/-- The live set, the loaded source and the flag, once all are there. -/
def Sys.pdp (s : Sys β) : Option (Pdp β) := do
  let provider ← s.live
  let loadedSrc ← s.loadedSrc
  some ⟨provider, loadedSrc, s.ready⟩

theorem pdp_eq_some_iff {file : File} {live : Option (PolicySet β)} {loaded : Option String}
    {ready : Bool} {pc : Pc β} {p : Pdp β} : Sys.pdp ⟨file, live, loaded, ready, pc⟩ = some p ↔
      live = some p.provider ∧ loaded = some p.loadedSrc ∧ ready = p.ready := by
  obtain ⟨provider, loadedSrc, r⟩ := p
  cases live <;> cases loaded <;> simp [Sys.pdp]

section Event

variable (api : PolicyApi β σ) (schema : σ) (policyPath : String) (F : File → Prop)
  (G : Option String → Prop)

/-- Rewrites stay in `F` and faults in `G`; nothing is received. -/
def Within : Label → Prop
  | .write file => F file
  | .recv _ => False
  | .fault error => G (some error)
  | .run => True

/-- `q` is the result of `reload` in `p` on contents in `F`, with a fault in `G`. -/
def Reloads (p q : Pdp β) : Prop :=
  ∃ file providerFile fault, F file ∧ F providerFile ∧ G fault ∧
    reload api schema policyPath p file providerFile fault = q

/-- In the middle of an event that began in `p`. -/
def Mid (p : Pdp β) (s : Sys β) : Prop :=
  F s.file ∧ match s.pc with
    | .readSource => s.pdp = some p
    | .validateSource src => s.pdp = some p ∧ F (.ok src) ∧ src ≠ p.loadedSrc
    | .updateProviderData src => s.pdp = some p ∧ F (.ok src) ∧ src ≠ p.loadedSrc ∧
        ∃ n, validateSource api src policyPath schema = .ok n
    | .swap src ps => s.pdp = some p ∧ Reloads api schema policyPath F G p ⟨ps, src, true⟩
    | .setLoaded src => ∃ ps, s.pdp = some { p with provider := ps } ∧
        Reloads api schema policyPath F G p ⟨ps, src, true⟩
    | .setReady ready => ∃ q, s.pdp = some q ∧
        Reloads api schema policyPath F G p { q with ready := ready }
    | .recv => ∃ q, s.pdp = some q ∧ Reloads api schema policyPath F G p q
    | _ => False

variable {api schema policyPath F G}

theorem reloads_rejected {p : Pdp β} {file : File} {fault : Option String} (hF : F file) (hG : G fault)
    {src : String} (hsrc : F (.ok src)) (hne : src ≠ p.loadedSrc) {n : Nat}
    (hv : validateSource api src policyPath schema = .ok n) {e : String}
    (hu : updateProviderData api file fault = .error e) :
    Reloads api schema policyPath F G p { p with ready := false } :=
  ⟨.ok src, file, fault, hsrc, hF, hG, by simp only [reload, readSource, if_neg hne, hv, hu]⟩

/-- A step in the middle of an event. -/
theorem mid_step (hG : G none) {p : Pdp β} {s s' : Sys β} {l : Label} (hl : Within F G l)
    (h : Move api schema policyPath s l s') (hs : Mid api schema policyPath F G p s) :
    Mid api schema policyPath F G p s' := by
  cases h with
  | write file' => exact ⟨hl, hs.2⟩
  | event => exact absurd hl id
  | closed _ => exact absurd hl id
  | faulted error =>
    obtain ⟨hF, hp, hsrc, hne, n, hv⟩ := hs
    exact ⟨hF, p, hp, reloads_rejected hF hl hsrc hne hv rfl⟩
  | provider _ => exact absurd hs.2 id
  | noProvider _ => exact absurd hs.2 id
  | started _ => exact absurd hs.2 id
  | notStarted _ => exact absurd hs.2 id
  | unreadable e =>
    obtain ⟨hF, hp⟩ := hs
    exact ⟨hF, p, hp, .error e, .error e, none, hF, hF, hG, rfl⟩
  | same src =>
    obtain ⟨hF, hp⟩ := hs
    refine ⟨hF, p, hp, .ok src, .ok src, none, hF, hF, hG, ?_⟩
    have hsrc : src = p.loadedSrc := Option.some.inj (pdp_eq_some_iff.mp hp).2.1
    simp only [reload, readSource, if_pos hsrc]
  | changed src hne =>
    obtain ⟨hF, hp⟩ := hs
    exact ⟨hF, hp, hF, fun he => hne (by rw [he]; exact (pdp_eq_some_iff.mp hp).2.1.symm)⟩
  | rejected hv =>
    obtain ⟨hF, hp, hsrc, hne⟩ := hs
    refine ⟨hF, p, hp, _, _, none, hsrc, hF, hG, ?_⟩
    simp only [reload, readSource, if_neg hne, hv]
  | accepted hv =>
    obtain ⟨hF, hp, hsrc, hne⟩ := hs
    exact ⟨hF, hp, hsrc, hne, _, hv⟩
  | notUpdated hu =>
    obtain ⟨hF, hp, hsrc, hne, n, hv⟩ := hs
    exact ⟨hF, p, hp, reloads_rejected hF hG hsrc hne hv hu⟩
  | updated hu =>
    obtain ⟨hF, hp, hsrc, hne, n, hv⟩ := hs
    refine ⟨hF, hp, _, _, none, hsrc, hF, hG, ?_⟩
    simp only [reload, readSource, if_neg hne, hv, updateProviderData, hu]
  | swapped src ps =>
    obtain ⟨hF, hp, hr⟩ := hs
    obtain ⟨-, hl, hb⟩ := pdp_eq_some_iff.mp hp
    exact ⟨hF, ps, pdp_eq_some_iff.mpr ⟨rfl, hl, hb⟩, hr⟩
  | loaded src =>
    obtain ⟨hF, ps, hp, hr⟩ := hs
    obtain ⟨hlive, -, hb⟩ := pdp_eq_some_iff.mp hp
    exact ⟨hF, ⟨ps, src, p.ready⟩, pdp_eq_some_iff.mpr ⟨hlive, rfl, hb⟩, hr⟩
  | flagged b =>
    obtain ⟨hF, q, hp, hr⟩ := hs
    obtain ⟨hlive, hl, -⟩ := pdp_eq_some_iff.mp hp
    exact ⟨hF, { q with ready := b }, pdp_eq_some_iff.mpr ⟨hlive, hl, rfl⟩, hr⟩

/-- **Every interleaving of one event is `reload`** on contents that the file had meanwhile. -/
theorem reload_of_run (hG : G none) {s t : Sys β} {p : Pdp β} {ls : List Label} (hs : s.pc = .recv)
    (hp : s.pdp = some p) (hF : F s.file) (hls : ∀ l ∈ ls, Within F G l)
    (h : run (step api schema policyPath) s (.recv .event :: ls) = some t) (ht : t.pc = .recv) :
    ∃ q, t.pdp = some q ∧ Reloads api schema policyPath F G p q := by
  obtain ⟨s', hs', hr⟩ := run_cons.mp h
  have hmid : Mid api schema policyPath F G p s' := by
    obtain ⟨file, live, loaded, ready, pc⟩ := s
    cases hs
    cases hs'
    exact ⟨hF, pdp_eq_some_iff.mpr (pdp_eq_some_iff.mp hp)⟩
  obtain ⟨-, hend⟩ := run_move_inv (fun _ _ _ => mid_step hG) hmid (along_of_forall s' hls) hr
  rw [ht] at hend
  exact hend

end Event

end AuthzenPdp
