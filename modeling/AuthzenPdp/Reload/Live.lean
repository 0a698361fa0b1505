import AuthzenPdp.Reload.Trace

/-!
# What is live under rewrites of the file

The provider re-reads the file on its own, so what it installs need not be what was validated.

* `Started`: startup has succeeded;
* `SafeRead`, **`live_accepted`**: only accepted sets are ever live, as long as the provider reads
  no content that parses and is not accepted;
* `SameRead`, **`live_eq_loaded`**: the live set is what the loaded source reads as, as long as the
  provider reads the same set as the loader;
* `unsafe_read_goes_live`, `differing_read_separates`: both conditions are exact;
* `badPriority_goes_live`, `stale_set_stays_live`: runs where it does not.
-/

namespace AuthzenPdp

open Trans

variable {β σ : Type}

/-- Startup has succeeded. -/
def Sys.Started (s : Sys β) : Prop :=
  match s.pc with
  | .newProvider | .loadAndValidate | .failed => False
  | _ => True

/-! ## Two schedules -/

/-- The two steps of startup. -/
def startupSteps : List Label := [.run, .run]

/-- Startup on a still file. -/
theorem run_startup {api : PolicyApi β σ} {schema : σ} {policyPath src : String} {ps : PolicySet β}
    (h : Validates api schema policyPath src ps) :
    run (step api schema policyPath) (Sys.boot (.ok src)) startupSteps =
      some ⟨.ok src, some ps, some src, true, .recv⟩ := by
  obtain ⟨hp, n, hv⟩ := h
  have hload : loadAndValidate api policyPath schema (.ok src) = .ok (src, n) :=
    loadAndValidate_eq_ok_iff.mpr ⟨rfl, hv⟩
  simp [startupSteps, run, step, exec, Sys.boot, newProvider, providerRead, hp, Except.mapError, hload]

/-- A condition that holds of startup on a still file. -/
theorem along_startup {api : PolicyApi β σ} {schema : σ} {policyPath src : String} {ps : PolicySet β}
    (h : Validates api schema policyPath src ps) {C : Sys β → Label → Prop}
    (hboot : C (Sys.boot (.ok src)) .run)
    (hload : C ⟨.ok src, some ps, none, false, .loadAndValidate⟩ .run) :
    Along (step api schema policyPath) C (Sys.boot (.ok src)) startupSteps := by
  refine ⟨hboot, fun s' hs' => ⟨?_, fun _ _ => trivial⟩⟩
  simp only [step, exec, Sys.boot, newProvider, providerRead, h.1, Except.mapError,
    Option.some.injEq] at hs'
  exact hs' ▸ hload

/-- An event for the content `src`, and a rewrite before the provider reads the file. -/
def reloadSteps (src : String) (file : File) : List Label :=
  [.write (.ok src), .recv .event, .run, .run, .write file, .run, .run, .run, .run]

/-- **The two reads of a reload**: `src` is validated and recorded, and what the file reads as by then
is installed. -/
theorem run_reloadSteps {api : PolicyApi β σ} {schema : σ} {policyPath src : String} {n : ℕ}
    (hv : validateSource api src policyPath schema = .ok n) {file file' : File} {ps : PolicySet β}
    (hp : providerRead api file' = .ok ps) {live : Option (PolicySet β)} {loaded : Option String}
    (hne : some src ≠ loaded) (ready : Bool) :
    run (step api schema policyPath) ⟨file, live, loaded, ready, .recv⟩ (reloadSteps src file') =
      some ⟨file', some ps, some src, true, .recv⟩ := by
  simp [reloadSteps, run, step, exec, readSource, hne, hv, updateProviderData, hp]

/-- The step is not the second read of the file, neither at startup nor in a reload. -/
def NotReread (s : Sys β) (l : Label) : Prop :=
  l = .run → s.pc ≠ .loadAndValidate ∧ ∀ src, s.pc ≠ .updateProviderData src

/-- A condition on second reads that such a reload meets. -/
theorem along_reloadSteps {api : PolicyApi β σ} {schema : σ} {policyPath src : String} {n : ℕ}
    (hv : validateSource api src policyPath schema = .ok n) {file file' : File} {ps : PolicySet β}
    (hp : providerRead api file' = .ok ps) {live : Option (PolicySet β)} {loaded : Option String}
    (hne : some src ≠ loaded) (ready : Bool) {C : Sys β → Label → Prop}
    (hother : ∀ s l, NotReread s l → C s l)
    (hread : C ⟨file', live, loaded, ready, .updateProviderData src⟩ .run) :
    Along (step api schema policyPath) C ⟨file, live, loaded, ready, .recv⟩ (reloadSteps src file') := by
  refine along_cons_of_step rfl (hother _ _ (by simp [NotReread])) ?_
  refine along_cons_of_step rfl (hother _ _ (by simp [NotReread])) ?_
  have hchanged : step api schema policyPath ⟨.ok src, live, loaded, ready, .readSource⟩ .run =
      some ⟨.ok src, live, loaded, ready, .validateSource src⟩ := by
    simp [step, exec, readSource, hne]
  refine along_cons_of_step hchanged (hother _ _ (by simp [NotReread])) ?_
  have haccepted : step api schema policyPath ⟨.ok src, live, loaded, ready, .validateSource src⟩ .run =
      some ⟨.ok src, live, loaded, ready, .updateProviderData src⟩ := by
    simp [step, exec, hv]
  refine along_cons_of_step haccepted (hother _ _ (by simp [NotReread])) ?_
  refine along_cons_of_step rfl (hother _ _ (by simp [NotReread])) ?_
  have hupdated : step api schema policyPath ⟨file', live, loaded, ready, .updateProviderData src⟩ .run =
      some ⟨file', live, loaded, ready, .swap src ps⟩ := by
    simp [step, exec, updateProviderData, hp]
  refine along_cons_of_step hupdated hread ?_
  refine along_cons_of_step rfl (hother _ _ (by simp [NotReread])) ?_
  refine along_cons_of_step rfl (hother _ _ (by simp [NotReread])) ?_
  exact along_cons_of_step rfl (hother _ _ (by simp [NotReread])) trivial

section Accepted

variable (api : PolicyApi β σ) (schema : σ) (policyPath : String)

/-- The live set is accepted. -/
def LiveAccepted (s : Sys β) : Prop := ∃ ps, s.live = some ps ∧ Accepted api schema policyPath ps

/-- **The provider reads nothing unsafe**: when the loader validates at startup, the provider's set is
what the file reads as, or accepted anyway; when the provider updates, the file still is the
validated source, or does not parse, or is accepted too. -/
def SafeRead (s : Sys β) (l : Label) : Prop :=
  l = .run → match s.pc with
    | .loadAndValidate => ∀ ps, s.live = some ps → providerRead api s.file = .ok ps ∨
        Accepted api schema policyPath ps ∨
        ∃ e, loadAndValidate api policyPath schema s.file = .error e
    | .updateProviderData src => ∀ text, s.file = .ok text → text = src ∨
        (∃ e, api.fromStr text = .error e) ∨ ∃ n, validateSource api text policyPath schema = .ok n
    | _ => True

/-- What a safe run keeps. -/
def SafeState (s : Sys β) : Prop :=
  match s.pc with
  | .newProvider | .failed => True
  | .loadAndValidate => ∃ ps, s.live = some ps
  | .updateProviderData src => LiveAccepted api schema policyPath s ∧
      ∃ n, validateSource api src policyPath schema = .ok n
  | .swap _ ps => LiveAccepted api schema policyPath s ∧ Accepted api schema policyPath ps
  | _ => LiveAccepted api schema policyPath s

variable {api schema policyPath}

theorem safeRead_of_notReread {s : Sys β} {l : Label} (hl : NotReread s l) :
    SafeRead api schema policyPath s l := by
  rintro rfl
  obtain ⟨file, live, loaded, ready, pc⟩ := s
  obtain ⟨hload, hupdate⟩ := hl rfl
  cases pc with
  | loadAndValidate => exact absurd rfl hload
  | updateProviderData src => exact absurd rfl (hupdate src)
  | _ => trivial

theorem accepted_of_validateSource {src : String} {n : Nat} {ps : PolicySet β}
    (hv : validateSource api src policyPath schema = .ok n) (hp : api.fromStr src = .ok ps) :
    Accepted api schema policyPath ps :=
  ⟨src, hp, n, hv⟩

theorem safeState_step {s s' : Sys β} {l : Label} (hl : SafeRead api schema policyPath s l)
    (h : Move api schema policyPath s l s') (hs : SafeState api schema policyPath s) :
    SafeState api schema policyPath s' := by
  cases h with
  | @write file live loaded ready pc file' => cases pc <;> exact hs
  | event => exact hs
  | closed _ => exact hs
  | faulted _ => exact hs.1
  | provider _ => exact ⟨_, rfl⟩
  | noProvider _ => trivial
  | started hv =>
    obtain ⟨ps, rfl⟩ := hs
    obtain ⟨rfl, hv'⟩ := loadAndValidate_eq_ok_iff.mp hv
    refine ⟨ps, rfl, ?_⟩
    rcases hl rfl ps rfl with hp | hacc | ⟨e, he⟩
    · exact accepted_of_validateSource hv' hp
    · exact hacc
    · rw [hv] at he
      cases he
  | notStarted _ => trivial
  | unreadable _ => exact hs
  | same _ => exact hs
  | changed _ _ => exact hs
  | rejected _ => exact hs
  | accepted hv => exact ⟨hs, _, hv⟩
  | notUpdated _ => exact hs.1
  | @updated file live loaded ready src ps hu =>
    refine ⟨hs.1, ?_⟩
    obtain ⟨-, n, hv⟩ := hs
    cases file with
    | error e => cases hu
    | ok text =>
      rcases hl rfl text rfl with rfl | ⟨e, he⟩ | ⟨n', hv'⟩
      · exact accepted_of_validateSource hv hu
      · rw [providerRead, he] at hu
        cases hu
      · exact accepted_of_validateSource hv' hu
  | swapped src ps => exact ⟨ps, rfl, hs.2⟩
  | loaded _ => exact hs
  | flagged _ => exact hs

/-- **Only validated policies are live.** In every run in which the provider reads nothing unsafe,
the live set is accepted in every state after startup. -/
theorem live_accepted {file : File} {ls : List Label}
    (hc : Along (step api schema policyPath) (SafeRead api schema policyPath) (Sys.boot file) ls)
    {t : Sys β} (h : Visits (step api schema policyPath) (Sys.boot file) ls t) (ht : t.Started) :
    LiveAccepted api schema policyPath t := by
  have hboot : SafeState api schema policyPath (Sys.boot file : Sys β) := trivial
  have hinv : SafeState api schema policyPath t :=
    visits_move_inv (fun _ _ _ => safeState_step) hboot hc h
  obtain ⟨file, live, loaded, ready, pc⟩ := t
  cases pc with
  | newProvider => exact absurd ht id
  | loadAndValidate => exact absurd ht id
  | failed => exact absurd ht id
  | updateProviderData src => exact hinv.1
  | swap src ps => exact hinv.1
  | _ => exact hinv

theorem validateSource_of_accepted {text : String} {ps : PolicySet β}
    (h : Accepted api schema policyPath ps) (hp : api.fromStr text = .ok ps) :
    ∃ n, validateSource api text policyPath schema = .ok n := by
  obtain ⟨src, hsrc⟩ := h
  obtain ⟨-, hstrict, hann⟩ := validates_iff.mp hsrc
  exact ⟨_, (validateSource_of_fromStr hp policyPath schema _).mpr ⟨hstrict, hann, rfl⟩⟩

/-- **The condition is exact**: an unsafe read makes a set live that is not accepted. -/
theorem unsafe_read_goes_live {s : Sys β} (h : ¬ SafeRead api schema policyPath s .run) :
    ∃ ls t, run (step api schema policyPath) s ls = some t ∧ t.Started ∧
      ¬ LiveAccepted api schema policyPath t := by
  obtain ⟨file, live, loaded, ready, pc⟩ := s
  have hset : ∀ {file loaded ready pc} {ps : PolicySet β}, ¬ Accepted api schema policyPath ps →
      ¬ LiveAccepted api schema policyPath ⟨file, some ps, loaded, ready, pc⟩ := by
    rintro _ _ _ _ ps hps ⟨ps', hlive, hacc⟩
    cases hlive
    exact hps hacc
  cases pc with
  | loadAndValidate =>
    simp only [SafeRead, forall_const, not_forall, not_or, not_exists] at h
    obtain ⟨ps, rfl, -, hacc, hload⟩ := h
    cases hv : loadAndValidate api policyPath schema file with
    | error e => exact absurd hv (hload e)
    | ok out =>
      refine ⟨[.run], ⟨file, some ps, some out.1, true, .recv⟩, ?_, trivial, hset hacc⟩
      simp only [run, step, exec, hv, Option.bind_some]
  | updateProviderData src =>
    simp only [SafeRead, forall_const, not_forall, not_or, not_exists] at h
    obtain ⟨text, rfl, -, herr, hval⟩ := h
    cases hp : api.fromStr text with
    | error e => exact absurd hp (herr e)
    | ok ps =>
      have hacc : ¬ Accepted api schema policyPath ps := by
        intro hacc
        obtain ⟨n, hn⟩ := validateSource_of_accepted hacc hp
        exact hval n hn
      refine ⟨[.run, .run], ⟨.ok text, some ps, loaded, ready, .setLoaded src⟩, ?_, trivial, hset hacc⟩
      simp only [run, step, exec, updateProviderData, providerRead, hp, Option.bind_some]
  | _ => exact absurd (fun _ => trivial) h

end Accepted

/-- A reload whose provider finds another accepted source. -/
theorem live_accepted_reload : LiveAccepted files loginSchema "policies.cedar"
    ⟨.ok (sourceText blockMaintenance), some blockMaintenance, some (sourceText blockExternal), true,
      .recv⟩ := by
  have hv := validates_permitAll "policies.cedar"
  obtain ⟨-, n, hn⟩ := validates_blockExternal "policies.cedar"
  obtain ⟨hp, hm⟩ := validates_blockMaintenance "policies.cedar"
  have hread : providerRead files (.ok (sourceText blockMaintenance)) = .ok blockMaintenance := hp
  have hne := mt Option.some.inj blockExternal_ne_permitAll
  have hstart : Along (step files loginSchema "policies.cedar")
      (SafeRead files loginSchema "policies.cedar") (Sys.boot (.ok (sourceText permitAll)))
      startupSteps := by
    refine along_startup hv (fun _ => trivial) fun _ ps hps => .inl ?_
    cases hps
    exact hv.1
  refine live_accepted (along_append.mpr ⟨hstart, fun t ht => ?_⟩)
    (visits_of_run (run_append.mpr ⟨_, run_startup hv, run_reloadSteps hn hread hne true⟩)) trivial
  obtain rfl := Option.some.inj ((run_startup hv).symm.trans ht)
  refine along_reloadSteps hn hread hne true (fun _ _ => safeRead_of_notReread) fun _ text htext => .inr (.inr ?_)
  rw [← Except.ok.inj htext]
  exact hm

/-- **A set that was never validated goes live**, with the server ready: the reload validates
`blockExternal`, and the file is replaced before the provider reads it. -/
theorem badPriority_goes_live : ∃ t,
    run (step files loginSchema "policies.cedar") (Sys.boot (.ok (sourceText permitAll)))
      (startupSteps ++ reloadSteps (sourceText blockExternal) (.ok (sourceText badPriority))) = some t ∧
        t.Started ∧ t.ready = true ∧ ¬ LiveAccepted files loginSchema "policies.cedar" t := by
  have hv := validates_permitAll "policies.cedar"
  obtain ⟨-, n, hn⟩ := validates_blockExternal "policies.cedar"
  have hbad : providerRead files (.ok (sourceText badPriority)) = .ok badPriority :=
    fromStr_files (by simp [policyFiles])
  refine ⟨_, run_append.mpr ⟨_, run_startup hv, run_reloadSteps hn hbad ?_ true⟩, trivial, rfl, ?_⟩
  · exact mt Option.some.inj blockExternal_ne_permitAll
  · rintro ⟨ps, hps, hacc⟩
    cases hps
    exact not_accepted_badPriority _ hacc

/-! ## The live set and the loaded source -/

section Loaded

variable (api : PolicyApi β σ) (schema : σ) (policyPath : String)

/-- **The provider reads what the loader reads**: at startup the provider's set is what the file
reads as when the loader validates it; when the provider updates, the file is unreadable, does not
parse, or reads as the same set as the validated source. -/
def SameRead (s : Sys β) (l : Label) : Prop :=
  l = .run → match s.pc with
    | .loadAndValidate => ∀ ps, s.live = some ps → providerRead api s.file = .ok ps ∨
        ∃ e, loadAndValidate api policyPath schema s.file = .error e
    | .updateProviderData src => ∀ ps, providerRead api s.file = .ok ps → api.fromStr src = .ok ps
    | _ => True

/-- The live set is what the loaded source reads as, and that source is accepted. -/
def InSync (s : Sys β) : Prop := ∃ p, s.pdp = some p ∧ Consistent api schema policyPath p

/-- What a run keeps in which the provider reads what the loader reads. -/
def SyncState (s : Sys β) : Prop :=
  match s.pc with
  | .newProvider | .failed => True
  | .loadAndValidate => ∃ ps, s.live = some ps
  | .updateProviderData src => InSync api schema policyPath s ∧
      ∃ n, validateSource api src policyPath schema = .ok n
  | .swap src ps => InSync api schema policyPath s ∧ Validates api schema policyPath src ps
  | .setLoaded src => ∃ ps, s.live = some ps ∧ Validates api schema policyPath src ps
  | _ => InSync api schema policyPath s

variable {api schema policyPath}

theorem sameRead_of_notReread {s : Sys β} {l : Label} (hl : NotReread s l) :
    SameRead api schema policyPath s l := by
  rintro rfl
  obtain ⟨file, live, loaded, ready, pc⟩ := s
  obtain ⟨hload, hupdate⟩ := hl rfl
  cases pc with
  | loadAndValidate => exact absurd rfl hload
  | updateProviderData src => exact absurd rfl (hupdate src)
  | _ => trivial

theorem inSync_iff {file : File} {live : Option (PolicySet β)} {loaded : Option String} {ready : Bool}
    {pc : Pc β} : InSync api schema policyPath ⟨file, live, loaded, ready, pc⟩ ↔
      ∃ src ps, live = some ps ∧ loaded = some src ∧ Validates api schema policyPath src ps := by
  constructor
  · rintro ⟨p, hp, hv⟩
    obtain ⟨hlive, hloaded, -⟩ := pdp_eq_some_iff.mp hp
    exact ⟨p.loadedSrc, p.provider, hlive, hloaded, hv⟩
  · rintro ⟨src, ps, rfl, rfl, hv⟩
    exact ⟨⟨ps, src, ready⟩, rfl, hv⟩

theorem syncState_step {s s' : Sys β} {l : Label} (hl : SameRead api schema policyPath s l)
    (h : Move api schema policyPath s l s') (hs : SyncState api schema policyPath s) :
    SyncState api schema policyPath s' := by
  have hframe : ∀ {file file' live loaded ready ready'} {pc pc' : Pc β},
      InSync api schema policyPath ⟨file, live, loaded, ready, pc⟩ →
        InSync api schema policyPath ⟨file', live, loaded, ready', pc'⟩ :=
    fun hi => inSync_iff.mpr (inSync_iff.mp hi)
  cases h with
  | @write file live loaded ready pc file' =>
    cases pc with
    | newProvider => trivial
    | failed => trivial
    | loadAndValidate => exact hs
    | setLoaded src => exact hs
    | updateProviderData src => exact ⟨hframe hs.1, hs.2⟩
    | swap src ps => exact ⟨hframe hs.1, hs.2⟩
    | _ => exact hframe hs
  | event => exact hframe hs
  | closed _ => exact hframe hs
  | faulted _ => exact hframe hs.1
  | provider _ => exact ⟨_, rfl⟩
  | noProvider _ => trivial
  | started hv =>
    obtain ⟨ps, rfl⟩ := hs
    obtain ⟨rfl, hv'⟩ := loadAndValidate_eq_ok_iff.mp hv
    rcases hl rfl ps rfl with hp | ⟨e, he⟩
    · exact inSync_iff.mpr ⟨_, ps, rfl, rfl, hp, _, hv'⟩
    · rw [hv] at he
      cases he
  | notStarted _ => trivial
  | unreadable _ => exact hframe hs
  | same _ => exact hframe hs
  | changed _ _ => exact hframe hs
  | rejected _ => exact hframe hs
  | accepted hv => exact ⟨hframe hs, _, hv⟩
  | notUpdated _ => exact hframe hs.1
  | updated hu => exact ⟨hframe hs.1, hl rfl _ hu, hs.2⟩
  | swapped src ps => exact ⟨ps, rfl, hs.2⟩
  | loaded src =>
    obtain ⟨ps, rfl, hv⟩ := hs
    exact inSync_iff.mpr ⟨src, ps, rfl, rfl, hv⟩
  | flagged _ => exact hframe hs

/-- The next event, when the file does not change and the provider does not fail. -/
def quietEvent (n : ℕ) : List Label := .recv .event :: List.replicate n .run

/-- The next event comes to an end. -/
theorem exists_quietEvent {t : Sys β} (ht : t.pc = .recv) {v : String} (hfile : t.file = .ok v)
    {ps : PolicySet β} (hv : Validates api schema policyPath v ps) :
    ∃ n u, run (step api schema policyPath) t (quietEvent n) = some u ∧ u.pc = .recv := by
  obtain ⟨file, live, loaded, ready, pc⟩ := t
  cases ht
  cases hfile
  obtain ⟨hp, k, hk⟩ := hv
  by_cases hs : some v = loaded
  · refine ⟨2, ⟨.ok v, live, loaded, true, .recv⟩, ?_, rfl⟩
    simp [quietEvent, List.replicate, run, step, exec, readSource, hs]
  · refine ⟨6, ⟨.ok v, some ps, some v, true, .recv⟩, ?_, rfl⟩
    simp [quietEvent, List.replicate, run, step, exec, readSource, hs, hk, updateProviderData,
      providerRead, hp]

/-- It ends with the content of the file live, and ready. -/
theorem live_of_quietEvent {t u : Sys β} (hsync : InSync api schema policyPath t) (ht : t.pc = .recv)
    {v : String} (hfile : t.file = .ok v) {ps : PolicySet β}
    (hv : Validates api schema policyPath v ps) {n : ℕ}
    (h : run (step api schema policyPath) t (quietEvent n) = some u) (hu : u.pc = .recv) :
    u.live = some ps ∧ u.ready = true := by
  obtain ⟨p, hp, hcons⟩ := hsync
  have hquiet : ∀ l ∈ List.replicate n Label.run, Within (· = t.file) (· = none) l := by
    intro l hl
    rw [List.eq_of_mem_replicate hl]
    trivial
  obtain ⟨fault, rfl, hpdp⟩ := handle_of_run (G := (· = none)) rfl ht hp hquiet h hu
  have hsucc : Succeeds api schema policyPath p ⟨t.file, none⟩ := ⟨v, hfile, hv.2, .inr rfl⟩
  obtain ⟨src, ps', hsrc, hv', hh⟩ := handle_of_succeeds hcons hsucc
  obtain rfl : v = src := Except.ok.inj (hfile.symm.trans hsrc)
  obtain rfl : ps' = ps := Except.ok.inj (hv'.1.symm.trans hv.1)
  rw [hh] at hpdp
  obtain ⟨file, live, loaded, ready, pc⟩ := u
  obtain ⟨hlive, -, hready⟩ := pdp_eq_some_iff.mp hpdp
  exact ⟨hlive, hready⟩

variable (api schema policyPath) in
/-- **The fast path agrees with the full path.** -/
structure FastPathAgrees (t : Sys β) : Prop where
  /-- Between two events, the live set is what the loaded source reads as. -/
  idle : t.pc = .recv →
    ∃ src ps, t.loadedSrc = some src ∧ t.live = some ps ∧ api.fromStr src = .ok ps
  /-- Skipping leaves the set that validating and installing the source would have installed. -/
  skip : ∀ src, t.pc = .readSource → t.file = .ok src → t.loadedSrc = some src →
    exec api schema policyPath t = some { t with pc := .setReady true } ∧
    (∃ n, validateSource api src policyPath schema = .ok n) ∧
    ∃ ps, updateProviderData api t.file none = .ok ps ∧ t.live = some ps
  /-- An event while the file stays valid ends with its content live, and ready. -/
  settle : ∀ v ps, t.pc = .recv → t.file = .ok v → Validates api schema policyPath v ps →
    (∃ n u, run (step api schema policyPath) t (quietEvent n) = some u ∧ u.pc = .recv) ∧
    ∀ n u, run (step api schema policyPath) t (quietEvent n) = some u → u.pc = .recv →
      u.live = some ps ∧ u.ready = true

/-- **The live set follows the loaded source.** In every run in which the provider reads what the
loader reads, the fast path of `reload` agrees with the full path in every state. -/
theorem live_eq_loaded {file : File} {ls : List Label}
    (hc : Along (step api schema policyPath) (SameRead api schema policyPath) (Sys.boot file) ls)
    {t : Sys β} (h : Visits (step api schema policyPath) (Sys.boot file) ls t) :
    FastPathAgrees api schema policyPath t := by
  have hboot : SyncState api schema policyPath (Sys.boot file : Sys β) := trivial
  have hinv : SyncState api schema policyPath t :=
    visits_move_inv (fun _ _ _ => syncState_step) hboot hc h
  obtain ⟨file, live, loaded, ready, pc⟩ := t
  refine ⟨?_, ?_, ?_⟩
  · rintro rfl
    obtain ⟨src, ps, hlive, hloaded, hv⟩ := inSync_iff.mp hinv
    exact ⟨src, ps, hloaded, hlive, hv.1⟩
  · rintro src rfl rfl rfl
    obtain ⟨_, ps, hlive, hsrc, hv⟩ := inSync_iff.mp hinv
    cases hsrc
    exact ⟨by simp [exec, readSource], hv.2, ps, hv.1, hlive⟩
  · rintro v ps rfl hfile hv
    exact ⟨exists_quietEvent rfl hfile hv, fun n u hr hu => live_of_quietEvent hinv rfl hfile hv hr hu⟩

/-- **The condition is exact**: a read that differs separates the live set from the loaded source. -/
theorem differing_read_separates {s : Sys β} (h : ¬ SameRead api schema policyPath s .run) :
    ∃ ls t, run (step api schema policyPath) s ls = some t ∧
      ¬ FastPathAgrees api schema policyPath t := by
  obtain ⟨file, live, loaded, ready, pc⟩ := s
  have hidle : ∀ {file src} {ps : PolicySet β}, api.fromStr src ≠ .ok ps →
      ¬ FastPathAgrees api schema policyPath ⟨file, some ps, some src, true, .recv⟩ := by
    intro _ src ps hne hagrees
    obtain ⟨_, _, hsrc, hlive, hps⟩ := hagrees.idle rfl
    cases hsrc
    cases hlive
    exact hne hps
  cases pc with
  | loadAndValidate =>
    simp only [SameRead, forall_const, not_forall, not_or, not_exists] at h
    obtain ⟨ps, rfl, hread, hload⟩ := h
    cases hv : loadAndValidate api policyPath schema file with
    | error e => exact absurd hv (hload e)
    | ok out =>
      obtain ⟨rfl, -⟩ := loadAndValidate_eq_ok_iff.mp hv
      refine ⟨[.run], ⟨.ok out.1, some ps, some out.1, true, .recv⟩, ?_, hidle hread⟩
      simp only [run, step, exec, hv, Option.bind_some]
  | updateProviderData src =>
    simp only [SameRead, forall_const, not_forall] at h
    obtain ⟨ps, hread, hne⟩ := h
    refine ⟨[.run, .run, .run, .run], ⟨file, some ps, some src, true, .recv⟩, ?_, hidle hne⟩
    simp only [run, step, exec, updateProviderData, hread, Option.bind_some]
  | _ => exact absurd (fun _ => trivial) h

end Loaded

/-- A reload on a file that stays as it is. -/
theorem live_eq_loaded_reload : FastPathAgrees files loginSchema "policies.cedar"
    ⟨.ok (sourceText blockExternal), some blockExternal, some (sourceText blockExternal), true,
      .recv⟩ := by
  have hv := validates_permitAll "policies.cedar"
  obtain ⟨hp, n, hn⟩ := validates_blockExternal "policies.cedar"
  have hread : providerRead files (.ok (sourceText blockExternal)) = .ok blockExternal := hp
  have hne := mt Option.some.inj blockExternal_ne_permitAll
  have hstart : Along (step files loginSchema "policies.cedar")
      (SameRead files loginSchema "policies.cedar") (Sys.boot (.ok (sourceText permitAll)))
      startupSteps := by
    refine along_startup hv (fun _ => trivial) fun _ ps hps => .inl ?_
    cases hps
    exact hv.1
  refine live_eq_loaded (along_append.mpr ⟨hstart, fun t ht => ?_⟩)
    (visits_of_run (run_append.mpr ⟨_, run_startup hv, run_reloadSteps hn hread hne true⟩))
  obtain rfl := Option.some.inj ((run_startup hv).symm.trans ht)
  exact along_reloadSteps hn hread hne true (fun _ _ => sameRead_of_notReread) fun _ ps hps => hps

/-- **A stale set stays live**: the file changes to `blockExternal` and back before the provider reads
it, and the next event, handled while the file holds `blockExternal` again, ends ready, with
`permitAll` live. -/
theorem stale_set_stays_live : ∃ t,
    run (step files loginSchema "policies.cedar") (Sys.boot (.ok (sourceText permitAll)))
      (startupSteps ++ (reloadSteps (sourceText blockExternal) (.ok (sourceText permitAll)) ++
        .write (.ok (sourceText blockExternal)) :: quietEvent 2)) = some t ∧
      t.file = .ok (sourceText blockExternal) ∧ t.live = some permitAll ∧ t.ready = true ∧
        ¬ FastPathAgrees files loginSchema "policies.cedar" t := by
  have hv := validates_permitAll "policies.cedar"
  obtain ⟨hb, n, hn⟩ := validates_blockExternal "policies.cedar"
  have hback : providerRead files (.ok (sourceText permitAll)) = .ok permitAll := hv.1
  have hne := mt Option.some.inj blockExternal_ne_permitAll
  refine ⟨⟨.ok (sourceText blockExternal), some permitAll, some (sourceText blockExternal), true, .recv⟩,
    run_append.mpr ⟨_, run_startup hv, run_append.mpr ⟨_, run_reloadSteps hn hback hne true, ?_⟩⟩,
    rfl, rfl, rfl, fun h => ?_⟩
  · simp [quietEvent, List.replicate, run, step, exec, readSource]
  · obtain ⟨src, ps, hsrc, hlive, hps⟩ := h.idle rfl
    cases hsrc
    cases hlive
    have heq : permitAll = blockExternal := Except.ok.inj (hps.symm.trans hb)
    exact absurd (congrArg (fun ps => ps.policies.length) heq) (by decide)

end AuthzenPdp
