import AuthzenPdp.Reload.Live

/-!
# Reload as an atomic operation

The abstract server knows no steps: startup and every event happen at once, as `startup` and `reload`
do, each on two contents of the file. Which contents these are can be read off the schedule: a statement
that reads the file finds what was written last before it.

* `statements`, `startupReads`, `eventReads`: what the reads of a schedule find;
* `reloadAll`: sequences of reloads;
* `resume`, `forecast`: what the rest of an event, and of a schedule, makes of a state;
* **`forecast_step`**: the forecast comes true, step by step;
* **`reloadAll_of_run`**, **`run_atomic`**: every run that ends between two events is one of the abstract
  server.
-/

namespace AuthzenPdp

open Trans

variable {β σ : Type}

/-! ## What a schedule finds -/

/-- What an event finds: the file as `reload` reads it, as the provider reads it, and a fault. -/
structure Reads where
  file : File
  providerFile : File
  fault : Option String

/-- The statements of a schedule up to the next result of the receiver, each with the content of the file
at that moment and with its fault. -/
def statements : File → List Label → List (File × Option String)
  | _, [] => []
  | _, .recv _ :: _ => []
  | _, .write file' :: ls => statements file' ls
  | file, .fault error :: ls => (file, some error) :: statements file ls
  | file, .run :: ls => (file, none) :: statements file ls

/-- Startup is two statements: the provider reads the file, and then the loader. -/
def startupReads (file : File) (ls : List Label) : Option (File × File) :=
  match statements file ls with
  | (providerFile, _) :: (file', _) :: _ => some (providerFile, file')
  | _ => none

/-- The first statement of an event is the read of `reload`. The third is that of the provider, when it
comes to that; an event that ends before has made one read. -/
def readsOf : List (File × Option String) → List Reads
  | [] => []
  | (file, _) :: _ :: (providerFile, fault) :: _ => [⟨file, providerFile, fault⟩]
  | (file, _) :: _ => [⟨file, file, none⟩]

/-- **What the events of a schedule find**, one after the other. -/
def eventReads : File → List Label → List Reads
  | _, [] => []
  | _, .write file' :: ls => eventReads file' ls
  | file, .recv .event :: ls => readsOf (statements file ls) ++ eventReads file ls
  | file, _ :: ls => eventReads file ls

def Label.isEvent : Label → Bool
  | .recv .event => true
  | _ => false

/-- The number of events in a schedule. -/
def eventCount (ls : List Label) : ℕ := ls.countP Label.isEvent

theorem exists_readsOf (file : File) (fault : Option String) (found : List (File × Option String)) :
    ∃ providerFile fault', readsOf ((file, fault) :: found) = [⟨file, providerFile, fault'⟩] := by
  rcases found with _ | ⟨_, _ | ⟨_, _⟩⟩
  · exact ⟨_, _, rfl⟩
  · exact ⟨_, _, rfl⟩
  · exact ⟨_, _, rfl⟩

/-- Only the first and the third statement matter. -/
theorem readsOf_second (x y y' : File × Option String) (found : List (File × Option String)) :
    readsOf (x :: y :: found) = readsOf (x :: y' :: found) := by
  cases found with
  | nil => rfl
  | cons z found => rfl

section Atomic

variable (api : PolicyApi β σ) (schema : σ) (policyPath : String)

/-- The state after a sequence of events. -/
def reloadAll (p : Pdp β) (es : List Reads) : Pdp β :=
  es.foldl (fun p e => reload api schema policyPath p e.file e.providerFile e.fault) p

/-- The rest of an event in `p`, on what its statements find. -/
def resume (p : Pdp β) : Pc β → List (File × Option String) → Pdp β
  | .readSource, found => reloadAll api schema policyPath p (readsOf found)
  | .validateSource src, found =>
    reloadAll api schema policyPath p (readsOf ((.ok src, none) :: found))
  | .updateProviderData src, found =>
    reloadAll api schema policyPath p (readsOf ((.ok src, none) :: (.ok src, none) :: found))
  | .swap src ps, _ => ⟨ps, src, true⟩
  | .setLoaded src, _ => ⟨p.provider, src, true⟩
  | .setReady ready, _ => { p with ready := ready }
  | _, _ => p

/-- What the schedule makes of a server that serves `p`. -/
def forecast (p : Pdp β) (s : Sys β) (ls : List Label) : Pdp β :=
  reloadAll api schema policyPath (resume api schema policyPath p s.pc (statements s.file ls))
    (eventReads s.file ls)

/-- The server serves `p`, between two events or in the middle of one. -/
def Serving (p : Pdp β) (s : Sys β) : Prop :=
  s.pdp = some p ∧ match s.pc with
    | .newProvider | .loadAndValidate | .failed => False
    | .validateSource src => src ≠ p.loadedSrc
    | .updateProviderData src => src ≠ p.loadedSrc ∧
        ∃ n, validateSource api src policyPath schema = .ok n
    | _ => True

variable {api schema policyPath}

theorem reloadAll_append (p : Pdp β) (es es' : List Reads) :
    reloadAll api schema policyPath p (es ++ es') =
      reloadAll api schema policyPath (reloadAll api schema policyPath p es) es' :=
  List.foldl_append

theorem reloadAll_singleton (p : Pdp β) (e : Reads) : reloadAll api schema policyPath p [e] =
    reload api schema policyPath p e.file e.providerFile e.fault := rfl

theorem reloadAll_concat (p : Pdp β) (es : List Reads) (e : Reads) :
    reloadAll api schema policyPath p (es ++ [e]) =
      reload api schema policyPath (reloadAll api schema policyPath p es) e.file e.providerFile e.fault :=
  reloadAll_append p es [e]

/-! ## The forecast comes true -/

/-- A step whose statement does not receive leaves the forecast as it is when the rest of the event does. -/
theorem forecast_congr {p p' : Pdp β} {s s' : Sys β} {l : Label} {ls : List Label}
    (hevents : eventReads s.file (l :: ls) = eventReads s'.file ls)
    (hrest : resume api schema policyPath p s.pc (statements s.file (l :: ls)) =
      resume api schema policyPath p' s'.pc (statements s'.file ls)) :
    forecast api schema policyPath p s (l :: ls) = forecast api schema policyPath p' s' ls := by
  rw [forecast, forecast, hevents, hrest]

/-- **The forecast comes true**: it is the same before and after a step of the reload loop. -/
theorem forecast_step {p : Pdp β} {s s' : Sys β} {l : Label} (h : Move api schema policyPath s l s')
    (hs : Serving api schema policyPath p s) (hpc : s'.pc ≠ .stopped) (ls : List Label) :
    ∃ p', Serving api schema policyPath p' s' ∧
      forecast api schema policyPath p s (l :: ls) = forecast api schema policyPath p' s' ls := by
  obtain ⟨hp, hs⟩ := hs
  cases h with
  | write file' => exact ⟨p, ⟨hp, hs⟩, rfl⟩
  | event => exact ⟨p, ⟨hp, trivial⟩, reloadAll_append p _ _⟩
  | closed _ => exact absurd rfl hpc
  | @faulted file live loaded ready src error =>
    obtain ⟨hne, n, hv⟩ := hs
    refine ⟨p, ⟨hp, trivial⟩, forecast_congr rfl ?_⟩
    change reload api schema policyPath p (.ok src) file (some error) = { p with ready := false }
    simp only [reload, readSource, if_neg hne, hv, updateProviderData]
  | provider _ => exact absurd hs id
  | noProvider _ => exact absurd hs id
  | started _ => exact absurd hs id
  | notStarted _ => exact absurd hs id
  | @unreadable live loaded ready e =>
    refine ⟨p, ⟨hp, trivial⟩, forecast_congr rfl ?_⟩
    obtain ⟨providerFile, fault, hreads⟩ := exists_readsOf (.error e) none (statements (.error e) ls)
    change reloadAll api schema policyPath p (readsOf ((.error e, none) :: _)) = _
    rw [hreads]
    rfl
  | @same live ready src =>
    refine ⟨p, ⟨hp, trivial⟩, forecast_congr rfl ?_⟩
    have hsrc : src = p.loadedSrc := Option.some.inj (pdp_eq_some_iff.mp hp).2.1
    obtain ⟨providerFile, fault, hreads⟩ := exists_readsOf (.ok src) none (statements (.ok src) ls)
    change reloadAll api schema policyPath p (readsOf ((.ok src, none) :: _)) = _
    rw [hreads, reloadAll_singleton]
    simp only [reload, readSource, if_pos hsrc, resume]
  | changed src hne =>
    have hsrc : src ≠ p.loadedSrc := fun heq => hne (by rw [heq, (pdp_eq_some_iff.mp hp).2.1])
    exact ⟨p, ⟨hp, hsrc⟩, forecast_congr rfl rfl⟩
  | @rejected file live loaded ready src e hv =>
    refine ⟨p, ⟨hp, trivial⟩, forecast_congr rfl ?_⟩
    have hne : src ≠ p.loadedSrc := hs
    obtain ⟨providerFile, fault, hreads⟩ :=
      exists_readsOf (.ok src) none ((file, none) :: statements file ls)
    change reloadAll api schema policyPath p (readsOf ((.ok src, none) :: (file, none) :: _)) = _
    rw [hreads, reloadAll_singleton]
    simp only [reload, readSource, if_neg hne, hv, resume]
  | @accepted file live loaded ready src n hv =>
    refine ⟨p, ⟨hp, hs, n, hv⟩, forecast_congr rfl ?_⟩
    exact congrArg (reloadAll api schema policyPath p) (readsOf_second _ _ _ _)
  | @notUpdated file live loaded ready src e hu =>
    obtain ⟨hne, n, hv⟩ := hs
    refine ⟨p, ⟨hp, trivial⟩, forecast_congr rfl ?_⟩
    change reload api schema policyPath p (.ok src) file none = { p with ready := false }
    simp only [reload, readSource, if_neg hne, hv, updateProviderData, hu]
  | @updated file live loaded ready src ps hu =>
    obtain ⟨hne, n, hv⟩ := hs
    refine ⟨p, ⟨hp, trivial⟩, forecast_congr rfl ?_⟩
    change reload api schema policyPath p (.ok src) file none = ⟨ps, src, true⟩
    simp only [reload, readSource, if_neg hne, hv, updateProviderData, hu]
  | swapped src ps =>
    obtain ⟨-, hl, hb⟩ := pdp_eq_some_iff.mp hp
    exact ⟨{ p with provider := ps }, ⟨pdp_eq_some_iff.mpr ⟨rfl, hl, hb⟩, trivial⟩,
      forecast_congr rfl rfl⟩
  | loaded src =>
    obtain ⟨hlive, -, hb⟩ := pdp_eq_some_iff.mp hp
    exact ⟨{ p with loadedSrc := src }, ⟨pdp_eq_some_iff.mpr ⟨hlive, rfl, hb⟩, trivial⟩,
      forecast_congr rfl rfl⟩
  | flagged b =>
    obtain ⟨hlive, hl, -⟩ := pdp_eq_some_iff.mp hp
    exact ⟨{ p with ready := b }, ⟨pdp_eq_some_iff.mpr ⟨hlive, hl, rfl⟩, trivial⟩, forecast_congr rfl rfl⟩

/-- A server that has ended never waits again. -/
theorem not_recv_of_ended {s t : Sys β} {ls : List Label} (hs : s.pc = .failed ∨ s.pc = .stopped)
    (h : run (step api schema policyPath) s ls = some t) : t.pc ≠ .recv := by
  have hmove : ∀ (u : Sys β) (l : Label) u', True → Move api schema policyPath u l u' →
      (u.pc = .failed ∨ u.pc = .stopped) → u'.pc = .failed ∨ u'.pc = .stopped := by
    intro u l u' _ hu hi
    cases hu with
    | write _ => exact hi
    | _ => simp at hi
  have hend := run_move_inv hmove hs (along_of_forall s fun _ _ => trivial) h
  rintro hpc
  simp [hpc] at hend

/-- What has begun does not end without a statement. -/
theorem statements_ne_nil {s t : Sys β} {ls : List Label}
    (h : run (step api schema policyPath) s ls = some t) (hs : s.pc ≠ .recv) (ht : t.pc = .recv) :
    statements s.file ls ≠ [] := by
  induction ls generalizing s with
  | nil =>
    cases h
    exact absurd ht hs
  | cons l ls ih =>
    obtain ⟨u, hu, hr⟩ := run_cons.mp h
    have hmove := move_of_step hu
    cases hmove with
    | write file' => exact ih hr hs
    | event => exact absurd rfl hs
    | closed _ => exact absurd rfl hs
    | _ => exact List.cons_ne_nil _ _

/-- Every event has its reads. -/
theorem length_eventReads {s t : Sys β} {ls : List Label}
    (h : run (step api schema policyPath) s ls = some t) (ht : t.pc = .recv) :
    (eventReads s.file ls).length = eventCount ls := by
  induction ls generalizing s with
  | nil => rfl
  | cons l ls ih =>
    obtain ⟨u, hu, hr⟩ := run_cons.mp h
    have hls := ih hr
    have hmove := move_of_step hu
    cases hmove with
    | closed _ => exact absurd ht (not_recv_of_ended (.inr rfl) hr)
    | @event file live loaded ready =>
      have hne : statements file ls ≠ [] := statements_ne_nil hr (by simp) ht
      obtain ⟨⟨file', fault⟩, found, hfound⟩ := List.exists_cons_of_ne_nil hne
      obtain ⟨_, _, hreads⟩ := exists_readsOf file' fault found
      rw [eventReads, hfound, hreads, List.length_append, hls, eventCount, eventCount,
        List.countP_cons_of_pos rfl]
      exact Nat.add_comm _ _
    | _ => exact hls

theorem forecast_of_run {p : Pdp β} {s t : Sys β} {ls : List Label}
    (hs : Serving api schema policyPath p s) (h : run (step api schema policyPath) s ls = some t)
    (ht : t.pc = .recv) : t.pdp = some (forecast api schema policyPath p s ls) := by
  induction ls generalizing p s with
  | nil =>
    cases h
    rw [forecast, ht]
    exact hs.1
  | cons l ls ih =>
    obtain ⟨u, hu, hr⟩ := run_cons.mp h
    have hpc : u.pc ≠ .stopped := fun hstop => not_recv_of_ended (.inr hstop) hr ht
    obtain ⟨p', hp', heq⟩ := forecast_step (move_of_step hu) hs hpc ls
    rw [heq]
    exact ih hp' hr

/-- **Between two events.** The events of a run from such a state to another are reloads, each on what its
statements find. -/
theorem reloadAll_of_run {p : Pdp β} {s t : Sys β} {ls : List Label} (hs : s.pc = .recv)
    (hp : s.pdp = some p) (h : run (step api schema policyPath) s ls = some t) (ht : t.pc = .recv) :
    t.pdp = some (reloadAll api schema policyPath p (eventReads s.file ls)) := by
  have hserving : Serving api schema policyPath p s := ⟨hp, by rw [hs]; trivial⟩
  rw [forecast_of_run hserving h ht, forecast, hs]
  rfl

/-! ## From before startup -/

/-- The second statement of startup. -/
theorem reloadAll_of_load {s t : Sys β} {ps : PolicySet β} {ls : List Label}
    (hs : s.pc = .loadAndValidate) (hlive : s.live = some ps)
    (h : run (step api schema policyPath) s ls = some t) (ht : t.pc = .recv) :
    ∃ file fault found src n, statements s.file ls = (file, fault) :: found ∧
      loadAndValidate api policyPath schema file = .ok (src, n) ∧
      t.pdp = some (reloadAll api schema policyPath ⟨ps, src, true⟩ (eventReads s.file ls)) := by
  induction ls generalizing s with
  | nil =>
    cases h
    rw [hs] at ht
    cases ht
  | cons l ls ih =>
    obtain ⟨u, hu, hr⟩ := run_cons.mp h
    obtain ⟨file, live, loaded, ready, pc⟩ := s
    cases hs
    cases hlive
    have hmove := move_of_step hu
    cases hmove with
    | write file' => exact ih rfl rfl hr
    | started hv =>
      have hq := reloadAll_of_run rfl rfl hr ht
      exact ⟨file, none, _, _, _, rfl, hv, hq⟩
    | notStarted _ => exact absurd ht (not_recv_of_ended (.inl rfl) hr)

theorem reloadAll_of_boot {s t : Sys β} {ls : List Label} (hs : s.pc = .newProvider)
    (h : run (step api schema policyPath) s ls = some t) (ht : t.pc = .recv) :
    ∃ providerFile file p, startupReads s.file ls = some (providerFile, file) ∧
      startup api schema policyPath providerFile file = .ok p ∧
      t.pdp = some (reloadAll api schema policyPath p (eventReads s.file ls)) := by
  induction ls generalizing s with
  | nil =>
    cases h
    rw [hs] at ht
    cases ht
  | cons l ls ih =>
    obtain ⟨u, hu, hr⟩ := run_cons.mp h
    obtain ⟨file, live, loaded, ready, pc⟩ := s
    cases hs
    have hmove := move_of_step hu
    cases hmove with
    | write file' => exact ih rfl hr
    | @provider _ _ _ _ ps hps =>
      obtain ⟨file', fault, found, src, n, hfound, hload, hq⟩ := reloadAll_of_load rfl rfl hr ht
      refine ⟨file, file', ⟨ps, src, true⟩, ?_, ?_, hq⟩
      · rw [startupReads, statements, hfound]
      · rw [startup, hps, hload]
        rfl
    | noProvider _ => exact absurd ht (not_recv_of_ended (.inl rfl) hr)

/-- **Every run is one of the abstract server.** Whatever is written when, a run that ends between two
events does what startup and one `reload` for each event do at once, each on the two contents that its
own statements find. -/
theorem run_atomic {file : File} {ls : List Label} {t : Sys β}
    (h : run (step api schema policyPath) (Sys.boot file) ls = some t) (ht : t.pc = .recv) :
    (eventReads file ls).length = eventCount ls ∧
      ∃ providerFile file' p, startupReads file ls = some (providerFile, file') ∧
        startup api schema policyPath providerFile file' = .ok p ∧
        t.pdp = some (reloadAll api schema policyPath p (eventReads file ls)) :=
  ⟨length_eventReads h ht, reloadAll_of_boot rfl h ht⟩

end Atomic

/-! ## A torn reload -/

/-- Startup, a reload of `blockExternal` whose provider reads `badPriority`, and a rewrite after it. -/
def tornSteps : List Label :=
  startupSteps ++ (reloadSteps (sourceText blockExternal) (.ok (sourceText badPriority)) ++
    [.write (.ok (sourceText blockMaintenance))])

theorem run_torn : run (step files loginSchema "policies.cedar") (Sys.boot (.ok (sourceText permitAll)))
    tornSteps = some ⟨.ok (sourceText blockMaintenance), some badPriority,
      some (sourceText blockExternal), true, .recv⟩ := by
  obtain ⟨-, n, hn⟩ := validates_blockExternal "policies.cedar"
  have hbad : providerRead files (.ok (sourceText badPriority)) = .ok badPriority :=
    fromStr_files (by simp [policyFiles])
  have hne := mt Option.some.inj blockExternal_ne_permitAll
  exact run_append.mpr ⟨_, run_startup (validates_permitAll "policies.cedar"),
    run_append.mpr ⟨_, run_reloadSteps hn hbad hne true, rfl⟩⟩

theorem startupReads_torn (file : File) : startupReads file tornSteps = some (file, file) := rfl

/-- The one event finds two contents, and what is written later is not among them. -/
theorem eventReads_torn (file : File) : eventReads file tornSteps =
    [⟨.ok (sourceText blockExternal), .ok (sourceText badPriority), none⟩] := rfl

/-- What the run ends in is what the reload gives on these contents. -/
theorem run_atomic_torn : ∃ t p, run (step files loginSchema "policies.cedar")
      (Sys.boot (.ok (sourceText permitAll))) tornSteps = some t ∧
    startup files loginSchema "policies.cedar" (.ok (sourceText permitAll))
      (.ok (sourceText permitAll)) = .ok p ∧
    t.pdp = some (reload files loginSchema "policies.cedar" p (.ok (sourceText blockExternal))
      (.ok (sourceText badPriority)) none) ∧
    t.pdp = some ⟨badPriority, sourceText blockExternal, true⟩ := by
  obtain ⟨-, providerFile, file, p, hreads, hstart, hq⟩ := run_atomic run_torn rfl
  rw [startupReads_torn] at hreads
  obtain ⟨hprovider, hfile⟩ := Prod.mk.inj (Option.some.inj hreads)
  rw [← hprovider, ← hfile] at hstart
  rw [eventReads_torn, reloadAll_singleton] at hq
  exact ⟨_, p, run_torn, hstart, hq, rfl⟩

end AuthzenPdp
