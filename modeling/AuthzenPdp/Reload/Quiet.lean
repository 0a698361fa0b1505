import AuthzenPdp.Reload.History

/-!
# Rewrites between events

When the file is rewritten only while the server waits, every event finds one content: the server is
then exactly the trace semantics of `handleAll`, from whatever state the races before have left.

* `Between`: the file is rewritten only while the server waits;
* `snapshots`, **`eventReads_eq_snapshots`**: what the events of such a run find;
* **`handleAll_of_run`**, **`quiet_iff`**: the states of such runs;
* `consistent_handleAll_iff`, **`quiet_heals`**: a server that a race has left inconsistent stays so
  until an event installs a set, and is consistent from then on.
-/

namespace AuthzenPdp

open Trans

variable {β σ : Type}

/-- The file is rewritten only while the server waits for an event. -/
def Between (s : Sys β) (l : Label) : Prop := ∀ file, l = .write file → s.pc = .recv

theorem between_run (s : Sys β) : Between s .run := fun file hw => by cases hw

/-- The fault of the third statement of an event. -/
def faultOf : List (File × Option String) → Option String
  | _ :: _ :: (_, fault) :: _ => fault
  | _ => none

/-- **The events of a schedule**, each with what the file is when it is received. -/
def snapshots : File → List Label → List Event
  | _, [] => []
  | _, .write file' :: ls => snapshots file' ls
  | file, .recv .event :: ls => ⟨file, faultOf (statements file ls)⟩ :: snapshots file ls
  | file, _ :: ls => snapshots file ls

/-- An event on one content, as two reads. -/
def Event.reads (e : Event) : Reads := ⟨e.snapshot, e.snapshot, e.fault⟩

theorem length_snapshots (file : File) (ls : List Label) :
    (snapshots file ls).length = eventCount ls := by
  induction ls generalizing file with
  | nil => rfl
  | cons l ls ih =>
    cases l with
    | recv r =>
      cases r with
      | event => rw [snapshots, List.length_cons, ih, eventCount, eventCount, List.countP_cons_of_pos rfl]
      | lagged n => exact ih file
      | closed => exact ih file
    | write file' => exact ih file'
    | fault error => exact ih file
    | run => exact ih file

theorem readsOf_still {file : File} {found : List (File × Option String)} (hne : found ≠ [])
    (h : ∀ x ∈ found, x.1 = file) : readsOf found = [Event.reads ⟨file, faultOf found⟩] := by
  rcases found with _ | ⟨⟨file₁, fault₁⟩, found⟩
  · exact absurd rfl hne
  obtain ⟨hfirst, h⟩ := List.forall_mem_cons.mp h
  obtain rfl : file₁ = file := hfirst
  rcases found with _ | ⟨y, found⟩
  · rfl
  obtain ⟨-, h⟩ := List.forall_mem_cons.mp h
  rcases found with _ | ⟨⟨file₃, fault₃⟩, found⟩
  · rfl
  obtain ⟨hthird, -⟩ := List.forall_mem_cons.mp h
  obtain rfl : file₃ = file₁ := hthird
  rfl

section Quiet

variable {api : PolicyApi β σ} {schema : σ} {policyPath : String}

/-- No statement is executed while the server waits. -/
theorem statements_of_recv {s t : Sys β} {ls : List Label}
    (h : run (step api schema policyPath) s ls = some t) (hs : s.pc = .recv) :
    statements s.file ls = [] := by
  induction ls generalizing s with
  | nil => rfl
  | cons l ls ih =>
    obtain ⟨u, hu, hr⟩ := run_cons.mp h
    obtain ⟨file, live, loaded, ready, pc⟩ := s
    cases hs
    have hmove := move_of_step hu
    cases hmove with
    | write file' => exact ih hr rfl
    | event => rfl
    | closed _ => rfl

/-- The statements of an event find what the file is when it is received. -/
theorem statements_of_between {s t : Sys β} {ls : List Label}
    (hc : Along (step api schema policyPath) Between s ls)
    (h : run (step api schema policyPath) s ls = some t) :
    ∀ x ∈ statements s.file ls, x.1 = s.file := by
  induction ls generalizing s with
  | nil => exact fun x hx => absurd hx List.not_mem_nil
  | cons l ls ih =>
    by_cases hs : s.pc = .recv
    · rw [statements_of_recv h hs]
      exact fun x hx => absurd hx List.not_mem_nil
    obtain ⟨u, hu, hr⟩ := run_cons.mp h
    have hls := ih (hc.2 u hu) hr
    have hmove := move_of_step hu
    cases hmove with
    | write file' => exact absurd (hc.1 _ rfl) hs
    | event => exact absurd rfl hs
    | closed _ => exact absurd rfl hs
    | _ => exact List.forall_mem_cons.mpr ⟨rfl, hls⟩

/-- **Both reads of an event find its snapshot.** -/
theorem eventReads_eq_snapshots {s t : Sys β} {ls : List Label}
    (hc : Along (step api schema policyPath) Between s ls)
    (h : run (step api schema policyPath) s ls = some t) (ht : t.pc = .recv) :
    eventReads s.file ls = (snapshots s.file ls).map Event.reads := by
  induction ls generalizing s with
  | nil => rfl
  | cons l ls ih =>
    obtain ⟨u, hu, hr⟩ := run_cons.mp h
    have hls := ih (hc.2 u hu) hr
    have hstill := statements_of_between (hc.2 u hu) hr
    have hmove := move_of_step hu
    cases hmove with
    | closed _ => exact absurd ht (not_recv_of_ended (.inr rfl) hr)
    | event =>
      have hne := statements_ne_nil hr (by simp) ht
      rw [eventReads, readsOf_still hne hstill, hls]
      rfl
    | _ => exact hls

theorem handleAll_eq_reloadAll (p : Pdp β) (es : List Event) :
    handleAll api schema policyPath p es = reloadAll api schema policyPath p (es.map Event.reads) := by
  rw [handleAll, reloadAll, List.foldl_map]
  rfl

/-- **Runs with rewrites between events.** Each event is handled on the content that the file has when
it is received. -/
theorem handleAll_of_run {s t : Sys β} {p : Pdp β} {ls : List Label} (hs : s.pc = .recv)
    (hp : s.pdp = some p) (hc : Along (step api schema policyPath) Between s ls)
    (h : run (step api schema policyPath) s ls = some t) (ht : t.pc = .recv) :
    t.pdp = some (handleAll api schema policyPath p (snapshots s.file ls)) := by
  rw [reloadAll_of_run hs hp h ht, eventReads_eq_snapshots hc h ht, handleAll_eq_reloadAll]

/-! ## From before startup -/

/-- Startup with the file left alone makes two reads of one content. -/
theorem startup_of_between {file : File} {t : Sys β} {ls : List Label}
    (hc : Along (step api schema policyPath) Between (Sys.boot file) ls)
    (h : run (step api schema policyPath) (Sys.boot file) ls = some t) (ht : t.pc = .recv) :
    ∃ p, startup api schema policyPath file file = .ok p ∧
      t.pdp = some (handleAll api schema policyPath p (snapshots file ls)) := by
  obtain ⟨providerFile, file', p, hreads, hstart, hq⟩ := reloadAll_of_boot rfl h ht
  have hstill : ∀ x ∈ statements file ls, x.1 = file := statements_of_between hc h
  have hevents : eventReads file ls = (snapshots file ls).map Event.reads :=
    eventReads_eq_snapshots hc h ht
  refine ⟨p, ?_, ?_⟩
  · unfold startupReads at hreads
    split at hreads
    · next hfound =>
      have hfound' : statements file ls = _ := hfound
      rw [hfound'] at hstill
      cases hreads
      obtain ⟨hprovider, hstill⟩ := List.forall_mem_cons.mp hstill
      obtain rfl : providerFile = file := hprovider
      obtain ⟨hfile, -⟩ := List.forall_mem_cons.mp hstill
      obtain rfl : file' = providerFile := hfile
      exact hstart
    · cases hreads
  · rw [handleAll_eq_reloadAll, ← hevents]
    exact hq

variable (api schema policyPath) in
/-- An event on a file that stays as it is. -/
theorem exists_run_handle (p : Pdp β) (file : File) (e : Event) :
    ∃ ls, run (step api schema policyPath) (idleAt p file) ls =
        some (idleAt (handle api schema policyPath p e) e.snapshot) ∧
      Along (step api schema policyPath) Between (idleAt p file) ls := by
  obtain ⟨pc, ls, hread, hquiet, hrest⟩ :=
    exists_run_event api schema policyPath p ⟨e.snapshot, e.snapshot, e.fault⟩
  have hfirst : Along (step api schema policyPath) Between (idleAt p file)
      [.write e.snapshot, .recv .event, .run] :=
    ⟨fun _ _ => rfl, fun _ _ => ⟨nofun, fun _ _ => ⟨nofun, fun _ _ => trivial⟩⟩⟩
  refine ⟨_ ++ ls, run_append.mpr ⟨_, hread file, hrest⟩, along_append.mpr ⟨hfirst, fun t _ => ?_⟩⟩
  exact (along_of_forall t hquiet).mono fun _ _ hl file hw => absurd hw (hl file)

variable (api schema policyPath) in
theorem exists_run_handleAll (p : Pdp β) (file : File) (es : List Event) :
    ∃ ls file', run (step api schema policyPath) (idleAt p file) ls =
        some (idleAt (handleAll api schema policyPath p es) file') ∧
      Along (step api schema policyPath) Between (idleAt p file) ls := by
  induction es generalizing p file with
  | nil => exact ⟨[], file, rfl, trivial⟩
  | cons e es ih =>
    obtain ⟨ls₁, h₁, hc₁⟩ := exists_run_handle api schema policyPath p file e
    obtain ⟨ls₂, file', h₂, hc₂⟩ := ih (handle api schema policyPath p e) e.snapshot
    refine ⟨ls₁ ++ ls₂, file', run_append.mpr ⟨_, h₁, h₂⟩, along_append.mpr ⟨hc₁, fun t ht => ?_⟩⟩
    obtain rfl := Option.some.inj (h₁.symm.trans ht)
    exact hc₂

/-- **The trace semantics is the server with rewrites between events.** Between two events of such
runs, the states are exactly those that `handleAll` reaches from a startup on one content. -/
theorem quiet_iff {q : Pdp β} :
    (∃ file ls t, run (step api schema policyPath) (Sys.boot file) ls = some t ∧
      Along (step api schema policyPath) Between (Sys.boot file) ls ∧ t.pc = .recv ∧ t.pdp = some q) ↔
    ∃ file p es, startup api schema policyPath file file = .ok p ∧
      q = handleAll api schema policyPath p es := by
  constructor
  · rintro ⟨file, ls, t, h, hc, ht, hq⟩
    obtain ⟨p, hstart, hp⟩ := startup_of_between hc h ht
    exact ⟨file, p, _, hstart, Option.some.inj (hq.symm.trans hp)⟩
  · rintro ⟨file, p, es, hstart, rfl⟩
    obtain ⟨hps, rfl, hv, hready⟩ := startup_eq_ok_iff.mp hstart
    obtain ⟨ls, file', h, hc⟩ := exists_run_handleAll api schema policyPath p (.ok p.loadedSrc) es
    have hboot : run (step api schema policyPath) (Sys.boot (.ok p.loadedSrc)) startupSteps =
        some (idleAt p (.ok p.loadedSrc)) := by
      rw [run_startup ⟨hps, hv⟩, idleAt, hready]
    refine ⟨_, startupSteps ++ ls, _, run_append.mpr ⟨_, hboot, h⟩, along_append.mpr ⟨?_, ?_⟩, rfl, rfl⟩
    · exact along_startup ⟨hps, hv⟩ (between_run _) (between_run _)
    · intro t ht
      obtain rfl := Option.some.inj (hboot.symm.trans ht)
      exact hc

/-! ## After a race -/

/-- Both reads of an installation see the accepted source. -/
theorem Installs.consistent {p q : Pdp β} {e : Event}
    (h : Installs api schema policyPath p e.reads q.loadedSrc q.provider) :
    Consistent api schema policyPath q := by
  obtain ⟨hfile, -, hv, hp, -⟩ := h
  rw [show e.reads.providerFile = .ok q.loadedSrc from hfile] at hp
  exact ⟨hp, hv⟩

/-- Some event of `es` installs a set. -/
def SomeInstalls (api : PolicyApi β σ) (schema : σ) (policyPath : String) (p : Pdp β)
    (es : List Event) : Prop :=
  ∃ es₁ e es₂ src ps, es = es₁ ++ e :: es₂ ∧
    Installs api schema policyPath (handleAll api schema policyPath p es₁) e.reads src ps

theorem SomeInstalls.not_none {p : Pdp β} {es : List Event}
    (h : SomeInstalls api schema policyPath p es) :
    ¬ NoneInstalls api schema policyPath p (es.map Event.reads) := by
  obtain ⟨es₁, e, es₂, src, ps, rfl, hi⟩ := h
  intro hnone
  rw [handleAll_eq_reloadAll] at hi
  exact hnone _ _ _ src ps (by rw [List.map_append, List.map_cons]) hi

/-- **A race heals with the next installation, and not before.** -/
theorem consistent_handleAll_iff (p : Pdp β) (es : List Event) :
    Consistent api schema policyPath (handleAll api schema policyPath p es) ↔
      Consistent api schema policyPath p ∨ SomeInstalls api schema policyPath p es := by
  rw [handleAll_eq_reloadAll]
  obtain ⟨hrecent, -⟩ := reloadAll_served api schema policyPath p (es.map Event.reads)
  rcases hrecent with ⟨hp, hl, hnone⟩ | ⟨es₁, e, es₂, heq, hi, -⟩
  · rw [Consistent, hp, hl]
    exact ⟨.inl, fun h => h.resolve_right fun hsome => hsome.not_none hnone⟩
  · obtain ⟨es₁, es', rfl, rfl, hes'⟩ := List.map_eq_append_iff.mp heq
    obtain ⟨e, es₂, rfl, rfl, -⟩ := List.map_eq_cons_iff.mp hes'
    rw [← handleAll_eq_reloadAll] at hi
    exact iff_of_true hi.consistent (.inr ⟨es₁, e, es₂, _, _, rfl, hi⟩)

theorem inSync_of_pdp {s : Sys β} {p : Pdp β} (hp : s.pdp = some p) :
    InSync api schema policyPath s ↔ Consistent api schema policyPath p := by
  constructor
  · rintro ⟨p', hp', hc⟩
    rw [hp] at hp'
    cases hp'
    exact hc
  · exact fun hc => ⟨p, hp, hc⟩

/-- **Recovery from races.** From any state between two events, however it came about, and with the file
rewritten between events from then on: the live set is again what the loaded source reads as, and that
source accepted, iff it was so before or some event of the run has installed a set. -/
theorem quiet_heals {s t : Sys β} {p : Pdp β} {ls : List Label} (hs : s.pc = .recv)
    (hp : s.pdp = some p) (hc : Along (step api schema policyPath) Between s ls)
    (h : run (step api schema policyPath) s ls = some t) (ht : t.pc = .recv) :
    t.pdp = some (handleAll api schema policyPath p (snapshots s.file ls)) ∧
      (InSync api schema policyPath t ↔ InSync api schema policyPath s ∨
        SomeInstalls api schema policyPath p (snapshots s.file ls)) := by
  have hq := handleAll_of_run hs hp hc h ht
  refine ⟨hq, ?_⟩
  rw [inSync_of_pdp hq, inSync_of_pdp hp]
  exact consistent_handleAll_iff p _

/-! ## A recovery -/

/-- An event on a new source. -/
theorem run_quietEvent {p : Pdp β} {src : String} {ps : PolicySet β}
    (hv : Validates api schema policyPath src ps) (hne : src ≠ p.loadedSrc) :
    run (step api schema policyPath) (idleAt p (.ok src)) (quietEvent 6) =
      some (idleAt ⟨ps, src, true⟩ (.ok src)) := by
  obtain ⟨hps, n, hn⟩ := hv
  simp [idleAt, quietEvent, List.replicate, run, step, exec, readSource, hne, hn, updateProviderData,
    providerRead, hps]

end Quiet

/-- A stale server between two events: `permitAll` is live, `blockExternal` is loaded, and the file is
replaced by `blockMaintenance`. -/
def staleServer : Sys Rule :=
  idleAt ⟨permitAll, sourceText blockExternal, true⟩ (.ok (sourceText blockMaintenance))

/-- It serves another set than the loaded source reads as. -/
theorem not_inSync_staleServer : ¬ InSync files loginSchema "policies.cedar" staleServer := by
  intro h
  obtain ⟨src, ps, hlive, hloaded, hp, -⟩ := inSync_iff.mp h
  have hps : permitAll = ps := Option.some.inj hlive
  have hsrc : sourceText blockExternal = src := Option.some.inj hloaded
  rw [← hsrc, fromStr_files (by simp [policyFiles]), ← hps] at hp
  have heq : blockExternal = permitAll := Except.ok.inj hp
  exact absurd (congrArg (fun ps => ps.policies.length) heq) (by decide)

/-- The stale server recovers with the next event. -/
theorem quiet_heals_stale : ∃ t,
    run (step files loginSchema "policies.cedar") staleServer (quietEvent 6) = some t ∧
      t.pdp = some ⟨blockMaintenance, sourceText blockMaintenance, true⟩ ∧
      ¬ InSync files loginSchema "policies.cedar" staleServer ∧
      InSync files loginSchema "policies.cedar" t := by
  have hv := validates_blockMaintenance "policies.cedar"
  have hne := blockMaintenance_ne_blockExternal
  have hrun := run_quietEvent (p := ⟨permitAll, sourceText blockExternal, true⟩) hv hne
  have hc : Along (step files loginSchema "policies.cedar") Between staleServer (quietEvent 6) :=
    (along_of_forall (D := fun l => ∀ file, l ≠ .write file) _ (by simp [quietEvent])).mono
      fun _ _ hl file hw => absurd hw (hl file)
  obtain ⟨-, hsync⟩ := quiet_heals rfl rfl hc hrun rfl
  have hinstalls : Installs files loginSchema "policies.cedar"
      ⟨permitAll, sourceText blockExternal, true⟩
      (Event.reads ⟨.ok (sourceText blockMaintenance), none⟩) (sourceText blockMaintenance)
      blockMaintenance := ⟨rfl, hne, hv.2, hv.1, rfl⟩
  exact ⟨_, hrun, rfl, not_inSync_staleServer, hsync.mpr (.inr ⟨[], _, [], _, _, rfl, hinstalls⟩)⟩

end AuthzenPdp
