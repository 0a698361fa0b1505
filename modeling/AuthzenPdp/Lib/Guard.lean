import Mathlib.Data.List.Basic
import Mathlib.Tactic

/-!
# Guarded conditions

Conditions about places that may be empty. To test an empty place is an error, `has` asks whether a
place is full, and `and` and `or` look at their right side only when they have to. A checker follows
the places that are full for sure, so that a condition may guard its tests.

* `Cond`, `eval`: conditions, and their value when the evaluation does not fail;
* `Sig`, `Models`: what is declared about the places, and environments that keep to it;
* `eval_foldl_and_true`: the conjuncts of a condition that holds;
* `Positive`, **`eval_mono`**: conditions without negation keep holding when places are filled;
* `check`: the checker, with a static value and the places that are full when the condition holds;
* `Holds`: that a verdict is right about a value, `Holds.and`, `Holds.or`;
* **`eval_of_check`**: a checked condition fails only on a required place that is empty.
-/

namespace Guard

variable {V θ ν : Type*}

/-- Conditions over the places `V` with the tests `θ`. -/
inductive Cond (V θ : Type*) where
  | lit (b : Bool)
  | has (v : V)
  | test (v : V) (t : θ)
  | not (c : Cond V θ)
  | and (c d : Cond V θ)
  | or (c d : Cond V θ)

/-- The places that a condition tests. -/
def tested : Cond V θ → List V
  | .lit _ => []
  | .has _ => []
  | .test v _ => [v]
  | .not c => tested c
  | .and c d => tested c ++ tested d
  | .or c d => tested c ++ tested d

/-- The value of a condition; `none` is an error. -/
def eval (holds : θ → ν → Option Bool) (env : V → Option ν) : Cond V θ → Option Bool
  | .lit b => some b
  | .has v => some (env v).isSome
  | .test v t => (env v).bind (holds t)
  | .not c => (eval holds env c).map not
  | .and c d => (eval holds env c).bind fun b => if b then eval holds env d else some false
  | .or c d => (eval holds env c).bind fun b => if b then some true else eval holds env d

/-- What is declared: the places, those that should be full, those of them that are, and the tests
that fit what they hold. -/
structure Sig (V θ : Type*) where
  declared : V → Bool
  required : V → Bool
  known : V → Bool
  fits : V → θ → Bool

/-- The environment keeps to the declarations, but a required place that is not known may be empty. -/
structure Models (holds : θ → ν → Option Bool) (sig : Sig V θ) (env : V → Option ν) : Prop where
  declared : ∀ v x, env v = some x → sig.declared v = true
  full : ∀ v, sig.required v = true → sig.known v = true → (env v).isSome = true
  fits : ∀ v x t, env v = some x → sig.fits v t = true → (holds t x).isSome = true

/-- A test fails: a required place is empty that is not known to be full. -/
def Missing (sig : Sig V θ) (env : V → Option ν) (c : Cond V θ) : Prop :=
  ∃ v ∈ tested c, sig.required v = true ∧ sig.known v = false ∧ env v = none

theorem Missing.left {sig : Sig V θ} {c : Cond V θ} {vs : List V} {e : Cond V θ}
    (he : tested e = tested c ++ vs) (h : Missing sig env c) : Missing sig env e := by
  obtain ⟨v, hv, h⟩ := h
  exact ⟨v, he ▸ List.mem_append_left _ hv, h⟩

theorem Missing.right {sig : Sig V θ} {d : Cond V θ} {vs : List V} {e : Cond V θ}
    (he : tested e = vs ++ tested d) (h : Missing sig env d) : Missing sig env e := by
  obtain ⟨v, hv, h⟩ := h
  exact ⟨v, he ▸ List.mem_append_right _ hv, h⟩

/-- A conjunction that is true. -/
theorem eval_and_true {holds : θ → ν → Option Bool} {env : V → Option ν} {c d : Cond V θ} :
    eval holds env (.and c d) = some true ↔
      eval holds env c = some true ∧ eval holds env d = some true := by
  rw [eval, Option.bind_eq_some_iff]
  constructor
  · rintro ⟨b, hc, hd⟩
    split_ifs at hd with hb
    · exact ⟨hb ▸ hc, hd⟩
    · cases hd
  · rintro ⟨hc, hd⟩
    exact ⟨true, hc, hd⟩

/-- The conjuncts of `c && d₁ && ⋯ && dₙ`. -/
theorem eval_foldl_and_true {holds : θ → ν → Option Bool} {env : V → Option ν} {c : Cond V θ}
    {ds : List (Cond V θ)} : eval holds env (ds.foldl .and c) = some true ↔
      eval holds env c = some true ∧ ∀ d ∈ ds, eval holds env d = some true := by
  induction ds generalizing c with
  | nil => simp
  | cons d ds ih => rw [List.foldl_cons, ih, eval_and_true, List.forall_mem_cons, and_assoc]

/-! ## Positive conditions -/

/-- A condition without negation. -/
def Positive : Cond V θ → Prop
  | .lit _ => True
  | .has _ => True
  | .test _ _ => True
  | .not _ => False
  | .and c d => Positive c ∧ Positive d
  | .or c d => Positive c ∧ Positive d

/-- **More places.** A positive condition that holds still holds when places are filled, unless it
fails then. -/
theorem eval_mono {holds : θ → ν → Option Bool} {env env' : V → Option ν}
    (hle : ∀ v x, env v = some x → env' v = some x) {c : Cond V θ} (hc : Positive c)
    (h : eval holds env c = some true) : eval holds env' c = some true ∨ eval holds env' c = none := by
  induction c with
  | lit b => exact .inl h
  | has v =>
    rw [eval, Option.some.injEq, Option.isSome_iff_exists] at h
    obtain ⟨x, hx⟩ := h
    exact .inl (by rw [eval, hle v x hx, Option.isSome_some])
  | test v t =>
    obtain ⟨x, hx, ht⟩ := Option.bind_eq_some_iff.mp h
    exact .inl (by rw [eval, hle v x hx, Option.bind_some, ht])
  | not c => exact absurd hc id
  | and c d ihc ihd =>
    obtain ⟨hc', hd'⟩ := eval_and_true.mp h
    rcases ihc hc.1 hc' with hl | hl
    · rw [eval, hl, Option.bind_some, if_pos rfl]
      exact ihd hc.2 hd'
    · exact .inr (by rw [eval, hl, Option.bind_none])
  | or c d ihc ihd =>
    obtain ⟨b, hb, h⟩ := Option.bind_eq_some_iff.mp h
    cases hl : eval holds env' c with
    | none => exact .inr (by rw [eval, hl, Option.bind_none])
    | some b' =>
      rw [eval, hl, Option.bind_some]
      cases b' with
      | true => exact .inl rfl
      | false =>
        -- the left side was not true before
        have hbf : b = false := by
          by_contra hb'
          have := ihc hc.1 (hb.trans (by simpa using hb'))
          rw [hl] at this
          simp at this
        rw [hbf] at h
        exact ihd hc.2 h

/-! ## The checker -/

/-- What a check finds out: the value, if it is always the same, and places that are full when the
condition holds. -/
structure Verdict (V : Type*) where
  value : Option Bool
  full : List V

def Verdict.and (r r' : Verdict V) : Verdict V where
  value := match r.value, r'.value with
    | some true, value => value
    | _, some false => some false
    | _, _ => none
  full := r.full ++ r'.full

def Verdict.or [DecidableEq V] (r r' : Verdict V) : Verdict V :=
  match r.value, r'.value with
  | some false, _ => r'
  | _, some false => r
  | _, some true => ⟨some true, []⟩
  | _, _ => ⟨none, r.full.filter (· ∈ r'.full)⟩

/-- The checker, with the places that are full for sure. It does not look at a right side that is
never evaluated. -/
def check [DecidableEq V] (sig : Sig V θ) : List V → Cond V θ → Option (Verdict V)
  | _, .lit b => some ⟨some b, []⟩
  | caps, .has v =>
    if sig.declared v then
      if v ∈ caps ∨ sig.required v = true ∧ sig.known v = true then some ⟨some true, []⟩
      else some ⟨none, [v]⟩
    else some ⟨some false, []⟩
  | caps, .test v t =>
    if (v ∈ caps ∨ sig.required v = true) ∧ sig.fits v t = true then some ⟨none, []⟩ else none
  | caps, .not c => (check sig caps c).map fun r => ⟨r.value.map not, []⟩
  | caps, .and c d => (check sig caps c).bind fun r =>
      if r.value = some false then some r else (check sig (r.full ++ caps) d).map r.and
  | caps, .or c d => (check sig caps c).bind fun r =>
      if r.value = some true then some r else (check sig caps d).map r.or

/-- The verdict is right about the value `b`. -/
structure Holds (env : V → Option ν) (r : Verdict V) (b : Bool) : Prop where
  value : ∀ b', r.value = some b' → b = b'
  full : b = true → ∀ v ∈ r.full, (env v).isSome = true

/-! ## Verdicts -/

variable {env : V → Option ν} {r r' : Verdict V} {b b' : Bool}

theorem Holds.not (h : Holds env r b) : Holds env ⟨r.value.map Bool.not, []⟩ (!b) := by
  refine ⟨fun b' hb' => ?_, fun _ v hv => absurd hv List.not_mem_nil⟩
  obtain ⟨x, hx, rfl⟩ := Option.map_eq_some_iff.mp hb'
  rw [h.value x hx]

/-- The right side is evaluated. -/
theorem Holds.and (h : Holds env r true) (h' : Holds env r' b') : Holds env (r.and r') b' := by
  refine ⟨fun x hx => ?_, fun hb' v hv => ?_⟩
  · have hr : r.value ≠ some false := fun hf => absurd (h.value false hf) (by decide)
    refine h'.value x ?_
    unfold Verdict.and at hx
    split at hx
    · exact hx
    · next hv _ => rw [hv, ← hx]
    · cases hx
  · rcases List.mem_append.mp hv with hv | hv
    · exact h.full rfl v hv
    · exact h'.full hb' v hv

/-- The right side is not evaluated. -/
theorem Holds.and_false (h : Holds env r false) (r' : Verdict V) : Holds env (r.and r') false := by
  refine ⟨fun x hx => ?_, nofun⟩
  have hr : r.value ≠ some true := fun ht => absurd (h.value true ht) (by decide)
  unfold Verdict.and at hx
  split at hx
  · next hv => exact absurd hv hr
  · exact Option.some.inj hx
  · cases hx

variable [DecidableEq V]

/-- The right side is evaluated. -/
theorem Holds.or (h : Holds env r false) (h' : Holds env r' b') : Holds env (r.or r') b' := by
  have hr : r.value ≠ some true := fun ht => absurd (h.value true ht) (by decide)
  unfold Verdict.or
  split
  · exact h'
  · next hv _ =>
    have hb' : b' = false := h'.value false hv
    exact ⟨fun x hx => hb'.trans (h.value x hx), fun ht => absurd (hb'.symm.trans ht) (by decide)⟩
  · next hv _ =>
    exact ⟨fun x hx => (h'.value true hv).trans (Option.some.inj hx),
      fun _ v hv => absurd hv List.not_mem_nil⟩
  · refine ⟨nofun, fun ht v hv => h'.full ht v ?_⟩
    simpa using (List.mem_filter.mp hv).2

/-- The right side is not evaluated. -/
theorem Holds.or_true (h : Holds env r true) (r' : Verdict V) : Holds env (r.or r') true := by
  have hr : r.value ≠ some false := fun hf => absurd (h.value false hf) (by decide)
  unfold Verdict.or
  split
  · next hv => exact absurd hv hr
  · exact h
  · exact ⟨fun x hx => Option.some.inj hx, fun _ v hv => absurd hv List.not_mem_nil⟩
  · exact ⟨nofun, fun _ v hv => h.full rfl v (List.mem_filter.mp hv).1⟩

/-! ## Checked conditions -/

/-- **Guards work.** A checked condition has a value that its verdict is right about, or it tests a
required place that is empty. -/
theorem eval_of_check {holds : θ → ν → Option Bool} {sig : Sig V θ} (henv : Models holds sig env)
    {c : Cond V θ} {caps : List V} {r : Verdict V} (h : check sig caps c = some r)
    (hcaps : ∀ v ∈ caps, (env v).isSome = true) :
    (∃ b, eval holds env c = some b ∧ Holds env r b) ∨
      eval holds env c = none ∧ Missing sig env c := by
  induction c generalizing caps r with
  | lit b =>
    cases h
    exact .inl ⟨b, rfl, fun x hx => Option.some.inj hx, fun _ v hv => absurd hv List.not_mem_nil⟩
  | has v =>
    refine .inl ⟨_, rfl, ?_⟩
    rw [check] at h
    split_ifs at h with hd hfull
    · have hv : (env v).isSome = true := hfull.elim (hcaps v) fun hreq => henv.full v hreq.1 hreq.2
      cases h
      exact ⟨fun x hx => hv.trans (Option.some.inj hx), fun _ w hw => absurd hw List.not_mem_nil⟩
    · cases h
      exact ⟨nofun, fun hv w hw => (List.mem_singleton.mp hw) ▸ hv⟩
    · -- no environment has an undeclared place
      have hv : env v = none := by
        cases hx : env v with
        | none => rfl
        | some x => exact absurd (henv.declared v x hx) hd
      cases h
      rw [hv]
      exact ⟨fun x hx => Option.some.inj hx, nofun⟩
  | test v t =>
    rw [check] at h
    split_ifs at h with hc
    cases h
    cases hx : env v with
    | none =>
      have hreq : sig.required v = true := hc.1.resolve_left fun hv => by
        have := hcaps v hv
        rw [hx] at this
        cases this
      have hknown : sig.known v = false := by
        by_contra hk
        have := henv.full v hreq (by simpa using hk)
        rw [hx] at this
        cases this
      refine .inr ⟨by rw [eval, hx]; rfl, v, List.mem_singleton_self v, hreq, hknown, hx⟩
    | some x =>
      obtain ⟨b, hb⟩ := Option.isSome_iff_exists.mp (henv.fits v x t hx hc.2)
      exact .inl ⟨b, by rw [eval, hx]; exact hb, nofun, fun _ w hw => absurd hw List.not_mem_nil⟩
  | not c ih =>
    obtain ⟨r, hr, rfl⟩ := Option.map_eq_some_iff.mp h
    rcases ih hr hcaps with ⟨b, hb, hholds⟩ | ⟨hnone, hmiss⟩
    · exact .inl ⟨!b, by rw [eval, hb]; rfl, hholds.not⟩
    · exact .inr ⟨by rw [eval, hnone]; rfl, hmiss⟩
  | and c d ihc ihd =>
    obtain ⟨rc, hrc, h⟩ := Option.bind_eq_some_iff.mp h
    rcases ihc hrc hcaps with ⟨b, hb, hholds⟩ | ⟨hnone, hmiss⟩
    · split_ifs at h with hv
      · cases h
        obtain rfl := hholds.value false hv
        exact .inl ⟨false, by rw [eval, hb]; rfl, hholds⟩
      · obtain ⟨rd, hrd, rfl⟩ := Option.map_eq_some_iff.mp h
        cases b with
        | false => exact .inl ⟨false, by rw [eval, hb]; rfl, hholds.and_false rd⟩
        | true =>
          have hcaps' : ∀ v ∈ rc.full ++ caps, (env v).isSome = true := fun v hv =>
            (List.mem_append.mp hv).elim (hholds.full rfl v) (hcaps v)
          rcases ihd hrd hcaps' with ⟨b', hb', hholds'⟩ | ⟨hnone, hmiss⟩
          · exact .inl ⟨b', by rw [eval, hb]; exact hb', hholds.and hholds'⟩
          · exact .inr ⟨by rw [eval, hb]; exact hnone, hmiss.right rfl⟩
    · exact .inr ⟨by rw [eval, hnone]; rfl, hmiss.left rfl⟩
  | or c d ihc ihd =>
    obtain ⟨rc, hrc, h⟩ := Option.bind_eq_some_iff.mp h
    rcases ihc hrc hcaps with ⟨b, hb, hholds⟩ | ⟨hnone, hmiss⟩
    · split_ifs at h with hv
      · cases h
        obtain rfl := hholds.value true hv
        exact .inl ⟨true, by rw [eval, hb]; rfl, hholds⟩
      · obtain ⟨rd, hrd, rfl⟩ := Option.map_eq_some_iff.mp h
        cases b with
        | true => exact .inl ⟨true, by rw [eval, hb]; rfl, hholds.or_true rd⟩
        | false =>
          rcases ihd hrd hcaps with ⟨b', hb', hholds'⟩ | ⟨hnone, hmiss⟩
          · exact .inl ⟨b', by rw [eval, hb]; exact hb', hholds.or hholds'⟩
          · exact .inr ⟨by rw [eval, hb]; exact hnone, hmiss.right rfl⟩
    · exact .inr ⟨by rw [eval, hnone]; rfl, hmiss.left rfl⟩

end Guard
