/-
  Runs of a labelled transition system given by a partial step function.

  `run step s es` performs the events `es` in order from `s`; it is `none` as soon
  as one of them is not enabled. A run's every prefix is a run (`run_append`), so a
  fact about the last state of every run is a fact about every reachable state.
  `Meets step cond s es` says that every step of the run meets `cond`, a condition on
  the state before the step and its event. `run_invariant` is the induction: an
  invariant kept by each step that meets the condition holds at the end of the run.
  `Reaches step cond s t` is for operations that are several steps: a run from `s` to `t`.
  `forall_reached_iff_meets` is for a condition that is exact: a property holds in every
  state that a run reaches if and only if every step of the run meets the condition.
  `exists_first_not_meets` finds the first step that does not.
-/
import Mathlib.Logic.Basic

namespace TelemetryAgent.Lib

universe u v
variable {σ : Type u} {ε : Type v}

/-- The state after the events `es`, if each of them is enabled when its turn comes. -/
def run (step : σ → ε → Option σ) : σ → List ε → Option σ
  | s, [] => some s
  | s, e :: es => (step s e).bind fun s' => run step s' es

/-- Every step of the run meets `cond`. -/
def Meets (step : σ → ε → Option σ) (cond : σ → ε → Prop) : σ → List ε → Prop
  | _, [] => True
  | s, e :: es => cond s e ∧ ∀ s', step s e = some s' → Meets step cond s' es

@[simp] theorem run_nil (step : σ → ε → Option σ) (s : σ) : run step s [] = some s := rfl

theorem run_cons (step : σ → ε → Option σ) (s : σ) (e : ε) (es : List ε) :
    run step s (e :: es) = (step s e).bind fun s' => run step s' es := rfl

theorem run_cons_eq_some {step : σ → ε → Option σ} {s t : σ} {e : ε} {es : List ε} :
    run step s (e :: es) = some t ↔ ∃ s', step s e = some s' ∧ run step s' es = some t := by
  rw [run_cons, Option.bind_eq_some_iff]

theorem run_append (step : σ → ε → Option σ) (s : σ) (es fs : List ε) :
    run step s (es ++ fs) = (run step s es).bind fun s' => run step s' fs := by
  induction es generalizing s with
  | nil => rfl
  | cons e es ih =>
    rw [List.cons_append, run_cons, run_cons, Option.bind_assoc]
    exact congrArg _ (funext fun s' => ih s')

theorem run_append_eq_some {step : σ → ε → Option σ} {s t : σ} {es fs : List ε} :
    run step s (es ++ fs) = some t ↔
      ∃ s', run step s es = some s' ∧ run step s' fs = some t := by
  rw [run_append, Option.bind_eq_some_iff]

@[simp] theorem meets_nil (step : σ → ε → Option σ) (cond : σ → ε → Prop) (s : σ) :
    Meets step cond s [] := trivial

theorem meets_true (step : σ → ε → Option σ) (s : σ) (es : List ε) :
    Meets step (fun _ _ => True) s es := by
  induction es generalizing s with
  | nil => trivial
  | cons e es ih => exact ⟨trivial, fun s' _ => ih s'⟩

theorem meets_of_forall {step : σ → ε → Option σ} {cond : ε → Prop} {es : List ε}
    (h : ∀ e ∈ es, cond e) (s : σ) : Meets step (fun _ => cond) s es := by
  induction es generalizing s with
  | nil => trivial
  | cons e es ih =>
    exact ⟨h e List.mem_cons_self, fun s' _ => ih (fun d hd => h d (List.mem_cons_of_mem e hd)) s'⟩

theorem meets_cons_of_step {step : σ → ε → Option σ} {cond : σ → ε → Prop} {s s' : σ} {e : ε}
    {es : List ε} (hs : step s e = some s') :
    Meets step cond s (e :: es) ↔ cond s e ∧ Meets step cond s' es := by
  constructor
  · rintro ⟨hc, h⟩
    exact ⟨hc, h s' hs⟩
  · rintro ⟨hc, h⟩
    refine ⟨hc, fun t ht => ?_⟩
    rw [hs, Option.some.injEq] at ht
    exact ht ▸ h

/-- A condition that can be evaluated can be evaluated along a run. -/
instance decidableMeets (step : σ → ε → Option σ) (cond : σ → ε → Prop)
    [∀ s e, Decidable (cond s e)] : ∀ s es, Decidable (Meets step cond s es)
  | _, [] => .isTrue trivial
  | s, e :: es =>
    match hs : step s e with
    | none => decidable_of_iff (cond s e) ⟨fun h => ⟨h, fun s' hs' => by simp [hs] at hs'⟩, And.left⟩
    | some s' =>
      have := decidableMeets step cond s' es
      decidable_of_iff (cond s e ∧ Meets step cond s' es) (meets_cons_of_step hs).symm

/-- An invariant kept by every step that meets the condition holds after every run
    whose steps all meet it. -/
theorem run_invariant {step : σ → ε → Option σ} {cond : σ → ε → Prop} {Inv : σ → Prop}
    (hstep : ∀ s e s', Inv s → cond s e → step s e = some s' → Inv s') {es : List ε} {s t : σ}
    (hs : Inv s) (hc : Meets step cond s es) (hr : run step s es = some t) : Inv t := by
  induction es generalizing s with
  | nil =>
    rw [run_nil, Option.some.injEq] at hr
    exact hr ▸ hs
  | cons e es ih =>
    obtain ⟨s', he, hr'⟩ := run_cons_eq_some.mp hr
    exact ih (hstep s e s' hs hc.1 he) (hc.2 s' he) hr'

/-- `run_invariant` for an invariant that every step keeps. -/
theorem run_invariant_of_step {step : σ → ε → Option σ} {Inv : σ → Prop}
    (hstep : ∀ s e s', Inv s → step s e = some s' → Inv s') {es : List ε} {s t : σ}
    (hs : Inv s) (hr : run step s es = some t) : Inv t :=
  run_invariant (fun s e s' hs _ he => hstep s e s' hs he) hs (meets_true step s es) hr

theorem meets_append {step : σ → ε → Option σ} {cond : σ → ε → Prop} {s : σ} {es fs : List ε} :
    Meets step cond s (es ++ fs) ↔
      Meets step cond s es ∧ ∀ s', run step s es = some s' → Meets step cond s' fs := by
  induction es generalizing s with
  | nil =>
    constructor
    · intro h
      exact ⟨trivial, fun s' hs => Option.some.inj hs ▸ h⟩
    · intro h
      exact h.2 s rfl
  | cons e es ih =>
    constructor
    · intro hboth
      obtain ⟨hc, h⟩ := hboth
      refine ⟨⟨hc, fun s' hs => (ih.mp (h s' hs)).1⟩, fun t ht => ?_⟩
      obtain ⟨s', hs, hr⟩ := run_cons_eq_some.mp ht
      exact (ih.mp (h s' hs)).2 t hr
    · intro hboth
      obtain ⟨⟨hc, h⟩, ht⟩ := hboth
      refine ⟨hc, fun s' hs => ih.mpr ⟨h s' hs, fun t hr => ht t ?_⟩⟩
      exact run_cons_eq_some.mpr ⟨s', hs, hr⟩

/-- `t` is reached from `s` by a run whose steps all meet the condition. -/
def Reaches (step : σ → ε → Option σ) (cond : σ → ε → Prop) (s t : σ) : Prop :=
  ∃ es, Meets step cond s es ∧ run step s es = some t

section Reaches

variable {step : σ → ε → Option σ} {cond : σ → ε → Prop} {s t u : σ}

theorem Reaches.refl (s : σ) : Reaches step cond s s := ⟨[], trivial, rfl⟩

theorem Reaches.of_step {e : ε} (hc : cond s e) (hs : step s e = some t) :
    Reaches step cond s t := by
  refine ⟨[e], ⟨hc, fun _ _ => trivial⟩, ?_⟩
  rw [run_cons, hs]
  rfl

theorem Reaches.trans (h : Reaches step cond s t) (h' : Reaches step cond t u) :
    Reaches step cond s u := by
  obtain ⟨es, hm, hr⟩ := h
  obtain ⟨fs, hm', hr'⟩ := h'
  refine ⟨es ++ fs, meets_append.mpr ⟨hm, fun s' hs => ?_⟩, run_append_eq_some.mpr ⟨t, hr, hr'⟩⟩
  rw [hr, Option.some.injEq] at hs
  exact hs ▸ hm'

theorem Reaches.invariant {Inv : σ → Prop}
    (hstep : ∀ s e s', Inv s → cond s e → step s e = some s' → Inv s')
    (h : Reaches step cond s t) (hs : Inv s) : Inv t := by
  obtain ⟨es, hm, hr⟩ := h
  exact run_invariant hstep hs hm hr

end Reaches

/-- Under an invariant that one condition keeps, it may imply another one. -/
theorem Meets.imp {step : σ → ε → Option σ} {cond cond' : σ → ε → Prop} {Inv : σ → Prop}
    (hstep : ∀ s e s', Inv s → cond s e → step s e = some s' → Inv s')
    (himp : ∀ s e, Inv s → cond s e → cond' s e) {s : σ} {es : List ε} (hs : Inv s)
    (h : Meets step cond s es) : Meets step cond' s es := by
  induction es generalizing s with
  | nil => trivial
  | cons e es ih =>
    exact ⟨himp s e hs h.1, fun s' he => ih (hstep s e s' hs h.1 he) (h.2 s' he)⟩

theorem Reaches.imp {step : σ → ε → Option σ} {cond cond' : σ → ε → Prop} {s t : σ}
    (himp : ∀ s e, cond s e → cond' s e) (h : Reaches step cond s t) : Reaches step cond' s t := by
  obtain ⟨es, hm, hr⟩ := h
  exact ⟨es, Meets.imp (fun _ _ _ _ _ _ => trivial) (fun s e _ hc => himp s e hc) trivial hm, hr⟩

/-- A run whose steps do not all meet the condition has a first step that does not. -/
theorem exists_first_not_meets {step : σ → ε → Option σ} {cond : σ → ε → Prop} {s : σ}
    {es : List ε} (h : ¬ Meets step cond s es) :
    ∃ pre e suf t, es = pre ++ e :: suf ∧ Meets step cond s pre ∧ run step s pre = some t ∧
      ¬ cond t e := by
  induction es generalizing s with
  | nil => exact absurd trivial h
  | cons e es ih =>
    by_cases hc : cond s e
    · have hnext : ¬ ∀ s', step s e = some s' → Meets step cond s' es := fun hm => h ⟨hc, hm⟩
      rw [Classical.not_forall] at hnext
      obtain ⟨s', hnext⟩ := hnext
      obtain ⟨hs', hm⟩ := Classical.not_imp.mp hnext
      obtain ⟨pre, d, suf, t, rfl, hpre, ht, hd⟩ := ih hm
      refine ⟨e :: pre, d, suf, t, rfl, (meets_cons_of_step hs').mpr ⟨hc, hpre⟩, ?_, hd⟩
      exact run_cons_eq_some.mpr ⟨s', hs', ht⟩
    · exact ⟨[], e, es, s, rfl, trivial, rfl, hc⟩

/-- `Inv` is what the steps that meet the condition keep, and `P` is the part of it that is
    lost by any step that does not. -/
theorem forall_reached_iff_meets {step : σ → ε → Option σ} {cond : σ → ε → Prop}
    {Inv P : σ → Prop} (hP : ∀ s, Inv s → P s)
    (hstep : ∀ s e s', Inv s → cond s e → step s e = some s' → Inv s')
    (hback : ∀ s e s', Inv s → step s e = some s' → P s' → cond s e)
    (hstuck : ∀ s e, Inv s → step s e = none → cond s e) {s : σ} (hs : Inv s) (es : List ε) :
    (∀ pre suf t, es = pre ++ suf → run step s pre = some t → P t) ↔
      Meets step cond s es := by
  constructor
  · intro h
    induction es generalizing s with
    | nil => trivial
    | cons e es ih =>
      cases he : step s e with
      | none =>
        refine ⟨hstuck s e hs he, fun s' hs' => ?_⟩
        rw [he] at hs'
        exact absurd hs' (Option.some_ne_none s').symm
      | some s₁ =>
        rw [meets_cons_of_step he]
        have hc : cond s e := by
          apply hback s e s₁ hs he
          apply h [e] es s₁ rfl
          rw [run_cons, he]
          rfl
        refine ⟨hc, ih (hstep s e s₁ hs hc he) fun pre suf t hes ht => ?_⟩
        apply h (e :: pre) suf t (by rw [hes]; rfl)
        rw [run_cons, he]
        exact ht
  · intro h pre suf t hes ht
    rw [hes] at h
    exact hP t (run_invariant hstep hs (meets_append.mp h).1 ht)

end TelemetryAgent.Lib
