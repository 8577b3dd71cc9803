import Mathlib.Logic.Basic
import Mathlib.Data.List.Induction

/-!
# Runs of a transition system

The systems of this development are given by a partial step function `step : σ → α → Option σ`: from
a state and an event, the next state, or `none` when the event is not possible there. The event
carries every choice the environment makes (which thread moves, what an allocation answers), so a
run is a list of events and can be evaluated.

Two readings of a run are used, and `reaches_iff_exists_run` says they agree:

* `Reaches step C s₀ s`, the inductive one: `s` is reached from `s₀` by steps that all meet the
  guard `C`. An invariant is proved over it with `Reaches.invariant`, one goal for a step.
* `run step s₀ as`, the computed one: a concrete schedule, for counterexamples and for statements
  that speak about the events of a run.

The guard is what lets one system carry both the plain safety statements (`Reachable`, the guard is
`True`) and the statements that hold only of the runs in which no step takes a faulty branch.
-/

namespace Transition

variable {σ α : Type*} (step : σ → α → Option σ)

/-- The states reached from `s₀` by steps that all meet the guard `C`. -/
inductive Reaches (C : σ → α → Prop) (s₀ : σ) : σ → Prop
  /-- The start is reached. -/
  | refl : Reaches C s₀ s₀
  /-- One more step, taken under the guard. -/
  | tail {s s' : σ} {a : α} : Reaches C s₀ s → C s a → step s a = some s' → Reaches C s₀ s'

/-- The states reached from `s₀` by any steps at all. -/
abbrev Reachable (s₀ : σ) : σ → Prop :=
  Reaches step (fun _ _ ↦ True) s₀

variable {step} {C : σ → α → Prop} {s₀ s s' : σ} {P : σ → Prop}

/-- **The invariant rule.** What holds at the start and is kept by every guarded step holds of every
state reached. The step is given the reachability of its source, so earlier invariants may be used
for later ones. -/
theorem Reaches.invariant (h₀ : P s₀)
    (hstep : ∀ {s s' a}, Reaches step C s₀ s → P s → C s a → step s a = some s' → P s')
    (h : Reaches step C s₀ s) : P s := by
  induction h with
  | refl => exact h₀
  | tail hr hc hs ih => exact hstep hr ih hc hs

/-- A weaker guard lets more through. -/
theorem Reaches.mono {D : σ → α → Prop} (hCD : ∀ {s a}, C s a → D s a)
    (h : Reaches step C s₀ s) : Reaches step D s₀ s := by
  induction h with
  | refl => exact .refl
  | tail _ hc hs ih => exact ih.tail (hCD hc) hs

/-- A part of a system, each step of which is a guarded step of the part or leaves it as it is, is
where the part alone could be. -/
theorem Reaches.project {τ β : Type*} {step' : τ → β → Option τ} {C' : τ → β → Prop} (f : σ → τ)
    (hf : ∀ {s s' a}, C s a → step s a = some s' →
      f s' = f s ∨ ∃ b, C' (f s) b ∧ step' (f s) b = some (f s'))
    (h : Reaches step C s₀ s) : Reaches step' C' (f s₀) (f s) := by
  induction h with
  | refl => exact .refl
  | tail _ hc hs ih =>
    rcases hf hc hs with heq | ⟨b, hb, hstep⟩
    · rw [heq]
      exact ih
    · exact ih.tail hb hstep

/-! ### Runs as lists of events -/

variable (step) in
/-- The state after the events `as`, when all of them were possible. -/
def run : σ → List α → Option σ
  | s, [] => some s
  | s, a :: as => (step s a).bind fun s' ↦ run s' as

variable (step C) in
/-- Every step of the run of `as` from `s` meets `C`. -/
def Meets : σ → List α → Prop
  | _, [] => True
  | s, a :: as => C s a ∧ ∀ s', step s a = some s' → Meets s' as

@[simp] theorem run_nil : run step s [] = some s := rfl

@[simp] theorem run_cons (a : α) (as : List α) :
    run step s (a :: as) = (step s a).bind fun s' ↦ run step s' as := rfl

@[simp] theorem meets_nil : Meets step C s [] := trivial

/-- A condition that every step meets. -/
theorem meets_of_forall (h : ∀ s a, C s a) (as : List α) : Meets step C s as := by
  induction as generalizing s with
  | nil => exact trivial
  | cons a as ih => exact ⟨h s a, fun _ _ ↦ ih⟩

/-- Two step functions that agree where the invariant of one holds have the same runs from there. -/
theorem run_congr_of_inv {step' : σ → α → Option σ} {I : σ → Prop} (h₀ : I s)
    (heq : ∀ {s a}, I s → step s a = step' s a)
    (hkeep : ∀ {s a s'}, I s → step s a = some s' → I s') (as : List α) :
    run step s as = run step' s as := by
  induction as generalizing s with
  | nil => rfl
  | cons a as ih =>
    rw [run_cons, run_cons, ← heq h₀]
    rcases hs : step s a with - | s'
    · rfl
    · exact ih (hkeep h₀ hs)

theorem run_append (as bs : List α) :
    run step s (as ++ bs) = (run step s as).bind fun s' ↦ run step s' bs := by
  induction as generalizing s with
  | nil => rfl
  | cons a as ih =>
    rw [List.cons_append, run_cons, run_cons]
    rcases step s a with - | s₁
    · rfl
    · exact ih

theorem run_concat {as : List α} {a : α} (h : run step s₀ (as ++ [a]) = some s') :
    ∃ s, run step s₀ as = some s ∧ step s a = some s' := by
  rw [run_append] at h
  obtain ⟨s, hs, hs'⟩ := Option.bind_eq_some_iff.1 h
  refine ⟨s, hs, ?_⟩
  simpa using hs'

theorem meets_append {as bs : List α} (hrun : run step s as = some s') :
    Meets step C s (as ++ bs) ↔ Meets step C s as ∧ Meets step C s' bs := by
  induction as generalizing s with
  | nil =>
    obtain rfl : s = s' := by simpa using hrun
    simp
  | cons a as ih =>
    rw [run_cons] at hrun
    obtain ⟨s₁, hs₁, hrest⟩ := Option.bind_eq_some_iff.1 hrun
    simp only [List.cons_append, Meets, hs₁, Option.some.injEq, forall_eq', ih hrest]
    exact and_assoc.symm

/-- **The two readings agree.** -/
theorem reaches_iff_exists_run :
    Reaches step C s₀ s ↔ ∃ as, run step s₀ as = some s ∧ Meets step C s₀ as := by
  constructor
  · intro h
    induction h with
    | refl => exact ⟨[], rfl, trivial⟩
    | @tail s s' a _ hc hs ih =>
      obtain ⟨as, hrun, hmeets⟩ := ih
      refine ⟨as ++ [a], by rw [run_append, hrun]; simpa using hs, ?_⟩
      rw [meets_append hrun]
      exact ⟨hmeets, hc, fun _ _ ↦ trivial⟩
  · rintro ⟨as, hrun, hmeets⟩
    induction as using List.reverseRecOn generalizing s with
    | nil =>
      obtain rfl : s₀ = s := by simpa using hrun
      exact .refl
    | append_singleton as a ih =>
      obtain ⟨s₁, hs₁, hstep⟩ := run_concat hrun
      obtain ⟨hm, hc, -⟩ := (meets_append hs₁).1 hmeets
      exact (ih hs₁ hm).tail hc hstep

/-- Guards that say the same of every state reached say the same of every run. -/
theorem meets_congr {D : σ → α → Prop}
    (h : ∀ {s a}, Reachable step s₀ s → (C s a ↔ D s a)) (as : List α) :
    Meets step C s₀ as ↔ Meets step D s₀ as := by
  suffices hfrom : ∀ s, Reachable step s₀ s → (Meets step C s as ↔ Meets step D s as) from
    hfrom s₀ .refl
  induction as with
  | nil => exact fun _ _ ↦ Iff.rfl
  | cons a as ih =>
    intro s hs
    simp only [Meets, h hs]
    refine and_congr_right fun _ ↦ forall₂_congr fun s' hs' ↦ ?_
    exact ih s' (hs.tail trivial hs')

/-- Guards that say the same where an invariant holds, which the steps under them keep, say the same
of every run. -/
theorem meets_congr_of_inv {D : σ → α → Prop} {I : σ → Prop} (h₀ : I s₀)
    (hiff : ∀ {s a}, I s → (C s a ↔ D s a))
    (hkeep : ∀ {s a s'}, I s → D s a → step s a = some s' → I s') (as : List α) :
    Meets step C s₀ as ↔ Meets step D s₀ as := by
  induction as generalizing s₀ with
  | nil => exact Iff.rfl
  | cons a as ih =>
    simp only [Meets, hiff h₀]
    exact and_congr_right fun hD ↦ forall₂_congr fun s' hs' ↦ ih (hkeep h₀ hD hs')

/-- A schedule that can be run reaches its end. -/
theorem reachable_of_run {as : List α} (h : run step s₀ as = some s) : Reachable step s₀ s := by
  refine reaches_iff_exists_run.2 ⟨as, h, ?_⟩
  clear h
  induction as generalizing s₀ with
  | nil => trivial
  | cons a as ih => exact ⟨trivial, fun _ _ ↦ ih⟩

/-! ### What holds throughout a run -/

variable (step) in
/-- `P` holds in every state of the run of `as` from `s`; it may depend on the events so far. -/
def Throughout (P : List α → σ → Prop) (s : σ) (as : List α) : Prop :=
  ∀ bs, bs <+: as → ∀ s', run step s bs = some s' → P bs s'

/-- **The guard is exact**: where `P` holds at the start, and a step from a state with `P` keeps it
exactly when it meets `C`, `P` holds throughout a run exactly when all its steps meet `C`. -/
theorem throughout_iff_meets {P : List α → σ → Prop} {as : List α} (h₀ : P [] s₀)
    (hstep : ∀ {bs a s s'}, bs ++ [a] <+: as → run step s₀ bs = some s → P bs s →
      step s a = some s' → (P (bs ++ [a]) s' ↔ C s a))
    (hrun : run step s₀ as = some s) : Throughout step P s₀ as ↔ Meets step C s₀ as := by
  induction as using List.reverseRecOn generalizing s with
  | nil =>
    refine iff_of_true (fun bs hbs s' hs' ↦ ?_) trivial
    obtain rfl := List.prefix_nil.1 hbs
    obtain rfl := Option.some.inj hs'
    exact h₀
  | append_singleton as a ih =>
    obtain ⟨s₁, hs₁, hlast⟩ := run_concat hrun
    have ih := ih (fun hpre ↦ hstep (hpre.trans (List.prefix_append _ _))) hs₁
    rw [meets_append hs₁, ← ih]
    constructor
    · intro h
      have hfirst : Throughout step P s₀ as := fun bs hbs ↦
        h bs (hbs.trans (List.prefix_append _ _))
      have hP := hfirst as List.prefix_rfl s₁ hs₁
      exact ⟨hfirst, (hstep List.prefix_rfl hs₁ hP hlast).1 (h _ List.prefix_rfl s hrun),
        fun _ _ ↦ trivial⟩
    · rintro ⟨hfirst, hC, -⟩ bs hbs s' hs'
      rcases List.prefix_concat_iff.1 hbs with rfl | hbs
      · obtain rfl := Option.some.inj (hrun.symm.trans hs')
        exact (hstep List.prefix_rfl hs₁ (hfirst as List.prefix_rfl s₁ hs₁) hlast).2 hC
      · exact hfirst bs hbs s' hs'

/-- **The guard is exact, by way of an invariant** that says more than `P`, and that only the steps
under the guard keep. -/
theorem throughout_iff_meets_of_inv {P I : List α → σ → Prop} {as : List α} (h₀ : I [] s₀)
    (hP : ∀ {bs s}, I bs s → P bs s)
    (hkeep : ∀ {bs a s s'}, I bs s → step s a = some s' → C s a → I (bs ++ [a]) s')
    (hguard : ∀ {bs a s s'}, I bs s → step s a = some s' → P (bs ++ [a]) s' → C s a)
    (hrun : run step s₀ as = some s) : Throughout step P s₀ as ↔ Meets step C s₀ as := by
  have hI : Throughout step P s₀ as ↔ Throughout step I s₀ as := by
    constructor
    · intro h bs
      induction bs using List.reverseRecOn with
      | nil =>
        intro _ s' hs'
        obtain rfl := Option.some.inj hs'
        exact h₀
      | append_singleton bs a ih =>
        intro hbs s' hs'
        obtain ⟨s₁, hs₁, hlast⟩ := run_concat hs'
        have hI₁ := ih ((List.prefix_append bs [a]).trans hbs) s₁ hs₁
        exact hkeep hI₁ hlast (hguard hI₁ hlast (h _ hbs s' hs'))
    · exact fun h bs hbs s' hs' ↦ hP (h bs hbs s' hs')
  rw [hI]
  exact throughout_iff_meets h₀
    (fun _ _ hI₁ hlast ↦ ⟨fun hI' ↦ hguard hI₁ hlast (hP hI'), hkeep hI₁ hlast⟩) hrun

/-! ### Schedules that check their guard -/

variable (step) in
/-- The state after the events `as`, when all of them were possible and passed the test `D`. -/
def runIf (D : σ → α → Bool) : σ → List α → Option σ
  | s, [] => some s
  | s, a :: as => if D s a then (step s a).bind fun s' ↦ runIf D s' as else none

theorem run_of_runIf {D : σ → α → Bool} {as : List α} (h : runIf step D s₀ as = some s) :
    run step s₀ as = some s := by
  induction as generalizing s₀ with
  | nil => exact h
  | cons a as ih =>
    obtain ⟨s₁, hs₁, hrest⟩ := Option.bind_eq_some_iff.1 (Option.ite_none_right_eq_some.1 h).2
    rw [run_cons, hs₁]
    exact ih hrest

/-- A schedule that passes the test meets the guard. -/
theorem meets_of_runIf {D : σ → α → Bool} (hD : ∀ s a, D s a = true → C s a) {as : List α}
    (h : runIf step D s₀ as = some s) : Meets step C s₀ as := by
  induction as generalizing s₀ with
  | nil => trivial
  | cons a as ih =>
    obtain ⟨hd, hrest⟩ := Option.ite_none_right_eq_some.1 h
    obtain ⟨s₁, hs₁, hrest⟩ := Option.bind_eq_some_iff.1 hrest
    refine ⟨hD _ _ hd, fun s' hs' ↦ ?_⟩
    obtain rfl := Option.some.inj (hs₁.symm.trans hs')
    exact ih hrest

/-- **A schedule that passes a test of its guard is a guarded run.** -/
theorem reaches_of_runIf {D : σ → α → Bool} (hD : ∀ s a, D s a = true → C s a) {as : List α}
    (h : runIf step D s₀ as = some s) : Reaches step C s₀ s :=
  reaches_iff_exists_run.2 ⟨as, run_of_runIf h, meets_of_runIf hD h⟩

end Transition
