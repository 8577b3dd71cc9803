import DriverModules.Lib.Ledger
import DriverModules.Lib.Transition

/-!
# Components that are loaded and unloaded

A component with an initialisation, whose requests may be refused, and an exit. It is loaded and
unloaded any number of times. `Clean` says what is expected of it at any moment, and
`throughout_clean_iff` reduces a statement about all its runs to facts about one initialisation and
one exit, from an empty ledger: a run is clean exactly when every load and every unload in it is one
of the good ones.
-/

open Transition

/-- How an initialisation ends: with the variables it set up, with an error, or not at all. -/
inductive InitEnd (σ : Type*)
  | ok (vars : σ)
  | error
  | oops
  deriving DecidableEq, Repr

/-- A component: its initialisation under the answers `ι` to its requests, and its exit. -/
structure Loadable (ι σ ρ : Type*) where
  init : ι → Ledger ρ → InitEnd σ × Ledger ρ
  exit : σ → Ledger ρ → Ledger ρ

inductive LoadEvent (ι : Type*)
  | load (answers : ι)
  | unload
  deriving DecidableEq, Repr

/-- Where a component is; it is stuck when its initialisation did not end. -/
inductive Place (σ : Type*)
  | out
  | loaded (vars : σ)
  | stuck
  deriving DecidableEq, Repr

/-- An initialisation that was run: whether a request of it was refused, whether it returned an
error, and what was held afterwards. -/
structure InitReport (ρ : Type*) where
  refused : Bool
  error : Bool
  held : Finset ρ
  deriving DecidableEq

structure LoadState (σ ρ : Type*) where
  place : Place σ
  ledger : Ledger ρ
  inits : List (InitReport ρ)

namespace Loadable

variable {ι σ ρ : Type*} (m : Loadable ι σ ρ)

/-- The component not loaded yet. -/
def start : LoadState σ ρ := ⟨.out, .empty, []⟩

/-- The state after an initialisation. -/
def afterInit (inits : List (InitReport ρ)) (r : InitEnd σ × Ledger ρ) : LoadState σ ρ :=
  match r.1 with
  | .ok vars => ⟨.loaded vars, r.2, inits ++ [⟨r.2.refused, false, r.2.held⟩]⟩
  | .error => ⟨.out, r.2, inits ++ [⟨r.2.refused, true, r.2.held⟩]⟩
  | .oops => ⟨.stuck, r.2, inits ++ [⟨r.2.refused, false, r.2.held⟩]⟩

/-- An attempt to load or unload. Loading what is loaded and unloading what is not is refused by the
system without asking the component. -/
def step (s : LoadState σ ρ) : LoadEvent ι → Option (LoadState σ ρ)
  | .load a =>
    match s.place with
    | .out => some (afterInit s.inits (m.init a { s.ledger with refused := false }))
    | _ => some s
  | .unload =>
    match s.place with
    | .loaded vars => some { s with place := .out, ledger := m.exit vars s.ledger }
    | _ => some s

end Loadable

/-- An initialisation that was refused something returned an error and left nothing held. -/
def InitReport.Undone {ρ : Type*} (r : InitReport ρ) : Prop :=
  r.refused = true → r.error = true ∧ r.held = ∅

/-- What is expected of a component at any moment: every initialisation ended, and one that was
refused something was undone; nothing is held while it is not loaded; nothing was given back or
touched that was not held. -/
structure LoadState.Clean {σ ρ : Type*} (s : LoadState σ ρ) : Prop where
  ended : s.place ≠ .stuck
  inits : ∀ r ∈ s.inits, r.Undone
  out : s.place = .out → s.ledger.held = ∅
  faulted : s.ledger.faulted = false

/-- Whoever is clean and not loaded starts from an empty ledger. -/
theorem LoadState.Clean.ledger_eq {σ ρ : Type*} {s : LoadState σ ρ} (h : s.Clean)
    (hout : s.place = .out) : { s.ledger with refused := false } = Ledger.empty := by
  show (⟨s.ledger.held, s.ledger.faulted, false⟩ : Ledger ρ) = ⟨∅, false, false⟩
  rw [h.out hout, h.faulted]

/-- The same of one initialisation. -/
def CleanInit {σ ρ : Type*} (r : InitEnd σ × Ledger ρ) : Prop :=
  match r.1 with
  | .ok _ => r.2.refused = false ∧ r.2.faulted = false
  | .error => r.2.held = ∅ ∧ r.2.faulted = false
  | .oops => False

namespace Loadable

variable {ι σ ρ : Type*} {m : Loadable ι σ ρ} {s s' : LoadState σ ρ}

/-- What there is to know about a component: a load of it is clean exactly under the answers `fine`,
it holds what `Holds` says then, and its exit is clean after that exactly if `exitFine`. -/
structure Handling (m : Loadable ι σ ρ) (fine : ι → Prop) (exitFine : Prop) where
  Holds : σ → Finset ρ → Prop
  fine_iff : ∀ a, CleanInit (m.init a .empty) ↔ fine a
  holds : ∀ a vars l, fine a → m.init a .empty = (.ok vars, l) → Holds vars l.held
  exit_iff : ∀ vars l, Holds vars l.held → l.faulted = false →
    ((m.exit vars l).held = ∅ ∧ (m.exit vars l).faulted = false ↔ exitFine)

/-- A load that is run has answers that are `fine`, and an exit is run only if exits are. -/
def GoodAttempt (fine : ι → Prop) (exitFine : Prop) (s : LoadState σ ρ) : LoadEvent ι → Prop
  | .load a => s.place = .out → fine a
  | .unload => ∀ vars, s.place = .loaded vars → exitFine

variable {fine : ι → Prop} {exitFine : Prop}

/-- A clean state, and what the loaded component holds in it. -/
structure Handling.Inv (H : m.Handling fine exitFine) (s : LoadState σ ρ) : Prop where
  clean : s.Clean
  holds : ∀ vars, s.place = .loaded vars → H.Holds vars s.ledger.held

/-- An initialisation leaves a clean state exactly when it was clean. -/
theorem clean_afterInit {inits : List (InitReport ρ)} (hinits : ∀ r ∈ inits, r.Undone)
    (r : InitEnd σ × Ledger ρ) : (afterInit inits r).Clean ↔ CleanInit r := by
  obtain ⟨_ | _ | _, l⟩ := r
  · constructor
    · intro h
      have hundone := h.inits _ (List.mem_append_right _ (List.mem_singleton_self _))
      refine ⟨?_, h.faulted⟩
      by_contra href
      exact Bool.false_ne_true (hundone (Bool.eq_true_of_not_eq_false href)).1
    · rintro ⟨href, hfault⟩
      refine ⟨by simp [afterInit], fun r hr ↦ ?_, by simp [afterInit], hfault⟩
      rcases List.mem_append.1 hr with hr | hr
      · exact hinits r hr
      · rw [List.mem_singleton.1 hr]
        exact fun htrue ↦ absurd (href.symm.trans htrue) Bool.false_ne_true
  · constructor
    · exact fun h ↦ ⟨h.out rfl, h.faulted⟩
    · rintro ⟨hheld, hfault⟩
      refine ⟨by simp [afterInit], fun r hr ↦ ?_, fun _ ↦ hheld, hfault⟩
      rcases List.mem_append.1 hr with hr | hr
      · exact hinits r hr
      · rw [List.mem_singleton.1 hr]
        exact fun _ ↦ ⟨rfl, hheld⟩
  · exact iff_of_false (fun h ↦ h.ended rfl) id

variable (H : m.Handling fine exitFine)

theorem Handling.inv_start : H.Inv (start : LoadState σ ρ) where
  clean := ⟨by simp [start], fun _ hr ↦ absurd hr List.not_mem_nil, fun _ ↦ rfl, rfl⟩
  holds vars h := by cases h

/-- **A load from outside**: the state after it is clean exactly when the answers were fine. -/
theorem Handling.load_iff (h : H.Inv s) (hout : s.place = .out) (a : ι) :
    let s' := afterInit s.inits (m.init a { s.ledger with refused := false })
    (s'.Clean ↔ fine a) ∧ (fine a → H.Inv s') := by
  rw [h.clean.ledger_eq hout]
  have hiff := (clean_afterInit h.clean.inits (m.init a .empty)).trans (H.fine_iff a)
  refine ⟨hiff, fun hfine ↦ ⟨hiff.2 hfine, fun vars hvars ↦ ?_⟩⟩
  obtain ⟨e, l, hr⟩ : ∃ e l, m.init a .empty = (e, l) := ⟨_, _, rfl⟩
  rw [hr] at hvars ⊢
  rcases e with v | - | - <;> cases hvars
  exact H.holds a vars l hfine hr

/-- **An exit**: the state after it is clean exactly when exits are fine. -/
theorem Handling.unload_iff (h : H.Inv s) {vars : σ} (hvars : s.place = .loaded vars) :
    let s' : LoadState σ ρ := { s with place := .out, ledger := m.exit vars s.ledger }
    (s'.Clean ↔ exitFine) ∧ (s'.Clean → H.Inv s') := by
  refine ⟨?_, fun hclean ↦ ⟨hclean, fun _ hv ↦ by cases hv⟩⟩
  rw [← H.exit_iff vars s.ledger (h.holds vars hvars) h.clean.faulted]
  exact ⟨fun hc ↦ ⟨hc.out rfl, hc.faulted⟩, fun ⟨hheld, hfault⟩ ↦
    ⟨by simp, h.clean.inits, fun _ ↦ hheld, hfault⟩⟩

/-- One step from a state that is in order, which it keeps in order exactly when it is a good
one. -/
theorem Handling.step_iff (h : H.Inv s) {ev : LoadEvent ι} (hs : m.step s ev = some s') :
    (s'.Clean ↔ GoodAttempt fine exitFine s ev) ∧ (GoodAttempt fine exitFine s ev → H.Inv s') := by
  rcases ev with a | -
  · rcases hp : s.place with - | vars | - <;> simp only [Loadable.step, hp] at hs <;>
      obtain rfl := Option.some.inj hs
    · obtain ⟨hiff, hkeep⟩ := H.load_iff h hp a
      exact ⟨hiff.trans ⟨fun hf _ ↦ hf, fun hg ↦ hg hp⟩, fun hg ↦ hkeep (hg hp)⟩
    · refine ⟨iff_of_true h.clean fun ho ↦ ?_, fun _ ↦ h⟩
      rw [hp] at ho
      cases ho
    · exact absurd hp h.clean.ended
  · rcases hp : s.place with - | vars | - <;> simp only [Loadable.step, hp] at hs <;>
      obtain rfl := Option.some.inj hs
    · refine ⟨iff_of_true h.clean fun _ hl ↦ ?_, fun _ ↦ h⟩
      rw [hp] at hl
      cases hl
    · obtain ⟨hiff, hkeep⟩ := H.unload_iff h hp
      have hgood : GoodAttempt fine exitFine s .unload ↔ exitFine :=
        ⟨fun hg ↦ hg vars hp, fun hf _ _ ↦ hf⟩
      exact ⟨hiff.trans hgood.symm, fun hg ↦ hkeep (hiff.2 (hgood.1 hg))⟩
    · exact absurd hp h.clean.ended

theorem exists_run (s : LoadState σ ρ) (evs : List (LoadEvent ι)) :
    ∃ s', run m.step s evs = some s' := by
  induction evs generalizing s with
  | nil => exact ⟨s, rfl⟩
  | cons ev evs ih =>
    obtain ⟨s₁, hs₁⟩ : ∃ s₁, m.step s ev = some s₁ := by
      rcases ev with a | - <;> rcases hp : s.place with - | vars | - <;>
        simp only [Loadable.step, hp] <;> exact ⟨_, rfl⟩
    obtain ⟨s', hs'⟩ := ih s₁
    exact ⟨s', by rw [run_cons, hs₁]; exact hs'⟩

/-- **A component is clean throughout a run exactly when every load and unload of it is good.** -/
theorem Handling.throughout_clean_iff (H : m.Handling fine exitFine)
    (evs : List (LoadEvent ι)) :
    Throughout m.step (fun _ s ↦ s.Clean) start evs ↔
      Meets m.step (GoodAttempt fine exitFine) start evs := by
  obtain ⟨s, hs⟩ := @exists_run _ _ _ m start evs
  exact throughout_iff_meets_of_inv (I := fun _ s ↦ H.Inv s) H.inv_start (fun h ↦ h.clean)
    (fun h hstep hgood ↦ (H.step_iff h hstep).2 hgood)
    (fun h hstep hclean ↦ (H.step_iff h hstep).1.1 hclean) hs

end Loadable
