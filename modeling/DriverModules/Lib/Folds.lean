import Mathlib.Logic.Relation

/-!
# Loops that may fail

A loop over a list whose body can fail is `List.foldlM` in `Except`. Two rules speak about a loop
that did not fail: what each pass is made of (`reflTransGen_of_foldlM`), and what each pass has
achieved for its own element, when no later pass undoes it (`forall_of_foldlM`). `FailsOnly` says
what a computation can fail with.
-/

open Relation

namespace Folds

universe u v w

variable {ε : Type u} {σ : Type v} {α : Type w} {f : σ → α → Except ε σ} {s s' : σ} {l : List α}

theorem bind_eq_ok {β : Type v} {x : Except ε σ} {g : σ → Except ε β} {b : β} :
    (x >>= g) = .ok b ↔ ∃ a, x = .ok a ∧ g a = .ok b := by
  rcases x with e | a
  · constructor
    · intro h
      cases h
    · rintro ⟨a, h, -⟩
      cases h
  · constructor
    · exact fun h ↦ ⟨a, rfl, h⟩
    · rintro ⟨a', ha, h⟩
      cases ha
      exact h

theorem foldlM_cons_eq_ok {a : α} (h : (a :: l).foldlM f s = .ok s') :
    ∃ s₁, f s a = .ok s₁ ∧ l.foldlM f s₁ = .ok s' := by
  rw [List.foldlM_cons] at h
  exact bind_eq_ok.1 h

theorem foldlM_nil_eq_ok (h : ([] : List α).foldlM f s = .ok s') : s' = s := by
  rw [List.foldlM_nil] at h
  cases h
  rfl

/-- **A loop is made of what its passes are made of.** `I` says of the elements that are still to
come what their passes need; each pass keeps it for the ones after it. -/
theorem reflTransGen_of_foldlM {R : σ → σ → Prop} {I : List α → σ → Prop}
    (hf : ∀ a l s s', I (a :: l) s → f s a = .ok s' → ReflTransGen R s s' ∧ I l s')
    (hI : I l s) (h : l.foldlM f s = .ok s') : ReflTransGen R s s' := by
  induction l generalizing s with
  | nil => rw [foldlM_nil_eq_ok h]
  | cons a l ih =>
    obtain ⟨s₁, ha, hl⟩ := foldlM_cons_eq_ok h
    obtain ⟨hR, hI⟩ := hf a l s s₁ hI ha
    exact hR.trans (ih hI hl)

/-- A fact that every pass keeps holds after the loop. -/
theorem keep_of_foldlM {P : σ → Prop} (hkeep : ∀ s a s', f s a = .ok s' → P s → P s')
    (h : l.foldlM f s = .ok s') (hs : P s) : P s' := by
  induction l generalizing s with
  | nil => rwa [foldlM_nil_eq_ok h]
  | cons a l ih =>
    obtain ⟨s₁, ha, hl⟩ := foldlM_cons_eq_ok h
    exact ih hl (hkeep s a s₁ ha hs)

/-- **What every pass achieves for its element, and no pass undoes, holds of all of them.** -/
theorem forall_of_foldlM {Q : α → σ → Prop} (hself : ∀ s a s', f s a = .ok s' → Q a s')
    (hkeep : ∀ b s a s', f s a = .ok s' → Q b s → Q b s') (h : l.foldlM f s = .ok s') :
    ∀ a ∈ l, Q a s' := by
  induction l generalizing s with
  | nil => simp
  | cons a l ih =>
    obtain ⟨s₁, ha, hl⟩ := foldlM_cons_eq_ok h
    intro b hb
    rcases List.mem_cons.1 hb with rfl | hb
    · exact keep_of_foldlM (hkeep b) hl (hself s b s₁ ha)
    · exact ih hl b hb

/-! ### How a computation can fail -/

/-- Whatever `x` fails with satisfies `P`. -/
def FailsOnly (P : ε → Prop) (x : Except ε σ) : Prop :=
  ∀ e, x = .error e → P e

namespace FailsOnly

variable {P : ε → Prop} {x : Except ε σ}

theorem ok (a : σ) : FailsOnly P (.ok a : Except ε σ) := nofun

theorem error {e : ε} (h : P e) : FailsOnly P (.error e : Except ε σ) := by
  intro e' he
  cases he
  exact h

theorem bind {β : Type v} {g : σ → Except ε β} (hx : FailsOnly P x)
    (hg : ∀ a, FailsOnly P (g a)) : FailsOnly P (x >>= g) := by
  rcases x with e | a
  · exact error (hx e rfl)
  · exact hg a

/-- A loop fails as its passes do. -/
theorem foldlM (hf : ∀ s a, FailsOnly P (f s a)) (l : List α) (s : σ) :
    FailsOnly P (l.foldlM f s) := by
  induction l generalizing s with
  | nil => exact ok s
  | cons a l ih =>
    rw [List.foldlM_cons]
    exact (hf s a).bind ih

end FailsOnly

end Folds
