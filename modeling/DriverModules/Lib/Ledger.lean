import Mathlib.Data.Finset.Basic

/-!
# A ledger of resources

What a component holds: resources are taken one by one and given back one by one. Giving back or
touching what is not held is a fault, and the ledger remembers it, as it remembers that a request
was refused. A component is without leaks when its ledger is empty, without double frees and without
uses after a free when the ledger is not faulted.
-/

/-- What is held, whether something was given back or touched that was not held, and whether a
request was refused. -/
structure Ledger (ρ : Type*) where
  held : Finset ρ
  faulted : Bool
  refused : Bool
  deriving DecidableEq

namespace Ledger

variable {ρ : Type*} {l : Ledger ρ}

/-- Nothing held and nothing gone wrong. -/
def empty : Ledger ρ := ⟨∅, false, false⟩

def refuse (l : Ledger ρ) : Ledger ρ := { l with refused := true }

@[simp] theorem held_refuse : l.refuse.held = l.held := rfl

@[simp] theorem faulted_refuse : l.refuse.faulted = l.faulted := rfl

@[simp] theorem refused_refuse : l.refuse.refused = true := rfl

variable [DecidableEq ρ] {r : ρ} {granted : Bool}

def acquire (l : Ledger ρ) (r : ρ) : Ledger ρ := { l with held := insert r l.held }

/-- A request with its answer. -/
def ask (l : Ledger ρ) (granted : Bool) (r : ρ) : Ledger ρ :=
  if granted then l.acquire r else l.refuse

def release (l : Ledger ρ) (r : ρ) : Ledger ρ :=
  if r ∈ l.held then { l with held := l.held.erase r } else { l with faulted := true }

/-- Read or write the object `r`. -/
def touch (l : Ledger ρ) (r : ρ) : Ledger ρ :=
  if r ∈ l.held then l else { l with faulted := true }

@[simp] theorem held_acquire : (l.acquire r).held = insert r l.held := rfl

@[simp] theorem faulted_acquire : (l.acquire r).faulted = l.faulted := rfl

@[simp] theorem refused_acquire : (l.acquire r).refused = l.refused := rfl

@[simp] theorem ask_true : l.ask true r = l.acquire r := rfl

@[simp] theorem ask_false : l.ask false r = l.refuse := rfl

@[simp] theorem refused_ask : (l.ask granted r).refused = (l.refused || !granted) := by
  rcases granted with - | -
  · exact (Bool.or_true _).symm
  · exact (Bool.or_false _).symm

@[simp] theorem faulted_ask : (l.ask granted r).faulted = l.faulted := by
  rcases granted with - | - <;> rfl

/-- A request takes nothing away. -/
theorem subset_ask : l.held ⊆ (l.ask granted r).held := by
  rcases granted with - | -
  · exact Finset.Subset.refl _
  · exact Finset.subset_insert r l.held

theorem release_of_mem (h : r ∈ l.held) : l.release r = { l with held := l.held.erase r } :=
  if_pos h

@[simp] theorem refused_release : (l.release r).refused = l.refused := by
  rw [release]
  split <;> rfl

theorem not_mem_release : r ∉ (l.release r).held := by
  rw [release]
  split
  · exact Finset.notMem_erase r l.held
  · next h => exact h

/-- Giving one thing back keeps the others. -/
theorem mem_release_of_ne {r' : ρ} (h : r ∈ l.held) (hne : r ≠ r') : r ∈ (l.release r').held := by
  rw [release]
  split
  · exact Finset.mem_erase_of_ne_of_mem hne h
  · exact h

/-- Something is left when what is given back leaves out a thing that is held. -/
theorem held_foldl_release_ne_empty {rs : List ρ} (h : r ∈ l.held) (hnot : r ∉ rs) :
    (rs.foldl release l).held ≠ ∅ := by
  induction rs generalizing l with
  | nil => exact Finset.ne_empty_of_mem h
  | cons r' rs ih =>
    obtain ⟨hne, hrest⟩ := List.ne_and_not_mem_of_not_mem_cons hnot
    exact ih (mem_release_of_ne h hne) hrest

theorem touch_of_mem (h : r ∈ l.held) : l.touch r = l := if_pos h

@[simp] theorem held_touch : (l.touch r).held = l.held := by
  rw [touch]
  split <;> rfl

@[simp] theorem refused_touch : (l.touch r).refused = l.refused := by
  rw [touch]
  split <;> rfl

theorem faulted_touch_of_not_mem (h : r ∉ l.held) : (l.touch r).faulted = true := by
  rw [touch, if_neg h]

/-- A fault is not forgotten. -/
theorem faulted_touch_of_faulted (h : l.faulted = true) : (l.touch r).faulted = true := by
  rw [touch]
  split
  · exact h
  · rfl

end Ledger
