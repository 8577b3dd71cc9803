import Mathlib.Data.Finset.Lattice.Lemmas
import Mathlib.Data.List.Nodup
import DriverModules.Lib.Lifecycle

/-!
# Initialisations with a way back

The usual shape of an initialisation that makes several requests: they are made one after the other,
and at the first refusal everything granted so far is given back, the last first. The exit gives
back what a complete initialisation holds, in an order of its own.

A component of this shape is clean in every run of loads and unloads, whatever the answers
(`Staged.throughout_clean`). So it is enough to bring an initialisation into this shape.
-/

open Transition

namespace Ledger

variable {ρ : Type*} [DecidableEq ρ]

/-- The requests `rqs` with their answers; a refusal gives back what was granted. -/
def stages : List (Bool × ρ) → Ledger ρ → Bool × Ledger ρ
  | [], l => (true, l)
  | (granted, r) :: rqs, l =>
    if granted then
      match stages rqs (l.acquire r) with
      | (true, l) => (true, l)
      | (false, l) => (false, l.release r)
    else (false, l.refuse)

variable {l : Ledger ρ} {rqs : List (Bool × ρ)} {rs : List ρ}

/-- Requests that are all granted add up. -/
theorem stages_of_granted (h : ∀ rq ∈ rqs, rq.1 = true) (l : Ledger ρ) :
    stages rqs l = (true, { l with held := l.held ∪ (rqs.map Prod.snd).toFinset }) := by
  induction rqs generalizing l with
  | nil => simp only [stages, List.map_nil, List.toFinset_nil, Finset.union_empty]
  | cons rq rqs ih =>
    obtain ⟨granted, r⟩ := rq
    obtain ⟨hr, hrest⟩ := List.forall_mem_cons.1 h
    obtain rfl : granted = true := hr
    simp only [stages, if_true, ih hrest, held_acquire, faulted_acquire, refused_acquire,
      List.map_cons, List.toFinset_cons, Finset.insert_union_comm]

/-- Taking what is not held and giving it back changes nothing. -/
theorem release_acquire {r : ρ} {refused : Bool} (h : r ∉ l.held) :
    ({ l.acquire r with refused } : Ledger ρ).release r = { l with refused } := by
  rw [release_of_mem (Finset.mem_insert_self r l.held)]
  simp [acquire, Finset.erase_insert h]

/-- **A refusal leaves what was held before.** -/
theorem stages_of_refused (hnodup : (rqs.map Prod.snd).Nodup) (h : ∃ rq ∈ rqs, rq.1 = false)
    (l : Ledger ρ) (hnew : ∀ rq ∈ rqs, rq.2 ∉ l.held) :
    stages rqs l = (false, l.refuse) := by
  induction rqs generalizing l with
  | nil =>
    obtain ⟨rq, hrq, -⟩ := h
    exact absurd hrq List.not_mem_nil
  | cons rq rqs ih =>
    obtain ⟨granted, r⟩ := rq
    obtain ⟨hr, hrest⟩ := List.forall_mem_cons.1 hnew
    rcases granted with - | -
    · rfl
    have hlater : ∃ rq ∈ rqs, rq.1 = false := by
      obtain ⟨rq, hrq, href⟩ := h
      rcases List.mem_cons.1 hrq with rfl | hrq
      · cases href
      · exact ⟨rq, hrq, href⟩
    -- the later requests are for other things than the one just granted
    obtain ⟨hnot, hnodup⟩ := List.nodup_cons.1 hnodup
    have hundone := ih hnodup hlater (l.acquire r) fun rq hrq hheld ↦ by
      rcases Finset.mem_insert.1 hheld with heq | hheld
      · exact hnot (List.mem_map.2 ⟨rq, hrq, heq⟩)
      · exact hrest rq hrq hheld
    simp only [stages, if_true, hundone]
    exact congrArg (Prod.mk false) (release_acquire hr)

/-- Giving back everything that is held leaves nothing, and is no fault. -/
theorem foldl_release_of_held (hnodup : rs.Nodup) (l : Ledger ρ) (h : l.held = rs.toFinset) :
    rs.foldl release l = { l with held := ∅ } := by
  induction rs generalizing l with
  | nil => exact congrArg (fun held ↦ (⟨held, l.faulted, l.refused⟩ : Ledger ρ)) h
  | cons r rs ih =>
    obtain ⟨hnot, hnodup⟩ := List.nodup_cons.1 hnodup
    have hmem : r ∈ l.held := by
      rw [h]
      exact List.mem_toFinset.2 List.mem_cons_self
    rw [List.foldl_cons, release_of_mem hmem, ih hnodup]
    rw [h, List.toFinset_cons, Finset.erase_insert (List.mem_toFinset.not.2 hnot)]

end Ledger

/-- A component whose initialisation is made of such requests, for different things, and whose exit
gives back what a complete one holds. -/
structure Staged (ι σ ρ : Type*) where
  /-- The requests an initialisation makes, with their answers. -/
  requests : ι → List (Bool × ρ)
  /-- The variables a complete one leaves. -/
  vars : ι → σ
  /-- What the exit gives back, in its order. -/
  returns : σ → List ρ
  nodup : ∀ a, ((requests a).map Prod.snd).Nodup
  perm : ∀ a, (returns (vars a)).Perm ((requests a).map Prod.snd)

namespace Staged

variable {ι σ ρ : Type*} [DecidableEq ρ] (S : Staged ι σ ρ)

def loadable : Loadable ι σ ρ where
  init a l :=
    match Ledger.stages (S.requests a) l with
    | (true, l) => (.ok (S.vars a), l)
    | (false, l) => (.error, l)
  exit vars l := (S.returns vars).foldl Ledger.release l

theorem init_of_granted {a : ι} (h : ∀ rq ∈ S.requests a, rq.1 = true) (l : Ledger ρ) :
    S.loadable.init a l =
      (.ok (S.vars a), { l with held := l.held ∪ ((S.requests a).map Prod.snd).toFinset }) := by
  simp only [loadable, Ledger.stages_of_granted h]

theorem init_of_refused {a : ι} (h : ∃ rq ∈ S.requests a, rq.1 = false) :
    S.loadable.init a .empty = (.error, Ledger.empty.refuse) := by
  have hundone := Ledger.stages_of_refused (S.nodup a) h .empty fun _ _ ↦ Finset.notMem_empty _
  simp only [loadable, hundone]

/-- A complete initialisation holds what the exit gives back. -/
def Holds (vars : σ) (held : Finset ρ) : Prop :=
  (S.returns vars).Nodup ∧ held = (S.returns vars).toFinset

def handling : S.loadable.Handling (fun _ ↦ True) True where
  Holds := S.Holds
  fine_iff a := by
    refine iff_of_true ?_ trivial
    by_cases h : ∀ rq ∈ S.requests a, rq.1 = true
    · rw [S.init_of_granted h]
      exact ⟨rfl, rfl⟩
    · simp only [not_forall, Bool.not_eq_true] at h
      obtain ⟨rq, hrq, href⟩ := h
      rw [S.init_of_refused ⟨rq, hrq, href⟩]
      exact ⟨rfl, rfl⟩
  holds a vars l _ hinit := by
    by_cases h : ∀ rq ∈ S.requests a, rq.1 = true
    · rw [S.init_of_granted h] at hinit
      obtain ⟨hvars, rfl⟩ := Prod.mk.inj hinit
      obtain rfl := InitEnd.ok.inj hvars
      refine ⟨(S.perm a).nodup_iff.2 (S.nodup a), ?_⟩
      rw [List.toFinset_eq_of_perm _ _ (S.perm a)]
      exact Finset.empty_union _
    · simp only [not_forall, Bool.not_eq_true] at h
      obtain ⟨rq, hrq, href⟩ := h
      rw [S.init_of_refused ⟨rq, hrq, href⟩] at hinit
      cases (Prod.mk.inj hinit).1
  exit_iff vars l hholds hfault := by
    refine iff_of_true ?_ trivial
    rw [show S.loadable.exit vars l = { l with held := ∅ } from
      Ledger.foldl_release_of_held hholds.1 l hholds.2]
    exact ⟨rfl, hfault⟩

/-- **Such a component is clean throughout every run.** -/
theorem throughout_clean (evs : List (LoadEvent ι)) :
    Throughout S.loadable.step (fun _ s ↦ s.Clean) Loadable.start evs := by
  refine (S.handling.throughout_clean_iff evs).2 (meets_of_forall (fun _ ev ↦ ?_) evs)
  rcases ev with a | -
  · exact fun _ ↦ trivial
  · exact fun _ _ ↦ trivial

end Staged
