import Mathlib.Algebra.GroupWithZero.Nat
import DriverModules.Lib.Bytes

/-!
# The pieces of a range

A range of an address space that wraps around at `M` is cut into pieces, one behind the other
(`layOut`). When no piece reaches over the end of the address space and the pieces make up no more
than the whole of it, they are apart (`pairwise_apart`), and reading them one after the other is
reading the range (`readBytes_cyclic_add`).
-/

namespace Pieces

open Bytes

variable {β : Type*} {M p n : ℕ} {ns : List ℕ}

/-- The pieces of the sizes `ns`, each given by its address and its size, from address `p` on. -/
def layOut (M : ℕ) : ℕ → List ℕ → List (ℕ × ℕ)
  | _, [] => []
  | p, n :: ns => (p, n) :: layOut M ((p + n) % M) ns

/-- The two pieces share no address. -/
def Apart (c d : ℕ × ℕ) : Prop := c.1 + c.2 ≤ d.1 ∨ d.1 + d.2 ≤ c.1

/-- The memory as it looks to someone who counts on behind its end. -/
def cyclic (M : ℕ) (mem : ℕ → β) : ℕ → β := fun x ↦ mem (x % M)

theorem map_snd_layOut (p : ℕ) (ns : List ℕ) : (layOut M p ns).map Prod.snd = ns := by
  induction ns generalizing p with
  | nil => rfl
  | cons n ns ih => rw [layOut, List.map_cons, ih]

theorem layOut_take (p : ℕ) (ns : List ℕ) (k : ℕ) :
    layOut M p (ns.take k) = (layOut M p ns).take k := by
  induction ns generalizing p k with
  | nil => rw [List.take_nil, layOut, List.take_nil]
  | cons n ns ih =>
    rcases k with - | k
    · rfl
    · rw [List.take_succ_cons, layOut, layOut, List.take_succ_cons, ih]

/-- The first piece lies at the start of the range. -/
theorem fst_of_head? {c : ℕ × ℕ} (h : (layOut M p ns).head? = some c) : c.1 = p := by
  rcases ns with - | ⟨n, ns⟩
  · cases h
  · exact congrArg Prod.fst (Option.some.inj h).symm

/-- Where a piece lies, counted from the start of the range. -/
theorem exists_offset_of_mem (hp : p < M) {c : ℕ × ℕ} (hc : c ∈ layOut M p ns) :
    ∃ off, c.1 = (p + off) % M ∧ off + c.2 ≤ ns.sum := by
  induction ns generalizing p with
  | nil => exact absurd hc List.not_mem_nil
  | cons n ns ih =>
    rw [List.sum_cons]
    rcases List.mem_cons.1 hc with rfl | hc
    · exact ⟨0, (Nat.mod_eq_of_lt hp).symm, by omega⟩
    · obtain ⟨off, hoff, hle⟩ := ih (Nat.mod_lt _ (Nat.zero_lt_of_lt hp)) hc
      refine ⟨n + off, ?_, by omega⟩
      rw [hoff, Nat.mod_add_mod, Nat.add_assoc]

/-- **The pieces of a range are apart.** -/
theorem pairwise_apart (hp : p < M) (hin : ∀ c ∈ layOut M p ns, c.1 + c.2 ≤ M)
    (hsum : ns.sum ≤ M) : (layOut M p ns).Pairwise Apart := by
  induction ns generalizing p with
  | nil => exact List.Pairwise.nil
  | cons n ns ih =>
    rw [List.sum_cons] at hsum
    obtain ⟨hfirst, hrest⟩ := List.forall_mem_cons.1 hin
    have hnext : (p + n) % M < M := Nat.mod_lt _ (Nat.zero_lt_of_lt hp)
    refine List.pairwise_cons.2 ⟨fun c hc ↦ ?_, ih hnext hrest (by omega)⟩
    obtain ⟨off, hoff, hle⟩ := exists_offset_of_mem hnext hc
    rw [Nat.mod_add_mod] at hoff
    rcases Nat.lt_or_ge (p + n + off) M with hlt | hge
    · rw [Nat.mod_eq_of_lt hlt] at hoff
      exact .inl (by simp only [hoff]; omega)
    · -- behind the end of the address space the range comes up to its own start at most
      rw [Nat.mod_eq_sub_mod hge, Nat.mod_eq_of_lt (by omega)] at hoff
      exact .inr (by simp only [hoff]; omega)

/-! ### Reading piece by piece -/

theorem readBytes_cyclic_of_le (mem : ℕ → β) (h : p + n ≤ M) :
    readBytes (cyclic M mem) p n = readBytes mem p n := by
  refine List.map_congr_left fun i hi ↦ ?_
  have hlt : i < n := List.mem_range.1 hi
  exact congrArg mem (Nat.mod_eq_of_lt (by omega))

theorem readBytes_cyclic_mod (mem : ℕ → β) (p n : ℕ) :
    readBytes (cyclic M mem) (p % M) n = readBytes (cyclic M mem) p n :=
  List.map_congr_left fun i _ ↦ congrArg mem (Nat.mod_add_mod p M i)

/-- **A piece and what follows it.** -/
theorem readBytes_cyclic_add (mem : ℕ → β) (h : p + n ≤ M) (k : ℕ) :
    readBytes (cyclic M mem) p (n + k) =
      readBytes mem p n ++ readBytes (cyclic M mem) ((p + n) % M) k := by
  rw [readBytes_add, readBytes_cyclic_of_le mem h, readBytes_cyclic_mod]

end Pieces
