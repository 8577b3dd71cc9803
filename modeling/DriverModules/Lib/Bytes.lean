import Mathlib.Algebra.Group.Nat.Defs
import Mathlib.Data.List.Range

/-!
# Memory as bytes

A memory is a function from addresses to contents. `readBytes` is the run of contents from an
address on, and runs that meet end to end are one run (`readBytes_add`), which is all that reading a
range piece by piece comes down to. `writeBytes` overlays a run; writing two runs that meet is
writing one (`writeBytes_append`). `leNat` is the number a list of bytes stands for, least
significant byte first, and `leBytes` writes a number so (`leNat_leBytes`).
-/

namespace Bytes

variable {β : Type*}

/-- The `n` contents from address `p` on. -/
def readBytes (mem : ℕ → β) (p n : ℕ) : List β :=
  (List.range n).map fun i ↦ mem (p + i)

@[simp] theorem readBytes_zero (mem : ℕ → β) (p : ℕ) : readBytes mem p 0 = [] := rfl

@[simp] theorem length_readBytes (mem : ℕ → β) (p n : ℕ) : (readBytes mem p n).length = n := by
  simp [readBytes]

/-- **Two runs that meet are one run.** -/
theorem readBytes_add (mem : ℕ → β) (p m n : ℕ) :
    readBytes mem p (m + n) = readBytes mem p m ++ readBytes mem (p + m) n := by
  simp only [readBytes, List.range_add, List.map_append, List.map_map]
  congr 1
  exact List.map_congr_left fun i _ ↦ by simp [Nat.add_assoc]

theorem take_readBytes {mem : ℕ → β} {p k n : ℕ} (h : k ≤ n) :
    (readBytes mem p n).take k = readBytes mem p k := by
  rw [← Nat.add_sub_cancel' h, readBytes_add, List.take_left' (length_readBytes mem p k)]

/-! ### Overlaying a run -/

/-- The memory with the contents `bs` from address `p` on. -/
def writeBytes (mem : ℕ → β) (p : ℕ) (bs : List β) : ℕ → β := fun x ↦
  if p ≤ x then bs[x - p]?.getD (mem x) else mem x

theorem writeBytes_of_outside {mem : ℕ → β} {p x : ℕ} {bs : List β}
    (h : x < p ∨ p + bs.length ≤ x) : writeBytes mem p bs x = mem x := by
  rw [writeBytes]
  rcases h with hlt | hle
  · rw [if_neg (Nat.not_le.2 hlt)]
  · rw [if_pos (by omega), List.getElem?_eq_none (by omega)]
    rfl

theorem writeBytes_add {mem : ℕ → β} {p i : ℕ} {bs : List β} (h : i < bs.length) :
    writeBytes mem p bs (p + i) = bs[i] := by
  rw [writeBytes, if_pos (Nat.le_add_right p i), Nat.add_sub_cancel_left,
    List.getElem?_eq_getElem h]
  rfl

@[simp] theorem writeBytes_nil (mem : ℕ → β) (p : ℕ) : writeBytes mem p [] = mem :=
  funext fun x ↦ writeBytes_of_outside (by rw [List.length_nil]; omega)

/-- **Overlaying two runs that meet is overlaying one run.** -/
theorem writeBytes_append (mem : ℕ → β) (p : ℕ) (bs cs : List β) :
    writeBytes mem p (bs ++ cs) = writeBytes (writeBytes mem p bs) (p + bs.length) cs := by
  funext x
  rcases Nat.lt_or_ge x p with hlt | hle
  · rw [writeBytes_of_outside (.inl hlt), writeBytes_of_outside (.inl (by omega)),
      writeBytes_of_outside (.inl hlt)]
  obtain ⟨i, rfl⟩ := Nat.exists_eq_add_of_le hle
  rcases Nat.lt_or_ge i bs.length with hi | hi
  · rw [writeBytes_add (by rw [List.length_append]; omega), List.getElem_append_left hi,
      writeBytes_of_outside (.inl (by omega)), writeBytes_add hi]
  obtain ⟨j, rfl⟩ := Nat.exists_eq_add_of_le hi
  rcases Nat.lt_or_ge j cs.length with hj | hj
  · rw [writeBytes_add (by rw [List.length_append]; omega), ← Nat.add_assoc, writeBytes_add hj,
      List.getElem_append_right hi]
    simp only [Nat.add_sub_cancel_left]
  · rw [writeBytes_of_outside (.inr (by rw [List.length_append]; omega)),
      writeBytes_of_outside (.inr (by omega)), writeBytes_of_outside (.inr (by omega))]

/-! ### Numbers as bytes -/

/-- The number the bytes stand for, the first one least significant. -/
def leNat : List UInt8 → ℕ
  | [] => 0
  | b :: bs => b.toNat + 256 * leNat bs

/-- The last `n` bytes of a number, the least significant first. -/
def leBytes : ℕ → ℕ → List UInt8
  | 0, _ => []
  | n + 1, k => .ofNat k :: leBytes n (k / 256)

@[simp] theorem length_leBytes (n k : ℕ) : (leBytes n k).length = n := by
  induction n generalizing k with
  | zero => rfl
  | succ n ih => rw [leBytes, List.length_cons, ih]

/-- **What is written is read back**, as far as it fits. -/
theorem leNat_leBytes (n k : ℕ) : leNat (leBytes n k) = k % 256 ^ n := by
  induction n generalizing k with
  | zero => rw [pow_zero, Nat.mod_one]; rfl
  | succ n ih =>
    rw [leBytes, leNat, ih, pow_succ', Nat.mod_mul, UInt8.toNat_ofNat']

theorem leNat_replicate_zero (n : ℕ) : leNat (.replicate n 0) = 0 := by
  induction n with
  | zero => rfl
  | succ n ih => rw [List.replicate_succ, leNat, ih]; rfl

/-- Zeros behind the last byte do not count. -/
theorem leNat_append_zeros (bs : List UInt8) (n : ℕ) : leNat (bs ++ .replicate n 0) = leNat bs := by
  induction bs with
  | nil => exact leNat_replicate_zero n
  | cons b bs ih => rw [List.cons_append, leNat, leNat, ih]

/-- A field read from where it was written. -/
theorem leNat_field (front back : List UInt8) {buf : List UInt8} {n k : ℕ}
    (hbuf : buf = front ++ (leBytes n k ++ back)) (hk : k < 256 ^ n) :
    leNat ((buf.drop front.length).take n) = k := by
  rw [hbuf, List.drop_left, List.take_left' (length_leBytes n k), leNat_leBytes,
    Nat.mod_eq_of_lt hk]

end Bytes
