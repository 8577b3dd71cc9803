import Mathlib.Data.List.Basic
import Mathlib.Data.Int.Notation

/-!
# Numbers as text

The texts `printf` makes of integers for `%d`, as bytes, and texts that end in such a number behind
a dot. A number is read back from its text (`ofInt_injective`), and there is no dot in it, so the
number behind the last dot and what is in front of it are determined, whatever dots the front has
(`dotted_inj`).
-/

namespace Decimal

/-- The decimal digits of a natural number. -/
def ofNat (n : ℕ) : List UInt8 :=
  (Nat.toDigits 10 n).map Char.toUInt8

/-- `%d`. -/
def ofInt (z : ℤ) : List UInt8 :=
  if z < 0 then 45 :: ofNat z.natAbs else ofNat z.natAbs

/-- `%s.%d`. -/
def dotted (front : List UInt8) (z : ℤ) : List UInt8 :=
  front ++ 46 :: ofInt z

/-- A digit is one byte. -/
theorem toNat_toUInt8_of_isDigit {c : Char} (hc : c.isDigit = true) :
    c.toUInt8.toNat = c.toNat ∧ 48 ≤ c.toNat ∧ c.toNat ≤ 57 := by
  have hrange : 48 ≤ c.toNat ∧ c.toNat ≤ 57 := by
    simp only [Char.isDigit, Bool.and_eq_true, decide_eq_true_eq, ge_iff_le,
      UInt32.le_iff_toNat_le] at hc
    exact hc
  refine ⟨?_, hrange⟩
  show c.val.toUInt8.toNat = c.val.toNat
  rw [UInt32.toNat_toUInt8]
  exact Nat.mod_eq_of_lt (show c.toNat < 2 ^ 8 by omega)

theorem digit_of_mem_ofNat {n : ℕ} {b : UInt8} (h : b ∈ ofNat n) :
    48 ≤ b.toNat ∧ b.toNat ≤ 57 := by
  obtain ⟨c, hc, rfl⟩ := List.mem_map.1 h
  obtain ⟨heq, hrange⟩ :=
    toNat_toUInt8_of_isDigit (Nat.isDigit_of_mem_toDigits (by decide) (by decide) hc)
  rwa [heq]

/-- The digits are read back from the bytes. -/
theorem map_ofNat (n : ℕ) :
    (ofNat n).map (fun b ↦ Char.ofNat b.toNat) = Nat.toDigits 10 n := by
  rw [ofNat, List.map_map]
  refine (List.map_congr_left fun c hc ↦ ?_).trans (List.map_id _)
  have hdigit := Nat.isDigit_of_mem_toDigits (by decide) (by decide) hc
  show Char.ofNat c.toUInt8.toNat = c
  rw [(toNat_toUInt8_of_isDigit hdigit).1, Char.ofNat_toNat]

theorem ofNat_injective : Function.Injective ofNat := by
  intro m n h
  have hdigits := congrArg (List.map fun b : UInt8 ↦ Char.ofNat b.toNat) h
  rw [map_ofNat, map_ofNat] at hdigits
  rw [← Nat.ofDigitChars_ten_toDigits (n := m), hdigits, Nat.ofDigitChars_ten_toDigits]

/-- A sign is no digit. -/
theorem ofNat_ne_sign (n : ℕ) (l : List UInt8) : ofNat n ≠ 45 :: l := by
  intro h
  have hsign := digit_of_mem_ofNat (n := n) (b := 45) (by rw [h]; exact List.mem_cons_self)
  exact absurd hsign.1 (by decide)

theorem ofInt_injective : Function.Injective ofInt := by
  intro y z h
  unfold ofInt at h
  split at h <;> split at h
  · have := ofNat_injective (List.cons.inj h).2
    omega
  · exact absurd h.symm (ofNat_ne_sign _ _)
  · exact absurd h (ofNat_ne_sign _ _)
  · have := ofNat_injective h
    omega

/-- A number has neither a dot nor a slash in its text. -/
theorem notMem_ofInt (z : ℤ) {b : UInt8} (hsign : b ≠ 45)
    (hb : ¬ (48 ≤ b.toNat ∧ b.toNat ≤ 57)) : b ∉ ofInt z := by
  unfold ofInt
  split
  · rw [List.mem_cons, not_or]
    exact ⟨hsign, fun h ↦ hb (digit_of_mem_ofNat h)⟩
  · exact fun h ↦ hb (digit_of_mem_ofNat h)

/-- What is behind the last separator, and what is in front of it, is determined. -/
theorem append_cons_inj {α : Type*} {x₁ x₂ z₁ z₂ : List α} {a : α} (h₁ : a ∉ z₁) (h₂ : a ∉ z₂) :
    x₁ ++ a :: z₁ = x₂ ++ a :: z₂ ↔ x₁ = x₂ ∧ z₁ = z₂ := by
  constructor
  · intro h
    rcases List.append_eq_append_iff.1 h with ⟨l, rfl, hl⟩ | ⟨l, rfl, hl⟩ <;>
      rcases l with - | ⟨b, l⟩
    · simpa using hl
    · obtain ⟨-, rfl⟩ := List.cons.inj hl
      exact absurd (by simp) h₁
    · simpa [eq_comm] using hl
    · obtain ⟨-, rfl⟩ := List.cons.inj hl
      exact absurd (by simp) h₂
  · rintro ⟨rfl, rfl⟩
    rfl

/-- **The number at the end of a text, and the text in front of it, are determined.** -/
theorem dotted_inj {front front' : List UInt8} {y z : ℤ} :
    dotted front y = dotted front' z ↔ front = front' ∧ y = z := by
  have hdot : ∀ x : ℤ, 46 ∉ ofInt x := fun x ↦ notMem_ofInt x (by decide) (by decide)
  rw [dotted, dotted, append_cons_inj (hdot y) (hdot z), ofInt_injective.eq_iff]

example : dotted [97] (-1) = [97, 46, 45, 49] := by decide

end Decimal
