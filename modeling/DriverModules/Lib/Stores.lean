import DriverModules.Lib.Bytes

/-!
# A history of stores

A memory that is written in runs of any place and length. What an address contains is decided by the
last run that covers it (`lastByte`), and that is the memory one gets by overlaying the runs one
after the other (`lastByte_concat`). So a history of stores stands for a memory, and a program that
reports its stores can be compared with it.
-/

namespace Bytes

variable {β : Type*}

/-- A run of contents, and where it was stored. -/
structure Store (β : Type*) where
  addr : ℕ
  bytes : List β
  deriving DecidableEq

namespace Store

/-- Address `x` is in the run. -/
def covers (w : Store β) (x : ℕ) : Bool :=
  decide (w.addr ≤ x) && decide (x < w.addr + w.bytes.length)

theorem covers_eq_true {w : Store β} {x : ℕ} :
    w.covers x = true ↔ w.addr ≤ x ∧ x < w.addr + w.bytes.length := by
  simp [covers]

end Store

variable {mem : ℕ → β} {ws : List (Store β)} {w : Store β} {x : ℕ}

/-- The last of the stores that covers address `x`. -/
def lastStore (ws : List (Store β)) (x : ℕ) : Option (Store β) :=
  ws.reverse.find? fun w ↦ w.covers x

/-- What address `x` contains after the stores: its byte of the last one that covers it, or what was
there before. -/
def lastByte (mem : ℕ → β) (ws : List (Store β)) (x : ℕ) : β :=
  match lastStore ws x with
  | some w => w.bytes[x - w.addr]?.getD (mem x)
  | none => mem x

@[simp] theorem lastByte_nil : lastByte mem [] = mem := rfl

theorem lastStore_concat :
    lastStore (ws ++ [w]) x = if w.covers x then some w else lastStore ws x := by
  rw [lastStore, List.reverse_append, List.reverse_singleton, List.singleton_append,
    List.find?_cons]
  cases w.covers x <;> rfl

/-- **One more store** is overlaid. -/
theorem lastByte_concat :
    lastByte mem (ws ++ [w]) = writeBytes (lastByte mem ws) w.addr w.bytes := by
  funext x
  rw [lastByte, lastStore_concat]
  by_cases hin : w.addr ≤ x ∧ x < w.addr + w.bytes.length
  · rw [if_pos (Store.covers_eq_true.2 hin)]
    obtain ⟨k, rfl⟩ := Nat.exists_eq_add_of_le hin.1
    have hk : k < w.bytes.length := by omega
    rw [writeBytes_add hk]
    simp [hk]
  · rw [if_neg fun hc ↦ hin (Store.covers_eq_true.1 hc), writeBytes_of_outside (by omega)]
    rfl

theorem lastByte_singleton : lastByte mem [w] = writeBytes mem w.addr w.bytes := by
  rw [← List.nil_append [w], lastByte_concat, lastByte_nil]

end Bytes
