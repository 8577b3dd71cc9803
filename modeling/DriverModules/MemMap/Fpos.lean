import DriverModules.Kernel.Vfs
import DriverModules.Lib.Transition
import DriverModules.MemMap.Write
import Mathlib.Data.Int.ModEq

/-!
# The position of an open file

`mem_map_lseek`, `mem_map_read` and `mem_map_write` on one open file, in any order and with any
answers of the kernel. The file layer lets a read or a write through only where `rw_verify_area`
accepts the position and the count. The state keeps a log of the calls with what each returned; it
is there for the statements only.

`lseek` adds an offset that may be negative to a position that may be negative as a signed number
(an address of the upper half is one), so the sum may wrap. What keeps the position from being taken
for an error is the single comparison in `mem_map_lseek`; reads and writes cannot spoil that,
because they only move a position that is not negative, and not beyond the largest one.
-/

open Transition

/-- A value that user space takes for an error. -/
def IsErrValue (v : Int64) : Prop := 2 ^ 64 - MAX_ERRNO ≤ v.toUInt64.toNat

instance (v : Int64) : Decidable (IsErrValue v) := inferInstanceAs (Decidable (_ ≤ _))

/-- A call on the open file, with the answers of the kernel to it. -/
inductive FileEvent
  | lseek (offset : Int64) (orig : ℕ)
  | read (count : ℕ) (env : ℕ → ChunkEnv) (nomem : Bool)
  | write (count : ℕ) (user : ℕ → UInt8) (env : ℕ → ChunkEnv) (pads : Bool)

/-- A call that was made, with what it returned. -/
inductive FileCall
  | lseek (offset : Int64) (orig : ℕ) (ret : Except Errno Int64)
  | transfer (ret : Except Errno ℕ)

structure FileState where
  fpos : Int64
  mem : ℕ → UInt8
  /-- The calls so far, the last one first. -/
  log : List FileCall

/-- A file just opened. -/
def FileState.opened (mem : ℕ → UInt8) : FileState := ⟨0, mem, []⟩

/-- One call on the open file; none when the file layer does not let it through. -/
def fileStep (pg : Paging) (s : FileState) : FileEvent → Option FileState
  | .lseek offset orig =>
    let (ret, fpos) := memMapLseek s.fpos offset orig
    some { s with fpos := fpos, log := .lseek offset orig ret :: s.log }
  | .read count env nomem =>
    if rwVerifyArea s.fpos count then
      let out := memMapRead pg s.mem env nomem count s.fpos
      some { s with fpos := out.pos, log := .transfer out.ret :: s.log }
    else none
  | .write count user env pads =>
    if rwVerifyArea s.fpos count then
      let out := memMapWrite pg pads user env count s.fpos s.mem
      some { fpos := out.pos, mem := out.mem, log := .transfer out.ret :: s.log }
    else none

/-! ### What the log accounts for -/

/-- A successful absolute seek. -/
def FileCall.isTarget : FileCall → Bool
  | .lseek _ orig (.ok _) => orig = SEEK_SET
  | _ => false

/-- How far the call moved the position, when it is not an absolute seek: a successful relative
offset, or a positive count that a transfer returned. -/
def FileCall.moved : FileCall → ℤ
  | .lseek offset _ (.ok _) => offset.toInt
  | .lseek _ _ (.error _) => 0
  | .transfer (.ok n) => n
  | .transfer (.error _) => 0

/-- The last absolute seek of the log; the file is opened at `0`. -/
def target (log : List FileCall) : ℤ :=
  match log.find? FileCall.isTarget with
  | some (.lseek offset _ _) => offset.toInt
  | _ => 0

/-- The calls after that. -/
def later (log : List FileCall) : List FileCall := log.takeWhile fun c ↦ !c.isTarget

/-- The position that the calls of the log add up to. -/
def accounted (log : List FileCall) : ℤ := target log + ((later log).map FileCall.moved).sum

variable {log : List FileCall} {call : FileCall}

theorem accounted_cons_of_not_isTarget (h : call.isTarget = false) :
    accounted (call :: log) = call.moved + accounted log := by
  have htarget : target (call :: log) = target log := by
    rw [target, List.find?_cons_of_neg (by rw [h]; exact Bool.false_ne_true), target]
  have hlater : later (call :: log) = call :: later log :=
    List.takeWhile_cons_of_pos (by rw [h]; rfl)
  rw [accounted, htarget, hlater, List.map_cons, List.sum_cons, accounted]
  omega

theorem accounted_cons_target (offset pos : Int64) :
    accounted (.lseek offset SEEK_SET (.ok pos) :: log) = offset.toInt := Int.add_zero _

/-! ### What one call does to the position -/

variable {pg : Paging} {fpos offset pos : Int64} {orig count n : ℕ}

theorem toInt_add_modEq (a b : Int64) :
    (a + b).toInt ≡ a.toInt + b.toInt [ZMOD 2 ^ 64] := by
  rw [Int64.toInt_add]
  exact Int.bmod_emod

/-- **What a seek answers**, wherever the file is. -/
theorem memMapLseek_cases (fpos offset : Int64) (orig : ℕ) :
    memMapLseek fpos offset orig = (.error .EINVAL, fpos) ∨
      memMapLseek fpos offset orig = (.error .EOVERFLOW, fpos) ∨
        ∃ pos, memMapLseek fpos offset orig = (.ok pos, pos) ∧ ¬ IsErrValue pos ∧
          (orig = SEEK_SET ∧ pos = offset ∨ orig = SEEK_CUR ∧ pos = offset + fpos) := by
  by_cases horig : orig = SEEK_CUR ∨ orig = SEEK_SET
  · rw [memMapLseek, if_pos horig]
    generalize hsum : (if orig = SEEK_CUR then offset + fpos else offset) = sum
    by_cases herr : IsErrValue sum
    · exact .inr (.inl (if_pos herr))
    · refine .inr (.inr ⟨sum, if_neg herr, herr, ?_⟩)
      rcases horig with rfl | rfl
      · exact .inr ⟨rfl, hsum.symm⟩
      · exact .inl ⟨rfl, hsum.symm⟩
  · exact .inl (if_neg horig)

/-- What a transfer may do to the position: move it over what it returns, or leave it. -/
def Moves (count : ℕ) (ret : Except Errno ℕ) (fpos pos : Int64) : Prop :=
  match ret with
  | .ok n => n ≤ count ∧ pos = fpos + .ofNat n
  | .error _ => pos = fpos

theorem memMapRead_moves {mem : ℕ → UInt8} {env : ℕ → ChunkEnv} {nomem : Bool} :
    Moves count (memMapRead pg mem env nomem count fpos).ret fpos
      (memMapRead pg mem env nomem count fpos).pos := by
  rw [memMapRead]
  rcases nomem with - | -
  · rw [if_neg Bool.false_ne_true]
    rcases herr : (memMapReadLoop pg mem env 0 fpos.toUInt64.toNat count).err with - | e
    · simp only [herr]
      exact ⟨Nat.le_refl count, rfl⟩
    · simp only [herr]
      exact rfl
  · exact rfl

theorem toNat_toUInt64_of_nonneg (h : 0 ≤ fpos.toInt) :
    (fpos.toUInt64.toNat : ℤ) = fpos.toInt := by
  have hint : fpos.toInt =
      if 2 * fpos.toUInt64.toNat < 2 ^ 64 then (fpos.toUInt64.toNat : ℤ)
      else (fpos.toUInt64.toNat : ℤ) - (2 ^ 64 : ℕ) := BitVec.toInt_eq_toNat_cond fpos.toBitVec
  have hlt := fpos.toUInt64.toNat_lt
  split at hint <;> omega

theorem fitsAt_of_rwVerifyArea (h : rwVerifyArea fpos count = true) : FitsAt fpos count := by
  obtain ⟨hpos, hend⟩ := rwVerifyArea_eq_true.1 h
  have hnat := toNat_toUInt64_of_nonneg hpos
  rw [LLONG_MAX] at hend
  constructor <;> omega

theorem memMapWrite_moves {user : ℕ → UInt8} {env : ℕ → ChunkEnv} {mem : ℕ → UInt8} {pads : Bool}
    (h : FitsAt fpos count) :
    Moves count (memMapWrite pg pads user env count fpos mem).ret fpos
      (memMapWrite pg pads user env count fpos mem).pos := by
  obtain ⟨hpos, hsum⟩ := @chunkSizes_pos_sum pg count fpos.toUInt64.toNat
  have hle := (@progress_stored_iff env 0 _ hpos).1
  rw [hsum] at hle
  rw [memMapWrite_eq h rfl]
  generalize progress env 0 (chunkSizes pg fpos.toUInt64.toNat count) = r at hle
  by_cases herr : r.failed = true ∧ r.stored = 0
  · rw [if_pos herr, herr.2]
    exact Int64.add_zero fpos
  · rw [if_neg herr]
    exact ⟨hle, rfl⟩

theorem Moves.not_isErrValue {ret : Except Errno ℕ} (h : Moves count ret fpos pos)
    (hv : rwVerifyArea fpos count = true) : ¬ IsErrValue pos := by
  obtain ⟨hpos, hend⟩ := rwVerifyArea_eq_true.1 hv
  rw [LLONG_MAX] at hend
  have hge : 0 ≤ pos.toInt := by
    rcases ret with e | n
    · rwa [show pos = fpos from h]
    · rw [h.2, toInt_add_ofNat (by have := h.1; omega)]
      omega
  have hlt : pos.toInt < 2 ^ 63 := pos.toInt_lt
  rw [← toNat_toUInt64_of_nonneg hge] at hlt
  rw [IsErrValue, MAX_ERRNO]
  omega

theorem Moves.modEq {ret : Except Errno ℕ} (h : Moves count ret fpos pos)
    (hv : rwVerifyArea fpos count = true) :
    pos.toInt = (FileCall.transfer ret).moved + fpos.toInt := by
  have hend := (rwVerifyArea_eq_true.1 hv).2
  rw [LLONG_MAX] at hend
  rcases ret with e | n
  · rw [show pos = fpos from h, FileCall.moved, Int.zero_add]
  · rw [h.2, toInt_add_ofNat (by have := h.1; omega), FileCall.moved, Int.add_comm]

/-! ### Every run -/

/-- What holds of the open file between two calls. -/
structure FileInv (s : FileState) : Prop where
  notErr : ¬ IsErrValue s.fpos
  accounts : s.fpos.toInt ≡ accounted s.log [ZMOD 2 ^ 64]

theorem FileInv.transfer {s : FileState} (h : FileInv s) {ret : Except Errno ℕ}
    (hm : Moves count ret s.fpos pos) (hv : rwVerifyArea s.fpos count = true) (mem : ℕ → UInt8) :
    FileInv ⟨pos, mem, .transfer ret :: s.log⟩ where
  notErr := hm.not_isErrValue hv
  accounts := by
    rw [accounted_cons_of_not_isTarget rfl, hm.modEq hv]
    exact h.accounts.add_left _

theorem FileInv.lseek {s : FileState} (h : FileInv s) (offset : Int64) (orig : ℕ) :
    FileInv { s with
      fpos := (memMapLseek s.fpos offset orig).2
      log := .lseek offset orig (memMapLseek s.fpos offset orig).1 :: s.log } := by
  rcases memMapLseek_cases s.fpos offset orig with heq | heq | ⟨pos, heq, hpos, hsum⟩
  · rw [heq]
    refine ⟨h.notErr, ?_⟩
    rw [accounted_cons_of_not_isTarget rfl, FileCall.moved, Int.zero_add]
    exact h.accounts
  · rw [heq]
    refine ⟨h.notErr, ?_⟩
    rw [accounted_cons_of_not_isTarget rfl, FileCall.moved, Int.zero_add]
    exact h.accounts
  · rw [heq]
    refine ⟨hpos, ?_⟩
    rcases hsum with ⟨rfl, rfl⟩ | ⟨rfl, rfl⟩
    · rw [accounted_cons_target]
    · rw [accounted_cons_of_not_isTarget rfl, FileCall.moved]
      exact (toInt_add_modEq offset s.fpos).trans (h.accounts.add_left _)

theorem FileInv.step {s s' : FileState} {e : FileEvent} (h : FileInv s)
    (hs : fileStep pg s e = some s') : FileInv s' := by
  rcases e with ⟨offset, orig⟩ | ⟨count, env, nomem⟩ | ⟨count, user, env, pads⟩
  · obtain rfl := Option.some.inj hs
    exact h.lseek offset orig
  · obtain ⟨hv, hs⟩ := Option.ite_none_right_eq_some.1 hs
    obtain rfl := Option.some.inj hs
    exact h.transfer memMapRead_moves hv s.mem
  · obtain ⟨hv, hs⟩ := Option.ite_none_right_eq_some.1 hs
    obtain rfl := Option.some.inj hs
    exact h.transfer (memMapWrite_moves (fitsAt_of_rwVerifyArea hv)) hv _

theorem fileInv_opened (mem : ℕ → UInt8) : FileInv (.opened mem) where
  notErr := show ¬ IsErrValue 0 by decide
  accounts := Int.ModEq.refl 0

theorem fileInv_of_reachable {mem : ℕ → UInt8} {s : FileState}
    (h : Reachable (fileStep pg) (.opened mem) s) : FileInv s :=
  h.invariant (fileInv_opened mem) fun _ hinv _ ↦ hinv.step

/-- **The position of an open file** is never a value that user space takes for an error, every seek
fails without moving it or returns the position it stored, and it is what the calls so far add up
to. -/
theorem fpos_of_reachable (pg : Paging) (mem : ℕ → UInt8) (s : FileState)
    (h : Reachable (fileStep pg) (.opened mem) s) :
    ¬ IsErrValue s.fpos ∧
      (∀ offset orig, memMapLseek s.fpos offset orig = (.error .EINVAL, s.fpos) ∨
        memMapLseek s.fpos offset orig = (.error .EOVERFLOW, s.fpos) ∨
          ∃ pos, memMapLseek s.fpos offset orig = (.ok pos, pos) ∧ ¬ IsErrValue pos) ∧
      s.fpos.toInt ≡ target s.log + ((later s.log).map FileCall.moved).sum [ZMOD 2 ^ 64] := by
  refine ⟨(fileInv_of_reachable h).notErr, fun offset orig ↦ ?_, (fileInv_of_reachable h).accounts⟩
  rcases memMapLseek_cases s.fpos offset orig with heq | heq | ⟨pos, heq, hpos, -⟩
  exacts [.inl heq, .inr (.inl heq), .inr (.inr ⟨pos, heq, hpos⟩)]

/-- A seek into the upper half, one that wraps around to the lower, and one that is refused because
it would end in the error range. -/
theorem fpos_of_reachable_wrap :
    ∃ s, run (fileStep ⟨12, by decide, by decide⟩) (.opened fun _ ↦ 0)
        [.lseek (-8192) SEEK_SET, .lseek 8200 SEEK_CUR, .lseek (-9) SEEK_CUR] = some s ∧
      s.fpos = 8 ∧ s.fpos.toInt ≡ target s.log + ((later s.log).map FileCall.moved).sum
        [ZMOD 2 ^ 64] := by
  let log : List FileCall :=
    [.lseek (-9) SEEK_CUR (.error .EOVERFLOW), .lseek 8200 SEEK_CUR (.ok 8),
      .lseek (-8192) SEEK_SET (.ok (-8192))]
  have hrun : run (fileStep ⟨12, by decide, by decide⟩) (.opened fun _ ↦ 0)
      [.lseek (-8192) SEEK_SET, .lseek 8200 SEEK_CUR, .lseek (-9) SEEK_CUR] =
        some ⟨8, fun _ ↦ 0, log⟩ := rfl
  exact ⟨_, hrun, rfl, (fpos_of_reachable _ _ _ (reachable_of_run hrun)).2.2⟩
