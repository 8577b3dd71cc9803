import DriverModules.Lib.Overlay
import DriverModules.Lib.Transition
import Mathlib.Data.List.GetD

/-!
# The devices of moduleCharDriver

`hello_init` allocates a buffer for each of the registered minors. `hello_read` and `hello_write`
never ask which minor the file belongs to: they index `my_devices->data`, the buffer of the first
device. So all files share one buffer, whatever the minor they were opened with, and a read brings
back what the last write put there, through any minor (`Shared`).

A minor looks isolated exactly as long as the others do not show: `isolated_iff` is the condition on
the history of writes, for every run.

## Main results, and what each rests on

* `shared_of_reachable`: the shared buffer holds all writes so far laid over one another
  (`overlayAll`), whatever files they came through.
* `isolated_iff`: what a read should bring is the same with the writes of its own minor only. Two
  overlays agree at a place exactly when the last write to reach it went through the minor, or put
  there what the minor has (`byte_iff`), and `OthersHidden` says this of the places the read covers.
  It is a condition on the history and not on what was read.
* `isolated_otherMinor`: one write through minor 1, and a read through minor 0 brings its byte.
-/

open Transition Overlay

namespace CharDriver

def DEVICE_MINOR_NUM : ℕ := 2

def REG_DEV_SIZE : ℕ := 1024

/-- `struct reg_dev`, as far as the file operations use it. -/
structure RegDev where
  data : List UInt8
  size : ℕ
  deriving DecidableEq, Repr

/-- The loop of `hello_init` over the devices. -/
def helloInit : List RegDev :=
  (List.range DEVICE_MINOR_NUM).map fun _ ↦ ⟨.replicate REG_DEV_SIZE 0, REG_DEV_SIZE⟩

/-- `my_devices->data`. -/
def data (my_devices : List RegDev) : List UInt8 := my_devices.head?.elim [] RegDev.data

/-- `hello_read`: what the loop puts into the user buffer. -/
def helloRead (my_devices : List RegDev) (size : ℕ) : List UInt8 :=
  (List.range size).map fun i ↦ (data my_devices).getD i 0

/-- `hello_write`: the devices after the loop. -/
def helloWrite (my_devices : List RegDev) (user : List UInt8) (size : ℕ) : List RegDev :=
  match my_devices with
  | [] => []
  | d :: rest =>
    { d with data := (List.range size).foldl (fun data i ↦ data.set i (user.getD i 0)) d.data } ::
      rest

/-- A read that was made: through which minor, how many bytes, what it brought back, and the writes
before it, each with its minor. -/
structure ReadCall where
  minor : ℕ
  size : ℕ
  user : List UInt8
  before : List (ℕ × List UInt8)
  deriving DecidableEq, Repr

structure State where
  my_devices : List RegDev
  /-- The minor of each open file. -/
  files : ℕ → Option ℕ
  /-- The writes so far, each with the minor it went through. -/
  writes : List (ℕ × List UInt8)
  reads : List ReadCall

/-- The module loaded. -/
def State.init : State := ⟨helloInit, fun _ ↦ none, [], []⟩

inductive Event
  | open (file minor : ℕ)
  | read (file size : ℕ)
  | write (file : ℕ) (user : List UInt8)
  deriving DecidableEq, Repr

/-- One call on the devices, with a minor that is registered and a size that fits the buffer. -/
def step (s : State) : Event → Option State
  | .open file minor =>
    -- `hello_open` keeps no record of the device
    if minor < DEVICE_MINOR_NUM then
      some { s with files := Function.update s.files file (some minor) }
    else none
  | .read file size =>
    match s.files file with
    | none => none
    | some minor =>
      if size ≤ REG_DEV_SIZE then
        some { s with
          reads := s.reads ++ [⟨minor, size, helloRead s.my_devices size, s.writes⟩] }
      else none
  | .write file user =>
    match s.files file with
    | none => none
    | some minor =>
      if user.length ≤ REG_DEV_SIZE then
        some { s with
          my_devices := helloWrite s.my_devices user user.length
          writes := s.writes ++ [(minor, user)] }
      else none

/-! ### The one buffer -/

/-- A loop of assignments, after `k` turns. -/
theorem foldl_set (data user : List UInt8) {k : ℕ} (hk : k ≤ user.length)
    (hlen : user.length ≤ data.length) :
    (List.range k).foldl (fun data i ↦ data.set i (user.getD i 0)) data =
      user.take k ++ data.drop k := by
  induction k with
  | zero => simp
  | succ k ih =>
    have hlt : k < user.length := hk
    have htake : (user.take k).length = k := by
      rw [List.length_take, Nat.min_eq_left (Nat.le_of_lt hlt)]
    rw [List.range_succ, List.foldl_append, ih (Nat.le_of_lt hlt)]
    simp only [List.foldl_cons, List.foldl_nil, List.getD_eq_getElem _ _ hlt]
    rw [List.set_append_right _ _ (Nat.le_of_eq htake), htake, Nat.sub_self,
      List.drop_eq_getElem_cons (show k < data.length by omega), List.set_cons_zero,
      List.take_succ_eq_append_getElem hlt, List.append_assoc, List.singleton_append]

/-- The first device's buffer, however the devices were written to. -/
theorem data_helloWrite {my_devices : List RegDev} {user : List UInt8}
    (hlen : user.length ≤ (data my_devices).length) :
    data (helloWrite my_devices user user.length) = overlay (data my_devices) user := by
  rcases my_devices with - | ⟨d, rest⟩
  · obtain rfl : user = [] := List.length_eq_zero_iff.1 (Nat.le_zero.1 hlen)
    rfl
  · refine (foldl_set d.data user (Nat.le_refl _) hlen).trans ?_
    rw [List.take_length]
    rfl

theorem helloRead_eq {my_devices : List RegDev} {size : ℕ}
    (h : size ≤ (data my_devices).length) :
    helloRead my_devices size = (data my_devices).take size := by
  refine List.ext_getElem (by simp [helloRead, h]) fun i hi hi' ↦ ?_
  have hlt : i < (data my_devices).length := by
    rw [List.length_take] at hi'
    omega
  simp only [helloRead, List.getElem_map, List.getElem_range, List.getElem_take]
  exact List.getD_eq_getElem _ _ hlt

/-- The zeros a buffer starts from. -/
def zeros : List UInt8 := .replicate REG_DEV_SIZE 0

variable {s s' : State} {ev : Event}

/-- The buffer that all the minors share. -/
structure Shared (s : State) : Prop where
  data : data s.my_devices = overlayAll Prod.snd zeros s.writes
  fits : ∀ w ∈ s.writes, w.2.length ≤ REG_DEV_SIZE

theorem Shared.length (h : Shared s) : (CharDriver.data s.my_devices).length = REG_DEV_SIZE := by
  rw [h.data, length_overlayAll, zeros, List.length_replicate]
  intro w hw
  rw [zeros, List.length_replicate]
  exact h.fits w hw

/-- **What one call does.** -/
theorem step_cases (h : step s ev = some s') :
    (∃ file minor, ev = .open file minor ∧
      s' = { s with files := Function.update s.files file (some minor) }) ∨
    (∃ file size minor, ev = .read file size ∧ s.files file = some minor ∧
      size ≤ REG_DEV_SIZE ∧ s' = { s with
        reads := s.reads ++ [⟨minor, size, helloRead s.my_devices size, s.writes⟩] }) ∨
    (∃ file user minor, ev = .write file user ∧ s.files file = some minor ∧
      user.length ≤ REG_DEV_SIZE ∧ s' = { s with
        my_devices := helloWrite s.my_devices user user.length
        writes := s.writes ++ [(minor, user)] }) := by
  rcases ev with ⟨file, minor⟩ | ⟨file, size⟩ | ⟨file, user⟩
  · obtain ⟨-, h⟩ := Option.ite_none_right_eq_some.1 h
    exact .inl ⟨file, minor, rfl, (Option.some.inj h).symm⟩
  · rcases hfile : s.files file with - | minor <;> simp only [step, hfile] at h
    · cases h
    obtain ⟨hsize, h⟩ := Option.ite_none_right_eq_some.1 h
    exact .inr (.inl ⟨file, size, minor, rfl, hfile, hsize, (Option.some.inj h).symm⟩)
  · rcases hfile : s.files file with - | minor <;> simp only [step, hfile] at h
    · cases h
    obtain ⟨hsize, h⟩ := Option.ite_none_right_eq_some.1 h
    exact .inr (.inr ⟨file, user, minor, rfl, hfile, hsize, (Option.some.inj h).symm⟩)

theorem Shared.step (h : Shared s) (hs : step s ev = some s') : Shared s' := by
  obtain ⟨_, _, -, rfl⟩ | ⟨_, _, _, -, -, -, rfl⟩ | ⟨_, user, minor, -, -, hsize, rfl⟩ :=
    step_cases hs
  · exact ⟨h.data, h.fits⟩
  · exact ⟨h.data, h.fits⟩
  · refine ⟨?_, fun w hw ↦ ?_⟩
    · rw [data_helloWrite (by rwa [h.length]), h.data, overlayAll_concat]
    · rcases List.mem_append.1 hw with hw | hw
      · exact h.fits w hw
      · rwa [List.mem_singleton.1 hw]

theorem shared_of_reachable (h : Reachable CharDriver.step .init s) : Shared s :=
  h.invariant ⟨rfl, fun _ hw ↦ absurd hw List.not_mem_nil⟩ fun _ hs _ ↦ hs.step

/-! ### When a read brings back what its own minor was given -/

/-- The writes that went through minor `k`. -/
def through (k : ℕ) (writes : List (ℕ × List UInt8)) : List (ℕ × List UInt8) :=
  writes.filter fun w ↦ w.1 = k

/-- What minor `k` would hold if it had its own buffer. -/
def ownBuffer (k : ℕ) (writes : List (ℕ × List UInt8)) : List UInt8 :=
  overlayAll Prod.snd zeros (through k writes)

/-- The read brought back the start of its own minor's buffer. -/
def ReadCall.Isolated (r : ReadCall) : Prop := r.user = (ownBuffer r.minor r.before).take r.size

/-- No write through another minor shows among the first `n` bytes: where the last write that
reaches a byte went through another minor, it wrote what the last write through `k` that reaches it
had written there, or a zero if there is none. -/
def OthersHidden (writes : List (ℕ × List UInt8)) (k n : ℕ) : Prop :=
  ∀ i < n, ∀ w, lastOver Prod.snd i writes = some w → w.1 ≠ k →
    w.2[i]? = some (((lastOver Prod.snd i (through k writes)).elim zeros Prod.snd).getD i 0)

/-- Every read of the run so far was isolated. -/
def AllIsolated (s : State) : Prop := ∀ r ∈ s.reads, r.Isolated

/-- The others do not show in the read, if the event is one. -/
def Undisturbed (s : State) : Event → Prop
  | .read file size => ∀ k, s.files file = some k → OthersHidden s.writes k size
  | _ => True

theorem take_eq_take_iff {n : ℕ} {as bs : List UInt8} :
    as.take n = bs.take n ↔ ∀ i < n, as[i]? = bs[i]? := by
  constructor
  · intro h i hi
    rw [← List.getElem?_take_of_lt hi, h, List.getElem?_take_of_lt hi]
  · intro h
    refine List.ext_getElem? fun i ↦ ?_
    rw [List.getElem?_take, List.getElem?_take]
    split
    · next hi => exact h i hi
    · rfl

/-- One byte of a read, against the same byte of the minor's own buffer. -/
theorem byte_iff {writes : List (ℕ × List UInt8)} {k i : ℕ} (hi : i < REG_DEV_SIZE) :
    (overlayAll Prod.snd zeros writes)[i]? = (ownBuffer k writes)[i]? ↔
      ∀ w, lastOver Prod.snd i writes = some w → w.1 ≠ k →
        w.2[i]? =
          some (((lastOver Prod.snd i (through k writes)).elim zeros Prod.snd).getD i 0) := by
  rw [ownBuffer, getElem?_overlayAll, getElem?_overlayAll]
  rcases hlast : lastOver Prod.snd i writes with - | w
  · have hown : lastOver Prod.snd i (through k writes) = none :=
      lastOver_eq_none.2 fun w hw ↦ lastOver_eq_none.1 hlast w (List.mem_filter.1 hw).1
    rw [hown]
    exact iff_of_true rfl fun _ hw ↦ by cases hw
  · by_cases hk : w.1 = k
    · have hown : lastOver Prod.snd i (through k writes) = some w :=
        lastOver_filter hlast (by simpa using hk)
      rw [hown]
      refine iff_of_true rfl fun w' hw' hne ↦ absurd ?_ hne
      rwa [← Option.some.inj hw']
    · have hlen : i < ((lastOver Prod.snd i (through k writes)).elim zeros Prod.snd).length := by
        rcases hown : lastOver Prod.snd i (through k writes) with - | w'
        · simpa [zeros] using hi
        · exact (mem_of_lastOver hown).2
      rw [List.getD_eq_getElem _ _ hlen, List.getElem?_eq_getElem hlen]
      refine ⟨fun heq w' hw' _ ↦ ?_, fun h ↦ h w rfl hk⟩
      rw [← Option.some.inj hw']
      exact heq

/-- **A read is isolated exactly when the others do not show in it.** -/
theorem isolated_iff_othersHidden (h : Shared s) {k n : ℕ} (hn : n ≤ REG_DEV_SIZE) :
    (⟨k, n, helloRead s.my_devices n, s.writes⟩ : ReadCall).Isolated ↔
      OthersHidden s.writes k n := by
  rw [ReadCall.Isolated, helloRead_eq (by rwa [h.length]), h.data, take_eq_take_iff]
  exact forall₂_congr fun i hi ↦ byte_iff (by omega)

/-- **Per-minor isolation holds throughout a run exactly when no read of it sees another minor's
write.** -/
theorem isolated_iff (evs : List Event) (s : State) (hrun : run step .init evs = some s) :
    Throughout step (fun _ s ↦ AllIsolated s) .init evs ↔ Meets step Undisturbed .init evs := by
  refine throughout_iff_meets (fun _ hr ↦ absurd hr List.not_mem_nil) ?_ hrun
  intro bs ev s₁ s₂ _ hs₁ hall hs₂
  have hshared := shared_of_reachable (reachable_of_run hs₁)
  obtain ⟨_, _, rfl, rfl⟩ | ⟨file, size, minor, rfl, hfile, hsize, rfl⟩ |
    ⟨_, _, _, rfl, -, -, rfl⟩ := step_cases hs₂
  · exact iff_of_true hall trivial
  · simp only [AllIsolated, List.forall_mem_append, List.forall_mem_singleton, Undisturbed, hfile,
      Option.some.injEq, forall_eq']
    rw [← isolated_iff_othersHidden hshared hsize]
    exact and_iff_right hall
  · exact iff_of_true hall trivial

/-- A byte written through minor `1` and read through minor `0`. -/
def otherMinor : List Event := [.open 3 1, .open 4 0, .write 3 [1], .read 4 1]

theorem run_otherMinor : (run step .init otherMinor).map State.reads =
    some [⟨0, 1, [1], [(1, [1])]⟩] := by decide +kernel

/-- The read of `otherMinor` is disturbed. -/
theorem isolated_iff_otherMinor : ¬ Meets step Undisturbed .init otherMinor := by
  obtain ⟨s, hs, hreads⟩ := Option.map_eq_some_iff.1 run_otherMinor
  intro hmeets
  have hall := (isolated_iff otherMinor s hs).2 hmeets otherMinor List.prefix_rfl s hs
  have hread := hall _ (by rw [hreads]; exact List.mem_singleton_self _)
  exact absurd hread (show ¬ [1] = (ownBuffer 0 [(1, [1])]).take 1 by decide +kernel)

/-- It brings back the byte that went to the other minor. -/
theorem isolated_otherMinor :
    ¬ ∀ (evs : List Event) (s : State), run step .init evs = some s → AllIsolated s := by
  intro h
  obtain ⟨s, hs, hreads⟩ := Option.map_eq_some_iff.1 run_otherMinor
  have hread := h otherMinor s hs _ (by rw [hreads]; exact List.mem_singleton_self _)
  exact absurd hread (show ¬ [1] = (ownBuffer 0 [(1, [1])]).take 1 by decide +kernel)

end CharDriver
