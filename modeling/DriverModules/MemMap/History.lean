import DriverModules.Kernel.Vfs
import DriverModules.Lib.Stores
import DriverModules.Lib.Transition
import DriverModules.MemMap.Fpos
import DriverModules.MemMap.LibWrite
import DriverModules.MemMap.ReadChunks

/-!
# What a user of mem_map sees

Any number of open files and mappings of the `mem_map` device, used one call after the other. The
device is a window on physical memory, so what a read or a load delivers should be what was stored
there last, by a write or a store through whichever file or mapping, as far as the calls have
reported it.

The state keeps what was reported as stored and what reads have delivered; `HistoryRight` compares
them with the memory that a history of stores stands for. The only thing that can come in between is
a `copy_from_user` that stores zeros for the bytes it could not read, which a write does not report
(`historyRight_iff`).
-/

open Transition Bytes

/-- A read that has succeeded. -/
structure ReadRecord where
  /-- How many stores had been reported before. -/
  after : ℕ
  addr : ℕ
  bytes : List UInt8

/-- Physical memory, the open files and the mappings, and what has been done through them. -/
structure MemMapState where
  mem : ℕ → UInt8
  /-- The positions of the open files. -/
  files : ℕ → Option Int64
  /-- The mappings, with their protection. -/
  maps : ℕ → Option (ℕ × UserMap)
  stores : List (Store UInt8)
  reads : List ReadRecord

inductive MemMapEvent
  | openFile (f : ℕ)
  | close (f : ℕ)
  | lseek (f : ℕ) (offset : Int64) (orig : ℕ)
  | read (f count : ℕ) (env : ℕ → ChunkEnv) (nomem : Bool)
  | write (f count : ℕ) (user : ℕ → UInt8) (env : ℕ → ChunkEnv) (pads : Bool)
  | mmap (m : ℕ) (vma : VmArea) (prot : ℕ) (remapFails : Bool)
  | munmap (m : ℕ)
  /-- The user loads `n` bytes from `va`. -/
  | load (m va n : ℕ)
  /-- The user stores bytes at `va`. -/
  | store (m va : ℕ) (bytes : List UInt8)

namespace MemMapState

/-- Nothing is open or mapped. -/
def start (mem : ℕ → UInt8) : MemMapState where
  mem
  files _ := none
  maps _ := none
  stores := []
  reads := []

/-- What a write has reported as stored. -/
def reported (pos : Int64) (user : ℕ → UInt8) : Except Errno ℕ → List (Store UInt8)
  | .ok n => [⟨pos.toUInt64.toNat, readBytes user 0 n⟩]
  | .error _ => []

/-- What a read has delivered. -/
def delivered (s : MemMapState) (pos : Int64) (out : ReadOut) : List ReadRecord :=
  match out.ret with
  | .ok _ => [⟨s.stores.length, pos.toUInt64.toNat, out.user⟩]
  | .error _ => []

/-- One call, or one access through a mapping; none when the file layer or the memory management
does not let it through. -/
def step (pg : Paging) (s : MemMapState) : MemMapEvent → Option MemMapState
  | .openFile f =>
    if (s.files f).isSome then none else some { s with files := Function.update s.files f (some 0) }
  | .close f => some { s with files := Function.update s.files f none }
  | .lseek f offset orig => (s.files f).map fun pos ↦
    { s with files := Function.update s.files f (some (memMapLseek pos offset orig).2) }
  | .read f count env nomem => (s.files f).bind fun pos ↦
    if rwVerifyArea pos count then
      let out := memMapRead pg s.mem env nomem count pos
      some { s with
        files := Function.update s.files f (some out.pos)
        reads := s.reads ++ s.delivered pos out }
    else none
  | .write f count user env pads => (s.files f).bind fun pos ↦
    if rwVerifyArea pos count then
      let out := memMapWrite pg pads user env count pos s.mem
      some { s with
        mem := out.mem
        files := Function.update s.files f (some out.pos)
        stores := s.stores ++ reported pos user out.ret }
    else none
  | .mmap m vma prot remapFails =>
    match memMapMmap pg vma remapFails with
    | .ok map => some { s with maps := Function.update s.maps m (some (prot, map)) }
    | .error _ => some s
  | .munmap m => some { s with maps := Function.update s.maps m none }
  | .load m va n => (s.maps m).bind fun (_, map) ↦
    (userLoad s.mem (some map) va n).map fun bytes ↦
      { s with reads := s.reads ++ [⟨s.stores.length, map.phys + (va - map.start), bytes⟩] }
  | .store m va bytes => (s.maps m).bind fun (prot, map) ↦
    (userStore s.mem (some map) prot va bytes).map fun mem ↦
      { s with mem, stores := s.stores ++ [⟨map.phys + (va - map.start), bytes⟩] }

end MemMapState

/-- Memory is what was reported as stored, over `mem₀`, and so is what the reads have delivered. -/
structure HistoryRight (mem₀ : ℕ → UInt8) (s : MemMapState) : Prop where
  mem : s.mem = lastByte mem₀ s.stores
  reads : ∀ r ∈ s.reads, r.after ≤ s.stores.length ∧
    r.bytes = readBytes (lastByte mem₀ (s.stores.take r.after)) r.addr r.bytes.length

/-- A write that pads has left behind only bytes that were zero anyway. -/
def PadsNothing (pg : Paging) (s : MemMapState) : MemMapEvent → Prop
  | .write f count _ env pads => ∀ pos, s.files f = some pos → pads = true →
    ∀ x, LeftBehind env 0 (chunkSizes pg pos.toUInt64.toNat count) x →
      s.mem (pos.toUInt64.toNat + x) = 0
  | _ => True

variable {pg : Paging} {mem mem₀ : ℕ → UInt8} {user : ℕ → UInt8} {env : ℕ → ChunkEnv} {count : ℕ}
  {pos : Int64} {s s' : MemMapState} {ev : MemMapEvent}

/-! ### One write -/

/-- Zeros behind a run show exactly where there were none. -/
theorem writeBytes_append_eq_iff {p : ℕ} {bs : List UInt8} {left : ℕ} :
    writeBytes mem p (bs ++ .replicate left 0) = writeBytes mem p bs ↔
      ∀ x, bs.length ≤ x → x < bs.length + left → mem (p + x) = 0 := by
  rw [← writeBytes_zeros_frame]
  constructor
  · intro heq x hx
    rw [heq, writeBytes_of_outside hx]
  · intro hframe
    funext x
    by_cases hout : x < p ∨ p + bs.length ≤ x
    · rw [hframe x hout, writeBytes_of_outside hout]
    · obtain ⟨k, rfl⟩ := Nat.exists_eq_add_of_le (show p ≤ x by omega)
      have hk : k < bs.length := by omega
      rw [writeBytes_add hk, writeBytes_add (by rw [List.length_append]; omega),
        List.getElem_append_left hk]

/-- **A write has stored what it reports, and nothing else, exactly when its padding does not
show.** -/
theorem memMapWrite_mem_iff (h : FitsAt pos count) (pads : Bool) :
    let out := memMapWrite pg pads user env count pos mem
    out.mem = lastByte mem (MemMapState.reported pos user out.ret) ↔
      (pads = true → ∀ x, LeftBehind env 0 (chunkSizes pg pos.toUInt64.toNat count) x →
        mem (pos.toUInt64.toNat + x) = 0) := by
  simp only [leftBehind_iff]
  generalize hr : progress env 0 (chunkSizes pg pos.toUInt64.toNat count) = r
  simp only [memMapWrite_eq h hr]
  have hreported : lastByte mem (MemMapState.reported pos user
      (if r.failed = true ∧ r.stored = 0 then .error .EFAULT else .ok r.stored)) =
      writeBytes mem pos.toUInt64.toNat (readBytes user 0 r.stored) := by
    split
    · next herr =>
      rw [herr.2]
      exact (writeBytes_nil mem _).symm
    · exact lastByte_singleton
  rw [hreported]
  rcases pads with - | -
  · simp
  · have hiff := @writeBytes_append_eq_iff mem pos.toUInt64.toNat (readBytes user 0 r.stored) r.left
    rw [length_readBytes] at hiff
    simpa using hiff

/-! ### One read -/

/-- What a read that succeeds has delivered. -/
theorem memMapRead_user (h : rwVerifyArea pos count = true) {nomem : Bool} {n : ℕ}
    (hret : (memMapRead pg mem env nomem count pos).ret = .ok n) :
    (memMapRead pg mem env nomem count pos).user = readBytes mem pos.toUInt64.toNat count := by
  have hfits := fitsAt_of_rwVerifyArea h
  obtain ⟨hpos, hend⟩ := rwVerifyArea_eq_true.1 h
  rw [LLONG_MAX] at hend
  have hright := memMapRead_readsRight pg mem env nomem count pos (by omega)
  by_cases hok : nomem = false ∧
      ∀ k < (chunkSizes pg pos.toUInt64.toNat count).length, (env k).Ok
  · rw [(hright.success hok.1 hok.2).2.2.1]
    exact Pieces.readBytes_cyclic_of_le mem (Nat.le_of_lt hfits.2)
  · rcases (hright.failure hok).1 with herr | herr <;> rw [herr] at hret <;> cases hret

/-! ### Every run -/

/-- A step that neither stores nor reads. -/
theorem HistoryRight.frame (h : HistoryRight mem₀ s) (hmem : s'.mem = s.mem)
    (hstores : s'.stores = s.stores) (hreads : s'.reads = s.reads) : HistoryRight mem₀ s' := by
  refine ⟨?_, ?_⟩
  · rw [hmem, hstores]
    exact h.mem
  · rw [hreads, hstores]
    exact h.reads

/-- A read of what is in memory. -/
theorem HistoryRight.read (h : HistoryRight mem₀ s) (hmem : s'.mem = s.mem)
    (hstores : s'.stores = s.stores) {new : List ReadRecord} (hreads : s'.reads = s.reads ++ new)
    (hnew : ∀ r ∈ new, r.after = s.stores.length ∧
      r.bytes = readBytes s.mem r.addr r.bytes.length) : HistoryRight mem₀ s' := by
  refine ⟨?_, fun r hr ↦ ?_⟩
  · rw [hmem, hstores]
    exact h.mem
  · rw [hreads] at hr
    rw [hstores]
    rcases List.mem_append.1 hr with hr | hr
    · exact h.reads r hr
    · obtain ⟨hafter, hbytes⟩ := hnew r hr
      rw [hafter, List.take_length, ← h.mem]
      exact ⟨le_rfl, hbytes⟩

/-- A store leaves the history right exactly when it stores what it reports. -/
theorem HistoryRight.store_iff (h : HistoryRight mem₀ s) {new : List (Store UInt8)}
    (hnew : new.length ≤ 1) (hstores : s'.stores = s.stores ++ new) (hreads : s'.reads = s.reads) :
    HistoryRight mem₀ s' ↔ s'.mem = lastByte s.mem new := by
  have hover : lastByte mem₀ (s.stores ++ new) = lastByte s.mem new := by
    rcases new with - | ⟨w, - | ⟨w', new⟩⟩
    · rw [List.append_nil, ← h.mem, lastByte_nil]
    · rw [lastByte_concat, ← h.mem, lastByte_singleton]
    · simp at hnew
  constructor
  · intro h'
    rw [h'.mem, hstores, hover]
  · intro hmem
    refine ⟨by rw [hstores, hover, hmem], fun r hr ↦ ?_⟩
    rw [hreads] at hr
    obtain ⟨hle, hbytes⟩ := h.reads r hr
    rw [hstores, List.take_append_of_le_length hle, List.length_append]
    exact ⟨by omega, hbytes⟩

/-- **A step keeps the history right exactly when it pads nothing that shows.** -/
theorem historyRight_step (h : HistoryRight mem₀ s) (hs : s.step pg ev = some s') :
    HistoryRight mem₀ s' ↔ PadsNothing pg s ev := by
  rcases ev with f | f | ⟨f, offset, orig⟩ | ⟨f, count, env, nomem⟩ | ⟨f, count, user, env, pads⟩ |
    ⟨m, vma, prot, remapFails⟩ | m | ⟨m, va, n⟩ | ⟨m, va, bytes⟩
  case openFile =>
    obtain ⟨-, hs⟩ := Option.ite_none_left_eq_some.1 hs
    obtain rfl := Option.some.inj hs
    exact iff_of_true (h.frame rfl rfl rfl) trivial
  case close | munmap =>
    obtain rfl := Option.some.inj hs
    exact iff_of_true (h.frame rfl rfl rfl) trivial
  case lseek =>
    obtain ⟨pos, -, rfl⟩ := Option.map_eq_some_iff.1 hs
    exact iff_of_true (h.frame rfl rfl rfl) trivial
  case read =>
    obtain ⟨pos, -, hs⟩ := Option.bind_eq_some_iff.1 hs
    obtain ⟨hv, hs⟩ := Option.ite_none_right_eq_some.1 hs
    obtain rfl := Option.some.inj hs
    refine iff_of_true (h.read rfl rfl rfl fun r hr ↦ ?_) trivial
    unfold MemMapState.delivered at hr
    split at hr
    · next k hret =>
      obtain rfl := List.mem_singleton.1 hr
      refine ⟨rfl, ?_⟩
      show (memMapRead pg s.mem env nomem count pos).user = _
      rw [memMapRead_user hv hret, length_readBytes]
    · cases hr
  case write =>
    obtain ⟨pos, hpos, hs⟩ := Option.bind_eq_some_iff.1 hs
    obtain ⟨hv, hs⟩ := Option.ite_none_right_eq_some.1 hs
    obtain rfl := Option.some.inj hs
    have hnew : (MemMapState.reported pos user
        (memMapWrite pg pads user env count pos s.mem).ret).length ≤ 1 := by
      unfold MemMapState.reported
      split
      · exact le_rfl
      · exact Nat.zero_le 1
    refine Iff.trans (h.store_iff hnew rfl rfl)
      ((memMapWrite_mem_iff (fitsAt_of_rwVerifyArea hv) pads).trans ?_)
    exact ⟨fun hpads pos' hpos' ↦ Option.some.inj (hpos.symm.trans hpos') ▸ hpads,
      fun hguard ↦ hguard pos hpos⟩
  case mmap =>
    simp only [MemMapState.step] at hs
    split at hs <;> obtain rfl := Option.some.inj hs
    · exact iff_of_true (h.frame rfl rfl rfl) trivial
    · exact iff_of_true h trivial
  case load =>
    obtain ⟨⟨prot, map⟩, -, hs⟩ := Option.bind_eq_some_iff.1 hs
    obtain ⟨bytes, hload, rfl⟩ := Option.map_eq_some_iff.1 hs
    obtain ⟨-, hbytes⟩ := Option.ite_none_right_eq_some.1 hload
    obtain rfl := Option.some.inj hbytes
    refine iff_of_true (h.read rfl rfl rfl fun r hr ↦ ?_) trivial
    obtain rfl := List.mem_singleton.1 hr
    exact ⟨rfl, by rw [length_readBytes]⟩
  case store =>
    obtain ⟨⟨prot, map⟩, -, hs⟩ := Option.bind_eq_some_iff.1 hs
    obtain ⟨mem, hstore, rfl⟩ := Option.map_eq_some_iff.1 hs
    obtain ⟨-, hmem⟩ := Option.ite_none_right_eq_some.1 hstore
    obtain rfl := Option.some.inj hmem
    refine iff_of_true (Iff.mpr (h.store_iff (by exact le_rfl) rfl rfl) ?_) trivial
    rw [lastByte_singleton]

theorem historyRight_start (mem : ℕ → UInt8) : HistoryRight mem (.start mem) where
  mem := rfl
  reads r hr := by cases hr

/-- **Every read and every load delivers what was last stored there**, through whichever file or
mapping, throughout a run exactly when no write of it pads bytes that were not zero. -/
theorem historyRight_iff (pg : Paging) (mem : ℕ → UInt8) (evs : List MemMapEvent)
    (s : MemMapState) (h : run (MemMapState.step pg) (.start mem) evs = some s) :
    Throughout (MemMapState.step pg) (fun _ ↦ HistoryRight mem) (.start mem) evs ↔
      Meets (MemMapState.step pg) (PadsNothing pg) (.start mem) evs :=
  throughout_iff_meets (historyRight_start mem) (fun _ _ hright hs ↦ historyRight_step hright hs) h

/-- Four bytes are written across a page end, two of them are overwritten through a mapping, and all
four are read. -/
def fourBytes : List MemMapEvent :=
  [.openFile 0, .lseek 0 0xffe SEEK_SET,
    .write 0 4 (fun k ↦ .ofNat (k + 1)) (fun _ ↦ ⟨1, false, 0⟩) false,
    .mmap 0 ⟨0x7000, 0x8000, 1⟩ 3 false, .store 0 0x7000 [8, 9], .lseek 0 0xffe SEEK_SET,
    .read 0 4 (fun _ ↦ ⟨1, false, 0⟩) false]

/-- A test of the guard: the copies of the writes do not pad. -/
def padsNothing (_ : MemMapState) : MemMapEvent → Bool
  | .write _ _ _ _ pads => !pads
  | _ => true

theorem padsNothing_of_test (pg : Paging) (s : MemMapState) (ev : MemMapEvent)
    (h : padsNothing s ev = true) : PadsNothing pg s ev := by
  cases ev with
  | write f count user env pads =>
    intro pos _ hpads
    subst hpads
    cases h
  | _ => trivial

theorem historyRight_fourBytes :
    Throughout (MemMapState.step ⟨12, by decide, by decide⟩) (fun _ ↦ HistoryRight fun _ ↦ 0)
      (.start fun _ ↦ 0) fourBytes := by
  obtain ⟨s, hs⟩ : ∃ s, runIf (MemMapState.step ⟨12, by decide, by decide⟩) padsNothing
      (.start fun _ ↦ 0) fourBytes = some s := ⟨_, rfl⟩
  exact (historyRight_iff _ _ fourBytes s (run_of_runIf hs)).2
    (meets_of_runIf (padsNothing_of_test _) hs)
