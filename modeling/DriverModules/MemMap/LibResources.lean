import DriverModules.Lib.Transition
import DriverModules.MemMap.LibWrite
import Mathlib.Data.Finset.Basic

/-!
# What libmem holds between calls

Every function of the library opens the device, and two of them map a page. `read_dram_raw` and
`write_dram_raw` close the descriptor on their last line only, after a complete transfer; the other
two give the mapping back and never close the descriptor. What is left behind after any sequence of
calls is therefore decided call by call (`held_eq_iff`).

The answers of the system are arbitrary here. `readDramMapRaw_held` and its three companions say
that the functions, run on the driver, hold what this module says they do.

## Main results, and what each rests on

* `held_eq_iff`: a sequence of calls leaves what it found exactly when every call is balanced.
  Nothing a call does closes what another has left, so the set only grows (`subset_of_run`), and one
  call that leaves something is enough.
* `libStep_held`: of one call, from the two shapes the functions have, through the file
  (`dramRaw_held`) and through a mapping (`dramMapRaw_held`). Both rest on `Possible`: the kernel
  returns a descriptor and a start that are not in use.
-/

open Transition

/-- A resource of the process. -/
inductive LibRes
  | fd (n : ℕ)
  | mapping (start : ℕ)
  deriving DecidableEq, Repr

/-- What the system answers to the calls one function of the library makes. -/
structure LibAnswers where
  /-- The descriptor `open` returns, if it does. -/
  fd : Option ℕ
  /-- Where `mmap` puts the page, if it does. -/
  map : Option ℕ
  /-- What `read` or `write` returns. -/
  ret : ℤ
  /-- The access through the mapped pointer does not end the process. -/
  permitted : Bool
  deriving DecidableEq, Repr

/-- `get_mem_fd`. -/
def getMemFd (a : LibAnswers) (held : Finset LibRes) : Finset LibRes :=
  match a.fd with
  | none => held
  | some n => insert (.fd n) held

def mmapPage (a : LibAnswers) (held : Finset LibRes) : Finset LibRes :=
  match a.map with
  | none => held
  | some start => insert (.mapping start) held

def closeFd (a : LibAnswers) (held : Finset LibRes) : Finset LibRes :=
  match a.fd with
  | none => held
  | some n => held.erase (.fd n)

/-- `munmap` of what `mmap` returned; of `MAP_FAILED` it does nothing. -/
def munmapPage (a : LibAnswers) (held : Finset LibRes) : Finset LibRes :=
  match a.map with
  | none => held
  | some start => held.erase (.mapping start)

/-- What a function that works on a mapping holds when it returns; none when the access ended the
process. -/
def dramMapRaw (a : LibAnswers) (size : UInt32) (held : Finset LibRes) : Option (Finset LibRes) :=
  let held := mmapPage a (getMemFd a held)
  let tmp := a.map.getD MAP_FAILED
  if tmp = 0 then some held
  else if size = 4 ∨ size = 2 ∨ size = 1 then
    if a.permitted then some (munmapPage a held) else none
  else some held

/-- What a function that works on the file holds when it returns. -/
def dramRaw (a : LibAnswers) (size : UInt32) (held : Finset LibRes) : Finset LibRes :=
  let held := getMemFd a held
  if size = 4 ∨ size = 2 ∨ size = 1 then
    if (Int32.ofInt a.ret).toUInt32 ≠ size then held else closeFd a held
  else held

/-- The functions of the library. -/
inductive LibOp
  | readDramMapRaw
  | readDramRaw
  | writeDramMapRaw
  | writeDramRaw
  deriving DecidableEq, Repr

structure LibCall where
  op : LibOp
  size : UInt32
  answers : LibAnswers
  deriving DecidableEq, Repr

/-- The system hands out what the process does not hold yet, and maps nothing without a
descriptor. -/
structure LibAnswers.Possible (a : LibAnswers) (held : Finset LibRes) : Prop where
  fd : ∀ n, a.fd = some n → .fd n ∉ held
  map : ∀ start, a.map = some start → .mapping start ∉ held
  opened : a.fd = none → a.map = none

instance (a : LibAnswers) (held : Finset LibRes) : Decidable (a.Possible held) :=
  decidable_of_iff ((∀ n ∈ a.fd, .fd n ∉ held) ∧ (∀ start ∈ a.map, .mapping start ∉ held) ∧
    (a.fd = none → a.map = none)) ⟨fun h ↦ ⟨h.1, h.2.1, h.2.2⟩, fun h ↦ ⟨h.fd, h.map, h.opened⟩⟩

/-- One call of the library; none when the answers are not possible or the process does not survive
the call. -/
def libStep (held : Finset LibRes) (c : LibCall) : Option (Finset LibRes) :=
  if c.answers.Possible held then
    match c.op with
    | .readDramMapRaw | .writeDramMapRaw => dramMapRaw c.answers c.size held
    | .readDramRaw | .writeDramRaw => some (dramRaw c.answers c.size held)
  else none

/-- The call gives back what it took: it got nothing to begin with, or it works on the file and the
transfer is complete. -/
def LibCall.Balanced (c : LibCall) : Prop :=
  c.answers.fd = none ∨
    (c.op = .readDramRaw ∨ c.op = .writeDramRaw) ∧
      (c.size = 4 ∨ c.size = 2 ∨ c.size = 1) ∧ (Int32.ofInt c.answers.ret).toUInt32 = c.size

instance (c : LibCall) : Decidable c.Balanced := inferInstanceAs (Decidable (_ ∨ _))

/-! ### One call -/

variable {a : LibAnswers} {size : UInt32} {held held' : Finset LibRes} {c : LibCall}

theorem ne_of_insert_subset {r : LibRes} (hr : r ∉ held) (h : insert r held ⊆ held') :
    held ⊆ held' ∧ held' ≠ held :=
  ⟨(Finset.subset_insert r held).trans h,
    fun heq ↦ hr (heq ▸ h (Finset.mem_insert_self r held))⟩

/-- A function that works on the file closes the descriptor after a complete transfer only. -/
theorem dramRaw_held (hp : a.Possible held) :
    held ⊆ dramRaw a size held ∧ (dramRaw a size held = held ↔ a.fd = none ∨
      (size = 4 ∨ size = 2 ∨ size = 1) ∧ (Int32.ofInt a.ret).toUInt32 = size) := by
  rcases hfd : a.fd with - | n
  · have hsame : dramRaw a size held = held := by simp [dramRaw, getMemFd, closeFd, hfd]
    rw [hsame]
    exact ⟨Finset.Subset.refl held, iff_of_true rfl (.inl rfl)⟩
  have hopen : getMemFd a held = insert (.fd n) held := by rw [getMemFd, hfd]
  by_cases hdone : (size = 4 ∨ size = 2 ∨ size = 1) ∧ (Int32.ofInt a.ret).toUInt32 = size
  · have hsame : dramRaw a size held = held := by
      rw [dramRaw, if_pos hdone.1, if_neg (not_not_intro hdone.2), hopen, closeFd, hfd]
      exact Finset.erase_insert (hp.fd n hfd)
    rw [hsame]
    exact ⟨Finset.Subset.refl held, iff_of_true rfl (.inr hdone)⟩
  · have hleft : dramRaw a size held = insert (.fd n) held := by
      rw [dramRaw, hopen]
      by_cases hsize : size = 4 ∨ size = 2 ∨ size = 1
      · rw [if_pos hsize, if_pos fun hret ↦ hdone ⟨hsize, hret⟩]
      · rw [if_neg hsize]
    obtain ⟨hsub, hne⟩ := ne_of_insert_subset (hp.fd n hfd) (Finset.Subset.refl _)
    rw [hleft]
    exact ⟨hsub, iff_of_false hne (by simpa using hdone)⟩

/-- A function that works on a mapping never closes it. -/
theorem dramMapRaw_held (hp : a.Possible held) (h : dramMapRaw a size held = some held') :
    held ⊆ held' ∧ (held' = held ↔ a.fd = none) := by
  have hcases : held' = mmapPage a (getMemFd a held) ∨
      held' = munmapPage a (mmapPage a (getMemFd a held)) := by
    rw [dramMapRaw] at h
    split at h
    · exact .inl (Option.some.inj h).symm
    split at h
    · exact .inr (Option.some.inj (Option.ite_none_right_eq_some.1 h).2).symm
    · exact .inl (Option.some.inj h).symm
  rcases hfd : a.fd with - | n
  · have hsame : held' = held := by
      have hmap := hp.opened hfd
      simpa [mmapPage, munmapPage, getMemFd, hfd, hmap] using hcases
    exact ⟨hsame ▸ Finset.Subset.refl held', iff_of_true hsame rfl⟩
  · have hopen : insert (.fd n) held ⊆ held' := by
      rcases hmap : a.map with - | start
      · have hsame : held' = insert (.fd n) held := by
          simpa [mmapPage, munmapPage, getMemFd, hfd, hmap] using hcases
        exact hsame ▸ Finset.Subset.refl held'
      · have hfresh : .mapping start ∉ insert (LibRes.fd n) held := by
          simpa using hp.map start hmap
        have hmapped : held' = insert (.mapping start) (insert (.fd n) held) ∨
            held' = insert (.fd n) held := by
          simpa only [mmapPage, munmapPage, getMemFd, hfd, hmap, Finset.erase_insert hfresh]
            using hcases
        rcases hmapped with rfl | rfl
        exacts [Finset.subset_insert _ _, Finset.Subset.refl _]
    obtain ⟨hsub, hne⟩ := ne_of_insert_subset (hp.fd n hfd) hopen
    exact ⟨hsub, iff_of_false hne (Option.some_ne_none n)⟩

/-- **What one call leaves behind**: nothing is lost, and nothing is gained exactly when the call is
balanced. -/
theorem libStep_held (h : libStep held c = some held') :
    held ⊆ held' ∧ (held' = held ↔ c.Balanced) := by
  obtain ⟨hp, h⟩ := Option.ite_none_right_eq_some.1 h
  rcases hop : c.op with - | - | - | - <;> simp only [hop] at h <;>
    simp only [LibCall.Balanced, hop, reduceCtorEq, or_self, or_false, or_true, false_and, true_and]
  · exact dramMapRaw_held hp h
  · exact Option.some.inj h ▸ dramRaw_held hp
  · exact dramMapRaw_held hp h
  · exact Option.some.inj h ▸ dramRaw_held hp

/-! ### Every sequence of calls -/

theorem subset_of_run {calls : List LibCall} (h : run libStep held calls = some held') :
    held ⊆ held' := by
  induction calls generalizing held with
  | nil => exact (Option.some.inj h) ▸ Finset.Subset.refl held
  | cons c calls ih =>
    obtain ⟨held₁, h₁, hrest⟩ := Option.bind_eq_some_iff.1 h
    exact (libStep_held h₁).1.trans (ih hrest)

/-- **The process holds what it held before exactly when every call was balanced.** -/
theorem held_eq_iff (held held' : Finset LibRes) (calls : List LibCall)
    (h : run libStep held calls = some held') :
    held' = held ↔ ∀ c ∈ calls, c.Balanced := by
  induction calls generalizing held with
  | nil => exact iff_of_true (Option.some.inj h).symm fun c hc ↦ absurd hc List.not_mem_nil
  | cons c calls ih =>
    obtain ⟨held₁, h₁, hrest⟩ := Option.bind_eq_some_iff.1 h
    obtain ⟨hsub, hiff⟩ := libStep_held h₁
    rw [List.forall_mem_cons, ← ih held₁ hrest, ← hiff]
    constructor
    · intro heq
      have hback : held₁ = held := (heq ▸ subset_of_run hrest).antisymm hsub
      exact ⟨hback, heq.trans hback.symm⟩
    · rintro ⟨hfirst, hlast⟩
      exact hlast.trans hfirst

/-- A read that is complete and a write that is short, both through the file. -/
theorem held_eq_iff_short_write :
    ∃ held', run libStep ∅ [⟨.readDramRaw, 4, ⟨some 3, none, 4, true⟩⟩,
      ⟨.writeDramRaw, 4, ⟨some 3, none, 2, true⟩⟩] = some held' ∧ held' ≠ ∅ := by
  refine ⟨{.fd 3}, by decide, fun heq ↦ absurd ((held_eq_iff ∅ _ _ ?_).1 heq)
    (show ¬ ∀ c ∈ [(⟨.readDramRaw, 4, ⟨some 3, none, 4, true⟩⟩ : LibCall),
      ⟨.writeDramRaw, 4, ⟨some 3, none, 2, true⟩⟩], c.Balanced by decide)⟩
  decide

/-- One word read through the mapping, nothing refused: the descriptor stays open. -/
theorem held_map_read :
    ¬ ∀ (held held' : Finset LibRes) (calls : List LibCall),
      run libStep held calls = some held' → held' = held := by
  intro h
  have heq := h ∅ {.fd 3} [⟨.readDramMapRaw, 4, ⟨some 3, some 0x7f0000000000, 0, true⟩⟩] (by decide)
  exact absurd heq (by decide)

/-! ### The functions run on the driver -/

/-- What a call left behind that says whether the descriptor and the mapping are still there. -/
def heldAfter (env : OsEnv) (fdLeft mapLeft : Bool) (held : Finset LibRes) : Finset LibRes :=
  let held := match env.fd with
    | some n => if fdLeft then insert (.fd n) held else held
    | none => held
  if mapLeft then insert (.mapping env.vmStart) held else held

/-- The answers a system gives to a function that works on a mapping. -/
def OsEnv.mapAnswers (env : OsEnv) (map : Option UserMap) (permitted : Bool) : LibAnswers :=
  ⟨env.fd, map.map UserMap.start, 0, permitted⟩

/-- The answers a system gives to a function that works on the file. -/
def OsEnv.fileAnswers (env : OsEnv) (ret : ℤ) : LibAnswers := ⟨env.fd, none, ret, true⟩

section Driver

variable {pg : Paging} {mem : ℕ → UInt8} {env : OsEnv} {dram_addr : UInt64} {value : UInt32}

/-- The page that the two functions map. -/
def mappedPage (pg : Paging) (env : OsEnv) (dram_addr : UInt64) : Option UserMap :=
  mmapRead pg env pg.PAGE_SIZE
    (dram_addr / .ofNat pg.PAGE_SIZE * .ofNat pg.PAGE_SIZE).toNat

theorem mmapRead_start {len off : ℕ} {m : UserMap} (h : mmapRead pg env len off = some m) :
    m.start = env.vmStart ∧ env.fd ≠ none := by
  rcases hfd : env.fd with - | n
  · rw [mmapRead, hfd] at h
    cases h
  · simp only [mmapRead, hfd, memMapMmap] at h
    split at h
    · cases h
    split at h
    · cases h
    split at h
    · cases h
    · exact ⟨(congrArg UserMap.start (Option.some.inj h)).symm, Option.some_ne_none n⟩

/-- What is held before the access through the mapped pointer, and after the page is given back. -/
theorem mmapPage_getMemFd {permitted : Bool} :
    let a := env.mapAnswers (mappedPage pg env dram_addr) permitted
    mmapPage a (getMemFd a held) =
        heldAfter env env.fd.isSome (mappedPage pg env dram_addr).isSome held ∧
      (a.Possible held →
        munmapPage a (mmapPage a (getMemFd a held)) = heldAfter env env.fd.isSome false held) := by
  intro a
  rcases hmap : mappedPage pg env dram_addr with - | m
  · rcases hfd : env.fd with - | n <;>
      simp [a, OsEnv.mapAnswers, mmapPage, munmapPage, getMemFd, heldAfter, hfd, hmap]
  · obtain ⟨hstart, hopen⟩ := mmapRead_start hmap
    obtain ⟨n, hfd⟩ := Option.ne_none_iff_exists'.1 hopen
    have hheld : mmapPage a (getMemFd a held) =
        insert (.mapping env.vmStart) (insert (.fd n) held) := by
      simp [a, OsEnv.mapAnswers, mmapPage, getMemFd, hfd, hmap, hstart]
    refine ⟨by rw [hheld]; simp [heldAfter, hfd], fun hp ↦ ?_⟩
    have hfresh : .mapping env.vmStart ∉ insert (LibRes.fd n) held := by
      simpa using hp.map env.vmStart (by simp [a, OsEnv.mapAnswers, hmap, hstart])
    calc munmapPage a (mmapPage a (getMemFd a held))
        = (insert (.mapping env.vmStart) (insert (.fd n) held)).erase (.mapping env.vmStart) := by
          rw [hheld]
          simp [a, OsEnv.mapAnswers, munmapPage, hmap, hstart]
      _ = insert (.fd n) held := Finset.erase_insert hfresh
      _ = heldAfter env env.fd.isSome false held := by simp [heldAfter, hfd]

theorem mapAnswers_tmp {permitted : Bool} :
    (env.mapAnswers (mappedPage pg env dram_addr) permitted).map.getD MAP_FAILED =
      (mappedPage pg env dram_addr).elim MAP_FAILED UserMap.start := by
  rcases hmap : mappedPage pg env dram_addr with - | m <;> rfl

/-- `read_dram_map_raw` on the driver is the function of the ledger. -/
theorem readDramMapRaw_held :
    let out := readDramMapRaw pg mem env dram_addr size
    let a := env.mapAnswers (mappedPage pg env dram_addr) out.ret.isSome
    a.Possible held → dramMapRaw a size held =
      out.ret.map fun _ ↦ heldAfter env out.fdLeft out.mapLeft held := by
  intro out a hp
  obtain ⟨hmapped, hback⟩ := @mmapPage_getMemFd held pg env dram_addr out.ret.isSome
  rw [dramMapRaw, hback hp, hmapped, mapAnswers_tmp]
  simp only [a, out, OsEnv.mapAnswers, readDramMapRaw, mappedPage]
  split
  · rfl
  split
  · split <;> rfl
  · rfl

/-- So is `write_dram_map_raw`. -/
theorem writeDramMapRaw_held :
    let out := writeDramMapRaw pg mem env dram_addr value size
    let a := env.mapAnswers (mappedPage pg env dram_addr) out.ret.isSome
    a.Possible held → dramMapRaw a size held =
      out.ret.map fun _ ↦ heldAfter env out.fdLeft out.mapLeft held := by
  intro out a hp
  obtain ⟨hmapped, hback⟩ := @mmapPage_getMemFd held pg env dram_addr out.ret.isSome
  rw [dramMapRaw, hback hp, hmapped, mapAnswers_tmp]
  simp only [a, out, OsEnv.mapAnswers, writeDramMapRaw, writeDramMapRawWith, mappedPage]
  split
  · rfl
  split
  · split <;> rfl
  · rfl

/-- What the process holds after the device is opened. -/
theorem getMemFd_fileAnswers {ret : ℤ} :
    getMemFd (env.fileAnswers ret) held = heldAfter env env.fd.isSome false held := by
  rcases hfd : env.fd with - | n <;> simp [OsEnv.fileAnswers, getMemFd, heldAfter, hfd]

/-- What it holds after the device is closed again. -/
theorem closeFd_fileAnswers {ret : ℤ} (hp : (env.fileAnswers ret).Possible held) :
    closeFd (env.fileAnswers ret) (getMemFd (env.fileAnswers ret) held) =
      heldAfter env false false held := by
  rcases hfd : env.fd with - | n
  · simp [OsEnv.fileAnswers, closeFd, getMemFd, heldAfter, hfd]
  · simpa [OsEnv.fileAnswers, closeFd, getMemFd, heldAfter, hfd]
      using Finset.erase_insert (hp.fd n hfd)

/-- `read_dram_raw` on the driver is the other function of the ledger. -/
theorem readDramRaw_held :
    let out := readDramRaw pg mem env dram_addr size
    let a := env.fileAnswers (seekRead pg mem env dram_addr size.toNat).1
    a.Possible held → dramRaw a size held = heldAfter env out.fdLeft out.mapLeft held := by
  intro out a hp
  rw [dramRaw, closeFd_fileAnswers hp, getMemFd_fileAnswers]
  simp only [a, out, OsEnv.fileAnswers, readDramRaw]
  split
  · split <;> rfl
  · rfl

/-- So is `write_dram_raw`. -/
theorem writeDramRaw_held :
    let out := writeDramRaw pg mem env dram_addr value size
    let a := env.fileAnswers
      (seekWrite pg mem env dram_addr (writeTmp value size) size.toNat).1
    a.Possible held → dramRaw a size held = heldAfter env out.fdLeft out.mapLeft held := by
  intro out a hp
  rw [dramRaw, closeFd_fileAnswers hp, getMemFd_fileAnswers]
  simp only [a, out, OsEnv.fileAnswers, writeDramRaw]
  split
  · split <;> rfl
  · rfl

end Driver
