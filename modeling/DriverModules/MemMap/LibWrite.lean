import DriverModules.MemMap.Fpos
import DriverModules.MemMap.Libmem

/-!
# The two ways libmem writes memory

`write_dram_raw` seeks and writes through the driver. `write_dram_map_raw` was made from
`read_dram_map_raw`: it maps the page of the address as that function does, for reading only, and
then stores through the mapping. Such a store ends the process, so the two write paths never agree
(`not_writesAgree`). The protection is all that is wrong: with a writable mapping they would agree
where the two read paths do (`writesAgreeWith_of_writable`).

The path through the driver is right wherever no system call fails: `readDramRaw_writeDramRaw` is
the law of reading over writing, for all widths and all overlaps.
-/

open Bytes

def PROT_READ : ℕ := 1

def PROT_WRITE : ℕ := 2

/-- One call of a write function of the library. -/
structure LibWrite where
  /-- The return value; none when a store that is not permitted ended the process. -/
  ret : Option UInt16
  /-- Physical memory afterwards. -/
  mem : ℕ → UInt8
  /-- The stores through the mapped pointer, each with its width. -/
  stores : List (ℕ × ℕ)
  /-- The descriptor is still open afterwards. -/
  fdLeft : Bool
  /-- The mapping is still there afterwards. -/
  mapLeft : Bool

/-- A store to user address `va`. -/
def userStore (mem : ℕ → UInt8) (map : Option UserMap) (prot va : ℕ) (bytes : List UInt8) :
    Option (ℕ → UInt8) :=
  match map with
  | none => none
  | some m =>
    if prot &&& PROT_WRITE ≠ 0 ∧ m.start ≤ va ∧ va + bytes.length ≤ m.start + m.len then
      some (writeBytes mem (m.phys + (va - m.start)) bytes)
    else none

/-- `write_dram_map_raw`, with the protection it passes to `mmap`. -/
def writeDramMapRawWith (prot : ℕ) (pg : Paging) (mem : ℕ → UInt8) (env : OsEnv)
    (dram_addr : UInt64) (value size : UInt32) : LibWrite :=
  let page_size := UInt64.ofNat pg.PAGE_SIZE
  let dram_addr_page_aligned := dram_addr / page_size * page_size
  let in_page_ofst := dram_addr % page_size
  let map := mmapRead pg env pg.PAGE_SIZE dram_addr_page_aligned.toNat
  let tmp := map.elim MAP_FAILED UserMap.start
  if tmp = 0 then ⟨some 1, mem, [], env.fd.isSome, map.isSome⟩
  else if size = 4 ∨ size = 2 ∨ size = 1 then
    let va := (tmp + in_page_ofst.toNat) % 2 ^ 64
    let stores := [(va, size.toNat)]
    match userStore mem map prot va (leBytes size.toNat value.toNat) with
    | none => ⟨none, mem, stores, env.fd.isSome, map.isSome⟩
    | some mem => ⟨some 0, mem, stores, env.fd.isSome, false⟩
  else ⟨some 1, mem, [], env.fd.isSome, map.isSome⟩

/-- `write_dram_map_raw`. -/
def writeDramMapRaw : Paging → (ℕ → UInt8) → OsEnv → UInt64 → UInt32 → UInt32 → LibWrite :=
  writeDramMapRawWith PROT_READ

/-- `lseek` and then `write` on a freshly opened device: the return value of `write`, and physical
memory. -/
def seekWrite (pg : Paging) (mem : ℕ → UInt8) (env : OsEnv) (dram_addr : UInt64)
    (user : ℕ → UInt8) (size : ℕ) : ℤ × (ℕ → UInt8) :=
  match env.fd with
  | none => (-1, mem)
  | some _ =>
    let pos := (memMapLseek 0 dram_addr.toInt64 SEEK_SET).2
    if rwVerifyArea pos size then
      let out := memMapWrite pg true user env.chunk (min size (2 ^ 31 - pg.PAGE_SIZE)) pos mem
      match out.ret with
      | .ok n => (n, out.mem)
      | .error _ => (-1, out.mem)
    else (-1, mem)

/-- The temporary of `write_dram_raw`: the low bytes of the value, over four bytes of zeros. -/
def writeTmp (value size : UInt32) : ℕ → UInt8 := fun k ↦
  (leBytes size.toNat value.toNat ++ .replicate (4 - size.toNat) 0).getD k 0

/-- `write_dram_raw`. -/
def writeDramRaw (pg : Paging) (mem : ℕ → UInt8) (env : OsEnv) (dram_addr : UInt64)
    (value size : UInt32) : LibWrite :=
  if size = 4 ∨ size = 2 ∨ size = 1 then
    let (ret, mem) := seekWrite pg mem env dram_addr (writeTmp value size) size.toNat
    if (Int32.ofInt ret).toUInt32 ≠ size then ⟨some 1, mem, [], env.fd.isSome, false⟩
    else ⟨some 0, mem, [], false, false⟩
  else ⟨some 1, mem, [], env.fd.isSome, false⟩

variable {pg : Paging} {mem : ℕ → UInt8} {env : OsEnv} {dram_addr : UInt64} {value size : UInt32}

/-! ### The path through the driver -/

/-- A call of `mem_map_write` that nothing disturbs. -/
theorem memMapWrite_of_ok {pads : Bool} {user : ℕ → UInt8} {chunk : ℕ → ChunkEnv}
    (hchunk : ∀ i, (chunk i).Ok) {count : ℕ} {ppos : Int64} (h : FitsAt ppos count) :
    (memMapWrite pg pads user chunk count ppos mem).ret = .ok count ∧
      (memMapWrite pg pads user chunk count ppos mem).mem =
        writeBytes mem ppos.toUInt64.toNat (readBytes user 0 count) := by
  obtain ⟨hpos, hsum⟩ := @chunkSizes_pos_sum pg count ppos.toUInt64.toNat
  have hstored : ∀ k, (chunk k).Stored := fun k ↦ ⟨(hchunk k).mapped, (hchunk k).copied⟩
  have hf : (progress chunk 0 (chunkSizes pg ppos.toUInt64.toNat count)).failed = false := by
    by_contra hne
    exact (progress_of_failed hpos (Bool.eq_true_of_not_eq_false hne)).2 fun k _ ↦ hstored _
  obtain ⟨hall, hleft, -⟩ := progress_of_failed_eq_false hf
  rw [memMapWrite_eq h rfl, hf, hall, hleft, hsum]
  exact ⟨rfl, by simp⟩

/-- The system refuses none of the calls an access makes: the device can be opened, the address is a
position it can be sought to and the file layer lets an access of that size through there, and the
driver gets its buffer and its pages and can copy. -/
structure OsEnv.NoFault (pg : Paging) (env : OsEnv) (dram_addr : UInt64) (size : UInt32) :
    Prop where
  opened : env.fd ≠ none
  sought : (memMapLseek 0 dram_addr.toInt64 SEEK_SET).1.isOk = true
  accepted : rwVerifyArea dram_addr.toInt64 size.toNat = true
  buffer : env.nomem = false
  chunk : ∀ i, (env.chunk i).Ok

/-- What reaches the driver is the low bytes of the value. -/
theorem readBytes_writeTmp : readBytes (writeTmp value size) 0 size.toNat =
    leBytes size.toNat value.toNat := by
  refine List.ext_getElem (by simp) fun i hi hi' ↦ ?_
  simp only [readBytes, List.getElem_map, List.getElem_range, writeTmp, Nat.zero_add]
  rw [List.getD_append _ _ _ _ hi', List.getD_eq_getElem _ _ hi']

theorem writeDramRaw_of_noFault (hsize : size = 4 ∨ size = 2 ∨ size = 1)
    (h : env.NoFault pg dram_addr size) :
    (writeDramRaw pg mem env dram_addr value size).ret = some 0 ∧
      (writeDramRaw pg mem env dram_addr value size).mem =
        writeBytes mem dram_addr.toNat (leBytes size.toNat value.toNat) := by
  have hpage := pg.PAGE_SIZE_le
  have hw := width_toNat hsize
  obtain ⟨fd, hfd⟩ := Option.ne_none_iff_exists'.1 h.opened
  have hmin : min size.toNat (2 ^ 31 - pg.PAGE_SIZE) = size.toNat := by omega
  obtain ⟨hret, hmem⟩ := @memMapWrite_of_ok pg mem true (writeTmp value size) _ h.chunk _ _
    (fitsAt_of_rwVerifyArea h.accepted)
  have hwrite : seekWrite pg mem env dram_addr (writeTmp value size) size.toNat =
      ((size.toNat : ℤ), writeBytes mem dram_addr.toNat (leBytes size.toNat value.toNat)) := by
    simp only [seekWrite, hfd, memMapLseek_set h.sought, if_pos h.accepted, hmin, hret]
    rw [hmem, UInt64.toUInt64_toInt64, readBytes_writeTmp]
  rw [writeDramRaw, if_pos hsize, hwrite]
  simp only [(int32_ofInt_toUInt32 hsize).1, ne_eq, not_true_eq_false, if_false, and_self]

theorem readDramRaw_of_noFault (hsize : size = 4 ∨ size = 2 ∨ size = 1)
    (h : env.NoFault pg dram_addr size) :
    (readDramRaw pg mem env dram_addr size).ret = some 0 ∧
      (readDramRaw pg mem env dram_addr size).value =
        some (.ofNat (leNat (readBytes mem dram_addr.toNat size.toNat))) := by
  -- the mapping plays no part in this path, so any one will do
  let env' : OsEnv := { env with vmStart := OsEnv.granting.vmStart, remapFails := false }
  have hgranted : env'.Granted pg :=
    ⟨h.opened, OsEnv.granting_granted.vmStart, rfl, h.chunk⟩
  have hgood : env'.nomem = false ∧ dram_addr.toNat + size.toNat < 2 ^ 63 :=
    ⟨h.buffer, (rwVerifyArea_toInt64 (width_toNat hsize).1).1 h.accepted⟩
  obtain ⟨hret, hvalue⟩ := @readDramRaw_of_granted pg mem env' _ _ hgranted hsize h.sought
  exact ⟨hret.2 hgood, hvalue hgood⟩

/-- **Reading over writing.** A write puts the low bytes of the value at its address and leaves
every other byte alone, and a read brings back the number that the bytes at its address then stand
for, however the two accesses overlap. -/
theorem readDramRaw_writeDramRaw (pg : Paging) (mem : ℕ → UInt8) (env env' : OsEnv)
    (a b : UInt64) (v s t : UInt32) (hs : s = 4 ∨ s = 2 ∨ s = 1) (ht : t = 4 ∨ t = 2 ∨ t = 1)
    (hw : env.NoFault pg a s) (hr : env'.NoFault pg b t) :
    let overlaid := writeBytes mem a.toNat (leBytes s.toNat v.toNat)
    let written := writeDramRaw pg mem env a v s
    let read := readDramRaw pg written.mem env' b t
    written.ret = some 0 ∧ read.ret = some 0 ∧
      read.value = some (.ofNat (leNat (readBytes overlaid b.toNat t.toNat))) ∧
      ∀ x, x < a.toNat ∨ a.toNat + s.toNat ≤ x → written.mem x = mem x := by
  intro overlaid written read
  obtain ⟨hret, hmem⟩ := @writeDramRaw_of_noFault pg mem env a v s hs hw
  obtain ⟨hret', hvalue⟩ := @readDramRaw_of_noFault pg written.mem env' b t ht hr
  refine ⟨hret, hret', ?_, fun x hx ↦ ?_⟩
  · calc read.value = some (.ofNat (leNat (readBytes written.mem b.toNat t.toNat))) := hvalue
      _ = some (.ofNat (leNat (readBytes overlaid b.toNat t.toNat))) := by rw [hmem]
  · calc written.mem x = overlaid x := by rw [hmem]
      _ = mem x := writeBytes_of_outside (by rwa [length_leBytes])

/-- Two bytes read across the end of a four-byte write that straddles a page end. -/
theorem readDramRaw_writeDramRaw_straddle :
    let written := writeDramRaw ⟨12, by decide, by decide⟩ (fun _ ↦ 0x55) .granting 0xf000dffe
      0xaabbccdd 4
    (readDramRaw ⟨12, by decide, by decide⟩ written.mem .granting 0xf000e001 2).value =
      some 0x55aa := by
  have hchunk := @OsEnv.granting_granted ⟨12, by decide, by decide⟩
  exact (readDramRaw_writeDramRaw ⟨12, by decide, by decide⟩ (fun _ ↦ 0x55) .granting .granting
    0xf000dffe 0xf000e001 0xaabbccdd 4 2 (by decide) (by decide)
    ⟨hchunk.fd, by decide, by decide, rfl, hchunk.chunk⟩
    ⟨hchunk.fd, by decide, by decide, rfl, hchunk.chunk⟩).2.2.1

/-! ### The path through the mapping -/

/-- The mapped path, with the protection it passes to `mmap`, stores only where and how its mapping
permits, succeeds, and leaves the memory that the path through the driver leaves. -/
structure WritesAgreeWith (prot : ℕ) (pg : Paging) (mem : ℕ → UInt8) (env : OsEnv)
    (dram_addr : UInt64) (value size : UInt32) : Prop where
  permitted : ∀ l ∈ (writeDramMapRawWith prot pg mem env dram_addr value size).stores,
    prot &&& PROT_WRITE ≠ 0 ∧ env.vmStart ≤ l.1 ∧ l.1 + l.2 ≤ env.vmStart + pg.PAGE_SIZE
  ret : (writeDramMapRawWith prot pg mem env dram_addr value size).ret = some 0
  mem : (writeDramMapRawWith prot pg mem env dram_addr value size).mem =
    (writeDramRaw pg mem env dram_addr value size).mem

/-- The two write paths of the library agree. -/
def WritesAgree : Paging → (ℕ → UInt8) → OsEnv → UInt64 → UInt32 → UInt32 → Prop :=
  WritesAgreeWith PROT_READ

/-- A store needs a writable mapping. -/
theorem userStore_PROT_READ {map : Option UserMap} {va : ℕ} {bytes : List UInt8} :
    userStore mem map PROT_READ va bytes = none := by
  rcases map with - | m
  · rfl
  · rw [userStore, if_neg fun h ↦ h.1 rfl]

/-- With a mapping for reading only the mapped path cannot succeed. -/
theorem writeDramMapRawWith_PROT_READ_ret :
    (writeDramMapRawWith PROT_READ pg mem env dram_addr value size).ret ≠ some 0 := by
  have hone : some (1 : UInt16) ≠ some 0 := by decide
  rw [writeDramMapRawWith]
  simp only [userStore_PROT_READ]
  split
  · exact hone
  · split
    · exact (Option.some_ne_none 0).symm
    · exact hone

/-- What a writable mapping would have made of it. -/
theorem writesAgreeWith_of_writable {prot : ℕ} (hprot : prot &&& PROT_WRITE ≠ 0)
    (hsize : size = 4 ∨ size = 2 ∨ size = 1) (hgranted : env.Granted pg)
    (h : env.NoFault pg dram_addr size)
    (hpage : dram_addr.toNat % pg.PAGE_SIZE + size.toNat ≤ pg.PAGE_SIZE) :
    WritesAgreeWith prot pg mem env dram_addr value size := by
  have hlt := dram_addr.toNat_lt
  have hmod := Nat.mod_lt dram_addr.toNat pg.PAGE_SIZE_pos
  have hsplit := Nat.div_add_mod dram_addr.toNat pg.PAGE_SIZE
  obtain ⟨hzero, hend⟩ := hgranted.vmStart
  have hmap := mmapRead_of_granted hgranted
    (show pg.PAGE_SIZE * (dram_addr.toNat / pg.PAGE_SIZE) < 2 ^ 64 by omega)
  have hva : (env.vmStart + dram_addr.toNat % pg.PAGE_SIZE) % 2 ^ 64 =
      env.vmStart + dram_addr.toNat % pg.PAGE_SIZE := Nat.mod_eq_of_lt (by omega)
  have hstore : userStore mem (some ⟨env.vmStart, pg.PAGE_SIZE,
      pg.PAGE_SIZE * (dram_addr.toNat / pg.PAGE_SIZE)⟩) prot
      (env.vmStart + dram_addr.toNat % pg.PAGE_SIZE) (leBytes size.toNat value.toNat) =
        some (writeBytes mem dram_addr.toNat (leBytes size.toNat value.toNat)) := by
    simp only [userStore, length_leBytes]
    rw [if_pos ⟨hprot, by omega, by omega⟩, Nat.add_sub_cancel_left, hsplit]
  have hpath : writeDramMapRawWith prot pg mem env dram_addr value size =
      ⟨some 0, writeBytes mem dram_addr.toNat (leBytes size.toNat value.toNat),
        [(env.vmStart + dram_addr.toNat % pg.PAGE_SIZE, size.toNat)], env.fd.isSome, false⟩ := by
    unfold writeDramMapRawWith
    simp only [toNat_page_aligned, toNat_in_page_ofst, hmap, Option.elim_some, if_neg hzero, hva]
    rw [if_pos hsize, hstore]
  refine ⟨fun l hl ↦ ?_, by rw [hpath], by rw [hpath, (writeDramRaw_of_noFault hsize h).2]⟩
  rw [hpath, List.mem_singleton] at hl
  subst hl
  exact ⟨hprot, Nat.le_add_right _ _, by omega⟩

/-- **The two write paths never agree**, whatever the memory, the system, the address, the value and
the size: the mapped one ends the process or refuses the size. -/
theorem not_writesAgree (pg : Paging) (mem : ℕ → UInt8) (env : OsEnv) (dram_addr : UInt64)
    (value size : UInt32) : ¬ WritesAgree pg mem env dram_addr value size := fun h ↦
  writeDramMapRawWith_PROT_READ_ret h.ret

/-- A word written where the test programme writes one. -/
theorem writesAgree_word :
    ¬ ∀ (pg : Paging) (mem : ℕ → UInt8) (env : OsEnv) (dram_addr : UInt64) (value size : UInt32),
      size = 4 ∨ size = 2 ∨ size = 1 → env.Granted pg → env.NoFault pg dram_addr size →
      dram_addr.toNat % pg.PAGE_SIZE + size.toNat ≤ pg.PAGE_SIZE →
      WritesAgree pg mem env dram_addr value size := by
  intro h
  have hgranted := @OsEnv.granting_granted ⟨12, by decide, by decide⟩
  have hagree := h ⟨12, by decide, by decide⟩ (fun _ ↦ 0) .granting 0xf000d018 0xffffffff 4
    (by decide) hgranted ⟨hgranted.fd, by decide, by decide, rfl, hgranted.chunk⟩ (by decide)
  exact absurd hagree.ret (by decide)
