import DriverModules.Kernel.Vfs
import DriverModules.MemMap.Read

/-!
# The two ways libmem reads memory

`read_dram_map_raw` maps the page of the address and loads through the mapping; `read_dram_raw`
seeks and reads through the driver. What the rest of the system answers is an `OsEnv`. A load
through a pointer that leads outside the mapping ends the process, so there is no return value then.

The driver splits an access at the page end, the library does not: it maps one page and loads up to
four bytes from anywhere in it. The two paths agree exactly when the access stays in its page, lies
where a file position can point, and the driver gets its bounce buffer (`readsAgree_iff`).
-/

open Bytes

/-- `MAP_FAILED`, `(void *)-1`. -/
def MAP_FAILED : ℕ := 2 ^ 64 - 1

/-- What the system answers to one call of the library. -/
structure OsEnv where
  /-- The descriptor `open` returns, if it does. -/
  fd : Option ℕ
  /-- Where `mmap` places a mapping. -/
  vmStart : ℕ
  remapFails : Bool
  /-- `kmalloc` of the bounce buffer fails. -/
  nomem : Bool
  chunk : ℕ → ChunkEnv

/-- One call of a read function of the library. -/
structure LibRead where
  /-- The return value; none when a load outside every mapping ended the process. -/
  ret : Option UInt16
  /-- What was stored in `*value`. -/
  value : Option UInt32
  /-- The loads through the mapped pointer, each with its width. -/
  loads : List (ℕ × ℕ)
  /-- The bytes the kernel moved into the four-byte temporary. -/
  moved : ℕ
  /-- The descriptor is still open afterwards. -/
  fdLeft : Bool
  /-- The mapping is still there afterwards. -/
  mapLeft : Bool
  deriving DecidableEq, Repr

/-- `mmap(NULL, len, PROT_READ, MAP_SHARED, fd, off)`: the mapping, or `MAP_FAILED`. -/
def mmapRead (pg : Paging) (env : OsEnv) (len off : ℕ) : Option UserMap :=
  match env.fd with
  | none => none
  | some _ =>
    (memMapMmap pg ⟨env.vmStart, env.vmStart + len, off >>> pg.PAGE_SHIFT⟩ env.remapFails).toOption

/-- A load of `n` bytes from user address `va`. -/
def userLoad (mem : ℕ → UInt8) (map : Option UserMap) (va n : ℕ) : Option (List UInt8) :=
  match map with
  | none => none
  | some m =>
    if m.start ≤ va ∧ va + n ≤ m.start + m.len then
      some (readBytes mem (m.phys + (va - m.start)) n)
    else none

/-- `read_dram_map_raw`. -/
def readDramMapRaw (pg : Paging) (mem : ℕ → UInt8) (env : OsEnv) (dram_addr : UInt64)
    (size : UInt32) : LibRead :=
  let page_size := UInt64.ofNat pg.PAGE_SIZE
  let dram_addr_page_aligned := dram_addr / page_size * page_size
  let in_page_ofst := dram_addr % page_size
  let map := mmapRead pg env pg.PAGE_SIZE dram_addr_page_aligned.toNat
  let tmp := map.elim MAP_FAILED UserMap.start
  if tmp = 0 then ⟨some 1, none, [], 0, env.fd.isSome, map.isSome⟩
  else if size = 4 ∨ size = 2 ∨ size = 1 then
    let va := (tmp + in_page_ofst.toNat) % 2 ^ 64
    let loads := [(va, size.toNat)]
    match userLoad mem map va size.toNat with
    | none => ⟨none, none, loads, 0, env.fd.isSome, map.isSome⟩
    | some bytes => ⟨some 0, some (.ofNat (leNat bytes)), loads, 0, env.fd.isSome, false⟩
  else ⟨some 1, none, [], 0, env.fd.isSome, map.isSome⟩

/-- `lseek` and then `read` on a freshly opened device: the return value of `read` and the bytes it
moved. -/
def seekRead (pg : Paging) (mem : ℕ → UInt8) (env : OsEnv) (dram_addr : UInt64) (size : ℕ) :
    ℤ × List UInt8 :=
  match env.fd with
  | none => (-1, [])
  | some _ =>
    let pos := (memMapLseek 0 dram_addr.toInt64 SEEK_SET).2
    if rwVerifyArea pos size then
      let out := memMapRead pg mem env.chunk env.nomem (min size (2 ^ 31 - pg.PAGE_SIZE)) pos
      match out.ret with
      | .ok n => (n, out.user)
      | .error _ => (-1, out.user)
    else (-1, [])

/-- `read_dram_raw`. -/
def readDramRaw (pg : Paging) (mem : ℕ → UInt8) (env : OsEnv) (dram_addr : UInt64)
    (size : UInt32) : LibRead :=
  let (ret, user) := seekRead pg mem env dram_addr size.toNat
  -- `tmp`, little endian, zero before the read
  let tmp := user.take 4 ++ .replicate (4 - user.length) 0
  if size = 4 ∨ size = 2 ∨ size = 1 then
    let value := some (.ofNat (leNat (tmp.take size.toNat)))
    if (Int32.ofInt ret).toUInt32 ≠ size then
      ⟨some 1, value, [], user.length, env.fd.isSome, false⟩
    else ⟨some 0, value, [], user.length, false, false⟩
  else ⟨some 1, none, [], user.length, env.fd.isSome, false⟩

/-! ### When the paths agree -/

/-- `open` and `mmap` succeed, and the memory can be read. -/
structure OsEnv.Granted (pg : Paging) (env : OsEnv) : Prop where
  fd : env.fd ≠ none
  vmStart : env.vmStart ≠ 0 ∧ env.vmStart + pg.PAGE_SIZE < 2 ^ 64
  remap : env.remapFails = false
  chunk : ∀ i, (env.chunk i).Ok

/-- A system that grants every request. -/
def OsEnv.granting : OsEnv where
  fd := some 3
  vmStart := 0x7f0000000000
  remapFails := false
  nomem := false
  chunk _ := ⟨0xffff880000000000, false, 0⟩

theorem OsEnv.granting_granted {pg : Paging} : OsEnv.granting.Granted pg where
  fd := Option.some_ne_none 3
  vmStart := by
    have := pg.PAGE_SIZE_le
    simp only [OsEnv.granting]
    omega
  remap := rfl
  chunk _ := ⟨show (0xffff880000000000 : ℕ) ≠ 0 by decide, rfl, rfl⟩

/-- Both paths succeed with the same value, the number the bytes at the address stand for, and the
loads stay inside the mapped page. -/
structure ReadsAgree (pg : Paging) (mem : ℕ → UInt8) (env : OsEnv) (dram_addr : UInt64)
    (size : UInt32) : Prop where
  inPage : ∀ l ∈ (readDramMapRaw pg mem env dram_addr size).loads,
    env.vmStart ≤ l.1 ∧ l.1 + l.2 ≤ env.vmStart + pg.PAGE_SIZE
  map : (readDramMapRaw pg mem env dram_addr size).ret = some 0 ∧
    (readDramMapRaw pg mem env dram_addr size).value =
      some (.ofNat (leNat (readBytes mem dram_addr.toNat size.toNat)))
  file : (readDramRaw pg mem env dram_addr size).ret = some 0 ∧
    (readDramRaw pg mem env dram_addr size).value =
      some (.ofNat (leNat (readBytes mem dram_addr.toNat size.toNat)))

variable {pg : Paging} {mem : ℕ → UInt8} {env : OsEnv} {dram_addr : UInt64} {size : UInt32}

theorem toNat_page_size : (UInt64.ofNat pg.PAGE_SIZE).toNat = pg.PAGE_SIZE := by
  have := pg.PAGE_SIZE_le
  rw [UInt64.toNat_ofNat']
  omega

/-- The division of the library finds the page of the address. -/
theorem toNat_page_aligned :
    (dram_addr / .ofNat pg.PAGE_SIZE * .ofNat pg.PAGE_SIZE).toNat =
      pg.PAGE_SIZE * (dram_addr.toNat / pg.PAGE_SIZE) := by
  have hlt := dram_addr.toNat_lt
  have hle := Nat.mul_div_le dram_addr.toNat pg.PAGE_SIZE
  rw [UInt64.toNat_mul, UInt64.toNat_div, toNat_page_size, Nat.mul_comm,
    Nat.mod_eq_of_lt (by omega)]

theorem toNat_in_page_ofst :
    (dram_addr % .ofNat pg.PAGE_SIZE).toNat = dram_addr.toNat % pg.PAGE_SIZE := by
  rw [UInt64.toNat_mod, toNat_page_size]

/-- **The mapping of a page** leads to that page. -/
theorem mmapRead_of_granted (h : env.Granted pg) {q : ℕ} (hq : pg.PAGE_SIZE * q < 2 ^ 64) :
    mmapRead pg env pg.PAGE_SIZE (pg.PAGE_SIZE * q) =
      some ⟨env.vmStart, pg.PAGE_SIZE, pg.PAGE_SIZE * q⟩ := by
  have hend := pg.page_add_PAGE_SIZE_le hq
  have hpos := pg.PAGE_SIZE_pos
  have hshift : (pg.PAGE_SIZE * q) >>> pg.PAGE_SHIFT = q := by
    rw [Nat.shiftRight_eq_div_pow]
    exact Nat.mul_div_cancel_left q hpos
  have hback : (q <<< pg.PAGE_SHIFT) % 2 ^ 64 = pg.PAGE_SIZE * q := by
    rw [Nat.shiftLeft_eq, Nat.mul_comm]
    exact Nat.mod_eq_of_lt hq
  obtain ⟨fd, hfd⟩ := Option.ne_none_iff_exists'.1 h.fd
  have hwrap : ¬ (pg.PAGE_SIZE * q + pg.PAGE_SIZE + 2 ^ 64 - 1) % 2 ^ 64 < pg.PAGE_SIZE * q := by
    omega
  simp only [mmapRead, hfd, memMapMmap, hshift, hback, h.remap, Nat.add_sub_cancel_left]
  rw [if_neg (fun hne ↦ hne rfl), if_neg hwrap, if_neg Bool.false_ne_true, Nat.mul_comm]
  rfl

/-! #### The mapped path -/

theorem width_toNat (h : size = 4 ∨ size = 2 ∨ size = 1) : 1 ≤ size.toNat ∧ size.toNat ≤ 4 := by
  rcases h with rfl | rfl | rfl <;> decide

/-- What the mapped path loads, and what it returns when the load stays in the page. -/
theorem readDramMapRaw_of_granted (h : env.Granted pg) (hsize : size = 4 ∨ size = 2 ∨ size = 1) :
    (readDramMapRaw pg mem env dram_addr size).loads =
        [(env.vmStart + dram_addr.toNat % pg.PAGE_SIZE, size.toNat)] ∧
      (dram_addr.toNat % pg.PAGE_SIZE + size.toNat ≤ pg.PAGE_SIZE →
        (readDramMapRaw pg mem env dram_addr size).ret = some 0 ∧
        (readDramMapRaw pg mem env dram_addr size).value =
          some (.ofNat (leNat (readBytes mem dram_addr.toNat size.toNat)))) := by
  have hlt := dram_addr.toNat_lt
  have hmod := Nat.mod_lt dram_addr.toNat pg.PAGE_SIZE_pos
  have hsplit := Nat.div_add_mod dram_addr.toNat pg.PAGE_SIZE
  obtain ⟨hzero, hend⟩ := h.vmStart
  have hmap := mmapRead_of_granted h
    (show pg.PAGE_SIZE * (dram_addr.toNat / pg.PAGE_SIZE) < 2 ^ 64 by omega)
  have hva : (env.vmStart + dram_addr.toNat % pg.PAGE_SIZE) % 2 ^ 64 =
      env.vmStart + dram_addr.toNat % pg.PAGE_SIZE := Nat.mod_eq_of_lt (by omega)
  unfold readDramMapRaw
  simp only [toNat_page_aligned, toNat_in_page_ofst, hmap, Option.elim_some, if_neg hzero, hva]
  rw [if_pos hsize]
  generalize hw : size.toNat = w
  constructor
  · split <;> rfl
  · intro hin
    have hload : userLoad mem (some ⟨env.vmStart, pg.PAGE_SIZE,
        pg.PAGE_SIZE * (dram_addr.toNat / pg.PAGE_SIZE)⟩)
        (env.vmStart + dram_addr.toNat % pg.PAGE_SIZE) w =
          some (readBytes mem dram_addr.toNat w) := by
      simp only [userLoad]
      rw [if_pos (by omega), Nat.add_sub_cancel_left, hsplit]
    rw [hload]
    exact ⟨rfl, rfl⟩

/-! #### The path through the driver -/

theorem memMapLseek_set {offset : Int64} (h : (memMapLseek 0 offset SEEK_SET).1.isOk = true) :
    (memMapLseek 0 offset SEEK_SET).2 = offset := by
  have heq : memMapLseek 0 offset SEEK_SET =
      if 2 ^ 64 - MAX_ERRNO ≤ offset.toUInt64.toNat then (.error .EOVERFLOW, 0)
      else (.ok offset, offset) := rfl
  rw [heq] at h ⊢
  split at h
  · cases h
  · next hlt => rw [if_neg hlt]

/-- An address is a file position the kernel accepts when it is one as a signed number. -/
theorem rwVerifyArea_toInt64 {n : ℕ} (hn : 1 ≤ n) :
    rwVerifyArea dram_addr.toInt64 n = true ↔ dram_addr.toNat + n < 2 ^ 63 := by
  have hlt := dram_addr.toNat_lt
  have hint : dram_addr.toInt64.toInt =
      if 2 * dram_addr.toNat < 2 ^ 64 then (dram_addr.toNat : ℤ)
      else (dram_addr.toNat : ℤ) - (2 ^ 64 : ℕ) := BitVec.toInt_eq_toNat_cond dram_addr.toBitVec
  rw [rwVerifyArea_eq_true, hint, LLONG_MAX]
  split <;> omega

/-- What `lseek` and `read` bring back. -/
theorem seekRead_of_granted (h : env.Granted pg) {n : ℕ} (hn : 1 ≤ n ∧ n ≤ 4)
    (hseek : (memMapLseek 0 dram_addr.toInt64 SEEK_SET).1.isOk = true) :
    seekRead pg mem env dram_addr n =
      if env.nomem = false ∧ dram_addr.toNat + n < 2 ^ 63 then
        ((n : ℤ), readBytes mem dram_addr.toNat n)
      else (-1, []) := by
  have hpage := pg.PAGE_SIZE_le
  have hfour := pg.four_le_PAGE_SIZE
  obtain ⟨fd, hfd⟩ := Option.ne_none_iff_exists'.1 h.fd
  simp only [seekRead, hfd, memMapLseek_set hseek]
  by_cases hrange : dram_addr.toNat + n < 2 ^ 63
  · rw [if_pos ((rwVerifyArea_toInt64 hn.1).2 hrange)]
    rw [show min n (2 ^ 31 - pg.PAGE_SIZE) = n by omega]
    rcases hnomem : env.nomem with - | -
    · have hle : dram_addr.toInt64.toUInt64.toNat + n ≤ 2 ^ 64 := by
        rw [UInt64.toUInt64_toInt64]
        omega
      obtain ⟨hret, huser⟩ := @memMapRead_of_ok pg mem _ h.chunk _ _ hle
      rw [hret, huser, if_pos ⟨rfl, hrange⟩]
      rfl
    · rw [if_neg fun hc ↦ by cases hc.1]
      rfl
  · have hno : ¬ rwVerifyArea dram_addr.toInt64 n = true := fun hv ↦
      hrange ((rwVerifyArea_toInt64 hn.1).1 hv)
    rw [if_neg hno, if_neg fun hc ↦ hrange hc.2]

theorem int32_ofInt_toUInt32 (hsize : size = 4 ∨ size = 2 ∨ size = 1) :
    (Int32.ofInt (size.toNat : ℤ)).toUInt32 = size ∧ (Int32.ofInt (-1)).toUInt32 ≠ size := by
  rcases hsize with rfl | rfl | rfl <;> decide

/-- What the path through the driver returns. -/
theorem readDramRaw_of_granted (h : env.Granted pg) (hsize : size = 4 ∨ size = 2 ∨ size = 1)
    (hseek : (memMapLseek 0 dram_addr.toInt64 SEEK_SET).1.isOk = true) :
    ((readDramRaw pg mem env dram_addr size).ret = some 0 ↔
        env.nomem = false ∧ dram_addr.toNat + size.toNat < 2 ^ 63) ∧
      (env.nomem = false ∧ dram_addr.toNat + size.toNat < 2 ^ 63 →
        (readDramRaw pg mem env dram_addr size).value =
          some (.ofNat (leNat (readBytes mem dram_addr.toNat size.toNat)))) := by
  have hw := width_toNat hsize
  obtain ⟨hn, hone⟩ := int32_ofInt_toUInt32 hsize
  unfold readDramRaw
  rw [seekRead_of_granted h hw hseek]
  by_cases hgood : env.nomem = false ∧ dram_addr.toNat + size.toNat < 2 ^ 63
  · rw [if_pos hgood]
    simp only [hn, ne_eq, not_true_eq_false, if_false]
    rw [if_pos hsize]
    refine ⟨iff_of_true rfl hgood, fun _ ↦ ?_⟩
    have htake : (((readBytes mem dram_addr.toNat size.toNat).take 4 ++
        .replicate (4 - (readBytes mem dram_addr.toNat size.toNat).length) 0).take size.toNat) =
          readBytes mem dram_addr.toNat size.toNat := by
      have hfour : (readBytes mem dram_addr.toNat size.toNat).take 4 =
          readBytes mem dram_addr.toNat size.toNat :=
        List.take_of_length_le (by rw [length_readBytes]; exact hw.2)
      rw [hfour]
      exact List.take_left' (length_readBytes _ _ _)
    rw [htake]
  · rw [if_neg hgood]
    simp only [ne_eq, hone, not_false_eq_true, if_true]
    rw [if_pos hsize]
    exact ⟨iff_of_false (fun hc ↦ by cases hc) hgood, fun hc ↦ absurd hc hgood⟩

/-- **The two paths agree exactly when the access stays in its page, ends below the largest file
position, and the driver gets its bounce buffer.** -/
theorem readsAgree_iff (pg : Paging) (mem : ℕ → UInt8) (env : OsEnv) (dram_addr : UInt64)
    (size : UInt32) (hsize : size = 4 ∨ size = 2 ∨ size = 1) (h : env.Granted pg)
    (hseek : (memMapLseek 0 dram_addr.toInt64 SEEK_SET).1.isOk = true) :
    ReadsAgree pg mem env dram_addr size ↔
      dram_addr.toNat % pg.PAGE_SIZE + size.toNat ≤ pg.PAGE_SIZE ∧
        dram_addr.toNat + size.toNat < 2 ^ 63 ∧ env.nomem = false := by
  obtain ⟨hloads, hmap⟩ := @readDramMapRaw_of_granted pg mem _ _ _ h hsize
  obtain ⟨hret, hvalue⟩ := @readDramRaw_of_granted pg mem _ _ _ h hsize hseek
  constructor
  · intro hagree
    obtain ⟨hnomem, hrange⟩ := hret.1 hagree.file.1
    have hin := (hagree.inPage _ (by rw [hloads]; exact List.mem_singleton_self _)).2
    exact ⟨by omega, hrange, hnomem⟩
  · rintro ⟨hpage, hrange, hnomem⟩
    refine ⟨fun l hl ↦ ?_, hmap hpage, hret.2 ⟨hnomem, hrange⟩, hvalue ⟨hnomem, hrange⟩⟩
    rw [hloads, List.mem_singleton] at hl
    subst hl
    exact ⟨Nat.le_add_right _ _, by omega⟩

/-- Two bytes at the very end of a page. -/
theorem readsAgree_page_end :
    ReadsAgree ⟨12, by decide, by decide⟩ (fun p ↦ .ofNat p) .granting 0xf000dffe 2 :=
  (readsAgree_iff _ _ _ 0xf000dffe 2 (by decide) OsEnv.granting_granted (by decide)).2 (by decide)

/-- Four bytes from there: the mapped path loads two of them from outside the page it mapped. -/
theorem readsAgree_straddle :
    ¬ ∀ (pg : Paging) (mem : ℕ → UInt8) (env : OsEnv) (dram_addr : UInt64) (size : UInt32),
      size = 4 ∨ size = 2 ∨ size = 1 → env.Granted pg → env.nomem = false →
      (memMapLseek 0 dram_addr.toInt64 SEEK_SET).1.isOk = true →
      ReadsAgree pg mem env dram_addr size := by
  intro h
  let pg : Paging := ⟨12, by decide, by decide⟩
  have hagree := h pg (fun _ ↦ 0) .granting 0xf000dffe 4 (by decide) OsEnv.granting_granted rfl
    (by decide)
  have hin := hagree.inPage (0x7f0000000ffe, 4) (by decide)
  exact absurd hin.2 (by decide)
