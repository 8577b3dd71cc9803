import DriverModules.MemMap.LibResources
import DriverModules.MemMap.ReadChunks

/-!
# libmem when the system refuses something

No function of the library looks at what `open` and `lseek` return, the two that map a page compare
what `mmap` returns with `NULL`, which is not how `mmap` fails, and `read_dram_raw` reads before it
looks at the size and stores to `*value` before it looks at what was read. Here the system may
answer anything: `libRun` is a call of the library in terms of the answers, `AccessLaw` what its
caller relies on, and `accessLaw_iff` says of every call whether it does that.

## The answers, and the driver behind them

`SysAnswers` is what the system answers to one call. `Possible` says which answers there can be: a
mapping has all of its page below `2 ^ 64`, and a transfer that reports a count has moved at least
that many bytes of what was asked for. The driver of the other modules is one such system
(`exists_answers`), which ties this module to them.

## Main results, and what each rests on

* `accessLaw_iff`: for all four functions, and exact. Each has a lemma of its own for the sizes it
  knows (`accessLaw_readDramMapRaw` and so on), and the other sizes are one case for all
  (`accessLaw_of_size`). `LibOp.Meets` reads like the functions because each fails in its own way.
* `accessLaw_of_one`: a call that returns 1 and changes nothing keeps the law, which is how most of
  the cases end.
* `accessLaw_unopened`: on a device that cannot be opened `read_dram_map_raw` loads through
  `MAP_FAILED`.
-/

open Bytes

/-- What the system answers to the calls one function of the library makes. -/
structure SysAnswers where
  /-- `open` succeeds. -/
  opened : Bool
  /-- `lseek` succeeds. -/
  sought : Bool
  /-- Where `mmap` puts the page, if it does. -/
  map : Option ℕ
  /-- What `read` or `write` returns. -/
  ret : ℤ
  /-- What `read` put into the temporary, or `write` into physical memory. -/
  bytes : List UInt8
  deriving DecidableEq, Repr

/-- The file position `read` or `write` starts at: a file just opened is at its beginning. -/
def SysAnswers.pos (a : SysAnswers) (dram_addr : UInt64) : ℕ :=
  if a.sought then dram_addr.toNat else 0

/-- What is to be seen of one call of the library. -/
structure LibOutcome where
  /-- The return value; none when an access through the mapped pointer ended the process. -/
  ret : Option UInt16
  /-- `*value` afterwards. -/
  value : UInt32
  /-- Physical memory afterwards. -/
  mem : ℕ → UInt8
  /-- The accesses through the pointer `mmap` returned, each with its width. -/
  accesses : List (ℕ × ℕ)
  /-- The bytes the kernel moved into or out of the four-byte temporary. -/
  moved : ℕ

section Functions

variable (pg : Paging) (a : SysAnswers) (mem : ℕ → UInt8) (dram_addr : UInt64)
  (value size : UInt32)

/-- The page of the address, when `mmap` maps it. -/
def SysAnswers.page : Option UserMap :=
  a.map.map fun start ↦
    ⟨start, pg.PAGE_SIZE, (dram_addr / .ofNat pg.PAGE_SIZE * .ofNat pg.PAGE_SIZE).toNat⟩

/-- `read_dram_map_raw`; `value` is what `*value` held before. -/
def readDramMapRawOn : LibOutcome :=
  let in_page_ofst := dram_addr % .ofNat pg.PAGE_SIZE
  let tmp := a.map.getD MAP_FAILED
  if tmp = 0 then ⟨some 1, value, mem, [], 0⟩
  else if size = 4 ∨ size = 2 ∨ size = 1 then
    let va := (tmp + in_page_ofst.toNat) % 2 ^ 64
    match userLoad mem (a.page pg dram_addr) va size.toNat with
    | none => ⟨none, value, mem, [(va, size.toNat)], 0⟩
    | some bytes => ⟨some 0, .ofNat (leNat bytes), mem, [(va, size.toNat)], 0⟩
  else ⟨some 1, value, mem, [], 0⟩

/-- `read_dram_raw`; `value` is what `*value` held before. -/
def readDramRawOn : LibOutcome :=
  -- `tmp`, little endian, zero before the read
  let tmp := a.bytes.take 4 ++ .replicate (4 - a.bytes.length) 0
  if size = 4 ∨ size = 2 ∨ size = 1 then
    let value := .ofNat (leNat (tmp.take size.toNat))
    if (Int32.ofInt a.ret).toUInt32 ≠ size then ⟨some 1, value, mem, [], a.bytes.length⟩
    else ⟨some 0, value, mem, [], a.bytes.length⟩
  else ⟨some 1, value, mem, [], a.bytes.length⟩

/-- `write_dram_map_raw`. -/
def writeDramMapRawOn : LibOutcome :=
  let in_page_ofst := dram_addr % .ofNat pg.PAGE_SIZE
  let tmp := a.map.getD MAP_FAILED
  if tmp = 0 then ⟨some 1, value, mem, [], 0⟩
  else if size = 4 ∨ size = 2 ∨ size = 1 then
    let va := (tmp + in_page_ofst.toNat) % 2 ^ 64
    match userStore mem (a.page pg dram_addr) PROT_READ va (leBytes size.toNat value.toNat) with
    | none => ⟨none, value, mem, [(va, size.toNat)], 0⟩
    | some mem => ⟨some 0, value, mem, [(va, size.toNat)], 0⟩
  else ⟨some 1, value, mem, [], 0⟩

/-- `write_dram_raw`. -/
def writeDramRawOn : LibOutcome :=
  if size = 4 ∨ size = 2 ∨ size = 1 then
    let mem := writeBytes mem (a.pos dram_addr) a.bytes
    if (Int32.ofInt a.ret).toUInt32 ≠ size then ⟨some 1, value, mem, [], a.bytes.length⟩
    else ⟨some 0, value, mem, [], a.bytes.length⟩
  else ⟨some 1, value, mem, [], 0⟩

end Functions

/-- One call of the library. -/
def libRun (op : LibOp) (pg : Paging) (a : SysAnswers) (mem : ℕ → UInt8) (dram_addr : UInt64)
    (value size : UInt32) : LibOutcome :=
  match op with
  | .readDramMapRaw => readDramMapRawOn pg a mem dram_addr value size
  | .readDramRaw => readDramRawOn a mem value size
  | .writeDramMapRaw => writeDramMapRawOn pg a mem dram_addr value size
  | .writeDramRaw => writeDramRawOn a mem dram_addr value size

/-- The bytes the function asks `read` or `write` to move. -/
def LibOp.asked (op : LibOp) (a : SysAnswers) (mem : ℕ → UInt8) (dram_addr : UInt64)
    (value size : UInt32) : Option (List UInt8) :=
  match op with
  | .readDramRaw => some (readBytes mem (a.pos dram_addr) size.toNat)
  | .writeDramRaw => some (leBytes size.toNat value.toNat)
  | .readDramMapRaw | .writeDramMapRaw => none

/-- Answers a system can give: nothing works on a device that could not be opened, a mapping lies in
the address space, and `read` and `write` fail or report bytes they did move. -/
structure SysAnswers.Possible (pg : Paging) (a : SysAnswers) (asked : Option (List UInt8)) :
    Prop where
  closed : a.opened = false → a.sought = false ∧ a.map = none ∧ a.ret = -1 ∧ a.bytes = []
  map : ∀ start, a.map = some start → start + pg.PAGE_SIZE ≤ 2 ^ 64
  moved : ∀ data, asked = some data → a.bytes.length ≤ data.length ∧
    (a.ret = -1 ∨ ∃ n ≤ a.bytes.length, a.ret = n ∧ a.bytes.take n = data.take n)

/-- The function reads. -/
def LibOp.reads : LibOp → Bool
  | .readDramMapRaw | .readDramRaw => true
  | .writeDramMapRaw | .writeDramRaw => false

/-- The system does what the function needs of it: the page is mapped, holds the whole access and
may be accessed so, or all bytes were moved from or to the address. -/
def LibOp.Performed (op : LibOp) (pg : Paging) (a : SysAnswers) (dram_addr : UInt64)
    (size : UInt32) : Prop :=
  (size = 4 ∨ size = 2 ∨ size = 1) ∧
    match op with
    | .readDramMapRaw =>
      a.map ≠ none ∧ dram_addr.toNat % pg.PAGE_SIZE + size.toNat ≤ pg.PAGE_SIZE
    | .writeDramMapRaw =>
      a.map ≠ none ∧ dram_addr.toNat % pg.PAGE_SIZE + size.toNat ≤ pg.PAGE_SIZE ∧
        PROT_READ &&& PROT_WRITE ≠ 0
    | .readDramRaw | .writeDramRaw => a.ret = size.toNat ∧ a.pos dram_addr = dram_addr.toNat

/-- What a caller relies on. -/
structure AccessLaw (op : LibOp) (pg : Paging) (a : SysAnswers) (mem : ℕ → UInt8)
    (dram_addr : UInt64) (value size : UInt32) (out : LibOutcome) : Prop where
  /-- An access that is not performed is reported, and changes nothing. -/
  refused : ¬ op.Performed pg a dram_addr size →
    (∃ r, out.ret = some r ∧ r ≠ 0) ∧ out.value = value ∧ out.mem = mem
  /-- A mapping that failed is not accessed. -/
  mapped : a.map = none → out.accesses = []
  /-- The temporary holds what is moved. -/
  fits : out.moved ≤ 4
  /-- A read that succeeds brings the bytes at the address. -/
  found : op.reads → out.ret = some 0 →
    out.value = .ofNat (leNat (readBytes mem dram_addr.toNat size.toNat))

/-- When the function does what its caller relies on. -/
def LibOp.Meets (op : LibOp) (pg : Paging) (a : SysAnswers) (mem : ℕ → UInt8) (dram_addr : UInt64)
    (value size : UInt32) : Prop :=
  if size = 4 ∨ size = 2 ∨ size = 1 then
    match op with
    | .readDramMapRaw => a.map = some 0 ∨
      a.map ≠ none ∧ dram_addr.toNat % pg.PAGE_SIZE + size.toNat ≤ pg.PAGE_SIZE
    | .writeDramMapRaw => a.map = some 0
    | .readDramRaw =>
      if a.ret = size.toNat then a.pos dram_addr = dram_addr.toNat
      else value = .ofNat (leNat a.bytes)
    | .writeDramRaw =>
      if a.ret = size.toNat then a.pos dram_addr = dram_addr.toNat
      else writeBytes mem (a.pos dram_addr) a.bytes = mem
  else op = .readDramRaw → a.bytes.length ≤ 4

variable {op : LibOp} {pg : Paging} {a : SysAnswers} {mem : ℕ → UInt8} {dram_addr : UInt64}
  {value size : UInt32}

theorem uint16_one_ne_zero : (1 : UInt16) ≠ 0 := by decide

/-- A call that reports a failure and changed nothing. -/
theorem accessLaw_of_one {moved : ℕ} (hmoved : moved ≤ 4) :
    AccessLaw op pg a mem dram_addr value size ⟨some 1, value, mem, [], moved⟩ :=
  ⟨fun _ ↦ ⟨⟨1, rfl, uint16_one_ne_zero⟩, rfl, rfl⟩, fun _ ↦ rfl, hmoved,
    fun _ hret ↦ absurd (Option.some.inj hret) uint16_one_ne_zero⟩

/-- What reports no failure, or does not come back, was performed. -/
theorem AccessLaw.performed {out : LibOutcome}
    (h : AccessLaw op pg a mem dram_addr value size out) (hret : ∀ r, out.ret = some r → r = 0) :
    op.Performed pg a dram_addr size := by
  by_contra hp
  obtain ⟨⟨r, hr, hne⟩, -⟩ := h.refused hp
  exact hne (hret r hr)

/-! ### The path through the file -/

/-- The comparison of the library finds a complete transfer. -/
theorem int32_ofInt_toUInt32_eq_iff (hsize : size = 4 ∨ size = 2 ∨ size = 1) {data : List UInt8}
    (hlen : data.length ≤ size.toNat)
    (hret : a.ret = -1 ∨ ∃ n ≤ data.length, a.ret = n) :
    (Int32.ofInt a.ret).toUInt32 = size ↔ a.ret = size.toNat := by
  have hfour := (width_toNat hsize).2
  rcases hret with hret | ⟨n, hn, hret⟩
  · rw [hret]
    exact iff_of_false (int32_ofInt_toUInt32 hsize).2 (by omega)
  · have hnat : ∀ n : ℕ, n ≤ 4 → ((Int32.ofInt n).toUInt32 = size ↔ n = size.toNat) := by
      rcases hsize with rfl | rfl | rfl <;> decide
    rw [hret, hnat n (by omega), Nat.cast_inj]

theorem accessLaw_readDramRaw (hsize : size = 4 ∨ size = 2 ∨ size = 1)
    (h : a.Possible pg (LibOp.readDramRaw.asked a mem dram_addr value size)) :
    AccessLaw .readDramRaw pg a mem dram_addr value size (readDramRawOn a mem value size) ↔
      if a.ret = size.toNat then a.pos dram_addr = dram_addr.toNat
      else value = .ofNat (leNat a.bytes) := by
  obtain ⟨hlen, hret⟩ := h.moved _ rfl
  rw [length_readBytes] at hlen
  have hfour := (width_toNat hsize).2
  have hcomplete : (Int32.ofInt a.ret).toUInt32 = size ↔ a.ret = size.toNat :=
    int32_ofInt_toUInt32_eq_iff hsize hlen (hret.imp_right fun ⟨n, hn, heq, _⟩ ↦ ⟨n, hn, heq⟩)
  have hvalue : leNat ((a.bytes.take 4 ++ .replicate (4 - a.bytes.length) 0).take size.toNat) =
      leNat a.bytes := by
    rw [List.take_of_length_le (l := a.bytes) (by omega), List.take_append,
      List.take_of_length_le hlen, List.take_replicate, leNat_append_zeros]
  simp only [readDramRawOn, if_pos hsize, ne_eq, hcomplete, hvalue]
  by_cases hall : a.ret = size.toNat
  · rw [if_neg (not_not_intro hall), if_pos hall]
    constructor
    · exact fun hlaw ↦ (hlaw.performed fun r hr ↦ (Option.some.inj hr).symm).2.2
    · intro hpos
      have hbytes : a.bytes = readBytes mem dram_addr.toNat size.toNat := by
        obtain hminus | ⟨n, hn, heq, htake⟩ := hret
        · omega
        · rw [List.take_of_length_le (l := a.bytes) (by omega), hpos,
            List.take_of_length_le (by rw [length_readBytes]; omega)] at htake
          exact htake
      exact ⟨fun hp ↦ absurd ⟨hsize, hall, hpos⟩ hp, fun _ ↦ rfl, hlen.trans hfour,
        fun _ _ ↦ congrArg (fun bytes ↦ UInt32.ofNat (leNat bytes)) hbytes⟩
  · rw [if_pos hall, if_neg hall]
    refine ⟨fun hlaw ↦ (hlaw.refused fun hp ↦ hall hp.2.1).2.1.symm, fun hvalue ↦ ?_⟩
    rw [← hvalue]
    exact accessLaw_of_one (hlen.trans hfour)

theorem accessLaw_writeDramRaw (hsize : size = 4 ∨ size = 2 ∨ size = 1)
    (h : a.Possible pg (LibOp.writeDramRaw.asked a mem dram_addr value size)) :
    AccessLaw .writeDramRaw pg a mem dram_addr value size
        (writeDramRawOn a mem dram_addr value size) ↔
      if a.ret = size.toNat then a.pos dram_addr = dram_addr.toNat
      else writeBytes mem (a.pos dram_addr) a.bytes = mem := by
  obtain ⟨hlen, hret⟩ := h.moved _ rfl
  rw [length_leBytes] at hlen
  have hfour := (width_toNat hsize).2
  have hcomplete : (Int32.ofInt a.ret).toUInt32 = size ↔ a.ret = size.toNat :=
    int32_ofInt_toUInt32_eq_iff hsize hlen (hret.imp_right fun ⟨n, hn, heq, _⟩ ↦ ⟨n, hn, heq⟩)
  simp only [writeDramRawOn, if_pos hsize, ne_eq, hcomplete]
  by_cases hall : a.ret = size.toNat
  · rw [if_neg (not_not_intro hall), if_pos hall]
    constructor
    · exact fun hlaw ↦ (hlaw.performed fun r hr ↦ (Option.some.inj hr).symm).2.2
    · intro hpos
      exact ⟨fun hp ↦ absurd ⟨hsize, hall, hpos⟩ hp, fun _ ↦ rfl, hlen.trans hfour,
        fun hreads ↦ absurd hreads Bool.false_ne_true⟩
  · rw [if_pos hall, if_neg hall]
    refine ⟨fun hlaw ↦ (hlaw.refused fun hp ↦ hall hp.2.1).2.2, fun hmem ↦ ?_⟩
    rw [hmem]
    exact accessLaw_of_one (hlen.trans hfour)

/-! ### The path through a mapping -/

/-- Where an access through a page that is mapped goes. -/
theorem page_va {start : ℕ} (hend : start + pg.PAGE_SIZE ≤ 2 ^ 64) :
    (start + (dram_addr % .ofNat pg.PAGE_SIZE).toNat) % 2 ^ 64 =
      start + dram_addr.toNat % pg.PAGE_SIZE := by
  have hmod := Nat.mod_lt dram_addr.toNat pg.PAGE_SIZE_pos
  rw [toNat_in_page_ofst, Nat.mod_eq_of_lt (by omega)]

/-- A load through the page gets on exactly when it stays in the page. -/
theorem userLoad_page {start n : ℕ} (hmap : a.map = some start) :
    userLoad mem (a.page pg dram_addr) (start + dram_addr.toNat % pg.PAGE_SIZE) n =
      if dram_addr.toNat % pg.PAGE_SIZE + n ≤ pg.PAGE_SIZE then
        some (readBytes mem dram_addr.toNat n)
      else none := by
  have hsplit := Nat.div_add_mod dram_addr.toNat pg.PAGE_SIZE
  simp only [SysAnswers.page, hmap, Option.map_some, userLoad, toNat_page_aligned,
    Nat.add_sub_cancel_left, hsplit]
  exact if_congr (by omega) rfl rfl

theorem accessLaw_readDramMapRaw (hsize : size = 4 ∨ size = 2 ∨ size = 1)
    (hmap : ∀ start, a.map = some start → start + pg.PAGE_SIZE ≤ 2 ^ 64) :
    AccessLaw .readDramMapRaw pg a mem dram_addr value size
        (readDramMapRawOn pg a mem dram_addr value size) ↔
      a.map = some 0 ∨ a.map ≠ none ∧
        dram_addr.toNat % pg.PAGE_SIZE + size.toNat ≤ pg.PAGE_SIZE := by
  rcases hstart : a.map with - | start
  · -- `mmap` failed: the library loads through `MAP_FAILED`
    have hfailed : MAP_FAILED ≠ 0 := by decide
    simp only [readDramMapRawOn, hstart, Option.getD_none, if_neg hfailed, if_pos hsize,
      SysAnswers.page, Option.map_none, userLoad]
    refine iff_of_false (fun hlaw ↦ ?_) (by simp)
    exact absurd (hlaw.mapped hstart) (List.cons_ne_nil _ _)
  rcases Nat.eq_zero_or_pos start with rfl | hpos
  · simp only [readDramMapRawOn, hstart, Option.getD_some, if_true]
    exact iff_of_true (accessLaw_of_one (Nat.zero_le 4)) (.inl trivial)
  have hne : ¬ (some start = some 0 : Prop) := fun h ↦ Nat.ne_of_gt hpos (Option.some.inj h)
  simp only [readDramMapRawOn, hstart, Option.getD_some, if_neg (Nat.ne_of_gt hpos), if_pos hsize,
    page_va (hmap start hstart), userLoad_page hstart]
  by_cases hin : dram_addr.toNat % pg.PAGE_SIZE + size.toNat ≤ pg.PAGE_SIZE
  · rw [if_pos hin]
    refine iff_of_true ?_ (.inr ⟨Option.some_ne_none start, hin⟩)
    have hperformed : LibOp.readDramMapRaw.Performed pg a dram_addr size :=
      ⟨hsize, by rw [hstart]; exact Option.some_ne_none start, hin⟩
    exact ⟨fun hp ↦ absurd hperformed hp, fun hnone ↦ absurd (hstart.symm.trans hnone)
      (Option.some_ne_none start), Nat.zero_le 4, fun _ _ ↦ rfl⟩
  · rw [if_neg hin]
    refine iff_of_false (fun hlaw ↦ ?_) fun h ↦ h.elim hne fun h ↦ hin h.2
    exact hin (hlaw.performed fun r hr ↦ absurd hr.symm (Option.some_ne_none r)).2.2

theorem accessLaw_writeDramMapRaw (hsize : size = 4 ∨ size = 2 ∨ size = 1) :
    AccessLaw .writeDramMapRaw pg a mem dram_addr value size
        (writeDramMapRawOn pg a mem dram_addr value size) ↔ a.map = some 0 := by
  by_cases hzero : a.map = some 0
  · simp only [writeDramMapRawOn, hzero, Option.getD_some, if_true]
    exact iff_of_true (accessLaw_of_one (Nat.zero_le 4)) trivial
  · have htmp : a.map.getD MAP_FAILED ≠ 0 := by
      rcases hmap : a.map with - | start
      · decide
      · exact fun h ↦ hzero (hmap.trans (congrArg some h))
    simp only [writeDramMapRawOn, if_neg htmp, if_pos hsize, userStore_PROT_READ]
    refine iff_of_false (fun hlaw ↦ ?_) hzero
    -- no store through the mapping is ever performed
    have hperformed := hlaw.performed fun r hr ↦ absurd hr.symm (Option.some_ne_none r)
    exact hperformed.2.2.2 rfl

/-! ### Every call -/

/-- A size that is none. -/
theorem accessLaw_of_size (hsize : ¬ (size = 4 ∨ size = 2 ∨ size = 1)) :
    AccessLaw op pg a mem dram_addr value size (libRun op pg a mem dram_addr value size) ↔
      (op = .readDramRaw → a.bytes.length ≤ 4) := by
  rcases op with - | - | - | -
  · simp only [libRun, readDramMapRawOn, if_neg hsize, ite_self]
    exact iff_of_true (accessLaw_of_one (Nat.zero_le 4)) (by rintro ⟨⟩)
  · simp only [libRun, readDramRawOn, if_neg hsize]
    exact ⟨fun hlaw _ ↦ hlaw.fits, fun h ↦ accessLaw_of_one (h trivial)⟩
  · simp only [libRun, writeDramMapRawOn, if_neg hsize, ite_self]
    exact iff_of_true (accessLaw_of_one (Nat.zero_le 4)) (by rintro ⟨⟩)
  · simp only [libRun, writeDramRawOn, if_neg hsize]
    exact iff_of_true (accessLaw_of_one (Nat.zero_le 4)) (by rintro ⟨⟩)

/-- **When a call does what its caller relies on**, for every function, argument and answer. -/
theorem accessLaw_iff (op : LibOp) (pg : Paging) (a : SysAnswers) (mem : ℕ → UInt8)
    (dram_addr : UInt64) (value size : UInt32)
    (h : a.Possible pg (op.asked a mem dram_addr value size)) :
    AccessLaw op pg a mem dram_addr value size (libRun op pg a mem dram_addr value size) ↔
      op.Meets pg a mem dram_addr value size := by
  by_cases hsize : size = 4 ∨ size = 2 ∨ size = 1
  · rw [LibOp.Meets.eq_def, if_pos hsize]
    rcases op with - | - | - | -
    · exact accessLaw_readDramMapRaw hsize h.map
    · exact accessLaw_readDramRaw hsize h
    · exact accessLaw_writeDramMapRaw hsize
    · exact accessLaw_writeDramRaw hsize h
  · rw [LibOp.Meets.eq_def, if_neg hsize]
    exact accessLaw_of_size hsize

/-- A word read from where it was sought. -/
theorem accessLaw_word :
    let a : SysAnswers := ⟨true, true, none, 4, [0x18, 0x19, 0x1a, 0x1b]⟩
    AccessLaw .readDramRaw ⟨12, by decide, by decide⟩ a (fun p ↦ .ofNat p) 0xf000d018 0 4
      (libRun .readDramRaw ⟨12, by decide, by decide⟩ a (fun p ↦ .ofNat p) 0xf000d018 0 4) := by
  intro a
  refine (accessLaw_iff .readDramRaw _ a _ _ _ _ ⟨?_, ?_, ?_⟩).2 ?_
  · exact fun h ↦ absurd h.symm Bool.false_ne_true
  · exact fun start h ↦ absurd h.symm (Option.some_ne_none start)
  · intro data hdata
    obtain rfl := Option.some.inj hdata
    exact ⟨by decide, .inr ⟨4, by decide, rfl, by decide⟩⟩
  · rw [LibOp.Meets.eq_def, if_pos (by decide)]
    exact if_pos rfl ▸ rfl

/-- The device cannot be opened: `read_dram_map_raw` loads through `MAP_FAILED`. -/
theorem accessLaw_unopened :
    ¬ ∀ (op : LibOp) (pg : Paging) (a : SysAnswers) (mem : ℕ → UInt8) (dram_addr : UInt64)
      (value size : UInt32), a.Possible pg (op.asked a mem dram_addr value size) →
      AccessLaw op pg a mem dram_addr value size (libRun op pg a mem dram_addr value size) := by
  intro h
  have hnone : ∀ start, (none : Option ℕ) = some start → start + 2 ^ 12 ≤ 2 ^ 64 :=
    fun start h ↦ absurd h.symm (Option.some_ne_none start)
  have hlaw := h .readDramMapRaw ⟨12, by decide, by decide⟩ ⟨false, false, none, -1, []⟩
    (fun _ ↦ 0) 0xf000d018 0 4
    ⟨fun _ ↦ ⟨rfl, rfl, rfl, rfl⟩, hnone, fun data hdata ↦ by cases hdata⟩
  rcases (accessLaw_readDramMapRaw (by decide) hnone).1 hlaw with hzero | ⟨hsome, -⟩
  · cases hzero
  · exact hsome rfl

/-! ### The functions run on the driver -/

/-- The position `lseek` leaves. -/
theorem toNat_memMapLseek {a : SysAnswers}
    (h : a.sought = (memMapLseek 0 dram_addr.toInt64 SEEK_SET).1.isOk) :
    (memMapLseek 0 dram_addr.toInt64 SEEK_SET).2.toUInt64.toNat = a.pos dram_addr := by
  rw [SysAnswers.pos, h]
  split
  · next hok => rw [memMapLseek_set hok, UInt64.toUInt64_toInt64]
  · next hfail =>
    have heq : memMapLseek 0 dram_addr.toInt64 SEEK_SET =
        if 2 ^ 64 - MAX_ERRNO ≤ dram_addr.toInt64.toUInt64.toNat then (.error .EOVERFLOW, 0)
        else (.ok dram_addr.toInt64, dram_addr.toInt64) := rfl
    rw [heq] at hfail ⊢
    split at hfail
    · next hle => rw [if_pos hle]; rfl
    · exact absurd rfl hfail

/-- What `mmap` maps for the library is the page of the address. -/
theorem page_mappedPage {env : OsEnv} {a : SysAnswers}
    (h : a.map = (mappedPage pg env dram_addr).map UserMap.start) :
    a.page pg dram_addr = mappedPage pg env dram_addr := by
  rcases hmap : mappedPage pg env dram_addr with - | m
  · rw [SysAnswers.page, h, hmap]
    rfl
  · rw [SysAnswers.page, h, hmap]
    have hm := hmap
    rcases hfd : env.fd with - | fd
    · rw [mappedPage, mmapRead, hfd] at hm
      cases hm
    have hshift : ((dram_addr / .ofNat pg.PAGE_SIZE * .ofNat pg.PAGE_SIZE).toNat) >>>
        pg.PAGE_SHIFT * pg.PAGE_SIZE =
          (dram_addr / .ofNat pg.PAGE_SIZE * .ofNat pg.PAGE_SIZE).toNat := by
      rw [toNat_page_aligned, Nat.shiftRight_eq_div_pow,
        show 2 ^ pg.PAGE_SHIFT = pg.PAGE_SIZE from rfl,
        Nat.mul_div_cancel_left _ pg.PAGE_SIZE_pos, Nat.mul_comm]
    simp only [mappedPage, mmapRead, hfd, memMapMmap] at hm
    split at hm
    · cases hm
    split at hm
    · cases hm
    split at hm
    · cases hm
    · rw [hshift, Nat.add_sub_cancel_left] at hm
      rw [← Option.some.inj hm]
      rfl

/-- What a write through the driver moves is no more than it was asked to. -/
theorem progress_stored_add_left_le (env : ℕ → ChunkEnv) (sizes : List ℕ) :
    ∀ i, (progress env i sizes).stored + (progress env i sizes).left ≤ sizes.sum := by
  induction sizes with
  | nil => exact fun _ ↦ Nat.le_refl 0
  | cons sz rest ih =>
    intro i
    have hrest := ih (i + 1)
    rw [progress, List.sum_cons]
    split
    · exact Nat.zero_le _
    split
    · dsimp only
      omega
    · dsimp only
      omega

/-- What is to be seen of a function that is run on the driver: the return value, `*value`, physical
memory and the accesses through the mapped pointer. -/
def driverRun (op : LibOp) (pg : Paging) (env : OsEnv) (mem : ℕ → UInt8) (dram_addr : UInt64)
    (value size : UInt32) : Option UInt16 × UInt32 × (ℕ → UInt8) × List (ℕ × ℕ) :=
  match op with
  | .readDramMapRaw =>
    let out := readDramMapRaw pg mem env dram_addr size
    (out.ret, out.value.getD value, mem, out.loads)
  | .readDramRaw =>
    let out := readDramRaw pg mem env dram_addr size
    (out.ret, out.value.getD value, mem, out.loads)
  | .writeDramMapRaw =>
    let out := writeDramMapRaw pg mem env dram_addr value size
    (out.ret, value, out.mem, out.stores)
  | .writeDramRaw =>
    let out := writeDramRaw pg mem env dram_addr value size
    (out.ret, value, out.mem, out.stores)

/-- The answers of a system to a function that works on a mapping. -/
def OsEnv.mapGives (pg : Paging) (env : OsEnv) (dram_addr : UInt64) : SysAnswers :=
  ⟨env.fd.isSome, false, (mappedPage pg env dram_addr).map UserMap.start, -1, []⟩

theorem possible_mapGives (env : OsEnv) (hstart : env.vmStart + pg.PAGE_SIZE ≤ 2 ^ 64) :
    (env.mapGives pg dram_addr).Possible pg none := by
  refine ⟨fun hopen ↦ ?_, fun start hmap ↦ ?_, fun data hdata ↦ by cases hdata⟩
  · have hfd : env.fd = none := Option.not_isSome_iff_eq_none.1 (ne_true_of_eq_false hopen)
    refine ⟨rfl, ?_, rfl, rfl⟩
    simp only [OsEnv.mapGives, mappedPage, mmapRead, hfd, Option.map_none]
  · obtain ⟨m, hm, rfl⟩ := Option.map_eq_some_iff.1 hmap
    rw [(mmapRead_start hm).1]
    exact hstart

theorem map_getD (env : OsEnv) : (env.mapGives pg dram_addr).map.getD MAP_FAILED =
    (mappedPage pg env dram_addr).elim MAP_FAILED UserMap.start := by
  rcases hmap : mappedPage pg env dram_addr with - | m <;> simp [OsEnv.mapGives, hmap]

theorem driverRun_readDramMapRaw (env : OsEnv) :
    let out := readDramMapRawOn pg (env.mapGives pg dram_addr) mem dram_addr value size
    driverRun .readDramMapRaw pg env mem dram_addr value size =
      (out.ret, out.value, out.mem, out.accesses) := by
  simp only [driverRun, readDramMapRaw, readDramMapRawOn, map_getD,
    page_mappedPage (a := env.mapGives pg dram_addr) rfl, mappedPage]
  split
  · rfl
  split
  · generalize userLoad mem _ _ _ = loaded
    rcases loaded with - | bytes <;> rfl
  · rfl

theorem driverRun_writeDramMapRaw (env : OsEnv) :
    let out := writeDramMapRawOn pg (env.mapGives pg dram_addr) mem dram_addr value size
    driverRun .writeDramMapRaw pg env mem dram_addr value size =
      (out.ret, out.value, out.mem, out.accesses) := by
  simp only [driverRun, writeDramMapRaw, writeDramMapRawWith, writeDramMapRawOn, map_getD,
    page_mappedPage (a := env.mapGives pg dram_addr) rfl, mappedPage]
  split
  · rfl
  split
  · generalize userStore mem _ _ _ _ = stored
    rcases stored with - | mem' <;> rfl
  · rfl

/-- What `read` moves and returns: it fails, or it moved all it reports. -/
theorem seekRead_moved (env : OsEnv) (n : ℕ) :
    let (ret, user) := seekRead pg mem env dram_addr n
    user.length ≤ n ∧ (ret = -1 ∨ ret = user.length ∧
      user = readBytes mem (memMapLseek 0 dram_addr.toInt64 SEEK_SET).2.toUInt64.toNat
        user.length) := by
  rcases hfd : env.fd with - | fd
  · simp only [seekRead, hfd]
    exact ⟨Nat.zero_le _, .inl trivial⟩
  simp only [seekRead, hfd]
  by_cases hv : rwVerifyArea (memMapLseek 0 dram_addr.toInt64 SEEK_SET).2 n = true
  · have hfits := (fitsAt_of_rwVerifyArea hv).2
    obtain ⟨hlen, hok⟩ := @memMapRead_moved pg mem env.chunk env.nomem
      (min n (2 ^ 31 - pg.PAGE_SIZE)) (memMapLseek 0 dram_addr.toInt64 SEEK_SET).2 (by omega)
    rw [if_pos hv]
    split
    · next k hk =>
      obtain ⟨rfl, huser⟩ := hok k hk
      have hlength := congrArg List.length huser
      rw [length_readBytes] at hlength
      exact ⟨hlength.trans_le (Nat.min_le_left _ _),
        .inr ⟨congrArg Nat.cast hlength.symm, by rw [hlength]; exact huser⟩⟩
    · exact ⟨hlen.trans (Nat.min_le_left _ _), .inl rfl⟩
  · rw [if_neg hv]
    exact ⟨Nat.zero_le _, .inl rfl⟩

/-- The answers of a system to `read_dram_raw`. -/
def OsEnv.readGives (pg : Paging) (env : OsEnv) (mem : ℕ → UInt8) (dram_addr : UInt64)
    (size : UInt32) : SysAnswers :=
  let (ret, bytes) := seekRead pg mem env dram_addr size.toNat
  ⟨env.fd.isSome, env.fd.isSome && (memMapLseek 0 dram_addr.toInt64 SEEK_SET).1.isOk, none, ret,
    bytes⟩

theorem possible_readGives (env : OsEnv) :
    let a := env.readGives pg mem dram_addr size
    a.Possible pg (some (readBytes mem (a.pos dram_addr) size.toNat)) := by
  intro a
  refine ⟨fun hopen ↦ ?_, fun start h ↦ absurd h.symm (Option.some_ne_none start),
    fun data hdata ↦ ?_⟩
  · have hfd : env.fd = none := Option.not_isSome_iff_eq_none.1 (ne_true_of_eq_false hopen)
    simp only [a, OsEnv.readGives, seekRead, hfd, Option.isSome_none, Bool.false_and, and_self]
  · obtain rfl := Option.some.inj hdata
    obtain ⟨hlen, hret⟩ : a.bytes.length ≤ size.toNat ∧ (a.ret = -1 ∨ a.ret = a.bytes.length ∧
        a.bytes = readBytes mem (memMapLseek 0 dram_addr.toInt64 SEEK_SET).2.toUInt64.toNat
          a.bytes.length) := seekRead_moved env size.toNat
    rw [length_readBytes]
    refine ⟨hlen, ?_⟩
    rcases hret with hret | ⟨hcount, hbytes⟩
    · exact .inl hret
    refine .inr ⟨_, Nat.le_refl _, hcount, ?_⟩
    rw [take_readBytes hlen, List.take_length]
    rcases hfd : env.fd with - | fd
    · have hnone : a.bytes = [] := by simp only [a, OsEnv.readGives, seekRead, hfd]
      rw [hnone]
      rfl
    · have hpos := @toNat_memMapLseek dram_addr a
        (by simp only [a, OsEnv.readGives, hfd, Option.isSome_some, Bool.true_and])
      rwa [hpos] at hbytes

theorem driverRun_readDramRaw {env : OsEnv}
    (h : seekRead pg mem env dram_addr size.toNat = (a.ret, a.bytes)) :
    let out := readDramRawOn a mem value size
    driverRun .readDramRaw pg env mem dram_addr value size =
      (out.ret, out.value, out.mem, out.accesses) := by
  simp only [driverRun, readDramRaw, readDramRawOn, h]
  split_ifs <;> rfl

/-- What `write` moves and returns: it fails, or it moved all it reports. -/
theorem seekWrite_moved (env : OsEnv) (user : ℕ → UInt8) (n : ℕ) :
    ∃ bytes : List UInt8, bytes.length ≤ n ∧ (env.fd = none → bytes = []) ∧
      (seekWrite pg mem env dram_addr user n).2 =
        writeBytes mem (memMapLseek 0 dram_addr.toInt64 SEEK_SET).2.toUInt64.toNat bytes ∧
      ((seekWrite pg mem env dram_addr user n).1 = -1 ∨ env.fd ≠ none ∧ ∃ k ≤ bytes.length,
        (seekWrite pg mem env dram_addr user n).1 = k ∧ bytes.take k = readBytes user 0 k) := by
  rcases hfd : env.fd with - | fd
  · simp only [seekWrite, hfd]
    exact ⟨[], Nat.zero_le _, fun _ ↦ rfl, (writeBytes_nil mem _).symm, .inl trivial⟩
  simp only [seekWrite, hfd]
  by_cases hv : rwVerifyArea (memMapLseek 0 dram_addr.toInt64 SEEK_SET).2 n = true
  · rw [if_pos hv]
    generalize (memMapLseek 0 dram_addr.toInt64 SEEK_SET).2 = pos at hv ⊢
    have hfits : FitsAt pos (min n (2 ^ 31 - pg.PAGE_SIZE)) := by
      obtain ⟨hpos, hend⟩ := fitsAt_of_rwVerifyArea hv
      exact ⟨by omega, by omega⟩
    have hmoved := progress_stored_add_left_le env.chunk
      (chunkSizes pg pos.toUInt64.toNat (min n (2 ^ 31 - pg.PAGE_SIZE))) 0
    rw [(chunkSizes_pos_sum _ _).2] at hmoved
    rw [memMapWrite_eq hfits rfl]
    generalize progress env.chunk 0 _ = r at hmoved ⊢
    refine ⟨readBytes user 0 r.stored ++ .replicate r.left 0, ?_,
      fun h ↦ absurd h (Option.some_ne_none fd), ?_, ?_⟩
    · rw [List.length_append, length_readBytes, List.length_replicate]
      omega
    · split <;> rfl
    · by_cases herr : r.failed = true ∧ r.stored = 0
      · simp only [if_pos herr]
        exact .inl trivial
      · simp only [if_neg herr]
        exact .inr ⟨Option.some_ne_none fd, r.stored,
          by rw [List.length_append, length_readBytes]; omega, rfl,
          List.take_left' (length_readBytes _ _ _)⟩
  · rw [if_neg hv]
    exact ⟨[], Nat.zero_le _, fun _ ↦ rfl, (writeBytes_nil mem _).symm, .inl rfl⟩

/-- The answers of a system to `write_dram_raw`. -/
theorem driverRun_writeDramRaw (env : OsEnv) :
    ∃ a : SysAnswers, a.Possible pg (LibOp.writeDramRaw.asked a mem dram_addr value size) ∧
      let out := writeDramRawOn a mem dram_addr value size
      driverRun .writeDramRaw pg env mem dram_addr value size =
        (out.ret, out.value, out.mem, out.accesses) := by
  obtain ⟨bytes, hlen, hclosed, hmem, hret⟩ := @seekWrite_moved pg mem dram_addr env
    (writeTmp value size) size.toNat
  generalize hanswer : seekWrite pg mem env dram_addr (writeTmp value size) size.toNat = answer
    at hmem hret
  let a : SysAnswers := ⟨env.fd.isSome,
    env.fd.isSome && (memMapLseek 0 dram_addr.toInt64 SEEK_SET).1.isOk, none, answer.1, bytes⟩
  have hmem' : answer.2 = writeBytes mem (a.pos dram_addr) bytes := by
    rcases hfd : env.fd with - | fd
    · rw [hmem, hclosed hfd, writeBytes_nil, writeBytes_nil]
    · rw [hmem, @toNat_memMapLseek dram_addr a
        (by simp only [a, hfd, Option.isSome_some, Bool.true_and])]
  refine ⟨a, ⟨fun hopen ↦ ?_, fun start h ↦ absurd h.symm (Option.some_ne_none start),
    fun data hdata ↦ ?_⟩, ?_⟩
  · have hfd : env.fd = none := Option.not_isSome_iff_eq_none.1 (ne_true_of_eq_false hopen)
    refine ⟨by simp only [a, hfd, Option.isSome_none, Bool.false_and], rfl, ?_, hclosed hfd⟩
    exact hret.resolve_right fun h ↦ h.1 hfd
  · obtain rfl := Option.some.inj hdata
    rw [length_leBytes]
    refine ⟨hlen, hret.imp_right fun ⟨_, k, hk, hcount, htake⟩ ↦ ⟨k, hk, hcount, ?_⟩⟩
    rw [htake, ← take_readBytes (hk.trans hlen), readBytes_writeTmp]
  · simp only [driverRun, writeDramRaw, writeDramRawOn, hanswer]
    split_ifs <;> simp only [hmem'] <;> rfl

/-- **The driver is a system of this kind**: what it makes of a call, the library makes of answers
that are possible. -/
theorem exists_answers (op : LibOp) (pg : Paging) (env : OsEnv) (mem : ℕ → UInt8)
    (dram_addr : UInt64) (value size : UInt32) (hstart : env.vmStart + pg.PAGE_SIZE ≤ 2 ^ 64) :
    ∃ a : SysAnswers, a.Possible pg (op.asked a mem dram_addr value size) ∧
      let out := libRun op pg a mem dram_addr value size
      driverRun op pg env mem dram_addr value size =
        (out.ret, out.value, out.mem, out.accesses) := by
  rcases op with - | - | - | -
  · exact ⟨env.mapGives pg dram_addr, possible_mapGives env hstart, driverRun_readDramMapRaw env⟩
  · exact ⟨env.readGives pg mem dram_addr size, possible_readGives env, driverRun_readDramRaw rfl⟩
  · exact ⟨env.mapGives pg dram_addr, possible_mapGives env hstart, driverRun_writeDramMapRaw env⟩
  · exact driverRun_writeDramRaw env
