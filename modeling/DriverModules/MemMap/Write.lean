import DriverModules.MemMap.Read

/-!
# Writing to physical memory

`mem_map_write` splits the range at the page ends like `mem_map_read`, but it has no bounce buffer:
`copy_from_user` stores straight into the mapped page. It can stop in any turn, because the page was
not mapped or because the copy left some bytes, and then reports what was stored until there.

What the loop does depends only on how far the transfer gets (`progress`), which is read off the
sizes of the chunks and the answers of the kernel: `memMapWriteLoop_eq` gives the return value and
the memory in these terms, for every place the loop can be in.

* `memMapWrite_reports` rests on a copy that stores what it reports and nothing else.
* `writeFrame_iff` is about a copy that pads the bytes it could not read with zeros. They land in
  physical memory, behind the range the call reports, so nothing else changes only if they were zero
  already.
-/

open Bytes

/-- `page_is_allowed`: any page is allowed. -/
def pageIsAllowed (_pfn : ℕ) : Bool := true

/-- `copy_from_user`, when it leaves `left` of the bytes; `pads` says that it stores zeros in their
place. -/
def copyFromUser (pads : Bool) (mem : ℕ → UInt8) (ptr : ℕ) (bytes : List UInt8) (left : ℕ) :
    ℕ → UInt8 :=
  writeBytes mem ptr
    (bytes.take (bytes.length - left) ++ if pads then .replicate left 0 else [])

/-- The loop of `mem_map_write` when it is left: what the function is to return, and physical
memory. -/
structure WriteLoop where
  ret : Except Errno ℕ
  mem : ℕ → UInt8

/-- The loop of `mem_map_write`, from its `i`-th turn on; `user` is the user buffer and `buf` the
place in it. -/
def memMapWriteLoop (pg : Paging) (pads : Bool) (user : ℕ → UInt8) (env : ℕ → ChunkEnv)
    (i buf p count written : ℕ) (mem : ℕ → UInt8) : WriteLoop :=
  if _h : 0 < count then
    let sz := pg.sizeInsidePage p count
    let e := env i
    if ¬ pageIsAllowed (p >>> pg.PAGE_SHIFT) then ⟨.error .EPERM, mem⟩
    else
      let ptr := pg.myXlateDevMemPtr p e.vaddr
      if ptr = 0 then
        if written ≠ 0 then ⟨.ok written, mem⟩ else ⟨.error .EFAULT, mem⟩
      else
        let copied := min e.remaining sz
        let mem := copyFromUser pads mem ((p &&& pg.PAGE_MASK) + (ptr - e.vaddr))
          (readBytes user buf sz) copied
        if copied ≠ 0 then
          let written := written + (sz - copied)
          if written ≠ 0 then ⟨.ok written, mem⟩ else ⟨.error .EFAULT, mem⟩
        else
          memMapWriteLoop pg pads user env (i + 1) (buf + sz) ((p + sz) % 2 ^ 64) (count - sz)
            (written + sz) mem
  else ⟨.ok written, mem⟩
termination_by count
decreasing_by
  have := pg.sizeInsidePage_pos p _h
  omega

/-- What one call of `mem_map_write` did: its return value, the new position, physical memory. -/
structure WriteOut where
  ret : Except Errno ℕ
  pos : Int64
  mem : ℕ → UInt8

/-- `mem_map_write`. The test `p != *ppos` is never true, since `phys_addr_t` is as wide as
`loff_t`. -/
def memMapWrite (pg : Paging) (pads : Bool) (user : ℕ → UInt8) (env : ℕ → ChunkEnv) (count : ℕ)
    (ppos : Int64) (mem : ℕ → UInt8) : WriteOut :=
  let p := ppos.toUInt64.toNat
  let loop := memMapWriteLoop pg pads user env 0 0 p count 0 mem
  match loop.ret with
  | .error e => ⟨.error e, ppos, loop.mem⟩
  | .ok written => ⟨.ok written, ppos + .ofNat written, loop.mem⟩

/-! ### How far a transfer gets -/

/-- The sizes of the pieces the page ends cut the range into. -/
def chunkSizes (pg : Paging) (p count : ℕ) : List ℕ :=
  if _h : 0 < count then
    let sz := pg.sizeInsidePage p count
    sz :: chunkSizes pg ((p + sz) % 2 ^ 64) (count - sz)
  else []
termination_by count
decreasing_by
  have := pg.sizeInsidePage_pos p _h
  omega

/-- The page of the chunk is mapped and the copy leaves nothing. -/
def ChunkEnv.Stored (e : ChunkEnv) : Prop := e.vaddr ≠ 0 ∧ e.remaining = 0

/-- How far a transfer gets: the bytes stored, the bytes behind them that a failing copy leaves, and
whether a chunk failed. -/
structure Progress where
  stored : ℕ
  left : ℕ
  failed : Bool
  deriving DecidableEq, Repr

/-- How far the chunks of the given sizes get, the first of them being the `i`-th. -/
def progress (env : ℕ → ChunkEnv) : ℕ → List ℕ → Progress
  | _, [] => ⟨0, 0, false⟩
  | i, sz :: rest =>
    if (env i).vaddr = 0 then ⟨0, 0, true⟩
    else if (env i).remaining = 0 then
      let r := progress env (i + 1) rest
      ⟨sz + r.stored, r.left, r.failed⟩
    else ⟨sz - (env i).remaining, min (env i).remaining sz, true⟩

variable {pg : Paging} {pads : Bool} {user : ℕ → UInt8} {env : ℕ → ChunkEnv} {mem : ℕ → UInt8}
  {i buf p count written : ℕ}

theorem chunkSizes_zero : chunkSizes pg p 0 = [] := by
  rw [chunkSizes, dif_neg (Nat.lt_irrefl 0)]

theorem chunkSizes_of_pos (h : 0 < count) :
    chunkSizes pg p count = pg.sizeInsidePage p count ::
      chunkSizes pg ((p + pg.sizeInsidePage p count) % 2 ^ 64)
        (count - pg.sizeInsidePage p count) := by
  rw [chunkSizes, dif_pos h]

/-- The pieces are not empty and make up the range. -/
theorem chunkSizes_pos_sum (count : ℕ) :
    ∀ p, (∀ sz ∈ chunkSizes pg p count, 0 < sz) ∧ (chunkSizes pg p count).sum = count := by
  induction count using Nat.strong_induction_on with
  | _ count ih =>
    intro p
    rcases Nat.eq_zero_or_pos count with rfl | hcount
    · rw [chunkSizes_zero]
      exact ⟨fun _ hsz ↦ absurd hsz List.not_mem_nil, rfl⟩
    · have hpos := pg.sizeInsidePage_pos p hcount
      have hle := pg.sizeInsidePage_le p count
      obtain ⟨hrest, hsum⟩ := ih (count - pg.sizeInsidePage p count) (by omega)
        ((p + pg.sizeInsidePage p count) % 2 ^ 64)
      rw [chunkSizes_of_pos hcount, List.sum_cons, hsum]
      exact ⟨List.forall_mem_cons.2 ⟨hpos, hrest⟩, Nat.add_sub_cancel' hle⟩

/-! ### One turn of the loop -/

theorem not_not_pageIsAllowed (pfn : ℕ) : ¬ ¬ pageIsAllowed pfn = true := not_not_intro rfl

theorem myXlateDevMemPtr_ne_zero {vaddr : ℕ} (h : vaddr ≠ 0) :
    pg.myXlateDevMemPtr p vaddr ≠ 0 := by
  rw [Paging.myXlateDevMemPtr, if_pos h]
  omega

/-- The page cannot be mapped. -/
theorem memMapWriteLoop_of_unmapped (hcount : 0 < count) (hv : (env i).vaddr = 0) :
    memMapWriteLoop pg pads user env i buf p count written mem =
      ⟨if written = 0 then .error .EFAULT else .ok written, mem⟩ := by
  have hptr : pg.myXlateDevMemPtr p (env i).vaddr = 0 := by
    rw [hv, Paging.myXlateDevMemPtr, if_neg (not_not_intro rfl)]
  rw [memMapWriteLoop, dif_pos hcount]
  simp only [if_neg (not_not_pageIsAllowed _), if_pos hptr, ite_not]
  split <;> rfl

/-- The copy stops in the middle of the chunk. -/
theorem memMapWriteLoop_of_left (hcount : 0 < count) (hp : p < 2 ^ 64) (hv : (env i).vaddr ≠ 0)
    (hrem : (env i).remaining ≠ 0) :
    let sz := pg.sizeInsidePage p count
    memMapWriteLoop pg pads user env i buf p count written mem =
      ⟨if written + (sz - (env i).remaining) = 0 then .error .EFAULT
        else .ok (written + (sz - (env i).remaining)),
      writeBytes mem p (readBytes user buf (sz - (env i).remaining) ++
        if pads then .replicate (min (env i).remaining sz) 0 else [])⟩ := by
  have hpos := pg.sizeInsidePage_pos p hcount
  rw [memMapWriteLoop, dif_pos hcount]
  generalize pg.sizeInsidePage p count = sz at hpos ⊢
  have hcopied : min (env i).remaining sz ≠ 0 := by omega
  have hsub : sz - min (env i).remaining sz = sz - (env i).remaining := by omega
  simp only [if_neg (not_not_pageIsAllowed _), if_neg (myXlateDevMemPtr_ne_zero hv), if_pos hcopied,
    copyFromUser, length_readBytes, myXlateDevMemPtr_sub hp hv, hsub, ite_not,
    take_readBytes (Nat.sub_le sz (env i).remaining)]
  split <;> rfl

/-- The chunk is stored, and the loop goes on behind it. -/
theorem memMapWriteLoop_of_stored (hcount : 0 < count) (hp : p < 2 ^ 64) (he : (env i).Stored) :
    let sz := pg.sizeInsidePage p count
    memMapWriteLoop pg pads user env i buf p count written mem =
      memMapWriteLoop pg pads user env (i + 1) (buf + sz) ((p + sz) % 2 ^ 64) (count - sz)
        (written + sz) (writeBytes mem p (readBytes user buf sz)) := by
  obtain ⟨hv, hrem⟩ := he
  rw [memMapWriteLoop, dif_pos hcount]
  simp only [if_neg (not_not_pageIsAllowed _), if_neg (myXlateDevMemPtr_ne_zero hv), hrem,
    Nat.zero_min, ne_eq, not_true_eq_false, if_false, copyFromUser, length_readBytes,
    myXlateDevMemPtr_sub hp hv, Nat.sub_zero, List.replicate_zero, ite_self, List.append_nil,
    take_readBytes (Nat.le_refl _)]

/-- **What the loop does, from any place it can be in.** -/
theorem memMapWriteLoop_eq (count : ℕ) :
    ∀ i buf p written mem, p + count ≤ 2 ^ 64 →
      let r := progress env i (chunkSizes pg p count)
      memMapWriteLoop pg pads user env i buf p count written mem =
        ⟨if r.failed = true ∧ written + r.stored = 0 then .error .EFAULT
          else .ok (written + r.stored),
        writeBytes mem p (readBytes user buf r.stored ++
          if pads then .replicate r.left 0 else [])⟩ := by
  induction count using Nat.strong_induction_on with
  | _ count ih =>
    intro i buf p written mem hle
    rcases Nat.eq_zero_or_pos count with rfl | hcount
    · rw [memMapWriteLoop, dif_neg (Nat.lt_irrefl 0), chunkSizes_zero]
      simp [progress]
    have hp : p < 2 ^ 64 := by omega
    rw [chunkSizes_of_pos hcount, progress]
    by_cases hv : (env i).vaddr = 0
    · rw [memMapWriteLoop_of_unmapped hcount hv, if_pos hv]
      simp
    rw [if_neg hv]
    by_cases hrem : (env i).remaining = 0
    · rw [memMapWriteLoop_of_stored hcount hp ⟨hv, hrem⟩, if_pos hrem]
      have hpos := pg.sizeInsidePage_pos p hcount
      have hsz := pg.sizeInsidePage_le p count
      generalize pg.sizeInsidePage p count = sz at hpos hsz ⊢
      have hend : ((p + sz) % 2 ^ 64) + (count - sz) ≤ 2 ^ 64 := by omega
      rw [ih (count - sz) (by omega) _ _ _ _ _ hend]
      rcases Nat.eq_or_lt_of_le hsz with rfl | hlt
      · -- the last piece; what follows is empty, wherever it would start
        simp [chunkSizes_zero, progress]
      · have hmod : (p + sz) % 2 ^ 64 = p + sz := Nat.mod_eq_of_lt (by omega)
        rw [hmod]
        simp only [readBytes_add, List.append_assoc, Nat.add_assoc, writeBytes_append mem p,
          length_readBytes]
    · rw [memMapWriteLoop_of_left hcount hp hv hrem, if_neg hrem]
      simp

/-! ### What a transfer that got so far means -/

/-- Without a failure everything is stored, and a failure is a chunk that failed. -/
theorem progress_of_failed_eq_false {sizes : List ℕ} (h : (progress env i sizes).failed = false) :
    (progress env i sizes).stored = sizes.sum ∧ (progress env i sizes).left = 0 ∧
      ∀ k < sizes.length, (env (i + k)).Stored := by
  induction sizes generalizing i with
  | nil => exact ⟨rfl, rfl, fun k hk ↦ absurd hk (Nat.not_lt_zero k)⟩
  | cons sz rest ih =>
    rw [progress] at h ⊢
    split at h
    · cases h
    next hv =>
    split at h
    · next hrem =>
      obtain ⟨hstored, hleft, hall⟩ := ih h
      rw [if_neg hv, if_pos hrem]
      refine ⟨by rw [List.sum_cons, ← hstored], hleft, fun k hk ↦ ?_⟩
      rcases k with - | k
      · exact ⟨hv, hrem⟩
      · have hk' := hall k (Nat.lt_of_succ_lt_succ hk)
        rwa [Nat.add_right_comm, Nat.add_assoc] at hk'
    · cases h

/-- After a failure something is missing. -/
theorem progress_of_failed {sizes : List ℕ} (hpos : ∀ sz ∈ sizes, 0 < sz)
    (h : (progress env i sizes).failed = true) :
    (progress env i sizes).stored < sizes.sum ∧
      ¬ ∀ k < sizes.length, (env (i + k)).Stored := by
  induction sizes generalizing i with
  | nil => cases h
  | cons sz rest ih =>
    obtain ⟨hsz, hrest⟩ := List.forall_mem_cons.1 hpos
    rw [progress] at h ⊢
    rw [List.sum_cons]
    by_cases hv : (env i).vaddr = 0
    · rw [if_pos hv]
      exact ⟨show 0 < sz + rest.sum by omega, fun hall ↦ (hall 0 (Nat.succ_pos _)).1 hv⟩
    by_cases hrem : (env i).remaining = 0
    · rw [if_neg hv, if_pos hrem] at h ⊢
      obtain ⟨hlt, hsome⟩ := ih hrest h
      refine ⟨Nat.add_lt_add_left hlt sz, fun hall ↦ hsome fun k hk ↦ ?_⟩
      rw [Nat.add_right_comm, Nat.add_assoc]
      exact hall (k + 1) (Nat.succ_lt_succ hk)
    · rw [if_neg hv, if_neg hrem]
      exact ⟨show sz - (env i).remaining < sz + rest.sum by omega,
        fun hall ↦ hrem (hall 0 (Nat.succ_pos _)).2⟩

/-- **Everything is stored exactly when no chunk fails**, and never more than that. -/
theorem progress_stored_iff {sizes : List ℕ} (hpos : ∀ sz ∈ sizes, 0 < sz) :
    (progress env i sizes).stored ≤ sizes.sum ∧
      ((progress env i sizes).stored = sizes.sum ↔ ∀ k < sizes.length, (env (i + k)).Stored) := by
  rcases hf : (progress env i sizes).failed with - | -
  · obtain ⟨hstored, -, hall⟩ := progress_of_failed_eq_false hf
    exact ⟨Nat.le_of_eq hstored, iff_of_true hstored hall⟩
  · obtain ⟨hlt, hsome⟩ := progress_of_failed hpos hf
    exact ⟨Nat.le_of_lt hlt, iff_of_false (Nat.ne_of_lt hlt) hsome⟩

/-- Byte `x` of the range is one that the copy which fails leaves behind: its chunk is mapped, the
chunks before it were stored, and it is among the last bytes of its chunk. -/
def LeftBehind (env : ℕ → ChunkEnv) (i : ℕ) (sizes : List ℕ) (x : ℕ) : Prop :=
  ∃ k sz, sizes[k]? = some sz ∧ (∀ j < k, (env (i + j)).Stored) ∧ (env (i + k)).vaddr ≠ 0 ∧
    (sizes.take k).sum + (sz - (env (i + k)).remaining) ≤ x ∧ x < (sizes.take k).sum + sz

theorem leftBehind_cons {sz x : ℕ} {rest : List ℕ} :
    LeftBehind env i (sz :: rest) x ↔
      (env i).vaddr ≠ 0 ∧ sz - (env i).remaining ≤ x ∧ x < sz ∨
        (env i).Stored ∧ sz ≤ x ∧ LeftBehind env (i + 1) rest (x - sz) := by
  have hshift : ∀ j, i + (j + 1) = i + 1 + j := fun j ↦ by omega
  constructor
  · rintro ⟨k, sz', hget, hbefore, hv, hle, hlt⟩
    rcases k with - | k
    · obtain rfl : sz = sz' := by simpa using hget
      rw [List.take_zero, List.sum_nil, Nat.zero_add] at hle hlt
      exact .inl ⟨hv, hle, hlt⟩
    · rw [List.take_succ_cons, List.sum_cons, hshift] at hle
      rw [List.take_succ_cons, List.sum_cons] at hlt
      rw [hshift] at hv
      refine .inr ⟨hbefore 0 (Nat.succ_pos k), by omega, k, sz', hget, fun j hj ↦ ?_, hv, by omega,
        by omega⟩
      rw [← hshift]
      exact hbefore (j + 1) (Nat.succ_lt_succ hj)
  · rintro (⟨hv, hle, hlt⟩ | ⟨hstored, hsz, k, sz', hget, hbefore, hv, hle, hlt⟩)
    · exact ⟨0, sz, rfl, fun j hj ↦ absurd hj (Nat.not_lt_zero j), hv, by simpa using hle,
        by simpa using hlt⟩
    · refine ⟨k + 1, sz', hget, fun j hj ↦ ?_, by rwa [hshift], ?_, ?_⟩
      · rcases j with - | j
        · exact hstored
        · rw [hshift]
          exact hbefore j (Nat.lt_of_succ_lt_succ hj)
      · rw [List.take_succ_cons, List.sum_cons, hshift]
        omega
      · rw [List.take_succ_cons, List.sum_cons]
        omega

theorem leftBehind_iff {sizes : List ℕ} {x : ℕ} :
    LeftBehind env i sizes x ↔ (progress env i sizes).stored ≤ x ∧
      x < (progress env i sizes).stored + (progress env i sizes).left := by
  induction sizes generalizing i x with
  | nil =>
    refine iff_of_false (fun ⟨k, sz, hget, _⟩ ↦ ?_) fun ⟨_, hlt⟩ ↦ Nat.not_lt_zero x hlt
    rw [List.getElem?_nil] at hget
    cases hget
  | cons sz rest ih =>
    rw [leftBehind_cons, progress, ih, ChunkEnv.Stored]
    by_cases hv : (env i).vaddr = 0
    · rw [if_pos hv]
      refine iff_of_false ?_ fun ⟨_, hlt⟩ ↦ Nat.not_lt_zero x hlt
      rintro (⟨hne, -⟩ | ⟨⟨hne, -⟩, -⟩)
      exacts [hne hv, hne hv]
    by_cases hrem : (env i).remaining = 0
    · simp only [if_neg hv, hrem]
      grind
    · simp only [if_neg hv, if_neg hrem]
      grind

/-! ### One call -/

/-- The position and the count do not overflow, neither as `loff_t` nor as `phys_addr_t`. -/
def FitsAt (ppos : Int64) (count : ℕ) : Prop :=
  ppos.toInt + count < 2 ^ 63 ∧ ppos.toUInt64.toNat + count < 2 ^ 64

instance (ppos : Int64) (count : ℕ) : Decidable (FitsAt ppos count) :=
  inferInstanceAs (Decidable (_ ∧ _))

variable {ppos : Int64}

theorem toInt_add_ofNat {n : ℕ} (h : ppos.toInt + n < 2 ^ 63) :
    (ppos + .ofNat n).toInt = ppos.toInt + n := by
  have hge : -2 ^ 63 ≤ ppos.toInt := ppos.le_toInt
  rw [Int64.toInt_add, Int64.toInt_ofNat', show Int64.size = 2 ^ 64 from rfl, Int.add_bmod_bmod,
    Int.bmod_def]
  omega

/-- One call, in terms of how far its transfer gets. -/
theorem memMapWrite_eq (h : FitsAt ppos count) {r : Progress}
    (hr : progress env 0 (chunkSizes pg ppos.toUInt64.toNat count) = r) :
    memMapWrite pg pads user env count ppos mem =
      ⟨if r.failed = true ∧ r.stored = 0 then .error .EFAULT else .ok r.stored,
      ppos + .ofNat r.stored,
      writeBytes mem ppos.toUInt64.toNat
        (readBytes user 0 r.stored ++ if pads then .replicate r.left 0 else [])⟩ := by
  have hloop := @memMapWriteLoop_eq pg pads user env count 0 0 _ 0 mem (Nat.le_of_lt h.2)
  simp only [hr, Nat.zero_add] at hloop
  rw [memMapWrite, hloop]
  by_cases herr : r.failed = true ∧ r.stored = 0
  · rw [if_pos herr, herr.2, show ppos + .ofNat 0 = ppos from Int64.add_zero ppos]
  · rw [if_neg herr]

/-- **What the call reports is what it did**: the bytes it returns are stored, the position moved
over them, an error means that nothing was stored, and everything was stored exactly when no chunk
failed. -/
theorem memMapWrite_reports (pg : Paging) (user : ℕ → UInt8) (env : ℕ → ChunkEnv) (count : ℕ)
    (ppos : Int64) (mem : ℕ → UInt8) (h : FitsAt ppos count) :
    let p := ppos.toUInt64.toNat
    let out := memMapWrite pg false user env count ppos mem
    (∀ n, out.ret = .ok n → n ≤ count ∧ out.mem = writeBytes mem p (readBytes user 0 n) ∧
        out.pos.toInt = ppos.toInt + n) ∧
      (∀ e, out.ret = .error e → e = .EFAULT ∧ out.mem = mem ∧ out.pos = ppos) ∧
      (out.ret = .ok count ↔ ∀ k < (chunkSizes pg p count).length, (env k).Stored) := by
  obtain ⟨hpos, hsum⟩ := @chunkSizes_pos_sum pg count ppos.toUInt64.toNat
  obtain ⟨hle, hall⟩ := @progress_stored_iff env 0 _ hpos
  have hlt := fun hf ↦ (@progress_of_failed env 0 _ hpos hf).1
  generalize hr : progress env 0 (chunkSizes pg ppos.toUInt64.toNat count) = r at hle hall hlt
  simp only [hsum, Nat.zero_add] at hle hall hlt
  simp only [memMapWrite_eq h hr, ← hall, Bool.false_eq_true, if_false, List.append_nil]
  by_cases herr : r.failed = true ∧ r.stored = 0
  · rw [if_pos herr, herr.2]
    refine ⟨by rintro n ⟨⟩, fun e he ↦ ?_, iff_of_false (by rintro ⟨⟩) ?_⟩
    · obtain rfl := Except.error.inj he
      exact ⟨rfl, writeBytes_nil mem _, Int64.add_zero ppos⟩
    · have := hlt herr.1
      omega
  · rw [if_neg herr]
    refine ⟨fun n hn ↦ ?_, by rintro e ⟨⟩, by rw [Except.ok.injEq]⟩
    obtain rfl := Except.ok.inj hn
    have := h.1
    exact ⟨hle, rfl, toInt_add_ofNat (by omega)⟩

/-- Eight bytes across a page end whose second page is not mapped: the call cannot return `8`. -/
theorem memMapWrite_reports_short :
    (memMapWrite ⟨12, by decide, by decide⟩ false (fun k ↦ .ofNat k)
      (fun k ↦ ⟨1 - k, false, 0⟩) 8 0xffc fun _ ↦ 0).ret ≠ .ok 8 := by
  intro hret
  have hall := (memMapWrite_reports ⟨12, by decide, by decide⟩ (fun k ↦ .ofNat k)
    (fun k ↦ ⟨1 - k, false, 0⟩) 8 0xffc (fun _ ↦ 0) (by decide)).2.2.1 hret
  refine (hall 1 ?_).1 rfl
  rw [chunkSizes_of_pos (by decide), chunkSizes_of_pos (by decide)]
  exact Nat.succ_lt_succ (Nat.succ_pos _)

/-! ### What a copy that pads does to the memory behind a short write -/

/-- The bytes outside the reported range keep their values; after an error all bytes do. -/
def WriteFrame (pg : Paging) (user : ℕ → UInt8) (env : ℕ → ChunkEnv) (count : ℕ) (ppos : Int64)
    (mem : ℕ → UInt8) : Prop :=
  let p := ppos.toUInt64.toNat
  let out := memMapWrite pg true user env count ppos mem
  match out.ret with
  | .ok n => ∀ x, x < p ∨ p + n ≤ x → out.mem x = mem x
  | .error _ => ∀ x, out.mem x = mem x

/-- Zeros behind the stored bytes show exactly where there were none. -/
theorem writeBytes_zeros_frame {bs : List UInt8} {left : ℕ} :
    (∀ x, x < p ∨ p + bs.length ≤ x →
        writeBytes mem p (bs ++ .replicate left 0) x = mem x) ↔
      ∀ x, bs.length ≤ x → x < bs.length + left → mem (p + x) = 0 := by
  constructor
  · intro h x hle hlt
    have hlen : x < (bs ++ .replicate left 0).length := by simpa using hlt
    rw [← h (p + x) (.inr (Nat.add_le_add_left hle p)), writeBytes_add hlen,
      List.getElem_append_right hle, List.getElem_replicate]
  · intro h x hx
    by_cases hout : x < p ∨ p + (bs ++ .replicate left (0 : UInt8)).length ≤ x
    · exact writeBytes_of_outside hout
    · simp only [List.length_append, List.length_replicate] at hout
      obtain ⟨k, rfl⟩ := Nat.exists_eq_add_of_le (show p ≤ x by omega)
      have hlen : k < (bs ++ .replicate left (0 : UInt8)).length := by
        simp only [List.length_append, List.length_replicate]
        omega
      rw [writeBytes_add hlen, List.getElem_append_right (by omega), List.getElem_replicate,
        h k (by omega) (by omega)]

/-- **Nothing outside the reported range changes exactly when the bytes the failing copy leaves
behind were zero.** -/
theorem writeFrame_iff (pg : Paging) (user : ℕ → UInt8) (env : ℕ → ChunkEnv) (count : ℕ)
    (ppos : Int64) (mem : ℕ → UInt8) (h : FitsAt ppos count) :
    WriteFrame pg user env count ppos mem ↔
      ∀ x, LeftBehind env 0 (chunkSizes pg ppos.toUInt64.toNat count) x →
        mem (ppos.toUInt64.toNat + x) = 0 := by
  simp only [leftBehind_iff]
  generalize hr : progress env 0 (chunkSizes pg ppos.toUInt64.toNat count) = r
  have hframe := @writeBytes_zeros_frame mem ppos.toUInt64.toNat (readBytes user 0 r.stored) r.left
  simp only [length_readBytes] at hframe
  simp only [WriteFrame, memMapWrite_eq h hr, if_true, and_imp]
  rw [← hframe]
  by_cases herr : r.failed = true ∧ r.stored = 0
  · rw [if_pos herr, herr.2]
    exact forall_congr' fun x ↦ (imp_iff_right (by omega)).symm
  · rw [if_neg herr]

/-- A short write into zeroed memory leaves the rest of it alone. -/
theorem writeFrame_zeroed :
    WriteFrame ⟨12, by decide, by decide⟩ (fun _ ↦ 1) (fun _ ↦ ⟨1, false, 2⟩) 4 0x1000 fun _ ↦ 0 :=
  (writeFrame_iff _ _ _ 4 0x1000 _ (by decide)).2 fun _ _ ↦ rfl

/-- A copy of four bytes that leaves two: the call returns `2` and the two bytes behind are gone. -/
theorem writeFrame_short :
    ¬ ∀ (pg : Paging) (user : ℕ → UInt8) (env : ℕ → ChunkEnv) (count : ℕ) (ppos : Int64)
      (mem : ℕ → UInt8), FitsAt ppos count → WriteFrame pg user env count ppos mem := by
  intro h
  have hframe := h ⟨12, by decide, by decide⟩ (fun _ ↦ 1) (fun _ ↦ ⟨1, false, 2⟩) 4 0x1000
    (fun _ ↦ 0xff) (by decide)
  have hloop := @memMapWriteLoop_of_left ⟨12, by decide, by decide⟩ true (fun _ ↦ 1)
    (fun _ ↦ ⟨1, false, 2⟩) (fun _ ↦ 0xff) 0 0 0x1000 4 0 (by decide) (by decide) (by decide)
    (by decide)
  rw [WriteFrame, memMapWrite, show (0x1000 : Int64).toUInt64.toNat = 0x1000 from rfl, hloop]
    at hframe
  exact absurd (hframe 0x1002 (.inr (by decide))) (by decide)
