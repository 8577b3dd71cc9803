import DriverModules.Lib.Pieces
import DriverModules.MemMap.Write

/-!
# A read, whatever happens on the way

`mem_map_read` reports all or nothing: it goes through the pieces of the range one by one, and a
piece that cannot be mapped, read or copied out ends the call with an error that says nothing of the
pieces before it. `memMapReadLoop_follows` says what the loop has done when it is left, from any
place it can be in, and `memMapRead_readsRight` what a call has done.

No assumption is made on the position: a range that reaches behind the end of the physical address
space goes on at its start.
-/

open Bytes Pieces

/-- The pieces of physical memory that were read, each by its address and size. A read through a
mapped pointer follows the mapping. -/
def chunksRead : List KCall → List (ℕ × ℕ)
  | .memremap start vaddr :: .probeKernelRead ptr sz :: rest =>
    (start + (ptr - vaddr), sz) :: chunksRead rest
  | _ :: rest => chunksRead rest
  | [] => []

/-- What a call of the kernel does to physical memory; `probe_kernel_read` copies out of it. -/
def KCall.effect (mem : ℕ → UInt8) : KCall → ℕ → UInt8
  | .kmalloc | .kfree | .memremap _ _ | .memunmap _ | .probeKernelRead _ _ => mem

variable {pg : Paging} {mem : ℕ → UInt8} {env : ℕ → ChunkEnv} {nomem : Bool} {i p count : ℕ}
  {ppos : Int64}

instance (e : ChunkEnv) : Decidable e.Ok :=
  decidable_of_iff (e.vaddr ≠ 0 ∧ e.probe = false ∧ e.remaining = 0)
    ⟨fun h ↦ ⟨h.1, h.2.1, h.2.2⟩, fun h ↦ ⟨h.mapped, h.read, h.copied⟩⟩

/-! ### The pieces -/

/-- No piece reaches over the end of its page. -/
theorem inPage_of_mem_layOut (count : ℕ) :
    ∀ p, ∀ c ∈ layOut (2 ^ 64) p (chunkSizes pg p count),
      c.1 % pg.PAGE_SIZE + c.2 ≤ pg.PAGE_SIZE := by
  induction count using Nat.strong_induction_on with
  | _ count ih =>
    intro p
    rcases Nat.eq_zero_or_pos count with rfl | hcount
    · rw [chunkSizes_zero]
      exact fun _ hc ↦ absurd hc List.not_mem_nil
    · have hpos := pg.sizeInsidePage_pos p hcount
      rw [chunkSizes_of_pos hcount]
      refine List.forall_mem_cons.2 ⟨?_, ih _ (by omega) _⟩
      have hmod := Nat.mod_lt p pg.PAGE_SIZE_pos
      show p % pg.PAGE_SIZE + pg.sizeInsidePage p count ≤ pg.PAGE_SIZE
      rw [pg.sizeInsidePage_eq]
      omega

theorem lt_of_mem_layOut {c : ℕ × ℕ} {ns : List ℕ} (hp : p < 2 ^ 64)
    (hc : c ∈ layOut (2 ^ 64) p ns) : c.1 < 2 ^ 64 := by
  obtain ⟨off, hoff, -⟩ := exists_offset_of_mem hp hc
  rw [hoff]
  exact Nat.mod_lt _ (by decide)

/-- The first piece lies inside the address space. -/
theorem add_sizeInsidePage_le (count : ℕ) (hp : p < 2 ^ 64) :
    p + pg.sizeInsidePage p count ≤ 2 ^ 64 := by
  have hmod := Nat.mod_lt p pg.PAGE_SIZE_pos
  refine pg.add_le_of_inPage hp ?_
  rw [pg.sizeInsidePage_eq]
  omega

/-! ### One turn of the loop -/

/-- The piece cannot be mapped. -/
theorem memMapReadLoop_of_unmapped (hcount : 0 < count) (hv : (env i).vaddr = 0) :
    memMapReadLoop pg mem env i p count =
      ⟨some .EFAULT, [], [.memremap (p &&& pg.PAGE_MASK) (env i).vaddr]⟩ := by
  have hptr : pg.myXlateDevMemPtr p (env i).vaddr = 0 := by
    rw [hv, Paging.myXlateDevMemPtr, if_neg (not_not_intro rfl)]
  rw [memMapReadLoop, dif_pos hcount]
  simp only [if_pos hptr]

/-- The calls for a piece that can be mapped. -/
def turnCalls (pg : Paging) (p sz vaddr : ℕ) : List KCall :=
  let ptr := pg.myXlateDevMemPtr p vaddr
  [.memremap (p &&& pg.PAGE_MASK) vaddr, .probeKernelRead ptr sz, .memunmap (ptr &&& pg.PAGE_MASK)]

theorem chunksRead_turnCalls {sz vaddr : ℕ} (hp : p < 2 ^ 64) (hv : vaddr ≠ 0)
    (rest : List KCall) :
    chunksRead (turnCalls pg p sz vaddr ++ rest) = (p, sz) :: chunksRead rest :=
  congrArg (fun q ↦ (q, sz) :: chunksRead rest) (myXlateDevMemPtr_sub hp hv)

/-- The piece is mapped. -/
theorem memMapReadLoop_of_mapped (hcount : 0 < count) (hp : p < 2 ^ 64) (hv : (env i).vaddr ≠ 0) :
    memMapReadLoop pg mem env i p count =
      let sz := pg.sizeInsidePage p count
      let calls := turnCalls pg p sz (env i).vaddr
      if (env i).probe then ⟨some .EFAULT, [], calls⟩
      else if (env i).remaining ≠ 0 then
        ⟨some .EFAULT, readBytes mem p (sz - (env i).remaining), calls⟩
      else
        let rest := memMapReadLoop pg mem env (i + 1) ((p + sz) % 2 ^ 64) (count - sz)
        ⟨rest.err, readBytes mem p sz ++ rest.user, calls ++ rest.calls⟩ := by
  rw [memMapReadLoop, dif_pos hcount]
  simp only [if_neg (myXlateDevMemPtr_ne_zero hv), myXlateDevMemPtr_sub hp hv, turnCalls,
    take_readBytes (Nat.sub_le _ _)]

/-! ### The loop -/

/-- What the loop has done, entered at its `i`-th turn with `count` bytes from `p` on to read. -/
structure ReadLoop.Follows (pg : Paging) (mem : ℕ → UInt8) (env : ℕ → ChunkEnv) (i p count : ℕ)
    (loop : ReadLoop) : Prop where
  /-- The pieces it read are the first ones of the range. -/
  chunks : ∃ k, chunksRead loop.calls = layOut (2 ^ 64) p ((chunkSizes pg p count).take k)
  /-- The user buffer holds the first bytes of the range, and nothing behind it. -/
  user : ∃ n ≤ count, loop.user = readBytes (cyclic (2 ^ 64) mem) p n
  err : loop.err = none ∨ loop.err = some .EFAULT
  /-- It fails exactly when a piece fails. -/
  err_iff : loop.err = none ↔ ∀ k < (chunkSizes pg p count).length, (env (i + k)).Ok
  /-- When it does not fail, it went through all pieces. -/
  all : loop.err = none → chunksRead loop.calls = layOut (2 ^ 64) p (chunkSizes pg p count) ∧
    loop.user = readBytes (cyclic (2 ^ 64) mem) p count

/-- A failing turn, in which the first piece was read or not, and `n` bytes came out of it. -/
theorem ReadLoop.follows_of_failed {calls : List KCall} {n k : ℕ} (hcount : 0 < count)
    (hp : p < 2 ^ 64) (he : ¬ (env i).Ok) (hn : n ≤ pg.sizeInsidePage p count)
    (hcalls : chunksRead calls = layOut (2 ^ 64) p ((chunkSizes pg p count).take k)) :
    ReadLoop.Follows pg mem env i p count ⟨some .EFAULT, readBytes mem p n, calls⟩ := by
  have hend := @add_sizeInsidePage_le pg p count hp
  have hsz := pg.sizeInsidePage_le p count
  refine ⟨⟨k, hcalls⟩, ⟨n, by omega, ?_⟩, .inr rfl,
    iff_of_false (Option.some_ne_none _) ?_, fun h ↦ absurd h (Option.some_ne_none _)⟩
  · exact (readBytes_cyclic_of_le mem (by omega)).symm
  · intro hall
    refine he (hall 0 ?_)
    rw [chunkSizes_of_pos hcount]
    exact Nat.succ_pos _

/-- A turn that succeeds, and what follows it. -/
theorem ReadLoop.Follows.cons {loop : ReadLoop} (hcount : 0 < count) (hp : p < 2 ^ 64)
    (he : (env i).Ok)
    (hrest : ReadLoop.Follows pg mem env (i + 1) ((p + pg.sizeInsidePage p count) % 2 ^ 64)
      (count - pg.sizeInsidePage p count) loop) :
    ReadLoop.Follows pg mem env i p count
      ⟨loop.err, readBytes mem p (pg.sizeInsidePage p count) ++ loop.user,
        turnCalls pg p (pg.sizeInsidePage p count) (env i).vaddr ++ loop.calls⟩ := by
  have hend := @add_sizeInsidePage_le pg p count hp
  have hsz := pg.sizeInsidePage_le p count
  have hsizes := @chunkSizes_of_pos pg p count hcount
  generalize pg.sizeInsidePage p count = sz at hrest hend hsz hsizes ⊢
  obtain ⟨⟨k, hchunks⟩, ⟨n, hn, huser⟩, herr, herr_iff, hall⟩ := hrest
  refine ⟨⟨k + 1, ?_⟩, ⟨sz + n, by omega, ?_⟩, herr, ?_, fun hnone ↦ ?_⟩
  · rw [chunksRead_turnCalls hp he.mapped, hchunks, hsizes, List.take_succ_cons, layOut]
  · rw [huser, readBytes_cyclic_add mem hend]
  · rw [herr_iff, hsizes]
    refine ⟨fun h k hk ↦ ?_, fun h k hk ↦ ?_⟩
    · rcases k with - | k
      · exact he
      · rw [show i + (k + 1) = i + 1 + k by omega]
        exact h k (Nat.lt_of_succ_lt_succ hk)
    · rw [show i + 1 + k = i + (k + 1) by omega]
      exact h (k + 1) (Nat.succ_lt_succ hk)
  · obtain ⟨hcalls, huser'⟩ := hall hnone
    refine ⟨by rw [chunksRead_turnCalls hp he.mapped, hcalls, hsizes, layOut], ?_⟩
    rw [huser', ← readBytes_cyclic_add mem hend, Nat.add_sub_cancel' hsz]

/-- **What the loop has done when it is left**, from any place it can be in. -/
theorem memMapReadLoop_follows (pg : Paging) (mem : ℕ → UInt8) (env : ℕ → ChunkEnv) (count : ℕ) :
    ∀ i p, p < 2 ^ 64 →
      ReadLoop.Follows pg mem env i p count (memMapReadLoop pg mem env i p count) := by
  induction count using Nat.strong_induction_on with
  | _ count ih =>
    intro i p hp
    rcases Nat.eq_zero_or_pos count with rfl | hcount
    · rw [memMapReadLoop, dif_neg (Nat.lt_irrefl 0)]
      have hnone : ∀ k < (chunkSizes pg p 0).length, (env (i + k)).Ok := by
        rw [chunkSizes_zero]
        exact fun k hk ↦ absurd hk (Nat.not_lt_zero k)
      refine ⟨⟨0, rfl⟩, ⟨0, Nat.le_refl 0, rfl⟩, .inl rfl, iff_of_true rfl hnone, fun _ ↦ ?_⟩
      rw [chunkSizes_zero]
      exact ⟨rfl, rfl⟩
    by_cases hv : (env i).vaddr = 0
    · rw [memMapReadLoop_of_unmapped hcount hv]
      exact ReadLoop.follows_of_failed (k := 0) hcount hp (fun h ↦ h.mapped hv) (Nat.zero_le _) rfl
    have hone : chunksRead (turnCalls pg p (pg.sizeInsidePage p count) (env i).vaddr) =
        layOut (2 ^ 64) p ((chunkSizes pg p count).take 1) := by
      rw [← List.append_nil (turnCalls pg p _ _), chunksRead_turnCalls hp hv,
        chunkSizes_of_pos hcount, List.take_succ_cons, List.take_zero]
      rfl
    rw [memMapReadLoop_of_mapped hcount hp hv]
    dsimp only
    split_ifs with hprobe hrem
    · exact ReadLoop.follows_of_failed hcount hp (fun h ↦ by simp [h.read] at hprobe)
        (Nat.zero_le _) hone
    · exact ReadLoop.follows_of_failed hcount hp (fun h ↦ hrem h.copied) (Nat.sub_le _ _) hone
    · have hpos := pg.sizeInsidePage_pos p hcount
      exact (ih _ (by omega) _ _ (Nat.mod_lt _ (by decide))).cons hcount hp
        ⟨hv, eq_false_of_ne_true hprobe, not_not.1 hrem⟩

/-! ### One call -/

theorem chunksRead_append_kfree (calls : List KCall) :
    chunksRead (calls ++ [.kfree]) = chunksRead calls := by
  fun_induction chunksRead calls with
  | case1 start vaddr ptr sz rest ih => exact congrArg (List.cons _) ih
  | case2 call rest hne ih =>
    rcases rest with - | ⟨next, rest⟩
    · rcases call with - | - | - | - | - <;> rfl
    · rw [List.cons_append, List.cons_append, chunksRead, ← List.cons_append, ih]
      rintro start vaddr ptr sz rest' rfl ⟨⟩
      exact hne start vaddr ptr sz rest rfl rfl
  | case3 => rfl

/-- What a call of `mem_map_read` for `count` bytes at the position `ppos` is to do, whatever the
kernel answers. -/
structure ReadsRight (pg : Paging) (mem : ℕ → UInt8) (env : ℕ → ChunkEnv) (nomem : Bool)
    (count : ℕ) (ppos : Int64) (out : ReadOut) : Prop where
  /-- Each piece starts where the one before it ends, the first one at the position. -/
  contiguous : chunksRead out.calls =
    layOut (2 ^ 64) ppos.toUInt64.toNat ((chunksRead out.calls).map Prod.snd)
  nonempty : ∀ c ∈ chunksRead out.calls, 0 < c.2
  inPage : ∀ c ∈ chunksRead out.calls, c.1 % pg.PAGE_SIZE + c.2 ≤ pg.PAGE_SIZE
  apart : (chunksRead out.calls).Pairwise Apart
  /-- Nothing fails: the pieces make up the range, and the user buffer holds its bytes. -/
  success : nomem = false →
    (∀ k < (chunkSizes pg ppos.toUInt64.toNat count).length, (env k).Ok) →
    out.ret = .ok count ∧ ((chunksRead out.calls).map Prod.snd).sum = count ∧
      out.user = readBytes (cyclic (2 ^ 64) mem) ppos.toUInt64.toNat count ∧
      out.pos = ppos + .ofNat count
  /-- Something fails: all the call tells is an error. -/
  failure : ¬ (nomem = false ∧
      ∀ k < (chunkSizes pg ppos.toUInt64.toNat count).length, (env k).Ok) →
    (out.ret = .error .ENOMEM ∨ out.ret = .error .EFAULT) ∧ out.pos = ppos
  /-- At most the first `count` bytes of the user buffer are written. -/
  user_le : out.user.length ≤ count
  untouched : out.calls.foldl KCall.effect mem = mem

theorem foldl_effect (calls : List KCall) : calls.foldl KCall.effect mem = mem := by
  induction calls with
  | nil => rfl
  | cons call calls ih =>
    rw [List.foldl_cons, show call.effect mem = mem by rcases call with - | - | - | - | - <;> rfl]
    exact ih

/-- One call, in terms of what its loop has done. -/
theorem memMapRead_eq (pg : Paging) (mem : ℕ → UInt8) (env : ℕ → ChunkEnv) (count : ℕ)
    (ppos : Int64) :
    let loop := memMapReadLoop pg mem env 0 ppos.toUInt64.toNat count
    let out := memMapRead pg mem env false count ppos
    out.calls = .kmalloc :: loop.calls ++ [.kfree] ∧ out.user = loop.user ∧
      (loop.err = none → out.ret = .ok count ∧ out.pos = ppos + .ofNat count) ∧
      ∀ e, loop.err = some e → out.ret = .error e ∧ out.pos = ppos := by
  dsimp only
  rw [memMapRead, if_neg Bool.false_ne_true]
  rcases memMapReadLoop pg mem env 0 ppos.toUInt64.toNat count with ⟨- | e, user, calls⟩
  · exact ⟨rfl, rfl, fun _ ↦ ⟨rfl, rfl⟩, fun e he ↦ absurd he.symm (Option.some_ne_none e)⟩
  · exact ⟨rfl, rfl, fun he ↦ absurd he (Option.some_ne_none e),
      fun e' he ↦ by rw [Option.some.inj he]; exact ⟨rfl, rfl⟩⟩

theorem chunksRead_memMapRead (pg : Paging) (mem : ℕ → UInt8) (env : ℕ → ChunkEnv) (count : ℕ)
    (ppos : Int64) :
    chunksRead (memMapRead pg mem env false count ppos).calls =
      chunksRead (memMapReadLoop pg mem env 0 ppos.toUInt64.toNat count).calls := by
  rw [(memMapRead_eq pg mem env count ppos).1, List.cons_append, chunksRead,
    chunksRead_append_kfree]
  exact fun _ _ _ _ _ h ↦ KCall.noConfusion h

/-- What a call moves into the user buffer. -/
theorem memMapRead_moved (hend : ppos.toUInt64.toNat + count ≤ 2 ^ 64) :
    let out := memMapRead pg mem env nomem count ppos
    out.user.length ≤ count ∧ ∀ n, out.ret = .ok n →
      n = count ∧ out.user = readBytes mem ppos.toUInt64.toNat count := by
  rcases nomem with - | -
  · obtain ⟨-, huser, hok, herror⟩ := memMapRead_eq pg mem env count ppos
    obtain ⟨-, ⟨k, hk, huser'⟩, -, -, hall⟩ :=
      memMapReadLoop_follows pg mem env count 0 _ ppos.toUInt64.toNat_lt
    refine ⟨by rw [huser, huser', length_readBytes]; exact hk, fun n hn ↦ ?_⟩
    rcases herr : (memMapReadLoop pg mem env 0 ppos.toUInt64.toNat count).err with - | e
    · rw [(hok herr).1] at hn
      rw [huser, (hall herr).2, readBytes_cyclic_of_le mem hend]
      exact ⟨(Except.ok.inj hn).symm, rfl⟩
    · rw [(herror e herr).1] at hn
      cases hn
  · exact ⟨Nat.zero_le _, fun n hn ↦ by cases hn⟩

/-- **A read does what it is to do**, from every position and whatever the kernel answers. The count
is one `rw_verify_area` lets through, which a `ssize_t` can hold. -/
theorem memMapRead_readsRight (pg : Paging) (mem : ℕ → UInt8) (env : ℕ → ChunkEnv) (nomem : Bool)
    (count : ℕ) (ppos : Int64) (hcount : count < 2 ^ 63) :
    ReadsRight pg mem env nomem count ppos (memMapRead pg mem env nomem count ppos) := by
  rcases nomem with - | -
  · have hp : ppos.toUInt64.toNat < 2 ^ 64 := ppos.toUInt64.toNat_lt
    obtain ⟨⟨k, hchunks⟩, ⟨n, hn, huser⟩, herr, herr_iff, hall⟩ :=
      memMapReadLoop_follows pg mem env count 0 _ hp
    obtain ⟨-, huser', hok, herror⟩ := memMapRead_eq pg mem env count ppos
    obtain ⟨hpos, hsum⟩ := @chunkSizes_pos_sum pg count ppos.toUInt64.toNat
    have hin := @inPage_of_mem_layOut pg count ppos.toUInt64.toNat
    simp only [Nat.zero_add] at herr_iff
    have hapart := pairwise_apart hp
      (fun c hc ↦ pg.add_le_of_inPage (lt_of_mem_layOut hp hc) (hin c hc)) (by omega)
    rw [← chunksRead_memMapRead] at hchunks hall
    refine ⟨?_, ?_, ?_, ?_, ?_, ?_, ?_, foldl_effect _⟩
    · rw [hchunks, map_snd_layOut]
    · intro c hc
      have hsnd := List.mem_map_of_mem (f := Prod.snd) hc
      rw [hchunks, map_snd_layOut] at hsnd
      exact hpos _ (List.mem_of_mem_take hsnd)
    · rw [hchunks, layOut_take]
      exact fun c hc ↦ hin c (List.mem_of_mem_take hc)
    · rw [hchunks, layOut_take]
      exact hapart.sublist (List.take_sublist k _)
    · intro _ henv
      obtain ⟨hret, hppos⟩ := hok (herr_iff.2 henv)
      obtain ⟨hchunks', huser''⟩ := hall (herr_iff.2 henv)
      refine ⟨hret, ?_, huser'.trans huser'', hppos⟩
      rw [hchunks', map_snd_layOut, hsum]
    · intro hfail
      have hne : (memMapReadLoop pg mem env 0 ppos.toUInt64.toNat count).err ≠ none :=
        fun h ↦ hfail ⟨rfl, herr_iff.1 h⟩
      obtain ⟨hret, hppos⟩ := herror _ (herr.resolve_left hne)
      exact ⟨.inr hret, hppos⟩
    · rw [huser', huser, length_readBytes]
      exact hn
  · refine ⟨rfl, ?_, ?_, List.Pairwise.nil, fun h ↦ absurd h.symm Bool.false_ne_true,
      fun _ ↦ ⟨.inl rfl, rfl⟩, Nat.zero_le _, rfl⟩
    · exact fun _ hc ↦ absurd hc List.not_mem_nil
    · exact fun _ hc ↦ absurd hc List.not_mem_nil

/-- Eight bytes across a page end whose second page is not mapped: the position stays. -/
theorem memMapRead_readsRight_short :
    (memMapRead ⟨12, by decide, by decide⟩ (fun _ ↦ 0) (fun k ↦ ⟨1 - k, false, 0⟩) false 8
      0xffc).pos = 0xffc := by
  refine ((memMapRead_readsRight ⟨12, by decide, by decide⟩ (fun _ ↦ 0)
    (fun k ↦ ⟨1 - k, false, 0⟩) false 8 0xffc (by decide)).failure fun ⟨_, hall⟩ ↦ ?_).2
  refine (hall 1 ?_).mapped rfl
  rw [chunkSizes_of_pos (by decide), chunkSizes_of_pos (by decide)]
  exact Nat.succ_lt_succ (Nat.succ_pos _)
