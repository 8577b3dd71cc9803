import DriverModules.Lib.Windows
import DriverModules.MemMap.ReadChunks

/-!
# What a read or a write maps

Both loops reach physical memory through one mapped page at a time: they map the page of the chunk,
copy through the pointer into it and unmap it, and the address they unmap is the pointer with the
offset in the page masked off. When `memremap` returns the start of a page that is the address it
returned, so every call, wherever it fails, leaves nothing mapped and its bounce buffer freed
(`memMap_balanced`).

`memMapWriteCalls` is `mem_map_write` again, by the calls it makes; what they store is what the call
does to physical memory (`stored_memMapWriteCalls`).
-/

open Bytes Windows

/-- The calls of `mem_map_write` that map or unmap a page or store into it. -/
inductive WriteCall
  | memremap (start vaddr : ℕ)
  | memunmap (addr : ℕ)
  /-- `copy_from_user`, which leaves `left` of the bytes. -/
  | copyFromUser (ptr : ℕ) (bytes : List UInt8) (left : ℕ)
  deriving DecidableEq, Repr

/-- The calls of the loop of `mem_map_write`, from its `i`-th turn on. -/
def memMapWriteLoopCalls (pg : Paging) (user : ℕ → UInt8) (env : ℕ → ChunkEnv)
    (i buf p count : ℕ) : List WriteCall :=
  if _h : 0 < count then
    let sz := pg.sizeInsidePage p count
    let e := env i
    if ¬ pageIsAllowed (p >>> pg.PAGE_SHIFT) then []
    else
      let start := p &&& pg.PAGE_MASK
      let ptr := pg.myXlateDevMemPtr p e.vaddr
      if ptr = 0 then [.memremap start e.vaddr]
      else
        let copied := min e.remaining sz
        let calls := [.memremap start e.vaddr, .copyFromUser ptr (readBytes user buf sz) copied,
          .memunmap (ptr &&& pg.PAGE_MASK)]
        if copied ≠ 0 then calls
        else
          calls ++ memMapWriteLoopCalls pg user env (i + 1) (buf + sz) ((p + sz) % 2 ^ 64)
            (count - sz)
  else []
termination_by count
decreasing_by
  have := pg.sizeInsidePage_pos p _h
  omega

/-- The calls of `mem_map_write`. -/
def memMapWriteCalls (pg : Paging) (user : ℕ → UInt8) (env : ℕ → ChunkEnv) (count : ℕ)
    (ppos : Int64) : List WriteCall :=
  memMapWriteLoopCalls pg user env 0 0 ppos.toUInt64.toNat count

/-- What the calls do to physical memory. A copy through a mapped pointer follows the mapping. -/
def stored (pads : Bool) : (ℕ → UInt8) → List WriteCall → ℕ → UInt8
  | mem, .memremap start vaddr :: .copyFromUser ptr bytes left :: rest =>
    stored pads (copyFromUser pads mem (start + (ptr - vaddr)) bytes left) rest
  | mem, _ :: rest => stored pads mem rest
  | mem, [] => mem

variable {pg : Paging} {pads : Bool} {mem : ℕ → UInt8} {user : ℕ → UInt8} {env : ℕ → ChunkEnv}
  {i buf p count written vaddr sz : ℕ}

/-- The calls are those of the loop. -/
theorem stored_memMapWriteLoopCalls (count : ℕ) : ∀ i buf p written mem,
    stored pads mem (memMapWriteLoopCalls pg user env i buf p count) =
      (memMapWriteLoop pg pads user env i buf p count written mem).mem := by
  induction count using Nat.strong_induction_on with
  | _ count ih =>
    intro i buf p written mem
    rw [memMapWriteLoopCalls, memMapWriteLoop]
    split
    · next hcount =>
      have hpos := pg.sizeInsidePage_pos p hcount
      dsimp only
      split
      · rfl
      split
      · split <;> rfl
      split
      · split <;> rfl
      · exact ih _ (by omega) _ _ _ _ _
    · rfl

/-- **What the calls store is what the write does to physical memory.** -/
theorem stored_memMapWriteCalls (count : ℕ) (ppos : Int64) :
    stored pads mem (memMapWriteCalls pg user env count ppos) =
      (memMapWrite pg pads user env count ppos mem).mem := by
  rw [memMapWriteCalls, stored_memMapWriteLoopCalls count 0 0 _ 0 mem, memMapWrite]
  split <;> rfl

/-! ### The events -/

/-- The answer of `memremap`. -/
def mapped (vaddr : ℕ) : Option ℕ := if vaddr = 0 then none else some vaddr

def KCall.event : KCall → Event
  | .kmalloc => .take
  | .kfree => .give
  | .memremap _ vaddr => .map (mapped vaddr)
  | .memunmap addr => .unmap addr
  | .probeKernelRead ptr sz => .access ptr sz

def WriteCall.event : WriteCall → Event
  | .memremap _ vaddr => .map (mapped vaddr)
  | .memunmap addr => .unmap addr
  | .copyFromUser ptr bytes _ => .access ptr bytes.length

/-- `memremap` returns addresses of pages. -/
def PageAligned (pg : Paging) (env : ℕ → ChunkEnv) : Prop :=
  ∀ i, pg.PAGE_SIZE ∣ (env i).vaddr ∧ (env i).vaddr < 2 ^ 64

/-- The address that is unmapped is the one that was mapped. -/
theorem myXlateDevMemPtr_and_PAGE_MASK (hv : vaddr ≠ 0) (halign : pg.PAGE_SIZE ∣ vaddr)
    (hlt : vaddr < 2 ^ 64) : pg.myXlateDevMemPtr p vaddr &&& pg.PAGE_MASK = vaddr := by
  obtain ⟨q, rfl⟩ := halign
  have hmod := Nat.mod_lt p pg.PAGE_SIZE_pos
  have hend := pg.page_add_PAGE_SIZE_le hlt
  rw [Paging.myXlateDevMemPtr, if_pos hv, pg.and_PAGE_SIZE_sub_one, pg.and_PAGE_MASK (by omega),
    Nat.mul_add_div pg.PAGE_SIZE_pos, Nat.div_eq_of_lt hmod, Nat.add_zero]

/-- The events of a turn whose page is mapped. -/
theorem quiet_turn (hv : vaddr ≠ 0) (halign : pg.PAGE_SIZE ∣ vaddr) (hlt : vaddr < 2 ^ 64)
    (hsz : sz = pg.sizeInsidePage p count) :
    Quiet pg.PAGE_SIZE [.map (mapped vaddr), .access (pg.myXlateDevMemPtr p vaddr) sz,
      .unmap (pg.myXlateDevMemPtr p vaddr &&& pg.PAGE_MASK)] := by
  have hmod := Nat.mod_lt p pg.PAGE_SIZE_pos
  rw [myXlateDevMemPtr_and_PAGE_MASK hv halign hlt, mapped, if_neg hv]
  rw [pg.sizeInsidePage_eq] at hsz
  refine Quiet.turn ?_ ?_
  · rw [Paging.myXlateDevMemPtr, if_pos hv]
    omega
  · rw [Paging.myXlateDevMemPtr, if_pos hv, pg.and_PAGE_SIZE_sub_one]
    omega

theorem quiet_memMapReadLoop (henv : PageAligned pg env) (count : ℕ) : ∀ i p, p < 2 ^ 64 →
    Quiet pg.PAGE_SIZE ((memMapReadLoop pg mem env i p count).calls.map KCall.event) := by
  induction count using Nat.strong_induction_on with
  | _ count ih =>
    intro i p hp
    rcases Nat.eq_zero_or_pos count with rfl | hcount
    · rw [memMapReadLoop, dif_neg (Nat.lt_irrefl 0)]
      exact Quiet.nil
    by_cases hv : (env i).vaddr = 0
    · rw [memMapReadLoop_of_unmapped hcount hv, hv]
      exact Quiet.refused
    have hturn : Quiet pg.PAGE_SIZE
        ((turnCalls pg p (pg.sizeInsidePage p count) (env i).vaddr).map KCall.event) :=
      quiet_turn hv (henv i).1 (henv i).2 rfl
    rw [memMapReadLoop_of_mapped hcount hp hv]
    dsimp only
    split_ifs
    · exact hturn
    · exact hturn
    · have hpos := pg.sizeInsidePage_pos p hcount
      rw [List.map_append]
      exact hturn.append (ih _ (by omega) _ _ (Nat.mod_lt _ (by decide)))

theorem quiet_memMapWriteLoopCalls (henv : PageAligned pg env) (count : ℕ) : ∀ i buf p,
    Quiet pg.PAGE_SIZE ((memMapWriteLoopCalls pg user env i buf p count).map WriteCall.event) := by
  induction count using Nat.strong_induction_on with
  | _ count ih =>
    intro i buf p
    rcases Nat.eq_zero_or_pos count with rfl | hcount
    · rw [memMapWriteLoopCalls, dif_neg (Nat.lt_irrefl 0)]
      exact Quiet.nil
    rw [memMapWriteLoopCalls, dif_pos hcount]
    simp only [if_neg (not_not_pageIsAllowed _)]
    by_cases hv : (env i).vaddr = 0
    · rw [if_pos (by rw [hv, Paging.myXlateDevMemPtr, if_neg (not_not_intro rfl)]), hv]
      exact Quiet.refused
    rw [if_neg (myXlateDevMemPtr_ne_zero hv)]
    have hturn := quiet_turn (p := p) hv (henv i).1 (henv i).2
      (length_readBytes user buf (pg.sizeInsidePage p count))
    split_ifs
    · exact hturn
    · have hpos := pg.sizeInsidePage_pos p hcount
      rw [List.map_append]
      exact hturn.append (ih _ (by omega) _ _ _)

/-! ### One call -/

theorem balanced_memMapRead (mem : ℕ → UInt8) (nomem : Bool) (count : ℕ) (ppos : Int64)
    (henv : PageAligned pg env) :
    Balanced pg.PAGE_SIZE ((memMapRead pg mem env nomem count ppos).calls.map KCall.event) := by
  rcases nomem with - | -
  · obtain ⟨hcalls, -⟩ := memMapRead_eq pg mem env count ppos
    rw [hcalls, List.map_append]
    exact (quiet_memMapReadLoop henv count 0 _ ppos.toUInt64.toNat_lt).buffered
  · exact Quiet.nil.balanced

theorem balanced_memMapWriteCalls (user : ℕ → UInt8) (count : ℕ) (ppos : Int64)
    (henv : PageAligned pg env) :
    Balanced pg.PAGE_SIZE ((memMapWriteCalls pg user env count ppos).map WriteCall.event) :=
  (quiet_memMapWriteLoopCalls henv count 0 0 _).balanced

/-- **Nothing stays mapped and no buffer behind**, wherever a read or a write fails. -/
theorem memMap_balanced (pg : Paging) (mem user : ℕ → UInt8) (env : ℕ → ChunkEnv) (nomem : Bool)
    (count : ℕ) (ppos : Int64) (henv : PageAligned pg env) :
    Balanced pg.PAGE_SIZE ((memMapRead pg mem env nomem count ppos).calls.map KCall.event) ∧
      Balanced pg.PAGE_SIZE ((memMapWriteCalls pg user env count ppos).map WriteCall.event) :=
  ⟨balanced_memMapRead mem nomem count ppos henv, balanced_memMapWriteCalls user count ppos henv⟩

/-- The copy of the second page leaves three bytes, at pages mapped at `0x5000` and `0x9000`. -/
theorem memMap_balanced_short :
    Balanced 4096 ((memMapWriteCalls ⟨12, by decide, by decide⟩ (fun _ ↦ 1)
      (fun k ↦ ⟨0x5000 + 0x4000 * (k % 2), false, 3 * k⟩) 8 0xffc).map WriteCall.event) := by
  refine (memMap_balanced ⟨12, by decide, by decide⟩ (fun _ ↦ 0) (fun _ ↦ 1)
    (fun k ↦ ⟨0x5000 + 0x4000 * (k % 2), false, 3 * k⟩) false 8 0xffc fun k ↦ ?_).2
  rcases Nat.mod_two_eq_zero_or_one k with hk | hk <;> simp only [hk] <;> decide

/-- Each page that is mapped is unmapped, with nothing but accesses to it before that. -/
theorem memMap_closed {count : ℕ} {ppos : Int64} {nomem : Bool} {calls front back : List Event}
    {base : ℕ} (henv : PageAligned pg env)
    (hcalls : calls = (memMapRead pg mem env nomem count ppos).calls.map KCall.event ∨
      calls = (memMapWriteCalls pg user env count ppos).map WriteCall.event)
    (h : calls = front ++ .map (some base) :: back) :
    ∃ acc rest, back = acc ++ .unmap base :: rest ∧ ∀ e ∈ acc, Inside pg.PAGE_SIZE base e := by
  have hbalanced : Balanced pg.PAGE_SIZE calls := by
    rcases hcalls with rfl | rfl
    · exact balanced_memMapRead mem nomem count ppos henv
    · exact balanced_memMapWriteCalls user count ppos henv
  rw [h] at hbalanced
  exact hbalanced.closed
