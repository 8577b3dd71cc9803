import DriverModules.MemMap.Libmem
import DriverModules.MemMap.ReadChunks

/-!
# Where a mapping leads

`mem_map_mmap` guards the end of the physical address space with two checks on 64-bit words: the
page offset survives being shifted up and down again, and the last byte of the range does not lie
below its first. Together they are exact (`memMapMmap_eq`): a range may end at `2 ^ 64`, and no
further.
What is mapped then are the bytes that a read finds at the same file positions.
-/

open Bytes Pieces

/-- The file position that leads to physical address `x`. -/
def filePos (x : ℕ) : Int64 := (UInt64.ofNat x).toInt64

variable {pg : Paging} {mem : ℕ → UInt8} {vma : VmArea} {remapFails nomem : Bool}
  {env : ℕ → ChunkEnv} {count x : ℕ}

/-- The page offset survives the shifts when it does not lose a bit. -/
theorem shiftRight_shiftLeft_eq_iff (pg : Paging) (pgoff : ℕ) :
    ((pgoff <<< pg.PAGE_SHIFT) % 2 ^ 64) >>> pg.PAGE_SHIFT = pgoff ↔
      pgoff * pg.PAGE_SIZE < 2 ^ 64 := by
  rw [Nat.shiftLeft_eq, Nat.shiftRight_eq_div_pow, show 2 ^ pg.PAGE_SHIFT = pg.PAGE_SIZE from rfl]
  constructor
  · intro heq
    calc pgoff * pg.PAGE_SIZE
        = (pgoff * pg.PAGE_SIZE % 2 ^ 64) / pg.PAGE_SIZE * pg.PAGE_SIZE := by rw [heq]
      _ ≤ pgoff * pg.PAGE_SIZE % 2 ^ 64 := Nat.div_mul_le_self _ _
      _ < 2 ^ 64 := Nat.mod_lt _ (by decide)
  · intro hlt
    rw [Nat.mod_eq_of_lt hlt, Nat.mul_div_cancel _ pg.PAGE_SIZE_pos]

/-- The last byte of a range lies below its first exactly when the range goes over the end. -/
theorem last_lt_first_iff {offset size : ℕ} (hoffset : offset < 2 ^ 64) (hsize : 0 < size)
    (hlt : size < 2 ^ 64) :
    (offset + size + 2 ^ 64 - 1) % 2 ^ 64 < offset ↔ 2 ^ 64 < offset + size := by
  omega

/-- **The two checks are exact.** -/
theorem memMapMmap_eq (remapFails : Bool) (hlt : vma.vmStart < vma.vmEnd)
    (hend : vma.vmEnd < 2 ^ 64) :
    memMapMmap pg vma remapFails =
      if 2 ^ 64 < vma.vmPgoff * pg.PAGE_SIZE + (vma.vmEnd - vma.vmStart) then .error .EINVAL
      else if remapFails then .error .EAGAIN
      else .ok ⟨vma.vmStart, vma.vmEnd - vma.vmStart, vma.vmPgoff * pg.PAGE_SIZE⟩ := by
  have hshift := shiftRight_shiftLeft_eq_iff pg vma.vmPgoff
  rw [memMapMmap]
  by_cases hfit : vma.vmPgoff * pg.PAGE_SIZE < 2 ^ 64
  · have hoffset : (vma.vmPgoff <<< pg.PAGE_SHIFT) % 2 ^ 64 = vma.vmPgoff * pg.PAGE_SIZE := by
      rw [Nat.shiftLeft_eq]
      exact Nat.mod_eq_of_lt hfit
    rw [if_neg (not_not_intro (hshift.2 hfit)), hoffset]
    simp only [last_lt_first_iff hfit (Nat.sub_pos_of_lt hlt) (by omega)]
  · rw [if_pos (fun heq ↦ hfit (hshift.1 heq)), if_pos (by omega)]

/-! ### The same byte -/

theorem toNat_filePos (hx : x < 2 ^ 64) : (filePos x).toUInt64.toNat = x := by
  rw [filePos, UInt64.toUInt64_toInt64, UInt64.toNat_ofNat_of_lt' hx]

/-- **A read begins with the byte at its position.** -/
theorem memMapRead_filePos (hx : x < 2 ^ 64) (hcount : 0 < count) :
    let out := memMapRead pg mem env nomem count (filePos x)
    (∀ c, (chunksRead out.calls).head? = some c → c.1 = x) ∧
      ∀ n, out.ret = .ok n → out.user.head? = some (mem x) := by
  rcases nomem with - | -
  · obtain ⟨-, huser, -, herror⟩ := memMapRead_eq pg mem env count (filePos x)
    have hread := chunksRead_memMapRead pg mem env count (filePos x)
    rw [toNat_filePos hx] at huser herror hread
    obtain ⟨⟨k, hchunks⟩, -, -, -, hall⟩ := memMapReadLoop_follows pg mem env count 0 x hx
    refine ⟨fun c hc ↦ ?_, fun n hn ↦ ?_⟩
    · rw [hread, hchunks] at hc
      exact fst_of_head? hc
    · rcases herr : (memMapReadLoop pg mem env 0 x count).err with - | e
      · obtain ⟨k, rfl⟩ := Nat.exists_eq_succ_of_ne_zero (Nat.ne_of_gt hcount)
        rw [huser, (hall herr).2, Nat.succ_eq_one_add, readBytes_add]
        exact congrArg (fun y ↦ some (mem y)) (Nat.mod_eq_of_lt hx)
      · rw [(herror e herr).1] at hn
        cases hn
  · exact ⟨fun c hc ↦ absurd hc.symm (Option.some_ne_none c), fun n hn ↦ by cases hn⟩

/-- **A mapping is refused exactly when its range goes over the end of the address space**, and what
is mapped otherwise are the bytes a read finds there. -/
theorem memMapMmap_exact (pg : Paging) (mem : ℕ → UInt8) (vma : VmArea)
    (hlt : vma.vmStart < vma.vmEnd) (hend : vma.vmEnd < 2 ^ 64) :
    let size := vma.vmEnd - vma.vmStart
    let phys := vma.vmPgoff * pg.PAGE_SIZE
    (∀ remapFails, memMapMmap pg vma remapFails = .error .EINVAL ↔ 2 ^ 64 < phys + size) ∧
      (phys + size ≤ 2 ^ 64 → ∃ m : UserMap, m.start = vma.vmStart ∧ m.len = size ∧
        (∀ remapFails, memMapMmap pg vma remapFails =
          if remapFails then .error .EAGAIN else .ok m) ∧
        ∀ i < size, userLoad mem (some m) (vma.vmStart + i) 1 = some [mem (phys + i)] ∧
          ∀ env nomem count, 0 < count →
            let out := memMapRead pg mem env nomem count (filePos (phys + i))
            (∀ c, (chunksRead out.calls).head? = some c → c.1 = phys + i) ∧
              ∀ n, out.ret = .ok n → out.user.head? = some (mem (phys + i))) := by
  refine ⟨fun remapFails ↦ ?_, fun hle ↦ ?_⟩
  · rw [memMapMmap_eq remapFails hlt hend]
    split_ifs with hover
    · exact iff_of_true rfl hover
    · exact iff_of_false (by rintro ⟨⟩) hover
    · exact iff_of_false (by rintro ⟨⟩) hover
  · refine ⟨⟨vma.vmStart, vma.vmEnd - vma.vmStart, vma.vmPgoff * pg.PAGE_SIZE⟩, rfl, rfl,
      fun remapFails ↦ ?_, fun i hi ↦ ⟨?_, fun env nomem count hcount ↦
        memMapRead_filePos (by omega) hcount⟩⟩
    · rw [memMapMmap_eq remapFails hlt hend, if_neg (by omega)]
    · simp only [userLoad]
      rw [if_pos (by omega), Nat.add_sub_cancel_left]
      rfl

/-- The last page of the address space can be mapped, and a second page behind it cannot. -/
theorem memMapMmap_exact_top :
    (memMapMmap ⟨12, by decide, by decide⟩ ⟨0x1000, 0x2000, 2 ^ 52 - 1⟩ false ≠ .error .EINVAL) ∧
      memMapMmap ⟨12, by decide, by decide⟩ ⟨0x1000, 0x3000, 2 ^ 52 - 1⟩ false =
        .error .EINVAL := by
  have hone := (memMapMmap_exact ⟨12, by decide, by decide⟩ (fun _ ↦ 0)
    ⟨0x1000, 0x2000, 2 ^ 52 - 1⟩ (by decide) (by decide)).1 false
  have htwo := (memMapMmap_exact ⟨12, by decide, by decide⟩ (fun _ ↦ 0)
    ⟨0x1000, 0x3000, 2 ^ 52 - 1⟩ (by decide) (by decide)).1 false
  exact ⟨fun h ↦ absurd (hone.1 h) (by decide), htwo.2 (by decide)⟩
