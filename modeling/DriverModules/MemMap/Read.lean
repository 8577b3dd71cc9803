import DriverModules.MemMap.Driver

/-!
# A read that nothing disturbs

The loop of `mem_map_read` splits the range at the page ends, maps each page, reads through the
mapped pointer and goes on behind what it read. When every turn succeeds the pieces make up the
range: the user buffer holds exactly the bytes asked for (`memMapReadLoop_of_ok`).
-/

open Bytes

/-- The kernel grants everything a turn of the loop asks for. -/
structure ChunkEnv.Ok (e : ChunkEnv) : Prop where
  mapped : e.vaddr ≠ 0
  read : e.probe = false
  copied : e.remaining = 0

variable {pg : Paging} {mem : ℕ → UInt8} {env : ℕ → ChunkEnv}

/-- The pointer of a mapped page leads to the byte it stands for. -/
theorem myXlateDevMemPtr_sub {p vaddr : ℕ} (hp : p < 2 ^ 64) (hv : vaddr ≠ 0) :
    (p &&& pg.PAGE_MASK) + (pg.myXlateDevMemPtr p vaddr - vaddr) = p := by
  rw [Paging.myXlateDevMemPtr, if_pos hv, Nat.add_sub_cancel_left]
  exact pg.and_PAGE_MASK_add hp

/-- One turn that succeeds. -/
theorem memMapReadLoop_succ {i p count : ℕ} (hcount : 0 < count) (hp : p < 2 ^ 64)
    (he : (env i).Ok) :
    let sz := pg.sizeInsidePage p count
    let rest := memMapReadLoop pg mem env (i + 1) ((p + sz) % 2 ^ 64) (count - sz)
    (memMapReadLoop pg mem env i p count).err = rest.err ∧
      (memMapReadLoop pg mem env i p count).user = readBytes mem p sz ++ rest.user := by
  have hptr : pg.myXlateDevMemPtr p (env i).vaddr ≠ 0 := by
    have := he.mapped
    rw [Paging.myXlateDevMemPtr, if_pos this]
    omega
  rw [memMapReadLoop, dif_pos hcount]
  simp only [if_neg hptr, he.read, he.copied, myXlateDevMemPtr_sub hp he.mapped]
  exact ⟨rfl, rfl⟩

/-- **When every turn succeeds the loop reads the whole range.** -/
theorem memMapReadLoop_of_ok (henv : ∀ i, (env i).Ok) (count : ℕ) :
    ∀ i p, p + count ≤ 2 ^ 64 → (memMapReadLoop pg mem env i p count).err = none ∧
      (memMapReadLoop pg mem env i p count).user = readBytes mem p count := by
  induction count using Nat.strong_induction_on with
  | _ count ih =>
    intro i p hle
    rcases Nat.eq_zero_or_pos count with rfl | hcount
    · rw [memMapReadLoop]
      exact ⟨rfl, rfl⟩
    · have hpos := pg.sizeInsidePage_pos p hcount
      have hsz := pg.sizeInsidePage_le p count
      have hp : p < 2 ^ 64 := by omega
      obtain ⟨herr, huser⟩ := memMapReadLoop_succ hcount hp (henv i)
      rw [herr, huser]
      generalize pg.sizeInsidePage p count = sz at hpos hsz ⊢
      rcases Nat.eq_or_lt_of_le hsz with rfl | hlt
      · -- the last piece; what follows is empty, wherever it would start
        rw [Nat.sub_self, memMapReadLoop]
        exact ⟨rfl, List.append_nil _⟩
      · have hmod : (p + sz) % 2 ^ 64 = p + sz := Nat.mod_eq_of_lt (by omega)
        rw [hmod]
        obtain ⟨herr', huser'⟩ := ih (count - sz) (by omega) (i + 1) (p + sz) (by omega)
        refine ⟨herr', ?_⟩
        rw [huser', ← readBytes_add, Nat.add_sub_cancel' hsz]

/-- A call of `mem_map_read` that nothing disturbs. -/
theorem memMapRead_of_ok (henv : ∀ i, (env i).Ok) {count : ℕ} {ppos : Int64}
    (hle : ppos.toUInt64.toNat + count ≤ 2 ^ 64) :
    (memMapRead pg mem env false count ppos).ret = .ok count ∧
      (memMapRead pg mem env false count ppos).user =
        readBytes mem ppos.toUInt64.toNat count := by
  have hloop : (memMapReadLoop pg mem env 0 ppos.toUInt64.toNat count).err = none ∧ _ :=
    memMapReadLoop_of_ok henv count 0 _ hle
  unfold memMapRead
  rw [if_neg Bool.false_ne_true]
  simp only [hloop.1, hloop.2, and_self]
