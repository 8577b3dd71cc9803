import Mathlib.Data.List.Nodup
import Mathlib.Data.List.TakeWhile
import DriverModules.Lib.Transition
import DriverModules.Rpmsg.Device

/-!
# Who owns the driver override

A write to `driver_override` puts a copy of the text into the device and frees the string that was
there. That is right as long as the string there is such a copy; but
`rpmsg_chrdev_register_device` begins with a string literal.

The device is followed through any sequence of writes, with the strings `kstrndup` has returned and
everything that was passed to `kfree`. `storeRight_iff` says for which devices the attribute keeps
its law, and `shows_of_run` that it is the device of the other modules that is followed.

## Main results, and what each rests on

* `Inv.store`: of the strings, one write. The string of the device is not freed and can be read, and
  nothing was freed twice. This holds for every device, the literal included, for it is freed once
  at most; what the literal breaks is only that it was never allocated.
* `shows_of_run`: the text the device shows is what `RpmsgDevice.driverOverrideStore` makes of it,
  the function the other modules use. It rests on `Inv`: what a write frees is the old string and
  never the one it has put into the device.
* `storeRight_iff`: the law for any writes. One write breaks it exactly when it replaces the literal
  (`Inv.right_iff`), and after one that got memory there is none (`driverOverride_ne_literal`), so
  that only the first such write can.
-/

open Transition

/-- Where `driver_override` may point to. -/
inductive StrPtr
  /-- The `"rpmsg_chrdev"` of `rpmsg_chrdev_register_device`. -/
  | literal
  /-- What the call of `kstrndup` with this number returned. -/
  | heap (n : ℕ)
  deriving DecidableEq, Repr

/-- The member of an rpmsg device, and the strings of the attribute. -/
structure OverrideState where
  driverOverride : Option StrPtr
  /-- The strings that are not freed. -/
  strings : ℕ → Option (List UInt8)
  /-- How many strings `kstrndup` has returned. -/
  next : ℕ
  /-- What was passed to `kfree`, the last first. -/
  kfreed : List StrPtr

/-- A write to the attribute; `nomem` says that `kstrndup` finds no memory. -/
structure StoreEvent where
  buf : List UInt8
  nomem : Bool
  deriving DecidableEq, Repr

/-- The ways an rpmsg device comes to be registered. -/
inductive RpdevOrigin
  /-- `rpmsg_create_channel`. -/
  | channel (vrp : VrpId) (chinfo : RpmsgChannelInfo)
  /-- `create_rpmsg_chrdev`, by `rpmsg_chrdev_register_device`. -/
  | chrdev

def RpdevOrigin.rpmsgDevice : RpdevOrigin → RpmsgDevice
  | channel vrp chinfo => rpmsgChannel vrp chinfo
  | chrdev => rpmsgChrdev

/-- What a write makes of the device of the other modules. -/
def RpmsgDevice.afterStore (rpdev : RpmsgDevice) (ev : StoreEvent) : RpmsgDevice :=
  if ev.nomem then rpdev else driverOverrideStore ev.buf rpdev

namespace OverrideState

/-- The device as it is registered. -/
def registered (o : RpdevOrigin) : OverrideState where
  driverOverride :=
    match o with
    | .channel .. => none
    | .chrdev => some .literal
  strings _ := none
  next := 0
  kfreed := []

/-- `kstrndup`. -/
def kstrndup (s : OverrideState) (buf : List UInt8) (nomem : Bool) : OverrideState × Option ℕ :=
  if nomem then (s, none)
  else
    ({ s with strings := Function.update s.strings s.next (some (strn buf.length buf))
              next := s.next + 1 }, some s.next)

/-- `kfree`, which does nothing for `NULL`. -/
def kfree (s : OverrideState) : Option StrPtr → OverrideState
  | none => s
  | some .literal => { s with kfreed := .literal :: s.kfreed }
  | some (.heap n) =>
    { s with strings := Function.update s.strings n none, kfreed := .heap n :: s.kfreed }

/-- `new[strcspn(new, "\n")] = '\0'`. -/
def cutLine (s : OverrideState) (n : ℕ) : OverrideState :=
  { s with strings := Function.update s.strings n ((s.strings n).map (·.takeWhile (· ≠ 10))) }

/-- `strlen` of a string that is not freed. -/
def strlen (s : OverrideState) (n : ℕ) : ℕ :=
  ((s.strings n).getD []).length

/-- `driver_override_store`. -/
def driverOverrideStore (s : OverrideState) (buf : List UInt8) (nomem : Bool) :
    OverrideState × Except Errno ℕ :=
  match s.kstrndup buf nomem with
  | (s, none) => (s, .error .ENOMEM)
  | (s, some new) =>
    let s := s.cutLine new
    let old := s.driverOverride
    let s :=
      if s.strlen new ≠ 0 then { s with driverOverride := some (.heap new) }
      else { s.kfree (some (.heap new)) with driverOverride := none }
    (s.kfree old, .ok buf.length)

def step (s : OverrideState) (ev : StoreEvent) : Option OverrideState :=
  some (s.driverOverrideStore ev.buf ev.nomem).1

end OverrideState

/-! ### What a write does -/

/-- What the attribute is to hold after a text was written: the text up to its first newline or NUL,
and nothing where that is empty. -/
def overrideText (buf : List UInt8) : Option (List UInt8) :=
  let text := buf.takeWhile fun b ↦ decide (b ≠ 10) && decide (b ≠ 0)
  if text = [] then none else some text

/-- The copy ends before the first NUL, and is cut before its first newline. -/
theorem takeWhile_strn_length (buf : List UInt8) :
    (strn buf.length buf).takeWhile (· ≠ 10) =
      buf.takeWhile fun b ↦ decide (b ≠ 10) && decide (b ≠ 0) := by
  rw [strn, List.take_length, List.takeWhile_takeWhile]
  simp only [Bool.decide_eq_true, Bool.decide_and]

/-- It is what the other modules put into the device. -/
theorem driverOverrideStore_driverOverride (buf : List UInt8) (rpdev : RpmsgDevice) :
    (driverOverrideStore buf rpdev).driverOverride = overrideText buf := by
  simp only [driverOverrideStore, overrideText, takeWhile_strn_length]

namespace OverrideState

variable {s : OverrideState} {buf : List UInt8}

/-- What a pointer points to; nothing, where it was freed. -/
def read (s : OverrideState) : StrPtr → Option (List UInt8)
  | .literal => some RPMSG_CHRDEV
  | .heap n => s.strings n

/-- The device holds the text `t`, or `NULL`. -/
def Shows (s : OverrideState) (t : Option (List UInt8)) : Prop :=
  s.driverOverride.map s.read = t.map some

theorem registered_shows (o : RpdevOrigin) :
    (registered o).Shows o.rpmsgDevice.driverOverride := by
  cases o <;> rfl

/-- `driver_override_store` up to the last `kfree`: the copy is in the device, or freed again. -/
def replaced (s : OverrideState) (buf : List UInt8) : OverrideState :=
  match overrideText buf with
  | none =>
    { s with driverOverride := none, strings := Function.update s.strings s.next none
             next := s.next + 1, kfreed := .heap s.next :: s.kfreed }
  | some text =>
    { s with driverOverride := some (.heap s.next)
             strings := Function.update s.strings s.next (some text), next := s.next + 1 }

theorem driverOverrideStore_nomem (s : OverrideState) (buf : List UInt8) :
    s.driverOverrideStore buf true = (s, .error .ENOMEM) := rfl

/-- **A write that gets memory** puts the text into the device, and frees what was there. -/
theorem driverOverrideStore_granted (s : OverrideState) (buf : List UInt8) :
    s.driverOverrideStore buf false =
      ((s.replaced buf).kfree s.driverOverride, .ok buf.length) := by
  have htext := takeWhile_strn_length buf
  simp only [driverOverrideStore, kstrndup, cutLine, strlen, Bool.false_eq_true, if_false,
    Function.update_self, Option.map_some, Option.getD_some, htext, Function.update_idem]
  rcases hcut : buf.takeWhile fun b ↦ decide (b ≠ 10) && decide (b ≠ 0) with - | ⟨b, text⟩
  · have hnone : overrideText buf = none := by simp only [overrideText, hcut, if_true]
    simp [replaced, hnone, kfree]
  · have hsome : overrideText buf = some (b :: text) := by
      simp only [overrideText, hcut, reduceCtorEq, if_false]
    simp [replaced, hsome]

theorem replaced_shows (s : OverrideState) (buf : List UInt8) :
    (s.replaced buf).Shows (overrideText buf) := by
  unfold replaced
  rcases overrideText buf with - | text
  · rfl
  · simp [Shows, read]

section kfree

variable {p q : StrPtr}

@[simp] theorem kfree_driverOverride : (s.kfree (some p)).driverOverride = s.driverOverride := by
  cases p <;> rfl

@[simp] theorem kfree_kfreed : (s.kfree (some p)).kfreed = p :: s.kfreed := by
  cases p <;> rfl

@[simp] theorem kfree_next : (s.kfree (some p)).next = s.next := by
  cases p <;> rfl

/-- The other strings stay. -/
theorem kfree_read (hne : q ≠ p) : (s.kfree (some p)).read q = s.read q := by
  rcases q with - | n
  · rfl
  rcases p with - | m
  · rfl
  · exact Function.update_of_ne (fun heq ↦ hne (congrArg StrPtr.heap heq)) ..

end kfree

/-! ### Every string is freed once -/

/-- What holds of the strings after any writes. -/
structure Inv (s : OverrideState) : Prop where
  /-- The device has a string of its own. -/
  own : ∀ p, s.driverOverride = some p → p ∉ s.kfreed ∧ ∃ text, s.read p = some text
  bound : ∀ n, s.driverOverride = some (.heap n) → n < s.next
  freed : ∀ n, .heap n ∈ s.kfreed → n < s.next
  once : s.kfreed.Nodup

theorem inv_registered (o : RpdevOrigin) : (registered o).Inv where
  own p hp := by
    cases o <;> cases hp
    exact ⟨List.not_mem_nil, _, rfl⟩
  bound n hn := by cases o <;> cases hn
  freed n hn := absurd hn List.not_mem_nil
  once := List.nodup_nil

/-- A number `kstrndup` has yet to return was not freed. -/
theorem Inv.next_notMem (h : s.Inv) : .heap s.next ∉ s.kfreed :=
  fun hmem ↦ lt_irrefl _ (h.freed _ hmem)

/-- The new string in its place. -/
theorem Inv.replaced (h : s.Inv) (buf : List UInt8) : (s.replaced buf).Inv := by
  unfold OverrideState.replaced
  rcases overrideText buf with - | text
  · refine ⟨nofun, nofun, fun n hn ↦ ?_, List.nodup_cons.2 ⟨h.next_notMem, h.once⟩⟩
    rcases List.mem_cons.1 hn with hnew | hn
    · cases hnew
      exact Nat.lt_succ_self _
    · exact (h.freed n hn).trans (Nat.lt_succ_self _)
  · refine ⟨fun p hp ↦ ?_, fun n hn ↦ ?_, fun n hn ↦ (h.freed n hn).trans (Nat.lt_succ_self _),
      h.once⟩
    · cases hp
      exact ⟨h.next_notMem, text, by simp [read]⟩
    · cases hn
      exact Nat.lt_succ_self _

/-- The string that was there, once the new one is in its place. -/
theorem Inv.old {p : StrPtr} (h : s.Inv) (hp : s.driverOverride = some p) (buf : List UInt8) :
    p ∉ (s.replaced buf).kfreed ∧ (s.replaced buf).driverOverride ≠ some p ∧
      ∀ n, p = .heap n → n < (s.replaced buf).next := by
  have hnew : p ≠ .heap s.next := by
    rintro rfl
    exact lt_irrefl _ (h.bound _ hp)
  have hnext : (s.replaced buf).next = s.next + 1 := by
    unfold OverrideState.replaced
    split <;> rfl
  refine ⟨?_, ?_, fun n hn ↦ ?_⟩
  · unfold OverrideState.replaced
    split
    · exact fun hmem ↦ (List.mem_cons.1 hmem).elim hnew (h.own p hp).1
    · exact (h.own p hp).1
  · unfold OverrideState.replaced
    split
    · exact nofun
    · exact fun hsome ↦ hnew (Option.some.inj hsome).symm
  · rw [hnext]
    exact (h.bound n (hn ▸ hp)).trans (Nat.lt_succ_self _)

/-- A string is freed for the first time. -/
theorem Inv.kfree {p : StrPtr} (h : s.Inv) (hp : p ∉ s.kfreed) (hother : s.driverOverride ≠ some p)
    (hbound : ∀ n, p = .heap n → n < s.next) : (s.kfree (some p)).Inv := by
  refine ⟨fun q hq ↦ ?_, fun n hn ↦ ?_, fun n hn ↦ ?_, ?_⟩
  · rw [kfree_driverOverride] at hq
    have hne : q ≠ p := fun heq ↦ hother (heq ▸ hq)
    rw [kfree_kfreed, kfree_read hne]
    exact ⟨fun hmem ↦ (List.mem_cons.1 hmem).elim hne (h.own q hq).1, (h.own q hq).2⟩
  · rw [kfree_driverOverride] at hn
    rw [kfree_next]
    exact h.bound n hn
  · rw [kfree_kfreed] at hn
    rw [kfree_next]
    exact (List.mem_cons.1 hn).elim (fun heq ↦ hbound n heq.symm) (h.freed n)
  · rw [kfree_kfreed]
    exact List.nodup_cons.2 ⟨hp, h.once⟩

/-- **Every write keeps the strings in order**, whatever the device began with. -/
theorem Inv.store (h : s.Inv) (buf : List UInt8) (nomem : Bool) :
    (s.driverOverrideStore buf nomem).1.Inv := by
  rcases nomem with - | -
  · rw [driverOverrideStore_granted]
    rcases hold : s.driverOverride with - | p
    · exact h.replaced buf
    · obtain ⟨hfreed, hother, hbound⟩ := h.old hold buf
      exact (h.replaced buf).kfree hfreed hother hbound
  · exact h

/-! ### The law of the attribute -/

/-- After a write that gets memory the device has the text. -/
theorem Inv.shows (h : s.Inv) (buf : List UInt8) :
    (s.driverOverrideStore buf false).1.Shows (overrideText buf) := by
  rw [driverOverrideStore_granted]
  rcases hold : s.driverOverride with - | p
  · exact replaced_shows s buf
  · obtain ⟨-, hother, -⟩ := h.old hold buf
    have hnew := replaced_shows s buf
    unfold Shows at hnew ⊢
    rw [← hnew, kfree_driverOverride]
    rcases hdev : (s.replaced buf).driverOverride with - | q
    · rfl
    · have hne : q ≠ p := fun heq ↦ hother (heq ▸ hdev)
      simp only [Option.map_some, kfree_read hne]

theorem Inv.shows_afterStore {rpdev : RpmsgDevice} (h : s.Inv)
    (hshows : s.Shows rpdev.driverOverride) (ev : StoreEvent) :
    (s.driverOverrideStore ev.buf ev.nomem).1.Shows (rpdev.afterStore ev).driverOverride := by
  rcases hmem : ev.nomem with - | -
  · simp only [RpmsgDevice.afterStore, hmem, Bool.false_eq_true, if_false,
      driverOverrideStore_driverOverride]
    exact h.shows ev.buf
  · simpa only [RpmsgDevice.afterStore, hmem, if_true, driverOverrideStore_nomem] using hshows

/-- **The device of the other modules**: after any writes it has the text its pointer leads to. -/
theorem shows_of_run {o : RpdevOrigin} {evs : List StoreEvent}
    (h : run step (registered o) evs = some s) :
    s.Shows (evs.foldl RpmsgDevice.afterStore o.rpmsgDevice).driverOverride := by
  suffices hfrom : ∀ (s₀ : OverrideState) (rpdev : RpmsgDevice), s₀.Inv →
      s₀.Shows rpdev.driverOverride → run step s₀ evs = some s →
        s.Shows (evs.foldl RpmsgDevice.afterStore rpdev).driverOverride from
    hfrom _ _ (inv_registered o) (registered_shows o) h
  clear h
  induction evs with
  | nil =>
    intro s₀ rpdev _ hshows hrun
    obtain rfl := Option.some.inj hrun
    exact hshows
  | cons ev evs ih =>
    intro s₀ rpdev hinv hshows hrun
    exact ih _ _ (hinv.store _ _) (hinv.shows_afterStore hshows ev) hrun

/-- The law of `driver_override_store`. -/
structure StoreRight (s : OverrideState) (ev : StoreEvent) : Prop where
  /-- What is passed to `kfree` was returned by `kstrndup`. -/
  returned : ∀ p ∈ (s.driverOverrideStore ev.buf ev.nomem).1.kfreed,
    ∃ n, p = .heap n ∧ n < (s.driverOverrideStore ev.buf ev.nomem).1.next
  /-- And not freed before. -/
  once : (s.driverOverrideStore ev.buf ev.nomem).1.kfreed.Nodup
  /-- A write that succeeds puts the text up to its first newline or NUL into the device. -/
  shows : ∀ n, (s.driverOverrideStore ev.buf ev.nomem).2 = .ok n →
    (s.driverOverrideStore ev.buf ev.nomem).1.Shows (overrideText ev.buf)
  /-- One that finds no memory changes nothing. -/
  unchanged : (s.driverOverrideStore ev.buf ev.nomem).2 = .error .ENOMEM →
    (s.driverOverrideStore ev.buf ev.nomem).1 = s

/-- The write does not replace the literal. -/
def KeepsLiteral (s : OverrideState) (ev : StoreEvent) : Prop :=
  s.driverOverride = some .literal → ev.nomem = true

/-- The literal goes to `kfree` in the write that replaces it. -/
theorem literal_notMem_iff (ev : StoreEvent) (hkept : .literal ∉ s.kfreed) :
    .literal ∉ (s.driverOverrideStore ev.buf ev.nomem).1.kfreed ↔ s.KeepsLiteral ev := by
  obtain ⟨buf, nomem⟩ := ev
  rcases nomem with - | -
  · have hnew : .literal ∉ (s.replaced buf).kfreed := by
      unfold replaced
      split
      · exact fun hmem ↦ (List.mem_cons.1 hmem).elim nofun hkept
      · exact hkept
    rw [driverOverrideStore_granted]
    rcases hold : s.driverOverride with - | p
    · exact iff_of_true hnew fun hlit ↦ nomatch hold.symm.trans hlit
    · simp only [KeepsLiteral, hold, kfree_kfreed, List.mem_cons, not_or, hnew, not_false_eq_true,
        and_true, Option.some.injEq, Bool.false_eq_true, imp_false, eq_comm]
  · exact iff_of_true hkept fun _ ↦ rfl

/-- **Where the literal was not freed, a write keeps the law exactly when it does not free it.** -/
theorem Inv.right_iff (h : s.Inv) (ev : StoreEvent) (hkept : .literal ∉ s.kfreed) :
    s.StoreRight ev ↔ s.KeepsLiteral ev := by
  have hinv := h.store ev.buf ev.nomem
  rw [← literal_notMem_iff ev hkept]
  constructor
  · intro hright hmem
    obtain ⟨n, hn, -⟩ := hright.returned _ hmem
    cases hn
  · intro hlit
    refine ⟨fun p hp ↦ ?_, hinv.once, fun n hret ↦ ?_, fun hret ↦ ?_⟩
    · rcases p with - | n
      · exact absurd hp hlit
      · exact ⟨n, rfl, hinv.freed n hp⟩
    · rcases hmem : ev.nomem with - | -
      · exact h.shows ev.buf
      · rw [hmem, driverOverrideStore_nomem] at hret
        cases hret
    · rcases hmem : ev.nomem with - | -
      · rw [hmem, driverOverrideStore_granted] at hret
        cases hret
      · rfl

/-- A write that gets memory leaves a string of `kstrndup` there, or none. -/
theorem driverOverride_ne_literal (s : OverrideState) (buf : List UInt8) :
    (s.driverOverrideStore buf false).1.driverOverride ≠ some .literal := by
  have hnew : (s.replaced buf).driverOverride ≠ some .literal := by
    unfold replaced
    split <;> exact nofun
  rw [driverOverrideStore_granted]
  rcases s.driverOverride with - | p
  · exact hnew
  · exact kfree_driverOverride.trans_ne hnew

/-- The writes that never replace the literal: it is not there, or none of them gets memory. -/
theorem meets_keepsLiteral_iff (s : OverrideState) (evs : List StoreEvent) :
    Meets step KeepsLiteral s evs ↔
      s.driverOverride ≠ some .literal ∨ ∀ ev ∈ evs, ev.nomem = true := by
  induction evs generalizing s with
  | nil => exact iff_of_true trivial (.inr fun ev hev ↦ absurd hev List.not_mem_nil)
  | cons ev evs ih =>
    obtain ⟨buf, nomem⟩ := ev
    simp only [Meets, step, Option.some.injEq, forall_eq', ih]
    rcases nomem with - | -
    · have hafter := driverOverride_ne_literal s buf
      simp [KeepsLiteral, hafter]
    · simp [KeepsLiteral, driverOverrideStore_nomem]

/-- **The attribute keeps its law for the devices `rpmsg_create_channel` registers**, over any
writes, and for those of `rpmsg_chrdev_register_device` as long as no write gets memory. -/
theorem storeRight_iff (o : RpdevOrigin) (evs : List StoreEvent) :
    Meets step StoreRight (registered o) evs ↔
      (∃ vrp chinfo, o = .channel vrp chinfo) ∨ ∀ ev ∈ evs, ev.nomem = true := by
  have hstart : (registered o).Inv ∧ .literal ∉ (registered o).kfreed :=
    ⟨inv_registered o, List.not_mem_nil⟩
  have hguard : Meets step StoreRight (registered o) evs ↔
      Meets step KeepsLiteral (registered o) evs := by
    refine meets_congr_of_inv (I := fun s ↦ s.Inv ∧ .literal ∉ s.kfreed) hstart
      (fun hs ↦ hs.1.right_iff _ hs.2) (fun hs hkeeps hstep ↦ ?_) evs
    obtain rfl := Option.some.inj hstep
    exact ⟨hs.1.store _ _, (literal_notMem_iff _ hs.2).2 hkeeps⟩
  rw [hguard, meets_keepsLiteral_iff]
  cases o with
  | channel vrp chinfo => exact iff_of_true (.inl nofun) (.inl ⟨vrp, chinfo, rfl⟩)
  | chrdev => simp [registered]

/-- The first write to the device of `create_rpmsg_chrdev`, of the very text it has. -/
theorem storeRight_literal_freed :
    (run step (registered .chrdev) [⟨RPMSG_CHRDEV ++ [10], false⟩]).map
        (fun s ↦ (s.driverOverride, s.kfreed)) = some (some (.heap 0), [.literal]) ∧
      ¬ Meets step StoreRight (registered .chrdev) [⟨RPMSG_CHRDEV ++ [10], false⟩] := by
  refine ⟨by decide, fun h ↦ ?_⟩
  obtain ⟨n, hn, -⟩ := h.1.returned .literal (by decide)
  cases hn

end OverrideState
