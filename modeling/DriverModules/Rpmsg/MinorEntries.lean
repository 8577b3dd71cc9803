import DriverModules.Rpmsg.Minors

/-!
# Entries of the character device map

The `cdev_map` is to follow the minors: one entry under a device number, that of the device that has
the minor. Every step of a creation keeps this. A release function does not: it returns its minor
before it calls `cdev_del`, and what that costs depends on whether a creation takes the minor in
between.

## Main results, and what each rests on

* `minorsSound_iff`, first half: the map follows the minors exactly when no release function returns
  a minor. One that does leaves, at once, an entry whose minor nobody has (`EntryInv.owned_iff`).
* `minorsSound_iff`, second half: what is worse, two entries under one number or a `cdev_del` that
  takes out another device's entry, happens exactly when a creation is given such a minor
  (`EntryInv.step_iff`). That is the only step that pairs an entry with a second device.
* Both rest on `MinorInv` for the ids, and on `EntryInv` for what `cdev_del` finds: under the guard
  the first entry of a number is the only one. `minorsSound_overtaken` is the run in which it is
  not.
-/

open Transition Pairing

namespace MinorState

variable {s s' : MinorState} {d : CharDevId} {dev dev' : CharDev} {env : CharEnv}

/-! ### What the map should be -/

/-- The map has at most one entry under a device number, it is no longer that of another device once
the minor is taken again, and every `cdev_del` has found its own; the ids come out even. -/
structure EntriesSound (s : MinorState) : Prop where
  ids : s.IdsOnce
  oneEntry : s.cdevMap.NodupKeys
  noOther : ∀ minor d, ⟨minor, d⟩ ∈ s.cdevMap → ∀ d', s.minorIda minor = some d' → d' = d
  own : ∀ p ∈ s.deleted, p.2 = some p.1

/-- In addition, the entry belongs to the device that has the minor. -/
structure MinorsSound (s : MinorState) : Prop extends s.EntriesSound where
  owner : ∀ minor d, ⟨minor, d⟩ ∈ s.cdevMap → s.minorIda minor = some d

/-- A minor that is taken has no entry in the map. -/
def takesFree (s : MinorState) : CharEvent → Bool
  | .next d env => (s.devs d).all fun dev ↦
    match dev.pc, s.minorIda.alloc d 0 RPMSG_DEV_MAX env.nomem with
    | .getMinor, .ok (minor, _) => minor ∉ s.cdevMap.keys
    | _, _ => true
  | _ => true

/-- The minor is not returned in a release function. -/
def keepsMinor (s : MinorState) : CharEvent → Bool
  | .next d _ => (s.devs d).all fun dev ↦ dev.pc ≠ .releaseMinor
  | _ => true

/-- The entries of the map are those of the devices. -/
structure EntryInv (s : MinorState) : Prop where
  ids : s.MinorInv
  oneEntry : s.cdevMap.NodupKeys
  entry : Paired (s.read CharDev.entry) fun minor ↦ s.cdevMap.dlookup minor
  noOther : ∀ {minor d d'}, s.cdevMap.dlookup minor = some d → s.minorIda minor = some d' → d' = d
  own : ∀ p ∈ s.deleted, p.2 = some p.1

theorem EntryInv.sound (h : s.EntryInv) : s.EntriesSound where
  ids := h.ids.idsOnce
  oneEntry := h.oneEntry
  noOther _ _ hmem _ := h.noOther (List.mem_dlookup h.oneEntry hmem)
  own := h.own

theorem entryInv_init : init.EntryInv where
  ids := minorInv_init
  oneEntry := List.nodupKeys_nil
  entry := paired_none (fun _ ↦ rfl) fun _ ↦ rfl
  noOther h := by cases h
  own _ h := by cases h

theorem EntryInv.create (h : s.EntryInv) (kind : CharKind) : (s.create kind true).EntryInv where
  ids := h.ids.create kind
  oneEntry := h.oneEntry
  entry := h.entry.congr (h.ids.read_create kind rfl) fun _ ↦ rfl
  noOther := h.noOther
  own := h.own

theorem EntryInv.dlookup_eq_some (h : s.EntryInv) (hdev : s.devs d = some dev) {minor : ℕ} :
    s.cdevMap.dlookup minor = some d ↔ dev.entry = some minor := by
  rw [← h.entry d minor, read, hdev]
  rfl

/-- Nobody has an entry under the minor of a device that has not added its own. -/
theorem EntryInv.dlookup_eq_none (h : s.EntryInv) (hdev : s.devs d = some dev) {minor : ℕ}
    (hheld : dev.minor.held = some minor) (hnone : dev.entry = none) :
    s.cdevMap.dlookup minor = none := by
  rcases hlook : s.cdevMap.dlookup minor with - | d'
  · rfl
  · obtain rfl := h.noOther hlook (h.ids.read_minor hdev hheld)
    exact nomatch hnone.symm.trans ((h.dlookup_eq_some hdev).1 hlook)

/-- The entries after a statement. -/
theorem EntryInv.entry_move (h : s.EntryInv) (hdev : s.devs d = some dev)
    (hm : CharMove s d dev dev' env s') :
    s'.cdevMap.NodupKeys ∧
      Paired (s'.read CharDev.entry) fun minor ↦ s'.cdevMap.dlookup minor := by
  have hkeep : dev'.entry = dev.entry → s'.cdevMap = s.cdevMap → s'.cdevMap.NodupKeys ∧
      Paired (s'.read CharDev.entry) fun minor ↦ s'.cdevMap.dlookup minor := by
    intro hentry hmap
    rw [hmap]
    exact ⟨h.oneEntry, paired_keep h.entry hdev hm.devs hentry⟩
  cases hm with
  | keep _ _ hentry | takeId _ _ _ _ _ _ hentry | returnMinor _ _ _ _ hentry
  | returnId _ _ _ _ hentry => exact hkeep hentry (by simp [setDev])
  | takeMinor _ _ hpc _ _ _ _ hentry =>
    have hnone : dev.entry = none := by rw [CharDev.entry, hpc]; rfl
    exact hkeep (hentry.trans hnone.symm) rfl
  | cdevAdd minor hheld _ _ hnone hentry =>
    have hlook := h.dlookup_eq_none hdev hheld hnone
    refine ⟨List.nodupKeys_cons.2 ⟨List.dlookup_eq_none.1 hlook, h.oneEntry⟩, ?_⟩
    refine paired_move (k := minor) h.entry hdev rfl ?_ fun l hne ↦ List.dlookup_cons_ne _ _ hne
    simp only [hnone, hentry, hlook, List.dlookup_cons_eq]
    exact .join
  | cdevDel minor _ _ hentry hnone =>
    refine ⟨h.oneEntry.kerase minor, ?_⟩
    refine paired_move (k := minor) h.entry hdev rfl ?_ fun l hne ↦ List.dlookup_kerase_ne hne
    have hgone : (s.cdevMap.kerase minor).dlookup minor = none :=
      List.dlookup_kerase minor h.oneEntry
    simp only [hnone, hentry, cdevDel, setDev, hgone]
    exact .part _

/-- **A statement keeps the entries right when it takes no minor that still has one.** -/
theorem EntryInv.move (h : s.EntryInv) (hdev : s.devs d = some dev) (hwf : dev'.Wf)
    (hkind : dev'.kind = dev.kind) (hm : CharMove s d dev dev' env s')
    (hfree : ∀ minor t, dev.pc = .getMinor →
      s.minorIda.alloc d 0 RPMSG_DEV_MAX env.nomem = .ok (minor, t) →
      s.cdevMap.dlookup minor = none) : s'.EntryInv where
  ids := h.ids.move hdev hwf hkind hm
  oneEntry := (h.entry_move hdev hm).1
  entry := (h.entry_move hdev hm).2
  noOther {minor' e e'} hlook howner := by
    cases hm with
    | keep => exact h.noOther hlook howner
    | takeId | returnId =>
      rw [cdevMap_setIda] at hlook
      rw [minorIda_setIda] at howner
      exact h.noOther hlook howner
    | takeMinor minor t hpc _ halloc =>
      obtain ⟨-, -, -, -, rfl⟩ := Idr.alloc_eq_ok halloc
      rcases Maps.update_eq_some.1 howner with ⟨rfl, -⟩ | ⟨-, howner⟩
      · exact nomatch (hfree _ _ hpc halloc).symm.trans hlook
      · exact h.noOther hlook howner
    | returnMinor => exact h.noOther hlook (Maps.erase_eq_some.1 howner).2
    | cdevAdd minor hheld =>
      rcases eq_or_ne minor' minor with rfl | hne
      · obtain rfl := Option.some.inj ((List.dlookup_cons_eq _ _ _).symm.trans hlook)
        exact Option.some.inj (howner.symm.trans (h.ids.read_minor hdev hheld))
      · exact h.noOther ((List.dlookup_cons_ne _ _ hne).symm.trans hlook) howner
    | cdevDel minor =>
      rcases eq_or_ne minor' minor with rfl | hne
      · exact nomatch (List.dlookup_kerase _ h.oneEntry).symm.trans hlook
      · exact h.noOther ((List.dlookup_kerase_ne hne).symm.trans hlook) howner
  own p hp := by
    cases hm with
    | keep | takeMinor | returnMinor | cdevAdd => exact h.own p hp
    | takeId | returnId =>
      rw [deleted_setIda] at hp
      exact h.own p hp
    | cdevDel minor _ _ hentry =>
      rcases List.mem_cons.1 hp with rfl | hp
      · exact (h.dlookup_eq_some hdev).2 hentry
      · exact h.own p hp

/-- The device that has the entry has the minor. -/
def Owned (s : MinorState) : Prop :=
  ∀ minor d, s.cdevMap.dlookup minor = some d → s.minorIda minor = some d

theorem owned_init : init.Owned :=
  fun _ _ h ↦ by cases h

theorem Owned.move (h : s.Owned) (hinv : s.EntryInv) (hdev : s.devs d = some dev)
    (hm : CharMove s d dev dev' env s') (hpc : dev.pc ≠ .releaseMinor) : s'.Owned := by
  intro minor' e hlook
  cases hm with
  | keep => exact h _ _ hlook
  | takeId | returnId =>
    rw [cdevMap_setIda] at hlook
    rw [minorIda_setIda]
    exact h _ _ hlook
  | takeMinor minor t _ _ halloc =>
    obtain ⟨-, hnone, -, -, rfl⟩ := Idr.alloc_eq_ok halloc
    have howner := h _ _ hlook
    have hne : minor' ≠ minor := by
      rintro rfl
      exact nomatch hnone.symm.trans howner
    exact (Function.update_of_ne hne ..).trans howner
  | returnMinor minor hheld _ _ _ hrelease =>
    have howner := h _ _ hlook
    have hne : minor' ≠ minor := by
      rintro rfl
      obtain rfl := Option.some.inj (howner.symm.trans (hinv.ids.read_minor hdev hheld))
      exact nomatch (hrelease.2 hpc).symm.trans ((hinv.dlookup_eq_some hdev).1 hlook)
    exact (Function.update_of_ne hne ..).trans howner
  | cdevAdd minor hheld =>
    rcases eq_or_ne minor' minor with rfl | hne
    · obtain rfl := Option.some.inj ((List.dlookup_cons_eq _ _ _).symm.trans hlook)
      exact hinv.ids.read_minor hdev hheld
    · exact h _ _ ((List.dlookup_cons_ne _ _ hne).symm.trans hlook)
  | cdevDel minor =>
    rcases eq_or_ne minor' minor with rfl | hne
    · exact nomatch (List.dlookup_kerase _ hinv.oneEntry).symm.trans hlook
    · exact h _ _ ((List.dlookup_kerase_ne hne).symm.trans hlook)

theorem takesFree_next : s.takesFree (.next d env) = true ↔
    ∀ dev, s.devs d = some dev → ∀ minor t, dev.pc = .getMinor →
      s.minorIda.alloc d 0 RPMSG_DEV_MAX env.nomem = .ok (minor, t) →
      s.cdevMap.dlookup minor = none := by
  simp only [takesFree, Option.all_eq_true, List.dlookup_eq_none]
  refine forall₂_congr fun dev _ ↦ ⟨fun h minor t hpc halloc ↦ ?_, fun h ↦ ?_⟩
  · rw [hpc, halloc] at h
    exact of_decide_eq_true h
  · split
    · next minor t hpc halloc => exact decide_eq_true (h minor t hpc halloc)
    · rfl

/-- A minor nobody has can be taken. -/
theorem Owned.takesFree (h : s.Owned) (ev : CharEvent) : s.takesFree ev = true := by
  rcases ev with kzalloc | kzalloc | ⟨d, env⟩
  · rfl
  · rfl
  · refine takesFree_next.2 fun dev _ minor t _ halloc ↦ ?_
    obtain ⟨-, hnone, -⟩ := Idr.alloc_eq_ok halloc
    rcases hlook : s.cdevMap.dlookup minor with - | d'
    · rfl
    · exact nomatch hnone.symm.trans (h _ _ hlook)

/-- **One step**: the entries stay right exactly when no minor with an entry is taken. -/
theorem EntryInv.step_iff {ev : CharEvent} (h : s.EntryInv) (hstep : s.step ev = some s') :
    (s.takesFree ev = true → s'.EntryInv) ∧ (s'.EntriesSound → s.takesFree ev = true) := by
  have hcreate : ∀ kind kzalloc, (s.create kind kzalloc).EntryInv := by
    rintro kind (- | -)
    · exact h
    · exact h.create kind
  rcases ev with kzalloc | kzalloc | ⟨d, env⟩
  · obtain rfl := Option.some.inj hstep
    exact ⟨fun _ ↦ hcreate _ _, fun _ ↦ rfl⟩
  · obtain rfl := Option.some.inj hstep
    exact ⟨fun _ ↦ hcreate _ _, fun _ ↦ rfl⟩
  obtain ⟨dev, hdev, hexec⟩ := Option.bind_eq_some_iff.1 hstep
  obtain ⟨dev', hwf', hkind, hm⟩ := exec_cases (h.ids.wf hdev) hexec
  refine ⟨fun hfree ↦ h.move hdev hwf' hkind hm (takesFree_next.1 hfree dev hdev), fun hsound ↦ ?_⟩
  refine takesFree_next.2 fun dev₁ hdev₁ minor t hpc halloc ↦ ?_
  obtain rfl := Option.some.inj (hdev.symm.trans hdev₁)
  obtain rfl : s' = { s.setDev d { dev with minor := dev.minor.take minor, pc := .getId } with
      minorIda := t } := by
    simp only [exec, hpc, halloc, Option.some.injEq] at hexec
    exact hexec.symm
  obtain ⟨-, -, -, -, rfl⟩ := Idr.alloc_eq_ok halloc
  rcases hlook : s.cdevMap.dlookup minor with - | d'
  · rfl
  · -- the old entry is now another device's
    have hmem : ⟨minor, d'⟩ ∈ s.cdevMap := List.of_mem_dlookup hlook
    obtain rfl := hsound.noOther minor d' hmem d (Function.update_self ..)
    have hentry := (h.dlookup_eq_some hdev).1 hlook
    rw [CharDev.entry, hpc] at hentry
    cases hentry

/-- **One step**: the entries stay with the owners of their minors exactly when no release function
returns one. -/
theorem EntryInv.owned_iff {ev : CharEvent} (h : s.EntryInv) (howned : s.Owned)
    (hstep : s.step ev = some s') :
    (s.keepsMinor ev = true → s'.EntryInv ∧ s'.Owned) ∧
      (s'.MinorsSound → s.keepsMinor ev = true) := by
  have hinv' := (h.step_iff hstep).1 (howned.takesFree ev)
  have hcreate : ∀ kind kzalloc, (s.create kind kzalloc).Owned := by
    rintro kind (- | -) <;> exact howned
  rcases ev with kzalloc | kzalloc | ⟨d, env⟩
  · obtain rfl := Option.some.inj hstep
    exact ⟨fun _ ↦ ⟨hinv', hcreate _ _⟩, fun _ ↦ rfl⟩
  · obtain rfl := Option.some.inj hstep
    exact ⟨fun _ ↦ ⟨hinv', hcreate _ _⟩, fun _ ↦ rfl⟩
  obtain ⟨dev, hdev, hexec⟩ := Option.bind_eq_some_iff.1 hstep
  have hkeeps : s.keepsMinor (.next d env) = true ↔ dev.pc ≠ .releaseMinor := by
    simp [keepsMinor, hdev]
  obtain ⟨dev', hwf', hkind, hm⟩ := exec_cases (h.ids.wf hdev) hexec
  refine ⟨fun hk ↦ ⟨hinv', howned.move h hdev hm (hkeeps.1 hk)⟩, fun hsound ↦ hkeeps.2 ?_⟩
  intro hpc
  obtain rfl : s' = s.returnMinor d { dev with pc := .releaseCdev } := by
    simp only [exec, hpc, Option.some.injEq] at hexec
    exact hexec.symm
  have hentry : dev.entry = some dev.minor.val := by rw [CharDev.entry, hpc]; rfl
  have hmem : ⟨dev.minor.val, d⟩ ∈ s.cdevMap :=
    List.of_mem_dlookup ((h.dlookup_eq_some hdev).2 hentry)
  have hnone : (s.returnMinor d { dev with pc := .releaseCdev }).minorIda dev.minor.val = none :=
    Function.update_self ..
  exact nomatch hnone.symm.trans (hsound.owner _ _ hmem)

/-- **When the map follows the minors.** Every entry belongs to the device that has the minor
exactly when no release function returns a minor, since it does so before `cdev_del`. No other
device comes to have the minor of an entry, no second entry comes under it and no `cdev_del` takes
out an entry that is not its own exactly when no `ida_simple_get` is given a minor in between. -/
theorem minorsSound_iff (evs : List CharEvent) (s : MinorState) (h : run step init evs = some s) :
    (Throughout step (fun _ ↦ MinorsSound) init evs ↔
      Meets step (fun s ev ↦ s.keepsMinor ev = true) init evs) ∧
    (Throughout step (fun _ ↦ EntriesSound) init evs ↔
      Meets step (fun s ev ↦ s.takesFree ev = true) init evs) := by
  constructor
  · refine throughout_iff_meets_of_inv (I := fun _ s ↦ s.EntryInv ∧ s.Owned)
      ⟨entryInv_init, owned_init⟩ ?_ ?_ ?_ h
    · rintro _ s ⟨hinv, howned⟩
      exact ⟨hinv.sound, fun _ _ hmem ↦ howned _ _ (List.mem_dlookup hinv.oneEntry hmem)⟩
    · exact fun hinv hstep hk ↦ (hinv.1.owned_iff hinv.2 hstep).1 hk
    · exact fun hinv hstep hsound ↦ (hinv.1.owned_iff hinv.2 hstep).2 hsound
  · exact throughout_iff_meets_of_inv (I := fun _ ↦ EntryInv) entryInv_init EntryInv.sound
      (fun hinv hstep ↦ (hinv.step_iff hstep).1) (fun hinv hstep ↦ (hinv.step_iff hstep).2) h

/-- An endpoint device and a control device are created, the endpoint device is released, and its
minor is taken by a third creation, whose `cdev_add` fails. -/
theorem minorsSound_reused :
    ∃ s, run step init
        (.rpmsgEptdevCreate true :: List.replicate 4 (.next 0 ⟨false, .ok ()⟩) ++
          .rpmsgChrdevProbe true :: List.replicate 4 (.next 1 ⟨false, .ok ()⟩) ++
          List.replicate 5 (.next 0 ⟨false, .ok ()⟩) ++
          .rpmsgEptdevCreate true :: List.replicate 2 (.next 2 ⟨false, .ok ()⟩) ++
          List.replicate 4 (.next 2 ⟨false, .error .ENOMEM⟩)) = some s ∧
      s.cdevMap = [⟨1, 1⟩] ∧ s.deleted = [(0, some 0)] ∧
      Throughout step (fun _ ↦ EntriesSound) init
        (.rpmsgEptdevCreate true :: List.replicate 4 (.next 0 ⟨false, .ok ()⟩) ++
          .rpmsgChrdevProbe true :: List.replicate 4 (.next 1 ⟨false, .ok ()⟩) ++
          List.replicate 5 (.next 0 ⟨false, .ok ()⟩) ++
          .rpmsgEptdevCreate true :: List.replicate 2 (.next 2 ⟨false, .ok ()⟩) ++
          List.replicate 4 (.next 2 ⟨false, .error .ENOMEM⟩)) := by
  obtain ⟨s, hs, hread⟩ := Option.map_eq_some_iff.1 (show Option.map
    (fun s ↦ (s.cdevMap, s.deleted)) (runIf step takesFree init
      (.rpmsgEptdevCreate true :: List.replicate 4 (.next 0 ⟨false, .ok ()⟩) ++
        .rpmsgChrdevProbe true :: List.replicate 4 (.next 1 ⟨false, .ok ()⟩) ++
        List.replicate 5 (.next 0 ⟨false, .ok ()⟩) ++
        .rpmsgEptdevCreate true :: List.replicate 2 (.next 2 ⟨false, .ok ()⟩) ++
        List.replicate 4 (.next 2 ⟨false, .error .ENOMEM⟩))) = some ([⟨1, 1⟩], [(0, some 0)])
    by decide +kernel)
  obtain ⟨hmap, hdeleted⟩ := Prod.mk.inj hread
  have hrun := run_of_runIf hs
  exact ⟨s, hrun, hmap, hdeleted,
    (minorsSound_iff _ s hrun).2.2 (meets_of_runIf (fun _ _ h ↦ h) hs)⟩

/-- The creation of the second device takes the minor of the first one before the first one's
`cdev_del`, which then takes out the second one's entry. -/
theorem minorsSound_overtaken :
    ∃ s, run step init
        (.rpmsgEptdevCreate true :: List.replicate 7 (.next 0 ⟨false, .ok ()⟩) ++
          .rpmsgEptdevCreate true :: List.replicate 3 (.next 1 ⟨false, .ok ()⟩) ++
          [.next 0 ⟨false, .ok ()⟩]) = some s ∧
      s.minorIda 0 = some 1 ∧ s.cdevMap = [⟨0, 0⟩] ∧ s.deleted = [(0, some 1)] ∧
      ¬ MinorsSound s ∧ ¬ EntriesSound s := by
  obtain ⟨s, hs, hread⟩ := Option.map_eq_some_iff.1 (show Option.map
    (fun s ↦ (s.minorIda 0, s.cdevMap, s.deleted)) (run step init
      (.rpmsgEptdevCreate true :: List.replicate 7 (.next 0 ⟨false, .ok ()⟩) ++
        .rpmsgEptdevCreate true :: List.replicate 3 (.next 1 ⟨false, .ok ()⟩) ++
        [.next 0 ⟨false, .ok ()⟩])) = some (some 1, [⟨0, 0⟩], [(0, some 1)]) by decide +kernel)
  obtain ⟨howner, hread⟩ := Prod.mk.inj hread
  obtain ⟨hmap, hdeleted⟩ := Prod.mk.inj hread
  have hnot : ¬ EntriesSound s := by
    intro hsound
    have hown := hsound.own (0, some 1) (by rw [hdeleted]; exact List.mem_singleton_self _)
    cases hown
  exact ⟨s, hs, howner, hmap, hdeleted, fun hsound ↦ hnot hsound.toEntriesSound, hnot⟩

end MinorState
