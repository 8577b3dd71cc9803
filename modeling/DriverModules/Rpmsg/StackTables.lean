import DriverModules.Lib.Maps
import DriverModules.Rpmsg.StackRules

/-!
# The endpoint tables

`Tables` is what holds of the remote processors, the rpmsg devices and the endpoints in every state
of the stack: an entry of a table is a live endpoint with that address, and an endpoint of a live
channel is in the table of its remote processor and in no other.

## About the maps, not the state

The invariant speaks about the three maps and the next id. A move that leaves them alone keeps it
without a proof, and `StackFiles` adds what holds of endpoint devices and open files without coming
back to it. The ids of all objects come from one counter, so that a new object is new to every map;
the four bounds on the ids are for this.

## Main results, and what each rests on

One lemma for each kind of move of `StackRules`:

* `Tables.bind` and `Tables.unbind`: an endpoint comes and goes with its entry. `bind` needs a free
  id that `ept->addr` can hold. `unbind` rests on `Tables.entry_unique`: there is no second entry.
* `Tables.newVrp` and `Tables.addRpdev`: what is new has an id that no map knows.
* `Tables.freeRpdev`: the endpoints of a device that goes stay in the table, and are no longer those
  of a live channel.
* `Tables.freeVrp`: a remote processor may go when none of its channels is left, which is the order
  of `rpmsg_remove`. `Tables.freeEpt` is for its name service endpoint, which it alone knows
  (`Tables.nsEpt_unique`).
-/

open Transition Relation

/-- The endpoint belongs into the table of `v`. -/
structure Owns (rpdevs : RpdevId → Option RpmsgDevice) (v : VrpId) (ept : RpmsgEndpoint) :
    Prop where
  /-- The name service carries its remote processor. -/
  ns : ept.rpdev = none → ept.priv = .vrp v
  channel : ∀ {r rpdev}, ept.rpdev = some r → rpdevs r = some rpdev →
    rpdev.container = .virtioRpmsgChannel v

/-- **What holds of every endpoint table.** -/
structure Tables (next : ℕ) (vrps : VrpId → Option VirtprocInfo)
    (rpdevs : RpdevId → Option RpmsgDevice) (epts : EptId → Option RpmsgEndpoint) : Prop where
  vrp_lt : ∀ {v vp}, vrps v = some vp → v < next
  rpdev_lt : ∀ {r rpdev}, rpdevs r = some rpdev → r < next
  ept_lt : ∀ {e ept}, epts e = some ept → e < next
  ept_rpdev_lt : ∀ {e ept r}, epts e = some ept → ept.rpdev = some r → r < next
  /-- A channel belongs to a remote processor that is there. -/
  channel : ∀ {r rpdev v}, rpdevs r = some rpdev → rpdev.container = .virtioRpmsgChannel v →
    rpdev.parent = some v ∧ ∃ vp, vrps v = some vp
  /-- An entry is a live endpoint, bound to its own address. -/
  entry : ∀ {v vp id e}, vrps v = some vp → vp.endpoints id = some e →
    ∃ ept, epts e = some ept ∧ ept.addr.toNat = id ∧ Owns rpdevs v ept
  nsEpt : ∀ {v vp e}, vrps v = some vp → vp.nsEpt = some e →
    ∃ ept, epts e = some ept ∧ ept.rpdev = none ∧ ept.priv = .vrp v
  /-- An endpoint of a live channel has its entry. -/
  bound : ∀ {e ept r rpdev v vp}, epts e = some ept → ept.rpdev = some r →
    rpdevs r = some rpdev → rpdev.container = .virtioRpmsgChannel v → vrps v = some vp →
      vp.endpoints ept.addr.toNat = some e

namespace Tables

variable {next n : ℕ} {vrps : VrpId → Option VirtprocInfo} {rpdevs : RpdevId → Option RpmsgDevice}
  {epts : EptId → Option RpmsgEndpoint} {v : VrpId} {vp : VirtprocInfo} {r : RpdevId}
  {rpdev rpdev' : RpmsgDevice} {e : EptId} {ept : RpmsgEndpoint} {id : ℕ}

theorem mono (h : Tables next vrps rpdevs epts) (hn : next ≤ n) : Tables n vrps rpdevs epts where
  vrp_lt hv := (h.vrp_lt hv).trans_le hn
  rpdev_lt hr := (h.rpdev_lt hr).trans_le hn
  ept_lt he := (h.ept_lt he).trans_le hn
  ept_rpdev_lt he hr := (h.ept_rpdev_lt he hr).trans_le hn
  channel := h.channel
  entry := h.entry
  nsEpt := h.nsEpt
  bound := h.bound

/-- A remote processor appears, without endpoints. -/
theorem newVrp (h : Tables next vrps rpdevs epts) (layout : BufLayout) :
    Tables (next + 1)
      (Function.update vrps next (some { layout, endpoints := .empty, nsEpt := none })) rpdevs
      epts where
  vrp_lt hv := by
    rcases Maps.update_eq_some.1 hv with ⟨rfl, -⟩ | ⟨-, hv⟩
    · exact Nat.lt_succ_self _
    · exact Nat.lt_succ_of_lt (h.vrp_lt hv)
  rpdev_lt hr := Nat.lt_succ_of_lt (h.rpdev_lt hr)
  ept_lt he := Nat.lt_succ_of_lt (h.ept_lt he)
  ept_rpdev_lt he hr := Nat.lt_succ_of_lt (h.ept_rpdev_lt he hr)
  channel hr hc := by
    obtain ⟨hparent, hvp⟩ := h.channel hr hc
    exact ⟨hparent, Maps.exists_update _ hvp⟩
  entry hv hid := by
    rcases Maps.update_eq_some.1 hv with ⟨rfl, rfl⟩ | ⟨-, hv⟩
    · cases hid
    · exact h.entry hv hid
  nsEpt hv hns := by
    rcases Maps.update_eq_some.1 hv with ⟨rfl, rfl⟩ | ⟨-, hv⟩
    · cases hns
    · exact h.nsEpt hv hns
  bound he hr hrpdev hc hv := by
    rcases Maps.update_eq_some.1 hv with ⟨rfl, -⟩ | ⟨-, hv⟩
    · obtain ⟨vp, hvp⟩ := (h.channel hrpdev hc).2
      exact absurd (h.vrp_lt hvp) (lt_irrefl _)
    · exact h.bound he hr hrpdev hc hv

/-- **The new endpoint `ept` is bound to the free address `id`.** -/
theorem bind (h : Tables next vrps rpdevs epts) (hv : vrps v = some vp)
    (hfree : vp.endpoints id = none) (haddr : ept.addr.toNat = id) (howns : Owns rpdevs v ept)
    (hlt : ∀ r, ept.rpdev = some r → r < next) :
    Tables (next + 1)
      (Function.update vrps v
        (some { vp with endpoints := Function.update vp.endpoints id (some next) }))
      rpdevs (Function.update epts next (some ept)) where
  vrp_lt hw := by
    rcases Maps.update_eq_some.1 hw with ⟨rfl, -⟩ | ⟨-, hw⟩
    · exact Nat.lt_succ_of_lt (h.vrp_lt hv)
    · exact Nat.lt_succ_of_lt (h.vrp_lt hw)
  rpdev_lt hr := Nat.lt_succ_of_lt (h.rpdev_lt hr)
  ept_lt he := by
    rcases Maps.update_eq_some.1 he with ⟨rfl, -⟩ | ⟨-, he⟩
    · exact Nat.lt_succ_self _
    · exact Nat.lt_succ_of_lt (h.ept_lt he)
  ept_rpdev_lt he hr := by
    rcases Maps.update_eq_some.1 he with ⟨-, rfl⟩ | ⟨-, he⟩
    · exact Nat.lt_succ_of_lt (hlt _ hr)
    · exact Nat.lt_succ_of_lt (h.ept_rpdev_lt he hr)
  channel hr hc := by
    obtain ⟨hparent, hvp⟩ := h.channel hr hc
    exact ⟨hparent, Maps.exists_update _ hvp⟩
  entry := by
    intro w wp id' e hw hid
    -- an entry there was, seen in the new map of endpoints
    have hold : ∀ {wp}, vrps w = some wp → wp.endpoints id' = some e →
        ∃ ept', Function.update epts next (some ept) e = some ept' ∧ ept'.addr.toNat = id' ∧
          Owns rpdevs w ept' := by
      intro wp hw hid
      obtain ⟨ept', he, haddr', howns'⟩ := h.entry hw hid
      exact ⟨ept', by simp [(h.ept_lt he).ne, he], haddr', howns'⟩
    rcases Maps.update_eq_some.1 hw with ⟨rfl, rfl⟩ | ⟨-, hw⟩
    · rcases Maps.update_eq_some.1 hid with ⟨rfl, rfl⟩ | ⟨-, hid⟩
      · exact ⟨ept, by simp, haddr, howns⟩
      · exact hold hv hid
    · exact hold hw hid
  nsEpt := by
    intro w wp e hw hns
    have hold : ∀ {wp}, vrps w = some wp → wp.nsEpt = some e →
        ∃ ept', Function.update epts next (some ept) e = some ept' ∧ ept'.rpdev = none ∧
          ept'.priv = .vrp w := by
      intro wp hw hns
      obtain ⟨ept', he, hrpdev, hpriv⟩ := h.nsEpt hw hns
      exact ⟨ept', by simp [(h.ept_lt he).ne, he], hrpdev, hpriv⟩
    rcases Maps.update_eq_some.1 hw with ⟨rfl, rfl⟩ | ⟨-, hw⟩
    · exact hold hv hns
    · exact hold hw hns
  bound := by
    intro e ept' r rpdev w wp he hr hrpdev hc hw
    rcases Maps.update_eq_some.1 he with ⟨rfl, rfl⟩ | ⟨-, he⟩
    · have hvw : v = w := by
        have := howns.channel hr hrpdev
        rw [hc] at this
        exact (Container.virtioRpmsgChannel.inj this).symm
      subst hvw
      rcases Maps.update_eq_some.1 hw with ⟨-, rfl⟩ | ⟨hne, -⟩
      · simp [haddr]
      · exact absurd rfl hne
    · rcases Maps.update_eq_some.1 hw with ⟨rfl, rfl⟩ | ⟨-, hw⟩
      · have hbound := h.bound he hr hrpdev hc hv
        have hne : ept'.addr.toNat ≠ id := by
          rintro rfl
          rw [hfree] at hbound
          cases hbound
        simp [hne, hbound]
      · exact h.bound he hr hrpdev hc hw

/-- An endpoint of a live channel is in one table alone, and there under its address alone. -/
theorem entry_unique (h : Tables next vrps rpdevs epts) (he : epts e = some ept)
    (hr : ept.rpdev = some r) (hrpdev : rpdevs r = some rpdev)
    (hc : rpdev.container = .virtioRpmsgChannel v) {w : VrpId} {wp : VirtprocInfo}
    (hw : vrps w = some wp) (hid : wp.endpoints id = some e) : w = v ∧ id = ept.addr.toNat := by
  obtain ⟨ept', he', haddr, howns⟩ := h.entry hw hid
  obtain rfl : ept = ept' := Option.some.inj (he.symm.trans he')
  have hcw := howns.channel hr hrpdev
  rw [hc] at hcw
  exact ⟨(Container.virtioRpmsgChannel.inj hcw).symm, haddr.symm⟩

/-- **An endpoint of a live channel goes.** -/
theorem unbind (h : Tables next vrps rpdevs epts) (hv : vrps v = some vp) (he : epts e = some ept)
    (hr : ept.rpdev = some r) (hrpdev : rpdevs r = some rpdev)
    (hc : rpdev.container = .virtioRpmsgChannel v) :
    Tables next
      (Function.update vrps v
        (some { vp with endpoints := vp.endpoints.remove ept.addr.toNat }))
      rpdevs (Function.update epts e none) where
  vrp_lt hw := by
    rcases Maps.update_eq_some.1 hw with ⟨rfl, -⟩ | ⟨-, hw⟩
    · exact h.vrp_lt hv
    · exact h.vrp_lt hw
  rpdev_lt := h.rpdev_lt
  ept_lt he' := h.ept_lt (Maps.erase_eq_some.1 he').2
  ept_rpdev_lt he' := h.ept_rpdev_lt (Maps.erase_eq_some.1 he').2
  channel hr hc := by
    obtain ⟨hparent, hvp⟩ := h.channel hr hc
    exact ⟨hparent, Maps.exists_update _ hvp⟩
  entry := by
    intro w wp id e' hw hid
    have hold : ∀ {wp}, vrps w = some wp → wp.endpoints id = some e' → e' ≠ e →
        ∃ ept', Function.update epts e none e' = some ept' ∧ ept'.addr.toNat = id ∧
          Owns rpdevs w ept' := by
      intro wp hw hid hne
      obtain ⟨ept', he', haddr, howns⟩ := h.entry hw hid
      exact ⟨ept', Maps.erase_eq_some.2 ⟨hne, he'⟩, haddr, howns⟩
    rcases Maps.update_eq_some.1 hw with ⟨rfl, rfl⟩ | ⟨hne, hw⟩
    · obtain ⟨hne, hid⟩ := Maps.erase_eq_some.1 hid
      refine hold hv hid ?_
      rintro rfl
      exact hne (h.entry_unique he hr hrpdev hc hv hid).2
    · refine hold hw hid ?_
      rintro rfl
      exact hne (h.entry_unique he hr hrpdev hc hw hid).1
  nsEpt := by
    intro w wp e' hw hns
    have hold : ∀ {wp}, vrps w = some wp → wp.nsEpt = some e' →
        ∃ ept', Function.update epts e none e' = some ept' ∧ ept'.rpdev = none ∧
          ept'.priv = .vrp w := by
      intro wp hw hns
      obtain ⟨ept', he', hnone, hpriv⟩ := h.nsEpt hw hns
      refine ⟨ept', Maps.erase_eq_some.2 ⟨?_, he'⟩, hnone, hpriv⟩
      rintro rfl
      obtain rfl : ept = ept' := Option.some.inj (he.symm.trans he')
      rw [hr] at hnone
      cases hnone
    rcases Maps.update_eq_some.1 hw with ⟨rfl, rfl⟩ | ⟨-, hw⟩
    · exact hold hv hns
    · exact hold hw hns
  bound := by
    intro e' ept' r' rpdev' w wp he' hr' hrpdev' hc' hw
    obtain ⟨hne, he'⟩ := Maps.erase_eq_some.1 he'
    rcases Maps.update_eq_some.1 hw with ⟨rfl, rfl⟩ | ⟨-, hw⟩
    · have hbound := h.bound he' hr' hrpdev' hc' hv
      refine Maps.erase_eq_some.2 ⟨fun haddr ↦ hne ?_, hbound⟩
      have hself := h.bound he hr hrpdev hc hv
      rw [haddr, hself] at hbound
      exact (Option.some.inj hbound).symm
    · exact h.bound he' hr' hrpdev' hc' hw

/-- The name service endpoint is recorded. -/
theorem setNsEpt (h : Tables next vrps rpdevs epts) (hv : vrps v = some vp)
    (he : epts e = some ept) (hrpdev : ept.rpdev = none) (hpriv : ept.priv = .vrp v) :
    Tables next (Function.update vrps v (some { vp with nsEpt := some e })) rpdevs epts where
  vrp_lt hw := by
    rcases Maps.update_eq_some.1 hw with ⟨rfl, -⟩ | ⟨-, hw⟩
    · exact h.vrp_lt hv
    · exact h.vrp_lt hw
  rpdev_lt := h.rpdev_lt
  ept_lt := h.ept_lt
  ept_rpdev_lt := h.ept_rpdev_lt
  channel hr hc := by
    obtain ⟨hparent, hvp⟩ := h.channel hr hc
    exact ⟨hparent, Maps.exists_update _ hvp⟩
  entry hw hid := by
    rcases Maps.update_eq_some.1 hw with ⟨rfl, rfl⟩ | ⟨-, hw⟩
    · exact h.entry hv hid
    · exact h.entry hw hid
  nsEpt hw hns := by
    rcases Maps.update_eq_some.1 hw with ⟨rfl, rfl⟩ | ⟨-, hw⟩
    · obtain rfl := Option.some.inj hns
      exact ⟨ept, he, hrpdev, hpriv⟩
    · exact h.nsEpt hw hns
  bound he' hr hrpdev' hc hw := by
    rcases Maps.update_eq_some.1 hw with ⟨rfl, rfl⟩ | ⟨-, hw⟩
    · have hbound := h.bound he' hr hrpdev' hc hv
      exact hbound
    · exact h.bound he' hr hrpdev' hc hw

/-- A remote processor without channels goes. -/
theorem freeVrp (h : Tables next vrps rpdevs epts)
    (hnone : ∀ r rpdev, rpdevs r = some rpdev → rpdev.parent ≠ some v) :
    Tables next (Function.update vrps v none) rpdevs epts where
  vrp_lt hw := h.vrp_lt (Maps.erase_eq_some.1 hw).2
  rpdev_lt := h.rpdev_lt
  ept_lt := h.ept_lt
  ept_rpdev_lt := h.ept_rpdev_lt
  channel := by
    intro r rpdev w hr hc
    obtain ⟨hparent, vp, hvp⟩ := h.channel hr hc
    refine ⟨hparent, vp, Maps.erase_eq_some.2 ⟨?_, hvp⟩⟩
    rintro rfl
    exact hnone r rpdev hr hparent
  entry hw := h.entry (Maps.erase_eq_some.1 hw).2
  nsEpt hw := h.nsEpt (Maps.erase_eq_some.1 hw).2
  bound he hr hrpdev hc hw := h.bound he hr hrpdev hc (Maps.erase_eq_some.1 hw).2

/-- An endpoint that no remote processor knows is freed. -/
theorem freeEpt (h : Tables next vrps rpdevs epts)
    (hentry : ∀ v vp id, vrps v = some vp → vp.endpoints id ≠ some e)
    (hns : ∀ v vp, vrps v = some vp → vp.nsEpt ≠ some e) :
    Tables next vrps rpdevs (Function.update epts e none) where
  vrp_lt := h.vrp_lt
  rpdev_lt := h.rpdev_lt
  ept_lt he := h.ept_lt (Maps.erase_eq_some.1 he).2
  ept_rpdev_lt he := h.ept_rpdev_lt (Maps.erase_eq_some.1 he).2
  channel := h.channel
  entry := by
    intro v vp id e' hv hid
    obtain ⟨ept, he, hrest⟩ := h.entry hv hid
    refine ⟨ept, Maps.erase_eq_some.2 ⟨?_, he⟩, hrest⟩
    rintro rfl
    exact hentry v vp id hv hid
  nsEpt := by
    intro v vp e' hv he'
    obtain ⟨ept, he, hrest⟩ := h.nsEpt hv he'
    refine ⟨ept, Maps.erase_eq_some.2 ⟨?_, he⟩, hrest⟩
    rintro rfl
    exact hns v vp hv he'
  bound he := h.bound (Maps.erase_eq_some.1 he).2

/-- The name service endpoint of `v` is known to `v` alone. -/
theorem nsEpt_unique (h : Tables next vrps rpdevs epts) (hv : vrps v = some vp)
    (hns : vp.nsEpt = some e) {w : VrpId} {wp : VirtprocInfo} (hw : vrps w = some wp) :
    (∀ id, wp.endpoints id = some e → w = v) ∧ (wp.nsEpt = some e → w = v) := by
  obtain ⟨ept, he, hrpdev, hpriv⟩ := h.nsEpt hv hns
  constructor
  · intro id hid
    obtain ⟨ept', he', -, howns⟩ := h.entry hw hid
    obtain rfl : ept = ept' := Option.some.inj (he.symm.trans he')
    exact (Priv.vrp.inj (hpriv.symm.trans (howns.ns hrpdev))).symm
  · intro hwns
    obtain ⟨ept', he', -, hpriv'⟩ := h.nsEpt hw hwns
    obtain rfl : ept = ept' := Option.some.inj (he.symm.trans he')
    exact (Priv.vrp.inj (hpriv.symm.trans hpriv')).symm

/-- **An rpmsg device appears.** A channel has to belong to a remote processor. -/
theorem addRpdev (h : Tables next vrps rpdevs epts)
    (hc : ∀ v, rpdev.container = .virtioRpmsgChannel v →
      rpdev.parent = some v ∧ ∃ vp, vrps v = some vp) :
    Tables (next + 1) vrps (Function.update rpdevs next (some rpdev)) epts where
  vrp_lt hv := Nat.lt_succ_of_lt (h.vrp_lt hv)
  rpdev_lt hr := by
    rcases Maps.update_eq_some.1 hr with ⟨rfl, -⟩ | ⟨-, hr⟩
    · exact Nat.lt_succ_self _
    · exact Nat.lt_succ_of_lt (h.rpdev_lt hr)
  ept_lt he := Nat.lt_succ_of_lt (h.ept_lt he)
  ept_rpdev_lt he hr := Nat.lt_succ_of_lt (h.ept_rpdev_lt he hr)
  channel hr hcont := by
    rcases Maps.update_eq_some.1 hr with ⟨-, rfl⟩ | ⟨-, hr⟩
    · exact hc _ hcont
    · exact h.channel hr hcont
  entry hv hid := by
    obtain ⟨ept, he, haddr, howns⟩ := h.entry hv hid
    refine ⟨ept, he, haddr, howns.ns, fun hr hrpdev ↦ ?_⟩
    -- no endpoint belongs to a device that was not there
    rcases Maps.update_eq_some.1 hrpdev with ⟨rfl, -⟩ | ⟨-, hrpdev⟩
    · exact absurd (h.ept_rpdev_lt he hr) (lt_irrefl _)
    · exact howns.channel hr hrpdev
  nsEpt := h.nsEpt
  bound he hr hrpdev hcont hv := by
    rcases Maps.update_eq_some.1 hrpdev with ⟨rfl, -⟩ | ⟨-, hrpdev⟩
    · exact absurd (h.ept_rpdev_lt he hr) (lt_irrefl _)
    · exact h.bound he hr hrpdev hcont hv

/-- An rpmsg device changes, but not its container. -/
theorem setRpdev (h : Tables next vrps rpdevs epts) (hr : rpdevs r = some rpdev)
    (hcont : rpdev'.container = rpdev.container) (hparent : rpdev'.parent = rpdev.parent) :
    Tables next vrps (Function.update rpdevs r (some rpdev')) epts := by
  -- whatever the new map holds, the old one held with the same container and parent
  have hold : ∀ {q q'}, Function.update rpdevs r (some rpdev') q = some q' →
      ∃ p, rpdevs q = some p ∧ q'.container = p.container ∧ q'.parent = p.parent := by
    intro q q' hq
    rcases Maps.update_eq_some.1 hq with ⟨rfl, rfl⟩ | ⟨-, hq⟩
    · exact ⟨rpdev, hr, hcont, hparent⟩
    · exact ⟨q', hq, rfl, rfl⟩
  refine ⟨h.vrp_lt, fun hq ↦ ?_, h.ept_lt, h.ept_rpdev_lt, fun hq hc ↦ ?_, fun hv hid ↦ ?_,
    h.nsEpt, fun he heq hq hc hv ↦ ?_⟩
  · obtain ⟨p, hp, -, -⟩ := hold hq
    exact h.rpdev_lt hp
  · obtain ⟨p, hp, hpc, hpp⟩ := hold hq
    rw [hpp]
    exact h.channel hp (hpc ▸ hc)
  · obtain ⟨ept, he, haddr, howns⟩ := h.entry hv hid
    refine ⟨ept, he, haddr, howns.ns, fun heq hq ↦ ?_⟩
    obtain ⟨p, hp, hpc, -⟩ := hold hq
    rw [hpc]
    exact howns.channel heq hp
  · obtain ⟨p, hp, hpc, -⟩ := hold hq
    exact h.bound he heq hp (hpc ▸ hc) hv

/-- An rpmsg device goes. -/
theorem freeRpdev (h : Tables next vrps rpdevs epts) (r : RpdevId) :
    Tables next vrps (Function.update rpdevs r none) epts where
  vrp_lt := h.vrp_lt
  rpdev_lt hq := h.rpdev_lt (Maps.erase_eq_some.1 hq).2
  ept_lt := h.ept_lt
  ept_rpdev_lt := h.ept_rpdev_lt
  channel hq := h.channel (Maps.erase_eq_some.1 hq).2
  entry hv hid := by
    obtain ⟨ept, he, haddr, howns⟩ := h.entry hv hid
    exact ⟨ept, he, haddr, howns.ns, fun heq hq ↦
      howns.channel heq (Maps.erase_eq_some.1 hq).2⟩
  nsEpt := h.nsEpt
  bound he heq hq := h.bound he heq (Maps.erase_eq_some.1 hq).2

end Tables
