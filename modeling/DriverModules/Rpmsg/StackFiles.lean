import DriverModules.Lib.Counting
import DriverModules.Rpmsg.StackTables

/-!
# Endpoint devices and their files

What holds of the endpoint devices in every state of the stack. `Current` ties `eptdev->ept` to the
endpoint it points at, `Counted` the reference count to the files. With the endpoint tables they
make up `Stack.Wf`, which every event keeps (`Stack.wf_of_reaches`).

The count is right as long as `rpmsg_eptdev_destroy` ran at most once; a second run puts a reference
nobody holds, and nothing is said about the count after it.

## Three parts, and what each needs

* `Tables` (in `StackTables`) needs neither of the others.
* `Current` rests on the tables for one thing, that the endpoint an open creates is new. It keeps
  the callback and the `priv` of an endpoint together, so that whoever finds `rpmsg_ept_cb` in a
  table has found an endpoint device. It does not say that the endpoint device points back: after a
  second open it does not, and `StackEndpoints` is about the runs in which it does.
* `Counted` knows nothing of endpoints. `Holds` says who has a reference, the creator or a file, and
  the count is their number (`Counts`).

## Main results

* `wf_of_reaches`: every state of every run is well formed, whatever the guard. The moves are taken
  one by one (`Routine.wf`), the three events that stay whole beside them (`Outcome.wf`).
* `invariant_of_reaches`: the rule for the invariants that follow. It hands out `Wf` of every state
  between the moves of one event, so that an invariant is proved by a case split on the move and one
  on the event.
-/

open Transition Relation Counting

/-! ### The endpoint of an open file -/

/-- **What holds of `eptdev->ept`.** -/
structure Current (epts : EptId → Option RpmsgEndpoint) (eptdevs : EptdevId → Option RpmsgEptdev) :
    Prop where
  /-- The callback of the character devices and their `priv` go together. -/
  priv : ∀ {e ept}, epts e = some ept →
    (ept.cb = some .rpmsgEptCb ↔ ∃ x, ept.priv = .eptdev x)
  src : ∀ {x d}, eptdevs x = some d → d.chinfo.src = d.eptinfo.src
  ept : ∀ {x d e}, eptdevs x = some d → d.ept = some e →
    ∃ ept, epts e = some ept ∧ ept.rpdev = some d.rpdev ∧ ept.priv = .eptdev x ∧
      (d.chinfo.src ≠ RPMSG_ADDR_ANY → ept.addr = d.chinfo.src)

namespace Current

variable {epts : EptId → Option RpmsgEndpoint} {eptdevs : EptdevId → Option RpmsgEptdev}
  {x : EptdevId} {d d' : RpmsgEptdev} {e : EptId} {ept : RpmsgEndpoint}

/-- An endpoint appears. -/
theorem addEpt (h : Current epts eptdevs) (hnew : epts e = none)
    (hpriv : ept.cb = some .rpmsgEptCb ↔ ∃ x, ept.priv = .eptdev x) :
    Current (Function.update epts e (some ept)) eptdevs where
  priv he := by
    rcases Maps.update_eq_some.1 he with ⟨-, rfl⟩ | ⟨-, he⟩
    · exact hpriv
    · exact h.priv he
  src := h.src
  ept hx hd := by
    obtain ⟨ept', he, hrest⟩ := h.ept hx hd
    refine ⟨ept', Maps.update_eq_some.2 (.inr ⟨?_, he⟩), hrest⟩
    rintro rfl
    rw [hnew] at he
    cases he

/-- An endpoint nobody points at goes. -/
theorem freeEpt (h : Current epts eptdevs) (hnone : ∀ x d, eptdevs x = some d → d.ept ≠ some e) :
    Current (Function.update epts e none) eptdevs where
  priv he := h.priv (Maps.erase_eq_some.1 he).2
  src := h.src
  ept hx hd := by
    obtain ⟨ept', he, hrest⟩ := h.ept hx hd
    refine ⟨ept', Maps.erase_eq_some.2 ⟨?_, he⟩, hrest⟩
    rintro rfl
    exact hnone _ _ hx hd

/-- An endpoint device appears or changes. -/
theorem setEptdev (h : Current epts eptdevs) (hsrc : d.chinfo.src = d.eptinfo.src)
    (hept : ∀ e, d.ept = some e → ∃ ept, epts e = some ept ∧ ept.rpdev = some d.rpdev ∧
      ept.priv = .eptdev x ∧ (d.chinfo.src ≠ RPMSG_ADDR_ANY → ept.addr = d.chinfo.src)) :
    Current epts (Function.update eptdevs x (some d)) where
  priv := h.priv
  src hx := by
    rcases Maps.update_eq_some.1 hx with ⟨-, rfl⟩ | ⟨-, hx⟩
    · exact hsrc
    · exact h.src hx
  ept hx hd := by
    rcases Maps.update_eq_some.1 hx with ⟨rfl, rfl⟩ | ⟨-, hx⟩
    · exact hept _ hd
    · exact h.ept hx hd

/-- An endpoint is the current one of one endpoint device at most. -/
theorem unique (h : Current epts eptdevs) {y : EptdevId} (hx : eptdevs x = some d)
    (hd : d.ept = some e) (hy : eptdevs y = some d') (hd' : d'.ept = some e) : x = y := by
  obtain ⟨ept, he, -, hpriv, -⟩ := h.ept hx hd
  obtain ⟨ept', he', -, hpriv', -⟩ := h.ept hy hd'
  obtain rfl : ept = ept' := Option.some.inj (he.symm.trans he')
  exact Priv.eptdev.inj (hpriv.symm.trans hpriv')

/-- **The endpoint of an endpoint device is destroyed**, if it has one, and the pointer cleared. -/
theorem clear {s s₁ : Stack} (h : Current s.epts s.eptdevs) (hx : s.eptdevs x = some d)
    (hun : s.Unbound d s₁) (hnone : d'.ept = none) (hchinfo : d'.chinfo = d.chinfo)
    (heptinfo : d'.eptinfo = d.eptinfo) :
    Current s₁.epts (Function.update s₁.eptdevs x (some d')) := by
  have hset : Current s.epts (Function.update s.eptdevs x (some d')) := by
    refine h.setEptdev ?_ fun e he ↦ ?_
    · rw [hchinfo, heptinfo]
      exact h.src hx
    · rw [hnone] at he
      cases he
  cases hun with
  | none => exact hset
  | @some e ept r v vp hd he hr hv =>
    refine hset.freeEpt fun y d'' hy hd'' ↦ ?_
    rcases Maps.update_eq_some.1 hy with ⟨-, rfl⟩ | ⟨hne, hy⟩
    · rw [hnone] at hd''
      cases hd''
    · exact hne (h.unique hy hd'' hx hd)

end Current

/-! ### The references -/

/-- Who holds a reference to the endpoint device `x`: its creator, until it was dropped, and each
open file. -/
def Holds (files : FileId → Option EptFile) (x : EptdevId) (drops : ℕ) : Option FileId → Prop
  | none => drops = 0
  | some f => ∃ file, files f = some file ∧ file.eptdev = x

/-- **What holds of the reference counts.** -/
structure Counted (next : ℕ) (eptdevs : EptdevId → Option RpmsgEptdev)
    (files : FileId → Option EptFile) : Prop where
  eptdev_lt : ∀ {x d}, eptdevs x = some d → x < next
  file : ∀ {f file}, files f = some file → ∃ d, eptdevs file.eptdev = some d
  registered : ∀ {x d}, eptdevs x = some d → (d.registered = true ↔ d.drops = 0)
  refs : ∀ {x d}, eptdevs x = some d → d.drops ≤ 1 → Counts (Holds files x d.drops) d.refs
  releases : ∀ {x d}, eptdevs x = some d → d.releases = if d.refs = 0 then 1 else 0

theorem RpmsgEptdev.put_releases {d : RpmsgEptdev} (href : d.refs ≠ 0)
    (h : d.releases = if d.refs = 0 then 1 else 0) :
    d.put.releases = if d.put.refs = 0 then 1 else 0 := by
  have hzero : d.releases = 0 := by simpa [href] using h
  simp [RpmsgEptdev.put, hzero]

namespace Counted

variable {next n : ℕ} {eptdevs : EptdevId → Option RpmsgEptdev} {files : FileId → Option EptFile}
  {x : EptdevId} {d d' : RpmsgEptdev} {f : FileId} {file : EptFile}

theorem mono (h : Counted next eptdevs files) (hn : next ≤ n) : Counted n eptdevs files where
  eptdev_lt hx := (h.eptdev_lt hx).trans_le hn
  file := h.file
  registered := h.registered
  refs := h.refs
  releases := h.releases

/-- An endpoint device changes: the others keep their counts, if their holders stay. -/
theorem setEptdev {files' : FileId → Option EptFile} (h : Counted next eptdevs files)
    (hx : x < next) (hregistered : d.registered = true ↔ d.drops = 0)
    (hrefs : d.drops ≤ 1 → Counts (Holds files' x d.drops) d.refs)
    (hreleases : d.releases = if d.refs = 0 then 1 else 0)
    (hfiles : ∀ f file, files' f = some file → file.eptdev = x ∨ files f = some file)
    (hothers : ∀ y, y ≠ x → ∀ f, (∃ file, files' f = some file ∧ file.eptdev = y) ↔
      ∃ file, files f = some file ∧ file.eptdev = y) :
    Counted next (Function.update eptdevs x (some d)) files' where
  eptdev_lt hy := by
    rcases Maps.update_eq_some.1 hy with ⟨rfl, -⟩ | ⟨-, hy⟩
    · exact hx
    · exact h.eptdev_lt hy
  file hf := by
    rcases hfiles _ _ hf with rfl | hf
    · exact ⟨d, by simp⟩
    · exact Maps.exists_update _ (h.file hf)
  registered hy := by
    rcases Maps.update_eq_some.1 hy with ⟨-, rfl⟩ | ⟨-, hy⟩
    · exact hregistered
    · exact h.registered hy
  refs := by
    intro y d' hy hdrops
    rcases Maps.update_eq_some.1 hy with ⟨rfl, rfl⟩ | ⟨hne, hy⟩
    · exact hrefs hdrops
    · refine (h.refs hy hdrops).congr fun holder ↦ ?_
      rcases holder with - | f
      · exact Iff.rfl
      · exact hothers y hne f
  releases hy := by
    rcases Maps.update_eq_some.1 hy with ⟨-, rfl⟩ | ⟨-, hy⟩
    · exact hreleases
    · exact h.releases hy

/-- **An endpoint device is created**, with the reference of its creator. -/
theorem create (h : Counted next eptdevs files) (c : CtrldevId) (r : RpdevId)
    (eptinfo : RpmsgEndpointInfo) :
    Counted (next + 1) (Function.update eptdevs next (some (rpmsgEptdev c r eptinfo))) files := by
  refine (h.mono next.le_succ).setEptdev next.lt_succ_self (by simp [rpmsgEptdev]) (fun _ ↦ ?_)
    (by simp [rpmsgEptdev]) (fun _ _ hf ↦ .inr hf) fun _ _ _ ↦ Iff.rfl
  refine (counts_zero (p := fun _ : Option FileId ↦ False) fun _ ↦ not_false).insert (i := none)
    not_false fun holder ↦ ?_
  rcases holder with - | f
  · simp [Holds, rpmsgEptdev]
  · simp only [Holds, reduceCtorEq, or_self, iff_false, not_exists, not_and]
    rintro file hf rfl
    obtain ⟨d, hd⟩ := h.file hf
    exact absurd (h.eptdev_lt hd) (lt_irrefl _)

/-- **A file is opened**, and takes a reference. -/
theorem opened (h : Counted next eptdevs files) (hx : eptdevs x = some d) (href : d.refs ≠ 0)
    (hf : files f = none) (e : EptId) (nonblock : Bool) :
    Counted next (Function.update eptdevs x (some { d.get with ept := some e }))
      (Function.update files f (some { eptdev := x, nonblock })) := by
  have hreg := h.registered hx
  have hzero : d.releases = 0 := by simpa [href] using h.releases hx
  refine h.setEptdev (h.eptdev_lt hx) hreg (fun hdrops ↦ ?_) (by simp [RpmsgEptdev.get, hzero])
    ?_ ?_
  · refine (h.refs hx hdrops).insert (i := some f) (by simp [Holds, hf]) fun holder ↦ ?_
    rcases holder with - | g
    · simp [Holds, RpmsgEptdev.get]
    · rcases eq_or_ne g f with rfl | hne
      · simp [Holds]
      · simp [Holds, hne]
  · intro g file hg
    rcases Maps.update_eq_some.1 hg with ⟨-, rfl⟩ | ⟨-, hg⟩
    · exact .inl rfl
    · exact .inr hg
  · intro y hy g
    rcases eq_or_ne g f with rfl | hne
    · simp [hf, hy.symm]
    · simp [hne]

/-- **A file is closed**, and puts its reference. -/
theorem closed (h : Counted next eptdevs files) (hf : files f = some file)
    (hx : eptdevs file.eptdev = some d) (href : d.refs ≠ 0) :
    Counted next (Function.update eptdevs file.eptdev (some { d with ept := none }.put))
      (Function.update files f none) := by
  have hreg := h.registered hx
  have hrel := h.releases hx
  refine h.setEptdev (h.eptdev_lt hx) hreg (fun hdrops ↦ ?_)
    (RpmsgEptdev.put_releases (d := { d with ept := none }) href hrel) ?_ ?_
  · refine (h.refs hx hdrops).erase (i := some f) ⟨file, hf, rfl⟩ fun holder ↦ ?_
    rcases holder with - | g
    · simp [Holds, RpmsgEptdev.put]
    · rcases eq_or_ne g f with rfl | hne
      · simp [Holds]
      · simp [Holds, hne]
  · exact fun g file hg ↦ .inr (Maps.erase_eq_some.1 hg).2
  · intro y hy g
    rcases eq_or_ne g f with rfl | hne
    · simp [hf, hy.symm]
    · simp [hne]

/-- **`rpmsg_eptdev_destroy` runs**, and puts the reference of the creator, if it is still there. -/
theorem dropped (h : Counted next eptdevs files) (hx : eptdevs x = some d) (href : d.refs ≠ 0) :
    Counted next (Function.update eptdevs x (some { d with ept := none }.drop)) files := by
  have hrel := h.releases hx
  refine h.setEptdev (h.eptdev_lt hx) (by simp [RpmsgEptdev.drop, RpmsgEptdev.put])
    (fun hdrops ↦ ?_) ?_ (fun _ _ hf ↦ .inr hf) fun _ _ _ ↦ Iff.rfl
  · have hfirst : d.drops = 0 := by
      simpa [RpmsgEptdev.drop, RpmsgEptdev.put] using hdrops
    refine (h.refs hx (by omega)).erase (i := none) hfirst fun holder ↦ ?_
    rcases holder with - | g
    · simp [Holds, RpmsgEptdev.drop, RpmsgEptdev.put]
    · simp [Holds]
  · exact RpmsgEptdev.put_releases
      (d := { d with ept := none, registered := false, drops := d.drops + 1 }) href hrel

end Counted

/-! ### The whole stack -/

namespace Stack

variable {s s' s₁ : Stack} {x : EptdevId} {d : RpmsgEptdev} {v : VrpId} {vp : VirtprocInfo}
  {id : ℕ} {ept : RpmsgEndpoint} {ev : StackEvent}

/-- **What holds of every state of the stack.** -/
structure Wf (s : Stack) : Prop where
  tables : Tables s.next s.vrps s.rpdevs s.epts
  current : Current s.epts s.eptdevs
  counted : Counted s.next s.eptdevs s.files

theorem wf_init : init.Wf where
  tables := by constructor <;> intros <;> contradiction
  current := by constructor <;> intros <;> contradiction
  counted := by constructor <;> intros <;> contradiction

namespace Wf

theorem epts_next (h : s.Wf) : s.epts s.next = none := by
  rcases he : s.epts s.next with - | ept
  · rfl
  · exact absurd (h.tables.ept_lt he) (lt_irrefl _)

theorem unbound (h : s.Wf) (hun : s.Unbound d s₁) :
    Tables s₁.next s₁.vrps s₁.rpdevs s₁.epts := by
  cases hun with
  | none => exact h.tables
  | some hd he hr hv =>
    obtain ⟨rpdev, hrpdev, hc, hvp⟩ := vrpOf_eq_some.1 hv
    exact h.tables.unbind hvp he hr hrpdev hc

/-- The endpoint of a channel or of the name service is bound. -/
theorem bindEpt (h : s.Wf) (hv : s.vrps v = some vp) (hfree : vp.endpoints id = none)
    (hmax : id ≤ Idr.INT_MAX) (haddr : ept.addr = .ofNat id) (howns : Owns s.rpdevs v ept)
    (hlt : ∀ r, ept.rpdev = some r → r < s.next)
    (hpriv : ept.cb = some .rpmsgEptCb ↔ ∃ x, ept.priv = .eptdev x) :
    (s.bindEpt v vp id ept).Wf where
  tables := by
    have hid : ept.addr.toNat = id := by
      rw [haddr, UInt32.toNat_ofNat']
      simp only [Idr.INT_MAX] at hmax
      omega
    exact h.tables.bind hv hfree hid howns hlt
  current := h.current.addEpt h.epts_next hpriv
  counted := h.counted.mono (Nat.le_succ _)

theorem setNsEpt (h : s.Wf) {e : EptId} (hv : s.vrps v = some vp) (he : s.epts e = some ept)
    (hrpdev : ept.rpdev = none) (hpriv : ept.priv = .vrp v) : (s.setNsEpt v e).Wf where
  tables := by
    simp only [Stack.setNsEpt, hv, Option.map_some]
    exact h.tables.setNsEpt hv he hrpdev hpriv
  current := h.current
  counted := h.counted

theorem freeVrp (h : s.Wf) (hv : s.vrps v = some vp)
    (hnone : ∀ r rpdev, s.rpdevs r = some rpdev → rpdev.parent ≠ some v)
    (hns : s.destroyNsEpt v vp = .ok s₁) :
    ({ s₁ with vrps := Function.update s₁.vrps v none } : Stack).Wf := by
  have htables := h.tables.freeVrp hnone
  rcases destroyNsEpt_eq_ok hns with ⟨-, rfl⟩ | ⟨e, ept, hnsEpt, he, rfl⟩
  · exact ⟨htables, h.current, h.counted⟩
  · refine ⟨?_, h.current.freeEpt fun x d hx hd ↦ ?_, h.counted⟩
    · simp only [rpmsgDestroyEptOn, Function.update_idem]
      refine htables.freeEpt (fun w wp id hw hid ↦ ?_) fun w wp hw hwns ↦ ?_
      · obtain ⟨hne, hw⟩ := Maps.erase_eq_some.1 hw
        exact hne ((h.tables.nsEpt_unique hv hnsEpt hw).1 id hid)
      · obtain ⟨hne, hw⟩ := Maps.erase_eq_some.1 hw
        exact hne ((h.tables.nsEpt_unique hv hnsEpt hw).2 hwns)
    · -- the endpoint of a file has an rpmsg device, that of the name service has none
      obtain ⟨ept', he', hnone', -⟩ := h.tables.nsEpt hv hnsEpt
      obtain ⟨ept'', he'', hsome, -⟩ := h.current.ept hx hd
      obtain rfl : ept' = ept'' := Option.some.inj (he'.symm.trans he'')
      rw [hnone'] at hsome
      cases hsome

theorem drop (h : s.Wf) (hx : s.eptdevs x = some d) (href : d.refs ≠ 0) (hun : s.Unbound d s₁) :
    (s₁.setEptdev x { d with ept := none }.drop).Wf := by
  have htables := h.unbound hun
  refine ⟨htables, h.current.clear hx hun rfl rfl rfl, ?_⟩
  have hcounted := h.counted.dropped hx href
  rw [← hun.eptdevs, ← hun.files, ← hun.next] at hcounted
  exact hcounted

/-- A file is opened with the endpoint that was created for it. -/
theorem opened (h : s.Wf) {f : FileId} (nonblock : Bool) (hx : s.eptdevs x = some d)
    (href : d.refs ≠ 0) (hf : s.files f = none) (hv : s.vrpOf d.rpdev = some (v, vp))
    (hfree : vp.endpoints id = none) (hmax : id ≤ Idr.INT_MAX)
    (hid : d.chinfo.src ≠ RPMSG_ADDR_ANY → id = d.chinfo.src.toNat) :
    (s.opened x d f nonblock v vp id).Wf := by
  obtain ⟨rpdev, hrpdev, hc, hvp⟩ := vrpOf_eq_some.1 hv
  have howns : Owns s.rpdevs v (fileEpt x d id) := by
    refine ⟨(nofun), fun hr hrpdev' ↦ ?_⟩
    obtain rfl := Option.some.inj hr
    obtain rfl := Option.some.inj (hrpdev.symm.trans hrpdev')
    exact hc
  have hbind : (s.bindEpt v vp id (fileEpt x d id)).Wf :=
    h.bindEpt hvp hfree hmax rfl howns
      (fun r hr ↦ Option.some.inj hr ▸ h.tables.rpdev_lt hrpdev) (by simp [fileEpt])
  have hsrc := h.current.src hx
  refine ⟨hbind.tables, hbind.current.setEptdev hsrc fun e he ↦ ?_,
    hbind.counted.opened hx href hf s.next nonblock⟩
  obtain rfl := Option.some.inj he
  refine ⟨fileEpt x d id, by simp [Stack.bindEpt], rfl, rfl, fun hne ↦ ?_⟩
  show UInt32.ofNat id = d.chinfo.src
  rw [hid hne, UInt32.ofNat_toNat]

end Wf

theorem Routine.wf (h : Routine s s') (hwf : s.Wf) : s'.Wf := by
  cases h with
  | newVrp layout =>
    exact ⟨hwf.tables.newVrp layout, hwf.current, hwf.counted.mono (Nat.le_succ _)⟩
  | @bindNs v vp id hv hns hfree hmax =>
    have hbind : (s.bindEpt v vp id (nsEndpoint v id)).Wf :=
      hwf.bindEpt hv hfree hmax rfl ⟨fun _ ↦ rfl, fun h ↦ by cases h⟩ (fun _ h ↦ by cases h)
        (by simp [nsEndpoint])
    have hv' : (s.bindEpt v vp id (nsEndpoint v id)).vrps v = some
        { vp with endpoints := Function.update vp.endpoints id (some s.next) } := by
      simp [bindEpt]
    have he : (s.bindEpt v vp id (nsEndpoint v id)).epts s.next = some (nsEndpoint v id) := by
      simp [bindEpt]
    exact hbind.setNsEpt hv' he rfl rfl
  | newChannel chinfo hv =>
    refine ⟨hwf.tables.addRpdev fun w hw ↦ ?_, hwf.current, hwf.counted.mono (Nat.le_succ _)⟩
    obtain rfl := Container.virtioRpmsgChannel.inj hw
    exact ⟨rfl, _, hv⟩
  | setRpdev hr hcont hparent =>
    exact ⟨hwf.tables.setRpdev hr hcont hparent, hwf.current, hwf.counted⟩
  | setCtrldev n c ctrldev =>
    exact ⟨hwf.tables.mono (Nat.le_add_right _ _), hwf.current,
      hwf.counted.mono (Nat.le_add_right _ _)⟩
  | newEptdev c ctrldev eptinfo =>
    exact ⟨hwf.tables.mono (Nat.le_succ _),
      hwf.current.setEptdev rfl (fun e he ↦ by cases he), hwf.counted.create c _ eptinfo⟩
  | drop hx href hreg hun => exact hwf.drop hx href hun
  | @close f file d s₁ hf hx href hun =>
    have htables := hwf.unbound hun
    refine ⟨htables, hwf.current.clear hx hun rfl rfl rfl, ?_⟩
    have hcounted := hwf.counted.closed hf hx href
    rw [← hun.eptdevs, ← hun.files, ← hun.next] at hcounted
    exact hcounted
  | freeRpdev r => exact ⟨hwf.tables.freeRpdev r, hwf.current, hwf.counted⟩
  | freeVrp hv hnone hns => exact hwf.freeVrp hv hnone hns

/-- **Every event keeps the stack well formed.** -/
theorem Outcome.wf (h : Outcome s ev s') (hwf : s.Wf) : s'.Wf := by
  cases h with
  | oops _ => exact ⟨hwf.tables, hwf.current, hwf.counted⟩
  | routine hmoves =>
    induction hmoves with
    | refl => exact hwf
    | tail _ hmove ih => exact hmove.wf ih
  | load =>
    exact ⟨hwf.tables.addRpdev (nofun), hwf.current, hwf.counted.mono (Nat.le_succ _)⟩
  | opened hx href hf hv _ hfree hmax hid =>
    exact hwf.opened _ hx href hf hv hfree hmax hid
  | destroyed _ hx href hun => exact hwf.drop hx href hun

theorem outcome_of_step (hwf : s.Wf) (h : s.step ev = some s') : Outcome s ev s' :=
  step_outcome (fun _ _ hr ↦ hwf.tables.rpdev_lt hr) h

theorem wf_of_reaches {C : Stack → StackEvent → Prop} (h : Reaches step C init s) : s.Wf :=
  h.invariant wf_init fun _ hwf _ hstep ↦ (outcome_of_step hwf hstep).wf hwf

/-- **The rule for invariants of the stack**: what every move and every event that stays whole keeps
of a well-formed state, every guarded run keeps. -/
theorem invariant_of_reaches {C : Stack → StackEvent → Prop} {P : Stack → Prop} (h₀ : P init)
    (hmove : ∀ {s s'}, s.Wf → P s → Routine s s' → P s')
    (hstep : ∀ {s s' ev}, s.Wf → P s → C s ev → Outcome s ev s' →
      (ReflTransGen Routine s s' → P s') → P s')
    (h : Reaches step C init s) : P s := by
  refine h.invariant h₀ fun hr hP hC hs ↦ ?_
  have hwf := wf_of_reaches hr
  refine hstep hwf hP hC (outcome_of_step hwf hs) fun hmoves ↦ ?_
  -- every state between the moves of one event is well formed, too
  suffices hboth : ∀ {t}, ReflTransGen Routine _ t → Wf t ∧ P t from (hboth hmoves).2
  intro t ht
  induction ht with
  | refl => exact ⟨hwf, hP⟩
  | tail _ hm ih => exact ⟨hm.wf ih.1, hmove ih.1 ih.2 hm⟩

end Stack
