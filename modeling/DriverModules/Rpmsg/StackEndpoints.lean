import DriverModules.Rpmsg.StackRefs

/-!
# One endpoint for one endpoint device

`rpmsg_eptdev_open` stores the endpoint it created in `eptdev->ept` without a look at what is there,
and `rpmsg_eptdev_release` and `rpmsg_eptdev_destroy` destroy what they find there. So the endpoint
of an earlier open, and one that is opened after the destruction, stay in the table with a `priv`
that outlives the endpoint device. As long as an open creates an endpoint only where there is none
and nothing was destroyed, the table and `eptdev->ept` agree.

## Main results, and what each rests on

* `endpointsSound_of_reaches`: under `OpenedAlone` every endpoint in a table with the callback of
  the character devices is the current one of a live endpoint device, no endpoint device has two,
  and one that is destroyed or has no open file has none. It rests on the invariant `Sole`, which is
  about the endpoints and not the tables, and on `Wf` for the way from the one to the other.
* The guard is looked at in one case, the open that succeeds. A close and a destruction keep `Sole`
  by themselves, since what they find in `eptdev->ept` is all there is.
* `endpointsSound_opened_twice` is a run without the guard: the endpoint of the first of two opens
  is in the table for good.
-/

open Transition Relation Counting

namespace Stack

variable {s s' s₁ : Stack} {x : EptdevId} {d d' : RpmsgEptdev} {e : EptId} {ept : RpmsgEndpoint}

/-- `e` is in the endpoint table of some remote processor. -/
def Registered (s : Stack) (e : EptId) (ept : RpmsgEndpoint) : Prop :=
  ∃ v vp id, s.vrps v = some vp ∧ vp.endpoints id = some e ∧ s.epts e = some ept

/-- **The tables and the endpoint devices agree.** -/
structure EndpointsSound (s : Stack) : Prop where
  /-- A registered endpoint of the character devices is the current one of a live endpoint
  device. -/
  current : ∀ e ept, s.Registered e ept → ept.cb = some .rpmsgEptCb →
    ∃ x d, ept.priv = .eptdev x ∧ s.eptdevs x = some d ∧ d.releases = 0 ∧ d.ept = some e
  unique : ∀ x e e' ept ept', s.Registered e ept → s.Registered e' ept' →
    ept.priv = .eptdev x → ept'.priv = .eptdev x → e = e'
  /-- With the last file closed, or destroyed, an endpoint device has no endpoint. -/
  gone : ∀ x d e ept, s.eptdevs x = some d → d.drops ≠ 0 ∨ s.AllClosed x → s.Registered e ept →
    ept.priv ≠ .eptdev x

/-- An open that will create an endpoint finds none, and the endpoint device not destroyed. -/
def OpenedAlone (s : Stack) : StackEvent → Prop
  | .eptOpen x _ _ env => ∀ d v vp, s.eptdevs x = some d → s.vrpOf d.rpdev = some (v, vp) →
      CanCreate vp d.chinfo.src env → d.ept = none ∧ d.drops = 0
  | _ => True

/-! ### The invariant -/

/-- Every endpoint with the callback of the character devices is the current one of its endpoint
device, and only an endpoint device with an open file has one. -/
structure Sole (epts : EptId → Option RpmsgEndpoint) (eptdevs : EptdevId → Option RpmsgEptdev)
    (files : FileId → Option EptFile) : Prop where
  current : ∀ {e ept}, epts e = some ept → ept.cb = some .rpmsgEptCb →
    ∃ x d, ept.priv = .eptdev x ∧ eptdevs x = some d ∧ d.ept = some e
  opened : ∀ {x d e}, eptdevs x = some d → d.ept = some e →
    d.drops = 0 ∧ ∃ f file, files f = some file ∧ file.eptdev = x

namespace Sole

variable {epts : EptId → Option RpmsgEndpoint} {eptdevs : EptdevId → Option RpmsgEptdev}
  {files : FileId → Option EptFile} {f : FileId} {file : EptFile}

/-- An endpoint of another kind appears. -/
theorem addEpt (h : Sole epts eptdevs files) (hcb : ept.cb ≠ some .rpmsgEptCb) :
    Sole (Function.update epts e (some ept)) eptdevs files where
  current he hcb' := by
    rcases Maps.update_eq_some.1 he with ⟨-, rfl⟩ | ⟨-, he⟩
    · exact absurd hcb' hcb
    · exact h.current he hcb'
  opened := h.opened

theorem freeEpt (h : Sole epts eptdevs files) (e : EptId) :
    Sole (Function.update epts e none) eptdevs files where
  current he := h.current (Maps.erase_eq_some.1 he).2
  opened := h.opened

/-- An endpoint device appears. -/
theorem create (h : Sole epts eptdevs files) (hx : eptdevs x = none) (hd : d.ept = none) :
    Sole epts (Function.update eptdevs x (some d)) files where
  current he hcb := by
    obtain ⟨y, d', hpriv, hy, hd'⟩ := h.current he hcb
    refine ⟨y, d', hpriv, Maps.update_eq_some.2 (.inr ⟨?_, hy⟩), hd'⟩
    rintro rfl
    rw [hx] at hy
    cases hy
  opened hy he := by
    rcases Maps.update_eq_some.1 hy with ⟨-, rfl⟩ | ⟨-, hy⟩
    · rw [hd] at he
      cases he
    · exact h.opened hy he

/-- **The endpoint of an endpoint device is destroyed**, and the pointer cleared. The files of the
others stay open. -/
theorem clear {files' : FileId → Option EptFile} (h : Sole s.epts s.eptdevs s.files)
    (hx : s.eptdevs x = some d) (hun : s.Unbound d s₁) (hnone : d'.ept = none)
    (hfiles : ∀ f file, s.files f = some file → file.eptdev = x ∨ files' f = some file) :
    Sole s₁.epts (Function.update s₁.eptdevs x (some d')) files' where
  current := by
    intro e ept he hcb
    rw [hun.eptdevs]
    -- what is left was not the endpoint of `x`
    have hleft : s.epts e = some ept ∧ d.ept ≠ some e := by
      cases hun with
      | none hd =>
        refine ⟨he, ?_⟩
        rw [hd]
        nofun
      | some hd =>
        obtain ⟨hne, he⟩ := Maps.erase_eq_some.1 he
        refine ⟨he, fun hsame ↦ hne ?_⟩
        exact Option.some.inj (hsame.symm.trans hd)
    obtain ⟨y, d'', hpriv, hy, hd''⟩ := h.current hleft.1 hcb
    refine ⟨y, d'', hpriv, Maps.update_eq_some.2 (.inr ⟨?_, hy⟩), hd''⟩
    rintro rfl
    obtain rfl : d = d'' := Option.some.inj (hx.symm.trans hy)
    exact hleft.2 hd''
  opened := by
    intro y d'' e hy he
    rw [hun.eptdevs] at hy
    rcases Maps.update_eq_some.1 hy with ⟨-, rfl⟩ | ⟨hne, hy⟩
    · rw [hnone] at he
      cases he
    · obtain ⟨hdrops, f, file, hf, hfile⟩ := h.opened hy he
      rcases hfiles f file hf with hsame | hf'
      · exact absurd (hfile.symm.trans hsame) hne
      · exact ⟨hdrops, f, file, hf', hfile⟩

/-- `rpmsg_eptdev_destroy` runs. -/
theorem drop (h : Sole s.epts s.eptdevs s.files) (hx : s.eptdevs x = some d)
    (hun : s.Unbound d s₁) :
    Sole (s₁.setEptdev x { d with ept := none }.drop).epts
      (s₁.setEptdev x { d with ept := none }.drop).eptdevs s₁.files := by
  rw [hun.files]
  exact h.clear hx hun rfl fun f file hf ↦ .inr hf

/-- **An open creates the only endpoint of its endpoint device.** -/
theorem openFile (h : Sole epts eptdevs files) (d' : RpmsgEptdev) (nonblock : Bool)
    (hx : eptdevs x = some d) (hnone : d.ept = none) (hdrops : d'.drops = 0)
    (hd' : d'.ept = some e) (hpriv : ept.priv = .eptdev x) (hf : files f = none) :
    Sole (Function.update epts e (some ept)) (Function.update eptdevs x (some d'))
      (Function.update files f (some { eptdev := x, nonblock })) where
  current := by
    intro e' ept' he' hcb
    rcases Maps.update_eq_some.1 he' with ⟨rfl, rfl⟩ | ⟨-, he'⟩
    · exact ⟨x, d', hpriv, by simp, hd'⟩
    · obtain ⟨y, d'', hpriv', hy, hd''⟩ := h.current he' hcb
      refine ⟨y, d'', hpriv', Maps.update_eq_some.2 (.inr ⟨?_, hy⟩), hd''⟩
      rintro rfl
      obtain rfl : d = d'' := Option.some.inj (hx.symm.trans hy)
      rw [hnone] at hd''
      cases hd''
  opened := by
    intro y d'' e' hy he'
    rcases Maps.update_eq_some.1 hy with ⟨rfl, rfl⟩ | ⟨-, hy⟩
    · exact ⟨hdrops, f, { eptdev := y, nonblock }, by simp, rfl⟩
    · obtain ⟨hzero, g, file, hg, hfile⟩ := h.opened hy he'
      refine ⟨hzero, g, file, Maps.update_eq_some.2 (.inr ⟨?_, hg⟩), hfile⟩
      rintro rfl
      rw [hf] at hg
      cases hg

end Sole

theorem Routine.sole (hmove : Routine s s') (hwf : s.Wf) (h : Sole s.epts s.eptdevs s.files) :
    Sole s'.epts s'.eptdevs s'.files := by
  cases hmove with
  | newVrp | newChannel | setRpdev | setCtrldev | freeRpdev => exact h
  | bindNs => exact h.addEpt (by simp [nsEndpoint])
  | newEptdev c ctrldev eptinfo =>
    refine h.create ?_ rfl
    rcases hx : s.eptdevs s.next with - | d
    · rfl
    · exact absurd (hwf.counted.eptdev_lt hx) (lt_irrefl _)
  | drop hx href hreg hun => exact h.drop hx hun
  | @close f file d s₁ hf hx href hun =>
    have hsole : Sole s₁.epts
        (Function.update s₁.eptdevs file.eptdev (some { d with ept := none }.put))
        (Function.update s.files f none) := by
      refine h.clear hx hun rfl fun g file' hg ↦ ?_
      rcases eq_or_ne g f with rfl | hne
      · obtain rfl := Option.some.inj (hf.symm.trans hg)
        exact .inl rfl
      · exact .inr (by simp [hne, hg])
    rw [← hun.files] at hsole
    exact hsole
  | freeVrp hv hnone hns =>
    rcases destroyNsEpt_eq_ok hns with ⟨-, rfl⟩ | ⟨e, ept, -, -, rfl⟩
    · exact h
    · exact h.freeEpt e

theorem sole_of_reaches (h : Reaches step OpenedAlone init s) :
    Sole s.epts s.eptdevs s.files := by
  refine invariant_of_reaches (P := fun s ↦ Sole s.epts s.eptdevs s.files) ⟨nofun, nofun⟩
    (fun hwf h hmove ↦ hmove.sole hwf h) ?_ h
  intro s s' ev hwf h hguard hout hmoves
  cases hout with
  | oops | load => exact h
  | routine h => exact hmoves h
  | @opened x d f nonblock env v vp id hx href hf hv hcan =>
    obtain ⟨hnone, hdrops⟩ := hguard d v vp hx hv hcan
    exact h.openFile { d.get with ept := some s.next } nonblock hx hnone hdrops rfl rfl hf
  | destroyed hf hx href hun => exact h.drop hx hun

/-! ### The result -/

/-- An endpoint device that was not destroyed is not released. -/
theorem Wf.releases_eq_zero (hwf : s.Wf) (hx : s.eptdevs x = some d) (hdrops : d.drops = 0) :
    d.releases = 0 := by
  have hpos : 0 < d.refs := (hwf.counted.refs hx (by omega)).pos (i := none) hdrops
  rw [hwf.counted.releases hx, if_neg hpos.ne']

/-- **While every open that creates an endpoint finds none and nothing destroyed, the tables and the
endpoint devices agree.** -/
theorem endpointsSound_of_reaches (h : Reaches step OpenedAlone init s) : s.EndpointsSound := by
  have hsole := sole_of_reaches h
  have hwf := wf_of_reaches h
  have hcur : ∀ x e ept, s.Registered e ept → ept.priv = .eptdev x →
      ∃ d, s.eptdevs x = some d ∧ d.ept = some e := by
    rintro x e ept ⟨v, vp, id, -, -, he⟩ hpriv
    obtain ⟨y, d, hpriv', hy, hd⟩ := hsole.current he ((hwf.current.priv he).2 ⟨x, hpriv⟩)
    obtain rfl := Priv.eptdev.inj (hpriv.symm.trans hpriv')
    exact ⟨d, hy, hd⟩
  refine ⟨?_, fun x e e' ept ept' hreg hreg' hpriv hpriv' ↦ ?_,
    fun x d e ept hx hend hreg hpriv ↦ ?_⟩
  · rintro e ept ⟨v, vp, id, -, -, he⟩ hcb
    obtain ⟨x, d, hpriv, hx, hd⟩ := hsole.current he hcb
    exact ⟨x, d, hpriv, hx, hwf.releases_eq_zero hx (hsole.opened hx hd).1, hd⟩
  · obtain ⟨d, hx, hd⟩ := hcur x e ept hreg hpriv
    obtain ⟨d', hx', hd'⟩ := hcur x e' ept' hreg' hpriv'
    obtain rfl : d = d' := Option.some.inj (hx.symm.trans hx')
    exact Option.some.inj (hd.symm.trans hd')
  · obtain ⟨d', hx', hd'⟩ := hcur x e ept hreg hpriv
    obtain rfl : d = d' := Option.some.inj (hx.symm.trans hx')
    obtain ⟨hdrops, f, file, hf, hfile⟩ := hsole.opened hx hd'
    rcases hend with hdropped | hclosed
    · exact hdropped hdrops
    · exact hclosed f file hf hfile

/-- Two files of one endpoint device with a source of `RPMSG_ADDR_ANY`: the endpoint of the first
stays in the table, at 1024, and is not the current one. -/
theorem endpointsSound_opened_twice : ¬ ∀ s, Reachable step init s → s.EndpointsSound := by
  intro h
  let view (s : Stack) := ((s.vrps 0).bind (·.endpoints 1024), s.epts 5,
    (s.eptdevs 4).map (·.ept))
  let first : RpmsgEndpoint :=
    { rpdev := some 2, refcount := 1, cb := some .rpmsgEptCb, addr := 1024, priv := .eptdev 4 }
  obtain ⟨s, hrun, hview⟩ := Option.map_eq_some_iff.1
    (show Option.map view (run step init
      (bringUp { name := [], src := RPMSG_ADDR_ANY, dst := 61 } ++
        [.eptOpen 4 0 false { kzalloc := true, nomem := false },
          .eptOpen 4 1 false { kzalloc := true, nomem := false }])) =
        some (some 5, some first, some (some 6)) by decide +kernel)
  simp only [view, Prod.mk.injEq, Option.map_eq_some_iff] at hview
  obtain ⟨hentry, hepts, d, hx, hd⟩ := hview
  obtain ⟨vp, hv, hid⟩ := Option.bind_eq_some_iff.1 hentry
  obtain ⟨y, d', hpriv, hy, -, hd'⟩ :=
    (h s (reachable_of_run hrun)).current 5 first ⟨0, vp, 1024, hv, hid, hepts⟩ rfl
  obtain rfl : 4 = y := Priv.eptdev.inj hpriv
  obtain rfl : d = d' := Option.some.inj (hx.symm.trans hy)
  rw [hd] at hd'
  exact absurd hd' (by decide)

/-- A file is opened, closed and opened again, and the endpoint device destroyed. -/
theorem endpointsSound_reopened :
    ∃ s, Reaches step OpenedAlone init s ∧
      (s.eptdevs 4).map (fun d ↦ (d.ept, d.drops)) = some (none, 1) ∧ s.EndpointsSound := by
  let view (s : Stack) := (s.eptdevs 4).map fun d ↦ (d.ept, d.drops)
  let alone (s : Stack) (ev : StackEvent) : Bool :=
    match ev with
    | .eptOpen x _ _ _ => (s.eptdevs x).all fun d ↦ d.ept.isNone && d.drops == 0
    | _ => true
  have hguard : ∀ s ev, alone s ev = true → s.OpenedAlone ev := by
    intro s ev h
    cases ev with
    | eptOpen x f nonblock env =>
      intro d v vp hx _ _
      simpa [alone, hx] using h
    | _ => trivial
  obtain ⟨s, hrun, hview⟩ := Option.map_eq_some_iff.1
    (show Option.map view (runIf step alone init
      (bringUp { name := [], src := RPMSG_ADDR_ANY, dst := 61 } ++
        [.eptOpen 4 0 false { kzalloc := true, nomem := false }, .eptClose 0,
          .eptOpen 4 1 false { kzalloc := true, nomem := false }, .destroyEpt 1])) =
        some (some (none, 1)) by decide +kernel)
  have hreaches : Reaches step OpenedAlone init s := reaches_of_runIf hguard hrun
  exact ⟨s, hreaches, hview, endpointsSound_of_reaches hreaches⟩

end Stack
