import DriverModules.Kernel.Idr
import DriverModules.Lib.Maps
import DriverModules.Lib.Pairing
import DriverModules.Lib.Transition
import Mathlib.Data.List.Sigma

/-!
# Minors of the character devices

`rpmsg_eptdev_create` and `rpmsg_chrdev_probe` take a minor and an id, add the device's `cdev` to
the kernel's map and add the device; a failing step undoes those before it. The two release
functions give everything back. No lock is held over any of this, so the steps of all creations and
releases interleave, and the release functions return the minor *before* `cdev_del`: from then on
the minor can be taken again while the old entry is still in the map.

The map finds its entries by device number. `cdev_add` puts its entry in front and does not look for
another one, and `cdev_del` takes out the first it finds under the number.

## What a device records, and what the tables do

An id table has, for the model, beside an id the device that took it, and a device how often it took
and returned an id for each of its two fields (`IdUse`). The code has neither; with both, "taken
once and returned once" is a statement about one state. What the position of a device says about
its ids is `CharDev.Wf`, which is about the device alone.

## Main results, and what each rests on

* `exec_cases`: every statement of a creation or a release is one of seven moves, by what it does to
  the two tables and the map. An invariant is proved move by move, and the positions are gone
  through here only.
* `MinorInv`: the tables and the devices agree, by `Pairing`. Every move keeps it, whatever is in
  the map (`MinorInv.move`), so the ids come out even on all paths (`MinorInv.idsOnce`), also where
  the entries of the map do not.
-/

open Transition Pairing

abbrev CharDevId := ℕ

/-- `MINORMASK + 1`. -/
def RPMSG_DEV_MAX : ℤ := 1048576

inductive CharKind
  | eptdev
  | ctrldev
  deriving DecidableEq, Repr

/-- The next statement of a creation (`free*` are its error paths) or of a release function. -/
inductive CharPc
  | getMinor
  | getId
  | cdevAdd
  | deviceAdd
  /-- Created; the next statement is the final `put_device`. -/
  | live
  | freeId
  | freeMinor
  | freeDev
  | releaseId
  | releaseMinor
  | releaseCdev
  | releaseFree
  | freed
  deriving DecidableEq, Repr

/-- A field filled from an `ida`, and how often the device has taken and returned an id for it. -/
structure IdUse where
  val : ℕ
  takes : ℕ
  returns : ℕ
  deriving DecidableEq, Repr

namespace IdUse

def zero : IdUse := ⟨0, 0, 0⟩

def take (u : IdUse) (val : ℕ) : IdUse := ⟨val, u.takes + 1, u.returns⟩

def giveBack (u : IdUse) : IdUse := ⟨u.val, u.takes, u.returns + 1⟩

/-- The id that was taken and not returned. -/
def held (u : IdUse) : Option ℕ :=
  if u.returns < u.takes then some u.val else none

end IdUse

/-- A `struct rpmsg_eptdev` or `struct rpmsg_ctrldev` from its allocation on, and the call that
works on it. -/
structure CharDev where
  kind : CharKind
  pc : CharPc
  /-- `MINOR(dev->devt)`. -/
  minor : IdUse
  /-- `dev->id`. -/
  id : IdUse
  /-- What the creation returns. -/
  ret : Except Errno Unit
  deriving DecidableEq

/-- What `kzalloc` returns to a creation. -/
def CharDev.zalloc (kind : CharKind) : CharDev where
  kind := kind
  pc := .getMinor
  minor := .zero
  id := .zero
  ret := .ok ()

/-- What the rest of the kernel answers to a step. -/
structure CharEnv where
  /-- `ida_simple_get` finds no memory. -/
  nomem : Bool
  /-- `cdev_add`, `device_add`. -/
  ret : Except Errno Unit

/-- The id tables, the map and the devices. An `ida` is an id table; under an id stands who took it,
which the kernel does not record. -/
structure MinorState where
  next : CharDevId
  devs : CharDevId → Option CharDev
  minorIda : Idr CharDevId
  eptIda : Idr CharDevId
  ctrlIda : Idr CharDevId
  /-- `cdev_map`, below the module's major, the newest entry first. -/
  cdevMap : List ((_ : ℕ) × CharDevId)
  /-- Each `cdev_del` so far: who called it, and whose entry it took out. -/
  deleted : List (CharDevId × Option CharDevId)

inductive CharEvent
  | rpmsgEptdevCreate (kzalloc : Bool)
  | rpmsgChrdevProbe (kzalloc : Bool)
  /-- The call that works on the device goes one statement further. -/
  | next (d : CharDevId) (env : CharEnv)

namespace MinorState

def init : MinorState where
  next := 0
  devs _ := none
  minorIda := .empty
  eptIda := .empty
  ctrlIda := .empty
  cdevMap := []
  deleted := []

def setDev (s : MinorState) (d : CharDevId) (dev : CharDev) : MinorState :=
  { s with devs := Function.update s.devs d (some dev) }

/-- `rpmsg_ept_ida` or `rpmsg_ctrl_ida`. -/
def ida (s : MinorState) : CharKind → Idr CharDevId
  | .eptdev => s.eptIda
  | .ctrldev => s.ctrlIda

def setIda (s : MinorState) (t : Idr CharDevId) : CharKind → MinorState
  | .eptdev => { s with eptIda := t }
  | .ctrldev => { s with ctrlIda := t }

/-- A creation begins. -/
def create (s : MinorState) (kind : CharKind) (kzalloc : Bool) : MinorState :=
  if kzalloc then { s.setDev s.next (.zalloc kind) with next := s.next + 1 } else s

/-- `ida_simple_remove(&rpmsg_ept_ida, dev->id)`, or the control devices' `ida`. -/
def returnId (s : MinorState) (d : CharDevId) (dev : CharDev) : MinorState :=
  (s.setDev d { dev with id := dev.id.giveBack }).setIda ((s.ida dev.kind).remove dev.id.val)
    dev.kind

/-- `ida_simple_remove(&rpmsg_minor_ida, MINOR(dev->devt))`. -/
def returnMinor (s : MinorState) (d : CharDevId) (dev : CharDev) : MinorState :=
  { s.setDev d { dev with minor := dev.minor.giveBack } with
    minorIda := s.minorIda.remove dev.minor.val }

/-- `cdev_del`. -/
def cdevDel (s : MinorState) (d : CharDevId) (minor : ℕ) : MinorState :=
  { s with
    cdevMap := s.cdevMap.kerase minor
    deleted := (d, s.cdevMap.dlookup minor) :: s.deleted }

/-- One statement of the call that works on `d`. -/
def exec (s : MinorState) (d : CharDevId) (dev : CharDev) (env : CharEnv) : Option MinorState :=
  match dev.pc with
  | .getMinor =>
    match s.minorIda.alloc d 0 RPMSG_DEV_MAX env.nomem with
    | .error err => some (s.setDev d { dev with ret := .error err, pc := .freeDev })
    | .ok (minor, t) => some
      { s.setDev d { dev with minor := dev.minor.take minor, pc := .getId } with minorIda := t }
  | .getId =>
    match (s.ida dev.kind).alloc d 0 0 env.nomem with
    | .error err => some (s.setDev d { dev with ret := .error err, pc := .freeMinor })
    | .ok (id, t) =>
      some ((s.setDev d { dev with id := dev.id.take id, pc := .cdevAdd }).setIda t dev.kind)
  | .cdevAdd =>
    match env.ret with
    | .error err => some (s.setDev d { dev with ret := .error err, pc := .freeId })
    | .ok () => some
      { s.setDev d { dev with pc := .deviceAdd } with
        cdevMap := ⟨dev.minor.val, d⟩ :: s.cdevMap }
  | .deviceAdd =>
    match env.ret with
    -- `put_device` drops the only reference
    | .error err => some (s.setDev d { dev with ret := .error err, pc := .releaseId })
    | .ok () => some (s.setDev d { dev with pc := .live })
  | .live => some (s.setDev d { dev with pc := .releaseId })
  | .freeId => some (s.returnId d { dev with pc := .freeMinor })
  | .freeMinor => some (s.returnMinor d { dev with pc := .freeDev })
  | .freeDev => some (s.setDev d { dev with pc := .freed })
  | .releaseId => some (s.returnId d { dev with pc := .releaseMinor })
  | .releaseMinor => some (s.returnMinor d { dev with pc := .releaseCdev })
  | .releaseCdev => some ((s.setDev d { dev with pc := .releaseFree }).cdevDel d dev.minor.val)
  | .releaseFree => some (s.setDev d { dev with pc := .freed })
  | .freed => none

def step (s : MinorState) : CharEvent → Option MinorState
  | .rpmsgEptdevCreate kzalloc => some (s.create .eptdev kzalloc)
  | .rpmsgChrdevProbe kzalloc => some (s.create .ctrldev kzalloc)
  | .next d env => (s.devs d).bind fun dev ↦ s.exec d dev env

end MinorState

/-! ### What a statement does -/

/-- Between the two `ida` calls for the minor. -/
def CharPc.holdsMinor : CharPc → Bool
  | .getId | .cdevAdd | .deviceAdd | .live => true
  | .freeId | .freeMinor | .releaseId | .releaseMinor => true
  | _ => false

/-- Between the two `ida` calls for the id. -/
def CharPc.holdsId : CharPc → Bool
  | .cdevAdd | .deviceAdd | .live | .freeId | .releaseId => true
  | _ => false

/-- Between `cdev_add` and `cdev_del`. -/
def CharPc.hasEntry : CharPc → Bool
  | .deviceAdd | .live | .releaseId | .releaseMinor | .releaseCdev => true
  | _ => false

namespace CharDev

/-- The device number of the entry the device has in the map. -/
def entry (dev : CharDev) : Option ℕ :=
  if dev.pc.hasEntry then some dev.minor.val else none

/-- The id held in the table of this kind of devices. -/
def heldId (kind : CharKind) (dev : CharDev) : Option ℕ :=
  if dev.kind = kind then dev.id.held else none

/-- What was taken and returned up to here. -/
structure Wf (dev : CharDev) : Prop where
  minor : dev.minor.takes = dev.minor.returns + dev.pc.holdsMinor.toNat
  minor_le : dev.minor.takes ≤ 1
  minor_new : dev.pc = .getMinor → dev.minor.takes = 0
  id : dev.id.takes = dev.id.returns + dev.pc.holdsId.toNat
  id_le : dev.id.takes ≤ 1
  id_new : dev.pc = .getMinor ∨ dev.pc = .getId → dev.id.takes = 0

theorem Wf.held_minor {dev : CharDev} (h : dev.Wf) :
    dev.minor.held = if dev.pc.holdsMinor then some dev.minor.val else none := by
  have hcount := h.minor
  rcases hpc : dev.pc.holdsMinor with - | -
  all_goals
    rw [hpc] at hcount
    simp only [IdUse.held, hcount]
    simp

theorem Wf.held_id {dev : CharDev} (h : dev.Wf) :
    dev.id.held = if dev.pc.holdsId then some dev.id.val else none := by
  have hcount := h.id
  rcases hpc : dev.pc.holdsId with - | -
  all_goals
    rw [hpc] at hcount
    simp only [IdUse.held, hcount]
    simp

theorem wf_zalloc (kind : CharKind) : (zalloc kind).Wf where
  minor := rfl
  minor_le := Nat.zero_le _
  minor_new _ := rfl
  id := rfl
  id_le := Nat.zero_le _
  id_new _ := rfl

/-- A statement that takes and returns nothing. -/
theorem Wf.goto {dev : CharDev} (h : dev.Wf) {q : CharPc} (hpc : dev.pc = q) (pc : CharPc)
    (ret : Except Errno Unit) (hm : pc.holdsMinor = q.holdsMinor) (hi : pc.holdsId = q.holdsId)
    (hnew : pc ≠ .getMinor ∧ pc ≠ .getId) : Wf { dev with pc, ret } where
  minor := (hpc ▸ hm) ▸ h.minor
  minor_le := h.minor_le
  minor_new hpc := absurd hpc hnew.1
  id := (hpc ▸ hi) ▸ h.id
  id_le := h.id_le
  id_new hpc := hpc.elim (absurd · hnew.1) (absurd · hnew.2)

theorem Wf.takeMinor {dev : CharDev} (h : dev.Wf) (hpc : dev.pc = .getMinor) (minor : ℕ) :
    Wf { dev with minor := dev.minor.take minor, pc := .getId } := by
  have hnew := h.minor_new hpc
  have hcount := h.minor
  have hid := h.id_new (.inl hpc)
  have hidc := h.id
  simp only [hpc, CharPc.holdsMinor, CharPc.holdsId, Bool.toNat_false] at hcount hidc
  constructor <;>
    simp only [IdUse.take, CharPc.holdsMinor, CharPc.holdsId, Bool.toNat_true, Bool.toNat_false,
      reduceCtorEq, or_true, true_implies, false_implies] <;> omega

theorem Wf.takeId {dev : CharDev} (h : dev.Wf) (hpc : dev.pc = .getId) (id : ℕ) :
    Wf { dev with id := dev.id.take id, pc := .cdevAdd } := by
  have hid := h.id_new (.inr hpc)
  have hidc := h.id
  have hcount := h.minor
  have hle := h.minor_le
  simp only [hpc, CharPc.holdsMinor, CharPc.holdsId, Bool.toNat_true, Bool.toNat_false]
    at hcount hidc
  constructor <;>
    simp only [IdUse.take, CharPc.holdsMinor, CharPc.holdsId, Bool.toNat_true,
      reduceCtorEq, or_self, false_implies] <;> omega

/-- The minor is returned, where it was held. -/
theorem Wf.returnMinor {dev : CharDev} (h : dev.Wf) {q : CharPc} (hpc : dev.pc = q) (pc : CharPc)
    (hm : q.holdsMinor = true) (hm' : pc.holdsMinor = false) (hi : pc.holdsId = q.holdsId)
    (hnew : pc ≠ .getMinor ∧ pc ≠ .getId) :
    Wf { dev with minor := dev.minor.giveBack, pc } where
  minor := by
    have hcount := h.minor
    rw [hpc, hm, Bool.toNat_true] at hcount
    simpa [IdUse.giveBack, hm'] using hcount
  minor_le := h.minor_le
  minor_new hpc := absurd hpc hnew.1
  id := (hpc ▸ hi) ▸ h.id
  id_le := h.id_le
  id_new hpc := hpc.elim (absurd · hnew.1) (absurd · hnew.2)

theorem Wf.returnId {dev : CharDev} (h : dev.Wf) {q : CharPc} (hpc : dev.pc = q) (pc : CharPc)
    (hm : pc.holdsMinor = q.holdsMinor) (hi : q.holdsId = true) (hi' : pc.holdsId = false)
    (hnew : pc ≠ .getMinor ∧ pc ≠ .getId) : Wf { dev with id := dev.id.giveBack, pc } where
  minor := (hpc ▸ hm) ▸ h.minor
  minor_le := h.minor_le
  minor_new hpc := absurd hpc hnew.1
  id := by
    have hcount := h.id
    rw [hpc, hi, Bool.toNat_true] at hcount
    simpa [IdUse.giveBack, hi'] using hcount
  id_le := h.id_le
  id_new hpc := hpc.elim (absurd · hnew.1) (absurd · hnew.2)

end CharDev

namespace MinorState

variable {s s' : MinorState} {d : CharDevId} {dev dev' : CharDev} {env : CharEnv}

/-- The statements, by what they do to the tables; `dev` becomes `dev'`. -/
inductive CharMove (s : MinorState) (d : CharDevId) (dev dev' : CharDev) (env : CharEnv) :
    MinorState → Prop
  | keep : dev'.minor = dev.minor → dev'.id = dev.id → dev'.entry = dev.entry →
    CharMove s d dev dev' env (s.setDev d dev')
  | takeMinor (minor : ℕ) (t : Idr CharDevId) : dev.pc = .getMinor → dev.minor.held = none →
    s.minorIda.alloc d 0 RPMSG_DEV_MAX env.nomem = .ok (minor, t) →
    dev'.minor.held = some minor → dev'.id = dev.id → dev'.entry = none →
    CharMove s d dev dev' env { s.setDev d dev' with minorIda := t }
  | takeId (id : ℕ) (t : Idr CharDevId) : dev.id.held = none →
    (s.ida dev.kind).alloc d 0 0 env.nomem = .ok (id, t) → dev'.id.held = some id →
    dev'.minor = dev.minor → dev'.entry = dev.entry →
    CharMove s d dev dev' env ((s.setDev d dev').setIda t dev.kind)
  | returnMinor (minor : ℕ) : dev.minor.held = some minor → dev'.minor.held = none →
    dev'.id = dev.id → dev'.entry = dev.entry → (dev.entry = none ↔ dev.pc ≠ .releaseMinor) →
    CharMove s d dev dev' env
      { s.setDev d dev' with minorIda := s.minorIda.remove minor }
  | returnId (id : ℕ) : dev.id.held = some id → dev'.id.held = none →
    dev'.minor = dev.minor → dev'.entry = dev.entry →
    CharMove s d dev dev' env
      ((s.setDev d dev').setIda ((s.ida dev.kind).remove id) dev.kind)
  | cdevAdd (minor : ℕ) : dev.minor.held = some minor → dev'.minor = dev.minor →
    dev'.id = dev.id → dev.entry = none → dev'.entry = some minor →
    CharMove s d dev dev' env { s.setDev d dev' with cdevMap := ⟨minor, d⟩ :: s.cdevMap }
  | cdevDel (minor : ℕ) : dev'.minor = dev.minor → dev'.id = dev.id →
    dev.entry = some minor → dev'.entry = none →
    CharMove s d dev dev' env ((s.setDev d dev').cdevDel d minor)

/-- **Every statement is one of the seven.** -/
theorem exec_cases (hwf : dev.Wf) (h : s.exec d dev env = some s') :
    ∃ dev', dev'.Wf ∧ dev'.kind = dev.kind ∧ CharMove s d dev dev' env s' := by
  have hminor := hwf.held_minor
  have hid := hwf.held_id
  have hentry : dev.entry = if dev.pc.hasEntry then some dev.minor.val else none := rfl
  unfold exec at h
  rcases hpc : dev.pc <;>
    simp only [hpc, CharPc.holdsMinor, CharPc.holdsId, CharPc.hasEntry, if_true,
      Bool.false_eq_true, if_false] at h hminor hid hentry
  case getMinor =>
    rcases halloc : s.minorIda.alloc d 0 RPMSG_DEV_MAX env.nomem with err | ⟨minor, t⟩ <;>
      simp only [halloc, Option.some.injEq] at h <;> subst h
    · exact ⟨_, hwf.goto hpc .freeDev (.error err) rfl rfl (by decide), rfl,
        .keep rfl rfl hentry.symm⟩
    · have hwf' := hwf.takeMinor hpc minor
      exact ⟨_, hwf', rfl, .takeMinor minor t hpc hminor halloc hwf'.held_minor rfl rfl⟩
  case getId =>
    rcases halloc : (s.ida dev.kind).alloc d 0 0 env.nomem with err | ⟨id, t⟩ <;>
      simp only [halloc, Option.some.injEq] at h <;> subst h
    · exact ⟨_, hwf.goto hpc .freeMinor (.error err) rfl rfl (by decide), rfl,
        .keep rfl rfl hentry.symm⟩
    · have hwf' := hwf.takeId hpc id
      exact ⟨_, hwf', rfl, .takeId id t hid halloc hwf'.held_id rfl hentry.symm⟩
  case cdevAdd =>
    rcases hret : env.ret with err | ⟨⟩ <;>
      simp only [hret, Option.some.injEq] at h <;> subst h
    · exact ⟨_, hwf.goto hpc .freeId (.error err) rfl rfl (by decide), rfl,
        .keep rfl rfl hentry.symm⟩
    · exact ⟨_, hwf.goto hpc .deviceAdd dev.ret rfl rfl (by decide), rfl,
        .cdevAdd _ hminor rfl rfl hentry rfl⟩
  case deviceAdd =>
    rcases hret : env.ret with err | ⟨⟩ <;>
      simp only [hret, Option.some.injEq] at h <;> subst h
    · exact ⟨_, hwf.goto hpc .releaseId (.error err) rfl rfl (by decide), rfl,
        .keep rfl rfl hentry.symm⟩
    · exact ⟨_, hwf.goto hpc .live dev.ret rfl rfl (by decide), rfl, .keep rfl rfl hentry.symm⟩
  case live =>
    obtain rfl := Option.some.inj h
    exact ⟨_, hwf.goto hpc .releaseId dev.ret rfl rfl (by decide), rfl, .keep rfl rfl hentry.symm⟩
  case freeDev | releaseFree =>
    obtain rfl := Option.some.inj h
    exact ⟨_, hwf.goto hpc .freed dev.ret rfl rfl (by decide), rfl, .keep rfl rfl hentry.symm⟩
  case freeId =>
    obtain rfl := Option.some.inj h
    have hwf' := hwf.returnId hpc .freeMinor rfl rfl rfl (by decide)
    exact ⟨_, hwf', rfl, .returnId _ hid hwf'.held_id rfl hentry.symm⟩
  case releaseId =>
    obtain rfl := Option.some.inj h
    have hwf' := hwf.returnId hpc .releaseMinor rfl rfl rfl (by decide)
    exact ⟨_, hwf', rfl, .returnId _ hid hwf'.held_id rfl hentry.symm⟩
  case freeMinor =>
    obtain rfl := Option.some.inj h
    have hwf' := hwf.returnMinor hpc .freeDev rfl rfl rfl (by decide)
    exact ⟨_, hwf', rfl, .returnMinor _ hminor hwf'.held_minor rfl hentry.symm
      (by simp [hentry, hpc])⟩
  case releaseMinor =>
    obtain rfl := Option.some.inj h
    have hwf' := hwf.returnMinor hpc .releaseCdev rfl rfl rfl (by decide)
    exact ⟨_, hwf', rfl, .returnMinor _ hminor hwf'.held_minor rfl hentry.symm
      (by simp [hentry, hpc])⟩
  case releaseCdev =>
    obtain rfl := Option.some.inj h
    exact ⟨_, hwf.goto hpc .releaseFree dev.ret rfl rfl (by decide), rfl,
      .cdevDel _ rfl rfl hentry rfl⟩
  case freed => cases h

/-! ### Ids -/

/-- What the devices have, under one reading of their fields. -/
def read (s : MinorState) (f : CharDev → Option ℕ) (d : CharDevId) : Option ℕ :=
  (s.devs d).bind f

theorem read_eq_some {f : CharDev → Option ℕ} {k : ℕ} :
    s.read f d = some k ↔ ∃ dev, s.devs d = some dev ∧ f dev = some k :=
  Option.bind_eq_some_iff

@[simp] theorem devs_setIda (t : Idr CharDevId) (kind : CharKind) :
    (s.setIda t kind).devs = s.devs := by
  rcases kind with - | - <;> rfl

@[simp] theorem minorIda_setIda (t : Idr CharDevId) (kind : CharKind) :
    (s.setIda t kind).minorIda = s.minorIda := by
  rcases kind with - | - <;> rfl

@[simp] theorem cdevMap_setIda (t : Idr CharDevId) (kind : CharKind) :
    (s.setIda t kind).cdevMap = s.cdevMap := by
  rcases kind with - | - <;> rfl

@[simp] theorem deleted_setIda (t : Idr CharDevId) (kind : CharKind) :
    (s.setIda t kind).deleted = s.deleted := by
  rcases kind with - | - <;> rfl

theorem ida_setIda_self (t : Idr CharDevId) (kind : CharKind) : (s.setIda t kind).ida kind = t := by
  rcases kind with - | - <;> rfl

theorem ida_setIda_of_ne (t : Idr CharDevId) {kind kind' : CharKind} (hne : kind' ≠ kind) :
    (s.setIda t kind).ida kind' = s.ida kind' := by
  rcases kind with - | - <;> rcases kind' with - | - <;> first | rfl | exact absurd rfl hne

@[simp] theorem ida_setDev (kind : CharKind) : (s.setDev d dev).ida kind = s.ida kind := by
  rcases kind with - | - <;> rfl

@[simp] theorem devs_cdevDel (minor : ℕ) : (s.cdevDel d minor).devs = s.devs := rfl

@[simp] theorem minorIda_cdevDel (minor : ℕ) : (s.cdevDel d minor).minorIda = s.minorIda := rfl

@[simp] theorem ida_cdevDel (minor : ℕ) (kind : CharKind) :
    (s.cdevDel d minor).ida kind = s.ida kind := by
  rcases kind with - | - <;> rfl

theorem CharMove.devs (h : CharMove s d dev dev' env s') :
    s'.devs = Function.update s.devs d (some dev') := by
  cases h <;> simp [setDev]

theorem CharMove.next (h : CharMove s d dev dev' env s') : s'.next = s.next := by
  cases h with
  | takeId | returnId => rcases dev.kind with - | - <;> rfl
  | keep | takeMinor | returnMinor | cdevAdd | cdevDel => rfl

/-- A reading and a table that point at each other, after one device and one entry changed. -/
theorem paired_move {f : CharDev → Option ℕ} {g g' : ℕ → Option CharDevId} {k : ℕ}
    (h : Paired (s.read f) g) (hdev : s.devs d = some dev)
    (hdevs : s'.devs = Function.update s.devs d (some dev'))
    (hm : Move d k (f dev) (g k) (f dev') (g' k)) (hg : ∀ l, l ≠ k → g' l = g l) :
    Paired (s'.read f) g' := by
  have hself : s.read f d = f dev := by rw [read, hdev]; rfl
  have hself' : s'.read f d = f dev' := by rw [read, hdevs, Function.update_self]; rfl
  refine h.move (by rw [hself, hself']; exact hm) (fun d' hne ↦ ?_) hg
  rw [read, hdevs, Function.update_of_ne hne]
  rfl

theorem paired_keep {f : CharDev → Option ℕ} {g : ℕ → Option CharDevId}
    (h : Paired (s.read f) g) (hdev : s.devs d = some dev)
    (hdevs : s'.devs = Function.update s.devs d (some dev')) (hf : f dev' = f dev) :
    Paired (s'.read f) g :=
  paired_move (k := 0) h hdev hdevs (hf ▸ .keep _ _) fun _ _ ↦ rfl

/-- The tables hold what the devices have taken and not returned. -/
structure MinorInv (s : MinorState) : Prop where
  fresh : ∀ d, s.next ≤ d → s.devs d = none
  wf : ∀ {d dev}, s.devs d = some dev → dev.Wf
  minor : Paired (s.read fun dev ↦ dev.minor.held) s.minorIda
  id : ∀ kind, Paired (s.read (CharDev.heldId kind)) (s.ida kind)

theorem minorInv_init : init.MinorInv where
  fresh _ _ := rfl
  wf h := by cases h
  minor := paired_none (fun _ ↦ rfl) fun _ ↦ rfl
  id kind := paired_none (fun _ ↦ rfl) fun _ ↦ by rcases kind with - | - <;> rfl

theorem MinorInv.read_minor (h : s.MinorInv) (hdev : s.devs d = some dev) {minor : ℕ}
    (hm : dev.minor.held = some minor) : s.minorIda minor = some d :=
  (h.minor d minor).1 (read_eq_some.2 ⟨dev, hdev, hm⟩)

/-- The minor's table after a statement. -/
theorem MinorInv.minor_move (h : s.MinorInv) (hdev : s.devs d = some dev)
    (hm : CharMove s d dev dev' env s') :
    Paired (s'.read fun dev ↦ dev.minor.held) s'.minorIda := by
  have hkeep : dev'.minor = dev.minor → s'.minorIda = s.minorIda →
      Paired (s'.read fun dev ↦ dev.minor.held) s'.minorIda := by
    intro hminor htable
    rw [htable]
    exact paired_keep h.minor hdev hm.devs (by simp only [hminor])
  cases hm with
  | keep hminor | takeId _ _ _ _ _ hminor | returnId _ _ _ hminor | cdevAdd _ _ hminor
  | cdevDel _ hminor => exact hkeep hminor (by simp [setDev])
  | takeMinor minor t _ hnone halloc hheld =>
    obtain ⟨-, hfree, -, -, rfl⟩ := Idr.alloc_eq_ok halloc
    refine paired_move (k := minor) h.minor hdev rfl ?_ fun l hne ↦ Function.update_of_ne hne ..
    simp only [hnone, hheld, hfree, Function.update_self]
    exact .join
  | returnMinor minor hheld hnone =>
    refine paired_move (k := minor) h.minor hdev rfl ?_ fun l hne ↦ Function.update_of_ne hne ..
    simp only [hnone, hheld, Idr.remove, Function.update_self]
    exact .part _

/-- The id tables after a statement. -/
theorem MinorInv.id_move (h : s.MinorInv) (hdev : s.devs d = some dev)
    (hkind : dev'.kind = dev.kind) (hm : CharMove s d dev dev' env s') (kind : CharKind) :
    Paired (s'.read (CharDev.heldId kind)) (s'.ida kind) := by
  have hdevs := hm.devs
  have hkeep : dev'.id = dev.id ∨ kind ≠ dev.kind → s'.ida kind = s.ida kind →
      Paired (s'.read (CharDev.heldId kind)) (s'.ida kind) := by
    intro hid htable
    rw [htable]
    refine paired_keep (h.id kind) hdev hm.devs ?_
    unfold CharDev.heldId
    rw [hkind]
    rcases hid with hid | hne
    · rw [hid]
    · rw [if_neg hne.symm, if_neg hne.symm]
  cases hm with
  | keep _ hid | takeMinor _ _ _ _ _ _ hid | returnMinor _ _ _ hid | cdevAdd _ _ _ hid
  | cdevDel _ _ hid => exact hkeep (.inl hid) (by rcases kind with - | - <;> rfl)
  | takeId id t hnone halloc hheld =>
    rcases eq_or_ne kind dev.kind with rfl | hne
    · obtain ⟨-, hfree, -, -, rfl⟩ := Idr.alloc_eq_ok halloc
      rw [ida_setIda_self]
      refine paired_move (k := id) (h.id dev.kind) hdev hdevs ?_
        fun l hne ↦ Function.update_of_ne hne ..
      simp only [CharDev.heldId, hkind, if_true, hnone, hheld, hfree, Function.update_self]
      exact .join
    · exact hkeep (.inr hne) (by rw [ida_setIda_of_ne _ hne, ida_setDev])
  | returnId id hheld hnone =>
    rcases eq_or_ne kind dev.kind with rfl | hne
    · rw [ida_setIda_self]
      refine paired_move (k := id) (h.id dev.kind) hdev hdevs ?_
        fun l hne ↦ Function.update_of_ne hne ..
      simp only [CharDev.heldId, hkind, if_true, hnone, hheld, Idr.remove, Function.update_self]
      exact .part _
    · exact hkeep (.inr hne) (by rw [ida_setIda_of_ne _ hne, ida_setDev])

theorem MinorInv.move (h : s.MinorInv) (hdev : s.devs d = some dev) (hwf : dev'.Wf)
    (hkind : dev'.kind = dev.kind) (hm : CharMove s d dev dev' env s') : s'.MinorInv where
  fresh d' hle := by
    rw [hm.next] at hle
    have hne : d' ≠ d := by
      rintro rfl
      exact nomatch hdev.symm.trans (h.fresh d' hle)
    rw [hm.devs, Function.update_of_ne hne]
    exact h.fresh d' hle
  wf {d' dev''} hd' := by
    rw [hm.devs] at hd'
    rcases Maps.update_eq_some.1 hd' with ⟨rfl, rfl⟩ | ⟨-, hd'⟩
    · exact hwf
    · exact h.wf hd'
  minor := h.minor_move hdev hm
  id := h.id_move hdev hkind hm

/-- A device that has just been allocated has nothing yet. -/
theorem MinorInv.read_create (h : s.MinorInv) (kind : CharKind) {f : CharDev → Option ℕ}
    (hf : f (.zalloc kind) = none) (d : CharDevId) :
    (s.create kind true).read f d = s.read f d := by
  show (Function.update s.devs s.next (some (.zalloc kind)) d).bind f = (s.devs d).bind f
  rcases eq_or_ne d s.next with rfl | hne
  · rw [Function.update_self, h.fresh _ (Nat.le_refl _)]
    exact hf
  · rw [Function.update_of_ne hne]

/-- A creation begins. -/
theorem MinorInv.create (h : s.MinorInv) (kind : CharKind) : (s.create kind true).MinorInv where
  fresh d hle := by
    have hne : d ≠ s.next := Nat.ne_of_gt (Nat.lt_of_succ_le hle)
    exact (Function.update_of_ne hne ..).trans (h.fresh d (Nat.le_of_succ_le hle))
  wf {d dev} hdev := by
    rcases Maps.update_eq_some.1 hdev with ⟨rfl, rfl⟩ | ⟨-, hdev⟩
    · exact CharDev.wf_zalloc kind
    · exact h.wf hdev
  minor := h.minor.congr (h.read_create kind rfl) fun _ ↦ rfl
  id kind' := by
    refine (h.id kind').congr (h.read_create kind ?_) fun _ ↦ by rcases kind' with - | - <;> rfl
    unfold CharDev.heldId
    split <;> rfl

/-- Every id a device has taken is in its table until it is returned, and it is returned once. -/
structure IdsOnce (s : MinorState) : Prop where
  minor : ∀ minor d, s.minorIda minor = some d ↔
    ∃ dev, s.devs d = some dev ∧ dev.minor.held = some minor
  id : ∀ kind id d, s.ida kind id = some d ↔
    ∃ dev, s.devs d = some dev ∧ dev.kind = kind ∧ dev.id.held = some id
  once : ∀ d dev, s.devs d = some dev →
    dev.minor.returns ≤ dev.minor.takes ∧ dev.minor.takes ≤ 1 ∧
      dev.id.returns ≤ dev.id.takes ∧ dev.id.takes ≤ 1
  freed : ∀ d dev, s.devs d = some dev → dev.pc = .freed →
    dev.minor.returns = dev.minor.takes ∧ dev.id.returns = dev.id.takes

theorem MinorInv.idsOnce (h : s.MinorInv) : s.IdsOnce where
  minor minor d := (h.minor d minor).symm.trans read_eq_some
  id kind id d := by
    rw [← h.id kind d id, read_eq_some]
    refine exists_congr fun dev ↦ and_congr_right fun _ ↦ ?_
    unfold CharDev.heldId
    split <;> simp [*]
  once d dev hdev := by
    have hwf := h.wf hdev
    have hminor := hwf.minor
    have hid := hwf.id
    exact ⟨by omega, hwf.minor_le, by omega, hwf.id_le⟩
  freed d dev hdev hpc := by
    have hwf := h.wf hdev
    have hminor := hwf.minor
    have hid := hwf.id
    rw [hpc] at hminor hid
    exact ⟨hminor.symm, hid.symm⟩

end MinorState
