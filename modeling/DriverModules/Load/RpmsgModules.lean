import DriverModules.Lib.Staged
import DriverModules.Rpmsg.RecvRoom
import DriverModules.Rpmsg.StackRules

/-!
# Loading the rpmsg modules, and probing a remote processor

The parts of the rpmsg code that give back what they have when a request is refused: the bus, the
character driver, and the driver of the remote processors, whose `rpmsg_probe` and `rpmsg_remove`
are an initialisation and an exit like the others. Each is brought into the shape of a `Staged`
component, so each is clean in all its runs, under any answers.

`Stack.rpmsgProbe` says of a failure that nothing changes; `stack_rpmsgProbe_eq` is what this stands
for.
-/

open Transition

/-! ### rpmsg_core -/

namespace RpmsgCoreModule

inductive Res
  | bus
  deriving DecidableEq, Repr

/-- `rpmsg_init`, with the answer of `bus_register`, which it returns. -/
def rpmsgInit (busRegister : Bool) (l : Ledger Res) : InitEnd Unit × Ledger Res :=
  let l := l.ask busRegister .bus
  if busRegister then (.ok (), l) else (.error, l)

/-- `rpmsg_fini`. -/
def rpmsgFini (_ : Unit) (l : Ledger Res) : Ledger Res := l.release .bus

def loadable : Loadable Bool Unit Res := ⟨rpmsgInit, rpmsgFini⟩

def staged : Staged Bool Unit Res where
  requests busRegister := [(busRegister, .bus)]
  vars _ := ()
  returns _ := [.bus]
  nodup _ := List.nodup_singleton _
  perm _ := .refl _

theorem loadable_eq : loadable = staged.loadable := by
  refine congrArg₂ Loadable.mk (funext₂ fun busRegister l ↦ ?_) rfl
  rcases busRegister with - | - <;> rfl

end RpmsgCoreModule

/-! ### rpmsg_char -/

namespace RpmsgCharModule

inductive Res
  /-- The `RPMSG_DEV_MAX` numbers from `rpmsg_major` on. -/
  | region
  | rpmsg_class
  | driver
  deriving DecidableEq, Repr

structure Answers where
  /-- `alloc_chrdev_region`. -/
  region : Bool
  classCreate : Bool
  /-- `register_rpmsg_driver`. -/
  driver : Bool
  deriving DecidableEq, Repr

/-- `rpmsg_char_init`. -/
def rpmsgCharInit (a : Answers) (l : Ledger Res) : InitEnd Unit × Ledger Res :=
  if a.region then
    let l := l.acquire .region
    if a.classCreate then
      let l := l.acquire .rpmsg_class
      if a.driver then (.ok (), l.acquire .driver)
      else (.error, (l.refuse.release .rpmsg_class).release .region)
    else (.error, l.refuse.release .region)
  else (.error, l.refuse)

/-- `rpmsg_chrdev_exit`. -/
def rpmsgChrdevExit (_ : Unit) (l : Ledger Res) : Ledger Res :=
  ((l.release .driver).release .rpmsg_class).release .region

def loadable : Loadable Answers Unit Res := ⟨rpmsgCharInit, rpmsgChrdevExit⟩

def staged : Staged Answers Unit Res where
  requests a := [(a.region, .region), (a.classCreate, .rpmsg_class), (a.driver, .driver)]
  vars _ := ()
  returns _ := [.driver, .rpmsg_class, .region]
  nodup _ := by simp
  perm _ := List.reverse_perm [Res.region, Res.rpmsg_class, Res.driver]

theorem loadable_eq : loadable = staged.loadable := by
  refine congrArg₂ Loadable.mk (funext₂ fun a l ↦ ?_) rfl
  rcases a with ⟨_ | _, _ | _, _ | _⟩ <;> rfl

end RpmsgCharModule

/-! ### The driver of the remote processors -/

namespace VirtioIpcDriver

/-- What a probed remote processor holds. -/
inductive Res
  | vrp
  /-- The two virtqueues. -/
  | vqs
  /-- The coherent area: where it is, and how large. -/
  | bufs (va space : ℕ)
  /-- The object of the name service endpoint. -/
  | nsEpt
  /-- Its address in `vrp->endpoints`. -/
  | nsAddr (id : ℕ)
  deriving DecidableEq, Repr

/-- The fields of `struct virtproc_info` that `rpmsg_remove` reads. -/
structure Vrp where
  layout : BufLayout
  /-- The address in `ns_ept`. -/
  nsEpt : Option ℕ
  deriving DecidableEq, Repr

/-- `__rpmsg_create_ept` for the name service, in a table that is still empty: the address, or
`NULL`. -/
def createNsEpt (env : EptEnv) (l : Ledger Res) : Option ℕ × Ledger Res :=
  if env.kzalloc then
    let l := l.acquire .nsEpt
    match (Idr.empty : Idr Unit).alloc () (idMin RPMSG_NS_ADDR) (idMax RPMSG_NS_ADDR) env.nomem with
    | .error _ => (none, l.refuse.release .nsEpt)
    | .ok (id, _) => (some id, l.acquire (.nsAddr id))
  else (none, l.refuse)

/-- `rpmsg_probe`. -/
def rpmsgProbe (env : ProbeEnv) (l : Ledger Res) : InitEnd Vrp × Ledger Res :=
  -- `free_vrp`, `vqs_del` and `free_coherent`, each of which falls through to the one before
  let freeVrp (l : Ledger Res) : InitEnd Vrp × Ledger Res := (.error, l.release .vrp)
  let vqsDel (l : Ledger Res) := freeVrp (l.release .vqs)
  let freeCoherent (va space : ℕ) (l : Ledger Res) := vqsDel (l.release (.bufs va space))
  if env.kzalloc then
    let l := l.acquire .vrp
    if env.findVqs then
      let l := l.acquire .vqs
      match env.bufsVa with
      | none => vqsDel l.refuse
      | some va =>
        let L := BufLayout.ofProbe env.vringSize va
        let l := l.acquire (.bufs va L.totalBufSpace)
        if env.featureNs then
          match createNsEpt env.ept l with
          | (none, l) => freeCoherent va L.totalBufSpace l
          | (some id, l) => (.ok ⟨L, some id⟩, l)
        else (.ok ⟨L, none⟩, l)
    else freeVrp l.refuse
  else (.error, l.refuse)

/-- `__rpmsg_destroy_ept`. -/
def destroyNsEpt (id : ℕ) (l : Ledger Res) : Ledger Res :=
  (l.release (.nsAddr id)).release .nsEpt

/-- `rpmsg_remove`, without the channels. -/
def rpmsgRemove (vrp : Vrp) (l : Ledger Res) : Ledger Res :=
  let totalBufSpace := vrp.layout.numBufs * vrp.layout.bufSize
  let l :=
    match vrp.nsEpt with
    | some id => destroyNsEpt id l
    | none => l
  ((l.release .vqs).release (.bufs vrp.layout.rbufs totalBufSpace)).release .vrp

def loadable : Loadable ProbeEnv Vrp Res := ⟨rpmsgProbe, rpmsgRemove⟩

/-- In an empty table only memory can be missing for the address of the name service. -/
theorem alloc_nsAddr {α : Type*} (x : α) (nomem : Bool) :
    (Idr.empty : Idr α).alloc x (idMin RPMSG_NS_ADDR) (idMax RPMSG_NS_ADDR) nomem =
      if nomem then .error .ENOMEM else .ok (53, Function.update Idr.empty 53 (some x)) := by
  rcases nomem with - | - <;> rfl

def staged : Staged ProbeEnv Vrp Res where
  requests env :=
    let va := env.bufsVa.getD 0
    [(env.kzalloc, .vrp), (env.findVqs, .vqs),
      (env.bufsVa.isSome, .bufs va (BufLayout.ofProbe env.vringSize va).totalBufSpace)] ++
      if env.featureNs then [(env.ept.kzalloc, .nsEpt), (!env.ept.nomem, .nsAddr 53)] else []
  vars env :=
    ⟨.ofProbe env.vringSize (env.bufsVa.getD 0), if env.featureNs then some 53 else none⟩
  returns vrp :=
    (match vrp.nsEpt with
      | some id => [.nsAddr id, .nsEpt]
      | none => []) ++ [.vqs, .bufs vrp.layout.rbufs vrp.layout.totalBufSpace, .vrp]
  nodup env := by rcases env.featureNs with - | - <;> simp
  perm env := by
    have hrest (b : Res) : [.vqs, b, .vrp].Perm [.vrp, .vqs, b] :=
      List.perm_append_singleton Res.vrp [.vqs, b]
    rcases env.featureNs with - | -
    · exact hrest _
    · exact List.perm_append_comm.trans ((hrest _).append (.swap Res.nsEpt (.nsAddr 53) []))

theorem createNsEpt_eq (env : EptEnv) (l : Ledger Res) :
    createNsEpt env l =
      match Ledger.stages [(env.kzalloc, .nsEpt), (!env.nomem, .nsAddr 53)] l with
      | (true, l) => (some 53, l)
      | (false, l) => (none, l) := by
  rw [createNsEpt, alloc_nsAddr]
  rcases env with ⟨_ | _, _ | _⟩ <;> rfl

theorem loadable_eq : loadable = staged.loadable := by
  refine congrArg₂ Loadable.mk (funext₂ fun env l ↦ ?_) (funext₂ fun vrp l ↦ ?_)
  · rcases env with ⟨_ | _, _ | _, vringSize, _ | va, _ | _, ept⟩ <;> try rfl
    simp only [rpmsgProbe, createNsEpt_eq]
    rcases ept with ⟨_ | _, _ | _⟩ <;> rfl
  · rcases vrp with ⟨L, _ | id⟩ <;>
      simp only [rpmsgRemove, destroyNsEpt, staged, BufLayout.totalBufSpace,
        List.nil_append, List.cons_append, List.foldl_cons, List.foldl_nil]

/-- **The other model of `rpmsg_probe`** changes nothing where this one returns an error, and has
the remote processor of this one otherwise. -/
theorem stack_rpmsgProbe_eq (s : Stack) (env : ProbeEnv) :
    ((rpmsgProbe env .empty).1 = .error → s.rpmsgProbe env = s) ∧
    ∀ vrp, (rpmsgProbe env .empty).1 = .ok vrp →
      ((s.rpmsgProbe env).vrps s.next).map
        (fun vp ↦ (vp.layout, vp.nsEpt.isSome)) = some (vrp.layout, vrp.nsEpt.isSome) := by
  rcases env with ⟨_ | _, _ | _, vringSize, _ | va, _ | _, _ | _, _ | _⟩ <;>
    simp [rpmsgProbe, Stack.rpmsgProbe, Stack.rpmsgCreateEptOn, Stack.setNsEpt, createNsEpt,
      alloc_nsAddr]

end VirtioIpcDriver

/-! ### All runs -/

/-- **The bus, the character driver and the remote processors are clean throughout every run** of
loads and unloads, or probes and removals, whatever is refused. -/
theorem rpmsg_clean (rpmsg_core : List (LoadEvent Bool))
    (rpmsg_char : List (LoadEvent RpmsgCharModule.Answers)) (vdev : List (LoadEvent ProbeEnv)) :
    Throughout RpmsgCoreModule.loadable.step (fun _ s ↦ s.Clean) Loadable.start rpmsg_core ∧
    Throughout RpmsgCharModule.loadable.step (fun _ s ↦ s.Clean) Loadable.start rpmsg_char ∧
    Throughout VirtioIpcDriver.loadable.step (fun _ s ↦ s.Clean) Loadable.start vdev := by
  rw [RpmsgCoreModule.loadable_eq, RpmsgCharModule.loadable_eq, VirtioIpcDriver.loadable_eq]
  exact ⟨RpmsgCoreModule.staged.throughout_clean rpmsg_core,
    RpmsgCharModule.staged.throughout_clean rpmsg_char,
    VirtioIpcDriver.staged.throughout_clean vdev⟩
