import DriverModules.Lib.Transition
import DriverModules.Rpmsg.Endpoint

/-!
# The life of an endpoint

`__rpmsg_create_ept`, the delivery half of `rpmsg_recv_single` and `__rpmsg_destroy_ept`, run by any
number of threads on one remote processor. Three mechanisms share the endpoints: the table under
`endpoints_lock`, the callback pointer under the endpoint's own `cb_lock`, and the reference count.
Each of the functions is cut where another thread can get in between, at every lock and unlock and
at every access to an endpoint in between.

A callback that itself creates an endpoint or destroys another one is, here, one more thread that
moves while the callback runs. `kzalloc` answers with an endpoint that was never used before; since
nobody touches a freed endpoint (`LifeSafe.used`), reusing the memory would make no difference.

## What is a step, and what is not

A thread is at a position between two accesses (`LifePc`), and `next` makes the next one: lock, look
at the table, take the reference, unlock, and so on, as the source has them in this order. A lock
that is held stops the thread that asks for it. The environment begins deliveries, creations and
destructions, and answers `idr_alloc`. A destruction begins with an endpoint whose creation has
returned and whose destruction has not begun, which is the promise of the callers of
`rpmsg_destroy_ept`; that not all of them keep it is the subject of `DevBind`.

An endpoint carries beside its fields its stage, a count of the times it was freed and the address
it was bound to (`EptCell`). These are for the statements, and no step of the code looks at them.
-/

open Transition

/-- Where an endpoint is in its life. A creation or a destruction under way names its thread. -/
inductive EptStage
  | unborn
  | creating (t : ℕ)
  /-- `__rpmsg_create_ept` could not bind it and returned `NULL`. -/
  | failed
  /-- `__rpmsg_create_ept` has returned it. -/
  | created
  | destroying (t : ℕ)
  /-- `__rpmsg_destroy_ept` has returned. -/
  | destroyed
  deriving DecidableEq, Repr

/-- The reference `kref_init` counted has not been put yet. -/
def EptStage.owned : EptStage → Bool
  | creating _ | created | destroying _ => true
  | unborn | failed | destroyed => false

/-- An endpoint with what is known about it. -/
structure EptCell where
  ept : RpmsgEndpoint
  cbLock : Option ℕ
  stage : EptStage
  /-- The address it is bound to: from `idr_alloc` to `idr_remove`. -/
  bound : Option ℕ
  /-- How often `__ept_release` has freed it. -/
  freed : ℕ
  deriving DecidableEq, Repr

/-- The next thing a thread does. -/
inductive LifePc
  | idle
  | recvLock (dst : UInt32)
  | recvFind (dst : UInt32)
  /-- `idr_find` returned `e`; `bound` says whether `e` was bound to `dst`, and its `addr` was
  `dst`, at that moment. -/
  | recvGet (dst : UInt32) (e : EptId) (bound : Bool)
  | recvUnlock (dst : UInt32) (found : Option (EptId × Bool))
  | recvCbLock (dst : UInt32) (e : EptId) (bound : Bool)
  | recvTestCb (dst : UInt32) (e : EptId) (bound : Bool)
  /-- The callback of `e` is running. -/
  | recvCall (dst : UInt32) (e : EptId) (bound : Bool)
  | recvCbUnlock (e : EptId)
  | recvPut (e : EptId)
  | createLock (e : EptId) (addr : UInt32)
  | createAlloc (e : EptId) (addr : UInt32)
  | createAddr (e : EptId) (id : ℕ)
  | createUnlock (e : EptId)
  | freeEptUnlock (e : EptId)
  | freeEptPut (e : EptId)
  | destroyLock (e : EptId)
  | destroyRemove (e : EptId)
  | destroyUnlock (e : EptId)
  | destroyCbLock (e : EptId)
  | destroyCb (e : EptId)
  | destroyCbUnlock (e : EptId)
  | destroyPut (e : EptId)
  deriving DecidableEq, Repr

namespace LifePc

/-- The thread is between `mutex_lock(&vrp->endpoints_lock)` and its unlock. -/
def inTable : LifePc → Bool
  | recvFind _ | recvGet .. | recvUnlock .. | createAlloc .. | createAddr .. | createUnlock _
  | freeEptUnlock _ | destroyRemove _ | destroyUnlock _ => true
  | _ => false

/-- The endpoint whose `cb_lock` the thread holds. -/
def inCb : LifePc → Option EptId
  | recvTestCb _ e _ | recvCall _ e _ | recvCbUnlock e | destroyCb e | destroyCbUnlock e => some e
  | _ => none

/-- The endpoint a delivery holds a reference to. -/
def holds : LifePc → Option EptId
  | recvUnlock _ (some (e, _)) => some e
  | recvCbLock _ e _ | recvTestCb _ e _ | recvCall _ e _ | recvCbUnlock e | recvPut e => some e
  | _ => none

/-- The endpoint the thread is creating. -/
def creates : LifePc → Option EptId
  | createLock e _ | createAlloc e _ | createAddr e _ | createUnlock e | freeEptUnlock e
  | freeEptPut e => some e
  | _ => none

/-- The endpoint the thread is destroying. -/
def destroys : LifePc → Option EptId
  | destroyLock e | destroyRemove e | destroyUnlock e | destroyCbLock e | destroyCb e
  | destroyCbUnlock e | destroyPut e => some e
  | _ => none

/-- The endpoint whose memory the thread's next step touches, or may touch. -/
def uses (p : LifePc) : Option EptId :=
  match p with
  | recvGet _ e _ => some e
  | _ => (p.holds.or p.creates).or p.destroys

end LifePc

/-- The endpoints of a remote processor and the threads that use them. -/
structure LifeState where
  endpoints : Idr EptId
  endpointsLock : Option ℕ
  epts : EptId → EptCell
  pc : ℕ → LifePc

/-- What a creator passes to `__rpmsg_create_ept`. -/
structure EptArgs where
  rpdev : Option RpdevId
  cb : Option RxCb
  priv : Priv
  addr : UInt32

inductive LifeEvent
  /-- A message to `dst` passed the length check. -/
  | deliver (t : ℕ) (dst : UInt32)
  /-- `__rpmsg_create_ept` is called; `kzalloc` returns `ept` or fails. -/
  | create (t : ℕ) (args : EptArgs) (ept : Option EptId)
  /-- `__rpmsg_destroy_ept` is called. -/
  | destroy (t : ℕ) (e : EptId)
  /-- A thread takes its next step; `nomem` is the outcome of `idr_alloc`'s own allocation. -/
  | next (t : ℕ) (nomem : Bool)

/-- Memory no endpoint has used yet. -/
def EptCell.unborn : EptCell where
  ept := { rpdev := none, refcount := 0, cb := none, addr := 0, priv := .null }
  cbLock := none
  stage := .unborn
  bound := none
  freed := 0

/-- `kzalloc`, `kref_init`, `mutex_init` and the assignments after them. -/
def EptCell.init (t : ℕ) (args : EptArgs) : EptCell where
  ept := { rpdev := args.rpdev, refcount := 1, cb := args.cb, addr := 0, priv := args.priv }
  cbLock := none
  stage := .creating t
  bound := none
  freed := 0

/-- `kref_put(&ept->refcount, __ept_release)`. -/
def EptCell.put (c : EptCell) : EptCell :=
  { c with
    ept := { c.ept with refcount := c.ept.refcount - 1 }
    freed := if c.ept.refcount - 1 = 0 then c.freed + 1 else c.freed }

namespace LifeState

/-- No endpoint, no thread inside. -/
def init : LifeState where
  endpoints := .empty
  endpointsLock := none
  epts _ := .unborn
  pc _ := .idle

/-- Thread `t` goes on to `p`. -/
def goto (s : LifeState) (t : ℕ) (p : LifePc) : LifeState :=
  { s with pc := Function.update s.pc t p }

/-- Endpoint `e` becomes `c`. -/
def setEpt (s : LifeState) (e : EptId) (c : EptCell) : LifeState :=
  { s with epts := Function.update s.epts e c }

/-- The next step of thread `t`. -/
def next (s : LifeState) (t : ℕ) (nomem : Bool) : Option LifeState :=
  match s.pc t with
  | .idle => none
  -- `rpmsg_recv_single`
  | .recvLock dst =>
    if s.endpointsLock = none then
      some { s.goto t (.recvFind dst) with endpointsLock := some t }
    else none
  | .recvFind dst =>
    match s.endpoints dst.toNat with
    | none => some (s.goto t (.recvUnlock dst none))
    | some e =>
      some (s.goto t (.recvGet dst e
        (decide ((s.epts e).bound = some dst.toNat ∧ (s.epts e).ept.addr = dst))))
  | .recvGet dst e bound =>
    let c := s.epts e
    some ((s.setEpt e { c with ept := { c.ept with refcount := c.ept.refcount + 1 } }).goto t
      (.recvUnlock dst (some (e, bound))))
  | .recvUnlock _ none => some { s.goto t .idle with endpointsLock := none }
  | .recvUnlock dst (some (e, bound)) =>
    some { s.goto t (.recvCbLock dst e bound) with endpointsLock := none }
  | .recvCbLock dst e bound =>
    if (s.epts e).cbLock = none then
      some ((s.setEpt e { s.epts e with cbLock := some t }).goto t (.recvTestCb dst e bound))
    else none
  | .recvTestCb dst e bound =>
    some (s.goto t (if (s.epts e).ept.cb = none then .recvCbUnlock e else .recvCall dst e bound))
  | .recvCall _ e _ => some (s.goto t (.recvCbUnlock e))
  | .recvCbUnlock e => some ((s.setEpt e { s.epts e with cbLock := none }).goto t (.recvPut e))
  | .recvPut e => some ((s.setEpt e (s.epts e).put).goto t .idle)
  -- `__rpmsg_create_ept`
  | .createLock e addr =>
    if s.endpointsLock = none then
      some { s.goto t (.createAlloc e addr) with endpointsLock := some t }
    else none
  | .createAlloc e addr =>
    match s.endpoints.alloc e (idMin addr) (idMax addr) nomem with
    | .error _ => some (s.goto t (.freeEptUnlock e))
    | .ok (id, endpoints) =>
      some { (s.setEpt e { s.epts e with bound := some id }).goto t (.createAddr e id) with
             endpoints }
  | .createAddr e id =>
    let c := s.epts e
    some ((s.setEpt e { c with ept := { c.ept with addr := .ofNat id } }).goto t
      (.createUnlock e))
  | .createUnlock e =>
    some { (s.setEpt e { s.epts e with stage := .created }).goto t .idle with
           endpointsLock := none }
  | .freeEptUnlock e => some { s.goto t (.freeEptPut e) with endpointsLock := none }
  | .freeEptPut e =>
    some ((s.setEpt e { (s.epts e).put with stage := .failed }).goto t .idle)
  -- `__rpmsg_destroy_ept`
  | .destroyLock e =>
    if s.endpointsLock = none then
      some { s.goto t (.destroyRemove e) with endpointsLock := some t }
    else none
  | .destroyRemove e =>
    let c := s.epts e
    some { (s.setEpt e { c with bound := none }).goto t (.destroyUnlock e) with
           endpoints := s.endpoints.remove c.ept.addr.toNat }
  | .destroyUnlock e => some { s.goto t (.destroyCbLock e) with endpointsLock := none }
  | .destroyCbLock e =>
    if (s.epts e).cbLock = none then
      some ((s.setEpt e { s.epts e with cbLock := some t }).goto t (.destroyCb e))
    else none
  | .destroyCb e =>
    let c := s.epts e
    some ((s.setEpt e { c with ept := { c.ept with cb := none } }).goto t (.destroyCbUnlock e))
  | .destroyCbUnlock e =>
    some ((s.setEpt e { s.epts e with cbLock := none }).goto t (.destroyPut e))
  | .destroyPut e =>
    some ((s.setEpt e { (s.epts e).put with stage := .destroyed }).goto t .idle)

/-- One step of the endpoints. Each endpoint is destroyed once, and only after it was created: the
callers of `rpmsg_destroy_ept` are to destroy an existing endpoint. -/
def lifeStep (s : LifeState) : LifeEvent → Option LifeState
  | .deliver t dst => if s.pc t = .idle then some (s.goto t (.recvLock dst)) else none
  | .create t _ none => if s.pc t = .idle then some s else none
  | .create t args (some e) =>
    if s.pc t = .idle ∧ s.epts e = .unborn then
      some ((s.setEpt e (.init t args)).goto t (.createLock e args.addr))
    else none
  | .destroy t e =>
    if s.pc t = .idle ∧ (s.epts e).stage = .created then
      some ((s.setEpt e { s.epts e with stage := .destroying t }).goto t (.destroyLock e))
    else none
  | .next t nomem => s.next t nomem

/-! ### Reading a state after a step -/

variable (s : LifeState) {t u : ℕ} (p : LifePc) {e x : EptId} (c : EptCell)

@[simp] theorem pc_goto_self : (s.goto t p).pc t = p := by
  simp [goto]

theorem pc_goto_of_ne (h : u ≠ t) : (s.goto t p).pc u = s.pc u := by
  simp [goto, h]

@[simp] theorem epts_goto : (s.goto t p).epts = s.epts := rfl

@[simp] theorem epts_setEpt_self : (s.setEpt e c).epts e = c := by
  simp [setEpt]

theorem epts_setEpt_of_ne (h : x ≠ e) : (s.setEpt e c).epts x = s.epts x := by
  simp [setEpt, h]

@[simp] theorem pc_setEpt : (s.setEpt e c).pc = s.pc := rfl

/-- What stays of endpoint `e` stays of all, when no other changes. -/
theorem epts_congr {s s' : LifeState} {α : Type} (f : EptCell → α)
    (hne : ∀ x, x ≠ e → s'.epts x = s.epts x) (he : f (s'.epts e) = f (s.epts e)) (x : EptId) :
    f (s'.epts x) = f (s.epts x) := by
  by_cases hx : x = e
  · rw [hx, he]
  · rw [hne x hx]

/-- What stays of the position of thread `t` stays of all, when no other moves. -/
theorem pc_congr {s s' : LifeState} {α : Type} (f : LifePc → α)
    (hne : ∀ u, u ≠ t → s'.pc u = s.pc u) (ht : f (s'.pc t) = f (s.pc t)) (u : ℕ) :
    f (s'.pc u) = f (s.pc u) := by
  by_cases hu : u = t
  · rw [hu, ht]
  · rw [hne u hu]

end LifeState
