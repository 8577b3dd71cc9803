import DriverModules.Rpmsg.Datagram
import DriverModules.Rpmsg.DevBind
import DriverModules.Rpmsg.ReadFifo
import DriverModules.Rpmsg.TxWire

/-!
# From the senders to the readers

The two halves of a link run together: any number of senders on one processor, the ring between, and
on the other processor `rpmsg_recv_single`, the endpoint devices and any number of readers on each.
`TxWire` says what the ring carries and `ReadFifo` what becomes of the queue of one device; between
them are the bytes of the message, the length check, the lookup of the destination and the callback.

The remote takes the buffers in the order of the ring. Its endpoint table is that of the moment: an
open binds an address to the device, a close or a destruction of the device unbinds it, and the
endpoints of others come and go.

## Main results

Both are about a device whose endpoints all get the same address (`OpensAt`), as those of a device
that was created for one address do.

* `linkRight_of_reaches`: what the device delivers was sent to its address. It rests on the two
  halves, and on what one delivery does (`RemoteEpts.recv`).
* `linkComplete_iff`: nothing is lost on the way exactly when no message for the address is taken
  off the ring while the address is not bound to the device, or without memory for a socket buffer.
  It rests on the two ways a delivery can go, which are those of `LinkState.queue_step`.
-/

open Transition Fifo

/-- What an endpoint device was created with: the rpmsg device it belongs to, and `chinfo.src`. -/
structure EptdevInfo where
  rpdev : RpdevId
  src : UInt32
  deriving DecidableEq, Repr

/-- The senders with their ring, and the endpoint devices and the endpoints of the remote. -/
structure LinkState where
  wire : WireState
  devs : EptdevId → ReadState
  remote : EptStore

inductive LinkEvent
  /-- Something happens among the senders. -/
  | send (ev : TxEvent)
  /-- The remote takes the oldest buffer off the ring; `rest` is what is in its own buffer behind
  the message, `added` the result of `virtqueue_add_inbuf`, and `allocSkb` whether there is memory
  for a socket buffer. -/
  | deliver (rest : List UInt8) (added : Except Errno Unit) (allocSkb : Bool)
  /-- Something happens on an endpoint device of the remote. -/
  | dev (x : EptdevId) (ev : ReadEvent)
  /-- `rpmsg_eptdev_open` of an endpoint device. -/
  | eptdevOpen (x : EptdevId) (env : EptEnv)
  /-- Somebody else creates or destroys an endpoint of theirs. -/
  | createOther (rpdev : Option RpdevId) (cb : RxCb) (priv : Priv) (addr : UInt32) (env : EptEnv)
  | destroyOther (e : EptId)

/-- The callback is run by a delivery only, and an endpoint is stored by an open only. -/
def ReadEvent.ofOthers : ReadEvent → Bool
  | rpmsgEptCb _ _ | opened _ => true
  | _ => false

namespace LinkState

/-- Nothing has been sent, and no device is open. -/
def started (calls : ℕ → SendCall) : LinkState where
  wire := .probed calls
  devs _ := { ReadState.opened 0 with ept := none }
  remote := .init

/-- The endpoints once the device `old` has become `dev`: if `eptdev->ept` was cleared, it was
destroyed before. -/
def eptsAfter (remote : EptStore) (old dev : ReadState) : EptStore :=
  match old.ept, dev.ept with
  | some e, none => (remote.rpmsgDestroyEpt e).1
  | _, _ => remote

/-- One step of the link; `L` is the layout on the sending side, `L'` that of the remote, and `info`
what its endpoint devices were created with. -/
def step (L L' : BufLayout) (vringNum : ℕ) (info : EptdevId → EptdevInfo) (s : LinkState) :
    LinkEvent → Option LinkState
  | .send (.consume _) => none
  | .send ev => (s.wire.step L vringNum ev).map fun wire ↦ { s with wire }
  | .deliver rest added allocSkb => do
    let b ← s.wire.tx.svq.avail.head?
    let msg ← s.wire.tx.mem b
    let wire ← s.wire.step L vringNum (.consume b)
    let (_, devs) ← rpmsgRecvBuf L' s.remote.endpoints s.remote.epts s.devs (msg.bytes ++ rest)
      (.ofNat (RpmsgHdr.size + msg.data.length)) added allocSkb
    return { s with wire, devs }
  | .dev x ev =>
    if ev.ofOthers then none
    else ((s.devs x).readStep ev).map fun dev ↦
      { s with
        devs := Function.update s.devs x dev
        remote := eptsAfter s.remote (s.devs x) dev }
  | .eptdevOpen x env =>
    match s.remote.rpmsgCreateEpt (some (info x).rpdev) .rpmsgEptCb (.eptdev x) (info x).src
        env with
    | (_, none) => some s
    | (remote, some (e, _)) => ((s.devs x).readStep (.opened e)).map fun dev ↦
        { s with devs := Function.update s.devs x dev, remote }
  | .createOther rpdev cb priv addr env =>
    if cb = .rpmsgEptCb then none
    else some { s with remote := (s.remote.rpmsgCreateEpt rpdev cb priv addr env).1 }
  | .destroyOther e =>
    if (s.remote.epts e).bind (·.cb) = some .rpmsgEptCb then none
    else some { s with remote := (s.remote.rpmsgDestroyEpt e).1 }

end LinkState

/-- The payloads of the calls to `dst` whose message was put on the ring, in that order. -/
def WireState.sentTo (w : WireState) (dst : UInt32) : List (List UInt8) :=
  w.posted.filterMap fun p ↦ (w.calls p.1)[p.2]?.bind fun c ↦
    if c.dst = dst then some c.data else none

/-- The senders pass the length of their data. -/
def LengthsRight : LinkState → LinkEvent → Prop
  | _, .send (.call _ c) => c.len.toInt = c.data.length
  | _, _ => True

instance (s : LinkState) (ev : LinkEvent) : Decidable (LengthsRight s ev) :=
  match ev with
  | .send (.call _ _) => inferInstanceAs (Decidable (_ = _))
  | .send (.next _) | .send (.prepared ..) | .send (.awake ..) | .send (.added ..)
  | .send (.consume _) | .deliver .. | .dev .. | .eptdevOpen .. | .createOther .. |
    .destroyOther _ => inferInstanceAs (Decidable True)

/-- An open of the device `x` gets the address `dst`, if it gets one. -/
def OpensAt (info : EptdevId → EptdevInfo) (dst : UInt32) (x : EptdevId) (s : LinkState) :
    LinkEvent → Prop
  | .eptdevOpen y env => y = x → ∀ e addr,
    (s.remote.rpmsgCreateEpt (some (info y).rpdev) .rpmsgEptCb (.eptdev y) (info y).src env).2 =
      some (e, addr) → addr = dst
  | _ => True

/-- What a link promises of the device `x` behind the address `dst`. -/
structure LinkRight (dst : UInt32) (x : EptdevId) (s : LinkState) : Prop where
  /-- What is queued there was sent there, in this order, and once. -/
  queued : List.Sublist ((s.devs x).accepted.map Skb.data) (s.wire.sentTo dst)
  /-- So is what the readers take. -/
  taken : List.Sublist ((takenBy Taker.isRead (s.devs x).taken).map Skb.data) (s.wire.sentTo dst)
  /-- A read that succeeds delivers what one call has sent there, as far as it fits. -/
  report : ∀ i n user, (s.devs x).pcs i = .returned (.ok n) user →
    ∃ data ∈ s.wire.sentTo dst, n = min ((s.devs x).calls i).count data.length ∧
      user = data.take n

variable {n va n' va' vringNum : ℕ} {L L' : BufLayout} {info : EptdevId → EptdevInfo}
  {dst : UInt32} {x : EptdevId} {s s' : LinkState} {ev : LinkEvent}
  {C : LinkState → LinkEvent → Prop} {calls : ℕ → SendCall} {m : EptStore}

/-! ### The endpoints of the remote -/

/-- The endpoints of the device `x` are found at `dst` only. -/
structure RemoteEpts (dst : UInt32) (x : EptdevId) (m : EptStore) : Prop where
  lt : ∀ {addr e}, m.endpoints addr = some e → e < m.next
  only : ∀ {addr e ept}, m.endpoints addr = some e → m.epts e = some ept →
    ept.cb = some .rpmsgEptCb → ept.priv = .eptdev x → addr = dst.toNat

/-- The address `dst` is bound to the device `x`. -/
def Bound (dst : UInt32) (x : EptdevId) (m : EptStore) : Prop :=
  ∃ e ∈ m.endpoints dst.toNat, ∃ ept ∈ m.epts e, ept.cb = some .rpmsgEptCb ∧ ept.priv = .eptdev x

instance : Decidable (Bound dst x m) :=
  inferInstanceAs (Decidable (∃ e ∈ m.endpoints dst.toNat, _))

theorem remoteEpts_init : RemoteEpts dst x .init where
  lt h := by cases h
  only h := by cases h

/-- An endpoint is destroyed. -/
theorem RemoteEpts.destroy (h : RemoteEpts dst x m) (e : EptId) :
    RemoteEpts dst x (m.rpmsgDestroyEpt e).1 := by
  rcases he : m.epts e with - | ept
  · simp only [EptStore.rpmsgDestroyEpt, he]
    exact ⟨h.lt, h.only⟩
  · rw [EptStore.rpmsgDestroyEpt_of_live he]
    exact ⟨fun hentry ↦ h.lt (Maps.erase_eq_some.1 hentry).2, fun hentry hept ↦
      h.only (Maps.erase_eq_some.1 hentry).2 (Maps.erase_eq_some.1 hept).2⟩

/-- An endpoint is created: one for the device `x` has to get the address. -/
theorem RemoteEpts.create (h : RemoteEpts dst x m) (rpdev : Option RpdevId) (cb : RxCb)
    (priv : Priv) (addr : UInt32) (env : EptEnv)
    (hat : cb = .rpmsgEptCb → priv = .eptdev x → ∀ e addr',
      (m.rpmsgCreateEpt rpdev cb priv addr env).2 = some (e, addr') → addr' = dst) :
    RemoteEpts dst x (m.rpmsgCreateEpt rpdev cb priv addr env).1 := by
  obtain ⟨-, heq⟩ | ⟨id, t, hid, heq⟩ := m.rpmsgCreateEpt_cases rpdev cb priv addr env
  · rw [heq]
    exact h
  rw [heq] at hat ⊢
  have htoNat := hid.toNat
  obtain ⟨-, -, -, -, rfl⟩ := Idr.alloc_eq_ok hid.2
  constructor
  · intro a e hentry
    rcases Maps.update_eq_some.1 hentry with ⟨-, rfl⟩ | ⟨-, hentry⟩
    · exact Nat.lt_succ_self _
    · exact (h.lt hentry).trans (Nat.lt_succ_self _)
  · intro a e ept hentry hept hcb hpriv
    rcases Maps.update_eq_some.1 hentry with ⟨rfl, rfl⟩ | ⟨-, hentry⟩
    · replace hept : Function.update m.epts m.next _ m.next = some ept := hept
      rw [Function.update_self] at hept
      obtain rfl := Option.some.inj hept
      rw [← hat (Option.some.inj hcb) hpriv _ _ rfl, htoNat]
    · replace hept : Function.update m.epts m.next _ e = some ept := hept
      rw [Function.update_of_ne (h.lt hentry).ne] at hept
      exact h.only hentry hept hcb hpriv

/-- A step on a device. -/
theorem RemoteEpts.eptsAfter (h : RemoteEpts dst x m) (old dev : ReadState) :
    RemoteEpts dst x (LinkState.eptsAfter m old dev) := by
  unfold LinkState.eptsAfter
  split
  · exact h.destroy _
  · exact h

/-! ### The steps of a link -/

/-- What happens to the endpoints of the remote beside what happens to the devices. -/
inductive RemoteMove (info : EptdevId → EptdevInfo) (s : LinkState) :
    LinkEvent → LinkState → Prop
  | dev (y : EptdevId) (ev : ReadEvent) (dev : ReadState) :
    ev.ofOthers = false → (s.devs y).readStep ev = some dev →
    RemoteMove info s (.dev y ev) { s with
      devs := Function.update s.devs y dev
      remote := LinkState.eptsAfter s.remote (s.devs y) dev }
  | notOpened (y : EptdevId) (env : EptEnv) : RemoteMove info s (.eptdevOpen y env) s
  | opened (y : EptdevId) (env : EptEnv) (e : EptId) (dev : ReadState) :
    (s.devs y).readStep (.opened e) = some dev →
    RemoteMove info s (.eptdevOpen y env) { s with
      devs := Function.update s.devs y dev
      remote := (s.remote.rpmsgCreateEpt (some (info y).rpdev) .rpmsgEptCb (.eptdev y) (info y).src
        env).1 }
  | createOther (rpdev : Option RpdevId) (cb : RxCb) (priv : Priv) (addr : UInt32) (env : EptEnv) :
    cb ≠ .rpmsgEptCb → RemoteMove info s (.createOther rpdev cb priv addr env)
      { s with remote := (s.remote.rpmsgCreateEpt rpdev cb priv addr env).1 }
  | destroyOther (e : EptId) : RemoteMove info s (.destroyOther e)
      { s with remote := (s.remote.rpmsgDestroyEpt e).1 }

/-- **What a step of the link is**: one of the senders, one of the remote, or a delivery. -/
theorem LinkState.step_cases (h : s.step L L' vringNum info ev = some s') :
    (∃ ev', ev = .send ev' ∧ (∀ b, ev' ≠ .consume b) ∧
      s.wire.step L vringNum ev' = some s'.wire ∧ s'.devs = s.devs ∧ s'.remote = s.remote) ∨
    RemoteMove info s ev s' ∨
    ∃ rest added allocSkb b msg r, ev = .deliver rest added allocSkb ∧
      s.wire.tx.svq.avail.head? = some b ∧ s.wire.tx.mem b = some msg ∧
      s.wire.step L vringNum (.consume b) = some s'.wire ∧
      rpmsgRecvBuf L' s.remote.endpoints s.remote.epts s.devs (msg.bytes ++ rest)
        (.ofNat (RpmsgHdr.size + msg.data.length)) added allocSkb = some (r, s'.devs) ∧
      s'.remote = s.remote := by
  rcases ev with ev' | ⟨rest, added, allocSkb⟩ | ⟨y, ev'⟩ | ⟨y, env⟩ |
    ⟨rpdev, cb, priv, addr, env⟩ | e
  · have hsend : (∀ b, ev' ≠ .consume b) ∧
        (s.wire.step L vringNum ev').map (fun wire ↦ { s with wire }) = some s' := by
      rcases ev' with ⟨i, c⟩ | i | ⟨i, signal⟩ | ⟨i, expired⟩ | ⟨i, ret⟩ | b
      case consume => cases h
      all_goals exact ⟨nofun, h⟩
    obtain ⟨hne, hs⟩ := hsend
    obtain ⟨wire, hwire, rfl⟩ := Option.map_eq_some_iff.1 hs
    exact .inl ⟨ev', rfl, hne, hwire, rfl, rfl⟩
  · obtain ⟨b, hb, h⟩ := Option.bind_eq_some_iff.1 h
    obtain ⟨msg, hmsg, h⟩ := Option.bind_eq_some_iff.1 h
    obtain ⟨wire, hwire, h⟩ := Option.bind_eq_some_iff.1 h
    obtain ⟨⟨r, devs⟩, hrecv, h⟩ := Option.bind_eq_some_iff.1 h
    obtain rfl := Option.some.inj h
    exact .inr (.inr ⟨rest, added, allocSkb, b, msg, r, rfl, hb, hmsg, hwire, hrecv, rfl⟩)
  · obtain ⟨hothers, h⟩ := Option.ite_none_left_eq_some.1 h
    obtain ⟨dev, hdev, rfl⟩ := Option.map_eq_some_iff.1 h
    exact .inr (.inl (.dev y ev' dev (Bool.eq_false_iff.2 hothers) hdev))
  · refine .inr (.inl ?_)
    unfold step at h
    dsimp only at h
    split at h
    · obtain rfl := Option.some.inj h
      exact .notOpened y env
    · next remote e addr hcreate =>
      obtain ⟨dev, hdev, rfl⟩ := Option.map_eq_some_iff.1 h
      obtain rfl := congrArg Prod.fst hcreate
      exact .opened y env e dev hdev
  · obtain ⟨hcb, h⟩ := Option.ite_none_left_eq_some.1 h
    obtain rfl := Option.some.inj h
    exact .inr (.inl (.createOther rpdev cb priv addr env hcb))
  · obtain ⟨-, h⟩ := Option.ite_none_left_eq_some.1 h
    obtain rfl := Option.some.inj h
    exact .inr (.inl (.destroyOther e))

/-- The senders and the ring are no business of the remote's. -/
theorem RemoteMove.wire (h : RemoteMove info s ev s') : s'.wire = s.wire := by
  cases h <;> rfl

/-- The endpoints of `x` stay where they are, if an open gets the address. -/
theorem RemoteEpts.move (h : RemoteEpts dst x s.remote) (hmove : RemoteMove info s ev s')
    (hat : OpensAt info dst x s ev) : RemoteEpts dst x s'.remote := by
  cases hmove with
  | dev y ev dev hothers hdev => exact h.eptsAfter _ _
  | notOpened y env => exact h
  | opened y env e dev hdev =>
    exact h.create _ _ _ _ _ fun _ hpriv ↦ hat (Priv.eptdev.inj hpriv)
  | createOther rpdev cb priv addr env hcb =>
    exact h.create _ _ _ _ _ fun heq ↦ absurd heq hcb
  | destroyOther e => exact h.destroy e

/-- A step of the remote queues nothing. -/
theorem RemoteMove.accepted (h : RemoteMove info s ev s') (x : EptdevId) :
    (s'.devs x).accepted.map Skb.data = (s.devs x).accepted.map Skb.data ∧
      ((s.devs x).FifoInv → (s'.devs x).FifoInv) := by
  have hupdate : ∀ {y : EptdevId} {ev : ReadEvent} {dev : ReadState}, ev.arrival = [] →
      (s.devs y).readStep ev = some dev →
      (Function.update s.devs y dev x).accepted.map Skb.data =
          (s.devs x).accepted.map Skb.data ∧
        ((s.devs x).FifoInv → (Function.update s.devs y dev x).FifoInv) := by
    intro y ev dev hev hdev
    rcases eq_or_ne x y with rfl | hne
    · have haccepted := (ReadState.readStep_rule hdev).accepted
      rw [hev, List.append_nil] at haccepted
      rw [Function.update_self]
      exact ⟨haccepted, fun hfifo ↦ hfifo.step hdev⟩
    · rw [Function.update_of_ne hne]
      exact ⟨rfl, id⟩
  cases h with
  | dev y ev dev hothers hdev =>
    refine hupdate ?_ hdev
    rcases ev with - | - | - | - | - | ⟨buf, allocSkb⟩ | - | -
    case rpmsgEptCb => cases hothers
    all_goals rfl
  | opened y env e dev hdev => exact hupdate rfl hdev
  | notOpened | createOther | destroyOther => exact ⟨rfl, id⟩

/-- The wire of a link, which is read in order. -/
theorem LinkState.reaches_wire
    (h : Reaches (LinkState.step L L' vringNum info) C (.started calls) s) :
    Reaches (WireState.step L vringNum) OldestFirst (.probed calls) s.wire := by
  refine h.project LinkState.wire fun {s s' ev} _ hs ↦ ?_
  obtain ⟨ev', -, hne, hwire, -⟩ | hmove |
    ⟨rest, added, allocSkb, b, msg, r, -, hb, -, hwire, -⟩ := LinkState.step_cases hs
  · refine .inr ⟨ev', ?_, hwire⟩
    rcases ev' with - | - | - | - | - | b
    case consume => exact absurd rfl (hne b)
    all_goals trivial
  · exact .inl hmove.wire
  · exact .inr ⟨.consume b, hb, hwire⟩

/-! ### What is on the ring has passed the checks -/

/-- The call under way, and the calls whose message was put on the ring, have passed the argument
checks, and all calls are made with the length of their data. -/
structure CallsChecked (L : BufLayout) (w : WireState) : Prop where
  under : ∀ i, (w.tx.pc i).running = true → sendCheck L (w.tx.senders i).call = none
  posted : ∀ p ∈ w.posted, ∃ c, (w.calls p.1)[p.2]? = some c ∧ sendCheck L c = none
  lengths : ∀ i, ∀ c ∈ w.calls i, c.len.toInt = c.data.length

theorem callsChecked_probed (calls : ℕ → SendCall) : CallsChecked L (.probed calls) where
  under i h := by cases h
  posted p h := by cases h
  lengths i c h := by cases h

/-- Calls that were made stay in the log. -/
theorem WireState.getElem?_logCalls {w : WireState} (ev : TxEvent) {i k : ℕ} {c : SendCall}
    (h : (w.calls i)[k]? = some c) : (w.logCalls ev i)[k]? = some c := by
  rcases ev with ⟨j, c'⟩ | j | ⟨j, signal⟩ | ⟨j, expired⟩ | ⟨j, ret⟩ | b
  case call =>
    rcases eq_or_ne i j with rfl | hne
    · rw [logCalls, Function.update_self,
        List.getElem?_append_left (List.getElem?_eq_some_iff.1 h).1, h]
    · rw [logCalls, Function.update_of_ne hne, h]
  all_goals exact h

theorem CallsChecked.step {w w' : WireState} {ev : TxEvent} (h : CallsChecked L w)
    (hlog : WireInv w) (hlen : ∀ i c, ev = .call i c → c.len.toInt = c.data.length)
    (hs : w.step L vringNum ev = some w') : CallsChecked L w' := by
  obtain ⟨tx, htx, rfl⟩ := Option.map_eq_some_iff.1 hs
  refine ⟨fun i hi ↦ ?_, fun p hp ↦ ?_, fun i c hc ↦ ?_⟩
  · by_cases hcaller : ev.caller = some i
    · by_cases hcall : ∃ c, ev = .call i c
      · obtain ⟨c, rfl⟩ := hcall
        obtain ⟨-, hs⟩ := Option.ite_none_right_eq_some.1 htx
        split at hs <;> obtain rfl := Option.some.inj hs
        · rw [TxState.pc_goto_self] at hi
          cases hi
        · next hcheck _ =>
          rw [TxState.call_goto]
          simpa [TxState.setCall] using hcheck
      by_cases hadd : ev = .added i (.ok ())
      · subst hadd
        obtain ⟨b, hpc, -, rfl⟩ := TxState.txStep_added htx
        show sendCheck L ((w.tx.goto i .kick).senders i).call = none
        rw [TxState.call_goto]
        exact h.under i (by rw [hpc]; rfl)
      · have hown := TxState.ownStep_txStep htx hcaller (fun c hc ↦ hcall ⟨c, hc⟩) hadd
        rw [hown.call]
        exact h.under i hown.move.running
    · rw [TxState.pc_txStep htx hcaller] at hi
      rw [TxState.call_txStep htx hcaller]
      exact h.under i hi
  · have hold : ∀ p ∈ w.posted, ∃ c, (w.logCalls ev p.1)[p.2]? = some c ∧ sendCheck L c = none := by
      intro p hp
      obtain ⟨c, hc, hcheck⟩ := h.posted p hp
      exact ⟨c, WireState.getElem?_logCalls ev hc, hcheck⟩
    rcases ev with ⟨i, c⟩ | i | ⟨i, signal⟩ | ⟨i, expired⟩ | ⟨i, e | ⟨⟩⟩ | b
    case added.ok =>
      rcases List.mem_append.1 hp with hp | hp
      · exact hold p hp
      · obtain rfl := List.mem_singleton.1 hp
        obtain ⟨b, hpc, -, -⟩ := TxState.txStep_added htx
        have hrun : (w.tx.pc i).running = true := by rw [hpc]; rfl
        refine ⟨_, ?_, h.under i hrun⟩
        show (w.calls i)[(w.calls i).length - 1]? = _
        rw [← List.getLast?_eq_getElem?]
        exact ((hlog.log i).under hrun).2.1
    all_goals exact hold p hp
  · rcases ev with ⟨j, c'⟩ | j | ⟨j, signal⟩ | ⟨j, expired⟩ | ⟨j, ret⟩ | b
    case call =>
      change c ∈ Function.update w.calls j (w.calls j ++ [c']) i at hc
      rcases eq_or_ne i j with rfl | hne
      · rw [Function.update_self] at hc
        rcases List.mem_append.1 hc with hc | hc
        · exact h.lengths i c hc
        · obtain rfl := List.mem_singleton.1 hc
          exact hlen i c rfl
      · rw [Function.update_of_ne hne] at hc
        exact h.lengths i c hc
    all_goals exact h.lengths i c hc

/-! ### One delivery -/

theorem RxCall.arrival_eq_some {call : RxCall} {buf : List UInt8} {allocSkb : Bool} {y : EptdevId}
    {ev : ReadEvent} (h : call.arrival buf allocSkb = some (y, ev)) :
    call.cb = .rpmsgEptCb ∧ call.priv = .eptdev y ∧
      ev = .rpmsgEptCb ((buf.drop RpmsgHdr.size).take call.len.toNat) allocSkb := by
  unfold arrival at h
  split at h
  · next z hcb hpriv =>
    obtain ⟨rfl, rfl⟩ := Prod.mk.inj (Option.some.inj h)
    exact ⟨hcb, hpriv, rfl⟩
  · cases h

/-- A message that has passed the checks of a send passes that of the remote. -/
theorem recvTooBig_sendMsg {c : SendCall} (hcheck : sendCheck (.ofProbe n va) c = none)
    (hlen : c.len.toInt = c.data.length) :
    (sendMsg c).hdr.len.toNat = c.data.length ∧
      recvTooBig (.ofProbe n' va') (sendMsg c).hdr (.ofNat (RpmsgHdr.size + c.data.length)) =
        false := by
  have haddr : c.src ≠ RPMSG_ADDR_ANY ∧ c.dst ≠ RPMSG_ADDR_ANY := by
    constructor <;> intro heq <;> simp [sendCheck, heq] at hcheck
  have hfits := fits_of_sendCheck hcheck haddr.1 haddr.2 hlen
  rw [BufLayout.ofProbe_bufSize] at hfits
  have hhdr : (sendMsg c).hdr.len.toNat = c.data.length := toNat_hdr_len hlen (by omega)
  have hused : (UInt32.ofNat (RpmsgHdr.size + c.data.length)).toNat =
      RpmsgHdr.size + c.data.length := by
    rw [UInt32.toNat_ofNat']
    omega
  refine ⟨hhdr, (recvTooBig_eq_false_iff (by omega)).2 ⟨?_, ?_⟩⟩
  · rw [hhdr, hused]
  · rw [hused, BufLayout.ofProbe_bufSize]
    omega

/-- **A delivery**: a message for `dst` runs the callback of `x` with its payload if the address is
bound to it, and otherwise `x` is left alone. -/
theorem RemoteEpts.recv (h : RemoteEpts dst x m) {c : SendCall}
    (hcheck : sendCheck (.ofProbe n va) c = none) (hlen : c.len.toInt = c.data.length)
    {devs devs' : EptdevId → ReadState} {rest : List UInt8} {added : Except Errno Unit}
    {allocSkb : Bool} {r : RecvResult}
    (hrecv : rpmsgRecvBuf (.ofProbe n' va') m.endpoints m.epts devs ((sendMsg c).bytes ++ rest)
      (.ofNat (RpmsgHdr.size + (sendMsg c).data.length)) added allocSkb = some (r, devs')) :
    (c.dst = dst → Bound dst x m →
        (devs x).readStep (.rpmsgEptCb c.data allocSkb) = some (devs' x)) ∧
      (¬ (c.dst = dst ∧ Bound dst x m) → devs' x = devs x) := by
  have hdata := data_sendMsg hlen
  rw [hdata] at hrecv
  obtain ⟨hhdr, hpass⟩ : (sendMsg c).hdr.len.toNat = c.data.length ∧
      recvTooBig (.ofProbe n' va') (sendMsg c).hdr (.ofNat (RpmsgHdr.size + c.data.length)) =
        false := recvTooBig_sendMsg hcheck hlen
  have hread := RpmsgMsg.read_bytes (List.prefix_append (sendMsg c).bytes rest)
  simp only [rpmsgRecvBuf, hread.1, rpmsgRecvSingle_of_not_tooBig hpass] at hrecv
  split at hrecv
  · -- no callback of an endpoint device: so the address is not bound to one
    next hnone =>
    obtain ⟨-, rfl⟩ := Prod.mk.inj (Option.some.inj hrecv)
    refine ⟨fun hdst hbound ↦ ?_, fun _ ↦ rfl⟩
    obtain ⟨e, he, ept, hept, hcb, hpriv⟩ := hbound
    rw [Option.mem_def] at he hept
    simp [deliver, sendMsg_dst, hdst, he, hept, hcb, hpriv, RxCall.arrival] at hnone
  · next y ev hsome =>
    obtain ⟨dev, hdev, hpair⟩ := Option.map_eq_some_iff.1 hrecv
    obtain ⟨-, rfl⟩ := Prod.mk.inj hpair
    obtain ⟨call, hcall, harrival⟩ := Option.bind_eq_some_iff.1 hsome
    obtain ⟨e, ept, he, hept, hcb, hpriv, hcalllen⟩ := deliver_eq_some hcall
    obtain ⟨hcb', hpriv', rfl⟩ := RxCall.arrival_eq_some harrival
    rw [hcalllen, hhdr, ← hdata, hread.2, hdata] at hdev
    rw [sendMsg_dst] at he
    have hcb := hcb.trans (congrArg some hcb')
    have hpriv := hpriv.trans hpriv'
    rcases eq_or_ne y x with rfl | hne
    · have hdst : c.dst = dst := UInt32.toNat.inj (h.only he hept hcb hpriv)
      rw [Function.update_self]
      refine ⟨fun _ _ ↦ hdev, fun hnot ↦ absurd ⟨hdst, e, ?_, ept, hept, hcb, hpriv⟩ hnot⟩
      rwa [← hdst]
    · rw [Function.update_of_ne hne.symm]
      refine ⟨fun hdst hbound ↦ ?_, fun _ ↦ rfl⟩
      -- the entry of `dst` is that of `x`
      obtain ⟨e', he', ept', hept', -, hprivx⟩ := hbound
      rw [hdst, he'] at he
      obtain rfl := Option.some.inj he
      rw [hept'] at hept
      obtain rfl := Option.some.inj hept
      exact absurd (Priv.eptdev.inj (hprivx.symm.trans hpriv)).symm hne

/-! ### What has arrived -/

/-- The payloads of the messages to `dst`. -/
def messagesTo (dst : UInt32) (msgs : List (Option RpmsgMsg)) : List (List UInt8) :=
  msgs.filterMap fun msg ↦ msg.bind fun msg ↦ if msg.hdr.dst = dst then some msg.data else none

@[simp] theorem messagesTo_append (dst : UInt32) (msgs msgs' : List (Option RpmsgMsg)) :
    messagesTo dst (msgs ++ msgs') = messagesTo dst msgs ++ messagesTo dst msgs' :=
  List.filterMap_append

theorem messagesTo_sendMsg (dst : UInt32) {c : SendCall} (hlen : c.len.toInt = c.data.length) :
    messagesTo dst [some (sendMsg c)] = if c.dst = dst then [c.data] else [] := by
  by_cases hdst : c.dst = dst <;> simp [messagesTo, hdst, data_sendMsg hlen]

/-- The messages on the ring are those of the calls. -/
theorem CallsChecked.messagesTo_sent {w : WireState} (h : CallsChecked L w) (dst : UInt32) :
    messagesTo dst w.sent = w.sentTo dst := by
  rw [messagesTo, WireState.sent, List.filterMap_map, WireState.sentTo]
  refine List.filterMap_congr fun p hp ↦ ?_
  obtain ⟨c, hc, -⟩ := h.posted p hp
  have hlen := h.lengths p.1 c (List.mem_of_getElem? hc)
  simp [WireState.message, hc, data_sendMsg hlen]

/-- A buffer the remote may read holds the message of a call that has passed the checks. -/
theorem CallsChecked.mem_avail {w : WireState} (h : CallsChecked L w)
    (hring : w.tx.svq.CarriesInOrder w.tx.mem w.sent w.read) {b : ℕ} (hb : b ∈ w.tx.svq.avail) :
    ∃ c, w.tx.mem b = some (sendMsg c) ∧ sendCheck L c = none ∧ c.len.toInt = c.data.length := by
  have hsent : w.tx.mem b ∈ w.sent := by
    rw [← hring]
    exact List.mem_append_right _ (List.mem_map_of_mem hb)
  obtain ⟨p, hp, hmsg⟩ := List.mem_map.1 hsent
  obtain ⟨c, hc, hcheck⟩ := h.posted p hp
  refine ⟨c, ?_, hcheck, h.lengths p.1 c (List.mem_of_getElem? hc)⟩
  rw [← hmsg, WireState.message, hc]
  rfl

/-- The oldest message on the ring is for `dst`. -/
def WireState.NextFor (w : WireState) (dst : UInt32) : Prop :=
  ∃ b ∈ w.tx.svq.avail.head?, ∃ msg ∈ w.tx.mem b, msg.hdr.dst = dst

instance (w : WireState) : Decidable (w.NextFor dst) :=
  inferInstanceAs (Decidable (∃ b ∈ w.tx.svq.avail.head?, _))

/-- A message for `dst` is taken off the ring only while the address is bound to the device, and
with memory for its socket buffer. -/
def Keeps (dst : UInt32) (x : EptdevId) (s : LinkState) : LinkEvent → Prop
  | .deliver _ _ allocSkb => s.wire.NextFor dst → Bound dst x s.remote ∧ allocSkb = true
  | _ => True

instance (s : LinkState) (ev : LinkEvent) : Decidable (Keeps dst x s ev) :=
  match ev with
  | .deliver .. => inferInstanceAs (Decidable (_ → _))
  | .send _ | .dev .. | .eptdevOpen .. | .createOther .. | .destroyOther _ =>
    inferInstanceAs (Decidable True)

/-- **One step of a link**: what the remote reads for `dst` is queued on `x`, or lost. -/
theorem LinkState.queue_step (h : RemoteEpts dst x s.remote)
    (hchecked : CallsChecked (.ofProbe n va) s.wire)
    (hring : s.wire.tx.svq.CarriesInOrder s.wire.tx.mem s.wire.sent s.wire.read)
    (hs : s.step (.ofProbe n va) (.ofProbe n' va') vringNum info ev = some s') :
    ∃ arrived, messagesTo dst s'.wire.read = messagesTo dst s.wire.read ++ arrived ∧
      (Keeps dst x s ev ∧
          (s'.devs x).accepted.map Skb.data = (s.devs x).accepted.map Skb.data ++ arrived ∨
        ¬ Keeps dst x s ev ∧ arrived ≠ [] ∧
          (s'.devs x).accepted.map Skb.data = (s.devs x).accepted.map Skb.data) ∧
      ((s.devs x).FifoInv → (s'.devs x).FifoInv) := by
  obtain ⟨ev', rfl, hne, hwire, hdevs, -⟩ | hmove |
    ⟨rest, added, allocSkb, b, msg, r, rfl, hb, hmsg, hwire, hrecv, -⟩ := LinkState.step_cases hs
  · have hread : s'.wire.read = s.wire.read := by
      obtain ⟨tx, -, hwire⟩ := Option.map_eq_some_iff.1 hwire
      rw [← hwire]
      rcases ev' with ⟨i, c⟩ | i | ⟨i, signal⟩ | ⟨i, expired⟩ | ⟨i, ret⟩ | b
      case consume => exact absurd rfl (hne b)
      all_goals rfl
    rw [hread, hdevs]
    exact ⟨[], (List.append_nil _).symm, .inl ⟨trivial, (List.append_nil _).symm⟩, id⟩
  · obtain ⟨haccepted, hfifo⟩ := hmove.accepted x
    rw [hmove.wire, haccepted]
    refine ⟨[], (List.append_nil _).symm, .inl ⟨?_, (List.append_nil _).symm⟩, hfifo⟩
    cases hmove <;> trivial
  · obtain ⟨c, hc, hcheck, hlen⟩ := hchecked.mem_avail hring (List.mem_of_mem_head? hb)
    obtain rfl : msg = sendMsg c := Option.some.inj (hmsg.symm.trans hc)
    have hread : s'.wire.read = s.wire.read ++ [some (sendMsg c)] := by
      obtain ⟨tx, -, hwire⟩ := Option.map_eq_some_iff.1 hwire
      rw [← hwire, ← hmsg]
      rfl
    have hnext : s.wire.NextFor dst ↔ c.dst = dst := by
      constructor
      · rintro ⟨b', hb', msg', hmsg', hdst⟩
        obtain rfl := Option.some.inj (hb.symm.trans hb')
        obtain rfl := Option.some.inj (hmsg.symm.trans hmsg')
        rwa [sendMsg_dst] at hdst
      · exact fun hdst ↦ ⟨b, hb, _, hmsg, by rwa [sendMsg_dst]⟩
    have hkeeps : Keeps dst x s (.deliver rest added allocSkb) ↔
        (c.dst = dst → Bound dst x s.remote ∧ allocSkb = true) := by
      rw [Keeps, hnext]
    obtain ⟨hto, hother⟩ := h.recv hcheck hlen hrecv
    rw [hread, messagesTo_append, messagesTo_sendMsg dst hlen, hkeeps]
    by_cases hdst : c.dst = dst
    · rw [if_pos hdst, forall_prop_of_true hdst]
      refine ⟨_, rfl, ?_⟩
      by_cases hbound : Bound dst x s.remote
      · have hdev := hto hdst hbound
        refine ⟨?_, fun hfifo ↦ hfifo.step hdev⟩
        rcases allocSkb with - | -
        · simp only [ReadState.readStep, Bool.false_eq_true, if_false, Option.some.injEq] at hdev
          exact .inr ⟨fun hk ↦ Bool.false_ne_true hk.2, List.cons_ne_nil _ _, by rw [hdev]⟩
        · exact .inl ⟨⟨hbound, rfl⟩, (ReadState.readStep_rule hdev).accepted⟩
      · rw [hother fun hb ↦ hbound hb.2]
        exact ⟨.inr ⟨fun hk ↦ hbound hk.1, List.cons_ne_nil _ _, rfl⟩, id⟩
    · rw [if_neg hdst, hother fun hb ↦ hdst hb.1]
      exact ⟨[], rfl, .inl ⟨fun hd ↦ absurd hd hdst, (List.append_nil _).symm⟩, id⟩

/-! ### Every run -/

/-- The invariant of a link. -/
structure LinkInv (L : BufLayout) (dst : UInt32) (x : EptdevId) (s : LinkState) : Prop where
  checked : CallsChecked L s.wire
  remote : RemoteEpts dst x s.remote
  fifo : (s.devs x).FifoInv
  queued : List.Sublist ((s.devs x).accepted.map Skb.data) (messagesTo dst s.wire.read)

theorem LinkInv.step (h : LinkInv (.ofProbe n va) dst x s) (hlog : WireInv s.wire)
    (hring : s.wire.tx.svq.CarriesInOrder s.wire.tx.mem s.wire.sent s.wire.read)
    (hlen : LengthsRight s ev) (hat : OpensAt info dst x s ev)
    (hs : s.step (.ofProbe n va) (.ofProbe n' va') vringNum info ev = some s') :
    LinkInv (.ofProbe n va) dst x s' := by
  obtain ⟨arrived, hread, hqueued, hfifo⟩ := LinkState.queue_step h.remote h.checked hring hs
  obtain ⟨hchecked, hremote⟩ : CallsChecked (.ofProbe n va) s'.wire ∧
      RemoteEpts dst x s'.remote := by
    obtain ⟨ev', rfl, -, hwire, -, hremote⟩ | hmove |
      ⟨rest, added, allocSkb, b, msg, r, rfl, -, -, hwire, -, hremote⟩ := LinkState.step_cases hs
    · refine ⟨h.checked.step hlog (fun i c hc ↦ ?_) hwire, hremote ▸ h.remote⟩
      subst hc
      exact hlen
    · exact ⟨hmove.wire ▸ h.checked, h.remote.move hmove hat⟩
    · exact ⟨h.checked.step hlog (fun i c hc ↦ by cases hc) hwire, hremote ▸ h.remote⟩
  refine ⟨hchecked, hremote, hfifo h.fifo, ?_⟩
  rw [hread]
  rcases hqueued with ⟨-, hqueued⟩ | ⟨-, -, hqueued⟩
  · rw [hqueued]
    exact h.queued.append_right arrived
  · rw [hqueued]
    exact h.queued.trans (List.sublist_append_left _ _)

/-- The senders pass the length of their data, and an open of `x` gets the address `dst`. -/
def LinkUse (info : EptdevId → EptdevInfo) (dst : UInt32) (x : EptdevId) (s : LinkState)
    (ev : LinkEvent) : Prop :=
  LengthsRight s ev ∧ OpensAt info dst x s ev

theorem linkInv_of_reaches
    (h : Reaches (LinkState.step (.ofProbe n va) (.ofProbe n' va') vringNum info)
      (LinkUse info dst x) (.started calls) s) : LinkInv (.ofProbe n va) dst x s := by
  refine h.invariant (P := LinkInv (.ofProbe n va) dst x) ?_ fun hreach hinv hc hs ↦ ?_
  · have hclosed : (ReadState.opened 0).readStep .destroy = some { ReadState.opened 0 with
        ept := none } := rfl
    exact ⟨callsChecked_probed calls, remoteEpts_init, (ReadState.fifoInv_opened 0).step hclosed,
      .refl _⟩
  · have hwire := LinkState.reaches_wire hreach
    exact hinv.step (wireInv_of_reaches hwire)
      (carriesInOrder_of_reaches n va vringNum calls _ hwire) hc.1 hc.2 hs

/-- **A device delivers what was sent to its address**, in that order, each message once and as it
was sent: whatever the senders, the readers, the opens, the closes and the allocations do. -/
theorem linkRight_of_reaches (n va n' va' vringNum : ℕ) (info : EptdevId → EptdevInfo)
    (calls : ℕ → SendCall) (dst : UInt32) (x : EptdevId) (s : LinkState)
    (h : Reaches (LinkState.step (.ofProbe n va) (.ofProbe n' va') vringNum info)
      (LinkUse info dst x) (.started calls) s) : LinkRight dst x s := by
  have hinv := linkInv_of_reaches h
  have hring := carriesInOrder_of_reaches n va vringNum calls _ (LinkState.reaches_wire h)
  have hread : List.Sublist (messagesTo dst s.wire.read) (s.wire.sentTo dst) := by
    rw [← hinv.checked.messagesTo_sent, ← hring, messagesTo_append]
    exact List.sublist_append_left _ _
  have hqueued := hinv.queued.trans hread
  refine ⟨hqueued, (hinv.fifo.fifo.order.map Skb.data).trans hqueued, fun i k user hpc ↦ ?_⟩
  obtain ⟨skb, hmem, hk, huser⟩ := hinv.fifo.fifo.report i k user hpc
  have haccepted : skb ∈ (s.devs x).accepted := by
    rw [← hinv.fifo.account]
    exact List.mem_append_left _ (List.mem_map_of_mem hmem)
  exact ⟨skb.data, hqueued.subset (List.mem_map_of_mem haccepted), hk, huser⟩

/-- A device that was created for one address gets no other. -/
theorem opensAt_of_src (hsrc : (info x).src ≠ RPMSG_ADDR_ANY) (s : LinkState) (ev : LinkEvent) :
    OpensAt info (info x).src x s ev := by
  rcases ev with - | - | - | ⟨y, env⟩ | - | -
  case eptdevOpen =>
    rintro rfl e addr hsome
    obtain ⟨-, heq⟩ | ⟨id, t, hid, heq⟩ := s.remote.rpmsgCreateEpt_cases (some (info y).rpdev)
      .rpmsgEptCb (.eptdev y) (info y).src env
    · rw [heq] at hsome
      cases hsome
    · rw [heq] at hsome
      obtain ⟨-, rfl⟩ := Prod.mk.inj (Option.some.inj hsome)
      obtain ⟨hstart, -, hmin, hmax, -⟩ := Idr.alloc_eq_ok hid.2
      rw [← UInt32.toNat_inj, hid.toNat]
      exact eq_of_mem_range hsrc hstart hmin hmax
  all_goals trivial

/-- The device 0 below is created for 61, so that the lengths are what is left to test. -/
theorem linkUse_sixtyOne (s : LinkState) (ev : LinkEvent) (h : decide (LengthsRight s ev) = true) :
    LinkUse (fun _ ↦ ⟨1, 61⟩) 61 0 s ev :=
  ⟨of_decide_eq_true h, opensAt_of_src (x := 0) (by decide) s ev⟩

/-- The device 0 of the remote is opened at 61, three bytes are sent to it, and a reader with room
for two is there. -/
def threeBytes : List LinkEvent :=
  [.eptdevOpen 0 ⟨true, false⟩, .send (.call 0 ⟨1024, 61, [7, 8, 9], 3, true⟩)] ++
    List.replicate 6 (.send (.next 0)) ++
    [.send (.added 0 (.ok ())), .dev 0 (.read 4 ⟨false, 2, 2⟩), .deliver [0] (.ok ()) true,
      .dev 0 (.next 4), .dev 0 (.next 4), .dev 0 (.next 4), .dev 0 (.next 4)]

theorem linkRight_threeBytes :
    ∃ s, run (LinkState.step (.ofProbe 2 0x1000) (.ofProbe 2 0x8000) 2 fun _ ↦ ⟨1, 61⟩)
        (.started fun _ ↦ ⟨1024, 61, [7], 1, true⟩) threeBytes = some s ∧
      (s.devs 0).pcs 4 = .returned (.ok 2) [7, 8] ∧ LinkRight 61 0 s := by
  obtain ⟨s, hs, hpc⟩ := Option.map_eq_some_iff.1 (show Option.map (fun s ↦ (s.devs 0).pcs 4)
    (runIf (LinkState.step (.ofProbe 2 0x1000) (.ofProbe 2 0x8000) 2 fun _ ↦ ⟨1, 61⟩)
      (fun s ev ↦ decide (LengthsRight s ev))
      (.started fun _ ↦ ⟨1024, 61, [7], 1, true⟩) threeBytes) =
    some (.returned (.ok 2) [7, 8]) by decide +kernel)
  exact ⟨s, run_of_runIf hs, hpc, linkRight_of_reaches 2 0x1000 2 0x8000 2 _ _ 61 0 s
    (reaches_of_runIf linkUse_sixtyOne hs)⟩

/-! ### Nothing is lost -/
