import DriverModules.Rpmsg.RecvRing

/-!
# The receive ring has room

`virtqueue_add_inbuf` fails when no descriptor is free. `rpmsg_probe` warns when that happens to one
of its buffers ("this can't really happen"), and `rpmsg_recv_single` gives up the buffer it could
not add back. `recvStep` takes both to succeed.

Here the ring has the size it was asked for. `rpmsg_probe` hands out no more buffers than there are
descriptors, and the handler takes a buffer from the ring before it adds it back, so the two systems
have the same runs (`run_recvStepIn`).
-/

open Transition

namespace RecvState

variable {υ : Type*}

/-- `virtqueue_add_inbuf` of one buffer, in a ring with `vringNum` descriptors. -/
def virtqueueAddInbuf (vringNum : ℕ) (vq : Virtqueue ℕ υ) (buf : ℕ) :
    Except Errno (Virtqueue ℕ υ) :=
  if vq.bufs.length < vringNum then .ok (vq.add buf) else .error .ENOSPC

/-- The loop of `rpmsg_probe` that sets up the receive buffers: how often `WARN_ON(err)` was hit,
and the ring. -/
def setUpInbufs (vringNum : ℕ) (L : BufLayout) : List ℕ → ℕ × Virtqueue ℕ υ → ℕ × Virtqueue ℕ υ
  | [], r => r
  | i :: is, (warnings, rvq) =>
    match virtqueueAddInbuf vringNum rvq (L.rxBuf i) with
    | .ok rvq => setUpInbufs vringNum L is (warnings, rvq)
    | .error _ => setUpInbufs vringNum L is (warnings + 1, rvq)

/-- `handle`, with an answer of the ring. -/
def handleIn (vringNum : ℕ) (L : BufLayout) (s : RecvState) (endpoints : Idr EptId)
    (epts : EptId → Option RpmsgEndpoint) : Option RecvState :=
  match s.pc with
  | .idle => none
  | .digest buf msg len n =>
    let added := virtqueueAddInbuf vringNum s.rvq buf
    let r := rpmsgRecvSingle L endpoints epts msg len (added.map fun _ ↦ ())
    let log := { s.log with digested := s.log.digested ++ [buf] }
    match r.ret with
    | .ok () =>
      some { rvq := added.toOption.getD s.rvq, pc := .fetch (n + 1),
             log := { log with readded := log.readded ++ [buf] } }
    | .error _ => some { s with pc := .kick n, log }
  | .fetch n => some (s.getNext n (.kick n))
  | .kick n => some { s with pc := .idle, log := { s.log with kicked := decide (n ≠ 0) } }

/-- `recvStep` with a ring of `vringNum` descriptors. -/
def recvStepIn (vringNum : ℕ) (L : BufLayout) (s : RecvState) : RecvEvent → Option RecvState
  | .next endpoints epts => s.handleIn vringNum L endpoints epts
  | ev => recvStep L s ev

/-- What `rpmsg_probe` leaves behind: the ring as the loop has filled it. -/
def probedIn (vringNum : ℕ) (L : BufLayout) : RecvState :=
  { rvq := (setUpInbufs vringNum L (List.range (L.numBufs / 2)) (0, .empty)).2, pc := .idle,
    log := {} }

variable {vringNum : ℕ} {L : BufLayout} {s s' : RecvState}

/-! ### Setting up -/

theorem virtqueueAddInbuf_of_lt {vq : Virtqueue ℕ υ} {buf : ℕ} (h : vq.bufs.length < vringNum) :
    virtqueueAddInbuf vringNum vq buf = .ok (vq.add buf) := if_pos h

/-- Buffers for which there are descriptors all go onto the ring, in order. -/
theorem setUpInbufs_of_le (is : List ℕ) (warnings : ℕ) (rvq : Virtqueue ℕ υ)
    (h : rvq.bufs.length + is.length ≤ vringNum) :
    setUpInbufs vringNum L is (warnings, rvq) =
      (warnings, { rvq with avail := rvq.avail ++ is.map L.rxBuf }) := by
  induction is generalizing rvq with
  | nil => simp only [setUpInbufs, List.map_nil, List.append_nil]
  | cons i is ih =>
    rw [List.length_cons] at h
    have hroom : (rvq.add (L.rxBuf i)).bufs.length = rvq.bufs.length + 1 :=
      (Virtqueue.bufs_add rvq _).length_eq
    simp only [setUpInbufs, virtqueueAddInbuf_of_lt (show rvq.bufs.length < vringNum by omega)]
    rw [ih _ (by omega), Virtqueue.add, List.map_cons, List.append_assoc]
    rfl

/-- Half of the buffers are RX buffers, and they fit into the ring they were counted from. -/
theorem ofProbe_numBufs_le (vringSize va : ℕ) :
    (BufLayout.ofProbe vringSize va).numBufs / 2 ≤ vringSize := by
  rw [BufLayout.ofProbe_numBufs]
  omega

/-- **`rpmsg_probe` never warns**, and leaves every RX buffer available to the remote. -/
theorem setUpInbufs_ofProbe (vringSize va : ℕ) :
    let L := BufLayout.ofProbe vringSize va
    setUpInbufs vringSize L (List.range (L.numBufs / 2)) (0, .empty) = (0, (probed L).rvq) := by
  refine (setUpInbufs_of_le _ _ _ ?_).trans rfl
  rw [Virtqueue.bufs_empty, List.length_nil, List.length_range, Nat.zero_add]
  exact ofProbe_numBufs_le vringSize va

theorem probedIn_ofProbe (vringSize va : ℕ) :
    probedIn vringSize (.ofProbe vringSize va) = probed (.ofProbe vringSize va) := by
  rw [probedIn, setUpInbufs_ofProbe]
  rfl

/-! ### Receiving -/

/-- While the driver has no more buffers than descriptors, the buffer in its hands finds one. -/
theorem recvStepIn_eq (h : s.owned ≤ vringNum) (ev : RecvEvent) :
    recvStepIn vringNum L s ev = recvStep L s ev := by
  rcases ev with ⟨buf, msg, len⟩ | - | ⟨endpoints, epts⟩
  · rfl
  · rfl
  rcases hpc : s.pc with - | ⟨buf, msg, len, n⟩ | n | n <;>
    simp only [recvStepIn, recvStep, handleIn, handle, hpc]
  have hroom : s.rvq.bufs.length < vringNum := by
    simp only [owned, inHand, hpc] at h
    omega
  rw [virtqueueAddInbuf_of_lt hroom]
  rfl

theorem owned_recvStep_le (h : s.owned ≤ vringNum) {ev : RecvEvent}
    (hs : recvStep L s ev = some s') : s'.owned ≤ vringNum := by
  by_cases hd : Digestible L s ev
  · rwa [owned_recvStep hd hs]
  · have hlose := owned_recvStep_reject hd hs
    omega

/-- **The ring never runs out of descriptors**: from what `rpmsg_probe` leaves behind, with the ring
of the size it found, the receive side runs as if every add succeeded. -/
theorem run_recvStepIn (vringSize va : ℕ) (evs : List RecvEvent) :
    let L := BufLayout.ofProbe vringSize va
    (setUpInbufs vringSize L (List.range (L.numBufs / 2))
      ((0, .empty) : ℕ × Virtqueue ℕ (RpmsgHdr × UInt32))).1 = 0 ∧
    run (recvStepIn vringSize L) (probedIn vringSize L) evs = run (recvStep L) (probed L) evs := by
  refine ⟨congrArg Prod.fst (setUpInbufs_ofProbe vringSize va), ?_⟩
  rw [probedIn_ofProbe]
  have hroom : (probed (.ofProbe vringSize va)).owned ≤ vringSize := by
    refine le_of_eq_of_le ?_ (ofProbe_numBufs_le vringSize va)
    simp [probed, owned, inHand, Virtqueue.bufs]
  exact (run_congr_of_inv (I := fun s ↦ s.owned ≤ vringSize) hroom
    (fun h ↦ (recvStepIn_eq h _).symm) (fun h hs ↦ owned_recvStep_le h hs) evs).symm

end RecvState
