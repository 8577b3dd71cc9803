import DriverModules.Hello.Rules

/-!
# What a reader is given

`hello_read` transforms `pInputData` into `pOutputData`, which all readers share, and copies out of
it later. Another reader may transform in between, over as many bytes as it asked for. So each byte
a call delivers is the byte of a single state of `pInputData`, namely the one at the last transform
that reached this byte, the call's own or a later one of another reader (`helloRead_delivers`); the
bytes of one call need not come from one state, and `snapshot_overtaken` delivers the state of
another call.

A log of the transforms runs beside the state. Nothing reads it but the statements.
-/

open Transition Overlay

/-- A transform: the thread, the size it asked for, and `pInputData` at that moment. -/
structure Transform where
  thread : ℕ
  size : ℕ
  input : List UInt8
  deriving DecidableEq, Repr

/-- What a transform writes over the start of `pOutputData`. -/
def Transform.output (tr : Transform) : List UInt8 := (tr.input.take tr.size).map (· + 2)

namespace HelloState

/-- The transform that an event is, if it is one. -/
def transformOf (s : HelloState) : HelloEvent → Option Transform
  | .next t _ =>
    match s.pc t with
    | .readTransform size => some ⟨t, size, s.pInputData⟩
    | _ => none
  | _ => none

/-- One step of the module, with the log of the transforms. -/
def logStep (s : HelloState × List Transform) (ev : HelloEvent) :
    Option (HelloState × List Transform) :=
  (s.1.helloStep ev).map fun s' ↦ (s', s.2 ++ (s.1.transformOf ev).toList)

/-- The module loaded, and nothing transformed. -/
def logInit : HelloState × List Transform := (.init, [])

variable {s s' : HelloState} {log : List Transform} {ev : HelloEvent} {t size : ℕ}
  {snap : List UInt8}

/-- What the log says about the state. -/
structure Logged (log : List Transform) (s : HelloState) : Prop where
  lengthIn : s.pInputData.length = DEV_BUFF_MAX
  size : ∀ t, (s.pc t).size ≤ DEV_BUFF_MAX
  input : ∀ tr ∈ log, tr.input.length = DEV_BUFF_MAX ∧ tr.size ≤ DEV_BUFF_MAX
  output : s.pOutputData = overlayAll Transform.output (.replicate DEV_BUFF_MAX 0) log
  own : ∀ t size snap, s.pc t = .readCopy size snap →
    ∃ before after, log = before ++ ⟨t, size, snap⟩ :: after ∧ ∀ tr ∈ after, tr.thread ≠ t

theorem length_copyFromUser {buf user : List UInt8} {copied : ℕ} (h : size ≤ buf.length) :
    (copyFromUser buf user size copied).length = buf.length := by
  simp only [copyFromUser, List.length_append, List.length_take, List.length_replicate,
    List.length_drop]
  omega

theorem logged_init : Logged [] .init where
  lengthIn := List.length_replicate
  size _ := Nat.zero_le _
  input _ h := absurd h List.not_mem_nil
  output := rfl
  own _ _ _ h := by cases h

/-- A transform of another thread behind the log leaves one's own where it is. -/
theorem own_concat {tr : Transform} (hne : tr.thread ≠ t)
    (h : ∃ before after, log = before ++ ⟨t, size, snap⟩ :: after ∧ ∀ x ∈ after, x.thread ≠ t) :
    ∃ before after, log ++ [tr] = before ++ ⟨t, size, snap⟩ :: after ∧
      ∀ x ∈ after, x.thread ≠ t := by
  obtain ⟨before, after, rfl, hafter⟩ := h
  refine ⟨before, after ++ [tr], by simp, fun x hx ↦ ?_⟩
  rcases List.mem_append.1 hx with hx | hx
  · exact hafter x hx
  · rwa [List.mem_singleton.1 hx]

theorem transformOf_of_acts (h : (s.pc ev.thread).acts = false) : s.transformOf ev = none := by
  rcases ev with ⟨t, user, size⟩ | ⟨t, size⟩ | ⟨t, copied⟩ | ⟨t, signal⟩ | ⟨t, expired⟩
  case next =>
    simp only [transformOf]
    split
    · next hpc =>
      rw [show (HelloEvent.next t copied).thread = t from rfl, hpc] at h
      cases h
    · rfl
  all_goals rfl

/-- A thread that goes on to a place where it is not about to copy out. -/
theorem Logged.goto (h : Logged log s) {p : HelloPc} (hpc : s'.pc = (s.goto t p).pc)
    (hp : ∀ size snap, p ≠ .readCopy size snap) (hsize : p.size ≤ DEV_BUFF_MAX)
    (hin : s'.pInputData.length = DEV_BUFF_MAX) (hout : s'.pOutputData = s.pOutputData) :
    Logged log s' where
  lengthIn := hin
  size u := by
    rw [hpc]
    rcases eq_or_ne u t with rfl | hne
    · rwa [pc_goto_self]
    · rw [pc_goto_of_ne s p hne]
      exact h.size u
  input := h.input
  output := hout.trans h.output
  own u size snap hu := by
    rw [hpc] at hu
    rcases eq_or_ne u t with rfl | hne
    · rw [pc_goto_self] at hu
      exact absurd hu (hp size snap)
    · rw [pc_goto_of_ne s p hne] at hu
      exact h.own u size snap hu

/-- A transform, and the thread on its way to the copy-out. -/
theorem Logged.transform (h : Logged log s) (hpc : s.pc t = .readTransform size) :
    Logged (log ++ [⟨t, size, s.pInputData⟩])
      { s.goto t (.readCopy size s.pInputData) with
        pOutputData := (s.pInputData.take size).map (· + 2) ++ s.pOutputData.drop size
        seen := true } := by
  have hsize : (HelloPc.readTransform size).size ≤ DEV_BUFF_MAX := hpc ▸ h.size t
  rw [HelloPc.size] at hsize
  have hlen : ((s.pInputData.take size).map (· + 2)).length = size := by
    rw [List.length_map, List.length_take, h.lengthIn, Nat.min_eq_left hsize]
  refine ⟨h.lengthIn, fun u ↦ ?_, fun tr htr ↦ ?_, ?_, fun u size' snap hu ↦ ?_⟩
  · show ((s.goto t (.readCopy size s.pInputData)).pc u).size ≤ DEV_BUFF_MAX
    rcases eq_or_ne u t with rfl | hne
    · rwa [pc_goto_self]
    · rw [pc_goto_of_ne s _ hne]
      exact h.size u
  · rcases List.mem_append.1 htr with htr | htr
    · exact h.input tr htr
    · rw [List.mem_singleton.1 htr]
      exact ⟨h.lengthIn, hsize⟩
  · rw [overlayAll_concat, ← h.output, overlay, Transform.output, hlen]
  · rcases eq_or_ne u t with rfl | hne
    · obtain ⟨rfl, rfl⟩ : size = size' ∧ s.pInputData = snap := by
        simpa using (pc_goto_self s (t := u) (.readCopy size s.pInputData)).symm.trans hu
      exact ⟨log, [], rfl, fun _ hx ↦ absurd hx List.not_mem_nil⟩
    · exact own_concat hne.symm (h.own u size' snap ((pc_goto_of_ne s _ hne).symm.trans hu))

theorem Logged.step (h : Logged log s) (hdoes : Does s ev s') :
    Logged (log ++ (s.transformOf ev).toList) s' := by
  have hlog : s.transformOf ev = none → Logged log s' →
      Logged (log ++ (s.transformOf ev).toList) s' := fun hno h' ↦ by
    rwa [hno, Option.toList_none, List.append_nil]
  rcases hdoes with ⟨_, p, q, hacts, hp, hset, hsize⟩ | ⟨t, copied, user, size, hpc⟩ |
    ⟨t, copied, hpc⟩ | ⟨t, copied, size, hpc⟩ | ⟨t, copied, size, hpc⟩
  · refine hlog (transformOf_of_acts hacts) (h.goto rfl (fun _ _ hcopy ↦ ?_) (hsize (h.size _))
      h.lengthIn rfl)
    rw [hcopy] at hp
    cases hp
  · have hsize : (HelloPc.writeCopy user size).size ≤ s.pInputData.length := by
      rw [h.lengthIn, ← hpc]
      exact h.size t
    refine hlog (by simp only [transformOf, hpc]) (h.goto rfl (by simp) (Nat.zero_le _) ?_ rfl)
    exact (length_copyFromUser hsize).trans h.lengthIn
  · exact hlog (by simp only [transformOf, hpc])
      (h.goto rfl (by simp) (Nat.zero_le _) h.lengthIn rfl)
  · have hsize : (HelloPc.readClear size).size ≤ DEV_BUFF_MAX := hpc ▸ h.size t
    exact hlog (by simp only [transformOf, hpc]) (h.goto rfl (by simp) hsize h.lengthIn rfl)
  · simp only [transformOf, hpc]
    exact h.transform hpc

theorem logged_of_reachable (h : Reachable logStep logInit (s, log)) : Logged log s :=
  h.invariant (P := fun x ↦ Logged x.2 x.1) logged_init fun _ hs _ hstep ↦ by
    obtain ⟨s₁, hs₁, heq⟩ := Option.map_eq_some_iff.1 hstep
    subst heq
    exact hs.step (helloStep_does hs₁)

/-! ### The copy-out -/

theorem Transform.getElem?_output {tr : Transform} {i : ℕ} (hi : i < tr.output.length) :
    tr.output[i]? = tr.input[i]?.map (· + 2) := by
  rw [Transform.output, List.length_map, List.length_take] at hi
  rw [Transform.output, List.getElem?_map, List.getElem?_take_of_lt (by omega)]

/-- **What a call delivers.** Byte `i` is byte `i` of what `pInputData` was at the last transform
that reached it, from the call's own transform on, plus 2; when nobody else has transformed since,
all the bytes are of the call's own state. -/
theorem helloRead_delivers (s : HelloState) (log : List Transform)
    (h : Reachable logStep logInit (s, log)) (t size : ℕ) (snap : List UInt8)
    (hpc : s.pc t = .readCopy size snap) (copied : ℕ) :
    ∃ before after user, log = before ++ ⟨t, size, snap⟩ :: after ∧
      (∀ tr ∈ after, tr.thread ≠ t) ∧
      (∃ s', s.helloStep (.next t copied) = some s' ∧ s'.pc t = .returned 0 user) ∧
      user.length = min copied size ∧
      (∀ i < user.length, ∃ tr,
        lastOver Transform.output i (⟨t, size, snap⟩ :: after) = some tr ∧
          user[i]? = tr.input[i]?.map (· + 2)) ∧
      (after = [] → user = ((snap.take size).map (· + 2)).take copied) := by
  have hlogged := logged_of_reachable h
  obtain ⟨before, after, hlog, hafter⟩ := hlogged.own t size snap hpc
  obtain ⟨hsnap, hsize⟩ := hlogged.input ⟨t, size, snap⟩ (by rw [hlog]; simp)
  have hown : (⟨t, size, snap⟩ : Transform).output.length = size := by
    simp only [Transform.output, List.length_map, List.length_take, hsnap, Nat.min_eq_left hsize]
  have hout : s.pOutputData.length = DEV_BUFF_MAX := by
    rw [hlogged.output, length_overlayAll fun tr htr ↦ ?_, List.length_replicate]
    rw [Transform.output, List.length_map, List.length_take, List.length_replicate]
    exact Nat.le_trans (Nat.min_le_left _ _) (hlogged.input tr htr).2
  have hlen : ((s.pOutputData.take size).take copied).length = min copied size := by
    rw [List.length_take, List.length_take, hout, Nat.min_eq_left hsize]
  refine ⟨before, after, (s.pOutputData.take size).take copied, hlog, hafter, ?_, hlen,
    fun i hi ↦ ?_, ?_⟩
  · simp only [helloStep, next, hpc]
    exact ⟨_, rfl, pc_goto_self s _⟩
  · rw [hlen] at hi
    have hi' : i < (⟨t, size, snap⟩ : Transform).output.length := by omega
    obtain ⟨tr, htr⟩ := Option.ne_none_iff_exists'.1 (lastOver_cons_ne_none hi' after)
    refine ⟨tr, htr, ?_⟩
    rw [List.getElem?_take_of_lt (by omega), List.getElem?_take_of_lt (by omega), hlogged.output,
      getElem?_overlayAll, hlog, lastOver_append_cons hi', htr]
    exact Transform.getElem?_output (mem_of_lastOver htr).2
  · rintro rfl
    rw [hlogged.output, hlog, overlayAll_concat, overlay, List.take_left' hown, Transform.output]

/-- Thread `0` writes two equal bytes. -/
def writeTwo (b : UInt8) : List HelloEvent :=
  [.write 0 [b, b] 2, .next 0 2, .next 0 0, .next 0 0, .next 0 0]

/-- Thread `t` reads `size` bytes, up to its copy-out. -/
def readUpToCopy (t size : ℕ) : List HelloEvent :=
  [.read t size, .next t 0, .next t 0, .next t 0]

/-- A call for two bytes, overtaken by a call for one byte after another write: its first byte is of
the other call's state, its second of its own. -/
theorem helloRead_delivers_torn :
    ∃ (s s' : HelloState) (before after : List Transform),
      s.helloStep (.next 1 2) = some s' ∧ s'.pc 1 = .returned 0 [4, 3] ∧
        Reachable logStep logInit
          (s, before ++ ⟨1, 2, 1 :: 1 :: .replicate 126 0⟩ :: after) ∧
        ∀ i < [(4 : UInt8), 3].length, ∃ tr, lastOver Transform.output i
          (⟨1, 2, 1 :: 1 :: .replicate 126 0⟩ :: after) = some tr ∧
            [(4 : UInt8), 3][i]? = tr.input[i]?.map (· + 2) := by
  obtain ⟨⟨s, log⟩, hs, hstate⟩ := Option.map_eq_some_iff.1 (show Option.map
    (fun x : HelloState × List Transform ↦
      (x.1.pc 1, (x.1.helloStep (.next 1 2)).map fun s' ↦ s'.pc 1)) (run logStep logInit
        (writeTwo 1 ++ readUpToCopy 1 2 ++ writeTwo 2 ++ readUpToCopy 2 1)) =
          some (.readCopy 2 (1 :: 1 :: .replicate 126 0), some (.returned 0 [4, 3])) by
    decide +kernel)
  simp only [Prod.mk.injEq] at hstate
  obtain ⟨hcopy, hnext⟩ := hstate
  have hreach : Reachable logStep logInit (s, log) := reachable_of_run hs
  obtain ⟨before, after, user, rfl, -, ⟨s', hs', huser⟩, -, hbytes, -⟩ :=
    helloRead_delivers s log hreach 1 2 _ hcopy 2
  rw [hs', Option.map_some, huser, Option.some.injEq, HelloPc.returned.injEq] at hnext
  obtain ⟨-, rfl⟩ := hnext
  exact ⟨s, s', before, after, hs', huser, hreach, hbytes⟩

/-- Overtaken by a call for as many bytes, it delivers the other call's state. -/
theorem snapshot_overtaken :
    ¬ ∀ (s : HelloState) (t size : ℕ) (snap : List UInt8) (copied : ℕ) (s' : HelloState),
      Reachable helloStep .init s → s.pc t = .readCopy size snap → size ≤ copied →
      s.helloStep (.next t copied) = some s' →
      s'.pc t = .returned 0 ((snap.take size).map (· + 2)) := by
  intro h
  obtain ⟨s, hs, hstate⟩ := Option.map_eq_some_iff.1 (show Option.map (fun s : HelloState ↦
    (s.pc 1, (s.helloStep (.next 1 2)).map fun s' ↦ s'.pc 1)) (run helloStep .init
      (writeTwo 1 ++ readUpToCopy 1 2 ++ writeTwo 2 ++ readUpToCopy 2 2)) =
        some (.readCopy 2 (1 :: 1 :: .replicate 126 0), some (.returned 0 [4, 4])) by
    decide +kernel)
  simp only [Prod.mk.injEq] at hstate
  obtain ⟨hcopy, hnext⟩ := hstate
  obtain ⟨s', hs', hret⟩ := Option.map_eq_some_iff.1 hnext
  have hown := h s 1 2 _ 2 s' (reachable_of_run hs) hcopy (Nat.le_refl 2) hs'
  rw [hret] at hown
  exact absurd hown (by decide)

end HelloState
