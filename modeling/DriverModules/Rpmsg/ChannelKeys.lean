import DriverModules.Rpmsg.StackChannels
import Mathlib.Data.List.TakeWhile
import Mathlib.Data.Set.Insert

/-!
# The channels as a set of keys

What the name service is for, said without devices: a remote processor announces services, a service
is known by its name and its address, an announcement adds its key and one with `RPMSG_NS_DESTROY`
takes exactly its own away (`announcedStep`).

`rpmsg_ns_cb` goes through a lookup in which `RPMSG_ADDR_ANY` is a wildcard, and that value is a
number the remote processor may announce. `keyed_iff` says what that costs: the channels are the
announced set exactly as long as nobody announces `RPMSG_ADDR_ANY` under the name of channels that
are there at other addresses only. Where the key is there itself, it is the first of its name
(`ChannelsInv.any`), and the wildcard finds it.

## Main results, and what each rests on

* `keyed_iff`: two hypotheses are about the kernel and not about announcements, that registrations
  succeed and that the stack has not stopped. One announcement is looked at in
  `ChannelsInv.nsMessage_iff`, by the ways it can go (`NsOutcome`), and all other events leave the
  channels of `v` alone or take all away (`ChannelsInv.nsMessage_other`, `ChannelsInv.step_iff`).
* `ChannelsInv` is what the lookups rest on. Its field `key` is half of the law; `any` is why the
  condition can speak about keys and not about the order of the children.
* `oops_of_announcements`: announcements alone never stop the stack, so that for runs of these the
  second hypothesis is free.
-/

open Transition

/-- A service: its name and its address. -/
abbrev ChannelKey := List UInt8 × UInt32

/-- The service an announcement is about; its name ends at the first `NUL`, at the latest at the one
`rpmsg_ns_cb` puts into the last byte. -/
def nsKey (msg : RpmsgNsMsg) : ChannelKey :=
  (strn (RPMSG_NAME_SIZE - 1) msg.name, msg.addr)

/-! ### Names -/

theorem strn_append_zero {n : ℕ} (bytes : List UInt8) :
    strn (n + 1) (bytes.take n ++ [0]) = strn n bytes := by
  have hlen : (bytes.take n ++ [0]).length ≤ n + 1 := by simp
  rw [strn, strn, List.take_of_length_le hlen, List.takeWhile_append]
  split
  · next h =>
    rw [(List.takeWhile_sublist _).eq_of_length h]
    simp
  · rfl

theorem strn_strn {m n : ℕ} (h : m ≤ n) (bytes : List UInt8) :
    strn n (strn m bytes) = strn m bytes := by
  have hlen : (strn m bytes).length ≤ n :=
    (List.takeWhile_sublist _).length_le.trans ((List.length_take_le _ _).trans h)
  rw [strn, List.take_of_length_le hlen, strn, List.takeWhile_idem]

namespace Stack

theorem nsChinfo_name (msg : RpmsgNsMsg) : (nsChinfo msg).name = (nsKey msg).1 :=
  strn_append_zero (n := RPMSG_NAME_SIZE - 1) msg.name

theorem strn_nsKey (msg : RpmsgNsMsg) : strn RPMSG_NAME_SIZE (nsKey msg).1 = (nsKey msg).1 :=
  strn_strn (by decide) msg.name

variable {s s' : Stack} {v w : VrpId} {r q : RpdevId} {name : List UInt8} {dst : UInt32}
  {msg : RpmsgNsMsg} {len : ℕ} {registered : Bool} {K : Set ChannelKey} {ev : StackEvent}

/-! ### Which channel an announcement is about -/

/-- What the lookups rest on: names are cut, a key has one channel, and a channel at
`RPMSG_ADDR_ANY` was there before all others of its name. -/
structure ChannelsInv (s : Stack) : Prop where
  lt : ∀ r rpdev, s.rpdevs r = some rpdev → r < s.next
  clipped : ∀ {r v name dst}, s.channelAt r = some (v, name, dst) →
    strn RPMSG_NAME_SIZE name = name
  key : ∀ {r q v name dst}, s.channelAt r = some (v, name, dst) →
    s.channelAt q = some (v, name, dst) → r = q
  any : ∀ {r q v name dst}, s.channelAt r = some (v, name, RPMSG_ADDR_ANY) →
    s.channelAt q = some (v, name, dst) → r ≤ q

/-- A channel matches when it has the name and, unless `RPMSG_ADDR_ANY` is announced, the
address. -/
theorem ChannelsInv.matches_iff (h : s.ChannelsInv) :
    s.Matches v (nsChinfo msg) r ↔
      ∃ dst, s.channelAt r = some (v, (nsKey msg).1, dst) ∧
        (msg.addr = RPMSG_ADDR_ANY ∨ msg.addr = dst) := by
  have hmatch : ∀ {rpdev}, s.rpdevs r = some rpdev → rpdev.parent = some v →
      (rpmsgDeviceMatch (nsChinfo msg) rpdev = true ↔
        (msg.addr = RPMSG_ADDR_ANY ∨ msg.addr = rpdev.dst) ∧ rpdev.name = (nsKey msg).1) := by
    intro rpdev hr hparent
    have hclip := h.clipped (channelAt_eq_some.2 ⟨rpdev, hr, hparent, rfl, rfl⟩)
    have hsrc : (nsChinfo msg).src = RPMSG_ADDR_ANY := rfl
    have hdst : (nsChinfo msg).dst = msg.addr := rfl
    simp only [rpmsgDeviceMatch, hsrc, hdst, nsChinfo_name, strn_nsKey, hclip, ne_eq,
      not_true_eq_false, false_and, if_false]
    split
    · next hne => simp [hne.1, hne.2]
    · next hor =>
      rw [not_and_or, not_not, not_not] at hor
      have hor' : msg.addr = RPMSG_ADDR_ANY ∨ msg.addr = rpdev.dst := hor
      simp [hor', eq_comm (a := (nsKey msg).1)]
  constructor
  · rintro ⟨rpdev, hr, hparent, hm⟩
    obtain ⟨haddr, hname⟩ := (hmatch hr hparent).1 hm
    exact ⟨rpdev.dst, channelAt_eq_some.2 ⟨rpdev, hr, hparent, hname, rfl⟩, haddr⟩
  · rintro ⟨dst, hr, haddr⟩
    obtain ⟨rpdev, hrpdev, hparent, hname, rfl⟩ := channelAt_eq_some.1 hr
    exact ⟨rpdev, hrpdev, hparent, (hmatch hrpdev hparent).2 ⟨haddr, hname⟩⟩

/-- The lookup finds nothing: the key is free, and under `RPMSG_ADDR_ANY` the whole name is. -/
theorem ChannelsInv.find_eq_none (h : s.ChannelsInv)
    (hfind : s.rpmsgFindDevice v (nsChinfo msg) = none) :
    ∀ r dst, s.channelAt r = some (v, (nsKey msg).1, dst) →
      msg.addr ≠ RPMSG_ADDR_ANY ∧ msg.addr ≠ dst := by
  intro r dst hr
  have hnot := (rpmsgFindDevice_eq_none h.lt).1 hfind r
  rw [h.matches_iff] at hnot
  constructor <;> intro haddr
  · exact hnot ⟨dst, hr, .inl haddr⟩
  · exact hnot ⟨dst, hr, .inr haddr⟩

/-- The lookup finds a channel of the name: the one with the key, if there is one. -/
theorem ChannelsInv.find_eq_some (h : s.ChannelsInv)
    (hfind : s.rpmsgFindDevice v (nsChinfo msg) = some r) :
    ∃ dst, s.channelAt r = some (v, (nsKey msg).1, dst) ∧
      ((∃ q, s.channelAt q = some (v, nsKey msg)) → dst = msg.addr) ∧
      (msg.addr ≠ RPMSG_ADDR_ANY → dst = msg.addr) := by
  obtain ⟨hm, hfirst⟩ := (rpmsgFindDevice_eq_some h.lt).1 hfind
  obtain ⟨dst, hr, haddr⟩ := h.matches_iff.1 hm
  refine ⟨dst, hr, ?_, fun hne ↦ (haddr.resolve_left hne).symm⟩
  rintro ⟨q, hq⟩
  rcases haddr with hany | haddr
  · -- the channel at `RPMSG_ADDR_ANY` matches as well, and is the first of its name
    have hq' : s.channelAt q = some (v, (nsKey msg).1, RPMSG_ADDR_ANY) := by
      rw [hq, nsKey, hany]
    have hle := h.any hq' hr
    have hnlt : ¬ q < r := fun hlt ↦ hfirst q hlt (h.matches_iff.2 ⟨_, hq', .inl hany⟩)
    obtain rfl : q = r := le_antisymm hle (not_lt.1 hnlt)
    rw [hr] at hq
    exact (Prod.mk.inj (Prod.mk.inj (Option.some.inj hq)).2).2
  · exact haddr.symm

/-! ### The invariant -/

/-- Where channels only go away, the invariant stays. -/
theorem ChannelsInv.mono (h : s.ChannelsInv)
    (hlt : ∀ r rpdev, s'.rpdevs r = some rpdev → r < s'.next)
    (hsub : ∀ {r x}, s'.channelAt r = some x → s.channelAt r = some x) : s'.ChannelsInv where
  lt := hlt
  clipped hr := h.clipped (hsub hr)
  key hr hq := h.key (hsub hr) (hsub hq)
  any hr hq := h.any (hsub hr) (hsub hq)

theorem ChannelsInv.channel_lt (h : s.ChannelsInv) {x : VrpId × List UInt8 × UInt32}
    (hr : s.channelAt r = some x) : r < s.next := by
  obtain ⟨v, name, dst⟩ := x
  obtain ⟨rpdev, hrpdev, -⟩ := channelAt_eq_some.1 hr
  exact h.lt r rpdev hrpdev

/-- The channels once one more has been registered. -/
theorem channelAt_created (msg : RpmsgNsMsg) :
    (s.addRpdev (rpmsgChannel v (nsChinfo msg))).channelAt =
      Function.update s.channelAt s.next (some (v, nsKey msg)) := by
  rw [channelAt_addRpdev, nsChinfo_name, strn_nsKey]
  rfl

/-- A channel is registered when the lookup has found none. -/
theorem ChannelsInv.created (h : s.ChannelsInv)
    (hlt : ∀ r rpdev, (s.addRpdev (rpmsgChannel v (nsChinfo msg))).rpdevs r = some rpdev →
      r < s.next + 1)
    (hfind : s.rpmsgFindDevice v (nsChinfo msg) = none) :
    (s.addRpdev (rpmsgChannel v (nsChinfo msg))).ChannelsInv := by
  have hfree := h.find_eq_none hfind
  have hcase : ∀ {q x}, (s.addRpdev (rpmsgChannel v (nsChinfo msg))).channelAt q = some x →
      q = s.next ∧ x = (v, nsKey msg) ∨ q < s.next ∧ s.channelAt q = some x := by
    intro q x hq
    rw [channelAt_created] at hq
    rcases Maps.update_eq_some.1 hq with ⟨rfl, hx⟩ | ⟨-, hq⟩
    · exact .inl ⟨rfl, hx.symm⟩
    · exact .inr ⟨h.channel_lt hq, hq⟩
  constructor
  · exact hlt
  · intro q w name dst hq
    rcases hcase hq with ⟨-, hx⟩ | ⟨-, hq⟩
    · obtain rfl : name = (nsKey msg).1 := congrArg (fun x : VrpId × ChannelKey ↦ x.2.1) hx
      exact strn_nsKey msg
    · exact h.clipped hq
  · intro p q w name dst hp hq
    rcases hcase hp with ⟨hp', hx⟩ | ⟨-, hp⟩ <;> rcases hcase hq with ⟨hq', hy⟩ | ⟨-, hq⟩
    · rw [hp', hq']
    · cases hx
      exact absurd rfl (hfree q _ hq).2
    · cases hy
      exact absurd rfl (hfree p _ hp).2
    · exact h.key hp hq
  · intro p q w name dst hp hq
    rcases hcase hp with ⟨hp', hx⟩ | ⟨hp', hp₀⟩ <;>
      rcases hcase hq with ⟨hq', hy⟩ | ⟨hq', hq₀⟩
    · exact (hp'.trans hq'.symm).le
    · -- the new channel is at `RPMSG_ADDR_ANY`: then its name was free
      obtain ⟨rfl, hkey⟩ := Prod.mk.inj hx
      obtain ⟨rfl, haddr⟩ := Prod.mk.inj hkey
      exact absurd haddr.symm (hfree q _ hq₀).1
    · exact hq'.symm ▸ hp'.le
    · exact h.any hp₀ hq₀

theorem step_eq_some (h : s.step ev = some s') :
    s.oops = none ∧ (s.exec ev = some (.ok s') ∨
      ∃ fault, s' = { s with oops := some fault }) := by
  unfold Stack.step at h
  split at h
  case isFalse => cases h
  case isTrue hoops =>
    obtain ⟨result, hexec, hs'⟩ := Option.map_eq_some_iff.1 h
    rcases result with fault | s₁
    · exact ⟨hoops, .inr ⟨fault, hs'.symm⟩⟩
    · obtain rfl : s₁ = s' := hs'
      exact ⟨hoops, .inl hexec⟩

theorem Wf.rpdevs_next (hwf : s.Wf) : s.rpdevs s.next = none :=
  Option.eq_none_iff_forall_ne_some.2 fun _ hr ↦ lt_irrefl _ (hwf.tables.rpdev_lt hr)

theorem channelAt_destroyed (h : s'.rpdevs = Function.update s.rpdevs r none)
    {x : VrpId × ChannelKey} :
    s'.channelAt q = some x ↔ q ≠ r ∧ s.channelAt q = some x := by
  rw [channelAt_erase (placeAt_erase h)]
  exact Maps.erase_eq_some

/-- **Every event keeps the invariant.** -/
theorem ChannelsInv.step (h : s.ChannelsInv) (hwf : s.Wf) (hstep : s.step ev = some s') :
    s'.ChannelsInv := by
  have hwf' : s'.Wf := (outcome_of_step hwf hstep).wf hwf
  have hlt' : ∀ r rpdev, s'.rpdevs r = some rpdev → r < s'.next :=
    fun _ _ hr ↦ hwf'.tables.rpdev_lt hr
  rcases (step_eq_some hstep).2 with hexec | ⟨fault, rfl⟩
  · have hother : (∀ v msg len registered, ev ≠ .nsMessage v msg len registered) →
        (∀ v, ev ≠ .remove v) → s'.ChannelsInv := fun hns hremove ↦ by
      have heq := channelAt_of_exec hwf.rpdevs_next hexec hns hremove
      exact h.mono hlt' fun hr ↦ heq ▸ hr
    cases ev with
    | nsMessage v msg len registered =>
      obtain ⟨e, -, hcb⟩ := Option.map_eq_some_iff.1 hexec
      cases nsOutcome hcb with
      | malformed | known | refused | absent => exact h
      | created _ _ hfind _ => exact h.created hlt' hfind
      | destroyed r _ _ _ _ hrpdevs =>
        exact h.mono hlt' fun hq ↦ ((channelAt_destroyed hrpdevs).1 hq).2
    | remove v =>
      obtain ⟨vp, -, hremove⟩ := Option.map_eq_some_iff.1 hexec
      exact h.mono hlt' fun hr ↦ ((rpmsgRemove_channelAt h.lt hremove).1 hr).2
    | _ => exact hother nofun nofun
  · exact h.mono hlt' fun hr ↦ hr

theorem channelsInv_init : init.ChannelsInv := by
  constructor <;> intros <;> contradiction

theorem channelsInv_of_reachable (h : Reachable step init s) : s.ChannelsInv :=
  h.invariant channelsInv_init fun hr hinv _ hstep ↦ hinv.step (wf_of_reaches hr) hstep

/-! ### The abstract set -/

/-- The services for which `v` has a channel. -/
def channelKeys (s : Stack) (v : VrpId) : Set ChannelKey :=
  {k | ∃ r, s.channelAt r = some (v, k)}

/-- What an event does to the services of `v`. -/
def announcedStep (v : VrpId) (K : Set ChannelKey) : StackEvent → Set ChannelKey
  | .nsMessage w msg len _ =>
    if w = v ∧ len = RpmsgNsMsg.size then
      if msg.flags &&& RPMSG_NS_DESTROY ≠ 0 then K \ {nsKey msg} else insert (nsKey msg) K
    else K
  | .remove w => if w = v then ∅ else K
  | _ => K

/-- The services of `v` after the events of a run. -/
def announced (v : VrpId) (evs : List StackEvent) : Set ChannelKey :=
  evs.foldl (announcedStep v) ∅

theorem announced_concat (v : VrpId) (evs : List StackEvent) (ev : StackEvent) :
    announced v (evs ++ [ev]) = announcedStep v (announced v evs) ev := by
  simp [announced]

/-- The channels of `v` are the set `K`, one for each key. -/
structure Keyed (s : Stack) (v : VrpId) (K : Set ChannelKey) : Prop where
  agree : s.channelKeys v = K
  unique : ∀ r q k, s.channelAt r = some (v, k) → s.channelAt q = some (v, k) → r = q

theorem ChannelsInv.keyed_iff_agree (h : s.ChannelsInv) : s.Keyed v K ↔ s.channelKeys v = K :=
  ⟨Keyed.agree, fun hK ↦ ⟨hK, fun _ _ _ hr hq ↦ h.key hr hq⟩⟩

/-- `RPMSG_ADDR_ANY` is announced only for a key that is there, or under a name that is not. -/
def AnnouncesExactly (v : VrpId) (s : Stack) : StackEvent → Prop
  | .nsMessage w msg len _ =>
    w = v → len = RpmsgNsMsg.size → msg.addr = RPMSG_ADDR_ANY →
      nsKey msg ∈ s.channelKeys v ∨ ∀ k ∈ s.channelKeys v, k.1 ≠ (nsKey msg).1
  | _ => True

/-- Allocation and device registration succeed. -/
def Registers : StackEvent → Prop
  | .nsMessage _ _ _ registered => registered = true
  | _ => True

/-! ### One announcement -/

/-- Under `RPMSG_ADDR_ANY`, with a channel of the name, the condition is that the key is there. -/
theorem announcesExactly_iff_mem (hr : s.channelAt r = some (v, (nsKey msg).1, dst))
    (haddr : msg.addr = RPMSG_ADDR_ANY) :
    AnnouncesExactly v s (.nsMessage v msg RpmsgNsMsg.size registered) ↔
      nsKey msg ∈ s.channelKeys v := by
  constructor
  · intro hex
    rcases hex rfl rfl haddr with hmem | hnone
    · exact hmem
    · exact absurd rfl (hnone ((nsKey msg).1, dst) ⟨r, hr⟩)
  · exact fun hmem _ _ _ ↦ .inl hmem

theorem announcesExactly_of_ne (haddr : msg.addr ≠ RPMSG_ADDR_ANY) :
    AnnouncesExactly v s (.nsMessage w msg len registered) :=
  fun _ _ hany ↦ absurd hany haddr

/-- A registration adds the key. -/
theorem ChannelsInv.channelKeys_created (h : s.ChannelsInv) (msg : RpmsgNsMsg) :
    (s.addRpdev (rpmsgChannel v (nsChinfo msg))).channelKeys v =
      insert (nsKey msg) (s.channelKeys v) := by
  ext k
  simp only [channelKeys, channelAt_created, Set.mem_ofPred_eq, Set.mem_insert_iff]
  constructor
  · rintro ⟨r, hr⟩
    rcases Maps.update_eq_some.1 hr with ⟨-, hx⟩ | ⟨-, hr⟩
    · cases hx
      exact .inl rfl
    · exact .inr ⟨r, hr⟩
  · rintro (rfl | ⟨r, hr⟩)
    · exact ⟨s.next, by rw [Function.update_self]⟩
    · refine ⟨r, ?_⟩
      rw [Function.update_of_ne (h.channel_lt hr).ne]
      exact hr

/-- The end of a channel takes its key away. -/
theorem ChannelsInv.channelKeys_destroyed (h : s.ChannelsInv)
    (hrpdevs : s'.rpdevs = Function.update s.rpdevs r none) {k₀ : ChannelKey}
    (hr : s.channelAt r = some (v, k₀)) : s'.channelKeys v = s.channelKeys v \ {k₀} := by
  ext k
  simp only [channelKeys, channelAt_destroyed hrpdevs, Set.mem_ofPred_eq, Set.mem_sdiff,
    Set.mem_singleton_iff]
  constructor
  · rintro ⟨q, hne, hq⟩
    exact ⟨⟨q, hq⟩, fun hk ↦ hne (h.key hq (hk ▸ hr))⟩
  · rintro ⟨⟨q, hq⟩, hk⟩
    refine ⟨q, ?_, hq⟩
    rintro rfl
    exact hk (Prod.mk.inj (Option.some.inj (hq.symm.trans hr))).2

/-- **One announcement**: it does to the channels what it does to the set exactly when it announces
no `RPMSG_ADDR_ANY` that stands for other channels. -/
theorem ChannelsInv.nsMessage_iff (h : s.ChannelsInv)
    (hout : NsOutcome s v msg RpmsgNsMsg.size true s') :
    s'.channelKeys v = announcedStep v (s.channelKeys v)
        (.nsMessage v msg RpmsgNsMsg.size registered) ↔
      AnnouncesExactly v s (.nsMessage v msg RpmsgNsMsg.size registered) := by
  have hmem : (∃ q, s.channelAt q = some (v, nsKey msg)) ↔ nsKey msg ∈ s.channelKeys v := Iff.rfl
  have hfreeName : s.rpmsgFindDevice v (nsChinfo msg) = none →
      AnnouncesExactly v s (.nsMessage v msg RpmsgNsMsg.size registered) := by
    intro hfind _ _ haddr
    refine .inr fun k hk hname ↦ ?_
    obtain ⟨r, hr⟩ := hk
    exact (h.find_eq_none hfind r k.2 (hname ▸ hr)).1 haddr
  have hfreeKey : s.rpmsgFindDevice v (nsChinfo msg) = none → nsKey msg ∉ s.channelKeys v := by
    rintro hfind ⟨r, hr⟩
    exact (h.find_eq_none hfind r _ hr).2 rfl
  cases hout with
  | malformed hlen => exact absurd rfl hlen
  | refused _ _ _ hreg => cases hreg
  | known r _ hflags hfind =>
    obtain ⟨dst, hr, hdst, hany⟩ := h.find_eq_some hfind
    have hset : s.channelKeys v = announcedStep v (s.channelKeys v)
        (.nsMessage v msg RpmsgNsMsg.size registered) ↔ nsKey msg ∈ s.channelKeys v := by
      simp [announcedStep, hflags, eq_comm (a := s.channelKeys v)]
    rw [hset]
    rcases eq_or_ne msg.addr RPMSG_ADDR_ANY with haddr | haddr
    · exact (announcesExactly_iff_mem hr haddr).symm
    · exact iff_of_true ⟨r, by rw [hr, hany haddr]; rfl⟩ (announcesExactly_of_ne haddr)
  | created _ hflags hfind _ =>
    refine iff_of_true ?_ (hfreeName hfind)
    simp only [announcedStep, hflags, and_self, if_true, ne_eq, not_true_eq_false, if_false]
    exact h.channelKeys_created msg
  | absent _ hflags hfind =>
    refine iff_of_true ?_ (hfreeName hfind)
    simp only [announcedStep, and_self, if_true, if_pos hflags]
    exact (Set.sdiff_singleton_eq_self (hfreeKey hfind)).symm
  | destroyed r _ _ hflags hfind hrpdevs =>
    obtain ⟨dst, hr, hdst, hany⟩ := h.find_eq_some hfind
    simp only [announcedStep, and_self, if_true, if_pos hflags, h.channelKeys_destroyed hrpdevs hr]
    rcases eq_or_ne dst msg.addr with rfl | hne
    · refine iff_of_true rfl fun _ _ _ ↦ .inl ⟨r, hr⟩
    · -- a channel of the name, at another address, is taken away
      have haddr : msg.addr = RPMSG_ADDR_ANY := by
        by_contra haddr
        exact hne (hany haddr)
      have hnot : nsKey msg ∉ s.channelKeys v := fun hmem ↦ hne (hdst hmem)
      rw [announcesExactly_iff_mem hr haddr]
      refine iff_of_false (fun heq ↦ ?_) hnot
      rw [Set.sdiff_singleton_eq_self hnot] at heq
      have hin : ((nsKey msg).1, dst) ∈ s.channelKeys v := ⟨r, hr⟩
      rw [← heq] at hin
      exact hin.2 rfl

/-! ### Runs -/

theorem channelKeys_congr
    (h : ∀ {r k}, s'.channelAt r = some (v, k) ↔ s.channelAt r = some (v, k)) :
    s'.channelKeys v = s.channelKeys v := by
  ext k
  simp only [channelKeys, h]

/-- Another remote processor's announcement, or none at all. -/
theorem ChannelsInv.nsMessage_other (h : s.ChannelsInv)
    (hother : ¬ (w = v ∧ len = RpmsgNsMsg.size)) (hout : NsOutcome s w msg len registered s') :
    s'.channelKeys v = s.channelKeys v := by
  have hne : len = RpmsgNsMsg.size → w ≠ v := fun hlen hw ↦ hother ⟨hw, hlen⟩
  cases hout with
  | malformed | known | refused | absent => rfl
  | created hlen _ _ _ =>
    refine channelKeys_congr fun {r k} ↦ ?_
    rw [channelAt_created, Maps.update_eq_some]
    constructor
    · rintro (⟨-, hx⟩ | ⟨-, hr⟩)
      · exact absurd (congrArg Prod.fst hx) (hne hlen)
      · exact hr
    · exact fun hr ↦ .inr ⟨(h.channel_lt hr).ne, hr⟩
  | destroyed r _ hlen _ hfind hrpdevs =>
    obtain ⟨dst, hr, -⟩ := h.find_eq_some hfind
    refine channelKeys_congr fun {q k} ↦ ?_
    rw [channelAt_destroyed hrpdevs]
    refine and_iff_right_of_imp ?_
    rintro hq rfl
    exact hne hlen (congrArg Prod.fst (Option.some.inj (hr.symm.trans hq)))

/-- An event after which the stack still runs does to the channels of `v` what it does to the set,
exactly when it meets the condition. -/
theorem ChannelsInv.step_iff (h : s.ChannelsInv) (hwf : s.Wf) (hstep : s.step ev = some s')
    (hoops : s'.oops = none) (hreg : Registers ev) :
    s'.channelKeys v = announcedStep v (s.channelKeys v) ev ↔ AnnouncesExactly v s ev := by
  have hexec : s.exec ev = some (.ok s') := by
    rcases (step_eq_some hstep).2 with hexec | ⟨fault, rfl⟩
    · exact hexec
    · cases hoops
  cases ev with
  | nsMessage w msg len registered =>
    obtain rfl : registered = true := hreg
    obtain ⟨e, -, hcb⟩ := Option.map_eq_some_iff.1 hexec
    have hout := nsOutcome hcb
    by_cases hsame : w = v ∧ len = RpmsgNsMsg.size
    · obtain ⟨rfl, rfl⟩ := hsame
      exact h.nsMessage_iff hout
    · refine iff_of_true ?_ fun hw hlen ↦ absurd ⟨hw, hlen⟩ hsame
      rw [announcedStep, if_neg hsame]
      exact h.nsMessage_other hsame hout
  | remove w =>
    obtain ⟨vp, -, hremove⟩ := Option.map_eq_some_iff.1 hexec
    have hat : ∀ r k, s'.channelAt r = some (v, k) ↔ v ≠ w ∧ s.channelAt r = some (v, k) :=
      fun r k ↦ rpmsgRemove_channelAt h.lt hremove
    refine iff_of_true ?_ trivial
    rw [announcedStep]
    split
    · next hw =>
      subst hw
      exact Set.eq_empty_iff_forall_notMem.2 fun k ⟨r, hr⟩ ↦ ((hat r k).1 hr).1 rfl
    · next hw => exact channelKeys_congr fun {r k} ↦ (hat r k).trans (and_iff_right (Ne.symm hw))
  | _ =>
    have heq := channelAt_of_exec hwf.rpdevs_next hexec nofun nofun
    exact iff_of_true (channelKeys_congr fun {r k} ↦ by rw [heq]) trivial

/-- A stack that runs on has not stopped before. -/
theorem oops_of_run {evs : List StackEvent} (h : run step s evs = some s')
    (hoops : s'.oops = none) : s.oops = none := by
  cases evs with
  | nil =>
    obtain rfl := Option.some.inj h
    exact hoops
  | cons ev evs =>
    obtain ⟨s₁, hstep, -⟩ := Option.bind_eq_some_iff.1 h
    exact (step_eq_some hstep).1

/-- No driver is bound to a channel of `v`. -/
def Undriven (s : Stack) (v : VrpId) : Prop :=
  ∀ r rpdev, s.rpdevs r = some rpdev → rpdev.parent = some v → rpdev.driver = none

theorem Undriven.rpmsgUnregisterDevice (h : s.Undriven v) (chinfo : RpmsgChannelInfo) :
    s.rpmsgUnregisterDevice v chinfo = .ok s ∨
      ∃ r, s.rpmsgUnregisterDevice v chinfo = .ok (s.setRpdev r none) := by
  unfold Stack.rpmsgUnregisterDevice
  split
  · exact .inl rfl
  · next r hfind =>
    obtain ⟨rpdev, hr, hparent⟩ : ∃ rpdev, s.rpdevs r = some rpdev ∧ rpdev.parent = some v := by
      have hmem := (List.mem_filter.1 (List.mem_of_find?_eq_some hfind)).2
      simpa using (Option.any_eq_true _ _).1 hmem
    have hremove : s.rpmsgDevRemove r = .ok s := by
      simp [rpmsgDevRemove, hr, h r rpdev hr hparent]
    exact .inr ⟨r, by rw [deviceUnregister, hremove]; rfl⟩

/-- An announcement to channels without drivers stops nothing, and leaves them without drivers. -/
theorem Undriven.announce (h : s.Undriven v) (hoops : s.oops = none)
    (hstep : s.step (.nsMessage v msg len registered) = some s') :
    s'.oops = none ∧ s'.Undriven v := by
  have hcb : ∃ s₁, s.rpmsgNsCb v msg len registered = .ok s₁ ∧ s₁.oops = none ∧
      s₁.Undriven v := by
    unfold rpmsgNsCb
    split
    · exact ⟨s, rfl, hoops, h⟩
    · split
      · rcases h.rpmsgUnregisterDevice (nsChinfo msg) with heq | ⟨r, heq⟩
        · exact ⟨s, heq, hoops, h⟩
        · exact ⟨_, heq, hoops, fun q rpdev hq ↦ h q rpdev (Maps.erase_eq_some.1 hq).2⟩
      · refine ⟨_, rfl, ?_⟩
        unfold rpmsgCreateChannel
        split
        · exact ⟨hoops, h⟩
        · split
          · refine ⟨hoops, fun q rpdev hq hparent ↦ ?_⟩
            rcases Maps.update_eq_some.1 hq with ⟨-, rfl⟩ | ⟨-, hq⟩
            · rfl
            · exact h q rpdev hq hparent
          · exact ⟨hoops, h⟩
  obtain ⟨s₁, heq, hoops₁, hun⟩ := hcb
  rw [Stack.step, if_pos hoops] at hstep
  obtain ⟨result, hexec, rfl⟩ := Option.map_eq_some_iff.1 hstep
  obtain ⟨e, -, rfl⟩ := Option.map_eq_some_iff.1 hexec
  rw [heq]
  exact ⟨hoops₁, hun⟩

/-- **Announcements alone never stop the stack**: what they take away has no driver. -/
theorem oops_of_announcements {evs : List StackEvent}
    (hevs : ∀ ev ∈ evs, ∃ msg len registered, ev = .nsMessage v msg len registered)
    (hun : s.Undriven v) (hoops : s.oops = none) (h : run step s evs = some s') :
    s'.oops = none := by
  induction evs generalizing s with
  | nil =>
    obtain rfl := Option.some.inj h
    exact hoops
  | cons ev evs ih =>
    obtain ⟨s₁, hstep, hrun⟩ := Option.bind_eq_some_iff.1 h
    obtain ⟨msg, len, registered, rfl⟩ := hevs ev (by simp)
    obtain ⟨hoops₁, hun₁⟩ := hun.announce hoops hstep
    exact ih (fun ev hev ↦ hevs ev (by simp [hev])) hun₁ hoops₁ hrun

/-- **The channels of a remote processor are the services it has announced**, at every moment of a
run, exactly when it never announces `RPMSG_ADDR_ANY` for a key that is not there under a name that
is. -/
theorem keyed_iff (v : VrpId) (evs : List StackEvent) (s : Stack)
    (h : run step init evs = some s) (hoops : s.oops = none) (hreg : ∀ ev ∈ evs, Registers ev) :
    Throughout step (fun evs s ↦ s.Keyed v (announced v evs)) init evs ↔
      Meets step (AnnouncesExactly v) init evs := by
  refine throughout_iff_meets (channelsInv_init.keyed_iff_agree.2 ?_) ?_ h
  · exact Set.eq_empty_iff_forall_notMem.2 fun k ⟨r, hr⟩ ↦ by cases hr
  · intro bs ev s₁ s₂ hpre hrun hkeyed hstep
    have hreach := reachable_of_run hrun
    have hinv := channelsInv_of_reachable hreach
    have hwf := wf_of_reaches hreach
    have hoops₂ : s₂.oops = none := by
      obtain ⟨cs, rfl⟩ := hpre
      rw [run_append, run_append, hrun] at h
      simp only [Option.bind_some, run_cons, run_nil, hstep] at h
      exact oops_of_run h hoops
    have hmem : ev ∈ evs := hpre.subset (by simp)
    rw [(hinv.step hwf hstep).keyed_iff_agree, announced_concat, ← hkeyed.agree]
    exact hinv.step_iff hwf hstep hoops₂ (hreg ev hmem)

/-- Three services announced and one taken back, at addresses of their own. -/
theorem keyed_announced :
    ∃ s, run step init
        [.probe ⟨true, true, 256, some 4096, true, ⟨true, false⟩⟩,
          .nsMessage 0 ⟨[97], 61, 0⟩ 40 true,
          .nsMessage 0 ⟨[97], 62, 0⟩ 40 true, .nsMessage 0 ⟨[98], 61, 0⟩ 40 true,
          .nsMessage 0 ⟨[97], 61, 1⟩ 40 true] = some s ∧
      s.channelsOf 0 = [3, 4] ∧
      Throughout step (fun evs s ↦ s.Keyed 0 (announced 0 evs)) init
        [.probe ⟨true, true, 256, some 4096, true, ⟨true, false⟩⟩,
          .nsMessage 0 ⟨[97], 61, 0⟩ 40 true,
          .nsMessage 0 ⟨[97], 62, 0⟩ 40 true, .nsMessage 0 ⟨[98], 61, 0⟩ 40 true,
          .nsMessage 0 ⟨[97], 61, 1⟩ 40 true] := by
  obtain ⟨s, hs, hread⟩ := Option.map_eq_some_iff.1 (show Option.map
    (fun s : Stack ↦ (s.channelsOf 0, s.oops)) (run step init
      [.probe ⟨true, true, 256, some 4096, true, ⟨true, false⟩⟩, .nsMessage 0 ⟨[97], 61, 0⟩ 40 true,
        .nsMessage 0 ⟨[97], 62, 0⟩ 40 true, .nsMessage 0 ⟨[98], 61, 0⟩ 40 true,
        .nsMessage 0 ⟨[97], 61, 1⟩ 40 true]) = some ([3, 4], none) by decide +kernel)
  obtain ⟨hchannels, hoops⟩ := Prod.mk.inj hread
  refine ⟨s, hs, hchannels, (keyed_iff 0 _ s hs hoops ?_).2 ?_⟩
  · simp [Registers]
  · have hne : ∀ {s name addr flags}, addr ≠ RPMSG_ADDR_ANY →
        AnnouncesExactly 0 s (.nsMessage 0 ⟨name, addr, flags⟩ 40 true) :=
      fun haddr ↦ announcesExactly_of_ne haddr
    exact ⟨trivial, fun _ _ ↦ ⟨hne (by decide), fun _ _ ↦ ⟨hne (by decide), fun _ _ ↦
      ⟨hne (by decide), fun _ _ ↦ ⟨hne (by decide), fun _ _ ↦ trivial⟩⟩⟩⟩⟩

/-- The service `a` is announced at address 61, and then a service `a` at `RPMSG_ADDR_ANY`, which
was never there, is taken back: the channel at 61 is gone. -/
theorem keyed_any_destroyed :
    ¬ ∀ v evs s, run step init evs = some s → s.oops = none → (∀ ev ∈ evs, Registers ev) →
      Throughout step (fun evs s ↦ s.Keyed v (announced v evs)) init evs := by
  intro hall
  obtain ⟨s, hs, hread⟩ := Option.map_eq_some_iff.1 (show Option.map
    (fun s : Stack ↦ (s.channelsOf 0, s.oops)) (run step init
      [.probe ⟨true, true, 256, some 4096, true, ⟨true, false⟩⟩, .nsMessage 0 ⟨[97], 61, 0⟩ 40 true,
        .nsMessage 0 ⟨[97], RPMSG_ADDR_ANY, 1⟩ 40 true]) = some ([], none) by decide +kernel)
  obtain ⟨hchannels, hoops⟩ := Prod.mk.inj hread
  have hagree := (hall 0 _ s hs hoops (by simp [Registers]) _ List.prefix_rfl s hs).agree
  have hlt := (channelsInv_of_reachable (reachable_of_run hs)).lt
  have hmem : (([97], 61) : ChannelKey) ∈ s.channelKeys 0 := by
    rw [hagree]
    simp [announced, announcedStep, nsKey, RpmsgNsMsg.size, RPMSG_NAME_SIZE, RPMSG_NS_DESTROY,
      strn, RPMSG_ADDR_ANY]
  obtain ⟨r, hr⟩ := hmem
  have hlisted := (mem_channelsOf hlt).2 ⟨_, channelAt_eq_some_iff_placeAt.1 hr⟩
  rw [hchannels] at hlisted
  cases hlisted

end Stack
