import DriverModules.Lib.Decimal
import DriverModules.Rpmsg.ChannelKeys

/-!
# Names on the bus

Devices of one bus need different names. `rpmsg_register_device` makes the name of a channel from
its service name and its two addresses, `"%s.%d.%d"`, and no longer from its parent, so the names of
two channels are different exactly when they differ in one of these (`channelName_inj`).
`rpmsg_create_channel` looks for duplicates below its own parent only. What a second remote
processor does is therefore decided by `device_register`.

The stack takes the answers of `device_register` from its events. Here they are computed, from the
names the registered devices were given (`NamedStack`); everything else is the stack's.

## Main results, and what each rests on

* `channelName_inj`: a name can be read backwards. Behind a dot there is a number, and in a number
  no dot, so the addresses are what follows the last two (`Decimal.dotted_inj`). The service name
  may have dots of its own, and is compared as `kobject_set_name` has stored it (`kobjName`).
* `step_stack`: the names are an addition, every step is one of the stack.
* `namedInv_of_reachable`: each device has the name of its registration, and no two the same.
  `device_register` refuses a name that is taken, which is all it rests on.
* `channelNames_iff`: an announcement fails for its name exactly when its service name and address
  are taken on some processor (`NamedInv.not_collides_iff`), as the parent is not in the name.
  `channelNames_two_processors` is a run in which two processors announce the same service.
-/

open Transition Decimal

/-- `"virtio_rpmsg"`, the `init_name` of the module's own device. -/
def VIRTIO_RPMSG : List UInt8 :=
  [118, 105, 114, 116, 105, 111, 95, 114, 112, 109, 115, 103]

/-- What `dev_set_name` makes of a text: the name of a kobject has no slash. -/
def kobjName (text : List UInt8) : List UInt8 :=
  text.map fun b ↦ if b = 47 then 33 else b

/-- The name of a channel: `"%s.%d.%d"`, the addresses read as `int`. -/
def channelName (name : List UInt8) (src dst : UInt32) : List UInt8 :=
  kobjName (dotted (dotted name src.toInt32.toInt) dst.toInt32.toInt)

/-- What the allocators answer to the registration of a device. -/
structure RegisterEnv where
  kzalloc : Bool
  /-- `device_register` runs out of memory. -/
  nomem : Bool
  deriving DecidableEq, Repr

/-- What `rpmsg_create_channel` comes to; it returns `NULL` unless the channel was created. -/
inductive ChannelResult
  | known
  | nomem
  | refused (err : Errno)
  | created
  deriving DecidableEq, Repr

/-- The stack, and the names of the registered devices. -/
structure NamedStack where
  stack : Stack
  devName : RpdevId → List UInt8

inductive NamedEvent
  | load (env : RegisterEnv)
  | nsMessage (v : VrpId) (msg : RpmsgNsMsg) (len : ℕ) (env : RegisterEnv)
  /-- `rpmsg_dev_probe` of a driver with an rx callback gives the device the address of its
  endpoint. -/
  | setSrc (r : RpdevId) (src : UInt32)
  /-- Any other event of the stack. -/
  | other (ev : StackEvent)

namespace NamedStack

def init : NamedStack where
  stack := .init
  devName _ := []

/-- A device of the bus has this name. -/
def taken (b : NamedStack) (name : List UInt8) : Bool :=
  (List.range b.stack.next).any fun r ↦ (b.stack.rpdevs r).isSome && b.devName r == name

/-- `rpmsg_register_device`. A device with an `init_name` is renamed by `device_register`. -/
def rpmsgRegisterDevice (b : NamedStack) (rpdev : RpmsgDevice) (initName : Option (List UInt8))
    (nomem : Bool) : Except Errno NamedStack :=
  let name := initName.getD (channelName rpdev.name rpdev.src rpdev.dst)
  if nomem then .error .ENOMEM
  else if b.taken name then .error .EEXIST
  else .ok {
    stack := b.stack.addRpdev rpdev
    devName := Function.update b.devName b.stack.next name }

/-- `rpmsg_create_channel`. -/
def rpmsgCreateChannel (b : NamedStack) (v : VrpId) (chinfo : RpmsgChannelInfo)
    (env : RegisterEnv) : NamedStack × ChannelResult :=
  if (b.stack.rpmsgFindDevice v chinfo).isSome then (b, .known)
  else if env.kzalloc then
    match b.rpmsgRegisterDevice (rpmsgChannel v chinfo) none env.nomem with
    | .error err => (b, .refused err)
    | .ok b => (b, .created)
  else (b, .nomem)

/-- `create_rpmsg_chrdev`. -/
def createRpmsgChrdev (b : NamedStack) (env : RegisterEnv) : NamedStack :=
  if env.kzalloc then
    match b.rpmsgRegisterDevice rpmsgChrdev (some VIRTIO_RPMSG) env.nomem with
    | .error _ => b
    | .ok b => b
  else b

/-- `rpmsg_ns_cb`. -/
def rpmsgNsCb (b : NamedStack) (v : VrpId) (msg : RpmsgNsMsg) (len : ℕ) (env : RegisterEnv) :
    Except Fault NamedStack :=
  if len ≠ RpmsgNsMsg.size then .ok b
  else if msg.flags &&& RPMSG_NS_DESTROY ≠ 0 then
    (b.stack.rpmsgUnregisterDevice v (Stack.nsChinfo msg)).map fun stack ↦ { b with stack }
  else .ok (b.rpmsgCreateChannel v (Stack.nsChinfo msg) env).1

/-- One call into the stack. -/
def step (b : NamedStack) : NamedEvent → Option NamedStack
  | .load env => if b.stack.oops = none then some (b.createRpmsgChrdev env) else none
  | .nsMessage v msg len env =>
    if b.stack.oops = none then
      ((b.stack.vrps v).bind (·.nsEpt)).map fun _ ↦
        match b.rpmsgNsCb v msg len env with
        | .error fault => { b with stack := { b.stack with oops := some fault } }
        | .ok b => b
    else none
  | .setSrc r src =>
    if b.stack.oops = none then
      (b.stack.rpdevs r).map fun rpdev ↦
        { b with stack := b.stack.setRpdev r (some { rpdev with src }) }
    else none
  | .other (.load _) | .other (.nsMessage ..) => none
  | .other ev => (b.stack.step ev).map fun stack ↦ { b with stack }

end NamedStack

/-! ### What a name says -/

theorem kobjName_dotted (front : List UInt8) (z : ℤ) :
    kobjName (dotted front z) = dotted (kobjName front) z := by
  have hslash : ∀ b ∈ ofInt z, (if b = 47 then 33 else b) = b := by
    intro b hb
    refine if_neg ?_
    rintro rfl
    exact notMem_ofInt z (by decide) (by decide) hb
  have hz : (ofInt z).map (fun b ↦ if b = 47 then 33 else b) = ofInt z := by
    rw [List.map_congr_left hslash, List.map_id']
  simp [kobjName, dotted, hz]

theorem toInt_toInt32_inj {a b : UInt32} : a.toInt32.toInt = b.toInt32.toInt ↔ a = b := by
  constructor
  · intro h
    have ha := a.toNat_lt
    have hb := b.toNat_lt
    rw [toInt_toInt32, toInt_toInt32] at h
    refine UInt32.toNat_inj.1 ?_
    split at h <;> split at h <;> omega
  · rintro rfl
    rfl

/-- **The name says the service name and both addresses**, and nothing else: the name up to slashes,
since `dev_set_name` has replaced them. -/
theorem channelName_inj {name name' : List UInt8} {src src' dst dst' : UInt32} :
    channelName name src dst = channelName name' src' dst' ↔
      kobjName name = kobjName name' ∧ src = src' ∧ dst = dst' := by
  simp only [channelName, kobjName_dotted, dotted_inj, toInt_toInt32_inj, and_assoc]

/-- A channel never has the name of the module's own device. -/
theorem channelName_ne_virtio_rpmsg (name : List UInt8) (src dst : UInt32) :
    channelName name src dst ≠ VIRTIO_RPMSG := by
  intro h
  have hdot : 46 ∈ channelName name src dst := by
    rw [channelName, kobjName_dotted]
    simp [dotted]
  rw [h] at hdot
  exact absurd hdot (by decide)

/-! ### The stack under its names -/

namespace NamedStack

variable {b b' : NamedStack} {v : VrpId} {r : RpdevId} {name : List UInt8}

theorem rpmsgRegisterDevice_eq_ok {rpdev : RpmsgDevice} {initName : Option (List UInt8)}
    {nomem : Bool} (h : b.rpmsgRegisterDevice rpdev initName nomem = .ok b') :
    b.taken (initName.getD (channelName rpdev.name rpdev.src rpdev.dst)) = false ∧
      b' = { stack := b.stack.addRpdev rpdev
             devName := Function.update b.devName b.stack.next
               (initName.getD (channelName rpdev.name rpdev.src rpdev.dst)) } := by
  unfold rpmsgRegisterDevice at h
  dsimp only at h
  split at h
  · cases h
  · split at h
    · cases h
    · next hfree => exact ⟨by simpa using hfree, (Except.ok.inj h).symm⟩

/-- What a step does to the devices and their names. -/
inductive NamedStep (b : NamedStack) : NamedStack → Prop
  /-- A device comes with a name that was free. -/
  | registered (rpdev : RpmsgDevice) (name : List UInt8) : b.taken name = false →
    (rpdev.parent = none ∧ name = VIRTIO_RPMSG ∨
      rpdev.parent ≠ none ∧ name = channelName rpdev.name RPMSG_ADDR_ANY rpdev.dst) →
    NamedStep b { stack := b.stack.addRpdev rpdev
                  devName := Function.update b.devName b.stack.next name }
  /-- Devices go or stay where they are. -/
  | kept (stack : Stack) : (∀ {r place}, stack.placeAt r = some place →
    b.stack.placeAt r = some place) → NamedStep b { b with stack }

theorem rpmsgCreateChannel_stack (chinfo : RpmsgChannelInfo) (env : RegisterEnv) :
    (b.rpmsgCreateChannel v chinfo env).1.stack =
      b.stack.rpmsgCreateChannel v chinfo
        (decide ((b.rpmsgCreateChannel v chinfo env).2 = .created)) := by
  unfold rpmsgCreateChannel Stack.rpmsgCreateChannel
  split
  · rfl
  · split
    · split
      · simp
      · next hreg =>
        obtain ⟨-, rfl⟩ := rpmsgRegisterDevice_eq_ok hreg
        simp
    · simp

theorem rpmsgNsCb_stack (msg : RpmsgNsMsg) (len : ℕ) (env : RegisterEnv) :
    (b.rpmsgNsCb v msg len env).map stack =
      b.stack.rpmsgNsCb v msg len
        (decide ((b.rpmsgCreateChannel v (Stack.nsChinfo msg) env).2 = .created)) := by
  unfold rpmsgNsCb Stack.rpmsgNsCb
  split
  · rfl
  · split
    · rcases b.stack.rpmsgUnregisterDevice v (Stack.nsChinfo msg) with fault | s <;> rfl
    · rw [← rpmsgCreateChannel_stack]
      rfl

/-- Nothing is registered, or the device of the chrdev under its name. -/
theorem createRpmsgChrdev_cases (b : NamedStack) (env : RegisterEnv) :
    b.createRpmsgChrdev env = b ∨
      b.taken VIRTIO_RPMSG = false ∧ b.createRpmsgChrdev env =
        { stack := b.stack.addRpdev rpmsgChrdev
          devName := Function.update b.devName b.stack.next VIRTIO_RPMSG } := by
  unfold createRpmsgChrdev
  split
  · split
    · exact .inl rfl
    · next hreg => exact .inr (rpmsgRegisterDevice_eq_ok hreg)
  · exact .inl rfl

/-- **What one call does.** -/
theorem step_cases {ev : NamedEvent} (h : b.step ev = some b') :
    (∃ env, b.stack.oops = none ∧ b' = b.createRpmsgChrdev env) ∨
    (∃ v msg len env, b.stack.oops = none ∧ (∃ e, (b.stack.vrps v).bind (·.nsEpt) = some e) ∧
      b' = match b.rpmsgNsCb v msg len env with
        | .error fault => { b with stack := { b.stack with oops := some fault } }
        | .ok b => b) ∨
    (∃ r rpdev src, b.stack.rpdevs r = some rpdev ∧
      b' = { b with stack := b.stack.setRpdev r (some { rpdev with src }) }) ∨
    ∃ ev' s, (∀ registered, ev' ≠ .load registered) ∧
      (∀ v msg len registered, ev' ≠ .nsMessage v msg len registered) ∧
        b.stack.step ev' = some s ∧ b' = { b with stack := s } := by
  cases ev with
  | load env =>
    obtain ⟨hoops, h⟩ := Option.ite_none_right_eq_some.1 h
    exact .inl ⟨env, hoops, (Option.some.inj h).symm⟩
  | nsMessage v msg len env =>
    obtain ⟨hoops, h⟩ := Option.ite_none_right_eq_some.1 h
    obtain ⟨e, hns, rfl⟩ := Option.map_eq_some_iff.1 h
    exact .inr (.inl ⟨v, msg, len, env, hoops, ⟨e, hns⟩, rfl⟩)
  | setSrc r src =>
    obtain ⟨-, h⟩ := Option.ite_none_right_eq_some.1 h
    obtain ⟨rpdev, hr, rfl⟩ := Option.map_eq_some_iff.1 h
    exact .inr (.inr (.inl ⟨r, rpdev, src, hr, rfl⟩))
  | other ev =>
    unfold step at h
    split at h
    case h_6 hload hns heq =>
      cases heq
      obtain ⟨s, hs, rfl⟩ := Option.map_eq_some_iff.1 h
      exact .inr (.inr (.inr ⟨ev, s, hload, hns, hs, rfl⟩))
    all_goals first | cases h | contradiction

/-- **A step of the named stack is one of the stack**, whose answers it computes, but for a new
`src`. -/
theorem step_stack {ev : NamedEvent} (h : b.step ev = some b') :
    (∃ ev', b.stack.step ev' = some b'.stack) ∨
      ∃ r rpdev src, b.stack.rpdevs r = some rpdev ∧
        b'.stack = b.stack.setRpdev r (some { rpdev with src }) := by
  obtain ⟨env, hoops, rfl⟩ | ⟨v, msg, len, env, hoops, ⟨e, hns⟩, rfl⟩ | ⟨r, rpdev, src, hr, rfl⟩ |
    ⟨ev', s, -, -, hs, rfl⟩ := step_cases h
  · left
    rcases b.createRpmsgChrdev_cases env with hsame | ⟨-, hadded⟩
    · rw [hsame]
      exact ⟨.load false, by simp [Stack.step, Stack.exec, hoops]⟩
    · rw [hadded]
      exact ⟨.load true, by simp [Stack.step, Stack.exec, hoops]⟩
  · let created := (b.rpmsgCreateChannel v (Stack.nsChinfo msg) env).2 = .created
    refine .inl ⟨.nsMessage v msg len (decide created), ?_⟩
    rw [Stack.step, if_pos hoops, Stack.exec, hns, ← rpmsgNsCb_stack msg len env]
    rcases b.rpmsgNsCb v msg len env with fault | b₁ <;> rfl
  · exact .inr ⟨r, rpdev, src, hr, rfl⟩
  · exact .inl ⟨ev', hs⟩

theorem rpmsgCreateChannel_step (chinfo : RpmsgChannelInfo) (env : RegisterEnv)
    (hsrc : chinfo.src = RPMSG_ADDR_ANY) :
    NamedStep b (b.rpmsgCreateChannel v chinfo env).1 := by
  unfold rpmsgCreateChannel
  split
  · exact .kept b.stack id
  · split
    · split
      · exact .kept b.stack id
      · next hreg =>
        obtain ⟨hfree, rfl⟩ := rpmsgRegisterDevice_eq_ok hreg
        exact .registered _ _ hfree (.inr ⟨by simp [rpmsgChannel], by simp [rpmsgChannel, hsrc]⟩)
    · exact .kept b.stack id

theorem rpmsgNsCb_step {msg : RpmsgNsMsg} {len : ℕ} {env : RegisterEnv}
    (h : b.rpmsgNsCb v msg len env = .ok b') : NamedStep b b' := by
  unfold rpmsgNsCb at h
  split at h
  · cases h
    exact .kept b.stack id
  · split at h
    · rcases hun : b.stack.rpmsgUnregisterDevice v (Stack.nsChinfo msg) with fault | s
      · rw [hun] at h
        cases h
      · rw [hun] at h
        cases h
        refine .kept s fun {r place} hr ↦ ?_
        unfold Stack.rpmsgUnregisterDevice at hun
        split at hun
        · cases hun
          exact hr
        · rw [Stack.placeAt_erase (Stack.deviceUnregister_rpdevs hun)] at hr
          exact (Maps.erase_eq_some.1 hr).2
    · cases h
      exact rpmsgCreateChannel_step _ _ rfl

/-- **Every step is one of the two.** -/
theorem namedStep {ev : NamedEvent} (hwf : b.stack.Wf) (h : b.step ev = some b') :
    NamedStep b b' := by
  have hlt : ∀ r rpdev, b.stack.rpdevs r = some rpdev → r < b.stack.next :=
    fun _ _ hr ↦ hwf.tables.rpdev_lt hr
  obtain ⟨env, -, rfl⟩ | ⟨v, msg, len, env, -, -, rfl⟩ | ⟨r, rpdev, src, hr, rfl⟩ |
    ⟨ev', s, hload, hns, hs, rfl⟩ := step_cases h
  · rcases b.createRpmsgChrdev_cases env with hsame | ⟨hfree, hadded⟩
    · rw [hsame]
      exact .kept b.stack id
    · rw [hadded]
      exact .registered _ _ hfree (.inl ⟨rfl, rfl⟩)
  · rcases hcb : b.rpmsgNsCb v msg len env with fault | b₁
    · exact .kept { b.stack with oops := some fault } id
    · exact rpmsgNsCb_step hcb
  · have hplace : (b.stack.setRpdev r (some { rpdev with src })).placeAt = b.stack.placeAt :=
      Stack.placeAt_update hr rfl rfl rfl rfl
    exact .kept _ fun {r place} hr ↦ hplace ▸ hr
  · rcases (Stack.step_eq_some hs).2 with hexec | ⟨fault, rfl⟩
    · by_cases hremove : ∃ v, ev' = .remove v
      · obtain ⟨v, rfl⟩ := hremove
        obtain ⟨vp, -, hremove⟩ := Option.map_eq_some_iff.1 hexec
        exact .kept s fun {r place} hr ↦ ((Stack.rpmsgRemove_placeAt hlt hremove).1 hr).2
      · have hplace := Stack.placeAt_of_exec hexec hload hns fun v hv ↦ hremove ⟨v, hv⟩
        exact .kept s fun {r place} hr ↦ hplace ▸ hr
    · exact .kept { b.stack with oops := some fault } id

/-! ### The names of the registered devices -/

/-- Every registered device has the name of its registration, and no two have the same. -/
structure NamedInv (b : NamedStack) : Prop where
  wf : b.stack.Wf
  named : ∀ {r parent name dst}, b.stack.placeAt r = some (parent, name, dst) →
    parent = none ∧ b.devName r = VIRTIO_RPMSG ∨
      parent ≠ none ∧ b.devName r = channelName name RPMSG_ADDR_ANY dst
  unique : ∀ {r q place place'}, b.stack.placeAt r = some place →
    b.stack.placeAt q = some place' → b.devName r = b.devName q → r = q

theorem placeAt_lt (hwf : b.stack.Wf) {place : Option VrpId × List UInt8 × UInt32}
    (h : b.stack.placeAt r = some place) : r < b.stack.next := by
  obtain ⟨rpdev, hr, -⟩ := Option.map_eq_some_iff.1 h
  exact hwf.tables.rpdev_lt hr

/-- A name is taken when a registered device has it. -/
theorem taken_eq_true (hwf : b.stack.Wf) :
    b.taken name = true ↔ ∃ r place, b.stack.placeAt r = some place ∧ b.devName r = name := by
  simp only [taken, List.any_eq_true, List.mem_range, Bool.and_eq_true, Option.isSome_iff_exists,
    beq_iff_eq]
  constructor
  · rintro ⟨r, -, ⟨rpdev, hr⟩, hname⟩
    exact ⟨r, _, by rw [Stack.placeAt, hr]; rfl, hname⟩
  · rintro ⟨r, place, hr, hname⟩
    obtain ⟨rpdev, hr', -⟩ := Option.map_eq_some_iff.1 hr
    exact ⟨r, placeAt_lt hwf hr, ⟨rpdev, hr'⟩, hname⟩

theorem NamedInv.step {ev : NamedEvent} (h : b.NamedInv) (hstep : b.step ev = some b') :
    b'.NamedInv := by
  have hwf' : b'.stack.Wf := by
    rcases step_stack hstep with ⟨ev', hs⟩ | ⟨r, rpdev, src, hr, hs⟩
    · exact (Stack.outcome_of_step h.wf hs).wf h.wf
    · have hset : Stack.Routine b.stack (b.stack.setRpdev r (some { rpdev with src })) :=
        .setRpdev hr rfl rfl
      exact hs ▸ hset.wf h.wf
  cases namedStep h.wf hstep with
  | kept stack hkeep =>
    exact ⟨hwf', fun hr ↦ h.named (hkeep hr), fun hr hq ↦ h.unique (hkeep hr) (hkeep hq)⟩
  | registered rpdev name hfree hname =>
    have hcase : ∀ {r place}, (b.stack.addRpdev rpdev).placeAt r = some place →
        r = b.stack.next ∧ place = (rpdev.parent, rpdev.name, rpdev.dst) ∨
          r ≠ b.stack.next ∧ b.stack.placeAt r = some place := by
      intro r place hr
      rw [Stack.placeAt_addRpdev] at hr
      rcases Maps.update_eq_some.1 hr with ⟨rfl, hx⟩ | hold
      · exact .inl ⟨rfl, hx.symm⟩
      · exact .inr hold
    -- nobody else has the new name
    have hother : ∀ {q place}, b.stack.placeAt q = some place → b.devName q ≠ name := by
      rintro q place hq rfl
      rw [(taken_eq_true h.wf).2 ⟨q, place, hq, rfl⟩] at hfree
      cases hfree
    have hself : Function.update b.devName b.stack.next name b.stack.next = name :=
      Function.update_self ..
    have hold : ∀ {q}, q ≠ b.stack.next →
        Function.update b.devName b.stack.next name q = b.devName q :=
      fun hq ↦ Function.update_of_ne hq ..
    refine ⟨hwf', fun {r parent name' dst} hr ↦ ?_, fun {r q place place'} hr hq heq ↦ ?_⟩
    · rcases hcase hr with ⟨rfl, hplace⟩ | ⟨hne, hr⟩
      · cases hplace
        simpa [hself] using hname
      · simpa [hold hne] using h.named hr
    · rcases hcase hr with ⟨rfl, -⟩ | ⟨hr', hr⟩ <;> rcases hcase hq with ⟨rfl, -⟩ | ⟨hq', hq⟩
      · rfl
      · exact absurd ((hold hq').symm.trans (heq.symm.trans hself)) (hother hq)
      · exact absurd ((hold hr').symm.trans (heq.trans hself)) (hother hr)
      · exact h.unique hr hq ((hold hr').symm.trans (heq.trans (hold hq')))

theorem namedInv_init : init.NamedInv where
  wf := Stack.wf_init
  named h := by cases h
  unique h := by cases h

theorem namedInv_of_reachable (h : Reachable step init b) : b.NamedInv :=
  h.invariant namedInv_init fun _ hinv _ hstep ↦ hinv.step hstep

/-! ### Collisions -/

/-- `rpmsg_create_channel` fails because of the name, for a channel that `rpmsg_find_device` has not
found on its own processor. -/
def Collides (b : NamedStack) : NamedEvent → Prop
  | .nsMessage v msg len env =>
    len = RpmsgNsMsg.size ∧ msg.flags &&& RPMSG_NS_DESTROY = 0 ∧
      b.stack.rpmsgFindDevice v (Stack.nsChinfo msg) = none ∧
      (b.rpmsgCreateChannel v (Stack.nsChinfo msg) env).2 = .refused .EEXIST
  | _ => False

/-- Where an announcement comes to register a channel, no processor has one of the same service name
and address. -/
def NameFree (b : NamedStack) : NamedEvent → Prop
  | .nsMessage v msg len env =>
    len = RpmsgNsMsg.size → msg.flags &&& RPMSG_NS_DESTROY = 0 →
      b.stack.rpmsgFindDevice v (Stack.nsChinfo msg) = none → env = ⟨true, false⟩ →
      ∀ r w name, b.stack.channelAt r = some (w, name, msg.addr) →
        kobjName name ≠ kobjName (nsKey msg).1
  | _ => True

/-- The answer of `device_register` for a channel that is not known. -/
theorem rpmsgCreateChannel_eq_refused {chinfo : RpmsgChannelInfo} {env : RegisterEnv}
    (hfind : b.stack.rpmsgFindDevice v chinfo = none) :
    (b.rpmsgCreateChannel v chinfo env).2 = .refused .EEXIST ↔
      env = ⟨true, false⟩ ∧
        b.taken (channelName (strn RPMSG_NAME_SIZE chinfo.name) chinfo.src chinfo.dst) = true := by
  rcases henv : b.taken (channelName (strn RPMSG_NAME_SIZE chinfo.name) chinfo.src chinfo.dst) <;>
    rcases env with ⟨- | -, - | -⟩ <;>
      simp [rpmsgCreateChannel, hfind, rpmsgRegisterDevice, rpmsgChannel, henv]

/-- **When a name is taken:** a channel has the same service name and address. -/
theorem NamedInv.taken_iff (h : b.NamedInv) {dst : UInt32} :
    b.taken (channelName name RPMSG_ADDR_ANY dst) = true ↔
      ∃ r w name', b.stack.channelAt r = some (w, name', dst) ∧ kobjName name' = kobjName name := by
  rw [taken_eq_true h.wf]
  constructor
  · rintro ⟨r, ⟨parent, name', dst'⟩, hr, hname⟩
    rcases h.named hr with ⟨-, hown⟩ | ⟨hparent, hchannel⟩
    · exact absurd (hname.symm.trans hown) (channelName_ne_virtio_rpmsg _ _ _)
    · obtain ⟨w, rfl⟩ := Option.ne_none_iff_exists'.1 hparent
      obtain ⟨heq, -, rfl⟩ := channelName_inj.1 (hchannel.symm.trans hname)
      exact ⟨r, w, name', Stack.channelAt_eq_some_iff_placeAt.2 hr, heq⟩
  · rintro ⟨r, w, name', hr, heq⟩
    have hplace := Stack.channelAt_eq_some_iff_placeAt.1 hr
    rcases h.named hplace with ⟨hnone, -⟩ | ⟨-, hchannel⟩
    · cases hnone
    · exact ⟨r, _, hplace, hchannel.trans (channelName_inj.2 ⟨heq, rfl, rfl⟩)⟩

/-- **An announcement collides exactly when its name is not free.** -/
theorem NamedInv.not_collides_iff (h : b.NamedInv) (ev : NamedEvent) :
    ¬ b.Collides ev ↔ b.NameFree ev := by
  cases ev with
  | nsMessage v msg len env =>
    have hname : strn RPMSG_NAME_SIZE (Stack.nsChinfo msg).name = (nsKey msg).1 := by
      rw [Stack.nsChinfo_name, Stack.strn_nsKey]
    have hrefused : b.stack.rpmsgFindDevice v (Stack.nsChinfo msg) = none →
        ((b.rpmsgCreateChannel v (Stack.nsChinfo msg) env).2 = .refused .EEXIST ↔
          env = ⟨true, false⟩ ∧ ∃ r w name, b.stack.channelAt r = some (w, name, msg.addr) ∧
            kobjName name = kobjName (nsKey msg).1) := by
      intro hfind
      rw [rpmsgCreateChannel_eq_refused hfind, hname]
      exact and_congr_right fun _ ↦ h.taken_iff
    constructor
    · intro hnot hlen hflags hfind henv r w name hr heq
      exact hnot ⟨hlen, hflags, hfind, (hrefused hfind).2 ⟨henv, r, w, name, hr, heq⟩⟩
    · rintro hfree ⟨hlen, hflags, hfind, hcol⟩
      obtain ⟨henv, r, w, name, hr, heq⟩ := (hrefused hfind).1 hcol
      exact hfree hlen hflags hfind henv r w name hr heq
  | load | setSrc | other => exact iff_of_true id trivial

/-- **Names tell channels apart up to their parent**: two channels have the same name exactly when
service name and addresses agree; no two registered devices ever have the same; and in a run no
announcement of an unknown channel fails for its name exactly when each finds its service name and
address free on all processors. -/
theorem channelNames_iff (evs : List NamedEvent) :
    (∀ name name' src src' dst dst', channelName name src dst = channelName name' src' dst' ↔
      kobjName name = kobjName name' ∧ src = src' ∧ dst = dst') ∧
    (∀ b, Reachable step init b → ∀ r q place place', b.stack.placeAt r = some place →
      b.stack.placeAt q = some place' → b.devName r = b.devName q → r = q) ∧
    (Meets step (fun b ev ↦ ¬ b.Collides ev) init evs ↔ Meets step NameFree init evs) := by
  refine ⟨fun name name' src src' dst dst' ↦ channelName_inj, fun b hb r q place place' hr hq ↦ ?_,
    ?_⟩
  · exact (namedInv_of_reachable hb).unique hr hq
  · exact meets_congr (fun hb ↦ (namedInv_of_reachable hb).not_collides_iff _) evs

/-- Two remote processors announce the same service at the same address: the second has no such
channel, and cannot get it. -/
theorem channelNames_two_processors :
    ¬ ∀ evs, Meets step (fun b ev ↦ ¬ b.Collides ev) init evs := by
  intro hall
  let probe : NamedEvent := .other (.probe ⟨true, true, 256, some 4096, true, ⟨true, false⟩⟩)
  let announce (v : VrpId) : NamedEvent := .nsMessage v ⟨[97], 61, 0⟩ 40 ⟨true, false⟩
  obtain ⟨b, hb, hread⟩ := Option.map_eq_some_iff.1 (show Option.map
    (fun b : NamedStack ↦ (b.stack.rpmsgFindDevice 2 (Stack.nsChinfo ⟨[97], 61, 0⟩),
      (b.rpmsgCreateChannel 2 (Stack.nsChinfo ⟨[97], 61, 0⟩) ⟨true, false⟩).2))
    (run step init [probe, probe, announce 0]) = some (none, .refused .EEXIST) by decide +kernel)
  obtain ⟨hfind, hcol⟩ := Prod.mk.inj hread
  have hmeets := hall ([probe, probe, announce 0] ++ [announce 2])
  rw [meets_append hb] at hmeets
  exact hmeets.2.1 ⟨rfl, rfl, hfind, hcol⟩

end NamedStack
