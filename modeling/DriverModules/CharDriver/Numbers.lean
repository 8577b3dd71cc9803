import DriverModules.Kernel.DevT

/-!
# The device numbers of the character device modules

`moduleCharDriver`, `moduleCreateCharNode` and `moduleRegistCdev` reserve `DEVICE_MINOR_NUM` numbers
from the minor `numdev_minor` on, and give these back at the end. What lies between goes by another
minor: `reg_init_cdev` and the two calls for the device nodes are given the index of the device,
which begins at 0.

## Main results

* `numbersAgree_iff` says for which parameters the numbers that are reserved, used and given back
  are the same ones, with a major of the caller's and with one the kernel chooses. It rests on what
  a region of two numbers is (`registered_iff`, `allocated_iff`): a major that `MKDEV` loses, as
  4096, is as good as none, and the kernel takes one that `hello_init` does not hear of.
* `region_given_back_iff`: the region that is reserved is the one that is given back, by
  `hello_exit` (`devsOf_unregister`) and by a `hello_init` that fails (`helloInit_of_nomem`), where
  its majors and minors are in range.
-/

open DevT

namespace DevNumbers

def DEVICE_MINOR_NUM : ℕ := 2

/-- The modules with this `hello_init` and `hello_exit`. -/
inductive CharModule
  | moduleCharDriver | moduleCreateCharNode | moduleRegistCdev
  deriving DecidableEq, Repr

/-- The module creates device nodes; the nodes of `moduleRegistCdev` are made by hand. -/
def CharModule.createsNodes : CharModule → Bool
  | moduleCharDriver | moduleCreateCharNode => true
  | moduleRegistCdev => false

/-- The module parameters, two `int`s. -/
structure Params where
  numdev_major : BitVec 32
  numdev_minor : BitVec 32
  deriving DecidableEq, Repr

/-- What the kernel answers to `hello_init`. -/
structure Answers where
  /-- `register_chrdev_region` or `alloc_chrdev_region` succeeds. -/
  region : Bool
  /-- The major the kernel chooses for `alloc_chrdev_region`, and for a `register_chrdev_region`
  without one. -/
  major : DynamicMajor
  my_devices : Bool
  data : ℕ → Bool
  cdevAdd : ℕ → Bool

/-- Every request granted; the major the kernel chooses is 240. -/
def granted : Answers := ⟨true, ⟨240, by decide⟩, true, fun _ ↦ true, fun _ ↦ true⟩

/-- The calls that are given device numbers. -/
inductive Call
  | registerChrdevRegion (first : DevT) (count : ℕ) (chosen : DynamicMajor)
  | allocChrdevRegion (baseminor : BitVec 32) (count : ℕ) (chosen : DynamicMajor)
  | cdevAdd (dev : DevT) (count : ℕ) (ok : Bool)
  | deviceCreate (dev : DevT)
  | cdevDel (dev : DevT) (count : ℕ)
  | deviceDestroy (dev : DevT)
  | unregisterChrdevRegion (first : DevT) (count : ℕ)
  deriving DecidableEq, Repr

/-- The static variables behind a successful `hello_init`. -/
structure Statics where
  numdev_major : BitVec 32
  numdev_minor : BitVec 32
  /-- `my_devices[i].my_cdev.dev`, which `cdev_add` stores. -/
  my_cdev : ℕ → DevT

/-- The variables `num_dev` and `numdev_major` once the region is reserved; what
`alloc_chrdev_region` stores in the first is the `MKDEV` of its major and minor. -/
def region (p : Params) (a : Answers) : DevT × BitVec 32 :=
  if p.numdev_major ≠ 0 then (mkdev p.numdev_major p.numdev_minor, p.numdev_major)
  else
    let num_dev := mkdev a.major p.numdev_minor
    (num_dev, major num_dev)

/-- The call for it. -/
def regionCall (p : Params) (a : Answers) : Call :=
  if p.numdev_major ≠ 0 then
    .registerChrdevRegion (mkdev p.numdev_major p.numdev_minor) DEVICE_MINOR_NUM a.major
  else .allocChrdevRegion p.numdev_minor DEVICE_MINOR_NUM a.major

/-- `reg_init_cdev`, whose result nobody looks at. -/
def regInitCdev (numdev_major : BitVec 32) (a : Answers) (index : ℕ) : Call :=
  .cdevAdd (mkdev numdev_major (.ofNat 32 index)) 1 (a.cdevAdd index)

/-- A turn of the loop of `hello_init`. -/
def initTurn (m : CharModule) (numdev_major : BitVec 32) (a : Answers) (i : ℕ) : List Call :=
  regInitCdev numdev_major a i ::
    if m.createsNodes then [.deviceCreate (mkdev numdev_major (.ofNat 32 i))] else []

/-- The loop of `hello_init` over the devices; it ends in an oops when a buffer is not allocated. -/
def deviceLoop (m : CharModule) (numdev_major : BitVec 32) (a : Answers) :
    List ℕ → Bool × List Call
  | [] => (true, [])
  | i :: is =>
    if a.data i then
      let (alive, calls) := deviceLoop m numdev_major a is
      (alive, initTurn m numdev_major a i ++ calls)
    else (false, [])

/-- `hello_init`: the static variables, when it returns 0, and its calls. -/
def helloInit (m : CharModule) (p : Params) (a : Answers) : Option Statics × List Call :=
  if a.region then
    let numdev_major := (region p a).2
    if a.my_devices then
      let (alive, calls) := deviceLoop m numdev_major a (List.range DEVICE_MINOR_NUM)
      (if alive then
        some ⟨numdev_major, p.numdev_minor, fun i ↦ mkdev numdev_major (.ofNat 32 i)⟩
      else none, regionCall p a :: calls)
    else
      (none, [regionCall p a,
        .unregisterChrdevRegion (mkdev numdev_major p.numdev_minor) DEVICE_MINOR_NUM])
  else (none, [])

/-- A turn of the loop of `hello_exit`. -/
def exitTurn (m : CharModule) (s : Statics) (i : ℕ) : List Call :=
  .cdevDel (s.my_cdev i) 1 ::
    if m.createsNodes then [.deviceDestroy (mkdev s.numdev_major (.ofNat 32 i))] else []

/-- `hello_exit`. -/
def helloExit (m : CharModule) (s : Statics) : List Call :=
  (List.range DEVICE_MINOR_NUM).flatMap (exitTurn m s) ++
    [.unregisterChrdevRegion (mkdev s.numdev_major s.numdev_minor) DEVICE_MINOR_NUM]

/-! ### The numbers of the calls -/

inductive CallKind
  | reserve | add | create | delete | destroy | unregister
  deriving DecidableEq, Repr

namespace Call

def kind : Call → CallKind
  | registerChrdevRegion .. | allocChrdevRegion .. => .reserve
  | cdevAdd .. => .add
  | deviceCreate _ => .create
  | cdevDel .. => .delete
  | deviceDestroy _ => .destroy
  | unregisterChrdevRegion .. => .unregister

/-- The numbers a call is about. -/
def devs : Call → List ChrdevNum
  | registerChrdevRegion first count chosen => (numbers first count).map (registered chosen)
  | allocChrdevRegion baseminor count chosen => allocated chosen baseminor count
  | unregisterChrdevRegion first count => (numbers first count).map num
  | cdevAdd dev count _ | cdevDel dev count => (numbers dev count).map num
  | deviceCreate dev | deviceDestroy dev => [num dev]

/-- The numbers it makes the file operations reachable through. -/
def served : Call → List ChrdevNum
  | cdevAdd dev count true => (numbers dev count).map num
  | _ => []

end Call

/-- The numbers of the calls of one kind. -/
def devsOf (k : CallKind) (calls : List Call) : List ChrdevNum :=
  calls.flatMap fun c ↦ if c.kind = k then c.devs else []

/-- One set of numbers is reserved, used and given back. -/
structure NumbersAgree (m : CharModule) (inits exits : List Call) : Prop where
  added : ∀ n, n ∈ devsOf .add inits ↔ n ∈ devsOf .reserve inits
  created : m.createsNodes = true → ∀ n, n ∈ devsOf .create inits ↔ n ∈ devsOf .reserve inits
  deleted : ∀ n, n ∈ devsOf .delete exits ↔ n ∈ devsOf .reserve inits
  destroyed : m.createsNodes = true → ∀ n, n ∈ devsOf .destroy exits ↔ n ∈ devsOf .reserve inits
  unregistered : ∀ n, n ∈ devsOf .unregister exits ↔ n ∈ devsOf .reserve inits
  /-- No file operation is reachable through another number. -/
  served : ∀ n ∈ inits.flatMap Call.served, n ∈ devsOf .reserve inits

variable {m : CharModule} {p : Params} {a : Answers} {s : Statics} {inits : List Call}

/-- A loop that comes to its end has taken all its turns. -/
theorem deviceLoop_of_alive (m : CharModule) (numdev_major : BitVec 32) (a : Answers) (is : List ℕ)
    (h : (deviceLoop m numdev_major a is).1 = true) :
    (deviceLoop m numdev_major a is).2 = is.flatMap (initTurn m numdev_major a) := by
  induction is with
  | nil => rfl
  | cons i is ih =>
    unfold deviceLoop at h ⊢
    split at h
    · rw [if_pos ‹_›, List.flatMap_cons, ← ih h]
    · cases h

/-- **What a successful `hello_init` has done.** -/
theorem helloInit_eq_some (h : helloInit m p a = (some s, inits)) :
    s = ⟨(region p a).2, p.numdev_minor, fun i ↦ mkdev (region p a).2 (.ofNat 32 i)⟩ ∧
      inits = regionCall p a ::
        (List.range DEVICE_MINOR_NUM).flatMap (initTurn m (region p a).2 a) := by
  have hloop := deviceLoop_of_alive m (region p a).2 a (List.range DEVICE_MINOR_NUM)
  unfold helloInit at h
  split at h
  case isFalse => cases h
  split at h
  case isFalse => cases h
  dsimp only at h
  generalize deviceLoop m (region p a).2 a (List.range DEVICE_MINOR_NUM) = out at h hloop
  obtain ⟨alive, calls⟩ := out
  obtain ⟨hs, rfl⟩ := Prod.mk.inj h
  obtain ⟨halive, hs⟩ := Option.ite_none_right_eq_some.1 hs
  exact ⟨(Option.some.inj hs).symm, congrArg _ (hloop halive)⟩

/-! ### Whose numbers they are -/

/-- The numbers of the devices, from their indices. -/
theorem numbers_mkdev_zero (ma : BitVec 32) :
    (numbers (mkdev ma 0#32) 2).map num = [num (mkdev ma 0#32), num (mkdev ma 1#32)] := by
  rw [numbers_two, mkdev_one, List.map_cons, List.map_cons, List.map_nil]

section turns

variable {M : BitVec 32}

/-- A loop over the devices is about these numbers if each of its turns is about its own. -/
theorem devsOf_turns {k : CallKind} {turn : ℕ → List Call}
    (hturn : ∀ i, devsOf k (turn i) = [num (mkdev M (.ofNat 32 i))]) :
    devsOf k ((List.range DEVICE_MINOR_NUM).flatMap turn) =
      (numbers (mkdev M 0#32) 2).map num := by
  rw [numbers_mkdev_zero, devsOf, List.flatMap_assoc]
  exact (List.flatMap_congr fun i _ ↦ hturn i).trans rfl

/-- The numbers the devices are added with. -/
theorem devsOf_add : devsOf .add ((List.range DEVICE_MINOR_NUM).flatMap (initTurn m M a)) =
    (numbers (mkdev M 0#32) 2).map num :=
  devsOf_turns fun i ↦ by
    cases m <;> simp [devsOf, initTurn, regInitCdev, Call.kind, Call.devs, CharModule.createsNodes,
      numbers_one]

/-- And those of their nodes. -/
theorem devsOf_create (hm : m.createsNodes = true) :
    devsOf .create ((List.range DEVICE_MINOR_NUM).flatMap (initTurn m M a)) =
      (numbers (mkdev M 0#32) 2).map num :=
  devsOf_turns fun i ↦ by simp [devsOf, initTurn, regInitCdev, Call.kind, Call.devs, hm]

/-- The loop reserves nothing. -/
theorem devsOf_reserve_turns :
    devsOf .reserve ((List.range DEVICE_MINOR_NUM).flatMap (initTurn m M a)) = [] := by
  cases m <;> rfl

/-- Only what was added is served. -/
theorem served_subset : ∀ n ∈ ((List.range DEVICE_MINOR_NUM).flatMap (initTurn m M a)).flatMap
    Call.served, n ∈ (numbers (mkdev M 0#32) 2).map num := by
  have hserved : ∀ c : Call, ∀ n ∈ c.served, n ∈ if c.kind = .add then c.devs else [] := by
    intro c n hn
    unfold Call.served at hn
    split at hn
    · exact hn
    · cases hn
  intro n hn
  rw [← devsOf_add (m := m) (a := a)]
  obtain ⟨c, hc, hn⟩ := List.mem_flatMap.1 hn
  exact List.mem_flatMap.2 ⟨c, hc, hserved c n hn⟩

end turns

section exit

variable {M mi : BitVec 32}

/-- Behind its loop `hello_exit` only gives the region back. -/
theorem devsOf_helloExit (k : CallKind) (hk : k ≠ .unregister) :
    devsOf k (helloExit m s) = devsOf k ((List.range DEVICE_MINOR_NUM).flatMap (exitTurn m s)) := by
  rw [helloExit, devsOf, List.flatMap_append, List.flatMap_singleton]
  exact (congrArg _ (if_neg hk.symm)).trans (List.append_nil _)

/-- `hello_exit` deletes the devices under the numbers they have. -/
theorem devsOf_delete : devsOf .delete (helloExit m ⟨M, mi, fun i ↦ mkdev M (.ofNat 32 i)⟩) =
    (numbers (mkdev M 0#32) 2).map num := by
  rw [devsOf_helloExit .delete nofun]
  refine devsOf_turns fun i ↦ ?_
  cases m <;> simp [devsOf, exitTurn, Call.kind, Call.devs, CharModule.createsNodes, numbers_one]

theorem devsOf_destroy (hm : m.createsNodes = true) :
    devsOf .destroy (helloExit m ⟨M, mi, fun i ↦ mkdev M (.ofNat 32 i)⟩) =
      (numbers (mkdev M 0#32) 2).map num := by
  rw [devsOf_helloExit .destroy nofun]
  exact devsOf_turns fun i ↦ by simp [devsOf, exitTurn, Call.kind, Call.devs, hm]

/-- It gives back the region from the minor parameter on. -/
theorem devsOf_unregister :
    devsOf .unregister (helloExit m ⟨M, mi, fun i ↦ mkdev M (.ofNat 32 i)⟩) =
      (numbers (mkdev M mi) 2).map num := by
  cases m <;> simp [devsOf, helloExit, exitTurn, Call.kind, Call.devs, CharModule.createsNodes,
    DEVICE_MINOR_NUM, List.range_succ]

end exit

section regionCall

variable {calls : List Call}

/-- The region is the one call for it. -/
theorem devsOf_reserve (hcalls : devsOf .reserve calls = []) :
    devsOf .reserve (regionCall p a :: calls) = (regionCall p a).devs := by
  have hcall : (regionCall p a).kind = .reserve := by
    unfold regionCall
    split <;> rfl
  rw [devsOf, List.flatMap_cons, if_pos hcall]
  exact (congrArg _ hcalls).trans (List.append_nil _)

/-- And it is for nothing else. -/
theorem devsOf_regionCall (k : CallKind) (hk : k ≠ .reserve) :
    devsOf k (regionCall p a :: calls) = devsOf k calls := by
  have hcall : (regionCall p a).kind ≠ k := by
    unfold regionCall
    split <;> exact hk.symm
  rw [devsOf, List.flatMap_cons, if_neg hcall]
  rfl

theorem served_regionCall :
    (regionCall p a :: calls).flatMap Call.served = calls.flatMap Call.served := by
  unfold regionCall
  split <;> rfl

end regionCall

/-- The majors and minors of the region are what their `dev_t` says. -/
def InRange (p : Params) : Prop :=
  if p.numdev_major ≠ 0 then
    ∀ n ∈ numbers (mkdev p.numdev_major p.numdev_minor) DEVICE_MINOR_NUM, major n ≠ 0#32
  else p.numdev_minor.toNat + 1 < 2 ^ MINORBITS

instance : DecidablePred InRange := fun _ ↦ inferInstanceAs (Decidable (ite _ _ _))

/-- **The region that is given back** is the one that was reserved exactly when it is in range. -/
theorem region_given_back_iff (p : Params) (a : Answers) :
    (∀ n, n ∈ (numbers (mkdev (region p a).2 p.numdev_minor) 2).map num ↔
      n ∈ (regionCall p a).devs) ↔ InRange p := by
  unfold region regionCall InRange
  split
  · exact given_back_registered_iff
  · exact given_back_allocated_iff

/-- A `hello_init` that gets no memory gives the same region back. -/
theorem helloInit_of_nomem (hregion : a.region = true) (hnomem : a.my_devices = false) :
    (helloInit m p a).1 = none ∧
      ((∀ n, n ∈ devsOf .unregister (helloInit m p a).2 ↔
        n ∈ devsOf .reserve (helloInit m p a).2) ↔ InRange p) := by
  simp only [helloInit, hregion, hnomem, if_true, Bool.false_eq_true, if_false, true_and]
  rw [devsOf_reserve rfl, devsOf_regionCall .unregister nofun, ← region_given_back_iff p a]
  simp only [devsOf, List.flatMap_cons, List.flatMap_nil, List.append_nil, Call.kind, if_true,
    Call.devs]
  rfl

/-- The region begins with a major: a major of the caller's is there, and not changed by the minor;
with one the kernel chooses, the minor is 0. -/
def Aligned (p : Params) : Prop :=
  if p.numdev_major ≠ 0 then
    major (mkdev p.numdev_major p.numdev_minor) ≠ 0#32 ∧
      mkdev p.numdev_major p.numdev_minor = mkdev p.numdev_major 0#32
  else p.numdev_minor = 0#32

instance : DecidablePred Aligned := fun _ ↦ inferInstanceAs (Decidable (ite _ _ _))

/-- **The devices have the numbers of the region** exactly when it begins with a major. -/
theorem mem_region_iff (p : Params) (a : Answers) :
    (∀ n, n ∈ (numbers (mkdev (region p a).2 0#32) 2).map num ↔ n ∈ (regionCall p a).devs) ↔
      Aligned p := by
  unfold region regionCall Aligned
  split
  · exact registered_iff (minor_mkdev_zero _) major_mkdev_zero
  · exact allocated_iff

/-- Then it is in range. -/
theorem Aligned.inRange (h : Aligned p) : InRange p := by
  rw [← region_given_back_iff p granted]
  intro n
  rw [← (mem_region_iff p granted).2 h n]
  unfold Aligned at h
  unfold region
  split at h
  · next hmajor => rw [if_pos hmajor, h.2]
  · rw [h]

/-- For a major and a minor in range the region begins with a major when the minor is 0. -/
theorem aligned_iff_of_lt (hmajor : p.numdev_major.toNat < 2 ^ 12)
    (hminor : p.numdev_minor.toNat < 2 ^ MINORBITS) : Aligned p ↔ p.numdev_minor = 0#32 := by
  unfold Aligned
  split
  · next hne =>
    rw [major_mkdev hmajor hminor]
    refine (and_iff_right hne).trans ⟨fun h ↦ ?_, fun h ↦ by rw [h]⟩
    have hnat := congrArg BitVec.toNat h
    rw [toNat_mkdev _ hminor, toNat_mkdev _ (by decide)] at hnat
    exact BitVec.eq_of_toNat_eq (Nat.add_left_cancel hnat)
  · exact Iff.rfl

/-- **The numbers agree exactly when the region begins with a major**, for each of the modules and
each way to get one. -/
theorem numbersAgree_iff (m : CharModule) (p : Params) (a : Answers) (s : Statics)
    (inits : List Call) (h : helloInit m p a = (some s, inits)) :
    NumbersAgree m inits (helloExit m s) ↔ Aligned p := by
  obtain ⟨rfl, rfl⟩ := helloInit_eq_some h
  have hreserve := devsOf_reserve (p := p) (a := a)
    (devsOf_reserve_turns (m := m) (M := (region p a).2) (a := a))
  constructor
  · intro hagree
    have hadded := hagree.added
    rw [hreserve, devsOf_regionCall .add nofun, devsOf_add] at hadded
    exact (mem_region_iff p a).1 hadded
  · intro haligned
    have hsame := (mem_region_iff p a).2 haligned
    constructor
    · rwa [hreserve, devsOf_regionCall .add nofun, devsOf_add]
    · intro hm
      rwa [hreserve, devsOf_regionCall .create nofun, devsOf_create hm]
    · rwa [hreserve, devsOf_delete]
    · intro hm
      rwa [hreserve, devsOf_destroy hm]
    · rw [hreserve, devsOf_unregister]
      exact (region_given_back_iff p a).2 haligned.inRange
    · rw [hreserve, served_regionCall]
      exact fun n hn ↦ (hsame n).1 (served_subset n hn)

/-- `MKDEV` loses a major of 4096. -/
example : ¬ Aligned ⟨4096, 0⟩ := by decide

/-- `moduleCharDriver` loaded without parameters. -/
theorem numbersAgree_default :
    ∃ s inits, helloInit .moduleCharDriver ⟨0, 0⟩ granted = (some s, inits) ∧
      NumbersAgree .moduleCharDriver inits (helloExit .moduleCharDriver s) :=
  ⟨_, _, rfl, (numbersAgree_iff .moduleCharDriver ⟨0, 0⟩ granted _ _ rfl).2 (by decide)⟩

/-- With `numdev_minor=5` it reserves the minors 5 and 6, and serves 0 and 1. -/
theorem numbersAgree_minor_five :
    ∃ s inits, helloInit .moduleCharDriver ⟨0, 5⟩ granted = (some s, inits) ∧
      devsOf .reserve inits = [⟨240, 5⟩, ⟨240, 6⟩] ∧
        inits.flatMap Call.served = [⟨240, 0⟩, ⟨240, 1⟩] ∧
          ¬ NumbersAgree .moduleCharDriver inits (helloExit .moduleCharDriver s) := by
  refine ⟨_, _, rfl, by decide, by decide, fun h ↦ ?_⟩
  exact absurd ((h.added ⟨240, 0⟩).1 (by decide)) (by decide)

end DevNumbers
