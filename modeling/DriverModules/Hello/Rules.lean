import DriverModules.Hello.Mailbox
import DriverModules.Lib.Overlay

/-!
# What a step of HELLO_MODULE can do

A step moves one thread. Five kinds of it are told apart, by what they do to the shared fields: the
copy into `pInputData`, the two stores of the flag, the transform, and the quiet ones that change
nothing but the place of the thread and the queue (`helloStep_cases`). What is proved of all runs in
the modules over this one rests on these five.
-/

open Overlay

namespace HelloPc

/-- The size of the call under way. -/
def size : HelloPc → ℕ
  | writeCopy _ size | readFast size | readPrepare size _ | readTest size _ _ | readSchedule size
  | readAsleep size | readClear size | readTransform size | readCopy size _ => size
  | idle | writeWake | writeSet | writeTail | returned .. => 0

/-- A writer that has copied and has the store of the flag still ahead. -/
def setAhead : HelloPc → Bool
  | writeWake | writeSet => true
  | _ => false

/-- The next step changes a shared field. -/
def acts : HelloPc → Bool
  | writeCopy .. | writeSet | readClear _ | readTransform _ => true
  | _ => false

/-- A reader between its store of the flag and its copy-out. -/
def transforming : HelloPc → Bool
  | readTransform _ | readCopy .. => true
  | _ => false

end HelloPc

namespace HelloState

variable {s s' : HelloState} {ev : HelloEvent} {t u : ℕ}

/-- **The kinds of step.** -/
inductive Does (s : HelloState) : HelloEvent → HelloState → Prop
  /-- The thread goes on to `p`, where it is not about to copy out, and the shared fields stay. -/
  | quiet (ev : HelloEvent) (p : HelloPc) (q : ℕ → Bool) (hacts : (s.pc ev.thread).acts = false)
      (hp : p.transforming = false)
      (hset : (s.pc ev.thread).setAhead = true → p.setAhead = true)
      (hsize : (s.pc ev.thread).size ≤ DEV_BUFF_MAX → p.size ≤ DEV_BUFF_MAX) :
    Does s ev { s.goto ev.thread p with myQueue := q }
  | copy (t copied : ℕ) (user : List UInt8) (size : ℕ) (hpc : s.pc t = .writeCopy user size) :
    Does s (.next t copied)
      { s.goto t .writeWake with
        pInputData := copyFromUser s.pInputData user size copied
        written := true
        seen := false }
  | set (t copied : ℕ) (hpc : s.pc t = .writeSet) :
    Does s (.next t copied) { s.goto t .writeTail with enable_read := 1 }
  | clear (t copied size : ℕ) (hpc : s.pc t = .readClear size) :
    Does s (.next t copied) { s.goto t (.readTransform size) with enable_read := 0 }
  | transform (t copied size : ℕ) (hpc : s.pc t = .readTransform size) :
    Does s (.next t copied)
      { s.goto t (.readCopy size s.pInputData) with
        pOutputData := (s.pInputData.take size).map (· + 2) ++ s.pOutputData.drop size
        seen := true }

/-- A thread that only goes on, in the call it is in. -/
theorem Does.of_goto {p p₀ : HelloPc} {q : ℕ → Bool}
    (hs' : { s.goto ev.thread p with myQueue := q } = s') (hpc : s.pc ev.thread = p₀)
    (hacts : p₀.acts = false) (hp : p.transforming = false)
    (hset : p₀.setAhead = true → p.setAhead = true) (hsize : p.size ≤ p₀.size) : Does s ev s' := by
  subst hs' hpc
  exact .quiet ev p q hacts hp hset (Nat.le_trans hsize)

theorem does_of_next {copied : ℕ} (h : s.next t copied = some s') :
    Does s (.next t copied) s' := by
  unfold next at h
  split at h
  case h_1 user size hpc => exact Option.some.inj h ▸ .copy t copied user size hpc
  case h_3 hpc => exact Option.some.inj h ▸ .set t copied hpc
  case h_8 size hpc => exact Option.some.inj h ▸ .clear t copied size hpc
  case h_9 size hpc => exact Option.some.inj h ▸ .transform t copied size hpc
  case h_2 hpc => exact .of_goto (Option.some.inj h) hpc rfl rfl (fun _ ↦ rfl) (Nat.le_refl _)
  case h_4 hpc =>
    exact .of_goto (Option.some.inj h) hpc rfl rfl (fun hw ↦ Bool.noConfusion hw) (Nat.le_refl _)
  case h_5 size hpc =>
    refine .of_goto (Option.some.inj h) hpc rfl ?_ (fun hw ↦ Bool.noConfusion hw) ?_
    · split <;> rfl
    · split <;> exact Nat.le_refl size
  case h_6 size signal expired hpc =>
    have hgo : ∀ {p q}, some { s.goto t p with myQueue := q } = some s' →
        p.transforming = false → p.size ≤ size → Does s (.next t copied) s' := fun hs' hp hsize ↦
      .of_goto (Option.some.inj hs') hpc rfl hp (fun hw ↦ Bool.noConfusion hw) hsize
    split at h
    · exact hgo h rfl (Nat.le_refl size)
    · split at h <;> exact hgo h rfl (Nat.le_refl size)
  case h_7 size hpc =>
    exact .of_goto (Option.some.inj h) hpc rfl rfl (fun hw ↦ Bool.noConfusion hw) (Nat.le_refl _)
  case h_10 size snap hpc =>
    exact .of_goto (Option.some.inj h) hpc rfl rfl (fun hw ↦ Bool.noConfusion hw) (Nat.zero_le _)
  all_goals cases h

theorem HelloPc.of_canCall {p : HelloPc} (h : p.canCall = true) :
    p.acts = false ∧ p.setAhead = false := by
  cases p <;> first | exact ⟨rfl, rfl⟩ | cases h

/-- A call begins, with a size that fits, or is refused. -/
theorem Does.of_call {p : HelloPc} (hcan : (s.pc ev.thread).canCall = true)
    (hs' : s.goto ev.thread p = s') (hp : p.transforming = false) (hsize : p.size ≤ DEV_BUFF_MAX) :
    Does s ev s' := by
  obtain ⟨hacts, hset⟩ := HelloPc.of_canCall hcan
  subst hs'
  exact .quiet ev p s.myQueue hacts hp (fun hw ↦ by rw [hset] at hw; cases hw) fun _ ↦ hsize

/-- **Every step is of one of the kinds.** -/
theorem helloStep_does (h : s.helloStep ev = some s') : Does s ev s' := by
  rcases ev with ⟨t, user, size⟩ | ⟨t, size⟩ | ⟨t, copied⟩ | ⟨t, signal⟩ | ⟨t, expired⟩
  · obtain ⟨hcan, h⟩ := Option.ite_none_right_eq_some.1 h
    refine .of_call hcan (Option.some.inj h) ?_ ?_
    · split <;> rfl
    · split
      · exact Nat.zero_le _
      · next hle => exact Nat.le_of_not_lt hle
  · obtain ⟨hcan, h⟩ := Option.ite_none_right_eq_some.1 h
    refine .of_call hcan (Option.some.inj h) ?_ ?_
    · split <;> rfl
    · split
      · exact Nat.zero_le _
      · next hle => exact Nat.le_of_not_lt hle
  · exact does_of_next h
  · simp only [helloStep] at h
    split at h
    · next size expired hpc =>
      exact .of_goto (Option.some.inj h) hpc rfl rfl (fun hw ↦ Bool.noConfusion hw) (Nat.le_refl _)
    · cases h
  · simp only [helloStep] at h
    split at h
    · next size hpc =>
      exact .of_goto (Option.some.inj h) hpc rfl rfl (fun hw ↦ Bool.noConfusion hw) (Nat.le_refl _)
    · cases h

end HelloState
