import DriverModules.Hello.Rules

/-!
# No notification is lost

A writer copies first and sets the flag afterwards; a reader clears the flag first and transforms
afterwards. In this order a clear cannot swallow a newer write: whoever clears the flag still has
its transform ahead, and the transform reads whatever was copied last. The invariant follows the
notification of the last copy from hand to hand (`Notified`), and `notified_of_reachable` holds in
every schedule, however the readers leave their wait.

Unlike the wake-up (`wakeup_lost`), the notification does not depend on anybody being awake.
-/

open Transition

namespace HelloState

variable {s s' : HelloState} {ev : HelloEvent}

/-- The notification of the last copy is on its way, in the flag, with a reader that has taken it,
or delivered. -/
def Notified (s : HelloState) : Prop :=
  s.written = true → s.seen = true ∨ s.enable_read = 1 ∨
    (∃ t size, s.pc t = .readTransform size) ∨ ∃ t, (s.pc t).setAhead = true

theorem Notified.step (h : Notified s) (hdoes : Does s ev s') : Notified s' := by
  rcases hdoes with ⟨_, p, q, hacts, hp, hset, hsize⟩ | ⟨t, copied, user, size, hpc⟩ |
    ⟨t, copied, hpc⟩ | ⟨t, copied, size, hpc⟩ | ⟨t, copied, size, hpc⟩
  · -- nobody leaves a place where he holds the notification
    intro hw
    rcases h hw with hseen | hflag | ⟨u, size, hu⟩ | ⟨u, hu⟩
    · exact .inl hseen
    · exact .inr (.inl hflag)
    · have hne : u ≠ ev.thread := by
        rintro rfl
        rw [hu] at hacts
        cases hacts
      exact .inr (.inr (.inl ⟨u, size, (pc_goto_of_ne s p hne).trans hu⟩))
    · refine .inr (.inr (.inr ⟨u, ?_⟩))
      show ((s.goto ev.thread p).pc u).setAhead = true
      rcases eq_or_ne u ev.thread with rfl | hne
      · rw [pc_goto_self]
        exact hset hu
      · rwa [pc_goto_of_ne s p hne]
  · refine fun _ ↦ .inr (.inr (.inr ⟨t, ?_⟩))
    show ((s.goto t .writeWake).pc t).setAhead = true
    rw [pc_goto_self]
    rfl
  · exact fun _ ↦ .inr (.inl rfl)
  · exact fun _ ↦ .inr (.inr (.inl ⟨t, size, pc_goto_self s _⟩))
  · exact fun _ ↦ .inl rfl

/-- **No notification is lost**: when something was written and no writer is under way, the flag is
set, or the last copy has been transformed, or a reader that has cleared the flag is to transform it
with its next step. -/
theorem notified_of_reachable (s : HelloState) (h : Reachable helloStep .init s)
    (hwritten : s.written = true) (hidle : ∀ t, (s.pc t).writing = false) :
    s.enable_read = 1 ∨ s.seen = true ∨ ∃ t size, s.pc t = .readTransform size ∧
      ∀ copied, ∃ s', s.helloStep (.next t copied) = some s' ∧ s'.seen = true := by
  have hinv : Notified s := h.invariant (fun hw ↦ Bool.noConfusion hw)
    fun _ hs _ hstep ↦ hs.step (helloStep_does hstep)
  rcases hinv hwritten with hseen | hflag | ⟨t, size, hpc⟩ | ⟨t, hset⟩
  · exact .inr (.inl hseen)
  · exact .inl hflag
  · refine .inr (.inr ⟨t, size, hpc, fun copied ↦ ?_⟩)
    simp only [helloStep, next, hpc]
    exact ⟨_, rfl, rfl⟩
  · have hno := hidle t
    rcases hp : s.pc t <;> rw [hp] at hset hno <;> cases hset <;> cases hno

/-- A reader that has cleared the flag: the notification is with it. -/
theorem notified_of_reachable_taken :
    ∃ s : HelloState, (s.enable_read, s.seen) = (0, false) ∧
      ∃ t size, s.pc t = .readTransform size ∧
        ∀ copied, ∃ s', s.helloStep (.next t copied) = some s' ∧ s'.seen = true := by
  obtain ⟨s, hs, hstate⟩ := Option.map_eq_some_iff.1 (show Option.map
    (fun s : HelloState ↦ (s.enable_read, s.seen, s.written, s.pc 0, s.pc 1)) (run helloStep .init
      [.write 0 [5] 1, .next 0 1, .next 0 0, .next 0 0, .next 0 0, .read 1 1, .next 1 0,
        .next 1 0]) = some (0, false, true, .returned 0 [], .readTransform 1) by decide +kernel)
  simp only [Prod.mk.injEq] at hstate
  obtain ⟨hflag, hseen, hwritten, hpc₀, hpc₁⟩ := hstate
  have hidle : ∀ t, (s.pc t).writing = false :=
    not_writing_of_run hs (by simp [HelloEvent.thread, hpc₀, hpc₁, HelloPc.writing])
  refine ⟨s, by rw [hflag, hseen], ?_⟩
  rcases notified_of_reachable s (reachable_of_run hs) hwritten hidle with hset | hdone | htaken
  · rw [hflag] at hset
    cases hset
  · rw [hseen] at hdone
    cases hdone
  · exact htaken

end HelloState
