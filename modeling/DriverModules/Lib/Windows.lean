import Mathlib.Data.List.Basic
import Mathlib.Data.Nat.Notation

/-!
# Reaching memory through one window at a time

A component that reaches a large memory through a window of a fixed size asks for a window, reads or
writes through it and closes it again; next to that it can hold one buffer. `step` says when an
event is in order: a window is opened while none is open, an access lies inside the open one, the
one that is closed is the one that is open. A list of events is `Balanced` when it runs from nothing
held to nothing held; then every window that was opened is closed, with nothing but accesses to it
before that (`Balanced.closed`).
-/

namespace Windows

/-- What a component asks for and does. -/
inductive Event
  | take
  | give
  /-- Ask for a window; the answer is where it begins, if there is one. -/
  | map (base : Option ℕ)
  | unmap (base : ℕ)
  /-- Read or write `n` bytes at `p`. -/
  | access (p n : ℕ)
  deriving DecidableEq, Repr

/-- The open window, by where it begins, and whether the buffer is held. -/
structure State where
  window : Option ℕ
  buffer : Bool
  deriving DecidableEq, Repr

def idle : State := ⟨none, false⟩

/-- What an event does to the state, when it is in order; `len` is the length of a window. -/
def step (len : ℕ) (s : State) : Event → Option State
  | .take => if s.buffer then none else some { s with buffer := true }
  | .give => if s.buffer then some { s with buffer := false } else none
  | .map base => if s.window = none then some { s with window := base } else none
  | .unmap base => if s.window = some base then some { s with window := none } else none
  | .access p n =>
    match s.window with
    | some base => if base ≤ p ∧ p + n ≤ base + len then some s else none
    | none => none

/-- All events are in order, and they lead to the state returned. -/
def run (len : ℕ) : State → List Event → Option State
  | s, [] => some s
  | s, e :: es => (step len s e).bind fun s' ↦ run len s' es

variable {len base p n : ℕ} {s s' : State} {e : Event} {es fs : List Event} {held : Bool}

@[simp] theorem run_nil : run len s [] = some s := rfl

@[simp] theorem run_cons : run len s (e :: es) = (step len s e).bind fun s' ↦ run len s' es := rfl

theorem run_append : run len s (es ++ fs) = (run len s es).bind fun s' ↦ run len s' fs := by
  induction es generalizing s with
  | nil => rfl
  | cons e es ih => simp only [List.cons_append, run_cons, Option.bind_assoc, ih]

/-- The events run from nothing held to nothing held. -/
def Balanced (len : ℕ) (es : List Event) : Prop := run len idle es = some idle

instance : Decidable (Balanced len es) := inferInstanceAs (Decidable (_ = _))

/-- The events leave the buffer alone and close every window they open. -/
def Quiet (len : ℕ) (es : List Event) : Prop :=
  ∀ held, run len ⟨none, held⟩ es = some ⟨none, held⟩

namespace Quiet

theorem nil : Quiet len [] := fun _ ↦ rfl

theorem append (hes : Quiet len es) (hfs : Quiet len fs) : Quiet len (es ++ fs) := fun held ↦ by
  rw [run_append, hes held, Option.bind_some, hfs held]

/-- A window that is not granted. -/
theorem refused : Quiet len [.map none] := fun _ ↦ rfl

/-- A window that is opened, accessed and closed. -/
theorem turn (hle : base ≤ p) (hend : p + n ≤ base + len) :
    Quiet len [.map (some base), .access p n, .unmap base] := fun held ↦ by
  simp [step, hle, hend]

theorem balanced (h : Quiet len es) : Balanced len es := h false

/-- The buffer is held all the time. -/
theorem buffered (h : Quiet len es) : Balanced len (.take :: es ++ [.give]) := by
  rw [Balanced, List.cons_append, run_cons,
    show step len idle .take = some ⟨none, true⟩ from rfl, Option.bind_some, run_append, h true]
  rfl

end Quiet

/-- The event leaves the open window as it is, and reaches memory through it only. -/
def Inside (len base : ℕ) : Event → Prop
  | .access p n => base ≤ p ∧ p + n ≤ base + len
  | .take | .give => True
  | .map _ | .unmap _ => False

/-- As long as a window is open it can only be accessed, until it is closed. -/
theorem step_of_open (h : step len ⟨some base, held⟩ e = some s') :
    e = .unmap base ∨ Inside len base e ∧ ∃ held', s' = ⟨some base, held'⟩ := by
  rcases e with - | - | answer | base' | ⟨p, n⟩
  · rw [step] at h
    split at h
    · cases h
    · exact .inr ⟨trivial, true, (Option.some.inj h).symm⟩
  · rw [step] at h
    split at h
    · exact .inr ⟨trivial, false, (Option.some.inj h).symm⟩
    · cases h
  · cases h
  · rw [step] at h
    split at h
    · next heq => exact .inl (congrArg Event.unmap (Option.some.inj heq).symm)
    · cases h
  · simp only [step] at h
    split at h
    · next hin => exact .inr ⟨hin, held, (Option.some.inj h).symm⟩
    · cases h

theorem closed_of_run (h : run len ⟨some base, held⟩ es = some idle) :
    ∃ acc rest, es = acc ++ .unmap base :: rest ∧ ∀ e ∈ acc, Inside len base e := by
  induction es generalizing held with
  | nil => cases h
  | cons e es ih =>
    obtain ⟨s', hstep, hrun⟩ := Option.bind_eq_some_iff.1 h
    rcases step_of_open hstep with rfl | ⟨hin, held', rfl⟩
    · exact ⟨[], es, rfl, fun _ he ↦ absurd he List.not_mem_nil⟩
    · obtain ⟨acc, rest, rfl, hacc⟩ := ih hrun
      exact ⟨e :: acc, rest, rfl, List.forall_mem_cons.2 ⟨hin, hacc⟩⟩

/-- **Every window that is opened is closed**, with nothing but accesses to it before that. -/
theorem Balanced.closed (h : Balanced len (es ++ .map (some base) :: fs)) :
    ∃ acc rest, fs = acc ++ .unmap base :: rest ∧ ∀ e ∈ acc, Inside len base e := by
  rw [Balanced, run_append] at h
  obtain ⟨s, -, hrun⟩ := Option.bind_eq_some_iff.1 h
  obtain ⟨s', hstep, hrest⟩ := Option.bind_eq_some_iff.1 hrun
  rw [step] at hstep
  split at hstep
  · obtain rfl := Option.some.inj hstep
    exact closed_of_run hrest
  · cases hstep

end Windows
