import Mathlib.Data.List.Basic

/-!
# A copy behind a queue of updates

One side changes a value and sends what it did, the other applies what arrives, in that order. The
copy is right when the updates on their way bring it to the value.
-/

namespace Replica

variable {α β : Type*} {apply : β → α → β} {source source' copy copy' : β} {a : α}
  {inFlight sent : List α}

variable (apply source copy inFlight) in
/-- The updates in flight bring the copy to the source. -/
def Tracks : Prop :=
  inFlight.foldl apply copy = source

/-- With nothing in flight the two are equal. -/
theorem tracks_nil : Tracks apply source copy [] ↔ copy = source := Iff.rfl

/-- **Sending**: the copy stays right exactly when what is sent is what has happened. -/
theorem Tracks.append_iff (h : Tracks apply source copy inFlight) :
    Tracks apply source' copy (inFlight ++ sent) ↔ source' = sent.foldl apply source := by
  rw [Tracks, List.foldl_append, h]
  exact eq_comm

/-- **Receiving.** -/
theorem Tracks.receive (h : Tracks apply source copy (a :: inFlight))
    (hcopy : copy' = apply copy a) : Tracks apply source copy' inFlight := by
  rw [hcopy]
  exact h

end Replica
