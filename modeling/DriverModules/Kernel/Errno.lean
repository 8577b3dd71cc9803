import Mathlib.Data.Nat.Notation

/-!
# Error numbers

The error numbers the modelled code returns or passes on, under their names: nothing in it computes
with their values. A function that returns `0` or `-E` is modelled by `Except Errno Unit`, one that
returns a non-negative value or `-E` by `Except Errno` of that value.
-/

/-- The errors the modelled code can return. -/
inductive Errno
  | EPERM | EIO | ENXIO | EAGAIN | ENOMEM | EFAULT | EBUSY | EEXIST | ENODEV | EINVAL | EFBIG
  | ENOSPC | EPIPE | EOVERFLOW | EMSGSIZE | ERESTARTSYS
  deriving DecidableEq, Repr
