import Mathlib.Order.Lattice

/-!
# Clock values

What the stores do with the floats that callers hand over as times: reject those
that are not finite, add, and compare. The floats are a linear order `T` with the
addition of the machine, of which nothing is assumed; `nan` is rejected as the
infinities are, so it needs no value of its own.
-/

namespace VeraMono

structure Clock (T : Type) [LinearOrder T] where
  isFinite : T → Bool
  add : T → T → T
  zero : T
  one : T
  one_finite : isFinite one = true
  one_pos : zero < one

end VeraMono
