import Mathlib.Algebra.Group.Int

/-!
# C++ integer arithmetic

The servers compute with `int`, a 32-bit two's-complement integer, and compare with
`size_t`, a 64-bit unsigned one.  Signed overflow is undefined in C++; on the machines
these servers run on it wraps, and the model follows that.
-/

namespace ArchitectureCourse

/-- An `int` result reduced to 32 bits, as the hardware leaves it. -/
def wrapInt32 (n : Int) : Int :=
  (n + 2 ^ 31) % 2 ^ 32 - 2 ^ 31

/-- An `int` result that fits in 32 bits is left as it is. -/
theorem wrapInt32_eq_self {n : Int} (hlo : -2 ^ 31 ≤ n) (hhi : n < 2 ^ 31) : wrapInt32 n = n := by
  unfold wrapInt32
  omega

/-- `static_cast<size_t>(n)` for an `int` value `n`. -/
def toSizeT (n : Int) : Nat :=
  (n % 2 ^ 64).toNat

end ArchitectureCourse
