/-
**Natural numbers as doubles.**

A double keeps 53 binary digits of a number, and it ends short of the 1024th power of two.

* `nearest_error` — a number moves by at most half the distance of two doubles.
-/

namespace ComputeHost.Double

/-- The distance of neighbouring doubles where the number lies. -/
def unit (value : Nat) : Nat := 1 <<< (value.log2 - 52)

/-- The double next to the number; of two equally near, the even multiple of their distance. -/
def nearest (value : Nat) : Nat :=
  let below := value / unit value
  let twice := 2 * (value % unit value)
  if unit value < twice || (twice == unit value && below % 2 == 1) then (below + 1) * unit value
  else below * unit value

/-- The least number that is too large for a double: halfway from the largest double to the next
power of two. -/
def overflow : Nat := 1 <<< 1024 - 1 <<< 970

theorem unit_pos (value : Nat) : 0 < unit value := by
  rw [unit, Nat.shiftLeft_eq, Nat.one_mul]
  exact Nat.pow_pos (by decide)

theorem nearest_error (value : Nat) :
    2 * (nearest value - value) ≤ unit value ∧ 2 * (value - nearest value) ≤ unit value := by
  have parts := Nat.div_add_mod value (unit value)
  have short := Nat.mod_lt value (unit_pos value)
  rw [Nat.mul_comm] at parts
  simp only [nearest, Bool.or_eq_true, Bool.and_eq_true, decide_eq_true_eq, beq_iff_eq]
  split
  · rw [Nat.succ_mul (value / unit value)]
    omega
  · omega

end ComputeHost.Double
