/-!
Non-negative numbers of the binary64 format, as far as sums and products of them need it. A number
is a count of the least positive number 2^-1074, and the numbers near a value are the multiples of
a power of two that leaves the value 53 significant bits. Every operation is exact arithmetic
followed by one rounding to the nearest number, a tie going to the even neighbour. There is no
largest number here: a caller refuses what is too large long before the format would overflow, and
rounding is monotone, so the answer is the same.
-/
namespace DataSource

/-- The whole number nearest to a quotient; a tie goes to the even one. -/
def roundQuotient (numerator denominator : Nat) : Nat :=
  let quotient := numerator / denominator
  let twice := 2 * (numerator % denominator)
  if twice < denominator ∨ (twice = denominator ∧ quotient % 2 = 0) then quotient
  else quotient + 1

/-- A non-negative binary64 number. -/
structure Binary64 where
  /-- How many times 2^-1074 the number is. -/
  steps : Nat
  deriving DecidableEq

namespace Binary64

/-- How many steps make one. -/
def one : Nat := Nat.pow 2 1074

/-- The distance, in steps, between neighbours at the size of a value: 53 bits are significant. -/
def gap (steps : Nat) : Nat :=
  Nat.pow 2 (steps.log2 - 52)

/-- The number nearest to a quotient of steps. -/
def nearest (numerator denominator : Nat) : Binary64 :=
  let width := gap (numerator / denominator)
  ⟨roundQuotient numerator (denominator * width) * width⟩

/-- The number nearest to a quotient. -/
def ofQuotient (numerator denominator : Nat) : Binary64 :=
  nearest (numerator * one) denominator

instance : Zero Binary64 := ⟨⟨0⟩⟩

instance : Add Binary64 := ⟨fun x y => nearest (x.steps + y.steps) 1⟩

instance : Mul Binary64 := ⟨fun x y => nearest (x.steps * y.steps) one⟩

instance : LT Binary64 := ⟨fun x y => x.steps < y.steps⟩

instance (x y : Binary64) : Decidable (x < y) :=
  inferInstanceAs (Decidable (x.steps < y.steps))

/-- The whole number nearest to a number; a tie goes to the even one. -/
def round (x : Binary64) : Nat :=
  roundQuotient x.steps one

end Binary64

/-- A quotient without a remainder is its own nearest whole number. -/
theorem roundQuotient_mul_right (n : Nat) {denominator : Nat} (positive : 0 < denominator) :
    roundQuotient (n * denominator) denominator = n := by
  unfold roundQuotient
  rw [Nat.mul_div_cancel n positive, Nat.mul_mod_left]
  simp [positive]

end DataSource
