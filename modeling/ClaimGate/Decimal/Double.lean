/-! Doubles, the numbers `m * 2 ^ e` with at most 53 significant bits and an exponent that
is not too small, and the double that a decimal number is read as. Its significand and the
power of ten are rounded before they are multiplied or divided, so the double is not always
the nearest one. A number whose double would be infinite is beyond double precision. -/

namespace ClaimGate.Decimal

/-- The number `significand * 10 ^ exponent`. -/
structure Scaled where
  significand : Nat
  exponent : Int
  deriving DecidableEq

/-- The number `mantissa * 2 ^ exponent`. -/
structure Double where
  mantissa : Nat
  exponent : Int
  deriving DecidableEq

/-! ### Rounding -/

/-- The integer nearest to `n / d`; of two equally near ones the even one. -/
def roundDiv (n d : Nat) : Nat :=
  let below := n / d
  let rest := n % d
  if d < 2 * rest || (2 * rest = d && below % 2 = 1) then below + 1 else below

theorem roundDiv_one (n : Nat) : roundDiv n 1 = n := by simp [roundDiv, Nat.mod_one]

/-- The nearest number of at most 53 significant bits; of two equally near ones the one
with an even significand. -/
def roundDouble (n : Nat) : Nat :=
  let unit := Nat.pow 2 (n.log2 - 52)
  roundDiv n unit * unit

theorem roundDouble_of_lt {n : Nat} (h : n < Nat.pow 2 53) : roundDouble n = n := by
  have hl : n.log2 - 52 = 0 := by
    by_cases h₀ : n = 0
    · simp [h₀]
    · have := (Nat.log2_lt h₀).2 h
      omega
  simp [roundDouble, hl, roundDiv_one]

/-- Half a unit in the last place above the greatest double: what is not less rounds to
infinity. -/
def doubleLimit : Nat := Nat.pow 2 1024 - Nat.pow 2 970

/-- The greatest power of ten that is a double. -/
def greatestPower : Nat := 308

namespace Double

def leastExponent : Int := -1074

/-- The greatest `e` such that `2 ^ e` is not more than `n / d`. -/
def binaryOrder (n d : Nat) : Int :=
  let e : Int := n.log2 - d.log2
  if d * Nat.pow 2 e.toNat ≤ n * Nat.pow 2 (-e).toNat then e else e - 1

/-- The double nearest to `n / d`. -/
def nearest (n d : Nat) : Double :=
  let e := max (binaryOrder n d - 52) leastExponent
  let m := roundDiv (n * Nat.pow 2 (-e).toNat) (d * Nat.pow 2 e.toNat)
  if m = Nat.pow 2 53 then ⟨Nat.pow 2 52, e + 1⟩ else ⟨m, e⟩

def divide (x : Double) (d : Nat) : Double :=
  nearest (x.mantissa * Nat.pow 2 x.exponent.toNat) (d * Nat.pow 2 (-x.exponent).toNat)

/-- Divides by `10 ^ n`, by the greatest power as long as `n` is beyond it. -/
def shrink (x : Double) (n : Nat) : Double :=
  if x.mantissa = 0 then x
  else if n ≤ greatestPower then x.divide (roundDouble (Nat.pow 10 n))
  else (x.divide (roundDouble (Nat.pow 10 greatestPower))).shrink (n - greatestPower)
termination_by n
decreasing_by simp only [greatestPower] at *; omega

end Double

namespace Scaled

/-- The number is beyond double precision. A negative power of ten never takes it there. -/
def isBeyond (x : Scaled) : Bool :=
  x.significand ≠ 0 && 0 ≤ x.exponent && (greatestPower < x.exponent ||
    doubleLimit ≤ roundDouble x.significand * roundDouble (Nat.pow 10 x.exponent.toNat))

/-- The double that a number is read as, if it is not beyond double precision. -/
def toDouble (x : Scaled) : Double :=
  let s := roundDouble x.significand
  if s = 0 then ⟨0, 0⟩
  else if x.exponent < 0 then (Double.nearest s 1).shrink (-x.exponent).toNat
  else .nearest (s * roundDouble (Nat.pow 10 x.exponent.toNat)) 1

end Scaled

end ClaimGate.Decimal
