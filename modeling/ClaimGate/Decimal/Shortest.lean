import ClaimGate.Decimal.Double
import ClaimGate.Text.Integer

/-! The written form of a double: of the decimal numbers that round to it one with the
fewest digits, and of these the nearest. Digits are sought on one decimal grid after the
other, from the coarsest on; each grid has two neighbours of the double to try. -/

namespace ClaimGate.Decimal

/-- Compares `a * 10 ^ i` with `b * 2 ^ j`. -/
def compareScaled (a : Nat) (i : Int) (b : Nat) (j : Int) : Ordering :=
  compare (a * Nat.pow 10 i.toNat * Nat.pow 2 (-j).toNat)
    (b * Nat.pow 2 j.toNat * Nat.pow 10 (-i).toNat)

namespace Double

/-! ### Digits -/

/-- The decimal number rounds to the double: it lies between the middles to the doubles on
either side, or is such a middle and the double is even. Below a power of two the doubles
are twice as close. -/
def readsBack (x : Double) (d : Scaled) : Bool :=
  let down := if x.mantissa = Nat.pow 2 52 ∧ leastExponent < x.exponent then 1 else 2
  let low := compareScaled d.significand d.exponent (4 * x.mantissa - down) (x.exponent - 2)
  let high := compareScaled d.significand d.exponent (4 * x.mantissa + 2) (x.exponent - 2)
  let even := x.mantissa % 2 == 0
  (low == .gt || (even && low == .eq)) && (high == .lt || (even && high == .eq))

/-- How often `10 ^ k` goes into the double. -/
def floorOn (x : Double) (k : Int) : Nat :=
  (x.mantissa * Nat.pow 2 x.exponent.toNat * Nat.pow 10 (-k).toNat) /
    (Nat.pow 2 (-x.exponent).toNat * Nat.pow 10 k.toNat)

/-- A power of ten that goes into every double but zero. -/
def finest : Int := -330

/-- The power of ten of the leading digit. -/
def decimalOrder (x : Double) : Int := (Text.natDigits (x.floorOn finest)).length - 1 + finest

/-- The nearest multiple of `10 ^ k` that reads back, if one does. -/
def onGrid? (x : Double) (k : Int) : Option Scaled :=
  let n := x.floorOn k
  match x.readsBack ⟨n, k⟩, x.readsBack ⟨n + 1, k⟩ with
  | false, false => none
  | true, false => some ⟨n, k⟩
  | false, true => some ⟨n + 1, k⟩
  | true, true =>
    match compareScaled (2 * n + 1) k x.mantissa (x.exponent + 1) with
    | .lt => some ⟨n + 1, k⟩
    | .gt => some ⟨n, k⟩
    | .eq => some (if n % 2 = 0 then ⟨n, k⟩ else ⟨n + 1, k⟩)

theorem readsBack_of_onGrid? {x : Double} {k : Int} {d : Scaled} (h : x.onGrid? k = some d) :
    x.readsBack d = true := by
  unfold onGrid? at h
  dsimp only at h
  split at h
  · simp at h
  · simp_all
  · simp_all
  · split at h
    · simp_all
    · simp_all
    · split at h <;> simp_all

/-- The double itself in decimal digits. -/
def exact (x : Double) : Scaled :=
  ⟨x.mantissa * Nat.pow 2 x.exponent.toNat * Nat.pow 5 (-x.exponent).toNat, min x.exponent 0⟩

/-- Seventeen digits are the most that a double needs. -/
def shortest (x : Double) : Scaled :=
  ((List.range 17).findSome? fun n : Nat => x.onGrid? (x.decimalOrder - (n : Int))).getD x.exact

end Double

/-! ### Layout -/

/-- The greatest number of places before the point. -/
def mostPlaces : Int := 16

/-- The greatest number of zeros right behind the point. -/
def mostZeros : Int := 4

/-- The text of an exponent, which always has a sign. -/
def exponentText (e : Int) : List Char := (if e < 0 then '-' else '+') :: Text.natDigits e.natAbs

/-- A number that is not zero, with a point if there is room for it, and else with one
digit before the point and a power of ten. -/
def Scaled.layout (x : Scaled) : List Char :=
  let all := Text.natDigits x.significand
  let ds := (all.reverse.dropWhile (· = '0')).reverse
  let places := all.length + x.exponent
  if 0 < places ∧ places ≤ mostPlaces then
    let whole := ds.take places.toNat
    let fraction := ds.drop places.toNat
    whole ++ List.replicate (places.toNat - whole.length) '0' ++
      '.' :: if fraction.isEmpty then ['0'] else fraction
  else if places ≤ 0 ∧ -mostZeros ≤ places then
    '0' :: '.' :: List.replicate (-places).toNat '0' ++ ds
  else
    let fraction := ds.drop 1
    ds.take 1 ++ (if fraction.isEmpty then [] else '.' :: fraction) ++
      'e' :: exponentText (places - 1)

/-- The text of a double. -/
def Double.text (x : Double) : List Char :=
  if x.mantissa = 0 then ['0', '.', '0'] else x.shortest.layout

end ClaimGate.Decimal
