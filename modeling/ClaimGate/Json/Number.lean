import ClaimGate.Json.Basic
import ClaimGate.Text.Integer

/-! Numbers of a JSON text. A number without fraction and exponent that fits a word of 64
bits is that integer. Of any other the leading digits that fit a word are its significand,
and a power of ten scales them. -/

namespace ClaimGate.Json.Number

/-! ### Significands -/

/-- Significands are less. -/
def significandLimit : Nat := Nat.pow 2 64

/-- The number with a digit put behind it. -/
def push (n : Nat) (digit : Char) : Nat := n * 10 + (digit.toNat - '0'.toNat)

/-- The number with digits put behind it as long as it is a significand, and the digits
that are left. -/
def gather (n : Nat) : List Char → Nat × List Char
  | [] => (n, [])
  | d :: ds => if push n d < significandLimit then gather (push n d) ds else (n, d :: ds)

theorem gather_lt {n : Nat} {ds : List Char} (h : n < significandLimit) :
    (gather n ds).1 < significandLimit := by
  induction ds generalizing n with
  | nil => simpa [gather] using h
  | cons d ds ih =>
    rw [gather]
    split
    next hlt => exact ih hlt
    next => exact h

theorem gather_suffix (n : Nat) (ds : List Char) : (gather n ds).2 <:+ ds := by
  induction ds generalizing n with
  | nil => simp [gather]
  | cons d ds ih =>
    rw [gather]
    split
    · exact (ih _).trans (List.suffix_cons d ds)
    · exact List.suffix_rfl

/-! ### Written numbers -/

/-- The exponent of a number: its sign and its digits. -/
structure Exponent where
  negative : Bool := false
  digits : List Char := []
  deriving DecidableEq

def Exponent.toInt (e : Exponent) : Int :=
  let n : Int := Nat.ofDigitChars 10 e.digits 0
  if e.negative then -n else n

/-- The greatest exponent that is read to its end; the digit that takes an exponent over
it is the last that is read of a number out of range. -/
def greatestExponent : Nat := Nat.pow 2 31 - 1

/-- The parts of a number: a sign, the digits before and after the point, and an exponent. -/
structure Written where
  negative : Bool
  whole : List Char
  fraction : Option (List Char) := none
  exponent : Option Exponent := none
  deriving DecidableEq

namespace Written

/-- The integer of a number that has neither fraction nor exponent. -/
def int? (w : Written) : Option Int :=
  let n : Int := Nat.ofDigitChars 10 w.whole 0
  let value := if w.negative then -n else n
  if w.fraction.isNone && w.exponent.isNone && isInt value && !(w.negative && n == 0) then
    some value
  else none

/-- The significand that is read, and its power of ten. Whole digits that do not fit
count for the power alone; after the point the digits are tried afresh. -/
def scaled (w : Written) : Decimal.Scaled :=
  let (n, uncounted) := gather 0 w.whole
  let fraction := w.fraction.getD []
  let (n, unread) := gather n fraction
  ⟨n, (w.exponent.getD {}).toInt + uncounted.length + unread.length - fraction.length⟩

/-- The value of a number. -/
def toJson (w : Written) : Json :=
  match w.int? with
  | some n => .int n
  | none =>
    if w.scaled.isBeyond then
      let digits := (w.exponent.getD {}).digits
      .garbled (Nat.ofDigitChars 10 digits.dropLast 0 ≤ greatestExponent)
    else .real w.negative w.scaled

end Written

end ClaimGate.Json.Number
