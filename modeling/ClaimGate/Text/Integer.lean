import ClaimGate.Text.Blank

/-! Integers in decimal. Reading takes an optional sign and one or more ASCII
digits, leading zeros included, and nothing else; the value is exact, and the
64-bit readers refuse a value outside their range instead of wrapping it. -/

namespace ClaimGate.Text

/-- One or more ASCII digits, most significant first. -/
def natOfDigits? (cs : List Char) : Option Nat :=
  if cs ≠ [] ∧ cs.all Char.isDigit then some (Nat.ofDigitChars 10 cs 0) else none

def integer? : List Char → Option Int
  | '+' :: ds => (natOfDigits? ds).map (fun n => (n : Int))
  | '-' :: ds => (natOfDigits? ds).map (fun n => -(n : Int))
  | ds => (natOfDigits? ds).map (fun n => (n : Int))

def int64Min : Int := -9223372036854775808
def int64Max : Int := 9223372036854775807

/-- The 64-bit word of an integer that fits one. -/
def int64? (n : Int) : Option Int64 :=
  if int64Min ≤ n ∧ n ≤ int64Max then some (Int64.ofInt n) else none

/-- A 64-bit integer written between blanks. -/
def readId? (s : String) : Option Int64 := (integer? (trim s.toList)).bind int64?

/-- The digits of a natural number, without leading zeros. -/
def natDigits (n : Nat) : List Char := Nat.toDigits 10 n

def intDigits : Int → List Char
  | .ofNat n => natDigits n
  | .negSucc n => '-' :: natDigits (n + 1)

def natText (n : Nat) : String := .ofList (natDigits n)
def intText (n : Int) : String := .ofList (intDigits n)

theorem natDigits_ne_nil (n : Nat) : natDigits n ≠ [] := by
  have := Nat.length_toDigits_pos (b := 10) (n := n)
  intro h
  simp [natDigits] at h

theorem natOfDigits?_natDigits (n : Nat) : natOfDigits? (natDigits n) = some n := by
  have hd : (natDigits n).all Char.isDigit := by
    simp only [List.all_eq_true]
    exact fun c hc => Nat.isDigit_of_mem_toDigits (by decide) (by decide) hc
  rw [natOfDigits?, if_pos ⟨natDigits_ne_nil n, hd⟩]
  simp [natDigits]

theorem int64?_toInt (n : Int64) : int64? n.toInt = some n := by
  have h₁ := n.le_toInt
  have h₂ := n.toInt_lt
  rw [int64?, if_pos ⟨by simp only [int64Min]; omega, by simp only [int64Max]; omega⟩]
  simp

end ClaimGate.Text
