/-! Blank characters, trimming, and texts that hold nothing else. A character is
blank when it has the Unicode property White_Space; control characters that
lack the property, such as U+001C, and the zero-width space are not blank. -/

namespace ClaimGate.Text

/-- The White_Space property, as ranges of code points. -/
def isBlank (c : Char) : Bool :=
  let n := c.toNat
  (0x09 ≤ n && n ≤ 0x0D) || n == 0x20 || n == 0x85 || n == 0xA0 || n == 0x1680 ||
    (0x2000 ≤ n && n ≤ 0x200A) || n == 0x2028 || n == 0x2029 || n == 0x202F ||
    n == 0x205F || n == 0x3000

def trimStart (cs : List Char) : List Char := cs.dropWhile isBlank

def trimEnd (cs : List Char) : List Char := (cs.reverse.dropWhile isBlank).reverse

/-- The text without the blanks at its two ends. -/
def trim (cs : List Char) : List Char := trimEnd (trimStart cs)

def trimmed (s : String) : String := .ofList (trim s.toList)

/-- Holds of the empty text and of texts of blanks alone. -/
def allBlank (s : String) : Bool := s.toList.all isBlank

theorem isBlank_of_isWhitespace {c : Char} (h : c.isWhitespace) : isBlank c := by
  simp only [Char.isWhitespace, Bool.or_eq_true, decide_eq_true_eq] at h
  rcases h with ((rfl | rfl) | rfl) | rfl <;> decide

theorem trimStart_eq_nil_iff {cs : List Char} : trimStart cs = [] ↔ ∀ c ∈ cs, isBlank c := by
  induction cs with
  | nil => simp [trimStart]
  | cons c r ih => by_cases h : isBlank c <;> simp_all [trimStart]

theorem trimEnd_eq_nil_iff {cs : List Char} : trimEnd cs = [] ↔ ∀ c ∈ cs, isBlank c := by
  rw [trimEnd, List.reverse_eq_nil_iff]
  exact trimStart_eq_nil_iff.trans (by simp)

theorem trim_eq_nil_iff {cs : List Char} : trim cs = [] ↔ ∀ c ∈ cs, isBlank c := by
  rw [trim, trimEnd_eq_nil_iff]
  induction cs with
  | nil => simp [trimStart]
  | cons c r ih => by_cases h : isBlank c <;> simp_all [trimStart]

theorem trimmed_eq_empty_iff {s : String} : trimmed s = "" ↔ allBlank s := by
  rw [trimmed, allBlank, List.all_eq_true, ← trim_eq_nil_iff, ← String.toList_inj]
  simp

end ClaimGate.Text
