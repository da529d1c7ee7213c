/-! Texts up to the case of their ASCII letters. Letters beyond ASCII keep their case, so
names that a protocol compares without case are told apart wherever it tells them apart. -/

namespace ClaimGate.Text

/-- The text with its ASCII letters in lower case. -/
def foldCase (cs : List Char) : List Char := cs.map Char.toLower

/-- The texts differ in the case of ASCII letters at most. -/
def sameFolded (a b : String) : Bool := foldCase a.toList = foldCase b.toList

theorem sameFolded_iff {a b : String} :
    sameFolded a b ↔ foldCase a.toList = foldCase b.toList := by
  simp [sameFolded]

end ClaimGate.Text
