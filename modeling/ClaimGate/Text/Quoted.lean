import ClaimGate.Text.Printable

/-! Texts in quotes, for operators. A quote and a backslash are escaped, the four common
control characters have a letter, and whatever does not show by itself stands as its
code point in hexadecimal digits between braces. -/

namespace ClaimGate.Text.Quoted

def escape (c : Char) : List Char :=
  if c = '"' then ['\\', '"']
  else if c = '\\' then ['\\', '\\']
  else if c = '\n' then ['\\', 'n']
  else if c = '\r' then ['\\', 'r']
  else if c = '\t' then ['\\', 't']
  else if c = '\x00' then ['\\', '0']
  else if isPrintable c then [c]
  else '\\' :: 'u' :: '{' :: Nat.toDigits 16 c.toNat ++ ['}']

def render (s : String) : List Char := '"' :: s.toList.flatMap escape ++ ['"']

/-- Quoted texts in brackets. -/
def renderList (l : List String) : List Char :=
  '[' :: [',', ' '].intercalate (l.map render) ++ [']']

end ClaimGate.Text.Quoted
