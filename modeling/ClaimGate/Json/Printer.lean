import ClaimGate.Decimal.Shortest
import ClaimGate.Json.Basic

/-! Printing a JSON value without spaces. Members keep their order. Of the characters
of a string only the quote, the backslash and the control characters below U+0020
are escaped; five of those have a letter of their own, the others a four-digit code. A
real is printed as its double. -/

namespace ClaimGate.Json

def hexDigit (n : Nat) : Char := Nat.digitChar n

/-- The written form of one character inside quotes. -/
def escape (c : Char) : List Char :=
  if c = '"' then ['\\', '"']
  else if c = '\\' then ['\\', '\\']
  else if c = '\x08' then ['\\', 'b']
  else if c = '\x0c' then ['\\', 'f']
  else if c = '\n' then ['\\', 'n']
  else if c = '\r' then ['\\', 'r']
  else if c = '\t' then ['\\', 't']
  else if c.toNat < 0x20 then
    ['\\', 'u', '0', '0', hexDigit (c.toNat / 16), hexDigit (c.toNat % 16)]
  else [c]

def renderString (s : String) : List Char := '"' :: s.toList.flatMap escape ++ ['"']

mutual

/-- The compact text of a value. What is garbled has none and stands as `null`. -/
def render : Json → List Char
  | .null | .garbled _ | .torn _ => ['n', 'u', 'l', 'l']
  | .bool true => ['t', 'r', 'u', 'e']
  | .bool false => ['f', 'a', 'l', 's', 'e']
  | .int n => Text.intDigits n
  | .real negative x => (if negative then ['-'] else []) ++ x.toDouble.text
  | .str s => renderString s
  | .letter c => renderString (.singleton c)
  | .arr l => '[' :: renderItems l ++ [']']
  | .obj ms => '{' :: renderMembers ms ++ ['}']

def renderItems : List Json → List Char
  | [] => []
  | [j] => j.render
  | j :: l => j.render ++ ',' :: renderItems l

def renderMember : String × Json → List Char
  | (k, j) => renderString k ++ ':' :: j.render

def renderMembers : List (String × Json) → List Char
  | [] => []
  | [m] => renderMember m
  | m :: ms => renderMember m ++ ',' :: renderMembers ms

end

def text (j : Json) : String := .ofList j.render

end ClaimGate.Json
