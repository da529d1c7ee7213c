import ClaimGate.Text.Blank
import ClaimGate.Text.Integer

/-! Who is asking. An identity source is one or two texts in no fixed order: exactly one
is a bearer value, and the other, if there is one, refers to what is asked about. -/

namespace ClaimGate

inductive IdentityFault where
  | empty
  | tooLong (count : Nat)
  | noToken
  | manyTokens (count : Nat)
  | badReference
  deriving DecidableEq

def IdentityFault.message : IdentityFault → String
  | .empty => "identity source is empty"
  | .tooLong n => "identity source has " ++ Text.natText n ++ " elements, at most 2 are allowed"
  | .noToken => "identity source carries no bearer token"
  | .manyTokens n =>
    "identity source carries " ++ Text.natText n ++ " bearer tokens, exactly one is allowed"
  | .badReference => "identity source secondary reference is invalid"

structure Identity where
  token : String
  reference : Option String
  deriving DecidableEq

namespace Identity

/-- The token of a bearer value: between blanks, the word `Bearer`, one or more blanks,
and a token without blanks. -/
def bearerToken? (cs : List Char) : Option (List Char) :=
  match Text.trim cs with
  | 'B' :: 'e' :: 'a' :: 'r' :: 'e' :: 'r' :: c :: rest =>
    let token := Text.trimStart rest
    if Text.isBlank c ∧ token ≠ [] ∧ token.all (fun c => !Text.isBlank c) then some token else none
  | _ => none

def bearer? (value : String) : Option String := (bearerToken? value.toList).map String.ofList

/-- The greatest number of values that an identity source has. -/
def maxValues : Nat := 2

def ofValues (values : List String) : Except IdentityFault Identity :=
  if values.isEmpty then .error .empty
  else if maxValues < values.length then .error (.tooLong values.length)
  else
    match values.filterMap bearer?, values.filter (fun v => (bearer? v).isNone) with
    | [], _ => .error .noToken
    | [token], [] => .ok ⟨token, none⟩
    | [token], [reference] =>
      if Text.allBlank reference then .error .badReference else .ok ⟨token, some reference⟩
    | [_], _ => .error .badReference
    | tokens, _ => .error (.manyTokens tokens.length)

/-- What stands for a token wherever an identity is shown. -/
def redacted : String := "[REDACTED]"

/-- A text that shows an identity to an operator; it does not depend on the token. -/
def display (i : Identity) : String :=
  "token " ++ redacted ++ ", reference " ++ i.reference.getD "none"

end Identity

end ClaimGate
