import ClaimGate.Text.Caseless

/-! Media types: a type and a subtype between which stands a slash, and parameters. The
ending of a subtype after its last plus sign names the format that it is written in. -/

namespace ClaimGate.Http.MediaType

/-- Characters of a type, a parameter name or an unquoted parameter. -/
def isToken (c : Char) : Bool :=
  c.isAlphanum || "!#$%&'*+-.^_|~".toList.contains c || c.toNat == 0x60

/-- Characters of a quoted parameter. -/
def isQuotable (c : Char) : Bool := 0x1F < c.toNat && c.toNat != 0x7F

/-- The text after the closing quote of a quoted parameter, which is not empty. -/
def quotedRest? : List Char → Option (List Char)
  | [] => none
  | c :: cs =>
    let (inner, rest) := cs.span (· ≠ '"')
    match (c :: inner).all isQuotable, rest with
    | true, _ :: rest => some (rest.dropWhile (· = ' '))
    | _, _ => none

/-- Parameters after a semicolon: names with a plain or quoted value. The fuel bounds the
characters read. -/
def areParameters : Nat → List Char → Bool
  | 0, _ => false
  | _, [] => true
  | fuel + 1, ' ' :: cs => areParameters fuel cs
  | fuel + 1, cs =>
    let (name, rest) := cs.span isToken
    !name.isEmpty && match rest with
      | '=' :: '"' :: rest =>
        match quotedRest? rest with
        | some [] => true
        | some (';' :: rest) => areParameters fuel rest
        | _ => false
      | '=' :: rest =>
        let (value, rest) := rest.span isToken
        match rest with
        | [] => true
        | ';' :: rest => !value.isEmpty && areParameters fuel rest
        | _ => false
      | _ => false

/-- The part of a subtype before its last plus sign and the ending after it; a plus sign
that comes first does not count. -/
def splitSuffix? : List Char → Option (List Char × List Char)
  | [] => none
  | first :: cs =>
    let ending := (cs.reverse.takeWhile (· ≠ '+')).reverse
    if ending.length < cs.length then
      some (first :: cs.take (cs.length - ending.length - 1), ending)
    else none

/-- The subtype is that of JSON or of a format written in JSON. -/
def isJsonSubtype (subtype : List Char) : Bool :=
  let json := "json".toList
  match splitSuffix? (Text.foldCase subtype) with
  | none => Text.foldCase subtype = json
  | some (before, ending) => before = json || ending = json

def isJson (s : String) : Bool :=
  let (kind, rest) := s.toList.span isToken
  match rest with
  | '/' :: rest =>
    let (subtype, rest) := rest.span isToken
    Text.foldCase kind = "application".toList && isJsonSubtype subtype &&
      match rest with
      | [] => true
      | ';' :: rest => areParameters (rest.length + 1) rest
      | _ => false
  | _ => false

end ClaimGate.Http.MediaType
