import ClaimGate.Json.Merge
import ClaimGate.Json.Reader
import ClaimGate.Text.Blank
import ClaimGate.Text.Integer

/-! Settings in environment variables. The name of a variable is a path into the settings,
and its value a small notation: truth values, numbers, quoted texts, lists and tables;
what is none of these stands for itself. -/

namespace ClaimGate

/-! ### Values -/

namespace VariableValue

def isSpace (c : Char) : Bool := c == ' ' || c == '\t' || c == '\n' || c == '\r' || c == '\x0c'

def skipSpace (cs : List Char) : List Char := cs.dropWhile isSpace

/-- Characters that end a plain value. -/
def isSeparator (c : Char) : Bool := c == ',' || c == '{' || c == '}' || c == '[' || c == ']'

def isKeyChar (c : Char) : Bool := c.isAlphanum || c == '_' || c == '-'

/-- The characters up to the closing quote and the text after it; a backslash keeps the
character after it from closing. -/
def quotedSpan : List Char → Option (List Char × List Char)
  | [] => none
  | '"' :: rest => some ([], rest)
  | '\\' :: c :: rest => (quotedSpan rest).map fun (cs, rest) => ('\\' :: c :: cs, rest)
  | c :: rest => (quotedSpan rest).map fun (cs, rest) => (c :: cs, rest)

/-- The character with the given code; none for a code that no character has. -/
def charOfCode? (n : Nat) : Option Char := if n.isValidChar then some (.ofNat n) else none

def hex? (ds : List Char) : Option Nat :=
  ds.foldlM (fun n c => (Json.hexDigit? c).map (n * 16 + ·)) 0

/-- The text that escapes stand for. -/
def unescape? : List Char → Option (List Char)
  | [] => some []
  | '\\' :: 'u' :: a :: b :: c :: d :: rest => do
    return (← charOfCode? (← hex? [a, b, c, d])) :: (← unescape? rest)
  | '\\' :: 'U' :: a :: b :: c :: d :: e :: f :: g :: h :: rest => do
    return (← charOfCode? (← hex? [a, b, c, d, e, f, g, h])) :: (← unescape? rest)
  | '\\' :: c :: rest => do
    if c = '/' then none
    return (← Json.unescape? c) :: (← unescape? rest)
  | c :: rest => if c = '\\' then none else (unescape? rest).map (c :: ·)

/-- Characters that may stand between quotes. -/
def isQuotable (c : Char) : Bool := c == '\t' || (0x20 ≤ c.toNat && c.toNat != 0x7F)

/-- The characters that take the first `n` bytes; none if these end inside a character. -/
def takeBytes? : Nat → List Char → Option (List Char)
  | _, [] => some []
  | 0, _ => some []
  | n, c :: cs => if c.utf8Size ≤ n then (takeBytes? (n - c.utf8Size) cs).map (c :: ·) else none

/-- The text that stands between quotes. What is before the first escape keeps only as
many bytes as it has characters. -/
def inQuotes? (inner : List Char) : Option (List Char) := do
  if !inner.all isQuotable then none
  let (before, rest) := inner.span (· ≠ '\\')
  if rest.isEmpty then return before
  return (← takeBytes? before.length before) ++ (← unescape? rest)

def quoted? (cs : List Char) : Option (String × List Char) := do
  let (inner, rest) ← quotedSpan cs
  return (.ofList (← inQuotes? inner), rest)

/-- A number with a point: digits on at least one side of it, and maybe an exponent. -/
def isFraction (cs : List Char) : Bool :=
  let cs := match cs with
    | '+' :: r => r
    | '-' :: r => r
    | r => r
  let (whole, rest) := cs.span Char.isDigit
  match rest with
  | '.' :: rest =>
    let (fraction, rest) := rest.span Char.isDigit
    !(whole.isEmpty && fraction.isEmpty) &&
      match Json.exponent? (rest.map some) with
      | some (_, []) => true
      | _ => false
  | _ => false

/-- A value without quotes or brackets, already trimmed. Digits beyond the greatest
integer stand for themselves. -/
def plain (cs : List Char) : Json :=
  if isFraction cs then .real false ⟨0, 0⟩
  else match (Text.integer? cs).filter Json.isInt with
    | some n => .int n
    | none => .str (.ofList cs)

mutual

/-- Reads one value and the spaces around it. The fuel bounds the characters read. -/
def value? : Nat → List Char → Option (Json × List Char)
  | 0, _ => none
  | fuel + 1, cs => do
    let (j, rest) ← match skipSpace cs with
      | 't' :: 'r' :: 'u' :: 'e' :: rest => some (.bool true, rest)
      | 'f' :: 'a' :: 'l' :: 's' :: 'e' :: rest => some (.bool false, rest)
      | '"' :: rest => (quoted? rest).map fun (s, rest) => (.str s, rest)
      | '\'' :: c :: '\'' :: rest => some (.letter c, rest)
      | '\'' :: _ => none
      | '[' :: rest => (items? fuel rest).map fun (l, rest) => (.arr l, rest)
      | '{' :: rest => (entries? fuel rest).map fun (ms, rest) =>
          (.obj (Dict.ofList ms).entries, rest)
      | cs =>
        let (word, rest) := cs.span fun c => !isSeparator c
        some (plain (Text.trim word), rest)
    return (j, skipSpace rest)
termination_by structural fuel => fuel

/-- The items up to the closing bracket, which may stand right behind a comma; spaces
before it are an item without characters. -/
def items? : Nat → List Char → Option (List Json × List Char)
  | 0, _ => none
  | _ + 1, ']' :: rest => some ([], rest)
  | fuel + 1, cs => do
    let (j, rest) ← value? fuel cs
    match rest with
    | ',' :: rest =>
      let (l, rest) ← items? fuel rest
      return (j :: l, rest)
    | ']' :: rest => return ([j], rest)
    | _ => none
termination_by structural fuel => fuel

/-- The entries up to the closing brace, which may stand right behind a comma. -/
def entries? : Nat → List Char → Option (List (String × Json) × List Char)
  | 0, _ => none
  | _ + 1, '}' :: rest => some ([], rest)
  | fuel + 1, cs => do
    let (key, rest) ← match skipSpace cs with
      | '"' :: rest => quoted? rest
      | cs =>
        let (key, rest) := cs.span isKeyChar
        if key.isEmpty then none else some (.ofList key, rest)
    match skipSpace rest with
    | '=' :: rest =>
      let (j, rest) ← value? fuel rest
      match rest with
      | ',' :: rest =>
        let (ms, rest) ← entries? fuel rest
        return ((key, j) :: ms, rest)
      | '}' :: rest => return ([(key, j)], rest)
      | _ => none
    | _ => none
termination_by structural fuel => fuel

end

/-- The value of a text; a text that is not one value of the notation stands for itself. -/
def ofText (s : String) : Json :=
  match value? (s.length + 1) s.toList with
  | some (j, []) => j
  | _ => .str s

end VariableValue

/-! ### Names -/

structure Variable where
  name : String
  value : String

namespace Variable

/-- The variables of an environment, whose entries end with a zero: a name, a sign and the value,
in which there may be signs again. -/
def ofEnvironment (block : String) : List Variable :=
  ((block.splitOn "\x00").map String.toList).filterMap fun entry =>
    match entry.span (· ≠ '=') with
    | (name, _ :: value) => some ⟨.ofList name, .ofList value⟩
    | (_, []) => none

/-- What the names of the service's variables begin with, in any case. -/
def namePrefix : String := "AUTHORIZER_"

/-- The steps of a path, from the outside in: two underscores or a point part them. -/
def steps : List Char → List (List Char)
  | [] => [[]]
  | '.' :: rest => [] :: steps rest
  | '_' :: '_' :: rest => [] :: steps rest
  | c :: rest =>
    match steps rest with
    | step :: more => (c :: step) :: more
    | [] => [[c]]

/-- The path that a variable names, in lower case; none for a variable that is not meant,
and for one with an empty step. -/
def path? (v : Variable) : Option (List (List Char)) :=
  let cs := Text.trim v.name.toList
  let start := namePrefix.toList
  let path := steps ((Text.trim (cs.drop start.length)).map Char.toLower)
  if (start.map Char.toLower).isPrefixOf (cs.map Char.toLower) && path.all (· ≠ []) then some path
  else none

/-- A value at a path. -/
def nest : List (List Char) → Json → Json
  | [], j => j
  | step :: more, j => .obj [(.ofList step, nest more j)]

/-- The layer that one variable makes. -/
def layer (v : Variable) : Option Json :=
  v.path?.map fun path => nest path (VariableValue.ofText v.value)

/-- The layer that variables make together. -/
def layers (vs : List Variable) : Json := (vs.filterMap layer).foldl Json.merge (.obj [])

end Variable

end ClaimGate
