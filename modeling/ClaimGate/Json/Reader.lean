import ClaimGate.Json.Number

/-! Reading a JSON text. A reader that meets a break keeps what stands before it:
open objects and lists are closed there, and a value that was begun is garbled.
So a caller can act on whatever comes first in a text, the break included. A damaged
byte spoils the string that it stands in and breaks the text everywhere else. -/

namespace ClaimGate.Json

/-- A text as it is read: its characters, and `none` for a byte that is part of none. -/
abbrev Source := List (Option Char)

/-- A value and the text after it, or what was read of it before the text broke off. -/
inductive Piece (α : Type) where
  | whole (a : α) (rest : Source)
  | cut (a : α)

namespace Piece

def map {α β : Type} (f : α → β) : Piece α → Piece β
  | .whole a rest => .whole (f a) rest
  | .cut a => .cut (f a)

end Piece

def isSpace (c : Char) : Bool := c == ' ' || c == '\t' || c == '\n' || c == '\r'

def skipSpace (cs : Source) : Source := cs.dropWhile fun c => c.any isSpace

/-! ### Strings -/

/-- A unit of a quoted text: a character, a damaged byte, or the code of a four-digit escape. -/
inductive QuotedUnit where
  | plain (c : Option Char)
  | code (n : Nat)

def hexDigit? (c : Char) : Option Nat :=
  if c.isDigit then some (c.toNat - '0'.toNat)
  else if 'a' ≤ c ∧ c ≤ 'f' then some (c.toNat - 'a'.toNat + 10)
  else if 'A' ≤ c ∧ c ≤ 'F' then some (c.toNat - 'A'.toNat + 10)
  else none

def hex4? (a b c d : Char) : Option Nat := do
  return (((← hexDigit? a) * 16 + (← hexDigit? b)) * 16 + (← hexDigit? c)) * 16 + (← hexDigit? d)

/-- The character that a backslash and one more character stand for. -/
def unescape? : Char → Option Char
  | '"' => some '"'
  | '\\' => some '\\'
  | '/' => some '/'
  | 'b' => some '\x08'
  | 'f' => some '\x0c'
  | 'n' => some '\n'
  | 'r' => some '\r'
  | 't' => some '\t'
  | _ => none

/-- The units up to the closing quote, and the text after it. -/
def quotedUnits : Source → Option (List QuotedUnit × Source)
  | [] => none
  | some '"' :: rest => some ([], rest)
  | some '\\' :: some 'u' :: some a :: some b :: some c :: some d :: rest => do
    let n ← hex4? a b c d
    let (us, rest) ← quotedUnits rest
    return (.code n :: us, rest)
  | some '\\' :: c :: rest => do
    let c ← unescape? (← c)
    let (us, rest) ← quotedUnits rest
    return (.plain (some c) :: us, rest)
  | c :: rest => do
    if c.any fun c => c.toNat < 0x20 then none
    let (us, rest) ← quotedUnits rest
    return (.plain c :: us, rest)

def isHighSurrogate (n : Nat) : Bool := 0xD800 ≤ n && n < 0xDC00
def isLowSurrogate (n : Nat) : Bool := 0xDC00 ≤ n && n < 0xE000

/-- The characters of the units. The fault of a surrogate without its other half tells
whether the whole string is read when it is met: it is where the first half comes last,
for what follows a first half is read before it is refused. -/
def spell : List QuotedUnit → Except Bool Source
  | [] => .ok []
  | .plain c :: us => (c :: ·) <$> spell us
  | .code n :: us =>
    if isHighSurrogate n then
      match us with
      | .code m :: us =>
        if isLowSurrogate m then
          (some (.ofNat (0x10000 + (n - 0xD800) * 0x400 + (m - 0xDC00))) :: ·) <$> spell us
        else .error false
      | us => .error us.isEmpty
    else if isLowSurrogate n then .error false
    else (some (.ofNat n) :: ·) <$> spell us

/-- The text of the units. Damage among them is met when the whole string is read. -/
def textOf (us : List QuotedUnit) : Except Bool String := do
  match (← spell us).mapM id with
  | some cs => return .ofList cs
  | none => throw true

/-- A string after its opening quote: its text, or whether it was read in vain to its end. -/
def quoted (cs : Source) : Piece (Except Bool String) :=
  match quotedUnits cs with
  | some (us, rest) => .whole (textOf us) rest
  | none => .cut (.error false)

def stringPiece (cs : Source) : Piece Json :=
  (quoted cs).map fun
    | .ok s => .str s
    | .error passed => .garbled passed

/-! ### Numbers -/

/-- The digits at the front, and the text after them. -/
def digits : Source → List Char × Source
  | some c :: cs =>
    if c.isDigit then
      let (ds, rest) := digits cs
      (c :: ds, rest)
    else ([], some c :: cs)
  | cs => ([], cs)

/-- The exponent part, if there is one. -/
def exponent? : Source → Option (Option Number.Exponent × Source)
  | some c :: rest =>
    if c == 'e' || c == 'E' then
      let (negative, rest) := match rest with
        | some '+' :: r => (false, r)
        | some '-' :: r => (true, r)
        | r => (false, r)
      let (ds, rest) := digits rest
      if ds.isEmpty then none else some (some ⟨negative, ds⟩, rest)
    else some (none, some c :: rest)
  | cs => some (none, cs)

/-- The digits after the point, if there is one. -/
def fraction? : Source → Option (Option (List Char) × Source)
  | some '.' :: rest =>
    let (ds, rest) := digits rest
    if ds.isEmpty then none else some (some ds, rest)
  | rest => some (none, rest)

/-- A number after its sign. Of two or more leading digits the first is not zero. -/
def number? (negative : Bool) (cs : Source) : Option (Number.Written × Source) := do
  let (whole, rest) := digits cs
  if whole.isEmpty || (whole.head? == some '0' && 1 < whole.length) then none
  let (fraction, rest) ← fraction? rest
  let (exponent, rest) ← exponent? rest
  return ({ negative, whole, fraction, exponent }, rest)

def numberPiece (negative : Bool) (cs : Source) : Piece Json :=
  match number? negative cs with
  | some (n, rest) => .whole n.toJson rest
  | none => .cut (.garbled false)

/-! ### Values -/

/-- The object with these members, torn if a name after them spells no text. -/
def ofMembers : List (String × Json) × Bool → Json
  | (ms, true) => .obj ms
  | (ms, false) => .torn ms

mutual

/-- Reads one value. The fuel bounds the number of characters that are read. -/
def value : Nat → Source → Piece Json
  | 0, _ => .cut (.garbled false)
  | fuel + 1, cs =>
    match skipSpace cs with
    | some '"' :: rest => stringPiece rest
    | some '{' :: rest => (members fuel true rest).map ofMembers
    | some '[' :: rest => (items fuel true rest).map Json.arr
    | some 't' :: some 'r' :: some 'u' :: some 'e' :: rest => .whole (.bool true) rest
    | some 'f' :: some 'a' :: some 'l' :: some 's' :: some 'e' :: rest => .whole (.bool false) rest
    | some 'n' :: some 'u' :: some 'l' :: some 'l' :: rest => .whole .null rest
    | some '-' :: rest => numberPiece true rest
    | rest => numberPiece false rest
termination_by structural fuel => fuel

/-- The items up to the closing bracket; `first` holds right after the opening one. -/
def items : Nat → Bool → Source → Piece (List Json)
  | 0, _, _ => .cut []
  | fuel + 1, first, cs =>
    match skipSpace cs with
    | some ']' :: rest => .whole [] rest
    | some ',' :: rest =>
      if first then .cut [.garbled false]
      else match skipSpace rest with
        | some ']' :: _ => .cut []
        | rest => item fuel rest
    | rest => if first then item fuel rest else .cut []
termination_by structural fuel => fuel

/-- One item and those after it. -/
def item : Nat → Source → Piece (List Json)
  | 0, _ => .cut []
  | fuel + 1, cs =>
    match value fuel cs with
    | .whole j rest => (items fuel false rest).map (j :: ·)
    | .cut j => .cut [j]
termination_by structural fuel => fuel

/-- The members up to the closing brace, and whether each name up to there is a text;
members after a name that is none are left out. -/
def members : Nat → Bool → Source → Piece (List (String × Json) × Bool)
  | 0, _, _ => .cut ([], true)
  | fuel + 1, first, cs =>
    match skipSpace cs with
    | some '}' :: rest => .whole ([], true) rest
    | some ',' :: rest => if first then .cut ([], true) else member fuel (skipSpace rest)
    | rest => if first then member fuel rest else .cut ([], true)
termination_by structural fuel => fuel

/-- One member and those after it. -/
def member : Nat → Source → Piece (List (String × Json) × Bool)
  | 0, _ => .cut ([], true)
  | fuel + 1, some '"' :: cs =>
    match quoted cs with
    | .cut _ => .cut ([], true)
    | .whole (.error _) rest => (memberValue fuel "" rest).map (fun _ => ([], false))
    | .whole (.ok name) rest => memberValue fuel name rest
  | _ + 1, _ => .cut ([], true)
termination_by structural fuel => fuel

/-- The colon and the value of a member, and the members after it. -/
def memberValue : Nat → String → Source → Piece (List (String × Json) × Bool)
  | 0, _, _ => .cut ([], true)
  | fuel + 1, name, cs =>
    match skipSpace cs with
    | some ':' :: rest =>
      match value fuel rest with
      | .whole j rest => (members fuel false rest).map (fun ms => ((name, j) :: ms.1, ms.2))
      | .cut j => .cut ([(name, j)], true)
    | _ => .cut ([(name, .garbled false)], true)
termination_by structural fuel => fuel

end

/-- What a text holds: its value as far as it goes, and whether the text is one value
and nothing else. -/
structure Reading where
  value : Json
  complete : Bool

/-- Every step that reads a character takes at most four of fuel for it. -/
def readSource (cs : Source) : Reading :=
  match Json.value (4 * cs.length + 4) cs with
  | .whole j rest => ⟨j, (skipSpace rest).isEmpty⟩
  | .cut j => ⟨j, false⟩

def read (s : String) : Reading := readSource (s.toList.map some)

/-- The value of a text that is one JSON document: wholly spelled, not too deeply
nested, and in canonical order. -/
def document? (s : String) : Option Json :=
  let r := read s
  if r.complete && r.value.isPlain && decide (r.value.depth ≤ maxDepth) then some r.value.sorted
  else none

end ClaimGate.Json
