import ClaimGate.Decimal.Double
import ClaimGate.Dict

/-! JSON values. Members of an object keep the order and the repetitions of their
text. A number is an integer only when its text has neither fraction nor exponent,
is not `-0`, and lies between the least signed and the greatest unsigned 64-bit
word; every other number is a real, kept as its sign and its leading digits. -/

namespace ClaimGate

inductive Json where
  | null
  | bool (b : Bool)
  | int (n : Int)
  | real (negative : Bool) (x : Decimal.Scaled)
  | str (s : String)
  /-- A text of one character that cannot be a name; no JSON text has one. -/
  | letter (c : Char)
  | arr (items : List Json)
  | obj (members : List (String × Json))
  /-- A place where the text spells no value: an unpaired surrogate, a damaged byte, a
  number beyond double precision, or a break. `passed` tells that a reader who meets the
  fault has read the whole place by then. -/
  | garbled (passed : Bool)
  /-- An object with a name that spells no text, and the members before it. -/
  | torn (members : List (String × Json))
  deriving Inhabited

namespace Json

/-! ### Canonical order -/

mutual

/-- The same value with the members of every object in ascending order, the last of
several members of one name alone. -/
def sorted : Json → Json
  | .arr l => .arr (sortedItems l)
  | .obj ms => .obj (Dict.ofList (sortedMembers ms)).entries
  | .torn ms => .torn (sortedMembers ms)
  | j => j

def sortedItems : List Json → List Json
  | [] => []
  | j :: l => j.sorted :: sortedItems l

def sortedMembers : List (String × Json) → List (String × Json)
  | [] => []
  | (k, j) :: ms => (k, j.sorted) :: sortedMembers ms

end

/-! ### Texts -/

mutual

/-- The same value with every text in it replaced; names are no texts of it. -/
def mapTexts (f : String → String) : Json → Json
  | .str s => .str (f s)
  | .arr l => .arr (mapItems f l)
  | .obj ms => .obj (mapMembers f ms)
  | .torn ms => .torn (mapMembers f ms)
  | j => j

def mapItems (f : String → String) : List Json → List Json
  | [] => []
  | j :: l => j.mapTexts f :: mapItems f l

def mapMembers (f : String → String) : List (String × Json) → List (String × Json)
  | [] => []
  | (k, j) :: ms => (k, j.mapTexts f) :: mapMembers f ms

end

/-! ### Nesting -/

mutual

/-- The number of lists and objects around the innermost value. -/
def depth : Json → Nat
  | .arr l => depthItems l + 1
  | .obj ms => depthMembers ms + 1
  | .torn ms => depthMembers ms + 1
  | _ => 0

def depthItems : List Json → Nat
  | [] => 0
  | j :: l => max j.depth (depthItems l)

def depthMembers : List (String × Json) → Nat
  | [] => 0
  | (_, j) :: ms => max j.depth (depthMembers ms)

end

mutual

/-- Every part of the value is spelled by its text. -/
def isPlain : Json → Bool
  | .garbled _ | .torn _ => false
  | .arr l => arePlain l
  | .obj ms => membersPlain ms
  | _ => true

def arePlain : List Json → Bool
  | [] => true
  | j :: l => j.isPlain && arePlain l

def membersPlain : List (String × Json) → Bool
  | [] => true
  | (_, j) :: ms => j.isPlain && membersPlain ms

end

/-- A reader who refuses the value goes on right behind it: it has nothing inside, and a
fault of its text is met at its end. -/
def isPassable : Json → Bool
  | .garbled passed => passed
  | .arr (_ :: _) | .obj (_ :: _) | .torn _ => false
  | _ => true

/-- The greatest nesting that a document may have. -/
def maxDepth : Nat := 127

/-! ### Looking in -/

/-- The member of an object; nothing in any other value. -/
def member? (name : String) : Json → Option Json
  | .obj ms => ms.lookup name
  | _ => none

def text? : Json → Option String
  | .str s => some s
  | _ => none

def items? : Json → Option (List Json)
  | .arr l => some l
  | _ => none

/-- The text of a member that is one. -/
def textMember? (name : String) (j : Json) : Option String := (j.member? name).bind text?

/-- The least and the greatest integer that a number without fraction can be. -/
def leastInt : Int := -9223372036854775808
def greatestInt : Int := 18446744073709551615

def isInt (n : Int) : Bool := leastInt ≤ n && n ≤ greatestInt

end Json

end ClaimGate
