import ClaimGate.Json.Printer
import ClaimGate.Settings.Control
import ClaimGate.Settings.Envelope
import ClaimGate.Settings.Folding

/-! Settings documents as they are written, and what can be wrong with them. Some
characters may not stand in a document at all; a name ends on the line where it begins
and not too far on; no further line of a text begins with a marker, which would part
documents; the document is an object, and a tag in it is a number. The first fault in the
text is the one that is met. But while a bracket may still begin a name, which is so for
a bounded stretch of its line, the text is read ahead, and a fault in the characters
there is met first. -/

namespace ClaimGate.SettingsDocument

inductive Fault where
  /-- A character that may not stand in a document, and its byte. -/
  | control (byte : Nat)
  /-- A line that begins with a marker. -/
  | marker
  /-- A name that is over before its value can follow. -/
  | separator
  /-- A value of another kind than must stand in its place. -/
  | kind
  deriving DecidableEq

namespace Fault

def message : Fault → String
  | control byte =>
    "control characters are not allowed at position " ++ Text.natText byte
  | marker => "found unexpected document indicator"
  | separator => "did not find expected ',' or '\x7d'"
  | kind => "invalid type"

/-- The fault is one of the characters, and is met when they are read. -/
def isOfText : Fault → Bool
  | control _ | marker => true
  | separator | kind => false

end Fault

/-! ### Tokens -/

inductive Token where
  /-- An opening bracket; `item` tells that it begins the document or an item of a list,
  and could begin a name there. -/
  | opening (item : Bool)
  | closing
  | name (s : String)
  | text (s : String)
  /-- Anything else, of some width. -/
  | plain (width : Nat)
  /-- Stands behind the first token of a value of the wrong kind. -/
  | misfit

/-- The number of bytes. -/
def width (cs : List Char) : Nat := cs.foldl (fun n c => n + c.utf8Size) 0

/-- A comma or a colon. -/
def sign : Token := .plain 1

def withMisfit : List Token → List Token
  | t :: ts => t :: .misfit :: ts
  | [] => []

mutual

def tokens (item : Bool) : Json → List Token
  | .str s => [.text s]
  | .arr l => .opening item :: tokensOfItems l ++ [.closing]
  | .obj ms => .opening item :: tokensOfMembers false ms ++ [.closing]
  | j => [.plain (width j.render)]

def tokensOfItems : List Json → List Token
  | [] => []
  | [j] => tokens true j
  | j :: l => tokens true j ++ sign :: tokensOfItems l

def tokensOfMember (root : Bool) : String × Json → List Token
  | (name, j) =>
    let ts := tokens false j
    .name name :: sign ::
      if !root && name == Envelope.tagName && !Envelope.isTag j then withMisfit ts else ts

/-- The members of an object; those of the document itself may have any names. -/
def tokensOfMembers (root : Bool) : List (String × Json) → List Token
  | [] => []
  | [m] => tokensOfMember root m
  | m :: ms => tokensOfMember root m ++ sign :: tokensOfMembers root ms

end

/-- The tokens of a document, which must be an object. -/
def tokensOfDocument : Json → List Token
  | .obj ms => .opening true :: tokensOfMembers true ms ++ [.closing]
  | j => withMisfit (tokens true j)

/-! ### Faults of a token -/

/-- Three points or three hyphens before a space or a break. -/
def beginsWithMarker : List Char → Bool
  | a :: b :: c :: d :: _ =>
    (a == '-' || a == '.') && b == a && c == a && (d == ' ' || Folding.isBreak d)
  | _ => false

/-- Where a line after the first begins with a marker, in the written form of characters
before which some bytes stand. -/
def marker? (byte : Nat) : List Char → Option Nat
  | [] => none
  | c :: cs =>
    let next := byte + width (Json.escape c)
    if Folding.isBreak c && beginsWithMarker cs then some next else marker? next cs

/-- A place in the text. -/
structure Place where
  byte : Nat
  line : Nat
  deriving DecidableEq

/-- How many characters are always looked at together. -/
def foresight : Nat := 4

/-- The greatest distance from the beginning of a name to its end. -/
def nameReach : Nat := 1024

namespace Token

/-- The characters of a name or a text. -/
def chars : Token → List Char
  | name s | text s => s.toList
  | _ => []

def bytes : Token → Nat
  | opening _ | closing => 1
  | name s | text s => width (Json.renderString s)
  | plain w => w
  | misfit => 0

def breaks (t : Token) : Nat := t.chars.countP Folding.isBreak

/-- How many bytes are read from the beginning of a token until it is known. A name is
known by the colon behind it. -/
def reach : Token → Nat
  | t@(name _) => t.bytes + foresight
  | misfit => 0
  | t => max foresight (t.bytes + 1)

/-- The fault that is met at a token. A piece that is begun for it is looked through first,
and it is read to its end before what must follow it is sought. -/
def fault? (t : Token) (here : Place) (control : Option Control) : Option Fault :=
  let met (reached : Nat) (f : Option Fault) :=
    match control.filter (·.piece < here.byte + reached) with
    | some c => some (.control c.byte)
    | none => f
  match marker? 1 t.chars with
  | some n => met (n + foresight) (some .marker)
  | none =>
    met t.reach <| match t with
      | name _ => if 0 < t.breaks || nameReach < t.bytes then some .separator else none
      | misfit => some .kind
      | _ => none

end Token

/-! ### The fault of a document -/

def Place.past (p : Place) (t : Token) : Place := ⟨p.byte + t.bytes, p.line + t.breaks⟩

/-- What begins at `p` may be a name that goes on at `q`. -/
def Place.reaches (p q : Place) : Bool := p.line == q.line && q.byte ≤ p.byte + nameReach

structure Finding where
  fault : Fault
  place : Place
  /-- Where the values that could begin a name begin, of those that are open here. -/
  around : List Place

/-- The faults of tokens, with what is open before them. -/
def findings (control : Option Control) (here : Place) (around : List (Option Place)) :
    List Token → List Finding
  | [] => []
  | t :: ts =>
    let around' := match t with
      | .opening item => (if item then some here else none) :: around
      | .closing => around.tail
      | _ => around
    let rest := findings control (here.past t) around' ts
    match t.fault? here control with
    | some f => ⟨f, here, around.filterMap id⟩ :: rest
    | none => rest

/-- A fault of the characters is met before an earlier fault if both are inside a value
that may still be a name where the former is. -/
def Finding.isHidden (f ahead : Finding) : Bool :=
  ahead.around.any fun p => f.around.contains p && p.reaches ahead.place

/-- The fault that is met first. -/
def met? : List Finding → Option Fault
  | [] => none
  | f :: fs =>
    match (f :: fs).find? (·.fault.isOfText) with
    | some g => some (if f.isHidden g then g.fault else f.fault)
    | none => some f.fault

/-- The fault of a document. -/
def fault? (document : Json) : Option Fault :=
  met? (findings (control? 0 0 document.render) ⟨0, 0⟩ [] (tokensOfDocument document))

/-- Only a text of several lines has a line that begins with a marker. -/
theorem marker?_of_forall (byte : Nat) {cs : List Char}
    (h : ∀ c ∈ cs, Folding.isBreak c = false) : marker? byte cs = none := by
  induction cs generalizing byte with
  | nil => rfl
  | cons c cs ih =>
    obtain ⟨hc, hcs⟩ := List.forall_mem_cons.1 h
    simp [marker?, hc, ih _ hcs]

end ClaimGate.SettingsDocument
