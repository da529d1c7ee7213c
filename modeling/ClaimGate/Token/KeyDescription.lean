import ClaimGate.Json.Shape

/-! Descriptions of keys, as token headers may carry them. No key is taken from one, but a
header whose description of a key has not the form of one is no header. -/

namespace ClaimGate.KeyDescription

open Json (Shape Fields)

/-! ### Common members -/

/-- A name of any kind: a text, or an object that stands for one and holds nothing. -/
def isAnyName : Json → Bool
  | .str _ | .obj [(_, .null)] | .obj [(_, .obj [])] => true
  | _ => false

/-- The members that a description of any family may have. -/
def common :=
  Shape.record .ignored <| .optionalText "use" <| .optionalTexts "key_ops" <|
    .optional "alg" (.unread isAnyName) <| .optionalText "kid" <| .optionalText "x5u" <|
    .optionalTexts "x5c" <| .optionalText "x5t" <| .optionalText "x5t#S256" .nil

/-! ### Families -/

/-- A name that must be one of these. -/
def oneOf (names : List String) : Shape String := .name (fun n => names.find? (· = n)) id

/-- The member by which a family is told, and those that a key of it is made of. -/
def family {α : Type} (name : String) (parts : Fields α) : Shape (String × α) :=
  .record .ignored (.required "kty" (oneOf [name]) parts)

def curve {α : Type} (rest : Fields α) : Fields (String × α) :=
  .required "crv" (oneOf ["P-256", "P-384", "P-521", "Ed25519"]) rest

def part {α : Type} (name : String) (rest : Fields α) : Fields (String × α) :=
  .required name .text rest

def elliptic := family "EC" (curve (part "x" (part "y" .nil)))
def rsa := family "RSA" (part "n" (part "e" .nil))
def secret := family "oct" (part "k" .nil)
def pair := family "OKP" (curve (part "x" .nil))

/-! ### Descriptions -/

/-- The value has the shape. -/
def fits {α : Type} (s : Shape α) (j : Json) : Bool := (s.decode j).isOk

/-- The value is spelled throughout and has the members of a description: the common
ones, and those of one family. -/
def isReadable (j : Json) : Bool :=
  match j with
  | .obj _ =>
    j.isPlain && j.depth < Json.maxDepth && fits common j &&
      (fits elliptic j || fits rsa j || fits secret j || fits pair j)
  | _ => false

end ClaimGate.KeyDescription
