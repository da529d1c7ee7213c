import ClaimGate.KeySet.Basic
import ClaimGate.Token.KeyDescription
import ClaimGate.Token.Segment

/-! Token headers. The algorithm must be named; the other members that have a meaning
are checked for their form, and any other member must hold a string. -/

namespace ClaimGate

structure TokenHeader where
  algorithm : Algorithm
  keyId : Option String
  deriving DecidableEq

namespace TokenHeader

/-- The members that are read but not consulted. -/
def unconsulted :=
  Json.Fields.optionalText "typ" <| .optionalText "cty" <| .optionalText "jku" <|
    .optional "jwk" (.unread KeyDescription.isReadable) <| .optionalText "x5u" <|
    .optionalTexts "x5c" <| .optionalText "x5t" <| .optionalText "x5t#S256" <|
    .optionalTexts "crit" <| .optionalText "enc" <| .optionalText "zip" <|
    .optionalText "url" <| .optionalText "nonce" .nil

def shape : Json.Shape TokenHeader :=
  .via (.record .texts (.required "alg" Algorithm.shape (.optional "kid" .text unconsulted)))
    (fun (algorithm, keyId, _) => ⟨algorithm, keyId⟩)
    (fun h => (h.algorithm, h.keyId, none, none, none, none, none, none, none, none, none, none,
      none, none, none, ()))

/-- The header of a segment. A list does not stand for a header. -/
def ofSegment (segment : List Char) : Except SegmentFault TokenHeader := do
  match ← Segments.json segment with
  | .arr _ => throw .json
  | j => (shape.decode j).mapError fun _ => .json

end TokenHeader

end ClaimGate
