import ClaimGate.Json.Reader
import ClaimGate.Text.Base64Url
import ClaimGate.Text.Utf8

/-! The three segments of a token, and the JSON objects that the first two hold. -/

namespace ClaimGate

/-- Why a segment cannot be read. -/
inductive SegmentFault where
  | base64
  | json
  deriving DecidableEq

structure Segments where
  header : List Char
  payload : List Char
  signature : List Char
  deriving DecidableEq

namespace Segments

/-- The text before and after its last point. -/
def splitLast? (cs : List Char) : Option (List Char × List Char) :=
  let tail := (cs.reverse.takeWhile (· ≠ '.')).reverse
  if tail.length < cs.length then some (cs.take (cs.length - tail.length - 1), tail) else none

/-- The last two points part the segments, so a header may hold points. -/
def ofText? (cs : List Char) : Option Segments := do
  let (message, signature) ← splitLast? cs
  let (header, payload) ← splitLast? message
  return ⟨header, payload, signature⟩

/-- What the signature is over. -/
def message (s : Segments) : List Char := s.header ++ '.' :: s.payload

/-! ### JSON in a segment -/

/-- The JSON value that a segment holds, with its members as they stand. -/
def json (segment : List Char) : Except SegmentFault Json :=
  match Text.Base64Url.decode? segment with
  | none => .error .base64
  | some bytes =>
    let r := Json.readSource (Text.Utf8.chars bytes)
    if r.complete then .ok r.value else .error .json

end Segments

end ClaimGate
