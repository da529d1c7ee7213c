import ClaimGate.Http.MediaType
import ClaimGate.Http.Message
import ClaimGate.Json.Reader

/-! Reading the body of a request. The text is read from its start, and whatever is wrong
first decides: a break of the text, or a value of another shape. -/

namespace ClaimGate.Http

/-- Why a body is refused. -/
inductive BodyFault where
  | notJson
  | malformed
  | misshapen
  deriving DecidableEq

namespace BodyFault

def status : BodyFault → Nat
  | notJson => 415
  | malformed => 400
  | misshapen => 422

/-- The beginning of the answer's text, up to what only the reader of the text knows. -/
def message : BodyFault → String
  | notJson => "Expected request with `Content-Type"
  | malformed => "Failed to parse the request body as JSON"
  | misshapen => "Failed to deserialize the JSON body into the target type"

def response (f : BodyFault) : Response := .ofText f.status f.message

/-- What a fault of the value makes of a text. Where a list goes on after the last field
of a record, the text is taken to break. -/
def ofFault : Json.Fault → BodyFault
  | .garbled | .surplus => malformed
  | _ => misshapen

end BodyFault

/-- The value of a shape that a text holds. -/
def decodeText {α : Type} (shape : Json.Shape α) (s : String) : Except BodyFault α :=
  let r := Json.read s
  match shape.decode r.value with
  | .error f => .error (.ofFault f)
  | .ok a => if r.complete then .ok a else .error .malformed

/-- The value of a shape that the body of a request holds. -/
def Request.decode {α : Type} (r : Request) (shape : Json.Shape α) : Except BodyFault α :=
  if ((r.header? "content-type").map MediaType.isJson).getD false then decodeText shape r.body
  else .error .notJson

end ClaimGate.Http
