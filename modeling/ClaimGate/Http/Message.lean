import ClaimGate.Client
import ClaimGate.Http.Target
import ClaimGate.Text.Caseless

/-! Messages of HTTP, as far as the service looks at them, and the answers that it gives. -/

namespace ClaimGate.Http

/-! ### Requests -/

structure Request where
  method : String
  target : String
  /-- Names and values; a name is matched without regard to case. -/
  headers : List (String × String)
  body : String

/-- Characters of a header value that can be taken as text. -/
def isVisible (c : Char) : Bool := c == '\t' || (0x20 ≤ c.toNat && c.toNat < 0x7F)

namespace Request

/-- The first header of a name, if its value is visible ASCII text. -/
def header? (r : Request) (name : String) : Option String :=
  ((r.headers.find? fun h => Text.sameFolded h.1 name).map (·.2)).filter fun value =>
    value.toList.all isVisible

/-- The path that is asked for; empty for a target without one. -/
def route (r : Request) : String := .ofList ((Target.path? r.target.toList).getD [])

end Request

/-! ### Responses -/

inductive Body where
  | empty
  | json (j : Json)
  | text (s : String)

structure Response where
  status : Nat
  contentType : Option String := none
  /-- The methods of the route, where another was used. -/
  allow : Option String := none
  body : Body := .empty

namespace Response

def ofJson (j : Json) : Response :=
  { status := 200, contentType := some "application/json", body := .json j }

def ofText (status : Nat) (s : String) : Response :=
  { status, contentType := some "text/plain; charset=utf-8", body := .text s }

/-- A problem report; it tells the status and keeps the reason. -/
def problem (status : Nat) (title : String) : Response :=
  { status, contentType := some "application/problem+json",
    body := .json (.obj [("type", .str "about:blank"), ("title", .str title),
      ("status", .int status)]) }

def ofClientFault : ClientFault → Response
  | .unavailable _ => problem 503 "Service Unavailable"
  | .internal _ => problem 500 "Internal Server Error"

def notFound : Response := { status := 404 }

def wrongMethod (allow : String) : Response := { status := 405, allow := some allow }

end Response

end ClaimGate.Http
