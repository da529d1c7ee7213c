import ClaimGate.Http.Reading

/-! The service over HTTP: one route for each surface and one that tells that the server
is up. A request to the gateway's route may leave out its identity source; an authorization
header then stands in for it, and it never does where there is one. -/

namespace ClaimGate.Client

open Http

/-- The authorization that stands in for an empty identity source: the event's own
header, and else that of the HTTP request. -/
def authorization? (http : Request) (event : GatewayRequest) : Option String :=
  ((event.headers.entries.find? fun h => Text.sameFolded h.1 "authorization").map (·.2)).or
    (http.header? "authorization")

/-- The event with an identity source, if one can be found. -/
def withIdentity (http : Request) (event : GatewayRequest) : GatewayRequest :=
  if event.identitySource.isEmpty then
    { event with identitySource := (authorization? http event).toList }
  else event

def authorizeRoute (c : Client) (http : Request) : Response :=
  match http.decode GatewayRequest.shape with
  | .error f => f.response
  | .ok event =>
    match c.authorize (withIdentity http event) with
    | .ok r => .ofJson (GatewayResponse.shape.encode r)
    | .error f => .ofClientFault f

def invokeRoute (c : Client) (http : Request) : Response :=
  match http.decode DirectRequest.shape with
  | .error f => f.response
  | .ok r =>
    match c.invoke r with
    | .ok r => .ofJson (DirectResponse.shape.encode r)
    | .error f => .ofClientFault f

def healthRoute : Response := .ofJson (.obj [("status", .str "ok")])

/-- The answer to an HTTP request. -/
def respond (c : Client) (http : Request) : Response :=
  match http.route, http.method with
  | "/v1/authorize", "POST" => c.authorizeRoute http
  | "/v1/invoke", "POST" => c.invokeRoute http
  | "/v1/authorize", _ | "/v1/invoke", _ => .wrongMethod "POST"
  | "/health", "GET" => healthRoute
  | "/health", "HEAD" => { healthRoute with body := .empty }
  | "/health", _ => .wrongMethod "GET,HEAD"
  | _, _ => .notFound

end ClaimGate.Client
