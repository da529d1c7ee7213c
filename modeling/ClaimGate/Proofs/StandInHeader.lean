import ClaimGate.Directory.Basic
import ClaimGate.Http.Routes
import ClaimGate.Proofs.BearerValue
import ClaimGate.Proofs.Grant
import ClaimGate.Proofs.RoundTrip
import ClaimGate.Proofs.Selection
import ClaimGate.Settings.Pools

/-! The header that stands in for an identity source. A credential can come from three places: the
identity source of the event, an authorization header of the event, and that of the HTTP request
which carries the event. Proved: each place is looked at only where those before it hold nothing,
whatever they hold; no header overrides or supplements an identity source, nor the outer header the
event's own; and what stands in is decided as if it had been the identity source. -/

namespace ClaimGate

open Http

/-! ### Headers -/

/-- The name is that of the authorization header, whatever the case of its letters. -/
def Http.IsAuthorization (name : String) : Prop :=
  Text.foldCase name.toList = Text.foldCase "authorization".toList

instance : DecidablePred Http.IsAuthorization := fun name =>
  inferInstanceAs (Decidable (Text.foldCase name.toList = Text.foldCase "authorization".toList))

theorem Http.find?_authorization {headers : List (String × String)} {h : String × String} :
    (headers.find? fun h => Text.sameFolded h.1 "authorization") = some h ↔
      FirstOf (fun h => IsAuthorization h.1) headers h :=
  find?_eq_some_iff_firstOf (P := fun h : String × String => IsAuthorization h.1)

namespace GatewayRequest

/-- The event has an authorization header of its own with this value. -/
def HasAuthorization (event : GatewayRequest) (value : String) : Prop :=
  ∃ name, IsAuthorization name ∧ event.headers.get? name = some value

/-- No two headers of the event are authorization headers. -/
def OneAuthorization (event : GatewayRequest) : Prop :=
  ∀ name ∈ event.headers.keys, ∀ name' ∈ event.headers.keys,
    IsAuthorization name → IsAuthorization name' → name = name'

end GatewayRequest

namespace Client

/-- The value stands in for an identity source that is empty: that of the event's own authorization
header, and where it has none that of the first of the HTTP request, if that is visible. -/
inductive StandsIn (http : Request) (event : GatewayRequest) : String → Prop
  | own {value : String} (has : event.HasAuthorization value) : StandsIn http event value
  | outer {h : String × String} (hasNone : ∀ value, ¬ event.HasAuthorization value)
      (first : FirstOf (fun h => IsAuthorization h.1) http.headers h)
      (visible : ∀ c ∈ h.2.toList, isVisible c = true) : StandsIn http event h.2

variable {http http' : Request} {event : GatewayRequest} {value : String}

theorem own_eq_some (one : event.OneAuthorization) :
    (event.headers.entries.find? fun h => Text.sameFolded h.1 "authorization").map (·.2) =
      some value ↔ event.HasAuthorization value := by
  simp only [Option.map_eq_some_iff, find?_authorization]
  constructor
  · rintro ⟨h, first, rfl⟩
    exact ⟨h.1, first.holds, (Dict.lookup_eq_some_iff event.headers.distinct).2 first.mem⟩
  · rintro ⟨name, named, present⟩
    have listed := (Dict.lookup_eq_some_iff event.headers.distinct).1 present
    obtain ⟨h, first⟩ :=
      FirstOf.exists_of_mem (P := fun h : String × String => IsAuthorization h.1) listed named
    have same : h.1 = name := one _ (List.mem_map_of_mem first.mem) _ (List.mem_map_of_mem listed)
      first.holds named
    have value := (Dict.lookup_eq_some_iff event.headers.distinct).2 first.mem
    refine ⟨h, first, ?_⟩
    rw [same] at value
    exact Option.some.inj (value.symm.trans present)

theorem outer_eq_some : http.header? "authorization" = some value ↔
    ∃ h, FirstOf (fun h => IsAuthorization h.1) http.headers h ∧
      (∀ c ∈ h.2.toList, isVisible c = true) ∧ h.2 = value := by
  simp only [Request.header?, Option.filter_eq_some_iff, Option.map_eq_some_iff,
    find?_authorization, List.all_eq_true]
  constructor
  · rintro ⟨⟨h, first, rfl⟩, visible⟩
    exact ⟨h, first, visible, rfl⟩
  · rintro ⟨h, first, visible, rfl⟩
    exact ⟨⟨h, first, rfl⟩, visible⟩

/-- What is taken for an identity source is what stands in for it. -/
theorem authorization?_eq_some (one : event.OneAuthorization) :
    authorization? http event = some value ↔ StandsIn http event value := by
  rw [authorization?, Option.or_eq_some_iff, own_eq_some one, outer_eq_some]
  have lacks :
      (event.headers.entries.find? fun h => Text.sameFolded h.1 "authorization").map (·.2) =
        none ↔ ∀ value, ¬ event.HasAuthorization value := by
    rw [Option.eq_none_iff_forall_ne_some]
    exact forall_congr' fun v => not_congr (own_eq_some one)
  rw [lacks]
  constructor
  · rintro (has | ⟨hasNone, h, first, visible, rfl⟩)
    · exact .own has
    · exact .outer hasNone first visible
  · intro standsIn
    cases standsIn with
    | own has => exact .inl has
    | outer hasNone first visible => exact .inr ⟨hasNone, _, first, visible, rfl⟩

end Client

/-! ### Requests -/

/-- The request posts the event to the gateway's route, and its body is accepted. -/
structure Http.Request.Posts (http : Request) (event : GatewayRequest) : Prop where
  method : http.method = "POST"
  route : http.route = "/v1/authorize"
  accepted : http.decode GatewayRequest.shape = .ok event

namespace Service

/-- The answer over HTTP to a gateway request. -/
def answer (s : Service) (now : Int) (r : GatewayRequest) : Response :=
  .ofJson (GatewayResponse.shape.encode (s.authorize now r).1)

/-- The answer over HTTP to a gateway request that is denied. -/
def denied : Response := .ofJson (GatewayResponse.shape.encode .deny)

variable {s : Service} {now : Int} {http http' : Request} {event r : GatewayRequest}
  {value : String}

theorem answer_of_refuses {f : IdentityFault} (refuses : Identity.Refuses r.identitySource f) :
    s.answer now r = denied := by
  have asked : r.scope = .error (.identity f) := by
    rw [GatewayRequest.scope, Identity.ofValues_of_refuses refuses]
  have refused : (s.inquiry now r).outcome s.store = .error (.identity f) := by
    rw [inquiry_of_denied asked]
    rfl
  rw [answer, authorize_of_refused refused]
  rfl

theorem respond_of_posts (posts : http.Posts event) :
    (s.clientAt now).respond http = s.answer now (Client.withIdentity http event) := by
  have routed : (s.clientAt now).respond http = (s.clientAt now).authorizeRoute http := by
    simp only [Client.respond, posts.route, posts.method]
  rw [routed, Client.authorizeRoute, posts.accepted]
  rfl

theorem respond_of_identity (posts : http.Posts event) (named : event.identitySource ≠ []) :
    (s.clientAt now).respond http = s.answer now event := by
  rw [respond_of_posts posts, Client.withIdentity, if_neg (mt List.isEmpty_iff.1 named)]

theorem respond_of_noIdentity (posts : http.Posts event) (unnamed : event.identitySource = []) :
    (s.clientAt now).respond http =
      s.answer now { event with identitySource := (Client.authorization? http event).toList } := by
  rw [respond_of_posts posts, Client.withIdentity, if_pos (List.isEmpty_iff.2 unnamed)]

/-- A decision does not look at the headers of its event. -/
theorem answer_of_headers (headers : Dict String String) :
    s.answer now { event with headers } = s.answer now event := rfl

theorem respond_of_standsIn (posts : http.Posts event) (one : event.OneAuthorization)
    (unnamed : event.identitySource = []) (standsIn : Client.StandsIn http event value) :
    (s.clientAt now).respond http = s.answer now { event with identitySource := [value] } := by
  rw [respond_of_noIdentity posts unnamed, (Client.authorization?_eq_some one).2 standsIn]
  rfl

theorem respond_of_nothing (posts : http.Posts event) (one : event.OneAuthorization)
    (unnamed : event.identitySource = []) (nothing : ∀ value, ¬ Client.StandsIn http event value) :
    (s.clientAt now).respond http = denied := by
  have missing : Client.authorization? http event = none := by
    refine Option.eq_none_iff_forall_ne_some.2 fun value found => ?_
    exact nothing value ((Client.authorization?_eq_some one).1 found)
  rw [respond_of_noIdentity posts unnamed, missing]
  exact answer_of_refuses .empty

/-- An event with an identity source is answered by it, whatever headers there are. One without is
answered as if it had the value that stands in for one, which is that of its own authorization
header where it has one, be it a bearer value or not; where nothing stands in, it is denied. The
status tells none of this. -/
theorem respond_standsIn (s : Service) (now : Int) {http : Request} {event : GatewayRequest}
    (posts : http.Posts event) (one : event.OneAuthorization) :
    ((s.clientAt now).respond http).status = 200 ∧
    (event.identitySource ≠ [] → (s.clientAt now).respond http = s.answer now event ∧
      ∀ (http' : Request) (headers : Dict String String), http'.Posts { event with headers } →
        (s.clientAt now).respond http' = (s.clientAt now).respond http) ∧
    (event.identitySource = [] →
      (∀ value, Client.StandsIn http event value →
        (s.clientAt now).respond http = s.answer now { event with identitySource := [value] }) ∧
      ((∀ value, ¬ Client.StandsIn http event value) → (s.clientAt now).respond http = denied) ∧
      ∀ value, event.HasAuthorization value →
        (∀ http' : Request, http'.Posts event →
          (s.clientAt now).respond http' = (s.clientAt now).respond http) ∧
        ((∀ token, ¬ Identity.Bears value token) → (s.clientAt now).respond http = denied)) := by
  refine ⟨?_, fun named => ⟨respond_of_identity posts named, ?_⟩, fun unnamed =>
    ⟨fun value => respond_of_standsIn posts one unnamed, respond_of_nothing posts one unnamed, ?_⟩⟩
  · rw [respond_of_posts posts]
    rfl
  · intro http' headers posts'
    have named' : ({ event with headers } : GatewayRequest).identitySource ≠ [] := named
    rw [respond_of_identity posts named, respond_of_identity posts' named', answer_of_headers]
  · intro value has
    have alike {http' : Request} (posts' : http'.Posts event) :
        (s.clientAt now).respond http' = s.answer now { event with identitySource := [value] } :=
      respond_of_standsIn posts' one unnamed (.own has)
    refine ⟨fun http' posts' => (alike posts').trans (alike posts).symm, fun noBearer => ?_⟩
    refine (alike posts).trans (answer_of_refuses (.noToken ?_ ?_ ?_))
    · exact List.cons_ne_nil value []
    · exact Nat.le_succ 1
    · exact List.forall_mem_singleton.2 noBearer

/-- The event's own header is no bearer value, and that of the HTTP request is one. -/
theorem respond_standsIn_own :
    ((PoolSettings.service {} .empty (Fixtures.store {})).clientAt 0).respond
      { method := "POST", target := "/v1/authorize",
        headers := [("Content-Type", "application/json"), ("Authorization", "Bearer t")],
        body := "\x7b\"headers\": \x7b\"AUTHORIZATION\": \"t\"\x7d\x7d" } = denied := by
  have posts : Request.Posts
      { method := "POST", target := "/v1/authorize",
        headers := [("Content-Type", "application/json"), ("Authorization", "Bearer t")],
        body := "\x7b\"headers\": \x7b\"AUTHORIZATION\": \"t\"\x7d\x7d" }
      { headers := .ofList [("AUTHORIZATION", "t")] } :=
    ⟨rfl, by decide, by decide +kernel⟩
  have one : GatewayRequest.OneAuthorization { headers := .ofList [("AUTHORIZATION", "t")] } := by
    intro name listed name' listed' _ _
    exact (List.mem_singleton.1 listed).trans (List.mem_singleton.1 listed').symm
  have noBearer : ∀ token, ¬ Identity.Bears "t" token := Identity.bearer?_eq_none.1 (by decide)
  obtain ⟨_, _, unnamed⟩ := respond_standsIn _ 0 posts one
  exact ((unnamed rfl).2.2 "t" ⟨"AUTHORIZATION", by decide, by decide⟩).2 noBearer

end Service

end ClaimGate
