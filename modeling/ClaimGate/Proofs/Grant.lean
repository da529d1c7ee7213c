import ClaimGate.Gateway
import ClaimGate.Proofs.Context
import ClaimGate.Proofs.Support

/-! When the gateway grants a request, and with which claims. The grounds of a scope are a
relation with one rule for each kind of scope: whose answers it needs, which role, and the
claims that follow. Proved: a request is granted exactly on such grounds, and the context
of the answer then holds the claims of the grounds, each as its text, and nothing else. -/

namespace ClaimGate

/-! ### Grounds -/

/-- In legacy mode the teams of the user are told where a scope does not tell them. -/
inductive Store.SupportsLegacy (s : Store) (policy : Policy) (user : Int64) :
    Option (List TeamClaim) → Prop
  | off (modern : policy.legacyClaims = false) : SupportsLegacy s policy user none
  | on {teams : List TeamClaim} (legacy : policy.legacyClaims = true)
      (supported : s.SupportsTeams user teams) : SupportsLegacy s policy user (some teams)

/-- The claims that a principal is granted in a scope. Outside the scope of a user an
organization must be active, and on a dataset there must be a role. -/
inductive Scope.Granted (policy : Policy) (s : Store) (t : Token) (p : Principal) :
    Scope → ClaimSet → Prop
  | user {teams : Option (List TeamClaim)} (legacy : s.SupportsLegacy policy p.id teams) :
      Granted policy s t p .user { user := p.claim, teams }
  | workspace {requested : Int64} {organization : OrganizationClaim} {teams : List TeamClaim}
      (active : t.activeOrganization? p = some organization.id)
      (member : s.SupportsOrganization p.id organization)
      (supported : s.SupportsTeams p.id teams) :
      Granted policy s t p (.workspace requested)
        { user := p.claim, organization := some organization, teams := some teams }
  | dataset {nodeId : String} {organization : OrganizationClaim} {dataset : DatasetClaim}
      {teams : Option (List TeamClaim)}
      (active : t.activeOrganization? p = some organization.id)
      (member : s.SupportsOrganization p.id organization)
      (supported : s.SupportsDataset policy p organization.id nodeId dataset)
      (role : dataset.role ≠ .none) (legacy : s.SupportsLegacy policy p.id teams) :
      Granted policy s t p (.dataset nodeId)
        { user := p.claim, organization := some organization, dataset := some dataset, teams }
  | manifest {id : String} {m : Manifest} {organization : OrganizationClaim}
      {dataset : DatasetClaim} {teams : Option (List TeamClaim)}
      (active : t.activeOrganization? p = some organization.id)
      (member : s.SupportsOrganization p.id organization)
      (found : s.answer (.manifest id) = .ok (some m))
      (supported : s.SupportsDataset policy p organization.id m.datasetNodeId dataset)
      (role : dataset.role ≠ .none) (legacy : s.SupportsLegacy policy p.id teams) :
      Granted policy s t p (.manifest id)
        { user := p.claim, organization := some organization, dataset := some dataset, teams }

/-- The request identifies its caller and a scope, its token is good and stands for a
principal, and the principal is granted the claims in the scope. -/
def Service.Grants (s : Service) (now : Int) (r : GatewayRequest) (c : ClaimSet) : Prop :=
  ∃ i scope t p, Identity.ofValues r.identitySource = .ok i ∧ Scope.select i r.query = .ok scope ∧
    s.validator.validate i.token now = .ok t ∧ s.store.Identifies s.tokenClient t p ∧
    scope.Granted s.policy s.store t p c

/-! ### Scopes -/

open Inquiry

variable {s : Store} {policy : Policy} {p : Principal} {t : Token}

/-- Claims that tell the teams stay as they are. -/
theorem Resolve.withLegacyTeams_of_teams {user : Int64} {c : ClaimSet} (h : c.teams ≠ none) :
    withLegacyTeams policy user c = done c := by
  simp [withLegacyTeams, h]

theorem Resolve.withLegacyTeams_eq_ok {user : Int64} {c c' : ClaimSet} (h : c.teams = none) :
    (withLegacyTeams policy user c).outcome s = .ok c' ↔
      ∃ teams, s.SupportsLegacy policy user teams ∧ c' = { c with teams } := by
  unfold withLegacyTeams
  cases hl : policy.legacyClaims with
  | false =>
    simp only [Bool.false_and, Bool.false_eq_true, if_false, pure_eq, outcome_done, Except.ok.injEq]
    constructor
    · rintro rfl
      exact ⟨none, .off hl, by rw [← h]⟩
    · rintro ⟨_, legacy, rfl⟩
      cases legacy with
      | off => rw [← h]
      | on legacy => simp [hl] at legacy
  | true =>
    simp only [h, Option.isNone_none, Bool.and_self, if_true, bind_eq, pure_eq, outcome_bind_eq_ok,
      teamClaims_eq_ok, outcome_done, Except.ok.injEq]
    constructor
    · rintro ⟨teams, supported, rfl⟩
      exact ⟨some teams, .on hl supported, rfl⟩
    · rintro ⟨_, legacy, rfl⟩
      cases legacy with
      | off modern => simp [hl] at modern
      | on _ supported => exact ⟨_, supported, rfl⟩

/-- Where the teams are known, claims without teams tell them in legacy mode alone. -/
theorem Resolve.withLegacyTeams_of_supported {user : Int64} {c : ClaimSet} (h : c.teams = none)
    {teams : List TeamClaim} (supported : s.SupportsTeams user teams) :
    (withLegacyTeams policy user c).outcome s =
      .ok { c with teams := if policy.legacyClaims then some teams else none } := by
  refine (withLegacyTeams_eq_ok h).2 ⟨_, ?_, rfl⟩
  cases legacy : policy.legacyClaims with
  | true => exact .on legacy supported
  | false => exact .off legacy

theorem Scope.datasetClaims_eq_ok {organization : OrganizationClaim} {nodeId : String}
    {c : ClaimSet} :
    (datasetClaims policy p organization nodeId).outcome s = .ok c ↔
      ∃ dataset : DatasetClaim, s.SupportsDataset policy p organization.id nodeId dataset ∧
        dataset.role ≠ .none ∧
        c = { user := p.claim, organization := some organization, dataset := some dataset } := by
  simp only [datasetClaims, bind_eq, outcome_bind_eq_ok, Resolve.datasetClaim_eq_ok]
  refine exists_congr fun dataset => and_congr_right fun _ => ?_
  by_cases h : dataset.role = .none
  · simp [Role.isNone, h]
  · simp [Role.isNone, h, eq_comm]

/-- The claims of a scope, with the teams of legacy mode, are those it has grounds for. -/
theorem Scope.claimsOf_eq_ok {scope : Scope} {c : ClaimSet} :
    ((scope.claimsOf policy t p).bind fun c => Resolve.withLegacyTeams policy p.id c).outcome s =
      .ok c ↔ scope.Granted policy s t p c := by
  simp only [outcome_bind_eq_ok]
  cases scope with
  | user =>
    constructor
    · rintro ⟨_, h, hc⟩
      obtain rfl := Except.ok.inj h
      obtain ⟨teams, legacy, rfl⟩ := (Resolve.withLegacyTeams_eq_ok rfl).1 hc
      exact .user legacy
    · rintro ⟨legacy⟩
      exact ⟨_, rfl, (Resolve.withLegacyTeams_eq_ok rfl).2 ⟨_, legacy, rfl⟩⟩
  | workspace requested =>
    simp only [claimsOf, bind_eq, pure_eq, outcome_bind_eq_ok, Resolve.activeOrganization_eq_ok,
      Resolve.organizationClaim_eq_ok, Resolve.teamClaims_eq_ok, outcome_done]
    constructor
    · rintro ⟨_, ⟨_, active, organization, ⟨rfl, member⟩, teams, supported, h⟩, hc⟩
      obtain rfl := Except.ok.inj h
      rw [Resolve.withLegacyTeams_of_teams (by simp)] at hc
      obtain rfl := Except.ok.inj hc
      exact .workspace active member supported
    · intro granted
      cases granted with
      | workspace active member supported =>
        refine ⟨_, ⟨_, active, _, ⟨rfl, member⟩, _, supported, rfl⟩, ?_⟩
        rw [Resolve.withLegacyTeams_of_teams (by simp)]
        rfl
  | dataset nodeId =>
    simp only [claimsOf, bind_eq, outcome_bind_eq_ok, Resolve.activeOrganization_eq_ok,
      Resolve.organizationClaim_eq_ok, datasetClaims_eq_ok]
    constructor
    · rintro ⟨_, ⟨_, active, organization, ⟨rfl, member⟩, dataset, supported, role, rfl⟩, hc⟩
      obtain ⟨teams, legacy, rfl⟩ := (Resolve.withLegacyTeams_eq_ok rfl).1 hc
      exact .dataset active member supported role legacy
    · intro granted
      cases granted with
      | dataset active member supported role legacy =>
        refine ⟨_, ⟨_, active, _, ⟨rfl, member⟩, _, supported, role, rfl⟩, ?_⟩
        exact (Resolve.withLegacyTeams_eq_ok rfl).2 ⟨_, legacy, rfl⟩
  | manifest id =>
    simp only [claimsOf, bind_eq, outcome_bind_eq_ok, Resolve.activeOrganization_eq_ok,
      Resolve.organizationClaim_eq_ok, Resolve.manifest_eq_ok, datasetClaims_eq_ok]
    constructor
    · rintro ⟨_, ⟨_, active, organization, ⟨rfl, member⟩, m, found, dataset, supported, role, rfl⟩, hc⟩
      obtain ⟨teams, legacy, rfl⟩ := (Resolve.withLegacyTeams_eq_ok rfl).1 hc
      exact .manifest active member found supported role legacy
    · intro granted
      cases granted with
      | manifest active member found supported role legacy =>
        refine ⟨_, ⟨_, active, _, ⟨rfl, member⟩, _, found, _, supported, role, rfl⟩, ?_⟩
        exact (Resolve.withLegacyTeams_eq_ok rfl).2 ⟨_, legacy, rfl⟩

theorem Scope.resolve_eq_ok {tokenClient : String} {scope : Scope} {c : ClaimSet} :
    (scope.resolve policy tokenClient t).outcome s = .ok c ↔
      ∃ p, s.Identifies tokenClient t p ∧ scope.Granted policy s t p c := by
  simp only [resolve, bind_eq]
  rw [outcome_bind_eq_ok]
  simp only [Resolve.principal_eq_ok, claimsOf_eq_ok]

/-! ### Queries and events -/

namespace Scope

/-- The course after the principal is known. -/
def afterPrincipal (policy : Policy) (t : Token) (scope : Scope) (p : Principal) :
    Inquiry ClaimSet :=
  (scope.claimsOf policy t p).bind fun c => Resolve.withLegacyTeams policy p.id c

theorem resolve_eq {tokenClient : String} (scope : Scope) :
    scope.resolve policy tokenClient t =
      (Resolve.principal tokenClient t).bind (scope.afterPrincipal policy t) :=
  rfl

section KeepsTo

variable {P : Query → Prop} {N : Event → Prop}

/-- The dataset is looked up in the organization that the claim on it names. -/
theorem datasetClaims_keepsTo {c : OrganizationClaim} (allows : Query.AllowedIn P p.id c.id)
    (teams : P (.teams p.id)) (bypass : policy.Bypasses p → ∀ dataset, N (.bypass p.id dataset))
    (nodeId : String) :
    (datasetClaims policy p c nodeId).KeepsTo P N := by
  refine .bind (Resolve.datasetClaim_keepsTo allows teams bypass nodeId) fun dataset => ?_
  split
  · exact .refuse _
  · exact .done _

/-- Behind the principal a course asks about the organization that is active, for the teams and
for the manifest of its scope. -/
theorem afterPrincipal_keepsTo {scope : Scope}
    (allows : ∀ organization, t.activeOrganization? p = some organization →
      Query.AllowedIn P p.id organization)
    (teams : P (.teams p.id)) (manifest : ∀ id, scope = .manifest id → P (.manifest id))
    (bypass : policy.Bypasses p → ∀ dataset, N (.bypass p.id dataset)) :
    (scope.afterPrincipal policy t p).KeepsTo P N := by
  refine .bind ?_ fun c => Resolve.withLegacyTeams_keepsTo teams c
  -- The claim has the id that was asked for, and what follows asks about that.
  have within {f : OrganizationClaim → Inquiry ClaimSet}
      (rest : ∀ c, Query.AllowedIn P p.id c.id → (f c).KeepsTo P N) :
      ((Resolve.activeOrganization t p).bind fun active =>
        (Resolve.organizationClaim p.id active).bind f).KeepsTo P N := by
    unfold Resolve.activeOrganization
    cases active : t.activeOrganization? p with
    | none => exact .refuse _
    | some organization =>
      refine Resolve.organizationClaim_bind_keepsTo (allows organization active) fun c own => ?_
      exact rest c (own ▸ allows organization active)
  cases scope with
  | user => exact .done _
  | workspace requested =>
    exact within fun c _ => .bind (Resolve.teamClaims_keepsTo teams) fun _ => .done _
  | dataset nodeId =>
    exact within fun c allowed => datasetClaims_keepsTo allowed teams bypass nodeId
  | manifest id =>
    refine within fun c allowed => ?_
    refine .bind (Resolve.manifest_keepsTo (manifest id rfl)) fun m => ?_
    exact datasetClaims_keepsTo allowed teams bypass m.datasetNodeId

end KeepsTo

/-- What a token has in a scope is resolved by look-ups alone. -/
theorem resolve_failsFast (tokenClient : String) (scope : Scope) :
    (scope.resolve policy tokenClient t).FailsFast := by
  refine .bind (Resolve.principal_keepsTo tokenClient trivial trivial) fun p => ?_
  exact afterPrincipal_keepsTo (fun organization _ => Query.allowedIn_true p.id organization)
    trivial (fun _ _ => trivial) fun _ _ => trivial

end Scope

/-! ### Requests -/

theorem GatewayRequest.scope_eq_ok {r : GatewayRequest} {i : Identity} {scope : Scope} :
    r.scope = .ok (i, scope) ↔
      Identity.ofValues r.identitySource = .ok i ∧ Scope.select i r.query = .ok scope := by
  unfold GatewayRequest.scope
  cases Identity.ofValues r.identitySource with
  | error f => simp
  | ok i' =>
    cases hs : Scope.select i' r.query with
    | error f =>
      simp only [hs, reduceCtorEq, Except.ok.injEq, false_iff, not_and]
      rintro rfl
      simp [hs]
    | ok scope' =>
      simp only [hs, Except.ok.injEq, Prod.mk.injEq]
      constructor
      · rintro ⟨rfl, rfl⟩
        exact ⟨rfl, hs⟩
      · rintro ⟨rfl, selected⟩
        exact ⟨rfl, Except.ok.inj (hs.symm.trans selected)⟩

namespace Service

section Course

variable {s : Service} {now : Int} {r : GatewayRequest} {i : Identity} {scope : Scope}

theorem inquiry_of_denied {d : Denial} (asked : r.scope = .error d) :
    s.inquiry now r = .refuse d := by
  simp only [inquiry, asked]

theorem inquiry_of_refused {f : TokenFault} (asked : r.scope = .ok (i, scope))
    (refused : s.validator.validate i.token now = .error f) :
    s.inquiry now r = .refuse (.token f) := by
  simp only [inquiry, asked, refused]

theorem inquiry_of_accepted {t : Token} (asked : r.scope = .ok (i, scope))
    (accepted : s.validator.validate i.token now = .ok t) :
    s.inquiry now r = scope.resolve s.policy s.tokenClient t := by
  simp only [inquiry, asked, accepted]

/-- A gateway decision does not go on without an answer. -/
theorem inquiry_failsFast (s : Service) (now : Int) (r : GatewayRequest) :
    (s.inquiry now r).FailsFast := by
  unfold inquiry
  split
  · exact .refuse _
  split
  · exact .refuse _
  · exact Scope.resolve_failsFast s.tokenClient _

end Course

theorem inquiry_eq_ok {s : Service} {now : Int} {r : GatewayRequest} {c : ClaimSet} :
    (s.inquiry now r).outcome s.store = .ok c ↔ s.Grants now r c := by
  unfold inquiry Grants GatewayRequest.scope
  cases hi : Identity.ofValues r.identitySource with
  | error f => simp
  | ok i =>
    cases hs : Scope.select i r.query with
    | error f => simp [hs]
    | ok scope =>
      cases hv : s.validator.validate i.token now with
      | error f => simp [hs, hv]
      | ok t => simp [hs, hv, Scope.resolve_eq_ok]

theorem authorize_of_grants {s : Service} {now : Int} {r : GatewayRequest} {c : ClaimSet}
    (h : s.Grants now r c) : (s.authorize now r).1 = .allow c := by
  have ho : ((s.inquiry now r).run s.store).1 = .ok c := inquiry_eq_ok.2 h
  unfold authorize
  split
  · rename_i hr
    rw [hr] at ho
    obtain rfl := Except.ok.inj ho
    rfl
  · rename_i hr
    rw [hr] at ho
    exact nomatch ho

/-- Without grounds the answer says nothing but that it is a denial. -/
theorem authorize_of_not_grants {s : Service} {now : Int} {r : GatewayRequest}
    (h : ∀ c, ¬ s.Grants now r c) : (s.authorize now r).1 = .deny := by
  unfold authorize
  split
  · rename_i c _ hr
    exact absurd (inquiry_eq_ok.1 (by rw [outcome, hr])) (h c)
  · rfl

theorem authorize_of_refused {s : Service} {now : Int} {r : GatewayRequest} {d : Denial}
    (h : (s.inquiry now r).outcome s.store = .error d) : (s.authorize now r).1 = .deny := by
  apply authorize_of_not_grants
  intro c grants
  rw [inquiry_eq_ok.2 grants] at h
  exact nomatch h

/-- The answer and what is recorded of it hang on the run alone. -/
theorem authorize_congr {s s' : Service} {r r' : GatewayRequest} {now now' : Int}
    (h : (s.inquiry now r).run s.store = (s'.inquiry now' r').run s'.store) :
    s.authorize now r = s'.authorize now' r' := by
  unfold authorize
  rw [h]

end Service

/-- A request is granted exactly on its grounds. The context of the answer then holds the
claims that follow, and without grounds there is none. -/
theorem Service.authorize_isAuthorized_iff (s : Service) (now : Int) (r : GatewayRequest) :
    ((s.authorize now r).1.isAuthorized = true ↔ ∃ c, s.Grants now r c) ∧
      (∀ c, s.Grants now r c → ∃ context, (s.authorize now r).1 = ⟨true, some context⟩ ∧
        ∀ k text, context.get? k = some text ↔
          ∃ l j, k = Label.name l ∧ c.claim? l = some j ∧ text = j.text) ∧
      ((∀ c, ¬ s.Grants now r c) → (s.authorize now r).1 = ⟨false, none⟩) := by
  refine ⟨⟨fun h => ?_, fun ⟨c, hc⟩ => ?_⟩, fun c hc => ?_, authorize_of_not_grants⟩
  · rcases Classical.em (∃ c, s.Grants now r c) with hg | hg
    · exact hg
    · rw [authorize_of_not_grants (not_exists.1 hg)] at h
      exact nomatch h
  · rw [authorize_of_grants hc]
    rfl
  · exact ⟨c.context, authorize_of_grants hc, fun _ _ => ClaimSet.get?_context_eq_some⟩

end ClaimGate
