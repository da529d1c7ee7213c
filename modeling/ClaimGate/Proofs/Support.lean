import ClaimGate.Proofs.Outcome
import ClaimGate.Resolve

/-! What a store supports. For each step of resolving claims a relation says which answers
of a store make it succeed and with what, without running anything: whom a token stands
for, the claim on an organization, the teams of a user, and the claim on a dataset.
Proved: each step succeeds with exactly what the store supports, and fails for want of an
answer or of the dataset, never of a role. What a step may ask and note is told once, for all
properties of queries and of events. -/

namespace ClaimGate

/-- The policy makes the principal owner of every dataset that is found. -/
def Policy.Bypasses (policy : Policy) (p : Principal) : Prop :=
  p.isSuperAdmin = true ∧ policy.superAdminBypass = true

theorem Policy.bypasses_iff {policy : Policy} {p : Principal} :
    policy.Bypasses p ↔ (p.isSuperAdmin && policy.superAdminBypass) = true := by
  simp [Bypasses]

/-- The property holds of all that may be asked about a user in an organization. -/
structure Query.AllowedIn (P : Query → Prop) (user organization : Int64) : Prop where
  permission : P (.permission user organization)
  features : P (.features organization)
  dataset : ∀ nodeId, P (.datasetByNodeId organization nodeId)
  grants : ∀ dataset, P (.grants organization dataset user)

theorem Query.allowedIn_true (user organization : Int64) :
    Query.AllowedIn (fun _ => True) user organization :=
  ⟨trivial, trivial, fun _ => trivial, fun _ => trivial⟩

namespace Store

/-! ### Relations -/

/-- The token stands for the principal: its client tells in which of the two pools its
subject is looked up. -/
def Identifies (s : Store) (tokenClient : String) (t : Token) (p : Principal) : Prop :=
  if t.client = tokenClient then s.answer (.userByTokenSubject t.subject) = .ok (some p)
  else s.answer (.userBySubject t.subject) = .ok (some p)

/-- The claim is what the store says of the user in its organization; who is no member has
no permission there. -/
def SupportsOrganization (s : Store) (user : Int64) (c : OrganizationClaim) : Prop :=
  ∃ permission : Option Permission, s.answer (.permission user c.id) = .ok permission ∧
    c.permission = permission.getD .none ∧ s.answer (.features c.id) = .ok c.features

/-- The teams are those of the user. -/
def SupportsTeams (s : Store) (user : Int64) (teams : List TeamClaim) : Prop :=
  s.answer (.teams user) = .ok teams

/-- The ids are those of the teams that count for grants: none where no team has a grant,
and else all teams of the user. -/
def SupportsMemberships (s : Store) (user : Int64) (g : Grants) (memberOf : List Int64) : Prop :=
  g.teamGrants = [] ∧ memberOf = [] ∨
    g.teamGrants ≠ [] ∧ ∃ teams, s.SupportsTeams user teams ∧ memberOf = teams.map (·.id)

/-- The role is the one the principal has on a dataset that was found. -/
inductive SupportsRole (s : Store) (policy : Policy) (p : Principal) (organization : Int64)
    (dataset : Int64) : Role → Prop
  | bypass (bypasses : policy.Bypasses p) : SupportsRole s policy p organization dataset .owner
  | granted {g : Grants} {memberOf : List Int64} (ordinary : ¬ policy.Bypasses p)
      (grants : s.answer (.grants organization dataset p.id) = .ok g)
      (memberships : s.SupportsMemberships p.id g memberOf) :
      SupportsRole s policy p organization dataset (g.roleFor memberOf)

/-- The claim is on the dataset that the organization has under the node id. -/
def SupportsDataset (s : Store) (policy : Policy) (p : Principal) (organization : Int64)
    (nodeId : String) (c : DatasetClaim) : Prop :=
  ∃ d : Dataset, s.answer (.datasetByNodeId organization nodeId) = .ok (some d) ∧
    c.nodeId = d.nodeId ∧ c.id = d.id ∧ s.SupportsRole policy p organization d.id c.role

/-- A store of one user, whose tokens are all tokens, and of one dataset. -/
def single (p : Principal) (teams : List TeamClaim) (d : Dataset) (g : Grants) : Store where
  answer
    | .userBySubject _ | .userByTokenSubject _ => .ok (some p)
    | .userById id => .ok (if id = p.id then some p else none)
    | .permission _ _ => .ok none
    | .features _ => .ok []
    | .teams _ => .ok teams
    | .datasetByNodeId _ nodeId => .ok (if nodeId = d.nodeId then some d else none)
    | .grants _ _ _ => .ok g
    | .manifest _ => .ok none

end Store

/-! ### Steps -/

namespace Resolve

open Inquiry

variable {s : Store} {policy : Policy} {p : Principal}

theorem principal_eq_ok {tokenClient : String} {t : Token} :
    (principal tokenClient t).outcome s = .ok p ↔ s.Identifies tokenClient t p := by
  unfold principal Store.Identifies
  split
  · exact outcome_find_eq_ok fun _ => Iff.rfl
  · exact outcome_find_eq_ok fun _ => Iff.rfl

theorem principalById_eq_ok {id : Int64} :
    (principalById id).outcome s = .ok p ↔ s.answer (.userById id) = .ok (some p) :=
  outcome_find_eq_ok fun _ => Iff.rfl

theorem activeOrganization_eq_ok {t : Token} {organization : Int64} :
    (activeOrganization t p).outcome s = .ok organization ↔
      t.activeOrganization? p = some organization :=
  outcome_orRefuse_eq_ok

theorem organizationClaim_eq_ok {user organization : Int64} {c : OrganizationClaim} :
    (organizationClaim user organization).outcome s = .ok c ↔
      c.id = organization ∧ s.SupportsOrganization user c := by
  refine outcome_bind_eq_ok.trans ⟨?_, ?_⟩
  · rintro ⟨permission, hp, h⟩
    obtain ⟨features, hf, hc⟩ := outcome_bind_eq_ok.1 h
    obtain rfl := Except.ok.inj hc
    exact ⟨rfl, permission, outcome_lookUp_eq_ok.1 hp, rfl, outcome_lookUp_eq_ok.1 hf⟩
  · rintro ⟨rfl, permission, hp, hc, hf⟩
    refine ⟨permission, outcome_lookUp_of_ok hp, ?_⟩
    refine outcome_bind_eq_ok.2 ⟨c.features, outcome_lookUp_of_ok hf, ?_⟩
    exact congrArg Except.ok (by rw [← hc])

theorem teamClaims_eq_ok {user : Int64} {teams : List TeamClaim} :
    (teamClaims user).outcome s = .ok teams ↔ s.SupportsTeams user teams :=
  outcome_lookUp_eq_ok

theorem manifest_eq_ok {id : String} {m : Manifest} :
    (manifest id).outcome s = .ok m ↔ s.answer (.manifest id) = .ok (some m) :=
  outcome_find_eq_ok fun _ => Iff.rfl

theorem teamsFor_eq_ok {user : Int64} {g : Grants} {memberOf : List Int64} :
    (teamsFor user g).outcome s = .ok memberOf ↔ s.SupportsMemberships user g memberOf := by
  unfold teamsFor Store.SupportsMemberships
  split
  · rename_i h
    simp [List.isEmpty_iff.1 h, eq_comm]
  · rename_i h
    have hg : g.teamGrants ≠ [] := fun hg => h (by simp [hg])
    simp only [bind_eq, pure_eq, outcome_bind_eq_ok, teamClaims_eq_ok, outcome_done,
      Except.ok.injEq, hg, false_and, ne_eq, not_false_eq_true, true_and, false_or]
    exact exists_congr fun _ => and_congr_right fun _ => eq_comm

theorem datasetClaim_eq_ok {organization : Int64} {nodeId : String} {c : DatasetClaim} :
    (datasetClaim policy p organization nodeId).outcome s = .ok c ↔
      s.SupportsDataset policy p organization nodeId c := by
  refine outcome_bind_eq_ok.trans ⟨?_, ?_⟩
  · rintro ⟨found, hfound, h₁⟩
    obtain ⟨d, hd, h₂⟩ := outcome_bind_eq_ok.1 h₁
    obtain rfl := outcome_orRefuse_eq_ok.1 hd
    refine ⟨d, outcome_lookUp_eq_ok.1 hfound, ?_⟩
    split at h₂
    · rename_i hb
      obtain rfl := Except.ok.inj h₂
      exact ⟨rfl, rfl, .bypass (Policy.bypasses_iff.2 hb)⟩
    · rename_i hb
      obtain ⟨g, hg, h₃⟩ := outcome_bind_eq_ok.1 h₂
      obtain ⟨memberOf, hm, h₄⟩ := outcome_bind_eq_ok.1 h₃
      obtain rfl := Except.ok.inj h₄
      have ordinary := mt Policy.bypasses_iff.1 hb
      exact ⟨rfl, rfl, .granted ordinary (outcome_lookUp_eq_ok.1 hg) (teamsFor_eq_ok.1 hm)⟩
  · rcases c with ⟨_, _, role⟩
    rintro ⟨d, hfound, rfl, rfl, hr⟩
    refine ⟨some d, outcome_lookUp_of_ok hfound, outcome_bind_eq_ok.2 ⟨d, rfl, ?_⟩⟩
    cases hr with
    | bypass bypasses =>
      rw [if_pos (Policy.bypasses_iff.1 bypasses)]
      rfl
    | granted ordinary grants memberships =>
      rw [if_neg (mt Policy.bypasses_iff.2 ordinary)]
      refine outcome_bind_eq_ok.2 ⟨_, outcome_lookUp_of_ok grants, ?_⟩
      exact outcome_bind_eq_ok.2 ⟨_, teamsFor_eq_ok.2 memberships, rfl⟩

/-! ### Failures -/

section Failure

variable {organization : Int64} {nodeId : String}

theorem manifest_eq_error {id : String} {d : Denial} :
    (manifest id).outcome s = .error d ↔
      (∃ f, s.answer (.manifest id) = .error f ∧ d = .lookup .manifests f) ∨
        s.answer (.manifest id) = .ok none ∧ d = .manifestNotFound id :=
  outcome_find_eq_error fun _ => Iff.rfl

theorem organizationClaim_eq_error_iff {user : Int64} {d : Denial} :
    (organizationClaim user organization).outcome s = .error d ↔
      (∃ f, s.answer (.permission user organization) = .error f ∧ d = .lookup .organizations f) ∨
        ∃ f, ∃ permission : Option Permission,
          s.answer (.permission user organization) = .ok permission ∧
            s.answer (.features organization) = .error f ∧ d = .lookup .organizations f := by
  constructor
  · intro h
    rcases outcome_bind_eq_error.1 h with lost | ⟨permission, answered, h₁⟩
    · exact .inl (outcome_lookUp_eq_error.1 lost)
    rcases outcome_bind_eq_error.1 h₁ with lost | ⟨features, _, h₂⟩
    · obtain ⟨f, failed, rfl⟩ := outcome_lookUp_eq_error.1 lost
      exact .inr ⟨f, permission, outcome_lookUp_eq_ok.1 answered, failed, rfl⟩
    · exact nomatch h₂
  · rintro (lost | ⟨f, permission, answered, failed, rfl⟩)
    · exact outcome_bind_eq_error.2 (.inl (outcome_lookUp_eq_error.2 lost))
    · refine outcome_bind_eq_error.2 (.inr ⟨permission, outcome_lookUp_eq_ok.2 answered, ?_⟩)
      exact outcome_bind_eq_error.2 (.inl (outcome_lookUp_of_error failed))

theorem organizationClaim_eq_error {user : Int64} {d : Denial}
    (h : (organizationClaim user organization).outcome s = .error d) :
    ∃ f, d = .lookup .organizations f := by
  rcases organizationClaim_eq_error_iff.1 h with ⟨f, _, rfl⟩ | ⟨f, _, _, _, rfl⟩
  · exact ⟨f, rfl⟩
  · exact ⟨f, rfl⟩

theorem teamsFor_eq_error {user : Int64} {g : Grants} {d : Denial}
    (h : (teamsFor user g).outcome s = .error d) : ∃ f, d = .lookup .teams f := by
  unfold teamsFor at h
  split at h
  · exact nomatch h
  · rcases outcome_bind_eq_error.1 h with ht | ⟨teams, _, h₁⟩
    · obtain ⟨f, _, rfl⟩ := outcome_lookUp_eq_error.1 ht
      exact ⟨f, rfl⟩
    · exact nomatch h₁

/-- The claim on a dataset fails for want of the dataset or of an answer, not of a role. -/
theorem datasetClaim_eq_error {d : Denial}
    (h : (datasetClaim policy p organization nodeId).outcome s = .error d) :
    d = .datasetNotFound nodeId ∨ ∃ family f, d = .lookup family f := by
  rcases outcome_bind_eq_error.1 h with hd | ⟨found, _, h₁⟩
  · obtain ⟨f, _, rfl⟩ := outcome_lookUp_eq_error.1 hd
    exact .inr ⟨_, f, rfl⟩
  rcases outcome_bind_eq_error.1 h₁ with hn | ⟨dataset, _, h₂⟩
  · exact .inl (outcome_orRefuse_eq_error.1 hn).2
  split at h₂
  · exact nomatch h₂
  rcases outcome_bind_eq_error.1 h₂ with hg | ⟨grants, _, h₃⟩
  · obtain ⟨f, _, rfl⟩ := outcome_lookUp_eq_error.1 hg
    exact .inr ⟨_, f, rfl⟩
  rcases outcome_bind_eq_error.1 h₃ with hm | ⟨memberOf, _, h₄⟩
  · obtain ⟨f, rfl⟩ := teamsFor_eq_error hm
    exact .inr ⟨_, f, rfl⟩
  · exact nomatch h₄

end Failure

/-! ### Queries and events -/

section Queries

variable {P : Query → Prop} {N : Event → Prop}

theorem principal_keepsTo {t : Token} (tokenClient : String)
    (person : P (.userBySubject t.subject)) (service : P (.userByTokenSubject t.subject)) :
    (principal tokenClient t).KeepsTo P N := by
  unfold principal
  split
  · exact .bind (.lookUp service) fun found => .orRefuse _ found
  · exact .bind (.lookUp person) fun found => .orRefuse _ found

theorem principalById_keepsTo {id : Int64} (user : P (.userById id)) :
    (principalById id).KeepsTo P N :=
  .bind (.lookUp user) fun found => .orRefuse _ found

/-- The claim on an organization has the id that was asked for. -/
theorem organizationClaim_bind_keepsTo {α : Type} {user organization : Int64}
    {f : OrganizationClaim → Inquiry α} (allows : Query.AllowedIn P user organization)
    (rest : ∀ c, c.id = organization → (f c).KeepsTo P N) :
    ((organizationClaim user organization).bind f).KeepsTo P N := by
  refine .ask allows.permission (fun _ => rfl) fun held => ?_
  refine .ask allows.features (fun _ => rfl) fun enabled => ?_
  exact rest _ rfl

theorem teamClaims_keepsTo {user : Int64} (teams : P (.teams user)) :
    (teamClaims user).KeepsTo P N :=
  .lookUp teams

theorem teamsFor_keepsTo {user : Int64} (teams : P (.teams user)) (g : Grants) :
    (teamsFor user g).KeepsTo P N := by
  unfold teamsFor
  split
  · exact .done []
  · exact .bind (teamClaims_keepsTo teams) fun _ => .done _

theorem manifest_keepsTo {id : String} (manifest : P (.manifest id)) :
    (Resolve.manifest id).KeepsTo P N :=
  .bind (.lookUp manifest) fun found => .orRefuse _ found

theorem withLegacyTeams_keepsTo {user : Int64} (teams : P (.teams user)) (c : ClaimSet) :
    (withLegacyTeams policy user c).KeepsTo P N := by
  unfold withLegacyTeams
  split
  · exact .bind (teamClaims_keepsTo teams) fun _ => .done _
  · exact .done c

theorem datasetClaim_keepsTo {organization : Int64} (allows : Query.AllowedIn P p.id organization)
    (teams : P (.teams p.id)) (bypass : policy.Bypasses p → ∀ dataset, N (.bypass p.id dataset))
    (nodeId : String) :
    (datasetClaim policy p organization nodeId).KeepsTo P N := by
  refine .bind (.lookUp (allows.dataset nodeId)) fun found => ?_
  refine .bind (.orRefuse _ found) fun row => ?_
  split
  · rename_i bypasses
    exact .note (bypass (Policy.bypasses_iff.2 bypasses) row.id) (.done _)
  refine .bind (.lookUp (allows.grants row.id)) fun given => ?_
  exact .bind (teamsFor_keepsTo teams given) fun memberOf => .done _

end Queries

end Resolve

end ClaimGate
