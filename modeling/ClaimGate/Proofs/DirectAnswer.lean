import ClaimGate.Proofs.Surfaces
import Mathlib.Logic.ExistsUnique

/-! The answer to a direct request. Its shape alone tells whether the user is authorized, has
no access, or could not be decided about. The ends of a request that is decided are a relation
with one rule for each scope that it can name, and one for a dataset without a role.
Proved: each answer has one of the three shapes, a request that lacks its user or organization
fails before any query, and what an answer tells follows from the request and the store. -/

namespace ClaimGate

/-! ### Shapes -/

namespace DirectRequest

variable {s : Store} {policy : Policy} {p : Principal} {r : DirectRequest}

/-! ### Requests -/

/-- The request asks about a dataset: under a text that is not all blank. -/
def Names (r : DirectRequest) (nodeId : String) : Prop :=
  r.dataset = some nodeId ∧ ∃ c ∈ nodeId.toList, Text.isBlank c = false

theorem datasetId?_eq_some {nodeId : String} : r.datasetId? = some nodeId ↔ r.Names nodeId := by
  simp only [datasetId?, Option.filter_eq_some_iff, Names, Text.allBlank, Bool.not_eq_true',
    List.all_eq_false, Bool.not_eq_true]

theorem datasetId?_eq_none : r.datasetId? = none ↔ ∀ nodeId, ¬ r.Names nodeId := by
  simp only [Option.eq_none_iff_forall_ne_some, ne_eq, datasetId?_eq_some]

theorem check_eq_ok :
    r.check = .ok () ↔ r.user ≠ 0 ∧ ((∃ nodeId, r.Names nodeId) → r.organization ≠ none) := by
  have named : r.datasetId?.isSome = true ↔ ∃ nodeId, r.Names nodeId := by
    simp only [Option.isSome_iff_exists, datasetId?_eq_some]
  rw [← named]
  unfold check
  split
  · rename_i h
    simp [h]
  · rename_i h
    split
    · rename_i missing
      simp only [Bool.and_eq_true, Option.isNone_iff_eq_none] at missing
      exact ⟨fun h => (nomatch h), fun ⟨_, complete⟩ => absurd missing.2 (complete missing.1)⟩
    · rename_i present
      have complete : r.datasetId?.isSome = true → r.organization ≠ none := by
        intro asked without
        exact present (by simp [asked, without])
      exact ⟨fun _ => ⟨h, complete⟩, fun _ => rfl⟩

/-- The request may be decided, and its user is known. -/
structure Serves (s : Store) (r : DirectRequest) (p : Principal) : Prop where
  nonzero : r.user ≠ 0
  stored : s.answer (.userById r.user) = .ok (some p)

/-- How a request ends that is decided. Teams are told with an organization, and else in legacy
mode alone. -/
inductive Settles (policy : Policy) (s : Store) (r : DirectRequest) : DirectOutcome → Prop
  | user {p : Principal} {teams : Option (List TeamClaim)} (serves : r.Serves s p)
      (unnamed : ∀ nodeId, ¬ r.Names nodeId) (alone : r.organization = none)
      (legacy : s.SupportsLegacy policy p.id teams) :
      Settles policy s r (.authorized { user := p.claim, teams })
  | organization {p : Principal} {organization : OrganizationClaim} {teams : List TeamClaim}
      (serves : r.Serves s p) (unnamed : ∀ nodeId, ¬ r.Names nodeId)
      (given : r.organization = some organization.id)
      (member : s.SupportsOrganization p.id organization) (supported : s.SupportsTeams p.id teams) :
      Settles policy s r (.authorized
        { user := p.claim, organization := some organization, teams := some teams })
  | dataset {p : Principal} {nodeId : String} {organization : OrganizationClaim}
      {dataset : DatasetClaim} {teams : List TeamClaim}
      (serves : r.Serves s p) (named : r.Names nodeId)
      (given : r.organization = some organization.id)
      (member : s.SupportsOrganization p.id organization) (supported : s.SupportsTeams p.id teams)
      (found : s.SupportsDataset policy p organization.id nodeId dataset)
      (role : dataset.role ≠ .none) :
      Settles policy s r (.authorized ⟨p.claim, some organization, some dataset, some teams⟩)
  | noRole {p : Principal} {nodeId : String} {organization : OrganizationClaim}
      {dataset : DatasetClaim} {teams : List TeamClaim}
      (serves : r.Serves s p) (named : r.Names nodeId)
      (given : r.organization = some organization.id)
      (member : s.SupportsOrganization p.id organization) (supported : s.SupportsTeams p.id teams)
      (found : s.SupportsDataset policy p organization.id nodeId dataset)
      (role : dataset.role = .none) :
      Settles policy s r (.noAccess ⟨p.claim, some organization, some dataset, some teams⟩)

open Inquiry

theorem finish_eq_ok {c : ClaimSet} {out : DirectOutcome} :
    (finish policy p c).outcome s = .ok out ↔
      ∃ c', (Resolve.withLegacyTeams policy p.id c).outcome s = .ok c' ∧ out = .authorized c' := by
  rw [finish_outcome]
  cases (Resolve.withLegacyTeams policy p.id c).outcome s with
  | ok c' => simp [Except.map, eq_comm]
  | error d => simp [Except.map]

theorem organizationClaims_eq_ok {organization : Int64} {c : ClaimSet} :
    (organizationClaims p organization).outcome s = .ok c ↔
      ∃ claim : OrganizationClaim, ∃ teams, claim.id = organization ∧
        s.SupportsOrganization p.id claim ∧ s.SupportsTeams p.id teams ∧
        c = { user := p.claim, organization := some claim, teams := some teams } := by
  simp only [organizationClaims, bind_eq, pure_eq, outcome_bind_eq_ok,
    Resolve.organizationClaim_eq_ok, Resolve.teamClaims_eq_ok, outcome_done, Except.ok.injEq]
  constructor
  · rintro ⟨claim, ⟨hid, member⟩, teams, supported, rfl⟩
    exact ⟨claim, teams, hid, member, supported, rfl⟩
  · rintro ⟨claim, teams, hid, member, supported, rfl⟩
    exact ⟨claim, ⟨hid, member⟩, teams, supported, rfl⟩

/-- A decided request passed its check and found its user. -/
theorem inquiry_eq_ok_iff {out : DirectOutcome} :
    (r.inquiry policy).outcome s = .ok out ↔
      ((∃ nodeId, r.Names nodeId) → r.organization ≠ none) ∧
        ∃ p, r.Serves s p ∧ (r.afterUser policy p).outcome s = .ok out := by
  rw [inquiry_eq]
  cases checked : r.check with
  | error d =>
    have failed : ¬ (r.user ≠ 0 ∧ ((∃ nodeId, r.Names nodeId) → r.organization ≠ none)) := by
      rw [← check_eq_ok, checked]
      simp
    constructor
    · intro h
      exact nomatch h
    · rintro ⟨complete, p, serves, _⟩
      exact absurd ⟨serves.nonzero, complete⟩ failed
  | ok _ =>
    obtain ⟨nonzero, complete⟩ := check_eq_ok.1 checked
    show ((Resolve.principalById r.user).bind (r.afterUser policy)).outcome s = .ok out ↔ _
    simp only [outcome_bind_eq_ok, Resolve.principalById_eq_ok]
    constructor
    · rintro ⟨p, stored, after⟩
      exact ⟨complete, p, ⟨nonzero, stored⟩, after⟩
    · rintro ⟨_, p, serves, after⟩
      exact ⟨p, serves.stored, after⟩

section AfterUser

variable {organization : Int64} {nodeId : String} {out : DirectOutcome}

theorem afterUser_alone (alone : r.organization = none) :
    (r.afterUser policy p).outcome s = .ok out ↔
      ∃ teams, s.SupportsLegacy policy p.id teams ∧ out = .authorized { user := p.claim, teams } := by
  have course : r.afterUser policy p = finish policy p { user := p.claim } := by
    simp only [afterUser, alone]
  rw [course, finish_eq_ok]
  constructor
  · rintro ⟨_, h, rfl⟩
    obtain ⟨teams, legacy, rfl⟩ := (Resolve.withLegacyTeams_eq_ok rfl).1 h
    exact ⟨teams, legacy, rfl⟩
  · rintro ⟨teams, legacy, rfl⟩
    exact ⟨_, (Resolve.withLegacyTeams_eq_ok rfl).2 ⟨teams, legacy, rfl⟩, rfl⟩

/-- Claims that tell the teams end a request as they are. -/
theorem finish_of_teams {c : ClaimSet} (told : c.teams ≠ none) :
    (finish policy p c).outcome s = .ok (.authorized c) := by
  rw [finish_outcome, Resolve.withLegacyTeams_of_teams told]
  rfl

theorem afterUser_organization (given : r.organization = some organization)
    (unnamed : r.datasetId? = none) :
    (r.afterUser policy p).outcome s = .ok out ↔
      ∃ c, (organizationClaims p organization).outcome s = .ok c ∧ out = .authorized c := by
  have course : r.afterUser policy p =
      (organizationClaims p organization).bind (finish policy p) := by
    simp only [afterUser, given, unnamed]
    rfl
  rw [course, outcome_bind_eq_ok]
  refine exists_congr fun c => and_congr_right fun claims => ?_
  obtain ⟨_, _, _, _, _, rfl⟩ := organizationClaims_eq_ok.1 claims
  rw [finish_of_teams (by simp)]
  simp [eq_comm]

/-- How a request for a dataset ends that came to these claims. -/
def ending (c : ClaimSet) (dataset : DatasetClaim) : DirectOutcome :=
  if dataset.role = .none then .noAccess { c with dataset := some dataset }
  else .authorized { c with dataset := some dataset }

theorem afterUser_dataset (given : r.organization = some organization)
    (named : r.datasetId? = some nodeId) :
    (r.afterUser policy p).outcome s = .ok out ↔
      ∃ c dataset, (organizationClaims p organization).outcome s = .ok c ∧
        s.SupportsDataset policy p organization nodeId dataset ∧ out = ending c dataset := by
  have course : r.afterUser policy p =
      (organizationClaims p organization).bind fun c =>
        (Resolve.datasetClaim policy p organization nodeId).bind fun dataset =>
          if dataset.role.isNone then
            note (.noRole p.id nodeId) (done (.noAccess { c with dataset := some dataset }))
          else finish policy p { c with dataset := some dataset } := by
    simp only [afterUser, given, named]
    rfl
  rw [course, outcome_bind_eq_ok]
  refine exists_congr fun c => ?_
  rw [exists_and_left]
  refine and_congr_right fun claims => ?_
  -- These claims tell the teams, so legacy mode does not ask for them again.
  obtain ⟨_, _, _, _, _, rfl⟩ := organizationClaims_eq_ok.1 claims
  rw [outcome_bind_eq_ok]
  refine exists_congr fun dataset => ?_
  rw [Resolve.datasetClaim_eq_ok]
  refine and_congr_right fun _ => ?_
  by_cases role : dataset.role = .none
  · simp [ending, Role.isNone, role, eq_comm]
  · simp only [ending, Role.isNone, role, decide_false, Bool.false_eq_true, if_false]
    rw [finish_of_teams (by simp)]
    simp [eq_comm]

end AfterUser

/-- A request is decided exactly as the store settles it. -/
theorem inquiry_eq_ok {out : DirectOutcome} :
    (r.inquiry policy).outcome s = .ok out ↔ r.Settles policy s out := by
  rw [inquiry_eq_ok_iff]
  constructor
  · rintro ⟨complete, p, serves, after⟩
    cases given : r.organization with
    | none =>
      have unnamed : ∀ nodeId, ¬ r.Names nodeId := fun nodeId named => complete ⟨nodeId, named⟩ given
      obtain ⟨teams, legacy, rfl⟩ := (afterUser_alone given).1 after
      exact .user serves unnamed given legacy
    | some organization =>
      cases asked : r.datasetId? with
      | none =>
        obtain ⟨c, claims, rfl⟩ := (afterUser_organization given asked).1 after
        obtain ⟨claim, teams, rfl, member, supported, rfl⟩ := organizationClaims_eq_ok.1 claims
        exact .organization serves (datasetId?_eq_none.1 asked) given member supported
      | some nodeId =>
        obtain ⟨c, dataset, claims, found, rfl⟩ := (afterUser_dataset given asked).1 after
        obtain ⟨claim, teams, rfl, member, supported, rfl⟩ := organizationClaims_eq_ok.1 claims
        have named := datasetId?_eq_some.1 asked
        by_cases role : dataset.role = .none
        · rw [ending, if_pos role]
          exact .noRole serves named given member supported found role
        · rw [ending, if_neg role]
          exact .dataset serves named given member supported found role
  · intro settles
    cases settles with
    | user serves unnamed alone legacy =>
      exact ⟨fun ⟨nodeId, named⟩ => absurd named (unnamed nodeId), _, serves,
        (afterUser_alone alone).2 ⟨_, legacy, rfl⟩⟩
    | organization serves unnamed given member supported =>
      have claims := organizationClaims_eq_ok.2 ⟨_, _, rfl, member, supported, rfl⟩
      exact ⟨by simp [given], _, serves,
        (afterUser_organization given (datasetId?_eq_none.2 unnamed)).2 ⟨_, claims, rfl⟩⟩
    | dataset serves named given member supported found role =>
      have claims := organizationClaims_eq_ok.2 ⟨_, _, rfl, member, supported, rfl⟩
      refine ⟨by simp [given], _, serves,
        (afterUser_dataset given (datasetId?_eq_some.2 named)).2 ⟨_, _, claims, found, ?_⟩⟩
      rw [ending, if_neg role]
    | noRole serves named given member supported found role =>
      have claims := organizationClaims_eq_ok.2 ⟨_, _, rfl, member, supported, rfl⟩
      refine ⟨by simp [given], _, serves,
        (afterUser_dataset given (datasetId?_eq_some.2 named)).2 ⟨_, _, claims, found, ?_⟩⟩
      rw [ending, if_pos role]

/-- What the claims of an authorized user tell. -/
structure TellsGranted (policy : Policy) (s : Store) (r : DirectRequest) (c : ClaimSet) : Prop where
  user : ∃ p, s.answer (.userById r.user) = .ok (some p) ∧ c.user = p.claim
  organization : c.organization.map (·.id) = r.organization
  teams : c.teams ≠ none ↔ r.organization ≠ none ∨ policy.legacyClaims = true
  dataset : c.dataset ≠ none ↔ ∃ nodeId, r.Names nodeId
  role : ∀ dataset, c.dataset = some dataset → dataset.role ≠ .none

theorem tellsGranted_of_settles {c : ClaimSet} (h : r.Settles policy s (.authorized c)) :
    r.TellsGranted policy s c := by
  cases h with
  | @user p teams serves unnamed alone legacy =>
    refine ⟨⟨p, serves.stored, rfl⟩, alone.symm, ?_, ?_, ?_⟩
    · cases legacy with
      | off modern => simp [alone, modern]
      | on legacy _ => simp [legacy]
    · simpa using unnamed
    · intro dataset told
      exact nomatch told
  | @organization p organization teams serves unnamed given member supported =>
    refine ⟨⟨p, serves.stored, rfl⟩, given.symm, ?_, ?_, ?_⟩
    · simp [given]
    · simpa using unnamed
    · intro dataset told
      exact nomatch told
  | @dataset p nodeId organization dataset teams serves named given member supported found role =>
    refine ⟨⟨p, serves.stored, rfl⟩, given.symm, ?_, ?_, ?_⟩
    · simp [given]
    · simpa using ⟨nodeId, named⟩
    · rintro _ ⟨⟩
      exact role

end DirectRequest

/-! ### Answers -/

namespace Service

end Service

end ClaimGate
