import ClaimGate.Gateway
import ClaimGate.Proofs.Support

/-! Standing in an organization. Every scope within an organization begins alike: the token is
taken for a principal, an organization is found active, and the claim on it is resolved. Who
comes through these steps stands in the organization; a token that does not falters at the first
step that fails. Proved: the shared course ends exactly so, and a request on a dataset or on a
manifest goes on from it. -/

namespace ClaimGate

namespace Store

variable {s : Store} {tokenClient : String} {t : Token}

/-- What the store answers when it is asked whom the token stands for. -/
def AnswersHolder (s : Store) (tokenClient : String) (t : Token)
    (a : Except StoreFault (Option Principal)) : Prop :=
  if t.client = tokenClient then s.answer (.userByTokenSubject t.subject) = a
  else s.answer (.userBySubject t.subject) = a

/-- The token stands for the principal, and the claim is the one on its active organization. -/
structure Stands (s : Store) (tokenClient : String) (t : Token) (p : Principal)
    (c : OrganizationClaim) : Prop where
  identifies : s.Identifies tokenClient t p
  active : t.activeOrganization? p = some c.id
  member : s.SupportsOrganization p.id c

/-- Why a token comes to stand in no organization: the first step that fails. -/
inductive Falters (s : Store) (tokenClient : String) (t : Token) : Denial → Prop
  | holderLost {f : StoreFault} (failed : s.AnswersHolder tokenClient t (.error f)) :
      Falters s tokenClient t (.lookup .users f)
  | unknown (absent : s.AnswersHolder tokenClient t (.ok none)) :
      Falters s tokenClient t .principalNotFound
  | inactive {p : Principal} (identifies : s.Identifies tokenClient t p)
      (nowhere : t.activeOrganization? p = none) : Falters s tokenClient t .noActiveOrganization
  | permissionLost {p : Principal} {organization : Int64} {f : StoreFault}
      (identifies : s.Identifies tokenClient t p)
      (active : t.activeOrganization? p = some organization)
      (failed : s.answer (.permission p.id organization) = .error f) :
      Falters s tokenClient t (.lookup .organizations f)
  | featuresLost {p : Principal} {organization : Int64} {permission : Option Permission}
      {f : StoreFault} (identifies : s.Identifies tokenClient t p)
      (active : t.activeOrganization? p = some organization)
      (answered : s.answer (.permission p.id organization) = .ok permission)
      (failed : s.answer (.features organization) = .error f) :
      Falters s tokenClient t (.lookup .organizations f)

end Store

/-! ### The shared course -/

open Inquiry

namespace Resolve

variable {s : Store} {tokenClient : String} {t : Token} {p : Principal}

/-- The principal of a token and the claim on its active organization. -/
def standing (tokenClient : String) (t : Token) : Inquiry (Principal × OrganizationClaim) := do
  let p ← principal tokenClient t
  let active ← activeOrganization t p
  return (p, ← organizationClaim p.id active)

theorem principal_eq_error {d : Denial} :
    (principal tokenClient t).outcome s = .error d ↔
      (∃ f, s.AnswersHolder tokenClient t (.error f) ∧ d = .lookup .users f) ∨
        s.AnswersHolder tokenClient t (.ok none) ∧ d = .principalNotFound := by
  unfold principal Store.AnswersHolder
  split
  · exact outcome_find_eq_error fun _ => Iff.rfl
  · exact outcome_find_eq_error fun _ => Iff.rfl

theorem activeOrganization_eq_error {d : Denial} :
    (activeOrganization t p).outcome s = .error d ↔
      t.activeOrganization? p = none ∧ d = .noActiveOrganization :=
  outcome_orRefuse_eq_error

theorem standing_eq_ok {c : OrganizationClaim} :
    (standing tokenClient t).outcome s = .ok (p, c) ↔ s.Stands tokenClient t p c := by
  simp only [standing, bind_eq, pure_eq, outcome_bind_eq_ok, principal_eq_ok,
    activeOrganization_eq_ok, organizationClaim_eq_ok, outcome_done, Except.ok.injEq, Prod.mk.injEq]
  constructor
  · rintro ⟨_, identifies, _, active, _, ⟨rfl, member⟩, rfl, rfl⟩
    exact ⟨identifies, active, member⟩
  · rintro ⟨identifies, active, member⟩
    exact ⟨p, identifies, c.id, active, c, ⟨rfl, member⟩, rfl, rfl⟩

theorem standing_eq_error {d : Denial} :
    (standing tokenClient t).outcome s = .error d ↔ s.Falters tokenClient t d := by
  constructor
  · intro h
    rcases outcome_bind_eq_error.1 h with lost | ⟨p, identified, h₁⟩
    · rcases principal_eq_error.1 lost with ⟨f, failed, rfl⟩ | ⟨absent, rfl⟩
      · exact .holderLost failed
      · exact .unknown absent
    have identifies := principal_eq_ok.1 identified
    rcases outcome_bind_eq_error.1 h₁ with lost | ⟨organization, found, h₂⟩
    · obtain ⟨nowhere, rfl⟩ := activeOrganization_eq_error.1 lost
      exact .inactive identifies nowhere
    have active := activeOrganization_eq_ok.1 found
    rcases outcome_bind_eq_error.1 h₂ with lost | ⟨c, _, h₃⟩
    · rcases organizationClaim_eq_error_iff.1 lost with ⟨f, failed, rfl⟩ | ⟨f, _, answered, failed, rfl⟩
      · exact .permissionLost identifies active failed
      · exact .featuresLost identifies active answered failed
    · exact nomatch h₃
  · intro falters
    cases falters with
    | holderLost failed =>
      exact outcome_bind_eq_error.2 (.inl (principal_eq_error.2 (.inl ⟨_, failed, rfl⟩)))
    | unknown absent =>
      exact outcome_bind_eq_error.2 (.inl (principal_eq_error.2 (.inr ⟨absent, rfl⟩)))
    | inactive identifies nowhere =>
      refine outcome_bind_eq_error.2 (.inr ⟨_, principal_eq_ok.2 identifies, ?_⟩)
      exact outcome_bind_eq_error.2 (.inl (activeOrganization_eq_error.2 ⟨nowhere, rfl⟩))
    | permissionLost identifies active failed =>
      refine outcome_bind_eq_error.2 (.inr ⟨_, principal_eq_ok.2 identifies, ?_⟩)
      refine outcome_bind_eq_error.2 (.inr ⟨_, activeOrganization_eq_ok.2 active, ?_⟩)
      refine outcome_bind_eq_error.2 (.inl (organizationClaim_eq_error_iff.2 ?_))
      exact .inl ⟨_, failed, rfl⟩
    | featuresLost identifies active answered failed =>
      refine outcome_bind_eq_error.2 (.inr ⟨_, principal_eq_ok.2 identifies, ?_⟩)
      refine outcome_bind_eq_error.2 (.inr ⟨_, activeOrganization_eq_ok.2 active, ?_⟩)
      refine outcome_bind_eq_error.2 (.inl (organizationClaim_eq_error_iff.2 ?_))
      exact .inr ⟨_, _, answered, failed, rfl⟩

end Resolve

/-! ### Scopes -/

namespace Scope

variable {policy : Policy} {tokenClient : String} {t : Token}

/-- The course on a dataset, for who stands in an organization. -/
def onDataset (policy : Policy) (nodeId : String) (x : Principal × OrganizationClaim) :
    Inquiry ClaimSet :=
  (datasetClaims policy x.1 x.2 nodeId).bind fun c => Resolve.withLegacyTeams policy x.1.id c

theorem dataset_resolve_eq (nodeId : String) :
    (dataset nodeId).resolve policy tokenClient t =
      (Resolve.standing tokenClient t).bind (onDataset policy nodeId) := by
  simp only [resolve, claimsOf, Resolve.standing, bind_eq, pure_eq, Inquiry.bind_assoc]
  rfl

theorem manifest_resolve_eq (id : String) :
    (manifest id).resolve policy tokenClient t =
      (Resolve.standing tokenClient t).bind fun x =>
        (Resolve.manifest id).bind fun m => onDataset policy m.datasetNodeId x := by
  simp only [resolve, claimsOf, Resolve.standing, onDataset, bind_eq, pure_eq, Inquiry.bind_assoc]
  rfl

end Scope

end ClaimGate
