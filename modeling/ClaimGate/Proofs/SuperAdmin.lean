import ClaimGate.Proofs.LegacyMode
import ClaimGate.Proofs.Standing

/-! The bypass for super-admins. The switch counts in one place: where a dataset was found for a
super-admin, the claim on it has the role of an owner, and no grants are asked for. Proved: who
is no super-admin, and who comes to no dataset, is answered and recorded alike in both positions
of the switch. A super-admin keeps what it is granted without the bypass, but as owner, and is
granted every dataset that is found. A dataset that the organization does not have is granted to
no one. -/

namespace ClaimGate

open Inquiry

/-- The policy with the bypass on or off. -/
def Policy.withBypass (policy : Policy) (bypass : Bool) : Policy :=
  { policy with superAdminBypass := bypass }

/-- The service with the bypass on or off. -/
def Service.withBypass (s : Service) (bypass : Bool) : Service :=
  { s with policy := s.policy.withBypass bypass }

/-- The claim of the owner. -/
def Dataset.owned (d : Dataset) : DatasetClaim := ⟨d.nodeId, d.id, .owner⟩

theorem Dataset.owned_role (d : Dataset) : d.owned.role ≠ .none := nofun

/-- The claims, but as owner of the dataset that they tell. -/
def ClaimSet.owned (c : ClaimSet) : ClaimSet :=
  { c with dataset := c.dataset.map fun x => { x with role := .owner } }

/-! ### Datasets that are found -/

/-- The organization has the dataset that the scope leads to. -/
inductive Scope.Finds (s : Store) (organization : Int64) : Scope → Dataset → Prop
  | dataset {nodeId : String} {d : Dataset}
      (found : s.answer (.datasetByNodeId organization nodeId) = .ok (some d)) :
      Finds s organization (.dataset nodeId) d
  | manifest {id : String} {m : Manifest} {d : Dataset}
      (named : s.answer (.manifest id) = .ok (some m))
      (found : s.answer (.datasetByNodeId organization m.datasetNodeId) = .ok (some d)) :
      Finds s organization (.manifest id) d

/-- The request comes to a dataset: its token is good, stands for the principal and for the
organization, and this has the dataset that the scope leads to. -/
def Service.Finds (s : Service) (now : Int) (r : GatewayRequest) (p : Principal)
    (o : OrganizationClaim) (d : Dataset) : Prop :=
  ∃ i scope t, r.scope = .ok (i, scope) ∧ s.validator.validate i.token now = .ok t ∧
    s.store.Stands s.tokenClient t p o ∧ scope.Finds s.store o.id d

/-- A direct request comes to a dataset after the claims on its organization. -/
structure DirectRequest.Finds (s : Store) (r : DirectRequest) (p : Principal)
    (o : OrganizationClaim) (d : Dataset) : Prop where
  serves : r.Serves s p
  given : r.organization = some o.id
  member : s.SupportsOrganization p.id o
  teams : ∃ teams, s.SupportsTeams p.id teams
  found : ∃ nodeId, r.Names nodeId ∧ s.answer (.datasetByNodeId o.id nodeId) = .ok (some d)

/-! ### Results with and without -/

/-- What the bypass changes in the result of a request. The request acts for a principal, may find
a dataset for it in an organization, and its claims then tell certain teams; the results grant
claims or none. -/
structure BypassWidens {ρ : Type} (acts : Principal → Prop)
    (finds : Principal → OrganizationClaim → Dataset → Prop)
    (tells : Principal → Option (List TeamClaim) → Prop) (grants : ρ → ClaimSet → Prop)
    (off on : ρ) : Prop where
  ordinary : (∀ p, acts p → p.isSuperAdmin = false) → on = off
  unfound : (∀ p o d, ¬ finds p o d) → on = off
  owned : ∀ p c, acts p → p.isSuperAdmin = true → grants off c → grants on c.owned
  kept : ∀ c, grants off c → ∃ c', grants on c'
  found : ∀ c x, grants on c → c.dataset = some x →
    ∃ p o d, finds p o d ∧ c.organization = some o ∧ x.nodeId = d.nodeId ∧ x.id = d.id
  owner : ∀ p o d teams, finds p o d → p.isSuperAdmin = true → tells p teams →
    grants on ⟨p.claim, some o, some d.owned, teams⟩

section Widens

variable {ρ : Type} {acts : Principal → Prop}
  {finds : Principal → OrganizationClaim → Dataset → Prop}
  {tells : Principal → Option (List TeamClaim) → Prop} {grants : ρ → ClaimSet → Prop} {off on : ρ}

/-- Where a request acts for one principal at most, the rest follows from what is found for it. -/
theorem bypassWidens_of_found (unique : ∀ p p', acts p → acts p' → p = p')
    (acts_of_finds : ∀ p o d, finds p o d → acts p)
    (acts_of_grants : ∀ c, grants off c → ∃ p, acts p)
    (same : (∀ p o d, finds p o d → p.isSuperAdmin = false) → on = off)
    (owned : ∀ p c, acts p → p.isSuperAdmin = true → grants off c → grants on c.owned)
    (found : ∀ c x, grants on c → c.dataset = some x →
      ∃ p o d, finds p o d ∧ c.organization = some o ∧ x.nodeId = d.nodeId ∧ x.id = d.id)
    (owner : ∀ p o d teams, finds p o d → p.isSuperAdmin = true → tells p teams →
      grants on ⟨p.claim, some o, some d.owned, teams⟩) :
    BypassWidens acts finds tells grants off on where
  ordinary none := same fun p o d h => none p (acts_of_finds p o d h)
  unfound none := same fun p o d h => absurd h (none p o d)
  owned := owned
  kept c h := by
    obtain ⟨p, hp⟩ := acts_of_grants c h
    cases admin : p.isSuperAdmin with
    | true => exact ⟨c.owned, owned p c hp admin h⟩
    | false =>
      have ordinary : ∀ q o d, finds q o d → q.isSuperAdmin = false := by
        intro q o d hq
        rw [unique q p (acts_of_finds q o d hq) hp, admin]
      exact ⟨c, (same ordinary).symm ▸ h⟩
  found := found
  owner := owner

end Widens

/-! ### Steps -/

variable {s : Store} {policy : Policy} {p : Principal} {t : Token} {tokenClient : String}

namespace Resolve

variable {organization : Int64} {nodeId : String}

/-- The claim on a dataset hangs on the switch only where one is found for a super-admin. -/
theorem datasetClaim_run_withBypass
    (h : ∀ d, s.answer (.datasetByNodeId organization nodeId) = .ok (some d) →
      p.isSuperAdmin = false) :
    (datasetClaim (policy.withBypass true) p organization nodeId).run s =
      (datasetClaim (policy.withBypass false) p organization nodeId).run s := by
  cases admin : p.isSuperAdmin with
  | false => simp only [datasetClaim, admin, Bool.false_and]
  | true =>
    -- The switch is read once the dataset is found; without one both courses end before that.
    refine run_bind_congr rfl fun found answered => ?_
    cases found with
    | none => rfl
    | some d => exact absurd (h d (outcome_lookUp_eq_ok.1 answered)) (by simp [admin])

end Resolve

/-- The teams that are told hang on legacy mode alone. -/
theorem Store.SupportsLegacy.congr {policy' : Policy} {user : Int64}
    {teams : Option (List TeamClaim)} (h : s.SupportsLegacy policy user teams)
    (same : policy.legacyClaims = policy'.legacyClaims) : s.SupportsLegacy policy' user teams := by
  cases h with
  | off modern => exact .off (same.symm.trans modern)
  | on legacy supported => exact .on (same.symm.trans legacy) supported

/-- A claim on a dataset becomes the claim of its owner. -/
theorem Store.SupportsDataset.owned {organization : Int64} {nodeId : String} {c : DatasetClaim}
    (admin : p.isSuperAdmin = true)
    (h : s.SupportsDataset (policy.withBypass false) p organization nodeId c) :
    s.SupportsDataset (policy.withBypass true) p organization nodeId { c with role := .owner } := by
  obtain ⟨d, found, hn, hi, _⟩ := h
  exact ⟨d, found, hn, hi, .bypass ⟨admin, rfl⟩⟩

theorem Store.supportsDataset_owned {organization : Int64} {nodeId : String} {d : Dataset}
    (admin : p.isSuperAdmin = true)
    (found : s.answer (.datasetByNodeId organization nodeId) = .ok (some d)) :
    s.SupportsDataset (policy.withBypass true) p organization nodeId d.owned :=
  ⟨d, found, rfl, rfl, .bypass ⟨admin, rfl⟩⟩

/-! ### The gateway -/

namespace Scope

theorem onDataset_run_withBypass {nodeId : String} {x : Principal × OrganizationClaim}
    (h : ∀ d, s.answer (.datasetByNodeId x.2.id nodeId) = .ok (some d) →
      x.1.isSuperAdmin = false) :
    (onDataset (policy.withBypass true) nodeId x).run s =
      (onDataset (policy.withBypass false) nodeId x).run s := by
  refine run_bind_congr ?_ fun _ _ => rfl
  exact run_bind_congr (Resolve.datasetClaim_run_withBypass h) fun _ _ => rfl

theorem resolve_run_withBypass {scope : Scope}
    (h : ∀ p o d, s.Stands tokenClient t p o → scope.Finds s o.id d → p.isSuperAdmin = false) :
    (scope.resolve (policy.withBypass true) tokenClient t).run s =
      (scope.resolve (policy.withBypass false) tokenClient t).run s := by
  cases scope with
  | user => rfl
  | workspace requested => rfl
  | dataset nodeId =>
    rw [dataset_resolve_eq, dataset_resolve_eq]
    refine run_bind_congr rfl fun x stands => onDataset_run_withBypass fun d found => ?_
    exact h x.1 x.2 d (Resolve.standing_eq_ok.1 stands) (.dataset found)
  | manifest id =>
    rw [manifest_resolve_eq, manifest_resolve_eq]
    refine run_bind_congr rfl fun x stands => run_bind_congr rfl fun m named => ?_
    refine onDataset_run_withBypass fun d found => ?_
    exact h x.1 x.2 d (Resolve.standing_eq_ok.1 stands) (.manifest (Resolve.manifest_eq_ok.1 named) found)

theorem Granted.owned {scope : Scope} {c : ClaimSet} (admin : p.isSuperAdmin = true)
    (h : scope.Granted (policy.withBypass false) s t p c) :
    scope.Granted (policy.withBypass true) s t p c.owned := by
  cases h with
  | user legacy =>
    exact .user (legacy.congr rfl)
  | workspace active member supported => exact .workspace active member supported
  | dataset active member supported role legacy =>
    exact .dataset active member (supported.owned admin) (by simp) (legacy.congr rfl)
  | manifest active member found supported role legacy =>
    exact .manifest active member found (supported.owned admin) (by simp) (legacy.congr rfl)

/-- A dataset that is told was found in the organization that is told. -/
theorem Granted.finds {scope : Scope} {c : ClaimSet} {x : DatasetClaim}
    (h : scope.Granted policy s t p c) (told : c.dataset = some x) :
    ∃ o d, t.activeOrganization? p = some o.id ∧ s.SupportsOrganization p.id o ∧
      scope.Finds s o.id d ∧ c.organization = some o ∧ x.nodeId = d.nodeId ∧ x.id = d.id := by
  cases h with
  | user => exact nomatch told
  | workspace => exact nomatch told
  | @dataset nodeId o dataset teams active member supported =>
    obtain rfl := Option.some.inj told
    obtain ⟨d, found, hn, hi, _⟩ := supported
    exact ⟨o, d, active, member, .dataset found, rfl, hn, hi⟩
  | @manifest id m o dataset teams active member named supported =>
    obtain rfl := Option.some.inj told
    obtain ⟨d, found, hn, hi, _⟩ := supported
    exact ⟨o, d, active, member, .manifest named found, rfl, hn, hi⟩

theorem Finds.granted {scope : Scope} {o : OrganizationClaim} {d : Dataset}
    {teams : Option (List TeamClaim)} (h : scope.Finds s o.id d)
    (active : t.activeOrganization? p = some o.id) (member : s.SupportsOrganization p.id o)
    (admin : p.isSuperAdmin = true) (legacy : s.SupportsLegacy policy p.id teams) :
    scope.Granted (policy.withBypass true) s t p ⟨p.claim, some o, some d.owned, teams⟩ := by
  cases h with
  | dataset found =>
    exact .dataset active member (Store.supportsDataset_owned admin found) d.owned_role
      (legacy.congr rfl)
  | manifest named found =>
    exact .manifest active member named (Store.supportsDataset_owned admin found) d.owned_role
      (legacy.congr rfl)

end Scope

theorem Store.Identifies.unique {p' : Principal} (h : s.Identifies tokenClient t p)
    (h' : s.Identifies tokenClient t p') : p = p' := by
  unfold Store.Identifies at h h'
  split at h
  · rw [if_pos ‹_›] at h'
    exact Option.some.inj (Except.ok.inj (h.symm.trans h'))
  · rw [if_neg ‹_›] at h'
    exact Option.some.inj (Except.ok.inj (h.symm.trans h'))

namespace Service

variable {s : Service} {now : Int} {r : GatewayRequest}

/-- What a gateway request comes to: its claims or denial, the answer, and what is recorded. -/
def decided (s : Service) (now : Int) (r : GatewayRequest) :
    Except Denial ClaimSet × GatewayResponse × List Event :=
  ((s.inquiry now r).outcome s.store, s.authorize now r)

/-- The request is granted the claims and answered with them. -/
def Allows (a : Except Denial ClaimSet × GatewayResponse × List Event) (c : ClaimSet) : Prop :=
  a.1 = .ok c ∧ a.2.1 = .allow c

theorem allows_decided {c : ClaimSet} : Allows (s.decided now r) c ↔ s.Grants now r c := by
  constructor
  · exact fun h => inquiry_eq_ok.1 h.1
  · exact fun h => ⟨inquiry_eq_ok.2 h, authorize_of_grants h⟩

theorem ActsFor.unique {p p' : Principal} (h : s.ActsFor now r p) (h' : s.ActsFor now r p') :
    p = p' := by
  obtain ⟨i, t, source, good, identifies⟩ := h
  obtain ⟨i', t', source', good', identifies'⟩ := h'
  obtain rfl := Except.ok.inj (source.symm.trans source')
  obtain rfl := Except.ok.inj (good.symm.trans good')
  exact identifies.unique identifies'

theorem Finds.actsFor {p : Principal} {o : OrganizationClaim} {d : Dataset}
    (h : s.Finds now r p o d) : s.ActsFor now r p := by
  obtain ⟨i, scope, t, asked, good, stands, _⟩ := h
  exact ⟨i, t, (GatewayRequest.scope_eq_ok.1 asked).1, good, stands.identifies⟩

theorem decided_withBypass (h : ∀ p o d, s.Finds now r p o d → p.isSuperAdmin = false) :
    (s.withBypass true).decided now r = (s.withBypass false).decided now r := by
  have run : ((s.withBypass true).inquiry now r).run s.store =
      ((s.withBypass false).inquiry now r).run s.store := by
    cases asked : r.scope with
    | error d => rw [inquiry_of_denied asked, inquiry_of_denied asked]
    | ok who =>
      obtain ⟨i, scope⟩ := who
      cases good : s.validator.validate i.token now with
      | error f =>
        have course (bypass : Bool) : (s.withBypass bypass).inquiry now r = .refuse (.token f) :=
          inquiry_of_refused asked good
        rw [course, course]
      | ok t =>
        have course (bypass : Bool) : (s.withBypass bypass).inquiry now r =
            scope.resolve (s.policy.withBypass bypass) s.tokenClient t :=
          inquiry_of_accepted asked good
        rw [course, course]
        exact Scope.resolve_run_withBypass fun p o d stands finds =>
          h p o d ⟨i, scope, t, asked, good, stands, finds⟩
  have outcome : ((s.withBypass true).inquiry now r).outcome s.store =
      ((s.withBypass false).inquiry now r).outcome s.store := congrArg Prod.fst run
  exact Prod.ext outcome (authorize_congr run)

theorem bypassWidens_decided (s : Service) (now : Int) (r : GatewayRequest) :
    BypassWidens (s.ActsFor now r) (s.Finds now r)
      (fun p teams => s.store.SupportsLegacy s.policy p.id teams) Allows
      ((s.withBypass false).decided now r) ((s.withBypass true).decided now r) := by
  refine bypassWidens_of_found (fun _ _ => ActsFor.unique) (fun _ _ _ => Finds.actsFor) ?_
    decided_withBypass ?_ ?_ ?_
  · intro c allows
    obtain ⟨i, scope, t, p, source, _, good, identifies, _⟩ := allows_decided.1 allows
    exact ⟨p, i, t, source, good, identifies⟩
  · intro p c acts admin allows
    obtain ⟨i, scope, t, q, source, asked, good, identifies, granted⟩ := allows_decided.1 allows
    obtain rfl : q = p := ActsFor.unique ⟨i, t, source, good, identifies⟩ acts
    exact allows_decided.2 ⟨i, scope, t, q, source, asked, good, identifies, granted.owned admin⟩
  · intro c x allows told
    obtain ⟨i, scope, t, p, source, asked, good, identifies, granted⟩ := allows_decided.1 allows
    obtain ⟨o, d, active, member, finds, given, hn, hi⟩ := granted.finds told
    exact ⟨p, o, d, ⟨i, scope, t, GatewayRequest.scope_eq_ok.2 ⟨source, asked⟩, good,
      ⟨identifies, active, member⟩, finds⟩, given, hn, hi⟩
  · intro p o d teams finds admin legacy
    obtain ⟨i, scope, t, asked, good, stands, found⟩ := finds
    obtain ⟨source, selected⟩ := GatewayRequest.scope_eq_ok.1 asked
    exact allows_decided.2 ⟨i, scope, t, p, source, selected, good, stands.identifies,
      found.granted stands.active stands.member admin legacy⟩

end Service

/-! ### The direct surface -/

namespace DirectRequest

variable {r : DirectRequest}

theorem Serves.unique {p' : Principal} (h : r.Serves s p) (h' : r.Serves s p') : p = p' :=
  Option.some.inj (Except.ok.inj (h.stored.symm.trans h'.stored))

theorem afterUser_run_withBypass (serves : r.Serves s p)
    (h : ∀ o d, r.Finds s p o d → p.isSuperAdmin = false) :
    (r.afterUser (policy.withBypass true) p).run s =
      (r.afterUser (policy.withBypass false) p).run s := by
  cases given : r.organization with
  | none =>
    simp only [afterUser, given]
    rfl
  | some organization =>
    cases named : r.datasetId? with
    | none =>
      simp only [afterUser, given, named]
      rfl
    | some nodeId =>
      simp only [afterUser, given, named]
      refine run_bind_congr rfl fun c claims => ?_
      obtain ⟨o, teams, rfl, member, supported, rfl⟩ := organizationClaims_eq_ok.1 claims
      refine run_bind_congr (Resolve.datasetClaim_run_withBypass fun d found => ?_) fun _ _ => rfl
      exact h o d
        ⟨serves, given, member, ⟨teams, supported⟩, nodeId, datasetId?_eq_some.1 named, found⟩

theorem inquiry_run_withBypass (h : ∀ p o d, r.Finds s p o d → p.isSuperAdmin = false) :
    (r.inquiry (policy.withBypass true)).run s = (r.inquiry (policy.withBypass false)).run s := by
  rw [inquiry_eq, inquiry_eq]
  refine run_bind_congr rfl fun _ checked => run_bind_congr rfl fun p stored => ?_
  rw [outcome_ofExcept] at checked
  have serves : r.Serves s p := ⟨(check_eq_ok.1 checked).1, Resolve.principalById_eq_ok.1 stored⟩
  exact afterUser_run_withBypass serves (h p)

theorem Settles.owned {c : ClaimSet} (serves : r.Serves s p) (admin : p.isSuperAdmin = true)
    (h : r.Settles (policy.withBypass false) s (.authorized c)) :
    r.Settles (policy.withBypass true) s (.authorized c.owned) := by
  cases h with
  | user serves' unnamed alone legacy => exact .user serves' unnamed alone (legacy.congr rfl)
  | organization serves' unnamed given member supported =>
    exact .organization serves' unnamed given member supported
  | dataset serves' named given member supported found role =>
    obtain rfl := serves.unique serves'
    exact .dataset serves named given member supported (found.owned admin) nofun

theorem Settles.finds {c : ClaimSet} {x : DatasetClaim} (h : r.Settles policy s (.authorized c))
    (told : c.dataset = some x) :
    ∃ p o d, r.Finds s p o d ∧ c.organization = some o ∧ x.nodeId = d.nodeId ∧ x.id = d.id := by
  cases h with
  | user => exact nomatch told
  | organization => exact nomatch told
  | @dataset p nodeId o dataset teams serves named given member supported found =>
    obtain rfl := Option.some.inj told
    obtain ⟨d, answered, hn, hi, _⟩ := found
    exact ⟨p, o, d, ⟨serves, given, member, ⟨teams, supported⟩, nodeId, named, answered⟩, rfl, hn, hi⟩

theorem Finds.settles {o : OrganizationClaim} {d : Dataset} {teams : List TeamClaim}
    (h : r.Finds s p o d) (admin : p.isSuperAdmin = true) (supported : s.SupportsTeams p.id teams) :
    r.Settles (policy.withBypass true) s
      (.authorized ⟨p.claim, some o, some d.owned, some teams⟩) := by
  obtain ⟨nodeId, named, found⟩ := h.found
  exact .dataset h.serves named h.given h.member supported (Store.supportsDataset_owned admin found)
    d.owned_role

end DirectRequest

namespace Service

variable {s : Service} {r : DirectRequest}

theorem invoke_authorized_iff {c : ClaimSet} :
    (s.invoke r).1 = .authorized c ↔ r.Settles s.policy s.store (.authorized c) :=
  invoke_eq_authorized.trans DirectRequest.inquiry_eq_ok

theorem bypassWidens_invoke (s : Service) (r : DirectRequest) :
    BypassWidens (r.Serves s.store) (r.Finds s.store)
      (fun p teams => ∃ known, s.store.SupportsTeams p.id known ∧ teams = some known)
      (fun a c => a.1 = .authorized c) ((s.withBypass false).invoke r)
      ((s.withBypass true).invoke r) := by
  refine bypassWidens_of_found (fun _ _ => DirectRequest.Serves.unique)
    (fun _ _ _ found => found.serves) ?_
    (fun h => invoke_congr (DirectRequest.inquiry_run_withBypass h)) ?_ ?_ ?_
  · intro c authorized
    cases invoke_authorized_iff.1 authorized with
    | user serves => exact ⟨_, serves⟩
    | organization serves => exact ⟨_, serves⟩
    | dataset serves => exact ⟨_, serves⟩
  · intro p c serves admin authorized
    exact invoke_authorized_iff.2 ((invoke_authorized_iff.1 authorized).owned serves admin)
  · intro c x authorized told
    exact (invoke_authorized_iff.1 authorized).finds told
  · rintro p o d _ finds admin ⟨known, supported, rfl⟩
    exact invoke_authorized_iff.2 (finds.settles admin supported)

/-- The bypass widens one thing on both surfaces: a super-admin who comes to a dataset is its
owner. It keeps its other claims, no one is denied for the bypass, and no one is granted a
dataset that was not found; all other results are the same in both positions of the switch. -/
theorem superAdminBypass_widens (s : Service) :
    (∀ now r, BypassWidens (s.ActsFor now r) (s.Finds now r)
        (fun p teams => s.store.SupportsLegacy s.policy p.id teams) Allows
        ((s.withBypass false).decided now r) ((s.withBypass true).decided now r)) ∧
      ∀ r : DirectRequest, BypassWidens (r.Serves s.store) (r.Finds s.store)
        (fun p teams => ∃ known, s.store.SupportsTeams p.id known ∧ teams = some known)
        (fun a c => a.1 = .authorized c) ((s.withBypass false).invoke r)
        ((s.withBypass true).invoke r) :=
  ⟨s.bypassWidens_decided, s.bypassWidens_invoke⟩

end Service

end ClaimGate
