import ClaimGate.Proofs.DirectAnswer

/-! Legacy mode. The switch adds the teams of the user to claims that do not tell them, after
everything else is decided. Both surfaces end in that one step, and no step before it looks at
the switch. Proved: with the switch on a request ends as it does without, but that its claims
tell the teams as well, or that the teams cannot be had. -/

namespace ClaimGate

/-- The policy with legacy mode on or off. -/
def Policy.inMode (policy : Policy) (legacy : Bool) : Policy :=
  { policy with legacyClaims := legacy }

/-- The service with legacy mode on or off. -/
def Service.inMode (s : Service) (legacy : Bool) : Service :=
  { s with policy := s.policy.inMode legacy }

/-- The request acts for the principal: its token is good and stands for it. -/
def Service.ActsFor (s : Service) (now : Int) (r : GatewayRequest) (p : Principal) : Prop :=
  ∃ i t, Identity.ofValues r.identitySource = .ok i ∧ s.validator.validate i.token now = .ok t ∧
    s.store.Identifies s.tokenClient t p

/-! ### Ends with and without -/

/-- What an end without legacy mode becomes with it, for a request that acts for a principal. -/
inductive Store.LegacyAdds (s : Store) (actsFor : Principal → Prop) :
    Except Denial ClaimSet → Except Denial ClaimSet → Prop
  | refused (d : Denial) : LegacyAdds s actsFor (.error d) (.error d)
  | told {c : ClaimSet} (told : c.teams ≠ none) : LegacyAdds s actsFor (.ok c) (.ok c)
  | added {c : ClaimSet} {p : Principal} {teams : List TeamClaim} (untold : c.teams = none)
      (acts : actsFor p) (supported : s.SupportsTeams p.id teams) :
      LegacyAdds s actsFor (.ok c) (.ok { c with teams := some teams })
  | lost {c : ClaimSet} {p : Principal} {f : StoreFault} (untold : c.teams = none)
      (acts : actsFor p) (failed : s.answer (.teams p.id) = .error f) :
      LegacyAdds s actsFor (.ok c) (.error (.lookup .teams f))

/-- The same for direct requests, which may also end without access. -/
inductive Store.LegacyAddsDirect (s : Store) (actsFor : Principal → Prop) :
    Except Denial DirectOutcome → Except Denial DirectOutcome → Prop
  | noAccess (c : ClaimSet) : LegacyAddsDirect s actsFor (.ok (.noAccess c)) (.ok (.noAccess c))
  | decided {off on : Except Denial ClaimSet} (adds : s.LegacyAdds actsFor off on) :
      LegacyAddsDirect s actsFor (off.map .authorized) (on.map .authorized)

/-- The claims are the same but for the teams. -/
structure ClaimSet.SameButTeams (c c' : ClaimSet) : Prop where
  user : c.user = c'.user
  organization : c.organization = c'.organization
  dataset : c.dataset = c'.dataset

namespace Store

variable {s : Store} {actsFor : Principal → Prop} {c c' : ClaimSet}

theorem LegacyAdds.sameButTeams (h : s.LegacyAdds actsFor (.ok c) (.ok c')) :
    c.SameButTeams c' := by
  cases h with
  | told told => exact ⟨rfl, rfl, rfl⟩
  | added untold acts supported => exact ⟨rfl, rfl, rfl⟩

theorem LegacyAddsDirect.sameButTeams {off on : Except Denial DirectOutcome}
    (h : s.LegacyAddsDirect actsFor off on)
    (told : (DirectResponse.ofOutcome off).claims = some c)
    (told' : (DirectResponse.ofOutcome on).claims = some c') : c.SameButTeams c' := by
  cases h with
  | noAccess =>
    obtain rfl := Option.some.inj told
    obtain rfl := Option.some.inj told'
    exact ⟨rfl, rfl, rfl⟩
  | @decided off on adds =>
    cases off with
    | error d => exact nomatch told
    | ok a =>
      cases on with
      | error d => exact nomatch told'
      | ok a' =>
        obtain rfl := Option.some.inj told
        obtain rfl := Option.some.inj told'
        exact adds.sameButTeams

theorem LegacyAdds.eq_of_refused {d : Denial} {on : Except Denial ClaimSet}
    (h : s.LegacyAdds actsFor (.error d) on) : on = .error d := by
  cases h
  rfl

theorem LegacyAddsDirect.eq_of_denied {off on : Except Denial DirectOutcome}
    (h : s.LegacyAddsDirect actsFor off on)
    (denied : (DirectResponse.ofOutcome off).isAuthorized = false) : on = off := by
  cases h with
  | noAccess => rfl
  | decided adds =>
    cases adds with
    | refused d => rfl
    | told told => rfl
    | added untold acts supported => exact nomatch denied
    | lost untold acts failed => exact nomatch denied

end Store

/-! ### The last step -/

/-- What notes no events adds none. -/
theorem Inquiry.events_bind_of_silent {α β : Type} {s : Store} {i : Inquiry α} {f : α → Inquiry β}
    (silent : ∀ a, (f a).events s = []) : (i.bind f).events s = i.events s := by
  simp only [events, run_bind]
  rcases i.run s with ⟨_ | a, es⟩
  · rfl
  · exact (congrArg (es ++ ·) (silent a)).trans (List.append_nil es)

open Inquiry

variable {s : Store} {policy : Policy} {p : Principal}

namespace Resolve

theorem withLegacyTeams_off (user : Int64) (c : ClaimSet) :
    withLegacyTeams (policy.inMode false) user c = done c := by
  simp [withLegacyTeams, Policy.inMode]

theorem withLegacyTeams_on {c : ClaimSet} (user : Int64) (h : c.teams = none) :
    withLegacyTeams (policy.inMode true) user c =
      (teamClaims user).bind fun teams => done { c with teams := some teams } := by
  simp [withLegacyTeams, Policy.inMode, h]

theorem withLegacyTeams_silent (user : Int64) (c : ClaimSet) :
    (withLegacyTeams policy user c).Silent :=
  withLegacyTeams_keepsTo trivial c

variable {actsFor : Principal → Prop}

theorem withLegacyTeams_adds (acts : actsFor p) (c : ClaimSet) :
    s.LegacyAdds actsFor (.ok c) ((withLegacyTeams (policy.inMode true) p.id c).outcome s) := by
  rcases Classical.em (c.teams = none) with untold | told
  · rw [withLegacyTeams_on p.id untold, outcome_bind]
    cases ht : s.answer (.teams p.id) with
    | ok teams =>
      have known : (teamClaims p.id).outcome s = .ok teams := outcome_lookUp_of_ok ht
      rw [known]
      exact .added untold acts ht
    | error f =>
      have failed : (teamClaims p.id).outcome s = .error (.lookup .teams f) :=
        outcome_lookUp_of_error ht
      rw [failed]
      exact .lost untold acts ht
  · rw [withLegacyTeams_of_teams told]
    exact .told told

/-- A course that comes to claims of a principal, and then to the last step. -/
def thenTeams (policy : Policy) (i : Inquiry (Principal × ClaimSet)) : Inquiry ClaimSet :=
  i.bind fun x => withLegacyTeams policy x.1.id x.2

variable {i : Inquiry (Principal × ClaimSet)}

theorem thenTeams_adds (acts : ∀ x, i.outcome s = .ok x → actsFor x.1) :
    s.LegacyAdds actsFor ((thenTeams (policy.inMode false) i).outcome s)
      ((thenTeams (policy.inMode true) i).outcome s) := by
  unfold thenTeams
  rw [outcome_bind, outcome_bind]
  cases h : i.outcome s with
  | error d => exact .refused d
  | ok x =>
    show s.LegacyAdds actsFor ((withLegacyTeams _ x.1.id x.2).outcome s) _
    rw [withLegacyTeams_off]
    exact withLegacyTeams_adds (acts x h) x.2

theorem thenTeams_events : (thenTeams policy i).events s = i.events s :=
  events_bind_of_silent fun x => (withLegacyTeams_silent x.1.id x.2).events

end Resolve

/-! ### The gateway -/

namespace Scope

theorem claimsOf_inMode (legacy : Bool) (t : Token) (scope : Scope) :
    scope.claimsOf (policy.inMode legacy) t p = scope.claimsOf policy t p := by
  cases scope <;> rfl

end Scope

namespace Service

variable (s : Service) (now : Int) (r : GatewayRequest)

/-- The course of a gateway decision up to its last step. -/
def claimed : Inquiry (Principal × ClaimSet) :=
  match r.scope with
  | .error d => .refuse d
  | .ok (i, scope) =>
    match s.validator.validate i.token now with
    | .error f => .refuse (.token f)
    | .ok t => (Resolve.principal s.tokenClient t).bind fun p =>
        (scope.claimsOf s.policy t p).bind fun c => done (p, c)

theorem inquiry_inMode (legacy : Bool) :
    (s.inMode legacy).inquiry now r =
      Resolve.thenTeams (s.policy.inMode legacy) (s.claimed now r) := by
  -- The mode goes into the course in its last step only, so the steps before it are regrouped.
  unfold inquiry claimed
  cases r.scope with
  | error d => rfl
  | ok asked =>
    obtain ⟨i, scope⟩ := asked
    show (match s.validator.validate i.token now with
      | .error f => _
      | .ok t => scope.resolve (s.policy.inMode legacy) s.tokenClient t) = _
    cases hv : s.validator.validate i.token now with
    | error f =>
      simp only [hv]
      rfl
    | ok t =>
      simp only [hv, Scope.resolve, bind_eq, Scope.claimsOf_inMode, Resolve.thenTeams,
        Inquiry.bind_assoc]
      rfl

variable {s now r}

theorem actsFor_of_claimed {x : Principal × ClaimSet} (h : (s.claimed now r).outcome s.store = .ok x) :
    s.ActsFor now r x.1 := by
  unfold claimed at h
  split at h
  · cases h
  · rename_i i scope asked
    split at h
    · cases h
    · rename_i t good
      obtain ⟨p, hp, h₁⟩ := outcome_bind_eq_ok.1 h
      obtain ⟨c, hc, h₂⟩ := outcome_bind_eq_ok.1 h₁
      obtain rfl := Except.ok.inj h₂
      exact ⟨i, t, (GatewayRequest.scope_eq_ok.1 asked).1, good, Resolve.principal_eq_ok.1 hp⟩

end Service

/-! ### The direct surface -/

namespace DirectRequest

variable {r : DirectRequest} {actsFor : Principal → Prop}

/-- The course of a request without an organization up to its last step. -/
def alone (r : DirectRequest) : Inquiry (Principal × ClaimSet) :=
  (Inquiry.ofExcept r.check).bind fun () =>
    (Resolve.principalById r.user).bind fun p => done (p, { user := p.claim })

theorem inquiry_of_alone (h : r.organization = none) :
    r.inquiry policy = (Resolve.thenTeams policy r.alone).bind fun c => done (.authorized c) := by
  have course : r.afterUser policy = fun p => finish policy p { user := p.claim } := by
    funext p
    simp only [afterUser, h]
  rw [inquiry_eq, course]
  simp only [alone, Resolve.thenTeams, Inquiry.bind_assoc]
  rfl

theorem serves_of_alone {x : Principal × ClaimSet} (h : r.alone.outcome s = .ok x) :
    r.Serves s x.1 := by
  obtain ⟨_, checked, h₁⟩ := outcome_bind_eq_ok.1 h
  obtain ⟨p, hp, h₂⟩ := outcome_bind_eq_ok.1 h₁
  obtain rfl := Except.ok.inj h₂
  rw [outcome_ofExcept] at checked
  exact ⟨(check_eq_ok.1 checked).1, Resolve.principalById_eq_ok.1 hp⟩

/-- After the claims on an organization the teams are known. -/
theorem organizationClaims_bind_congr {β : Type} {organization : Int64} {f g : ClaimSet → Inquiry β}
    (h : ∀ c, c.teams ≠ none → f c = g c) :
    (organizationClaims p organization).bind f = (organizationClaims p organization).bind g := by
  simp only [organizationClaims, bind_eq, pure_eq, Inquiry.bind_assoc]
  congr 1
  funext claim
  congr 1
  funext teams
  exact h _ (Option.some_ne_none teams)

theorem finish_inMode {c : ClaimSet} (legacy legacy' : Bool) (told : c.teams ≠ none) :
    finish (policy.inMode legacy) p c = finish (policy.inMode legacy') p c := by
  simp only [finish, Resolve.withLegacyTeams_of_teams told]

/-- With an organization the last step has nothing to add, in whichever mode. -/
theorem afterUser_inMode {organization : Int64} (given : r.organization = some organization)
    (legacy legacy' : Bool) :
    r.afterUser (policy.inMode legacy) p = r.afterUser (policy.inMode legacy') p := by
  cases named : r.datasetId? with
  | none =>
    simp only [afterUser, given, named]
    exact organizationClaims_bind_congr fun c told => finish_inMode legacy legacy' told
  | some nodeId =>
    simp only [afterUser, given, named]
    refine organizationClaims_bind_congr fun c told => ?_
    -- The claim on the dataset looks at the policy as well, but not at this switch.
    show Inquiry.bind (Resolve.datasetClaim policy p organization nodeId) _ =
      Inquiry.bind (Resolve.datasetClaim policy p organization nodeId) _
    congr 1
    funext dataset
    have same : finish (policy.inMode legacy) p { c with dataset := some dataset } =
        finish (policy.inMode legacy') p { c with dataset := some dataset } :=
      finish_inMode legacy legacy' told
    rw [same]

theorem inquiry_inMode_of_organization {organization : Int64}
    (given : r.organization = some organization) :
    r.inquiry (policy.inMode true) = r.inquiry (policy.inMode false) := by
  rw [inquiry_eq, inquiry_eq]
  congr 1
  funext _
  congr 1
  funext p
  exact afterUser_inMode given true false

theorem legacyAddsDirect_self {organization : Int64} (given : r.organization = some organization) :
    s.LegacyAddsDirect actsFor ((r.inquiry policy).outcome s) ((r.inquiry policy).outcome s) := by
  cases h : (r.inquiry policy).outcome s with
  | error d => exact .decided (.refused d)
  | ok out =>
    cases out with
    | noAccess c => exact .noAccess c
    | authorized c =>
      have tells := tellsGranted_of_settles (inquiry_eq_ok.1 h)
      exact .decided (.told (tells.teams.2 (.inl (by simp [given]))))

theorem legacyAddsDirect_of_alone (h : r.organization = none) :
    s.LegacyAddsDirect (r.Serves s) ((r.inquiry (policy.inMode false)).outcome s)
      ((r.inquiry (policy.inMode true)).outcome s) := by
  rw [inquiry_of_alone h, inquiry_of_alone h, outcome_bind, outcome_bind]
  exact .decided (Resolve.thenTeams_adds fun _ => serves_of_alone)

theorem inquiry_adds (policy : Policy) (s : Store) (r : DirectRequest) :
    s.LegacyAddsDirect (r.Serves s) ((r.inquiry (policy.inMode false)).outcome s)
      ((r.inquiry (policy.inMode true)).outcome s) := by
  cases given : r.organization with
  | none => exact legacyAddsDirect_of_alone given
  | some organization =>
    rw [inquiry_inMode_of_organization given]
    exact legacyAddsDirect_self given

theorem inquiry_inMode_events (policy : Policy) (s : Store) (r : DirectRequest) :
    (r.inquiry (policy.inMode true)).events s = (r.inquiry (policy.inMode false)).events s := by
  cases given : r.organization with
  | none =>
    rw [inquiry_of_alone given, inquiry_of_alone given, events_bind_of_silent fun _ => rfl,
      events_bind_of_silent fun _ => rfl, Resolve.thenTeams_events, Resolve.thenTeams_events]
  | some organization => rw [inquiry_inMode_of_organization given]

end DirectRequest

/-! ### Answers -/

namespace Service

variable (s : Service) (now : Int)

theorem inquiry_adds (r : GatewayRequest) :
    s.store.LegacyAdds (s.ActsFor now r) (((s.inMode false).inquiry now r).outcome s.store)
      (((s.inMode true).inquiry now r).outcome s.store) := by
  rw [inquiry_inMode, inquiry_inMode]
  exact Resolve.thenTeams_adds fun _ => actsFor_of_claimed

theorem inquiry_inMode_events (r : GatewayRequest) :
    ((s.inMode true).inquiry now r).events s.store =
      ((s.inMode false).inquiry now r).events s.store := by
  rw [inquiry_inMode, inquiry_inMode, Resolve.thenTeams_events, Resolve.thenTeams_events]

variable {s now}

theorem refused_of_not_authorized {r : GatewayRequest}
    (h : (s.authorize now r).1.isAuthorized = false) :
    ∃ d, (s.inquiry now r).outcome s.store = .error d := by
  cases ho : (s.inquiry now r).outcome s.store with
  | error d => exact ⟨d, rfl⟩
  | ok c =>
    rw [authorize_of_grants (inquiry_eq_ok.1 ho)] at h
    exact nomatch h

/-- What is denied without legacy mode is denied and recorded so with it. -/
theorem authorize_inMode_of_denied {r : GatewayRequest}
    (h : ((s.inMode false).authorize now r).1.isAuthorized = false) :
    (s.inMode true).authorize now r = (s.inMode false).authorize now r := by
  obtain ⟨d, hd⟩ := refused_of_not_authorized h
  have off : ((s.inMode false).inquiry now r).outcome s.store = .error d := hd
  have adds := s.inquiry_adds now r
  rw [off] at adds
  exact authorize_congr
    (Prod.ext (adds.eq_of_refused.trans off.symm) (s.inquiry_inMode_events now r))

theorem invoke_inMode_of_denied {r : DirectRequest}
    (h : ((s.inMode false).invoke r).1.isAuthorized = false) :
    (s.inMode true).invoke r = (s.inMode false).invoke r := by
  rw [invoke_eq] at h
  have same := (r.inquiry_adds s.policy s.store).eq_of_denied h
  exact invoke_congr (Prod.ext same (r.inquiry_inMode_events s.policy s.store))

/-- Legacy mode only adds. On both surfaces a request that is refused without it is answered and
recorded alike with it. One that is granted keeps its claims and events; claims that do not tell
the teams get those of the principal, or the request fails because they cannot be had. -/
theorem legacyMode_additive (s : Service) :
    (∀ now r,
      s.store.LegacyAdds (s.ActsFor now r) (((s.inMode false).inquiry now r).outcome s.store)
        (((s.inMode true).inquiry now r).outcome s.store) ∧
      ((s.inMode true).inquiry now r).events s.store =
        ((s.inMode false).inquiry now r).events s.store ∧
      (((s.inMode false).authorize now r).1.isAuthorized = false →
        (s.inMode true).authorize now r = (s.inMode false).authorize now r) ∧
      ∀ c c', ((s.inMode false).inquiry now r).outcome s.store = .ok c →
        ((s.inMode true).inquiry now r).outcome s.store = .ok c' → c.SameButTeams c') ∧
    ∀ r : DirectRequest,
      s.store.LegacyAddsDirect (r.Serves s.store)
        ((r.inquiry (s.policy.inMode false)).outcome s.store)
        ((r.inquiry (s.policy.inMode true)).outcome s.store) ∧
      (r.inquiry (s.policy.inMode true)).events s.store =
        (r.inquiry (s.policy.inMode false)).events s.store ∧
      (((s.inMode false).invoke r).1.isAuthorized = false →
        (s.inMode true).invoke r = (s.inMode false).invoke r) ∧
      ∀ c c', ((s.inMode false).invoke r).1.claims = some c →
        ((s.inMode true).invoke r).1.claims = some c' → c.SameButTeams c' := by
  refine ⟨fun now r => ⟨s.inquiry_adds now r, s.inquiry_inMode_events now r,
    authorize_inMode_of_denied, fun c c' off on => ?_⟩,
    fun r => ⟨r.inquiry_adds s.policy s.store, r.inquiry_inMode_events s.policy s.store,
      invoke_inMode_of_denied, fun c c' off on => ?_⟩⟩
  · have adds := s.inquiry_adds now r
    rw [off, on] at adds
    exact adds.sameButTeams
  · rw [invoke_eq] at off on
    exact (r.inquiry_adds s.policy s.store).sameButTeams off on

end Service

end ClaimGate
