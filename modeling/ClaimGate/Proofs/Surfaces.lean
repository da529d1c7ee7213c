import ClaimGate.Direct
import ClaimGate.Proofs.Grant
import ClaimGate.Proofs.Message

/-! The two surfaces agree. A token and a trusted service that names its user come to the
same claims where the token stands for that user and the organization is the active one.
Without a dataset the courses differ only in how the user is found. With one, the direct
surface asks for the teams first and shows a missing role where the gateway refuses it.
Proved: the answers say the same in each scope, failures included. -/

namespace ClaimGate

open Inquiry

variable {s : Store} {policy : Policy} {p : Principal} {t : Token}

/-! ### Courses -/

/-- Once the caller is known the claims of the scope follow. -/
theorem Scope.resolve_of_identifies {tokenClient : String} (identifies : s.Identifies tokenClient t p)
    (scope : Scope) :
    (scope.resolve policy tokenClient t).outcome s =
      ((scope.claimsOf policy t p).bind fun c => Resolve.withLegacyTeams policy p.id c).outcome s := by
  have found := Resolve.principal_eq_ok.2 identifies
  simp only [resolve, bind_eq]
  rw [outcome_bind, found]
  rfl

namespace DirectRequest

theorem finish_outcome (c : ClaimSet) :
    (finish policy p c).outcome s =
      ((Resolve.withLegacyTeams policy p.id c).outcome s).map .authorized := by
  unfold finish
  rw [bind_eq, outcome_bind]
  cases (Resolve.withLegacyTeams policy p.id c).outcome s <;> rfl

/-- The course after the user is found. -/
def afterUser (policy : Policy) (r : DirectRequest) (p : Principal) : Inquiry DirectOutcome :=
  match r.organization, r.datasetId? with
  | none, _ => finish policy p { user := p.claim }
  | some organization, none => do finish policy p (← organizationClaims p organization)
  | some organization, some nodeId => do
    let c ← organizationClaims p organization
    let dataset ← Resolve.datasetClaim policy p organization nodeId
    let c := { c with dataset := some dataset }
    if dataset.role.isNone then .note (.noRole p.id nodeId) (.done (.noAccess c))
    else finish policy p c

theorem inquiry_eq (r : DirectRequest) :
    r.inquiry policy =
      (Inquiry.ofExcept r.check).bind fun () =>
        (Resolve.principalById r.user).bind (r.afterUser policy) :=
  rfl

section KeepsTo

variable {P : Query → Prop} {N : Event → Prop}

theorem organizationClaims_keepsTo {organization : Int64}
    (allows : Query.AllowedIn P p.id organization) (teams : P (.teams p.id)) :
    (organizationClaims p organization).KeepsTo P N := by
  refine Resolve.organizationClaim_bind_keepsTo allows fun claim _ => ?_
  exact .bind (Resolve.teamClaims_keepsTo teams) fun _ => .done _

theorem finish_keepsTo (teams : P (.teams p.id)) (c : ClaimSet) :
    (finish policy p c).KeepsTo P N :=
  .bind (Resolve.withLegacyTeams_keepsTo teams c) fun _ => .done _

end KeepsTo

/-- A direct decision does not go on without an answer. -/
theorem inquiry_failsFast (r : DirectRequest) : (r.inquiry policy).FailsFast := by
  rw [inquiry_eq]
  refine .bind (.ofExcept r.check) fun _ => ?_
  refine .bind (Resolve.principalById_keepsTo trivial) fun p => ?_
  have claims (organization : Int64) : (organizationClaims p organization).FailsFast :=
    organizationClaims_keepsTo (Query.allowedIn_true p.id organization) trivial
  have ends (c : ClaimSet) : (finish policy p c).FailsFast := finish_keepsTo trivial c
  unfold afterUser
  split
  · exact ends _
  · exact .bind (claims _) ends
  · rename_i organization nodeId _ _
    refine .bind (claims organization) fun c => ?_
    have onDataset : (Resolve.datasetClaim policy p organization nodeId).FailsFast :=
      Resolve.datasetClaim_keepsTo (Query.allowedIn_true p.id organization) trivial
        (fun _ _ => trivial) nodeId
    refine .bind onDataset fun dataset => ?_
    dsimp only
    split
    · exact .note trivial (.done _)
    · exact ends _

theorem inquiry_of_stored {r : DirectRequest} (checked : r.check = .ok ())
    (stored : s.answer (.userById r.user) = .ok (some p)) :
    (r.inquiry policy).outcome s = (r.afterUser policy p).outcome s := by
  have found := Resolve.principalById_eq_ok.2 stored
  rw [inquiry_eq, checked]
  show ((Resolve.principalById r.user).bind (r.afterUser policy)).outcome s = _
  rw [outcome_bind, found]
  rfl

end DirectRequest

/-! ### Without a dataset -/

section User

variable {tokenClient : String} {organization : Int64}

theorem Scope.user_outcome (identifies : s.Identifies tokenClient t p)
    (stored : s.answer (.userById p.id) = .ok (some p)) (nonzero : p.id ≠ 0) :
    (DirectRequest.inquiry policy { user := p.id }).outcome s =
      ((Scope.user.resolve policy tokenClient t).outcome s).map .authorized := by
  have checked : DirectRequest.check { user := p.id } = .ok () := by
    simp [DirectRequest.check, DirectRequest.datasetId?, nonzero]
  rw [DirectRequest.inquiry_of_stored checked stored, resolve_of_identifies identifies]
  exact DirectRequest.finish_outcome _

theorem Scope.workspace_outcome (identifies : s.Identifies tokenClient t p)
    (stored : s.answer (.userById p.id) = .ok (some p)) (nonzero : p.id ≠ 0)
    (active : t.activeOrganization? p = some organization) (requested : Int64) :
    (DirectRequest.inquiry policy { user := p.id, organization := some organization }).outcome s =
      (((Scope.workspace requested).resolve policy tokenClient t).outcome s).map .authorized := by
  have checked : DirectRequest.check { user := p.id, organization := some organization } = .ok () := by
    simp [DirectRequest.check, DirectRequest.datasetId?, nonzero]
  have course : (Scope.workspace requested).claimsOf policy t p =
      (Resolve.activeOrganization t p).bind (DirectRequest.organizationClaims p) := rfl
  have known := Resolve.activeOrganization_eq_ok (s := s).2 active
  rw [DirectRequest.inquiry_of_stored checked stored, resolve_of_identifies identifies, course,
    bind_assoc, outcome_bind, known]
  show ((DirectRequest.organizationClaims p organization).bind
      (DirectRequest.finish policy p)).outcome s =
    (((DirectRequest.organizationClaims p organization).bind _).outcome s).map _
  rw [outcome_bind, outcome_bind]
  cases (DirectRequest.organizationClaims p organization).outcome s with
  | error d => rfl
  | ok c => exact DirectRequest.finish_outcome c

/-! ### With a dataset -/

variable {nodeId : String} {teams : List TeamClaim}

/-- What the gateway and the direct surface come to on a dataset, where the teams are known.
The direct surface always tells the teams, the gateway in legacy mode alone. -/
inductive SameOnDataset (policy : Policy) (nodeId : String) (teams : List TeamClaim) :
    Except Denial ClaimSet → Except Denial DirectOutcome → Prop
  | granted {c : ClaimSet} (told : c.teams = if policy.legacyClaims then some teams else none) :
      SameOnDataset policy nodeId teams (.ok c) (.ok (.authorized { c with teams := some teams }))
  | noRole {c : ClaimSet} {dataset : DatasetClaim} (shown : c.dataset = some dataset)
      (role : dataset.role = .none) :
      SameOnDataset policy nodeId teams (.error (.noDatasetAccess nodeId)) (.ok (.noAccess c))
  | failed {d : Denial} (other : d ≠ .noDatasetAccess nodeId) :
      SameOnDataset policy nodeId teams (.error d) (.error d)

theorem Scope.dataset_course (identifies : s.Identifies tokenClient t p)
    (active : t.activeOrganization? p = some organization) :
    ((Scope.dataset nodeId).resolve policy tokenClient t).outcome s =
      ((Resolve.organizationClaim p.id organization).outcome s).bind fun o =>
        ((Resolve.datasetClaim policy p o.id nodeId).outcome s).bind fun dataset =>
          if dataset.role.isNone then .error (.noDatasetAccess nodeId)
          else (Resolve.withLegacyTeams policy p.id
            { user := p.claim, organization := some o, dataset := some dataset }).outcome s := by
  have course : (Scope.dataset nodeId).claimsOf policy t p =
      (Resolve.activeOrganization t p).bind fun a =>
        (Resolve.organizationClaim p.id a).bind fun o => datasetClaims policy p o nodeId := rfl
  have known := Resolve.activeOrganization_eq_ok (s := s).2 active
  rw [resolve_of_identifies identifies, course, bind_assoc, outcome_bind, known]
  show (((Resolve.organizationClaim p.id organization).bind _).bind _).outcome s = _
  rw [bind_assoc, outcome_bind]
  congr 1
  funext o
  unfold datasetClaims
  rw [bind_eq, bind_assoc, outcome_bind]
  congr 1
  funext dataset
  split
  · rfl
  · rfl

theorem DirectRequest.dataset_course (stored : s.answer (.userById p.id) = .ok (some p))
    (nonzero : p.id ≠ 0) (present : Text.allBlank nodeId = false)
    (supported : s.SupportsTeams p.id teams) :
    (inquiry policy
        { user := p.id, organization := some organization, dataset := some nodeId }).outcome s =
      ((Resolve.organizationClaim p.id organization).outcome s).bind fun o =>
        ((Resolve.datasetClaim policy p organization nodeId).outcome s).bind fun dataset =>
          if dataset.role.isNone then .ok (.noAccess ⟨p.claim, some o, some dataset, some teams⟩)
          else .ok (.authorized ⟨p.claim, some o, some dataset, some teams⟩) := by
  have named : datasetId? { user := p.id, organization := some organization, dataset := some nodeId } =
      some nodeId := by
    simp [datasetId?, present]
  have checked : check { user := p.id, organization := some organization, dataset := some nodeId } =
      .ok () := by
    simp [check, nonzero]
  have course :
      afterUser policy { user := p.id, organization := some organization, dataset := some nodeId } p =
      (organizationClaims p organization).bind fun c =>
        (Resolve.datasetClaim policy p organization nodeId).bind fun dataset =>
          if dataset.role.isNone then
            note (.noRole p.id nodeId) (done (.noAccess { c with dataset := some dataset }))
          else finish policy p { c with dataset := some dataset } := by
    simp only [afterUser, named]
    rfl
  have known := Resolve.teamClaims_eq_ok.2 supported
  rw [inquiry_of_stored checked stored, course, outcome_bind]
  unfold organizationClaims
  rw [bind_eq, outcome_bind]
  cases (Resolve.organizationClaim p.id organization).outcome s with
  | error d => rfl
  | ok o =>
    show Except.bind (((Resolve.teamClaims p.id).bind _).outcome s) _ = _
    rw [outcome_bind, known]
    show ((Resolve.datasetClaim policy p organization nodeId).bind _).outcome s = _
    rw [outcome_bind]
    show _ = Except.bind _ _
    congr 1
    funext dataset
    split
    · rfl
    · rw [finish_outcome, Resolve.withLegacyTeams_of_teams (by simp)]
      rfl

theorem Scope.dataset_outcome (identifies : s.Identifies tokenClient t p)
    (stored : s.answer (.userById p.id) = .ok (some p)) (nonzero : p.id ≠ 0)
    (active : t.activeOrganization? p = some organization) (present : Text.allBlank nodeId = false)
    (supported : s.SupportsTeams p.id teams) :
    SameOnDataset policy nodeId teams
      (((Scope.dataset nodeId).resolve policy tokenClient t).outcome s)
      ((DirectRequest.inquiry policy
        { user := p.id, organization := some organization, dataset := some nodeId }).outcome s) := by
  rw [dataset_course identifies active,
    DirectRequest.dataset_course stored nonzero present supported]
  cases ho : (Resolve.organizationClaim p.id organization).outcome s with
  | error d =>
    obtain ⟨f, rfl⟩ := Resolve.organizationClaim_eq_error ho
    exact .failed (by simp)
  | ok o =>
    obtain ⟨rfl, _⟩ := Resolve.organizationClaim_eq_ok.1 ho
    show SameOnDataset policy nodeId teams
      (((Resolve.datasetClaim policy p o.id nodeId).outcome s).bind _)
      (((Resolve.datasetClaim policy p o.id nodeId).outcome s).bind _)
    cases hd : (Resolve.datasetClaim policy p o.id nodeId).outcome s with
    | error d =>
      refine .failed ?_
      rcases Resolve.datasetClaim_eq_error hd with rfl | ⟨family, f, rfl⟩ <;> simp
    | ok dataset =>
      show SameOnDataset policy nodeId teams (if dataset.role.isNone then _ else _)
        (if dataset.role.isNone then _ else _)
      split
      · rename_i role
        exact .noRole rfl (of_decide_eq_true role)
      · rw [Resolve.withLegacyTeams_of_supported rfl supported]
        exact .granted rfl

end User

/-! ### Answers -/

namespace DirectResponse

/-- The answer to a direct request that ends so. -/
def ofOutcome : Except Denial DirectOutcome → DirectResponse
  | .ok (.authorized c) => authorized c
  | .ok (.noAccess c) => noAccess c
  | .error d => failed d.message

/-- The answer tells how the request ended, down to the denial. -/
theorem ofOutcome_inj {x y : Except Denial DirectOutcome} : ofOutcome x = ofOutcome y ↔ x = y := by
  rcases x with d | c | c <;> rcases y with d' | c' | c' <;>
    simp [ofOutcome, authorized, noAccess, failed, Denial.message_inj]

end DirectResponse

namespace Service

theorem invoke_eq (s : Service) (r : DirectRequest) :
    (s.invoke r).1 = .ofOutcome ((r.inquiry s.policy).outcome s.store) := by
  unfold invoke outcome
  rcases (r.inquiry s.policy).run s.store with ⟨_ | _ | _, _⟩ <;> rfl

/-- The answer and what is recorded of it hang on the run alone. -/
theorem invoke_congr {s s' : Service} {r r' : DirectRequest}
    (h : (r.inquiry s.policy).run s.store = (r'.inquiry s'.policy).run s'.store) :
    s.invoke r = s'.invoke r' := by
  unfold invoke
  rw [h]

section Invoke

variable {s : Service} {r : DirectRequest} {c : ClaimSet}

theorem invoke_eq_authorized :
    (s.invoke r).1 = .authorized c ↔ (r.inquiry s.policy).outcome s.store = .ok (.authorized c) := by
  rw [invoke_eq]
  exact DirectResponse.ofOutcome_inj (y := .ok (.authorized c))

theorem invoke_eq_noAccess :
    (s.invoke r).1 = .noAccess c ↔ (r.inquiry s.policy).outcome s.store = .ok (.noAccess c) := by
  rw [invoke_eq]
  exact DirectResponse.ofOutcome_inj (y := .ok (.noAccess c))

theorem invoke_eq_failed {d : Denial} :
    (s.invoke r).1 = .failed d.message ↔ (r.inquiry s.policy).outcome s.store = .error d := by
  rw [invoke_eq]
  exact DirectResponse.ofOutcome_inj (y := .error d)

end Invoke

/-- The claims that a token has in a scope, or why it has none. -/
def claims (s : Service) (t : Token) (scope : Scope) : Except Denial ClaimSet :=
  (scope.resolve s.policy s.tokenClient t).outcome s.store

/-- The direct surface answers the request with the claims that the token has in the scope, or
with the text of the same denial. -/
def Agrees (s : Service) (t : Token) (scope : Scope) (r : DirectRequest) : Prop :=
  (∀ c, s.claims t scope = .ok c ↔ (s.invoke r).1 = .authorized c) ∧
    ∀ d, s.claims t scope = .error d ↔ (s.invoke r).1 = .failed d.message

/-- On a dataset the direct surface says the same and tells the teams in any mode; where the
gateway refuses a missing role it shows the role. -/
structure AgreesOnDataset (s : Service) (t : Token) (nodeId : String) (teams : List TeamClaim)
    (r : DirectRequest) : Prop where
  granted : ∀ c, s.claims t (.dataset nodeId) = .ok c ↔
    c.teams = (if s.policy.legacyClaims then some teams else none) ∧
      (s.invoke r).1 = .authorized { c with teams := some teams }
  noRole : s.claims t (.dataset nodeId) = .error (.noDatasetAccess nodeId) ↔
    ∃ c dataset, (s.invoke r).1 = .noAccess c ∧ c.dataset = some dataset ∧ dataset.role = .none
  failed : ∀ d, d ≠ .noDatasetAccess nodeId →
    (s.claims t (.dataset nodeId) = .error d ↔ (s.invoke r).1 = .failed d.message)

theorem agrees_of_map {s : Service} {t : Token} {scope : Scope} {r : DirectRequest}
    (h : (r.inquiry s.policy).outcome s.store = (s.claims t scope).map .authorized) :
    s.Agrees t scope r := by
  unfold Agrees
  simp only [invoke_eq_authorized, invoke_eq_failed, h]
  cases s.claims t scope with
  | ok c => simp [Except.map]
  | error d => simp [Except.map]

theorem agreesOnDataset_of_same {s : Service} {t : Token} {nodeId : String} {teams : List TeamClaim}
    {r : DirectRequest}
    (same : SameOnDataset s.policy nodeId teams (s.claims t (.dataset nodeId))
      ((r.inquiry s.policy).outcome s.store)) :
    s.AgreesOnDataset t nodeId teams r := by
  generalize hx : s.claims t (.dataset nodeId) = x at same
  generalize hy : (r.inquiry s.policy).outcome s.store = y at same
  cases same with
  | @granted c told =>
    refine ⟨fun c' => ?_, ?_, fun d _ => ?_⟩
    · rw [hx, invoke_eq_authorized, hy]
      constructor
      · intro h
        obtain rfl := Except.ok.inj h
        exact ⟨told, rfl⟩
      · rintro ⟨told', h⟩
        have hc : { c with teams := some teams } = { c' with teams := some teams } :=
          DirectOutcome.authorized.inj (Except.ok.inj h)
        rcases c with ⟨_, _, _, _⟩
        rcases c' with ⟨_, _, _, _⟩
        simp_all
    · simp [hx, hy, invoke_eq_noAccess]
    · simp [hx, hy, invoke_eq_failed]
  | @noRole c dataset shown role =>
    refine ⟨fun c' => ?_, ?_, fun d other => ?_⟩
    · simp [hx, hy, invoke_eq_authorized]
    · exact ⟨fun _ => ⟨c, dataset, invoke_eq_noAccess.2 hy, shown, role⟩, fun _ => hx⟩
    · simp [hx, hy, invoke_eq_failed, Ne.symm other]
  | @failed d other =>
    refine ⟨fun c' => ?_, ?_, fun d' _ => ?_⟩
    · simp [hx, hy, invoke_eq_authorized]
    · simp [hx, hy, invoke_eq_noAccess, other]
    · simp [hx, hy, invoke_eq_failed]

/-- The two surfaces agree where a token stands for a user who can be looked up by its id, and
the organization that is asked about is the active one. -/
theorem surfaces_agree {s : Service} {t : Token} {p : Principal} {organization : Int64}
    (identifies : s.store.Identifies s.tokenClient t p) (nonzero : p.id ≠ 0)
    (stored : s.store.answer (.userById p.id) = .ok (some p))
    (active : t.activeOrganization? p = some organization) :
    s.Agrees t .user { user := p.id } ∧
      (∀ requested, s.Agrees t (.workspace requested)
        { user := p.id, organization := some organization }) ∧
      ∀ nodeId teams, Text.allBlank nodeId = false → s.store.SupportsTeams p.id teams →
        s.AgreesOnDataset t nodeId teams
          { user := p.id, organization := some organization, dataset := some nodeId } := by
  refine ⟨?_, fun requested => ?_, fun nodeId teams present supported => ?_⟩
  · exact agrees_of_map (Scope.user_outcome identifies stored nonzero)
  · exact agrees_of_map (Scope.workspace_outcome identifies stored nonzero active requested)
  · exact agreesOnDataset_of_same
      (Scope.dataset_outcome identifies stored nonzero active present supported)

/-- An editor of a dataset who is known to both surfaces. -/
theorem surfaces_agree_single :
    AgreesOnDataset
      { validator := { keys := .empty, issuers := ("", ""), clients := ("", "") }
        tokenClient := "service"
        policy := { legacyClaims := true }
        store := .single { id := 1, nodeId := "N:user:1", preferredOrganization := some 3 } []
          ⟨5, "N:dataset:5", 3⟩ { userRole := some .editor } }
      { subject := "s", client := "web", issuer := "", expiresAt := 0, use := "access" }
      "N:dataset:5" [] { user := 1, organization := some 3, dataset := some "N:dataset:5" } := by
  refine (surfaces_agree (p := { id := 1, nodeId := "N:user:1", preferredOrganization := some 3 })
    ?_ (by decide) rfl rfl).2.2 _ _ (by decide) rfl
  simp [Store.Identifies, Store.single]

end Service

end ClaimGate
