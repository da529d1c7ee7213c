import ClaimGate.Directory.Basic
import ClaimGate.Proofs.DatasetRole
import ClaimGate.Proofs.Selection

/-! Roles on the datasets of a directory. Of organizations with one id the last listed is in
effect; inside it the first dataset with the node id is found, and its grants are looked up
once more, by its id. Proved: the role is the greatest that the first dataset with that id
gives to the user. Where no other dataset of the organization has the id, that is the dataset
which was found, and no other counts; where an earlier one has it, its grants count instead. -/

namespace ClaimGate

/-! ### What is in effect -/

/-- The organization is in effect: the last that is listed with its id. -/
def Fixtures.Holds (f : Fixtures) (o : OrganizationFixture) : Prop :=
  LastOf (·.id = o.id) f.organizations o

theorem Fixtures.Holds.mem {f : Fixtures} {o : OrganizationFixture} (h : f.Holds o) :
    o ∈ f.organizations :=
  LastOf.mem h

/-- A team with this id, of any organization in effect, lists the user. -/
def Fixtures.Member (f : Fixtures) (user team : Int64) : Prop :=
  ∃ o t m, f.Holds o ∧ t ∈ o.teams ∧ t.id = team ∧ m ∈ t.members ∧ m.user = user

/-- The dataset gives the user the role: by the first entry of the user, by a grant to a team of
the user, or by a direct grant. -/
inductive DatasetFixture.Gives (x : DatasetFixture) (f : Fixtures) (user : Int64) : Role → Prop
  | stored {e : RoleFixture} (first : FirstOf (·.user = user) x.userRoles e) :
      Gives x f user e.role
  | team {g : TeamGrant} (grant : g ∈ x.teamRoles) (member : f.Member user g.team) :
      Gives x f user g.role
  | direct {e : RoleFixture} (grant : e ∈ x.directGrants) (own : e.user = user) :
      Gives x f user e.role

/-- The role is the greatest that the dataset gives the user, and none where it gives none. -/
structure DatasetFixture.GivesAtMost (x : DatasetFixture) (f : Fixtures) (user : Int64)
    (role : Role) : Prop where
  greatest : IsLUB {r | x.Gives f user r} role
  given : (∃ r, x.Gives f user r) → x.Gives f user role

namespace Directory

variable {f : Fixtures}

theorem organization_eq_some {id : Int64} {o : OrganizationFixture} :
    (ofFixtures f).organizations.get? id = some o ↔ f.Holds o ∧ o.id = id := by
  have listed : (ofFixtures f).organizations.get? id = some o ↔
      LastOf (fun o => o.id = id) f.organizations o := Dict.get?_ofList_map_eq_some
  rw [listed]
  constructor
  · intro h
    have same : o.id = id := h.holds
    subst same
    exact ⟨h, rfl⟩
  · rintro ⟨holds, rfl⟩
    exact holds

theorem mem_organizations {o : OrganizationFixture} :
    o ∈ (ofFixtures f).organizations.values ↔ f.Holds o := by
  rw [Dict.mem_values]
  simp only [organization_eq_some, exists_and_left, exists_eq', and_true]

theorem exists_teamClaim? {user team : Int64} {t : TeamFixture} :
    (∃ c, teamClaim? user t = some c ∧ c.id = team) ↔
      t.id = team ∧ ∃ m ∈ t.members, m.user = user := by
  simp only [teamClaim?, Option.map_eq_some_iff]
  constructor
  · rintro ⟨_, ⟨m, first, rfl⟩, rfl⟩
    have listed := find?_eq_some_iff_firstOf.1 first
    exact ⟨rfl, m, listed.mem, listed.holds⟩
  · rintro ⟨rfl, m, hm, hu⟩
    obtain ⟨m', first⟩ := FirstOf.exists_of_mem (P := fun m => m.user = user) hm hu
    exact ⟨_, ⟨m', find?_eq_some_iff_firstOf.2 first, rfl⟩, rfl⟩

/-- The teams of a user are those that list it, in whichever organization. -/
theorem mem_teams {user team : Int64} :
    team ∈ ((ofFixtures f).teams user).map (·.id) ↔ f.Member user team := by
  simp only [teams, List.mem_map, List.mem_mergeSort, List.mem_filterMap, List.mem_flatMap,
    mem_organizations]
  constructor
  · rintro ⟨c, ⟨t, ⟨o, holds, ht⟩, hc⟩, hid⟩
    obtain ⟨same, m, hm, hu⟩ := exists_teamClaim?.1 ⟨c, hc, hid⟩
    exact ⟨o, t, m, holds, ht, same, hm, hu⟩
  · rintro ⟨o, t, m, holds, ht, same, hm, hu⟩
    obtain ⟨c, hc, hid⟩ := exists_teamClaim?.2 ⟨same, m, hm, hu⟩
    exact ⟨c, ⟨t, ⟨o, holds, ht⟩, hc⟩, hid⟩

/-! ### Answers -/

/-- What the store of a directory answers is what the directory holds. -/
theorem answer_of_store {q : Query} {a : q.Answer} (h : f.store.answer q = .ok a) :
    (ofFixtures f).answer q = a := by
  simp only [Fixtures.store, store] at h
  split at h
  · exact nomatch h
  · exact Except.ok.inj h

theorem answer_of_on {q : Query} (on : q.family ∉ f.unavailable) :
    f.store.answer q = .ok ((ofFixtures f).answer q) :=
  if_neg on

theorem datasetByNodeId?_eq_some {organization : Int64} {nodeId : String} {d : Dataset} :
    (ofFixtures f).datasetByNodeId? organization nodeId = some d ↔
      ∃ o x, f.Holds o ∧ o.id = organization ∧ FirstOf (·.nodeId = nodeId) o.datasets x ∧
        d = ⟨x.id, x.nodeId, organization⟩ := by
  simp only [datasetByNodeId?, Option.bind_eq_some_iff, Option.map_eq_some_iff,
    organization_eq_some, find?_eq_some_iff_firstOf]
  constructor
  · rintro ⟨o, ⟨holds, same⟩, x, found, rfl⟩
    exact ⟨o, x, holds, same, found, rfl⟩
  · rintro ⟨o, x, holds, same, found, rfl⟩
    exact ⟨o, ⟨holds, same⟩, x, found, rfl⟩

/-- The grants on a dataset are those of the first that has its id. -/
theorem grants_of_firstOf {o : OrganizationFixture} {x : DatasetFixture} {dataset user : Int64}
    (holds : f.Holds o) (first : FirstOf (·.id = dataset) o.datasets x) :
    (ofFixtures f).grants o.id dataset user = grantsOf x user := by
  have found : (ofFixtures f).organizations.get? o.id = some o := organization_eq_some.2 ⟨holds, rfl⟩
  have listed : (ofFixtures f).datasetById? o.id dataset = some x := by
    rw [datasetById?, found]
    exact find?_eq_some_iff_firstOf.2 first
  rw [grants, listed]
  rfl

/-! ### Grants -/

/-- What counts for a user is what the dataset gives. -/
theorem counts_iff_gives {x : DatasetFixture} {user : Int64} {memberOf : List Int64} {r : Role}
    (memberships : f.store.SupportsMemberships user (grantsOf x user) memberOf) :
    (grantsOf x user).Counts memberOf r ↔ x.Gives f user r := by
  have member : ∀ g ∈ x.teamRoles, (g.team ∈ memberOf ↔ f.Member user g.team) := by
    intro g hg
    rcases memberships with ⟨empty, _⟩ | ⟨_, teams, supported, rfl⟩
    · have none : x.teamRoles = [] := empty
      rw [none] at hg
      exact absurd hg List.not_mem_nil
    · obtain rfl : (ofFixtures f).teams user = teams := answer_of_store supported
      exact mem_teams
  constructor
  · intro counts
    cases counts with
    | stored own =>
      obtain ⟨e, first, rfl⟩ := Option.map_eq_some_iff.1 own
      exact .stored (find?_eq_some_iff_firstOf.1 first)
    | team grant inTeam => exact .team grant ((member _ grant).1 inTeam)
    | direct grant =>
      obtain ⟨e, he, rfl⟩ := List.mem_map.1 grant
      obtain ⟨listed, own⟩ := List.mem_filter.1 he
      exact .direct listed (of_decide_eq_true own)
  · intro gives
    cases gives with
    | stored first =>
      exact .stored (Option.map_eq_some_iff.2 ⟨_, find?_eq_some_iff_firstOf.2 first, rfl⟩)
    | team grant inTeam => exact .team grant ((member _ grant).2 inTeam)
    | direct grant own =>
      exact .direct (List.mem_map.2 ⟨_, List.mem_filter.2 ⟨grant, decide_eq_true own⟩, rfl⟩)

theorem givesAtMost_roleFor {x : DatasetFixture} {user : Int64} {memberOf : List Int64}
    (memberships : f.store.SupportsMemberships user (grantsOf x user) memberOf) :
    x.GivesAtMost f user ((grantsOf x user).roleFor memberOf) := by
  have same : {r | (grantsOf x user).Counts memberOf r} = {r | x.Gives f user r} :=
    Set.ext fun _ => counts_iff_gives memberships
  constructor
  · rw [← same]
    exact Grants.isLUB_roleFor
  · rintro ⟨r, gives⟩
    have counts := Grants.counts_roleFor ⟨r, (counts_iff_gives memberships).2 gives⟩
    exact (counts_iff_gives memberships).1 counts

end Directory

/-! ### Claims -/

namespace Resolve

open Directory

/-- The claim on a dataset of a directory names the first dataset with the node id, and its role
is the greatest that the first dataset with that one's id gives. They are one and the same
where no other dataset of the organization has the id. -/
theorem datasetClaim_of_fixtures {f : Fixtures} {policy : Policy} {p : Principal}
    {organization : Int64} {nodeId : String} {c : DatasetClaim} (ordinary : ¬ policy.Bypasses p)
    (h : (datasetClaim policy p organization nodeId).outcome f.store = .ok c) :
    ∃ o x y, f.Holds o ∧ o.id = organization ∧ FirstOf (·.nodeId = nodeId) o.datasets x ∧
      FirstOf (·.id = x.id) o.datasets y ∧ c.nodeId = nodeId ∧ c.id = x.id ∧
      y.GivesAtMost f p.id c.role ∧ ((∀ z ∈ o.datasets, z.id = x.id → z = x) → y = x) := by
  obtain ⟨d, answered, hnode, hid, role⟩ := datasetClaim_eq_ok.1 h
  obtain ⟨o, x, holds, rfl, found, rfl⟩ := datasetByNodeId?_eq_some.1 (answer_of_store answered)
  -- The second look-up is by id alone. It finds a dataset, as `x` has that id, but maybe another.
  obtain ⟨y, first⟩ := FirstOf.exists_of_mem (P := fun z => z.id = x.id) found.mem rfl
  refine ⟨o, x, y, holds, rfl, found, first, hnode.trans found.holds, hid, ?_, ?_⟩
  · generalize c.role = granted at role
    cases role with
    | bypass bypasses => exact absurd bypasses ordinary
    | granted _ grants memberships =>
      obtain rfl := (grants_of_firstOf holds first).symm.trans (answer_of_store grants)
      exact givesAtMost_roleFor memberships
  · intro alone
    exact alone y first.mem first.holds

/-- Two datasets with ids of their own. -/
theorem datasetClaim_of_fixtures_numbered :
    let f : Fixtures :=
      { organizations := [{ id := 7, datasets := [
          { id := 11, nodeId := "N:dataset:a", userRoles := [⟨5, .owner⟩] },
          { id := 12, nodeId := "N:dataset:b", directGrants := [⟨5, .guest⟩] }] }] }
    let c : DatasetClaim := ⟨"N:dataset:b", 12, .guest⟩
    ∃ o x y, f.Holds o ∧ o.id = 7 ∧ FirstOf (·.nodeId = "N:dataset:b") o.datasets x ∧
      FirstOf (·.id = x.id) o.datasets y ∧ c.nodeId = "N:dataset:b" ∧ c.id = x.id ∧
      y.GivesAtMost f 5 c.role ∧ ((∀ z ∈ o.datasets, z.id = x.id → z = x) → y = x) := by
  intro f c
  have ordinary : ¬ Policy.Bypasses {} { id := 5, nodeId := "N:user:5" } := by simp [Policy.Bypasses]
  have told : (datasetClaim {} { id := 5, nodeId := "N:user:5" } 7 "N:dataset:b").outcome f.store =
      .ok c := rfl
  exact datasetClaim_of_fixtures ordinary told

/-- Two datasets that leave out their ids. A user owns the first, and is told to own the second,
which gives nothing to anyone. -/
theorem datasetClaim_of_unnumbered :
    ¬ ∀ (f : Fixtures) (policy : Policy) (p : Principal) (organization : Int64) (nodeId : String)
        (c : DatasetClaim), ¬ policy.Bypasses p →
        (datasetClaim policy p organization nodeId).outcome f.store = .ok c →
        ∃ o x, f.Holds o ∧ o.id = organization ∧ FirstOf (·.nodeId = nodeId) o.datasets x ∧
          x.GivesAtMost f p.id c.role := by
  intro claim
  let x : DatasetFixture := { nodeId := "N:dataset:b" }
  let o : OrganizationFixture :=
    { id := 7, datasets := [{ nodeId := "N:dataset:a", userRoles := [⟨5, .owner⟩] }, x] }
  let f : Fixtures := { organizations := [o] }
  have ordinary : ¬ Policy.Bypasses {} { id := 5, nodeId := "N:user:5" } := by simp [Policy.Bypasses]
  have told : (datasetClaim {} { id := 5, nodeId := "N:user:5" } 7 "N:dataset:b").outcome f.store =
      .ok ⟨"N:dataset:b", 0, .owner⟩ := rfl
  obtain ⟨o', x', holds, _, found, most⟩ := claim f {} _ 7 "N:dataset:b" _ ordinary told
  obtain rfl : o' = o := List.mem_singleton.1 holds.mem
  have second : FirstOf (·.nodeId = "N:dataset:b") o.datasets x :=
    ⟨[_], [], rfl, rfl, by simp⟩
  obtain rfl : x' = x := found.unique second
  have nothing : ∀ r, ¬ x.Gives f 5 r := by
    intro r gives
    cases gives with
    | stored first => exact absurd first.mem List.not_mem_nil
    | team grant _ => exact absurd grant List.not_mem_nil
    | direct grant _ => exact absurd grant List.not_mem_nil
  have none : Role.owner ≤ .none := most.greatest.2 fun r gives => absurd gives (nothing r)
  exact absurd none (by decide)

end Resolve

end ClaimGate
