import ClaimGate.Proofs.Directory

/-! Isolation of organizations. The claim on a dataset of a directory is made from the fixture in
effect for its organization, and from one thing that lies outside: in which teams the user is,
since the teams of all organizations are looked up together. Of these only the teams that have a
grant in the organization count. Proved: two directories that agree in so much give the same claim
or the same denial, whatever users, manifests, other organizations and earlier fixtures they hold. -/

namespace ClaimGate

/-- The two are alike for the datasets of an organization and a user: the same families are switched
off, the same fixture is in effect for the organization, and of the teams with a grant on one of its
datasets the user is a member in both or in neither. -/
structure Fixtures.AlikeFor (f f' : Fixtures) (organization user : Int64) : Prop where
  families : ∀ family, family ∈ f.unavailable ↔ family ∈ f'.unavailable
  effective : ∀ o, o.id = organization → (f.Holds o ↔ f'.Holds o)
  memberships : ∀ o x g, f.Holds o → o.id = organization → x ∈ o.datasets → g ∈ x.teamRoles →
    (f.Member user g.team ↔ f'.Member user g.team)

namespace Directory

variable {f f' : Fixtures} {organization user : Int64}

theorem organization_congr :
    (ofFixtures f).organizations.get? organization =
        (ofFixtures f').organizations.get? organization ↔
      ∀ o, o.id = organization → (f.Holds o ↔ f'.Holds o) := by
  rw [Option.ext_iff]
  simp only [organization_eq_some, and_congr_left_iff]

/-! ### Answers -/

theorem store_answer_congr (families : ∀ family, family ∈ f.unavailable ↔ family ∈ f'.unavailable)
    {q : Query} (same : (ofFixtures f).answer q = (ofFixtures f').answer q) :
    f.store.answer q = f'.store.answer q := by
  show (if q.family ∈ f.unavailable then _ else Except.ok ((ofFixtures f).answer q)) =
    if q.family ∈ f'.unavailable then _ else Except.ok ((ofFixtures f').answer q)
  rw [same]
  exact if_congr (families q.family) rfl rfl

/-- A grant to a team is one on a dataset of the fixture in effect. -/
theorem exists_of_mem_teamGrants {dataset : Int64} {g : TeamGrant}
    (h : g ∈ ((ofFixtures f).grants organization dataset user).teamGrants) :
    ∃ o x, f.Holds o ∧ o.id = organization ∧ x ∈ o.datasets ∧ g ∈ x.teamRoles := by
  unfold grants datasetById? at h
  cases held : (ofFixtures f).organizations.get? organization with
  | none =>
    rw [held] at h
    exact absurd h List.not_mem_nil
  | some o =>
    obtain ⟨holds, own⟩ := organization_eq_some.1 held
    cases first : o.datasets.find? fun x => x.id = dataset with
    | none =>
      simp only [held, Option.bind_some, first] at h
      exact absurd h List.not_mem_nil
    | some x =>
      simp only [held, Option.bind_some, first] at h
      exact ⟨o, x, holds, own, List.mem_of_find?_eq_some first, h⟩

end Directory

namespace Fixtures.AlikeFor

open Directory

variable {f f' : Fixtures} {organization user : Int64}

theorem dataset_answer (alike : f.AlikeFor f' organization user) (nodeId : String) :
    f.store.answer (.datasetByNodeId organization nodeId) =
      f'.store.answer (.datasetByNodeId organization nodeId) := by
  refine store_answer_congr alike.families ?_
  show (ofFixtures f).datasetByNodeId? organization nodeId =
    (ofFixtures f').datasetByNodeId? organization nodeId
  rw [datasetByNodeId?, datasetByNodeId?, organization_congr.2 alike.effective]

theorem grants_answer (alike : f.AlikeFor f' organization user) (dataset : Int64) :
    f.store.answer (.grants organization dataset user) =
      f'.store.answer (.grants organization dataset user) := by
  refine store_answer_congr alike.families ?_
  show (ofFixtures f).grants organization dataset user =
    (ofFixtures f').grants organization dataset user
  rw [grants, grants, datasetById?, datasetById?, organization_congr.2 alike.effective]

/-- The teams of the user may differ, but not in one that has a grant. -/
theorem mem_teams_iff (alike : f.AlikeFor f' organization user) {dataset : Int64} {g : TeamGrant}
    (h : g ∈ ((ofFixtures f).grants organization dataset user).teamGrants) :
    g.team ∈ ((ofFixtures f).teams user).map (·.id) ↔
      g.team ∈ ((ofFixtures f').teams user).map (·.id) := by
  obtain ⟨o, x, holds, own, hx, hg⟩ := exists_of_mem_teamGrants h
  rw [mem_teams, mem_teams]
  exact alike.memberships o x g holds own hx hg

end Fixtures.AlikeFor

/-! ### Claims -/

namespace Resolve

open Inquiry Directory

variable {f f' : Fixtures} {organization : Int64} {nodeId : String} {policy : Policy} {p : Principal}

/-- What is made of the teams of a user, where it is made of the role alone. -/
theorem teamsFor_run_congr {α : Type} {user : Int64} {g : Grants} {make : Role → α}
    (families : ∀ family, family ∈ f.unavailable ↔ family ∈ f'.unavailable)
    (teams : ∀ t ∈ g.teamGrants, t.team ∈ ((ofFixtures f).teams user).map (·.id) ↔
      t.team ∈ ((ofFixtures f').teams user).map (·.id)) :
    ((teamsFor user g).bind fun memberOf => done (make (g.roleFor memberOf))).run f.store =
      ((teamsFor user g).bind fun memberOf => done (make (g.roleFor memberOf))).run f'.store := by
  unfold teamsFor
  split
  · rfl
  rw [bind_eq, bind_assoc]
  by_cases off : Family.teams ∈ f.unavailable
  · have failed : f.store.answer (.teams user) = .error (switchedOff .teams) := if_pos off
    have failed' : f'.store.answer (.teams user) = .error (switchedOff .teams) :=
      if_pos ((families .teams).1 off)
    exact (run_lookUp_bind_of_error failed).trans (run_lookUp_bind_of_error failed').symm
  · have answered : f.store.answer (.teams user) = .ok ((ofFixtures f).teams user) := if_neg off
    have answered' : f'.store.answer (.teams user) = .ok ((ofFixtures f').teams user) :=
      if_neg (mt (families .teams).2 off)
    -- The teams may differ; the role reads of them only those that have a grant.
    calc
      _ = (.ok (make (g.roleFor (((ofFixtures f).teams user).map (·.id)))), []) :=
        run_lookUp_bind_of_ok answered
      _ = (.ok (make (g.roleFor (((ofFixtures f').teams user).map (·.id)))), []) := by
        rw [Grants.roleFor_congr teams]
      _ = _ := by
        symm
        exact run_lookUp_bind_of_ok answered'

/-- Directories that are alike for an organization and a user run the claim on its datasets alike:
the same claim or the same denial, and the same is recorded. -/
theorem datasetClaim_isolated (alike : f.AlikeFor f' organization p.id) (policy : Policy)
    (nodeId : String) :
    (datasetClaim policy p organization nodeId).run f.store =
      (datasetClaim policy p organization nodeId).run f'.store := by
  refine run_bind_congr (run_lookUp_congr (alike.dataset_answer nodeId)) fun found _ => ?_
  cases found with
  | none => rfl
  | some d =>
    show (if _ then _ else _ : Inquiry DatasetClaim).run f.store =
      (if _ then _ else _ : Inquiry DatasetClaim).run f'.store
    split
    · rfl
    refine run_bind_congr (run_lookUp_congr (alike.grants_answer d.id)) fun g answered => ?_
    obtain rfl := answer_of_store (outcome_lookUp_eq_ok.1 answered)
    exact teamsFor_run_congr alike.families fun t granted => alike.mem_teams_iff granted

/-- Around one organization all else differs: users, manifests, an earlier fixture of it that would
make its guest an owner, and another organization with teams of its own. -/
theorem datasetClaim_isolated_amid :
    let dataset : DatasetFixture :=
      { id := 11, nodeId := "N:dataset:a", teamRoles := [⟨3, .editor⟩], directGrants := [⟨5, .guest⟩] }
    let o : OrganizationFixture :=
      { id := 7, teams := [{ id := 3, members := [⟨5, .read⟩] }], datasets := [dataset] }
    let f : Fixtures := { organizations := [o] }
    let f' : Fixtures :=
      { users := [{ id := 5, isSuperAdmin := true }]
        organizations :=
          [{ id := 7, datasets := [{ dataset with directGrants := [⟨5, .owner⟩] }] }, o,
            { id := 8, teams := [{ id := 4, members := [⟨5, .owner⟩] }], datasets := [dataset] }]
        manifests := [⟨"m", "N:dataset:a", 11, 7, 5, .completed⟩] }
    (datasetClaim {} { id := 5, nodeId := "N:user:5" } 7 "N:dataset:a").run f.store =
      (datasetClaim {} { id := 5, nodeId := "N:user:5" } 7 "N:dataset:a").run f'.store := by
  intro dataset o f f'
  have held : (ofFixtures f).organizations.get? 7 = some o := rfl
  have held' : (ofFixtures f').organizations.get? 7 = some o := rfl
  have member : f.Member 5 3 :=
    ⟨o, _, _, (organization_eq_some.1 held).1, List.mem_cons_self, rfl, List.mem_cons_self, rfl⟩
  have member' : f'.Member 5 3 :=
    ⟨o, _, _, (organization_eq_some.1 held').1, List.mem_cons_self, rfl, List.mem_cons_self, rfl⟩
  have alike : f.AlikeFor f' 7 5 := by
    refine ⟨fun _ => Iff.rfl, organization_congr.1 (held.trans held'.symm), ?_⟩
    intro p x g holds own hx hg
    have same : some p = some o := (organization_eq_some.2 ⟨holds, own⟩).symm.trans held
    obtain rfl := Option.some.inj same
    obtain rfl := List.mem_singleton.1 hx
    obtain rfl := List.mem_singleton.1 hg
    exact iff_of_true member member'
  exact datasetClaim_isolated alike {} "N:dataset:a"

end Resolve

end ClaimGate
