import ClaimGate.Proofs.Support
import Mathlib.Order.Bounds.Basic
import Mathlib.Order.MinMax

/-! The role on a dataset. Roles are a chain whose least element grants nothing, and the
greatest of a list is the least upper bound of its members, so it hangs on the members
alone, not on their order or number. Proved: who is not made owner by the policy has as
role the least upper bound of what is stored for the user, of the grants of its teams, and
of the direct grants; grants of other teams change nothing, nor does leaving out the
question for the teams where no team has a grant. -/

namespace ClaimGate

/-! ### The chain of roles -/

namespace Role

theorem eq_of_rank_eq {r r' : Role} (h : r.rank = r'.rank) : r = r' := by
  cases r <;> cases r' <;> first | rfl | exact absurd h (by decide)

instance : LinearOrder Role where
  le_refl r := Nat.le_refl r.rank
  le_trans _ _ _ h h' := Nat.le_trans h h'
  le_antisymm _ _ h h' := eq_of_rank_eq (Nat.le_antisymm h h')
  le_total r r' := Nat.le_total r.rank r'.rank
  lt_iff_le_not_ge _ _ := Nat.lt_iff_le_and_not_ge
  toDecidableLE := inferInstance
  toDecidableLT := inferInstance
  max := max

theorem none_le (r : Role) : none ≤ r := Nat.zero_le r.rank

theorem highest_mem {roles : List Role} (h : roles ≠ []) : highest roles ∈ roles := by
  obtain ⟨r, hr⟩ := Option.isSome_iff_exists.1 (List.isSome_max?_of_ne_nil h)
  rw [highest, hr]
  exact List.max?_mem hr

theorem le_highest {roles : List Role} {r : Role} (h : r ∈ roles) : r ≤ highest roles := by
  obtain ⟨m, hm⟩ := Option.isSome_iff_exists.1 (List.isSome_max?_of_mem h)
  rw [highest, hm, Option.getD_some]
  exact (List.max?_eq_some_iff.1 hm).2 r h

/-- The greatest of a list is the least upper bound of its members. -/
theorem isLUB_highest (roles : List Role) : IsLUB {r | r ∈ roles} (highest roles) := by
  refine ⟨fun r hr => le_highest hr, fun bound hb => ?_⟩
  by_cases h : roles = []
  · rw [h]
    exact none_le bound
  · exact hb (highest_mem h)

end Role

/-! ### What counts -/

namespace Grants

/-- The role counts for a member of the given teams. -/
inductive Counts (g : Grants) (memberOf : List Int64) : Role → Prop
  | stored {r : Role} (own : g.userRole = some r) : Counts g memberOf r
  | team {t : TeamGrant} (grant : t ∈ g.teamGrants) (member : t.team ∈ memberOf) :
      Counts g memberOf t.role
  | direct {r : Role} (grant : r ∈ g.directGrants) : Counts g memberOf r

/-- The two differ at most in order, in repetitions, and in the grants of teams of which the
user is no member. -/
structure SameFor (g g' : Grants) (memberOf memberOf' : List Int64) : Prop where
  stored : g.userRole = g'.userRole
  memberships : ∀ team, team ∈ memberOf ↔ team ∈ memberOf'
  grants : ∀ t : TeamGrant, t.team ∈ memberOf → (t ∈ g.teamGrants ↔ t ∈ g'.teamGrants)
  direct : ∀ r, r ∈ g.directGrants ↔ r ∈ g'.directGrants

variable {g g' : Grants} {memberOf memberOf' : List Int64}

theorem mem_rolesFor {r : Role} : r ∈ g.rolesFor memberOf ↔ g.Counts memberOf r := by
  simp only [rolesFor, List.mem_append, Option.mem_toList, List.mem_map, List.mem_filter,
    decide_eq_true_eq]
  constructor
  · rintro ((own | ⟨t, ⟨grant, member⟩, rfl⟩) | grant)
    · exact .stored own
    · exact .team grant member
    · exact .direct grant
  · intro counts
    cases counts with
    | stored own => exact .inl (.inl own)
    | team grant member => exact .inl (.inr ⟨_, ⟨grant, member⟩, rfl⟩)
    | direct grant => exact .inr grant

theorem isLUB_roleFor : IsLUB {r | g.Counts memberOf r} (g.roleFor memberOf) := by
  have same : {r | g.Counts memberOf r} = {r | r ∈ g.rolesFor memberOf} :=
    Set.ext fun _ => mem_rolesFor.symm
  rw [same]
  exact Role.isLUB_highest (g.rolesFor memberOf)

/-- The role is one that counts, where there is one. -/
theorem counts_roleFor (h : ∃ r, g.Counts memberOf r) : g.Counts memberOf (g.roleFor memberOf) := by
  obtain ⟨r, hr⟩ := h
  refine mem_rolesFor.1 (Role.highest_mem ?_)
  exact List.ne_nil_of_mem (mem_rolesFor.2 hr)

theorem roleFor_eq_none_iff : g.roleFor memberOf = .none ↔ ∀ r, g.Counts memberOf r → r = .none := by
  constructor
  · intro h r hr
    have hle : r ≤ g.roleFor memberOf := isLUB_roleFor.1 hr
    rw [h] at hle
    exact le_antisymm hle r.none_le
  · intro h
    refine le_antisymm (isLUB_roleFor.2 fun r hr => ?_) (Role.none_le _)
    exact le_of_eq (h r hr)

theorem SameFor.symm (same : g.SameFor g' memberOf memberOf') : g'.SameFor g memberOf' memberOf where
  stored := same.stored.symm
  memberships team := (same.memberships team).symm
  grants t ht := (same.grants t ((same.memberships t.team).2 ht)).symm
  direct r := (same.direct r).symm

theorem SameFor.counts {r : Role} (same : g.SameFor g' memberOf memberOf')
    (counts : g.Counts memberOf r) : g'.Counts memberOf' r := by
  cases counts with
  | stored own => exact .stored (same.stored.symm.trans own)
  | team grant member => exact .team ((same.grants _ member).1 grant) ((same.memberships _).1 member)
  | direct grant => exact .direct ((same.direct r).1 grant)

/-- The role hangs on what counts alone. -/
theorem SameFor.roleFor_eq (same : g.SameFor g' memberOf memberOf') :
    g.roleFor memberOf = g'.roleFor memberOf' := by
  have counts : {r | g.Counts memberOf r} = {r | g'.Counts memberOf' r} :=
    Set.ext fun _ => ⟨same.counts, same.symm.counts⟩
  have h : IsLUB {r | g.Counts memberOf r} (g.roleFor memberOf) := isLUB_roleFor
  rw [counts] at h
  exact h.unique isLUB_roleFor

/-- Only the teams that have a grant matter. -/
theorem roleFor_congr (h : ∀ t ∈ g.teamGrants, t.team ∈ memberOf ↔ t.team ∈ memberOf') :
    g.roleFor memberOf = g.roleFor memberOf' := by
  have same : g.teamGrants.filter (fun t => t.team ∈ memberOf) =
      g.teamGrants.filter (fun t => t.team ∈ memberOf') :=
    List.filter_congr fun t ht => decide_eq_decide.2 (h t ht)
  rw [roleFor, roleFor, rolesFor, rolesFor, same]

/-- Where no team has a grant the teams do not matter. -/
theorem roleFor_of_teamGrants_nil (h : g.teamGrants = []) (memberOf memberOf' : List Int64) :
    g.roleFor memberOf = g.roleFor memberOf' :=
  roleFor_congr (by simp [h])

end Grants

/-! ### Claims -/

/-- The store tells the dataset, the grants on it, and the teams of the user. -/
structure Store.Tells (s : Store) (user organization : Int64) (nodeId : String) (d : Dataset)
    (g : Grants) (teams : List TeamClaim) : Prop where
  found : s.answer (.datasetByNodeId organization nodeId) = .ok (some d)
  grants : s.answer (.grants organization d.id user) = .ok g
  memberships : s.answer (.teams user) = .ok teams

namespace Resolve

open Inquiry

/-- The claim on a dataset where the teams are always asked for. -/
def eagerDatasetClaim (policy : Policy) (p : Principal) (organization : Int64) (nodeId : String) :
    Inquiry DatasetClaim := do
  let found : Option Dataset ← .lookUp .datasets (.datasetByNodeId organization nodeId)
  let dataset ← .orRefuse (.datasetNotFound nodeId) found
  if p.isSuperAdmin && policy.superAdminBypass then
    .note (.bypass p.id dataset.id) (.done ⟨dataset.nodeId, dataset.id, .owner⟩)
  else
    let grants : Grants ← .lookUp .datasets (.grants organization dataset.id p.id)
    let teams ← teamClaims p.id
    return ⟨dataset.nodeId, dataset.id, grants.roleFor (teams.map (·.id))⟩

variable {s : Store} {policy : Policy} {p : Principal} {organization : Int64} {nodeId : String}
  {d : Dataset} {g : Grants} {teams : List TeamClaim}

theorem eagerDatasetClaim_of_tells (ordinary : ¬ policy.Bypasses p)
    (tells : s.Tells p.id organization nodeId d g teams) :
    (eagerDatasetClaim policy p organization nodeId).outcome s =
      .ok ⟨d.nodeId, d.id, g.roleFor (teams.map (·.id))⟩ := by
  refine outcome_bind_eq_ok.2 ⟨some d, outcome_lookUp_of_ok tells.found, ?_⟩
  refine outcome_bind_eq_ok.2 ⟨d, rfl, ?_⟩
  rw [if_neg (mt Policy.bypasses_iff.2 ordinary)]
  refine outcome_bind_eq_ok.2 ⟨g, outcome_lookUp_of_ok tells.grants, ?_⟩
  exact outcome_bind_eq_ok.2 ⟨teams, outcome_lookUp_of_ok tells.memberships, rfl⟩

/-- The claim is the same whether or not the question for the teams is left out. -/
theorem datasetClaim_of_tells (ordinary : ¬ policy.Bypasses p)
    (tells : s.Tells p.id organization nodeId d g teams) :
    (datasetClaim policy p organization nodeId).outcome s =
      .ok ⟨d.nodeId, d.id, g.roleFor (teams.map (·.id))⟩ := by
  refine datasetClaim_eq_ok.2 ⟨d, tells.found, rfl, rfl, ?_⟩
  by_cases h : g.teamGrants = []
  · rw [Grants.roleFor_of_teamGrants_nil h _ []]
    exact .granted ordinary tells.grants (.inl ⟨h, rfl⟩)
  · exact .granted ordinary tells.grants (.inr ⟨h, teams, tells.memberships, rfl⟩)

/-- The role of a claim on a dataset is the least upper bound of what counts for the user. It
is one of the roles that count where there are any, and none exactly if they all are. The
question for the teams may be left out or not, and stores that differ at most in order, in
repetitions, and in the grants of teams of others give the same claim. -/
theorem datasetClaim_role_isLUB (ordinary : ¬ policy.Bypasses p)
    (tells : s.Tells p.id organization nodeId d g teams) :
    ∃ c : DatasetClaim, (datasetClaim policy p organization nodeId).outcome s = .ok c ∧
      (eagerDatasetClaim policy p organization nodeId).outcome s = .ok c ∧
      c.nodeId = d.nodeId ∧ c.id = d.id ∧
      IsLUB {r | g.Counts (teams.map (·.id)) r} c.role ∧
      ((∃ r, g.Counts (teams.map (·.id)) r) → g.Counts (teams.map (·.id)) c.role) ∧
      (c.role = .none ↔ ∀ r, g.Counts (teams.map (·.id)) r → r = .none) ∧
      ∀ (s' : Store) (g' : Grants) (teams' : List TeamClaim),
        s'.Tells p.id organization nodeId d g' teams' →
        g.SameFor g' (teams.map (·.id)) (teams'.map (·.id)) →
        (datasetClaim policy p organization nodeId).outcome s' = .ok c := by
  refine ⟨_, datasetClaim_of_tells ordinary tells, eagerDatasetClaim_of_tells ordinary tells, rfl, rfl,
    Grants.isLUB_roleFor, Grants.counts_roleFor, Grants.roleFor_eq_none_iff, ?_⟩
  intro s' g' teams' tells' same
  rw [datasetClaim_of_tells ordinary tells', same.roleFor_eq]

end Resolve

/-- That team 8 owns the dataset gives nothing to who is in team 7 alone. -/
theorem Resolve.datasetClaim_role_isLUB_single :
    ∃ c, (datasetClaim {} { id := 1, nodeId := "N:user:1" } 3 "N:dataset:5").outcome
      (.single { id := 1, nodeId := "N:user:1" } [⟨7, "crew", "N:team:7", .read⟩]
        ⟨5, "N:dataset:5", 3⟩ ⟨some .guest, [⟨8, .owner⟩, ⟨7, .editor⟩], [.collaborator]⟩) = .ok c ∧
      IsLUB {r | Grants.Counts ⟨some .guest, [⟨8, .owner⟩, ⟨7, .editor⟩], [.collaborator]⟩ [7] r}
        c.role := by
  have ordinary : ¬ Policy.Bypasses {} { id := 1, nodeId := "N:user:1" } := by simp [Policy.Bypasses]
  have tells : (Store.single { id := 1, nodeId := "N:user:1" } [⟨7, "crew", "N:team:7", .read⟩]
      ⟨5, "N:dataset:5", 3⟩ ⟨some .guest, [⟨8, .owner⟩, ⟨7, .editor⟩], [.collaborator]⟩).Tells 1 3
      "N:dataset:5" ⟨5, "N:dataset:5", 3⟩
      ⟨some .guest, [⟨8, .owner⟩, ⟨7, .editor⟩], [.collaborator]⟩ [⟨7, "crew", "N:team:7", .read⟩] :=
    ⟨rfl, rfl, rfl⟩
  obtain ⟨c, hc, _, _, _, hlub, _⟩ := datasetClaim_role_isLUB ordinary tells
  exact ⟨c, hc, hlub⟩

end ClaimGate
