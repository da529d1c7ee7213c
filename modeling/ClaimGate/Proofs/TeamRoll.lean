import ClaimGate.Proofs.Directory
import Mathlib.Data.List.Nodup

/-! The teams of a user over a whole directory. The organizations in effect are gone through in
whatever order they are kept, their teams in the order in which they are listed, and what is found
is sorted by the ids of the teams. Proved: the answer has one claim for each team that lists the
user, and no other; claims on teams with one id keep the order in which they were found. So where no
id of a team occurs in two organizations, neither the order in which organizations are kept nor
the one in which they are listed makes a difference. -/

namespace ClaimGate

/-! ### Sorting by a key -/

section Sorting

variable {α β κ : Type}

/-- Whatever order a list is gone through in, what its members give is in one order, if there is
one alone that gives anything. -/
theorem flatMap_eq_of_perm {g : α → List β} {l l' : List α} (perm : l.Perm l')
    (alone : ∀ a ∈ l, ∀ b ∈ l, g a ≠ [] → g b ≠ [] → a = b) : l.flatMap g = l'.flatMap g := by
  induction perm with
  | nil => rfl
  | cons a _ ih =>
    rw [List.flatMap_cons, List.flatMap_cons, ih]
    intro b hb c hc
    exact alone b (List.mem_cons_of_mem a hb) c (List.mem_cons_of_mem a hc)
  | swap a b l =>
    simp only [List.flatMap_cons, ← List.append_assoc]
    refine congrArg (· ++ l.flatMap g) ?_
    by_cases ha : g a = []
    · rw [ha, List.append_nil, List.nil_append]
    by_cases hb : g b = []
    · rw [hb, List.append_nil, List.nil_append]
    obtain rfl := alone b (by simp) a (by simp) hb ha
    rfl
  | trans first _ ih ih' =>
    refine (ih alone).trans (ih' fun a ha b hb => ?_)
    exact alone a (first.mem_iff.2 ha) b (first.mem_iff.2 hb)

def keyLe [LE κ] [DecidableLE κ] (key : α → κ) (a b : α) : Bool := key a ≤ key b

/-- The members of a list ascending by a key. -/
def sortedBy [LE κ] [DecidableLE κ] (key : α → κ) (l : List α) : List α := l.mergeSort (keyLe key)

theorem sortedBy_perm [LE κ] [DecidableLE κ] {key : α → κ} {l : List α} : (sortedBy key l).Perm l :=
  List.mergeSort_perm l _

theorem mem_iff_of_filter [DecidableEq κ] {key : α → κ} {l m : List α}
    (same : ∀ k, l.filter (fun a => key a = k) = m.filter fun a => key a = k) (a : α) :
    a ∈ l ↔ a ∈ m := by
  have own : ∀ l : List α, a ∈ l ↔ a ∈ l.filter fun b => key b = key a := by simp
  rw [own l, own m, same]

variable [LE κ] [Std.IsLinearOrder κ] {key : α → κ} {l m : List α}

theorem keyLe_trans [DecidableLE κ] (a b c : α) (h : keyLe key a b = true)
    (h' : keyLe key b c = true) : keyLe key a c = true :=
  decide_eq_true (Std.le_trans (of_decide_eq_true h) (of_decide_eq_true h'))

theorem keyLe_total [DecidableLE κ] (a b : α) : (keyLe key a b || keyLe key b a) = true := by
  simpa [keyLe] using Std.le_total

theorem sortedBy_ascending [DecidableLE κ] :
    (sortedBy key l).Pairwise fun a b => key a ≤ key b := by
  have sorted : (sortedBy key l).Pairwise fun a b => keyLe key a b = true :=
    List.pairwise_mergeSort keyLe_trans keyLe_total l
  exact sorted.imp of_decide_eq_true

/-- Members with one key stay in their order. -/
theorem filter_sortedBy [DecidableLE κ] [DecidableEq κ] (k : κ) :
    (sortedBy key l).filter (fun a => key a = k) = l.filter (fun a => key a = k) := by
  have tied : (l.filter fun a => key a = k).Pairwise fun a b => keyLe key a b = true := by
    refine List.pairwise_of_forall_mem_list fun a ha b hb => ?_
    have same := (of_decide_eq_true (List.mem_filter.1 ha).2).trans
      (of_decide_eq_true (List.mem_filter.1 hb).2).symm
    exact decide_eq_true (same ▸ Std.le_refl _)
  have kept : (l.filter fun a => key a = k).Sublist (sortedBy key l) :=
    List.sublist_mergeSort keyLe_trans keyLe_total tied List.filter_sublist
  have inside := kept.filter fun a => key a = k
  rw [List.filter_filter] at inside
  simp only [Bool.and_self] at inside
  exact (inside.eq_of_length (sortedBy_perm.filter _).length_eq.symm).symm

theorem head_le {a b : α} (ascending : (a :: l).Pairwise fun a b => key a ≤ key b)
    (h : b ∈ a :: l) : key a ≤ key b := by
  rcases List.mem_cons.1 h with rfl | later
  · exact Std.le_refl _
  · exact (List.pairwise_cons.1 ascending).1 b later

/-- Ascending lists that agree in the members with each key are equal. -/
theorem eq_of_ascending [DecidableEq κ] (hl : l.Pairwise fun a b => key a ≤ key b)
    (hm : m.Pairwise fun a b => key a ≤ key b)
    (same : ∀ k, l.filter (fun a => key a = k) = m.filter fun a => key a = k) : l = m := by
  have mem := mem_iff_of_filter same
  induction l generalizing m with
  | nil => exact (List.eq_nil_iff_forall_not_mem.2 fun a ha => nomatch (mem a).2 ha).symm
  | cons a r ih =>
    cases m with
    | nil => exact nomatch (mem a).1 List.mem_cons_self
    | cons b t =>
      have tie : key a = key b :=
        Std.le_antisymm (head_le hl ((mem b).2 List.mem_cons_self))
          (head_le hm ((mem a).1 List.mem_cons_self))
      -- The heads are the first members with their key, and these both lists have in common.
      have heads := same (key a)
      rw [List.filter_cons_of_pos (by simp), List.filter_cons_of_pos (by simp [tie])] at heads
      obtain ⟨rfl, rest⟩ := List.cons.inj heads
      have tails : ∀ k, r.filter (fun x => key x = k) = t.filter fun x => key x = k := by
        intro k
        by_cases own : key a = k
        · exact own ▸ rest
        · simpa [own] using same k
      rw [ih hl.of_cons hm.of_cons tails (mem_iff_of_filter tails)]

end Sorting

/-! ### Organizations in effect -/

/-- The organizations in effect, each once and in some order. -/
structure Fixtures.InEffect (f : Fixtures) (orgs : List OrganizationFixture) : Prop where
  once : orgs.Nodup
  mem : ∀ o, o ∈ orgs ↔ f.Holds o

/-- The same organizations are listed in another order, but those with one id in the same. -/
structure Reordered (orgs orgs' : List OrganizationFixture) : Prop where
  perm : orgs.Perm orgs'
  tied : ∀ id, orgs.filter (fun o => o.id = id) = orgs'.filter fun o => o.id = id

/-- No id of a team occurs in two organizations. -/
def Fixtures.TeamsApart (f : Fixtures) : Prop :=
  ∀ o o', f.Holds o → f.Holds o' → ∀ t ∈ o.teams, ∀ t' ∈ o'.teams, t.id = t'.id → o = o'

namespace Fixtures

variable {f f' : Fixtures} {orgs orgs' : List OrganizationFixture}

theorem InEffect.perm (h : f.InEffect orgs) (h' : f.InEffect orgs') : orgs.Perm orgs' :=
  (List.perm_ext_iff_of_nodup h.once h'.once).2 fun o => (h.mem o).trans (h'.mem o).symm

theorem holds_of_reordered (reordered : Reordered f.organizations f'.organizations)
    {o : OrganizationFixture} : f.Holds o ↔ f'.Holds o :=
  lastOf_congr (reordered.tied o.id)

theorem InEffect.of_reordered (h : f'.InEffect orgs)
    (reordered : Reordered f.organizations f'.organizations) : f.InEffect orgs where
  once := h.once
  mem o := (h.mem o).trans (holds_of_reordered reordered).symm

/-- A directory keeps the organizations in effect. -/
theorem inEffect_values (f : Fixtures) :
    f.InEffect (Directory.ofFixtures f).organizations.values where
  once := by
    refine List.Nodup.of_map (·.id) ?_
    have keyed : ((Directory.ofFixtures f).organizations.values.map (·.id)) =
        (Directory.ofFixtures f).organizations.keys := by
      simp only [Dict.values, Dict.keys, List.map_map]
      refine List.map_congr_left fun e he => ?_
      have held := (Dict.lookup_eq_some_iff (Dict.distinct _)).2 he
      exact (Directory.organization_eq_some.1 held).2
    rw [keyed]
    exact List.pairwise_map.2 (Dict.distinct _)
  mem _ := Directory.mem_organizations

end Fixtures

/-! ### Claims -/

/-- The claims of a user on teams, in their order: one on each team that lists it, with the
permission of its first entry there. -/
inductive Enrolls (user : Int64) : List TeamFixture → List TeamClaim → Prop
  | nil : Enrolls user [] []
  | listed {t : TeamFixture} {m : MemberFixture} {teams : List TeamFixture} {claims : List TeamClaim}
      (first : FirstOf (·.user = user) t.members m) (rest : Enrolls user teams claims) :
      Enrolls user (t :: teams) (⟨t.id, t.name, t.nodeId, m.permission⟩ :: claims)
  | unlisted {t : TeamFixture} {teams : List TeamFixture} {claims : List TeamClaim}
      (absent : ∀ m ∈ t.members, m.user ≠ user) (rest : Enrolls user teams claims) :
      Enrolls user (t :: teams) claims

/-- The claims of a user on the teams of organizations, in the order of these. -/
inductive EnrollsAll (user : Int64) : List OrganizationFixture → List TeamClaim → Prop
  | nil : EnrollsAll user [] []
  | cons {o : OrganizationFixture} {orgs : List OrganizationFixture} {claims others : List TeamClaim}
      (own : Enrolls user o.teams claims) (rest : EnrollsAll user orgs others) :
      EnrollsAll user (o :: orgs) (claims ++ others)

/-- The list is the roll of a user over organizations. -/
structure IsTeamRoll (user : Int64) (orgs : List OrganizationFixture) (roll : List TeamClaim) :
    Prop where
  ascending : roll.Pairwise fun c c' => c.id ≤ c'.id
  /-- Nothing is lost and nothing is there twice, and ties are in the order of the organizations. -/
  exact : ∃ claims, EnrollsAll user orgs claims ∧ roll.Perm claims ∧
    ∀ id, roll.filter (fun c => c.id = id) = claims.filter fun c => c.id = id
  /-- Ties inside an organization are in the order of its teams. -/
  tied : ∀ o ∈ orgs, ∀ claims, Enrolls user o.teams claims →
    ∀ id, (claims.filter fun c => c.id = id).Sublist roll

namespace Directory

/-- The claims of a user on the teams of an organization. -/
def claimsIn (user : Int64) (o : OrganizationFixture) : List TeamClaim :=
  o.teams.filterMap (teamClaim? user)

/-- The teams of a user, if the organizations are gone through in the given order. -/
def teamsOver (orgs : List OrganizationFixture) (user : Int64) : List TeamClaim :=
  sortedBy (·.id) (orgs.flatMap (claimsIn user))

variable {f f' : Fixtures} {user : Int64} {orgs orgs' : List OrganizationFixture}

theorem teams_eq_teamsOver (d : Directory) : d.teams user = teamsOver d.organizations.values user := by
  rw [teams, List.filterMap_flatMap]
  rfl

theorem teamClaim?_eq_none {t : TeamFixture} :
    teamClaim? user t = none ↔ ∀ m ∈ t.members, m.user ≠ user := by
  simp [teamClaim?]

/-- The claims on teams are those that enroll the user, and no others. -/
theorem enrolls_iff {teams : List TeamFixture} {claims : List TeamClaim} :
    Enrolls user teams claims ↔ teams.filterMap (teamClaim? user) = claims := by
  constructor
  · intro enrolls
    induction enrolls with
    | nil => rfl
    | @listed t m teams claims first _ ih =>
      have claim : teamClaim? user t = some ⟨t.id, t.name, t.nodeId, m.permission⟩ := by
        rw [teamClaim?, find?_eq_some_iff_firstOf.2 first]
        rfl
      rw [List.filterMap_cons_some claim, ih]
    | unlisted absent _ ih => rw [List.filterMap_cons_none (teamClaim?_eq_none.2 absent), ih]
  · rintro rfl
    induction teams with
    | nil => exact .nil
    | cons t teams ih =>
      cases claim : teamClaim? user t with
      | none =>
        rw [List.filterMap_cons_none claim]
        exact .unlisted (teamClaim?_eq_none.1 claim) ih
      | some c =>
        rw [List.filterMap_cons_some claim]
        obtain ⟨m, first, rfl⟩ := Option.map_eq_some_iff.1 claim
        exact .listed (find?_eq_some_iff_firstOf.1 first) ih

theorem enrollsAll_flatMap : EnrollsAll user orgs (orgs.flatMap (claimsIn user)) := by
  induction orgs with
  | nil => exact .nil
  | cons o orgs ih =>
    rw [List.flatMap_cons]
    exact .cons (enrolls_iff.2 rfl) ih

theorem isTeamRoll_teamsOver : IsTeamRoll user orgs (teamsOver orgs user) where
  ascending := sortedBy_ascending
  exact := ⟨_, enrollsAll_flatMap, sortedBy_perm, filter_sortedBy⟩
  tied o ho claims own id := by
    obtain rfl := enrolls_iff.1 own
    have within : (claimsIn user o).Sublist (orgs.flatMap (claimsIn user)) :=
      List.sublist_flatten_of_mem (List.mem_map_of_mem ho)
    have kept : ((claimsIn user o).filter fun c => c.id = id).Sublist
        ((teamsOver orgs user).filter fun c => c.id = id) := by
      rw [teamsOver, filter_sortedBy]
      exact within.filter _
    exact kept.trans List.filter_sublist

/-! ### Order -/

/-- Where claims are on one id at most one organization gives any. -/
theorem eq_of_claims (apart : f.TeamsApart) (effect : f.InEffect orgs) {id : Int64} :
    ∀ o ∈ orgs, ∀ o' ∈ orgs, (claimsIn user o).filter (fun c => c.id = id) ≠ [] →
      (claimsIn user o').filter (fun c => c.id = id) ≠ [] → o = o' := by
  have team : ∀ o : OrganizationFixture, (claimsIn user o).filter (fun c => c.id = id) ≠ [] →
      ∃ t ∈ o.teams, t.id = id := by
    intro o some
    obtain ⟨c, hc⟩ := List.exists_mem_of_ne_nil _ some
    obtain ⟨claimed, own⟩ := List.mem_filter.1 hc
    obtain ⟨t, ht, claim⟩ := List.mem_filterMap.1 claimed
    exact ⟨t, ht, (exists_teamClaim?.1 ⟨c, claim, of_decide_eq_true own⟩).1⟩
  intro o ho o' ho' some some'
  obtain ⟨t, ht, here⟩ := team o some
  obtain ⟨t', ht', there⟩ := team o' some'
  exact apart o o' ((effect.mem o).1 ho) ((effect.mem o').1 ho') t ht t' ht' (here.trans there.symm)

/-- The order in which organizations are kept makes no difference where their teams are apart. -/
theorem teamsOver_congr (apart : f.TeamsApart) (effect : f.InEffect orgs)
    (effect' : f.InEffect orgs') : teamsOver orgs user = teamsOver orgs' user := by
  refine eq_of_ascending sortedBy_ascending sortedBy_ascending fun id => ?_
  rw [teamsOver, teamsOver, filter_sortedBy, filter_sortedBy, List.filter_flatMap, List.filter_flatMap]
  exact flatMap_eq_of_perm (effect.perm effect') (eq_of_claims apart effect)

end Directory

namespace Fixtures

open Directory

variable {f : Fixtures}

theorem teams_answer (on : Family.teams ∉ f.unavailable) (user : Int64) :
    f.store.answer (.teams user) =
      .ok (teamsOver (ofFixtures f).organizations.values user) :=
  (answer_of_on on).trans (congrArg Except.ok (teams_eq_teamsOver _))

/-- Where queries for teams are answered the answer is the roll of the user over the organizations
in effect, and so is every list that goes through these in another order. If no id of a team
occurs in two organizations all of these are one list, also when the organizations are listed in
another order, with those of one id in the same. -/
theorem teams_enrolled (on : Family.teams ∉ f.unavailable) (user : Int64) :
    (∃ orgs, f.InEffect orgs ∧ f.store.answer (.teams user) = .ok (teamsOver orgs user)) ∧
    (∀ orgs, f.InEffect orgs → IsTeamRoll user orgs (teamsOver orgs user)) ∧
    (f.TeamsApart → ∀ f' : Fixtures, Family.teams ∉ f'.unavailable →
      Reordered f.organizations f'.organizations →
        f'.store.answer (.teams user) = f.store.answer (.teams user) ∧
        ∀ orgs orgs', f.InEffect orgs → f'.InEffect orgs' →
          teamsOver orgs' user = teamsOver orgs user) := by
  refine ⟨⟨_, inEffect_values f, teams_answer on user⟩, fun orgs _ => isTeamRoll_teamsOver, ?_⟩
  intro apart f' on' reordered
  have alike : ∀ orgs orgs', f.InEffect orgs → f'.InEffect orgs' →
      teamsOver orgs' user = teamsOver orgs user := by
    intro orgs orgs' effect effect'
    exact teamsOver_congr apart (effect'.of_reordered reordered) effect
  refine ⟨?_, alike⟩
  rw [teams_answer on, teams_answer on', alike _ _ (inEffect_values f) (inEffect_values f')]

/-- Two organizations change places. The first lists a team twice, and of it the user has two
entries in one listing; an earlier fixture of it is not in effect. -/
theorem teams_enrolled_swapped :
    let old : OrganizationFixture := { id := 7 }
    let o : OrganizationFixture :=
      { id := 7
        teams := [{ id := 3, name := "b", members := [⟨5, .write⟩, ⟨5, .read⟩] },
          { id := 3, name := "a", members := [⟨6, .read⟩, ⟨5, .read⟩] }] }
    let o' : OrganizationFixture :=
      { id := 8, teams := [{ id := 2, members := [⟨5, .read⟩] }, { id := 1, members := [⟨6, .read⟩] }] }
    let f : Fixtures := { organizations := [old, o, o'], unavailable := [.users] }
    let f' : Fixtures := { organizations := [o', old, o] }
    (∃ orgs, f.InEffect orgs ∧ f.store.answer (.teams 5) = .ok (teamsOver orgs 5)) ∧
      f'.store.answer (.teams 5) = f.store.answer (.teams 5) := by
  intro old o o' f f'
  have on : Family.teams ∉ f.unavailable := by decide
  have on' : Family.teams ∉ f'.unavailable := by decide
  have listed : ∀ x ∈ f.organizations, ∀ y ∈ f.organizations, ∀ t ∈ x.teams, ∀ t' ∈ y.teams,
      t.id = t'.id → x = y := by decide
  have apart : f.TeamsApart := fun x y hx hy => listed x hx.mem y hy.mem
  have reordered : Reordered f.organizations f'.organizations := by
    refine ⟨by decide, fun id => ?_⟩
    by_cases seven : (7 : Int64) = id
    · subst seven
      rfl
    · simp [f, f', old, o, List.filter_cons, seven]
  obtain ⟨answered, _, alike⟩ := teams_enrolled on 5
  exact ⟨answered, (alike apart f' on' reordered).1⟩

end Fixtures

end ClaimGate
