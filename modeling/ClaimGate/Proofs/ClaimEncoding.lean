import ClaimGate.Proofs.Context
import ClaimGate.Proofs.RoundTrip

/-! The three ways to write a claim set. The written claim set has a member for each label,
and the context a text for each, so both are told by the claim that a label has. Reading a
context takes the labels one by one, and a label without a text has no claim. Proved: the
list of labels, the context and the written claim set tell of the same claims, and each of
the last two gives the claim set back, an empty list of teams included. -/

namespace ClaimGate

open Json

/-- The claim that a context holds under a label; no text is no claim. -/
def Label.claimIn {α : Type} (l : Label) (shape : Shape α) (d : Dict String String) :
    Except Http.BodyFault (Option α) :=
  match d.get? l.name with
  | none => .ok none
  | some text => some <$> Http.decodeText shape text

namespace ClaimSet

/-- The claim set of a context, read label by label. -/
def ofContext (d : Dict String String) : Except Http.BodyFault ClaimSet := do
  let user ← match ← Label.user.claimIn UserClaim.shape d with
    | some user => .ok user
    | none => .error .misshapen
  return {
    user
    organization := ← Label.organization.claimIn OrganizationClaim.shape d
    dataset := ← Label.dataset.claimIn DatasetClaim.shape d
    teams := ← Label.teams.claimIn (.list TeamClaim.shape) d }

/-! ### Members -/

/-- The claims that are present, under their names. -/
def members (c : ClaimSet) : List (String × Json) :=
  c.labels.filterMap fun l => (c.claim? l).map fun j => (l.name, j)

theorem encode_eq (c : ClaimSet) : shape.encode c = .obj c.members := by
  rcases c with ⟨u, _ | o, _ | d, _ | t⟩ <;> rfl

theorem names_members (c : ClaimSet) : c.members.map (·.1) = c.labels.map Label.name := by
  rcases c with ⟨u, _ | o, _ | d, _ | t⟩ <;> rfl

theorem lookup_members (c : ClaimSet) (l : Label) : c.members.lookup l.name = c.claim? l := by
  rcases c with ⟨u, _ | o, _ | d, _ | t⟩ <;> cases l <;> rfl

theorem spelled_claim {c : ClaimSet} {l : Label} {j : Json} (h : c.claim? l = some j) :
    Spelled j := by
  cases l with
  | user =>
    obtain rfl := Option.some.inj h
    exact UserClaim.shape.spelled_encode _
  | organization =>
    obtain ⟨o, _, rfl⟩ := Option.map_eq_some_iff.1 h
    exact OrganizationClaim.shape.spelled_encode o
  | dataset =>
    obtain ⟨d, _, rfl⟩ := Option.map_eq_some_iff.1 h
    exact DatasetClaim.shape.spelled_encode d
  | teams =>
    obtain ⟨t, _, rfl⟩ := Option.map_eq_some_iff.1 h
    exact TeamClaim.shape.list.spelled_encode t

/-! ### Contexts -/

theorem get?_context (c : ClaimSet) (l : Label) :
    c.context.get? l.name = (c.claim? l).map Json.text := by
  refine Option.ext fun text => ?_
  rw [get?_context_eq_some, Option.map_eq_some_iff]
  constructor
  · rintro ⟨l', j, name, claim, rfl⟩
    exact ⟨j, Label.name_inj.1 name ▸ claim, rfl⟩
  · rintro ⟨j, claim, rfl⟩
    exact ⟨l, j, rfl, claim, rfl⟩

theorem mem_keys_context {c : ClaimSet} {k : String} :
    k ∈ c.context.keys ↔ ∃ l ∈ c.labels, k = l.name := by
  rw [Dict.mem_keys]
  constructor
  · rintro ⟨text, h⟩
    obtain ⟨l, j, rfl, claim, _⟩ := get?_context_eq_some.1 h
    exact ⟨l, mem_labels.2 ⟨j, claim⟩, rfl⟩
  · rintro ⟨l, hl, rfl⟩
    obtain ⟨j, claim⟩ := mem_labels.1 hl
    exact ⟨j.text, get?_context_eq_some.2 ⟨l, j, rfl, claim, rfl⟩⟩

theorem claimIn_context {α : Type} {s : Shape α} [s.Faithful] {c : ClaimSet} {l : Label}
    {a : Option α} (h : c.claim? l = a.map s.encode) : l.claimIn s c.context = .ok a := by
  rw [Label.claimIn, get?_context, h]
  cases a with
  | none => rfl
  | some a => exact congrArg (some <$> ·) (s.decodeText_encode a)

section Claims

variable (c : ClaimSet)

theorem claimIn_user : Label.user.claimIn UserClaim.shape c.context = .ok (some c.user) :=
  claimIn_context rfl

theorem claimIn_organization :
    Label.organization.claimIn OrganizationClaim.shape c.context = .ok c.organization :=
  claimIn_context rfl

theorem claimIn_dataset : Label.dataset.claimIn DatasetClaim.shape c.context = .ok c.dataset :=
  claimIn_context rfl

theorem claimIn_teams : Label.teams.claimIn TeamClaim.shape.list c.context = .ok c.teams :=
  claimIn_context rfl

theorem ofContext_context : ofContext c.context = .ok c := by
  rw [ofContext, claimIn_user, claimIn_organization, claimIn_dataset, claimIn_teams]
  rfl

/-- An empty list of teams has a text of its own. -/
theorem teams_eq_some_nil : c.teams = some [] ↔ c.context.get? Label.teams.name = some "[]" := by
  have empty : (TeamClaim.shape.list.encode []).text = "[]" := rfl
  constructor
  · intro teams
    rw [get?_context, claim?, teams]
    exact congrArg some empty
  · intro text
    -- The text can be read as the teams that it was printed from, and as no teams.
    have read := c.claimIn_teams
    rw [Label.claimIn, text, ← empty] at read
    simp only [Shape.decodeText_encode] at read
    exact (Except.ok.inj read).symm

theorem teams_eq_none : c.teams = none ↔ c.context.get? Label.teams.name = none := by
  rw [get?_context, claim?, Option.map_eq_none_iff, Option.map_eq_none_iff]

end Claims

/-! ### Agreement -/

/-- The list of labels, the context and the written claim set agree: they have the same claims,
under ascending labels, and each text of the context reads as the member of its label. Either of
the texts, and the answer that carries the context, gives the claim set back. -/
theorem encodings_agree (c : ClaimSet) :
    c.labels.Pairwise (· < ·) ∧
    (∀ k, k ∈ c.context.keys ↔ ∃ l ∈ c.labels, k = l.name) ∧
    (∃ ms, Json.read (shape.encode c).text = ⟨.obj ms, true⟩ ∧
      ms.map (·.1) = c.labels.map Label.name ∧
      ∀ l ∈ c.labels, ∃ text j, c.context.get? l.name = some text ∧
        Json.read text = ⟨j, true⟩ ∧ ms.lookup l.name = some j) ∧
    ofContext c.context = .ok c ∧
    Http.decodeText shape (shape.encode c).text = .ok c ∧
    Http.decodeText GatewayResponse.shape (GatewayResponse.shape.encode (.allow c)).text =
      .ok (.allow c) ∧
    (c.teams = none ↔ c.context.get? Label.teams.name = none) ∧
    (c.teams = some [] ↔ c.context.get? Label.teams.name = some "[]") := by
  refine ⟨c.labels_ascending, fun k => mem_keys_context, ⟨c.members, ?_, c.names_members, ?_⟩,
    c.ofContext_context, shape.decodeText_encode c, GatewayResponse.shape.decodeText_encode _,
    c.teams_eq_none, c.teams_eq_some_nil⟩
  · rw [(shape.spelled_encode c).read_text, encode_eq]
  · intro l hl
    obtain ⟨j, claim⟩ := mem_labels.1 hl
    refine ⟨j.text, j, ?_, (spelled_claim claim).read_text, ?_⟩
    · rw [get?_context, claim]
      rfl
    · rw [lookup_members, claim]

end ClaimSet

end ClaimGate
