import ClaimGate.Proofs.Acceptance
import ClaimGate.Proofs.Grant
import ClaimGate.Proofs.IssuingPool
import ClaimGate.Proofs.Numeral

/-! The organization that a token pins. The claim of a payload on an organization may be any
JSON value; a number and a text can denote an id, and no other value does. Proved: an accepted
token whose claim denotes an id is confined to that organization. No query names another, and
the claims are the same whatever organization the principal prefers. Where the claim denotes
no id the token pins nothing, and the preferred organization counts. -/

namespace ClaimGate

/-! ### What a payload says -/

/-- A member of the payload of a token, as it is written. -/
def Segments.claim? (token : List Char) (name : String) : Option Json := do
  let s ← ofText? token
  let j ← (json s.payload).toOption
  j.member? name

/-- The value denotes the id: it is the number, or a text that denotes it. -/
inductive Json.DenotesId : Json → Int64 → Prop
  | number (n : Int64) : DenotesId (.int n.toInt) n
  | text {s : String} {n : Int64} (denotes : Text.Denotes s n.toInt) : DenotesId (.str s) n

namespace Payload

theorem organizationOf?_eq_some {j : Json} {n : Int64} :
    organizationOf? j = some n ↔ j.DenotesId n := by
  unfold organizationOf?
  constructor
  · intro h
    split at h
    · obtain rfl := Text.int64?_eq_some.1 h
      exact .number n
    · exact .text (Text.readId?_eq_some.1 h)
    · exact nomatch h
  · intro denotes
    cases denotes with
    | number => exact Text.int64?_toInt n
    | text denotes => exact Text.readId?_eq_some.2 denotes

/-- The order of members does not count for an id. -/
theorem organizationOf?_sorted (j : Json) : organizationOf? j.sorted = organizationOf? j := by
  cases j <;> rfl

theorem organizationOf?_eq_none {j : Json} :
    organizationOf? j = none ↔ ∀ n, ¬ j.DenotesId n := by
  simp only [Option.eq_none_iff_forall_ne_some, ne_eq, organizationOf?_eq_some]

end Payload

namespace Validator

variable {v : Validator} {token : String} {now : Int} {t : Token} {j : Json}

/-- The claim of an accepted token on an organization is the one that is read. -/
theorem organizationId_of_claim (accepted : v.validate token now = .ok t)
    (claimed : Segments.claim? token.toList "custom:organization_id" = some j) (present : j ≠ .null) :
    ∃ p : Payload, p.Carries t ∧ p.organizationId = some j.sorted := by
  obtain ⟨p, ⟨s, _, _, opens, _, _, payload⟩, holds, carries⟩ := validate_eq_ok.1 accepted
  obtain ⟨e, expires, _⟩ := holds .expiry
  rcases Payload.describes_of_segment payload with ⟨ms, object, describes⟩ | without
  case inr =>
    -- A list that stands for a payload ends before the expiry, which an accepted token has.
    rw [without] at expires
    exact nomatch expires
  have given : ms.lookup "custom:organization_id" = some j := by
    simpa [Segments.claim?, opens.1, object, Except.toOption, Json.member?] using claimed
  refine ⟨p, carries, ?_⟩
  have member := describes.organizationId
  generalize p.organizationId = claim at member
  cases member with
  | missing absent => exact nomatch absent.symm.trans given
  | null null => exact absurd (Option.some.inj (given.symm.trans null)) present
  | @value j' a given' _ read =>
    obtain rfl := Option.some.inj (given.symm.trans given')
    have plain : (if j.isPlain then .ok j.sorted else .error Json.Fault.garbled) = Except.ok a := read
    split at plain
    · exact congrArg some (Except.ok.inj plain).symm
    · exact nomatch plain

theorem pinned_of_claim (accepted : v.validate token now = .ok t)
    (claimed : Segments.claim? token.toList "custom:organization_id" = some j) (present : j ≠ .null) :
    t.pinned.map (·.id) = Payload.organizationOf? j := by
  obtain ⟨p, carries, given⟩ := organizationId_of_claim accepted claimed present
  rw [carries.pinned, ← Payload.organizationOf?_sorted]
  cases h : Payload.organizationOf? j.sorted with
  | none => simp [Payload.pinned?, given, h]
  | some n => simp [Payload.pinned?, given, h]

end Validator

namespace Token

variable {t : Token} {n : Int64}

theorem activeOrganization?_of_pinned (pinned : t.pinned.map (·.id) = some n) (p : Principal) :
    t.activeOrganization? p = some n := by
  simp [activeOrganization?, pinned]

theorem activeOrganization?_of_not_pinned (free : t.pinned.map (·.id) = none) (p : Principal) :
    t.activeOrganization? p = p.preferredOrganization := by
  simp [activeOrganization?, free]

end Token

/-! ### Preferences -/

/-- The answer with every principal in it replaced. -/
def Query.mapPrincipals (g : Principal → Principal) : (q : Query) → q.Answer → q.Answer
  | .userBySubject _, o | .userByTokenSubject _, o | .userById _, o => Option.map g o
  | .permission _ _, a | .features _, a | .teams _, a | .datasetByNodeId _ _, a
  | .grants _ _ _, a | .manifest _, a => a

def Principal.prefer (f : Principal → Option Int64) (p : Principal) : Principal :=
  { p with preferredOrganization := f p }

/-- The store in which each principal prefers another organization, or none. -/
def Store.preferring (s : Store) (f : Principal → Option Int64) : Store where
  answer q := (s.answer q).map (q.mapPrincipals (Principal.prefer f))

theorem Query.mapPrincipals_of_family {g : Principal → Principal} {q : Query}
    (h : q.family ≠ .users) (a : q.Answer) : q.mapPrincipals g a = a := by
  cases q <;> first | rfl | exact absurd rfl h

theorem Store.preferring_answer {s : Store} {f : Principal → Option Int64} {q : Query}
    (h : q.family ≠ .users) : (s.preferring f).answer q = s.answer q := by
  show (s.answer q).map _ = s.answer q
  cases s.answer q with
  | error e => rfl
  | ok a => exact congrArg Except.ok (Query.mapPrincipals_of_family h a)

/-! ### What is asked -/

/-- The organization that a query names. -/
def Query.organization? : Query → Option Int64
  | .permission _ o | .features o | .datasetByNodeId o _ | .grants o _ _ => some o
  | .userBySubject _ | .userByTokenSubject _ | .userById _ | .teams _ | .manifest _ => none

/-- The query names no other organization. -/
def Query.Within (organization : Int64) (q : Query) : Prop :=
  ∀ o, q.organization? = some o → o = organization

/-- The query is not about users and names no other organization. -/
structure Query.Inside (organization : Int64) (q : Query) : Prop where
  family : q.family ≠ .users
  within : q.Within organization

theorem Query.inside_of_named {q : Query} {organization : Int64} (family : q.family ≠ .users)
    (named : q.organization? = some organization) : q.Inside organization :=
  ⟨family, fun _ other => Option.some.inj (other.symm.trans named)⟩

theorem Query.inside_teams {organization user : Int64} : (teams user).Inside organization :=
  ⟨nofun, nofun⟩

theorem Query.inside_manifest {organization : Int64} {id : String} :
    (manifest id).Inside organization :=
  ⟨nofun, nofun⟩

open Inquiry

theorem Inquiry.run_find_preferring {s : Store} {f : Principal → Option Int64} {d : Denial}
    {stage : Family} {q : Query} {into : q.Answer → Option Principal}
    (h : ∀ a, into (q.mapPrincipals (Principal.prefer f) a) = (into a).map (Principal.prefer f)) :
    ((lookUp stage q).bind fun a => orRefuse d (into a)).run (s.preferring f) =
        ((((lookUp stage q).bind fun a => orRefuse d (into a)).outcome s).map (Principal.prefer f),
          []) ∧
      ((lookUp stage q).bind fun a => orRefuse d (into a)).run s =
        (((lookUp stage q).bind fun a => orRefuse d (into a)).outcome s, []) := by
  rw [outcome]
  cases hq : s.answer q with
  | error e =>
    have hq' : (s.preferring f).answer q = .error e := congrArg (Except.map _) hq
    rw [run_lookUp_bind_of_error hq, run_lookUp_bind_of_error hq']
    exact ⟨rfl, rfl⟩
  | ok a =>
    have hq' : (s.preferring f).answer q = .ok (q.mapPrincipals (Principal.prefer f) a) :=
      congrArg (Except.map _) hq
    rw [run_lookUp_bind_of_ok hq, run_lookUp_bind_of_ok hq', h]
    cases into a <;> exact ⟨rfl, rfl⟩

namespace Resolve

/-- The principal is looked up in silence, and a preference only goes along with it. -/
theorem principal_run (tokenClient : String) (t : Token) (s : Store)
    (f : Principal → Option Int64) :
    (principal tokenClient t).run (s.preferring f) =
        (((principal tokenClient t).outcome s).map (Principal.prefer f), []) ∧
      (principal tokenClient t).run s = ((principal tokenClient t).outcome s, []) := by
  unfold principal
  split
  · exact run_find_preferring fun _ => rfl
  · exact run_find_preferring fun _ => rfl

end Resolve

/-! ### Confinement -/

namespace Scope

variable {policy : Policy} {tokenClient : String} {t : Token} {organization : Int64}

/-- Where the organization is known every query behind the principal stays inside it. -/
theorem afterPrincipal_inside {p : Principal}
    (active : t.activeOrganization? p = some organization) (scope : Scope) :
    (scope.afterPrincipal policy t p).AsksOnly (Query.Inside organization) := by
  refine afterPrincipal_keepsTo (fun o own => ?_) Query.inside_teams
    (fun _ _ => Query.inside_manifest) fun _ _ => trivial
  obtain rfl := Option.some.inj (active.symm.trans own)
  exact ⟨Query.inside_of_named nofun rfl, Query.inside_of_named nofun rfl,
    fun _ => Query.inside_of_named nofun rfl, fun _ => Query.inside_of_named nofun rfl⟩

/-- The course does not look at the preference where the token decides. -/
theorem afterPrincipal_prefer {n : Int64} (pinned : t.pinned.map (·.id) = some n)
    (f : Principal → Option Int64) (p : Principal) (scope : Scope) :
    scope.afterPrincipal policy t (p.prefer f) = scope.afterPrincipal policy t p := by
  have same : t.activeOrganization? (p.prefer f) = t.activeOrganization? p := by
    rw [Token.activeOrganization?_of_pinned pinned, Token.activeOrganization?_of_pinned pinned]
  have known : Resolve.activeOrganization t (p.prefer f) = Resolve.activeOrganization t p := by
    rw [Resolve.activeOrganization, same]
    rfl
  cases scope <;> simp only [afterPrincipal, claimsOf, known] <;> rfl

theorem resolve_asksOnly {n : Int64} (pinned : t.pinned.map (·.id) = some n) (scope : Scope) :
    (scope.resolve policy tokenClient t).AsksOnly (Query.Within n) := by
  rw [resolve_eq]
  refine .bind (Resolve.principal_keepsTo tokenClient nofun nofun) fun p => ?_
  have active := Token.activeOrganization?_of_pinned pinned p
  exact (afterPrincipal_inside active scope).imp fun q inside => inside.within

theorem resolve_run_preferring {n : Int64} (pinned : t.pinned.map (·.id) = some n) (s : Store)
    (f : Principal → Option Int64) (scope : Scope) :
    (scope.resolve policy tokenClient t).run (s.preferring f) =
      (scope.resolve policy tokenClient t).run s := by
  obtain ⟨preferring, plain⟩ := Resolve.principal_run tokenClient t s f
  rw [resolve_eq, run_bind, run_bind, preferring, plain]
  cases (Resolve.principal tokenClient t).outcome s with
  | error d => rfl
  | ok p =>
    have active := Token.activeOrganization?_of_pinned pinned p
    have rest : (scope.afterPrincipal policy t (p.prefer f)).run (s.preferring f) =
        (scope.afterPrincipal policy t p).run s := by
      rw [afterPrincipal_prefer pinned]
      -- Users are asked for in the first step alone, and there the stores differ.
      exact (afterPrincipal_inside active scope).run_eq fun q inside =>
        Store.preferring_answer inside.family
    simp only [Except.map, rest]

end Scope

/-- Outside the scope of a user the claims tell the organization that is active. -/
theorem Scope.Granted.organization {policy : Policy} {s : Store} {t : Token} {p : Principal}
    {scope : Scope} {c : ClaimSet} (h : scope.Granted policy s t p c) (notUser : scope ≠ .user) :
    ∃ claim, c.organization = some claim ∧ t.activeOrganization? p = some claim.id := by
  cases h with
  | user => exact absurd rfl notUser
  | workspace active => exact ⟨_, rfl, active⟩
  | dataset active => exact ⟨_, rfl, active⟩
  | manifest active => exact ⟨_, rfl, active⟩

namespace Token

/-- Whatever is asked about, and whoever the token stands for, it acts in one organization: that
is active, no query names another, the claims are on it, and no preference makes a difference. -/
structure ConfinedTo (t : Token) (organization : Int64) : Prop where
  active : ∀ p, t.activeOrganization? p = some organization
  asked : ∀ policy tokenClient s (scope : Scope),
    ∀ q ∈ (scope.resolve policy tokenClient t).asked s, q.Within organization
  granted : ∀ policy tokenClient s (scope : Scope) c, scope ≠ .user →
    (scope.resolve policy tokenClient t).outcome s = .ok c →
      ∃ claim, c.organization = some claim ∧ claim.id = organization
  indifferent : ∀ policy tokenClient s f (scope : Scope),
    (scope.resolve policy tokenClient t).run (s.preferring f) =
      (scope.resolve policy tokenClient t).run s

/-- The token acts in the organization that its principal prefers. -/
structure FollowsPreference (t : Token) : Prop where
  active : ∀ p, t.activeOrganization? p = p.preferredOrganization
  granted : ∀ policy tokenClient s (scope : Scope) c, scope ≠ .user →
    (scope.resolve policy tokenClient t).outcome s = .ok c →
      ∃ p claim, s.Identifies tokenClient t p ∧ c.organization = some claim ∧
        p.preferredOrganization = some claim.id

variable {t : Token}

theorem confinedTo_of_pinned {n : Int64} (pinned : t.pinned.map (·.id) = some n) :
    t.ConfinedTo n := by
  refine ⟨activeOrganization?_of_pinned pinned, ?_, ?_, ?_⟩
  · intro policy tokenClient s scope
    exact (Scope.resolve_asksOnly pinned scope).of_mem_asked
  · intro policy tokenClient s scope c notUser granted
    obtain ⟨p, _, grounds⟩ := Scope.resolve_eq_ok.1 granted
    obtain ⟨claim, told, same⟩ := grounds.organization notUser
    exact ⟨claim, told, Option.some.inj (same.symm.trans (activeOrganization?_of_pinned pinned p))⟩
  · intro policy tokenClient s f scope
    exact Scope.resolve_run_preferring pinned s f scope

theorem followsPreference_of_not_pinned (free : t.pinned.map (·.id) = none) :
    t.FollowsPreference := by
  refine ⟨activeOrganization?_of_not_pinned free, ?_⟩
  intro policy tokenClient s scope c notUser granted
  obtain ⟨p, identifies, grounds⟩ := Scope.resolve_eq_ok.1 granted
  obtain ⟨claim, told, same⟩ := grounds.organization notUser
  exact ⟨p, claim, identifies, told, (activeOrganization?_of_not_pinned free p).symm.trans same⟩

end Token

namespace Validator

/-- The claim of an accepted token on an organization confines it to the id that it denotes. One
that denotes none is passed over, as if it were not there. -/
theorem confinement_of_claim {v : Validator} {token : String} {now : Int} {t : Token} {j : Json}
    (accepted : v.validate token now = .ok t)
    (claimed : Segments.claim? token.toList "custom:organization_id" = some j) (present : j ≠ .null) :
    (∀ n, j.DenotesId n → t.ConfinedTo n) ∧ ((∀ n, ¬ j.DenotesId n) → t.FollowsPreference) := by
  have pinned := pinned_of_claim accepted claimed present
  refine ⟨fun n denotes => ?_, fun unread => ?_⟩
  · rw [Payload.organizationOf?_eq_some.2 denotes] at pinned
    exact Token.confinedTo_of_pinned pinned
  · rw [Payload.organizationOf?_eq_none.2 unread] at pinned
    exact Token.followsPreference_of_not_pinned pinned

/-! ### Two claims -/

open PoolSettings (twoPools oneSecret)

theorem claim?_of_text {token : List Char} {name text : String}
    (h : (Segments.claim? token name).bind Json.text? = some text) :
    Segments.claim? token name = some (.str text) := by
  obtain ⟨j, claimed, read⟩ := Option.bind_eq_some_iff.1 h
  cases j with
  | str s => exact claimed.trans (congrArg (some ∘ Json.str) (Option.some.inj read))
  | _ => exact nomatch read

/-- What a token of the pool of persons makes, pinned or not. -/
def ofPersons (pinned : Option PinnedOrganization) : Token where
  subject := "s"
  client := "a"
  issuer := "i/u"
  expiresAt := 9
  use := "access"
  pinned

/-- A token that claims the organization ` 8 `. -/
def pinningText : String :=
  "eyJhbGciOiJIUzI1NiIsImtpZCI6ImsifQ" ++
    ".eyJzdWIiOiJzIiwiaXNzIjoiaS91IiwiYXVkIjoiYSIsImV4cCI6OSwidG9rZW5fdXNlIjoiYWNjZXNzIiw" ++
    "iY3VzdG9tOm9yZ2FuaXphdGlvbl9pZCI6IiA4ICJ9" ++
    ".2eUXx8p5B640N1SnUEBOLYVvS0AJdWGbJ4oXsiQ1CJU"

theorem confinement_of_pinningText : (ofPersons (some ⟨8, none⟩)).ConfinedTo 8 := by
  have spelled : pinningText.toList = _ := spelled_lines
  have accepted : (twoPools.validator oneSecret).validate pinningText 0 =
      .ok (ofPersons (some ⟨8, none⟩)) :=
    validate_of_spelled spelled (by decide +kernel)
  have claimed : Segments.claim? pinningText.toList "custom:organization_id" =
      some (.str " 8 ") := by
    rw [spelled]
    exact claim?_of_text (by decide +kernel)
  have denotes : Json.DenotesId (.str " 8 ") 8 := .text (Text.readId?_eq_some.1 (by decide))
  exact (confinement_of_claim accepted claimed nofun).1 8 denotes

/-- A token that claims the organization `acme`. -/
def unreadText : String :=
  "eyJhbGciOiJIUzI1NiIsImtpZCI6ImsifQ" ++
    ".eyJzdWIiOiJzIiwiaXNzIjoiaS91IiwiYXVkIjoiYSIsImV4cCI6OSwidG9rZW5fdXNlIjoiYWNjZXNzIiw" ++
    "iY3VzdG9tOm9yZ2FuaXphdGlvbl9pZCI6ImFjbWUifQ" ++
    ".u5PFYy7a3EMqoXZ2HtNo-ny20WTKdDJ3wV4IVCkBpqg"

/-- A claim that denotes no id does not get a request denied. -/
theorem not_denied_of_unread :
    ¬ ∀ (v : Validator) (token : String) (now : Int) (t : Token) (j : Json),
      v.validate token now = .ok t →
      Segments.claim? token.toList "custom:organization_id" = some j → j ≠ .null →
      (∀ n, ¬ j.DenotesId n) →
      ∀ policy tokenClient s (scope : Scope), scope ≠ .user →
        ∃ d, (scope.resolve policy tokenClient t).outcome s = .error d := by
  intro claim
  have spelled : unreadText.toList = _ := spelled_lines
  have accepted : (twoPools.validator oneSecret).validate unreadText 0 =
      .ok (ofPersons none) :=
    validate_of_spelled spelled (by decide +kernel)
  have claimed : Segments.claim? unreadText.toList "custom:organization_id" =
      some (.str "acme") := by
    rw [spelled]
    exact claim?_of_text (by decide +kernel)
  have unread : ∀ n, ¬ Json.DenotesId (.str "acme") n :=
    Payload.organizationOf?_eq_none.1 (by decide)
  let s : Store :=
    .single { id := 5, nodeId := "N:user:5", preferredOrganization := some 7 } []
      ⟨11, "N:dataset:11", 7⟩ {}
  have granted : ((Scope.workspace 7).resolve {} "b" (ofPersons none)).outcome s =
      .ok ⟨⟨5, "N:user:5", false⟩, some ⟨7, .none, []⟩, none, some []⟩ :=
    rfl
  obtain ⟨d, denied⟩ :=
    claim _ _ _ _ _ accepted claimed nofun unread {} "b" s (.workspace 7) nofun
  rw [granted] at denied
  exact nomatch denied

end Validator

end ClaimGate
