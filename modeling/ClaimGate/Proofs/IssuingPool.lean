import ClaimGate.Proofs.Acceptance
import ClaimGate.Proofs.Outcome
import ClaimGate.Settings.Pools

/-! In which pool the subject of a token is looked up. The settings give each pool an issuer and
a client, and the issuer and the client of a token are checked each by itself; the client alone
decides the look-up. Proved: an accepted token is looked up in the pool of its client, which is
the pool of its issuer exactly if both are of one pool. -/

namespace ClaimGate

/-- A look-up asks its query, whatever it makes of the answer. -/
theorem Inquiry.asked_find {α : Type} {s : Store} {stage : Family} {q : Query} {d : Denial}
    {f : q.Answer → Option α} :
    ((lookUp stage q).bind fun x => orRefuse d (f x)).asked s = [q] := by
  have silent : ∀ o : Option α, (orRefuse d o).asked s = [] := by
    intro o
    cases o <;> rfl
  show q :: ((orLost stage (s.answer q)).bind fun x => orRefuse d (f x)).asked s = [q]
  cases s.answer q with
  | ok a => exact congrArg (q :: ·) (silent (f a))
  | error _ => rfl

namespace Resolve

theorem principal_asked {s : Store} {tokenClient : String} {t : Token} :
    (principal tokenClient t).asked s =
      if t.client = tokenClient then [.userByTokenSubject t.subject]
      else [.userBySubject t.subject] := by
  unfold principal
  split
  · exact Inquiry.asked_find
  · exact Inquiry.asked_find

end Resolve

namespace PoolSettings

variable {s : PoolSettings} {t : Token}

/-- On every store the principal of the token is looked up by this query alone. -/
def LooksUp (s : PoolSettings) (t : Token) (q : Query) : Prop :=
  ∀ store, (Resolve.principal s.tokenPool.client t).asked store = [q]

/-- The issuer and the client of the token are those of one pool. -/
inductive Paired (s : PoolSettings) (t : Token) : Prop
  | user (issuer : t.issuer = s.userIssuer) (client : t.client = s.userPool.client)
  | token (issuer : t.issuer = s.tokenIssuer) (client : t.client = s.tokenPool.client)

theorem clients_ne_of_check (checked : s.check = .ok ()) :
    s.userPool.client ≠ s.tokenPool.client := by
  intro same
  obtain ⟨_, _, afterUserPool⟩ := bind_eq_ok.1 checked
  obtain ⟨_, _, afterTokenPool⟩ := bind_eq_ok.1 afterUserPool
  rw [if_pos same] at afterTokenPool
  exact nomatch afterTokenPool

theorem looksUp_iff {q : Query} :
    s.LooksUp t q ↔
      q = if t.client = s.tokenPool.client then .userByTokenSubject t.subject
        else .userBySubject t.subject := by
  have asked : ∀ store, (Resolve.principal s.tokenPool.client t).asked store =
      [if t.client = s.tokenPool.client then .userByTokenSubject t.subject
        else .userBySubject t.subject] := by
    intro store
    rw [Resolve.principal_asked]
    split <;> rfl
  constructor
  · intro looksUp
    let silent : Store := ⟨fun _ => .error (.unavailable "")⟩
    exact (List.singleton_inj.1 ((asked silent).symm.trans (looksUp silent))).symm
  · intro same store
    rw [asked store, same]

theorem looksUp_tokenSubject :
    s.LooksUp t (.userByTokenSubject t.subject) ↔ t.client = s.tokenPool.client := by
  rw [looksUp_iff]
  split <;> simp_all

theorem looksUp_subject :
    s.LooksUp t (.userBySubject t.subject) ↔ t.client ≠ s.tokenPool.client := by
  rw [looksUp_iff]
  split <;> simp_all

section Accepted

variable {keys : KeySet} {verifies : SigningKey → List UInt8 → List UInt8 → Bool} {token : String}
  {now : Int}

/-- The issuer and the client of an accepted token are each of some pool. -/
theorem pools_of_accepted
    (accepted : { s.validator keys with verifies }.validate token now = .ok t) :
    (t.issuer = s.userIssuer ∨ t.issuer = s.tokenIssuer) ∧
      (t.client = s.userPool.client ∨ t.client = s.tokenPool.client) := by
  obtain ⟨p, _, holds, carries⟩ := Validator.validate_eq_ok.1 accepted
  obtain ⟨issuer, given, ofPool⟩ := holds .issuer
  obtain ⟨client, named, ofPool'⟩ := holds .audience
  have sameIssuer : t.issuer = issuer := Option.some.inj (carries.issuer.symm.trans given)
  have sameClient : t.client = client := Option.some.inj
    ((Validator.names_iff.1 carries.client).symm.trans (Validator.names_iff.1 named))
  rw [sameIssuer, sameClient]
  exact ⟨ofPool, ofPool'⟩

/-- The subject of an accepted token is looked up in the pool of its client, whatever signatures
verify. Where its issuer is of that pool the look-up follows the issuer as well; nothing checks that
it is, and where it is not the subject is looked up in the pool of the other issuer. -/
theorem lookup_of_accepted (checked : s.check = .ok ()) (distinct : s.userIssuer ≠ s.tokenIssuer)
    (accepted : { s.validator keys with verifies }.validate token now = .ok t) :
    (s.LooksUp t (.userByTokenSubject t.subject) ↔ t.client = s.tokenPool.client) ∧
      (s.LooksUp t (.userBySubject t.subject) ↔ t.client = s.userPool.client) ∧
      (s.Paired t → (s.LooksUp t (.userByTokenSubject t.subject) ↔ t.issuer = s.tokenIssuer) ∧
        (s.LooksUp t (.userBySubject t.subject) ↔ t.issuer = s.userIssuer)) ∧
      (¬ s.Paired t → (s.LooksUp t (.userByTokenSubject t.subject) ↔ t.issuer = s.userIssuer) ∧
        (s.LooksUp t (.userBySubject t.subject) ↔ t.issuer = s.tokenIssuer)) := by
  have clients := clients_ne_of_check checked
  obtain ⟨issuer, client⟩ := pools_of_accepted accepted
  have other : t.client ≠ s.tokenPool.client ↔ t.client = s.userPool.client :=
    ⟨client.resolve_right, fun ofUser ofToken => clients (ofUser.symm.trans ofToken)⟩
  rw [looksUp_tokenSubject, looksUp_subject, other]
  refine ⟨Iff.rfl, Iff.rfl, fun paired => ?_, fun unpaired => ?_⟩
  · cases paired with
    | user issuer client => simp [issuer, client, clients, distinct]
    | token issuer client => simp [issuer, client, clients.symm, distinct.symm]
  · rcases issuer with issuer | issuer <;> rcases client with client | client
    · exact absurd (.user issuer client) unpaired
    · simp [issuer, client, clients.symm, distinct]
    · simp [issuer, client, clients, distinct.symm]
    · exact absurd (.token issuer client) unpaired

end Accepted

/-! ### A token of two pools -/

/-- Persons of the pool `u` with the client `a`, services of the pool `t` with the client `b`. -/
def twoPools : PoolSettings where
  userPool := ⟨"u", "a"⟩
  tokenPool := ⟨"t", "b"⟩
  endpoint := some "i"

def oneSecret : KeySet := .insert .empty "k" ⟨.secret [0x73], .hs256⟩

/-- It names the issuer of persons and the client of services. -/
def crossed : Token where
  subject := "s"
  client := "b"
  issuer := "i/u"
  expiresAt := 9
  use := "access"

def crossedText : String :=
  "eyJhbGciOiJIUzI1NiIsImtpZCI6ImsifQ" ++
    ".eyJzdWIiOiJzIiwiaXNzIjoiaS91IiwiY2xpZW50X2lkIjoiYiIs" ++
    "ImV4cCI6OSwidG9rZW5fdXNlIjoiYWNjZXNzIn0" ++
    ".OjMd321tR8tDK3Su8U6EnHerFP0RH9HTrPURsRZ2mTI"

theorem crossed_accepted : (twoPools.validator oneSecret).validate crossedText 0 = .ok crossed := by
  have spelled : crossedText.toList = _ := Validator.spelled_lines
  exact Validator.validate_of_spelled spelled (by decide +kernel)

theorem twoPools_checked : twoPools.check = .ok () := rfl

theorem twoPools_distinct : twoPools.userIssuer ≠ twoPools.tokenIssuer := by decide

theorem lookup_of_crossed :
    twoPools.LooksUp crossed (.userByTokenSubject "s") ∧ crossed.issuer = twoPools.userIssuer := by
  have lookups := lookup_of_accepted twoPools_checked twoPools_distinct crossed_accepted
  exact ⟨lookups.1.2 rfl, rfl⟩

/-- The issuer alone does not tell the pool of the look-up. -/
theorem not_lookup_of_issuer :
    ¬ ∀ (s : PoolSettings) (keys : KeySet) (token : String) (now : Int) (t : Token),
      s.check = .ok () → s.userIssuer ≠ s.tokenIssuer →
      (s.validator keys).validate token now = .ok t →
      (s.LooksUp t (.userByTokenSubject t.subject) ↔ t.issuer = s.tokenIssuer) ∧
        (s.LooksUp t (.userBySubject t.subject) ↔ t.issuer = s.userIssuer) := by
  intro claim
  have follows := claim _ _ _ _ _ twoPools_checked twoPools_distinct crossed_accepted
  have asked : twoPools.LooksUp crossed (.userByTokenSubject crossed.subject) :=
    looksUp_tokenSubject.2 rfl
  have issuer : crossed.issuer = twoPools.tokenIssuer := follows.1.1 asked
  exact absurd issuer (by decide)

end PoolSettings

end ClaimGate
