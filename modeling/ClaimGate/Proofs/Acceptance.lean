import ClaimGate.Proofs.Outcome
import ClaimGate.Proofs.Payload
import ClaimGate.Token.Validator

/-! Which tokens are accepted, and why the others are not. A token is signed if its header
names a key of the set for its algorithm, the signature over header and payload verifies
with that key, and the payload can be read; the faults of the signature are a relation with
one rule for each step. The claims of a payload are five checks in a fixed order.
Proved: a token is accepted exactly if it is signed and every check holds, and carries the
claims of its payload; otherwise the fault is that of the first check that fails, of which
the signature is the foremost. -/

namespace ClaimGate

/-! ### Signatures -/

namespace Validator

/-- The token parts into segments of which the first holds the header. -/
def Opens (token : String) (s : Segments) (h : TokenHeader) : Prop :=
  Segments.ofText? token.toList = some s ∧ TokenHeader.ofSegment s.header = .ok h

/-- The header names a key of the set, and has its algorithm. -/
def Chooses (v : Validator) (h : TokenHeader) (key : SigningKey) : Prop :=
  ∃ id, h.keyId = some id ∧ v.keys.get? id = some key ∧ h.algorithm = key.algorithm

/-- The signature over header and payload verifies with the key. -/
def Confirms (v : Validator) (s : Segments) (key : SigningKey) : Prop :=
  key.isSuited = true ∧ ∃ signature, Text.Base64Url.decode? s.signature = some signature ∧
    v.verifies key (Text.Utf8.bytes (.ofList s.message)) signature = true

/-- The token is signed, and this is its payload. -/
def Signed (v : Validator) (token : String) (p : Payload) : Prop :=
  ∃ s h key, Opens token s h ∧ v.Chooses h key ∧ v.Confirms s key ∧
    Payload.ofSegment s.payload = .ok p

/-- The first step at which a token turns out not to be signed. -/
inductive Unsigned (v : Validator) (token : String) : SignatureFault → Prop
  | segments (parts : Segments.ofText? token.toList = none) : Unsigned v token .notThreeSegments
  | header {s : Segments} {f : SegmentFault} (parts : Segments.ofText? token.toList = some s)
      (unread : TokenHeader.ofSegment s.header = .error f) : Unsigned v token (.segment f)
  | missingKeyId {s : Segments} {h : TokenHeader} (opens : Opens token s h)
      (unnamed : h.keyId = none) : Unsigned v token .missingKeyId
  | unknownKey {s : Segments} {h : TokenHeader} {id : String} (opens : Opens token s h)
      (named : h.keyId = some id) (unknown : v.keys.get? id = none) : Unsigned v token (.unknownKey id)
  | otherAlgorithm {s : Segments} {h : TokenHeader} {id : String} {key : SigningKey}
      (opens : Opens token s h) (named : h.keyId = some id) (known : v.keys.get? id = some key)
      (differs : h.algorithm ≠ key.algorithm) : Unsigned v token (.otherAlgorithm id)
  | unsuitedKey {s : Segments} {h : TokenHeader} {key : SigningKey} (opens : Opens token s h)
      (chooses : v.Chooses h key) (unsuited : key.isSuited = false) : Unsigned v token .unsuitedKey
  | signature {s : Segments} {h : TokenHeader} {key : SigningKey} (opens : Opens token s h)
      (chooses : v.Chooses h key) (suited : key.isSuited = true)
      (unread : Text.Base64Url.decode? s.signature = none) : Unsigned v token (.segment .base64)
  | notVerified {s : Segments} {h : TokenHeader} {key : SigningKey} {signature : List UInt8}
      (opens : Opens token s h) (chooses : v.Chooses h key) (suited : key.isSuited = true)
      (read : Text.Base64Url.decode? s.signature = some signature)
      (refuted : v.verifies key (Text.Utf8.bytes (.ofList s.message)) signature = false) :
      Unsigned v token .notVerified
  | payload {s : Segments} {h : TokenHeader} {key : SigningKey} {f : SegmentFault}
      (opens : Opens token s h) (chooses : v.Chooses h key) (confirms : v.Confirms s key)
      (unread : Payload.ofSegment s.payload = .error f) : Unsigned v token (.segment f)

variable {v : Validator} {token : String}

theorem keyOf_of_chooses {h : TokenHeader} {key : SigningKey} (chooses : v.Chooses h key) :
    v.keyOf h = if key.isSuited then .ok key else .error .unsuitedKey := by
  obtain ⟨id, named, known, same⟩ := chooses
  cases hs : key.isSuited <;> simp [keyOf, named, known, same, hs]

/-- The payload over which there is a signature of the key. -/
def payloadUnder (v : Validator) (s : Segments) (key : SigningKey) : Except SignatureFault Payload :=
  match Text.Base64Url.decode? s.signature with
  | none => .error (.segment .base64)
  | some signature =>
    if v.verifies key (Text.Utf8.bytes (.ofList s.message)) signature then
      (Payload.ofSegment s.payload).mapError .segment
    else .error .notVerified

/-- Once the header is read its key decides. -/
theorem verified_of_opens {s : Segments} {h : TokenHeader} (opens : Opens token s h) :
    v.verified token = (v.keyOf h).bind (v.payloadUnder s) := by
  obtain ⟨parts, header⟩ := opens
  unfold verified
  rw [parts]
  show Except.bind ((TokenHeader.ofSegment s.header).mapError SignatureFault.segment) _ = _
  rw [header]
  rfl

theorem verified_of_chooses {s : Segments} {h : TokenHeader} {key : SigningKey}
    (opens : Opens token s h) (chooses : v.Chooses h key) (suited : key.isSuited = true) :
    v.verified token = v.payloadUnder s key := by
  rw [verified_of_opens opens, keyOf_of_chooses chooses, if_pos suited]
  rfl

theorem payloadUnder_of_confirms {s : Segments} {key : SigningKey} (confirms : v.Confirms s key) :
    v.payloadUnder s key = (Payload.ofSegment s.payload).mapError .segment := by
  obtain ⟨_, signature, read, verifies⟩ := confirms
  unfold payloadUnder
  rw [read]
  exact if_pos verifies

theorem verified_of_signed {p : Payload} (signed : v.Signed token p) : v.verified token = .ok p := by
  obtain ⟨s, h, key, opens, chooses, confirms, payload⟩ := signed
  rw [verified_of_chooses opens chooses confirms.1, payloadUnder_of_confirms confirms, payload]
  rfl

theorem verified_of_unsigned {f : SignatureFault} (unsigned : v.Unsigned token f) :
    v.verified token = .error f := by
  cases unsigned with
  | segments parts =>
    unfold verified
    rw [parts]
  | header parts unread =>
    unfold verified
    rw [parts]
    show Except.bind ((TokenHeader.ofSegment _).mapError SignatureFault.segment) _ = _
    rw [unread]
    rfl
  | missingKeyId opens unnamed =>
    rw [verified_of_opens opens, keyOf, unnamed]
    rfl
  | unknownKey opens named unknown =>
    rw [verified_of_opens opens]
    simp [keyOf, named, unknown, Except.bind]
  | otherAlgorithm opens named known differs =>
    rw [verified_of_opens opens]
    simp [keyOf, named, known, differs, Except.bind]
  | unsuitedKey opens chooses unsuited =>
    rw [verified_of_opens opens, keyOf_of_chooses chooses, if_neg (Bool.eq_false_iff.1 unsuited)]
    rfl
  | signature opens chooses suited unread =>
    rw [verified_of_chooses opens chooses suited, payloadUnder, unread]
  | notVerified opens chooses suited read refuted =>
    rw [verified_of_chooses opens chooses suited, payloadUnder, read]
    exact if_neg (Bool.eq_false_iff.1 refuted)
  | payload opens chooses confirms unread =>
    rw [verified_of_chooses opens chooses confirms.1, payloadUnder_of_confirms confirms, unread]
    rfl

/-- A token is signed, or there is a first step at which it turns out not to be. -/
theorem signed_or_unsigned (v : Validator) (token : String) :
    (∃ p, v.Signed token p) ∨ ∃ f, v.Unsigned token f := by
  cases parts : Segments.ofText? token.toList with
  | none => exact .inr ⟨_, .segments parts⟩
  | some s =>
  cases header : TokenHeader.ofSegment s.header with
  | error f => exact .inr ⟨_, .header parts header⟩
  | ok h =>
  have opens : Opens token s h := ⟨parts, header⟩
  cases named : h.keyId with
  | none => exact .inr ⟨_, .missingKeyId opens named⟩
  | some id =>
  cases known : v.keys.get? id with
  | none => exact .inr ⟨_, .unknownKey opens named known⟩
  | some key =>
  by_cases same : h.algorithm = key.algorithm
  case neg => exact .inr ⟨_, .otherAlgorithm opens named known same⟩
  have chooses : v.Chooses h key := ⟨id, named, known, same⟩
  cases suited : key.isSuited with
  | false => exact .inr ⟨_, .unsuitedKey opens chooses suited⟩
  | true =>
  cases read : Text.Base64Url.decode? s.signature with
  | none => exact .inr ⟨_, .signature opens chooses suited read⟩
  | some signature =>
  cases verifies : v.verifies key (Text.Utf8.bytes (.ofList s.message)) signature with
  | false => exact .inr ⟨_, .notVerified opens chooses suited read verifies⟩
  | true =>
  have confirms : v.Confirms s key := ⟨suited, signature, read, verifies⟩
  cases payload : Payload.ofSegment s.payload with
  | error f => exact .inr ⟨_, .payload opens chooses confirms payload⟩
  | ok p => exact .inl ⟨p, s, h, key, opens, chooses, confirms, payload⟩

theorem verified_decidedBy (v : Validator) (token : String) :
    DecidedBy (v.verified token) (v.Signed token) (v.Unsigned token) where
  ok _ := verified_of_signed
  error _ := verified_of_unsigned
  either := signed_or_unsigned v token

theorem verified_eq_ok {p : Payload} : v.verified token = .ok p ↔ v.Signed token p :=
  (verified_decidedBy v token).eq_ok

theorem verified_eq_error {f : SignatureFault} : v.verified token = .error f ↔ v.Unsigned token f :=
  (verified_decidedBy v token).eq_error

end Validator

/-! ### Claims -/

/-- The client that a payload names: its client id, even an empty one, and where it gives
none its audience if that is a text. -/
inductive Payload.Names (p : Payload) : String → Prop
  | clientId {client : String} (given : p.clientId = some client) : Names p client
  | audience {client : String} (missing : p.clientId = none)
      (given : p.audience = some (.str client)) : Names p client

/-- The token tells what the payload claims. -/
structure Payload.Carries (p : Payload) (t : Token) : Prop where
  subject : p.subject = some t.subject
  username : t.username = p.username.or p.poolUsername
  client : p.Names t.client
  issuer : p.issuer = some t.issuer
  expiresAt : ∃ e, p.expiry = some e ∧ t.expiresAt = e.toInt
  use : p.tokenUse = some t.use
  pinned : t.pinned = p.pinned?

/-- The checks of a payload. -/
inductive Check where
  | issuer | audience | expiry | use | subject

namespace Check

/-- The place of a check among all. -/
def rank : Check → Nat
  | issuer => 0
  | audience => 1
  | expiry => 2
  | use => 3
  | subject => 4

/-- What a check asks of a payload. -/
def Holds (v : Validator) (p : Payload) (now : Int) : Check → Prop
  | issuer => ∃ i, p.issuer = some i ∧ (i = v.issuers.1 ∨ i = v.issuers.2)
  | audience => ∃ c, p.Names c ∧ (c = v.clients.1 ∨ c = v.clients.2)
  | expiry => ∃ e, p.expiry = some e ∧ Validator.leastTime ≤ e.toInt ∧
      e.toInt ≤ Validator.greatestTime ∧ now < e.toInt
  | use => p.tokenUse = some "access"
  | subject => ∃ s, p.subject = some s ∧ s ≠ ""

/-- How a check that fails is reported. -/
inductive Reports (p : Payload) : Check → TokenFault → Prop
  | issuer : Reports p .issuer .unknownIssuer
  | noClient (unnamed : ∀ c, ¬ p.Names c) : Reports p .audience (.audience .missing)
  | otherClient {c : String} (named : p.Names c) : Reports p .audience (.audience .mismatch)
  | expiry : Reports p .expiry .expired
  | noUse (missing : p.tokenUse = none) : Reports p .use (.tokenUse .missing)
  | otherUse {u : String} (given : p.tokenUse = some u) : Reports p .use (.tokenUse .mismatch)
  | subject : Reports p .subject .missingSubject

/-- The check fails, and every check before it holds. -/
def FailsFirst (v : Validator) (p : Payload) (now : Int) (k : Check) : Prop :=
  ¬ k.Holds v p now ∧ ∀ k' : Check, k'.rank < k.rank → k'.Holds v p now

end Check

namespace Validator

variable {p : Payload} {now : Int}

theorem names_iff {client : String} : p.Names client ↔ p.client? = some client := by
  unfold Payload.client?
  constructor
  · rintro (given | ⟨missing, given⟩)
    · rw [given]
      rfl
    · rw [missing, given]
      rfl
  · intro h
    cases hc : p.clientId with
    | some c =>
      rw [hc] at h
      exact Option.some.inj h ▸ .clientId hc
    | none =>
      rw [hc, Option.none_or, Option.bind_eq_some_iff] at h
      obtain ⟨j, hj, h⟩ := h
      cases j with
      | str c => exact Option.some.inj h ▸ .audience hc hj
      | _ => exact nomatch h

theorem isOneOf_iff {s : String} {pair : String × String} :
    isOneOf s pair = true ↔ s = pair.1 ∨ s = pair.2 := by
  simp [isOneOf]

theorem issuerOf_of_holds (h : Check.issuer.Holds v p now) :
    ∃ i, p.issuer = some i ∧ v.issuerOf p = .ok i := by
  obtain ⟨i, given, known⟩ := h
  exact ⟨i, given, by simp [issuerOf, given, isOneOf_iff.2 known]⟩

theorem issuerOf_of_not_holds (h : ¬ Check.issuer.Holds v p now) :
    v.issuerOf p = .error .unknownIssuer := by
  unfold issuerOf
  cases given : p.issuer with
  | none => rfl
  | some i =>
    have unknown : isOneOf i v.issuers = false :=
      Bool.eq_false_iff.2 fun hi => h ⟨i, given, isOneOf_iff.1 hi⟩
    simp [unknown]

theorem clientOf_of_holds (h : Check.audience.Holds v p now) :
    ∃ c, p.Names c ∧ v.clientOf p = .ok c := by
  obtain ⟨c, named, known⟩ := h
  exact ⟨c, named, by simp [clientOf, names_iff.1 named, isOneOf_iff.2 known]⟩

theorem clientOf_of_not_holds {f : TokenFault} (h : ¬ Check.audience.Holds v p now)
    (reports : Check.audience.Reports p f) : v.clientOf p = .error f := by
  unfold clientOf
  cases reports with
  | noClient unnamed =>
    have hc : p.client? = none := by
      cases hc : p.client? with
      | none => rfl
      | some c => exact absurd (names_iff.2 hc) (unnamed c)
    rw [hc]
  | @otherClient c named =>
    have unknown : isOneOf c v.clients = false :=
      Bool.eq_false_iff.2 fun hc => h ⟨c, named, isOneOf_iff.1 hc⟩
    simp [names_iff.1 named, unknown]

theorem expiryOf_of_holds (h : Check.expiry.Holds v p now) :
    ∃ e, p.expiry = some e ∧ expiryOf p now = .ok e.toInt := by
  obtain ⟨e, given, least, greatest, later⟩ := h
  exact ⟨e, given, by simp [expiryOf, given, least, greatest, later]⟩

theorem expiryOf_of_not_holds (h : ¬ Check.expiry.Holds v p now) :
    expiryOf p now = .error .expired := by
  unfold expiryOf
  cases given : p.expiry with
  | none => rfl
  | some e => exact if_neg fun he => h ⟨e, given, he⟩

theorem useOf_of_holds (h : Check.use.Holds v p now) :
    p.tokenUse = some "access" ∧ useOf p = .ok "access" := by
  have given : p.tokenUse = some "access" := h
  exact ⟨given, by simp [useOf, given, acceptedUse]⟩

theorem useOf_of_not_holds {f : TokenFault} (h : ¬ Check.use.Holds v p now)
    (reports : Check.use.Reports p f) : useOf p = .error f := by
  unfold useOf
  cases reports with
  | noUse missing => rw [missing]
  | @otherUse u given =>
    have other : u ≠ acceptedUse := fun hu => h (given.trans (congrArg some hu))
    simp [given, other]

theorem subjectOf_of_holds (h : Check.subject.Holds v p now) :
    ∃ s, p.subject = some s ∧ subjectOf p = .ok s := by
  obtain ⟨s, given, present⟩ := h
  exact ⟨s, given, by simp [subjectOf, given, present]⟩

theorem subjectOf_of_not_holds (h : ¬ Check.subject.Holds v p now) :
    subjectOf p = .error .missingSubject := by
  unfold subjectOf
  cases given : p.subject with
  | none => rfl
  | some s =>
    have empty : s = "" := Classical.not_not.1 fun hs => h ⟨s, given, hs⟩
    simp [empty]

/-- Where every check holds the payload is accepted, and the token carries its claims. -/
theorem accept_of_holds (h : ∀ k : Check, k.Holds v p now) :
    ∃ t, v.accept p now = .ok t ∧ p.Carries t := by
  obtain ⟨i, hi, issuer⟩ := issuerOf_of_holds (h .issuer)
  obtain ⟨c, hc, client⟩ := clientOf_of_holds (h .audience)
  obtain ⟨e, he, expiry⟩ := expiryOf_of_holds (h .expiry)
  obtain ⟨hu, use⟩ := useOf_of_holds (h .use)
  obtain ⟨s, hs, subject⟩ := subjectOf_of_holds (h .subject)
  refine ⟨_, by simp [accept, issuer, client, expiry, use, subject, bind, Except.bind]; rfl, ?_⟩
  exact ⟨hs, rfl, hc, hi, ⟨e, he, rfl⟩, hu, rfl⟩

/-- The first check that fails is the one that is reported. -/
theorem accept_of_failsFirst {k : Check} {f : TokenFault} (h : k.FailsFirst v p now)
    (reports : k.Reports p f) : v.accept p now = .error f := by
  obtain ⟨fails, before⟩ := h
  cases k with
  | issuer =>
    cases reports
    simp [accept, issuerOf_of_not_holds fails, bind, Except.bind]
  | audience =>
    obtain ⟨i, hi, issuer⟩ := issuerOf_of_holds (before .issuer (by decide))
    simp [accept, issuer, clientOf_of_not_holds fails reports, bind, Except.bind]
  | expiry =>
    obtain ⟨i, hi, issuer⟩ := issuerOf_of_holds (before .issuer (by decide))
    obtain ⟨c, hc, client⟩ := clientOf_of_holds (before .audience (by decide))
    cases reports
    simp [accept, issuer, client, expiryOf_of_not_holds fails, bind, Except.bind]
  | use =>
    obtain ⟨i, hi, issuer⟩ := issuerOf_of_holds (before .issuer (by decide))
    obtain ⟨c, hc, client⟩ := clientOf_of_holds (before .audience (by decide))
    obtain ⟨e, he, expiry⟩ := expiryOf_of_holds (before .expiry (by decide))
    simp [accept, issuer, client, expiry, useOf_of_not_holds fails reports, bind, Except.bind]
  | subject =>
    obtain ⟨i, hi, issuer⟩ := issuerOf_of_holds (before .issuer (by decide))
    obtain ⟨c, hc, client⟩ := clientOf_of_holds (before .audience (by decide))
    obtain ⟨e, he, expiry⟩ := expiryOf_of_holds (before .expiry (by decide))
    obtain ⟨hu, use⟩ := useOf_of_holds (before .use (by decide))
    cases reports
    simp [accept, issuer, client, expiry, use, subjectOf_of_not_holds fails, bind, Except.bind]

end Validator

namespace Check

variable {v : Validator} {p : Payload} {now : Int}

/-- Every check of a lower place holds, or there is a first that fails. -/
theorem holds_or_failsFirst (n : Nat) :
    (∀ k : Check, k.rank < n → k.Holds v p now) ∨ ∃ k : Check, k.FailsFirst v p now := by
  induction n with
  | zero => exact .inl fun _ h => absurd h (Nat.not_lt_zero _)
  | succ n ih =>
    rcases ih with before | first
    · rcases Classical.em (∀ k : Check, k.rank = n → k.Holds v p now) with here | fails
      · refine .inl fun k hk => ?_
        rcases Nat.lt_succ_iff_lt_or_eq.1 hk with hlt | heq
        · exact before k hlt
        · exact here k heq
      · obtain ⟨k, hk⟩ := Classical.not_forall.1 fails
        obtain ⟨rfl, hf⟩ := Classical.not_imp.1 hk
        exact .inr ⟨k, hf, before⟩
    · exact .inr first

theorem rank_lt (k : Check) : k.rank < 5 := by cases k <;> decide

/-- A check that fails is reported in some way. -/
theorem reports (p : Payload) (k : Check) (fails : ¬ k.Holds v p now) : ∃ f, k.Reports p f := by
  cases k with
  | issuer => exact ⟨_, .issuer⟩
  | audience =>
    rcases Classical.em (∃ c, p.Names c) with ⟨c, named⟩ | unnamed
    · exact ⟨_, .otherClient named⟩
    · exact ⟨_, .noClient (not_exists.1 unnamed)⟩
  | expiry => exact ⟨_, .expiry⟩
  | use =>
    cases given : p.tokenUse with
    | none => exact ⟨_, .noUse given⟩
    | some u => exact ⟨_, .otherUse given⟩
  | subject => exact ⟨_, .subject⟩

end Check

/-- One token alone carries the claims of a payload. -/
theorem Payload.Carries.eq {p : Payload} {t t' : Token} (h : p.Carries t) (h' : p.Carries t') :
    t = t' := by
  have subject := Option.some.inj (h.subject.symm.trans h'.subject)
  have client := Option.some.inj
    ((Validator.names_iff.1 h.client).symm.trans (Validator.names_iff.1 h'.client))
  have issuer := Option.some.inj (h.issuer.symm.trans h'.issuer)
  have use := Option.some.inj (h.use.symm.trans h'.use)
  obtain ⟨e, he, hx⟩ := h.expiresAt
  obtain ⟨e', he', hx'⟩ := h'.expiresAt
  have expiresAt : t.expiresAt = t'.expiresAt := by
    rw [hx, hx', Option.some.inj (he.symm.trans he')]
  cases t
  cases t'
  simp only [Token.mk.injEq]
  exact ⟨subject, h.username.trans h'.username.symm, client, issuer, expiresAt, use,
    h.pinned.trans h'.pinned.symm⟩

namespace Validator

variable {v : Validator} {p : Payload} {now : Int}

/-- Every check holds, or there is a first that fails and a fault that reports it. -/
theorem holds_or_reports (v : Validator) (p : Payload) (now : Int) :
    (∀ k : Check, k.Holds v p now) ∨ ∃ k f, Check.FailsFirst v p now k ∧ k.Reports p f := by
  rcases Check.holds_or_failsFirst 5 with h | ⟨k, first⟩
  · exact .inl fun k => h k k.rank_lt
  · obtain ⟨f, hf⟩ := Check.reports p k first.1
    exact .inr ⟨k, f, first, hf⟩

theorem accept_decidedBy (v : Validator) (p : Payload) (now : Int) :
    DecidedBy (v.accept p now) (fun t => (∀ k : Check, k.Holds v p now) ∧ p.Carries t)
      (fun f => ∃ k : Check, k.FailsFirst v p now ∧ k.Reports p f) where
  ok := by
    rintro t ⟨holds, carries⟩
    obtain ⟨t', ht, carries'⟩ := accept_of_holds holds
    rw [ht, carries.eq carries']
  error := by
    rintro f ⟨k, first, hf⟩
    exact accept_of_failsFirst first hf
  either := by
    rcases holds_or_reports v p now with holds | ⟨k, f, first, hf⟩
    · obtain ⟨t, _, carries⟩ := accept_of_holds holds
      exact .inl ⟨t, holds, carries⟩
    · exact .inr ⟨f, k, first, hf⟩

theorem accept_eq_ok {t : Token} :
    v.accept p now = .ok t ↔ (∀ k : Check, k.Holds v p now) ∧ p.Carries t :=
  (accept_decidedBy v p now).eq_ok

theorem accept_eq_error {f : TokenFault} :
    v.accept p now = .error f ↔ ∃ k : Check, k.FailsFirst v p now ∧ k.Reports p f :=
  (accept_decidedBy v p now).eq_error

theorem validate_eq_ok {token : String} {t : Token} :
    v.validate token now = .ok t ↔
      ∃ p, v.Signed token p ∧ (∀ k : Check, k.Holds v p now) ∧ p.Carries t := by
  simp only [← verified_eq_ok, ← accept_eq_ok, validate]
  cases v.verified token with
  | ok p => simp
  | error g => simp

theorem validate_eq_error {token : String} {f : TokenFault} :
    v.validate token now = .error f ↔
      (∃ g, v.Unsigned token g ∧ f = .invalidSignature g.message) ∨
        ∃ p, v.Signed token p ∧ ∃ k : Check, k.FailsFirst v p now ∧ k.Reports p f := by
  simp only [← verified_eq_ok, ← verified_eq_error, ← accept_eq_error, validate]
  cases v.verified token with
  | ok p => simp
  | error g => simp [eq_comm]

/-! ### Tokens by their characters -/

/-- The payload of a token that is given by its characters. -/
def verifiedOf (v : Validator) (cs : List Char) : Except SignatureFault Payload :=
  match Segments.ofText? cs with
  | none => .error .notThreeSegments
  | some s => do
    let header ← (TokenHeader.ofSegment s.header).mapError .segment
    (v.keyOf header).bind (v.payloadUnder s)

/-- The characters of a text that is written in four lines. -/
theorem spelled_lines {a b c d : List Char} :
    (String.ofList a ++ .ofList b ++ .ofList c ++ .ofList d).toList = a ++ b ++ c ++ d := by
  simp only [String.toList_append, String.toList_ofList]

/-- Whether a token is accepted is computed from its characters, without decoding its text. -/
theorem validate_of_spelled {token : String} {cs : List Char} {t : Token} (spelled : token.toList = cs)
    (h : ((v.verifiedOf cs).toOption.bind fun p => (v.accept p now).toOption) = some t) :
    v.validate token now = .ok t := by
  have same : v.verified token = v.verifiedOf cs := by
    rw [← spelled]
    rfl
  unfold validate
  rw [same]
  cases hv : v.verifiedOf cs with
  | error f =>
    rw [hv] at h
    exact nomatch h
  | ok p =>
    rw [hv] at h
    have accepted : (v.accept p now).toOption = some t := h
    show v.accept p now = .ok t
    cases ha : v.accept p now with
    | error f =>
      rw [ha] at accepted
      exact nomatch accepted
    | ok t' =>
      rw [ha] at accepted
      exact congrArg Except.ok (Option.some.inj accepted)

/-- Which tokens are accepted and with what, and which fault the others have. The claims of
a payload are what the members of its object say; only a list has none, and no expiry. -/
theorem validate_eq_iff (v : Validator) (token : String) (now : Int) :
    (∀ t, v.validate token now = .ok t ↔
      ∃ p, v.Signed token p ∧ (∀ k : Check, k.Holds v p now) ∧ p.Carries t) ∧
    (∀ f, v.validate token now = .error f ↔
      (∃ g, v.Unsigned token g ∧ f = .invalidSignature g.message) ∨
        ∃ p, v.Signed token p ∧ ∃ k : Check, k.FailsFirst v p now ∧ k.Reports p f) ∧
    ∀ segment p, Payload.ofSegment segment = .ok p →
      (∃ ms, Segments.json segment = .ok (.obj ms) ∧ p.Describes ms) ∨ p.expiry = none :=
  ⟨fun _ => validate_eq_ok, fun _ => validate_eq_error, fun _ _ => Payload.describes_of_segment⟩

end Validator

end ClaimGate
