import ClaimGate.Proofs.Acceptance
import ClaimGate.Proofs.IssuingPool

/-! What a signature keeps from being read. A token is its header, payload and signature with
points between them, and the relation between a key, a message and its signatures is any. Of the
rules by which a token turns out not to be signed only one looks at the payload, and that one
asks for a signature that verifies. Proved: where none does, the fault is the first of the
header, its key and the digits of the signature, or that it does not verify; so it is the same
for all payloads, issuers, clients and times. -/

namespace ClaimGate

namespace Segments

/-- The token is the three segments with points between them, and the last two segments hold
no point. -/
structure Part (s : Segments) (token : String) : Prop where
  text : token.toList = s.header ++ '.' :: (s.payload ++ '.' :: s.signature)
  payload : '.' ∉ s.payload
  signature : '.' ∉ s.signature

/-- The last point parts a text in front of a tail without points. -/
theorem splitLast?_append {front tail : List Char} (plain : '.' ∉ tail) :
    splitLast? (front ++ '.' :: tail) = some (front, tail) := by
  have last : ((front ++ '.' :: tail).reverse.takeWhile (· ≠ '.')).reverse = tail := by
    have all : ∀ c ∈ tail.reverse, decide (c ≠ '.') = true := by
      intro c hc
      simp only [decide_eq_true_eq]
      rintro rfl
      exact plain (List.mem_reverse.1 hc)
    rw [List.reverse_append, List.reverse_cons, List.append_assoc, List.takeWhile_append_of_pos all]
    simp
  have shorter : tail.length < (front ++ '.' :: tail).length := by
    simp only [List.length_append, List.length_cons]
    omega
  have front : (front ++ '.' :: tail).take ((front ++ '.' :: tail).length - tail.length - 1) =
      front := by
    have length : (front ++ '.' :: tail).length - tail.length - 1 = front.length := by
      simp only [List.length_append, List.length_cons]
      omega
    rw [length, List.take_left]
  rw [splitLast?, last, if_pos shorter, front]

theorem Part.ofText? {s : Segments} {token : String} (h : s.Part token) :
    Segments.ofText? token.toList = some s := by
  have outer : splitLast? (s.header ++ '.' :: (s.payload ++ '.' :: s.signature)) =
      some (s.header ++ '.' :: s.payload, s.signature) := by
    have regrouped : s.header ++ '.' :: (s.payload ++ '.' :: s.signature) =
        (s.header ++ '.' :: s.payload) ++ '.' :: s.signature := by simp
    rw [regrouped, splitLast?_append h.signature]
  rw [h.text, Segments.ofText?, outer]
  show (splitLast? (s.header ++ '.' :: s.payload)).bind _ = _
  rw [splitLast?_append h.payload]
  rfl

end Segments

/-- The fault of a signature that does not verify: the first of what is wrong with the header,
with the key that it names and with the digits of the signature. -/
def KeySet.refusal (keys : KeySet) (header signature : List Char) : SignatureFault :=
  match TokenHeader.ofSegment header with
  | .error f => .segment f
  | .ok h =>
    match h.keyId with
    | none => .missingKeyId
    | some id =>
      match keys.get? id with
      | none => .unknownKey id
      | some key =>
        if h.algorithm ≠ key.algorithm then .otherAlgorithm id
        else if !key.isSuited then .unsuitedKey
        else if (Text.Base64Url.decode? signature).isNone then .segment .base64
        else .notVerified

namespace Validator

/-- The header names a key under which the signature verifies. -/
def Verifies (v : Validator) (s : Segments) : Prop :=
  ∃ h key, TokenHeader.ofSegment s.header = .ok h ∧ v.Chooses h key ∧ v.Confirms s key

/-- Without a signature that verifies the fault is that of header, key and signature. -/
theorem Unsigned.eq_refusal {v : Validator} {token : String} {f : SignatureFault} {s : Segments}
    (h : v.Unsigned token f) (parts : Segments.ofText? token.toList = some s)
    (unverified : ¬ v.Verifies s) : f = v.keys.refusal s.header s.signature := by
  have same {t : Segments} (parts' : Segments.ofText? token.toList = some t) : t = s :=
    Option.some.inj (parts'.symm.trans parts)
  unfold KeySet.refusal
  cases h with
  | segments none => exact nomatch none.symm.trans parts
  | header parts' unread =>
    obtain rfl := same parts'
    rw [unread]
  | missingKeyId opens unnamed =>
    obtain rfl := same opens.1
    simp [opens.2, unnamed]
  | unknownKey opens named unknown =>
    obtain rfl := same opens.1
    simp [opens.2, named, unknown]
  | otherAlgorithm opens named known differs =>
    obtain rfl := same opens.1
    simp [opens.2, named, known, differs]
  | unsuitedKey opens chooses unsuited =>
    obtain rfl := same opens.1
    obtain ⟨id, named, known, alike⟩ := chooses
    simp [opens.2, named, known, alike, unsuited]
  | signature opens chooses suited unread =>
    obtain rfl := same opens.1
    obtain ⟨id, named, known, alike⟩ := chooses
    simp [opens.2, named, known, alike, suited, unread]
  | notVerified opens chooses suited read refuted =>
    obtain rfl := same opens.1
    obtain ⟨id, named, known, alike⟩ := chooses
    simp [opens.2, named, known, alike, suited, read]
  | payload opens chooses confirms unread =>
    -- The one rule that reads the payload comes after the signature has verified.
    obtain rfl := same opens.1
    exact absurd ⟨_, _, opens.2, chooses, confirms⟩ unverified

theorem validate_of_unverified {v : Validator} {token : String} {s : Segments}
    (parts : s.Part token) (unverified : ¬ v.Verifies s) (now : Int) :
    v.validate token now =
      .error (.invalidSignature (v.keys.refusal s.header s.signature).message) := by
  rcases signed_or_unsigned v token with
    ⟨p, s', h, key, opens, chooses, confirms, _⟩ | ⟨f, unsigned⟩
  · obtain rfl := Option.some.inj (opens.1.symm.trans parts.ofText?)
    exact absurd ⟨h, key, opens.2, chooses, confirms⟩ unverified
  · rw [validate, verified_of_unsigned unsigned, unsigned.eq_refusal parts.ofText? unverified]

/-- Tokens of one header and one signature that does not verify for them have one fault, which
is one of the signature: whatever they claim, whoever the issuers and clients are, and whatever
the time is, the key set alone decides. -/
theorem payload_unconsulted {v w : Validator} {token token' : String} {s s' : Segments}
    (keys : v.keys = w.keys) (header : s.header = s'.header)
    (signature : s.signature = s'.signature) (parts : s.Part token) (parts' : s'.Part token')
    (unverified : ¬ v.Verifies s) (unverified' : ¬ w.Verifies s') (now now' : Int) :
    v.validate token now =
        .error (.invalidSignature (v.keys.refusal s.header s.signature).message) ∧
      w.validate token' now' = v.validate token now := by
  rw [validate_of_unverified parts unverified, validate_of_unverified parts' unverified', keys,
    header, signature]
  exact ⟨rfl, rfl⟩

/-! ### Tampering -/

/-- A signature does not verify if the key that the header names refutes it. -/
theorem not_verifies_of_refuted {v : Validator} {s : Segments} {h : TokenHeader} {key : SigningKey}
    (header : (TokenHeader.ofSegment s.header).toOption = some h) (chooses : v.Chooses h key)
    (refuted : (Text.Base64Url.decode? s.signature).any
      (v.verifies key (Text.Utf8.bytes (.ofList s.message))) = false) : ¬ v.Verifies s := by
  rintro ⟨h', key', header', chooses', _, signature, read, verifies⟩
  obtain rfl : h' = h := by
    rw [header'] at header
    exact Option.some.inj header
  obtain ⟨id, named, known, _⟩ := chooses
  obtain ⟨id', named', known', _⟩ := chooses'
  obtain rfl := Option.some.inj (named.symm.trans named')
  obtain rfl := Option.some.inj (known.symm.trans known')
  rw [read] at refuted
  exact absurd verifies (Bool.eq_false_iff.1 refuted)

def tamperedHeader : List Char := "eyJhbGciOiJIUzI1NiIsImtpZCI6ImsifQ".toList

def tamperedSignature : List Char := "2eUXx8p5B640N1SnUEBOLYVvS0AJdWGbJ4oXsiQ1CJU".toList

/-- The segments of a signed token with another payload in it. -/
def tampered (payload : String) : Segments := ⟨tamperedHeader, payload.toList, tamperedSignature⟩

def tamperedText (payload : String) : String :=
  .ofList (tamperedHeader ++ '.' :: (payload.toList ++ '.' :: tamperedSignature))

/-- A validator with one key that knows one issuer and one client. -/
def knowing (issuer client : String) : Validator where
  keys := PoolSettings.oneSecret
  issuers := (issuer, issuer)
  clients := (client, client)

theorem not_verifies_tampered {issuer client payload : String}
    (refuted : (Text.Base64Url.decode? tamperedSignature).any
      (SigningKey.verifies ⟨.secret [0x73], .hs256⟩
        (Text.Utf8.bytes (.ofList (tampered payload).message))) = false) :
    ¬ (knowing issuer client).Verifies (tampered payload) := by
  have header : (TokenHeader.ofSegment tamperedHeader).toOption = some ⟨.hs256, some "k"⟩ := by
    decide +kernel
  exact not_verifies_of_refuted header ⟨"k", rfl, rfl, rfl⟩ refuted

/-- An object without claims and a text that is no payload have the same fault. -/
theorem payload_unconsulted_of_tampered :
    (knowing "i" "a").validate (tamperedText "e30") 0 =
        .error (.invalidSignature "InvalidSignature") ∧
      (knowing "j" "b").validate (tamperedText "!") 9 =
        (knowing "i" "a").validate (tamperedText "e30") 0 := by
  have plain : '.' ∉ tamperedSignature := by decide +kernel
  have keys : (knowing "i" "a").keys = (knowing "j" "b").keys := rfl
  have header : (tampered "e30").header = (tampered "!").header := rfl
  have signature : (tampered "e30").signature = (tampered "!").signature := rfl
  have parts : (tampered "e30").Part (tamperedText "e30") :=
    ⟨String.toList_ofList, by decide +kernel, plain⟩
  have parts' : (tampered "!").Part (tamperedText "!") :=
    ⟨String.toList_ofList, by decide +kernel, plain⟩
  have unverified : ¬ (knowing "i" "a").Verifies (tampered "e30") :=
    not_verifies_tampered (by decide +kernel)
  have unverified' : ¬ (knowing "j" "b").Verifies (tampered "!") :=
    not_verifies_tampered (by decide +kernel)
  have alike :=
    payload_unconsulted keys header signature parts parts' unverified unverified' 0 9
  have refusal : (knowing "i" "a").keys.refusal (tampered "e30").header (tampered "e30").signature =
      .notVerified := by decide +kernel
  rwa [refusal] at alike

end Validator

end ClaimGate
