import ClaimGate.Proofs.Record
import ClaimGate.Token.Payload

/-! What a payload claims. A claim is the member of its name in the object that was signed;
a member that is missing and one that is `null` claim nothing, and one of another kind
spoils the payload. Proved: a payload that is read from an object claims exactly what the
members say. -/

namespace ClaimGate

open Json

/-- The member of the name holds the value; one that is missing or `null` holds none. -/
inductive Json.Member {α : Type} (s : Shape α) (ms : List (String × Json)) (name : String) :
    Option α → Prop
  | missing (absent : ms.lookup name = none) : Member s ms name none
  | null (given : ms.lookup name = some .null) : Member s ms name none
  | value {j : Json} {a : α} (given : ms.lookup name = some j) (present : j ≠ .null)
      (read : s.decode j = .ok a) : Member s ms name (some a)

namespace Payload

/-- Each claim is the member of its name. -/
structure Describes (p : Payload) (ms : List (String × Json)) : Prop where
  subject : Member .text ms "sub" p.subject
  username : Member .text ms "username" p.username
  poolUsername : Member .text ms "cognito:username" p.poolUsername
  issuer : Member .text ms "iss" p.issuer
  clientId : Member .text ms "client_id" p.clientId
  audience : Member .any ms "aud" p.audience
  expiry : Member .int64 ms "exp" p.expiry
  tokenUse : Member .text ms "token_use" p.tokenUse
  organizationId : Member .any ms "custom:organization_id" p.organizationId
  organizationNodeId : Member .text ms "custom:organization_node_id" p.organizationNodeId

theorem member_of_given {α : Type} {s : Shape α} {ms : List (String × Json)} {name : String}
    {o : Option α}
    (h : match ms.lookup name with
      | some j => (Shape.option s).read .exact j = .ok o
      | none => some none = some o) : Member s ms name o := by
  cases hj : ms.lookup name with
  | none =>
    rw [hj] at h
    exact Option.some.inj h ▸ .missing hj
  | some j =>
    simp only [hj, Shape.read] at h
    split at h
    · exact Except.ok.inj h ▸ .null hj
    · rename_i present
      obtain ⟨a, ha, same⟩ := map_eq_ok.1 h
      exact same ▸ .value hj present ha

theorem describes_of_decode {ms : List (String × Json)} {p : Payload}
    (h : shape.decode (.obj ms) = .ok p) : p.Describes ms := by
  obtain ⟨_, hr, rfl⟩ := Shape.read_via.1 h
  obtain ⟨subject, username, poolUsername, issuer, clientId, audience, expiry, _, tokenUse,
    organizationId, organizationNodeId, _⟩ := Fields.given_of_read (by decide) hr
  exact ⟨member_of_given subject, member_of_given username, member_of_given poolUsername,
    member_of_given issuer, member_of_given clientId, member_of_given audience,
    member_of_given expiry, member_of_given tokenUse, member_of_given organizationId,
    member_of_given organizationNodeId⟩

/-- A list that stands for a payload ends before the expiry. -/
theorem expiry_of_items {l : List Json} {p : Payload} (length : l.length = listLength)
    (h : shape.decode (.arr l) = .ok p) : p.expiry = none := by
  obtain ⟨_, hr, rfl⟩ := Shape.read_via.1 h
  match l, length with
  | [_, _, _, _, _], _ =>
    obtain ⟨_, afterSubject⟩ := Fields.ofItems_cons.1 hr
    obtain ⟨_, afterUsername⟩ := Fields.ofItems_cons.1 afterSubject
    obtain ⟨_, afterPoolUsername⟩ := Fields.ofItems_cons.1 afterUsername
    obtain ⟨_, afterIssuer⟩ := Fields.ofItems_cons.1 afterPoolUsername
    obtain ⟨_, afterClientId⟩ := Fields.ofItems_cons.1 afterIssuer
    obtain ⟨_, afterAudience⟩ := Fields.ofItems_optional_nil afterClientId
    exact (Fields.ofItems_optional_nil afterAudience).1

/-- What is read from a segment is what the members of its object say, but for a list that
stands for one, which has no expiry. -/
theorem describes_of_segment {segment : List Char} {p : Payload} (h : ofSegment segment = .ok p) :
    (∃ ms, Segments.json segment = .ok (.obj ms) ∧ p.Describes ms) ∨ p.expiry = none := by
  unfold ofSegment at h
  cases hj : Segments.json segment with
  | error f => simp [hj, bind, Except.bind] at h
  | ok j =>
    simp only [hj, bind, Except.bind] at h
    split at h
    case h_2 => exact nomatch h
    rename_i form hd
    split at h
    case isFalse => exact nomatch h
    obtain rfl := Except.ok.inj h
    cases j with
    | obj ms => exact .inl ⟨ms, rfl, describes_of_decode hd⟩
    | arr l => exact .inr (expiry_of_items (by simpa [isForm] using form) hd)
    | torn ms =>
      obtain ⟨_, hr, _⟩ := Shape.read_via.1 hd
      exact absurd hr Shape.read_record_torn
    | _ =>
      obtain ⟨_, hr, _⟩ := Shape.read_via.1 hd
      exact nomatch hr

end Payload

end ClaimGate
