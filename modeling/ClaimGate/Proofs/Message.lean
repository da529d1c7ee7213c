import ClaimGate.Denial

/-! Texts that tell what they are made from. A message is a lead, by which its kind is
known, and what follows; where no lead begins another, the message tells both.
Proved: the messages of denials, and of the faults they name, are all different. -/

namespace ClaimGate

/-! ### Leads -/

/-- None of the texts begins another. -/
def Text.Apart (leads : List (List Char)) : Prop :=
  leads.Pairwise fun a b => ¬ a <+: b ∧ ¬ b <+: a

instance (leads : List (List Char)) : Decidable (Text.Apart leads) :=
  inferInstanceAs (Decidable (leads.Pairwise fun a b => ¬ a <+: b ∧ ¬ b <+: a))

/-- Leads that are apart tell where they end. -/
theorem Text.Apart.append_inj {leads : List (List Char)} {i j : Nat} {a b x y : List Char}
    (apart : Apart leads) (ha : leads[i]? = some a) (hb : leads[j]? = some b)
    (h : a ++ x = b ++ y) : i = j ∧ x = y := by
  obtain ⟨hi, rfl⟩ := List.getElem?_eq_some_iff.1 ha
  obtain ⟨hj, rfl⟩ := List.getElem?_eq_some_iff.1 hb
  have hij := List.pairwise_iff_getElem.1 apart i j hi hj
  have hji := List.pairwise_iff_getElem.1 apart j i hj hi
  have hp : leads[i] <+: leads[j] ∨ leads[j] <+: leads[i] :=
    List.prefix_or_prefix_of_prefix (List.prefix_append _ x) (h ▸ List.prefix_append _ y)
  rcases Nat.lt_trichotomy i j with hlt | rfl | hlt
  · exact absurd hp (not_or.2 (hij hlt))
  · exact ⟨rfl, List.append_cancel_left h⟩
  · exact absurd hp (not_or.2 (hji hlt).symm)

/-- How messages are spelled: each begins with the lead of its kind, the leads are apart, and
the kind and what follows make the value. -/
structure Text.Spelling {α : Type} (message : α → String) where
  leads : List String
  kind : α → Nat
  rest : α → String
  apart : Apart (leads.map String.toList)
  spelled : ∀ a, ∃ lead, leads[kind a]? = some lead ∧ message a = lead ++ rest a
  tells : ∀ a b, kind a = kind b → rest a = rest b → a = b

theorem Text.Spelling.message_inj {α : Type} {message : α → String} (s : Spelling message)
    {a b : α} : message a = message b ↔ a = b := by
  refine ⟨fun h => ?_, congrArg message⟩
  obtain ⟨lead, ha, hm⟩ := s.spelled a
  obtain ⟨lead', hb, hm'⟩ := s.spelled b
  have hl : lead.toList ++ (s.rest a).toList = lead'.toList ++ (s.rest b).toList := by
    rw [← String.toList_append, ← String.toList_append, ← hm, ← hm', h]
  have ha' : (s.leads.map String.toList)[s.kind a]? = some lead.toList := by simp [ha]
  have hb' : (s.leads.map String.toList)[s.kind b]? = some lead'.toList := by simp [hb]
  obtain ⟨hk, hr⟩ := s.apart.append_inj ha' hb' hl
  exact s.tells a b hk (String.toList_inj.1 hr)

/-! ### Faults -/

theorem Text.natText_inj {m n : Nat} : natText m = natText n ↔ m = n := by
  refine ⟨fun h => ?_, congrArg natText⟩
  have hd : natDigits m = natDigits n := by simpa [natText] using congrArg String.toList h
  have hv := natOfDigits?_natDigits n
  rw [← hd, natOfDigits?_natDigits] at hv
  exact Option.some.inj hv

def StoreFault.spelling : Text.Spelling message where
  leads := ["store unavailable: ", "store error: "]
  kind
    | unavailable _ => 0
    | internal _ => 1
  rest
    | unavailable r | internal r => r
  apart := by decide
  spelled f := by cases f <;> exact ⟨_, rfl, rfl⟩
  tells f g := by cases f <;> cases g <;> simp

theorem ClaimProblem.name_inj {p q : ClaimProblem} : p.name = q.name ↔ p = q := by
  cases p <;> cases q <;> decide

def TokenFault.spelling : Text.Spelling message where
  leads := ["invalid signature: ", "unknown issuer", "audience ", "token expired", "token_use ",
    "subject claim is missing"]
  kind
    | invalidSignature _ => 0
    | unknownIssuer => 1
    | audience _ => 2
    | expired => 3
    | tokenUse _ => 4
    | missingSubject => 5
  rest
    | invalidSignature r => r
    | audience p | tokenUse p => p.name
    | unknownIssuer | expired | missingSubject => ""
  apart := by decide
  spelled f := by
    cases f with
    | unknownIssuer | expired | missingSubject => exact ⟨_, rfl, String.append_empty.symm⟩
    | invalidSignature | audience | tokenUse => exact ⟨_, rfl, rfl⟩
  tells f g := by cases f <;> cases g <;> simp [ClaimProblem.name_inj]

theorem IdentityFault.noToken_message_ne (n : Nat) :
    "no bearer token" ≠ Text.natText n ++ " bearer tokens, exactly one is allowed" := by
  intro h
  have longer : "no bearer token".length < " bearer tokens, exactly one is allowed".length := by decide
  rw [h, String.length_append] at longer
  omega

/-- That there is no token and that there are many begin alike, and differ in what follows. -/
def IdentityFault.spelling : Text.Spelling message where
  leads := ["identity source is empty", "identity source has ", "identity source carries ",
    "identity source secondary reference is invalid"]
  kind
    | empty => 0
    | tooLong _ => 1
    | noToken | manyTokens _ => 2
    | badReference => 3
  rest
    | tooLong n => Text.natText n ++ " elements, at most 2 are allowed"
    | noToken => "no bearer token"
    | manyTokens n => Text.natText n ++ " bearer tokens, exactly one is allowed"
    | empty | badReference => ""
  apart := by decide
  spelled f := by
    cases f with
    | empty | badReference => exact ⟨_, rfl, String.append_empty.symm⟩
    | noToken => exact ⟨_, rfl, by decide⟩
    | tooLong n | manyTokens n => exact ⟨_, rfl, String.append_assoc⟩
  tells f g hk hr := by
    cases f with
    | empty | badReference => cases g <;> first | rfl | exact nomatch hk
    | tooLong m =>
      cases g with
      | tooLong n => rw [Text.natText_inj.1 ((String.append_left_inj _).1 hr)]
      | _ => exact nomatch hk
    | noToken =>
      cases g with
      | noToken => rfl
      | manyTokens n => exact absurd hr (noToken_message_ne n)
      | _ => exact nomatch hk
    | manyTokens m =>
      cases g with
      | noToken => exact absurd hr.symm (noToken_message_ne m)
      | manyTokens n => rw [Text.natText_inj.1 ((String.append_left_inj _).1 hr)]
      | _ => exact nomatch hk

/-! ### Denials -/

namespace Denial

/-- The place of a family among all. -/
def place : Family → Nat
  | .users => 0
  | .organizations => 1
  | .teams => 2
  | .datasets => 3
  | .manifests => 4

theorem place_inj {f g : Family} : place f = place g ↔ f = g := by
  cases f <;> cases g <;> decide

def leads : List String :=
  ["invalid identity source: ", "unsupported authorizer: ", "invalid token: ", "user_id is required",
    "organization_id is required when dataset_id is provided", "no active organization for user",
    "user not found", "dataset '", "no access to dataset '", "manifest '"] ++
    Family.all.map fun family => family.stage ++ " lookup failed: "

def kind : Denial → Nat
  | identity _ => 0
  | unsupported _ => 1
  | token _ => 2
  | missingUser => 3
  | missingOrganization => 4
  | noActiveOrganization => 5
  | principalNotFound => 6
  | datasetNotFound _ => 7
  | noDatasetAccess _ => 8
  | manifestNotFound _ => 9
  | lookup family _ => place family + 10

/-- What follows the lead of a message. -/
def rest : Denial → String
  | identity f => f.message
  | unsupported r => r
  | token f => f.message
  | datasetNotFound n | manifestNotFound n => n ++ "' not found"
  | noDatasetAccess n => n ++ "'"
  | lookup _ f => f.message
  | missingUser | missingOrganization | noActiveOrganization | principalNotFound => ""

theorem leads_apart : Text.Apart (leads.map String.toList) := by decide +kernel

theorem message_spelled (d : Denial) : ∃ lead, leads[d.kind]? = some lead ∧ d.message = lead ++ d.rest := by
  cases d with
  | missingUser | missingOrganization | noActiveOrganization | principalNotFound =>
    exact ⟨_, rfl, String.append_empty.symm⟩
  | datasetNotFound | noDatasetAccess | manifestNotFound => exact ⟨_, rfl, String.append_assoc⟩
  | identity | unsupported | token => exact ⟨_, rfl, rfl⟩
  | lookup family f => cases family <;> exact ⟨_, rfl, rfl⟩

theorem eq_of_kind_of_rest (d d' : Denial) : d.kind = d'.kind → d.rest = d'.rest → d = d' := by
  cases d <;> cases d' <;>
    simp +contextual [kind, rest, place_inj, IdentityFault.spelling.message_inj,
      TokenFault.spelling.message_inj, StoreFault.spelling.message_inj, String.append_left_inj]

def spelling : Text.Spelling message where
  leads := leads
  kind := kind
  rest := rest
  apart := leads_apart
  spelled := message_spelled
  tells := eq_of_kind_of_rest

/-- The text of a denial tells the denial. -/
theorem message_inj {d d' : Denial} : d.message = d'.message ↔ d = d' := spelling.message_inj

end Denial

end ClaimGate
