import ClaimGate.Proofs.PinnedOrganization
import ClaimGate.Proofs.ScopeSelection
import Mathlib.Data.Nat.Digits.Defs

/-! Organization ids that are written as texts. A query gives one under a parameter and a token by
a claim, and each reads it by itself. Proved: both read the same ids from the same texts, namely
those that denote an integer which fits a 64-bit word, with its exact value. Any other text is
refused by the query and passed over by the token, also one whose value is just outside the word;
and every id is read back from its digits, behind any zeros and between any blanks. -/

namespace ClaimGate

/-! ### Texts -/

namespace Text

/-- The text denotes the integer, and a 64-bit word holds that. -/
structure DenotesWord (s : String) (z : Int) : Prop where
  denotes : Denotes s z
  least : -2 ^ 63 ≤ z
  greatest : z ≤ 2 ^ 63 - 1

/-- The digits of a number behind zeros, with its sign in front. -/
def zeroPadded (zeros : Nat) : Int → List Char
  | .ofNat n => List.replicate zeros '0' ++ natDigits n
  | .negSucc n => '-' :: (List.replicate zeros '0' ++ natDigits (n + 1))

/-- Each digit counts the power of ten of its place. -/
theorem digitsValue_eq_ofDigits (ds : List Char) :
    digitsValue ds = Nat.ofDigits 10 (ds.reverse.map fun c => c.toNat - '0'.toNat) := by
  induction ds with
  | nil => rfl
  | cons c r ih =>
    rw [digitsValue, Nat.ofDigitChars_cons, Nat.ofDigitChars_eq_ofDigitChars_zero]
    rw [List.reverse_cons, List.map_append, Nat.ofDigits_append, ← ih]
    simp [digitsValue, Nat.add_comm]

theorem digits_zeros_natDigits (zeros n : Nat) : Digits (List.replicate zeros '0' ++ natDigits n) := by
  refine ⟨List.append_ne_nil_of_right_ne_nil _ (natDigits_ne_nil n), fun c hc => ?_⟩
  rcases List.mem_append.1 hc with zero | digit
  · rw [List.eq_of_mem_replicate zero]
    rfl
  · exact Nat.isDigit_of_mem_toDigits (by decide) (by decide) digit

/-- Zeros in front do not count. -/
theorem digitsValue_zeros_natDigits (zeros n : Nat) :
    digitsValue (List.replicate zeros '0' ++ natDigits n) = n := by
  rw [digitsValue, Nat.ofDigitChars_append, Nat.ofDigitChars_replicate_zero, Nat.mul_zero]
  exact Nat.ofDigitChars_ten_toDigits

theorem numeral_zeroPadded (zeros : Nat) (z : Int) : Numeral (zeroPadded zeros z) z := by
  cases z with
  | ofNat n =>
    have numeral := Numeral.unsigned (digits_zeros_natDigits zeros n)
    rw [digitsValue_zeros_natDigits] at numeral
    exact numeral
  | negSucc n =>
    have numeral := Numeral.minus (digits_zeros_natDigits zeros (n + 1))
    rw [digitsValue_zeros_natDigits] at numeral
    exact numeral

variable {s : String} {z : Int}

/-- The words that a text denotes are the integers that it denotes and that fit. -/
theorem exists_word : (∃ n : Int64, n.toInt = z ∧ Denotes s n.toInt) ↔ DenotesWord s z := by
  constructor
  · rintro ⟨n, rfl, denotes⟩
    exact ⟨denotes, n.le_toInt, Int.le_sub_one_of_lt n.toInt_lt⟩
  · rintro ⟨denotes, least, greatest⟩
    have fits : (Int64.ofInt z).toInt = z :=
      Int64.toInt_ofInt_of_le least (Int.lt_of_le_sub_one greatest)
    exact ⟨Int64.ofInt z, fits, fits.symm ▸ denotes⟩

theorem denotesWord_toInt {n : Int64} : DenotesWord s n.toInt ↔ Denotes s n.toInt :=
  ⟨DenotesWord.denotes, fun denotes => exists_word.1 ⟨n, rfl, denotes⟩⟩

/-- A text that denotes an integer outside the word denotes no word, not even another one. -/
theorem not_denotesWord_of_outside (denotes : Denotes s z) (outside : z < -2 ^ 63 ∨ 2 ^ 63 - 1 < z)
    (z' : Int) : ¬ DenotesWord s z' := by
  rintro ⟨denotes', least, greatest⟩
  obtain rfl := denotes.unique denotes'
  omega

end Text

/-! ### Queries and tokens -/

namespace Scope

variable {i : Identity} {query : Dict String String} {s : String}

/-- A text selects the organizations that it denotes. -/
theorem select_organization (decides : Decides query .organization s) {n : Int64} :
    select i query = .ok (.workspace n) ↔ Text.Denotes s n.toInt := by
  rw [(select_decidedBy i query).eq_ok]
  constructor
  · intro selects
    cases selects with
    | parameter decides' names =>
      have same := (decisive?_of_decides decides).symm.trans (decisive?_of_decides decides')
      obtain ⟨rfl, rfl⟩ := Prod.mk.inj (Option.some.inj same)
      cases names with
      | organization denotes => exact denotes
  · intro denotes
    exact .parameter decides (.organization denotes)

/-- A text selects an organization or nothing. -/
theorem exists_error_of_not_organization (decides : Decides query .organization s)
    (unread : ∀ n : Int64, ¬ Text.Denotes s n.toInt) : ∃ f, select i query = .error f := by
  rcases names_or_namesNone .organization s with ⟨scope, names⟩ | ⟨f, names⟩
  · cases names with
    | organization denotes => exact absurd denotes (unread _)
  · exact ⟨f, select_of_selectsNone (.parameter decides names)⟩

end Scope

namespace Payload

variable {p : Payload} {s : String}

/-- A text pins the organizations that it denotes. -/
theorem pinned?_organization (claimed : p.organizationId = some (.str s)) {n : Int64} :
    p.pinned?.map (·.id) = some n ↔ Text.Denotes s n.toInt := by
  have read : p.pinned?.map (·.id) = Text.readId? s := by
    rw [pinned?, claimed]
    show Option.map _ (Option.bind (Text.readId? s) _) = _
    cases Text.readId? s <;> rfl
  rw [read, Text.readId?_eq_some]

end Payload

/-- What a query reads of a text as the id of an organization, and what a token does: the integer
exactly if the text denotes it and a word holds it. -/
structure ReadAlike (s : String) (z : Int) : Prop where
  query : ∀ i query, Scope.Decides query .organization s →
    ((∃ n : Int64, n.toInt = z ∧ Scope.select i query = .ok (.workspace n)) ↔ Text.DenotesWord s z)
  payload : ∀ p : Payload, p.organizationId = some (.str s) →
    ((∃ n : Int64, n.toInt = z ∧ p.pinned?.map (·.id) = some n) ↔ Text.DenotesWord s z)
  token : ∀ (v : Validator) token now t, v.validate token now = .ok t →
    Segments.claim? token.toList "custom:organization_id" = some (.str s) →
      ((∃ n : Int64, n.toInt = z ∧ t.pinned.map (·.id) = some n) ↔ Text.DenotesWord s z)

/-- A query does not select by the text, and a token is not pinned by it. -/
structure UnreadAlike (s : String) : Prop where
  query : ∀ i query, Scope.Decides query .organization s → ∃ f, Scope.select i query = .error f
  payload : ∀ p : Payload, p.organizationId = some (.str s) → p.pinned? = none
  token : ∀ (v : Validator) token now t, v.validate token now = .ok t →
    Segments.claim? token.toList "custom:organization_id" = some (.str s) → t.pinned = none

section

variable {s : String}

theorem Validator.pinned_organization {v : Validator} {token : String} {now : Int} {t : Token}
    (accepted : v.validate token now = .ok t)
    (claimed : Segments.claim? token.toList "custom:organization_id" = some (.str s)) {n : Int64} :
    t.pinned.map (·.id) = some n ↔ Text.Denotes s n.toInt := by
  rw [pinned_of_claim accepted claimed nofun]
  exact Text.readId?_eq_some

theorem readAlike (s : String) (z : Int) : ReadAlike s z where
  query i query decides := by
    simp only [Scope.select_organization decides]
    exact Text.exists_word
  payload p claimed := by
    simp only [Payload.pinned?_organization claimed]
    exact Text.exists_word
  token v token now t accepted claimed := by
    simp only [Validator.pinned_organization accepted claimed]
    exact Text.exists_word

theorem unreadAlike (unread : ∀ z, ¬ Text.DenotesWord s z) : UnreadAlike s := by
  have unread : ∀ n : Int64, ¬ Text.Denotes s n.toInt := fun n denotes =>
    unread _ (Text.denotesWord_toInt.2 denotes)
  have unpinned : ∀ o : Option PinnedOrganization,
      (∀ n, o.map (·.id) = some n ↔ Text.Denotes s n.toInt) → o = none := by
    intro o reads
    cases o with
    | none => rfl
    | some pinned => exact absurd ((reads pinned.id).1 rfl) (unread pinned.id)
  refine ⟨fun i query decides => ?_, fun p claimed => ?_, fun v token now t accepted claimed => ?_⟩
  · exact Scope.exists_error_of_not_organization decides unread
  · exact unpinned _ fun n => Payload.pinned?_organization claimed
  · exact unpinned _ fun n => Validator.pinned_organization accepted claimed

end

/-- A query and a token read the same organization from a text: the integer that it denotes, if a
word holds that. A text that denotes none is read by neither, and in particular one whose value
lies outside the word. The digits of an id denote it, behind any zeros and between any blanks, and
digits count by their places. -/
theorem organizationId_readAlike :
    (∀ s z, ReadAlike s z) ∧
    (∀ s, (∀ z, ¬ Text.DenotesWord s z) → UnreadAlike s) ∧
    (∀ s z, Text.Denotes s z → z < -2 ^ 63 ∨ 2 ^ 63 - 1 < z → UnreadAlike s) ∧
    (∀ (n : Int64) (zeros : Nat) (before after : List Char),
      (∀ c ∈ before, Text.isBlank c = true) → (∀ c ∈ after, Text.isBlank c = true) →
        Text.DenotesWord (.ofList (before ++ Text.zeroPadded zeros n.toInt ++ after)) n.toInt) ∧
    ∀ ds, Text.digitsValue ds = Nat.ofDigits 10 (ds.reverse.map fun c => c.toNat - '0'.toNat) := by
  refine ⟨readAlike, fun s => unreadAlike, ?_, ?_, Text.digitsValue_eq_ofDigits⟩
  · intro s z denotes outside
    exact unreadAlike (Text.not_denotesWord_of_outside denotes outside)
  · intro n zeros before after hb ha
    have numeral := Text.numeral_zeroPadded zeros n.toInt
    refine Text.denotesWord_toInt.2 ⟨before, _, after, ?_, hb, ha, numeral⟩
    exact String.toList_ofList

end ClaimGate
