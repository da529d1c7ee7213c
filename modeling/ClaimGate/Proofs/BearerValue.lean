import ClaimGate.Identity
import ClaimGate.Proofs.Numeral
import ClaimGate.Proofs.Outcome

/-! Which identity sources name a caller. A bearer value is written between blanks as the word
`Bearer`, one or more blanks and a token; an identity source is one such value, alone or with a
reference in either order. The sources that are accepted and those that are refused are two
relations with one rule for each way to be. Proved: reading a source accepts exactly the ones and
refuses exactly the others, with their faults; so the order of the values is immaterial, and a
token is read back from each of its written forms. -/

namespace ClaimGate.Identity

/-! ### Bearer values -/

/-- The word in front of a token. -/
def scheme : List Char := ['B', 'e', 'a', 'r', 'e', 'r']

/-- A text that can be a token: it is not empty and holds no blank. -/
structure IsToken (token : String) : Prop where
  nonempty : token.toList ≠ []
  solid : ∀ c ∈ token.toList, Text.isBlank c = false

/-- The blanks of a bearer value: around its two words any number, and between them at least one. -/
structure Padding (before between after : List Char) : Prop where
  leading : ∀ c ∈ before, Text.isBlank c = true
  parting : ∀ c ∈ between, Text.isBlank c = true
  trailing : ∀ c ∈ after, Text.isBlank c = true
  parted : between ≠ []

/-- The value is a bearer value of the token. -/
structure Bears (value token : String) : Prop where
  isToken : IsToken token
  written : ∃ before between after, Padding before between after ∧
    value.toList = before ++ (scheme ++ between ++ token.toList) ++ after

theorem bearerToken?_of_padding {before between after token : List Char}
    (padding : Padding before between after) (nonempty : token ≠ [])
    (solid : ∀ c ∈ token, Text.isBlank c = false) :
    bearerToken? (before ++ (scheme ++ between ++ token) ++ after) = some token := by
  have words : scheme ++ between ++ token ≠ [] := List.append_ne_nil_of_right_ne_nil _ nonempty
  have last : Text.isBlank ((scheme ++ between ++ token).getLast words) = false := by
    rw [List.getLast_append_of_ne_nil _ nonempty]
    exact solid _ (List.getLast_mem nonempty)
  have trimmed : Text.trim (before ++ (scheme ++ between ++ token) ++ after) =
      scheme ++ between ++ token :=
    Text.trim_of_ends padding.leading padding.trailing words rfl last
  obtain ⟨c, r, rfl⟩ := List.exists_cons_of_ne_nil padding.parted
  obtain ⟨blank, blanks⟩ := List.forall_mem_cons.1 padding.parting
  have rest : Text.trimStart (r ++ token) = token :=
    Text.trimStart_append blanks nonempty (solid _ (List.head_mem nonempty))
  have good : Text.isBlank c = true ∧ token ≠ [] ∧ (token.all fun c => !Text.isBlank c) = true :=
    ⟨blank, nonempty, by simpa using solid⟩
  unfold bearerToken?
  rw [trimmed]
  simp only [scheme, List.cons_append, List.nil_append, rest]
  exact if_pos good

theorem exists_padding_of_bearerToken? {cs token : List Char} (h : bearerToken? cs = some token) :
    token ≠ [] ∧ (∀ c ∈ token, Text.isBlank c = false) ∧ ∃ before between after,
      Padding before between after ∧ cs = before ++ (scheme ++ between ++ token) ++ after := by
  unfold bearerToken? at h
  split at h
  case h_2 => exact nomatch h
  rename_i c r words
  dsimp only at h
  split at h
  case isFalse => exact nomatch h
  rename_i good
  obtain ⟨blank, nonempty, solid⟩ := good
  obtain rfl := Option.some.inj h
  obtain ⟨before, after, parts, hb, ha⟩ := Text.exists_blanks_around cs
  refine ⟨nonempty, by simpa using solid, before, c :: r.takeWhile Text.isBlank, after, ?_, ?_⟩
  · exact ⟨hb, List.forall_mem_cons.2 ⟨blank, List.all_eq_true.1 List.all_takeWhile⟩, ha,
      List.cons_ne_nil _ _⟩
  · have whole : r.takeWhile Text.isBlank ++ Text.trimStart r = r := List.takeWhile_append_dropWhile
    rw [parts, words]
    simp [scheme, whole]

/-- A value is read as a token exactly if it is a bearer value of it. -/
theorem bearer?_eq_some {value token : String} :
    bearer? value = some token ↔ Bears value token := by
  unfold bearer?
  rw [Option.map_eq_some_iff]
  constructor
  · rintro ⟨cs, read, rfl⟩
    obtain ⟨nonempty, solid, written⟩ := exists_padding_of_bearerToken? read
    exact ⟨⟨by simpa using nonempty, by simpa using solid⟩, by simpa using written⟩
  · rintro ⟨⟨nonempty, solid⟩, before, between, after, padding, written⟩
    refine ⟨token.toList, ?_, String.ofList_toList⟩
    rw [written]
    exact bearerToken?_of_padding padding nonempty solid

theorem bearer?_eq_none {value : String} : bearer? value = none ↔ ∀ token, ¬ Bears value token := by
  simp only [Option.eq_none_iff_forall_ne_some, ne_eq, bearer?_eq_some]

theorem Bears.not_allBlank {value token : String} (h : Bears value token) :
    Text.allBlank value = false := by
  obtain ⟨_, before, between, after, _, written⟩ := h
  rw [Text.allBlank, written, List.all_eq_false]
  exact ⟨'B', by simp [scheme], by decide⟩

/-! ### Sources -/

/-- The value can stand beside a bearer value: it is none itself, and not blank throughout. -/
structure IsReference (value : String) : Prop where
  noBearer : ∀ token, ¬ Bears value token
  visible : ∃ c ∈ value.toList, Text.isBlank c = false

/-- The values name a caller: one is a bearer value, and the other, if there is one, a reference. -/
inductive Accepts : List String → Identity → Prop
  | alone {value token : String} (bears : Bears value token) : Accepts [value] ⟨token, none⟩
  | pair {values : List String} {value token reference : String}
      (order : values.Perm [value, reference]) (bears : Bears value token)
      (isReference : IsReference reference) : Accepts values ⟨token, some reference⟩

/-- Why the values name no caller: first by how many they are, then by how many of them are bearer
values, and last by the reference. -/
inductive Refuses : List String → IdentityFault → Prop
  | empty : Refuses [] .empty
  | tooLong {values : List String} (long : 2 < values.length) :
      Refuses values (.tooLong values.length)
  | noToken {values : List String} (nonempty : values ≠ []) (short : values.length ≤ 2)
      (none : ∀ value ∈ values, ∀ token, ¬ Bears value token) : Refuses values .noToken
  | manyTokens {values : List String} (two : values.length = 2)
      (all : ∀ value ∈ values, ∃ token, Bears value token) : Refuses values (.manyTokens 2)
  | badReference {values : List String} {value token reference : String}
      (order : values.Perm [value, reference]) (bears : Bears value token)
      (blank : ∀ c ∈ reference.toList, Text.isBlank c = true) : Refuses values .badReference

variable {values values' : List String} {value reference token : String} {i : Identity}
  {f : IdentityFault}

theorem Accepts.perm (h : Accepts values i) (order : values'.Perm values) : Accepts values' i := by
  cases h with
  | alone bears =>
    obtain rfl := List.perm_singleton.1 order
    exact .alone bears
  | pair order' bears isReference => exact .pair (order.trans order') bears isReference

theorem Refuses.perm (h : Refuses values f) (order : values'.Perm values) : Refuses values' f := by
  cases h with
  | empty =>
    obtain rfl := List.perm_nil.1 order
    exact .empty
  | tooLong long =>
    rw [← order.length_eq] at long ⊢
    exact .tooLong long
  | noToken nonempty short none =>
    refine .noToken ?_ (order.length_eq ▸ short) fun value hv => none value (order.mem_iff.1 hv)
    rintro rfl
    exact nonempty (List.nil_perm.1 order)
  | manyTokens two all =>
    exact .manyTokens (order.length_eq.trans two) fun value hv => all value (order.mem_iff.1 hv)
  | badReference order' bears blank => exact .badReference (order.trans order') bears blank

/-- Of two values one of which alone is a bearer value, the other is all that can be wrong. -/
theorem ofValues_of_pair (order : values.Perm [value, reference]) (bears : Bears value token)
    (noBearer : ∀ token, ¬ Bears reference token) :
    ofValues values = if Text.allBlank reference then .error .badReference
      else .ok ⟨token, some reference⟩ := by
  have read := bearer?_eq_some.2 bears
  have unread := bearer?_eq_none.2 noBearer
  have tokens : values.filterMap bearer? = [token] :=
    List.perm_singleton.1 (by simpa [read, unread] using order.filterMap bearer?)
  have others : values.filter (fun v => (bearer? v).isNone) = [reference] :=
    List.perm_singleton.1 (by simpa [read, unread] using order.filter fun v => (bearer? v).isNone)
  have length : values.length = 2 := order.length_eq
  have nonempty : ¬ values.isEmpty = true := by
    rw [List.isEmpty_iff_length_eq_zero, length]
    decide
  unfold ofValues
  rw [if_neg nonempty, if_neg (by rw [length]; decide), tokens, others]

theorem ofValues_of_accepts (h : Accepts values i) : ofValues values = .ok i := by
  cases h with
  | alone bears =>
    have read := bearer?_eq_some.2 bears
    simp [ofValues, maxValues, read]
  | pair order bears isReference =>
    obtain ⟨c, hc, visible⟩ := isReference.visible
    have notBlank : ¬ Text.allBlank _ = true := fun blank =>
      Bool.eq_false_iff.1 visible (List.all_eq_true.1 blank c hc)
    rw [ofValues_of_pair order bears isReference.noBearer, if_neg notBlank]

theorem ofValues_of_refuses (h : Refuses values f) : ofValues values = .error f := by
  cases h with
  | empty => rfl
  | tooLong long =>
    have nonempty : ¬ values.isEmpty = true := by
      rw [List.isEmpty_iff_length_eq_zero]
      omega
    have long : maxValues < values.length := long
    rw [ofValues, if_neg nonempty, if_pos long]
  | noToken nonempty short none =>
    have tokens : values.filterMap bearer? = [] :=
      List.filterMap_eq_nil_iff.2 fun value hv => bearer?_eq_none.2 (none value hv)
    have short : ¬ maxValues < values.length := Nat.not_lt.2 short
    rw [ofValues, if_neg (mt List.isEmpty_iff.1 nonempty), if_neg short, tokens]
  | manyTokens two all =>
    match values, two with
    | [value, value'], _ =>
      obtain ⟨token, bears⟩ := all value List.mem_cons_self
      obtain ⟨token', bears'⟩ := all value' (List.mem_cons_of_mem _ List.mem_cons_self)
      simp [ofValues, maxValues, bearer?_eq_some.2 bears, bearer?_eq_some.2 bears']
  | badReference order bears blank =>
    have allBlank : Text.allBlank _ = true := List.all_eq_true.2 blank
    have noBearer : ∀ token, ¬ Bears _ token := fun token bears' =>
      Bool.eq_false_iff.1 bears'.not_allBlank allBlank
    rw [ofValues_of_pair order bears noBearer, if_pos allBlank]

theorem accepts_or_refuses_of_pair (order : values.Perm [value, reference])
    (bears : Bears value token) (noBearer : ∀ token, ¬ Bears reference token) :
    (∃ i, Accepts values i) ∨ ∃ f, Refuses values f := by
  cases blank : reference.toList.all Text.isBlank with
  | true => exact .inr ⟨_, .badReference order bears (List.all_eq_true.1 blank)⟩
  | false =>
    obtain ⟨c, hc, visible⟩ := List.all_eq_false.1 blank
    exact .inl ⟨_, .pair order bears ⟨noBearer, c, hc, Bool.eq_false_iff.2 visible⟩⟩

/-- Values name a caller, or there is a reason why they do not. -/
theorem accepts_or_refuses (values : List String) :
    (∃ i, Accepts values i) ∨ ∃ f, Refuses values f := by
  match values with
  | [] => exact .inr ⟨_, .empty⟩
  | [value] =>
    rcases Classical.em (∃ token, Bears value token) with ⟨token, bears⟩ | none
    · exact .inl ⟨_, .alone bears⟩
    · exact .inr ⟨_, .noToken (List.cons_ne_nil _ _) (by simp) (by simpa using none)⟩
  | [value, value'] =>
    rcases Classical.em (∃ token, Bears value token) with ⟨token, bears⟩ | none
    · rcases Classical.em (∃ token, Bears value' token) with all | none'
      · exact .inr ⟨_, .manyTokens rfl (by simpa using ⟨⟨token, bears⟩, all⟩)⟩
      · exact accepts_or_refuses_of_pair (.refl _) bears (not_exists.1 none')
    · rcases Classical.em (∃ token, Bears value' token) with ⟨token, bears⟩ | none'
      · exact accepts_or_refuses_of_pair (.swap _ _ _) bears (not_exists.1 none)
      · have each : ∀ v ∈ [value, value'], ∀ token, ¬ Bears v token := by
          simpa using ⟨not_exists.1 none, not_exists.1 none'⟩
        exact .inr ⟨_, .noToken (List.cons_ne_nil _ _) (Nat.le_refl 2) each⟩
  | _ :: _ :: _ :: rest => exact .inr ⟨_, .tooLong (by simp only [List.length_cons]; omega)⟩

theorem ofValues_decidedBy (values : List String) :
    DecidedBy (ofValues values) (Accepts values) (Refuses values) where
  ok _ := ofValues_of_accepts
  error _ := ofValues_of_refuses
  either := accepts_or_refuses values

theorem ofValues_perm (order : values.Perm values') : ofValues values = ofValues values' := by
  rcases accepts_or_refuses values' with ⟨i, accepts⟩ | ⟨f, refuses⟩
  · rw [ofValues_of_accepts accepts, ofValues_of_accepts (accepts.perm order)]
  · rw [ofValues_of_refuses refuses, ofValues_of_refuses (refuses.perm order)]

/-- Reading accepts exactly the sources that name a caller, with its token and the reference as it
stands, and refuses every other for the first reason there is. The order of the values is
immaterial, and a token is read back from every written form of it. -/
theorem ofValues_readsGrammar :
    (∀ values i, ofValues values = .ok i ↔ Accepts values i) ∧
    (∀ values f, ofValues values = .error f ↔ Refuses values f) ∧
    (∀ values values' : List String, values.Perm values' → ofValues values = ofValues values') ∧
    ∀ token before between after, IsToken token → Padding before between after →
      ofValues [.ofList (before ++ (scheme ++ between ++ token.toList) ++ after)] =
        .ok ⟨token, none⟩ := by
  refine ⟨fun values _ => (ofValues_decidedBy values).eq_ok,
    fun values _ => (ofValues_decidedBy values).eq_error, fun _ _ => ofValues_perm, ?_⟩
  intro token before between after isToken padding
  refine ofValues_of_accepts (.alone ?_)
  exact ⟨isToken, before, between, after, padding, String.toList_ofList⟩

end ClaimGate.Identity
