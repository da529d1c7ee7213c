import ClaimGate.Text.Integer

/-! Which integer a text denotes. A numeral is an optional sign and one or more digits; a text
denotes the integer of the numeral that it holds between blanks. Proved: reading a text as a
64-bit integer gives exactly the integer that it denotes, where that fits the word. -/

namespace ClaimGate.Text

/-! ### Numerals -/

/-- One or more ASCII digits. -/
def Digits (ds : List Char) : Prop := ds ≠ [] ∧ ∀ c ∈ ds, c.isDigit = true

/-- The number that digits stand for, the most significant first. -/
def digitsValue (ds : List Char) : Nat := Nat.ofDigitChars 10 ds 0

/-- The text is a numeral of the integer. -/
inductive Numeral : List Char → Int → Prop
  | unsigned {ds : List Char} (digits : Digits ds) : Numeral ds (digitsValue ds)
  | plus {ds : List Char} (digits : Digits ds) : Numeral ('+' :: ds) (digitsValue ds)
  | minus {ds : List Char} (digits : Digits ds) : Numeral ('-' :: ds) (-(digitsValue ds : Int))

/-- The text denotes the integer: it is a numeral between blanks. -/
def Denotes (s : String) (z : Int) : Prop :=
  ∃ before numeral after, s.toList = before ++ numeral ++ after ∧
    (∀ c ∈ before, isBlank c = true) ∧ (∀ c ∈ after, isBlank c = true) ∧ Numeral numeral z

theorem natOfDigits?_eq_some {ds : List Char} {n : Nat} :
    natOfDigits? ds = some n ↔ Digits ds ∧ digitsValue ds = n := by
  unfold natOfDigits? Digits digitsValue
  split
  · rename_i digits
    simpa using fun _ => digits
  · rename_i other
    simp only [reduceCtorEq, false_iff]
    rintro ⟨digits, _⟩
    exact other (by simpa using digits)

theorem not_digits_cons {c : Char} {ds : List Char} (h : c.isDigit = false) :
    ¬ Digits (c :: ds) := by
  rintro ⟨_, digits⟩
  simp [h] at digits

theorem map_natOfDigits?_eq_some {ds : List Char} {f : Int → Int} {z : Int} :
    ((do let n ← natOfDigits? ds; pure (n : Int) : Option Int).map f) = some z ↔
      Digits ds ∧ f (digitsValue ds) = z := by
  simp only [Option.map_eq_some_iff, Option.bind_eq_bind, Option.bind_eq_some_iff, Option.pure_def,
    natOfDigits?_eq_some, Option.some.injEq]
  constructor
  · rintro ⟨_, ⟨_, ⟨digits, rfl⟩, rfl⟩, value⟩
    exact ⟨digits, value⟩
  · rintro ⟨digits, value⟩
    exact ⟨_, ⟨_, ⟨digits, rfl⟩, rfl⟩, value⟩

/-- An integer is read from exactly its numerals. -/
theorem integer?_eq_some {cs : List Char} {z : Int} : integer? cs = some z ↔ Numeral cs z := by
  unfold integer?
  split
  · rw [map_natOfDigits?_eq_some]
    constructor
    · rintro ⟨digits, rfl⟩
      exact .plus digits
    · intro numeral
      cases numeral with
      | unsigned digits => exact absurd digits (not_digits_cons (by decide))
      | plus digits => exact ⟨digits, rfl⟩
  · rw [map_natOfDigits?_eq_some]
    constructor
    · rintro ⟨digits, rfl⟩
      exact .minus digits
    · intro numeral
      cases numeral with
      | unsigned digits => exact absurd digits (not_digits_cons (by decide))
      | minus digits => exact ⟨digits, rfl⟩
  · rename_i noPlus noMinus
    rw [map_natOfDigits?_eq_some]
    constructor
    · rintro ⟨digits, rfl⟩
      exact .unsigned digits
    · intro numeral
      cases numeral with
      | unsigned digits => exact ⟨digits, rfl⟩
      | plus digits => exact absurd rfl (noPlus _)
      | minus digits => exact absurd rfl (noMinus _)

/-! ### Blanks around -/

theorem isBlank_of_isDigit {c : Char} (h : c.isDigit = true) : isBlank c = false := by
  have range : 48 ≤ c.toNat ∧ c.toNat ≤ 57 := by
    simp only [Char.isDigit, Bool.and_eq_true, decide_eq_true_eq] at h
    exact ⟨h.1, h.2⟩
  rw [Bool.eq_false_iff]
  intro blank
  simp only [isBlank, Bool.or_eq_true, Bool.and_eq_true, decide_eq_true_eq, beq_iff_eq] at blank
  omega

theorem Numeral.ne_nil {cs : List Char} {z : Int} (h : Numeral cs z) : cs ≠ [] := by
  cases h with
  | unsigned digits => exact digits.1
  | plus digits => exact List.cons_ne_nil _ _
  | minus digits => exact List.cons_ne_nil _ _

theorem Numeral.not_isBlank {cs : List Char} {z : Int} (h : Numeral cs z) :
    ∀ c ∈ cs, isBlank c = false := by
  cases h with
  | unsigned digits => exact fun c hc => isBlank_of_isDigit (digits.2 c hc)
  | plus digits =>
    exact List.forall_mem_cons.2 ⟨by decide, fun c hc => isBlank_of_isDigit (digits.2 c hc)⟩
  | minus digits =>
    exact List.forall_mem_cons.2 ⟨by decide, fun c hc => isBlank_of_isDigit (digits.2 c hc)⟩

theorem dropWhile_of_head {cs : List Char} (nonempty : cs ≠ [])
    (first : isBlank (cs.head nonempty) = false) : cs.dropWhile isBlank = cs := by
  cases cs with
  | nil => exact absurd rfl nonempty
  | cons c r =>
    have kept : isBlank c = false := first
    exact List.dropWhile_cons_of_neg (by rw [kept]; exact Bool.false_ne_true)

theorem trimStart_append {before cs : List Char} (hb : ∀ c ∈ before, isBlank c = true)
    (nonempty : cs ≠ []) (first : isBlank (cs.head nonempty) = false) :
    trimStart (before ++ cs) = cs := by
  rw [trimStart, List.dropWhile_append_of_pos hb, dropWhile_of_head nonempty first]

/-- Trimming takes the blanks off that are around a text with other characters at its ends. -/
theorem trim_of_ends {before cs after : List Char} (hb : ∀ c ∈ before, isBlank c = true)
    (ha : ∀ c ∈ after, isBlank c = true) (nonempty : cs ≠ [])
    (first : isBlank (cs.head nonempty) = false) (last : isBlank (cs.getLast nonempty) = false) :
    trim (before ++ cs ++ after) = cs := by
  have front : trimStart (before ++ (cs ++ after)) = cs ++ after := by
    refine trimStart_append hb (List.append_ne_nil_of_left_ne_nil nonempty after) ?_
    rw [List.head_append_of_ne_nil nonempty]
    exact first
  have back : trimStart (after.reverse ++ cs.reverse) = cs.reverse := by
    refine trimStart_append (by simpa using ha) (mt List.reverse_eq_nil_iff.1 nonempty) ?_
    rw [List.head_reverse]
    exact last
  rw [trim, List.append_assoc, front, trimEnd, List.reverse_append]
  exact (congrArg List.reverse back).trans (List.reverse_reverse cs)

/-- Trimming takes the blanks off that are around a text without blanks. -/
theorem trim_append {before cs after : List Char} (hb : ∀ c ∈ before, isBlank c = true)
    (ha : ∀ c ∈ after, isBlank c = true) (nonempty : cs ≠ [])
    (h : ∀ c ∈ cs, isBlank c = false) : trim (before ++ cs ++ after) = cs :=
  trim_of_ends hb ha nonempty (h _ (List.head_mem nonempty)) (h _ (List.getLast_mem nonempty))

/-- Trimming the end takes off blanks. -/
theorem trim_append_blanks (cs : List Char) :
    ∃ after, trim cs ++ after = trimStart cs ∧ ∀ c ∈ after, isBlank c = true := by
  refine ⟨((trimStart cs).reverse.takeWhile isBlank).reverse, ?_, ?_⟩
  · rw [trim, trimEnd, ← List.reverse_append, List.takeWhile_append_dropWhile, List.reverse_reverse]
  · intro c hc
    exact List.all_eq_true.1 List.all_takeWhile c (List.mem_reverse.1 hc)

/-- What trimming takes off is blank. -/
theorem exists_blanks_around (cs : List Char) :
    ∃ before after, cs = before ++ trim cs ++ after ∧ (∀ c ∈ before, isBlank c = true) ∧
      ∀ c ∈ after, isBlank c = true := by
  obtain ⟨after, back, ha⟩ := trim_append_blanks cs
  refine ⟨cs.takeWhile isBlank, after, ?_, List.all_eq_true.1 List.all_takeWhile, ha⟩
  rw [List.append_assoc, back]
  exact List.takeWhile_append_dropWhile.symm

theorem not_isBlank_head_trimStart (cs : List Char) (nonempty : trimStart cs ≠ []) :
    isBlank ((trimStart cs).head nonempty) = false :=
  List.head_dropWhile_not isBlank nonempty

theorem not_isBlank_getLast_trim (cs : List Char) (nonempty : trim cs ≠ []) :
    isBlank ((trim cs).getLast nonempty) = false := by
  simp only [trim, trimEnd, List.getLast_reverse]
  exact not_isBlank_head_trimStart (trimStart cs).reverse (mt List.reverse_eq_nil_iff.2 nonempty)

theorem not_isBlank_head_trim (cs : List Char) (nonempty : trim cs ≠ []) :
    isBlank ((trim cs).head nonempty) = false := by
  obtain ⟨after, back, _⟩ := trim_append_blanks cs
  have whole : trimStart cs ≠ [] := by
    rw [← back]
    exact List.append_ne_nil_of_left_ne_nil nonempty after
  have same : (trimStart cs).head whole = (trim cs).head nonempty := by
    simp only [← back, List.head_append_of_ne_nil nonempty]
  rw [← same]
  exact not_isBlank_head_trimStart cs whole

/-- The text is what stands in the value between the blanks around it, and there is such. -/
structure Bare (value text : String) : Prop where
  around : ∃ before after, value.toList = before ++ text.toList ++ after ∧
    (∀ c ∈ before, isBlank c = true) ∧ ∀ c ∈ after, isBlank c = true
  nonempty : text.toList ≠ []
  first : isBlank (text.toList.head nonempty) = false
  last : isBlank (text.toList.getLast nonempty) = false

/-- Trimming gives the text between the blanks, where a value holds any. -/
theorem bare_iff {value text : String} :
    Bare value text ↔ allBlank value = false ∧ trimmed value = text := by
  constructor
  · rintro ⟨⟨before, after, parts, hb, ha⟩, nonempty, first, last⟩
    have inner : trim value.toList = text.toList := by
      rw [parts]
      exact trim_of_ends hb ha nonempty first last
    have same : trimmed value = text := by rw [trimmed, inner, String.ofList_toList]
    refine ⟨?_, same⟩
    rw [← Bool.not_eq_true, ← trimmed_eq_empty_iff, same]
    rintro rfl
    exact nonempty rfl
  · rintro ⟨visible, rfl⟩
    have inner : (trimmed value).toList = trim value.toList := String.toList_ofList
    have nonempty : trim value.toList ≠ [] := by
      intro empty
      have blank : allBlank value = true := List.all_eq_true.2 (trim_eq_nil_iff.1 empty)
      exact Bool.false_ne_true (visible.symm.trans blank)
    refine ⟨?_, inner ▸ nonempty, ?_, ?_⟩
    · rw [inner]
      exact exists_blanks_around value.toList
    · simp only [inner]
      exact not_isBlank_head_trim value.toList nonempty
    · simp only [inner]
      exact not_isBlank_getLast_trim value.toList nonempty

/-! ### Words -/

theorem int64?_eq_some {z : Int} {n : Int64} : int64? z = some n ↔ z = n.toInt := by
  constructor
  · intro h
    unfold int64? at h
    split at h
    · rename_i range
      obtain rfl := Option.some.inj h
      simp only [int64Min, int64Max] at range
      exact (Int64.toInt_ofInt_of_le (by omega) (by omega)).symm
    · cases h
  · rintro rfl
    exact int64?_toInt n

/-- An integer is read without the blanks around it from exactly the texts that denote it. -/
theorem integer?_trim_eq_some {s : String} {z : Int} :
    integer? (trim s.toList) = some z ↔ Denotes s z := by
  rw [integer?_eq_some]
  constructor
  · intro numeral
    obtain ⟨before, after, parts, hb, ha⟩ := exists_blanks_around s.toList
    exact ⟨before, _, after, parts, hb, ha, numeral⟩
  · rintro ⟨before, cs, after, parts, hb, ha, numeral⟩
    rw [parts, trim_append hb ha numeral.ne_nil numeral.not_isBlank]
    exact numeral

/-- A text denotes one integer at most. -/
theorem Denotes.unique {s : String} {z z' : Int} (h : Denotes s z) (h' : Denotes s z') : z = z' := by
  have read := integer?_trim_eq_some.2 h
  exact Option.some.inj (read.symm.trans (integer?_trim_eq_some.2 h'))

/-- A 64-bit integer is read from exactly the texts that denote it. -/
theorem readId?_eq_some {s : String} {n : Int64} : readId? s = some n ↔ Denotes s n.toInt := by
  simp only [readId?, Option.bind_eq_some_iff, integer?_trim_eq_some, int64?_eq_some]
  constructor
  · rintro ⟨_, denotes, rfl⟩
    exact denotes
  · intro denotes
    exact ⟨_, denotes, rfl⟩

end ClaimGate.Text
