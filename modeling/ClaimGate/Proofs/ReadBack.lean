import ClaimGate.Json.Printer
import ClaimGate.Json.Reader

/-! Reading what was printed. A printed value is followed by the end of the text, a comma or
a closing bracket, and none of these goes on with a value: that is what lets a reader find
where a number ends. The reader spends at most four of its fuel on a character, so with four
for each printed character it gets through whatever stands inside. Proved: a text that was
printed from a value without reals and without damage is read as that value to its end. -/

namespace ClaimGate.Json

/-! ### Strings -/

/-- The unit stands for the character: as it is, or by the code of a control character. -/
inductive QuotedUnit.Spells : QuotedUnit → Char → Prop
  | plain (c : Char) : Spells (.plain (some c)) c
  | code {c : Char} (low : c.toNat < 0x20) : Spells (.code c.toNat) c

theorem spell_cons {u : QuotedUnit} {c : Char} (h : u.Spells c) (us : List QuotedUnit) :
    spell (u :: us) = (some c :: ·) <$> spell us := by
  cases h with
  | plain => rfl
  | code low =>
    have high : isHighSurrogate c.toNat = false := by
      have : ¬ 0xD800 ≤ c.toNat := by omega
      simp [isHighSurrogate, this]
    have lower : isLowSurrogate c.toNat = false := by
      have : ¬ 0xDC00 ≤ c.toNat := by omega
      simp [isLowSurrogate, this]
    rw [spell.eq_def]
    simp [high, lower]

theorem hexDigit?_hexDigit : ∀ d, d < 16 → hexDigit? (hexDigit d) = some d := by decide

/-- The units of a text that begins with this one. -/
def withUnit (u : QuotedUnit) (r : List QuotedUnit × Source) : List QuotedUnit × Source :=
  (u :: r.1, r.2)

theorem quotedUnits_plain {c : Char} (quote : c ≠ '"') (backslash : c ≠ '\\')
    (printed : 0x20 ≤ c.toNat) (cs : Source) :
    quotedUnits (some c :: cs) = (quotedUnits cs).map (withUnit (.plain (some c))) := by
  have low : ¬ c.toNat < 0x20 := by omega
  rw [quotedUnits.eq_5 _ _ (by simp [quote]) (by simp [backslash]) (by simp [backslash])]
  simp only [Option.any_some, low, decide_false, Bool.false_eq_true, if_false]
  exact (Option.map_eq_bind ..).symm

theorem quotedUnits_escaped {c a : Char} (h : unescape? a = some c) (cs : Source) :
    quotedUnits (some '\\' :: some a :: cs) =
      (quotedUnits cs).map (withUnit (.plain (some c))) := by
  have other : a ≠ 'u' := by
    rintro rfl
    exact nomatch h
  rw [quotedUnits.eq_4 _ _ (by simp [other])]
  simp only [Option.bind_eq_bind, Option.bind_some, h]
  exact (Option.map_eq_bind ..).symm

theorem quotedUnits_code {n : Nat} (low : n < 0x20) (cs : Source) :
    quotedUnits (some '\\' :: some 'u' :: some '0' :: some '0' :: some (hexDigit (n / 16)) ::
        some (hexDigit (n % 16)) :: cs) =
      (quotedUnits cs).map (withUnit (.code n)) := by
  have read : hex4? '0' '0' (hexDigit (n / 16)) (hexDigit (n % 16)) = some n := by
    have zero : hexDigit? '0' = some 0 := by decide
    have high := hexDigit?_hexDigit (n / 16) (by omega)
    have last := hexDigit?_hexDigit (n % 16) (by omega)
    simp only [hex4?, zero, high, last, Option.bind_eq_bind, Option.bind_some, pure,
      Option.some.injEq]
    omega
  rw [quotedUnits.eq_3, read]
  exact (Option.map_eq_bind ..).symm

/-- The written form of a character is read as one unit that stands for it. -/
theorem exists_unit_of_escape (c : Char) : ∃ u : QuotedUnit, u.Spells c ∧
    ∀ cs, quotedUnits ((escape c).map some ++ cs) = (quotedUnits cs).map (withUnit u) := by
  have escaped {a : Char} (h : unescape? a = some c) : ∃ u : QuotedUnit, u.Spells c ∧
      ∀ cs, quotedUnits (some '\\' :: some a :: cs) = (quotedUnits cs).map (withUnit u) :=
    ⟨_, .plain c, quotedUnits_escaped h⟩
  unfold escape
  split
  · exact escaped (by subst_vars; rfl)
  split
  · exact escaped (by subst_vars; rfl)
  split
  · exact escaped (by subst_vars; rfl)
  split
  · exact escaped (by subst_vars; rfl)
  split
  · exact escaped (by subst_vars; rfl)
  split
  · exact escaped (by subst_vars; rfl)
  split
  · exact escaped (by subst_vars; rfl)
  split
  · rename_i low
    exact ⟨_, .code low, quotedUnits_code low⟩
  · rename_i quote backslash _ _ _ _ _ printed
    exact ⟨_, .plain c, quotedUnits_plain quote backslash (Nat.le_of_not_lt printed)⟩

/-- The units of a printed text end at its closing quote and spell the text. -/
theorem quotedUnits_render (cs : List Char) (rest : Source) :
    ∃ us, quotedUnits ((cs.flatMap escape).map some ++ some '"' :: rest) = some (us, rest) ∧
      spell us = .ok (cs.map some) := by
  induction cs with
  | nil => exact ⟨[], by simp [quotedUnits], rfl⟩
  | cons c cs ih =>
    obtain ⟨us, units, spelled⟩ := ih
    obtain ⟨u, spells, read⟩ := exists_unit_of_escape c
    refine ⟨u :: us, ?_, ?_⟩
    · rw [List.flatMap_cons, List.map_append, List.append_assoc, read, units]
      rfl
    · rw [spell_cons spells, spelled]
      rfl

theorem quoted_render (s : String) (rest : Source) :
    quoted ((s.toList.flatMap escape).map some ++ some '"' :: rest) = .whole (.ok s) rest := by
  obtain ⟨us, units, spelled⟩ := quotedUnits_render s.toList rest
  have whole : (s.toList.map some).mapM id = some s.toList := by
    generalize s.toList = l
    induction l <;> simp_all
  have text : textOf us = .ok s := by
    simp only [textOf, spelled, bind, Except.bind, whole, String.ofList_toList]
    rfl
  rw [quoted, units]
  exact congrArg (Piece.whole · rest) text

/-! ### Numbers -/

/-- What may follow a value: nothing, or what ends it. -/
inductive Closes : Source → Prop
  | nil : Closes []
  | cons {c : Char} (closing : c = ',' ∨ c = ']' ∨ c = '}') (cs : Source) : Closes (some c :: cs)

theorem digits_of_closes {rest : Source} (h : Closes rest) : digits rest = ([], rest) := by
  cases h with
  | nil => rfl
  | cons closing cs => rcases closing with rfl | rfl | rfl <;> rfl

theorem digits_append {ds : List Char} (h : ∀ c ∈ ds, c.isDigit = true) {rest : Source}
    (closes : Closes rest) : digits (ds.map some ++ rest) = (ds, rest) := by
  induction ds with
  | nil => exact digits_of_closes closes
  | cons d ds ih =>
    obtain ⟨hd, hds⟩ := List.forall_mem_cons.1 h
    rw [List.map_cons, List.cons_append, digits.eq_1, if_pos hd, ih hds]

theorem natDigits_isDigit {n : Nat} : ∀ c ∈ Text.natDigits n, c.isDigit = true :=
  fun _ hc => Nat.isDigit_of_mem_toDigits (by decide) (by decide) hc

/-- No digits but those of zero begin with a zero. -/
theorem head?_natDigits {n : Nat} (h : (Text.natDigits n).head? = some '0') : n = 0 := by
  induction n using Nat.strongRecOn with
  | _ n ih =>
    unfold Text.natDigits at h ih
    by_cases small : n < 10
    · rw [Nat.toDigits_of_lt_base small] at h
      have lone : ∀ m < 10, [Nat.digitChar m].head? = some '0' → m = 0 := by decide
      exact lone n small h
    · rw [Nat.toDigits_of_base_le (by decide) (by omega), List.head?_append,
        Option.or_of_isSome (by simp)] at h
      have first := ih (n / 10) (by omega) h
      omega

theorem number?_natDigits (negative : Bool) (n : Nat) {rest : Source} (h : Closes rest) :
    number? negative ((Text.natDigits n).map some ++ rest) =
      some ({ negative, whole := Text.natDigits n }, rest) := by
  have nonempty : (Text.natDigits n).isEmpty = false := by simpa using Text.natDigits_ne_nil n
  have leading : ((Text.natDigits n).head? == some '0' &&
      decide (1 < (Text.natDigits n).length)) = false := by
    by_cases hz : (Text.natDigits n).head? = some '0'
    · rw [head?_natDigits hz]
      rfl
    · simp [hz]
  have fraction : fraction? rest = some (none, rest) := by
    cases h with
    | nil => rfl
    | cons closing cs => rcases closing with rfl | rfl | rfl <;> rfl
  have exponent : exponent? rest = some (none, rest) := by
    cases h with
    | nil => rfl
    | cons closing cs => rcases closing with rfl | rfl | rfl <;> (cases cs <;> rfl)
  simp only [number?, digits_append natDigits_isDigit h, nonempty, leading, Bool.or_self,
    Bool.false_eq_true, if_false, fraction]
  rw [Option.bind_eq_bind, Option.bind_some, exponent]
  rfl

/-- An integer that a number without fraction can be is read from its digits. -/
theorem toJson_natDigits {negative : Bool} {n : Nat} {z : Int}
    (value : z = if negative then -(n : Int) else n) (range : isInt z = true)
    (zero : negative = true → n ≠ 0) :
    Number.Written.toJson { negative, whole := Text.natDigits n } = .int z := by
  have read : Nat.ofDigitChars 10 (Text.natDigits n) 0 = n := Nat.ofDigitChars_ten_toDigits
  have signed : (negative && ((n : Int) == 0)) = false := by
    cases negative <;> simp_all
  have known : Number.Written.int? { negative, whole := Text.natDigits n } = some z := by
    simp [Number.Written.int?, read, ← value, range, signed]
  rw [Number.Written.toJson, known]

/-! ### Values -/

/-- The value is spelled by its text: it has no part that is garbled or torn, no real, and
its integers are such as a number without fraction can be. -/
inductive Spelled : Json → Prop
  | null : Spelled .null
  | bool (b : Bool) : Spelled (.bool b)
  | int {n : Int} (range : isInt n = true) : Spelled (.int n)
  | str (s : String) : Spelled (.str s)
  | arr {l : List Json} (items : ∀ j ∈ l, Spelled j) : Spelled (.arr l)
  | obj {ms : List (String × Json)} (members : ∀ m ∈ ms, Spelled m.2) : Spelled (.obj ms)

/-- The value is read from the front of a text that begins with its own. -/
def ReadsBack (j : Json) : Prop :=
  ∀ fuel rest, Closes rest → 4 * j.render.length ≤ fuel →
    value fuel (j.render.map some ++ rest) = .whole j rest

/-- The character begins the text of a value. -/
def begins (c : Char) : Bool := !isSpace c && c != ']' && c != ','

theorem skipSpace_of_begins {c : Char} (h : begins c = true) (cs : Source) :
    skipSpace (some c :: cs) = some c :: cs := by
  have : isSpace c = false := by simp_all [begins]
  exact List.dropWhile_cons_of_neg (by simp [this])

theorem begins_of_isDigit {c : Char} (h : c.isDigit = true) : begins c = true := by
  have range : 48 ≤ c.toNat ∧ c.toNat ≤ 57 := by
    simp only [Char.isDigit, Bool.and_eq_true, decide_eq_true_eq] at h
    exact ⟨h.1, h.2⟩
  have other {d : Char} (hd : d.toNat < 48 ∨ 57 < d.toNat) : (c == d) = false := by
    apply beq_eq_false_iff_ne.2
    rintro rfl
    omega
  have space : isSpace c = false := by
    simp [isSpace, @other ' ' (by decide), @other '\t' (by decide), @other '\n' (by decide),
      @other '\r' (by decide)]
  simp [begins, space, bne, @other ']' (by decide), @other ',' (by decide)]

theorem exists_begins_natDigits (n : Nat) :
    ∃ c cs, Text.natDigits n = c :: cs ∧ begins c = true := by
  obtain ⟨c, cs, digits⟩ := List.exists_cons_of_ne_nil (Text.natDigits_ne_nil n)
  have digit : c.isDigit = true := natDigits_isDigit (n := n) c (digits ▸ List.mem_cons_self)
  exact ⟨c, cs, digits, begins_of_isDigit digit⟩

/-- A value that is spelled begins with a character of its own. -/
theorem Spelled.exists_begins {j : Json} (h : Spelled j) :
    ∃ c cs, j.render = c :: cs ∧ begins c = true := by
  cases h with
  | null => exact ⟨_, _, rfl, by decide⟩
  | bool b => cases b <;> exact ⟨_, _, rfl, by decide⟩
  | @int n range =>
    cases n with
    | ofNat n => exact exists_begins_natDigits n
    | negSucc n => exact ⟨_, _, rfl, by decide⟩
  | str s => exact ⟨_, _, rfl, by decide⟩
  | arr items => exact ⟨_, _, rfl, by decide⟩
  | obj members => exact ⟨_, _, rfl, by decide⟩

theorem Spelled.skipSpace_render {j : Json} (h : Spelled j) (rest : Source) :
    skipSpace (j.render.map some ++ rest) = j.render.map some ++ rest := by
  obtain ⟨c, cs, render, begins⟩ := h.exists_begins
  rw [render]
  exact skipSpace_of_begins begins _

/-! ### Integers -/

theorem value_natDigits (n fuel : Nat) {rest : Source} (h : Closes rest) :
    value (fuel + 1) ((Text.natDigits n).map some ++ rest) =
      .whole (Number.Written.toJson { negative := false, whole := Text.natDigits n }) rest := by
  obtain ⟨d, ds, digits⟩ := List.exists_cons_of_ne_nil (Text.natDigits_ne_nil n)
  have hd : d.isDigit = true := natDigits_isDigit (n := n) d (digits ▸ List.mem_cons_self)
  have unspaced : skipSpace ((Text.natDigits n).map some ++ rest) =
      (Text.natDigits n).map some ++ rest := by
    rw [digits]
    exact skipSpace_of_begins (begins_of_isDigit hd) _
  have piece : numberPiece false ((Text.natDigits n).map some ++ rest) =
      .whole (Number.Written.toJson { negative := false, whole := Text.natDigits n }) rest := by
    rw [numberPiece, number?_natDigits _ _ h]
  rw [value.eq_2, unspaced, ← piece, digits]
  split <;> simp_all

theorem readsBack_int {z : Int} (range : isInt z = true) : ReadsBack (.int z) := by
  intro fuel rest closes bound
  have short : 0 < (Json.int z).render.length := by
    obtain ⟨c, cs, render, _⟩ := (Spelled.int range).exists_begins
    simp [render]
  obtain ⟨fuel, rfl⟩ : ∃ f, fuel = f + 1 := ⟨fuel - 1, by omega⟩
  cases z with
  | ofNat n =>
    refine (value_natDigits n fuel closes).trans ?_
    rw [toJson_natDigits (z := .ofNat n) rfl range (by simp)]
  | negSucc n =>
    have written : Number.Written.toJson { negative := true, whole := Text.natDigits (n + 1) } =
        .int (.negSucc n) := toJson_natDigits rfl range (by simp)
    have piece : numberPiece true ((Text.natDigits (n + 1)).map some ++ rest) =
        .whole (.int (.negSucc n)) rest := by
      rw [numberPiece, number?_natDigits _ _ closes]
      exact congrArg (Piece.whole · rest) written
    exact piece

/-! ### Lists -/

/-- The text of values behind the first of a list. -/
def renderRest (l : List Json) : List Char := l.flatMap fun j => ',' :: j.render

theorem renderItems_cons (j : Json) (l : List Json) :
    renderItems (j :: l) = j.render ++ renderRest l := by
  induction l generalizing j with
  | nil => simp [renderItems, renderRest]
  | cons j' l ih =>
    rw [renderItems, ih j']
    · simp [renderRest]
    · simp

/-- Before its first value a list goes on with that value. -/
theorem items_first {j : Json} (h : Spelled j) (fuel : Nat) (rest : Source) :
    items (fuel + 1) true (j.render.map some ++ rest) = item fuel (j.render.map some ++ rest) := by
  rw [items.eq_2, h.skipSpace_render]
  obtain ⟨c, cs, render, opens⟩ := h.exists_begins
  rw [render]
  split <;> simp_all [begins]

/-- Behind a comma it goes on with the next. -/
theorem items_comma {j : Json} (h : Spelled j) (fuel : Nat) (rest : Source) :
    items (fuel + 1) false (some ',' :: (j.render.map some ++ rest)) =
      item fuel (j.render.map some ++ rest) := by
  have comma : skipSpace (some ',' :: (j.render.map some ++ rest)) =
      some ',' :: (j.render.map some ++ rest) := rfl
  rw [items.eq_2, comma]
  simp only [Bool.false_eq_true, if_false, h.skipSpace_render]
  obtain ⟨c, cs, render, opens⟩ := h.exists_begins
  rw [render]
  split <;> simp_all [begins]

theorem item_readsBack {j : Json} (h : ReadsBack j) {l : List Json} {fuel : Nat}
    {after rest : Source} (closes : Closes after) (bound : 4 * j.render.length ≤ fuel)
    (others : items fuel false after = .whole l rest) :
    item (fuel + 1) (j.render.map some ++ after) = .whole (j :: l) rest := by
  rw [item, h fuel after closes bound]
  simp only [others, Piece.map]

/-- What stands behind a value of a list: the other values and the closing bracket. -/
def listRest (l : List Json) (rest : Source) : Source :=
  (renderRest l).map some ++ some ']' :: rest

theorem closes_listRest (l : List Json) (rest : Source) : Closes (listRest l rest) := by
  cases l with
  | nil => exact .cons (by simp) rest
  | cons j l => exact .cons (by simp) _

theorem items_listRest {l : List Json} (h : ∀ j ∈ l, Spelled j ∧ ReadsBack j) {fuel : Nat}
    {rest : Source} (bound : 4 * ((renderRest l).length + 1) ≤ fuel) :
    items fuel false (listRest l rest) = .whole l rest := by
  induction l generalizing fuel with
  | nil =>
    obtain ⟨fuel, rfl⟩ : ∃ f, fuel = f + 1 := ⟨fuel - 1, by omega⟩
    rfl
  | cons j l ih =>
    obtain ⟨⟨spelled, reads⟩, others⟩ := List.forall_mem_cons.1 h
    have split : listRest (j :: l) rest = some ',' :: (j.render.map some ++ listRest l rest) := by
      simp [listRest, renderRest]
    have length : (renderRest (j :: l)).length = j.render.length + (renderRest l).length + 1 := by
      simp only [renderRest, List.flatMap_cons, List.length_append, List.length_cons]
      omega
    obtain ⟨fuel, rfl⟩ : ∃ f, fuel = f + 2 := ⟨fuel - 2, by omega⟩
    rw [split, items_comma spelled]
    exact item_readsBack reads (closes_listRest l rest) (by omega) (ih others (by omega))

theorem readsBack_arr {l : List Json} (h : ∀ j ∈ l, Spelled j ∧ ReadsBack j) :
    ReadsBack (.arr l) := by
  intro fuel rest _ bound
  cases l with
  | nil =>
    obtain ⟨fuel, rfl⟩ : ∃ f, fuel = f + 2 :=
      ⟨fuel - 2, by simp [render, renderItems] at bound; omega⟩
    rfl
  | cons j l =>
    obtain ⟨⟨spelled, reads⟩, others⟩ := List.forall_mem_cons.1 h
    have text : (Json.arr (j :: l)).render.map some ++ rest =
        some '[' :: (j.render.map some ++ listRest l rest) := by
      simp [render, renderItems_cons, listRest]
    have length : (Json.arr (j :: l)).render.length =
        j.render.length + (renderRest l).length + 2 := by
      simp only [render, renderItems_cons, List.length_append, List.length_cons, List.length_nil]
    obtain ⟨fuel, rfl⟩ : ∃ f, fuel = f + 3 := ⟨fuel - 3, by omega⟩
    have read : items (fuel + 2) true (j.render.map some ++ listRest l rest) =
        .whole (j :: l) rest := by
      rw [items_first spelled]
      exact item_readsBack reads (closes_listRest l rest) (by omega)
        (items_listRest others (by omega))
    rw [text, value.eq_2]
    show (items (fuel + 2) true (j.render.map some ++ listRest l rest)).map Json.arr = _
    rw [read]
    rfl

/-! ### Objects -/

/-- The text of members behind the first of an object. -/
def renderMembersRest (ms : List (String × Json)) : List Char :=
  ms.flatMap fun m => ',' :: renderMember m

theorem renderMembers_cons (m : String × Json) (ms : List (String × Json)) :
    renderMembers (m :: ms) = renderMember m ++ renderMembersRest ms := by
  induction ms generalizing m with
  | nil => simp [renderMembers, renderMembersRest]
  | cons m' ms ih =>
    rw [renderMembers, ih m']
    · simp [renderMembersRest]
    · simp

/-- What stands behind a member of an object: the other members and the closing brace. -/
def objectRest (ms : List (String × Json)) (rest : Source) : Source :=
  (renderMembersRest ms).map some ++ some '}' :: rest

theorem closes_objectRest (ms : List (String × Json)) (rest : Source) :
    Closes (objectRest ms rest) := by
  cases ms with
  | nil => exact .cons (by simp) rest
  | cons m ms => exact .cons (by simp) _

theorem renderMember_eq (m : String × Json) :
    renderMember m = '"' :: (m.1.toList.flatMap escape ++ '"' :: ':' :: m.2.render) := by
  obtain ⟨k, j⟩ := m
  simp [renderMember, renderString]

theorem length_renderMember (m : String × Json) : m.2.render.length < (renderMember m).length := by
  rw [renderMember_eq]
  simp only [List.length_cons, List.length_append]
  omega

/-- Before its first member an object goes on with that member. -/
theorem members_first (m : String × Json) (fuel : Nat) (rest : Source) :
    members (fuel + 1) true ((renderMember m).map some ++ rest) =
      member fuel ((renderMember m).map some ++ rest) := by
  rw [renderMember_eq]
  rfl

/-- Behind a comma it goes on with the next. -/
theorem members_comma (m : String × Json) (fuel : Nat) (rest : Source) :
    members (fuel + 1) false (some ',' :: ((renderMember m).map some ++ rest)) =
      member fuel ((renderMember m).map some ++ rest) := by
  rw [renderMember_eq]
  rfl

theorem member_readsBack {m : String × Json} (h : ReadsBack m.2) {ms : List (String × Json)}
    {fuel : Nat} {after rest : Source} (closes : Closes after) (bound : 4 * m.2.render.length ≤ fuel)
    (others : members fuel false after = .whole (ms, true) rest) :
    member (fuel + 2) ((renderMember m).map some ++ after) = .whole (m :: ms, true) rest := by
  have text : (renderMember m).map some ++ after =
      some '"' :: ((m.1.toList.flatMap escape).map some ++ some '"' ::
        (some ':' :: (m.2.render.map some ++ after))) := by
    simp [renderMember_eq]
  have colon : skipSpace (some ':' :: (m.2.render.map some ++ after)) =
      some ':' :: (m.2.render.map some ++ after) := rfl
  rw [text, member.eq_2, quoted_render]
  simp only
  rw [memberValue, colon]
  simp only
  rw [h fuel after closes bound]
  simp only [others, Piece.map]

theorem members_objectRest {ms : List (String × Json)} (h : ∀ m ∈ ms, ReadsBack m.2) {fuel : Nat}
    {rest : Source} (bound : 4 * ((renderMembersRest ms).length + 1) ≤ fuel) :
    members fuel false (objectRest ms rest) = .whole (ms, true) rest := by
  induction ms generalizing fuel with
  | nil =>
    obtain ⟨fuel, rfl⟩ : ∃ f, fuel = f + 1 := ⟨fuel - 1, by omega⟩
    rfl
  | cons m ms ih =>
    obtain ⟨reads, others⟩ := List.forall_mem_cons.1 h
    have split : objectRest (m :: ms) rest =
        some ',' :: ((renderMember m).map some ++ objectRest ms rest) := by
      simp [objectRest, renderMembersRest]
    have length : (renderMembersRest (m :: ms)).length =
        (renderMember m).length + (renderMembersRest ms).length + 1 := by
      simp only [renderMembersRest, List.flatMap_cons, List.length_append, List.length_cons]
      omega
    have shorter := length_renderMember m
    obtain ⟨fuel, rfl⟩ : ∃ f, fuel = f + 3 := ⟨fuel - 3, by omega⟩
    rw [split, members_comma]
    exact member_readsBack reads (closes_objectRest ms rest) (by omega) (ih others (by omega))

theorem readsBack_obj {ms : List (String × Json)} (h : ∀ m ∈ ms, ReadsBack m.2) :
    ReadsBack (.obj ms) := by
  intro fuel rest _ bound
  cases ms with
  | nil =>
    obtain ⟨fuel, rfl⟩ : ∃ f, fuel = f + 2 :=
      ⟨fuel - 2, by simp [render, renderMembers] at bound; omega⟩
    rfl
  | cons m ms =>
    obtain ⟨reads, others⟩ := List.forall_mem_cons.1 h
    have text : (Json.obj (m :: ms)).render.map some ++ rest =
        some '{' :: ((renderMember m).map some ++ objectRest ms rest) := by
      simp [render, renderMembers_cons, objectRest]
    have length : (Json.obj (m :: ms)).render.length =
        (renderMember m).length + (renderMembersRest ms).length + 2 := by
      simp only [render, renderMembers_cons, List.length_append, List.length_cons, List.length_nil]
    have shorter := length_renderMember m
    obtain ⟨fuel, rfl⟩ : ∃ f, fuel = f + 4 := ⟨fuel - 4, by omega⟩
    have read : members (fuel + 3) true ((renderMember m).map some ++ objectRest ms rest) =
        .whole (m :: ms, true) rest := by
      rw [members_first]
      exact member_readsBack reads (closes_objectRest ms rest) (by omega)
        (members_objectRest others (by omega))
    have brace : skipSpace (some '{' :: ((renderMember m).map some ++ objectRest ms rest)) =
        some '{' :: ((renderMember m).map some ++ objectRest ms rest) := rfl
    rw [text, value.eq_2, brace]
    simp only
    rw [read]
    rfl

/-! ### Texts -/

theorem readsBack_null : ReadsBack .null := by
  intro fuel rest _ bound
  obtain ⟨fuel, rfl⟩ : ∃ f, fuel = f + 1 := ⟨fuel - 1, by simp [render] at bound; omega⟩
  rfl

theorem readsBack_bool (b : Bool) : ReadsBack (.bool b) := by
  intro fuel rest _ bound
  obtain ⟨fuel, rfl⟩ : ∃ f, fuel = f + 1 :=
    ⟨fuel - 1, by cases b <;> simp [render] at bound <;> omega⟩
  cases b <;> rfl

theorem readsBack_str (s : String) : ReadsBack (.str s) := by
  intro fuel rest _ bound
  obtain ⟨fuel, rfl⟩ : ∃ f, fuel = f + 1 :=
    ⟨fuel - 1, by simp [render, renderString] at bound; omega⟩
  have text : (Json.str s).render.map some ++ rest =
      some '"' :: ((s.toList.flatMap escape).map some ++ some '"' :: rest) := by
    simp [render, renderString]
  rw [text, value.eq_2]
  show stringPiece ((s.toList.flatMap escape).map some ++ some '"' :: rest) = _
  rw [stringPiece, quoted_render]
  rfl

theorem Spelled.readsBack {j : Json} (h : Spelled j) : ReadsBack j := by
  induction h with
  | null => exact readsBack_null
  | bool b => exact readsBack_bool b
  | int range => exact readsBack_int range
  | str s => exact readsBack_str s
  | arr items ih => exact readsBack_arr fun j hj => ⟨items j hj, ih j hj⟩
  | obj members ih => exact readsBack_obj ih

/-- The text of a value that is spelled reads as that value, and holds nothing else. -/
theorem Spelled.read_text {j : Json} (h : Spelled j) : read j.text = ⟨j, true⟩ := by
  have value := h.readsBack (4 * j.render.length + 4) [] .nil (by omega)
  rw [List.append_nil] at value
  have source : j.text.toList.map some = j.render.map some := by
    rw [text, String.toList_ofList]
  rw [read, source, readSource, List.length_map, value]
  rfl

end ClaimGate.Json
