import ClaimGate.Json.Shape
import ClaimGate.Proofs.Result

/-! What the fields of a record get from an object. Reading goes through the members in
their order and puts each into the place of its field, so the law of one field is by
induction on the members, and the law of a record by induction on its fields, each of which
takes the members of its name away. Proved: if a record with distinct field names is read
from an object, each field has the value of the member of its name, and where there is no
such member the value it has when it is absent. -/

namespace ClaimGate.Json

variable {manner : Manner} {others : Others}

/-- Each field has the value of the member of its name, or the one it has when absent. -/
def Fields.Given (manner : Manner) (ms : List (String × Json)) : {α : Type} → Fields α → α → Prop
  | _, .nil, _ => True
  | _, .cons name absent _ _ s rest, a =>
    (match ms.lookup name with
      | some j => s.read manner j = .ok a.1
      | none => absent = some a.1) ∧ rest.Given manner ms a.2

/-- The members put into the fields one after another. -/
def Fields.fill (manner : Manner) (others : Others) {α : Type} (fs : Fields α)
    (ms : List (String × Json)) (slots : fs.Slots) : Except Fault fs.Slots :=
  ms.foldlM (fun slots m => fs.put manner others m.1 m.2 slots) slots

theorem Fields.fill_eq_ok {α : Type} {fs : Fields α} {m : String × Json} {ms : List (String × Json)}
    {slots slots' : fs.Slots} (h : fs.fill manner others (m :: ms) slots = .ok slots') :
    ∃ next, fs.put manner others m.1 m.2 slots = .ok next ∧
      fs.fill manner others ms next = .ok slots' := by
  rw [fill, List.foldlM_cons] at h
  exact bind_eq_ok.1 h

/-! ### One field -/

section Field

variable {α β : Type} {name : String} {absent short : Option α} {omitted : Bool} {s : Shape α}
  {rest : Fields β}

/-- Putting a member fills the place of the first field if it has its name, and else goes on
to the other fields. -/
theorem Fields.put_cons {k : String} {j : Json} {slot slot' : Option α} {slots slots' : rest.Slots}
    (h : (Fields.cons name absent short omitted s rest).put manner others k j (slot, slots) =
      .ok (slot', slots')) :
    (k = name ∧ slot = none ∧ slots' = slots ∧ ∃ a, slot' = some a ∧ s.read manner j = .ok a) ∨
      (k ≠ name ∧ slot' = slot ∧ rest.put manner others k j slots = .ok slots') := by
  simp only [put] at h
  split at h
  · rename_i hk
    cases slot with
    | some a => exact nomatch h
    | none =>
      obtain ⟨a, hr, same⟩ := map_eq_ok.1 h
      obtain ⟨rfl, rfl⟩ := Prod.mk.inj same
      exact .inl ⟨hk, rfl, rfl, a, rfl, hr⟩
  · rename_i hk
    obtain ⟨slots₁, hr, same⟩ := map_eq_ok.1 h
    obtain ⟨rfl, rfl⟩ := Prod.mk.inj same
    exact .inr ⟨hk, rfl, hr⟩

/-- Filling a record fills its first field with the member of its name and its other fields
with the other members. -/
theorem Fields.fill_cons {ms : List (String × Json)} {slot slot' : Option α}
    {slots slots' : rest.Slots}
    (h : (Fields.cons name absent short omitted s rest).fill manner others ms (slot, slots) =
      .ok (slot', slots')) :
    (∀ a, slot = some a → slot' = some a) ∧
      (slot = none → match ms.lookup name with
        | some j => ∃ a, slot' = some a ∧ s.read manner j = .ok a
        | none => slot' = none) ∧
      rest.fill manner others (ms.filter fun m => m.1 ≠ name) slots = .ok slots' := by
  induction ms generalizing slot slots with
  | nil =>
    obtain ⟨rfl, rfl⟩ := Prod.mk.inj (Except.ok.inj h)
    exact ⟨fun _ h => h, fun h => h, rfl⟩
  | cons m ms ih =>
    obtain ⟨⟨slot₁, slots₁⟩, hput, htail⟩ := fill_eq_ok h
    obtain ⟨keeps, fills, left⟩ := ih htail
    rcases put_cons hput with ⟨hk, rfl, rfl, a, rfl, ha⟩ | ⟨hk, rfl, hrest⟩
    · refine ⟨fun _ h => (nomatch h), fun _ => ?_, ?_⟩
      · rw [Dict.lookup_cons_eq, if_pos hk.symm]
        exact ⟨a, keeps a rfl, ha⟩
      · rwa [List.filter_cons_of_neg (by simp [hk])]
    · refine ⟨keeps, fun hs => ?_, ?_⟩
      · rw [Dict.lookup_cons_eq, if_neg (Ne.symm hk)]
        exact fills hs
      · rw [List.filter_cons_of_pos (by simp [hk]), fill, List.foldlM_cons, hrest]
        exact left

/-- The first field is finished with the value in its place, or with the one it has when absent. -/
theorem Fields.finish_cons {slot : Option α} {slots : rest.Slots} {r : α × β}
    (h : (Fields.cons name absent short omitted s rest).finish (slot, slots) = .ok r) :
    ∃ a b, slot.or absent = some a ∧ rest.finish slots = .ok b ∧ r = (a, b) := by
  simp only [finish] at h
  split at h
  · rename_i a ha
    have finished : (rest.finish slots >>= fun b => .ok (a, b)) = .ok r := h
    obtain ⟨b, hb, h⟩ := bind_eq_ok.1 finished
    exact ⟨a, b, ha, hb, (Except.ok.inj h).symm⟩
  · exact nomatch h

end Field

/-! ### Records -/

theorem lookup_filter_ne {name k : String} {ms : List (String × Json)} (h : k ≠ name) :
    (ms.filter fun m => m.1 ≠ name).lookup k = ms.lookup k := by
  induction ms with
  | nil => rfl
  | cons m ms ih =>
    rw [Dict.lookup_cons_eq]
    by_cases hm : m.1 = name
    · rw [List.filter_cons_of_neg (by simp [hm]), ih, if_neg (by rw [hm]; exact h)]
    · rw [List.filter_cons_of_pos (by simp [hm]), Dict.lookup_cons_eq, ih]

/-- What the members give hangs on the first of each name alone. -/
theorem Fields.given_congr : {α : Type} → (fs : Fields α) → {ms ms' : List (String × Json)} →
    {a : α} → (∀ k ∈ fs.names, ms.lookup k = ms'.lookup k) →
    (fs.Given manner ms a ↔ fs.Given manner ms' a)
  | _, .nil, _, _, _, _ => Iff.rfl
  | _, .cons name absent _ _ s rest, ms, ms', a, same => by
    obtain ⟨first, same⟩ := List.forall_mem_cons.1 same
    rw [Given, Given, first, given_congr rest same]

theorem Fields.given_required {α β : Type} {name : String} {s : Shape α} {rest : Fields β}
    {ms : List (String × Json)} {a : α × β} :
    (Fields.required name s rest).Given manner ms a ↔
      (∃ j, ms.lookup name = some j ∧ s.read manner j = .ok a.1) ∧ rest.Given manner ms a.2 := by
  rw [required, Given]
  cases ms.lookup name <;> simp

/-- What a member of another name gives does not hang on the members of this name. -/
theorem Fields.given_of_filter {α : Type} {fs : Fields α} {name : String}
    {ms : List (String × Json)} {a : α} (fresh : name ∉ fs.names)
    (h : fs.Given manner (ms.filter fun m => m.1 ≠ name) a) : fs.Given manner ms a := by
  refine (given_congr fs fun k hk => ?_).1 h
  exact lookup_filter_ne fun same => fresh (same ▸ hk)

theorem Fields.given_of_fill {α : Type} : (fs : Fields α) → fs.names.Nodup →
    {ms : List (String × Json)} → {slots : fs.Slots} → {a : α} →
    fs.fill manner others ms fs.blank = .ok slots → fs.finish slots = .ok a →
    fs.Given manner ms a
  | .nil, _, _, _, _, _, _ => trivial
  | .cons name absent _ _ s rest, distinct, ms, slots, a, h, hf => by
    obtain ⟨slot, slots⟩ := slots
    obtain ⟨hn, distinct⟩ := List.nodup_cons.1 distinct
    obtain ⟨_, first, left⟩ := fill_cons h
    obtain ⟨x, b, hx, hb, rfl⟩ := finish_cons hf
    refine ⟨?_, given_of_filter hn (given_of_fill rest distinct left hb)⟩
    have hslot := first rfl
    cases hj : ms.lookup name with
    | none =>
      simp only [hj] at hslot
      rw [hslot, Option.none_or] at hx
      exact hx
    | some j =>
      simp only [hj] at hslot
      obtain ⟨y, hy, hr⟩ := hslot
      rw [hy, Option.some_or] at hx
      exact Option.some.inj hx ▸ hr

/-- An object is read as a record by filling its fields. -/
theorem Fields.read_obj {α : Type} {fs : Fields α} {ms : List (String × Json)} :
    (Shape.record others fs).read manner (.obj ms) =
      (fs.fill manner others ms fs.blank).bind fs.finish := rfl

/-- Members are put into a record that is read, one after another and without a fault. -/
theorem Fields.fill_of_read {α : Type} {fs : Fields α} {ms : List (String × Json)} {a : α}
    (h : (Shape.record others fs).read manner (.obj ms) = .ok a) :
    ∃ slots, fs.fill manner others ms fs.blank = .ok slots ∧ fs.finish slots = .ok a := by
  rw [read_obj] at h
  exact bind_eq_ok.1 h

/-- What is read from an object is what its members give. -/
theorem Fields.given_of_read {α : Type} {fs : Fields α} {ms : List (String × Json)} {a : α}
    (distinct : fs.names.Nodup) (h : (Shape.record others fs).read manner (.obj ms) = .ok a) :
    fs.Given manner ms a := by
  obtain ⟨slots, filled, finished⟩ := fill_of_read h
  exact given_of_fill fs distinct filled finished

/-- No record is read from an object that is damaged. -/
theorem Shape.read_record_torn {α : Type} {fs : Fields α} {ms : List (String × Json)} {a : α} :
    (Shape.record others fs).read manner (.torn ms) ≠ .ok a := by
  intro h
  have refused : (fs.fill manner others ms fs.blank >>= fun _ => .error .garbled) = .ok a := h
  obtain ⟨_, _, fault⟩ := bind_eq_ok.1 refused
  exact nomatch fault

/-! ### Lists in place of records -/

theorem Fields.ofItems_cons {α β : Type} {name : String} {absent short : Option α} {omitted : Bool}
    {s : Shape α} {rest : Fields β} {j : Json} {l : List Json} {a : α × β} :
    (Fields.cons name absent short omitted s rest).ofItems manner (j :: l) = .ok a ↔
      s.read manner j = .ok a.1 ∧ rest.ofItems manner l = .ok a.2 := by
  rw [ofItems]
  constructor
  · intro h
    obtain ⟨x, item, h⟩ := bind_eq_ok.1 h
    obtain ⟨b, items, h⟩ := bind_eq_ok.1 h
    obtain rfl := Except.ok.inj h
    exact ⟨item, items⟩
  · rintro ⟨item, items⟩
    exact bind_eq_ok.2 ⟨a.1, item, bind_eq_ok.2 ⟨a.2, items, rfl⟩⟩

/-- A list that ends before a field that may be missing gives it no value. -/
theorem Fields.ofItems_optional_nil {α β : Type} {name : String} {s : Shape α} {rest : Fields β}
    {a : Option α × β} (h : (Fields.optional name s rest).ofItems manner [] = .ok a) :
    a.1 = none ∧ rest.ofItems manner [] = .ok a.2 := by
  simp only [optional, ofItems] at h
  obtain ⟨b, items, h⟩ := bind_eq_ok.1 h
  obtain rfl := Except.ok.inj h
  exact ⟨rfl, items⟩

/-! ### Values that stand for others -/

/-- What is read as a value that stands for another is read as that other. -/
theorem Shape.read_via {α β : Type} {s : Shape α} {into : α → β} {back : β → α} {j : Json} {b : β} :
    (Shape.via s into back).read manner j = .ok b ↔ ∃ a, s.read manner j = .ok a ∧ into a = b :=
  map_eq_ok

/-- What the first of two shapes does not read exactly is left to the second. -/
theorem Shape.read_either {α : Type} {family : String} {s t : Shape α} {j : Json} {a : α} :
    (Shape.either family s t).read manner j = .ok a ↔ s.read .exact j = .ok a ∨
      (∀ b, s.read .exact j ≠ .ok b) ∧ t.read .exact j = .ok a := by
  rw [read]
  cases s.read .exact j <;> cases t.read .exact j <;> simp

/-! ### Integers -/

/-- An integer between two bounds is read from its number alone. -/
theorem Shape.read_int {least greatest n : Int} {j : Json} :
    (Shape.int least greatest).read manner j = .ok n ↔ j = .int n ∧ least ≤ n ∧ n ≤ greatest := by
  cases j with
  | int m =>
    rw [read]
    split
    · rename_i range
      constructor
      · intro h
        obtain rfl := Except.ok.inj h
        exact ⟨rfl, range⟩
      · rintro ⟨same, _⟩
        exact congrArg Except.ok (Json.int.inj same)
    · rename_i range
      constructor
      · exact nofun
      · rintro ⟨same, bounds⟩
        exact absurd (Json.int.inj same ▸ bounds) range
  | _ => exact ⟨nofun, fun h => nomatch h.1⟩

/-- A word is read from the number that it is. -/
theorem Shape.read_word {α : Type} {least greatest : Int} {into : Int → α} {back : α → Int}
    {a : α} {j : Json} (bounds : ∀ a, least ≤ back a ∧ back a ≤ greatest)
    (into_back : ∀ a, into (back a) = a)
    (back_into : ∀ n, least ≤ n → n ≤ greatest → back (into n) = n) :
    (Shape.via (Shape.int least greatest) into back).read manner j = .ok a ↔
      j = .int (back a) := by
  rw [read_via]
  constructor
  · rintro ⟨n, number, rfl⟩
    obtain ⟨rfl, above, below⟩ := read_int.1 number
    rw [back_into n above below]
  · rintro rfl
    exact ⟨back a, read_int.2 ⟨rfl, bounds a⟩, into_back a⟩

theorem Shape.read_int64 {n : Int64} {j : Json} :
    Shape.int64.read manner j = .ok n ↔ j = .int n.toInt := by
  refine read_word (fun n => ?_) Int64.ofInt_toInt fun m least greatest => ?_
  · have least := n.le_toInt
    have greatest := n.toInt_lt
    simp only [Text.int64Min, Text.int64Max]
    omega
  · simp only [Text.int64Min, Text.int64Max] at least greatest
    exact Int64.toInt_ofInt_of_le (by omega) (by omega)

theorem Shape.read_int32 {n : Int32} {j : Json} :
    Shape.int32.read manner j = .ok n ↔ j = .int n.toInt := by
  refine read_word (fun n => ?_) Int32.ofInt_toInt fun m least greatest => ?_
  · have least := n.le_toInt
    have greatest := n.toInt_lt
    omega
  · exact Int32.toInt_ofInt_of_le (by omega) (by omega)

end ClaimGate.Json
