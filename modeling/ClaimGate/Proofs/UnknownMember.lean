import ClaimGate.Directory.Fixtures
import ClaimGate.Proofs.WrittenForm
import ClaimGate.Request
import ClaimGate.Settings.Pools
import Mathlib.Data.List.Nodup

/-! Members that no field of a record declares. Reading meets records at any depth: in lists, in
optional places, and in the fields of other records, whether these stand as objects or as lists.
What such a record makes of its members reaches the whole value unchanged, a fault as well as a
value, since all that is read before it was read without a fault. Proved: in the records of a
configuration such a member is a fault, and it is that fault which is told; in the records that
other stores share, and on the wire, it changes nothing. -/

namespace ClaimGate

namespace Json

/-! ### Fields -/

/-- The member of this name is read in the shape: its field is the first of the name. -/
inductive Fields.Named {γ : Type} (name : String) (s : Shape γ) : {α : Type} → Fields α → Prop
  | first {β : Type} {absent short : Option γ} {omitted : Bool} {rest : Fields β} :
      Named name s (.cons name absent short omitted s rest)
  | later {α β : Type} {k : String} {absent short : Option α} {omitted : Bool} {t : Shape α}
      {rest : Fields β} (other : name ≠ k) (h : Named name s rest) :
      Named name s (.cons k absent short omitted t rest)

/-- The item at this place of a list is read in the shape. -/
inductive Fields.Placed {γ : Type} (s : Shape γ) : {α : Type} → Fields α → Nat → Prop
  | first {β : Type} {name : String} {absent short : Option γ} {omitted : Bool} {rest : Fields β} :
      Placed s (.cons name absent short omitted s rest) 0
  | later {α β : Type} {name : String} {absent short : Option α} {omitted : Bool} {t : Shape α}
      {rest : Fields β} {n : Nat} (h : Placed s rest n) :
      Placed s (.cons name absent short omitted t rest) (n + 1)

section Fields

variable {α γ : Type} {manner : Manner} {others : Others} {fs : Fields α} {s : Shape γ}
  {name : String} {j j' : Json}

/-- What a member does to the fields hangs on what is read of it. -/
theorem Fields.Named.put_congr (named : fs.Named name s)
    (same : s.read manner j' = s.read manner j) (slots : fs.Slots) :
    fs.put manner others name j' slots = fs.put manner others name j slots := by
  induction named with
  | first => simp only [put, if_true, same]
  | later other _ ih => simp only [put, if_neg other, ih]

/-- A member that was put into its place was read, and a fault in its stead is one of the record. -/
theorem Fields.Named.of_put (named : fs.Named name s) {slots slots' : fs.Slots}
    (whole : fs.put manner others name j slots = .ok slots') :
    (∃ b, s.read manner j = .ok b) ∧ ∀ j' f, s.read manner j' = .error f →
      fs.put manner others name j' slots = .error f := by
  induction named with
  | first =>
    obtain ⟨slot, slots⟩ := slots
    obtain ⟨slot', slots'⟩ := slots'
    rcases put_cons whole with ⟨_, rfl, _, b, _, read⟩ | ⟨other, _⟩
    · refine ⟨⟨b, read⟩, fun j' f fault => ?_⟩
      simp only [put, if_true, fault]
      rfl
    · exact absurd rfl other
  | later other _ ih =>
    obtain ⟨slot, slots⟩ := slots
    obtain ⟨slot', slots'⟩ := slots'
    rcases put_cons whole with ⟨same, _⟩ | ⟨_, _, rest⟩
    · exact absurd same other
    · obtain ⟨read, faults⟩ := ih rest
      refine ⟨read, fun j' f fault => ?_⟩
      simp only [put, if_neg other, faults j' f fault]
      rfl

theorem Fields.ofItems_congr {before after : List Json} (placed : fs.Placed s before.length)
    (same : s.read manner j' = s.read manner j) :
    fs.ofItems manner (before ++ j' :: after) = fs.ofItems manner (before ++ j :: after) := by
  generalize place : before.length = n at placed
  induction placed generalizing before with
  | first =>
    obtain rfl := List.length_eq_zero_iff.1 place
    simp only [List.nil_append, ofItems, same]
  | later _ ih =>
    obtain ⟨i, before, rfl⟩ := List.exists_cons_of_length_eq_add_one place
    have rest := ih (Nat.succ.inj place)
    simp only [List.cons_append, ofItems, rest]

/-- An item at its place was read, and a fault in its stead is one of the record. -/
theorem Fields.of_ofItems {before after : List Json} {a : α} (placed : fs.Placed s before.length)
    (whole : fs.ofItems manner (before ++ j :: after) = .ok a) :
    (∃ b, s.read manner j = .ok b) ∧ ∀ j' f, s.read manner j' = .error f →
      fs.ofItems manner (before ++ j' :: after) = .error f := by
  generalize place : before.length = n at placed
  induction placed generalizing before with
  | first =>
    obtain rfl := List.length_eq_zero_iff.1 place
    refine ⟨⟨_, (ofItems_cons.1 whole).1⟩, fun j' f fault => ?_⟩
    simp only [List.nil_append, ofItems, fault]
    rfl
  | later _ ih =>
    obtain ⟨i, before, rfl⟩ := List.exists_cons_of_length_eq_add_one place
    obtain ⟨item, items⟩ := ofItems_cons.1 whole
    obtain ⟨read, faults⟩ := ih items (Nat.succ.inj place)
    refine ⟨read, fun j' f fault => ?_⟩
    simp only [List.cons_append, ofItems, item, faults j' f fault]
    rfl

end Fields

/-! ### Records -/

/-- The members of a record with one more, somewhere among them. -/
inductive WithMember (name : String) : List (String × Json) → List (String × Json) → Prop
  | at (before after : List (String × Json)) (j : Json) :
      WithMember name (before ++ after) (before ++ (name, j) :: after)

section Record

variable {α : Type} {manner : Manner} {others : Others} {fs : Fields α} {name : String}
  {ms ms' : List (String × Json)}

/-- A member that no field claims meets the check of the others, and leaves the fields alone. -/
theorem Fields.put_of_fresh : {α : Type} → (fs : Fields α) → name ∉ fs.names → (j : Json) →
    (slots : fs.Slots) →
    fs.put manner others name j slots = (fun _ => slots) <$> others.check name j
  | _, .nil, _, j, _ => by
    simp only [put]
    cases others.check name j <;> rfl
  | _, .cons _ _ _ _ _ rest, fresh, j, slots => by
    obtain ⟨slot, slots⟩ := slots
    obtain ⟨other, fresh⟩ := not_or.1 (mt List.mem_cons.2 fresh)
    simp only [put, if_neg other, put_of_fresh rest fresh j slots]
    cases others.check name j <;> rfl

theorem Fields.fill_append {before after : List (String × Json)} {slots : fs.Slots} :
    fs.fill manner others (before ++ after) slots =
      (fs.fill manner others before slots).bind (fs.fill manner others after) :=
  List.foldlM_append

theorem Fields.fill_append_eq_ok {before after : List (String × Json)} {slots slots' : fs.Slots} :
    fs.fill manner others (before ++ after) slots = .ok slots' ↔
      ∃ middle, fs.fill manner others before slots = .ok middle ∧
        fs.fill manner others after middle = .ok slots' := by
  rw [fill_append]
  exact bind_eq_ok

/-- A record that ignores what it does not declare is read as without it. -/
theorem Fields.read_of_ignored (fresh : name ∉ fs.names) (more : WithMember name ms ms') :
    (Shape.record .ignored fs).read manner (.obj ms') =
      (Shape.record .ignored fs).read manner (.obj ms) := by
  obtain ⟨before, after, j⟩ := more
  have filled : fs.fill manner .ignored (before ++ (name, j) :: after) fs.blank =
      fs.fill manner .ignored (before ++ after) fs.blank := by
    rw [fill_append, fill_append]
    refine congrArg _ (funext fun slots => ?_)
    exact fill_put (fs.put_of_fresh fresh j slots)
  rw [read_obj, read_obj, filled]

/-- A record that refuses what it does not declare tells it, where it is the only fault. -/
theorem Fields.read_of_refused {a : α} (fresh : name ∉ fs.names) (more : WithMember name ms ms')
    (h : (Shape.record .refused fs).read manner (.obj ms) = .ok a) :
    (Shape.record .refused fs).read manner (.obj ms') = .error (.unknown name) := by
  obtain ⟨before, after, j⟩ := more
  obtain ⟨slots, filled, _⟩ := fill_of_read h
  obtain ⟨middle, first, _⟩ := fill_append_eq_ok.1 filled
  have fault : fs.fill manner .refused (before ++ (name, j) :: after) fs.blank =
      .error (.unknown name) := by
    rw [fill_append, first]
    have unknown : fs.put manner .refused name j middle = .error (.unknown name) :=
      fs.put_of_fresh fresh j middle
    rw [Except.bind, fill, List.foldlM_cons, unknown]
    rfl
  rw [read_obj, fault]
  rfl

/-- What is read as such a record has no member that it does not declare. -/
theorem Fields.mem_names_of_read {a : α}
    (h : (Shape.record .refused fs).read manner (.obj ms) = .ok a) : ∀ m ∈ ms, m.1 ∈ fs.names := by
  intro m hm
  by_contra fresh
  obtain ⟨before, after, rfl⟩ := List.append_of_mem hm
  obtain ⟨slots, filled, _⟩ := fill_of_read h
  obtain ⟨middle, _, rest⟩ := fill_append_eq_ok.1 filled
  obtain ⟨_, put, _⟩ := fill_eq_ok rest
  rw [fs.put_of_fresh fresh] at put
  exact nomatch put

/-- Putting members meets the name of a field once at most, and not at all where its place is
taken. -/
theorem Fields.count_of_fill_cons {α β : Type} {name : String} {absent short : Option α}
    {omitted : Bool} {s : Shape α} {rest : Fields β} {ms : List (String × Json)}
    {slot slot' : Option α} {slots slots' : rest.Slots}
    (h : (Fields.cons name absent short omitted s rest).fill manner others ms (slot, slots) =
      .ok (slot', slots')) :
    (ms.map (·.1)).count name ≤ if slot.isSome then 0 else 1 := by
  induction ms generalizing slot slots with
  | nil => exact Nat.zero_le _
  | cons m ms ih =>
    obtain ⟨⟨slot₁, slots₁⟩, put, rest⟩ := fill_eq_ok h
    have fewer := ih rest
    rcases put_cons put with ⟨same, rfl, _, a, rfl, _⟩ | ⟨other, rfl, _⟩
    · rw [List.map_cons, same, List.count_cons_self]
      simpa using fewer
    · rwa [List.map_cons, List.count_cons_of_ne other]

theorem Fields.count_filter_ne {name k : String} {ms : List (String × Json)} (h : k ≠ name) :
    ((ms.filter fun m => m.1 ≠ name).map (·.1)).count k = (ms.map (·.1)).count k := by
  induction ms with
  | nil => rfl
  | cons m ms ih =>
    by_cases hm : m.1 = name
    · rw [List.filter_cons_of_neg (by simp [hm]), ih, List.map_cons,
        List.count_cons_of_ne (by rw [hm]; exact h.symm)]
    · rw [List.filter_cons_of_pos (by simp [hm]), List.map_cons, List.map_cons, List.count_cons,
        List.count_cons, ih]

/-- Putting members meets the name of each field once at most. -/
theorem Fields.count_of_fill : {α : Type} → (fs : Fields α) → {ms : List (String × Json)} →
    {slots slots' : fs.Slots} → fs.fill manner others ms slots = .ok slots' →
    ∀ k ∈ fs.names, (ms.map (·.1)).count k ≤ 1
  | _, .nil, _, _, _, _, _, hk => absurd hk List.not_mem_nil
  | _, .cons name _ _ _ _ rest, ms, slots, slots', h, k, hk => by
    obtain ⟨slot, slots⟩ := slots
    obtain ⟨slot', slots'⟩ := slots'
    by_cases same : k = name
    · have once := count_of_fill_cons h
      rw [same]
      exact Nat.le_trans once (by split <;> omega)
    · obtain ⟨_, _, left⟩ := fill_cons h
      rw [← count_filter_ne same]
      have later : k ∈ rest.names := (List.mem_cons.1 hk).resolve_left same
      exact count_of_fill rest left k later

/-- What is read as a record that refuses other members has no two of one name. -/
theorem Fields.apart_of_read {a : α}
    (h : (Shape.record .refused fs).read manner (.obj ms) = .ok a) :
    ms.Pairwise fun m m' => m.1 ≠ m'.1 := by
  obtain ⟨slots, filled, _⟩ := fill_of_read h
  refine List.pairwise_map.1 (List.nodup_iff_count_le_one.2 fun k => ?_)
  by_cases listed : k ∈ ms.map (·.1)
  · obtain ⟨m, hm, rfl⟩ := List.mem_map.1 listed
    exact count_of_fill fs filled m.1 (mem_names_of_read h m hm)
  · rw [List.count_eq_zero_of_not_mem listed]
    exact Nat.zero_le 1

theorem lookup_append_cons_ne {k name : String} {j : Json} {before after : List (String × Json)}
    (h : k ≠ name) : (before ++ (name, j) :: after).lookup k = (before ++ after).lookup k := by
  rw [List.lookup_append, List.lookup_append, Dict.lookup_cons_eq, if_neg h]

/-- The one member of its name fills the place of the first field, wherever it stands among those
that fill the places of the other fields. -/
theorem Fields.fill_of_one {α β : Type} {name : String} {absent short : Option α} {omitted : Bool}
    {s : Shape α} {rest : Fields β} {before after : List (String × Json)} {j : Json} {a : α}
    {slots slots' : rest.Slots} (other : ∀ m ∈ before ++ after, m.1 ≠ name)
    (read : s.read manner j = .ok a)
    (filled : rest.fill manner others (before ++ after) slots = .ok slots') :
    (Fields.cons name absent short omitted s rest).fill manner others
      (before ++ (name, j) :: after) (none, slots) = .ok (some a, slots') := by
  obtain ⟨ahead, behind⟩ := List.forall_mem_append.1 other
  obtain ⟨middle, front, back⟩ := fill_append_eq_ok.1 filled
  have put : (Fields.cons name absent short omitted s rest).put manner others name j
      (none, middle) = .ok (some a, middle) := by
    simp only [Fields.put, if_pos, read]
    rfl
  refine fill_append_eq_ok.2 ⟨(none, middle), fill_of_ne ahead front, ?_⟩
  exact (fill_put put).trans (fill_of_ne behind back)

/-- Members of distinct names that are all those of fields fill the places of the fields. -/
theorem Fields.fills_of_given : {α : Type} → (fs : Fields α) → fs.names.Nodup →
    {ms : List (String × Json)} → {a : α} → (ms.Pairwise fun m m' => m.1 ≠ m'.1) →
    (∀ m ∈ ms, m.1 ∈ fs.names) → fs.Given manner ms a → fs.Fills manner others ms a
  | _, .nil, _, ms, _, _, known, _ => by
    obtain rfl : ms = [] :=
      List.eq_nil_iff_forall_not_mem.2 fun m hm => List.not_mem_nil (known m hm)
    exact ⟨(), rfl, rfl⟩
  | _, .cons name absent short omitted s rest, distinct, ms, (a, b), apart, known, given => by
    obtain ⟨fresh, distinct⟩ := List.nodup_cons.1 distinct
    obtain ⟨first, given⟩ := given
    cases found : ms.lookup name with
    | none =>
      rw [found] at first
      have other : ∀ m ∈ ms, m.1 ≠ name := by
        rintro ⟨k, j⟩ hm rfl
        exact nomatch found.symm.trans ((Dict.lookup_eq_some_iff apart).2 hm)
      have known : ∀ m ∈ ms, m.1 ∈ rest.names := fun m hm =>
        (List.mem_cons.1 (known m hm)).resolve_left (other m hm)
      obtain ⟨slots, filled, finished⟩ := fills_of_given rest distinct apart known given
      refine ⟨(none, slots), fill_of_ne other filled, ?_⟩
      simp only [finish, Option.none_or, first, finished]
      rfl
    | some j =>
      rw [found] at first
      obtain ⟨before, after, rfl⟩ := List.append_of_mem ((Dict.lookup_eq_some_iff apart).1 found)
      have fewer : (before ++ after).Sublist (before ++ (name, j) :: after) :=
        (List.sublist_cons_self _ after).append_left before
      have other : ∀ m ∈ before ++ after, m.1 ≠ name := by
        obtain ⟨behind, _⟩ := List.pairwise_cons.1 ((List.perm_middle.pairwise_iff Ne.symm).1 apart)
        exact fun m hm => (behind m hm).symm
      have known : ∀ m ∈ before ++ after, m.1 ∈ rest.names := fun m hm =>
        (List.mem_cons.1 (known m (fewer.subset hm))).resolve_left (other m hm)
      have given : rest.Given manner (before ++ after) b := by
        refine (given_congr rest fun k hk => ?_).1 given
        exact lookup_append_cons_ne fun same => fresh (same ▸ hk)
      obtain ⟨slots, filled, finished⟩ :=
        fills_of_given rest distinct (apart.sublist fewer) known given
      refine ⟨(some a, slots), fill_of_one other first filled, ?_⟩
      simp only [finish, Option.some_or, finished]
      rfl

/-- A record that refuses other members is read from what gives its fields, and nothing else: no
two members of one name, and none that it does not declare. -/
theorem Fields.read_refused_iff {a : α} (distinct : fs.names.Nodup) :
    (Shape.record .refused fs).read manner (.obj ms) = .ok a ↔
      (ms.Pairwise fun m m' => m.1 ≠ m'.1) ∧ (∀ m ∈ ms, m.1 ∈ fs.names) ∧ fs.Given manner ms a := by
  constructor
  · intro h
    exact ⟨apart_of_read h, mem_names_of_read h, given_of_read distinct h⟩
  · rintro ⟨apart, known, given⟩
    rw [read_obj]
    exact bind_eq_ok.2 (fills_of_given fs distinct apart known given)

/-- A member of a record that was read was itself read, and a fault in its stead is one of the
record. -/
theorem Fields.Named.of_read {γ : Type} {s : Shape γ} {j : Json}
    {before after : List (String × Json)} {a : α} (named : fs.Named name s)
    (whole : (Shape.record others fs).read manner (.obj (before ++ (name, j) :: after)) = .ok a) :
    (∃ b, s.read manner j = .ok b) ∧ ∀ j' f, s.read manner j' = .error f →
      (Shape.record others fs).read manner (.obj (before ++ (name, j') :: after)) = .error f := by
  obtain ⟨slots, filled, _⟩ := fill_of_read whole
  obtain ⟨middle, front, back⟩ := fill_append_eq_ok.1 filled
  obtain ⟨next, put, _⟩ := fill_eq_ok back
  obtain ⟨read, faults⟩ := named.of_put put
  refine ⟨read, fun j' f fault => ?_⟩
  have broken : fs.fill manner others (before ++ (name, j') :: after) fs.blank = .error f := by
    rw [fill_append, front, Except.bind, fill, List.foldlM_cons, faults j' f fault]
    rfl
  rw [read_obj, broken]
  rfl

end Record

/-! ### Records inside a value -/

theorem Shape.read_option {α : Type} {manner : Manner} {s : Shape α} {j : Json} (h : j ≠ .null) :
    s.option.read manner j = some <$> s.read manner j := by
  rw [read]
  exact h

/-- Reading the first value in a shape meets an object with the members `ms` as a record of the
given fields. In the second value the object with the members `ms'` stands in its place, and all
else is the same. -/
inductive Meets {ρ : Type} (others : Others) (fs : Fields ρ) (ms ms' : List (String × Json)) :
    {α : Type} → Shape α → Json → Json → Prop
  | here : Meets others fs ms ms' (.record others fs) (.obj ms) (.obj ms')
  | option {α : Type} {s : Shape α} {j j' : Json} (h : Meets others fs ms ms' s j j') :
      Meets others fs ms ms' s.option j j'
  | item {α : Type} {s : Shape α} {j j' : Json} (before after : List Json)
      (h : Meets others fs ms ms' s j j') :
      Meets others fs ms ms' s.list (.arr (before ++ j :: after)) (.arr (before ++ j' :: after))
  | member {α γ : Type} {s : Shape γ} {j j' : Json} {o : Others} {gs : Fields α} {name : String}
      (before after : List (String × Json)) (named : gs.Named name s)
      (h : Meets others fs ms ms' s j j') :
      Meets others fs ms ms' (.record o gs) (.obj (before ++ (name, j) :: after))
        (.obj (before ++ (name, j') :: after))
  | place {α γ : Type} {s : Shape γ} {j j' : Json} {o : Others} {gs : Fields α}
      (before after : List Json) (placed : gs.Placed s before.length)
      (h : Meets others fs ms ms' s j j') :
      Meets others fs ms ms' (.record o gs) (.arr (before ++ j :: after))
        (.arr (before ++ j' :: after))
  | via {α β : Type} {s : Shape α} {into : α → β} {back : β → α} {j j' : Json}
      (h : Meets others fs ms ms' s j j') : Meets others fs ms ms' (.via s into back) j j'

namespace Meets

variable {α ρ : Type} {manner : Manner} {others : Others} {fs : Fields ρ}
  {ms ms' : List (String × Json)} {s : Shape α} {j j' : Json}

theorem ne_null (h : Meets others fs ms ms' s j j') : j ≠ .null ∧ j' ≠ .null := by
  induction h with
  | here | item | member | place => exact ⟨nofun, nofun⟩
  | option _ ih | via _ ih => exact ih

/-- The record that is met stands in the first value. -/
theorem self (h : Meets others fs ms ms' s j j') : Meets others fs ms ms s j j := by
  induction h with
  | here => exact .here
  | option _ ih => exact .option ih
  | item before after _ ih => exact .item before after ih
  | member before after named _ ih => exact .member before after named ih
  | place before after placed _ ih => exact .place before after placed ih
  | via _ ih => exact .via ih

/-- Where the record is read alike, so is all that it stands in. -/
theorem read_eq (h : Meets others fs ms ms' s j j')
    (same : (Shape.record others fs).read manner (.obj ms') =
      (Shape.record others fs).read manner (.obj ms)) : s.read manner j' = s.read manner j := by
  induction h with
  | here => exact same
  | option h ih => rw [Shape.read_option h.ne_null.1, Shape.read_option h.ne_null.2, ih]
  | item before after _ ih => simp only [Shape.read, List.mapM_append, List.mapM_cons, ih]
  | member before after named _ ih =>
    simp only [Shape.read, List.foldlM_append, List.foldlM_cons, named.put_congr ih]
  | place before after placed _ ih => exact Fields.ofItems_congr placed ih
  | via _ ih => rw [Shape.read, Shape.read, ih]

/-- Where all was read, a fault of the record is the fault of all that it stands in. -/
theorem read_eq_error {f : Fault} (h : Meets others fs ms ms' s j j') {a : α}
    (whole : s.read manner j = .ok a)
    (fault : (Shape.record others fs).read manner (.obj ms') = .error f) :
    s.read manner j' = .error f := by
  induction h with
  | here => exact fault
  | option h ih =>
    rw [Shape.read_option h.ne_null.1] at whole
    rw [Shape.read_option h.ne_null.2]
    obtain ⟨b, inner, _⟩ := map_eq_ok.1 whole
    rw [ih inner]
    rfl
  | item before after _ ih =>
    rw [Shape.read, List.mapM_append] at whole ⊢
    obtain ⟨items, front, back⟩ := bind_eq_ok.1 whole
    rw [List.mapM_cons] at back ⊢
    obtain ⟨_, rest, _⟩ := bind_eq_ok.1 back
    obtain ⟨b, inner, _⟩ := bind_eq_ok.1 rest
    rw [front, ih inner]
    rfl
  | member before after named _ ih =>
    obtain ⟨⟨b, inner⟩, faults⟩ := named.of_read whole
    exact faults _ f (ih inner)
  | place before after placed _ ih =>
    obtain ⟨⟨b, inner⟩, faults⟩ := Fields.of_ofItems placed whole
    exact faults _ f (ih inner)
  | via _ ih =>
    obtain ⟨b, inner, _⟩ := Shape.read_via.1 whole
    rw [Shape.read, ih inner]
    rfl

/-- Where all was read, so was the record that is met. -/
theorem exists_read (h : Meets others fs ms ms' s j j') {a : α} (whole : s.read manner j = .ok a) :
    ∃ b, (Shape.record others fs).read manner (.obj ms) = .ok b := by
  cases met : (Shape.record others fs).read manner (.obj ms) with
  | ok b => exact ⟨b, rfl⟩
  | error f =>
    -- The value itself is one where the record stands, so its fault would be one of the value.
    exact nomatch whole.symm.trans (h.self.read_eq_error whole met)

end Meets

/-! ### All records of a shape -/

mutual

/-- The records in a shape, each as what becomes of members that it does not declare, and the names
of its fields. -/
def Shape.records : {α : Type} → Shape α → List (Others × List String)
  | _, .bool => []
  | _, .int _ _ => []
  | _, .text => []
  | _, .name _ _ => []
  | _, .option s => s.records
  | _, .list s => s.records
  | _, .table => []
  | _, .any => []
  | _, .unread _ => []
  | _, .either _ s t => s.records ++ t.records
  | _, .record others fs => (others, fs.names) :: fs.records
  | _, .via s _ _ => s.records
termination_by structural _ s => s

def Fields.records : {α : Type} → Fields α → List (Others × List String)
  | _, .nil => []
  | _, .cons _ _ _ _ s rest => s.records ++ rest.records
termination_by structural _ fs => fs

end

theorem Fields.Named.records_subset {α γ : Type} {fs : Fields α} {s : Shape γ} {name : String}
    (named : fs.Named name s) : s.records ⊆ fs.records := by
  induction named with
  | first => exact List.subset_append_left _ _
  | later _ _ ih => exact List.Subset.trans ih (List.subset_append_right _ _)

theorem Fields.Placed.records_subset {α γ : Type} {fs : Fields α} {s : Shape γ} {n : Nat}
    (placed : fs.Placed s n) : s.records ⊆ fs.records := by
  induction placed with
  | first => exact List.subset_append_left _ _
  | later _ ih => exact List.Subset.trans ih (List.subset_append_right _ _)

theorem Meets.mem_records {α ρ : Type} {others : Others} {fs : Fields ρ}
    {ms ms' : List (String × Json)} {s : Shape α} {j j' : Json}
    (h : Meets others fs ms ms' s j j') : (others, fs.names) ∈ s.records := by
  induction h with
  | here => exact List.mem_cons_self
  | option _ ih | item _ _ _ ih | via _ ih => exact ih
  | member _ _ named _ ih => exact List.mem_cons_of_mem _ (named.records_subset ih)
  | place _ _ placed _ ih => exact List.mem_cons_of_mem _ (placed.records_subset ih)

/-- What becomes of one more member that a record in a value does not declare. Where the record has
the fields of one of `strict` the member is the fault that is told; where it has those of one of
`tolerant` nothing changes; and it has either. -/
def Shape.Screens {α : Type} (s : Shape α) (strict tolerant : List (List String)) : Prop :=
  ∀ {ρ : Type} {others : Others} {fs : Fields ρ} {ms ms' : List (String × Json)} {name : String}
    {j j' : Json} {manner : Manner} {a : α},
    Meets others fs ms ms' s j j' → WithMember name ms ms' → name ∉ fs.names →
    s.read manner j = .ok a →
      fs.names ∈ strict ∧ s.read manner j' = .error (.unknown name) ∨
        fs.names ∈ tolerant ∧ s.read manner j' = .ok a

theorem Shape.screens_of_records {α : Type} {s : Shape α} {strict tolerant : List (List String)}
    (told : ∀ r ∈ s.records, r.1 = .refused ∧ r.2 ∈ strict ∨ r.1 = .ignored ∧ r.2 ∈ tolerant) :
    s.Screens strict tolerant := by
  intro ρ others fs ms ms' name j j' manner a met more fresh whole
  rcases told _ met.mem_records with ⟨refused, listed⟩ | ⟨ignored, listed⟩
  · obtain rfl : others = .refused := refused
    obtain ⟨b, record⟩ := met.exists_read whole
    exact .inl ⟨listed, met.read_eq_error whole (Fields.read_of_refused fresh more record)⟩
  · obtain rfl : others = .ignored := ignored
    exact .inr ⟨listed, (met.read_eq (Fields.read_of_ignored fresh more)).trans whole⟩

end Json

open Json

/-! ### The records of the service -/

/-- The fields of the records that make up a directory: the directory itself, a user, an
organization, a member, a team, a dataset, and the role of a user. -/
def Fixtures.strictRecords : List (List String) :=
  [["users", "organizations", "manifests", "unavailable"],
    ["id", "node_id", "email", "first_name", "last_name", "is_super_admin", "preferred_org_id",
      "cognito_id", "token_cognito_ids"],
    ["id", "node_id", "features", "members", "teams", "datasets"],
    ["user_id", "permission"],
    ["id", "name", "node_id", "members"],
    ["id", "node_id", "user_roles", "team_roles", "direct_grants"],
    ["user_id", "role"]]

/-- The fields of the records in a directory that other stores share: a grant to a team, and a
manifest. -/
def Fixtures.sharedRecords : List (List String) :=
  [["team_id", "role"],
    ["manifest_id", "dataset_node_id", "dataset_id", "organization_id", "user_id", "status"]]

/-- The fields of the two records of pool settings. -/
def PoolSettings.strictRecords : List (List String) :=
  [["region", "user_pool", "token_pool", "manifest_table", "cognito_endpoint", "legacy_claims",
      "super_admin_bypass"],
    ["pool_id", "client_id"]]

/-- The fields of the claims in a claim set. -/
def ClaimSet.records : List (List String) :=
  [["user_claim", "org_claim", "dataset_claim", "teams_claim"],
    ["id", "node_id", "is_super_admin"],
    ["int_id", "role", "enabled_features"],
    ["node_id", "int_id", "role"],
    ["int_id", "name", "node_id", "permission"]]

/-- In a configuration a member that no field declares is a fault, except in the two records that
other stores share; on the wire it changes nothing. This is so at any depth. -/
theorem unknownMembers_screened :
    (Fixtures.shape.Screens Fixtures.strictRecords Fixtures.sharedRecords ∧
      PoolSettings.shape.Screens PoolSettings.strictRecords []) ∧
    GatewayRequest.shape.Screens []
      [["identitySource", "queryStringParameters", "pathParameters", "headers", "routeKey",
        "rawPath"]] ∧
    DirectRequest.shape.Screens [] [["user_id", "organization_id", "dataset_id"]] ∧
    Principal.shape.Screens []
      [["id", "node_id", "email", "first_name", "last_name", "is_super_admin",
        "preferred_org_id"]] ∧
    Grants.shape.Screens []
      [["user_role", "team_grants", "direct_grants"], ["team_id", "role"]] ∧
    ClaimSet.shape.Screens [] ClaimSet.records := by
  refine ⟨⟨?_, ?_⟩, ?_, ?_, ?_, ?_, ?_⟩
  all_goals exact Shape.screens_of_records (by decide)

/-- A misspelled role, four records deep. -/
example :
    Fixtures.shape.decode (.obj [("organizations", .arr [.obj [("datasets", .arr [.obj
      [("user_roles", .arr [.obj [("user_id", .int 5), ("role", .str "none"),
        ("rolle", .str "owner")]])]])]])]) = .error (.unknown "rolle") := rfl

end ClaimGate
