import ClaimGate.Proofs.Context
import Mathlib.Data.List.Induction

/-! The first and the last members of a list with a property. A list may hold several members
under one key, and a member may have several keys; of those that are entered into a dictionary
under their keys the last counts. -/

namespace ClaimGate

/-- The first member of the list with the property. -/
def FirstOf {α : Type} (P : α → Prop) (l : List α) (a : α) : Prop :=
  ∃ before after, l = before ++ a :: after ∧ P a ∧ ∀ b ∈ before, ¬ P b

/-- The last member of the list with the property. -/
def LastOf {α : Type} (P : α → Prop) (l : List α) (a : α) : Prop := FirstOf P l.reverse a

section Lists

variable {α κ : Type} {P : α → Prop} {l : List α} {a b : α}

theorem find?_eq_some_iff_firstOf [DecidablePred P] :
    l.find? (fun a => P a) = some a ↔ FirstOf P l a := by
  rw [List.find?_eq_some_iff_append]
  simp only [FirstOf, decide_eq_true_eq, Bool.not_eq_true', decide_eq_false_iff_not]
  constructor
  · rintro ⟨ha, before, after, rfl, hb⟩
    exact ⟨before, after, rfl, ha, hb⟩
  · rintro ⟨before, after, rfl, ha, hb⟩
    exact ⟨ha, before, after, rfl, hb⟩

theorem FirstOf.mem (h : FirstOf P l a) : a ∈ l := by
  obtain ⟨before, after, rfl, _, _⟩ := h
  exact List.mem_append_right before List.mem_cons_self

theorem FirstOf.holds (h : FirstOf P l a) : P a := by
  obtain ⟨_, _, _, ha, _⟩ := h
  exact ha

theorem LastOf.holds (h : LastOf P l a) : P a := FirstOf.holds h

theorem LastOf.mem (h : LastOf P l a) : a ∈ l := List.mem_reverse.1 (FirstOf.mem h)

theorem FirstOf.unique (h : FirstOf P l a) (h' : FirstOf P l b) : a = b := by
  classical
  have found := find?_eq_some_iff_firstOf.2 h
  exact Option.some.inj (found.symm.trans (find?_eq_some_iff_firstOf.2 h'))

/-- Where one member has the property there is a first. -/
theorem FirstOf.exists_of_mem (h : a ∈ l) (ha : P a) : ∃ b, FirstOf P l b := by
  classical
  have found : (l.find? fun b => P b).isSome := List.find?_isSome.2 ⟨a, h, decide_eq_true ha⟩
  obtain ⟨b, hb⟩ := Option.isSome_iff_exists.1 found
  exact ⟨b, find?_eq_some_iff_firstOf.1 hb⟩

theorem LastOf.exists_of_mem (h : a ∈ l) (ha : P a) : ∃ b, LastOf P l b :=
  FirstOf.exists_of_mem (List.mem_reverse.2 h) ha

/-- Where every member with the property gives something, so does the last if there is any. -/
theorem exists_lastOf_and {β : Type} {Q : α → β → Prop} (gives : ∀ a ∈ l, P a → ∃ b, Q a b) :
    (∃ b a, LastOf P l a ∧ Q a b) ↔ ∃ a ∈ l, P a := by
  constructor
  · rintro ⟨_, a, last, _⟩
    exact ⟨a, last.mem, last.holds⟩
  · rintro ⟨a, mem, ha⟩
    obtain ⟨a', last⟩ : ∃ a', LastOf P l a' := LastOf.exists_of_mem mem ha
    obtain ⟨b, given⟩ := gives a' last.mem last.holds
    exact ⟨b, a', last, given⟩

theorem firstOf_cons : FirstOf P (a :: l) b ↔ P a ∧ a = b ∨ ¬ P a ∧ FirstOf P l b := by
  classical
  simp only [← find?_eq_some_iff_firstOf, List.find?_cons]
  by_cases ha : P a <;> simp [ha]

theorem lastOf_concat : LastOf P (l ++ [a]) b ↔ P a ∧ a = b ∨ ¬ P a ∧ LastOf P l b := by
  rw [LastOf, List.reverse_append]
  exact firstOf_cons

theorem firstOf_congr {Q : α → Prop} (h : ∀ a ∈ l, P a ↔ Q a) : FirstOf P l a ↔ FirstOf Q l a := by
  induction l with
  | nil => simp [FirstOf]
  | cons b r ih =>
    obtain ⟨here, there⟩ := List.forall_mem_cons.1 h
    rw [firstOf_cons, firstOf_cons, here, ih there]

theorem firstOf_filter {p : α → Bool} :
    FirstOf P (l.filter p) a ↔ FirstOf (fun a => p a = true ∧ P a) l a := by
  classical
  rw [← find?_eq_some_iff_firstOf, ← find?_eq_some_iff_firstOf, List.find?_filter]
  simp

theorem lastOf_congr [DecidablePred P] {l' : List α}
    (same : l.filter (fun a => P a) = l'.filter fun a => P a) : LastOf P l a ↔ LastOf P l' a := by
  simp only [LastOf, ← find?_eq_some_iff_firstOf, ← List.head?_filter, List.filter_reverse, same]

section Order

variable [LT κ] [LE κ] [Std.IsLinearOrder κ] [Std.LawfulOrderLT κ] [DecidableLT κ]

section Index

variable {β : Type} {keys : α → List κ} {value : α → β} {b : β} {k : κ}

/-- The index that each member of a list in turn enters its value into, under all of its keys. -/
def Dict.index (keys : α → List κ) (value : α → β) (l : List α) : Dict κ β :=
  .ofList (l.flatMap fun a => (keys a).map fun k => (k, value a))

theorem Dict.index_concat : index keys value (l ++ [a]) =
    (index keys value l).insertAll ((keys a).map fun k => (k, value a)) := by
  rw [index, List.flatMap_append, List.flatMap_singleton]
  exact List.foldl_append

variable [DecidableEq κ]

/-- One value under several keys is the answer to each of them. -/
theorem Dict.get?_insertAll_keys (d : Dict κ β) (ks : List κ) :
    (d.insertAll (ks.map fun k => (k, b))).get? k = if k ∈ ks then some b else d.get? k := by
  induction ks generalizing d with
  | nil => rfl
  | cons k' ks ih =>
    have step : d.insertAll ((k' :: ks).map fun k => (k, b)) =
        (d.insert k' b).insertAll (ks.map fun k => (k, b)) := rfl
    rw [step, ih, get?_insert]
    by_cases here : k = k' <;> by_cases there : k ∈ ks <;> simp [here, there]

/-- The last member with a key has entered what the index answers. -/
theorem Dict.get?_index_eq_some : (index keys value l).get? k = some b ↔
    ∃ a, LastOf (fun a => k ∈ keys a) l a ∧ value a = b := by
  induction l using List.reverseRecOn with
  | nil => simp [index, ofList, insertAll, LastOf, FirstOf]
  | append_singleton l a ih =>
    rw [index_concat, get?_insertAll_keys]
    simp only [lastOf_concat]
    by_cases own : k ∈ keys a
    · simp [own]
    · simp [own, ih]

end Index

variable [DecidableEq κ]

/-- Of members that are listed under their keys the last counts. -/
theorem Dict.get?_ofList_map_eq_some {key : α → κ} {k : κ} :
    (Dict.ofList (l.map fun a => (key a, a))).get? k = some a ↔ LastOf (key · = k) l a := by
  have entered : Dict.ofList (l.map fun a => (key a, a)) = index (fun a => [key a]) id l := by
    rw [index, List.map_eq_flatMap]
    rfl
  rw [entered, get?_index_eq_some]
  simp only [List.mem_singleton, id, exists_eq_right, eq_comm (a := k)]

omit [Std.IsLinearOrder κ] [DecidableLT κ] in
theorem Dict.mem_values {d : Dict κ α} : a ∈ d.values ↔ ∃ k, d.get? k = some a := by
  simp only [values, List.mem_map, Prod.exists, exists_eq_right, get?,
    lookup_eq_some_iff d.distinct]

end Order

end Lists

end ClaimGate
