import ClaimGate.ClaimSet

/-! Contexts of claim sets. The labels of a claim set are those of the claims that are
present, in strictly ascending order, and no two labels have one name. Proved: the context
holds the text of each claim that is present under the name of its label, and nothing else. -/

namespace ClaimGate

/-! ### Entries with distinct keys -/

theorem Dict.lookup_eq_some_iff {κ α : Type} [DecidableEq κ] {l : List (κ × α)}
    (h : l.Pairwise fun a b => a.1 ≠ b.1) {k : κ} {a : α} : l.lookup k = some a ↔ (k, a) ∈ l := by
  induction l with
  | nil => simp
  | cons e r ih =>
    obtain ⟨he, hr⟩ := List.pairwise_cons.1 h
    rw [lookup_cons_eq, List.mem_cons]
    split
    · rename_i hk
      constructor
      · rintro ⟨⟩
        exact .inl (by rw [hk])
      · rintro (rfl | hm)
        · rfl
        · exact absurd hk.symm (he _ hm)
    · rename_i hk
      rw [ih hr]
      exact ⟨.inr, fun hm => hm.resolve_left fun he => hk (by rw [← he])⟩

/-- Of entries with distinct keys each is answered. -/
theorem Dict.get?_ofList_eq_some {α : Type} {l : List (String × α)}
    (h : l.Pairwise fun a b => a.1 ≠ b.1) {k : String} {a : α} :
    (ofList l).get? k = some a ↔ (k, a) ∈ l := by
  rw [get?_ofList, lookup_eq_some_iff, List.mem_reverse]
  exact List.pairwise_reverse.2 (h.imp Ne.symm)

theorem Dict.distinct {κ α : Type} [LT κ] [LE κ] [Std.LawfulOrderLT κ]
    (d : Dict κ α) : d.entries.Pairwise fun a b => a.1 ≠ b.1 :=
  d.ascending.imp Std.ne_of_lt

theorem Dict.mem_keys {α : Type} {d : Dict String α} {k : String} :
    k ∈ d.keys ↔ ∃ a, d.get? k = some a := by
  simp [keys, get?, lookup_eq_some_iff d.distinct]

/-- The entries of a dictionary in any order give the dictionary. -/
theorem Dict.ofList_of_perm {α : Type} {d : Dict String α} {es : List (String × α)}
    (h : es.Perm d.entries) : ofList es = d := by
  have shuffled : es.Pairwise fun a b => a.1 ≠ b.1 := (h.pairwise_iff Ne.symm).2 d.distinct
  refine ext_get? fun k => Option.ext fun a => ?_
  rw [get?_ofList_eq_some shuffled, h.mem_iff, get?, lookup_eq_some_iff d.distinct]

/-! ### Labels -/

theorem Label.name_inj {l m : Label} : l.name = m.name ↔ l = m := by
  cases l <;> cases m <;> decide

namespace ClaimSet

theorem labels_ascending (c : ClaimSet) : c.labels.Pairwise (· < ·) := by
  rcases c with ⟨u, _ | o, _ | d, _ | t⟩ <;> simp [labels] <;> decide

theorem mem_labels {c : ClaimSet} {l : Label} : l ∈ c.labels ↔ ∃ j, c.claim? l = some j := by
  rcases c with ⟨u, _ | o, _ | d, _ | t⟩ <;> cases l <;> simp [labels, claim?]

/-! ### Contexts -/

/-- The context holds the text of each claim that is present, and nothing else. -/
theorem get?_context_eq_some {c : ClaimSet} {k text : String} :
    c.context.get? k = some text ↔ ∃ l j, k = Label.name l ∧ c.claim? l = some j ∧ text = j.text := by
  have distinct : (c.labels.filterMap fun l => (c.claim? l).map fun j => (l.name, j.text)).Pairwise
      fun a b => a.1 ≠ b.1 := by
    refine List.pairwise_filterMap.2 (c.labels_ascending.imp fun {l m} hlm => ?_)
    simp only [Option.map_eq_some_iff]
    rintro _ ⟨_, _, rfl⟩ _ ⟨_, _, rfl⟩ h
    exact absurd hlm (Label.name_inj.1 h ▸ Nat.lt_irrefl _)
  rw [context, Dict.get?_ofList_eq_some distinct, List.mem_filterMap]
  constructor
  · rintro ⟨l, _, h⟩
    obtain ⟨j, hj, he⟩ := Option.map_eq_some_iff.1 h
    obtain ⟨rfl, rfl⟩ := Prod.mk.inj he
    exact ⟨l, j, rfl, hj, rfl⟩
  · rintro ⟨l, j, rfl, hj, rfl⟩
    exact ⟨l, mem_labels.2 ⟨j, hj⟩, by rw [hj]; rfl⟩

end ClaimSet

end ClaimGate
