/-! Dictionaries: finite maps held as entries with strictly ascending keys, so
that two dictionaries which answer every key alike are equal. Inserting replaces
the value of a key, and of several entries given for one key the last counts. -/

namespace ClaimGate

structure Dict (κ α : Type) [LT κ] where
  entries : List (κ × α)
  ascending : entries.Pairwise (fun a b => a.1 < b.1)
  deriving DecidableEq

namespace Dict

variable {κ α β : Type} [LT κ]

theorem ext_entries {d e : Dict κ α} (h : d.entries = e.entries) : d = e := by
  cases d; cases e; simpa using h

/-! ### Reading -/

def empty : Dict κ α := ⟨[], .nil⟩

instance : EmptyCollection (Dict κ α) := ⟨empty⟩

instance : Inhabited (Dict κ α) := ⟨empty⟩

def keys (d : Dict κ α) : List κ := d.entries.map (·.1)

def values (d : Dict κ α) : List α := d.entries.map (·.2)

def size (d : Dict κ α) : Nat := d.entries.length

def isEmpty (d : Dict κ α) : Bool := d.entries.isEmpty

def get? [DecidableEq κ] (d : Dict κ α) (k : κ) : Option α := d.entries.lookup k

def contains [DecidableEq κ] (d : Dict κ α) (k : κ) : Bool := (d.get? k).isSome

def map (f : α → β) (d : Dict κ α) : Dict κ β :=
  ⟨d.entries.map (fun e => (e.1, f e.2)), by simpa [List.pairwise_map] using d.ascending⟩

/-! ### Writing -/

/-- The entries with one more, at its place among ascending keys. -/
def insertEntry [DecidableLT κ] (k : κ) (a : α) : List (κ × α) → List (κ × α)
  | [] => [(k, a)]
  | (k', a') :: r =>
    if k < k' then (k, a) :: (k', a') :: r
    else if k' < k then (k', a') :: insertEntry k a r
    else (k, a) :: r

theorem key_of_mem_insertEntry [DecidableLT κ] {k : κ} {a : α} {l : List (κ × α)} {e : κ × α}
    (h : e ∈ insertEntry k a l) : e.1 = k ∨ e ∈ l := by
  induction l with
  | nil => simp_all [insertEntry]
  | cons e' r ih => grind [insertEntry]

section Order

variable [LE κ] [Std.IsLinearOrder κ] [Std.LawfulOrderLT κ] [DecidableLT κ]

theorem insertEntry_ascending {k : κ} {a : α} {l : List (κ × α)}
    (h : l.Pairwise (fun a b => a.1 < b.1)) :
    (insertEntry k a l).Pairwise (fun a b => a.1 < b.1) := by
  induction l with
  | nil => simp [insertEntry]
  | cons e r ih =>
    obtain ⟨he, hr⟩ := List.pairwise_cons.1 h
    unfold insertEntry
    split
    · rename_i hk
      refine List.pairwise_cons.2 ⟨fun x hx => ?_, h⟩
      rcases List.mem_cons.1 hx with rfl | hx
      · exact hk
      · exact Std.lt_trans hk (he x hx)
    split
    · rename_i hk
      refine List.pairwise_cons.2 ⟨fun x hx => ?_, ih hr⟩
      rcases key_of_mem_insertEntry hx with hx | hx
      · exact hx ▸ hk
      · exact he x hx
    · rename_i h₁ h₂
      have hk : k = e.1 := Std.le_antisymm (Std.not_lt.1 h₂) (Std.not_lt.1 h₁)
      exact List.pairwise_cons.2 ⟨fun x hx => hk ▸ he x hx, hr⟩

def insert (d : Dict κ α) (k : κ) (a : α) : Dict κ α :=
  ⟨insertEntry k a d.entries, insertEntry_ascending d.ascending⟩

/-- All entries of `l` inserted in order. -/
def insertAll (d : Dict κ α) (l : List (κ × α)) : Dict κ α :=
  l.foldl (fun d e => d.insert e.1 e.2) d

def ofList (l : List (κ × α)) : Dict κ α := empty.insertAll l

/-- The entries of both, those of `e` before those of `d`. -/
def merge (d e : Dict κ α) : Dict κ α := d.insertAll e.entries

/-! ### What a key answers -/

variable [DecidableEq κ]

omit [LE κ] [Std.IsLinearOrder κ] [Std.LawfulOrderLT κ] [DecidableLT κ] in
@[simp] theorem get?_empty (k : κ) : (empty : Dict κ α).get? k = none := rfl

omit [LT κ] [LE κ] [Std.IsLinearOrder κ] [Std.LawfulOrderLT κ] [DecidableLT κ] in
theorem lookup_cons_eq (k : κ) (e : κ × α) (l : List (κ × α)) :
    (e :: l).lookup k = if k = e.1 then some e.2 else l.lookup k := by
  rcases e with ⟨k', a⟩
  rw [List.lookup_cons]
  by_cases h : k = k'
  · simp [h]
  · simp [beq_eq_false_iff_ne.2 h, h]

omit [Std.IsLinearOrder κ] [DecidableLT κ] in
theorem lookup_eq_none_of_lt {k : κ} {l : List (κ × α)} (h : ∀ e ∈ l, k < e.1) :
    l.lookup k = none := by
  induction l with
  | nil => rfl
  | cons e r ih =>
    have hk : k ≠ e.1 := fun hk => Std.lt_irrefl (hk ▸ h e (by simp))
    rw [lookup_cons_eq, if_neg hk, ih (fun x hx => h x (by simp [hx]))]

theorem lookup_insertEntry {k k' : κ} {a : α} {l : List (κ × α)} :
    (insertEntry k a l).lookup k' = if k' = k then some a else l.lookup k' := by
  induction l with
  | nil => rw [insertEntry, lookup_cons_eq]
  | cons e r ih =>
    unfold insertEntry
    split
    · rw [lookup_cons_eq]
    split
    · rename_i h₁ h₂
      rw [lookup_cons_eq, lookup_cons_eq, ih]
      by_cases hk : k' = e.1
      · have : k' ≠ k := fun h => Std.lt_irrefl (h ▸ hk ▸ h₂)
        simp [hk, hk ▸ this]
      · simp [hk]
    · rename_i h₁ h₂
      have hk : k = e.1 := Std.le_antisymm (Std.not_lt.1 h₂) (Std.not_lt.1 h₁)
      rw [lookup_cons_eq, lookup_cons_eq, ← hk]
      by_cases h : k' = k <;> simp [h]

/-- The last value inserted under a key is the one it answers. -/
theorem get?_insert (d : Dict κ α) (k k' : κ) (a : α) :
    (d.insert k a).get? k' = if k' = k then some a else d.get? k' :=
  lookup_insertEntry

theorem get?_insertAll (d : Dict κ α) (l : List (κ × α)) (k : κ) :
    (d.insertAll l).get? k = (l.reverse.lookup k).or (d.get? k) := by
  induction l generalizing d with
  | nil => simp [insertAll]
  | cons e r ih =>
    have : (d.insertAll (e :: r)).get? k = ((d.insert e.1 e.2).insertAll r).get? k := rfl
    rw [this, ih, get?_insert, List.reverse_cons, List.lookup_append, lookup_cons_eq]
    by_cases hk : k = e.1 <;> cases r.reverse.lookup k <;> simp [hk]

/-- Of several entries of one key the last counts. -/
theorem get?_ofList (l : List (κ × α)) (k : κ) : (ofList l).get? k = l.reverse.lookup k := by
  simp [ofList, get?_insertAll]

omit [DecidableLT κ] in
theorem entries_eq_of_lookup {l m : List (κ × α)} (hl : l.Pairwise (fun a b => a.1 < b.1))
    (hm : m.Pairwise (fun a b => a.1 < b.1)) (h : ∀ k, l.lookup k = m.lookup k) : l = m := by
  induction l generalizing m with
  | nil =>
    cases m with
    | nil => rfl
    | cons e r => simpa [lookup_cons_eq] using h e.1
  | cons e r ih =>
    cases m with
    | nil => simpa [lookup_cons_eq] using h e.1
    | cons f t =>
      obtain ⟨he, hr⟩ := List.pairwise_cons.1 hl
      obtain ⟨hf, ht⟩ := List.pairwise_cons.1 hm
      have hk : e.1 = f.1 := by
        have h₁ := h e.1
        have h₂ := h f.1
        rcases Std.lt_trichotomy e.1 f.1 with hlt | heq | hgt
        · rw [lookup_cons_eq, if_pos rfl, lookup_eq_none_of_lt] at h₁
          · cases h₁
          · intro x hx
            rcases List.mem_cons.1 hx with rfl | hx
            · exact hlt
            · exact Std.lt_trans hlt (hf x hx)
        · exact heq
        · rw [lookup_cons_eq f.1 f, if_pos rfl, lookup_eq_none_of_lt] at h₂
          · cases h₂
          · intro x hx
            rcases List.mem_cons.1 hx with rfl | hx
            · exact hgt
            · exact Std.lt_trans hgt (he x hx)
      have hv : e.2 = f.2 := by simpa [lookup_cons_eq, hk] using h e.1
      have hrt : r = t := ih hr ht fun k => by
        have := h k
        rw [lookup_cons_eq, lookup_cons_eq, hk] at this
        by_cases hke : k = f.1
        · rw [hke, lookup_eq_none_of_lt hf, lookup_eq_none_of_lt (hk ▸ he)]
        · simpa [hke] using this
      rw [hrt, Prod.ext hk hv]

omit [DecidableLT κ] in
/-- Dictionaries that answer every key alike are equal. -/
theorem ext_get? {d e : Dict κ α} (h : ∀ k, d.get? k = e.get? k) : d = e :=
  ext_entries (entries_eq_of_lookup d.ascending e.ascending h)

end Order

end Dict

end ClaimGate
