import ClaimGate.Http.Reading
import ClaimGate.Proofs.Context
import ClaimGate.Proofs.ReadBack
import ClaimGate.Proofs.Record
import Mathlib.Data.List.Forall2

/-! Written forms of values. A shape determines how a value may be written up to one
freedom: the entries of a table have no order of their own, so any order is a form of it.
Any two forms of a value differ in that alone.
That a form is read as its value, in either manner, is by recursion on shapes; a record is
read field by field, since the members of the later fields have other names than the first.
A shape is faithful if its encoder writes a form of every value, and never `null`, so that a
value in an optional place is not taken for none. Faithfulness is closed under every way to
build a shape. Proved: a faithful shape makes the round trip through texts, and what it
reads of any value is encoded in a normal form. -/

namespace ClaimGate

namespace Json

/-! ### Written forms -/

mutual

/-- The value may be written so. What is not kept of a value is written as `null`, and what
is written in the second of two shapes must not be another value in the first. -/
def Shape.Writes : {α : Type} → Shape α → α → Json → Prop
  | _, .bool, b, j => j = .bool b
  | _, .int least greatest, n, j => j = .int n ∧ least ≤ n ∧ n ≤ greatest ∧ isInt n = true
  | _, .text, s, j => j = .str s
  | _, .name read print, a, j => j = .str (print a) ∧ read (print a) = some a
  | _, .option s, a, j => match a with
    | none => j = .null
    | some a => j ≠ .null ∧ s.Writes a j
  | _, .list s, l, j => ∃ js : List Json, j = .arr js ∧ List.Forall₂ s.Writes l js
  | _, .table, d, j => ∃ es : List (String × String), es.Perm d.entries ∧
      j = .obj (es.map fun e => (e.1, .str e.2))
  | _, .any, a, j => j = a ∧ Spelled a ∧ a.isPlain = true ∧ a.sorted = a
  | _, .unread admits, _, j => j = .null ∧ admits .null = true
  | _, .either _ s t, a, j => t.Writes a j ∧ ∀ b, s.read .exact j = .ok b → b = a
  | _, .record _ fs, a, j => ∃ ms : List (String × Json), j = .obj ms ∧ fs.names.Nodup ∧
      fs.Writes a ms
  | _, .via s into back, b, j => s.Writes (back b) j ∧ into (back b) = b
termination_by structural _ s => s

/-- The members are those of the fields in their order; where a `null` is omitted, the field
must have its value when it is absent. -/
def Fields.Writes : {α : Type} → Fields α → α → List (String × Json) → Prop
  | _, .nil, _, ms => ms = []
  | _, .cons name absent _ omitted s rest, a, ms =>
    (omitted = true ∧ absent = some a.1 ∧ s.Writes a.1 .null ∧ rest.Writes a.2 ms) ∨
      ∃ (j : Json) (ms' : List (String × Json)), ms = (name, j) :: ms' ∧
        (omitted = true → j ≠ .null) ∧ s.Writes a.1 j ∧ rest.Writes a.2 ms'
termination_by structural _ fs => fs

end

mutual

/-- A written form consists of what a text can spell. -/
theorem Shape.spelled_of_writes : {α : Type} → (s : Shape α) → (a : α) → (j : Json) →
    s.Writes a j → Spelled j
  | _, .bool, b, j, h => h ▸ .bool b
  | _, .int _ _, n, j, h => h.1 ▸ .int h.2.2.2
  | _, .text, s, j, h => h ▸ .str s
  | _, .name _ print, a, j, h => h.1 ▸ .str (print a)
  | _, .option s, none, j, h => by
    have h : j = .null := h
    exact h ▸ .null
  | _, .option s, some a, j, h => Shape.spelled_of_writes s a j h.2
  | _, .list s, l, j, h => by
    obtain ⟨js, rfl, items⟩ := h
    refine .arr ?_
    induction items with
    | nil => simp
    | cons first _ ih => exact List.forall_mem_cons.2 ⟨Shape.spelled_of_writes s _ _ first, ih⟩
  | _, .table, d, j, h => by
    obtain ⟨es, _, rfl⟩ := h
    refine .obj fun m hm => ?_
    obtain ⟨e, _, rfl⟩ := List.mem_map.1 hm
    exact .str e.2
  | _, .any, a, j, h => h.1 ▸ h.2.1
  | _, .unread _, _, j, h => h.1 ▸ .null
  | _, .either _ _ t, a, j, h => Shape.spelled_of_writes t a j h.1
  | _, .record _ fs, a, j, h => by
    obtain ⟨ms, rfl, _, members⟩ := h
    exact .obj (Fields.spelled_of_writes fs a ms members)
  | _, .via s _ back, b, j, h => Shape.spelled_of_writes s (back b) j h.1

theorem Fields.spelled_of_writes : {α : Type} → (fs : Fields α) → (a : α) →
    (ms : List (String × Json)) → fs.Writes a ms → ∀ m ∈ ms, Spelled m.2
  | _, .nil, _, ms, h => by
    have h : ms = [] := h
    simp [h]
  | _, .cons _ _ _ _ s rest, (a, b), ms, h => by
    rcases h with ⟨_, _, _, h⟩ | ⟨j, ms', rfl, _, first, h⟩
    · exact Fields.spelled_of_writes rest b ms h
    · exact List.forall_mem_cons.2
        ⟨Shape.spelled_of_writes s a j first, Fields.spelled_of_writes rest b ms' h⟩

end

mutual

/-- The two differ at most in the order in which tables list their entries. -/
def Shape.Rearranges : {α : Type} → Shape α → Json → Json → Prop
  | _, .bool, j, j' | _, .int _ _, j, j' | _, .text, j, j' | _, .name _ _, j, j'
  | _, .any, j, j' | _, .unread _, j, j' => j = j'
  | _, .option s, j, j' => j = j' ∨ s.Rearranges j j'
  | _, .list s, j, j' => ∃ l l' : List Json, j = .arr l ∧ j' = .arr l' ∧
      List.Forall₂ s.Rearranges l l'
  | _, .table, j, j' => ∃ es es' : List (String × Json), j = .obj es ∧ j' = .obj es' ∧ es.Perm es'
  | _, .either _ _ t, j, j' => t.Rearranges j j'
  | _, .record _ fs, j, j' => ∃ ms ms' : List (String × Json), j = .obj ms ∧ j' = .obj ms' ∧
      fs.Rearranges ms ms'
  | _, .via s _ _, j, j' => s.Rearranges j j'
termination_by structural _ s => s

/-- The members are of the same fields in the same order. -/
def Fields.Rearranges : {α : Type} → Fields α → List (String × Json) → List (String × Json) → Prop
  | _, .nil, ms, ms' => ms = ms'
  | _, .cons name _ _ _ s rest, ms, ms' =>
    rest.Rearranges ms ms' ∨
      ∃ (j j' : Json) (others others' : List (String × Json)), ms = (name, j) :: others ∧
        ms' = (name, j') :: others' ∧ s.Rearranges j j' ∧ rest.Rearranges others others'
termination_by structural _ fs => fs

end

/-- There is nothing to rearrange in `null`. -/
theorem Shape.eq_null_of_rearranges : {α : Type} → (s : Shape α) → {j : Json} →
    s.Rearranges .null j → j = .null
  | _, .bool, _, h | _, .int _ _, _, h | _, .text, _, h | _, .name _ _, _, h
  | _, .any, _, h | _, .unread _, _, h => h.symm
  | _, .option s, _, h => h.elim Eq.symm (eq_null_of_rearranges s)
  | _, .list _, _, h => by
    obtain ⟨_, _, list, _⟩ := h
    exact nomatch list
  | _, .table, _, h => by
    obtain ⟨_, _, object, _⟩ := h
    exact nomatch object
  | _, .either _ _ t, _, h => eq_null_of_rearranges t h
  | _, .record _ _, _, h => by
    obtain ⟨_, _, object, _⟩ := h
    exact nomatch object
  | _, .via s _ _, _, h => eq_null_of_rearranges s h

mutual

/-- Two forms of one value differ at most in the order of tables. -/
theorem Shape.rearranges_of_writes : {α : Type} → (s : Shape α) → (a : α) → (j j' : Json) →
    s.Writes a j → s.Writes a j' → s.Rearranges j j'
  | _, .bool, _, _, _, h, h' => h.trans h'.symm
  | _, .int _ _, _, _, _, h, h' => h.1.trans h'.1.symm
  | _, .text, _, _, _, h, h' => h.trans h'.symm
  | _, .name _ _, _, _, _, h, h' => h.1.trans h'.1.symm
  | _, .option _, none, _, _, h, h' => .inl (Eq.trans h h'.symm)
  | _, .option s, some a, j, j', h, h' => .inr (Shape.rearranges_of_writes s a j j' h.2 h'.2)
  | _, .list s, l, _, _, h, h' => by
    obtain ⟨js, rfl, items⟩ := h
    obtain ⟨js', rfl, items'⟩ := h'
    refine ⟨js, js', rfl, rfl, ?_⟩
    induction items generalizing js' with
    | nil =>
      cases items'
      exact .nil
    | cons first _ ih =>
      cases items' with
      | cons first' rest' =>
        exact .cons (Shape.rearranges_of_writes s _ _ _ first first') (ih _ rest')
  | _, .table, d, _, _, h, h' => by
    obtain ⟨es, perm, rfl⟩ := h
    obtain ⟨es', perm', rfl⟩ := h'
    exact ⟨_, _, rfl, rfl, (perm.trans perm'.symm).map _⟩
  | _, .any, _, _, _, h, h' => h.1.trans h'.1.symm
  | _, .unread _, _, _, _, h, h' => h.1.trans h'.1.symm
  | _, .either _ _ t, a, j, j', h, h' => Shape.rearranges_of_writes t a j j' h.1 h'.1
  | _, .record _ fs, a, _, _, h, h' => by
    obtain ⟨ms, rfl, _, members⟩ := h
    obtain ⟨ms', rfl, _, members'⟩ := h'
    exact ⟨ms, ms', rfl, rfl, Fields.rearranges_of_writes fs a ms ms' members members'⟩
  | _, .via s _ back, b, j, j', h, h' => Shape.rearranges_of_writes s (back b) j j' h.1 h'.1

/-- A field is omitted in both or in neither: its value is written as `null` or not. -/
theorem Fields.rearranges_of_writes : {α : Type} → (fs : Fields α) → (a : α) →
    (ms ms' : List (String × Json)) → fs.Writes a ms → fs.Writes a ms' → fs.Rearranges ms ms'
  | _, .nil, _, _, _, h, h' => Eq.trans h h'.symm
  | _, .cons _ _ _ _ s rest, (a, b), ms, ms', h, h' => by
    rcases h with ⟨omitted, _, null, h⟩ | ⟨j, others, rfl, shown, first, h⟩ <;>
      rcases h' with ⟨omitted', _, null', h'⟩ | ⟨j', others', rfl, shown', first', h'⟩
    · exact .inl (Fields.rearranges_of_writes rest b ms ms' h h')
    · have same := Shape.rearranges_of_writes s a _ _ null first'
      exact absurd (Shape.eq_null_of_rearranges s same) (shown' omitted)
    · have same := Shape.rearranges_of_writes s a _ _ null' first
      exact absurd (Shape.eq_null_of_rearranges s same) (shown omitted')
    · have same := Shape.rearranges_of_writes s a j j' first first'
      exact .inr ⟨j, j', others, others', rfl, rfl, same,
        Fields.rearranges_of_writes rest b others others' h h'⟩

end

/-! ### Reading -/

variable {manner : Manner} {others : Others}

theorem Fields.mem_names_of_writes : {α : Type} → (fs : Fields α) → {a : α} →
    {ms : List (String × Json)} → fs.Writes a ms → ∀ m ∈ ms, m.1 ∈ fs.names
  | _, .nil, _, ms, h => by
    have h : ms = [] := h
    simp [h]
  | _, .cons name _ _ _ s rest, (a, b), ms, h => by
    rcases h with ⟨_, _, _, h⟩ | ⟨j, ms', rfl, _, _, h⟩
    · exact fun m hm => List.mem_cons_of_mem _ (mem_names_of_writes rest h m hm)
    · refine List.forall_mem_cons.2 ⟨List.mem_cons_self, fun m hm => ?_⟩
      exact List.mem_cons_of_mem _ (mem_names_of_writes rest h m hm)

theorem Fields.ne_of_writes {α : Type} {fs : Fields α} {a : α} {ms : List (String × Json)}
    {name : String} (fresh : name ∉ fs.names) (h : fs.Writes a ms) : ∀ m ∈ ms, m.1 ≠ name :=
  fun m hm he => fresh (he ▸ mem_names_of_writes fs h m hm)

theorem Fields.fill_put {α : Type} {fs : Fields α} {m : String × Json}
    {ms : List (String × Json)} {slots next : fs.Slots}
    (h : fs.put manner others m.1 m.2 slots = .ok next) :
    fs.fill manner others (m :: ms) slots = fs.fill manner others ms next := by
  rw [fill, List.foldlM_cons, h]
  rfl

/-- Members of other names leave the place of a field as it is. -/
theorem Fields.fill_of_ne {α β : Type} {name : String} {absent short : Option α} {omitted : Bool}
    {s : Shape α} {rest : Fields β} {ms : List (String × Json)} (other : ∀ m ∈ ms, m.1 ≠ name)
    {slot : Option α} {slots slots' : rest.Slots}
    (h : rest.fill manner others ms slots = .ok slots') :
    (Fields.cons name absent short omitted s rest).fill manner others ms (slot, slots) =
      .ok (slot, slots') := by
  induction ms generalizing slots with
  | nil =>
    obtain rfl := Except.ok.inj h
    rfl
  | cons m ms ih =>
    obtain ⟨hm, hms⟩ := List.forall_mem_cons.1 other
    obtain ⟨next, first, left⟩ := fill_eq_ok h
    have step : (Fields.cons name absent short omitted s rest).put manner others m.1 m.2
        (slot, slots) = .ok (slot, next) := by
      simp only [put, if_neg hm, first]
      rfl
    exact (fill_put step).trans (ih hms left)

theorem mapM_decodeEntry (es : List (String × String)) :
    (es.map fun e => (e.1, Json.str e.2)).mapM decodeEntry = .ok es := by
  induction es with
  | nil => rfl
  | cons e es ih =>
    rw [List.map_cons, List.mapM_cons, ih]
    rfl

/-- The members fill the places of the fields with this record. -/
def Fields.Fills (manner : Manner) (others : Others) {α : Type} (fs : Fields α)
    (ms : List (String × Json)) (a : α) : Prop :=
  ∃ slots, fs.fill manner others ms fs.blank = .ok slots ∧ fs.finish slots = .ok a

mutual

/-- What is written is read, in either manner. -/
theorem Shape.read_of_writes : {α : Type} → (s : Shape α) → (a : α) → (j : Json) →
    s.Writes a j → ∀ manner, s.read manner j = .ok a
  | _, .bool, b, j, h, _ => h ▸ rfl
  | _, .int least greatest, n, j, h, _ => by
    obtain ⟨rfl, low, high, _⟩ := h
    exact if_pos ⟨low, high⟩
  | _, .text, s, j, h, _ => h ▸ rfl
  | _, .name read print, a, j, h, _ => by
    obtain ⟨rfl, known⟩ := h
    rw [Shape.read, decodeName, known]
  | _, .option s, none, j, h, _ => by
    have h : j = .null := h
    exact h ▸ rfl
  | _, .option s, some a, j, h, manner => by
    rw [Shape.read]
    · rw [Shape.read_of_writes s a j h.2 manner]
      rfl
    · exact h.1
  | _, .list s, l, j, h, manner => by
    obtain ⟨js, rfl, items⟩ := h
    rw [Shape.read]
    induction items with
    | nil => rfl
    | cons first _ ih =>
      rw [List.mapM_cons, ih, Shape.read_of_writes s _ _ first manner]
      rfl
  | _, .table, d, j, h, _ => by
    obtain ⟨es, perm, rfl⟩ := h
    rw [Shape.read, decodeTable, mapM_decodeEntry]
    exact congrArg Except.ok (Dict.ofList_of_perm perm)
  | _, .any, a, j, h, _ => by
    obtain ⟨rfl, _, plain, sorted⟩ := h
    rw [Shape.read, if_pos plain, sorted]
  | _, .unread admits, _, j, h, _ => by
    obtain ⟨rfl, admitted⟩ := h
    exact if_pos admitted
  | _, .either _ s t, a, j, h, _ => by
    have second := Shape.read_of_writes t a j h.1 .exact
    rw [Shape.read]
    cases first : s.read .exact j with
    | ok b => rw [h.2 b first]
    | error f => rw [second]
  | _, .record others fs, a, j, h, manner => by
    obtain ⟨ms, rfl, distinct, members⟩ := h
    obtain ⟨slots, filled, finished⟩ :=
      Fields.fills_of_writes fs a ms distinct members manner others
    simp only [Fields.fill] at filled
    rw [Shape.read, filled]
    exact finished
  | _, .via s into back, b, j, h, manner => by
    rw [Shape.read, Shape.read_of_writes s _ j h.1 manner]
    exact congrArg Except.ok h.2

theorem Fields.fills_of_writes : {α : Type} → (fs : Fields α) → (a : α) →
    (ms : List (String × Json)) → fs.names.Nodup → fs.Writes a ms →
    ∀ manner others, fs.Fills manner others ms a
  | _, .nil, _, ms, _, h, _, _ => by
    have h : ms = [] := h
    exact ⟨(), h ▸ rfl, rfl⟩
  | _, .cons name absent short omitted s rest, (a, b), ms, distinct, h, manner, others => by
    obtain ⟨fresh, distinct⟩ := List.nodup_cons.1 distinct
    rcases h with ⟨_, missing, _, h⟩ | ⟨j, ms', rfl, _, first, h⟩
    · obtain ⟨slots, filled, finished⟩ := Fields.fills_of_writes rest b ms distinct h manner others
      refine ⟨(none, slots), Fields.fill_of_ne (Fields.ne_of_writes fresh h) filled, ?_⟩
      simp only [Fields.finish, Option.none_or, missing, finished]
      rfl
    · obtain ⟨slots, filled, finished⟩ := Fields.fills_of_writes rest b ms' distinct h manner others
      have put : (Fields.cons name absent short omitted s rest).put manner others name j
          (none, rest.blank) = .ok (some a, rest.blank) := by
        simp only [Fields.put, if_pos, Shape.read_of_writes s a j first manner]
        rfl
      refine ⟨(some a, slots), ?_, ?_⟩
      · refine (Fields.fill_put put).trans ?_
        exact Fields.fill_of_ne (Fields.ne_of_writes fresh h) filled
      · simp only [Fields.finish, Option.some_or, finished]
        rfl

end

/-- The text of a written form decodes. -/
theorem Shape.decodeText_of_writes {α : Type} {s : Shape α} {a : α} {j : Json} (h : s.Writes a j) :
    Http.decodeText s j.text = .ok a := by
  rw [Http.decodeText, (spelled_of_writes s a j h).read_text, decode, Shape.read_of_writes s a j h]
  rfl

/-! ### Writing -/

/-- Every value is written in a form that is its own, and never as `null`. -/
class Shape.Faithful {α : Type} (s : Shape α) : Prop where
  writes : ∀ a, s.Writes a (s.encode a)
  present : ∀ a, s.encode a ≠ .null

/-- Every record of these fields is written in a form of its own. -/
class Fields.Faithful {α : Type} (fs : Fields α) : Prop where
  writes : ∀ a, fs.Writes a (fs.encode a)

section Writing

variable {α β : Type}

instance Shape.faithful_bool : Shape.bool.Faithful where
  writes _ := rfl
  present := nofun

instance Shape.faithful_text : Shape.text.Faithful where
  writes _ := rfl
  present := nofun

theorem Shape.faithful_name {read : String → Option α} {print : α → String}
    (known : ∀ a, read (print a) = some a) : (Shape.name read print).Faithful where
  writes a := ⟨rfl, known a⟩
  present := nofun

instance Shape.faithful_list {s : Shape α} [s.Faithful] : s.list.Faithful where
  writes l := by
    refine ⟨l.map s.encode, rfl, ?_⟩
    induction l with
    | nil => exact .nil
    | cons a l ih => exact .cons (Faithful.writes a) ih
  present := nofun

instance Shape.faithful_table : Shape.table.Faithful where
  writes d := ⟨d.entries, .rfl, rfl⟩
  present := nofun

/-- Values that stand for records, each determined by the one that stands for it. -/
theorem Shape.faithful_record {fs : Fields α} {others : Others} {into : α → β} {back : β → α}
    [fs.Faithful] (distinct : fs.names.Nodup) (inverse : ∀ b, into (back b) = b) :
    (Shape.via (.record others fs) into back).Faithful where
  writes b := ⟨⟨fs.encode (back b), rfl, distinct, Fields.Faithful.writes (back b)⟩, inverse b⟩
  present := nofun

instance Shape.faithful_int64 : Shape.int64.Faithful where
  writes n := by
    have low := n.le_toInt
    have high := n.toInt_lt
    have range : isInt n.toInt = true := by
      rw [isInt, Bool.and_eq_true, decide_eq_true_eq, decide_eq_true_eq, leastInt, greatestInt]
      omega
    refine ⟨⟨rfl, ?_, ?_, range⟩, Int64.ofInt_toInt n⟩
    · simp only [Text.int64Min]
      omega
    · simp only [Text.int64Max]
      omega
  present := nofun

theorem Shape.writes_option {s : Shape α} [s.Faithful] (a : Option α) :
    s.option.Writes a (s.option.encode a) := by
  cases a with
  | none => rfl
  | some a => exact ⟨Faithful.present a, Faithful.writes a⟩

variable {name : String} {absent short : Option α} {omitted : Bool} {s : Shape α} {rest : Fields β}

/-- A field whose value has a written form is written in front of the others. -/
theorem Fields.encode_cons {a : α} {b : β} (h : omitted = true → s.encode a ≠ .null) :
    (Fields.cons name absent short omitted s rest).encode (a, b) =
      (name, s.encode a) :: rest.encode b :=
  encode.eq_3 _ _ _ _ _ _ _ _ _ _ fun null skipped => h skipped null

/-- A field that is omitted leaves no trace. -/
theorem Fields.encode_omitted {a : α} {b : β} (h : s.encode a = .null) :
    (Fields.cons name absent short true s rest).encode (a, b) = rest.encode b :=
  encode.eq_2 _ _ _ _ _ _ _ _ _ h

/-- What is omitted must be what the field has when it is absent. -/
theorem Fields.faithful_cons [rest.Faithful] (writes : ∀ a, s.Writes a (s.encode a))
    (omits : ∀ a, omitted = true → s.encode a = .null → absent = some a) :
    (Fields.cons name absent short omitted s rest).Faithful where
  writes := fun (a, b) => by
    by_cases h : omitted = true ∧ s.encode a = .null
    · obtain ⟨rfl, null⟩ := h
      rw [encode_omitted null]
      exact .inl ⟨rfl, omits a rfl null, null ▸ writes a, Faithful.writes b⟩
    · have present : omitted = true → s.encode a ≠ .null := fun skipped null => h ⟨skipped, null⟩
      rw [encode_cons present]
      exact .inr ⟨_, _, rfl, present, writes a, Faithful.writes b⟩

instance Fields.faithful_nil : Fields.nil.Faithful where
  writes _ := rfl

variable [s.Faithful] [rest.Faithful]

instance Fields.faithful_required : (Fields.required name s rest).Faithful :=
  faithful_cons Shape.Faithful.writes fun _ => nofun

instance Fields.faithful_withDefault {a : α} : (Fields.withDefault name a s rest).Faithful :=
  faithful_cons Shape.Faithful.writes fun _ => nofun

instance Fields.faithful_optional : (Fields.optional name s rest).Faithful :=
  faithful_cons Shape.writes_option fun _ => nofun

instance Fields.faithful_nullable : (Fields.nullable name s rest).Faithful :=
  faithful_cons Shape.writes_option fun _ => nofun

instance Fields.faithful_omissible : (Fields.omissible name s rest).Faithful := by
  refine faithful_cons Shape.writes_option fun a _ null => ?_
  cases a with
  | none => rfl
  | some a => exact absurd null (Shape.Faithful.present a)

end Writing

/-! ### Fields without a value -/

/-- Where the member `name` is missing or `null` the value has nothing in the place of
`field`, and exactly such values are written with `shown` for that member. -/
structure Shape.MayLack {α β : Type} (s : Shape α) (name : String) (field : α → Option β)
    (shown : Option Json) : Prop where
  reads : ∀ {manner ms a}, s.read manner (.obj ms) = .ok a →
    ms.lookup name = none ∨ ms.lookup name = some .null → field a = none
  shows : ∀ a, (s.encode a).member? name = shown ↔ field a = none

/-- The place of an optional field among the fields of a record. -/
inductive Fields.Place (name : String) {β : Type} : (shown : Option Json) → {α : Type} →
    Fields α → (α → Option β) → Prop
  | null {γ : Type} {short : Option (Option β)} {s : Shape β} {rest : Fields γ} [s.Faithful] :
      Place name (some .null) (.cons name (some none) short false s.option rest) (·.1)
  | absent {γ : Type} {s : Shape β} {rest : Fields γ} [s.Faithful] [rest.Faithful] :
      Place name none (.omissible name s rest) (·.1)
  | later {α γ : Type} {k : String} {absent short : Option α} {omitted : Bool} {s : Shape α}
      {rest : Fields γ} {shown : Option Json} {field : γ → Option β}
      (h : Place name shown rest field) :
      Place name shown (.cons k absent short omitted s rest) fun a => field a.2

section Places

variable {α β γ : Type} {name : String} {shown : Option Json}

theorem Fields.Place.mem_names {fs : Fields α} {field : α → Option β}
    (h : Place name shown fs field) : name ∈ fs.names := by
  induction h with
  | null => exact List.mem_cons_self
  | absent => exact List.mem_cons_self
  | later _ ih => exact List.mem_cons_of_mem _ ih

theorem Fields.fst_eq_none_of_given {s : Shape β} {fs : Fields γ} {short : Option (Option β)}
    {omitted : Bool} {manner : Manner} {ms : List (String × Json)} {a : Option β × γ}
    (given : (Fields.cons name (some none) short omitted s.option fs).Given manner ms a)
    (nothing : ms.lookup name = none ∨ ms.lookup name = some .null) : a.1 = none := by
  have first := given.1
  rcases nothing with missing | null
  · rw [missing] at first
    exact (Option.some.inj first).symm
  · rw [null] at first
    exact (Except.ok.inj first).symm

/-- A member that is missing or `null` gives an optional field no value. -/
theorem Fields.Place.eq_none_of_given {fs : Fields α} {field : α → Option β}
    (h : Place name shown fs field) {manner : Manner} {ms : List (String × Json)} {a : α}
    (given : fs.Given manner ms a)
    (nothing : ms.lookup name = none ∨ ms.lookup name = some .null) : field a = none := by
  induction h with
  | null => exact Fields.fst_eq_none_of_given given nothing
  | absent => exact Fields.fst_eq_none_of_given given nothing
  | later _ ih => exact ih given.2

theorem Shape.encode_option_eq_null {s : Shape α} [s.Faithful] {a : Option α} :
    s.option.encode a = .null ↔ a = none := by
  cases a with
  | none => exact iff_of_true rfl rfl
  | some a => exact iff_of_false (Faithful.present a) nofun

theorem Fields.Place.lookup_encode {fs : Fields α} {field : α → Option β}
    (h : Place name shown fs field) (distinct : fs.names.Nodup) (a : α) :
    (fs.encode a).lookup name = shown ↔ field a = none := by
  induction h with
  | @null _ short s rest =>
    obtain ⟨a, b⟩ := a
    have members : (Fields.cons name (some none) short false s.option rest).encode (a, b) =
        (name, s.option.encode a) :: rest.encode b := encode_cons nofun
    rw [members, Dict.lookup_cons_eq, if_pos rfl, Option.some_inj]
    exact Shape.encode_option_eq_null
  | @absent _ s rest =>
    rcases a with ⟨_ | a, b⟩
    · have left : (rest.encode b).lookup name = none :=
        List.lookup_eq_none_iff.2 fun m hm => by
          simpa using (ne_of_writes (List.nodup_cons.1 distinct).1 (Faithful.writes b) m hm).symm
      rw [omissible, encode_omitted rfl]
      exact iff_of_true left rfl
    · have present : s.option.encode (some a) ≠ .null := Shape.Faithful.present (s := s) a
      rw [omissible, encode_cons fun _ => present, Dict.lookup_cons_eq, if_pos rfl]
      exact iff_of_false nofun nofun
  | @later _ _ k _ _ omitted s rest _ _ place ih =>
    obtain ⟨a, b⟩ := a
    obtain ⟨fresh, distinct⟩ := List.nodup_cons.1 distinct
    have other : name ≠ k := fun he => fresh (he ▸ place.mem_names)
    rw [← ih distinct b]
    by_cases null : omitted = true ∧ s.encode a = .null
    · obtain ⟨rfl, null⟩ := null
      rw [encode_omitted null]
    · rw [encode_cons fun skipped he => null ⟨skipped, he⟩, Dict.lookup_cons_eq, if_neg other]

theorem Shape.mayLack_record {fs : Fields α} {others : Others} {into : α → γ} {back : γ → α}
    {field : α → Option β} {field' : γ → Option β} (place : Fields.Place name shown fs field)
    (distinct : fs.names.Nodup) (there : ∀ a, field' (into a) = field a)
    (here : ∀ c, field (back c) = field' c) :
    (Shape.via (.record others fs) into back).MayLack name field' shown where
  reads read nothing := by
    obtain ⟨a, inner, rfl⟩ := read_via.1 read
    exact (there a).trans (place.eq_none_of_given (Fields.given_of_read distinct inner) nothing)
  shows c := by
    rw [← here c]
    exact place.lookup_encode distinct (back c)

end Places

/-! ### Round trips -/

theorem Shape.decodeText_encode {α : Type} (s : Shape α) [s.Faithful] (a : α) :
    Http.decodeText s (s.encode a).text = .ok a :=
  decodeText_of_writes (Faithful.writes a)

theorem Shape.spelled_encode {α : Type} (s : Shape α) [s.Faithful] (a : α) :
    Spelled (s.encode a) :=
  spelled_of_writes s a _ (Faithful.writes a)

/-- Encoding and decoding undo each other. -/
structure Shape.RoundTrips {α : Type} (s : Shape α) : Prop where
  /-- The encoder writes a form of the value. -/
  encode : ∀ a, s.Writes a (s.encode a)
  /-- Every form of the value is read back. -/
  read : ∀ a j, s.Writes a j → ∀ manner, s.read manner j = .ok a
  /-- The text of every form is decoded to the value. -/
  text : ∀ a j, s.Writes a j → Http.decodeText s j.text = .ok a
  /-- What is read of a value is encoded in a normal form: the encoder lists tables in ascending
  order. -/
  normal : ∀ manner j a, s.read manner j = .ok a →
    Http.decodeText s (s.encode a).text = .ok a ∧
      (fun b => (s.encode b).text) <$> Http.decodeText s (s.encode a).text = .ok (s.encode a).text
  /-- In whatever order tables are listed, what is read of a value is decoded from its text, and
  its next form is the same up to that order. -/
  rearranged : ∀ manner j a, s.read manner j = .ok a → ∀ form, s.Writes a form →
    Http.decodeText s form.text = .ok a ∧
      ∀ b form', Http.decodeText s form.text = .ok b → s.Writes b form' → s.Rearranges form form'

theorem Shape.roundTrips {α : Type} (s : Shape α) [s.Faithful] : s.RoundTrips where
  encode := Faithful.writes
  read := s.read_of_writes
  text _ _ := decodeText_of_writes
  normal _ _ a _ := ⟨s.decodeText_encode a, by rw [s.decodeText_encode a]; rfl⟩
  rearranged _ _ a _ form written := by
    have decoded := decodeText_of_writes written
    refine ⟨decoded, fun b form' same written' => ?_⟩
    obtain rfl := Except.ok.inj (decoded.symm.trans same)
    exact s.rearranges_of_writes a form form' written written'

end Json

end ClaimGate
