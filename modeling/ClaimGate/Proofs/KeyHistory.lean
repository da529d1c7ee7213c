import ClaimGate.Proofs.SigningKeys

/-! How a key set comes about by steps. A step supplies keys under ids: the one that it inserts, or
those of its document, and none if the document cannot be read. Proved: a new set holds under each
id what the last step that supplied it did, and a step that fails might as well not have been. A
load is the steps of its documents, or fails for the first that cannot be read; how the documents
are grouped on the way does not count. -/

namespace ClaimGate

namespace KeySet

variable {s t u : KeySet} {step : Step} {steps : List Step} {id : String} {key : SigningKey}
  {document : Json} {documents : List Json} {f : DocumentFault}

/-! ### Merging in groups -/

theorem extend_empty : s.extend .empty = s := rfl

theorem empty_extend : KeySet.empty.extend s = s :=
  ext_get? fun id => by rw [get?_extend, get?_empty, Option.or_none]

theorem extend_assoc : (s.extend t).extend u = s.extend (t.extend u) :=
  ext_get? fun id => by simp only [get?_extend, Option.or_assoc]

theorem insert_eq_extend : s.insert id key = s.extend (KeySet.empty.insert id key) := rfl

/-! ### Steps -/

/-- The step supplies the key under the id: it inserts it, or it adds a document that can be read
and whose last entry with the id publishes it. -/
inductive Step.Supplies : Step → String → SigningKey → Prop
  | insert {id : String} {key : SigningKey} : Supplies (.insert id key) id key
  | extend {document : Json} {entries : List Json} {id : String} {key : SigningKey}
      (sound : document.Sound entries) (provide : Json.Provide entries id key) :
      Supplies (.extend document) id key

theorem next_of_ok (read : ofDocument document = .ok t) :
    s.next (.extend document) = s.extend t := by
  rw [next, apply, read]
  rfl

theorem apply_of_error (refused : ofDocument document = .error f) :
    s.apply (.extend document) = .error f := by
  rw [apply, refused]
  rfl

theorem next_of_error (refused : ofDocument document = .error f) :
    s.next (.extend document) = s := by
  rw [next, apply_of_error refused]

/-- A step adds what it would put into a new set. -/
theorem next_eq_extend : s.next step = s.extend (KeySet.empty.next step) := by
  cases step with
  | insert id key => exact insert_eq_extend
  | extend document =>
    cases read : ofDocument document with
    | ok t => rw [next_of_ok read, next_of_ok read, empty_extend]
    | error f => rw [next_of_error read, next_of_error read, extend_empty]

/-- What a step supplies is what it puts into a new set. -/
theorem get?_empty_next : (KeySet.empty.next step).get? id = some key ↔ step.Supplies id key := by
  cases step with
  | insert id' key' =>
    rw [next, apply, get?_insert, get?_empty]
    constructor
    · intro h
      obtain ⟨rfl, same⟩ := Option.ite_none_right_eq_some.1 h
      obtain rfl := Option.some.inj same
      exact .insert
    · rintro ⟨⟩
      exact if_pos rfl
  | extend document =>
    cases read : ofDocument document with
    | ok t =>
      obtain ⟨entries, sound, collects⟩ := ofDocument_eq_ok.1 read
      rw [next_of_ok read, empty_extend, collects.get]
      constructor
      · exact .extend sound
      · rintro (_ | ⟨sound', provide⟩)
        obtain rfl := Json.arr.inj (Option.some.inj (sound'.listed.symm.trans sound.listed))
        exact provide
    | error f =>
      rw [next_of_error read]
      refine ⟨fun h => (nomatch h), ?_⟩
      rintro (_ | ⟨sound, _⟩)
      exact absurd (ofDocument_eq_error.1 read) (not_spoiled_of_sound sound)

/-- A step replaces the keys that it supplies and keeps the others. -/
theorem get?_next : (s.next step).get? id = some key ↔
    step.Supplies id key ∨ (¬ ∃ key, step.Supplies id key) ∧ s.get? id = some key := by
  simp only [next_eq_extend (s := s), get?_extend, Option.or_eq_some_iff, get?_empty_next,
    Option.eq_none_iff_forall_ne_some, ne_eq, not_exists]

/-! ### Histories -/

/-- The set after the steps. -/
def run (s : KeySet) (steps : List Step) : KeySet := steps.foldl next s

theorem run_append {steps' : List Step} : run s (steps ++ steps') = run (run s steps) steps' :=
  List.foldl_append

theorem run_concat : run s (steps ++ [step]) = (run s steps).next step := run_append

/-- The steps add what they would put into a new set. -/
theorem run_eq_extend : run s steps = s.extend (run .empty steps) := by
  induction steps using List.reverseRecOn with
  | nil => rfl
  | append_singleton steps step ih =>
    rw [run_concat, run_concat, next_eq_extend, ih, extend_assoc, ← next_eq_extend]

/-- A new set holds what the last step that supplied it did. -/
theorem get?_run : (run .empty steps).get? id = some key ↔
    ∃ step, LastOf (fun step => ∃ key, step.Supplies id key) steps step ∧
      step.Supplies id key := by
  induction steps using List.reverseRecOn with
  | nil => simp [run, LastOf, FirstOf]
  | append_singleton steps step ih =>
    rw [run_concat, get?_next, ih]
    simp only [lastOf_concat]
    constructor
    · rintro (supplies | ⟨silent, earlier, last, supplies⟩)
      · exact ⟨step, .inl ⟨⟨key, supplies⟩, rfl⟩, supplies⟩
      · exact ⟨earlier, .inr ⟨silent, last⟩, supplies⟩
    · rintro ⟨_, ⟨_, rfl⟩ | ⟨silent, last⟩, supplies⟩
      · exact .inl supplies
      · exact .inr ⟨silent, _, last, supplies⟩

/-- An id is there exactly if a step supplied it. -/
theorem exists_get?_run : (∃ key, (run .empty steps).get? id = some key) ↔
    ∃ step ∈ steps, ∃ key, step.Supplies id key := by
  simp only [get?_run]
  exact exists_lastOf_and fun _ _ supplied => supplied

theorem isEmpty_iff : s.isEmpty = true ↔ ∀ id, ¬ ∃ key, s.get? id = some key := by
  simp only [← mem_ids, ← List.eq_nil_iff_forall_not_mem]
  rw [isEmpty, Dict.isEmpty, List.isEmpty_iff, ids, Dict.keys, List.map_eq_nil_iff]

/-- The set is what the steps leave of a new one. -/
structure Records (s : KeySet) (steps : List Step) : Prop where
  /-- Under an id is what the last step that supplied it did. -/
  get : ∀ id key, s.get? id = some key ↔
    ∃ step, LastOf (fun step => ∃ key, step.Supplies id key) steps step ∧ step.Supplies id key
  contains : ∀ id, s.contains id = true ↔ ∃ key, s.get? id = some key
  size : Numbers s.size fun id => ∃ step ∈ steps, ∃ key, step.Supplies id key
  isEmpty : s.isEmpty = true ↔ ∀ step ∈ steps, ∀ id key, ¬ step.Supplies id key

theorem run_records (steps : List Step) : (run .empty steps).Records steps where
  get _ _ := get?_run
  contains _ := contains_iff
  size := by
    obtain ⟨ids, nodup, mem, size⟩ := (run .empty steps).size_numbers
    exact ⟨ids, nodup, fun id => (mem id).trans exists_get?_run, size⟩
  isEmpty := by
    simp only [isEmpty_iff, exists_get?_run, not_exists, not_and]
    exact ⟨fun h step mem id => h id step mem, fun h id step mem => h step mem id⟩

/-- A step that fails might as well not have been. -/
theorem run_of_error {before after : List Step} (refused : ofDocument document = .error f) :
    run s (before ++ .extend document :: after) = run s (before ++ after) := by
  rw [run_append, run_append]
  exact congrArg (run · after) (next_of_error refused)

/-! ### Loads -/

/-- In whatever groups documents are gathered, the set is that of their steps. -/
theorem Gathered.eq_run (h : Gathered documents s) : s = run .empty (documents.map .extend) := by
  induction h with
  | empty => rfl
  | document read => exact (next_of_ok read).trans empty_extend |>.symm
  | merged _ _ ih ih' => rw [List.map_append, run_append, run_eq_extend, ← ih, ← ih']

section Network

variable {network : Network} {addresses : List String} {result : Except KeySetFault KeySet}

/-- A load of documents that can all be read is the steps of the documents. -/
theorem fetchOnto_of_reads (given : Gives network addresses documents)
    (reads : ∀ document ∈ documents, ∃ t, ofDocument document = .ok t) :
    (fetchOnto network s addresses).1 = .ok (run s (documents.map .extend)) := by
  induction given generalizing s with
  | nil => rfl
  | cons here _ ih =>
    obtain ⟨⟨t, read⟩, reads⟩ := List.forall_mem_cons.1 reads
    rw [fetchOnto_of_servedAt ⟨_, here, read⟩, ih reads, ← next_of_ok read]
    rfl

/-- A load fails for the first document that cannot be read. -/
theorem fetchOnto_of_first (given : Gives network addresses documents)
    (first : FirstOf (fun document => ∃ f, ofDocument document = .error f) documents document)
    (refused : ofDocument document = .error f) :
    (fetchOnto network s addresses).1 = .error (.document f) := by
  induction given generalizing s with
  | nil => exact nomatch first.mem
  | @cons _ head _ _ here _ ih =>
    rcases firstOf_cons.1 first with ⟨_, rfl⟩ | ⟨sound, first⟩
    · exact fetchOnto_of_missing (.malformed here refused)
    · cases read : ofDocument head with
      | error f' => exact absurd ⟨f', read⟩ sound
      | ok t => rw [fetchOnto_of_servedAt ⟨head, here, read⟩, ih first]

/-- How documents load: as their steps on a new set, or not at all, for the first of them that
cannot be read. -/
inductive Loads (documents : List Json) : Except KeySetFault KeySet → Prop
  | all (reads : ∀ document ∈ documents, ∃ t, ofDocument document = .ok t) :
      Loads documents (.ok (run .empty (documents.map .extend)))
  | refused {document : Json} {f : DocumentFault}
      (first : FirstOf (fun document => ∃ f, ofDocument document = .error f) documents document)
      (refused : ofDocument document = .error f) : Loads documents (.error (.document f))

theorem loads_of_gives (given : Gives network addresses documents) :
    Loads documents (fetchAll network addresses).1 := by
  by_cases unread : ∃ document ∈ documents, ∃ f, ofDocument document = .error f
  · obtain ⟨_, mem, fails⟩ := unread
    obtain ⟨document, first⟩ : ∃ document,
        FirstOf (fun document => ∃ f, ofDocument document = .error f) documents document :=
      FirstOf.exists_of_mem mem fails
    obtain ⟨f, refused⟩ := first.holds
    rw [fetchAll, fetchOnto_of_first given first refused]
    exact .refused first refused
  · have reads : ∀ document ∈ documents, ∃ t, ofDocument document = .ok t := by
      intro document mem
      cases read : ofDocument document with
      | ok t => exact ⟨t, rfl⟩
      | error f => exact absurd ⟨document, mem, f, read⟩ unread
    rw [fetchAll, fetchOnto_of_reads given reads]
    exact .all reads

end Network

/-- After any steps a new set holds what the last suppliers of its ids supplied; a step that fails
tells so and leaves no trace. A load over a network is the steps of the documents there, or the
fault of the first that cannot be read, and every other way to group the documents gives the same
set. -/
theorem run_lastSupplied :
    (∀ steps, (run .empty steps).Records steps) ∧
    (∀ s before after document f, ofDocument document = .error f →
      (run s before).apply (.extend document) = .error f ∧
        run s (before ++ .extend document :: after) = run s (before ++ after)) ∧
    (∀ network addresses documents, Gives network addresses documents →
      Loads documents (fetchAll network addresses).1) ∧
    ∀ documents s, Gathered documents s → s = run .empty (documents.map .extend) := by
  refine ⟨run_records, ?_, fun _ _ _ => loads_of_gives, fun _ _ => Gathered.eq_run⟩
  intro s before after document f refused
  exact ⟨apply_of_error refused, run_of_error refused⟩

end KeySet

end ClaimGate
