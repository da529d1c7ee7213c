import ClaimGate.KeySet.Fetch
import ClaimGate.Proofs.Acceptance
import ClaimGate.Proofs.KeyDocument

/-! Which keys can verify a token. A key counts for the algorithm it is registered for, and the
header of a token has no say in that. Key sets are gathered from documents by merging, as a load
over a network does. Proved: in a gathered set every key is registered for that algorithm and listed
by one of the documents, so a token is accepted under no other, and a token whose algorithm is
not that of its key is refused for it, whatever else it holds. -/

namespace ClaimGate

/-! ### Documents -/

/-- An entry of the document publishes the key under the id. -/
def Json.Lists (document : Json) (id : String) (key : SigningKey) : Prop :=
  ∃ entries entry, document.member? "keys" = some (.arr entries) ∧ entry ∈ entries ∧
    entry.Publishes id key

namespace KeySet

/-- The key set is gathered from the documents: each is read by itself, and the sets are merged
in any way. -/
inductive Gathered : List Json → KeySet → Prop
  | empty : Gathered [] .empty
  | document {document : Json} {s : KeySet} (read : ofDocument document = .ok s) :
      Gathered [document] s
  | merged {documents documents' : List Json} {s t : KeySet} (gathered : Gathered documents s)
      (gathered' : Gathered documents' t) : Gathered (documents ++ documents') (s.extend t)

theorem lists_of_ofDocument {document : Json} {s : KeySet} (h : ofDocument document = .ok s)
    {id : String} {key : SigningKey} (registered : s.get? id = some key) :
    document.Lists id key := by
  obtain ⟨entries, sound, collects⟩ := ofDocument_eq_ok.1 h
  obtain ⟨entry, last, publishes⟩ := (collects.get id key).1 registered
  exact ⟨entries, entry, sound.listed, last.mem, publishes⟩

/-! ### Merging -/

/-- The keys of a set are distinct, so their order does not count when it is merged. -/
theorem get?_extend {s t : KeySet} {id : String} :
    (s.extend t).get? id = (t.get? id).or (s.get? id) := by
  -- Merging goes through the entries from the last; with each id there once either end will do.
  have order : t.keys.entries.reverse.lookup id = t.keys.entries.lookup id := by
    refine Option.ext fun key => ?_
    rw [Dict.lookup_eq_some_iff t.keys.distinct, ← List.mem_reverse]
    exact Dict.lookup_eq_some_iff (List.pairwise_reverse.2 (t.keys.distinct.imp Ne.symm))
  exact (Dict.get?_insertAll s.keys t.keys.entries id).trans (by rw [order]; rfl)

/-- Each key of a gathered set is listed by one of the documents. -/
theorem Gathered.lists {documents : List Json} {s : KeySet} (h : Gathered documents s) {id : String}
    {key : SigningKey} (registered : s.get? id = some key) :
    ∃ document ∈ documents, document.Lists id key := by
  induction h with
  | empty => exact nomatch registered
  | document read => exact ⟨_, List.mem_cons_self, lists_of_ofDocument read registered⟩
  | merged _ _ ih ih' =>
    rw [get?_extend] at registered
    rcases Option.or_eq_some_iff.1 registered with later | ⟨_, earlier⟩
    · obtain ⟨document, mem, lists⟩ := ih' later
      exact ⟨document, List.mem_append_right _ mem, lists⟩
    · obtain ⟨document, mem, lists⟩ := ih earlier
      exact ⟨document, List.mem_append_left _ mem, lists⟩

theorem Gathered.algorithm {documents : List Json} {s : KeySet} (h : Gathered documents s)
    {id : String} {key : SigningKey} (registered : s.get? id = some key) : key.algorithm = .rs256 := by
  obtain ⟨_, _, _, _, _, _, publishes⟩ := h.lists registered
  exact publishes.registered

/-! ### Loading -/

/-- The address answers with the document, and not with a failure. -/
def Serves (network : Network) (address : String) (document : Json) : Prop :=
  ∃ reply, network address = some reply ∧ (reply.status < 400 ∨ 600 ≤ reply.status) ∧
    Json.document? reply.body = some document

theorem fetchDocument?_eq_some {network : Network} {address : String} {document : Json} :
    fetchDocument? network address = some document ↔ Serves network address document := by
  simp only [fetchDocument?, Option.bind_eq_bind, Option.bind_eq_some_iff, Serves]
  refine exists_congr fun reply => and_congr_right fun _ => ?_
  have failure : isFailure reply.status = true ↔ ¬ (reply.status < 400 ∨ 600 ≤ reply.status) := by
    simp only [isFailure, Bool.and_eq_true, decide_eq_true_eq]
    omega
  by_cases failed : isFailure reply.status = true
  · simp [failed, failure.1 failed]
  · simp [failed, not_not.1 (mt failure.2 failed)]

/-- The address serves a key document that reads as the keys. -/
def ServedAt (keys : KeySet) (network : Network) (address : String) : Prop :=
  ∃ document, Serves network address document ∧ ofDocument document = .ok keys

/-- Why an address serves no keys. -/
inductive Missing (network : Network) (address : String) : KeySetFault → Prop
  | unread (nothing : ∀ document, ¬ Serves network address document) :
      Missing network address (.fetch address)
  | malformed {document : Json} {f : DocumentFault} (served : Serves network address document)
      (refused : ofDocument document = .error f) : Missing network address (.document f)

section Addresses

variable {network : Network} {address : String} {s keys : KeySet} {f : KeySetFault}
  {rest : List String}

theorem fetch_of_servedAt (h : keys.ServedAt network address) :
    fetch network address = .ok keys := by
  obtain ⟨document, served, read⟩ := h
  unfold fetch
  rw [fetchDocument?_eq_some.2 served]
  exact congrArg (Except.mapError KeySetFault.document) read

theorem fetch_of_missing (h : Missing network address f) : fetch network address = .error f := by
  cases h with
  | unread nothing =>
    have unread : fetchDocument? network address = none :=
      Option.eq_none_iff_forall_ne_some.2 fun document read =>
        nothing document (fetchDocument?_eq_some.1 read)
    simp [fetch, unread]
  | malformed served refused =>
    unfold fetch
    rw [fetchDocument?_eq_some.2 served]
    exact congrArg (Except.mapError KeySetFault.document) refused

/-- An address serves keys, or they are missing there. -/
theorem servedAt_or_missing (network : Network) (address : String) :
    (∃ keys : KeySet, keys.ServedAt network address) ∨ ∃ f, Missing network address f := by
  by_cases nothing : ∀ document, ¬ Serves network address document
  · exact .inr ⟨_, .unread nothing⟩
  obtain ⟨document, served⟩ := not_forall_not.1 nothing
  cases read : ofDocument document with
  | ok keys => exact .inl ⟨keys, document, served, read⟩
  | error f => exact .inr ⟨_, .malformed served read⟩

theorem fetchOnto_of_servedAt (h : keys.ServedAt network address) :
    (fetchOnto network s (address :: rest)).1 = (fetchOnto network (s.extend keys) rest).1 := by
  simp [fetchOnto, fetch_of_servedAt h]

theorem fetchOnto_of_missing (h : Missing network address f) :
    (fetchOnto network s (address :: rest)).1 = .error f := by
  simp [fetchOnto, fetch_of_missing h]

end Addresses

/-- The addresses give the documents, each its own. -/
def Gives (network : Network) : List String → List Json → Prop := List.Forall₂ (Serves network)

/-- A load onto a gathered set gathers the documents of the addresses as well. -/
theorem gathered_of_fetchOnto {network : Network} {addresses : List String}
    {documents : List Json} {s t : KeySet} (gathered : Gathered documents s)
    (h : (fetchOnto network s addresses).1 = .ok t) :
    ∃ fetched, Gives network addresses fetched ∧ Gathered (documents ++ fetched) t := by
  induction addresses generalizing s documents with
  | nil =>
    obtain rfl := Except.ok.inj h
    exact ⟨[], .nil, by simpa using gathered⟩
  | cons address rest ih =>
    rcases servedAt_or_missing network address with ⟨u, served⟩ | ⟨f, missing⟩
    · rw [fetchOnto_of_servedAt served] at h
      obtain ⟨document, here, read⟩ := served
      obtain ⟨fetched, there, all⟩ := ih (gathered.merged (.document read)) h
      exact ⟨document :: fetched, .cons here there, by simpa using all⟩
    · rw [fetchOnto_of_missing missing] at h
      exact nomatch h

end KeySet

/-! ### Tokens -/

namespace Validator

/-- A token whose algorithm is not that of its key is refused for it. Under keys that were
gathered from documents the algorithm of every accepted token is RSA with SHA-256, and one of the
documents lists its key; what is loaded over a network is gathered so. -/
theorem validate_algorithm (v : Validator) (token : String) (now : Int) :
    (∀ s h id key, Opens token s h → h.keyId = some id → v.keys.get? id = some key →
      h.algorithm ≠ key.algorithm → v.validate token now =
        .error (.invalidSignature ("algorithm does not match key '" ++ id ++ "'"))) ∧
    (∀ documents, v.keys.Gathered documents →
      (∀ id key, v.keys.get? id = some key → key.algorithm = .rs256) ∧
      ∀ t, v.validate token now = .ok t →
        ∃ s h id key document, Opens token s h ∧ h.algorithm = .rs256 ∧ h.keyId = some id ∧
          v.keys.get? id = some key ∧ document ∈ documents ∧ document.Lists id key) ∧
    ∀ network addresses keys, (KeySet.fetchAll network addresses).1 = .ok keys →
      ∃ documents, KeySet.Gives network addresses documents ∧ keys.Gathered documents := by
  refine ⟨?_, ?_, ?_⟩
  · intro s h id key opens named known differs
    exact validate_eq_error.2 (.inl ⟨_, .otherAlgorithm opens named known differs, rfl⟩)
  · intro documents gathered
    refine ⟨fun id key => gathered.algorithm, fun t accepted => ?_⟩
    obtain ⟨p, ⟨s, h, key, opens, ⟨id, named, known, same⟩, _⟩, _⟩ := validate_eq_ok.1 accepted
    obtain ⟨document, mem, lists⟩ := gathered.lists known
    exact ⟨s, h, id, key, document, opens, same.trans (gathered.algorithm known), named, known, mem,
      lists⟩
  · intro network addresses keys loaded
    exact KeySet.gathered_of_fetchOnto .empty loaded

end Validator

end ClaimGate
