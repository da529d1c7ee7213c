import ClaimGate.KeySet.Document
import ClaimGate.Proofs.Result
import ClaimGate.Proofs.Selection

/-! What a key document holds. An entry that is meant for RSA signatures with SHA-256 publishes a
key or spoils the document, for the first thing that is wrong with it; any other entry is passed
over, whatever it is. Proved: a document is refused exactly for want of a list of entries or for
the first of them that spoils it. The keys of one that is read are those of the last entries with
their ids, and entries of the other kind can come and go without a trace. -/

namespace ClaimGate

/-! ### Entries -/

/-- The entry publishes the key under the id. -/
structure Json.Publishes (entry : Json) (id : String) (key : SigningKey) : Prop where
  algorithm : entry.textMember? "alg" = some "RS256"
  use : entry.textMember? "use" = some "sig"
  keyId : entry.textMember? "kid" = some id
  parts : ∃ n e, entry.textMember? "n" = some n ∧ entry.textMember? "e" = some e ∧
    SigningKey.rsaMaterial? n e = some key.material
  registered : key.algorithm = .rs256

/-- The entry is meant for RSA signatures with SHA-256. -/
structure Json.Signs (entry : Json) : Prop where
  algorithm : entry.textMember? "alg" = some "RS256"
  use : entry.textMember? "use" = some "sig"

/-- What keeps an entry from publishing a key: the first of its parts that is missing, or digits
that are no base 64. -/
inductive Json.Spoils (entry : Json) : DocumentFault → Prop
  | keyId (missing : entry.textMember? "kid" = none) : Spoils entry .missingId
  | modulus {id : String} (keyId : entry.textMember? "kid" = some id)
      (missing : entry.textMember? "n" = none) : Spoils entry (.missingModulus id)
  | exponent {id n : String} (keyId : entry.textMember? "kid" = some id)
      (modulus : entry.textMember? "n" = some n) (missing : entry.textMember? "e" = none) :
      Spoils entry (.missingExponent id)
  | digits {id n e : String} (keyId : entry.textMember? "kid" = some id)
      (modulus : entry.textMember? "n" = some n) (exponent : entry.textMember? "e" = some e)
      (undecodable : Text.Base64Url.decode? n.toList = none ∨
        Text.Base64Url.decode? e.toList = none) : Spoils entry (.undecodable id)

/-- A list of readings fails as the first of them that fails. -/
theorem mapM_eq_error {ε α β : Type} {f : α → Except ε β} {l : List α} {e : ε} :
    l.mapM f = .error e ↔ ∃ a, FirstOf (fun a => ∃ e, f a = .error e) l a ∧ f a = .error e := by
  induction l with
  | nil => simp [pure, Except.pure, FirstOf]
  | cons a r ih =>
    rw [List.mapM_cons]
    simp only [firstOf_cons]
    cases ha : f a with
    | error e' =>
      constructor
      · intro h
        obtain rfl := Except.error.inj h
        exact ⟨a, .inl ⟨⟨e', rfl⟩, rfl⟩, ha⟩
      · rintro ⟨_, ⟨_, rfl⟩ | ⟨succeeds, _⟩, h⟩
        · obtain rfl := Except.error.inj (ha.symm.trans h)
          rfl
        · exact absurd ⟨e', rfl⟩ succeeds
    | ok b =>
      have rest : (r.mapM f >>= fun bs => pure (b :: bs)) = .error e ↔ r.mapM f = .error e := by
        cases r.mapM f <;> simp [bind, Except.bind, pure, Except.pure]
      refine (rest.trans ih).trans (exists_congr fun a' => and_congr_left fun _ => ?_)
      simp

namespace KeySet

variable {entry : Json} {id : String} {key : SigningKey} {f : DocumentFault}

theorem isKept_iff : isKept entry = true ↔ entry.Signs := by
  simp only [isKept, Bool.and_eq_true, decide_eq_true_eq]
  exact ⟨fun ⟨algorithm, use⟩ => ⟨algorithm, use⟩, fun ⟨algorithm, use⟩ => ⟨algorithm, use⟩⟩

theorem rsaMaterial?_eq_none {n e : String} :
    SigningKey.rsaMaterial? n e = none ↔
      Text.Base64Url.decode? n.toList = none ∨ Text.Base64Url.decode? e.toList = none := by
  unfold SigningKey.rsaMaterial? Text.Base64Url.natural?
  cases Text.Base64Url.decode? n.toList <;> cases Text.Base64Url.decode? e.toList <;> simp

/-- The key of a kept entry is the one that it publishes. -/
theorem publishes_of_ofEntry (signs : entry.Signs) (h : ofEntry entry = .ok (id, key)) :
    entry.Publishes id key := by
  obtain ⟨id', keyId, h₁⟩ := bind_eq_ok.1 h
  obtain ⟨n, hn, h₂⟩ := bind_eq_ok.1 h₁
  obtain ⟨e, he, h₃⟩ := bind_eq_ok.1 h₂
  obtain ⟨material, hm, h₄⟩ := bind_eq_ok.1 h₃
  obtain ⟨rfl, rfl⟩ := Prod.mk.inj (Except.ok.inj h₄)
  exact ⟨signs.algorithm, signs.use, required_eq_ok.1 keyId,
    ⟨n, e, required_eq_ok.1 hn, required_eq_ok.1 he, required_eq_ok.1 hm⟩, rfl⟩

theorem ofEntry_of_publishes (h : entry.Publishes id key) : ofEntry entry = .ok (id, key) := by
  obtain ⟨_, _, keyId, ⟨n, e, hn, he, hm⟩, registered⟩ := h
  refine bind_eq_ok.2 ⟨id, required_eq_ok.2 keyId, bind_eq_ok.2 ⟨n, required_eq_ok.2 hn, ?_⟩⟩
  refine bind_eq_ok.2 ⟨e, required_eq_ok.2 he, bind_eq_ok.2 ⟨_, required_eq_ok.2 hm, ?_⟩⟩
  rw [← registered]
  rfl

theorem ofEntry_eq_error : ofEntry entry = .error f ↔ entry.Spoils f := by
  constructor
  · intro h
    rcases bind_eq_error.1 h with unread | ⟨id, keyId, h₁⟩
    · obtain ⟨missing, rfl⟩ := required_eq_error.1 unread
      exact .keyId missing
    rcases bind_eq_error.1 h₁ with unread | ⟨n, modulus, h₂⟩
    · obtain ⟨missing, rfl⟩ := required_eq_error.1 unread
      exact .modulus (required_eq_ok.1 keyId) missing
    rcases bind_eq_error.1 h₂ with unread | ⟨e, exponent, h₃⟩
    · obtain ⟨missing, rfl⟩ := required_eq_error.1 unread
      exact .exponent (required_eq_ok.1 keyId) (required_eq_ok.1 modulus) missing
    rcases bind_eq_error.1 h₃ with unread | ⟨_, _, h₄⟩
    · obtain ⟨undecodable, rfl⟩ := required_eq_error.1 unread
      exact .digits (required_eq_ok.1 keyId) (required_eq_ok.1 modulus) (required_eq_ok.1 exponent)
        (rsaMaterial?_eq_none.1 undecodable)
    · exact nomatch h₄
  · intro h
    cases h with
    | keyId missing => exact bind_eq_error.2 (.inl (required_eq_error.2 ⟨missing, rfl⟩))
    | modulus keyId missing =>
      refine bind_eq_error.2 (.inr ⟨_, required_eq_ok.2 keyId, ?_⟩)
      exact bind_eq_error.2 (.inl (required_eq_error.2 ⟨missing, rfl⟩))
    | exponent keyId modulus missing =>
      refine bind_eq_error.2 (.inr ⟨_, required_eq_ok.2 keyId, ?_⟩)
      refine bind_eq_error.2 (.inr ⟨_, required_eq_ok.2 modulus, ?_⟩)
      exact bind_eq_error.2 (.inl (required_eq_error.2 ⟨missing, rfl⟩))
    | digits keyId modulus exponent undecodable =>
      refine bind_eq_error.2 (.inr ⟨_, required_eq_ok.2 keyId, ?_⟩)
      refine bind_eq_error.2 (.inr ⟨_, required_eq_ok.2 modulus, ?_⟩)
      refine bind_eq_error.2 (.inr ⟨_, required_eq_ok.2 exponent, bind_eq_error.2 (.inl ?_)⟩)
      exact required_eq_error.2 ⟨rsaMaterial?_eq_none.2 undecodable, rfl⟩

end KeySet

/-! ### Documents -/

/-- The document can be read: it lists these entries, and every one of them that is meant for
signatures publishes a key. -/
structure Json.Sound (document : Json) (entries : List Json) : Prop where
  listed : document.member? "keys" = some (.arr entries)
  publishes : ∀ entry ∈ entries, entry.Signs → ∃ id key, entry.Publishes id key

/-- Why a document cannot be read. -/
inductive Json.Spoiled (document : Json) : DocumentFault → Prop
  | missing (absent : document.member? "keys" = none) : Spoiled document .missingKeys
  | notList {keys : Json} (given : document.member? "keys" = some keys)
      (other : ∀ entries, keys ≠ .arr entries) : Spoiled document .keysNotList
  | entry {entries : List Json} {entry : Json} {f : DocumentFault}
      (listed : document.member? "keys" = some (.arr entries))
      (first : FirstOf (fun e => e.Signs ∧ ∃ f, e.Spoils f) entries entry)
      (spoils : entry.Spoils f) : Spoiled document f

/-- Of the entries that are meant for signatures the last with the id publishes the key. -/
def Json.Provide (entries : List Json) (id : String) (key : SigningKey) : Prop :=
  ∃ entry, LastOf (fun e => e.Signs ∧ e.textMember? "kid" = some id) entries entry ∧
    entry.Publishes id key

/-- The lists differ in entries that are not meant for signatures, wherever these stand. -/
inductive Json.SameKeys : List Json → List Json → Prop
  | nil : SameKeys [] []
  | both {entry : Json} {l l' : List Json} (rest : SameKeys l l') :
      SameKeys (entry :: l) (entry :: l')
  | left {entry : Json} {l l' : List Json} (foreign : ¬ entry.Signs) (rest : SameKeys l l') :
      SameKeys (entry :: l) l'
  | right {entry : Json} {l l' : List Json} (foreign : ¬ entry.Signs) (rest : SameKeys l l') :
      SameKeys l (entry :: l')

/-- There are this many texts with the property. -/
def Numbers (n : Nat) (P : String → Prop) : Prop :=
  ∃ ids : List String, ids.Nodup ∧ (∀ id, id ∈ ids ↔ P id) ∧ n = ids.length

namespace KeySet

variable {document : Json} {entries : List Json} {id : String} {key : SigningKey} {s : KeySet}
  {f : DocumentFault}

/-- The keys are those that the entries publish, of several with one id the last. -/
structure Collects (s : KeySet) (entries : List Json) : Prop where
  get : ∀ id key, s.get? id = some key ↔ Json.Provide entries id key
  contains : ∀ id, s.contains id = true ↔
    ∃ entry ∈ entries, entry.Signs ∧ entry.textMember? "kid" = some id
  size : Numbers s.size fun id => ∃ entry ∈ entries, entry.Signs ∧ entry.textMember? "kid" = some id

theorem items?_eq_some {keys : Json} : keys.items? = some entries ↔ keys = .arr entries := by
  cases keys <;> simp [Json.items?]

theorem ofDocument_of_listed (listed : document.member? "keys" = some (.arr entries)) :
    ofDocument document = (do return ⟨.ofList (← (entries.filter isKept).mapM ofEntry)⟩) := by
  unfold ofDocument
  rw [listed]
  rfl

theorem lookup_of_map {α ε κ β : Type} [DecidableEq κ] {f : α → Except ε (κ × β)} {l : List α}
    {bs : List (κ × β)} {k : κ} {b : β} (h : l.map f = bs.map .ok) :
    bs.lookup k = some b ↔
      ∃ a, FirstOf (fun a => ∃ b, f a = .ok (k, b)) l a ∧ f a = .ok (k, b) := by
  induction l generalizing bs with
  | nil =>
    obtain rfl := List.map_eq_nil_iff.1 h.symm
    simp [FirstOf]
  | cons a r ih =>
    obtain ⟨⟨k', b'⟩, rest, rfl, here, there⟩ := List.map_eq_cons_iff.1 h.symm
    rw [Dict.lookup_cons_eq]
    simp only [firstOf_cons]
    split
    · rename_i same
      simp [← here, same]
    · rename_i other
      have passed : ¬ ∃ b, f a = .ok (k, b) := by
        rintro ⟨b, h⟩
        exact other (Prod.mk.inj (Except.ok.inj (h.symm.trans here.symm))).1
      simp [passed, ih there.symm]

theorem ofEntry_eq_ok_iff (sound : document.Sound entries) {entry : Json} (mem : entry ∈ entries) :
    (isKept entry = true ∧ ∃ key, ofEntry entry = .ok (id, key)) ↔
      entry.Signs ∧ entry.textMember? "kid" = some id := by
  rw [isKept_iff]
  refine and_congr_right fun signs => ?_
  constructor
  · rintro ⟨key, read⟩
    exact (publishes_of_ofEntry signs read).keyId
  · intro keyId
    obtain ⟨id', key, publishes⟩ := sound.publishes entry mem signs
    obtain rfl := Option.some.inj (publishes.keyId.symm.trans keyId)
    exact ⟨key, ofEntry_of_publishes publishes⟩

theorem get?_ofDocument (sound : document.Sound entries) (h : ofDocument document = .ok s) :
    s.get? id = some key ↔ Json.Provide entries id key := by
  rw [ofDocument_of_listed sound.listed] at h
  obtain ⟨kept, read, whole⟩ := bind_eq_ok.1 h
  obtain rfl := Except.ok.inj whole
  have reversed : (entries.reverse.filter isKept).map ofEntry = kept.reverse.map .ok := by
    rw [List.filter_reverse, List.map_reverse, List.map_reverse, mapM_eq_ok.1 read]
  rw [get?, Dict.get?_ofList, lookup_of_map reversed]
  refine exists_congr fun entry => ?_
  rw [firstOf_filter, LastOf,
    firstOf_congr fun entry mem => ofEntry_eq_ok_iff sound (List.mem_reverse.1 mem)]
  refine and_congr_right fun last => ?_
  exact ⟨publishes_of_ofEntry last.holds.1, ofEntry_of_publishes⟩

theorem nodup_ids (s : KeySet) : s.ids.Nodup := by
  rw [List.nodup_iff_pairwise_ne, ids, Dict.keys, List.pairwise_map]
  exact s.keys.distinct

theorem mem_ids : id ∈ s.ids ↔ ∃ key, s.get? id = some key := Dict.mem_keys

theorem size_numbers (s : KeySet) : Numbers s.size fun id => ∃ key, s.get? id = some key :=
  ⟨s.ids, s.nodup_ids, fun _ => mem_ids, (List.length_map _).symm⟩

theorem contains_iff : s.contains id = true ↔ ∃ key, s.get? id = some key :=
  Option.isSome_iff_exists

theorem exists_provide
    (publishes : ∀ entry ∈ entries, entry.Signs → ∃ id key, entry.Publishes id key) :
    (∃ key, Json.Provide entries id key) ↔
      ∃ entry ∈ entries, entry.Signs ∧ entry.textMember? "kid" = some id := by
  refine exists_lastOf_and fun entry mem ⟨signs, keyId⟩ => ?_
  obtain ⟨id', key, published⟩ := publishes entry mem signs
  obtain rfl := Option.some.inj (published.keyId.symm.trans keyId)
  exact ⟨key, published⟩

theorem collects_of_ofDocument (sound : document.Sound entries) (h : ofDocument document = .ok s) :
    s.Collects entries := by
  have provided {id : String} : (∃ key, s.get? id = some key) ↔
      ∃ entry ∈ entries, entry.Signs ∧ entry.textMember? "kid" = some id := by
    rw [← exists_provide sound.publishes]
    exact exists_congr fun key => get?_ofDocument sound h
  obtain ⟨ids, nodup, mem, size⟩ := s.size_numbers
  exact ⟨fun id key => get?_ofDocument sound h, fun id => contains_iff.trans provided,
    ids, nodup, fun id => (mem id).trans provided, size⟩

/-- Sets that hold the same keys under the same ids are equal. -/
theorem ext_get? {t : KeySet} (h : ∀ id, s.get? id = t.get? id) : s = t := by
  cases s
  cases t
  exact congrArg KeySet.mk (Dict.ext_get? h)

/-- A set is told by the entries of its document. -/
theorem Collects.eq {t : KeySet} (h : s.Collects entries) (h' : t.Collects entries) : s = t :=
  ext_get? fun id => Option.ext fun key => (h.get id key).trans (h'.get id key).symm

theorem sound_of_ofDocument (h : ofDocument document = .ok s) :
    ∃ entries, document.Sound entries := by
  obtain ⟨keys, given, h₁⟩ := bind_eq_ok.1 h
  obtain ⟨entries, listed, h₂⟩ := bind_eq_ok.1 h₁
  obtain ⟨kept, read, _⟩ := bind_eq_ok.1 h₂
  obtain rfl := items?_eq_some.1 (required_eq_ok.1 listed)
  refine ⟨entries, required_eq_ok.1 given, fun entry mem signs => ?_⟩
  have among : ofEntry entry ∈ (entries.filter isKept).map ofEntry :=
    List.mem_map_of_mem (List.mem_filter.2 ⟨mem, isKept_iff.2 signs⟩)
  rw [mapM_eq_ok.1 read] at among
  obtain ⟨⟨id, key⟩, _, found⟩ := List.mem_map.1 among
  exact ⟨id, key, publishes_of_ofEntry signs found.symm⟩

theorem entries_eq_error : (entries.filter isKept).mapM ofEntry = .error f ↔
    ∃ entry, FirstOf (fun e => e.Signs ∧ ∃ f, e.Spoils f) entries entry ∧ entry.Spoils f := by
  rw [mapM_eq_error]
  simp only [firstOf_filter, isKept_iff, ofEntry_eq_error]

theorem ofDocument_eq_error : ofDocument document = .error f ↔ document.Spoiled f := by
  constructor
  · intro h
    rcases bind_eq_error.1 h with unread | ⟨keys, given, h₁⟩
    · obtain ⟨absent, rfl⟩ := required_eq_error.1 unread
      exact .missing absent
    rcases bind_eq_error.1 h₁ with unread | ⟨entries, listed, h₂⟩
    · obtain ⟨notItems, rfl⟩ := required_eq_error.1 unread
      refine .notList (required_eq_ok.1 given) fun entries same => ?_
      exact nomatch notItems.symm.trans (items?_eq_some.2 same)
    · obtain rfl := items?_eq_some.1 (required_eq_ok.1 listed)
      rcases bind_eq_error.1 h₂ with refused | ⟨_, _, whole⟩
      · obtain ⟨entry, first, spoils⟩ := entries_eq_error.1 refused
        exact .entry (required_eq_ok.1 given) first spoils
      · exact nomatch whole
  · intro h
    cases h with
    | missing absent => exact bind_eq_error.2 (.inl (required_eq_error.2 ⟨absent, rfl⟩))
    | notList given other =>
      have notItems : Json.items? _ = none :=
        Option.eq_none_iff_forall_ne_some.2 fun entries => mt items?_eq_some.1 (other entries)
      refine bind_eq_error.2 (.inr ⟨_, required_eq_ok.2 given, ?_⟩)
      exact bind_eq_error.2 (.inl (required_eq_error.2 ⟨notItems, rfl⟩))
    | entry listed first spoils =>
      rw [ofDocument_of_listed listed]
      exact bind_eq_error.2 (.inl (entries_eq_error.2 ⟨_, first, spoils⟩))

theorem not_spoiled_of_sound (sound : document.Sound entries) : ¬ document.Spoiled f := by
  intro spoiled
  cases spoiled with
  | missing absent => exact nomatch absent.symm.trans sound.listed
  | notList given other => exact other entries (Option.some.inj (given.symm.trans sound.listed))
  | entry listed first spoils =>
    obtain rfl := Json.arr.inj (Option.some.inj (listed.symm.trans sound.listed))
    obtain ⟨id, key, publishes⟩ := sound.publishes _ first.mem first.holds.1
    exact nomatch (ofEntry_of_publishes publishes).symm.trans (ofEntry_eq_error.2 spoils)

/-- A document is read exactly if it is sound, and gives the keys that its entries publish. -/
theorem ofDocument_eq_ok :
    ofDocument document = .ok s ↔ ∃ entries, document.Sound entries ∧ s.Collects entries := by
  constructor
  · intro h
    obtain ⟨entries, sound⟩ := sound_of_ofDocument h
    exact ⟨entries, sound, collects_of_ofDocument sound h⟩
  · rintro ⟨entries, sound, collects⟩
    cases read : ofDocument document with
    | error f => exact absurd (ofDocument_eq_error.1 read) (not_spoiled_of_sound sound)
    | ok t => rw [(collects_of_ofDocument sound read).eq collects]

theorem filter_eq_of_sameKeys {l l' : List Json} (h : Json.SameKeys l l') :
    l.filter isKept = l'.filter isKept := by
  induction h with
  | nil => rfl
  | both _ ih => rw [List.filter_cons, List.filter_cons, ih]
  | left foreign _ ih => rw [List.filter_cons_of_neg (mt isKept_iff.1 foreign), ih]
  | right foreign _ ih => rw [List.filter_cons_of_neg (mt isKept_iff.1 foreign), ih]

/-- A document is refused exactly for its first fault, and one that is read gives exactly the keys
that its entries publish. Entries that are not meant for signatures can be inserted, removed and
altered anywhere without a change. -/
theorem ofDocument_keepsPublished :
    (∀ document f, ofDocument document = .error f ↔ document.Spoiled f) ∧
    (∀ document s, ofDocument document = .ok s ↔
      ∃ entries, document.Sound entries ∧ s.Collects entries) ∧
    ∀ document document' : Json, ∀ entries entries',
      document.member? "keys" = some (.arr entries) →
      document'.member? "keys" = some (.arr entries') → Json.SameKeys entries entries' →
        ofDocument document = ofDocument document' := by
  refine ⟨fun _ _ => ofDocument_eq_error, fun _ _ => ofDocument_eq_ok, ?_⟩
  intro document document' entries entries' listed listed' same
  rw [ofDocument_of_listed listed, ofDocument_of_listed listed', filter_eq_of_sameKeys same]

end KeySet

end ClaimGate
