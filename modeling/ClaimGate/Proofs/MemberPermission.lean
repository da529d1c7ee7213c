import ClaimGate.Proofs.Directory
import ClaimGate.Proofs.KeyDocument
import ClaimGate.Proofs.UnknownMember
import Mathlib.Data.List.Permutation

/-! The permission of a user in an organization. A member is stored with a number, which is rounded
down to a permission, or with the name of a permission, which stands for its bits. Rounding is
adjoint to taking the bits: a permission that is more than none is granted exactly where the number
is not below its bits. So the greatest permission over the entries of a user is that of the
greatest number, though the two are compared in different orders. Proved: the lists that members
are read from, and that a user has in an organization what the greatest of its numbers grants,
whatever the order of the entries, and never less for one entry more. -/

namespace ClaimGate

open Json

/-! ### The chain of permissions -/

namespace Permission

theorem eq_of_rank_eq {p q : Permission} (h : p.rank = q.rank) : p = q := by
  cases p <;> cases q <;> first | rfl | exact absurd h (by decide)

instance : LinearOrder Permission where
  le_refl p := Nat.le_refl p.rank
  le_trans _ _ _ h h' := Nat.le_trans h h'
  le_antisymm _ _ h h' := eq_of_rank_eq (Nat.le_antisymm h h')
  le_total p q := Nat.le_total p.rank q.rank
  lt_iff_le_not_ge _ _ := Nat.lt_iff_le_and_not_ge
  toDecidableLE := inferInstance
  toDecidableLT := inferInstance
  max := max

theorem none_le (p : Permission) : none ≤ p := Nat.zero_le p.rank

theorem mem_all (p : Permission) : p ∈ all := by cases p <;> decide

/-- What a number grants is told by its bits: a permission that is more than none is granted
exactly where the number is not below its bits. -/
theorem le_ofBits_iff {q : Permission} {n : Int32} (more : q ≠ none) :
    q ≤ ofBits n ↔ q.bits ≤ n := by
  rw [ofBits]
  cases found : all.reverse.find? (fun p => p.bits ≤ n) with
  | none =>
    have above : ¬ q.bits ≤ n := by
      simpa using List.find?_eq_none.1 found q (List.mem_reverse.2 (mem_all q))
    exact iff_of_false (fun h => more (le_antisymm h (none_le q))) above
  | some p =>
    obtain ⟨before, after, split, below, first⟩ := find?_eq_some_iff_firstOf.1 found
    constructor
    · intro h
      exact Int32.le_trans (bits_le_bits.2 h) below
    · intro h
      -- Permissions are tried from the greatest on, so one that comes after `p` is below it.
      have descending : all.reverse.Pairwise (· ≥ ·) := by decide
      have listed : q ∈ before ++ p :: after := split ▸ List.mem_reverse.2 (mem_all q)
      rw [split] at descending
      rcases List.mem_append.1 listed with early | late
      · exact absurd h (first q early)
      · rcases List.mem_cons.1 late with rfl | late
        · exact le_refl q
        · exact List.rel_of_pairwise_cons (List.pairwise_append.1 descending).2.1 late

theorem le_max?_iff {l : List Permission} {q : Permission} (more : q ≠ none) :
    q ≤ l.max?.getD none ↔ ∃ p ∈ l, q ≤ p := by
  cases greatest : l.max? with
  | none =>
    obtain rfl := List.max?_eq_none_iff.1 greatest
    simpa using fun h => more (le_antisymm h (none_le q))
  | some m =>
    obtain ⟨listed, above⟩ := List.max?_eq_some_iff.1 greatest
    exact ⟨fun h => ⟨m, listed, h⟩, fun ⟨p, hp, h⟩ => le_trans h (above p hp)⟩

/-! ### Stored permissions -/

theorem ofName?_eq_some {s : String} {p : Permission} : ofName? s = some p ↔ s = p.name := by
  constructor
  · intro h
    have same := List.find?_some h
    exact (of_decide_eq_true same).symm
  · rintro rfl
    exact ofName?_name p

/-- The value stands for the number, by itself or by the name of a permission. -/
inductive Stored : Json → Int32 → Prop
  | bits (n : Int32) : Stored (.int n.toInt) n
  | name (p : Permission) : Stored (.str p.name) p.bits
  | member (p : Permission) : Stored (.obj [(p.name, .null)]) p.bits

theorem read_shape {j : Json} {p : Permission} :
    shape.read .exact j = .ok p ↔ j = .str p.name ∨ j = .obj [(p.name, .null)] := by
  constructor
  · intro h
    rw [shape, Shape.read] at h
    cases j with
    | str s =>
      rw [decodeName] at h
      split at h
      · rename_i named
        obtain rfl := Except.ok.inj h
        exact .inl (congrArg Json.str (ofName?_eq_some.1 named))
      · cases h
    | obj ms =>
      obtain _ | ⟨⟨k, j⟩, _ | _⟩ := ms
      · cases h
      · simp only [decodeName, decodeNameMember] at h
        split at h
        · cases h
        · rename_i named
          obtain rfl := Except.ok.inj h
          rw [ofName?_eq_some.1 named]
          exact .inr rfl
        · cases h
      · cases h
    | _ => cases h
  · rintro (rfl | rfl) <;> cases p <;> rfl

theorem read_bits {j : Json} {p : Permission} :
    (Shape.via .int32 ofBits bits).read .exact j = .ok p ↔
      ∃ n, j = .int n.toInt ∧ ofBits n = p := by
  rw [Shape.read_via]
  exact exists_congr fun _ => and_congr_left fun _ => Shape.read_int32

/-- A stored permission is read from the numbers, and from the names as from their bits. -/
theorem read_storedShape {manner : Manner} {j : Json} {p : Permission} :
    storedShape.read manner j = .ok p ↔ ∃ n, Stored j n ∧ ofBits n = p := by
  rw [storedShape, Shape.read_either]
  constructor
  · rintro (number | ⟨_, named⟩)
    · obtain ⟨n, rfl, rfl⟩ := read_bits.1 number
      exact ⟨n, .bits n, rfl⟩
    · rcases read_shape.1 named with rfl | rfl
      · exact ⟨p.bits, .name p, ofBits_bits p⟩
      · exact ⟨p.bits, .member p, ofBits_bits p⟩
  · rintro ⟨n, stored, rfl⟩
    cases stored with
    | bits => exact .inl (read_bits.2 ⟨n, rfl, rfl⟩)
    | name q =>
      refine .inr ⟨fun b number => ?_, read_shape.2 (.inl (by rw [ofBits_bits]))⟩
      obtain ⟨_, same, _⟩ := read_bits.1 number
      cases same
    | member q =>
      refine .inr ⟨fun b number => ?_, read_shape.2 (.inr (by rw [ofBits_bits]))⟩
      obtain ⟨_, same, _⟩ := read_bits.1 number
      cases same

end Permission

/-! ### Entries -/

/-- The value is the entry of a member, with the number that is stored for the user: an object of
its two fields in either order, or a list of them. -/
inductive MemberFixture.Entry (manner : Manner) : Json → Int64 × Int32 → Prop
  | object {user : Int64} {n : Int32} {j : Json} {ms : List (String × Json)}
      (members : ms.Perm [("user_id", .int user.toInt), ("permission", j)])
      (stored : Permission.Stored j n) : Entry manner (.obj ms) (user, n)
  | list {user : Int64} {n : Int32} {j : Json} {surplus : List Json}
      (stored : Permission.Stored j n) (ends : surplus = [] ∨ manner = .lenient) :
      Entry manner (.arr (.int user.toInt :: j :: surplus)) (user, n)

namespace MemberFixture

variable {manner : Manner} {user : Int64} {j : Json} {ms : List (String × Json)}

/-- The member of an entry: its number is rounded down to a permission. -/
def ofEntry (e : Int64 × Int32) : MemberFixture := ⟨e.1, .ofBits e.2⟩

/-- The fields of a member are read from an object with these two members, and no other. -/
theorem read_object {p : Permission} :
    (Shape.record .refused (.required "user_id" .int64
        (.required "permission" Permission.storedShape .nil))).read manner (.obj ms) =
      .ok (user, p, ()) ↔
      ∃ j, ms.Perm [("user_id", .int user.toInt), ("permission", j)] ∧
        Permission.storedShape.read manner j = .ok p := by
  rw [Fields.read_refused_iff (by decide)]
  simp only [Fields.given_required, Shape.read_int64]
  constructor
  · rintro ⟨apart, known, ⟨_, id, rfl⟩, ⟨j, permission, read⟩, _⟩
    rw [Dict.lookup_eq_some_iff apart] at id permission
    refine ⟨j, ?_, read⟩
    have pair : [("user_id", .int user.toInt), ("permission", j)] ⊆ ms := by
      simp [id, permission]
    have short : ms.length ≤ 2 := by
      have names : (ms.map (·.1)).Nodup := List.pairwise_map.2 apart
      simpa [Fields.names, Fields.required] using
        (List.subperm_of_subset names (List.forall_mem_map.2 known)).length_le
    have two : List.Nodup [("user_id", Json.int user.toInt), ("permission", j)] := by simp
    exact ((List.subperm_of_subset two pair).perm_of_length_le short).symm
  · rintro ⟨j, members, read⟩
    have apart : ms.Pairwise fun m m' => m.1 ≠ m'.1 := by
      refine (members.pairwise_iff Ne.symm).2 ?_
      simp
    have known : ∀ m ∈ ms, m.1 ∈ ["user_id", "permission"] := by
      intro m hm
      exact List.mem_map_of_mem (members.mem_iff.1 hm)
    refine ⟨apart, known, ⟨_, ?_, rfl⟩, ⟨j, ?_, read⟩, trivial⟩
    · rw [Dict.lookup_eq_some_iff apart, members.mem_iff]
      exact List.mem_cons_self
    · rw [Dict.lookup_eq_some_iff apart, members.mem_iff]
      exact List.mem_cons_of_mem _ List.mem_cons_self

/-- The fields of a member are read from a list of two, and in the lenient manner from a longer. -/
theorem read_list {p : Permission} {l : List Json} :
    (Shape.record .refused (.required "user_id" .int64
        (.required "permission" Permission.storedShape .nil))).read manner (.arr l) =
      .ok (user, p, ()) ↔
      ∃ j surplus, l = .int user.toInt :: j :: surplus ∧
        Permission.storedShape.read manner j = .ok p ∧ (surplus = [] ∨ manner = .lenient) := by
  have beyond {surplus : List Json} :
      Fields.nil.ofItems manner surplus = .ok () ↔ surplus = [] ∨ manner = .lenient := by
    simp [Fields.ofItems, or_iff_not_imp_left]
  rw [Shape.read]
  constructor
  · intro h
    obtain _ | ⟨i, _ | ⟨j, surplus⟩⟩ := l
    · cases h
    · obtain ⟨_, rest⟩ := Fields.ofItems_cons.1 h
      cases rest
    · obtain ⟨id, rest⟩ := Fields.ofItems_cons.1 h
      obtain ⟨permission, ends⟩ := Fields.ofItems_cons.1 rest
      obtain rfl := Shape.read_int64.1 id
      exact ⟨j, surplus, rfl, permission, beyond.1 ends⟩
  · rintro ⟨j, surplus, rfl, read, ends⟩
    refine Fields.ofItems_cons.2 ⟨Shape.read_int64.2 rfl, ?_⟩
    exact Fields.ofItems_cons.2 ⟨read, beyond.2 ends⟩

/-- The members that are read are the entries. -/
theorem read_eq_ok {m : MemberFixture} :
    shape.read manner j = .ok m ↔ ∃ e, Entry manner j e ∧ ofEntry e = m := by
  rw [shape, Shape.read_via]
  constructor
  · rintro ⟨⟨user, p, _⟩, read, rfl⟩
    cases j with
    | obj ms =>
      obtain ⟨j, members, read⟩ := read_object.1 read
      obtain ⟨n, stored, rfl⟩ := Permission.read_storedShape.1 read
      exact ⟨(user, n), .object members stored, rfl⟩
    | arr l =>
      obtain ⟨j, surplus, rfl, read, ends⟩ := read_list.1 read
      obtain ⟨n, stored, rfl⟩ := Permission.read_storedShape.1 read
      exact ⟨(user, n), .list stored ends, rfl⟩
    | torn ms => exact absurd read Shape.read_record_torn
    | _ => cases read
  · rintro ⟨e, entry, rfl⟩
    refine ⟨(e.1, .ofBits e.2, ()), ?_, rfl⟩
    cases entry with
    | object members stored =>
      exact read_object.2 ⟨_, members, Permission.read_storedShape.2 ⟨_, stored, rfl⟩⟩
    | list stored ends =>
      exact read_list.2 ⟨_, _, rfl, Permission.read_storedShape.2 ⟨_, stored, rfl⟩, ends⟩

/-- The lists of members that are read are the lists of entries. -/
theorem read_list_eq_ok {js : List Json} {members : List MemberFixture} :
    shape.list.read manner (.arr js) = .ok members ↔
      ∃ entries, List.Forall₂ (Entry manner) js entries ∧ entries.map ofEntry = members := by
  rw [Shape.read, mapM_eq_ok]
  induction js generalizing members with
  | nil => simp [eq_comm]
  | cons j js ih =>
    rw [List.map_cons, eq_comm, List.map_eq_cons_iff]
    constructor
    · rintro ⟨m, members, rfl, read, rest⟩
      obtain ⟨e, entry, rfl⟩ := read_eq_ok.1 read.symm
      obtain ⟨entries, written, rfl⟩ := ih.1 rest.symm
      exact ⟨e :: entries, .cons entry written, rfl⟩
    · rintro ⟨_, written, rfl⟩
      obtain ⟨e, entries, entry, others, rfl⟩ := List.forall₂_cons_left_iff.1 written
      exact ⟨_, _, rfl, (read_eq_ok.2 ⟨e, entry, rfl⟩).symm, (ih.2 ⟨entries, others, rfl⟩).symm⟩

end MemberFixture

/-! ### The greatest entry -/

/-- The permission is that of the greatest number that is entered for the user, and none where no
number is. -/
inductive MemberFixture.Entitles (entries : List (Int64 × Int32)) (user : Int64) : Permission → Prop
  | greatest {n : Int32} (h : IsGreatest {n | (user, n) ∈ entries} n) :
      Entitles entries user (.ofBits n)
  | absent (h : ∀ n, (user, n) ∉ entries) : Entitles entries user .none

/-- The permission covers what some number that is entered for the user covers, and no more. -/
def MemberFixture.Covers (entries : List (Int64 × Int32)) (user : Int64) (p : Permission) : Prop :=
  ∀ q ≠ Permission.none, q ≤ p ↔ ∃ n, (user, n) ∈ entries ∧ q.bits ≤ n

namespace MemberFixture

variable {entries entries' : List (Int64 × Int32)} {user : Int64} {p p' : Permission}

theorem Covers.le (h : Covers entries user p) (h' : Covers entries' user p')
    (fewer : ∀ n, (user, n) ∈ entries → (user, n) ∈ entries') : p ≤ p' := by
  by_cases least : p = .none
  · exact least ▸ p'.none_le
  · obtain ⟨n, entered, below⟩ := (h p least).1 (le_refl p)
    exact (h' p least).2 ⟨n, fewer n entered, below⟩

theorem Covers.eq_none (h : Covers entries user p) (negative : ∀ n, (user, n) ∈ entries → n < 0) :
    p = .none := by
  by_contra least
  obtain ⟨n, entered, below⟩ := (h p least).1 (le_refl p)
  have zero : (0 : Int32) ≤ p.bits := Permission.bits_le_bits.2 p.none_le
  exact Int32.not_lt.2 (Int32.le_trans zero below) (negative n entered)

theorem Covers.eq_ofBits {n : Int32} (h : Covers entries user p)
    (greatest : IsGreatest {n | (user, n) ∈ entries} n) : p = .ofBits n := by
  refine eq_of_forall_le_iff fun q => ?_
  by_cases least : q = .none
  · rw [least]
    exact iff_of_true p.none_le (Permission.ofBits n).none_le
  · rw [h q least, Permission.le_ofBits_iff least]
    constructor
    · rintro ⟨m, entered, below⟩
      exact Int32.le_trans below (greatest.2 entered)
    · intro below
      exact ⟨n, greatest.1, below⟩

theorem Covers.entitles (h : Covers entries user p) : Entitles entries user p := by
  have entered {n : Int32} :
      n.toInt ∈ (entries.filter fun e => e.1 = user).map (·.2.toInt) ↔ (user, n) ∈ entries := by
    simp [Int32.toInt_inj, eq_comm]
  cases most : ((entries.filter fun e => e.1 = user).map (·.2.toInt)).max? with
  | none =>
    have absent : ∀ n, (user, n) ∉ entries := by
      intro n
      rw [← entered, List.max?_eq_none_iff.1 most]
      exact List.not_mem_nil
    rw [h.eq_none fun n listed => absurd listed (absent n)]
    exact .absent absent
  | some i =>
    obtain ⟨listed, above⟩ := List.max?_eq_some_iff.1 most
    obtain ⟨e, _, rfl⟩ := List.mem_map.1 listed
    have greatest : IsGreatest {n | (user, n) ∈ entries} e.2 :=
      ⟨entered.1 listed, fun m hm => Int32.le_iff_toInt_le.2 (above m.toInt (entered.2 hm))⟩
    rw [h.eq_ofBits greatest]
    exact .greatest greatest

end MemberFixture

/-! ### Claims -/

/-- The entries of the members of an organization, in order: those of the list that the members
of the organization in effect are read from, and none where none is in effect. -/
inductive Fixtures.Enters (f : Fixtures) (organization : Int64) : List (Int64 × Int32) → Prop
  | listed {o : OrganizationFixture} {manner : Manner} {js : List Json}
      {entries : List (Int64 × Int32)} (holds : f.Holds o) (same : o.id = organization)
      (read : MemberFixture.shape.list.read manner (.arr js) = .ok o.members)
      (written : List.Forall₂ (MemberFixture.Entry manner) js entries) :
      Enters f organization entries
  | absent (none : ∀ o, f.Holds o → o.id ≠ organization) : Enters f organization []

namespace Directory

variable {f : Fixtures} {organization : Int64} {entries : List (Int64 × Int32)}

theorem covers_permission? (enters : f.Enters organization entries) (user : Int64) :
    MemberFixture.Covers entries user
      (((ofFixtures f).permission? user organization).getD .none) := by
  intro q more
  cases enters with
  | listed holds same read written =>
    have again := MemberFixture.read_list_eq_ok.2 ⟨_, written, rfl⟩
    have members := Except.ok.inj (again.symm.trans read)
    have found := organization_eq_some.2 ⟨holds, same⟩
    rw [permission?, found, Option.bind_some, Permission.le_max?_iff more, ← members]
    constructor
    · rintro ⟨p, listed, le⟩
      obtain ⟨m, own, rfl⟩ := List.mem_map.1 listed
      obtain ⟨among, same⟩ := List.mem_filter.1 own
      obtain ⟨e, entered, rfl⟩ := List.mem_map.1 among
      obtain rfl := of_decide_eq_true same
      exact ⟨e.2, entered, (Permission.le_ofBits_iff more).1 le⟩
    · rintro ⟨n, entered, below⟩
      refine ⟨.ofBits n, ?_, (Permission.le_ofBits_iff more).2 below⟩
      refine List.mem_map.2 ⟨⟨user, .ofBits n⟩, ?_, rfl⟩
      exact List.mem_filter.2 ⟨List.mem_map_of_mem entered, decide_eq_true rfl⟩
  | absent none =>
    have missing : (ofFixtures f).organizations.get? organization = .none := by
      refine Option.eq_none_iff_forall_ne_some.2 fun o found => ?_
      obtain ⟨holds, same⟩ := organization_eq_some.1 found
      exact none o holds same
    rw [permission?, missing]
    simpa using fun h => more (le_antisymm h q.none_le)

end Directory

namespace Resolve

open Directory MemberFixture Inquiry

theorem organizationClaim_of_on {f : Fixtures} (on : Family.organizations ∉ f.unavailable)
    (user organization : Int64) :
    (organizationClaim user organization).outcome f.store =
      .ok ⟨organization, ((ofFixtures f).permission? user organization).getD .none,
        (ofFixtures f).features organization⟩ := by
  refine organizationClaim_eq_ok.2 ⟨rfl, (ofFixtures f).permission? user organization, ?_, rfl, ?_⟩
  · exact answer_of_on (q := .permission user organization) on
  · exact answer_of_on (q := .features organization) on

/-- Members are read from lists of entries, and from no other lists. The permission of a user in an
organization is that of the greatest number entered for the user, so it covers just what some
entry does. It hangs on the set of the user's numbers alone, and grows with it. -/
theorem organizationClaim_entered :
    (∀ (manner : Manner) (js : List Json),
      (∃ members, MemberFixture.shape.list.read manner (.arr js) = .ok members) ↔
        ∃ entries, List.Forall₂ (Entry manner) js entries) ∧
    ∀ (f : Fixtures) (user organization : Int64),
      (Family.organizations ∈ f.unavailable →
        (organizationClaim user organization).outcome f.store =
          .error (.lookup .organizations (switchedOff .organizations))) ∧
      (Family.organizations ∉ f.unavailable → ∀ entries, f.Enters organization entries →
        ∃ c, (organizationClaim user organization).outcome f.store = .ok c ∧ c.id = organization ∧
          Entitles entries user c.permission ∧ Covers entries user c.permission ∧
          ((∀ n, (user, n) ∈ entries → n < 0) → c.permission = .none) ∧
          ∀ (f' : Fixtures) (entries' : List (Int64 × Int32)),
            Family.organizations ∉ f'.unavailable → f'.Enters organization entries' →
            ∃ c', (organizationClaim user organization).outcome f'.store = .ok c' ∧
              ((∀ n, (user, n) ∈ entries → (user, n) ∈ entries') → c.permission ≤ c'.permission) ∧
              ((∀ n, (user, n) ∈ entries ↔ (user, n) ∈ entries') →
                c.permission = c'.permission)) := by
  refine ⟨fun manner js => ?_, fun f user organization => ⟨fun off => ?_, ?_⟩⟩
  · constructor
    · rintro ⟨members, read⟩
      obtain ⟨entries, written, _⟩ := read_list_eq_ok.1 read
      exact ⟨entries, written⟩
    · rintro ⟨entries, written⟩
      exact ⟨_, read_list_eq_ok.2 ⟨entries, written, rfl⟩⟩
  · exact organizationClaim_eq_error_iff.2 (.inl ⟨_, if_pos off, rfl⟩)
  · intro on entries enters
    have covers := covers_permission? enters user
    refine ⟨_, organizationClaim_of_on on user organization, rfl, covers.entitles, covers,
      covers.eq_none, ?_⟩
    intro f' entries' on' enters'
    have covers' := covers_permission? enters' user
    refine ⟨_, organizationClaim_of_on on' user organization, covers.le covers', fun same => ?_⟩
    have more := covers.le covers' fun n => (same n).1
    have less := covers'.le covers fun n => (same n).2
    exact le_antisymm more less

/-- A number between two permissions, and a name, of one user. -/
theorem organizationClaim_entered_twice :
    ∃ c, (organizationClaim 5 7).outcome
        (Fixtures.store { organizations := [{ id := 7, members := [⟨5, .write⟩, ⟨5, .read⟩] }] }) =
      .ok c ∧ Entitles [(5, 7), (5, 2)] 5 c.permission := by
  have written : List.Forall₂ (Entry .exact)
      [.obj [("permission", .int 7), ("user_id", .int 5)], .arr [.int 5, .str "read"]]
      [(5, 7), (5, 2)] := by
    have named : Entry .exact (.arr [.int (5 : Int64).toInt, .str Permission.read.name])
        (5, Permission.read.bits) := .list (.name .read) (.inl rfl)
    exact .cons (.object (.swap _ _ _) (.bits 7)) (.cons named .nil)
  have holds : Fixtures.Holds
      { organizations := [{ id := 7, members := [⟨5, .write⟩, ⟨5, .read⟩] }] }
      { id := 7, members := [⟨5, .write⟩, ⟨5, .read⟩] } := ⟨[], [], rfl, rfl, by simp⟩
  obtain ⟨c, told, _, entitles, _⟩ := (organizationClaim_entered.2 _ 5 7).2 (by simp) _
    (.listed holds rfl rfl written)
  exact ⟨c, told, entitles⟩

end Resolve

end ClaimGate
