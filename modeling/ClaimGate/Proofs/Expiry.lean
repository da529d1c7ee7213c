import ClaimGate.Proofs.Acceptance

/-! How the verdict on a token goes over time. Of the checks of a payload only that of the expiry
looks at the clock, and it stands between those of issuer and client and those of use and
subject. Times are whole seconds, as expiries are: a finer clock has reached an expiry exactly if
its whole seconds have. Proved: a token that is accepted once is accepted at every time before its
expiry, with the same claims, and at no other; a token that is refused stays so. A fault from
before the expiry is the same at every time, and one from behind it gives way to the expiry alone. -/

namespace ClaimGate

/-- A fault that is found before the clock is looked at. -/
inductive TokenFault.Timeless : TokenFault → Prop
  | signature (reason : String) : Timeless (.invalidSignature reason)
  | issuer : Timeless .unknownIssuer
  | audience (problem : ClaimProblem) : Timeless (.audience problem)

namespace Check

variable {v : Validator} {p : Payload} {now now' : Int} {k : Check} {f : TokenFault}

/-- The clock has a say in one check alone. -/
theorem holds_iff_of_ne (h : k ≠ .expiry) : k.Holds v p now ↔ k.Holds v p now' := by
  cases k with
  | expiry => exact absurd rfl h
  | issuer | audience | use | subject => exact Iff.rfl

theorem ne_expiry_of_early (early : k.rank < rank .expiry) : k ≠ .expiry := by
  rintro rfl
  exact Nat.lt_irrefl _ early

/-- An expiry that has come does not go away. -/
theorem expiry_antitone (le : now ≤ now') (h : expiry.Holds v p now') : expiry.Holds v p now := by
  obtain ⟨e, given, least, greatest, later⟩ := h
  exact ⟨e, given, least, greatest, Int.lt_of_le_of_lt le later⟩

theorem rank_lt_of_timeless (reports : k.Reports p f) (timeless : f.Timeless) :
    k.rank < rank .expiry := by
  cases reports with
  | issuer | noClient | otherClient => decide
  | expiry | noUse | otherUse | subject => exact nomatch timeless

theorem lt_rank_of_late (reports : k.Reports p f) (late : ¬ f.Timeless) (other : f ≠ .expired) :
    rank .expiry < k.rank := by
  cases reports with
  | issuer => exact absurd .issuer late
  | noClient | otherClient => exact absurd (.audience _) late
  | expiry => exact absurd rfl other
  | noUse | otherUse | subject => decide

theorem expiry_of_reports_expired (reports : k.Reports p .expired) : k = .expiry := by
  cases reports
  rfl

namespace FailsFirst

theorem of_early (h : k.FailsFirst v p now) (early : k.rank < rank .expiry) :
    k.FailsFirst v p now' := by
  have apart {k' : Check} (hk : k'.rank < rank .expiry) :
      k'.Holds v p now ↔ k'.Holds v p now' := holds_iff_of_ne (ne_expiry_of_early hk)
  exact ⟨mt (apart early).2 h.1, fun k' hk => (apart (Nat.lt_trans hk early)).1 (h.2 k' hk)⟩

/-- Where issuer and client hold at some time, an expiry that has come is the first to fail. -/
theorem expiry_of_holds (before : ∀ k' : Check, k'.rank < rank .expiry → k'.Holds v p now)
    (come : ¬ expiry.Holds v p now') : expiry.FailsFirst v p now' :=
  ⟨come, fun k' hk => (holds_iff_of_ne (ne_expiry_of_early hk)).1 (before k' hk)⟩

theorem expiry_of_le (h : expiry.FailsFirst v p now) (le : now ≤ now') :
    expiry.FailsFirst v p now' :=
  expiry_of_holds h.2 fun holds => h.1 (expiry_antitone le holds)

/-- A check behind the expiry fails first at every time before the expiry. -/
theorem of_late (h : k.FailsFirst v p now) (late : rank .expiry < k.rank) (now' : Int) :
    k.FailsFirst v p now' ∨ expiry.FailsFirst v p now' := by
  rcases Classical.em (expiry.Holds v p now') with holds | come
  · refine .inl ⟨?_, fun k' hk => ?_⟩
    · have behind : k ≠ .expiry := by
        rintro rfl
        exact Nat.lt_irrefl _ late
      exact mt (holds_iff_of_ne behind).2 h.1
    · rcases Classical.em (k' = .expiry) with rfl | other
      · exact holds
      · exact (holds_iff_of_ne other).1 (h.2 k' hk)
  · exact .inr (expiry_of_holds (fun k' hk => h.2 k' (Nat.lt_trans hk late)) come)

end FailsFirst

end Check

namespace Validator

variable {v : Validator} {p : Payload} {token : String} {now now' : Int} {t : Token}
  {f : TokenFault}

/-- The object that was signed gives the expiry, in seconds since the epoch. -/
def Expires (token : String) (e : Int) : Prop :=
  ∃ s ms, Segments.ofText? token.toList = some s ∧ Segments.json s.payload = .ok (.obj ms) ∧
    ms.lookup "exp" = some (.int e)

/-- An expiry is no time, or one that has come. -/
def Past (now e : Int) : Prop := e < leastTime ∨ greatestTime < e ∨ e ≤ now

theorem expires_of_signed {e : Int64} (signed : v.Signed token p) (given : p.expiry = some e) :
    Expires token e.toInt := by
  obtain ⟨s, _, _, opens, _, _, payload⟩ := signed
  rcases Payload.describes_of_segment payload with ⟨ms, object, describes⟩ | none
  · have member := describes.expiry
    rw [given] at member
    cases member with
    | value member _ read => exact ⟨s, ms, opens.1, object, Json.Shape.read_int64.1 read ▸ member⟩
  · exact nomatch given.symm.trans none

theorem expiry_holds_iff (carries : p.Carries t) :
    Check.expiry.Holds v p now ↔ ¬ Past now t.expiresAt := by
  obtain ⟨e, given, same⟩ := carries.expiresAt
  simp only [Check.Holds, Past, given, same, Option.some.injEq, exists_eq_left']
  omega

/-- An accepted token tells its expiry, which is a time to come. -/
theorem expires_of_accepted (h : v.validate token now = .ok t) :
    Expires token t.expiresAt ∧ ¬ Past now t.expiresAt := by
  obtain ⟨p, signed, holds, carries⟩ := validate_eq_ok.1 h
  obtain ⟨e, given, same⟩ := carries.expiresAt
  exact ⟨same ▸ expires_of_signed signed given, (expiry_holds_iff carries).1 (holds .expiry)⟩

/-! ### Two times -/

/-- A token that is accepted once is accepted with the same claims until its expiry comes. -/
theorem validate_of_accepted (h : v.validate token now = .ok t) (now' : Int) :
    v.validate token now' = if now' < t.expiresAt then .ok t else .error .expired := by
  obtain ⟨p, signed, holds, carries⟩ := validate_eq_ok.1 h
  have toCome : Check.expiry.Holds v p now' ↔ now' < t.expiresAt := by
    have range := (expiry_holds_iff carries).1 (holds .expiry)
    rw [expiry_holds_iff carries]
    unfold Past at range ⊢
    omega
  split
  · rename_i later
    refine validate_eq_ok.2 ⟨p, signed, fun k => ?_, carries⟩
    rcases Classical.em (k = .expiry) with rfl | other
    · exact toCome.2 later
    · exact (Check.holds_iff_of_ne other).1 (holds k)
  · rename_i come
    have first : Check.expiry.FailsFirst v p now' :=
      .expiry_of_holds (fun k _ => holds k) (mt toCome.1 come)
    exact validate_eq_error.2 (.inr ⟨p, signed, .expiry, first, .expiry⟩)

theorem validate_of_timeless (h : v.validate token now = .error f) (timeless : f.Timeless)
    (now' : Int) : v.validate token now' = .error f := by
  rcases validate_eq_error.1 h with unsigned | ⟨p, signed, k, first, reports⟩
  · exact validate_eq_error.2 (.inl unsigned)
  · have early := Check.rank_lt_of_timeless reports timeless
    exact validate_eq_error.2 (.inr ⟨p, signed, k, first.of_early early, reports⟩)

/-- An expiry that has come stays. -/
theorem validate_of_expired (h : v.validate token now = .error .expired) (le : now ≤ now') :
    v.validate token now' = .error .expired := by
  rcases validate_eq_error.1 h with ⟨_, _, signature⟩ | ⟨p, signed, k, first, reports⟩
  · exact nomatch signature
  · obtain rfl := Check.expiry_of_reports_expired reports
    exact validate_eq_error.2 (.inr ⟨p, signed, .expiry, first.expiry_of_le le, reports⟩)

/-- A fault from behind the expiry gives way to the expiry alone. -/
theorem validate_of_late (h : v.validate token now = .error f) (late : ¬ f.Timeless)
    (other : f ≠ .expired) (now' : Int) :
    v.validate token now' = .error f ∨ v.validate token now' = .error .expired := by
  rcases validate_eq_error.1 h with ⟨g, _, rfl⟩ | ⟨p, signed, k, first, reports⟩
  · exact absurd (.signature _) late
  · have behind := Check.lt_rank_of_late reports late other
    rcases first.of_late behind now' with same | come
    · exact .inl (validate_eq_error.2 (.inr ⟨p, signed, k, same, reports⟩))
    · exact .inr (validate_eq_error.2 (.inr ⟨p, signed, .expiry, come, .expiry⟩))

/-- A token that is refused is refused from then on. -/
theorem validate_of_refused (h : v.validate token now = .error f) (le : now ≤ now') :
    ∃ g, v.validate token now' = .error g := by
  rcases Classical.em f.Timeless with timeless | late
  · exact ⟨f, validate_of_timeless h timeless now'⟩
  rcases Classical.em (f = .expired) with rfl | other
  · exact ⟨_, validate_of_expired h le⟩
  · rcases validate_of_late h late other now' with same | come
    · exact ⟨f, same⟩
    · exact ⟨_, come⟩

/-- The verdict on a token at two times. An acceptance lasts until the expiry that the token gives,
and a refusal from then on; a fault from before the expiry is there at every time, and any other
alternates with the expiry alone. Without an expiry that is a time to come no token is accepted. -/
theorem validate_over_time (v : Validator) (token : String) :
    (∀ now t, v.validate token now = .ok t → Expires token t.expiresAt ∧ ∀ now',
      (now' < t.expiresAt → v.validate token now' = .ok t) ∧
      (t.expiresAt ≤ now' → v.validate token now' = .error .expired)) ∧
    (∀ now f, v.validate token now = .error f →
      (∀ now', now ≤ now' → ∃ g, v.validate token now' = .error g) ∧
      (f.Timeless → ∀ now', v.validate token now' = .error f) ∧
      (¬ f.Timeless → (∀ now' g, v.validate token now' = .error g → ¬ g.Timeless) ∧
        (f ≠ .expired → ∀ now',
          v.validate token now' = .error f ∨ v.validate token now' = .error .expired))) ∧
    ∀ now, (∀ e, Expires token e → Past now e) → ∀ t, v.validate token now ≠ .ok t := by
  refine ⟨fun now t accepted => ?_, fun now f refused => ?_, fun now past t accepted => ?_⟩
  · refine ⟨(expires_of_accepted accepted).1, fun now' => ?_⟩
    rw [validate_of_accepted accepted now']
    exact ⟨fun later => if_pos later, fun come => if_neg (Int.not_lt.2 come)⟩
  · refine ⟨fun now' => validate_of_refused refused, validate_of_timeless refused, fun late => ?_⟩
    refine ⟨fun now' g refused' timeless => ?_, validate_of_late refused late⟩
    -- A timeless fault at one time is there at the other, where it would be the one given.
    have same := validate_of_timeless refused' timeless now
    exact late (Except.error.inj (refused.symm.trans same) ▸ timeless)
  · obtain ⟨expires, toCome⟩ := expires_of_accepted accepted
    exact toCome (past _ expires)

end Validator

end ClaimGate
