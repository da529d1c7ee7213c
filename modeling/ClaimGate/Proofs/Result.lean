/-! Results of computations that can fail. A computation in two steps succeeds where both do, and
fails with the fault of the first that fails; a list of them succeeds where each does. So a result
is opened from its last step back to its first, with what each of them gave. Where two relations
give the value of a computation and its fault, and one of them always does, it is decided by them,
and they can be read off its result. -/

namespace ClaimGate

variable {ε ε' α β : Type}

/-! ### Steps -/

section Steps

variable {x : Except ε α}

theorem bind_eq_ok {f : α → Except ε β} {b : β} :
    x >>= f = .ok b ↔ ∃ a, x = .ok a ∧ f a = .ok b := by
  cases x <;> simp [Bind.bind, Except.bind]

theorem bind_eq_error {f : α → Except ε β} {e : ε} :
    x >>= f = .error e ↔ x = .error e ∨ ∃ a, x = .ok a ∧ f a = .error e := by
  cases x <;> simp [Bind.bind, Except.bind]

theorem map_eq_ok {f : α → β} {b : β} : f <$> x = .ok b ↔ ∃ a, x = .ok a ∧ f a = b := by
  cases x <;> simp [Functor.map, Except.map]

theorem mapError_eq_ok {f : ε → ε'} {a : α} : x.mapError f = .ok a ↔ x = .ok a := by
  cases x with
  | error e => exact ⟨nofun, nofun⟩
  | ok b => exact ⟨fun h => congrArg _ (Except.ok.inj h), fun h => congrArg _ (Except.ok.inj h)⟩

end Steps

/-- A part that must be there is read exactly where it is. -/
theorem required_eq_ok {o : Option α} {f : ε} {a : α} :
    (o.elim (throw f) pure : Except ε α) = .ok a ↔ o = some a := by
  cases o with
  | none => exact ⟨fun h => (nomatch h), fun h => (nomatch h)⟩
  | some b => exact ⟨fun h => congrArg some (Except.ok.inj h), fun h => h ▸ rfl⟩

theorem required_eq_error {o : Option α} {f e : ε} :
    (o.elim (throw f) pure : Except ε α) = .error e ↔ o = none ∧ e = f := by
  cases o with
  | none => exact ⟨fun h => ⟨rfl, (Except.error.inj h).symm⟩, fun ⟨_, h⟩ => h ▸ rfl⟩
  | some b => exact ⟨fun h => (nomatch h), fun ⟨h, _⟩ => (nomatch h)⟩

/-- A list of readings that succeeds gives what each of them gives. -/
theorem mapM_eq_ok {f : α → Except ε β} {l : List α} {bs : List β} :
    l.mapM f = .ok bs ↔ l.map f = bs.map .ok := by
  induction l generalizing bs with
  | nil => simp [pure, Except.pure, eq_comm]
  | cons a r ih =>
    rw [List.mapM_cons, bind_eq_ok, List.map_cons, eq_comm, List.map_eq_cons_iff]
    constructor
    · rintro ⟨b, hb, rest⟩
      obtain ⟨bs', hbs, whole⟩ := bind_eq_ok.1 rest
      exact ⟨b, bs', (Except.ok.inj whole).symm, hb.symm, (ih.1 hbs).symm⟩
    · rintro ⟨b, bs', rfl, hb, hbs⟩
      exact ⟨b, hb.symm, bind_eq_ok.2 ⟨bs', ih.2 hbs.symm, rfl⟩⟩

/-! ### Decisions -/

/-- One relation gives the value of a result, another its error, and one of them always does. -/
structure DecidedBy (x : Except ε α) (Ok : α → Prop) (Error : ε → Prop) : Prop where
  ok : ∀ a, Ok a → x = .ok a
  error : ∀ e, Error e → x = .error e
  either : (∃ a, Ok a) ∨ ∃ e, Error e

namespace DecidedBy

variable {x : Except ε α} {Ok : α → Prop} {Error : ε → Prop}

theorem eq_ok (h : DecidedBy x Ok Error) {a : α} : x = .ok a ↔ Ok a := by
  refine ⟨fun given => ?_, h.ok a⟩
  rcases h.either with ⟨b, ok⟩ | ⟨e, error⟩
  · exact Except.ok.inj ((h.ok b ok).symm.trans given) ▸ ok
  · exact nomatch (h.error e error).symm.trans given

theorem eq_error (h : DecidedBy x Ok Error) {e : ε} : x = .error e ↔ Error e := by
  refine ⟨fun given => ?_, h.error e⟩
  rcases h.either with ⟨a, ok⟩ | ⟨e', error⟩
  · exact nomatch (h.ok a ok).symm.trans given
  · exact Except.error.inj ((h.error e' error).symm.trans given) ▸ error

end DecidedBy

end ClaimGate
