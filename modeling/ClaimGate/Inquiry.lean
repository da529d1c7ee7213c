import ClaimGate.Audit

/-! Inquiries: the course of a decision as data. An inquiry asks queries one after
another, notes events, and ends in a result or a denial. A store runs it and gives each
query its answer or its fault; what follows from a fault is for the inquiry to say. Most
look up a row, which is to refuse at a stage that they name where the store fails. So
whatever holds of every course holds on every store. -/

namespace ClaimGate

inductive Inquiry (α : Type) where
  | done (a : α)
  | refuse (d : Denial)
  | note (e : Event) (next : Inquiry α)
  | ask (q : Query) (next : Except StoreFault q.Answer → Inquiry α)

namespace Inquiry

variable {α β : Type}

/-! ### Composition -/

def bind : Inquiry α → (α → Inquiry β) → Inquiry β
  | done a, f => f a
  | refuse d, _ => refuse d
  | note e next, f => note e (next.bind f)
  | ask q next, f => ask q fun x => (next x).bind f

instance : Monad Inquiry where
  pure := done
  bind := bind

/-- Asks a query, for its answer or its fault. -/
def query (q : Query) : Inquiry (Except StoreFault q.Answer) := ask q done

/-- Goes on with an answer, and refuses at a stage where the store failed. -/
def orLost (stage : Family) : Except StoreFault α → Inquiry α
  | .ok a => done a
  | .error f => refuse (.lookup stage f)

/-- Asks a query for its answer, at a stage. -/
def lookUp (stage : Family) (q : Query) : Inquiry q.Answer := (query q).bind (orLost stage)

/-- Goes on with the value that an answer holds, and refuses where it holds none. -/
def orRefuse (d : Denial) : Option α → Inquiry α
  | some a => done a
  | none => refuse d

def ofExcept : Except Denial α → Inquiry α
  | .ok a => done a
  | .error d => refuse d

/-! ### Runs -/

/-- The outcome on a store and the events noted on the way. -/
def run (s : Store) : Inquiry α → Except Denial α × List Event
  | done a => (.ok a, [])
  | refuse d => (.error d, [])
  | note e next =>
    let (outcome, events) := run s next
    (outcome, e :: events)
  | ask q next => run s (next (s.answer q))

def outcome (s : Store) (i : Inquiry α) : Except Denial α := (i.run s).1

def events (s : Store) (i : Inquiry α) : List Event := (i.run s).2

/-- The queries that a run asks, in order, those that failed included. -/
def asked (s : Store) : Inquiry α → List Query
  | done _ => []
  | refuse _ => []
  | note _ next => asked s next
  | ask q next => q :: asked s (next (s.answer q))

/-! ### Laws -/

@[simp] theorem pure_eq (a : α) : (pure a : Inquiry α) = done a := rfl

@[simp] theorem bind_eq (i : Inquiry α) (f : α → Inquiry β) : i >>= f = i.bind f := rfl

@[simp] theorem bind_done (i : Inquiry α) : i.bind done = i := by
  induction i with
  | done => rfl
  | refuse => rfl
  | note e next ih => simp [bind, ih]
  | ask q next ih => simp [bind, ih]

theorem bind_assoc {γ : Type} (i : Inquiry α) (f : α → Inquiry β) (g : β → Inquiry γ) :
    (i.bind f).bind g = i.bind fun a => (f a).bind g := by
  induction i with
  | done => rfl
  | refuse => rfl
  | note e next ih => simp [bind, ih]
  | ask q next ih => simp [bind, ih]

/-- A run of two inquiries in turn: the second runs where the first succeeds, and its
events follow those of the first. -/
theorem run_bind (s : Store) (i : Inquiry α) (f : α → Inquiry β) :
    (i.bind f).run s =
      match i.run s with
      | (.ok a, events) => (((f a).run s).1, events ++ ((f a).run s).2)
      | (.error d, events) => (.error d, events) := by
  induction i with
  | done => simp [bind, run]
  | refuse => rfl
  | note e next ih =>
    simp only [bind, run, ih]
    rcases next.run s with ⟨_ | _, _⟩ <;> rfl
  | ask q next ih => exact ih (s.answer q)

end Inquiry

end ClaimGate
