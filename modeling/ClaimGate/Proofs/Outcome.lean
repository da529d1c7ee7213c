import ClaimGate.Inquiry
import ClaimGate.Proofs.Result

/-! Outcomes of inquiries on a store. The outcome of two inquiries in turn is that of the
second on what the first found, so each step of a decision is opened by itself: a look-up
yields what the store answers or ends the run, and a value that is missing is refused.
A run hangs on nothing but the answers to its own queries: stores that agree on what an
inquiry may ask run it alike. An inquiry may go on without an answer; one that does nothing
but look up fails fast, and succeeds only where all that it asked was answered. -/

namespace ClaimGate

namespace Inquiry

variable {α β : Type} {s : Store} {stage : Family}

/-! ### Equations -/

@[simp] theorem outcome_done (a : α) : (done a).outcome s = .ok a := rfl

@[simp] theorem outcome_refuse (d : Denial) : (refuse d : Inquiry α).outcome s = .error d := rfl

@[simp] theorem outcome_note (e : Event) (i : Inquiry α) : (note e i).outcome s = i.outcome s := rfl

@[simp] theorem outcome_orRefuse_some (d : Denial) (a : α) :
    (orRefuse d (some a)).outcome s = .ok a := rfl

@[simp] theorem outcome_orRefuse_none (d : Denial) :
    (orRefuse d (none : Option α)).outcome s = .error d := rfl

@[simp] theorem outcome_ofExcept (x : Except Denial α) : (ofExcept x).outcome s = x := by
  cases x <;> rfl

theorem run_lookUp (stage : Family) (q : Query) :
    (lookUp stage q).run s = (orLost stage (s.answer q)).run s :=
  rfl

/-- The second inquiry has the last word where the first succeeds. -/
theorem outcome_bind (i : Inquiry α) (f : α → Inquiry β) :
    (i.bind f).outcome s = (i.outcome s).bind fun a => (f a).outcome s := by
  simp only [outcome, run_bind]
  rcases i.run s with ⟨_ | _, _⟩ <;> rfl

theorem outcome_lookUp_of_ok {q : Query} {a : q.Answer} (h : s.answer q = .ok a) :
    (lookUp stage q).outcome s = .ok a := by
  simp only [outcome, run_lookUp, h]
  rfl

/-- A look-up that the store fails is a denial at its stage. -/
theorem outcome_lookUp_of_error {q : Query} {f : StoreFault} (h : s.answer q = .error f) :
    (lookUp stage q).outcome s = .error (.lookup stage f) := by
  simp only [outcome, run_lookUp, h]
  rfl

/-! ### Success -/

theorem outcome_lookUp_eq_ok {q : Query} {a : q.Answer} :
    (lookUp stage q).outcome s = .ok a ↔ s.answer q = .ok a := by
  cases h : s.answer q with
  | ok b => simp [outcome_lookUp_of_ok h]
  | error f => simp [outcome_lookUp_of_error h]

theorem outcome_orRefuse_eq_ok {d : Denial} {o : Option α} {a : α} :
    (orRefuse d o).outcome s = .ok a ↔ o = some a := by
  cases o <;> simp

theorem outcome_bind_eq_ok {i : Inquiry α} {f : α → Inquiry β} {b : β} :
    (i.bind f).outcome s = .ok b ↔ ∃ a, i.outcome s = .ok a ∧ (f a).outcome s = .ok b := by
  rw [outcome_bind]
  cases i.outcome s with
  | ok a => simp [Except.bind]
  | error d => simp [Except.bind]

/-- A row is found where the store answers it. -/
theorem outcome_find_eq_ok {q : Query} {d : Denial} {f : q.Answer → Option α} {a : q.Answer} {b : α}
    (hf : ∀ x, f x = some b ↔ x = a) :
    ((lookUp stage q).bind fun x => orRefuse d (f x)).outcome s = .ok b ↔ s.answer q = .ok a := by
  simp [outcome_bind_eq_ok, outcome_lookUp_eq_ok, outcome_orRefuse_eq_ok, hf]

/-! ### Failure -/

theorem outcome_lookUp_eq_error {q : Query} {d : Denial} :
    (lookUp stage q).outcome s = .error d ↔ ∃ f, s.answer q = .error f ∧ d = .lookup stage f := by
  cases h : s.answer q with
  | ok a => simp [outcome_lookUp_of_ok h]
  | error f => simp [outcome_lookUp_of_error h, eq_comm]

theorem outcome_orRefuse_eq_error {d d' : Denial} {o : Option α} :
    (orRefuse d o).outcome s = .error d' ↔ o = none ∧ d' = d := by
  cases o <;> simp [eq_comm]

theorem outcome_bind_eq_error {i : Inquiry α} {f : α → Inquiry β} {d : Denial} :
    (i.bind f).outcome s = .error d ↔
      i.outcome s = .error d ∨ ∃ a, i.outcome s = .ok a ∧ (f a).outcome s = .error d := by
  rw [outcome_bind]
  cases i.outcome s with
  | ok a => simp [Except.bind]
  | error d' => simp [Except.bind]

/-- A row is not found for want of an answer, or of the row. -/
theorem outcome_find_eq_error {q : Query} {d d' : Denial} {f : q.Answer → Option α} {a : q.Answer}
    (hf : ∀ x, f x = none ↔ x = a) :
    ((lookUp stage q).bind fun x => orRefuse d (f x)).outcome s = .error d' ↔
      (∃ e, s.answer q = .error e ∧ d' = .lookup stage e) ∨ s.answer q = .ok a ∧ d' = d := by
  rw [outcome_bind_eq_error, outcome_lookUp_eq_error]
  refine or_congr Iff.rfl ?_
  simp only [outcome_lookUp_eq_ok, outcome_orRefuse_eq_error, hf]
  constructor
  · rintro ⟨_, answered, rfl, same⟩
    exact ⟨answered, same⟩
  · rintro ⟨answered, same⟩
    exact ⟨a, answered, rfl, same⟩

/-! ### Runs -/

/-- Two courses run alike where their first parts do, and where what follows runs alike on
what these found. -/
theorem run_bind_congr {s' : Store} {i i' : Inquiry α} {f f' : α → Inquiry β}
    (first : i.run s = i'.run s') (rest : ∀ a, i.outcome s = .ok a → (f a).run s = (f' a).run s') :
    (i.bind f).run s = (i'.bind f').run s' := by
  rw [run_bind, run_bind, ← first]
  rcases h : i.run s with ⟨_ | a, events⟩
  · rfl
  · have found : i.outcome s = .ok a := congrArg Prod.fst h
    simp only [rest a found]

theorem run_lookUp_congr {s' : Store} {q : Query} (h : s.answer q = s'.answer q) :
    (lookUp stage q).run s = (lookUp stage q).run s' := by
  rw [run_lookUp, run_lookUp, h]
  cases s'.answer q <;> rfl

/-- Behind an answer the run is that of what follows. -/
theorem run_lookUp_bind_of_ok {q : Query} {f : q.Answer → Inquiry α} {a : q.Answer}
    (h : s.answer q = .ok a) : ((lookUp stage q).bind f).run s = (f a).run s := by
  rw [run_bind, run_lookUp, h]
  rfl

theorem run_lookUp_bind_of_error {q : Query} {f : q.Answer → Inquiry α} {fault : StoreFault}
    (h : s.answer q = .error fault) :
    ((lookUp stage q).bind f).run s = (.error (.lookup stage fault), []) := by
  rw [run_bind, run_lookUp, h]
  rfl

/-! ### Queries -/

/-- A run hangs on the answers to the queries that it asks, and on nothing else. -/
theorem run_congr {s' : Store} {i : Inquiry α} (h : ∀ q ∈ i.asked s, s'.answer q = s.answer q) :
    i.run s' = i.run s := by
  induction i with
  | done a => rfl
  | refuse d => rfl
  | note e next ih =>
    have hn : next.run s' = next.run s := ih h
    simp only [run, hn]
  | ask q next ih =>
    obtain ⟨head, rest⟩ := List.forall_mem_cons.1 h
    show (next (s'.answer q)).run s' = (next (s.answer q)).run s
    rw [head]
    exact ih (s.answer q) rest

/-- The inquiry keeps to these queries and events: it asks and notes no others, whatever a store
answers. Each of its queries ends it where the store fails, with the fault and at the stage of the
query's family. -/
inductive KeepsTo (P : Query → Prop) (N : Event → Prop) : Inquiry α → Prop
  | done (a : α) : KeepsTo P N (done a)
  | refuse (d : Denial) : KeepsTo P N (refuse d)
  | note {e : Event} {next : Inquiry α} (noted : N e) (rest : KeepsTo P N next) :
      KeepsTo P N (note e next)
  | ask {q : Query} {next : Except StoreFault q.Answer → Inquiry α} (holds : P q)
      (lost : ∀ f, next (.error f) = .refuse (.lookup q.family f))
      (rest : ∀ a, KeepsTo P N (next (.ok a))) : KeepsTo P N (ask q next)

namespace KeepsTo

variable {P : Query → Prop} {N : Event → Prop}

theorem lookUp {q : Query} (holds : P q) : KeepsTo P N (lookUp q.family q) :=
  .ask holds (fun _ => rfl) fun a => .done a

theorem orRefuse (d : Denial) (o : Option α) : KeepsTo P N (orRefuse d o) := by
  cases o with
  | none => exact .refuse d
  | some a => exact .done a

theorem ofExcept (x : Except Denial α) : KeepsTo P N (ofExcept x) := by
  cases x with
  | ok a => exact .done a
  | error d => exact .refuse d

theorem bind {i : Inquiry α} {f : α → Inquiry β} (first : i.KeepsTo P N)
    (second : ∀ a, (f a).KeepsTo P N) : (i.bind f).KeepsTo P N := by
  induction first with
  | done a => exact second a
  | refuse d => exact .refuse d
  | note noted _ ih => exact .note noted ih
  | ask holds lost _ ih => exact .ask holds (fun f => congrArg (Inquiry.bind · _) (lost f)) ih

theorem imp {P' : Query → Prop} {i : Inquiry α} (h : i.KeepsTo P N) (hP : ∀ q, P q → P' q) :
    i.KeepsTo P' N := by
  induction h with
  | done a => exact .done a
  | refuse d => exact .refuse d
  | note noted _ ih => exact .note noted ih
  | ask holds lost _ ih => exact .ask (hP _ holds) lost ih

theorem of_mem_asked {i : Inquiry α} (h : i.KeepsTo P N) : ∀ q ∈ i.asked s, P q := by
  induction h with
  | done a => simp [asked]
  | refuse d => simp [asked]
  | note _ _ ih => exact ih
  | @ask q next holds lost _ ih =>
    refine List.forall_mem_cons.2 ⟨holds, ?_⟩
    cases s.answer q with
    | error f =>
      rw [lost]
      exact List.forall_mem_nil _
    | ok a => exact ih a

theorem of_mem_events {i : Inquiry α} (h : i.KeepsTo P N) : ∀ e ∈ i.events s, N e := by
  induction h with
  | done a => exact List.forall_mem_nil _
  | refuse d => exact List.forall_mem_nil _
  | note noted _ ih => exact List.forall_mem_cons.2 ⟨noted, ih⟩
  | @ask q next _ lost _ ih =>
    show ∀ e ∈ (next (s.answer q)).events s, N e
    cases s.answer q with
    | error f =>
      rw [lost]
      exact List.forall_mem_nil _
    | ok a => exact ih a

/-- Stores that answer alike whatever a course can come to ask run it alike. -/
theorem run_eq {s' : Store} {i : Inquiry α} (h : i.KeepsTo P N)
    (alike : ∀ q, P q → s'.answer q = s.answer q) : i.run s' = i.run s :=
  run_congr fun q asked => alike q (h.of_mem_asked q asked)

/-- A run that succeeds had an answer to all that it asked. -/
theorem answered {i : Inquiry α} {a : α} (h : i.KeepsTo P N) (succeeds : i.outcome s = .ok a) :
    ∀ q ∈ i.asked s, ∃ b, s.answer q = .ok b := by
  induction h with
  | done a => simp [asked]
  | refuse d => simp [asked]
  | note _ _ ih => exact ih succeeds
  | @ask q next _ lost _ ih =>
    have after : (next (s.answer q)).outcome s = .ok a := succeeds
    cases hq : s.answer q with
    | error f =>
      rw [hq, lost] at after
      exact nomatch after
    | ok b =>
      rw [hq] at after
      rw [asked, hq]
      exact List.forall_mem_cons.2 ⟨⟨b, hq⟩, ih b after⟩

end KeepsTo

/-- Every query of the inquiry is among these. -/
def AsksOnly (P : Query → Prop) (i : Inquiry α) : Prop := i.KeepsTo P fun _ => True

/-- The inquiry notes nothing. -/
def Silent (i : Inquiry α) : Prop := i.KeepsTo (fun _ => True) fun _ => False

theorem Silent.events {i : Inquiry α} (h : i.Silent) : i.events s = [] :=
  List.eq_nil_iff_forall_not_mem.2 h.of_mem_events

/-- Every query of the inquiry ends it where the store fails. -/
def FailsFast (i : Inquiry α) : Prop := i.KeepsTo (fun _ => True) fun _ => True

end Inquiry

end ClaimGate
