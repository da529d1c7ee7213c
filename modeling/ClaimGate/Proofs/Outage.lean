import ClaimGate.Proofs.Surfaces

/-! Outages. An outage lets queries fail, each with a fault of its own; the store answers
all others as before. A run asks its next query by the answers it has, so during an outage
it asks what it asked before, up to the first query that fails. Both surfaces do nothing but
look up, each query at the stage of its family, and so a run ends there.
Proved: on both surfaces a run either does not notice an outage at all or fails with the
fault of that query at the stage of its family, and then no claim is told. -/

namespace ClaimGate

/-! ### Stores that fail -/

/-- The queries that fail, each with its fault. -/
def Outage := Query → Option StoreFault

/-- The store during an outage. -/
def Store.during (s : Store) (o : Outage) : Store where
  answer q :=
    match o q with
    | some f => .error f
    | none => s.answer q

def Service.during (s : Service) (o : Outage) : Service := { s with store := s.store.during o }

/-- Of the queries in their order, the first that the store fails, with its fault. -/
inductive Store.FirstFault (s : Store) (q : Query) (f : StoreFault) : List Query → Prop
  | here {rest : List Query} (fails : s.answer q = .error f) : FirstFault s q f (q :: rest)
  | later {b : Query} {a : b.Answer} {rest : List Query} (answered : s.answer b = .ok a)
      (first : FirstFault s q f rest) : FirstFault s q f (b :: rest)

/-- The stage of a decision at which a query is asked, as messages name it. -/
inductive Query.AskedAt : Query → String → Prop
  | userBySubject (subject : String) : AskedAt (.userBySubject subject) "user"
  | userByTokenSubject (subject : String) : AskedAt (.userByTokenSubject subject) "user"
  | userById (id : Int64) : AskedAt (.userById id) "user"
  | permission (user organization : Int64) :
      AskedAt (.permission user organization) "organization claim"
  | features (organization : Int64) : AskedAt (.features organization) "organization claim"
  | teams (user : Int64) : AskedAt (.teams user) "team claims"
  | datasetByNodeId (organization : Int64) (nodeId : String) :
      AskedAt (.datasetByNodeId organization nodeId) "dataset claim"
  | grants (organization dataset user : Int64) :
      AskedAt (.grants organization dataset user) "dataset claim"
  | manifest (id : String) : AskedAt (.manifest id) "manifest"

theorem Query.askedAt_stage (q : Query) : q.AskedAt q.family.stage := by
  cases q with
  | userBySubject subject => exact .userBySubject subject
  | userByTokenSubject subject => exact .userByTokenSubject subject
  | userById id => exact .userById id
  | permission user organization => exact .permission user organization
  | features organization => exact .features organization
  | teams user => exact .teams user
  | datasetByNodeId organization nodeId => exact .datasetByNodeId organization nodeId
  | grants organization dataset user => exact .grants organization dataset user
  | manifest id => exact .manifest id

namespace Store

variable {s : Store} {o : Outage} {q : Query}

/-- What is answered during an outage is answered so without it. -/
theorem answer_of_during {a : q.Answer} (h : (s.during o).answer q = .ok a) :
    s.answer q = .ok a := by
  unfold during at h
  cases ho : o q with
  | some f =>
    simp only [ho] at h
    exact nomatch h
  | none =>
    simp only [ho] at h
    exact h

theorem not_firstFault_nil {f : StoreFault} : ¬ s.FirstFault q f [] := by
  intro first
  cases first

/-- Either the store answers all queries, or there is a first that it fails. -/
theorem answers_or_firstFault (s : Store) (qs : List Query) :
    (∀ q ∈ qs, ∃ a, s.answer q = .ok a) ∨ ∃ q f, s.FirstFault q f qs := by
  induction qs with
  | nil => exact .inl (by simp)
  | cons b rest ih =>
    cases hb : s.answer b with
    | error f => exact .inr ⟨b, f, .here hb⟩
    | ok a =>
      rcases ih with answered | ⟨q, f, first⟩
      · exact .inl (List.forall_mem_cons.2 ⟨⟨a, hb⟩, answered⟩)
      · exact .inr ⟨q, f, .later hb first⟩

end Store

/-! ### Runs -/

namespace Inquiry

variable {α : Type} {s : Store} {o : Outage}

/-- The outage fails no query of the run. -/
def Unharmed (i : Inquiry α) (s : Store) (o : Outage) : Prop :=
  ∀ q ∈ i.asked s, ∃ a, (s.during o).answer q = .ok a

/-- An outage that fails no query of a run is not noticed. -/
theorem Unharmed.run_eq {i : Inquiry α} (h : i.Unharmed s o) : i.run (s.during o) = i.run s := by
  apply run_congr
  intro q hq
  obtain ⟨a, ha⟩ := h q hq
  rw [ha, Store.answer_of_during ha]

/-- The first query of a run that fails during an outage ends the run, where the course fails
fast. -/
theorem FailsFast.outcome_during {i : Inquiry α} {q : Query} {f : StoreFault} (fast : i.FailsFast)
    (h : (s.during o).FirstFault q f (i.asked s)) :
    i.outcome (s.during o) = .error (.lookup q.family f) := by
  induction fast with
  | done a => exact absurd h Store.not_firstFault_nil
  | refuse d => exact absurd h Store.not_firstFault_nil
  | note _ _ ih => exact ih h
  | @ask b next _ lost _ ih =>
    show (next ((s.during o).answer b)).outcome (s.during o) = _
    rw [asked] at h
    cases h with
    | here fails =>
      rw [fails, lost]
      rfl
    | @later _ a _ answered first =>
      -- The answer is that of the store, so the rest is asked as it would be without the outage.
      rw [Store.answer_of_during answered] at first
      rw [answered]
      exact ih a first

/-- The outage ends the run at a query: the first that fails, in the order in which the run
over the store asks them. The run fails with its fault, at its stage. -/
structure EndsAt (i : Inquiry α) (s : Store) (o : Outage) (q : Query) (stage : String)
    (f : StoreFault) : Prop where
  first : (s.during o).FirstFault q f (i.asked s)
  asked : q.AskedAt stage
  named : q.family.stage = stage
  lost : i.outcome (s.during o) = .error (.lookup q.family f)

/-- A run that fails fast does not notice an outage, or ends at the first query that fails. -/
theorem FailsFast.unharmed_or_endsAt {i : Inquiry α} (fast : i.FailsFast) (s : Store) (o : Outage) :
    i.Unharmed s o ∧ i.run (s.during o) = i.run s ∨ ∃ q stage f, i.EndsAt s o q stage f := by
  rcases Store.answers_or_firstFault (s.during o) (i.asked s) with answered | ⟨q, f, first⟩
  · have unharmed : i.Unharmed s o := answered
    exact .inl ⟨unharmed, unharmed.run_eq⟩
  · exact .inr ⟨q, _, f, first, q.askedAt_stage, rfl, fast.outcome_during first⟩

end Inquiry

/-! ### Answers -/

namespace Service

theorem authorize_during (s : Service) (o : Outage) (now : Int) (r : GatewayRequest) :
    (s.inquiry now r).Unharmed s.store o ∧ (s.during o).authorize now r = s.authorize now r ∨
      ∃ q stage f, (s.inquiry now r).EndsAt s.store o q stage f ∧
        ((s.during o).authorize now r).1 = ⟨false, none⟩ := by
  have fast := s.inquiry_failsFast now r
  rcases fast.unharmed_or_endsAt s.store o with ⟨unharmed, same⟩ | ⟨q, stage, f, ends⟩
  · exact .inl ⟨unharmed, authorize_congr same⟩
  · have refused : ((s.during o).inquiry now r).outcome (s.during o).store =
        .error (.lookup q.family f) := ends.lost
    exact .inr ⟨q, stage, f, ends, authorize_of_refused refused⟩

theorem invoke_during (s : Service) (o : Outage) (r : DirectRequest) :
    (r.inquiry s.policy).Unharmed s.store o ∧ (s.during o).invoke r = s.invoke r ∨
      ∃ q stage f, (r.inquiry s.policy).EndsAt s.store o q stage f ∧
        ((s.during o).invoke r).1 =
          ⟨false, none, some (stage ++ " lookup failed: " ++ f.message)⟩ := by
  have fast : (r.inquiry s.policy).FailsFast := r.inquiry_failsFast
  rcases fast.unharmed_or_endsAt s.store o with ⟨unharmed, same⟩ | ⟨q, stage, f, ends⟩
  · exact .inl ⟨unharmed, invoke_congr same⟩
  · have failed : ((s.during o).invoke r).1 = .failed (Denial.lookup q.family f).message :=
      invoke_eq_failed.2 ends.lost
    refine .inr ⟨q, stage, f, ends, ?_⟩
    rw [failed, ← ends.named]
    rfl

/-- On both surfaces an outage that fails no query of a run is not noticed. Any other ends
the run at the first query that it fails: the gateway denies, and the direct surface tells the
stage of that query and its fault. So what is granted during an outage is granted without it,
with the same claims. -/
theorem outage_failsClosed (s : Service) (o : Outage) :
    (∀ now r,
        (s.inquiry now r).Unharmed s.store o ∧ (s.during o).authorize now r = s.authorize now r ∨
        ∃ q stage f, (s.inquiry now r).EndsAt s.store o q stage f ∧
          ((s.during o).authorize now r).1 = ⟨false, none⟩) ∧
      (∀ r, (r.inquiry s.policy).Unharmed s.store o ∧ (s.during o).invoke r = s.invoke r ∨
        ∃ q stage f, (r.inquiry s.policy).EndsAt s.store o q stage f ∧
          ((s.during o).invoke r).1 =
            ⟨false, none, some (stage ++ " lookup failed: " ++ f.message)⟩) ∧
      (∀ now r, ((s.during o).authorize now r).1.isAuthorized = true →
        (s.during o).authorize now r = s.authorize now r) ∧
      ∀ r, ((s.during o).invoke r).1.claims ≠ none → (s.during o).invoke r = s.invoke r := by
  refine ⟨s.authorize_during o, s.invoke_during o, ?_, ?_⟩
  · intro now r granted
    rcases s.authorize_during o now r with ⟨_, same⟩ | ⟨q, stage, f, _, denied⟩
    · exact same
    · rw [denied] at granted
      exact nomatch granted
  · intro r told
    rcases s.invoke_during o r with ⟨_, same⟩ | ⟨q, stage, f, _, failed⟩
    · exact same
    · rw [failed] at told
      exact absurd rfl told

end Service

end ClaimGate
