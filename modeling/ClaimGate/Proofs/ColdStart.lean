import ClaimGate.Lifecycle
import ClaimGate.Proofs.SigningKeys

/-! Which initialization counts. A step starts a service if it gets as far as setting one: its
settings pass their check, and its keys are given or served by the addresses of both issuers; the
service is then made of these. Any other initialization fails by itself. Proved: in every history of
a new module the first step that starts a service succeeds, and no other does. A failure leaves the
module as it was, and every client that is ever given decides with the settings, the keys and the
store of the first start. -/

namespace ClaimGate

/-! ### Services -/

/-- The service decides with the settings, the keys and the store: it accepts tokens by the keys,
from the two issuers and for the two clients of the settings, takes those of the service pool's
client for services, follows both switches, and asks the store. -/
structure Service.MadeOf (s : Service) (settings : PoolSettings) (keys : KeySet) (store : Store) :
    Prop where
  keys : s.validator.keys = keys
  issuers : s.validator.issuers = (settings.userIssuer, settings.tokenIssuer)
  clients : s.validator.clients = (settings.userPool.client, settings.tokenPool.client)
  verifies : s.validator.verifies = SigningKey.verifies
  tokenClient : s.tokenClient = settings.tokenPool.client
  bypass : s.policy.superAdminBypass = settings.superAdminBypass
  legacy : s.policy.legacyClaims = settings.legacyClaims
  store : s.store = store

theorem PoolSettings.service_madeOf (settings : PoolSettings) (keys : KeySet) (store : Store) :
    (settings.service keys store).MadeOf settings keys store :=
  ⟨rfl, rfl, rfl, rfl, rfl, rfl, rfl, rfl⟩

/-- There is nothing more to a service than what it is made of. -/
theorem Service.MadeOf.eq {s : Service} {settings : PoolSettings} {keys : KeySet} {store : Store}
    (h : s.MadeOf settings keys store) : s = settings.service keys store := by
  rcases s with ⟨⟨_, _, _, _⟩, _, ⟨_, _⟩, _⟩
  obtain ⟨rfl, rfl, rfl, rfl, rfl, rfl, rfl, rfl⟩ := h
  rfl

/-! ### Steps -/

namespace Host

open PoolSettings (keyAddress)

/-- The step is an initialization that gets as far as setting the service: its settings pass their
check, and the keys are given, or are those of the documents of both pools in turn. -/
inductive Step.Brings : Step → PoolSettings → KeySet → Store → Prop
  | given {settings : PoolSettings} {keys : KeySet} {store : Store}
      (passes : settings.check = .ok ()) :
      Brings (.initWithKeys settings keys store) settings keys store
  | served {network : Network} {settings : PoolSettings} {store : Store} {users tokens : KeySet}
      (passes : settings.check = .ok ())
      (userKeys : users.ServedAt network (keyAddress settings.userIssuer))
      (tokenKeys : tokens.ServedAt network (keyAddress settings.tokenIssuer)) :
      Brings (.init network settings store) settings ((KeySet.empty.extend users).extend tokens)
        store

/-- The step starts a service: it gets as far as setting one, made of what it brings. -/
def Step.Starts (step : Step) (s : Service) : Prop :=
  ∃ settings keys store, step.Brings settings keys store ∧ s.MadeOf settings keys store

/-- The step is an initialization that fails by itself, whatever the module holds. -/
inductive Step.Fails : Step → InitFault → Prop
  | settings {settings : PoolSettings} {keys : KeySet} {store : Store} {f : SettingsFault}
      (refused : settings.check = .error f) :
      Fails (.initWithKeys settings keys store) (.settings f)
  | settingsOfInit {network : Network} {settings : PoolSettings} {store : Store}
      {f : SettingsFault} (refused : settings.check = .error f) :
      Fails (.init network settings store) (.settings f)
  | userKeys {network : Network} {settings : PoolSettings} {store : Store} {f : KeySetFault}
      (passes : settings.check = .ok ())
      (missing : KeySet.Missing network (keyAddress settings.userIssuer) f) :
      Fails (.init network settings store) (.keys f)
  | tokenKeys {network : Network} {settings : PoolSettings} {store : Store} {users : KeySet}
      {f : KeySetFault} (passes : settings.check = .ok ())
      (userKeys : users.ServedAt network (keyAddress settings.userIssuer))
      (missing : KeySet.Missing network (keyAddress settings.tokenIssuer) f) :
      Fails (.init network settings store) (.keys f)

/-- How the initialization of a step ends, if the step is one. -/
def attempt? (m : Host) : Step → Option (Except InitFault Host)
  | .initWithKeys settings keys store => some (m.initWithKeys settings keys store).1
  | .init network settings store => some (m.init network settings store).1
  | .client => none

/-- The service of the client that a step gives; an initialization that succeeds gives one too. -/
def given? (m : Host) (step : Step) : Option Service :=
  match m.attempt? step with
  | some (.ok m') => m'.service
  | some (.error _) => none
  | none => m.client.toOption

variable {m m' : Host} {step : Step} {s : Service} {f : InitFault}

theorem next_eq : m.next step = ((m.attempt? step).bind Except.toOption).getD m := by
  cases step <;> rfl

theorem Step.Brings.starts {settings : PoolSettings} {keys : KeySet} {store : Store}
    (h : step.Brings settings keys store) : step.Starts (settings.service keys store) :=
  ⟨settings, keys, store, h, settings.service_madeOf keys store⟩

/-- A step asks for a client, starts a service or fails by itself. -/
theorem Step.starts_or_fails (step : Step) :
    step = .client ∨ (∃ s, step.Starts s) ∨ ∃ f, step.Fails f := by
  cases step with
  | client => exact .inl rfl
  | initWithKeys settings keys store =>
    cases check : settings.check with
    | ok => exact .inr (.inl ⟨_, (Brings.given check).starts⟩)
    | error f => exact .inr (.inr ⟨_, .settings check⟩)
  | init network settings store =>
    cases check : settings.check with
    | error f => exact .inr (.inr ⟨_, .settingsOfInit check⟩)
    | ok =>
      rcases KeySet.servedAt_or_missing network (keyAddress settings.userIssuer) with
        ⟨users, userKeys⟩ | ⟨f, missing⟩
      · rcases KeySet.servedAt_or_missing network (keyAddress settings.tokenIssuer) with
          ⟨tokens, tokenKeys⟩ | ⟨f, missing⟩
        · exact .inr (.inl ⟨_, (Brings.served check userKeys tokenKeys).starts⟩)
        · exact .inr (.inr ⟨_, .tokenKeys check userKeys missing⟩)
      · exact .inr (.inr ⟨_, .userKeys check missing⟩)

theorem initWithKeys_of_passes {settings : PoolSettings} {keys : KeySet} {store : Store}
    (passes : settings.check = .ok ()) :
    (m.initWithKeys settings keys store).1 =
      if m.service.isSome then .error .alreadyInitialized
      else .ok ⟨some (settings.service keys store)⟩ := by
  unfold initWithKeys
  rw [passes]
  cases m.service <;> rfl

theorem init_of_passes {network : Network} {settings : PoolSettings} {store : Store}
    (passes : settings.check = .ok ()) :
    (m.init network settings store).1 =
      match (KeySet.fetchAll network settings.keyAddresses).1 with
      | .error f => .error (.keys f)
      | .ok keys => (m.initWithKeys settings keys store).1 := by
  unfold init
  rw [passes]
  rcases KeySet.fetchAll network settings.keyAddresses with ⟨_ | _, events⟩ <;> rfl

theorem attempt?_of_starts (h : step.Starts s) :
    m.attempt? step =
      some (if m.service.isSome then .error .alreadyInitialized else .ok ⟨some s⟩) := by
  obtain ⟨settings, keys, store, brings, made⟩ := h
  obtain rfl := made.eq
  cases brings with
  | given passes => exact congrArg some (initWithKeys_of_passes passes)
  | @served network settings store users tokens passes userKeys tokenKeys =>
    have loaded : (KeySet.fetchAll network settings.keyAddresses).1 =
        .ok ((KeySet.empty.extend users).extend tokens) :=
      (KeySet.fetchOnto_of_servedAt userKeys).trans (KeySet.fetchOnto_of_servedAt tokenKeys)
    refine congrArg some ((init_of_passes passes).trans ?_)
    rw [loaded]
    exact initWithKeys_of_passes passes

theorem attempt?_of_fails (h : step.Fails f) : m.attempt? step = some (.error f) := by
  cases h with
  | settings refused => simp [attempt?, initWithKeys, refused]
  | settingsOfInit refused => simp [attempt?, init, refused]
  | userKeys passes missing =>
    refine congrArg some ((init_of_passes passes).trans ?_)
    rw [KeySet.fetchAll, PoolSettings.keyAddresses, KeySet.fetchOnto_of_missing missing]
  | tokenKeys passes userKeys missing =>
    refine congrArg some ((init_of_passes passes).trans ?_)
    rw [KeySet.fetchAll, PoolSettings.keyAddresses, KeySet.fetchOnto_of_servedAt userKeys,
      KeySet.fetchOnto_of_missing missing]

/-- Initialization succeeds where a step starts a service and the module has none. -/
theorem attempt?_eq_ok :
    m.attempt? step = some (.ok m') ↔ m.service = none ∧ ∃ s, step.Starts s ∧ m' = ⟨some s⟩ := by
  constructor
  · intro h
    rcases step.starts_or_fails with rfl | ⟨s, starts⟩ | ⟨f, fails⟩
    · exact nomatch h
    · rw [attempt?_of_starts starts] at h
      cases held : m.service with
      | none =>
        rw [held] at h
        exact ⟨rfl, s, starts, (Except.ok.inj (Option.some.inj h)).symm⟩
      | some s' =>
        rw [held] at h
        exact nomatch h
    · rw [attempt?_of_fails fails] at h
      exact nomatch h
  · rintro ⟨held, s, starts, rfl⟩
    rw [attempt?_of_starts starts, held]
    rfl

/-- Initialization fails by itself, or where the module has a service already. -/
theorem attempt?_eq_error :
    m.attempt? step = some (.error f) ↔
      step.Fails f ∨ (∃ s, step.Starts s) ∧ m.service.isSome ∧ f = .alreadyInitialized := by
  constructor
  · intro h
    rcases step.starts_or_fails with rfl | ⟨s, starts⟩ | ⟨f', fails⟩
    · exact nomatch h
    · rw [attempt?_of_starts starts] at h
      split at h
      · rename_i held
        exact .inr ⟨⟨s, starts⟩, held, (Except.error.inj (Option.some.inj h)).symm⟩
      · exact nomatch h
    · rw [attempt?_of_fails fails] at h
      exact .inl (Except.error.inj (Option.some.inj h) ▸ fails)
  · rintro (fails | ⟨⟨s, starts⟩, held, rfl⟩)
    · exact attempt?_of_fails fails
    · rw [attempt?_of_starts starts, if_pos held]

theorem Step.Fails.not_starts (h : step.Fails f) : ¬ step.Starts s := fun starts =>
  nomatch (attempt?_of_starts (m := {}) starts).symm.trans (attempt?_of_fails h)

/-- A step starts one service at most. -/
theorem Step.Starts.unique {s' : Service} (h : step.Starts s) (h' : step.Starts s') : s = s' := by
  -- A new module takes whatever service the step starts.
  have ends := (attempt?_of_starts (m := {}) h).symm.trans (attempt?_of_starts h')
  exact Option.some.inj (Host.mk.inj (Except.ok.inj (Option.some.inj ends)))

theorem next_of_starts (held : m.service = none) (starts : step.Starts s) :
    m.next step = ⟨some s⟩ := by
  rw [next_eq, attempt?_of_starts starts, held]
  rfl

/-- Only an initialization that succeeds changes the module. -/
theorem next_of_not_ok (h : ∀ m', m.attempt? step ≠ some (.ok m')) : m.next step = m := by
  rw [next_eq]
  cases result : m.attempt? step with
  | none => rfl
  | some r =>
    cases r with
    | error f => rfl
    | ok m' => exact absurd result (h m')

theorem next_of_error (h : m.attempt? step = some (.error f)) : m.next step = m :=
  next_of_not_ok fun _ ok => nomatch h.symm.trans ok

/-- A step keeps the service of the module; where there is none, it sets the one that it starts. -/
theorem next_service_eq_some :
    (m.next step).service = some s ↔ m.service = some s ∨ m.service = none ∧ step.Starts s := by
  by_cases first : ∃ s', m.service = none ∧ step.Starts s'
  · obtain ⟨s', held, starts⟩ := first
    rw [next_of_starts held starts, held]
    constructor
    · rintro ⟨⟩
      exact .inr ⟨rfl, starts⟩
    · rintro (h | ⟨_, same⟩)
      · exact nomatch h
      · exact congrArg some (starts.unique same)
  · have kept : m.next step = m := by
      refine next_of_not_ok fun m' ok => first ?_
      obtain ⟨held, s', starts, _⟩ := attempt?_eq_ok.1 ok
      exact ⟨s', held, starts⟩
    rw [kept, or_iff_left fun starts => first ⟨s, starts⟩]

theorem next_service_eq_none :
    (m.next step).service = none ↔ m.service = none ∧ ∀ s, ¬ step.Starts s := by
  simp only [Option.eq_none_iff_forall_ne_some, ne_eq, next_service_eq_some, not_or, forall_and]
  refine and_congr_right fun held => ?_
  simp [held]

/-! ### Clients -/

theorem client_eq_ok : m.client = .ok s ↔ m.service = some s := by
  unfold client
  cases m.service <;> simp

theorem client_toOption : m.client.toOption = m.service := by
  unfold client
  cases m.service <;> rfl

/-- The client that a step gives decides with the service that the module holds after it. -/
theorem given?_eq_some (h : m.given? step = some s) : (m.next step).service = some s := by
  unfold given? at h
  rw [next_eq]
  split at h
  · rename_i m' succeeded
    rw [succeeded]
    exact h
  · exact nomatch h
  · rename_i asked
    rw [asked]
    exact client_toOption.symm.trans h

/-! ### Histories -/

/-- The module after a history. -/
def run (m : Host) (steps : List Step) : Host := steps.foldl next m

/-- The initialization at a place of the history of a new module succeeds with the service. -/
def SucceedsAt (steps : List Step) (i : Nat) (s : Service) : Prop :=
  ∃ step, steps[i]? = some step ∧ (run {} (steps.take i)).attempt? step = some (.ok ⟨some s⟩)

/-- The step at this place is the first of the history that starts a service. -/
def FirstStart (steps : List Step) (i : Nat) (s : Service) : Prop :=
  ∃ step, steps[i]? = some step ∧ step.Starts s ∧
    ∀ earlier ∈ steps.take i, ∀ s', ¬ earlier.Starts s'

variable {steps : List Step} {i j : Nat}

theorem run_take_succ (h : steps[i]? = some step) :
    run m (steps.take (i + 1)) = (run m (steps.take i)).next step := by
  rw [run, List.take_add_one, h, List.foldl_append]
  rfl

/-- A module stays without a service as long as no step starts one. -/
theorem run_service_eq_none :
    (run m steps).service = none ↔ m.service = none ∧ ∀ step ∈ steps, ∀ s, ¬ step.Starts s := by
  induction steps generalizing m with
  | nil => simp [run]
  | cons step rest ih =>
    show (run (m.next step) rest).service = none ↔ _
    rw [ih, next_service_eq_none, List.forall_mem_cons, and_assoc]

/-- After some steps a module holds the service of the first of them that starts one. -/
theorem run_take_service_eq_some :
    (run {} (steps.take i)).service = some s ↔ ∃ j < i, FirstStart steps j s := by
  induction i with
  | zero => exact ⟨nofun, fun ⟨_, h, _⟩ => absurd h (Nat.not_lt_zero _)⟩
  | succ i ih =>
    -- Step i sets a service only if none of the steps before did, so only if it is the first.
    have last : (run {} (steps.take (i + 1))).service = some s ↔
        (run {} (steps.take i)).service = some s ∨ FirstStart steps i s := by
      cases taken : steps[i]? with
      | none =>
        rw [List.take_add_one, taken, FirstStart, taken]
        simp
      | some step =>
        rw [run_take_succ taken, next_service_eq_some, run_service_eq_none, FirstStart, taken]
        simp [and_comm]
    rw [last, ih]
    exact Nat.exists_lt_succ_right.symm

/-- Initialization succeeds exactly at the first step that starts a service. -/
theorem succeedsAt_iff_firstStart : SucceedsAt steps i s ↔ FirstStart steps i s := by
  refine exists_congr fun step => and_congr_right fun _ => ?_
  rw [attempt?_eq_ok, run_service_eq_none]
  simp [and_comm]

/-- No step before the first start starts a service. -/
theorem FirstStart.le {s' : Service} (h : FirstStart steps i s) (h' : FirstStart steps j s') :
    j ≤ i := by
  obtain ⟨step, taken, starts, _⟩ := h
  obtain ⟨_, _, _, idle⟩ := h'
  refine Nat.le_of_not_lt fun earlier => ?_
  have mem : step ∈ steps.take j :=
    List.mem_of_getElem? ((List.getElem?_take_of_lt earlier).trans taken)
  exact idle step mem s starts

/-- How the history of a new module goes. -/
structure StartsOnce (steps : List Step) : Prop where
  /-- At most one initialization succeeds. -/
  once : ∀ i j s s', SucceedsAt steps i s → SucceedsAt steps j s' → i = j
  /-- It is the first whose settings pass and whose keys are there. -/
  first : ∀ i s, SucceedsAt steps i s ↔ FirstStart steps i s
  /-- The module then has the service. -/
  sets : ∀ i step m, steps[i]? = some step →
    (run {} (steps.take i)).attempt? step = some (.ok m) →
    ∃ s, SucceedsAt steps i s ∧ run {} (steps.take (i + 1)) = ⟨some s⟩
  /-- Before it an initialization fails by itself, and the module stays without a service. -/
  before : ∀ i step f, steps[i]? = some step →
    (run {} (steps.take i)).attempt? step = some (.error f) →
    (∀ j < i, ∀ s, ¬ SucceedsAt steps j s) →
    step.Fails f ∧ (run {} (steps.take (i + 1))).service = none
  /-- After it an initialization fails because it is late, unless it fails by itself already, and
  the module stays as it was. -/
  later : ∀ i j s step result, SucceedsAt steps i s → i < j → steps[j]? = some step →
    (run {} (steps.take j)).attempt? step = some result →
    (∃ f, result = .error f ∧
      ((∃ s', step.Starts s') ∧ f = .alreadyInitialized ∨
        (∀ s', ¬ step.Starts s') ∧ step.Fails f)) ∧
    run {} (steps.take (j + 1)) = run {} (steps.take j)
  /-- A client is given after it, and none before. -/
  client : ∀ i s, (run {} (steps.take i)).client = .ok s ↔ ∃ j < i, SucceedsAt steps j s
  /-- Whatever client is given decides with its service, made of what that initialization brings. -/
  given : ∀ i step s, steps[i]? = some step → (run {} (steps.take i)).given? step = some s →
    ∃ j ≤ i, SucceedsAt steps j s ∧ ∃ start settings keys store, steps[j]? = some start ∧
      start.Brings settings keys store ∧ s.MadeOf settings keys store

theorem run_startsOnce (steps : List Step) : StartsOnce steps where
  once i j s s' h h' :=
    have h := succeedsAt_iff_firstStart.1 h
    have h' := succeedsAt_iff_firstStart.1 h'
    Nat.le_antisymm (h'.le h) (h.le h')
  first i s := succeedsAt_iff_firstStart
  sets := by
    intro i step m taken ended
    obtain ⟨held, s, starts, rfl⟩ := attempt?_eq_ok.1 ended
    exact ⟨s, ⟨step, taken, ended⟩, (run_take_succ taken).trans (next_of_starts held starts)⟩
  before := by
    intro i step f taken failed early
    have held : (run {} (steps.take i)).service = none := by
      refine Option.eq_none_iff_forall_ne_some.2 fun s held => ?_
      obtain ⟨j, earlier, succeeds⟩ := run_take_service_eq_some.1 held
      exact early j earlier s (succeedsAt_iff_firstStart.2 succeeds)
    constructor
    · rcases attempt?_eq_error.1 failed with fails | ⟨_, already, _⟩
      · exact fails
      · exact absurd already (by simp [held])
    · rw [run_take_succ taken, next_of_error failed, held]
  later := by
    intro i j s step result succeeds earlier taken ended
    have held : (run {} (steps.take j)).service = some s :=
      run_take_service_eq_some.2 ⟨i, earlier, succeedsAt_iff_firstStart.1 succeeds⟩
    cases result with
    | ok m' => exact absurd (attempt?_eq_ok.1 ended).1 (by simp [held])
    | error f =>
      refine ⟨⟨f, rfl, ?_⟩, by rw [run_take_succ taken, next_of_error ended]⟩
      rcases attempt?_eq_error.1 ended with fails | ⟨starts, _, late⟩
      · exact .inr ⟨fun _ => fails.not_starts, fails⟩
      · exact .inl ⟨starts, late⟩
  client i s := by
    simp only [client_eq_ok, run_take_service_eq_some, succeedsAt_iff_firstStart]
  given := by
    intro i step s taken given
    have held : (run {} (steps.take (i + 1))).service = some s :=
      run_take_succ taken ▸ given?_eq_some given
    obtain ⟨j, earlier, first⟩ := run_take_service_eq_some.1 held
    refine ⟨j, Nat.le_of_lt_succ earlier, succeedsAt_iff_firstStart.2 first, ?_⟩
    obtain ⟨start, taken, ⟨settings, keys, store, brings, made⟩, _⟩ := first
    exact ⟨start, settings, keys, store, taken, brings, made⟩

end Host

end ClaimGate
