import ClaimGate.Proofs.Interference
import ClaimGate.Proofs.Numeral

/-! Which scope a query selects. The first present of the parameters that name a scope decides:
its value names a scope, or there is a reason why it names none. Without such a parameter the
scope is that of the user, unless there is a reference that then refers to nothing. Proved: these
are exactly the scopes that are selected and the reasons why none is, and queries that agree in
the deciding parameter and in those before it select alike, whatever else they hold. -/

namespace ClaimGate

namespace Scope

/-! ### One parameter -/

/-- The scope that a value names under a parameter. -/
inductive Names : ScopeParameter → String → Scope → Prop
  | manifest {value id : String} (bare : Text.Bare value id) : Names .manifest value (.manifest id)
  | dataset {value nodeId : String} (bare : Text.Bare value nodeId) :
      Names .dataset value (.dataset nodeId)
  | organization {value : String} {n : Int64} (denotes : Text.Denotes value n.toInt) :
      Names .organization value (.workspace n)

/-- Why a value names no scope under a parameter. -/
inductive NamesNone : ScopeParameter → String → ScopeFault → Prop
  | blank {p : ScopeParameter} {value : String} (blank : ∀ c ∈ value.toList, Text.isBlank c = true) :
      NamesNone p value (.blank p)
  | notAnInteger {value text : String} (bare : Text.Bare value text)
      (unread : ∀ n : Int64, ¬ Text.Denotes value n.toInt) :
      NamesNone .organization value (.notAnInteger text)

variable {p : ScopeParameter} {value : String} {scope : Scope} {f : ScopeFault}

theorem ofParameter_of_names (h : Names p value scope) : ofParameter p value = .ok scope := by
  cases h with
  | manifest bare =>
    obtain ⟨visible, rfl⟩ := Text.bare_iff.1 bare
    simp only [ofParameter, visible]
    rfl
  | dataset bare =>
    obtain ⟨visible, rfl⟩ := Text.bare_iff.1 bare
    simp only [ofParameter, visible]
    rfl
  | organization denotes => exact ofParameter_organization (Text.readId?_eq_some.2 denotes)

theorem ofParameter_of_namesNone (h : NamesNone p value f) : ofParameter p value = .error f := by
  cases h with
  | blank blank =>
    have allBlank : Text.allBlank value = true := List.all_eq_true.2 blank
    unfold ofParameter
    rw [if_pos allBlank]
  | notAnInteger bare unread =>
    obtain ⟨visible, rfl⟩ := Text.bare_iff.1 bare
    have none : Text.readId? value = none := by
      simpa only [Option.eq_none_iff_forall_ne_some, ne_eq, Text.readId?_eq_some] using unread
    simp only [ofParameter, visible, none]
    rfl

/-- A value names a scope, or there is a reason why it does not. -/
theorem names_or_namesNone (p : ScopeParameter) (value : String) :
    (∃ scope, Names p value scope) ∨ ∃ f, NamesNone p value f := by
  cases blank : Text.allBlank value with
  | true => exact .inr ⟨_, .blank (List.all_eq_true.1 blank)⟩
  | false =>
    have bare : Text.Bare value (Text.trimmed value) := Text.bare_iff.2 ⟨blank, rfl⟩
    cases p with
    | manifest => exact .inl ⟨_, .manifest bare⟩
    | dataset => exact .inl ⟨_, .dataset bare⟩
    | organization =>
      rcases Classical.em (∃ n : Int64, Text.Denotes value n.toInt) with ⟨n, denotes⟩ | unread
      · exact .inl ⟨_, .organization denotes⟩
      · exact .inr ⟨_, .notAnInteger bare (not_exists.1 unread)⟩

/-! ### All of them -/

/-- The scope that a query selects for an identity. -/
inductive Selects (i : Identity) (query : Dict String String) : Scope → Prop
  | parameter {p : ScopeParameter} {value : String} {scope : Scope} (decides : Decides query p value)
      (names : Names p value scope) : Selects i query scope
  | user (undecided : Undecided query) (alone : i.reference = none) : Selects i query .user

/-- Why a query selects no scope for an identity. -/
inductive SelectsNone (i : Identity) (query : Dict String String) : ScopeFault → Prop
  | parameter {p : ScopeParameter} {value : String} {f : ScopeFault} (decides : Decides query p value)
      (names : NamesNone p value f) : SelectsNone i query f
  | loneReference {reference : String} (undecided : Undecided query)
      (given : i.reference = some reference) : SelectsNone i query .loneReference

theorem select_of_decides (i : Identity) {query : Dict String String} (h : Decides query p value) :
    select i query = ofParameter p value := by
  rw [select, decisive?_of_decides h]

theorem select_of_undecided (i : Identity) {query : Dict String String} (h : Undecided query) :
    select i query = if i.reference.isSome then .error .loneReference else .ok .user := by
  rw [select, decisive?_of_undecided h]

/-- One of the parameters decides, or none is present. -/
theorem decides_or_undecided (query : Dict String String) :
    (∃ p value, Decides query p value) ∨ Undecided query := by
  cases manifest : query.get? "manifest_id" with
  | some value => exact .inl ⟨_, _, .manifest manifest⟩
  | none =>
    cases dataset : query.get? "dataset_id" with
    | some value => exact .inl ⟨_, _, .dataset manifest dataset⟩
    | none =>
      cases organization : query.get? "organization_id" with
      | some value => exact .inl ⟨_, _, .organization manifest dataset organization⟩
      | none => exact .inr ⟨manifest, dataset, organization⟩

variable {i i' : Identity} {query query' : Dict String String}

theorem select_of_selects (h : Selects i query scope) : select i query = .ok scope := by
  cases h with
  | parameter decides names => rw [select_of_decides i decides, ofParameter_of_names names]
  | user undecided alone =>
    rw [select_of_undecided i undecided, alone]
    rfl

theorem select_of_selectsNone (h : SelectsNone i query f) : select i query = .error f := by
  cases h with
  | parameter decides names => rw [select_of_decides i decides, ofParameter_of_namesNone names]
  | loneReference undecided given =>
    rw [select_of_undecided i undecided, given]
    rfl

theorem selects_or_selectsNone (i : Identity) (query : Dict String String) :
    (∃ scope, Selects i query scope) ∨ ∃ f, SelectsNone i query f := by
  rcases decides_or_undecided query with ⟨p, value, decides⟩ | undecided
  · rcases names_or_namesNone p value with ⟨scope, names⟩ | ⟨f, names⟩
    · exact .inl ⟨scope, .parameter decides names⟩
    · exact .inr ⟨f, .parameter decides names⟩
  · cases reference : i.reference with
    | none => exact .inl ⟨_, .user undecided reference⟩
    | some _ => exact .inr ⟨_, .loneReference undecided reference⟩

theorem select_decidedBy (i : Identity) (query : Dict String String) :
    DecidedBy (select i query) (Selects i query) (SelectsNone i query) where
  ok _ := select_of_selects
  error _ := select_of_selectsNone
  either := selects_or_selectsNone i query

/-! ### What else a query holds -/

/-- The first parameter takes precedence over the second. -/
inductive Precedes : ScopeParameter → ScopeParameter → Prop
  | manifestDataset : Precedes .manifest .dataset
  | manifestOrganization : Precedes .manifest .organization
  | datasetOrganization : Precedes .dataset .organization

/-- The queries hold the same under the parameter and under those before it. -/
structure AgreeUpTo (p : ScopeParameter) (query query' : Dict String String) : Prop where
  own : query'.get? p.name = query.get? p.name
  before : ∀ p', Precedes p' p → query'.get? p'.name = query.get? p'.name

/-- What decides one query decides all that agree with it up to there. -/
theorem Decides.of_agree (h : Decides query p value) (agree : AgreeUpTo p query query') :
    Decides query' p value := by
  cases h with
  | manifest present => exact .manifest (agree.own.trans present)
  | dataset noManifest present =>
    refine .dataset ?_ (agree.own.trans present)
    exact (agree.before .manifest .manifestDataset).trans noManifest
  | organization noManifest noDataset present =>
    refine .organization ?_ ?_ (agree.own.trans present)
    · exact (agree.before .manifest .manifestOrganization).trans noManifest
    · exact (agree.before .dataset .datasetOrganization).trans noDataset

/-- The first present parameter that names a scope decides by its value alone: that names the scope
that is selected, or is the reason why none is. Queries that it decides alike select alike, and
so does one that differs in any parameters but the deciding one and those before it. Without such
a parameter the scope is the user's if there is no reference. A request that selects no scope is
denied as unsupported, with the reason. -/
theorem select_byFirstPresent :
    (∀ i query scope, select i query = .ok scope ↔ Selects i query scope) ∧
    (∀ i query f, select i query = .error f ↔ SelectsNone i query f) ∧
    (∀ i i' query query' p value, Decides query p value → Decides query' p value →
      select i query = select i' query') ∧
    (∀ i i' query query' p value, Decides query p value → AgreeUpTo p query query' →
      select i query = select i' query') ∧
    ∀ (r : GatewayRequest) i f, Identity.ofValues r.identitySource = .ok i →
      SelectsNone i r.query f → r.scope = .error (.unsupported f.message) := by
  have alike : ∀ i i' query query' p value, Decides query p value → Decides query' p value →
      select i query = select i' query' := by
    intro i i' query query' p value decides decides'
    rw [select_of_decides i decides, select_of_decides i' decides']
  refine ⟨fun i query _ => (select_decidedBy i query).eq_ok,
    fun i query _ => (select_decidedBy i query).eq_error, alike, ?_, ?_⟩
  · intro i i' query query' p value decides agree
    exact alike i i' query query' p value decides (decides.of_agree agree)
  · intro r i f source none
    rw [GatewayRequest.scope, source]
    simp only [select_of_selectsNone none]

/-- A blank parameter is not passed over for one behind it. -/
example : select ⟨"t", none⟩ (.ofList [("dataset_id", " "), ("organization_id", "7")]) =
    .error (.blank .dataset) :=
  rfl

end Scope

end ClaimGate
