import ClaimGate.Proofs.Grant

/-! What of a gateway request reaches its decision. Of all that the caller writes, the bearer
token and the parameter that decides the scope are read on; of an organization that is asked
for, only that it is a number. Proved: requests that agree there take the same course, and are
answered and recorded alike, whatever else they hold. -/

namespace ClaimGate

/-! ### The parameter that decides -/

/-- The parameter is the first present one, with this value. -/
inductive Scope.Decides (query : Dict String String) : ScopeParameter → String → Prop
  | manifest {value : String} (present : query.get? "manifest_id" = some value) :
      Decides query .manifest value
  | dataset {value : String} (noManifest : query.get? "manifest_id" = none)
      (present : query.get? "dataset_id" = some value) : Decides query .dataset value
  | organization {value : String} (noManifest : query.get? "manifest_id" = none)
      (noDataset : query.get? "dataset_id" = none)
      (present : query.get? "organization_id" = some value) : Decides query .organization value

/-- None of the parameters that name a scope is present. -/
structure Scope.Undecided (query : Dict String String) : Prop where
  noManifest : query.get? "manifest_id" = none
  noDataset : query.get? "dataset_id" = none
  noOrganization : query.get? "organization_id" = none

namespace Scope

variable {query : Dict String String}

theorem decisive?_of_decides {p : ScopeParameter} {value : String} (h : Decides query p value) :
    decisive? query = some (p, value) := by
  cases h with
  | manifest present =>
    simp [decisive?, ScopeParameter.all, ScopeParameter.name, present]
  | dataset noManifest present =>
    simp [decisive?, ScopeParameter.all, ScopeParameter.name, noManifest, present]
  | organization noManifest noDataset present =>
    simp [decisive?, ScopeParameter.all, ScopeParameter.name, noManifest, noDataset, present]

theorem decisive?_of_undecided (h : Undecided query) : decisive? query = none := by
  simp [decisive?, ScopeParameter.all, ScopeParameter.name, h.noManifest, h.noDataset,
    h.noOrganization]

/-! ### Values -/

/-- A value is read without the blanks at its ends. -/
theorem ofParameter_congr {p : ScopeParameter} {value value' : String}
    (h : Text.trimmed value = Text.trimmed value') : ofParameter p value = ofParameter p value' := by
  have blank : Text.allBlank value = Text.allBlank value' := by
    rw [Bool.eq_iff_iff, ← Text.trimmed_eq_empty_iff, ← Text.trimmed_eq_empty_iff, h]
  have read : Text.readId? value = Text.readId? value' := by
    have same : Text.trim value.toList = Text.trim value'.toList := String.ofList_inj.1 h
    rw [Text.readId?, Text.readId?, same]
  cases p <;> simp only [ofParameter, blank, read, h]

theorem allBlank_of_readId? {value : String} {n : Int64} (h : Text.readId? value = some n) :
    Text.allBlank value = false := by
  rw [← Bool.not_eq_true]
  intro blank
  have empty : Text.trim value.toList = [] :=
    Text.trim_eq_nil_iff.2 fun c hc => List.all_eq_true.1 blank c hc
  rw [Text.readId?, empty] at h
  exact nomatch h

theorem ofParameter_organization {value : String} {n : Int64} (h : Text.readId? value = some n) :
    ofParameter .organization value = .ok (.workspace n) := by
  simp only [ofParameter, allBlank_of_readId? h, h]
  rfl

/-! ### Scopes -/

/-- The scope without the organization that is only carried along. -/
def core : Scope → Scope
  | workspace _ => workspace 0
  | scope => scope

/-- No claim hangs on the organization that a workspace request names. -/
theorem resolve_core (policy : Policy) (tokenClient : String) (t : Token) (scope : Scope) :
    scope.core.resolve policy tokenClient t = scope.resolve policy tokenClient t := by
  cases scope <;> rfl

end Scope

/-! ### Requests -/

/-- Two requests agree in what can reach a decision. The same parameter decides the scope of
both, with the same value up to blanks at its ends, or with a number each where it names an
organization; or none is present, and of a reference both hold one or neither does. -/
inductive Scope.SameDemand (query query' : Dict String String) (i i' : Identity) : Prop
  | value {p : ScopeParameter} {value value' : String} (first : Decides query p value)
      (first' : Decides query' p value') (same : Text.trimmed value = Text.trimmed value') :
      SameDemand query query' i i'
  | organization {value value' : String} {n n' : Int64} (first : Decides query .organization value)
      (first' : Decides query' .organization value') (reads : Text.readId? value = some n)
      (reads' : Text.readId? value' = some n') : SameDemand query query' i i'
  | user (none : Undecided query) (none' : Undecided query')
      (references : i.reference.isSome = i'.reference.isSome) : SameDemand query query' i i'

/-- What is demanded alike is selected or refused alike. -/
theorem Scope.SameDemand.select_eq {query query' : Dict String String} {i i' : Identity}
    (h : SameDemand query query' i i') :
    (select i query).map core = (select i' query').map core := by
  cases h with
  | value first first' same =>
    simp only [select, decisive?_of_decides first, decisive?_of_decides first',
      ofParameter_congr same]
  | organization first first' reads reads' =>
    simp only [select, decisive?_of_decides first, decisive?_of_decides first',
      ofParameter_organization reads, ofParameter_organization reads']
    rfl
  | user undecided undecided' references =>
    simp only [select, decisive?_of_undecided undecided, decisive?_of_undecided undecided',
      references]

namespace Service

variable {s : Service} {now : Int} {r r' : GatewayRequest} {i i' : Identity}

/-- The course of a request hangs on its token and on what its scope has at its core. -/
theorem inquiry_of_identity (source : Identity.ofValues r.identitySource = .ok i) :
    s.inquiry now r =
      match (Scope.select i r.query).map Scope.core with
      | .error f => .refuse (.unsupported f.message)
      | .ok scope =>
        match s.validator.validate i.token now with
        | .error f => .refuse (.token f)
        | .ok t => scope.resolve s.policy s.tokenClient t := by
  unfold inquiry GatewayRequest.scope
  rw [source]
  cases hs : Scope.select i r.query with
  | error f => simp only [hs]; rfl
  | ok scope =>
    cases hv : s.validator.validate i.token now with
    | error f => simp only [hs, hv, Except.map]
    | ok t => simp only [hs, hv, Except.map, Scope.resolve_core]

/-- Requests with one token that demand alike take one course: the same queries are asked, and
the answer and what is recorded of it are the same. -/
theorem authorize_eq_of_sameDemand (source : Identity.ofValues r.identitySource = .ok i)
    (source' : Identity.ofValues r'.identitySource = .ok i') (token : i.token = i'.token)
    (same : Scope.SameDemand r.query r'.query i i') :
    s.inquiry now r = s.inquiry now r' ∧ s.authorize now r = s.authorize now r' := by
  have course : s.inquiry now r = s.inquiry now r' := by
    rw [inquiry_of_identity source, inquiry_of_identity source', same.select_eq, token]
  exact ⟨course, authorize_congr (by rw [course])⟩

/-- The organizations that are asked for differ, and one request holds a reference and more. -/
theorem authorize_eq_of_organizations :
    let s : Service :=
      { validator := { keys := .empty, issuers := ("", ""), clients := ("", "") }
        tokenClient := "service"
        policy := {}
        store := .single { id := 1, nodeId := "N:user:1", preferredOrganization := some 3 } []
          ⟨5, "N:dataset:5", 3⟩ {} }
    let r : GatewayRequest :=
      { identitySource := ["Bearer x"]
        queryParameters := some (.ofList [("organization_id", "7")]) }
    let r' : GatewayRequest :=
      { identitySource := ["N:organization:12", " Bearer  x"]
        queryParameters := some (.ofList [("page", "2"), ("organization_id", " +12 ")])
        rawPath := some "/v1/datasets" }
    s.inquiry 0 r = s.inquiry 0 r' ∧ s.authorize 0 r = s.authorize 0 r' := by
  intro s r r'
  let i : Identity := ⟨"x", none⟩
  let i' : Identity := ⟨"x", some "N:organization:12"⟩
  have source : Identity.ofValues r.identitySource = .ok i := rfl
  have source' : Identity.ofValues r'.identitySource = .ok i' := rfl
  have first : Scope.Decides r.query .organization "7" :=
    .organization (by decide) (by decide) (by decide)
  have first' : Scope.Decides r'.query .organization " +12 " :=
    .organization (by decide) (by decide) (by decide)
  have reads : Text.readId? "7" = some 7 := by decide
  have reads' : Text.readId? " +12 " = some 12 := by decide
  exact authorize_eq_of_sameDemand source source' rfl (.organization first first' reads reads')

end Service

end ClaimGate
