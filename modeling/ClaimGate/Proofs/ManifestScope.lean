import ClaimGate.Proofs.Grant
import ClaimGate.Proofs.Standing

/-! The scope of a manifest. A manifest says which dataset an upload goes to, and a request on it
is a request on that dataset: the manifest is looked up by who already stands in an organization,
and the rest of the course reads nothing of the record but the node id. Proved: where the record
is found the two requests run alike, whatever else it says; where it is not the request fails for
that, unless an earlier step has failed. -/

namespace ClaimGate

open Inquiry

variable {s s' : Store} {policy : Policy} {tokenClient : String} {t : Token} {nodeId id : String}

theorem Resolve.withLegacyTeams_eq_error {user : Int64} {c : ClaimSet} {d : Denial}
    (h : (withLegacyTeams policy user c).outcome s = .error d) : ∃ f, d = .lookup .teams f := by
  unfold withLegacyTeams at h
  split at h
  · rcases outcome_bind_eq_error.1 h with lost | ⟨_, _, done⟩
    · obtain ⟨f, _, rfl⟩ := outcome_lookUp_eq_error.1 lost
      exact ⟨f, rfl⟩
    · exact nomatch done
  · exact nomatch h

/-- The record of a manifest costs one query and leaves no trace. -/
theorem Resolve.manifest_bind_run {α : Type} {m : Manifest} {f : Manifest → Inquiry α}
    (found : s.answer (.manifest id) = .ok (some m)) :
    ((manifest id).bind f).run s = (f m).run s := by
  unfold manifest
  rw [bind_eq, bind_assoc, run_lookUp_bind_of_ok found]
  rfl

namespace Scope

/-! ### On a dataset -/

/-- A denial on the dataset under a node id names that node id. -/
inductive DeniesOn (nodeId : String) : Denial → Prop
  | absent : DeniesOn nodeId (.datasetNotFound nodeId)
  | noRole : DeniesOn nodeId (.noDatasetAccess nodeId)
  | lost (family : Family) (f : StoreFault) : DeniesOn nodeId (.lookup family f)

theorem onDataset_eq_error {x : Principal × OrganizationClaim} {d : Denial}
    (h : (onDataset policy nodeId x).outcome s = .error d) : DeniesOn nodeId d := by
  rcases outcome_bind_eq_error.1 h with claims | ⟨_, _, legacy⟩
  · rcases outcome_bind_eq_error.1 claims with lost | ⟨dataset, _, h₁⟩
    · rcases Resolve.datasetClaim_eq_error lost with rfl | ⟨family, f, rfl⟩
      · exact .absent
      · exact .lost family f
    split at h₁
    · obtain rfl := Except.error.inj h₁
      exact .noRole
    · exact nomatch h₁
  · obtain ⟨f, rfl⟩ := Resolve.withLegacyTeams_eq_error legacy
    exact .lost .teams f

/-- A request on a dataset never asks for a manifest. -/
theorem dataset_resolve_asksOnly :
    ((dataset nodeId).resolve policy tokenClient t).AsksOnly (·.family ≠ .manifests) := by
  refine .bind (Resolve.principal_keepsTo tokenClient nofun nofun) fun p => ?_
  have elsewhere (organization : Int64) :
      Query.AllowedIn (·.family ≠ .manifests) p.id organization :=
    ⟨nofun, nofun, nofun, nofun⟩
  exact afterPrincipal_keepsTo (fun organization _ => elsewhere organization) nofun nofun
    fun _ _ => trivial

/-! ### On a manifest -/

theorem manifest_resolve_run {m : Manifest} (found : s.answer (.manifest id) = .ok (some m)) :
    ((manifest id).resolve policy tokenClient t).run s =
      ((dataset m.datasetNodeId).resolve policy tokenClient t).run s := by
  rw [manifest_resolve_eq, dataset_resolve_eq]
  exact run_bind_congr rfl fun _ _ => Resolve.manifest_bind_run found

/-- Of the record only the node id counts. -/
theorem manifest_resolve_run_congr {m m' : Manifest} (found : s.answer (.manifest id) = .ok (some m))
    (found' : s'.answer (.manifest id) = .ok (some m')) (same : m'.datasetNodeId = m.datasetNodeId)
    (alike : ∀ q, q.family ≠ .manifests → s'.answer q = s.answer q) :
    ((manifest id).resolve policy tokenClient t).run s' =
      ((manifest id).resolve policy tokenClient t).run s := by
  rw [manifest_resolve_run found, manifest_resolve_run found', same]
  exact dataset_resolve_asksOnly.run_eq alike

theorem manifest_resolve_of_falters {d : Denial} (falters : s.Falters tokenClient t d) :
    ((manifest id).resolve policy tokenClient t).outcome s = .error d := by
  rw [manifest_resolve_eq]
  exact outcome_bind_eq_error.2 (.inl (Resolve.standing_eq_error.2 falters))

/-- Who does not falter fails with the look-up of the manifest. -/
theorem manifest_resolve_of_lost {d : Denial} (firm : ∀ e, ¬ s.Falters tokenClient t e)
    (lost : (Resolve.manifest id).outcome s = .error d) :
    ((manifest id).resolve policy tokenClient t).outcome s = .error d := by
  rw [manifest_resolve_eq]
  cases h : (Resolve.standing tokenClient t).outcome s with
  | error e => exact absurd (Resolve.standing_eq_error.1 h) (firm e)
  | ok x => exact outcome_bind_eq_error.2 (.inr ⟨x, h, outcome_bind_eq_error.2 (.inl lost)⟩)

/-- A request on a manifest runs as a request on the dataset that the record names, and nothing
else in the record counts. Without a record it fails for want of the manifest or of the answer,
but the denial of a step that failed before stands. -/
theorem manifest_resolve_asDataset (policy : Policy) (tokenClient : String) (t : Token) (s : Store)
    (id : String) :
    (∀ m, s.answer (.manifest id) = .ok (some m) →
      ((manifest id).resolve policy tokenClient t).run s =
          ((dataset m.datasetNodeId).resolve policy tokenClient t).run s ∧
        (∀ d, ((manifest id).resolve policy tokenClient t).outcome s = .error d →
          s.Falters tokenClient t d ∨ DeniesOn m.datasetNodeId d) ∧
        ∀ (s' : Store) (m' : Manifest), s'.answer (.manifest id) = .ok (some m') →
          m'.datasetNodeId = m.datasetNodeId →
          (∀ q, q.family ≠ .manifests → s'.answer q = s.answer q) →
          ((manifest id).resolve policy tokenClient t).run s' =
            ((manifest id).resolve policy tokenClient t).run s) ∧
      (∀ d, s.Falters tokenClient t d →
        ((manifest id).resolve policy tokenClient t).outcome s = .error d) ∧
      ((∀ d, ¬ s.Falters tokenClient t d) →
        (s.answer (.manifest id) = .ok none →
          ((manifest id).resolve policy tokenClient t).outcome s = .error (.manifestNotFound id)) ∧
        ∀ f, s.answer (.manifest id) = .error f →
          ((manifest id).resolve policy tokenClient t).outcome s =
            .error (.lookup .manifests f)) := by
  refine ⟨fun m found => ⟨manifest_resolve_run found, fun d h => ?_,
    fun s' m' found' same alike => manifest_resolve_run_congr found found' same alike⟩,
    fun d falters => manifest_resolve_of_falters falters,
    fun firm => ⟨fun absent => manifest_resolve_of_lost firm ?_,
      fun f failed => manifest_resolve_of_lost firm ?_⟩⟩
  · have onDataset : ((dataset m.datasetNodeId).resolve policy tokenClient t).outcome s = .error d :=
      (congrArg Prod.fst (manifest_resolve_run found)).symm.trans h
    rw [dataset_resolve_eq] at onDataset
    rcases outcome_bind_eq_error.1 onDataset with before | ⟨_, _, after⟩
    · exact .inl (Resolve.standing_eq_error.1 before)
    · exact .inr (onDataset_eq_error after)
  · exact Resolve.manifest_eq_error.2 (.inr ⟨absent, rfl⟩)
  · exact Resolve.manifest_eq_error.2 (.inl ⟨f, failed, rfl⟩)

end Scope

end ClaimGate
