import ClaimGate.Json.Shape

/-! Upload manifests. Only the dataset that a manifest names has a part in decisions. -/

namespace ClaimGate

/-- How far an upload has come; a status without a name of its own reads as `unknown`. -/
inductive ManifestStatus where
  | initiated | uploading | completed | cancelled | archived | unknown
  deriving DecidableEq

namespace ManifestStatus

def name : ManifestStatus → String
  | initiated => "Initiated"
  | uploading => "Uploading"
  | completed => "Completed"
  | cancelled => "Cancelled"
  | archived => "Archived"
  | unknown => "Unknown"

def ofName (s : String) : ManifestStatus :=
  ([initiated, uploading, completed, cancelled, archived].find? (fun m => m.name = s)).getD unknown

def shape : Json.Shape ManifestStatus := .name (fun s => some (ofName s)) name

@[simp] theorem ofName_name (m : ManifestStatus) : ofName m.name = m := by cases m <;> decide

end ManifestStatus

structure Manifest where
  id : String
  datasetNodeId : String
  datasetId : Int64
  organization : Int64
  user : Int64
  status : ManifestStatus
  deriving DecidableEq

def Manifest.shape : Json.Shape Manifest :=
  .via
    (.record .ignored
      (.required "manifest_id" .text
      (.required "dataset_node_id" .text
      (.required "dataset_id" .int64
      (.required "organization_id" .int64
      (.required "user_id" .int64
      (.required "status" ManifestStatus.shape .nil)))))))
    (fun (id, datasetNodeId, datasetId, organization, user, status, ()) =>
      ⟨id, datasetNodeId, datasetId, organization, user, status⟩)
    (fun m => (m.id, m.datasetNodeId, m.datasetId, m.organization, m.user, m.status, ()))

end ClaimGate
