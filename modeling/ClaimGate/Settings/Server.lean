import ClaimGate.Directory.Basic
import ClaimGate.Settings.Document
import ClaimGate.Settings.Pools
import ClaimGate.Settings.Variable

/-! The settings of the server, in three layers: what is built in, a document, and
environment variables, each over the one before. A setting that no field declares is
refused, and so are settings under which no service can run. -/

namespace ClaimGate

inductive LogFormat where
  | text | json
  deriving DecidableEq

namespace LogFormat

def name : LogFormat → String
  | text => "text"
  | json => "json"

def ofName? (s : String) : Option LogFormat := [text, json].find? fun f => f.name = s

def shape : Json.Shape LogFormat := .name ofName? name

end LogFormat

structure ServerSettings where
  bindAddress : String := "127.0.0.1:8087"
  logLevel : String := "info"
  logFormat : LogFormat := .text
  pools : PoolSettings := {}
  fixtures : Fixtures := {}
  deriving DecidableEq

/-- Why settings cannot be loaded. -/
inductive LoadFault where
  | missingFile (path : String)
  | document (fault : SettingsDocument.Fault)
  | shape (fault : Json.Fault)
  | settings (fault : SettingsFault)
  deriving DecidableEq

def LoadFault.message : LoadFault → String
  | .missingFile path => "config file " ++ path ++ " does not exist"
  | .document f => f.message
  | .shape f => f.message
  | .settings f => "invalid authorizer config: " ++ f.message

namespace ServerSettings

def shape : Json.Shape ServerSettings :=
  .via
    (.record .refused
      (.withDefault "bind_addr" "127.0.0.1:8087" .text
      (.withDefault "log_level" "info" .text
      (.withDefault "log_format" .text LogFormat.shape
      (.withDefault "authorizer" {} PoolSettings.shape
      (.withDefault "static_claims" {} Fixtures.shape .nil))))))
    (fun (bindAddress, logLevel, logFormat, pools, fixtures, ()) =>
      ⟨bindAddress, logLevel, logFormat, pools, fixtures⟩)
    (fun s => (s.bindAddress, s.logLevel, s.logFormat, s.pools, s.fixtures, ()))

/-- The layer that a document makes, its envelopes opened and its texts folded. -/
def documentLayer (document : Json) : Except LoadFault Json :=
  match SettingsDocument.fault? document with
  | some f => .error (.document f)
  | none => .ok ((Envelope.openedDocument document).mapTexts Folding.fold)

/-- The document with the variables over it. -/
def layered (document : Option Json) (given : List Variable) : Except LoadFault Json := do
  match document with
  | none => return Variable.layers given
  | some document => return (← documentLayer document).merge (Variable.layers given)

/-- The settings of a document, if there is one, and of variables. What is left over in
them is passed over. -/
def load (document : Option Json) (given : List Variable) :
    Except LoadFault ServerSettings := do
  let layers ← layered document given
  let settings ← (shape.read .lenient layers).mapError .shape
  settings.pools.check.mapError .settings
  return settings

end ServerSettings

end ClaimGate
