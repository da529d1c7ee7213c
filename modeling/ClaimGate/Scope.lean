import ClaimGate.Dict
import ClaimGate.Identity

/-! What is asked about. Of the query parameters that name a scope the first present one
in a fixed order of precedence decides alone: a blank or unreadable value is refused and
never falls through to a weaker scope. -/

namespace ClaimGate

inductive Scope where
  | user
  | dataset (nodeId : String)
  /-- The organization that was asked for; it is only carried along. -/
  | workspace (requested : Int64)
  | manifest (id : String)
  deriving DecidableEq

/-- The parameters that name a scope. -/
inductive ScopeParameter where
  | manifest | dataset | organization
  deriving DecidableEq

inductive ScopeFault where
  | blank (parameter : ScopeParameter)
  | notAnInteger (text : String)
  | loneReference
  deriving DecidableEq

def ScopeParameter.name : ScopeParameter → String
  | .manifest => "manifest_id"
  | .dataset => "dataset_id"
  | .organization => "organization_id"

def ScopeFault.message : ScopeFault → String
  | .blank p => "empty " ++ p.name
  | .notAnInteger t => "organization_id '" ++ t ++ "' is not an integer"
  | .loneReference => "secondary reference without a scope parameter"

/-- All parameters, those that take precedence first. -/
def ScopeParameter.all : List ScopeParameter := [.manifest, .dataset, .organization]

namespace Scope

def name : Scope → String
  | .user => "user"
  | .dataset _ => "dataset"
  | .workspace _ => "workspace"
  | .manifest _ => "manifest"

/-- The parameter that decides, with its value. -/
def decisive? (query : Dict String String) : Option (ScopeParameter × String) :=
  ScopeParameter.all.findSome? fun p => (query.get? p.name).map fun v => (p, v)

/-- The scope that a parameter with this value names. -/
def ofParameter (p : ScopeParameter) (value : String) : Except ScopeFault Scope :=
  if Text.allBlank value then .error (.blank p)
  else match p with
    | .manifest => .ok (.manifest (Text.trimmed value))
    | .dataset => .ok (.dataset (Text.trimmed value))
    | .organization =>
      match Text.readId? value with
      | some n => .ok (.workspace n)
      | none => .error (.notAnInteger (Text.trimmed value))

def select (i : Identity) (query : Dict String String) : Except ScopeFault Scope :=
  match decisive? query with
  | some (p, value) => ofParameter p value
  | none => if i.reference.isSome then .error .loneReference else .ok .user

end Scope

end ClaimGate
