import ClaimGate.ClaimSet
import ClaimGate.Grants
import ClaimGate.Manifest

/-! The questions that a decision puts to its collaborators. A store answers each query
or fails; a row that is not there is an answer and no failure. -/

namespace ClaimGate

/-- The families of queries. Each stage of a decision asks one family. -/
inductive Family where
  | users | organizations | teams | datasets | manifests
  deriving DecidableEq

namespace Family

def all : List Family := [users, organizations, teams, datasets, manifests]

def name : Family → String
  | users => "users"
  | organizations => "organizations"
  | teams => "teams"
  | datasets => "datasets"
  | manifests => "manifests"

def ofName? (s : String) : Option Family := all.find? (fun f => f.name = s)

def shape : Json.Shape Family := .name ofName? name

/-- What the stage of a decision that asks this family resolves. -/
def stage : Family → String
  | users => "user"
  | organizations => "organization claim"
  | teams => "team claims"
  | datasets => "dataset claim"
  | manifests => "manifest"

@[simp] theorem ofName?_name (f : Family) : ofName? f.name = some f := by cases f <;> decide

end Family

inductive StoreFault where
  /-- The store could not be reached. -/
  | unavailable (reason : String)
  /-- The store answered with something that could not be used. -/
  | internal (reason : String)
  deriving DecidableEq

def StoreFault.message : StoreFault → String
  | .unavailable r => "store unavailable: " ++ r
  | .internal r => "store error: " ++ r

inductive Query where
  /-- The user with this subject in the pool of persons. -/
  | userBySubject (subject : String)
  /-- The user who owns this subject in the pool of services. -/
  | userByTokenSubject (subject : String)
  | userById (id : Int64)
  | permission (user organization : Int64)
  | features (organization : Int64)
  | teams (user : Int64)
  | datasetByNodeId (organization : Int64) (nodeId : String)
  | grants (organization dataset user : Int64)
  | manifest (id : String)
  deriving DecidableEq

namespace Query

def Answer : Query → Type
  | userBySubject _ | userByTokenSubject _ | userById _ => Option Principal
  | permission _ _ => Option Permission
  | features _ => List String
  | teams _ => List TeamClaim
  | datasetByNodeId _ _ => Option Dataset
  | grants _ _ _ => Grants
  | manifest _ => Option Manifest

def family : Query → Family
  | userBySubject _ | userByTokenSubject _ | userById _ => .users
  | permission _ _ | features _ => .organizations
  | teams _ => .teams
  | datasetByNodeId _ _ | grants _ _ _ => .datasets
  | manifest _ => .manifests

end Query

/-- A store answers every query. -/
structure Store where
  answer : (q : Query) → Except StoreFault q.Answer

end ClaimGate
