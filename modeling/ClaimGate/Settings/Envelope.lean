import ClaimGate.Json.Basic

/-! Envelopes in a settings document. An object with a member of a reserved name stands
for the value in that member, at any depth below the document itself; what else it holds
is passed over. An object may also carry a tag, a number without sign that says nothing
about the settings. A value without either is as it is written. -/

namespace ClaimGate.Envelope

/-- The name of the member that an envelope is about. -/
def valueName : String := "___figment_value_value"

/-- The name of the member that is a tag. -/
def tagName : String := "___figment_value_id"

def isTag : Json → Bool
  | .int n => 0 ≤ n
  | _ => false

/-- What an object of these members stands for. -/
def content (ms : List (String × Json)) : Json := (ms.lookup valueName).getD (.obj ms)

mutual

/-- The value with every envelope opened and every tag taken off. -/
def opened : Json → Json
  | .arr l => .arr (openedItems l)
  | .obj ms => content (openedMembers ms)
  | j => j

def openedItems : List Json → List Json
  | [] => []
  | j :: l => opened j :: openedItems l

def openedMembers : List (String × Json) → List (String × Json)
  | [] => []
  | (name, j) :: ms =>
    if name = tagName then openedMembers ms else (name, opened j) :: openedMembers ms

end

/-- The document, which is itself no envelope and carries no tag, with what it holds
opened. -/
def openedDocument : Json → Json
  | .obj ms => .obj (ms.map fun m => (m.1, opened m.2))
  | j => opened j

/-- An envelope stands for what is in it. -/
theorem opened_envelope (j : Json) : opened (.obj [(valueName, j)]) = opened j := by
  have h : valueName ≠ tagName := by decide
  simp [opened, openedMembers, h, content]

/-- A tag changes nothing. -/
theorem opened_tagged (tag : Json) (ms : List (String × Json)) :
    opened (.obj ((tagName, tag) :: ms)) = opened (.obj ms) := by
  simp [opened, openedMembers]

end ClaimGate.Envelope
