import ClaimGate.Json.Basic

/-! Layers of a document. Where both layers hold an object the members are merged one by
one; anything else of the later layer replaces what the earlier one has there. -/

namespace ClaimGate.Json

mutual

def merge : Json → Json → Json
  | .obj earlier, .obj later => .obj (mergeMembers (.ofList earlier) later).entries
  | _, later => later
termination_by structural _ later => later

def mergeMembers : Dict String Json → List (String × Json) → Dict String Json
  | d, [] => d
  | d, m :: later => mergeMembers (mergeMember d m) later
termination_by structural _ later => later

def mergeMember : Dict String Json → String × Json → Dict String Json
  | d, (name, later) =>
    d.insert name <| match d.get? name with
      | some earlier => merge earlier later
      | none => later
termination_by structural _ m => m

end

end ClaimGate.Json
