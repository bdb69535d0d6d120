import MeowFrp.Db.Store
import MeowFrp.Dpi.Parsers

/-!
# Traffic inspection

Model of Go `internal/dpi`: the service asks its provider for the policy of a sample's flow, remembers
the answer for the lease, and falls back to the remembered one when the provider fails or has been
marked unavailable. The policy then decides over the findings of the engine. What the provider and the
engine answer is passed in; recording the events is left out.
-/

namespace MeowFrp.Dpi

open Function

/-- Go `dpi.Action`. -/
inductive Action where
  | allow
  | monitor
  | block
  deriving DecidableEq, Repr

/-- Go `dpi.Decision`. -/
structure Decision where
  action : Action
  reason : String := ""
  finding : Option Finding := none
  findings : List Finding := []
  deriving DecidableEq, Repr

/-- Go `dpi.Allow`. -/
def allow : Decision := { action := .allow }

/-- The errors of a policy provider: Go `ErrPolicySynchronizing`, and those of queries. -/
inductive PolicyError where
  | synchronizing
  | query (message : String)
  deriving DecidableEq, Repr

/-- Go `dpi.DefaultPolicy`; it belongs to no user. -/
def defaultPolicy : DpiPolicy where
  userId := 0
  enabled := false
  mode := .monitor
  enabledDetectors := Db.Store.defaultDetectors
  blockOnAnyFinding := false
  allowHttp := true
  allowTls := true
  allowQuic := true
  allowEncryptedTunnel := true
  maxInspectBytes := 8192
  temporaryBlockTtl := 120
  encryptedTunnelMode := .monitor

/-! ## The decision -/

/-- Go `filterFindings`. -/
def filterFindings (findings : List Finding) (enabledDetectors : List String) : List Finding :=
  let enabled := (enabledDetectors.map fun detector => toLower (trimSpace detector)).filter (· ≠ "")
  findings.filter fun finding => enabled.contains (toLower finding.detector)

/-- The switch in the loop of Go `blockedByPolicy`. -/
def blockReason (policy : DpiPolicy) (finding : Finding) : Option String :=
  match toLower finding.detector with
  | "http" => if policy.allowHttp then none else some "http is blocked by user dpi policy"
  | "tls" => if policy.allowTls then none else some "tls is blocked by user dpi policy"
  | "quic" => if policy.allowQuic then none else some "quic is blocked by user dpi policy"
  | "encrypted_tunnel" =>
    if policy.allowEncryptedTunnel then none else some "encrypted tunnel is blocked by user dpi policy"
  | _ => none

/-- Go `blockedByPolicy`. -/
def blockedByPolicy (policy : DpiPolicy) (findings : List Finding) : Option (String × Finding) :=
  findings.findSome? fun finding => (blockReason policy finding).map (·, finding)

/-- Go `Inspect` from the point where the policy is known. -/
def judge (policy : DpiPolicy) (engine : Except String (List Finding)) : Decision :=
  if !policy.enabled || policy.enabledDetectors.isEmpty then allow
  else
    match engine with
    | .error message => { action := .monitor, reason := "dpi engine error: " ++ message }
    | .ok found =>
      match filterFindings found policy.enabledDetectors with
      | [] => allow
      | first :: rest =>
        let observed : Decision :=
          { action := .monitor, reason := "dpi finding observed", finding := some first
            findings := first :: rest }
        if policy.mode = .block then
          match blockedByPolicy policy (first :: rest) with
          | some (reason, finding) => { observed with action := .block, reason, finding := some finding }
          | none =>
            if policy.blockOnAnyFinding then
              { observed with action := .block, reason := "blocked by dpi policy" }
            else observed
        else observed

/-! ## The service -/

/-- Go `dpi.Service`. -/
structure Service where
  providerUnavailable : Bool := false
  leasePolicies : String → Option DpiPolicy := fun _ => none

namespace Service

/-- Remember a policy for a lease. -/
def remember (s : Service) (leaseId : String) (policy : DpiPolicy) : Service :=
  { s with leasePolicies := update s.leasePolicies leaseId (some policy) }

/-- Go `PrimeLease` with the provider's answer. -/
def primeLease (s : Service) (leaseId : String) (answer : Except PolicyError DpiPolicy) : Service :=
  match answer with
  | .ok policy => if leaseId = "" then s else s.remember leaseId policy
  | .error _ => s

/-- The answer for Go `Inspect`: an unavailable provider is not asked. -/
def ask (s : Service) (answer : Except PolicyError DpiPolicy) : Except PolicyError DpiPolicy :=
  if s.providerUnavailable then .error .synchronizing else answer

/-- The policy of Go `Inspect`: the answer, or the one remembered for the lease. -/
def effective (s : Service) (leaseId : String) (answer : Except PolicyError DpiPolicy) :
    Except PolicyError DpiPolicy :=
  match answer with
  | .ok policy => .ok policy
  | .error reason =>
    match if leaseId = "" then none else s.leasePolicies leaseId with
    | some saved => .ok saved
    | none => .error reason

/-- Go `Inspect` after the provider has answered. -/
def conclude (s : Service) (leaseId : String) (answer : Except PolicyError DpiPolicy)
    (engine : Except String (List Finding)) : Service × Decision :=
  (s.primeLease leaseId answer,
    match s.effective leaseId answer with
    | .ok policy => judge policy engine
    | .error .synchronizing => { action := .block, reason := "identity policy synchronization in progress" }
    | .error (.query _) => allow)

/-- Go `Inspect`. -/
def inspect (s : Service) (leaseId : String) (answer : Except PolicyError DpiPolicy)
    (engine : Except String (List Finding)) : Service × Decision :=
  s.conclude leaseId (s.ask answer) engine

variable {s : Service} {leaseId : String} {policy : DpiPolicy}

@[simp]
lemma remember_self : (s.remember leaseId policy).leasePolicies leaseId = some policy :=
  update_self ..

lemma remember_of_ne {leaseId' : String} (ne : leaseId' ≠ leaseId) :
    (s.remember leaseId policy).leasePolicies leaseId' = s.leasePolicies leaseId' :=
  update_of_ne ne ..

/-- Under a policy that is returned, the decision is the policy's. -/
lemma inspect_of_ok {engine} (available : s.providerUnavailable = false) :
    (s.inspect leaseId (.ok policy) engine).2 = judge policy engine := by
  unfold inspect ask
  rw [available]
  rfl

end Service

end MeowFrp.Dpi
