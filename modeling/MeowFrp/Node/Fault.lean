import MeowFrp.Api.Access
import MeowFrp.Api.Proxies
import MeowFrp.Core.Manager

/-!
# Outage handling of a node

Model of Go `internal/httpapi/node_fault.go`: what a node keeps in memory about its clients, how an
outage closes admission and drains clients, and the fallback `allowFaultRuntime`, which answers FRP
keepalives from the remembered leases while the database or the controller is unavailable. The
functions serve both kinds of node; `edgeUnavailable` is Go `nodeUnavailableEdge`, which is false on
the controller.
-/

namespace MeowFrp.Node

open MeowFrp.Core

/-- Go `faultClient`. -/
structure FaultClient where
  rowId : Nat
  tokenHash : String
  tokenId : Nat
  clientId : String
  draining : Bool := false
  warned : Bool := false
  logoutSent : Bool := false
  lastSeen : Time
  deriving DecidableEq, Repr

/-- Go `nodeFaultState`. -/
structure NodeFault where
  closed : Bool := false
  databaseFailed : Bool := false
  localFailed : Bool := false
  clients : List FaultClient := []
  drains : List (Nat × String) := []
  deriving DecidableEq, Repr

/-- What a node keeps in memory: the FRP core and the outage state. -/
structure Memory where
  core : Manager := {}
  fault : NodeFault := {}

namespace Memory

/-- Go `faultDrainKey`. -/
def faultDrainKey (tokenId : Nat) (clientId : String) : Nat × String := (tokenId, trimSpace clientId)

/-- The entry of a client under Go `faultClientKey`. -/
def lookupClient (m : Memory) (tokenHash clientId : String) : Option FaultClient :=
  m.fault.clients.find? fun c => c.tokenHash = tokenHash && trimSpace c.clientId = trimSpace clientId

/-- Replace the entry of a client. -/
def putClient (m : Memory) (c : FaultClient) : Memory :=
  { m with
    fault := { m.fault with
      clients := c :: m.fault.clients.filter fun d =>
        !(d.tokenHash = c.tokenHash && trimSpace d.clientId = trimSpace c.clientId) } }

/-- Forget that a client drains, if it has no proxy left. -/
def finishDrain (m : Memory) (tokenId : Nat) (clientId : String) : Memory :=
  { core := m.core.finishClientDrain tokenId clientId
    fault := { m.fault with drains := m.fault.drains.filter (· ≠ faultDrainKey tokenId clientId) } }

/-- Go `rememberClient`; `login` is a request for the resource policy. -/
def rememberClient (m : Memory) (now : Time) (tokenHash : String) (client : Client) (login : Bool) :
    Memory :=
  match m.lookupClient tokenHash client.clientId with
  | some c =>
    if login && c.draining && !m.fault.closed && m.core.clientProxyCount c.tokenId c.clientId = 0 then
      (m.finishDrain c.tokenId c.clientId).putClient
        { c with draining := false, warned := false, logoutSent := false, lastSeen := now }
    else m.putClient { c with lastSeen := now }
  | none =>
    let m :=
      if login && !m.fault.closed && m.core.clientProxyCount client.tokenId client.clientId = 0 then
        m.finishDrain client.tokenId client.clientId
      else m
    m.putClient
      { rowId := client.id, tokenHash, tokenId := client.tokenId, clientId := client.clientId,
        lastSeen := now }

/-- Go `clientIsDraining`. -/
def clientIsDraining (m : Memory) (tokenId : Nat) (clientId : String) : Bool :=
  m.fault.drains.contains (faultDrainKey tokenId clientId) || m.core.clientDraining tokenId clientId

/-- Go `transitionNodeFault`; an edge whose store failed does not reopen. -/
def transitionNodeFault (m : Memory) (edge closed : Bool) : Memory :=
  if !closed && edge && m.fault.localFailed then m
  else
    { core := m.core.setAdmissionClosed closed
      fault := { m.fault with
        closed
        clients :=
          if closed then m.fault.clients.map fun c => { c with draining := true } else m.fault.clients
        drains :=
          if closed then
            m.fault.drains ++ m.fault.clients.map fun c => faultDrainKey c.tokenId c.clientId
          else m.fault.drains } }

/-- Go `pauseDatabaseAdmission`. -/
def pauseDatabaseAdmission (m : Memory) : Memory :=
  { core := m.core.pauseAdmission, fault := { m.fault with closed := true } }

/-- Go `observeControllerDatabaseHealth` without the notices, and `failedSince`. -/
def observeControllerDatabaseHealth (m : Memory) (now : Time) (ok : Bool) (failedSince : Option Time) :
    Memory × Option Time :=
  if ok then
    let recovering := m.fault.closed
    let m : Memory := { m with fault := { m.fault with databaseFailed := false } }
    (if recovering then m.transitionNodeFault false false else m, none)
  else
    let m := if failedSince.isNone then m.pauseDatabaseAdmission else m
    let since := failedSince.getD now
    if now - since ≥ 10000 && !m.fault.databaseFailed then
      let m : Memory := { m with fault := { m.fault with databaseFailed := true } }
      (m.transitionNodeFault false true, some since)
    else (m, some since)

/-- Idle clients without proxies are forgotten (`runNodeHealth`). -/
def forgetIdle (m : Memory) (now : Time) : Memory :=
  { m with
    fault := { m.fault with
      clients := m.fault.clients.filter fun c =>
        !(now - c.lastSeen > 2 * 60000 && m.core.clientProxyCount c.tokenId c.clientId = 0) } }

/-- Go `allowFaultRuntime`. -/
def allowFaultRuntime (m : Memory) (tokenHash : String → String) (edgeUnavailable : Bool)
    (metas : Api.Metas) : Bool :=
  match m.core.existingRuntime metas.leaseId (tokenHash metas.token) with
  | none => false
  | some lease =>
    m.fault.closed || edgeUnavailable || m.clientIsDraining lease.tokenId lease.clientId

/-- The reply of `faultHeartbeat`. -/
inductive FaultReply where
  | unavailable
  | recovering
  | draining (reauth warning : Bool)
  deriving DecidableEq, Repr

/-- Go `faultHeartbeat`; `none` leaves the request to the ordinary handler. `nodeUnavailable` and
`edgeUnavailable` are the functions of that name. -/
def faultHeartbeat (m : Memory) (cfg : Api.NodeConfig) (now : Time)
    (nodeUnavailable edgeUnavailable : Bool) (tokenHash clientId : String) :
    Memory × Option FaultReply :=
  match m.lookupClient tokenHash clientId with
  | none => (m, if nodeUnavailable then some .unavailable else none)
  | some c =>
    let drains := (m.fault.closed && (cfg.mode = .edge || m.fault.databaseFailed)) || edgeUnavailable
    let m : Memory :=
      if drains then
        { m with fault := { m.fault with drains := m.fault.drains ++ [faultDrainKey c.tokenId c.clientId] } }
      else m
    let c := { c with draining := c.draining || drains }
    if !c.draining then
      if m.fault.closed && cfg.mode = .controller then
        (m.putClient { c with lastSeen := now }, some .recovering)
      else (m, none)
    else
      let reauth := m.core.clientProxyCount c.tokenId c.clientId = 0 && cfg.embeddedFrpEnabled
      let warning := !reauth && !c.warned
      (m.putClient
        { c with
          lastSeen := now
          logoutSent := c.logoutSent || reauth
          warned := c.warned || warning }, some (.draining reauth warning))

/-! ## What outage handling does to the core -/

variable {m : Memory}

lemma settles_finishDrain {tokenId clientId} : m.core.Settles (m.finishDrain tokenId clientId).core :=
  Manager.settles_finishClientDrain

lemma settles_rememberClient {now hash client login} :
    m.core.Settles (m.rememberClient now hash client login).core := by
  unfold rememberClient
  split
  · split
    · exact settles_finishDrain
    · exact .refl
  · dsimp only [putClient]
    split
    · exact settles_finishDrain
    · exact .refl

/-- Moving the fence activates nothing. -/
lemma settles_transitionNodeFault {core : Manager} {fault edge closed} :
    core.Settles (transitionNodeFault ⟨core, fault⟩ edge closed).core := by
  unfold transitionNodeFault
  split
  · exact .refl
  · exact Manager.settles_setAdmissionClosed

lemma settles_pauseDatabaseAdmission : m.core.Settles m.pauseDatabaseAdmission.core :=
  Manager.settles_pauseAdmission

/-- A probe activates nothing. -/
lemma settles_observe {now ok since} :
    m.core.Settles (m.observeControllerDatabaseHealth now ok since).1.core := by
  unfold observeControllerDatabaseHealth
  split
  · dsimp only
    split
    · exact settles_transitionNodeFault
    · exact .refl
  · have paused : m.core.Settles (if since.isNone then m.pauseDatabaseAdmission else m).core := by
      split
      · exact settles_pauseDatabaseAdmission
      · exact .refl
    revert paused
    generalize (if since.isNone then m.pauseDatabaseAdmission else m) = m₁
    intro paused
    dsimp only
    split
    · exact paused.trans settles_transitionNodeFault
    · exact paused

/-- A heartbeat activates nothing. -/
lemma settles_faultHeartbeat {cfg now u v hash clientId} :
    m.core.Settles (m.faultHeartbeat cfg now u v hash clientId).1.core := by
  have same : (m.faultHeartbeat cfg now u v hash clientId).1.core = m.core := by
    unfold faultHeartbeat
    split
    · rfl
    · dsimp only
      split
      · split <;> split <;> rfl
      · dsimp only [putClient]
        split <;> rfl
  rw [same]
  exact .refl

end Memory

end MeowFrp.Node
