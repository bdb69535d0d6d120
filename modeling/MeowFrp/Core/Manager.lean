import Mathlib.Order.Nat
import MeowFrp.Data.Models
import MeowFrp.Data.Text

/-!
# The embedded FRP core

Model of Go `internal/frpcore`: the leases the node remembers from FRP logins, the admission fence
with its draining clients and proxy counts (`admission.go`), the proxy bindings, and the tracked
connections with the operations that end them (`manager.go`). A Go map is a list with one entry per
key; a map of counters is a function that is zero where the map has no entry. The keys that the source
builds by joining strings (`clientKey`, `bindingKey`, run id and proxy name) are pairs.
-/

namespace MeowFrp.Core

open List Function

/-- Go `ProxyBinding`. -/
structure ProxyBinding where
  userId : Nat
  tokenId : Nat
  clientId : String
  leaseId : String
  proxyName : String
  proxyType : String
  remotePort : Nat
  deriving DecidableEq, Repr

/-- Go `ActiveConnection`, a TCP connection or a UDP flow. -/
structure ActiveConnection where
  id : Nat
  userId : Nat
  tokenId : Nat
  clientId : String
  leaseId : String
  proxyName : String
  remoteAddr : String
  lastSeenAt : Time
  deriving DecidableEq, Repr

/-- Go `Manager`. -/
structure Manager where
  admissionClosed : Bool := false
  drainingClients : List (Nat × String) := []
  runtimeLeases : List RuntimeLease := []
  /-- run id and proxy name to lease id -/
  registeredProxies : List ((String × String) × String) := []
  proxyCounts : Nat × String → Nat := fun _ => 0
  leaseProxyCounts : String → Nat := fun _ => 0
  bindings : List ProxyBinding := []
  tcpConnections : List ActiveConnection := []
  udpFlows : List ActiveConnection := []
  blockedInboundIps : List BlockedIp := []
  nextConnectionId : Nat := 0
  udpFlowTimeout : Nat := 10000
  maxUdpFlows : Nat := 32768

namespace Manager

/-- Go `clientKey` of a lease. -/
def clientKey (l : RuntimeLease) : Nat × String := (l.tokenId, l.clientId)

/-- The entry of `runtimeLeases` under an id. -/
def lookupLease (m : Manager) (leaseId : String) : Option RuntimeLease :=
  m.runtimeLeases.find? (·.leaseId = leaseId)

/-- The key of a stored lease, that of the zero value for none. -/
def keyOf (m : Manager) (leaseId : String) : Nat × String :=
  ((m.lookupLease leaseId).map clientKey).getD (0, "")

/-! ## Admission -/

/-- Go `SetAdmissionClosed`. -/
def setAdmissionClosed (m : Manager) (closed : Bool) : Manager :=
  { m with
    admissionClosed := closed
    drainingClients :=
      if closed then m.drainingClients ++ m.runtimeLeases.map clientKey else m.drainingClients }

/-- Go `PauseAdmission`. -/
def pauseAdmission (m : Manager) : Manager := { m with admissionClosed := true }

/-- Go `RememberRuntimeLease`. -/
def rememberRuntimeLease (m : Manager) (lease : RuntimeLease) : Manager :=
  { m with runtimeLeases := lease :: m.runtimeLeases.filter (·.leaseId ≠ lease.leaseId) }

/-- Go `ClientDraining`. -/
def clientDraining (m : Manager) (tokenId : Nat) (clientId : String) : Bool :=
  m.drainingClients.contains (tokenId, clientId)

/-- Go `ClientProxyCount`. -/
def clientProxyCount (m : Manager) (tokenId : Nat) (clientId : String) : Nat :=
  m.proxyCounts (tokenId, clientId)

/-- Go `FinishClientDrain`. -/
def finishClientDrain (m : Manager) (tokenId : Nat) (clientId : String) : Manager :=
  if m.proxyCounts (tokenId, clientId) > 0 then m
  else
    { m with
      drainingClients := m.drainingClients.filter (· ≠ (tokenId, clientId))
      runtimeLeases := m.runtimeLeases.filter (clientKey · ≠ (tokenId, clientId)) }

/-- Go `ExistingRuntime`. -/
def existingRuntime (m : Manager) (leaseId hash : String) : Option RuntimeLease :=
  (m.lookupLease leaseId).filter fun l => l.status = .active && l.runtimeTokenHash = hash

/-! ## Registered proxies -/

/-- The check of `proxyLifecycle.Begin`. -/
def mayRegister (m : Manager) (leaseId : String) : Bool :=
  !m.admissionClosed &&
    (m.lookupLease leaseId).any fun l => l.status = .active && !m.clientDraining l.tokenId l.clientId

/-- Go `removeProxyCountLocked`. -/
def removeProxyCount (m : Manager) (leaseId : String) : Manager :=
  { m with
    proxyCounts := update m.proxyCounts (m.keyOf leaseId) (m.proxyCounts (m.keyOf leaseId) - 1)
    leaseProxyCounts := update m.leaseProxyCounts leaseId (m.leaseProxyCounts leaseId - 1) }

/-- The lease under which a run registered a proxy. -/
def registeredUnder (m : Manager) (runId name : String) : Option String :=
  (m.registeredProxies.find? (·.1 = (runId, name))).map (·.2)

/-- Go `proxyLifecycle.Opened`. -/
def opened (m : Manager) (leaseId runId name : String) : Manager :=
  let m := match m.registeredUnder runId name with
    | some old => m.removeProxyCount old
    | none => m
  { m with
    registeredProxies :=
      ((runId, name), leaseId) :: m.registeredProxies.filter (·.1 ≠ (runId, name))
    proxyCounts := update m.proxyCounts (m.keyOf leaseId) (m.proxyCounts (m.keyOf leaseId) + 1)
    leaseProxyCounts := update m.leaseProxyCounts leaseId (m.leaseProxyCounts leaseId + 1) }

/-- Go `proxyLifecycle.Closed`. -/
def closed (m : Manager) (runId name : String) : Manager :=
  match m.registeredUnder runId name with
  | none => m
  | some leaseId =>
    { m.removeProxyCount leaseId with
      registeredProxies := m.registeredProxies.filter (·.1 ≠ (runId, name)) }

/-! ## Bindings and connections -/

/-- Go `BindProxy`. -/
def bindProxy (m : Manager) (binding : ProxyBinding) : Manager :=
  { m with
    bindings := binding :: m.bindings.filter fun b =>
      (b.leaseId, b.proxyName) ≠ (binding.leaseId, binding.proxyName) }

/-- Go `UnbindProxy`. -/
def unbindProxy (m : Manager) (leaseId proxyName : String) : Manager :=
  { m with bindings := m.bindings.filter fun b => (b.leaseId, b.proxyName) ≠ (leaseId, proxyName) }

/-- Go `bindingForLocked`: an unbound proxy belongs to nobody. -/
def bindingFor (m : Manager) (leaseId proxyName : String) : ProxyBinding :=
  (m.bindings.find? fun b => b.leaseId = leaseId && b.proxyName = proxyName).getD
    ⟨0, 0, "", leaseId, proxyName, "", 0⟩

/-- A connection of a proxy, attributed through its binding. -/
def connectionOf (m : Manager) (now : Time) (id : Nat) (leaseId proxyName remoteAddr : String) :
    ActiveConnection :=
  let binding := m.bindingFor leaseId proxyName
  ⟨id, binding.userId, binding.tokenId, binding.clientId, leaseId, proxyName, remoteAddr, now⟩

/-- Go `RegisterTCPConnection`. -/
def registerTcpConnection (m : Manager) (now : Time) (leaseId proxyName remoteAddr : String) :
    Manager :=
  let id := m.nextConnectionId + 1
  { m with
    nextConnectionId := id
    tcpConnections := m.connectionOf now id leaseId proxyName remoteAddr :: m.tcpConnections }

/-- Go `UnregisterTCPConnection`. -/
def unregisterTcpConnection (m : Manager) (id : Nat) : Manager :=
  { m with tcpConnections := m.tcpConnections.filter (·.id ≠ id) }

/-- Go `ObserveUDPFlow`: one flow per lease, proxy and remote address. -/
def observeUdpFlow (m : Manager) (now : Time) (leaseId proxyName remoteAddr : String) : Manager :=
  let same (c : ActiveConnection) : Bool :=
    c.leaseId = leaseId && c.proxyName = proxyName && c.remoteAddr = remoteAddr
  match m.udpFlows.find? same with
  | some flow =>
    { m with
      udpFlows := m.connectionOf now flow.id leaseId proxyName remoteAddr ::
        m.udpFlows.filter (!same ·) }
  | none =>
    if m.maxUdpFlows > 0 && m.udpFlows.length ≥ m.maxUdpFlows then m
    else
      { m with
        nextConnectionId := m.nextConnectionId + 1
        udpFlows :=
          m.connectionOf now (m.nextConnectionId + 1) leaseId proxyName remoteAddr :: m.udpFlows }

/-- Go `cleanupExpiredUDPFlows`. -/
def cleanupExpiredUdpFlows (m : Manager) (now : Time) : Manager :=
  { m with udpFlows := m.udpFlows.filter fun c => now - c.lastSeenAt ≤ m.udpFlowTimeout }

/-- Go `ListConnections`. -/
def listConnections (m : Manager) (now : Time) (udpTimeout : Nat) : List ActiveConnection :=
  m.tcpConnections ++ m.udpFlows.filter fun c => now - c.lastSeenAt ≤ udpTimeout

/-- Whose connections an operation ends. -/
inductive Target where
  | user (id : Nat)
  | token (id : Nat)
  | client (tokenId : Nat) (clientId : String)
  | lease (leaseId : String)
  deriving DecidableEq, Repr

/-- The target names somebody; the source returns early otherwise. -/
def Target.valid : Target → Bool
  | .user id => id > 0
  | .token id => id > 0
  | .client tokenId clientId => tokenId > 0 && trimSpace clientId ≠ ""
  | .lease leaseId => leaseId ≠ ""

/-- The remembered leases the target covers. -/
def Target.covers : Target → RuntimeLease → Bool
  | .user id, l => l.userId = id
  | .token id, l => l.tokenId = id
  | .client tokenId clientId, l => l.tokenId = tokenId && l.clientId = trimSpace clientId
  | .lease leaseId, l => l.leaseId = leaseId

/-- The connections the target covers. -/
def Target.reaches : Target → ActiveConnection → Bool
  | .user id, c => c.userId = id
  | .token id, c => c.tokenId = id
  | .client tokenId clientId, c => c.tokenId = tokenId && c.clientId = trimSpace clientId
  | .lease leaseId, c => c.leaseId = leaseId

/-- Go `invalidateRuntime`. -/
def invalidateRuntime (m : Manager) (covered : RuntimeLease → Bool) : Manager :=
  { m with runtimeLeases := m.runtimeLeases.map fun l => if covered l then l.revoke else l }

/-- Go `terminateConnections`. -/
def terminateConnections (m : Manager) (reached : ActiveConnection → Bool) : Manager :=
  { m with
    tcpConnections := m.tcpConnections.filter (!reached ·)
    udpFlows := m.udpFlows.filter (!reached ·) }

/-- Go `TerminateConnectionsForUser`, `-ForToken`, `-ForClient` and `-ForLease`. -/
def terminate (m : Manager) (target : Target) : Manager :=
  if target.valid then (m.invalidateRuntime target.covers).terminateConnections target.reaches else m

/-! ## What the operations can do

Apart from a login no operation makes a remembered lease active, and apart from the two that track a
connection none adds one. -/

variable {m m' m'' : Manager}

/-- The TCP connections and UDP flows. -/
def tracked (m : Manager) : List ActiveConnection := m.tcpConnections ++ m.udpFlows

/-- An operation that neither is a login nor tracks a new connection. -/
structure Settles (m m' : Manager) : Prop where
  active : ∀ l ∈ m'.runtimeLeases, l.status = .active → l ∈ m.runtimeLeases
  tracked : ∀ c ∈ m'.tracked, c ∈ m.tracked

lemma Settles.refl : Settles m m := ⟨fun _ ml _ => ml, fun _ mc => mc⟩

lemma Settles.trans (s : Settles m m') (s' : Settles m' m'') : Settles m m'' :=
  ⟨fun l ml act => s.active l (s'.active l ml act) act, fun c mc => s.tracked c (s'.tracked c mc)⟩

/-- Connections stay, and leases are deleted at most. -/
lemma Settles.of_leases (leases : ∀ l ∈ m'.runtimeLeases, l ∈ m.runtimeLeases)
    (tcp : m'.tcpConnections = m.tcpConnections) (udp : m'.udpFlows = m.udpFlows) : Settles m m' := by
  refine ⟨fun l ml _ => leases l ml, fun c mc => ?_⟩
  rw [Manager.tracked, tcp, udp] at mc
  exact mc

lemma settles_setAdmissionClosed {closed} : Settles m (m.setAdmissionClosed closed) :=
  .of_leases (fun _ ml => ml) rfl rfl

lemma settles_pauseAdmission : Settles m m.pauseAdmission := .of_leases (fun _ ml => ml) rfl rfl

/-- The end of a drain activates nothing. -/
lemma settles_finishClientDrain {tokenId clientId} :
    Settles m (m.finishClientDrain tokenId clientId) := by
  unfold finishClientDrain
  split
  · exact .refl
  · exact .of_leases (fun _ ml => mem_of_mem_filter ml) rfl rfl

/-- A proxy that opens activates nothing. -/
lemma settles_opened {leaseId runId name} : Settles m (m.opened leaseId runId name) := by
  unfold opened
  dsimp only
  split <;> exact .of_leases (fun _ ml => ml) rfl rfl

lemma settles_closed {runId name} : Settles m (m.closed runId name) := by
  unfold closed
  split <;> exact .of_leases (fun _ ml => ml) rfl rfl

/-- A binding replaces the one of its key. -/
lemma mem_bindProxy {binding b : ProxyBinding} :
    b ∈ (m.bindProxy binding).bindings ↔ b = binding ∨
      b ∈ m.bindings ∧ (b.leaseId, b.proxyName) ≠ (binding.leaseId, binding.proxyName) := by
  unfold bindProxy
  rw [mem_cons, mem_filter, decide_eq_true_eq]

lemma mem_unbindProxy {leaseId proxyName b} :
    b ∈ (m.unbindProxy leaseId proxyName).bindings ↔
      b ∈ m.bindings ∧ (b.leaseId, b.proxyName) ≠ (leaseId, proxyName) := by
  unfold unbindProxy
  rw [mem_filter, decide_eq_true_eq]

lemma bindings_opened {leaseId runId name} : (m.opened leaseId runId name).bindings = m.bindings := by
  unfold opened
  dsimp only
  split <;> rfl

lemma bindings_closed {runId name} : (m.closed runId name).bindings = m.bindings := by
  unfold closed
  split <;> rfl

lemma settles_bindProxy {binding} : Settles m (m.bindProxy binding) :=
  .of_leases (fun _ ml => ml) rfl rfl

/-- A registered connection belongs to the lease it is registered for. -/
lemma mem_tracked_register {now leaseId proxyName remoteAddr c}
    (mc : c ∈ (m.registerTcpConnection now leaseId proxyName remoteAddr).tracked) :
    c.leaseId = leaseId ∨ c ∈ m.tracked := by
  rcases mem_cons.mp mc with rfl | old
  · exact .inl rfl
  · exact .inr old

lemma settles_unregisterTcpConnection {id} : Settles m (m.unregisterTcpConnection id) := by
  refine ⟨fun _ ml _ => ml, fun c mc => ?_⟩
  rcases mem_append.mp mc with tcp | udp
  · exact mem_append_left _ (mem_of_mem_filter tcp)
  · exact mem_append_right _ udp

/-- A flow belongs to the lease it is observed for. -/
lemma mem_tracked_observe {now leaseId proxyName remoteAddr c}
    (mc : c ∈ (m.observeUdpFlow now leaseId proxyName remoteAddr).tracked) :
    c.leaseId = leaseId ∨ c ∈ m.tracked := by
  unfold observeUdpFlow at mc
  dsimp only at mc
  split at mc
  · rcases mem_append.mp mc with tcp | udp
    · exact .inr (mem_append_left _ tcp)
    rcases mem_cons.mp udp with rfl | other
    · exact .inl rfl
    · exact .inr (mem_append_right _ (mem_of_mem_filter other))
  · split at mc
    · exact .inr mc
    · rcases mem_append.mp mc with tcp | udp
      · exact .inr (mem_append_left _ tcp)
      rcases mem_cons.mp udp with rfl | other
      · exact .inl rfl
      · exact .inr (mem_append_right _ other)

lemma runtimeLeases_observe {now leaseId proxyName remoteAddr} :
    (m.observeUdpFlow now leaseId proxyName remoteAddr).runtimeLeases = m.runtimeLeases := by
  unfold observeUdpFlow
  dsimp only
  split
  · rfl
  · split <;> rfl

lemma settles_cleanupExpiredUdpFlows {now} : Settles m (m.cleanupExpiredUdpFlows now) := by
  refine ⟨fun _ ml _ => ml, fun c mc => ?_⟩
  rcases mem_append.mp mc with tcp | udp
  · exact mem_append_left _ tcp
  · exact mem_append_right _ (mem_of_mem_filter udp)

/-- A lease that is active after a termination was so before and is not covered. -/
lemma active_terminate {target l} (ml : l ∈ (m.terminate target).runtimeLeases)
    (act : l.status = .active) :
    l ∈ m.runtimeLeases ∧ (target.valid = true → target.covers l = false) := by
  unfold terminate at ml
  split at ml
  · obtain ⟨_, mk, e⟩ := mem_map.mp ml
    split at e
    · cases e
      cases act
    · rename_i out
      cases e
      exact ⟨mk, fun _ => by simpa using out⟩
  · rename_i void
    exact ⟨ml, fun valid => absurd valid void⟩

/-- A termination leaves no connection that it reaches. -/
lemma tracked_terminate {target c} (mc : c ∈ (m.terminate target).tracked) :
    c ∈ m.tracked ∧ (target.valid = true → target.reaches c = false) := by
  unfold terminate at mc
  split at mc
  · rcases mem_append.mp mc with tcp | udp
    · obtain ⟨old, out⟩ := mem_filter.mp tcp
      exact ⟨mem_append_left _ old, fun _ => by simpa using out⟩
    · obtain ⟨old, out⟩ := mem_filter.mp udp
      exact ⟨mem_append_right _ old, fun _ => by simpa using out⟩
  · rename_i void
    exact ⟨mc, fun valid => absurd valid void⟩

/-- Termination activates nothing. -/
lemma settles_terminate {target} : Settles m (m.terminate target) :=
  ⟨fun _ ml act => (active_terminate ml act).1, fun _ mc => (tracked_terminate mc).1⟩

end Manager

end MeowFrp.Core
