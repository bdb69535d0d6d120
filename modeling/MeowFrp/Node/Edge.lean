import MeowFrp.Api.Plugin
import MeowFrp.Edge.Apply
import MeowFrp.Edge.Lease
import MeowFrp.Lib.Machine
import MeowFrp.Node.Basic

/-!
# The edge as a node

The machine of an edge node: client requests and FRP plugin calls served from the cached identities,
and the worker that applies identity snapshots (the snapshot handler of Go `cmd/server/main.go`). As
on the controller, a request is a sequence of steps that interleave with those of the others.

The worker first commits the snapshot, then takes the list of tracked connections, and then checks the
connections one by one against the store, terminating those of a lease that is no longer authorised.
Connections of draining clients are skipped.

The flags of the control channel are changed from outside; what the cluster protocol guarantees about
them is not used here. `issuedUnder` is a history variable, as on the controller.
-/

namespace MeowFrp.Node

open Lib MeowFrp.Core

/-- What a request on an edge still has to do. -/
inductive EdgeEffect where
  | revokeClient (tokenId : Nat) (clientId : String)
  | clearClient (id : Nat)
  | terminate (target : Manager.Target)
  /-- remember the lease of an FRP login -/
  | remember (lease : RuntimeLease)
  /-- bind an approved proxy -/
  | bind (binding : ProxyBinding)
  /-- track an approved connection -/
  | register (leaseId proxyName remoteAddr : String)

/-- The worker that applies snapshots. -/
inductive Worker where
  | idle
  /-- the snapshot is committed, its connections are not listed yet -/
  | committed (snap : IdentitySnapshot)
  /-- connections left to check, and the leases already checked -/
  | checking (snap : IdentitySnapshot) (todo : List ActiveConnection) (checked : List String)

/-- The state of an edge node. -/
structure EdgeNode where
  store : Edge.Store := {}
  now : Time := 0
  memory : Memory := {}
  connected : Bool := false
  syncReady : Bool := false
  controllerFault : Bool := false
  /-- the request that holds `bootstrapMu` -/
  locked : Option (Locked EdgeEffect) := none
  /-- the requests in progress, by slot -/
  requests : Nat → List EdgeEffect := fun _ => []
  worker : Worker := .idle
  issuedUnder : List (String × String) := []

namespace EdgeNode

variable (env : Env)

/-- Go `edgeOnlineForNewSessions`. -/
def edgeOnlineForNewSessions (e : EdgeNode) : Bool :=
  !(e.memory.fault.closed || e.memory.fault.localFailed) && e.connected && e.syncReady &&
    !e.controllerFault

/-- Go `nodeUnavailableEdge`. -/
def nodeUnavailableEdge (e : EdgeNode) : Bool :=
  !e.connected || e.controllerFault || e.store.identityResetPending

/-! ## The snapshot worker -/

/-- The users a snapshot concerns (`affected` of the snapshot handler). -/
def affects (snap : IdentitySnapshot) (userId : Nat) : Bool :=
  snap.users.any (·.id = userId) || snap.removedUserIds.contains userId

/-- The next connection of the loop of the snapshot handler. -/
def checkConnection (e : EdgeNode) (snap : IdentitySnapshot) (checked : List String)
    (c : ActiveConnection) : EdgeNode × List String :=
  if e.memory.core.clientDraining c.tokenId c.clientId then (e, checked)
  else if snap.incremental && !affects snap c.userId then (e, checked)
  else if checked.contains c.leaseId then (e, checked)
  else
    match e.store.runtimeConnectionAuthorized e.now c.userId c.tokenId c.leaseId with
    | .ok () => (e, c.leaseId :: checked)
    | .error _ =>
      ({ e with memory := { e.memory with core := e.memory.core.terminate (.lease c.leaseId) } },
        c.leaseId :: checked)

/-- The next step of the worker. -/
def work (e : EdgeNode) (udpTtl : Nat) : Option EdgeNode :=
  match e.worker with
  | .idle => none
  | .committed snap =>
    some { e with worker := .checking snap (e.memory.core.listConnections e.now udpTtl) [] }
  | .checking _ [] _ => some { e with worker := .idle }
  | .checking snap (c :: todo) checked =>
    let (e, checked) := e.checkConnection snap checked c
    some { e with worker := .checking snap todo checked }

/-- The worker receives a snapshot; a failed one and an inner page leave nothing to finish. -/
def apply (e : EdgeNode) (snap : IdentitySnapshot) : Option EdgeNode :=
  match e.worker with
  | .idle =>
    match e.store.applyIdentitySnapshot e.now snap with
    | .error _ => none
    | .ok store =>
      some { e with store, worker := if snap.ends then .committed snap else .idle }
  | _ => none

/-! ## Client requests -/

/-- Go `edgeCredential` on the node; `path` is the endpoint's suffix. -/
def authenticate (e : EdgeNode) (bootstrap login : Bool) (accessToken clientId : String)
    (create : Option Nat) : EdgeNode × Option (AccessToken × User × Client) :=
  match Api.edgeCredential e.store e.now (env.tokenHash accessToken) clientId create with
  | .error _ => (e, none)
  | .ok (store, token, user, client) =>
    let e := { e with store }
    if e.memory.clientIsDraining client.tokenId client.clientId && bootstrap then (e, none)
    else
      let memory := e.memory.rememberClient e.now (env.tokenHash accessToken) client login
      ({ e with memory }, some (token, user, client))

/-- Go `edgeClientBootstrap` up to the heartbeat check; it keeps the client id as it was sent. -/
def bootstrap (e : EdgeNode) (accessToken clientId : String) (proxies : List ProxyAllocationInput)
    (draw : Draw) : EdgeNode :=
  if !e.edgeOnlineForNewSessions then e
  else
    match e.authenticate env true false accessToken clientId none with
    | (e, none) => e
    | (e, some (token, user, client)) =>
      if e.store.clientFresh e.now client.id then
        { e with locked := some (.validate user token (env.tokenHash accessToken) clientId proxies draw) }
      else e

/-- Go `releaseClientLease` up to the release. -/
def release (e : EdgeNode) (accessToken clientId leaseId : String) : EdgeNode :=
  let clientId := trimSpace clientId
  if accessToken = "" || clientId = "" || leaseId = "" then e
  else
    match e.authenticate env false false accessToken clientId none with
    | (e, none) => e
    | (e, some (token, _, _)) => { e with locked := some (.release leaseId token.id clientId) }

/-- What `validateEdgeProxies` reads. -/
def proxyRules (e : EdgeNode) (user : User) (token : AccessToken) (clientId : String) :
    Api.ProxyRules :=
  { cfg := env.cfg
    policy := e.store.policy user.id
    token
    grants := e.store.grants token.id
    inUse := fun protocol port =>
      e.store.book.remotePortInUseExceptClient e.now protocol port token.id clientId }

/-- Perform one effect. -/
def perform (e : EdgeNode) : EdgeEffect → EdgeNode
  | .revokeClient tokenId clientId => { e with store := e.store.revokeClient tokenId clientId }
  | .clearClient id => { e with store := e.store.clearClient id }
  | .terminate target =>
    { e with memory := { e.memory with core := e.memory.core.terminate target } }
  | .remember lease =>
    { e with memory := { e.memory with core := e.memory.core.rememberRuntimeLease lease } }
  | .bind binding =>
    { e with memory := { e.memory with core := e.memory.core.bindProxy binding } }
  | .register leaseId proxyName remoteAddr =>
    { e with memory := { e.memory with
        core := e.memory.core.registerTcpConnection e.now leaseId proxyName remoteAddr } }

/-- The next step of the request that holds the lock. -/
def proceedLocked (e : EdgeNode) : Locked EdgeEffect → EdgeNode
  | .validate user token presented clientId proxies draw =>
    match Api.validateEdgeProxies (e.proxyRules env user token clientId) proxies with
    | .error _ => { e with locked := none }
    | .ok allocations =>
      let lease := env.lease e.now user token clientId draw
      { e with locked := some (.create lease presented allocations) }
  | .create lease presented allocations =>
    match e.store.createLease lease allocations with
    | .error _ => { e with locked := none }
    | .ok store =>
      { e with store, locked := none, issuedUnder := (lease.leaseId, presented) :: e.issuedUnder }
  | .release leaseId tokenId clientId =>
    let (store, released) := e.store.releaseRuntimeLease leaseId tokenId clientId
    { e with store, locked := some (.effects (if released then [.terminate (.lease leaseId)] else [])) }
  | .effects [] => { e with locked := none }
  | .effects (effect :: rest) => { e.perform effect with locked := some (.effects rest) }

/-! ## FRP plugin calls -/

/-- A keepalive: the fallback is asked first (Go `faultFRPPlugin`, `edgeFrpPlugin`). -/
def keepalive (e : EdgeNode) (metas : Api.Metas) : Answer :=
  if e.memory.allowFaultRuntime env.tokenHash e.nodeUnavailableEdge metas then .fallback
  else
    match Api.edgeRuntime env.tokenHash e.store e.now metas with
    | .error reason => .rejected reason
    | .ok lease => .validated lease

/-- A `Login`: an accepted lease is remembered in a later step. -/
def login (e : EdgeNode) (metas : Api.Metas) : List EdgeEffect :=
  if !e.edgeOnlineForNewSessions then []
  else
    match Api.edgeRuntime env.tokenHash e.store e.now metas with
    | .error _ => []
    | .ok lease => [.remember lease]

/-- A `NewProxy`: an approved proxy is bound in a later step. -/
def newProxy (e : EdgeNode) (metas : Api.Metas) (proxyName proxyType : String) (remotePort : Nat)
    (domain subdomain : String) : List EdgeEffect :=
  if !e.edgeOnlineForNewSessions then []
  else
    match Api.edgeRuntime env.tokenHash e.store e.now metas with
    | .error _ => []
    | .ok l =>
      if e.memory.clientIsDraining l.tokenId l.clientId then []
      else if !e.store.allocationExists l.leaseId (Api.stripFrpUserProxyPrefix l.userId proxyName l.leaseId)
          (Api.normalizeProtocol proxyType) remotePort (trimSpace domain) (trimSpace subdomain) then []
      else
        [.bind ⟨l.userId, l.tokenId, l.clientId, l.leaseId, proxyName, proxyType, remotePort⟩]

/-- A user connection (`NewUserConn`) is tracked in a later step. -/
def connect (e : EdgeNode) (metas : Api.Metas) (proxyName remoteAddr : String) : List EdgeEffect :=
  match e.keepalive env metas with
  | .rejected _ => []
  | _ => [.register metas.leaseId proxyName remoteAddr]

/-! ## The machine -/

/-- The steps of the node. A request is put into a free slot. -/
inductive Action where
  | tick (elapsed : Nat)
  /-- the control client changes its flags -/
  | link (connected syncReady controllerFault : Bool)
  /-- a round of `runNodeHealth` -/
  | health (storeFailed : Bool)
  /-- the control client drops the cache before a new stream -/
  | reconnect
  /-- the process restarts -/
  | boot
  | apply (snap : IdentitySnapshot)
  | work (udpTtl : Nat)
  | heartbeat (accessToken clientId : String) (newId : Nat)
  | resourcePolicy (accessToken clientId : String) (newId : Nat)
  | logout (slot : Nat) (accessToken clientId : String)
  | bootstrap (accessToken clientId : String) (proxies : List ProxyAllocationInput) (draw : Draw)
  | release (accessToken clientId leaseId : String)
  /-- the watchdog finds a client with a stale heartbeat -/
  | sweep (slot : Nat) (id : Nat)
  | login (slot : Nat) (metas : Api.Metas)
  | newProxy (slot : Nat) (metas : Api.Metas) (proxyName proxyType : String) (remotePort : Nat)
      (domain subdomain : String)
  | connect (slot : Nat) (metas : Api.Metas) (proxyName remoteAddr : String)
  | disconnect (id : Nat)
  /-- a UDP packet of a registered proxy -/
  | packet (leaseId proxyName remoteAddr : String)
  | expireFlows
  | openProxy (leaseId runId name : String)
  | closeProxy (runId name : String)
  | proceed (slot : Nat)
  | proceedLocked

/-- Put a request into a free slot. -/
def start (e : EdgeNode) (slot : Nat) (todo : List EdgeEffect) : Option EdgeNode :=
  if e.requests slot = [] then some { e with requests := Function.update e.requests slot todo }
  else none

/-- Replace the FRP core. -/
def withCore (e : EdgeNode) (core : Manager) : EdgeNode := { e with memory := { e.memory with core } }

/-- The edge's `runNodeHealth`: record the local store and follow the control channel. -/
def health (e : EdgeNode) (storeFailed : Bool) : EdgeNode :=
  let memory : Memory := { e.memory with fault := { e.memory.fault with localFailed := storeFailed } }
  let closed := e.nodeUnavailableEdge || storeFailed
  { e with
    memory := if memory.fault.closed ≠ closed then memory.transitionNodeFault true closed else memory }

/-- One step; `none` when the action is not enabled. -/
def step (e : EdgeNode) : Action → Option EdgeNode
  | .tick elapsed => some { e with now := e.now + elapsed }
  | .link connected syncReady controllerFault =>
    some { e with connected, syncReady, controllerFault }
  | .health storeFailed => some (e.health storeFailed)
  | .reconnect => some { e with store := e.store.discardControlIdentityCache, syncReady := false }
  | .boot =>
    some
      { store := e.store.resetIdentityCache true, now := e.now, issuedUnder := e.issuedUnder }
  | .apply snap => e.apply snap
  | .work udpTtl => e.work udpTtl
  | .heartbeat accessToken clientId newId =>
    let (memory, reply) := e.memory.faultHeartbeat env.cfg e.now (!e.edgeOnlineForNewSessions)
      e.nodeUnavailableEdge (env.tokenHash accessToken) clientId
    let e := { e with memory }
    match reply with
    | some (.draining _ _) =>
      -- presence is kept up to date for a draining client
      match memory.lookupClient (env.tokenHash accessToken) clientId with
      | some c =>
        some (if e.memory.fault.localFailed then e
          else { e with store := e.store.touchClient e.now c.rowId })
      | none => some e
    | some _ => some e
    | none =>
      if !e.edgeOnlineForNewSessions then some e
      else
        match e.authenticate env false false accessToken clientId (some newId) with
        | (e, none) => some e
        | (e, some (_, _, client)) => some { e with store := e.store.touchClient e.now client.id }
  | .resourcePolicy accessToken clientId newId =>
    if !e.edgeOnlineForNewSessions then none
    else
      match e.authenticate env false true accessToken clientId (some newId) with
      | (e, none) => some e
      | (e, some (_, user, client)) =>
        if (e.store.policy user.id).any (·.enabled) then
          some { e with store := e.store.touchClient e.now client.id }
        else some e
  | .logout slot accessToken clientId =>
    match e.authenticate env false false accessToken clientId none with
    | (e, none) => some e
    | (e, some (token, _, client)) =>
      e.start slot
        [.revokeClient token.id clientId, .clearClient client.id, .terminate (.client token.id clientId)]
  | .bootstrap accessToken clientId proxies draw =>
    if e.locked.isSome || e.issuedUnder.any (·.1 = draw.leaseId) then none
    else some (e.bootstrap env accessToken clientId proxies draw)
  | .release accessToken clientId leaseId =>
    if e.locked.isSome then none else some (e.release env accessToken clientId leaseId)
  | .sweep slot id =>
    if !e.edgeOnlineForNewSessions then none
    else
      match (e.store.staleClients e.now).find? (·.id = id) with
      | none => none
      | some client =>
        if e.memory.clientIsDraining client.tokenId client.clientId then none
        else
          e.start slot [.revokeClient client.tokenId client.clientId, .clearClient id,
            .terminate (.client client.tokenId client.clientId)]
  | .login slot metas => e.start slot (e.login env metas)
  | .newProxy slot metas proxyName proxyType remotePort domain subdomain =>
    e.start slot (e.newProxy env metas proxyName proxyType remotePort domain subdomain)
  | .connect slot metas proxyName remoteAddr => e.start slot (e.connect env metas proxyName remoteAddr)
  | .disconnect id => some (e.withCore (e.memory.core.unregisterTcpConnection id))
  | .packet leaseId proxyName remoteAddr =>
    if e.memory.core.registeredProxies.any (·.2 = leaseId) then
      some (e.withCore (e.memory.core.observeUdpFlow e.now leaseId proxyName remoteAddr))
    else none
  | .expireFlows => some (e.withCore (e.memory.core.cleanupExpiredUdpFlows e.now))
  | .openProxy leaseId runId name =>
    if e.memory.core.mayRegister leaseId then some (e.withCore (e.memory.core.opened leaseId runId name))
    else none
  | .closeProxy runId name => some (e.withCore (e.memory.core.closed runId name))
  | .proceed slot =>
    match e.requests slot with
    | [] => none
    | effect :: rest => some { e.perform effect with requests := Function.update e.requests slot rest }
  | .proceedLocked =>
    match e.locked with
    | none => none
    | some locked => some (e.proceedLocked env locked)

/-- An edge starts without leases. -/
def machine : Machine EdgeNode Action where
  Init e := e.store.leases = ∅ ∧ e.store.allocations = ∅ ∧ e.store.issuers = ∅ ∧
    e.store.identityResetPending = true ∧ e.memory.core.runtimeLeases = [] ∧ e.locked = none ∧
    e.requests = (fun _ => []) ∧ e.worker = .idle ∧ e.issuedUnder = []
  step := step env

/-! ## A small node

One cached user with one token, for concrete runs. -/

/-- Settings of a small edge; the hash keeps tokens apart. -/
def sampleEnv : Env where
  cfg := ⟨.edge, 1000, 2000, 7000, 8080, 9443, 3600000, true⟩
  tokenHash := fun token => "h:" ++ token

/-- The node before anything happened. -/
def sample : EdgeNode where
  store := { identityResetPending := true }

/-- A full snapshot of the user. -/
def sampleSnapshot : IdentitySnapshot :=
  { revision := 1, nodeAccessEnforced := true
    users := [⟨1, "ann", .user, .active, "", Nat.one_pos⟩]
    tokens := [⟨5, 1, "laptop", "h:ak", .active, "", 2, none, sampleTokenId_pos⟩]
    policies := [⟨1, 1024, 65535, 1, ["tcp", "udp"], true⟩] }

/-- The user's token gets another value. -/
def sampleUpdate (tokenHash : String) : IdentitySnapshot :=
  { sampleSnapshot with
    revision := 2, incremental := true
    tokens := [⟨5, 1, "laptop", tokenHash, .active, "", 2, none, sampleTokenId_pos⟩] }

/-- The node synchronises, and the user's device registers. -/
def sampleStart : List Action :=
  [.link true true false, .apply sampleSnapshot, .work 0, .work 0, .heartbeat "ak" "dev" 9]

end EdgeNode

end MeowFrp.Node
