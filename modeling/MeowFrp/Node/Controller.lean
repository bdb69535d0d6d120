import MeowFrp.Db.Op
import MeowFrp.Lib.Machine
import MeowFrp.Node.Basic

/-!
# The controller as a node

The controller serves clients like an edge does, from its own database. This file is the machine of
that node: client requests, administrator requests and FRP plugin calls, each of them a sequence of
separate steps that interleave with the steps of the others.

A request in progress is the list of the effects it still has to perform (`Effect`): transactions,
and changes of the in-memory state that follow or precede them in the handler. The requests that hold
`bootstrapMu` are one at a time (`Locked`): a bootstrap looks up its credential, validates its proxies
and creates its lease in three steps, with any other step in between.

`issuedUnder` is a history variable: it records the hash of the access token that was presented for
each lease, which the controller itself does not store. A random lease id is never drawn twice.
-/

namespace MeowFrp.Node

open Lib MeowFrp.Core

/-- What a request still has to do. -/
inductive Effect where
  /-- a transaction; the request ends when it fails -/
  | commit (op : Db.Op)
  /-- a transaction whose error is ignored -/
  | attempt (op : Db.Op)
  /-- end connections and invalidate remembered leases -/
  | terminate (target : Manager.Target)
  /-- remember the lease of an FRP login -/
  | remember (lease : RuntimeLease)

/-- The transaction that an effect runs. -/
def Effect.op : Effect → Option Db.Op
  | .commit op => some op
  | .attempt op => some op
  | _ => none

/-- The state of the controller node. -/
structure Controller where
  store : Db.Store := {}
  now : Time := 0
  /-- the database answers -/
  dbUp : Bool := true
  failedSince : Option Time := none
  memory : Memory := {}
  /-- the request that holds `bootstrapMu` -/
  locked : Option (Locked Effect) := none
  /-- the requests in progress, by slot -/
  requests : Nat → List Effect := fun _ => []
  issuedUnder : List (String × String) := []

/-- Administrator requests. -/
inductive AdminRequest where
  | createUser (user : User) (token : AccessToken)
  | createAdmin (user : User)
  | banUser (id : Nat) (reason : String)
  | unbanUser (id : Nat)
  | deleteUser (id : Nat)
  | savePolicy (policy : UserResourcePolicy)
  | createToken (token : AccessToken)
  | banToken (id : Nat) (reason : String)
  | unbanToken (id : Nat)
  | rotateToken (id : Nat) (tokenHash : String)
  | createGrant (grant : PortGrant)
  | saveDpiPolicy (policy : DpiPolicy) (detectors : Option (List String))
  | saveNodes (userId : Nat) (nodes : List String)
  | banClient (id : Nat) (reason : String)
  | unbanClient (id : Nat)
  | deleteClient (id : Nat)
  /-- the commands `stop_frpc` and `reauth` -/
  | stopClient (id : Nat)

namespace Controller

variable (env : Env)

/-- Go `banRequest`: the reason defaults. -/
def banReason (reason : String) : String :=
  if trimSpace reason = "" then "banned by administrator" else reason

/-- Go `terminateClientRuntime`. -/
def terminateClientRuntime (client : Client) : List Effect :=
  [.attempt (.revokeActiveRuntimeLeasesForClient client.tokenId client.clientId),
    .terminate (.client client.tokenId client.clientId)]

/-- The row of a client, as far as the database answers. -/
def readClient (c : Controller) (id : Nat) : Option Client :=
  if c.dbUp then c.store.getClientById id else none

/-- The effects of an administrator request, in order. -/
def program (c : Controller) : AdminRequest → List Effect
  | .createUser user token => [.commit (.identity (.createUserWithAccessToken user token))]
  | .createAdmin user => [.commit (.identity (.createUser user))]
  | .banUser id reason =>
    [.commit (.identity (.setUserStatus id .banned (banReason reason))), .terminate (.user id)]
  | .unbanUser id => [.commit (.identity (.setUserStatus id .active ""))]
  | .deleteUser id => [.terminate (.user id), .commit (.identity (.deleteUser id))]
  | .savePolicy policy => [.commit (.identity (.upsertUserResourcePolicy policy))]
  | .createToken token => [.commit (.identity (.createAccessToken token))]
  | .banToken id reason =>
    [.commit (.identity (.setAccessTokenStatus id .banned (banReason reason))), .terminate (.token id)]
  | .unbanToken id => [.commit (.identity (.setAccessTokenStatus id .active ""))]
  | .rotateToken id tokenHash => [.commit (.identity (.rotateAccessToken id tokenHash))]
  | .createGrant grant => [.commit (.identity (.createPortGrant grant))]
  | .saveDpiPolicy policy detectors => [.commit (.identity (.upsertDpiPolicy policy detectors))]
  | .saveNodes userId nodes =>
    .commit (.identity (.saveUserNodeAccess userId nodes)) ::
      if nodes.contains Db.Store.controllerNode then [] else [.terminate (.user userId)]
  | .banClient id reason =>
    .commit (.setClientStatus id .banned (banReason reason)) ::
      match c.readClient id with
      | some client => [.terminate (.client client.tokenId client.clientId)]
      | none => []
  | .unbanClient id => [.commit (.setClientStatus id .active "")]
  | .deleteClient id =>
    match c.readClient id with
    | some client => terminateClientRuntime client ++ [.commit (.deleteClient id)]
    | none => []
  | .stopClient id =>
    match c.readClient id with
    | some client => terminateClientRuntime client
    | none => []

/-- Perform one effect; `none` ends the request. -/
def perform (c : Controller) (rest : List Effect) : Effect → Controller × List Effect
  | .commit op =>
    match if c.dbUp then c.store.exec c.now op else none with
    | some store => ({ c with store }, rest)
    | none => (c, [])
  | .attempt op =>
    match if c.dbUp then c.store.exec c.now op else none with
    | some store => ({ c with store }, rest)
    | none => (c, rest)
  | .terminate target =>
    ({ c with memory := { c.memory with core := c.memory.core.terminate target } }, rest)
  | .remember lease =>
    ({ c with memory := { c.memory with core := c.memory.core.rememberRuntimeLease lease } }, rest)

/-! ## Client requests -/

/-- Which endpoint validates an access token. -/
inductive ClientPath where
  | heartbeat
  | resourcePolicy
  | bootstrap
  | release
  | logout
  deriving DecidableEq, Repr

/-- Go `validateAccessTokenRequestWithClientMode` on the node: a failing database pauses admission, a draining
client may not bootstrap, an accepted one is remembered. -/
def authenticate (c : Controller) (path : ClientPath) (accessToken clientId : String)
    (create : Option Nat) : Controller × Option (AccessToken × User × Client) :=
  if !c.dbUp then ({ c with memory := c.memory.pauseDatabaseAdmission }, none)
  else
    match Api.validateAccessTokenRequest c.store c.now (env.tokenHash accessToken) clientId create with
    | .error _ => (c, none)
    | .ok (store, token, user, client) =>
      let c := { c with store }
      if c.memory.clientIsDraining client.tokenId client.clientId && path = .bootstrap then (c, none)
      else
        let memory := c.memory.rememberClient c.now (env.tokenHash accessToken) client
          (path = .resourcePolicy)
        ({ c with memory }, some (token, user, client))

/-- Go `clientBootstrap` up to the heartbeat check. -/
def bootstrap (c : Controller) (accessToken clientId : String) (proxies : List ProxyAllocationInput)
    (draw : Draw) : Controller :=
  let clientId := trimSpace clientId
  if c.memory.fault.closed || accessToken = "" || clientId = "" then c
  else
    match c.authenticate env .bootstrap accessToken clientId none with
    | (c, none) => c
    | (c, some (token, user, client)) =>
      if c.store.isClientHeartbeatFresh c.now client.id then
        { c with locked := some (.validate user token (env.tokenHash accessToken) clientId proxies draw) }
      else { c with locked := some (.effects (terminateClientRuntime client)) }

/-- Go `releaseClientLease` up to the release. -/
def release (c : Controller) (accessToken clientId leaseId : String) : Controller :=
  let clientId := trimSpace clientId
  if accessToken = "" || clientId = "" || leaseId = "" then c
  else
    match c.authenticate env .release accessToken clientId none with
    | (c, none) => c
    | (c, some (token, _, _)) => { c with locked := some (.release leaseId token.id clientId) }

/-- The next step of the request that holds the lock. -/
def proceedLocked (c : Controller) : Locked Effect → Controller
  | .validate user token presented clientId proxies draw =>
    match if c.dbUp then Api.validateBootstrapProxies (env.proxyRules c.store c.now user token clientId) proxies
      else .error "" with
    | .error _ => { c with locked := none }
    | .ok allocations =>
      let lease := env.lease c.now user token clientId draw
      { c with locked := some (.create lease presented allocations) }
  | .create lease presented allocations =>
    match if c.dbUp then c.store.createRuntimeLease lease allocations else none with
    | none => { c with locked := none }
    | some store =>
      { c with store, locked := none, issuedUnder := (lease.leaseId, presented) :: c.issuedUnder }
  | .release leaseId tokenId clientId =>
    if c.dbUp then
      let (store, released) := c.store.releaseRuntimeLease leaseId tokenId clientId
      { c with store, locked := some (.effects (if released then [.terminate (.lease leaseId)] else [])) }
    else { c with locked := none }
  | .effects [] => { c with locked := none }
  | .effects (effect :: rest) =>
    let (c, rest) := c.perform rest effect
    { c with locked := some (.effects rest) }

/-! ## FRP plugin calls -/

/-- `validateRuntime` on the node: a failing database pauses admission, and a device that timed out is
terminated, by what the request still has to do. -/
def checkRuntime (c : Controller) (metas : Api.Metas) : Controller × Answer × List Effect :=
  if metas.token = "" || metas.leaseId = "" then
    (c, .rejected "missing runtime token or lease_id", [])
  else if !c.dbUp then
    ({ c with memory := c.memory.pauseDatabaseAdmission }, .rejected "node database unavailable", [])
  else
    match Api.validateRuntime env.tokenHash c.store c.now metas with
    | .ok lease => (c, .validated lease, [])
    | .rejected reason => (c, .rejected reason, [])
    | .timedOut client => (c, .rejected "client heartbeat timeout", terminateClientRuntime client)

/-- Go `faultFRPPlugin` and `handleFrpRuntimeKeepalive`: the fallback is asked first and after an error. -/
def keepalive (c : Controller) (metas : Api.Metas) : Controller × Answer × List Effect :=
  if c.memory.allowFaultRuntime env.tokenHash false metas then (c, .fallback, [])
  else
    match c.checkRuntime env metas with
    | (c, .rejected reason, todo) =>
      if reason = "node database unavailable" && c.memory.allowFaultRuntime env.tokenHash false metas then
        (c, .fallback, todo)
      else (c, .rejected reason, todo)
    | outcome => outcome

/-- Go `faultFRPPlugin` and `handleFrpLogin`; the lease is remembered in a later step. -/
def login (c : Controller) (metas : Api.Metas) : Controller × List Effect :=
  if c.memory.fault.closed then (c, [])
  else
    match c.checkRuntime env metas with
    | (c, .validated lease, _) => (c, [.remember lease])
    | (c, _, todo) => (c, todo)

/-! ## The machine -/

/-- The steps of the node. A request is put into a free slot. -/
inductive Action where
  | tick (elapsed : Nat)
  /-- the database fails or comes back -/
  | database (up : Bool)
  /-- a health probe -/
  | probe
  | admin (slot : Nat) (request : AdminRequest)
  | heartbeat (accessToken clientId : String) (newId : Nat)
  | resourcePolicy (accessToken clientId : String) (newId : Nat)
  | logout (slot : Nat) (accessToken clientId : String)
  | bootstrap (accessToken clientId : String) (proxies : List ProxyAllocationInput) (draw : Draw)
  | release (accessToken clientId leaseId : String)
  /-- the watchdog finds a client with a stale heartbeat -/
  | sweep (slot : Nat) (id : Nat)
  | login (slot : Nat) (metas : Api.Metas)
  | keepalive (slot : Nat) (metas : Api.Metas)
  | openProxy (leaseId runId name : String)
  | closeProxy (runId name : String)
  | proceed (slot : Nat)
  | proceedLocked
  /-- the process restarts: memory and requests are lost -/
  | restart

/-- Put a request into a free slot. -/
def start (c : Controller) (slot : Nat) (todo : List Effect) : Option Controller :=
  if c.requests slot = [] then some { c with requests := Function.update c.requests slot todo }
  else none

/-- A client the watchdog terminates (Go `ListClientsWithStaleHeartbeat`). -/
def staleClient (c : Controller) (id : Nat) : Option Client :=
  (c.store.getClientById id).filter fun client => client.status = .active &&
    client.lastSeenAt.all fun seen => (c.now - seen) / 1000 > Db.Store.clientHeartbeatTimeout

/-- One step; `none` when the action is not enabled. -/
def step (c : Controller) : Action → Option Controller
  | .tick elapsed => some { c with now := c.now + elapsed }
  | .database up => some { c with dbUp := up }
  | .probe =>
    let (memory, failedSince) :=
      c.memory.observeControllerDatabaseHealth c.now c.dbUp c.failedSince
    some { c with memory := memory.forgetIdle c.now, failedSince }
  | .admin slot request => c.start slot (c.program request)
  | .heartbeat accessToken clientId newId =>
    let clientId := trimSpace clientId
    if accessToken = "" || clientId = "" then none
    else
      let (memory, reply) := c.memory.faultHeartbeat env.cfg c.now c.memory.fault.closed false
        (env.tokenHash accessToken) clientId
      let c := { c with memory }
      if reply.isSome then some c
      else
        match c.authenticate env .heartbeat accessToken clientId (some newId) with
        | (c, none) => some c
        | (c, some (_, _, client)) => some { c with store := c.store.touchClientHeartbeat c.now client.id }
  | .resourcePolicy accessToken clientId newId =>
    if c.memory.fault.closed then none
    else
      match c.authenticate env .resourcePolicy accessToken clientId (some newId) with
      | (c, none) => some c
      | (c, some (_, user, client)) =>
        if (c.store.getUserResourcePolicy user.id).any (·.enabled) then
          some { c with store := c.store.touchClientHeartbeat c.now client.id }
        else some c
  | .logout slot accessToken clientId =>
    let clientId := trimSpace clientId
    if accessToken = "" || clientId = "" then none
    else
      match c.authenticate env .logout accessToken clientId none with
      | (c, none) => some c
      | (c, some (_, _, client)) =>
        c.start slot (terminateClientRuntime client ++ [.commit (.clearClientPresence client.id)])
  | .bootstrap accessToken clientId proxies draw =>
    if c.locked.isSome || c.issuedUnder.any (·.1 = draw.leaseId) then none
    else some (c.bootstrap env accessToken clientId proxies draw)
  | .release accessToken clientId leaseId =>
    if c.locked.isSome then none else some (c.release env accessToken clientId leaseId)
  | .sweep slot id =>
    if c.memory.fault.closed || !c.dbUp then none
    else
      match c.staleClient id with
      | none => none
      | some client =>
        if c.memory.clientIsDraining client.tokenId client.clientId then none
        else c.start slot (terminateClientRuntime client ++ [.commit (.clearClientPresence id)])
  | .login slot metas =>
    let (c, todo) := c.login env metas
    c.start slot todo
  | .keepalive slot metas =>
    let (c, _, todo) := c.keepalive env metas
    c.start slot todo
  | .openProxy leaseId runId name =>
    if c.memory.core.mayRegister leaseId then
      some { c with memory := { c.memory with core := c.memory.core.opened leaseId runId name } }
    else none
  | .closeProxy runId name =>
    some { c with memory := { c.memory with core := c.memory.core.closed runId name } }
  | .proceed slot =>
    match c.requests slot with
    | [] => none
    | effect :: rest =>
      let (c, rest) := c.perform rest effect
      some { c with requests := Function.update c.requests slot rest }
  | .proceedLocked =>
    match c.locked with
    | none => none
    | some locked => some (c.proceedLocked env locked)
  | .restart =>
    some { c with memory := {}, failedSince := none, locked := none, requests := fun _ => [] }

/-- The controller starts with any identities and no leases. -/
def machine : Machine Controller Action where
  Init c := c.store.leases = ∅ ∧ c.store.allocations = ∅ ∧
    (∀ t ∈ c.store.tokens.rows, t.id ≤ c.store.tokenSeq) ∧ c.memory.core.runtimeLeases = [] ∧
    c.locked = none ∧ c.requests = (fun _ => []) ∧ c.issuedUnder = []
  step := step env

/-! ## A small node

One ordinary user with one token, for concrete runs. -/

/-- Settings of a small controller; the hash keeps tokens apart. -/
def sampleEnv : Env where
  cfg := ⟨.controller, 1000, 2000, 7000, 8080, 9443, 3600000, true⟩
  tokenHash := fun token => "h:" ++ token

/-- The node before anything happened. -/
def sample : Controller where
  store :=
    { users := ⟨[⟨1, "ann", .user, .active, "", Nat.one_pos⟩], by decide⟩
      tokens := ⟨[⟨5, 1, "laptop", "h:ak", .active, "", 2, none, sampleTokenId_pos⟩], by decide⟩
      policies := ⟨[⟨1, 1024, 65535, 1, ["tcp", "udp"], true⟩], by decide⟩
      nodeAccess := ⟨[⟨1, "controller"⟩], by decide⟩
      tokenSeq := 5 }

/-- A proxy that the user may open. -/
def sampleProxy : ProxyAllocationInput := ⟨"ssh", "tcp", "", 22, 1500, "", ""⟩

/-- A device registers and obtains a lease. -/
def sampleBootstrap : List Action :=
  [.heartbeat "ak" "dev" 9, .bootstrap "ak" "dev" [sampleProxy] ⟨"lease", "rt", sampleLeaseId_ne⟩, .proceedLocked,
    .proceedLocked]

/-- A second device obtains a lease with a proxy on another port. -/
def sampleSecond : List Action :=
  [.heartbeat "ak" "dev2" 10,
    .bootstrap "ak" "dev2" [⟨"web", "tcp", "", 80, 1501, "", ""⟩] ⟨"lease2", "rt2", sampleNextLeaseId_ne⟩,
    .proceedLocked, .proceedLocked]

end Controller

end MeowFrp.Node
