import MeowFrp.Data.Snapshot
import MeowFrp.Data.Text

/-!
# The controller's database

Model of the MySQL store of the controller (Go `internal/db`): the tables, the outbox
(`user_node_cache`, `node_cache_sessions`, `identity_sync_sequence`), and the administrative
mutations of users, tokens, policies, grants, DPI policies and node access. Every mutation commits
its business change and the outbox entry of the user it concerns in one transaction
(`markUserIdentityDirty`), as `execUserIdentityChange` does; `none` is a failed statement, after which
the transaction is rolled back.
-/

namespace MeowFrp

open Lib

/-- A cache session id. The controller draws a fresh opaque token (`NewOpaqueToken("cache_")`) for a stream;
numbering the draws keeps them distinct. -/
structure CacheSessionId where
  stream : Nat
  seq : Nat
  deriving DecidableEq, Repr

/-- A row of `user_node_cache`, the outbox: the revisions a node was sent and has acknowledged. -/
structure UserNodeCache where
  userId : Nat
  nodeId : String
  sessionId : Option CacheSessionId
  appliedRevision : Nat := 0
  desiredRevision : Nat := 0
  /-- `cached_at IS NOT NULL` -/
  cached : Bool := false
  deriving DecidableEq, Repr

/-- A row of `node_cache_sessions`. -/
structure NodeCacheSession where
  nodeId : String
  sessionId : CacheSessionId
  deriving DecidableEq, Repr

instance : Schema UserNodeCache :=
  ⟨fun a b => a.userId = b.userId ∧ a.nodeId = b.nodeId, And.imp Eq.symm Eq.symm,
    fun _ _ => inferInstance⟩

instance : Schema NodeCacheSession :=
  ⟨fun a b => a.nodeId = b.nodeId, Eq.symm, fun _ _ => inferInstance⟩

namespace Db

/-- A row of `frp_proxy_sessions`. -/
structure ProxySession where
  leaseId : String
  userId : Nat
  tokenId : Nat
  clientId : String
  proxyName : String
  proxyType : String
  remotePort : Nat
  domain : String := ""
  subdomain : String := ""
  runId : String
  status : SessionStatus
  deriving DecidableEq, Repr

instance : Schema ProxySession :=
  ⟨fun a b => a.leaseId = b.leaseId ∧ a.proxyName = b.proxyName, And.imp Eq.symm Eq.symm,
    fun _ _ => inferInstance⟩

/-- Go `db.Store`. -/
structure Store where
  users : Table User := ∅
  tokens : Table AccessToken := ∅
  policies : Table UserResourcePolicy := ∅
  grants : Table PortGrant := ∅
  dpiPolicies : Table DpiPolicy := ∅
  nodeAccess : Table NodeAccess := ∅
  blockedIps : Table BlockedIp := ∅
  clients : Table Client := ∅
  leases : Table RuntimeLease := ∅
  allocations : Table ProxyAllocation := ∅
  sessions : Table ProxySession := ∅
  /-- `edge_nodes.node_id` -/
  edgeNodes : List String := []
  cacheSessions : Table NodeCacheSession := ∅
  userNodeCache : Table UserNodeCache := ∅
  /-- `identity_sync_sequence.revision` -/
  revision : Nat := 0
  /-- the last id of `access_tokens`; ids are never assigned twice -/
  tokenSeq : Nat := 0
  /-- the key under which text columns are compared: the tables name no collation, and the default
  one of the server ignores case -/
  collate : String → String := toLower

namespace Store

/-! ## The outbox entry of a user -/

/-- The current cache session of a node (`COALESCE(n.session_id,'')`). -/
def sessionOf (s : Store) (nodeId : String) : Option CacheSessionId :=
  (s.cacheSessions.find? (·.nodeId = nodeId)).map (·.sessionId)

/-- The user may use the node (Go `CanAccessNode`). -/
def canAccessNode (s : Store) (userId : Nat) (nodeId : String) : Bool :=
  s.nodeAccess.any fun a => a.userId = userId && a.nodeId = nodeId

/-- The nodes a change of a user is queued for: enrolled ones that cache or serve the user. -/
def dirtyTargets (s : Store) (userId : Nat) : List String :=
  s.edgeNodes.filter fun n =>
    s.userNodeCache.any (fun c => c.userId = userId && c.nodeId = n) || s.canAccessNode userId n

/-- `INSERT ... ON DUPLICATE KEY UPDATE desired_revision=GREATEST(...)`. -/
def wantRevision (t : Table UserNodeCache) (userId : Nat) (nodeId : String)
    (sessionId : Option CacheSessionId) (revision : Nat) : Table UserNodeCache :=
  t.merge { userId, nodeId, sessionId, desiredRevision := revision } fun old =>
    { old with desiredRevision := max old.desiredRevision revision }

/-- Queue a user's change for every target node (Go `markUserIdentityDirtyTx`). -/
def markUserIdentityDirty (s : Store) (userId : Nat) : Store :=
  { s with
    revision := s.revision + 1
    userNodeCache := (s.dirtyTargets userId).foldl
      (fun t n => wantRevision t userId n (s.sessionOf n) (s.revision + 1)) s.userNodeCache }

/-! ## Mutations -/

/-- Go `CreateUser`; the id is the one `AUTO_INCREMENT` assigns. -/
def createUser (s : Store) (user : User) : Option Store := do
  if s.users.any (·.username = user.username) then none
  let users ← s.users.insert { user with status := .active, banReason := "" }
  return { s with users }

/-- Insert a token under the id `AUTO_INCREMENT` assigns. -/
def insertToken (s : Store) (token : AccessToken) : Option Store := do
  if token.id ≤ s.tokenSeq then none
  let tokens ← s.tokens.insert token
  return { s with tokens, tokenSeq := token.id }

/-- The first token of a new user. -/
def firstToken (user : User) (token : AccessToken) : AccessToken :=
  { token with
    userId := user.id
    name := if token.name = "" then "HTTPS API Token" else token.name
    status := .active
    banReason := ""
    maxProxyCount := max token.maxProxyCount 1
    expiresAt := none }

/-- Go `CreateUserWithAccessToken`: user, first token and default policy. -/
def createUserWithAccessToken (s : Store) (user : User) (token : AccessToken) : Option Store := do
  let s ← s.createUser user
  let s ← s.insertToken (firstToken user token)
  let policies ← s.policies.insert ⟨user.id, 1024, 65535, 1, ["tcp", "udp"], true⟩
  return { s with policies }

/-- Go `SetUserStatus`. -/
def setUserStatus (s : Store) (id : Nat) (status : Status) (reason : String) : Store :=
  let users := s.users.update (fun u => u.id = id) fun u => { u with status, banReason := reason }
  markUserIdentityDirty { s with users } id

/-- Go `DeleteUser`: an administrator goes only while another one is active. -/
def deleteUser (s : Store) (id : Nat) : Option Store := do
  let user ← s.users.find? (·.id = id)
  if user.role = .admin &&
      !s.users.any (fun u => u.role = .admin && u.status = .active && u.id ≠ id) then none
  let owned (leaseId : String) : Bool := s.leases.any fun l => l.leaseId = leaseId && l.userId = id
  let issued (tokenId : Nat) : Bool := s.tokens.any fun t => t.id = tokenId && t.userId = id
  let s' : Store :=
    { s with
      allocations := s.allocations.delete fun a => owned a.leaseId
      sessions := s.sessions.delete (·.userId = id)
      leases := s.leases.delete (·.userId = id)
      clients := s.clients.delete (·.userId = id)
      grants := s.grants.delete fun g => issued g.tokenId
      tokens := s.tokens.delete (·.userId = id)
      policies := s.policies.delete (·.userId = id)
      dpiPolicies := s.dpiPolicies.delete (·.userId = id)
      nodeAccess := s.nodeAccess.delete (·.userId = id)
      users := s.users.delete (·.id = id) }
  return s'.markUserIdentityDirty id

/-- The user exists, as foreign keys on `users(id)` require. -/
def hasUser (s : Store) (id : Nat) : Bool := s.users.any (·.id = id)

/-- Go `UpsertUserResourcePolicy`. -/
def upsertUserResourcePolicy (s : Store) (policy : UserResourcePolicy) : Option Store :=
  if s.hasUser policy.userId then
    let policies := s.policies.put
      { policy with
        maxPorts := max policy.maxPorts 1
        allowedProtocols := normalizeProtocolList policy.allowedProtocols }
    some (markUserIdentityDirty { s with policies } policy.userId)
  else none

/-- Go `CreateAccessToken`. -/
def createAccessToken (s : Store) (token : AccessToken) : Option Store := do
  if !s.hasUser token.userId then none
  let s ← s.insertToken { token with status := .active, banReason := "" }
  return s.markUserIdentityDirty token.userId

/-- Go `GetAccessTokenByID`. -/
def getAccessTokenById (s : Store) (id : Nat) : Option AccessToken := s.tokens.find? (·.id = id)

/-- Go `GetAccessTokenByHash`. -/
def getAccessTokenByHash (s : Store) (hash : String) : Option AccessToken :=
  s.tokens.find? (·.tokenHash = hash)

/-- Go `SetAccessTokenStatus`. -/
def setAccessTokenStatus (s : Store) (id : Nat) (status : Status) (reason : String) :
    Option Store := do
  let token ← s.getAccessTokenById id
  let tokens := s.tokens.update (fun t => t.id = id) fun t =>
    { t with status, banReason := reason }
  return markUserIdentityDirty { s with tokens } token.userId

/-- Go `RotateAccessToken`: a new hash, and the token is active again. -/
def rotateAccessToken (s : Store) (id : Nat) (tokenHash : String) : Option Store := do
  let token ← s.getAccessTokenById id
  let tokens ← s.tokens.alter (fun t => t.id = id) fun t =>
    { t with tokenHash, status := .active, banReason := "" }
  return markUserIdentityDirty { s with tokens } token.userId

/-- Go `CreatePortGrant`; the id is the one `AUTO_INCREMENT` assigns. -/
def createPortGrant (s : Store) (grant : PortGrant) : Option Store := do
  let token ← s.getAccessTokenById grant.tokenId
  let grants ← s.grants.insert grant
  return markUserIdentityDirty { s with grants } token.userId

/-- Go `dpi.DefaultPolicy().EnabledDetectors`. -/
def defaultDetectors : List String := ["http", "tls", "quic", "encrypted_tunnel"]

/-- Go `normalizeDPIPolicy`; `none` is a request that names no detectors. -/
def normalizeDpiPolicy (policy : DpiPolicy) (detectors : Option (List String)) : DpiPolicy :=
  { policy with
    enabledDetectors := splitCsv (detectors.getD defaultDetectors)
    maxInspectBytes := if policy.maxInspectBytes = 0 then 8192 else policy.maxInspectBytes
    temporaryBlockTtl := if policy.temporaryBlockTtl = 0 then 120 else policy.temporaryBlockTtl }

/-- Go `UpsertDPIPolicy`. -/
def upsertDpiPolicy (s : Store) (policy : DpiPolicy) (detectors : Option (List String)) :
    Option Store :=
  if s.hasUser policy.userId then
    let dpiPolicies := s.dpiPolicies.put (normalizeDpiPolicy policy detectors)
    some (markUserIdentityDirty { s with dpiPolicies } policy.userId)
  else none

/-- The node id of the controller itself in `user_node_access`. -/
def controllerNode : String := "controller"

/-- Go `SaveUserNodeAccess`: without the controller the user's leases are revoked. -/
def saveUserNodeAccess (s : Store) (userId : Nat) (nodes : List String) : Store :=
  let nodeAccess := nodes.foldl (fun t n => t.put ⟨userId, n⟩)
    (s.nodeAccess.delete (·.userId = userId))
  let s' : Store := { s with nodeAccess }
  let leases := revokeLeases s.leases fun l =>
    l.userId = userId && l.status = .active && !s'.canAccessNode userId controllerNode
  markUserIdentityDirty { s' with leases } userId

end Store

end Db

end MeowFrp
