import MeowFrp.Lib.Table

/-!
# Records

The rows the controller keeps in MySQL and the edge in SQLite (Go `internal/db/store.go`,
`internal/dpi/service.go`, `internal/edgestate/store.go`). The edge caches the controller's records
field by field, so both sides share one type per relation; columns that no modelled function reads
(display names, password hashes, prefixes, timestamps) are left out.

Identifiers, revisions and instants are natural numbers: ids come from `AUTO_INCREMENT`, which starts
at one, and `0` is the zero value that the source uses for "none". The `Schema` instances are the
primary and unique keys of the `CREATE TABLE` statements.
-/

namespace MeowFrp

open Lib

/-- An instant of the node's clock. -/
abbrev Time := Nat

/-- `users.role`. -/
inductive Role where
  | user
  | admin
  deriving DecidableEq, Repr

/-- `status` of users, tokens and clients. -/
inductive Status where
  | active
  | banned
  deriving DecidableEq, Repr

/-- `status` of runtime leases. -/
inductive LeaseStatus where
  | active
  | revoked
  deriving DecidableEq, Repr

/-- `status` of proxy sessions. -/
inductive SessionStatus where
  | active
  | closed
  deriving DecidableEq, Repr

/-- Go `db.User` and `cluster.SnapshotUser`; `AUTO_INCREMENT` ids are positive. -/
structure User where
  id : Nat
  username : String
  role : Role
  status : Status
  banReason : String := ""
  id_pos : 0 < id := by decide
  deriving DecidableEq, Repr

/-- Go `db.AccessToken` and `cluster.SnapshotToken`, with a positive id. -/
structure AccessToken where
  id : Nat
  userId : Nat
  name : String
  tokenHash : String
  status : Status
  banReason : String := ""
  maxProxyCount : Nat
  expiresAt : Option Time := none
  id_pos : 0 < id := by decide
  deriving DecidableEq, Repr

/-- Go `db.PortGrant`. -/
structure PortGrant where
  id : Nat
  tokenId : Nat
  protocol : String
  remotePortStart : Nat
  remotePortEnd : Nat
  maxCount : Nat
  domain : String := ""
  subdomain : String := ""
  enabled : Bool
  deriving DecidableEq, Repr

/-- Go `db.UserResourcePolicy`. -/
structure UserResourcePolicy where
  userId : Nat
  portStart : Nat
  portEnd : Nat
  maxPorts : Nat
  allowedProtocols : List String
  enabled : Bool
  deriving DecidableEq, Repr

/-- Go `dpi.Mode`. -/
inductive DpiMode where
  | monitor
  | block
  deriving DecidableEq, Repr

/-- Go `dpi.Policy`. -/
structure DpiPolicy where
  userId : Nat
  enabled : Bool
  mode : DpiMode
  enabledDetectors : List String
  blockOnAnyFinding : Bool
  allowHttp : Bool
  allowTls : Bool
  allowQuic : Bool
  allowEncryptedTunnel : Bool
  maxInspectBytes : Nat
  temporaryBlockTtl : Nat
  encryptedTunnelMode : DpiMode
  deriving DecidableEq, Repr

/-- Go `db.BlockedInboundIP`. -/
structure BlockedIp where
  ip : String
  reason : String
  createdAt : Time
  deriving DecidableEq, Repr

/-- Go `db.Client`, a row of `clients` and of `edge_clients`. -/
structure Client where
  id : Nat
  userId : Nat
  tokenId : Nat
  clientId : String
  status : Status
  banReason : String := ""
  lastSeenAt : Option Time := none
  deriving DecidableEq, Repr

/-- Go `db.RuntimeLease`; the ids of user and token are positive, and its own is not empty. -/
structure RuntimeLease where
  leaseId : String
  userId : Nat
  tokenId : Nat
  clientId : String
  runtimeTokenHash : String
  status : LeaseStatus
  expiresAt : Time
  userId_pos : 0 < userId := by decide
  tokenId_pos : 0 < tokenId := by decide
  leaseId_ne : leaseId ≠ "" := by decide
  deriving DecidableEq, Repr

/-- Go `db.ProxyAllocationInput`. -/
structure ProxyAllocationInput where
  proxyName : String
  proxyType : String
  localIp : String
  localPort : Nat
  remotePort : Nat
  domain : String := ""
  subdomain : String := ""
  deriving DecidableEq, Repr

/-- Go `db.ProxyAllocation`: an allocation input stored for a lease. -/
structure ProxyAllocation extends ProxyAllocationInput where
  leaseId : String
  deriving DecidableEq, Repr

/-- A row of `user_node_access`. -/
structure NodeAccess where
  userId : Nat
  nodeId : String
  deriving DecidableEq, Repr

instance : Schema User := ⟨fun a b => a.id = b.id, Eq.symm, fun _ _ => inferInstance⟩

instance : Schema AccessToken :=
  ⟨fun a b => a.id = b.id ∨ a.tokenHash = b.tokenHash, Or.imp Eq.symm Eq.symm,
    fun _ _ => inferInstance⟩

instance : Schema PortGrant := ⟨fun a b => a.id = b.id, Eq.symm, fun _ _ => inferInstance⟩

instance : Schema UserResourcePolicy :=
  ⟨fun a b => a.userId = b.userId, Eq.symm, fun _ _ => inferInstance⟩

instance : Schema DpiPolicy := ⟨fun a b => a.userId = b.userId, Eq.symm, fun _ _ => inferInstance⟩

instance : Schema BlockedIp := ⟨fun a b => a.ip = b.ip, Eq.symm, fun _ _ => inferInstance⟩

instance : Schema Client :=
  ⟨fun a b => a.id = b.id ∨ a.tokenId = b.tokenId ∧ a.clientId = b.clientId,
    Or.imp Eq.symm (And.imp Eq.symm Eq.symm), fun _ _ => inferInstance⟩

/-- The presence of a client is no part of its keys. -/
lemma Client.keepsKeys_unseen : Table.KeepsKeys fun c : Client => { c with lastSeenAt := none } :=
  fun _ _ => Iff.rfl

lemma Client.keepsKeys_seen (now : Time) : Table.KeepsKeys fun c : Client => { c with lastSeenAt := some now } :=
  fun _ _ => Iff.rfl

instance : Schema RuntimeLease :=
  ⟨fun a b => a.leaseId = b.leaseId ∨ a.runtimeTokenHash = b.runtimeTokenHash,
    Or.imp Eq.symm Eq.symm, fun _ _ => inferInstance⟩

instance : Schema ProxyAllocation :=
  ⟨fun a b => a.leaseId = b.leaseId ∧ a.proxyName = b.proxyName, And.imp Eq.symm Eq.symm,
    fun _ _ => inferInstance⟩

instance : Schema NodeAccess :=
  ⟨fun a b => a.userId = b.userId ∧ a.nodeId = b.nodeId, And.imp Eq.symm Eq.symm,
    fun _ _ => inferInstance⟩

/-- The lease is usable at `now`: not revoked and not expired. -/
def RuntimeLease.live (l : RuntimeLease) (now : Time) : Bool :=
  l.status = .active && now < l.expiresAt

/-- Mark a lease revoked (`SET status='revoked'`). -/
def RuntimeLease.revoke (l : RuntimeLease) : RuntimeLease := { l with status := .revoked }

/-- Revoke the leases that satisfy `p`, as every revoking `UPDATE` does. -/
def revokeLeases (leases : Table RuntimeLease) (p : RuntimeLease → Bool) : Table RuntimeLease :=
  leases.update p RuntimeLease.revoke

/-- A lease after a revocation is an earlier one, revoked if `p` held. -/
lemma mem_revokeLeases {leases : Table RuntimeLease} {p l} :
    l ∈ revokeLeases leases p ↔ ∃ k ∈ leases, Table.rewrite p RuntimeLease.revoke k = l :=
  Table.mem_update

/-! ## Sample values

The token and the leases of the sample runs of several modules. -/

lemma sampleTokenId_pos : 0 < 5 := by decide

lemma sampleLeaseId_ne : "lease" ≠ "" := by decide

lemma sampleNextLeaseId_ne : "lease2" ≠ "" := by decide

end MeowFrp
