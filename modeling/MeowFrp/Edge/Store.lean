import MeowFrp.Data.Snapshot

/-!
# The edge's local store

Model of the SQLite store of an edge node (Go `internal/edgestate`): the identities cached from the
controller, the runtime leases the edge has issued, and the two operations that replace the cache,
`resetIdentityCache` and `applyIdentitySnapshot`. A transaction either returns the new store or an
error and leaves the old one.

`applyIdentitySnapshot` is cut into the phases of the source, in their order: the checks of the
flags and the revision, the revocation of leases whose token was rotated, the deletion of what the
snapshot replaces, the inserts, the blocked addresses, and the final revocation of the leases that
are no longer authorised.
-/

namespace MeowFrp.Edge

open Lib

/-- A row of `lease_issuers`: the hash a lease was issued under. -/
structure LeaseIssuer where
  leaseId : String
  accessTokenHash : String
  deriving DecidableEq, Repr

instance : Schema LeaseIssuer :=
  ⟨fun a b => a.leaseId = b.leaseId, Eq.symm, fun _ _ => inferInstance⟩

/-- Go `edgestate.Store`. -/
structure Store where
  cachedUsers : Table User := ∅
  cachedTokens : Table AccessToken := ∅
  cachedPolicies : Table UserResourcePolicy := ∅
  cachedGrants : Table PortGrant := ∅
  cachedDpiPolicies : Table DpiPolicy := ∅
  clients : Table Client := ∅
  leases : Table RuntimeLease := ∅
  issuers : Table LeaseIssuer := ∅
  allocations : Table ProxyAllocation := ∅
  controllerBlockedIps : Table BlockedIp := ∅
  /-- the node's own bans -/
  blockedInboundIps : Table BlockedIp := ∅
  /-- `sync_state.last_revision`. -/
  lastRevision : Option Nat := none
  identityResetPending : Bool := false

namespace Store

/-- The rows of the five cached tables. -/
def cacheRows (s : Store) : CacheRows :=
  ⟨s.cachedUsers.rows, s.cachedTokens.rows, s.cachedPolicies.rows, s.cachedGrants.rows,
    s.cachedDpiPolicies.rows⟩

/-- Go `resetIdentityCache`. A boot also drops the runtime state. -/
def resetIdentityCache (s : Store) (boot : Bool) : Store :=
  { s with
    cachedUsers := ∅
    cachedTokens := ∅
    cachedPolicies := ∅
    cachedGrants := ∅
    cachedDpiPolicies := ∅
    -- `lease_issuers` references `runtime_leases` with `ON DELETE CASCADE`
    leases := if boot then ∅ else s.leases
    issuers := if boot then ∅ else s.issuers
    allocations := if boot then ∅ else s.allocations
    clients :=
      if boot then
        s.clients.update (fun _ => true) (fun c => { c with lastSeenAt := none }) Client.keepsKeys_unseen
      else s.clients
    controllerBlockedIps := ∅
    lastRevision := none
    identityResetPending := true }

/-- The reset at a reconnect (Go `DiscardControlIdentityCache`). -/
def discardControlIdentityCache (s : Store) : Store := s.resetIdentityCache false

/-- Flag and revision checks at the head of `ApplyIdentitySnapshot`. -/
def checkSnapshot (s : Store) (snap : IdentitySnapshot) : Except String Unit :=
  if snap.baseline && !s.identityResetPending then
    .error "baseline received without committed cache reset"
  else if snap.baseline && snap.incremental then
    .error "invalid baseline/incremental flags"
  else if snap.revision = 0 then
    .error "invalid identity revision"
  else if snap.baseline && s.lastRevision.any (snap.revision ≤ ·) then
    .error "stale baseline page revision"
  else if snap.incremental then
    match s.lastRevision with
    | none => .error "incremental identity received before initial synchronization"
    | some previous =>
      if snap.revision ≤ previous then .error "stale incremental identity revision" else .ok ()
  else .ok ()

/-- A token of the snapshot has another hash than its cached copy. -/
def rotates (s : Store) (snap : IdentitySnapshot) (tokenId : Nat) : Bool :=
  snap.tokens.any fun t =>
    t.id = tokenId && s.cachedTokens.any fun c => c.id = t.id && c.tokenHash ≠ t.tokenHash

/-- Rotation invalidates the leases of the old token. The `UPDATE`s of the loop read `cached_tokens`, which
they do not change. -/
def revokeRotated (s : Store) (snap : IdentitySnapshot) : Store :=
  { s with leases := revokeLeases s.leases fun l => l.status = .active && s.rotates snap l.tokenId }

/-- Delete the cached rows of the given users. -/
def dropUsers (s : Store) (ids : List Nat) : Store :=
  { s with
    cachedGrants := s.cachedGrants.delete fun g =>
      s.cachedTokens.any fun t => t.id = g.tokenId && ids.contains t.userId
    cachedTokens := s.cachedTokens.delete fun t => ids.contains t.userId
    cachedPolicies := s.cachedPolicies.delete fun p => ids.contains p.userId
    cachedDpiPolicies := s.cachedDpiPolicies.delete fun p => ids.contains p.userId
    cachedUsers := s.cachedUsers.delete fun u => ids.contains u.id }

/-- Delete every cached identity row. -/
def dropAll (s : Store) : Store :=
  { s with
    cachedGrants := ∅
    cachedTokens := ∅
    cachedPolicies := ∅
    cachedDpiPolicies := ∅
    cachedUsers := ∅ }

/-- Delete what the snapshot replaces: users, nothing, or everything. -/
def clearFor (s : Store) (snap : IdentitySnapshot) : Store :=
  if snap.incremental then s.dropUsers snap.affected
  else if snap.baseline then s
  else s.dropAll

/-- Insert the rows of the snapshot; `none` is a violated constraint. -/
def insertIdentity (s : Store) (snap : IdentitySnapshot) : Option Store := do
  let cachedUsers ← s.cachedUsers.insertAll snap.storedUsers
  let cachedTokens ← s.cachedTokens.insertAll snap.tokens
  let cachedPolicies ← s.cachedPolicies.insertAll snap.policies
  let cachedGrants ← s.cachedGrants.insertAll snap.grants
  let cachedDpiPolicies ← s.cachedDpiPolicies.insertAll snap.dpiPolicies
  return { s with cachedUsers, cachedTokens, cachedPolicies, cachedGrants, cachedDpiPolicies }

/-- The blocked addresses after a snapshot. -/
def blockedAfter (s : Store) (snap : IdentitySnapshot) : Table BlockedIp :=
  let kept := if snap.replaceBlockedIps || snap.completes then ∅ else s.controllerBlockedIps
  (snap.blockedIps.foldl Table.put kept).delete fun b => snap.removedBlockedIps.contains b.ip

/-- The token is not past its expiry. -/
def unexpired (t : AccessToken) (now : Time) : Bool := t.expiresAt.all (now < ·)

/-- The cache still authorises the lease (the negated `WHERE` of the final `UPDATE`). -/
def authorised (s : Store) (now : Time) (l : RuntimeLease) : Bool :=
  (s.cachedUsers.any fun u => u.id = l.userId && u.status = .active && u.role = .user) &&
  (s.cachedPolicies.any fun p => p.userId = l.userId && p.enabled) &&
  (s.cachedTokens.any fun t =>
    t.id = l.tokenId && t.userId = l.userId && t.status = .active && unexpired t now) &&
  !(s.issuers.any fun i => i.leaseId = l.leaseId &&
    !(s.cachedTokens.any fun t => t.id = l.tokenId && t.tokenHash = i.accessTokenHash))

/-- The statements after the inserts: blocked addresses, leases, revision and reset flag. -/
def finishSnapshot (s : Store) (now : Time) (snap : IdentitySnapshot) : Store :=
  { s with
    controllerBlockedIps := s.blockedAfter snap
    leases :=
      if snap.ends then
        revokeLeases s.leases fun l => l.status = .active && !s.authorised now l
      else s.leases
    lastRevision := some snap.revision
    identityResetPending := s.identityResetPending && !snap.completes }

/-- Apply a snapshot in one transaction (Go `ApplyIdentitySnapshot`). -/
def applyIdentitySnapshot (s : Store) (now : Time) (snap : IdentitySnapshot) :
    Except String Store :=
  match s.checkSnapshot snap with
  | .error e => .error e
  | .ok () =>
    match ((s.revokeRotated snap).clearFor snap).insertIdentity snap with
    | none => .error "constraint failed"
    | some s' => .ok (s'.finishSnapshot now snap)

end Store

end MeowFrp.Edge
