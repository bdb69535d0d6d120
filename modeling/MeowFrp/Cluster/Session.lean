import MeowFrp.Cluster.Wire
import MeowFrp.Db.Outbox

/-!
# The controller's side of a stream

Model of Go `nodeSession` and of what the controller does with it (`internal/cluster/push.go`,
`identity_transfer.go`): which message a push builds, how fragments are sent one at a time, and how
progress, cache-cleared messages and acknowledgements are judged. Database statements are left to the
caller; each function says what happens to the session.
-/

namespace MeowFrp.Cluster

open Lib

/-- Go `nodeSession`. -/
structure NodeSession (Byte : Type) where
  admissionProtocol : Nat := 0
  /-- `none` is the empty string -/
  cacheSessionId : Option CacheSessionId := none
  cacheReady : Bool := false
  needsFull : Bool := false
  needsBlockedIps : Bool := false
  baselineActive : Bool := false
  baselineCursor : Nat := 0
  pendingCursor : Nat := 0
  pendingRevision : Nat := 0
  appliedRevision : Nat := 0
  pendingIdentity : Option IdentitySnapshot := none
  pendingPayload : List Byte := []
  chunkIndex : Nat := 0
  chunkTotal : Nat := 0
  applyProgress : Nat := 0
  /-- the blocked addresses that the node has confirmed -/
  blockedIps : Table BlockedIp := ∅

namespace NodeSession

variable {Byte : Type}

/-! ## Pushes -/

/-- What `pushNodeIdentity` sends. -/
inductive Push where
  | nothing
  | cacheReset
  | blockedIps
  /-- the next page of a baseline, or a page of the given users -/
  | page (users : Option (List Nat))
  deriving DecidableEq, Repr

/-- The decision of `pushNodeIdentity`; `pending` is the result of `PendingNodeIdentityUsers`. -/
def choosePush (σ : NodeSession Byte) (pending : List Nat) : Push :=
  if σ.cacheSessionId.isNone || σ.appliedRevision < σ.pendingRevision then .nothing
  else if σ.needsFull && !σ.cacheReady then .cacheReset
  else if !σ.cacheReady then .nothing
  else if σ.needsFull && !σ.baselineActive then .cacheReset
  else if σ.needsBlockedIps && !σ.needsFull && !σ.baselineActive then .blockedIps
  else if !σ.needsFull && !σ.baselineActive then
    if pending = [] then .nothing else .page (some pending)
  else .page none

/-- The snapshot of `blockedIPMessage`. -/
def blockedIpSnapshot (σ : NodeSession Byte) (blocks : List BlockedIp) (revision : Nat) :
    IdentitySnapshot :=
  if σ.admissionProtocol < 1 then
    { revision, incremental := true, replaceBlockedIps := true, blockedIps := blocks }
  else
    { revision
      incremental := true
      blockedIps := blocks.filter fun block =>
        match σ.blockedIps.find? (·.ip = block.ip) with
        | none => true
        | some old => old.reason ≠ block.reason || old.createdAt ≠ block.createdAt
      removedBlockedIps := (σ.blockedIps.rows.map BlockedIp.ip).filter fun ip =>
        !blocks.any (·.ip = ip) }

/-- Go `requestCacheReset`. -/
def requestCacheReset (σ : NodeSession Byte) (epoch : CacheSessionId) : NodeSession Byte :=
  { σ with cacheSessionId := some epoch, cacheReady := false, needsFull := false }

/-- The last part of `enqueueIdentity`. -/
def startTransfer (σ : NodeSession Byte) (snapshot : IdentitySnapshot) (payload : List Byte) :
    NodeSession Byte :=
  { σ with
    pendingRevision := snapshot.revision
    pendingIdentity := some snapshot
    applyProgress := 0
    needsFull := σ.needsFull && (snapshot.incremental || snapshot.baseline)
    pendingPayload := payload
    chunkIndex := 0
    chunkTotal := chunkCount identityChunkBytes payload }

/-- The fragment that `sendIdentityChunkLocked` sends. -/
def currentChunk (σ : NodeSession Byte) (epoch : CacheSessionId) : DownMsg Byte :=
  .identityChunk epoch σ.pendingRevision σ.chunkIndex σ.chunkIndex σ.chunkTotal
    (chunk identityChunkBytes σ.pendingPayload σ.chunkIndex)

/-! ## Replies -/

/-- Go `acceptIdentityProgress`: the session and the next fragment. An error ends the stream. -/
def acceptIdentityProgress (σ : NodeSession Byte) (current progress : Bool) (epoch : CacheSessionId)
    (revision sequence : Nat) : Except String (NodeSession Byte × Option (DownMsg Byte)) :=
  if current && some epoch ≠ σ.cacheSessionId then .ok (σ, none)
  else if some epoch = σ.cacheSessionId && revision ≤ σ.appliedRevision then .ok (σ, none)
  else if !current || some epoch ≠ σ.cacheSessionId || σ.pendingIdentity.isNone ||
      revision ≠ σ.pendingRevision then
    .error "identity progress epoch/revision mismatch"
  else if progress then .ok ({ σ with applyProgress := max σ.applyProgress sequence }, none)
  else if sequence < σ.chunkIndex then .ok (σ, none)
  else if sequence ≠ σ.chunkIndex || σ.chunkTotal ≤ σ.chunkIndex then
    .error s!"unexpected identity chunk acknowledgement {sequence}"
  else
    let σ := { σ with chunkIndex := σ.chunkIndex + 1 }
    .ok (σ, if σ.chunkIndex < σ.chunkTotal then some (σ.currentChunk epoch) else none)

/-- The checks of `acceptCacheCleared`. -/
def acceptsCacheCleared (σ : NodeSession Byte) (current : Bool) (epoch : CacheSessionId) :
    Except String Bool :=
  if current && some epoch = σ.cacheSessionId then .ok (!σ.cacheReady)
  else if some epoch ≠ σ.cacheSessionId then .ok false
  else .error "cache-cleared session mismatch"

/-- The session after `acceptCacheCleared` has reset the outbox. -/
def cacheCleared (σ : NodeSession Byte) : NodeSession Byte :=
  { σ with
    cacheReady := true
    needsFull := false
    baselineActive := true
    baselineCursor := 0
    pendingRevision := 0
    appliedRevision := 0
    pendingIdentity := none
    blockedIps := ∅ }

/-- The checks of `confirmIdentity`; `none` for a message to ignore. -/
def acknowledges (σ : NodeSession Byte) (current : Bool) (epoch : CacheSessionId) (revision : Nat) :
    Except String (Option IdentitySnapshot) :=
  if !current then .error "superseded cache acknowledgement"
  else if some epoch ≠ σ.cacheSessionId then .ok none
  else if revision ≤ σ.appliedRevision then .ok none
  else
    match σ.pendingIdentity with
    | none => .error "unexpected identity acknowledgement revision"
    | some snapshot =>
      if snapshot.revision ≠ revision then .error "unexpected identity acknowledgement revision"
      else if σ.chunkIndex ≠ σ.chunkTotal then .error "identity ACK before all fragments received"
      else .ok (some snapshot)

/-- The blocked addresses that a node has after confirming a snapshot. -/
def confirmBlockedIps (blocked : Table BlockedIp) (snapshot : IdentitySnapshot) : Table BlockedIp :=
  (snapshot.blockedIps.foldl Table.put (if snapshot.replaceBlockedIps then ∅ else blocked)).delete
    fun b => snapshot.removedBlockedIps.contains b.ip

/-- The session after `confirmIdentity` has updated the outbox. -/
def confirmed (σ : NodeSession Byte) (snapshot : IdentitySnapshot) : NodeSession Byte :=
  { σ with
    appliedRevision := snapshot.revision
    pendingIdentity := none
    pendingPayload := []
    blockedIps := confirmBlockedIps σ.blockedIps snapshot
    baselineCursor := if snapshot.baseline then σ.pendingCursor else σ.baselineCursor
    baselineActive := if snapshot.baseline then !snapshot.baselineEnd else σ.baselineActive }

end NodeSession

end MeowFrp.Cluster
