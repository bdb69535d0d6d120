import MeowFrp.Cluster.Wire
import MeowFrp.Edge.Store

/-!
# The edge's side of a stream

Model of Go `EdgeClient.Run` and `connect` (`internal/cluster/client.go`): one connection at a time, whose
receiver checks and collects fragments and hands finished jobs to a worker through a channel that holds
one, and the flags by which the node admits new sessions (Go `edgeOnlineForNewSessions`). A connection
that ends first closes admission, then waits for its workers, and only then is the cache discarded.

`epoch` is not in the source: it is the epoch of the reset that was committed last, `none` after the cache
was discarded between connections. Nothing reads it.
-/

namespace MeowFrp.Cluster

/-- A job of the apply worker. -/
inductive ApplyJob (Byte : Type) where
  | cacheReset (epoch : CacheSessionId)
  | identitySnapshot (epoch : CacheSessionId) (revision : Nat) (payload : List Byte)
  deriving DecidableEq, Repr

/-- The apply worker. -/
inductive Worker (Byte : Type) where
  | idle
  | loaded (job : ApplyJob Byte)
  /-- the transaction is committed and its message not yet sent -/
  | committed (job : ApplyJob Byte)
  | failed
  deriving DecidableEq, Repr

/-- One `connect`: the variables of its goroutines. -/
structure Receiver (Byte : Type) where
  stream : Nat
  cacheSessionId : Option CacheSessionId := none
  chunkBuffer : List Byte := []
  chunkRevision : Nat := 0
  chunkIndex : Nat := 0
  chunkTotal : Nat := 0
  /-- the channel to the worker -/
  applyJobs : Option (ApplyJob Byte) := none
  worker : Worker Byte := .idle
  locallyAppliedRevision : Nat := 0
  /-- the receive loop has not returned -/
  receiving : Bool := true
  /-- the teardown has closed admission -/
  fenced : Bool := false
  /-- the context of the connection is cancelled -/
  closing : Bool := false

/-- Go `EdgeClient` with the node's store and the outage flags it drives. -/
structure EdgeClient (Byte : Type) where
  store : Edge.Store := {}
  epoch : Option CacheSessionId := none
  link : Option (Receiver Byte) := none
  connected : Bool := false
  syncReady : Bool := false
  controllerFault : Bool := false
  /-- `nodeFaultState.closed` -/
  closed : Bool := false
  /-- `nodeFaultState.localFailed` -/
  localFailed : Bool := false

/-- What is noted in the log of the system. -/
inductive Event (Byte : Type) where
  /-- the controller enqueued a payload -/
  | enqueued (epoch : CacheSessionId) (revision : Nat) (payload : List Byte)
  /-- the edge committed a payload -/
  | applied (epoch : CacheSessionId) (revision : Nat) (payload : List Byte)
  /-- the controller recorded a revision as applied -/
  | recorded (epoch : CacheSessionId) (revision : Nat)
  /-- the edge committed a cache reset -/
  | reset (epoch : CacheSessionId)
  /-- the edge processed a welcome -/
  | welcomed (epoch : CacheSessionId)
  /-- the edge processed a `controller_state` with `fault=true` -/
  | faultNotice
  /-- the edge processed an `identity_confirmed` -/
  | confirmed (epoch : CacheSessionId) (revision : Nat) (syncComplete : Bool)
  deriving DecidableEq, Repr

namespace EdgeClient

variable {Byte : Type}

/-- Go `edgeOnlineForNewSessions`. -/
def edgeOnlineForNewSessions (c : EdgeClient Byte) : Bool :=
  !(c.closed || c.localFailed) && c.connected && c.syncReady && !c.controllerFault

/-- Go `signalFault`, whose handler is `transitionNodeFault(true)`. -/
def signalFault (c : EdgeClient Byte) : EdgeClient Byte := { c with closed := true }

/-- `transitionNodeFault(false)`. -/
def reopen (c : EdgeClient Byte) : EdgeClient Byte := { c with closed := c.closed && c.localFailed }

/-- Go `cacheResetHandler` between connections. -/
def discardCache (c : EdgeClient Byte) : EdgeClient Byte :=
  { c with store := c.store.discardControlIdentityCache, epoch := none }

/-- A new connection. -/
def connect (c : EdgeClient Byte) (stream : Nat) : EdgeClient Byte :=
  { c.discardCache with link := some { stream } }

/-- The receive loop returns with an error. -/
def fail (c : EdgeClient Byte) (r : Receiver Byte) : EdgeClient Byte :=
  { c with link := some { r with receiving := false } }

/-- Go `queueApply`; a full channel is an error. -/
def queueApply (c : EdgeClient Byte) (r : Receiver Byte) (job : ApplyJob Byte) : EdgeClient Byte :=
  match r.applyJobs with
  | none => { c with link := some { r with applyJobs := some job } }
  | some _ => c.fail r

/-- A fragment is received and acknowledged. -/
def receiveChunk (c : EdgeClient Byte) (r : Receiver Byte) (epoch : CacheSessionId)
    (revision sequence index total : Nat) (data : List Byte) : EdgeClient Byte × List UpMsg :=
  if some epoch ≠ r.cacheSessionId then (c.fail r, [])
  else if index = 0 && !r.chunkBuffer.isEmpty then (c.fail r, [])
  else
    let c := if index = 0 then { c with syncReady := false } else c
    let r := if index = 0 then
      { r with chunkRevision := revision, chunkTotal := total, chunkIndex := 0 } else r
    if total < 1 || total ≠ r.chunkTotal || index ≠ r.chunkIndex || sequence ≠ r.chunkIndex ||
        revision ≠ r.chunkRevision || data.isEmpty || identityChunkBytes < data.length then
      (c.fail r, [])
    else
      let buffer := r.chunkBuffer ++ data
      let r := { r with chunkBuffer := buffer, chunkIndex := r.chunkIndex + 1 }
      (if r.chunkIndex = r.chunkTotal then
        c.queueApply { r with chunkBuffer := [] } (.identitySnapshot epoch revision buffer)
      else { c with link := some r }, [.identityChunkAck epoch revision index])

/-- An `identity_confirmed` is received. -/
def receiveConfirmed (c : EdgeClient Byte) (r : Receiver Byte) (epoch : CacheSessionId)
    (revision : Nat) (syncComplete : Bool) : EdgeClient Byte × List (Event Byte) :=
  if some epoch ≠ r.cacheSessionId || revision ≠ r.locallyAppliedRevision then (c.fail r, [])
  else
    let c := { c with syncReady := syncComplete }
    (if syncComplete && !c.controllerFault then c.reopen else c, [.confirmed epoch revision syncComplete])

/-- What `welcome`, `heartbeat_ack` and `controller_state` share. -/
def observeFault (c : EdgeClient Byte) (fault : Bool) : EdgeClient Byte :=
  let wasFault := c.controllerFault
  let c := { c with connected := true, controllerFault := fault }
  if fault && !wasFault then { c.signalFault with syncReady := false } else c

/-- A `welcome` is received. -/
def receiveWelcome (c : EdgeClient Byte) (r : Receiver Byte) (epoch : CacheSessionId) (fault : Bool) :
    EdgeClient Byte :=
  let c := { (c.observeFault fault).signalFault with syncReady := false }
  c.queueApply { r with cacheSessionId := some epoch, chunkBuffer := [] } (.cacheReset epoch)

/-- A message is received: the client, what it sends, and what is noted. -/
def receive (c : EdgeClient Byte) (r : Receiver Byte) :
    DownMsg Byte → EdgeClient Byte × List UpMsg × List (Event Byte)
  | .welcome epoch fault => (c.receiveWelcome r epoch fault, [], [.welcomed epoch])
  | .identityChunk epoch revision sequence index total data =>
    let (c, up) := c.receiveChunk r epoch revision sequence index total data
    (c, up, [])
  | .identityConfirmed epoch revision syncComplete =>
    let (c, events) := c.receiveConfirmed r epoch revision syncComplete
    (c, [], events)
  | .heartbeatAck fault => (c.observeFault fault, [], [])
  | .controllerState fault => (c.observeFault fault, [], if fault then [.faultNotice] else [])

/-- A receive loop that is cancelled returns after the message at hand. -/
def stopIfClosing (c : EdgeClient Byte) : EdgeClient Byte :=
  { c with link := c.link.map fun r => { r with receiving := r.receiving && !r.closing } }

/-- The worker runs its job at `now`; `fails` is an error of disk or context. -/
def runJob (codec : Codec Byte) (c : EdgeClient Byte) (r : Receiver Byte) (now : Time) (fails : Bool) :
    ApplyJob Byte → EdgeClient Byte × List (Event Byte)
  | .cacheReset epoch =>
    if fails then ({ c with link := some { r with worker := .failed } }, [])
    else
      ({ c with
        store := c.store.discardControlIdentityCache
        epoch := some epoch
        link := some { r with locallyAppliedRevision := 0, worker := .committed (.cacheReset epoch) } },
        [.reset epoch])
  | .identitySnapshot epoch revision payload =>
    let failed := ({ c with link := some { r with worker := .failed } }, [])
    match codec.decode payload with
    | none => failed
    | some snapshot =>
      if snapshot.revision ≠ revision || fails then failed
      else
        match c.store.applyIdentitySnapshot now snapshot with
        | .error _ => failed
        | .ok store =>
          ({ c with
            store
            link := some { r with
              locallyAppliedRevision := revision
              worker := .committed (.identitySnapshot epoch revision payload) } },
            [.applied epoch revision payload])

/-- The message about a committed job. -/
def report : ApplyJob Byte → UpMsg
  | .cacheReset epoch => .cacheCleared epoch
  | .identitySnapshot epoch revision _ => .identityAck epoch revision

/-- The deferred function of `connect` closes admission. -/
def fence (c : EdgeClient Byte) (r : Receiver Byte) : EdgeClient Byte :=
  { c.signalFault with connected := false, syncReady := false, link := some { r with fenced := true } }

/-- It cancels the context; until then the receive loop goes on. -/
def cancel (c : EdgeClient Byte) (r : Receiver Byte) : EdgeClient Byte :=
  { c with link := some { r with closing := true } }

/-- `connect` has returned. -/
def leave (c : EdgeClient Byte) : EdgeClient Byte :=
  { c.signalFault with connected := false, syncReady := false, link := none }

/-- One round of `runNodeHealth`. -/
def checkHealth (c : EdgeClient Byte) : EdgeClient Byte :=
  { c with
    closed := !c.connected || c.controllerFault || c.store.identityResetPending || c.localFailed }

end EdgeClient

end MeowFrp.Cluster
