import MeowFrp.Cluster.Client
import MeowFrp.Cluster.Session
import MeowFrp.Db.Op
import MeowFrp.Lib.Machine

/-!
# The controller and an edge

The controller's database and process, one edge, and the streams between them, of which the edge opens a
new one each time it reconnects. The steps are the critical sections of the source: what runs under
`syncMu` and commits one transaction, what runs under `mu`, and the turns of each side's goroutines.
Whoever keeps `syncMu` across two sections is noted in the state (`held`, the push between its
transaction and `enqueueIdentity`'s last section; `waiting`, the pushes that have found the database
available and wait for the lock), as is a reply that is computed and not yet queued.

A `full` send queue and a failing transaction are choices of the environment. A stream may end at any time
on either side; messages that were sent may still arrive.
-/

namespace MeowFrp.Cluster

open Lib Db

variable {Byte : Type}

/-- What waits in `identityJobs`. -/
inductive IdentityJob where
  | cacheCleared (epoch : CacheSessionId)
  | identityAck (epoch : CacheSessionId) (revision : Nat)
  deriving DecidableEq, Repr

/-- A stream: the controller's `Connect` call for it and what is under way. -/
structure Conn (Byte : Type) where
  session : NodeSession Byte := {}
  /-- how many cache session ids were drawn -/
  drawn : Nat := 0
  registered : Bool := false
  /-- `Connect` has returned -/
  hungUp : Bool := false
  up : List UpMsg := []
  down : List (DownMsg Byte) := []
  /-- a reply that is computed and not yet queued -/
  reply : Option (DownMsg Byte) := none
  jobs : List IdentityJob := []

/-- A push that has prepared its page in the outbox. -/
structure Prepared (Byte : Type) where
  stream : Nat
  epoch : CacheSessionId
  snapshot : IdentitySnapshot
  payload : List Byte
  /-- it is the push of `blockedIPMessage` -/
  blocked : Bool

/-- The state of the system. -/
structure State (Byte : Type) where
  db : Db.Store
  databaseFault : Bool := false
  databaseSuspect : Bool := false
  /-- the stream in `sessions` -/
  current : Option Nat := none
  conns : Nat → Conn Byte := fun _ => {}
  /-- how many streams the edge has opened -/
  streams : Nat := 0
  held : Option (Prepared Byte) := none
  waiting : Nat := 0
  edge : EdgeClient Byte := {}
  /-- what has happened, the latest first -/
  log : List (Event Byte) := []

/-- A change of the blocked addresses. -/
inductive BanOp where
  | upsertBlockedInboundIp (ip reason : String) (createdAt : Time)
  | deleteBlockedInboundIp (ip : String)

/-- A transaction on the outbox of another node. -/
inductive OutboxOp where
  | reset (epoch : CacheSessionId)
  | prepare (epoch : CacheSessionId) (revision : Nat) (users : List Nat)
  | confirm (epoch : CacheSessionId) (revision : Nat) (users removed : List Nat) (full : Bool)

/-- The steps. -/
inductive Action where
  /-- a request changes identities -/
  | mutate (op : IdentityOp)
  | ban (op : BanOp)
  /-- a revision is drawn and not used -/
  | nextRevision
  | otherNode (nodeId : String) (op : OutboxOp)
  | scheduleIdentityPush
  | suspectDatabase
  | declareFault (full : Bool)
  | recover (full : Bool)
  /-- a stream is entered in `sessions` -/
  | register (stream : Nat)
  /-- the loop of `Connect` takes a message -/
  | serve (stream : Nat) (full : Bool)
  | sendReply (stream : Nat)
  /-- `identityJobs` is worked off -/
  | runIdentityJob (stream : Nat) (full : Bool)
  | hangUp (stream : Nat)
  /-- a push finds the database available -/
  | startPush
  /-- it gives up before it has changed anything -/
  | abandonPush
  /-- it gets the lock and does its work up to the preparation of a page -/
  | push (fails full : Bool)
  /-- it enqueues the prepared page -/
  | enqueue (full : Bool)
  | connect (admissionProtocol : Nat)
  /-- the edge's receive loop takes a message -/
  | receive
  /-- the worker takes a job -/
  | takeJob
  | runJob (now : Time) (fails : Bool)
  | reportProgress (sequence : Nat)
  | reportJob
  | beat
  /-- the connection is torn down: admission closed, the context cancelled -/
  | fence
  | cancel
  | leave
  | discardCache
  | checkHealth
  | probe (failed : Bool)
  /-- a message to the controller is lost -/
  | loseUp (stream : Nat)
  /-- a message to the edge is lost -/
  | loseDown (stream : Nat)

namespace State

/-- Replace a stream. -/
def setConn (s : State Byte) (k : Nat) (c : Conn Byte) : State Byte :=
  { s with conns := Function.update s.conns k c }

/-- Replace the session of a stream. -/
def setSession (s : State Byte) (k : Nat) (σ : NodeSession Byte) : State Byte :=
  s.setConn k { s.conns k with session := σ }

/-- Queue a message to the edge. -/
def send (s : State Byte) (k : Nat) (m : DownMsg Byte) : State Byte :=
  s.setConn k { s.conns k with down := (s.conns k).down ++ [m] }

/-- Queue a message to the controller on the edge's stream. -/
def sendUp (s : State Byte) (k : Nat) (ms : List UpMsg) : State Byte :=
  s.setConn k { s.conns k with up := (s.conns k).up ++ ms }

/-- `Connect` returns. -/
def hangUp (s : State Byte) (k : Nat) : State Byte :=
  { s.setConn k { s.conns k with hungUp := true } with
    current := if s.current = some k then none else s.current }

/-- The next cache session id of a stream. -/
def nextId (s : State Byte) (k : Nat) : CacheSessionId := ⟨k, (s.conns k).drawn⟩

/-! ## The controller -/

/-- Change the session in `sessions`. -/
def onCurrent (s : State Byte) (f : NodeSession Byte → NodeSession Byte) : State Byte :=
  match s.current with
  | none => s
  | some k => s.setSession k (f (s.conns k).session)

/-- Go `UpsertBlockedInboundIP` and `DeleteBlockedInboundIP`. -/
def changeBans (db : Db.Store) : BanOp → Db.Store
  | .upsertBlockedInboundIp ip reason createdAt =>
    { db with blockedIps := db.blockedIps.merge ⟨ip, reason, createdAt⟩ fun old => { old with reason } }
  | .deleteBlockedInboundIp ip => { db with blockedIps := db.blockedIps.delete (·.ip = ip) }

/-- A transaction on the outbox of a node. -/
def runOutbox (db : Db.Store) (nodeId : String) : OutboxOp → Option Db.Store
  | .reset epoch => some (db.resetNodeIdentityCache nodeId epoch)
  | .prepare epoch revision users => db.prepareNodeIdentityCache nodeId epoch revision users
  | .confirm epoch revision users removed full =>
    db.confirmNodeIdentityCache nodeId epoch revision users removed full

/-- Go `SetDatabaseFault`. -/
def setDatabaseFault (s : State Byte) (fault full : Bool) : State Byte :=
  let wasFault := s.databaseFault
  let s := { s with databaseFault := fault, databaseSuspect := s.databaseSuspect && fault }
  match s.current with
  | none => s
  | some k =>
    let σ := (s.conns k).session
    if fault && σ.admissionProtocol < 1 then s
    else
      let s := s.setSession k
        { σ with needsFull := σ.needsFull || !fault && (wasFault || !σ.cacheReady) }
      if full then s else s.send k (.controllerState fault)

/-- The `hello` of a stream: an id is drawn and the welcome computed. -/
def acceptHello (s : State Byte) (k admissionProtocol : Nat) : State Byte :=
  let c := s.conns k
  s.setConn k
    { c with
      session := { c.session with admissionProtocol, cacheSessionId := some (s.nextId k) }
      drawn := c.drawn + 1
      reply := some (.welcome (s.nextId k) s.databaseFault) }

/-- What `acceptIdentityProgress` makes of a message. -/
def progress (s : State Byte) (k : Nat) (full progress : Bool) (epoch : CacheSessionId)
    (revision sequence : Nat) : State Byte :=
  match (s.conns k).session.acceptIdentityProgress (s.current = some k) progress epoch revision
      sequence with
  | .error _ => s.hangUp k
  | .ok (σ, none) => s.setSession k σ
  | .ok (σ, some chunk) =>
    let s := s.setSession k σ
    if full then s.hangUp k else s.send k chunk

/-- The loop of `Connect` handles a message; `full` is a full channel. -/
def serve (s : State Byte) (k : Nat) (full : Bool) (m : UpMsg) : State Byte :=
  let c := s.conns k
  match c.session.cacheSessionId, m with
  | none, .hello admissionProtocol => s.acceptHello k admissionProtocol
  | none, _ => s.hangUp k
  | some _, .hello _ => s
  | some _, .heartbeat => s.setConn k { c with reply := some (.heartbeatAck s.databaseFault) }
  | some _, .identityChunkAck epoch revision sequence => s.progress k full false epoch revision sequence
  | some _, .identityProgress epoch revision sequence => s.progress k full true epoch revision sequence
  | some _, .cacheCleared epoch =>
    if full then s else s.setConn k { c with jobs := c.jobs ++ [.cacheCleared epoch] }
  | some _, .identityAck epoch revision =>
    if full then s else s.setConn k { c with jobs := c.jobs ++ [.identityAck epoch revision] }

/-- Go `acceptCacheCleared`. -/
def acceptCacheCleared (nodeId : String) (s : State Byte) (k : Nat) (epoch : CacheSessionId) :
    State Byte :=
  let σ := (s.conns k).session
  match σ.acceptsCacheCleared (s.current = some k) epoch with
  | .error _ => s.hangUp k
  | .ok false => s
  | .ok true => { s.setSession k σ.cacheCleared with db := s.db.resetNodeIdentityCache nodeId epoch }

/-- Go `confirmIdentity`; `none` is a storage error, and the job is tried again. -/
def confirmIdentity (nodeId : String) (s : State Byte) (k : Nat) (full : Bool) (epoch : CacheSessionId)
    (revision : Nat) : Option (State Byte) :=
  let σ := (s.conns k).session
  match σ.acknowledges (s.current = some k) epoch revision with
  | .error _ => some (s.hangUp k)
  | .ok none => some s
  | .ok (some snapshot) => do
    let db ← s.db.confirmNodeIdentityCache nodeId epoch revision (snapshot.users.map User.id)
      snapshot.removedUserIds (!snapshot.incremental && !snapshot.baseline)
    let s := { s.setSession k (σ.confirmed snapshot) with db, log := .recorded epoch revision :: s.log }
    return if full then s.hangUp k else
      s.send k (.identityConfirmed epoch revision (!snapshot.baseline || snapshot.baselineEnd))

/-- A push prepares a page: on success the lock is kept for `enqueue`. -/
def prepare (codec : Codec Byte) (nodeId : String) (s : State Byte) (k : Nat) (epoch : CacheSessionId)
    (fails blocked : Bool) (snapshot : IdentitySnapshot) : State Byte :=
  let db := s.db.nextIdentityRevision
  let failed := { s with db }
  if fails then failed
  else
    match db.prepareNodeIdentityCache nodeId epoch snapshot.revision snapshot.affected with
    | none => failed
    | some db =>
      let σ := (s.conns k).session
      { s.setSession k { σ with needsBlockedIps := σ.needsBlockedIps && !blocked } with
        db, held := some ⟨k, epoch, snapshot, codec.encode snapshot, blocked⟩ }

/-- Go `pushNodeIdentity` with the lock, up to the last section of `enqueueIdentity`. -/
def push (codec : Codec Byte) (nodeId : String) (s : State Byte) (fails full : Bool) : State Byte :=
  match s.current with
  | none => s
  | some k =>
    let c := s.conns k
    match c.session.cacheSessionId with
    | none => s
    | some epoch =>
      match c.session.choosePush (s.db.pendingNodeIdentityUsers nodeId epoch) with
      | .nothing => s
      | .cacheReset =>
        let s' := s.setConn k
          { c with session := c.session.requestCacheReset (s.nextId k), drawn := c.drawn + 1 }
        if full then s' else s'.send k (.welcome (s.nextId k) s.databaseFault)
      | .blockedIps =>
        s.prepare codec nodeId k epoch fails true
          (c.session.blockedIpSnapshot s.db.blockedIps.rows (s.db.revision + 1))
      | .page users =>
        let cursor := if c.session.baselineActive then c.session.baselineCursor else 0
        match s.db.readNodeIdentityPage nodeId cursor users 64 with
        | none => s
        | some page =>
          (s.setSession k { c.session with pendingCursor := page.lastId }).prepare codec nodeId k epoch
            fails false (s.db.pageSnapshot c.session.baselineActive page (s.db.revision + 1))

/-- The last section of `enqueueIdentity`, with what follows an error. -/
def enqueue (s : State Byte) (p : Prepared Byte) (full : Bool) : State Byte :=
  let s := { s with held := none }
  let σ := (s.conns p.stream).session
  if s.current ≠ some p.stream then
    s.setSession p.stream { σ with needsBlockedIps := σ.needsBlockedIps || p.blocked }
  else
    let σ := σ.startTransfer p.snapshot p.payload
    let s := { s with log := .enqueued p.epoch p.snapshot.revision p.payload :: s.log }
    if full then
      s.setSession p.stream { σ with needsBlockedIps := σ.needsBlockedIps || p.blocked }
    else (s.setSession p.stream σ).send p.stream (σ.currentChunk p.epoch)

/-! ## The edge -/

/-- The edge's receive loop handles a message. -/
def receive (s : State Byte) (r : Receiver Byte) (m : DownMsg Byte) : State Byte :=
  let (edge, up, events) := s.edge.receive r m
  { s.sendUp r.stream up with edge := edge.stopIfClosing, log := events ++ s.log }

/-! ## The machine -/

/-- One step; `none` when it is not enabled. -/
def step (codec : Codec Byte) (nodeId : String) (s : State Byte) : Action → Option (State Byte)
  | .mutate op =>
    if s.held.isSome then none else (s.db.execIdentity op).map fun db => { s with db }
  | .ban op =>
    if s.held.isSome then none
    else some ({ s with db := changeBans s.db op }.onCurrent fun σ => { σ with needsBlockedIps := true })
  | .nextRevision =>
    if s.held.isSome then none else some { s with db := s.db.nextIdentityRevision }
  | .otherNode other op =>
    if s.held.isSome || other = nodeId then none
    else (runOutbox s.db other op).map fun db => { s with db }
  | .scheduleIdentityPush => some (s.onCurrent fun σ => { σ with needsFull := true })
  | .suspectDatabase => some { s with databaseSuspect := true }
  | .declareFault full =>
    -- a fault is declared once, ten seconds into an outage
    if s.databaseSuspect && !s.databaseFault then some (s.setDatabaseFault true full) else none
  | .recover full => if s.databaseSuspect then some (s.setDatabaseFault false full) else none
  | .register k =>
    if k < s.streams && !(s.conns k).registered then
      some { s.setConn k { s.conns k with registered := true } with current := some k }
    else none
  | .serve k full =>
    let c := s.conns k
    if !c.registered || c.hungUp || c.reply.isSome then none
    else
      match c.up with
      | [] => none
      | m :: up => some ((s.setConn k { c with up }).serve k full m)
  | .sendReply k =>
    let c := s.conns k
    match c.reply with
    | none => none
    | some m => if c.hungUp then none else some (s.setConn k { c with reply := none, down := c.down ++ [m] })
  | .runIdentityJob k full =>
    let c := s.conns k
    if s.held.isSome || c.hungUp then none
    else
      match c.jobs with
      | [] => none
      | .cacheCleared epoch :: jobs => some ((s.setConn k { c with jobs }).acceptCacheCleared nodeId k epoch)
      | .identityAck epoch revision :: jobs =>
        (s.setConn k { c with jobs }).confirmIdentity nodeId k full epoch revision
  | .hangUp k => if (s.conns k).registered then some (s.hangUp k) else none
  | .startPush => if s.databaseSuspect then none else some { s with waiting := s.waiting + 1 }
  | .abandonPush => if s.waiting = 0 then none else some { s with waiting := s.waiting - 1 }
  | .push fails full =>
    if s.held.isSome || s.waiting = 0 then none
    else some ({ s with waiting := s.waiting - 1 }.push codec nodeId fails full)
  | .enqueue full => s.held.map fun p => s.enqueue p full
  | .connect admissionProtocol =>
    if s.edge.link.isSome then none
    else
      some { s.sendUp s.streams [.hello admissionProtocol] with
        streams := s.streams + 1, edge := s.edge.connect s.streams }
  | .receive =>
    match s.edge.link with
    | none => none
    | some r =>
      if !r.receiving then none
      else
        match (s.conns r.stream).down with
        | [] => none
        | m :: down => some ((s.setConn r.stream { s.conns r.stream with down }).receive r m)
  | .takeJob =>
    match s.edge.link with
    | none => none
    | some r =>
      match r.worker, r.applyJobs with
      | .idle, some job =>
        if r.closing then none
        else some { s with edge := { s.edge with link := some { r with worker := .loaded job, applyJobs := none } } }
      | _, _ => none
  | .runJob now fails =>
    match s.edge.link with
    | none => none
    | some r =>
      match r.worker with
      | .loaded job =>
        let (edge, events) := s.edge.runJob codec r now fails job
        some { s with edge, log := events ++ s.log }
      | _ => none
  | .reportProgress sequence =>
    match s.edge.link with
    | none => none
    | some r =>
      match r.worker with
      | .loaded (.identitySnapshot epoch revision _) | .committed (.identitySnapshot epoch revision _) =>
        some (s.sendUp r.stream [.identityProgress epoch revision sequence])
      | _ => none
  | .reportJob =>
    match s.edge.link with
    | none => none
    | some r =>
      match r.worker with
      | .committed job =>
        some { s.sendUp r.stream [EdgeClient.report job] with
          edge := { s.edge with link := some { r with worker := .idle } } }
      | _ => none
  | .beat =>
    match s.edge.link with
    | none => none
    | some r => if r.fenced then none else some (s.sendUp r.stream [.heartbeat])
  | .fence =>
    match s.edge.link with
    | none => none
    | some r => if r.fenced then none else some { s with edge := s.edge.fence r }
  | .cancel =>
    match s.edge.link with
    | none => none
    | some r => if !r.fenced || r.closing then none else some { s with edge := s.edge.cancel r }
  | .leave =>
    match s.edge.link with
    | none => none
    | some r =>
      match r.worker with
      | .loaded _ => none
      | _ => if r.closing then some { s with edge := s.edge.leave } else none
  | .discardCache => if s.edge.link.isSome then none else some { s with edge := s.edge.discardCache }
  | .checkHealth => some { s with edge := s.edge.checkHealth }
  | .probe failed => some { s with edge := { s.edge with localFailed := failed } }
  | .loseUp k => some (s.setConn k { s.conns k with up := (s.conns k).up.tail })
  | .loseDown k => some (s.setConn k { s.conns k with down := (s.conns k).down.tail })

end State

/-- An enrolled node that has not connected yet, and its edge. -/
structure Fresh (nodeId : String) (s : State Byte) : Prop where
  enrolled : nodeId ∈ s.db.edgeNodes
  session : s.db.sessionOf nodeId = none
  outbox : ∀ u, s.db.outboxRow u nodeId = none
  current : s.current = none
  conns : s.conns = fun _ => {}
  streams : s.streams = 0
  held : s.held = none
  waiting : s.waiting = 0
  fault : s.databaseFault = false
  link : s.edge.link = none
  epoch : s.edge.epoch = none
  connected : s.edge.connected = false
  syncReady : s.edge.syncReady = false
  cache : s.edge.store.cacheRows = ∅
  blockedIps : s.edge.store.controllerBlockedIps = ∅
  log : s.log = []

/-- The controller and the edge. -/
def machine (codec : Codec Byte) (nodeId : String) : Machine (State Byte) Action where
  Init := Fresh nodeId
  step := State.step codec nodeId

end MeowFrp.Cluster
