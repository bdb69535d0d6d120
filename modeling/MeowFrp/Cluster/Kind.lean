import MeowFrp.Cluster.Machine

/-!
# What a step of the cluster can do

The ways a step of the system can end. Most steps change nothing that the transfer of identities depends
on: they touch flags, exchange heartbeats, lose messages or end streams. These are the `Calm` steps. The
others are the constructors of `Kind`, each with the guards under which it is taken. The messages of a
stream are read as a collection here (`Conn.content`, `Conn.inbound`); where their order matters, it is
the order of the fragments, which their receiver checks itself.
-/

namespace MeowFrp.Cluster

open List
open scoped List

variable {Byte : Type}

/-- The message carries no identities. -/
def DownMsg.neutral : DownMsg Byte → Bool
  | .heartbeatAck _ => true
  | .controllerState _ => true
  | _ => false

/-- The job that a message becomes. -/
def UpMsg.job : UpMsg → Option IdentityJob
  | .cacheCleared epoch => some (.cacheCleared epoch)
  | .identityAck epoch revision => some (.identityAck epoch revision)
  | _ => none

/-- The step of the edge is noted for the order of events only. -/
def Event.note : Event Byte → Bool
  | .welcomed _ => true
  | .faultNotice => true
  | .confirmed .. => true
  | _ => false

namespace Conn

/-- What is on its way to the edge and carries identities. -/
def content (c : Conn Byte) : List (DownMsg Byte) :=
  (c.reply.toList ++ c.down).filter fun m => !m.neutral

/-- What is on its way to the identity worker of the controller. -/
def inbound (c : Conn Byte) : List IdentityJob := c.jobs ++ c.up.filterMap UpMsg.job

/-- Queueing a message. -/
lemma content_send (c : Conn Byte) (m : DownMsg Byte) :
    { c with down := c.down ++ [m] }.content <+~ m :: c.content := by
  unfold content
  rw [← append_assoc, filter_append]
  refine perm_append_comm.subperm.trans (List.Sublist.subperm ?_)
  have kept : ([m].filter fun m => !m.neutral).Sublist [m] := filter_sublist
  exact kept.append_right _

/-- Taking a message off the stream. -/
lemma content_pop {c : Conn Byte} {m down} (queue : c.down = m :: down) (carries : m.neutral = false) :
    m :: { c with down }.content <+~ c.content := by
  unfold content
  rw [queue, filter_append, filter_append, filter_cons_of_pos (by rw [carries]; rfl)]
  exact perm_middle.symm.subperm

/-- Receiving a message leaves the others. -/
lemma content_tail {c : Conn Byte} {m down} (queue : c.down = m :: down) :
    { c with down }.content <+~ c.content := by
  unfold content
  rw [queue]
  refine (List.Sublist.filter _ ?_).subperm
  exact (List.Sublist.refl _).append (sublist_cons_self m down)

end Conn

/-- The sessions wait for the same page and have recorded the same. -/
structure NodeSession.SameStage (σ σ' : NodeSession Byte) : Prop where
  cacheSessionId : σ'.cacheSessionId = σ.cacheSessionId
  cacheReady : σ'.cacheReady = σ.cacheReady
  baselineActive : σ'.baselineActive = σ.baselineActive
  pendingRevision : σ'.pendingRevision = σ.pendingRevision
  appliedRevision : σ'.appliedRevision = σ.appliedRevision
  pendingIdentity : σ'.pendingIdentity = σ.pendingIdentity
  pendingPayload : σ'.pendingPayload = σ.pendingPayload
  blockedIps : σ'.blockedIps = σ.blockedIps

/-- The sessions are at the same point of the transfer. -/
structure NodeSession.SameTransfer (σ σ' : NodeSession Byte) : Prop extends σ.SameStage σ' where
  chunkIndex : σ'.chunkIndex = σ.chunkIndex
  chunkTotal : σ'.chunkTotal = σ.chunkTotal

/-- The sessions differ in flags at most, which are not lowered. -/
structure NodeSession.SameCore (σ σ' : NodeSession Byte) : Prop extends σ.SameTransfer σ' where
  needsFull : σ.needsFull = true → σ'.needsFull = true
  needsBlockedIps : σ.needsBlockedIps = true → σ'.needsBlockedIps = true

lemma NodeSession.SameStage.refl {σ : NodeSession Byte} : σ.SameStage σ :=
  ⟨rfl, rfl, rfl, rfl, rfl, rfl, rfl, rfl⟩

lemma NodeSession.SameTransfer.refl {σ : NodeSession Byte} : σ.SameTransfer σ := ⟨.refl, rfl, rfl⟩

lemma NodeSession.SameCore.refl {σ : NodeSession Byte} : σ.SameCore σ := ⟨.refl, id, id⟩

/-- Nothing new is on its way, and the session is the same up to flags. -/
structure Conn.Within (c c' : Conn Byte) : Prop where
  session : c.session.SameCore c'.session
  drawn : c'.drawn = c.drawn
  registered : c'.registered = c.registered
  content : c'.content <+~ c.content
  inbound : c'.inbound ⊆ c.inbound

lemma Conn.Within.refl {c : Conn Byte} : c.Within c :=
  ⟨.refl, rfl, rfl, .refl _, fun _ m => m⟩

/-- The connection of the edge has at most stopped to receive. -/
structure Receiver.Calmer (r r' : Receiver Byte) : Prop where
  stream : r'.stream = r.stream
  applyJobs : r'.applyJobs = r.applyJobs
  worker : r'.worker = r.worker
  receiving : r'.receiving = true → r.receiving = true ∧ r'.cacheSessionId = r.cacheSessionId ∧
    r'.chunkBuffer = r.chunkBuffer ∧ r'.chunkRevision = r.chunkRevision ∧
    r'.chunkIndex = r.chunkIndex ∧ r'.chunkTotal = r.chunkTotal

lemma Receiver.Calmer.refl {r : Receiver Byte} : r.Calmer r :=
  ⟨rfl, rfl, rfl, fun on => ⟨on, rfl, rfl, rfl, rfl, rfl⟩⟩

/-- The edge has at most changed its flags and stopped to receive. -/
structure EdgeClient.Calmer (c c' : EdgeClient Byte) : Prop where
  store : c'.store = c.store
  epoch : c'.epoch = c.epoch
  link : c.link = none ∧ c'.link = none ∨
    ∃ r r', c.link = some r ∧ c'.link = some r' ∧ r.Calmer r'

/-- Only flags of the client change. -/
lemma EdgeClient.Calmer.of_link {c c' : EdgeClient Byte} (store : c'.store = c.store)
    (epoch : c'.epoch = c.epoch) (link : c'.link = c.link) : c.Calmer c' := by
  refine ⟨store, epoch, ?_⟩
  rw [link]
  cases c.link with
  | none => exact .inl ⟨rfl, rfl⟩
  | some r => exact .inr ⟨r, r, rfl, rfl, .refl⟩

/-- The link was there before. -/
lemma EdgeClient.Calmer.linked {c c' : EdgeClient Byte} {r'} (calmer : c.Calmer c') (link' : c'.link = some r') :
    ∃ r, c.link = some r ∧ r.Calmer r' := by
  obtain ⟨_, none⟩ | ⟨r, _, link, link₁, same⟩ := calmer.link
  · cases none.symm.trans link'
  · cases link₁.symm.trans link'
    exact ⟨r, link, same⟩

/-- The transactions that do not concern the outbox of the node. -/
inductive DbStep (nodeId : String) (db : Db.Store) : Db.Store → Prop
  | identity {op db'} (e : db.execIdentity op = some db') : DbStep nodeId db db'
  | bans (op : BanOp) : DbStep nodeId db (State.changeBans db op)
  | next : DbStep nodeId db db.nextIdentityRevision
  | other {other op db'} (differ : other ≠ nodeId) (e : State.runOutbox db other op = some db') :
      DbStep nodeId db db'

namespace State

/-- A step that changes nothing that the transfer depends on. -/
structure Calm (nodeId : String) (s s' : State Byte) : Prop where
  db : s'.db = s.db ∨ s.held = none ∧ DbStep nodeId s.db s'.db
  conns : ∀ k, (s.conns k).Within (s'.conns k)
  current : s'.current = s.current ∨ s'.current = none
  streams : s'.streams = s.streams
  /-- a prepared page is given up when its stream was superseded -/
  held : s'.held = s.held ∨ s'.held = none ∧ ∀ p, s.held = some p → s'.current ≠ some p.stream
  edge : s.edge.Calmer s'.edge
  log : ∃ notes, s'.log = notes ++ s.log ∧ ∀ ev ∈ notes, ev.note = true
  /-- a change of the bans makes a push due -/
  bans : s'.db.blockedIps = s.db.blockedIps ∨
    ∀ k, s'.current = some k → (s'.conns k).session.needsBlockedIps = true

/-- What a push sends: changes of the bans, a page of the baseline, or users. -/
inductive Pushed (nodeId : String) (db : Db.Store) (σ : NodeSession Byte) :
    Bool → IdentitySnapshot → Prop
  | blockedIps (full : σ.needsFull = false) (baseline : σ.baselineActive = false) :
      Pushed nodeId db σ true (σ.blockedIpSnapshot db.blockedIps.rows (db.revision + 1))
  | page {cursor users page} (requested : users.isNone = σ.baselineActive)
      (plain : σ.baselineActive = false → σ.needsFull = false ∧ σ.needsBlockedIps = false)
      (read : db.readNodeIdentityPage nodeId cursor users 64 = some page) :
      Pushed nodeId db σ false (db.pageSnapshot σ.baselineActive page (db.revision + 1))

/-- The ways a step can end. -/
inductive Kind (codec : Codec Byte) (nodeId : String) (s : State Byte) : State Byte → Prop
  | calm {s'} (calm : Calm nodeId s s') : Kind codec nodeId s s'
  | registered {k} (opened : k < s.streams) (new : (s.conns k).registered = false) :
      Kind codec nodeId s
        { s.setConn k { s.conns k with registered := true } with current := some k }
  /-- a cache session id is drawn, for a `hello` or for a reset -/
  | drew {k c waiting} (known : (s.conns k).registered = true ∨
        (s.conns k).session.cacheSessionId.isSome = true)
      (free : (s.conns k).session.cacheSessionId = none ∨
        s.held = none ∧ (s.conns k).session.pendingRevision ≤ (s.conns k).session.appliedRevision)
      (session : c.session = { (s.conns k).session with
        cacheSessionId := some (s.nextId k)
        cacheReady := c.session.cacheReady
        needsFull := c.session.needsFull
        admissionProtocol := c.session.admissionProtocol })
      (unready : c.session.cacheReady = true →
        (s.conns k).session.cacheSessionId = none ∧ (s.conns k).session.cacheReady = true)
      (drawn : c.drawn = (s.conns k).drawn + 1) (registered : c.registered = (s.conns k).registered)
      (content : c.content <+~ .welcome (s.nextId k) s.databaseFault :: (s.conns k).content)
      (inbound : c.inbound ⊆ (s.conns k).inbound) :
      Kind codec nodeId s { s.setConn k c with waiting }
  | prepared {k epoch blocked snapshot db cursor waiting} (current : s.current = some k)
      (id : (s.conns k).session.cacheSessionId = some epoch)
      (ready : (s.conns k).session.cacheReady = true)
      (idle : (s.conns k).session.pendingRevision ≤ (s.conns k).session.appliedRevision)
      (free : s.held = none) (pushed : Pushed nodeId s.db (s.conns k).session blocked snapshot)
      (prepare : s.db.nextIdentityRevision.prepareNodeIdentityCache nodeId epoch snapshot.revision
        snapshot.affected = some db) :
      Kind codec nodeId s
        { s.setSession k { (s.conns k).session with
            needsBlockedIps := (s.conns k).session.needsBlockedIps && !blocked
            pendingCursor := cursor } with
          db, waiting, held := some ⟨k, epoch, snapshot, codec.encode snapshot, blocked⟩ }
  | enqueued {p c} (held : s.held = some p) (current : s.current = some p.stream)
      (session : c.session = { (s.conns p.stream).session.startTransfer p.snapshot p.payload with
        needsBlockedIps := c.session.needsBlockedIps })
      (flag : (s.conns p.stream).session.needsBlockedIps = true → c.session.needsBlockedIps = true)
      (drawn : c.drawn = (s.conns p.stream).drawn)
      (registered : c.registered = (s.conns p.stream).registered)
      (content : c.content <+~ c.session.currentChunk p.epoch :: (s.conns p.stream).content)
      (inbound : c.inbound = (s.conns p.stream).inbound) :
      Kind codec nodeId s { s.setConn p.stream c with
        held := none, log := .enqueued p.epoch p.snapshot.revision p.payload :: s.log }
  /-- a fragment is acknowledged -/
  | advanced {k epoch c current} (id : (s.conns k).session.cacheSessionId = some epoch)
      (pending : (s.conns k).session.pendingIdentity.isSome = true)
      (below : (s.conns k).session.chunkIndex < (s.conns k).session.chunkTotal)
      (session : c.session = { (s.conns k).session with
        chunkIndex := (s.conns k).session.chunkIndex + 1 })
      (drawn : c.drawn = (s.conns k).drawn) (registered : c.registered = (s.conns k).registered)
      (content : c.content <+~ (s.conns k).content ∨
        c.session.chunkIndex < c.session.chunkTotal ∧
          c.content <+~ c.session.currentChunk epoch :: (s.conns k).content)
      (inbound : c.inbound ⊆ (s.conns k).inbound) (now : current = s.current ∨ current = none) :
      Kind codec nodeId s { s.setConn k c with current }
  | cleared {k epoch c} (job : .cacheCleared epoch ∈ (s.conns k).inbound)
      (current : s.current = some k) (free : s.held = none)
      (id : (s.conns k).session.cacheSessionId = some epoch)
      (unready : (s.conns k).session.cacheReady = false)
      (session : c.session = (s.conns k).session.cacheCleared)
      (drawn : c.drawn = (s.conns k).drawn) (registered : c.registered = (s.conns k).registered)
      (content : c.content = (s.conns k).content) (inbound : c.inbound ⊆ (s.conns k).inbound) :
      Kind codec nodeId s { s.setConn k c with db := s.db.resetNodeIdentityCache nodeId epoch }
  | recorded {k epoch revision snapshot db c current}
      (job : .identityAck epoch revision ∈ (s.conns k).inbound) (here : s.current = some k)
      (free : s.held = none) (id : (s.conns k).session.cacheSessionId = some epoch)
      (newer : (s.conns k).session.appliedRevision < revision)
      (pending : (s.conns k).session.pendingIdentity = some snapshot)
      (same : snapshot.revision = revision)
      (confirm : s.db.confirmNodeIdentityCache nodeId epoch revision (snapshot.users.map User.id)
        snapshot.removedUserIds (!snapshot.incremental && !snapshot.baseline) = some db)
      (session : c.session = (s.conns k).session.confirmed snapshot)
      (drawn : c.drawn = (s.conns k).drawn) (registered : c.registered = (s.conns k).registered)
      (content : c.content <+~ .identityConfirmed epoch revision
        (!snapshot.baseline || snapshot.baselineEnd) :: (s.conns k).content)
      (inbound : c.inbound ⊆ (s.conns k).inbound)
      (now : current = s.current ∨ current = none) :
      Kind codec nodeId s { s.setConn k c with
        db, current, log := .recorded epoch revision :: s.log }
  | dialed {admissionProtocol} (free : s.edge.link = none) :
      Kind codec nodeId s { s.sendUp s.streams [.hello admissionProtocol] with
        streams := s.streams + 1, edge := s.edge.connect s.streams }
  | welcomed {r on epoch fault c edge} (link : s.edge.link = some r) (receiving : r.receiving = true)
      (empty : r.applyJobs = none) (within : (s.conns r.stream).Within c)
      (content : .welcome epoch fault :: c.content <+~ (s.conns r.stream).content)
      (link' : edge.link = some { r with
        cacheSessionId := some epoch
        chunkBuffer := []
        applyJobs := some (.cacheReset epoch)
        receiving := on })
      (store : edge.store = s.edge.store) (epoch' : edge.epoch = s.edge.epoch) :
      Kind codec nodeId s { s.setConn r.stream c with edge, log := .welcomed epoch :: s.log }
  /-- a fragment is accepted; the last one makes a job -/
  | collected {r on edge epoch revision index total data c} (link : s.edge.link = some r)
      (receiving : r.receiving = true) (id : r.cacheSessionId = some epoch)
      (chunk : .identityChunk epoch revision index index total data ∈ (s.conns r.stream).content)
      (next : index = 0 ∧ r.chunkBuffer = [] ∨
        index ≠ 0 ∧ index = r.chunkIndex ∧ total = r.chunkTotal ∧ revision = r.chunkRevision)
      (within : (s.conns r.stream).Within c)
      (link' : edge.link = some { r with
        chunkRevision := revision
        chunkTotal := total
        chunkIndex := index + 1
        chunkBuffer := if index + 1 = total then [] else r.chunkBuffer ++ data
        applyJobs := if index + 1 = total then
          some (.identitySnapshot epoch revision (r.chunkBuffer ++ data)) else r.applyJobs
        receiving := on })
      (empty : index + 1 = total → r.applyJobs = none)
      (store : edge.store = s.edge.store) (epoch' : edge.epoch = s.edge.epoch) :
      Kind codec nodeId s { s.setConn r.stream c with edge }
  | taken {r job} (link : s.edge.link = some r) (worker : r.worker = .idle)
      (slot : r.applyJobs = some job) :
      Kind codec nodeId s
        { s with edge := { s.edge with link := some { r with worker := .loaded job, applyJobs := none } } }
  | resetDone {r epoch} (link : s.edge.link = some r) (worker : r.worker = .loaded (.cacheReset epoch)) :
      Kind codec nodeId s
        { s with
          edge := { s.edge with
            store := s.edge.store.discardControlIdentityCache
            epoch := some epoch
            link := some { r with
              locallyAppliedRevision := 0, worker := .committed (.cacheReset epoch) } }
          log := .reset epoch :: s.log }
  | appliedDone {r epoch revision payload snapshot now store} (link : s.edge.link = some r)
      (worker : r.worker = .loaded (.identitySnapshot epoch revision payload))
      (decode : codec.decode payload = some snapshot) (same : snapshot.revision = revision)
      (apply : s.edge.store.applyIdentitySnapshot now snapshot = .ok store) :
      Kind codec nodeId s
        { s with
          edge := { s.edge with
            store
            link := some { r with
              locallyAppliedRevision := revision
              worker := .committed (.identitySnapshot epoch revision payload) } }
          log := .applied epoch revision payload :: s.log }
  | workerFailed {r} (link : s.edge.link = some r) :
      Kind codec nodeId s { s with edge := { s.edge with link := some { r with worker := .failed } } }
  | reported {r job} (link : s.edge.link = some r) (worker : r.worker = .committed job) :
      Kind codec nodeId s
        { s.sendUp r.stream [EdgeClient.report job] with
          edge := { s.edge with link := some { r with worker := .idle } } }
  | left : Kind codec nodeId s { s with edge := s.edge.leave }
  | discarded (free : s.edge.link = none) : Kind codec nodeId s { s with edge := s.edge.discardCache }

/-! ## Streams -/

variable {codec : Codec Byte} {nodeId : String} {s s' : State Byte} {k : Nat} {c c' : Conn Byte}

@[simp]
lemma setConn_self : (s.setConn k c).conns k = c := Function.update_self ..

/-- The session of a stream that is changed. -/
lemma setConn_session : ((s.setConn k c).conns k).session = c.session := congrArg Conn.session setConn_self

/-- The other streams stay. -/
lemma setConn_other {j} (differ : j ≠ k) : (s.setConn k c).conns j = s.conns j :=
  Function.update_of_ne differ ..

@[simp]
lemma setConn_setConn : (s.setConn k c).setConn k c' = s.setConn k c' := by
  unfold setConn
  rw [Function.update_idem]

/-- What holds of the new stream and of the others before holds of all. -/
lemma forall_setConn {Q : Nat → Conn Byte → Prop} (rest : ∀ j, Q j (s.conns j)) (here : Q k c) (j : Nat) :
    Q j ((s.setConn k c).conns j) := by
  by_cases same : j = k
  · subst same
    rw [setConn_self]
    exact here
  · rw [setConn_other same]
    exact rest j

/-- A stream is put in place within what it was. -/
lemma within_setConn (within : (s.conns k).Within c) (j : Nat) :
    (s.conns j).Within ((s.setConn k c).conns j) :=
  forall_setConn (Q := fun j c => (s.conns j).Within c) (fun _ => .refl) within j

/-- A step of the controller is calm when no stream is disturbed. -/
lemma Calm.of_conns (db : s'.db = s.db) (conns : ∀ k, (s.conns k).Within (s'.conns k))
    (current : s'.current = s.current ∨ s'.current = none) (streams : s'.streams = s.streams)
    (held : s'.held = s.held ∨ s'.held = none ∧ ∀ p, s.held = some p → s'.current ≠ some p.stream)
    (edge : s'.edge = s.edge) (log : s'.log = s.log) : Calm nodeId s s' :=
  { db := .inl db
    conns
    current
    streams
    held
    edge := .of_link (by rw [edge]) (by rw [edge]) (by rw [edge])
    log := ⟨[], log, nofun⟩
    bans := .inl (by rw [db]) }

/-- A step on one stream is calm when the stream is not disturbed. -/
lemma Calm.of_conn {current : Option Nat} {held : Option (Prepared Byte)} {waiting : Nat}
    (within : (s.conns k).Within c) (now : current = s.current ∨ current = none)
    (kept : held = s.held ∨ held = none ∧ ∀ p, s.held = some p → current ≠ some p.stream) :
    Calm nodeId s { s.setConn k c with current, held, waiting } :=
  .of_conns rfl (within_setConn within) now rfl kept rfl rfl

/-- A session is set on a new stream. -/
lemma setSession_setConn {σ : NodeSession Byte} :
    (s.setConn k c).setSession k σ = s.setConn k { c with session := σ } := by
  unfold setSession
  rw [setConn_self, setConn_setConn]

/-- A message is sent on a new stream. -/
lemma send_setConn {m : DownMsg Byte} :
    (s.setConn k c).send k m = s.setConn k { c with down := c.down ++ [m] } := by
  unfold send
  rw [setConn_self, setConn_setConn]

lemma hangUp_setConn : (s.setConn k c).hangUp k =
    { s.setConn k { c with hungUp := true } with
      current := if s.current = some k then none else s.current } := by
  unfold hangUp
  rw [setConn_self, setConn_setConn]
  rfl

lemma hangUp_current : (if s.current = some k then none else s.current) = s.current ∨
    (if s.current = some k then none else s.current) = none := by
  by_cases here : s.current = some k
  · exact .inr (if_pos here)
  · exact .inl (if_neg here)

/-- Ending a stream is calm. -/
lemma Calm.of_hangUp (within : (s.conns k).Within c) :
    Calm nodeId s ((s.setConn k c).hangUp k) := by
  rw [hangUp_setConn]
  exact .of_conn ⟨within.session, within.drawn, within.registered, within.content, within.inbound⟩
    hangUp_current (.inl rfl)

end State

end MeowFrp.Cluster
