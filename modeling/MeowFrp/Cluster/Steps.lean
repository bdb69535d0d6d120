import MeowFrp.Cluster.ControllerSteps
import MeowFrp.Db.Records

/-!
# Inversion of a step

The functions of the edge's side are inverted here, and with them and those of the controller every step
of the system (`step_kind`).
-/

namespace MeowFrp.Cluster

open List Option EdgeClient

variable {Byte : Type}

/-! ## The edge -/

namespace EdgeClient

variable {c c' : EdgeClient Byte} {r r' : Receiver Byte}

/-- Only the receiver changes. -/
lemma Calmer.of_calmer (link : c.link = some r) (store : c'.store = c.store) (epoch : c'.epoch = c.epoch)
    (link' : c'.link = some r') (calmer : r.Calmer r') : c.Calmer c' :=
  ⟨store, epoch, .inr ⟨r, r', link, link', calmer⟩⟩

/-- A receiver that stops keeps what the worker sees of it. -/
lemma Calmer.of_fail (link : c.link = some r) {r₁ : Receiver Byte} (store : c'.store = c.store)
    (epoch : c'.epoch = c.epoch) (stream : r₁.stream = r.stream) (jobs : r₁.applyJobs = r.applyJobs)
    (worker : r₁.worker = r.worker) : c.Calmer (c'.fail r₁) :=
  .of_calmer link store epoch rfl ⟨stream, jobs, worker, nofun⟩

/-- A receive loop may return. -/
lemma Calmer.stopIfClosing (calmer : c.Calmer c') : c.Calmer c'.stopIfClosing := by
  refine ⟨calmer.store, calmer.epoch, ?_⟩
  unfold EdgeClient.stopIfClosing
  obtain ⟨none, none'⟩ | ⟨r, _, link, link', same⟩ := calmer.link
  · rw [none']
    exact .inl ⟨none, rfl⟩
  · rw [link']
    refine .inr ⟨r, _, link, rfl, same.stream, same.applyJobs, same.worker, fun on => same.receiving ?_⟩
    exact ((Bool.and_eq_true _ _).mp on).1

/-- The connection after the receive loop may have returned. -/
lemma stopIfClosing_link (link : c.link = some r) :
    c.stopIfClosing.link = some { r with receiving := r.receiving && !r.closing } :=
  congrArg (Option.map _) link

/-- A fault changes flags only. -/
lemma observeFault_same {fault} : (c.observeFault fault).store = c.store ∧
    (c.observeFault fault).epoch = c.epoch ∧ (c.observeFault fault).link = c.link := by
  unfold observeFault
  dsimp only
  split <;> exact ⟨rfl, rfl, rfl⟩

/-- A confirmation changes flags only. -/
lemma receiveConfirmed_calmer {epoch revision complete} (link : c.link = some r) :
    c.Calmer (c.receiveConfirmed r epoch revision complete).1 := by
  unfold receiveConfirmed
  dsimp only
  split
  · exact .of_fail link rfl rfl rfl rfl rfl
  · split <;> exact .of_link rfl rfl rfl

/-- A confirmation leaves notes. -/
lemma receiveConfirmed_notes {epoch revision complete} :
    ∀ ev ∈ (c.receiveConfirmed r epoch revision complete).2, ev.note = true := by
  unfold receiveConfirmed
  dsimp only
  split
  · nofun
  · intro ev m
    cases mem_singleton.mp m
    rfl

/-- A welcome makes the receiver queue the reset, or stop. -/
lemma receiveWelcome_inv {epoch fault} (link : c.link = some r) :
    c.Calmer (c.receiveWelcome r epoch fault) ∨
    r.applyJobs = none ∧ (c.receiveWelcome r epoch fault).store = c.store ∧
      (c.receiveWelcome r epoch fault).epoch = c.epoch ∧
      (c.receiveWelcome r epoch fault).link = some { r with
        cacheSessionId := some epoch, chunkBuffer := [], applyJobs := some (.cacheReset epoch) } := by
  obtain ⟨store, same, _⟩ := @observeFault_same Byte c fault
  unfold receiveWelcome queueApply
  dsimp only
  split
  · rename_i empty
    exact .inr ⟨empty, store, same, rfl⟩
  · exact .inl (.of_fail link store same rfl rfl rfl)

/-- A fragment is accepted, or the receiver stops. -/
lemma receiveChunk_inv {epoch revision sequence index total data} (link : c.link = some r) :
    c.Calmer (c.receiveChunk r epoch revision sequence index total data).1 ∨
    r.cacheSessionId = some epoch ∧ sequence = index ∧
      (index = 0 ∧ r.chunkBuffer = [] ∨
        index ≠ 0 ∧ index = r.chunkIndex ∧ total = r.chunkTotal ∧ revision = r.chunkRevision) ∧
      (index + 1 = total → r.applyJobs = none) ∧
      (c.receiveChunk r epoch revision sequence index total data).1.store = c.store ∧
      (c.receiveChunk r epoch revision sequence index total data).1.epoch = c.epoch ∧
      (c.receiveChunk r epoch revision sequence index total data).1.link = some { r with
        chunkRevision := revision
        chunkTotal := total
        chunkIndex := index + 1
        chunkBuffer := if index + 1 = total then [] else r.chunkBuffer ++ data
        applyJobs := if index + 1 = total then
          some (.identitySnapshot epoch revision (r.chunkBuffer ++ data)) else r.applyJobs } := by
  unfold receiveChunk
  split
  · exact .inl (.of_fail link rfl rfl rfl rfl rfl)
  rename_i same
  split
  · exact .inl (.of_fail link rfl rfl rfl rfl rfl)
  rename_i clean
  have id : r.cacheSessionId = some epoch := (not_not.mp same).symm
  -- the first fragment starts a new transfer; the others continue the one that is under way
  generalize first : (if index = 0 then { c with syncReady := false } else c) = c₁
  have same₁ : c₁.store = c.store ∧ c₁.epoch = c.epoch := by
    split at first <;> subst first <;> exact ⟨rfl, rfl⟩
  generalize start : (if index = 0 then
    { r with chunkRevision := revision, chunkTotal := total, chunkIndex := 0 } else r) = r₁
  obtain ⟨form, old⟩ : r₁ = { r with
      chunkRevision := r₁.chunkRevision
      chunkTotal := r₁.chunkTotal
      chunkIndex := r₁.chunkIndex } ∧ (index ≠ 0 → r₁ = r) := by
    split at start
    · rename_i zero
      subst start
      exact ⟨rfl, fun no => absurd zero no⟩
    · subst start
      exact ⟨rfl, fun _ => rfl⟩
  rw [form]
  dsimp only
  split
  · exact .inl (.of_fail link same₁.1 same₁.2 rfl rfl rfl)
  rename_i valid
  simp only [Bool.or_eq_true, decide_eq_true_eq, not_or, ne_eq, not_not] at valid
  obtain ⟨⟨⟨⟨⟨⟨_, totals⟩, indices⟩, sequences⟩, revisions⟩, _⟩, _⟩ := valid
  have next : index = 0 ∧ r.chunkBuffer = [] ∨
      index ≠ 0 ∧ index = r.chunkIndex ∧ total = r.chunkTotal ∧ revision = r.chunkRevision := by
    by_cases zero : index = 0
    · exact .inl ⟨zero, by simpa [zero] using clean⟩
    · rw [old zero] at totals indices revisions
      exact .inr ⟨zero, indices, totals, revisions⟩
  rw [← totals, ← indices, ← revisions]
  split
  · rename_i done
    unfold queueApply
    dsimp only
    split
    · rename_i free
      exact .inr ⟨id, sequences.trans indices.symm, next, fun _ => free, same₁.1, same₁.2, rfl⟩
    · exact .inl (.of_fail link same₁.1 same₁.2 rfl rfl rfl)
  · rename_i more
    exact .inr ⟨id, sequences.trans indices.symm, next, fun done => absurd done more, same₁.1, same₁.2,
      rfl⟩

/-- Acknowledgements of fragments are no jobs. -/
lemma receiveChunk_up {epoch revision sequence index total data} :
    (c.receiveChunk r epoch revision sequence index total data).2.filterMap UpMsg.job = [] := by
  unfold receiveChunk
  split
  · rfl
  split
  · rfl
  generalize (if index = 0 then { r with
    chunkRevision := revision, chunkTotal := total, chunkIndex := 0 } else r) = r₁
  dsimp only
  split <;> rfl

end EdgeClient

namespace State

variable {codec : Codec Byte} {nodeId : String} {s s' : State Byte} {k : Nat} {r : Receiver Byte}

variable {c : Conn Byte} {db : Db.Store}

lemma sendUp_setConn {ms} :
    (s.setConn k c).sendUp k ms = s.setConn k { c with up := c.up ++ ms } := by
  unfold sendUp
  rw [setConn_self, setConn_setConn]

/-- Messages that are no jobs do not disturb the stream. -/
lemma within_sendUp (ms : List UpMsg) (within : (s.conns k).Within c)
    (none : ms.filterMap UpMsg.job = []) : (s.conns k).Within { c with up := c.up ++ ms } := by
  refine ⟨within.session, within.drawn, within.registered, within.content, ?_⟩
  unfold Conn.inbound
  rw [filterMap_append, none, append_nil]
  exact within.inbound

/-- A step of the edge that leaves the streams alone. -/
lemma Calm.of_edge {edge : EdgeClient Byte} (calmer : s.edge.Calmer edge) : Calm nodeId s { s with edge } :=
  { db := .inl rfl
    conns := fun _ => .refl
    current := .inl rfl
    streams := rfl
    held := .inl rfl
    edge := calmer
    log := ⟨[], rfl, nofun⟩
    bans := .inl rfl }

/-- A calm step of the edge's receive loop. -/
lemma Calm.of_receive {edge : EdgeClient Byte} {notes : List (Event Byte)}
    (within : (s.conns k).Within c) (calmer : s.edge.Calmer edge) (note : ∀ ev ∈ notes, ev.note = true) :
    Calm nodeId s { s.setConn k c with edge, log := notes ++ s.log } :=
  { db := .inl rfl
    conns := within_setConn within
    current := .inl rfl
    streams := rfl
    held := .inl rfl
    edge := calmer
    log := ⟨notes, rfl, note⟩
    bans := .inl rfl }

/-- A message is received. -/
lemma receive_kind {m down} (link : s.edge.link = some r) (receiving : r.receiving = true)
    (queue : (s.conns r.stream).down = m :: down) :
    Kind codec nodeId s ((s.setConn r.stream { s.conns r.stream with down }).receive r m) := by
  have within : (s.conns r.stream).Within { s.conns r.stream with down } :=
    ⟨.refl, rfl, rfl, Conn.content_tail queue, fun _ m => m⟩
  have silent := within_sendUp [] within rfl
  cases m with
  | welcome epoch fault =>
    unfold State.receive EdgeClient.receive
    dsimp only
    rw [sendUp_setConn]
    obtain calmer | ⟨empty, store, same, link'⟩ := @EdgeClient.receiveWelcome_inv Byte s.edge r epoch fault link
    · refine .calm (.of_receive silent calmer.stopIfClosing ?_)
      intro ev m
      cases mem_singleton.mp m
      rfl
    · have popped := Conn.content_pop queue rfl
      exact .welcomed link receiving empty silent popped (stopIfClosing_link link') store same
  | identityChunk epoch revision sequence index total data =>
    unfold State.receive EdgeClient.receive
    dsimp only
    rw [sendUp_setConn]
    have acked := within_sendUp _ within
      (@EdgeClient.receiveChunk_up Byte s.edge r epoch revision sequence index total data)
    obtain calmer | ⟨id, rfl, next, empty, store, same, link'⟩ :=
      @EdgeClient.receiveChunk_inv Byte s.edge r epoch revision sequence index total data link
    · exact .calm (.of_receive acked calmer.stopIfClosing nofun)
    · refine .collected link receiving id ?_ next acked (stopIfClosing_link link') empty store
        same
      exact (Conn.content_pop queue rfl).subset mem_cons_self
  | identityConfirmed =>
    unfold State.receive EdgeClient.receive
    dsimp only
    rw [sendUp_setConn]
    exact .calm (.of_receive silent (receiveConfirmed_calmer link).stopIfClosing
      receiveConfirmed_notes)
  | heartbeatAck fault =>
    unfold State.receive EdgeClient.receive
    dsimp only
    rw [sendUp_setConn]
    obtain ⟨store, same, link'⟩ := @EdgeClient.observeFault_same Byte s.edge fault
    exact .calm (.of_receive silent (EdgeClient.Calmer.of_link store same link').stopIfClosing nofun)
  | controllerState fault =>
    unfold State.receive EdgeClient.receive
    dsimp only
    rw [sendUp_setConn]
    obtain ⟨store, same, link'⟩ := @EdgeClient.observeFault_same Byte s.edge fault
    refine .calm (.of_receive silent (EdgeClient.Calmer.of_link store same link').stopIfClosing ?_)
    intro ev m
    split at m
    · cases mem_singleton.mp m
      rfl
    · cases m

/-- The worker runs its job. -/
lemma runJob_kind {job now fails} (link : s.edge.link = some r) (worker : r.worker = .loaded job) :
    Kind codec nodeId s
      { s with
        edge := (s.edge.runJob codec r now fails job).1
        log := (s.edge.runJob codec r now fails job).2 ++ s.log } := by
  cases job with
  | cacheReset =>
    unfold EdgeClient.runJob
    dsimp only
    split
    · exact .workerFailed link
    · exact .resetDone link worker
  | identitySnapshot _ revision =>
    unfold EdgeClient.runJob
    dsimp only
    split
    · exact .workerFailed link
    rename_i snapshot decode
    split
    · exact .workerFailed link
    rename_i fine
    split
    · exact .workerFailed link
    rename_i store apply
    have same : snapshot.revision = revision := by
      by_contra differ
      simp [differ] at fine
    exact .appliedDone link worker decode same apply

/-! ## The inversion -/

/-- A step that changes the flags of the current session only. -/
lemma Calm.onCurrent {f : NodeSession Byte → NodeSession Byte}
    (same : ∀ σ, NodeSession.SameCore σ (f σ)) (step : db = s.db ∨ s.held = none ∧ DbStep nodeId s.db db)
    (bans : db.blockedIps = s.db.blockedIps ∨ ∀ σ, (f σ).needsBlockedIps = true) :
    Calm nodeId s ({ s with db }.onCurrent f) := by
  have rest : ∀ conns : Nat → Conn Byte, (∀ k, (s.conns k).Within (conns k)) →
      (db.blockedIps = s.db.blockedIps ∨
        ∀ k, s.current = some k → (conns k).session.needsBlockedIps = true) →
      Calm nodeId s { s with db, conns } := fun conns within due =>
    { db := step
      conns := within
      current := .inl rfl
      streams := rfl
      held := .inl rfl
      edge := .of_link rfl rfl rfl
      log := ⟨[], rfl, nofun⟩
      bans := due }
  unfold State.onCurrent
  split
  · rename_i none
    refine rest s.conns (fun _ => .refl) (.inr fun k some => ?_)
    cases none.symm.trans some
  · rename_i k current
    refine rest _ (within_setConn (within_flags (same _))) (bans.imp_right fun due j here => ?_)
    cases current.symm.trans here
    change ((s.setSession k _).conns k).session.needsBlockedIps = true
    rw [setSession_session]
    exact due _

/-- A neutral message adds no content. -/
lemma content_neutral {m : DownMsg Byte} (neutral : m.neutral = true) :
    { c with down := c.down ++ [m] }.content = c.content := by
  unfold Conn.content
  rw [← append_assoc, filter_append, filter_cons_of_neg (by simp [neutral])]
  exact append_nil _

/-- Declaring a fault is calm. -/
lemma setDatabaseFault_calm {fault full} : Calm nodeId s (s.setDatabaseFault fault full) := by
  have idle : ∀ conns : Nat → Conn Byte, (∀ k, (s.conns k).Within (conns k)) → Calm nodeId s
      { s with databaseFault := fault, databaseSuspect := s.databaseSuspect && fault, conns } :=
    fun conns within => .of_conns rfl within (.inl rfl) rfl (.inl rfl) rfl rfl
  unfold setDatabaseFault
  dsimp only
  split
  · exact idle s.conns fun _ => .refl
  rename_i k _
  split
  · exact idle s.conns fun _ => .refl
  set σ : NodeSession Byte := { (s.conns k).session with needsFull := _ }
  have same : (s.conns k).session.SameCore σ := by
    refine ⟨⟨⟨rfl, rfl, rfl, rfl, rfl, rfl, rfl, rfl⟩, rfl, rfl⟩, fun on => ?_, fun on => on⟩
    exact (Bool.or_eq_true _ _).mpr (.inl on)
  split
  · exact idle _ (within_setConn (within_flags same))
  · unfold setSession
    rw [send_setConn]
    refine idle _ (within_setConn ⟨same, rfl, rfl, ?_, fun _ m => m⟩)
    rw [content_neutral rfl]
    exact .refl _

/-- Changing the bans is calm, and raises a flag. -/
lemma changeBans_step {op} (free : s.held = none) :
    Calm nodeId s ({ s with db := changeBans s.db op }.onCurrent
      fun σ => { σ with needsBlockedIps := true }) :=
  .onCurrent (fun _ => ⟨⟨⟨rfl, rfl, rfl, rfl, rfl, rfl, rfl, rfl⟩, rfl, rfl⟩, fun on => on, fun _ => rfl⟩)
    (.inr ⟨free, .bans op⟩) (.inr fun _ => rfl)

/-- A transaction that leaves the bans alone. -/
lemma Calm.of_db (free : s.held = none) (step : DbStep nodeId s.db db)
    (bans : db.blockedIps = s.db.blockedIps) : Calm nodeId s { s with db } :=
  { db := .inr ⟨free, step⟩
    conns := fun _ => .refl
    current := .inl rfl
    streams := rfl
    held := .inl rfl
    edge := .of_link rfl rfl rfl
    log := ⟨[], rfl, nofun⟩
    bans := .inl bans }

/-- Identity transactions keep the bans. -/
lemma execIdentity_blockedIps {db' : Db.Store} {op} (e : db.execIdentity op = some db') :
    db'.blockedIps = db.blockedIps := by
  obtain ⟨_, _, rfl | ⟨rfl, _⟩, keeps, _⟩ := Db.Store.execIdentity_records e
  · exact keeps.blockedIps
  · exact keeps.blockedIps

/-- Transactions of the outbox keep the bans. -/
lemma runOutbox_blockedIps {db' : Db.Store} {other op} (e : runOutbox db other op = some db') :
    db'.blockedIps = db.blockedIps := by
  cases op with
  | reset =>
    cases e
    rfl
  | prepare =>
    obtain ⟨_, rfl⟩ := Db.Store.prepare_eq_some e
    rfl
  | confirm =>
    obtain ⟨_, same⟩ := Db.Store.confirm_eq_some e
    rw [same]

/-- The inversion of a step. -/
theorem step_kind {a} (st : step codec nodeId s a = some s') : Kind codec nodeId s s' := by
  cases a with
  | mutate =>
    obtain ⟨free, st⟩ := ite_none_left_eq_some.mp st
    obtain ⟨db, e, rfl⟩ := map_eq_some_iff.mp st
    exact .calm (.of_db (not_isSome_iff_eq_none.mp free) (.identity e) (execIdentity_blockedIps e))
  | ban =>
    obtain ⟨free, ⟨⟩⟩ := ite_none_left_eq_some.mp st
    exact .calm (changeBans_step (not_isSome_iff_eq_none.mp free))
  | nextRevision =>
    obtain ⟨free, ⟨⟩⟩ := ite_none_left_eq_some.mp st
    exact .calm (.of_db (not_isSome_iff_eq_none.mp free) .next rfl)
  | otherNode =>
    obtain ⟨free, st⟩ := ite_none_left_eq_some.mp st
    obtain ⟨db, e, rfl⟩ := map_eq_some_iff.mp st
    simp only [Bool.or_eq_true, decide_eq_true_eq, not_or] at free
    exact .calm (.of_db (not_isSome_iff_eq_none.mp free.1) (.other free.2 e) (runOutbox_blockedIps e))
  | scheduleIdentityPush =>
    cases st
    have flagged : Calm nodeId s ({ s with db := s.db }.onCurrent fun σ => { σ with needsFull := true }) :=
      .onCurrent (fun _ => ⟨⟨⟨rfl, rfl, rfl, rfl, rfl, rfl, rfl, rfl⟩, rfl, rfl⟩, fun _ => rfl, fun on => on⟩)
        (.inl rfl) (.inl rfl)
    exact .calm flagged
  | suspectDatabase =>
    cases st
    exact .calm (.of_conns rfl (fun _ => .refl) (.inl rfl) rfl (.inl rfl) rfl rfl)
  | declareFault | recover =>
    obtain ⟨_, ⟨⟩⟩ := ite_none_right_eq_some.mp st
    exact .calm setDatabaseFault_calm
  | register =>
    obtain ⟨enabled, ⟨⟩⟩ := ite_none_right_eq_some.mp st
    simp only [Bool.and_eq_true, decide_eq_true_eq, Bool.not_eq_true'] at enabled
    exact .registered enabled.1 enabled.2
  | serve =>
    obtain ⟨enabled, st⟩ := ite_none_left_eq_some.mp st
    simp only [Bool.or_eq_true, Bool.not_eq_true', not_or, Bool.not_eq_false,
      not_isSome_iff_eq_none] at enabled
    split at st
    · cases st
    · rename_i queue
      cases st
      exact serve_kind queue enabled.1.1 enabled.2
  | sendReply k =>
    simp only [step] at st
    split at st
    · cases st
    rename_i m reply
    obtain ⟨_, ⟨⟩⟩ := ite_none_left_eq_some.mp st
    refine .calm (.of_conn ⟨.refl, rfl, rfl, ?_, fun _ m => m⟩ (.inl rfl) (.inl rfl))
    unfold Conn.content
    rw [reply]
    have moved : ((s.conns k).down ++ [m]).Perm ([m] ++ (s.conns k).down) := perm_append_comm
    exact (moved.filter _).subperm
  | runIdentityJob =>
    obtain ⟨enabled, st⟩ := ite_none_left_eq_some.mp st
    simp only [Bool.or_eq_true, not_or, not_isSome_iff_eq_none] at enabled
    split at st
    · cases st
    · rename_i queue
      cases st
      exact acceptCacheCleared_kind queue enabled.1
    · rename_i queue
      exact confirmIdentity_kind queue enabled.1 st
  | hangUp k =>
    obtain ⟨_, ⟨⟩⟩ := ite_none_right_eq_some.mp st
    have ended : Calm nodeId s ((s.setConn k (s.conns k)).hangUp k) := .of_hangUp .refl
    rw [setConn_eq_self] at ended
    exact .calm ended
  | startPush | abandonPush =>
    obtain ⟨_, ⟨⟩⟩ := ite_none_left_eq_some.mp st
    exact .calm (.of_conns rfl (fun _ => .refl) (.inl rfl) rfl (.inl rfl) rfl rfl)
  | push =>
    obtain ⟨enabled, ⟨⟩⟩ := ite_none_left_eq_some.mp st
    simp only [Bool.or_eq_true, not_or, not_isSome_iff_eq_none] at enabled
    exact push_kind enabled.1
  | enqueue =>
    obtain ⟨_, held, rfl⟩ := map_eq_some_iff.mp st
    exact enqueue_kind held
  | connect =>
    obtain ⟨free, ⟨⟩⟩ := ite_none_left_eq_some.mp st
    exact .dialed (not_isSome_iff_eq_none.mp free)
  | receive =>
    simp only [step] at st
    split at st
    · cases st
    rename_i r link
    obtain ⟨receiving, st⟩ := ite_none_left_eq_some.mp st
    split at st
    · cases st
    · rename_i queue
      cases st
      exact receive_kind link (by simpa using receiving) queue
  | takeJob =>
    simp only [step] at st
    split at st
    · cases st
    rename_i r link
    split at st
    · rename_i worker slot
      obtain ⟨_, ⟨⟩⟩ := ite_none_left_eq_some.mp st
      exact .taken link worker slot
    · cases st
  | runJob =>
    simp only [step] at st
    split at st
    · cases st
    rename_i r link
    split at st
    · rename_i worker
      cases st
      exact runJob_kind link worker
    · cases st
  | reportProgress =>
    simp only [step] at st
    split at st
    · cases st
    rename_i r link
    split at st
    · cases st
      exact .calm (.of_conn (within_sendUp _ .refl rfl) (.inl rfl) (.inl rfl))
    · cases st
      exact .calm (.of_conn (within_sendUp _ .refl rfl) (.inl rfl) (.inl rfl))
    · cases st
  | reportJob =>
    simp only [step] at st
    split at st
    · cases st
    rename_i r link
    split at st
    · rename_i worker
      cases st
      exact .reported link worker
    · cases st
  | beat =>
    simp only [step] at st
    split at st
    · cases st
    rename_i r link
    obtain ⟨_, ⟨⟩⟩ := ite_none_left_eq_some.mp st
    exact .calm (.of_conn (within_sendUp _ .refl rfl) (.inl rfl) (.inl rfl))
  | fence | cancel =>
    simp only [step] at st
    split at st
    · cases st
    rename_i r link
    obtain ⟨_, ⟨⟩⟩ := ite_none_left_eq_some.mp st
    exact .calm (.of_edge (.of_calmer link rfl rfl rfl
      ⟨rfl, rfl, rfl, fun on => ⟨on, rfl, rfl, rfl, rfl, rfl⟩⟩))
  | leave =>
    simp only [step] at st
    split at st
    · cases st
    split at st
    · cases st
    · obtain ⟨_, ⟨⟩⟩ := ite_none_right_eq_some.mp st
      exact .left
  | discardCache =>
    obtain ⟨free, ⟨⟩⟩ := ite_none_left_eq_some.mp st
    exact .discarded (not_isSome_iff_eq_none.mp free)
  | checkHealth | probe =>
    cases st
    exact .calm (.of_edge (.of_link rfl rfl rfl))
  | loseUp =>
    cases st
    exact .calm (.of_conn (within_drop (tail_sublist _).subset) (.inl rfl) (.inl rfl))
  | loseDown =>
    cases st
    refine .calm (.of_conn ⟨.refl, rfl, rfl, ?_, fun _ m => m⟩ (.inl rfl) (.inl rfl))
    unfold Conn.content
    refine (List.Sublist.filter _ ?_).subperm
    exact (List.Sublist.refl _).append (tail_sublist _)

end State

end MeowFrp.Cluster
