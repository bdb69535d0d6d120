import MeowFrp.Cluster.Steps

/-!
# The order of the messages

The messages that wait on a stream in the order in which the edge will process them, as far as it notes
them: welcomes, confirmations and fault notices. `step_turn` inverts a step by what it adds to them. Most
steps add nothing (`Hushed`).
-/

namespace MeowFrp.Cluster

open List Option EdgeClient

variable {Byte : Type}

/-- What the edge notes when it processes the message. -/
def DownMsg.heard : DownMsg Byte → Option (Event Byte)
  | .welcome epoch _ => some (.welcomed epoch)
  | .identityConfirmed epoch revision syncComplete => some (.confirmed epoch revision syncComplete)
  | .controllerState fault => if fault then some .faultNotice else none
  | _ => none

/-- The message answers one of the edge. -/
def DownMsg.answers : DownMsg Byte → Bool
  | .welcome .. => true
  | .heartbeatAck _ => true
  | _ => false

/-- The events that are only noted. -/
def notes (log : List (Event Byte)) : List (Event Byte) := log.filter Event.note

variable {m : DownMsg Byte}

/-- What the edge notes of a message is a note. -/
lemma DownMsg.note_of_heard {ev} (heard : m.heard = some ev) : ev.note = true := by
  cases m with
  | welcome | identityConfirmed =>
    cases heard
    rfl
  | controllerState fault =>
    cases fault with
    | true =>
      cases heard
      rfl
    | false => cases heard
  | _ => cases heard

/-- Only a welcome is noted as one. -/
lemma DownMsg.heard_welcomed {e} (heard : m.heard = some (.welcomed e)) :
    ∃ fault, m = .welcome e fault := by
  cases m with
  | welcome _ fault =>
    cases heard
    exact ⟨fault, rfl⟩
  | controllerState fault => cases fault <;> cases heard
  | _ => cases heard

/-- Notes are kept. -/
lemma notes_heard {log : List (Event Byte)} :
    notes (m.heard.toList ++ log) = m.heard.toList ++ notes log := by
  unfold notes
  rw [filter_append]
  refine congrArg (· ++ _) (filter_eq_self.mpr fun ev mem => ?_)
  exact DownMsg.note_of_heard (mem_toList.mp mem)

namespace Conn

/-- What the edge will note of the messages on the stream. -/
def heard (c : Conn Byte) : List (Event Byte) := c.down.filterMap DownMsg.heard

variable {m : DownMsg Byte} {c : Conn Byte}

/-- The first message is noted first. -/
lemma filterMap_heard {down} :
    (m :: down).filterMap DownMsg.heard = m.heard.toList ++ down.filterMap DownMsg.heard := by
  rw [filterMap_cons]
  cases m.heard <;> rfl

/-- A message that is sent is heard last. -/
lemma heard_send :
    { c with down := c.down ++ [m] }.heard = c.heard ++ m.heard.toList := by
  unfold heard
  rw [filterMap_append, filterMap_heard]
  exact congrArg _ (append_nil _)

/-- A message that is received was to be heard first. -/
lemma heard_pop {m down} (queue : c.down = m :: down) :
    c.heard = m.heard.toList ++ { c with down }.heard := by
  unfold heard
  rw [queue]
  exact filterMap_heard

/-- The edge has nothing more to note, and a new reply is an answer. -/
structure Silent (c c' : Conn Byte) : Prop where
  heard : c'.heard = c.heard
  reply : ∀ m, c'.reply = some m → c.reply = some m ∨ m.answers = true ∧ c'.registered = true
  registered : c.registered = true → c'.registered = true

lemma Silent.refl : c.Silent c := ⟨rfl, fun _ => .inl, id⟩

lemma Silent.trans {c₁ c₂ : Conn Byte} (one : c.Silent c₁) (two : c₁.Silent c₂) : c.Silent c₂ := by
  refine ⟨two.heard.trans one.heard, fun m reply => ?_, fun on => two.registered (one.registered on)⟩
  rcases two.reply m reply with old | new
  · exact (one.reply m old).imp_right fun ⟨answers, on⟩ => ⟨answers, two.registered on⟩
  · exact .inr new

/-- A message that the edge does not note. -/
lemma Silent.of_send (unheard : m.heard = none) :
    c.Silent { c with down := c.down ++ [m] } := by
  refine ⟨?_, fun _ => .inl, id⟩
  rw [heard_send, unheard]
  exact append_nil _

end Conn

namespace EdgeClient

variable {c : EdgeClient Byte} {r : Receiver Byte}

/-- A notice that is news to the edge takes its readiness away. -/
lemma observeFault_ready {fault} (ready : (c.observeFault fault).syncReady = true) :
    c.syncReady = true ∧ (fault = true → c.controllerFault = true) := by
  unfold observeFault at ready
  dsimp only at ready
  split at ready
  · cases ready
  · rename_i old
    refine ⟨ready, fun on => ?_⟩
    simpa [on] using old

/-- A welcome ends the readiness. -/
lemma receiveWelcome_ready {epoch fault} : (c.receiveWelcome r epoch fault).syncReady = false := by
  unfold receiveWelcome queueApply
  dsimp only
  split <;> rfl

/-- A fragment does not make the edge ready. -/
lemma receiveChunk_ready {epoch revision sequence index total data}
    (ready : (c.receiveChunk r epoch revision sequence index total data).1.syncReady = true) :
    c.syncReady = true := by
  unfold receiveChunk at ready
  split at ready
  · exact ready
  split at ready
  · exact ready
  generalize first : (if index = 0 then { c with syncReady := false } else c) = c₁ at ready
  have start : c₁.syncReady = true → c.syncReady = true := by
    split at first
    · subst first
      nofun
    · subst first
      exact id
  generalize (if index = 0 then
    { r with chunkRevision := revision, chunkTotal := total, chunkIndex := 0 } else r) = r₁ at ready
  apply start
  dsimp only at ready
  split at ready
  · exact ready
  dsimp only at ready
  split at ready
  · unfold queueApply at ready
    dsimp only at ready
    split at ready <;> exact ready
  · exact ready

end EdgeClient

namespace State

/-- The notes of the edge once it has processed the messages on the stream. -/
def outlook (s : State Byte) (k : Nat) : List (Event Byte) := (s.conns k).heard.reverse ++ notes s.log

/-! ## What a step adds to the streams -/

/-- A fault is declared and no push is under way. -/
structure Stalled (s : State Byte) : Prop where
  suspect : s.databaseSuspect = true
  fault : s.databaseFault = true
  waiting : s.waiting = 0
  held : s.held = none

/-- What a step adds to what the edge will note. -/
inductive Turn (s : State Byte) : Action → State Byte → Prop
  | silent {a s'} (conns : ∀ k, (s.conns k).Silent (s'.conns k)) (log : notes s'.log = notes s.log)
      (unrecorded : s'.current = none ∨ ∀ e r, s'.log ≠ .recorded e r :: s.log)
      (stalled : s.Stalled → s'.Stalled) (ready : s'.edge.syncReady = true → s.edge.syncReady = true) :
      Turn s a s'
  | declared {full} (suspect : s.databaseSuspect = true) : Turn s (.declareFault full) (s.setDatabaseFault true full)
  | recovered {full} : Turn s (.recover full) (s.setDatabaseFault false full)
  | replied {k m} (reply : (s.conns k).reply = some m) :
      Turn s (.sendReply k)
        (s.setConn k { s.conns k with reply := none, down := (s.conns k).down ++ [m] })
  | confirmed {k jobs epoch snapshot db} (current : s.current = some k)
      (ack : .identityAck epoch snapshot.revision ∈ (s.conns k).inbound)
      (id : (s.conns k).session.cacheSessionId = some epoch)
      (pending : (s.conns k).session.pendingIdentity = some snapshot) :
      Turn s (.runIdentityJob k false)
        { s.setConn k { s.conns k with
            jobs
            session := (s.conns k).session.confirmed snapshot
            down := (s.conns k).down ++
              [.identityConfirmed epoch snapshot.revision (!snapshot.baseline || snapshot.baselineEnd)] } with
          db, log := .recorded epoch snapshot.revision :: s.log }
  | reset {k fails waiting} (current : s.current = some k) :
      Turn s (.push fails false)
        { s.setConn k { s.conns k with
            session := (s.conns k).session.requestCacheReset (s.nextId k)
            drawn := (s.conns k).drawn + 1
            down := (s.conns k).down ++ [.welcome (s.nextId k) s.databaseFault] } with waiting }
  | received {r m down} (link : s.edge.link = some r) (receiving : r.receiving = true)
      (queue : (s.conns r.stream).down = m :: down) :
      Turn s .receive ((s.setConn r.stream { s.conns r.stream with down }).receive r m)
  | lost {k} : Turn s (.loseDown k) (s.setConn k { s.conns k with down := (s.conns k).down.tail })

variable {codec : Codec Byte} {nodeId : String} {s s' : State Byte} {k : Nat} {c : Conn Byte}

/-! ## Steps that leave the edge nothing to note -/

/-- No stream has more to note, and the flags of the controller are the same. -/
structure Hushed (s s' : State Byte) : Prop where
  conns : ∀ k, (s.conns k).Silent (s'.conns k)
  log : s'.log = s.log
  waiting : s'.waiting = s.waiting
  held : s'.held = s.held
  suspect : s'.databaseSuspect = s.databaseSuspect
  fault : s'.databaseFault = s.databaseFault
  ready : s'.edge.syncReady = true → s.edge.syncReady = true

/-- Two hushed steps are one. -/
lemma Hushed.trans {s₁ s₂ : State Byte} (one : Hushed s s₁) (two : Hushed s₁ s₂) : Hushed s s₂ :=
  ⟨fun k => (one.conns k).trans (two.conns k), two.log.trans one.log, two.waiting.trans one.waiting,
    two.held.trans one.held, two.suspect.trans one.suspect, two.fault.trans one.fault,
    fun on => one.ready (two.ready on)⟩

/-- A silent change of one stream. -/
lemma silent_setConn (silent : (s.conns k).Silent c) (j : Nat) :
    (s.conns j).Silent ((s.setConn k c).conns j) :=
  forall_setConn (Q := fun j c => (s.conns j).Silent c) (fun _ => .refl) silent j

/-- A step on one silent stream. -/
lemma Hushed.of_conn {current db streams edge} (silent : (s.conns k).Silent c)
    (ready : edge.syncReady = true → s.edge.syncReady = true) :
    Hushed s { s.setConn k c with current, db, streams, edge } :=
  ⟨silent_setConn silent, rfl, rfl, rfl, rfl, rfl, ready⟩

/-- A step of the edge that does not make it ready. -/
lemma Hushed.of_edge {db edge} (ready : edge.syncReady = true → s.edge.syncReady = true) :
    Hushed s { s with db, edge } :=
  ⟨fun _ => .refl, rfl, rfl, rfl, rfl, rfl, ready⟩

lemma hangUp_hushed : Hushed s (s.hangUp k) := .of_conn ⟨rfl, fun _ => .inl, id⟩ id

lemma setSession_hushed {σ : NodeSession Byte} : Hushed s (s.setSession k σ) :=
  .of_conn ⟨rfl, fun _ => .inl, id⟩ id

lemma sendUp_hushed {ms} : Hushed s (s.sendUp k ms) := .of_conn ⟨rfl, fun _ => .inl, id⟩ id

/-- A message that is not noted. -/
lemma send_hushed {m : DownMsg Byte} (unheard : m.heard = none) : Hushed s (s.send k m) :=
  .of_conn (.of_send unheard) id

lemma onCurrent_hushed {db} {f : NodeSession Byte → NodeSession Byte} :
    Hushed s ({ s with db }.onCurrent f) := by
  unfold onCurrent
  split
  · exact .of_edge id
  · have stored : Hushed s { s with db } := .of_edge id
    exact stored.trans setSession_hushed

/-- Progress sends fragments only. -/
lemma progress_hushed {full progress epoch revision sequence} :
    Hushed s (s.progress k full progress epoch revision sequence) := by
  unfold State.progress
  split
  · exact hangUp_hushed
  · exact setSession_hushed
  · rename_i σ chunk e
    dsimp only
    split
    · exact setSession_hushed.trans hangUp_hushed
    · refine setSession_hushed.trans (send_hushed ?_)
      obtain ⟨_, none⟩ | ⟨_, _, _, _, next⟩ := acceptIdentityProgress_inv e
      · cases none
      · split at next <;> cases next
        rfl

/-- A message of the edge is served. -/
lemma serve_hushed {m full} (registered : (s.conns k).registered = true) :
    Hushed s (s.serve k full m) := by
  unfold serve
  dsimp only
  split
  · refine .of_conn ⟨rfl, fun m reply => .inr ⟨?_, registered⟩, id⟩ id
    cases reply
    rfl
  · exact hangUp_hushed
  · exact .of_edge id
  · refine .of_conn ⟨rfl, fun m reply => .inr ⟨?_, registered⟩, id⟩ id
    cases reply
    rfl
  · exact progress_hushed
  · exact progress_hushed
  · split
    · exact .of_edge id
    · exact .of_conn ⟨rfl, fun _ => .inl, id⟩ id
  · split
    · exact .of_edge id
    · exact .of_conn ⟨rfl, fun _ => .inl, id⟩ id

/-- A cleared cache sends nothing. -/
lemma acceptCacheCleared_hushed {epoch} : Hushed s (s.acceptCacheCleared nodeId k epoch) := by
  unfold acceptCacheCleared
  dsimp only
  split
  · exact hangUp_hushed
  · exact .of_edge id
  · exact .of_conn ⟨rfl, fun _ => .inl, id⟩ id

/-- A fault is declared or is over, and the current stream gets a message. -/
lemma setDatabaseFault_inv {fault full} :
    s.setDatabaseFault fault full =
        { s with databaseFault := fault, databaseSuspect := s.databaseSuspect && fault } ∧
      (s.current = none ∨ fault = true) ∨
    ∃ k, s.current = some k ∧ s.setDatabaseFault fault full =
      { s.setConn k { s.conns k with
          session := { (s.conns k).session with
            needsFull := (s.conns k).session.needsFull ||
              !fault && (s.databaseFault || !(s.conns k).session.cacheReady) }
          down := (s.conns k).down ++ if full then [] else [.controllerState fault] } with
        databaseFault := fault, databaseSuspect := s.databaseSuspect && fault } := by
  unfold setDatabaseFault
  dsimp only
  split
  · rename_i none
    exact .inl ⟨rfl, .inl none⟩
  rename_i k current
  split
  · rename_i old
    exact .inl ⟨rfl, .inr ((Bool.and_eq_true _ _).mp old).1⟩
  unfold setSession
  rw [send_setConn]
  refine .inr ⟨k, current, ?_⟩
  cases full with
  | true =>
    rw [if_pos rfl, if_pos rfl, append_nil]
    rfl
  | false => rfl

/-- A fault is not in the log before the edge hears of it. -/
lemma setDatabaseFault_log {fault full} : (s.setDatabaseFault fault full).log = s.log := by
  obtain ⟨same, _⟩ | ⟨_, _, same⟩ := @setDatabaseFault_inv Byte s fault full
  · rw [same]
  · rw [same]
    rfl

/-! ## Inversion -/

/-- A hushed step keeps the edge stalled. -/
lemma Hushed.stalled (hushed : Hushed s s') (stalled : s.Stalled) : s'.Stalled :=
  ⟨hushed.suspect.trans stalled.suspect, hushed.fault.trans stalled.fault,
    hushed.waiting.trans stalled.waiting, hushed.held.trans stalled.held⟩

/-- The log is the same, so nothing was recorded. -/
lemma unrecorded (log : s'.log = s.log) :
    s'.current = none ∨ ∀ e r, s'.log ≠ .recorded e r :: s.log := by
  refine .inr fun e r same => ?_
  rw [log] at same
  exact cons_ne_self _ _ same.symm

lemma Hushed.turn {a} (hushed : Hushed s s') : Turn s a s' :=
  .silent hushed.conns (by rw [hushed.log]) (unrecorded hushed.log) hushed.stalled hushed.ready

/-- A confirmation is sent, or nothing. -/
lemma confirmIdentity_turn {jobs full epoch revision}
    (queue : (s.conns k).jobs = .identityAck epoch revision :: jobs)
    (e : (s.setConn k { s.conns k with jobs }).confirmIdentity nodeId k full epoch revision = some s') :
    Turn s (.runIdentityJob k full) s' := by
  have popped : Hushed s (s.setConn k { s.conns k with jobs }) := .of_conn ⟨rfl, fun _ => .inl, id⟩ id
  unfold confirmIdentity at e
  rw [setConn_self] at e
  dsimp only at e
  split at e
  · cases e
    exact (popped.trans hangUp_hushed).turn
  · cases e
    exact popped.turn
  · rename_i snapshot accepted
    obtain ⟨now, id, _, pending, rfl⟩ := acknowledges_inv accepted
    obtain ⟨db, _, e⟩ := bind_eq_some_iff.mp e
    have current : s.current = some k := of_decide_eq_true now
    rw [setSession_setConn] at e
    cases e
    let s₁ : State Byte := { s with db, log := .recorded epoch snapshot.revision :: s.log }
    let c : Conn Byte := { s.conns k with jobs, session := (s.conns k).session.confirmed snapshot }
    cases full with
    | true =>
      -- the stream ends and nothing is sent
      change Turn s _ ((s₁.setConn k c).hangUp k)
      rw [hangUp_setConn]
      refine .silent (silent_setConn ⟨rfl, fun _ => .inl, fun on => on⟩) rfl (.inl ?_) ?_ fun on => on
      · exact if_pos current
      · exact fun stalled => ⟨stalled.suspect, stalled.fault, stalled.waiting, stalled.held⟩
    | false =>
      change Turn s _ ((s₁.setConn k c).send k _)
      rw [send_setConn]
      exact .confirmed current (mem_inbound queue) id pending

/-- A push is silent, or it asks for a reset. -/
lemma push_turn {waiting fails full} (busy : s.waiting ≠ 0) :
    Turn s (.push fails full) ({ s with waiting }.push codec nodeId fails full) := by
  -- nothing is stalled while a push is under way
  have silent : ∀ {s' : State Byte}, (∀ k, (s.conns k).Silent (s'.conns k)) → s'.log = s.log →
      s'.edge = s.edge → Turn s (.push fails full) s' := by
    intro s' conns log edge
    refine .silent conns (by rw [log]) (unrecorded log) (fun stalled => ?_) fun on => ?_
    · exact absurd stalled.waiting busy
    · rw [← edge]
      exact on
  have prepared : ∀ {s₁ : State Byte} {k epoch blocked snapshot}, (∀ k, (s.conns k).Silent (s₁.conns k)) →
      s₁.log = s.log → s₁.edge = s.edge →
      Turn s (.push fails full) (s₁.prepare codec nodeId k epoch fails blocked snapshot) := by
    intro s₁ k epoch blocked snapshot conns log edge
    unfold State.prepare
    dsimp only
    split
    · exact silent conns log edge
    split
    · exact silent conns log edge
    · exact silent (fun j => (conns j).trans (setSession_hushed.conns j)) log edge
  unfold State.push
  dsimp only
  split
  · exact silent (fun _ => .refl) rfl rfl
  rename_i k current
  split
  · exact silent (fun _ => .refl) rfl rfl
  split
  · exact silent (fun _ => .refl) rfl rfl
  · cases full with
    | true => exact silent (silent_setConn ⟨rfl, fun _ => .inl, id⟩) rfl rfl
    | false =>
      change Turn s _ (({ s with waiting }.setConn k _).send k _)
      rw [send_setConn]
      exact .reset current
  · exact prepared (fun _ => .refl) rfl rfl
  · split
    · exact silent (fun _ => .refl) rfl rfl
    · exact prepared setSession_hushed.conns rfl rfl

/-- Enqueueing sends a fragment. -/
lemma enqueue_turn {p full} (held : s.held = some p) : Turn s (.enqueue full) (s.enqueue p full) := by
  have stalled : ∀ {P : Prop}, s.Stalled → P := fun stalled => by cases stalled.held.symm.trans held
  unfold State.enqueue
  dsimp only
  split
  · exact .silent (silent_setConn ⟨rfl, fun _ => .inl, id⟩) rfl (unrecorded rfl) stalled id
  split
  · exact .silent (silent_setConn ⟨rfl, fun _ => .inl, id⟩) rfl (.inr nofun) stalled id
  · refine .silent (fun j => ?_) rfl (.inr nofun) stalled id
    exact (setSession_hushed.conns j).trans ((send_hushed rfl).conns j)

/-- A step that changes the edge and what it sends. -/
lemma sendUp_turn {a ms edge} (ready : edge.syncReady = true → s.edge.syncReady = true) :
    Turn s a { s.sendUp k ms with edge } :=
  Hushed.turn (.of_conn ⟨rfl, fun _ => .inl, id⟩ ready)

/-- The worker applies a page or clears the cache. -/
lemma runJob_turn {r now fails job} :
    Turn s (.runJob now fails)
      { s with
        edge := (s.edge.runJob codec r now fails job).1
        log := (s.edge.runJob codec r now fails job).2 ++ s.log } := by
  have events : ((s.edge.runJob codec r now fails job).2 = [] ∨
      ∃ ev, (s.edge.runJob codec r now fails job).2 = [ev] ∧ ev.note = false ∧
        ∀ e rev, ev ≠ .recorded e rev) ∧
      ((s.edge.runJob codec r now fails job).1.syncReady = true → s.edge.syncReady = true) := by
    unfold EdgeClient.runJob
    cases job with
    | cacheReset =>
      dsimp only
      split
      · exact ⟨.inl rfl, id⟩
      · exact ⟨.inr ⟨_, rfl, rfl, nofun⟩, id⟩
    | identitySnapshot =>
      dsimp only
      split
      · exact ⟨.inl rfl, id⟩
      split
      · exact ⟨.inl rfl, id⟩
      split
      · exact ⟨.inl rfl, id⟩
      · exact ⟨.inr ⟨_, rfl, rfl, nofun⟩, id⟩
  obtain ⟨none | ⟨_, one, plain, other⟩, ready⟩ := events
  · rw [none]
    exact Hushed.turn (.of_edge ready)
  · rw [one]
    refine .silent (fun _ => .refl) ?_ (.inr fun e rev same => ?_) (fun stalled => ?_) ready
    · exact filter_cons_of_neg (by rw [plain]; exact Bool.false_ne_true)
    · exact absurd (List.cons.inj same).1 (other e rev)
    · exact ⟨stalled.suspect, stalled.fault, stalled.waiting, stalled.held⟩

/-- The inversion of a step by what it leaves the edge to note. -/
theorem step_turn {a} (st : step codec nodeId s a = some s') : Turn s a s' := by
  cases a with
  | mutate | otherNode =>
    obtain ⟨_, st⟩ := ite_none_left_eq_some.mp st
    obtain ⟨db, _, rfl⟩ := map_eq_some_iff.mp st
    exact Hushed.turn (.of_edge id)
  | ban =>
    obtain ⟨_, ⟨⟩⟩ := ite_none_left_eq_some.mp st
    exact onCurrent_hushed.turn
  | nextRevision | discardCache =>
    obtain ⟨_, ⟨⟩⟩ := ite_none_left_eq_some.mp st
    exact Hushed.turn (.of_edge id)
  | scheduleIdentityPush =>
    cases st
    have hushed : Hushed s ({ s with db := s.db }.onCurrent fun σ => { σ with needsFull := true }) :=
      onCurrent_hushed
    exact hushed.turn
  | suspectDatabase =>
    cases st
    exact .silent (fun _ => .refl) rfl (unrecorded rfl)
      (fun stalled => ⟨rfl, stalled.fault, stalled.waiting, stalled.held⟩) id
  | declareFault =>
    obtain ⟨enabled, ⟨⟩⟩ := ite_none_right_eq_some.mp st
    exact .declared ((Bool.and_eq_true _ _).mp enabled).1
  | recover =>
    obtain ⟨_, ⟨⟩⟩ := ite_none_right_eq_some.mp st
    exact .recovered
  | register =>
    obtain ⟨_, ⟨⟩⟩ := ite_none_right_eq_some.mp st
    exact Hushed.turn (.of_conn ⟨rfl, fun _ => .inl, fun _ => rfl⟩ id)
  | serve k =>
    obtain ⟨enabled, st⟩ := ite_none_left_eq_some.mp st
    simp only [Bool.or_eq_true, Bool.not_eq_true', not_or, Bool.not_eq_false] at enabled
    split at st
    · cases st
    · rename_i m up queue
      cases st
      have popped : Hushed s (s.setConn k { s.conns k with up }) := .of_conn ⟨rfl, fun _ => .inl, id⟩ id
      refine (popped.trans (serve_hushed ?_)).turn
      rw [setConn_self]
      exact enabled.1.1
  | sendReply =>
    simp only [step] at st
    split at st
    · cases st
    rename_i m reply
    obtain ⟨_, ⟨⟩⟩ := ite_none_left_eq_some.mp st
    exact .replied reply
  | runIdentityJob k =>
    obtain ⟨_, st⟩ := ite_none_left_eq_some.mp st
    split at st
    · cases st
    · rename_i epoch jobs queue
      cases st
      have popped : Hushed s (s.setConn k { s.conns k with jobs }) := .of_conn ⟨rfl, fun _ => .inl, id⟩ id
      exact (popped.trans acceptCacheCleared_hushed).turn
    · rename_i queue
      exact confirmIdentity_turn queue st
  | hangUp =>
    obtain ⟨_, ⟨⟩⟩ := ite_none_right_eq_some.mp st
    exact hangUp_hushed.turn
  | startPush =>
    obtain ⟨free, ⟨⟩⟩ := ite_none_left_eq_some.mp st
    exact .silent (fun _ => .refl) rfl (unrecorded rfl) (fun stalled => absurd stalled.suspect free) id
  | abandonPush =>
    obtain ⟨busy, ⟨⟩⟩ := ite_none_left_eq_some.mp st
    exact .silent (fun _ => .refl) rfl (unrecorded rfl) (fun stalled => absurd stalled.waiting busy) id
  | push =>
    obtain ⟨enabled, ⟨⟩⟩ := ite_none_left_eq_some.mp st
    simp only [Bool.or_eq_true, decide_eq_true_eq, not_or] at enabled
    exact push_turn enabled.2
  | enqueue =>
    obtain ⟨_, held, rfl⟩ := map_eq_some_iff.mp st
    exact enqueue_turn held
  | connect =>
    obtain ⟨_, ⟨⟩⟩ := ite_none_left_eq_some.mp st
    exact Hushed.turn (.of_conn ⟨rfl, fun _ => .inl, id⟩ id)
  | receive =>
    simp only [step] at st
    split at st
    · cases st
    rename_i r link
    obtain ⟨receiving, st⟩ := ite_none_left_eq_some.mp st
    split at st
    · cases st
    · rename_i queue
      cases st
      exact .received link (by simpa using receiving) queue
  | takeJob =>
    simp only [step] at st
    split at st
    · cases st
    split at st
    · obtain ⟨_, ⟨⟩⟩ := ite_none_left_eq_some.mp st
      exact Hushed.turn (.of_edge id)
    · cases st
  | runJob =>
    simp only [step] at st
    split at st
    · cases st
    split at st
    · cases st
      exact runJob_turn
    · cases st
  | reportProgress =>
    simp only [step] at st
    split at st
    · cases st
    split at st
    · cases st
      exact sendUp_hushed.turn
    · cases st
      exact sendUp_hushed.turn
    · cases st
  | reportJob =>
    simp only [step] at st
    split at st
    · cases st
    split at st
    · cases st
      exact sendUp_turn id
    · cases st
  | beat =>
    simp only [step] at st
    split at st
    · cases st
    obtain ⟨_, ⟨⟩⟩ := ite_none_left_eq_some.mp st
    exact sendUp_hushed.turn
  | fence =>
    simp only [step] at st
    split at st
    · cases st
    obtain ⟨_, ⟨⟩⟩ := ite_none_left_eq_some.mp st
    refine Hushed.turn (.of_edge ?_)
    rintro ⟨⟩
  | cancel =>
    simp only [step] at st
    split at st
    · cases st
    obtain ⟨_, ⟨⟩⟩ := ite_none_left_eq_some.mp st
    exact Hushed.turn (.of_edge id)
  | leave =>
    simp only [step] at st
    split at st
    · cases st
    split at st
    · cases st
    · obtain ⟨_, ⟨⟩⟩ := ite_none_right_eq_some.mp st
      refine Hushed.turn (.of_edge ?_)
      rintro ⟨⟩
  | checkHealth | probe =>
    cases st
    exact Hushed.turn (.of_edge id)
  | loseUp =>
    cases st
    exact Hushed.turn (.of_conn ⟨rfl, fun _ => .inl, id⟩ id)
  | loseDown =>
    cases st
    exact .lost

/-! ## Messages that are processed -/

/-- A message is noted, or the receive loop has returned. -/
lemma receive_log {r m down} :
    ((s.setConn r.stream { s.conns r.stream with down }).receive r m).log = m.heard.toList ++ s.log ∨
      ((s.setConn r.stream { s.conns r.stream with down }).receive r m).log = s.log ∧
        ∀ r', ((s.setConn r.stream { s.conns r.stream with down }).receive r m).edge.link = some r' →
          r'.receiving = false := by
  cases m with
  | identityConfirmed =>
    unfold State.receive EdgeClient.receive EdgeClient.receiveConfirmed
    dsimp only
    split
    · refine .inr ⟨rfl, ?_⟩
      rintro _ ⟨⟩
      rfl
    · exact .inl rfl
  | controllerState fault => cases fault <;> exact .inl rfl
  | _ => exact .inl rfl

/-- Receiving a message changes one stream. -/
lemma receive_conns {r m down} : ∃ up,
    ((s.setConn r.stream { s.conns r.stream with down }).receive r m).conns =
      (s.setConn r.stream { s.conns r.stream with down, up }).conns := by
  refine ⟨(s.conns r.stream).up ++ (s.edge.receive r m).2.1, ?_⟩
  unfold State.receive
  dsimp only
  rw [sendUp_setConn]
  rfl

/-- The notes of a log are its events that are notes. -/
lemma mem_notes {log : List (Event Byte)} {ev} (note : ev.note = true) : ev ∈ notes log ↔ ev ∈ log := by
  unfold notes
  rw [mem_filter]
  exact and_iff_left note

/-- Only a message that is processed is noted or makes the edge ready. -/
lemma Turn.unnoted {a} (turn : Turn s a s') :
    notes s'.log = notes s.log ∧ (s'.edge.syncReady = true → s.edge.syncReady = true) ∨
      ∃ r m down, a = .receive ∧ s.edge.link = some r ∧ r.receiving = true ∧
        (s.conns r.stream).down = m :: down ∧
        s' = (s.setConn r.stream { s.conns r.stream with down }).receive r m := by
  have faulty : ∀ {fault full}, notes (s.setDatabaseFault fault full).log = notes s.log ∧
      ((s.setDatabaseFault fault full).edge.syncReady = true → s.edge.syncReady = true) := by
    intro fault full
    obtain ⟨same, _⟩ | ⟨_, _, same⟩ := @setDatabaseFault_inv Byte s fault full
    · rw [same]
      exact ⟨rfl, id⟩
    · rw [same]
      exact ⟨rfl, id⟩
  cases turn with
  | silent _ log _ _ ready => exact .inl ⟨log, ready⟩
  | declared | recovered => exact .inl faulty
  | received link receiving queue => exact .inr ⟨_, _, _, rfl, link, receiving, queue, rfl⟩
  | _ => exact .inl ⟨rfl, id⟩

/-- An event is noted when the edge processes a message. -/
lemma Turn.mem_log {a ev} (turn : Turn s a s') (note : ev.note = true) (mem : ev ∈ s'.log) :
    ev ∈ s.log ∨ ∃ r m down, s.edge.link = some r ∧ (s.conns r.stream).down = m :: down ∧
      m.heard = some ev ∧ s' = (s.setConn r.stream { s.conns r.stream with down }).receive r m := by
  obtain ⟨log, _⟩ | ⟨_, _, _, _, link, _, queue, rfl⟩ := turn.unnoted
  · rw [← mem_notes note, log, mem_notes note] at mem
    exact .inl mem
  · rcases receive_log with log | ⟨log, _⟩
    · rw [log, mem_append, mem_toList] at mem
      exact mem.symm.imp_right fun heard => ⟨_, _, _, link, queue, heard, rfl⟩
    · rw [log] at mem
      exact .inl mem

/-- A confirmation makes the edge ready, a notice does the opposite. -/
lemma receive_ready {r m down}
    (ready : ((s.setConn r.stream { s.conns r.stream with down }).receive r m).edge.syncReady = true) :
    (∃ e revision, m = .identityConfirmed e revision true ∧
      ((s.setConn r.stream { s.conns r.stream with down }).receive r m).log =
        .confirmed e revision true :: s.log) ∨
    s.edge.syncReady = true ∧ (m = .controllerState true → s.edge.controllerFault = true) := by
  cases m with
  | welcome => cases receiveWelcome_ready.symm.trans ready
  | identityChunk => exact .inr ⟨receiveChunk_ready ready, nofun⟩
  | identityConfirmed epoch revision complete =>
    unfold State.receive EdgeClient.receive EdgeClient.receiveConfirmed at ready ⊢
    dsimp only at ready ⊢
    split at ready
    · exact .inr ⟨ready, nofun⟩
    · rename_i matched
      rw [if_neg matched]
      cases complete with
      | true => exact .inl ⟨epoch, revision, rfl, rfl⟩
      | false => cases ready
  | heartbeatAck => exact .inr ⟨(observeFault_ready ready).1, nofun⟩
  | controllerState =>
    obtain ⟨was, old⟩ := observeFault_ready ready
    refine .inr ⟨was, ?_⟩
    rintro ⟨⟩
    exact old rfl

end State

end MeowFrp.Cluster
