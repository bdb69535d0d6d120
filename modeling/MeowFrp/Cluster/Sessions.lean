import MeowFrp.Cluster.Steps

/-!
# What the controller's sessions and the streams hold

The invariants that tie the sessions of the controller, its prepared page and the messages under way to
the log of the system: a session whose cache is ready was reset by the edge, its pending page was enqueued,
a fragment on a stream is a slice of an enqueued payload, and a message of the edge reports what the edge
has committed. They hold for every stream the edge has ever opened, superseded or not.
-/

namespace MeowFrp.Cluster

open Lib Db List Store

/-- No transaction lowers the revision. -/
lemma DbStep.revision {nodeId : String} {db db' : Db.Store} (st : DbStep nodeId db db') :
    db.revision ≤ db'.revision := by
  cases st with
  | identity e =>
    obtain ⟨_, _, rfl | ⟨rfl, _⟩, keeps, _⟩ := execIdentity_records e
    · rw [← keeps.revision]
      exact Nat.le_succ _
    · exact keeps.revision.ge
  | bans op => cases op <;> exact le_rfl
  | next => exact Nat.le_succ _
  | @other _ op _ _ e =>
    cases op with
    | reset =>
      cases e
      exact le_rfl
    | prepare =>
      obtain ⟨_, rfl⟩ := prepare_eq_some e
      exact le_rfl
    | confirm =>
      obtain ⟨_, same⟩ := confirm_eq_some e
      rw [same]

namespace State

variable {Byte : Type} {codec : Codec Byte} {nodeId : String} {s s' : State Byte}

/-! ## The log and the revisions -/

/-- The log only grows. -/
lemma Kind.log (kind : Kind codec nodeId s s') : s.log ⊆ s'.log := by
  cases kind with
  | calm calm =>
    obtain ⟨_, e, _⟩ := calm.log
    rw [e]
    exact subset_append_right _ _
  | enqueued | recorded | welcomed | resetDone | appliedDone => exact subset_cons_self _ _
  | _ => exact fun _ m => m

/-- What is noted says nothing about transfers. -/
lemma Calm.mem_log {ev : Event Byte} (calm : Calm nodeId s s') (fact : ev.note = false) :
    ev ∈ s'.log ↔ ev ∈ s.log := by
  obtain ⟨_, e, note⟩ := calm.log
  rw [e, mem_append]
  refine or_iff_right fun m => ?_
  rw [note ev m] at fact
  cases fact

/-- The revision of the database never falls. -/
lemma Kind.revision (kind : Kind codec nodeId s s') : s.db.revision ≤ s'.db.revision := by
  cases kind with
  | calm calm =>
    rcases calm.db with same | ⟨_, st⟩
    · rw [same]
    · exact st.revision
  | prepared _ _ _ _ _ _ prepare =>
    obtain ⟨_, rfl⟩ := prepare_eq_some prepare
    exact Nat.le_succ _
  | recorded _ _ _ _ _ _ _ confirm =>
    obtain ⟨_, e⟩ := confirm_eq_some confirm
    rw [e]
  | _ => exact le_rfl

/-! ## Sessions -/

/-- A session of the controller, as far as the log knows. -/
structure SessionOk (codec : Codec Byte) (log : List (Event Byte)) (k : Nat) (c : Conn Byte) : Prop where
  registered : ∀ e, c.session.cacheSessionId = some e → c.registered = true
  drawn : ∀ e, c.session.cacheSessionId = some e → e.stream = k ∧ e.seq + 1 = c.drawn
  blank : c.session.cacheSessionId = none →
    c.drawn = 0 ∧ c.session.cacheReady = false ∧ c.session.pendingIdentity = none
  ready : ∀ e, c.session.cacheSessionId = some e → c.session.cacheReady = true → .reset e ∈ log
  pending : ∀ snapshot, c.session.pendingIdentity = some snapshot →
    ∃ e, c.session.cacheSessionId = some e ∧ c.session.cacheReady = true ∧
      .enqueued e snapshot.revision c.session.pendingPayload ∈ log
  payload : ∀ snapshot, c.session.pendingIdentity = some snapshot →
    codec.decode c.session.pendingPayload = some snapshot ∧
      snapshot.revision = c.session.pendingRevision ∧
      c.session.appliedRevision < c.session.pendingRevision ∧
      c.session.chunkTotal = chunkCount identityChunkBytes c.session.pendingPayload ∧
      c.session.chunkIndex ≤ c.session.chunkTotal
  idle : c.session.pendingIdentity = none → c.session.pendingRevision ≤ c.session.appliedRevision
  acked : ∀ e, c.session.cacheSessionId = some e → c.session.cacheReady = true →
    c.session.appliedRevision ≠ 0 → ∃ b, .applied e c.session.appliedRevision b ∈ log

variable {log log' : List (Event Byte)} {k : Nat} {c c' : Conn Byte}

/-- A session that differs in flags only, in a longer log. -/
lemma SessionOk.mono (ok : SessionOk codec log k c) (grows : log ⊆ log')
    (same : c.session.SameTransfer c'.session) (drawn : c'.drawn = c.drawn)
    (registered : c.registered = true → c'.registered = true) : SessionOk codec log' k c' := by
  constructor
  · rw [same.cacheSessionId]
    exact fun e id => registered (ok.registered e id)
  · rw [same.cacheSessionId, drawn]
    exact ok.drawn
  · rw [same.cacheSessionId, same.cacheReady, same.pendingIdentity, drawn]
    exact ok.blank
  · rw [same.cacheSessionId, same.cacheReady]
    exact fun e id ready => grows (ok.ready e id ready)
  · rw [same.cacheSessionId, same.cacheReady, same.pendingIdentity, same.pendingPayload]
    intro snapshot pending
    obtain ⟨e, id, ready, enqueued⟩ := ok.pending snapshot pending
    exact ⟨e, id, ready, grows enqueued⟩
  · rw [same.pendingIdentity, same.pendingPayload, same.pendingRevision, same.appliedRevision,
      same.chunkTotal, same.chunkIndex]
    exact ok.payload
  · rw [same.pendingIdentity, same.pendingRevision, same.appliedRevision]
    exact ok.idle
  · rw [same.cacheSessionId, same.cacheReady, same.appliedRevision]
    intro e id ready some
    obtain ⟨b, applied⟩ := ok.acked e id ready some
    exact ⟨b, grows applied⟩

/-- A stream that is not registered has no session id yet. -/
lemma SessionOk.unregistered (ok : SessionOk codec log k c) (new : c.registered = false) :
    c.session.cacheSessionId = none := by
  cases id : c.session.cacheSessionId with
  | none => rfl
  | some e => cases new.symm.trans (ok.registered e id)

/-- While nothing is pending, no page waits for an acknowledgement. -/
lemma SessionOk.nothing (ok : SessionOk codec log k c)
    (idle : c.session.pendingRevision ≤ c.session.appliedRevision) : c.session.pendingIdentity = none := by
  cases pending : c.session.pendingIdentity with
  | none => rfl
  | some snapshot =>
    have behind := (ok.payload snapshot pending).2.2.1
    omega

/-- A session for which a new epoch may be drawn waits for nothing. -/
lemma SessionOk.quiet (ok : SessionOk codec log k c) {held : Prop}
    (free : c.session.cacheSessionId = none ∨
      held ∧ c.session.pendingRevision ≤ c.session.appliedRevision) :
    c.session.pendingIdentity = none ∧ c.session.pendingRevision ≤ c.session.appliedRevision := by
  rcases free with none | ⟨_, idle⟩
  · have nothing := (ok.blank none).2.2
    exact ⟨nothing, ok.idle nothing⟩
  · exact ⟨ok.nothing idle, idle⟩

/-- The cache of a new epoch is not ready. -/
lemma SessionOk.unready (ok : SessionOk codec log k c) {ready : Bool}
    (unready : ready = true → c.session.cacheSessionId = none ∧ c.session.cacheReady = true) :
    ready = false := by
  cases ready with
  | false => rfl
  | true =>
    obtain ⟨none, was⟩ := unready rfl
    rw [(ok.blank none).2.1] at was
    cases was

/-! ## What the operations do to a session -/

/-- A session whose epoch was drawn just now. -/
lemma SessionOk.of_drawn {epoch : CacheSessionId} (id : c.session.cacheSessionId = some epoch)
    (drawn : epoch.stream = k ∧ epoch.seq + 1 = c.drawn) (registered : c.registered = true)
    (nothing : c.session.pendingIdentity = none) (idle : c.session.pendingRevision ≤ c.session.appliedRevision)
    (unready : c.session.cacheReady = false) : SessionOk codec log k c := by
  constructor
  · exact fun _ _ => registered
  · intro e same
    cases id.symm.trans same
    exact drawn
  · intro none
    cases id.symm.trans none
  · intro e _ ready
    cases unready.symm.trans ready
  · intro snapshot pending
    cases nothing.symm.trans pending
  · intro snapshot pending
    cases nothing.symm.trans pending
  · exact fun _ => idle
  · intro e _ ready
    cases unready.symm.trans ready

/-- A page is enqueued. -/
lemma SessionOk.start {epoch snapshot payload flag} (ok : SessionOk codec log k c)
    (id : c.session.cacheSessionId = some epoch) (ready : c.session.cacheReady = true)
    (newer : c.session.appliedRevision < snapshot.revision) (decode : codec.decode payload = some snapshot)
    (session : c'.session = { c.session.startTransfer snapshot payload with needsBlockedIps := flag })
    (drawn : c'.drawn = c.drawn) (registered : c'.registered = c.registered) :
    SessionOk codec (.enqueued epoch snapshot.revision payload :: log) k c' := by
  constructor
  · rw [session, registered]
    exact ok.registered
  · rw [session, drawn]
    exact ok.drawn
  · rw [session]
    intro none
    cases id.symm.trans none
  · rw [session]
    exact fun e id ready => mem_cons_of_mem _ (ok.ready e id ready)
  · rw [session]
    rintro _ ⟨⟩
    exact ⟨epoch, id, ready, mem_cons_self⟩
  · rw [session]
    rintro _ ⟨⟩
    exact ⟨decode, rfl, newer, rfl, Nat.zero_le _⟩
  · rw [session]
    nofun
  · rw [session]
    intro e id ready some
    obtain ⟨b, applied⟩ := ok.acked e id ready some
    exact ⟨b, mem_cons_of_mem _ applied⟩

/-- A fragment is acknowledged. -/
lemma SessionOk.advance (ok : SessionOk codec log k c) (below : c.session.chunkIndex < c.session.chunkTotal)
    (session : c'.session = { c.session with chunkIndex := c.session.chunkIndex + 1 })
    (drawn : c'.drawn = c.drawn) (registered : c'.registered = c.registered) : SessionOk codec log k c' := by
  constructor
  · rw [session, registered]
    exact ok.registered
  · rw [session, drawn]
    exact ok.drawn
  · rw [session, drawn]
    exact ok.blank
  · rw [session]
    exact ok.ready
  · rw [session]
    exact ok.pending
  · rw [session]
    intro snapshot same
    obtain ⟨decode, revision, newer, total, _⟩ := ok.payload snapshot same
    exact ⟨decode, revision, newer, total, below⟩
  · rw [session]
    exact ok.idle
  · rw [session]
    exact ok.acked

/-- The controller has heard that the cache is empty. -/
lemma SessionOk.clear {epoch} (ok : SessionOk codec log k c) (id : c.session.cacheSessionId = some epoch)
    (entered : .reset epoch ∈ log) (session : c'.session = c.session.cacheCleared) (drawn : c'.drawn = c.drawn)
    (registered : c'.registered = c.registered) : SessionOk codec log k c' := by
  constructor
  · rw [session, registered]
    exact ok.registered
  · rw [session, drawn]
    exact ok.drawn
  · rw [session]
    intro none
    cases id.symm.trans none
  · rw [session]
    intro e same _
    cases id.symm.trans same
    exact entered
  · rw [session]
    nofun
  · rw [session]
    nofun
  · rw [session]
    exact fun _ => le_rfl
  · rw [session]
    exact fun _ _ _ some => absurd rfl some

/-- The acknowledgement of the pending page is worked off. -/
lemma SessionOk.confirm {epoch snapshot} (ok : SessionOk codec log k c)
    (id : c.session.cacheSessionId = some epoch) (pending : c.session.pendingIdentity = some snapshot)
    (applied : ∃ b, .applied epoch snapshot.revision b ∈ log)
    (session : c'.session = c.session.confirmed snapshot) (drawn : c'.drawn = c.drawn)
    (registered : c'.registered = c.registered) : SessionOk codec log k c' := by
  constructor
  · rw [session, registered]
    exact ok.registered
  · rw [session, drawn]
    exact ok.drawn
  · rw [session]
    intro none
    cases id.symm.trans none
  · rw [session]
    exact ok.ready
  · rw [session]
    nofun
  · rw [session]
    nofun
  · rw [session]
    exact fun _ => (ok.payload snapshot pending).2.1.ge
  · rw [session]
    intro e same _ _
    cases id.symm.trans same
    exact applied

/-! ## Pages and messages -/

/-- A page of a baseline or an update; the last page replaces the bans. -/
structure Paged (snapshot : IdentitySnapshot) : Prop where
  kind : snapshot.baseline = true ∨ snapshot.incremental = true
  bans : snapshot.completes = true → snapshot.replaceBlockedIps = true

/-- What a prepared page knows about its session. -/
structure HeldOk (codec : Codec Byte) (s : State Byte) (p : Prepared Byte) : Prop where
  id : (s.conns p.stream).session.cacheSessionId = some p.epoch
  ready : (s.conns p.stream).session.cacheReady = true
  idle : (s.conns p.stream).session.pendingIdentity = none
  applied : (s.conns p.stream).session.appliedRevision < p.snapshot.revision
  payload : p.payload = codec.encode p.snapshot
  revision : p.snapshot.revision = s.db.revision
  paged : Paged p.snapshot
  newest : ∀ e r b, .enqueued e r b ∈ s.log → r < p.snapshot.revision

/-- What is under way on a stream. -/
structure WireOk (log : List (Event Byte)) (k : Nat) (c : Conn Byte) : Prop where
  welcome : ∀ e f, .welcome e f ∈ c.content → e.stream = k ∧ e.seq < c.drawn
  chunk : ∀ e r q i t d, .identityChunk e r q i t d ∈ c.content → ∃ b, .enqueued e r b ∈ log ∧
    t = chunkCount identityChunkBytes b ∧ d = chunk identityChunkBytes b i ∧ (i < t ∨ t = 0)
  cleared : ∀ e, .cacheCleared e ∈ c.inbound → .reset e ∈ log
  ack : ∀ e r, .identityAck e r ∈ c.inbound → ∃ b, .applied e r b ∈ log

/-- More messages to the edge. -/
lemma WireOk.extend (ms : List (DownMsg Byte)) (ok : WireOk log k c) (grows : log ⊆ log')
    (content : c'.content <+~ ms ++ c.content) (inbound : c'.inbound ⊆ c.inbound)
    (drawn : c.drawn ≤ c'.drawn)
    (welcome : ∀ e f, .welcome e f ∈ ms → e.stream = k ∧ e.seq < c'.drawn)
    (chunk : ∀ e r q i t d, .identityChunk e r q i t d ∈ ms → ∃ b, .enqueued e r b ∈ log' ∧
      t = chunkCount identityChunkBytes b ∧ d = Lib.chunk identityChunkBytes b i ∧ (i < t ∨ t = 0)) :
    WireOk log' k c' := by
  constructor
  · intro e f mem
    rcases mem_append.mp (content.subset mem) with new | old
    · exact welcome e f new
    · obtain ⟨stream, seq⟩ := ok.welcome e f old
      exact ⟨stream, Nat.lt_of_lt_of_le seq drawn⟩
  · intro e r q i t d mem
    rcases mem_append.mp (content.subset mem) with new | old
    · exact chunk e r q i t d new
    · obtain ⟨b, sent, rest⟩ := ok.chunk e r q i t d old
      exact ⟨b, grows sent, rest⟩
  · exact fun e m => grows (ok.cleared e (inbound m))
  · intro e r m
    obtain ⟨b, applied⟩ := ok.ack e r (inbound m)
    exact ⟨b, grows applied⟩

/-- No more messages. -/
lemma WireOk.mono (ok : WireOk log k c) (grows : log ⊆ log') (content : c'.content <+~ c.content)
    (inbound : c'.inbound ⊆ c.inbound) (drawn : c.drawn ≤ c'.drawn) : WireOk log' k c' :=
  ok.extend [] grows content inbound drawn nofun nofun

/-- The worker of the edge reports only what it has committed. -/
def Reports (log : List (Event Byte)) : Worker Byte → Prop
  | .committed (.cacheReset e) => .reset e ∈ log
  | .committed (.identitySnapshot e r b) => .applied e r b ∈ log
  | _ => True

/-- The report of the worker is sent. -/
lemma WireOk.report {job : ApplyJob Byte} (ok : WireOk log k c) (committed : Reports log (.committed job)) :
    WireOk log k { c with up := c.up ++ [EdgeClient.report job] } := by
  refine ⟨ok.welcome, ok.chunk, fun e m => ?_, fun e rev m => ?_⟩
  · unfold Conn.inbound at m
    rw [filterMap_append, ← append_assoc, mem_append] at m
    rcases m with before | new
    · exact ok.cleared e before
    · cases job with
      | cacheReset =>
        cases mem_singleton.mp new
        exact committed
      | identitySnapshot => cases mem_singleton.mp new
  · unfold Conn.inbound at m
    rw [filterMap_append, ← append_assoc, mem_append] at m
    rcases m with before | new
    · exact ok.ack e rev before
    · cases job with
      | cacheReset => cases mem_singleton.mp new
      | identitySnapshot _ _ payload =>
        cases mem_singleton.mp new
        exact ⟨payload, committed⟩

/-- The invariants of this module. -/
structure Sent (codec : Codec Byte) (s : State Byte) : Prop where
  session : ∀ k, SessionOk codec s.log k (s.conns k)
  wire : ∀ k, WireOk s.log k (s.conns k)
  held : ∀ p, s.held = some p → HeldOk codec s p
  enqueued : ∀ e r b, .enqueued e r b ∈ s.log → r ≤ s.db.revision ∧
    ∃ snapshot, b = codec.encode snapshot ∧ snapshot.revision = r ∧ Paged snapshot
  opened : ∀ e r b, .enqueued e r b ∈ s.log → .reset e ∈ s.log
  applied : ∀ k, (s.conns k).session.appliedRevision ≤ s.db.revision
  reports : ∀ r, s.edge.link = some r → Reports s.log r.worker

/-- The current stream was current before. -/
lemma current_of_same {current : Option Nat} (now : current = s.current ∨ current = none)
    (here : current = some k) : s.current = some k := by
  rcases now with same | none
  · exact same.symm.trans here
  · cases none.symm.trans here

/-! ## Each step keeps them -/

/-- The sessions stay in order. -/
lemma Sent.session_step (inv : Sent codec s) (kind : Kind codec nodeId s s') :
    ∀ k, SessionOk codec s'.log k (s'.conns k) := by
  have rest : ∀ k, SessionOk codec s'.log k (s.conns k) := fun k => (inv.session k).mono kind.log .refl rfl id
  have grows := kind.log
  cases kind with
  | calm calm =>
    intro k
    have within := calm.conns k
    exact (inv.session k).mono grows within.session.toSameTransfer within.drawn within.registered.trans
  | @registered k => exact forall_setConn rest ((rest k).mono (fun _ m => m) .refl rfl fun _ => rfl)
  | @drew k c _ known free session unready drawn registered =>
    obtain ⟨nothing, idle⟩ := (inv.session k).quiet free
    have id : c.session.cacheSessionId = some (s.nextId k) := by rw [session]
    refine forall_setConn rest (.of_drawn id ⟨rfl, drawn.symm⟩ ?_ ?_ ?_ ((inv.session k).unready unready))
    · rw [registered]
      rcases known with here | some
      · exact here
      · obtain ⟨e, id⟩ := Option.isSome_iff_exists.mp some
        exact (rest k).registered e id
    · rw [session]
      exact nothing
    · rw [session]
      exact idle
  | @prepared k => exact forall_setConn rest ((rest k).mono (fun _ m => m)
      ⟨⟨rfl, rfl, rfl, rfl, rfl, rfl, rfl, rfl⟩, rfl, rfl⟩ rfl fun on => on)
  | @enqueued p _ held _ session _ drawn registered =>
    have ok := inv.held p held
    refine forall_setConn rest ((inv.session p.stream).start ok.id ok.ready ok.applied ?_ session drawn registered)
    rw [ok.payload]
    exact codec.decode_encode _
  | @advanced k _ _ _ _ _ below session drawn registered =>
    exact forall_setConn rest ((rest k).advance below session drawn registered)
  | @cleared k epoch _ job _ _ id _ session drawn registered =>
    exact forall_setConn rest ((rest k).clear id ((inv.wire k).cleared epoch job) session drawn registered)
  | @recorded k epoch revision _ _ _ _ job _ _ id _ pending same _ session drawn registered =>
    obtain ⟨b, applied⟩ := (inv.wire k).ack epoch revision job
    subst same
    exact forall_setConn rest ((rest k).confirm id pending ⟨b, grows applied⟩ session drawn registered)
  | dialed | reported => exact forall_setConn rest ((rest _).mono (fun _ m => m) .refl rfl fun on => on)
  | welcomed _ _ _ within | collected _ _ _ _ _ within =>
    exact forall_setConn rest ((rest _).mono (fun _ m => m) within.session.toSameTransfer within.drawn
      within.registered.trans)
  | _ => exact rest

/-- The fragment to send is a slice of the pending page. -/
lemma currentChunk_ok {σ : NodeSession Byte} {e epoch : CacheSessionId} {r q i t : Nat} {d b : List Byte}
    (sent : .enqueued epoch σ.pendingRevision b ∈ log) (payload : σ.pendingPayload = b)
    (total : σ.chunkTotal = chunkCount identityChunkBytes b)
    (below : σ.chunkIndex < σ.chunkTotal ∨ σ.chunkTotal = 0)
    (same : .identityChunk e r q i t d = σ.currentChunk epoch) :
    ∃ b, .enqueued e r b ∈ log ∧ t = chunkCount identityChunkBytes b ∧
      d = chunk identityChunkBytes b i ∧ (i < t ∨ t = 0) := by
  subst payload
  cases same
  exact ⟨_, sent, total, rfl, below⟩

/-- So do the messages under way. -/
lemma Sent.wire_step (inv : Sent codec s) (kind : Kind codec nodeId s s') :
    ∀ k, WireOk s'.log k (s'.conns k) := by
  have rest : ∀ k, WireOk s'.log k (s.conns k) := fun k =>
    (inv.wire k).mono kind.log (.refl _) (fun _ m => m) le_rfl
  have grows := kind.log
  cases kind with
  | calm calm =>
    intro k
    exact (inv.wire k).mono grows (calm.conns k).content (calm.conns k).inbound (calm.conns k).drawn.ge
  | @registered k | @prepared k =>
    exact forall_setConn rest ((rest k).mono (fun _ m => m) (.refl _) (fun _ m => m) le_rfl)
  | @drew k c _ _ _ _ _ drawn _ content inbound =>
    have more : (s.conns k).drawn ≤ c.drawn := drawn.ge.trans' (Nat.le_succ _)
    refine forall_setConn rest
      ((rest k).extend [_] (fun _ m => m) content inbound more (fun e f m => ?_) fun e r q i t d m => ?_)
    · cases mem_singleton.mp m
      exact ⟨rfl, drawn ▸ Nat.lt_succ_self _⟩
    · cases mem_singleton.mp m
  | @enqueued p _ _ _ session _ drawn _ content inbound =>
    refine forall_setConn rest ((rest _).extend [_] (fun _ m => m) content (inbound ▸ fun _ m => m) drawn.ge
      (fun e f m => ?_) fun e r q i t d m => ?_)
    · cases mem_singleton.mp m
    · refine currentChunk_ok (b := p.payload) ?_ ?_ ?_ ?_ (mem_singleton.mp m)
      · rw [session]
        exact mem_cons_self
      · rw [session]
        rfl
      · rw [session]
        rfl
      · rw [session]
        exact (Nat.eq_zero_or_pos _).symm
  | @advanced k _ _ _ id pending _ session drawn _ content inbound =>
    rcases content with fewer | ⟨more, content⟩
    · exact forall_setConn rest ((rest k).mono (fun _ m => m) fewer inbound drawn.ge)
    refine forall_setConn rest ((rest k).extend [_] (fun _ m => m) content inbound drawn.ge
      (fun e f m => ?_) fun e r q i t d m => ?_)
    · cases mem_singleton.mp m
    · obtain ⟨snapshot, pending⟩ := Option.isSome_iff_exists.mp pending
      obtain ⟨_, id', _, sent⟩ := (inv.session k).pending snapshot pending
      obtain ⟨_, revision, _, total, _⟩ := (inv.session k).payload snapshot pending
      cases id.symm.trans id'
      refine currentChunk_ok (b := (s.conns k).session.pendingPayload) ?_ ?_ ?_ (.inl more)
        (mem_singleton.mp m)
      · rw [session]
        exact revision ▸ sent
      · rw [session]
      · rw [session]
        exact total
  | @cleared k _ _ _ _ _ _ _ _ drawn _ content inbound =>
    exact forall_setConn rest ((rest k).mono (fun _ m => m) (content ▸ .refl _) inbound drawn.ge)
  | @recorded k _ _ _ _ _ _ _ _ _ _ _ _ _ _ _ drawn _ content inbound =>
    refine forall_setConn rest ((rest k).extend [_] (fun _ m => m) content inbound drawn.ge
      (fun e f m => ?_) fun e r q i t d m => ?_)
    · cases mem_singleton.mp m
    · cases mem_singleton.mp m
  | @dialed admissionProtocol =>
    have within : (s.conns s.streams).Within _ := within_sendUp [.hello admissionProtocol] .refl rfl
    exact forall_setConn rest ((rest _).mono (fun _ m => m) within.content within.inbound le_rfl)
  | welcomed _ _ _ within | collected _ _ _ _ _ within =>
    exact forall_setConn rest
      ((rest _).mono (fun _ m => m) within.content within.inbound within.drawn.ge)
  | @reported r _ link worker =>
    have committed := inv.reports r link
    rw [worker] at committed
    exact forall_setConn rest ((rest r.stream).report committed)
  | _ => exact rest

/-- A prepared page survives what does not disturb its session. -/
lemma HeldOk.mono {p : Prepared Byte} (ok : HeldOk codec s p) (db : s'.db = s.db)
    (same : (s.conns p.stream).session.SameTransfer (s'.conns p.stream).session)
    (log : ∀ e r b, .enqueued e r b ∈ s'.log → .enqueued e r b ∈ s.log) : HeldOk codec s' p :=
  { id := same.cacheSessionId.trans ok.id
    ready := same.cacheReady.trans ok.ready
    idle := same.pendingIdentity.trans ok.idle
    applied := same.appliedRevision ▸ ok.applied
    payload := ok.payload
    revision := db ▸ ok.revision
    paged := ok.paged
    newest := fun e r b m => ok.newest e r b (log e r b m) }

lemma setConn_same {p : Prepared Byte} {k : Nat} {c : Conn Byte}
    (same : k = p.stream → (s.conns p.stream).session.SameTransfer c.session) :
    (s.conns p.stream).session.SameTransfer ((s.setConn k c).conns p.stream).session := by
  by_cases here : p.stream = k
  · rw [← here, setConn_self]
    exact same here.symm
  · rw [setConn_other here]
    exact .refl

/-- A push carries the revision it has drawn. -/
lemma Pushed.paged {db : Db.Store} {σ : NodeSession Byte} {blocked snapshot}
    (pushed : Pushed nodeId db σ blocked snapshot) :
    snapshot.revision = db.revision + 1 ∧ Paged snapshot := by
  cases pushed with
  | blockedIps =>
    unfold NodeSession.blockedIpSnapshot
    split <;> exact ⟨rfl, .inr rfl, nofun⟩
  | @page _ _ page =>
    refine ⟨rfl, ?_, ?_⟩
    · change σ.baselineActive = true ∨ (!σ.baselineActive) = true
      cases σ.baselineActive
      · exact .inr rfl
      · exact .inl rfl
    · change (!!σ.baselineActive && (!σ.baselineActive || σ.baselineActive && page.isEnd)) = true →
        (σ.baselineActive && page.isEnd) = true
      cases σ.baselineActive
      · nofun
      · exact id

/-- So does the prepared page. -/
lemma Sent.held_step (inv : Sent codec s) (kind : Kind codec nodeId s s') :
    ∀ p, s'.held = some p → HeldOk codec s' p := by
  intro p held
  cases kind with
  | calm calm =>
    rcases calm.held with same | ⟨none, _⟩
    · rw [same] at held
      refine (inv.held p held).mono ?_ (calm.conns _).session.toSameTransfer
        fun e r b => (calm.mem_log rfl).mp
      rcases calm.db with same | ⟨free, _⟩
      · exact same
      · cases free.symm.trans held
    · cases none.symm.trans held
  | registered | dialed | reported =>
    exact (inv.held p held).mono rfl (setConn_same fun here => here ▸ .refl) fun _ _ _ m => m
  | @drew _ _ _ _ free =>
    refine (inv.held p held).mono rfl (setConn_same fun here => ?_) fun _ _ _ m => m
    rcases free with none | ⟨free, _⟩
    · rw [here] at none
      cases none.symm.trans (inv.held p held).id
    · cases free.symm.trans held
  | @prepared k _ _ _ _ _ _ _ id ready idle _ pushed prepare =>
    cases held
    obtain ⟨_, rfl⟩ := prepare_eq_some prepare
    obtain ⟨revision, paged⟩ := pushed.paged
    refine ⟨?_, ?_, ?_, ?_, rfl, revision, paged, fun e r b m => ?_⟩
    · exact (congrArg NodeSession.cacheSessionId setSession_session).trans id
    · exact (congrArg NodeSession.cacheReady setSession_session).trans ready
    · exact (congrArg NodeSession.pendingIdentity setSession_session).trans ((inv.session k).nothing idle)
    · refine (congrArg NodeSession.appliedRevision setSession_session).trans_lt ?_
      rw [revision]
      exact Nat.lt_succ_of_le (inv.applied k)
    · rw [revision]
      exact Nat.lt_succ_of_le (inv.enqueued e r b m).1
  | enqueued => cases held
  | @advanced _ _ _ _ _ pending =>
    refine (inv.held p held).mono rfl (setConn_same fun here => ?_) fun _ _ _ m => m
    rw [here, (inv.held p held).idle] at pending
    cases pending
  | cleared _ _ free | recorded _ _ free => cases free.symm.trans held
  | welcomed _ _ _ within =>
    refine (inv.held p held).mono rfl
      (setConn_same fun here => here ▸ within.session.toSameTransfer) fun _ _ _ m => ?_
    exact (mem_cons.mp m).resolve_left nofun
  | collected _ _ _ _ _ within =>
    exact (inv.held p held).mono rfl
      (setConn_same fun here => here ▸ within.session.toSameTransfer) fun _ _ _ m => m
  | resetDone | appliedDone =>
    exact (inv.held p held).mono rfl .refl fun _ _ _ m => (mem_cons.mp m).resolve_left nofun
  | _ => exact (inv.held p held).mono rfl .refl fun _ _ _ m => m

/-- Payloads encode pages. -/
lemma Sent.enqueued_step (inv : Sent codec s) (kind : Kind codec nodeId s s') :
    ∀ e r b, .enqueued e r b ∈ s'.log → r ≤ s'.db.revision ∧
      ∃ snapshot, b = codec.encode snapshot ∧ snapshot.revision = r ∧ Paged snapshot := by
  have older : ∀ e r b, .enqueued e r b ∈ s.log → r ≤ s'.db.revision ∧
      ∃ snapshot, b = codec.encode snapshot ∧ snapshot.revision = r ∧ Paged snapshot := fun e r b m =>
    ⟨(inv.enqueued e r b m).1.trans kind.revision, (inv.enqueued e r b m).2⟩
  intro e r b m
  cases kind with
  | calm calm => exact older e r b ((calm.mem_log rfl).mp m)
  | @enqueued p _ held =>
    rcases mem_cons.mp m with new | old
    · cases new
      have ok := inv.held p held
      exact ⟨ok.revision.le, p.snapshot, ok.payload, rfl, ok.paged⟩
    · exact older e r b old
  | recorded | welcomed | resetDone | appliedDone =>
    exact older e r b ((mem_cons.mp m).resolve_left nofun)
  | _ => exact older e r b m

/-- Pages are enqueued after the reset. -/
lemma Sent.opened_step (inv : Sent codec s) (kind : Kind codec nodeId s s') :
    ∀ e r b, .enqueued e r b ∈ s'.log → .reset e ∈ s'.log := by
  have older : ∀ e r b, .enqueued e r b ∈ s.log → .reset e ∈ s'.log := fun e r b m =>
    kind.log (inv.opened e r b m)
  intro e r b m
  cases kind with
  | calm calm => exact older e r b ((calm.mem_log rfl).mp m)
  | @enqueued p _ held =>
    rcases mem_cons.mp m with new | old
    · cases new
      have ok := inv.held p held
      exact mem_cons_of_mem _ ((inv.session p.stream).ready p.epoch ok.id ok.ready)
    · exact older e r b old
  | recorded | welcomed | resetDone | appliedDone =>
    exact older e r b ((mem_cons.mp m).resolve_left nofun)
  | _ => exact older e r b m

/-- Recorded revisions were drawn. -/
lemma Sent.applied_step (inv : Sent codec s) (kind : Kind codec nodeId s s') :
    ∀ k, (s'.conns k).session.appliedRevision ≤ s'.db.revision := by
  have older : ∀ k, (s.conns k).session.appliedRevision ≤ s'.db.revision := fun k =>
    (inv.applied k).trans kind.revision
  have put : ∀ k (c : Conn Byte), c.session.appliedRevision ≤ s'.db.revision →
      ∀ j, ((s.setConn k c).conns j).session.appliedRevision ≤ s'.db.revision := fun k c =>
    forall_setConn (Q := fun _ c => c.session.appliedRevision ≤ s'.db.revision) older
  cases kind with
  | calm calm => exact fun k => (calm.conns k).session.appliedRevision ▸ older k
  | registered | prepared | dialed | reported => exact put _ _ (older _)
  | drew _ _ session | enqueued _ _ session | advanced _ _ _ session =>
    refine put _ _ ?_
    rw [session]
    exact older _
  | cleared _ _ _ _ _ session =>
    refine put _ _ ?_
    rw [session]
    exact Nat.zero_le _
  | @recorded k _ _ snapshot _ _ _ _ _ _ _ _ pending _ confirm session =>
    refine put _ _ ?_
    obtain ⟨_, _, _, sent⟩ := (inv.session k).pending snapshot pending
    obtain ⟨_, e⟩ := Store.confirm_eq_some confirm
    rw [session, e]
    exact (inv.enqueued _ _ _ sent).1
  | welcomed _ _ _ within | collected _ _ _ _ _ within =>
    exact put _ _ (within.session.appliedRevision ▸ older _)
  | _ => exact older

lemma Reports.mono {log log' : List (Event Byte)} {w : Worker Byte} (ok : Reports log w)
    (grows : log ⊆ log') : Reports log' w := by
  cases w with
  | committed job =>
    cases job with
    | cacheReset | identitySnapshot => exact grows ok
  | _ => trivial

/-- The worker reports what it has done. -/
lemma Sent.reports_step (inv : Sent codec s) (kind : Kind codec nodeId s s') :
    ∀ r, s'.edge.link = some r → Reports s'.log r.worker := by
  have rest : ∀ r, s.edge.link = some r → Reports s'.log r.worker := fun r link =>
    (inv.reports r link).mono kind.log
  intro r' link'
  cases kind with
  | calm calm =>
    obtain ⟨r, link, same⟩ := calm.edge.linked link'
    rw [same.worker]
    exact rest r link
  | dialed | taken | workerFailed | reported =>
    cases link'
    trivial
  | welcomed link _ _ _ _ link₁ | collected link _ _ _ _ _ link₁ =>
    have old := rest _ link
    cases link₁.symm.trans link'
    exact old
  | resetDone | appliedDone =>
    cases link'
    exact mem_cons_self
  | left => cases link'
  | discarded free => cases free.symm.trans link'
  | _ => exact rest r' link'

/-- Each step keeps the invariants. -/
lemma Sent.step {a} (inv : Sent codec s) (st : State.step codec nodeId s a = some s') : Sent codec s' :=
  have kind : Kind codec nodeId s s' := step_kind st
  { session := inv.session_step kind
    wire := inv.wire_step kind
    held := inv.held_step kind
    enqueued := inv.enqueued_step kind
    opened := inv.opened_step kind
    applied := inv.applied_step kind
    reports := inv.reports_step kind }

/-- They hold before the edge connects for the first time. -/
lemma Sent.init (fresh : Fresh nodeId s) : Sent codec s := by
  constructor
  · intro k
    rw [fresh.conns]
    exact ⟨nofun, nofun, fun _ => ⟨rfl, rfl, rfl⟩, nofun, nofun, nofun, fun _ => le_rfl, nofun⟩
  · intro k
    rw [fresh.conns]
    exact ⟨nofun, nofun, nofun, nofun⟩
  · rw [fresh.held]
    nofun
  · rw [fresh.log]
    nofun
  · rw [fresh.log]
    nofun
  · intro k
    rw [fresh.conns]
    exact Nat.zero_le _
  · rw [fresh.link]
    nofun

end State

end MeowFrp.Cluster
