import MeowFrp.Cluster.Kind

/-!
# Inversion of the controller's steps

Each function of the controller's side is inverted once: the loop of `Connect`, the identity worker, and
the two sections of a push.
-/

namespace MeowFrp.Cluster

open List

variable {Byte : Type}

namespace State

variable {codec : Codec Byte} {nodeId : String} {s s' : State Byte} {k : Nat} {c c' : Conn Byte}

/-! ## The controller's loop -/

/-- Dropping messages of the edge. -/
lemma within_drop {up} (fewer : up ⊆ (s.conns k).up) : (s.conns k).Within { s.conns k with up } := by
  refine ⟨.refl, rfl, rfl, .refl _, fun job mem => ?_⟩
  rcases mem_append.mp mem with old | queued
  · exact mem_append_left _ old
  · exact mem_append_right _ (filterMap_subset _ fewer queued)

/-- Taking a message off the stream. -/
lemma within_pop {m up} (queue : (s.conns k).up = m :: up) :
    (s.conns k).Within { s.conns k with up } := by
  apply within_drop
  rw [queue]
  exact subset_cons_self m up

/-- Turning a message into a job. -/
lemma within_job {m up job} (queue : (s.conns k).up = m :: up) (same : m.job = some job) :
    (s.conns k).Within { s.conns k with up, jobs := (s.conns k).jobs ++ [job] } := by
  refine ⟨.refl, rfl, rfl, .refl _, ?_⟩
  unfold Conn.inbound
  rw [queue, filterMap_cons_some same]
  simp

variable {σ : NodeSession Byte}

/-- Progress changes a counter, an acknowledged fragment gives the next one. -/
lemma acceptIdentityProgress_inv {σ' : NodeSession Byte} {current progress epoch revision sequence chunk}
    (e : σ.acceptIdentityProgress current progress epoch revision sequence = .ok (σ', chunk)) :
    σ.SameCore σ' ∧ chunk = none ∨
    σ.cacheSessionId = some epoch ∧ σ.pendingIdentity.isSome = true ∧ σ.chunkIndex < σ.chunkTotal ∧
      σ' = { σ with chunkIndex := σ.chunkIndex + 1 } ∧
      chunk = if σ'.chunkIndex < σ'.chunkTotal then some (σ'.currentChunk epoch) else none := by
  unfold NodeSession.acceptIdentityProgress at e
  split at e
  · cases e
    exact .inl ⟨.refl, rfl⟩
  split at e
  · cases e
    exact .inl ⟨.refl, rfl⟩
  split at e
  · cases e
  rename_i known
  simp only [Bool.or_eq_true, Bool.not_eq_true', decide_eq_true_eq, not_or, Option.isNone_iff_eq_none,
    ne_eq, not_not] at known
  split at e
  · cases e
    exact .inl ⟨⟨⟨⟨rfl, rfl, rfl, rfl, rfl, rfl, rfl, rfl⟩, rfl, rfl⟩, id, id⟩, rfl⟩
  split at e
  · cases e
    exact .inl ⟨.refl, rfl⟩
  split at e
  · cases e
  rename_i expected
  simp only [Bool.or_eq_true, decide_eq_true_eq, not_or, Nat.not_le] at expected
  cases e
  exact .inr ⟨known.1.1.2.symm, Option.isSome_iff_ne_none.mpr known.1.2, expected.2, rfl, rfl⟩

/-- A fragment is acknowledged. -/
lemma progress_kind {full progress epoch revision sequence} (within : (s.conns k).Within c)
    (start : c.session = (s.conns k).session) :
    Kind codec nodeId s ((s.setConn k c).progress k full progress epoch revision sequence) := by
  unfold State.progress
  rw [setConn_self, start]
  split
  · exact .calm (.of_hangUp within)
  · rename_i σ e
    rw [setSession_setConn]
    obtain ⟨same, _⟩ | ⟨id, pending, below, moved, none⟩ := acceptIdentityProgress_inv e
    · exact .calm (.of_conn ⟨same, within.drawn, within.registered, within.content, within.inbound⟩
        (.inl rfl) (.inl rfl))
    · exact .advanced (c := { c with session := σ }) id pending below moved within.drawn
        within.registered (.inl within.content) within.inbound (.inl rfl)
  · rename_i σ chunk e
    obtain ⟨_, none⟩ | ⟨id, pending, below, moved, next⟩ := acceptIdentityProgress_inv e
    · cases none
    have more : σ.chunkIndex < σ.chunkTotal ∧ chunk = σ.currentChunk epoch := by
      split at next
      · exact ⟨‹_›, Option.some.inj next⟩
      · cases next
    rw [setSession_setConn]
    dsimp only
    split
    · rw [hangUp_setConn]
      exact .advanced (c := { c with session := σ, hungUp := true }) id pending below moved
        within.drawn within.registered (.inl within.content) within.inbound hangUp_current
    · rw [send_setConn, more.2]
      refine .advanced (c := { c with session := σ, down := c.down ++ [σ.currentChunk epoch] }) id pending
        below moved within.drawn within.registered (.inr ⟨more.1, ?_⟩) within.inbound (.inl rfl)
      refine (Conn.content_send _ _).trans ?_
      exact (subperm_cons _).mpr within.content

/-- A message of the edge is served. -/
lemma serve_kind {m up full} (queue : (s.conns k).up = m :: up)
    (registered : (s.conns k).registered = true) (free : (s.conns k).reply = none) :
    Kind codec nodeId s ((s.setConn k { s.conns k with up }).serve k full m) := by
  have within := within_pop queue
  unfold serve
  rw [setConn_self]
  dsimp only
  split
  case h_1 admissionProtocol id =>
    have next : (s.setConn k { s.conns k with up }).nextId k = s.nextId k := by
      unfold nextId
      rw [setConn_self]
    unfold acceptHello
    rw [setConn_self, setConn_setConn, next]
    refine .drew (.inl registered) (.inl id) ?_ ?_ ?_ ?_ ?_ ?_
    · rfl
    · exact fun ready => ⟨id, ready⟩
    · rfl
    · rfl
    · unfold Conn.content
      rw [free]
      exact .refl _
    · exact within.inbound
  · exact .calm (.of_hangUp within)
  · exact .calm (.of_conn within (.inl rfl) (.inl rfl))
  · rw [setConn_setConn]
    refine .calm (.of_conn ⟨.refl, rfl, rfl, ?_, within.inbound⟩ (.inl rfl) (.inl rfl))
    unfold Conn.content
    rw [free]
    exact .refl _
  · exact progress_kind within rfl
  · exact progress_kind within rfl
  · split
    · exact .calm (.of_conn within (.inl rfl) (.inl rfl))
    · rw [setConn_setConn]
      exact .calm (.of_conn (within_job queue rfl) (.inl rfl) (.inl rfl))
  · split
    · exact .calm (.of_conn within (.inl rfl) (.inl rfl))
    · rw [setConn_setConn]
      exact .calm (.of_conn (within_job queue rfl) (.inl rfl) (.inl rfl))

/-! ## Identity jobs -/

/-- Taking a job off the queue. -/
lemma within_take {job jobs} (queue : (s.conns k).jobs = job :: jobs) :
    (s.conns k).Within { s.conns k with jobs } := by
  refine ⟨.refl, rfl, rfl, .refl _, ?_⟩
  unfold Conn.inbound
  rw [queue]
  exact subset_cons_self _ _

lemma mem_inbound {job jobs} (queue : (s.conns k).jobs = job :: jobs) : job ∈ (s.conns k).inbound := by
  unfold Conn.inbound
  rw [queue]
  exact mem_cons_self

/-- A cleared cache is recorded. -/
lemma acceptCacheCleared_kind {epoch jobs} (queue : (s.conns k).jobs = .cacheCleared epoch :: jobs)
    (free : s.held = none) :
    Kind codec nodeId s ((s.setConn k { s.conns k with jobs }).acceptCacheCleared nodeId k epoch) := by
  have within := within_take queue
  unfold acceptCacheCleared
  rw [setConn_self]
  dsimp only
  split
  · exact .calm (.of_hangUp within)
  · exact .calm (.of_conn within (.inl rfl) (.inl rfl))
  · rename_i accepted
    unfold NodeSession.acceptsCacheCleared at accepted
    split at accepted
    · rename_i now
      simp only [Bool.and_eq_true, decide_eq_true_eq] at now
      have unready : (s.conns k).session.cacheReady = false := by simpa using accepted
      rw [setSession_setConn]
      refine .cleared (mem_inbound queue) now.1 free now.2.symm unready ?_ ?_ ?_ ?_ ?_
      · rfl
      · rfl
      · rfl
      · rfl
      · exact within.inbound
    · split at accepted <;> cases accepted

/-- The node of the current stream and epoch acknowledges the page that is pending. -/
lemma acknowledges_inv {current epoch revision snapshot}
    (e : σ.acknowledges current epoch revision = .ok (some snapshot)) :
    current = true ∧ σ.cacheSessionId = some epoch ∧ σ.appliedRevision < revision ∧
      σ.pendingIdentity = some snapshot ∧ snapshot.revision = revision := by
  unfold NodeSession.acknowledges at e
  split at e
  · cases e
  rename_i now
  split at e
  · cases e
  rename_i same
  split at e
  · cases e
  rename_i newer
  split at e
  · cases e
  rename_i snap pending
  split at e
  · cases e
  rename_i revision
  split at e
  · cases e
  cases e
  exact ⟨by simpa using now, (not_not.mp same).symm, Nat.lt_of_not_le newer, pending, not_not.mp revision⟩

/-- A page is recorded, or the job is dropped. -/
lemma confirmIdentity_kind {epoch revision jobs full}
    (queue : (s.conns k).jobs = .identityAck epoch revision :: jobs) (free : s.held = none)
    (e : (s.setConn k { s.conns k with jobs }).confirmIdentity nodeId k full epoch revision = some s') :
    Kind codec nodeId s s' := by
  have within := within_take queue
  unfold confirmIdentity at e
  rw [setConn_self] at e
  dsimp only at e
  split at e
  · cases e
    exact .calm (.of_hangUp within)
  · cases e
    exact .calm (.of_conn within (.inl rfl) (.inl rfl))
  · rename_i snapshot accepted
    obtain ⟨now, id, newer, pending, same⟩ := acknowledges_inv accepted
    obtain ⟨db, confirm, e⟩ := Option.bind_eq_some_iff.mp e
    have here : s.current = some k := of_decide_eq_true now
    rw [setSession_setConn] at e
    cases e
    -- the outbox and the log change together with the stream
    let s₁ : State Byte := { s with db, log := .recorded epoch revision :: s.log }
    let c : Conn Byte := { s.conns k with jobs, session := (s.conns k).session.confirmed snapshot }
    cases full with
    | true =>
      change Kind codec nodeId s ((s₁.setConn k c).hangUp k)
      rw [hangUp_setConn]
      exact .recorded (c := { c with hungUp := true }) (mem_inbound queue) here free id newer pending same
        confirm rfl rfl rfl (sublist_cons_self _ _).subperm within.inbound hangUp_current
    | false =>
      let answer : DownMsg Byte :=
        .identityConfirmed epoch revision (!snapshot.baseline || snapshot.baselineEnd)
      change Kind codec nodeId s ((s₁.setConn k c).send k answer)
      rw [send_setConn]
      exact .recorded (c := { c with down := c.down ++ [answer] }) (mem_inbound queue) here free id newer
        pending same confirm rfl rfl rfl (Conn.content_send _ _) within.inbound (.inl rfl)

/-! ## Pushes -/

/-- Only the flags and the cursor of a session change. -/
lemma within_flags (same : (s.conns k).session.SameCore σ) :
    (s.conns k).Within { s.conns k with session := σ } :=
  ⟨same, rfl, rfl, .refl _, fun _ m => m⟩

lemma setConn_eq_self : s.setConn k (s.conns k) = s := by
  unfold setConn
  rw [Function.update_eq_self]

lemma setSession_self : s.setSession k (s.conns k).session = s := setConn_eq_self

lemma setSession_session : ((s.setSession k σ).conns k).session = σ := by
  unfold setSession
  rw [setConn_self]

lemma setSession_setSession {σ' : NodeSession Byte} :
    (s.setSession k σ).setSession k σ' = s.setSession k σ' :=
  setSession_setConn

/-- A page is prepared. -/
lemma prepare_kind {epoch cursor waiting fails blocked snapshot} (current : s.current = some k)
    (id : (s.conns k).session.cacheSessionId = some epoch) (ready : (s.conns k).session.cacheReady = true)
    (idle : (s.conns k).session.pendingRevision ≤ (s.conns k).session.appliedRevision)
    (free : s.held = none) (pushed : Pushed nodeId s.db (s.conns k).session blocked snapshot) :
    Kind codec nodeId s
      (prepare codec nodeId
        ({ s with waiting }.setSession k { (s.conns k).session with pendingCursor := cursor }) k epoch
        fails blocked snapshot) := by
  have failed : Calm nodeId s
      { s.setSession k { (s.conns k).session with pendingCursor := cursor } with
        db := s.db.nextIdentityRevision, waiting } :=
    { db := .inr ⟨free, .next⟩
      conns := within_setConn (within_flags ⟨⟨⟨rfl, rfl, rfl, rfl, rfl, rfl, rfl, rfl⟩, rfl, rfl⟩, fun on => on,
        fun on => on⟩)
      current := .inl rfl
      streams := rfl
      held := .inl rfl
      edge := .of_link rfl rfl rfl
      log := ⟨[], rfl, nofun⟩
      bans := .inl rfl }
  unfold State.prepare
  dsimp only
  split
  · exact .calm failed
  split
  · exact .calm failed
  · rename_i db e
    rw [setSession_session, setSession_setSession]
    exact .prepared current id ready idle free pushed e

/-- What `pushNodeIdentity` decides on: nothing while a page is under way, a reset when a full synchronisation
is due, and after the reset a list of bans or a page. -/
lemma choosePush_inv {pending p} (e : σ.choosePush pending = p) :
    p = .nothing ∨ σ.pendingRevision ≤ σ.appliedRevision ∧ (p = .cacheReset ∨ σ.cacheReady = true ∧
      (p = .blockedIps ∧ σ.needsFull = false ∧ σ.baselineActive = false ∨
        ∃ users, p = .page users ∧ users.isNone = σ.baselineActive ∧
          (σ.baselineActive = false → σ.needsFull = false ∧ σ.needsBlockedIps = false))) := by
  unfold NodeSession.choosePush at e
  split at e
  · exact .inl e.symm
  rename_i free
  have idle : σ.pendingRevision ≤ σ.appliedRevision := by
    simp only [Bool.or_eq_true, decide_eq_true_eq, not_or, Nat.not_lt] at free
    exact free.2
  subst e
  by_cases none : pending = [] <;> cases ready : σ.cacheReady <;> cases full : σ.needsFull <;>
    cases active : σ.baselineActive <;> cases bans : σ.needsBlockedIps <;> simp [idle, none]

/-- A push prepares something, or does nothing. -/
lemma push_kind {waiting fails full} (free : s.held = none) :
    Kind codec nodeId s ({ s with waiting }.push codec nodeId fails full) := by
  have idle : Kind codec nodeId s { s with waiting } :=
    .calm (.of_conns rfl (fun _ => .refl) (.inl rfl) rfl (.inl rfl) rfl rfl)
  unfold State.push
  dsimp only
  split
  · exact idle
  rename_i k current
  split
  · exact idle
  rename_i epoch id
  have chosen := @choosePush_inv Byte (s.conns k).session (s.db.pendingNodeIdentityUsers nodeId epoch) _ rfl
  split
  · exact idle
  · rename_i reset
    rw [reset] at chosen
    obtain none | ⟨quiet, _⟩ := chosen
    · cases none
    have known : (s.conns k).registered = true ∨ (s.conns k).session.cacheSessionId.isSome = true := by
      rw [id]
      exact .inr rfl
    let c : Conn Byte := { s.conns k with
      session := (s.conns k).session.requestCacheReset (s.nextId k)
      drawn := (s.conns k).drawn + 1 }
    cases full with
    | true =>
      exact .drew (c := c) known (.inr ⟨free, quiet⟩) rfl nofun rfl rfl
        (sublist_cons_self _ _).subperm fun _ m => m
    | false =>
      change Kind codec nodeId s (({ s with waiting }.setConn k c).send k _)
      rw [send_setConn]
      exact .drew (c := { c with down := c.down ++ [.welcome (s.nextId k) s.databaseFault] }) known
        (.inr ⟨free, quiet⟩) rfl nofun rfl rfl (Conn.content_send _ _) fun _ m => m
  · rename_i bans
    rw [bans] at chosen
    obtain none | ⟨quiet, none | ⟨ready, ⟨_, plain, active⟩ | ⟨_, none, _⟩⟩⟩ := chosen
    · cases none
    · cases none
    · have same : { s with waiting } = { s with waiting }.setSession k
          { (s.conns k).session with pendingCursor := (s.conns k).session.pendingCursor } :=
        setSession_self.symm
      nth_rewrite 1 [same]
      exact prepare_kind current id ready quiet free (.blockedIps plain active)
    · cases none
  · rename_i users page
    rw [page] at chosen
    obtain none | ⟨quiet, none | ⟨ready, ⟨none, _⟩ | ⟨_, same, requested, plain⟩⟩⟩ := chosen
    · cases none
    · cases none
    · cases none
    cases same
    split
    · exact idle
    · rename_i read
      exact prepare_kind current id ready quiet free (.page requested plain read)

/-- A prepared page is enqueued, or given up. -/
lemma enqueue_kind {p full} (held : s.held = some p) : Kind codec nodeId s (s.enqueue p full) := by
  unfold State.enqueue
  dsimp only
  split
  · rename_i superseded
    refine .calm (.of_conn (within_flags ⟨⟨⟨rfl, rfl, rfl, rfl, rfl, rfl, rfl, rfl⟩, rfl, rfl⟩, fun on => on, ?_⟩)
      (.inl rfl) (.inr ⟨rfl, ?_⟩))
    · intro on
      exact (Bool.or_eq_true _ _).mpr (.inl on)
    · rintro _ same
      cases held.symm.trans same
      exact superseded
  rename_i now
  have current : s.current = some p.stream := not_not.mp now
  let σ := (s.conns p.stream).session.startTransfer p.snapshot p.payload
  cases full with
  | true =>
    refine .enqueued (c := { s.conns p.stream with
      session := { σ with needsBlockedIps := σ.needsBlockedIps || p.blocked } })
      held current rfl ?_ rfl rfl (sublist_cons_self _ _).subperm rfl
    intro on
    exact (Bool.or_eq_true _ _).mpr (.inl on)
  | false =>
    let s₁ : State Byte :=
      { s with held := none, log := .enqueued p.epoch p.snapshot.revision p.payload :: s.log }
    change Kind codec nodeId s ((s₁.setSession p.stream σ).send p.stream (σ.currentChunk p.epoch))
    unfold setSession
    rw [send_setConn]
    refine .enqueued (c := { s.conns p.stream with
      session := σ, down := (s.conns p.stream).down ++ [σ.currentChunk p.epoch] })
      held current rfl (fun on => on) rfl rfl ?_ rfl
    exact Conn.content_send { s.conns p.stream with session := σ } _

end State

end MeowFrp.Cluster
