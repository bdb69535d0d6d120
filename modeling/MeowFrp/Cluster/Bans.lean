import MeowFrp.Cluster.Settled

/-!
# Blocked addresses reach the edge without drift

The controller remembers, per session, the blocked addresses that the edge has confirmed, and sends what
has changed since. Two invariants carry the argument. While the edge's store is in the epoch of a session,
its list is the remembered one, or what the pending page makes of it once the page was applied
(`EdgeList`). And for the session in `sessions`, the list of the database is the remembered one, or what
the page under way makes of it, unless a flag is up that makes the controller send it (`Tracks`).
-/

namespace MeowFrp.Cluster

open Lib Db Table List Option

variable {Byte : Type}

/-! ## What a snapshot does to a list -/

namespace NodeSession

variable {σ : NodeSession Byte} {blocked blocked' : Table BlockedIp} {snapshot : IdentitySnapshot}
  {db : Db.Store} {baseline : Bool}

lemma confirmBlockedIps_same (same : blocked.Same blocked') :
    (confirmBlockedIps blocked snapshot).Same (confirmBlockedIps blocked' snapshot) := by
  unfold confirmBlockedIps
  split
  · exact .refl
  · exact same.foldl_put.delete

/-- A snapshot without blocked addresses. -/
lemma confirmBlockedIps_nothing (keep : snapshot.replaceBlockedIps = false) (add : snapshot.blockedIps = [])
    (remove : snapshot.removedBlockedIps = []) : (confirmBlockedIps blocked snapshot).Same blocked := by
  intro b
  unfold confirmBlockedIps
  rw [keep, add, remove, mem_delete]
  exact and_iff_left rfl

variable {rows : Table BlockedIp} {revision : Nat}

/-- A snapshot with all blocked addresses. -/
lemma confirmBlockedIps_all (replace : snapshot.replaceBlockedIps = true)
    (add : snapshot.blockedIps = rows.rows) (remove : snapshot.removedBlockedIps = []) :
    (confirmBlockedIps blocked snapshot).Same rows := by
  intro b
  unfold confirmBlockedIps
  rw [if_pos replace, add, remove, mem_delete, mem_foldl_put_iff rows.unique]
  simp [not_mem_empty, mem_rows]

/-- A snapshot of changes: what it adds, and what it leaves. -/
lemma mem_confirmBlockedIps {b : BlockedIp} (keep : snapshot.replaceBlockedIps = false)
    (apart : snapshot.blockedIps.Pairwise fun a b => ¬ Schema.clash a b) :
    b ∈ confirmBlockedIps blocked snapshot ↔
      (b ∈ snapshot.blockedIps ∨ b ∈ blocked ∧ ∀ v ∈ snapshot.blockedIps, b.ip ≠ v.ip) ∧
        b.ip ∉ snapshot.removedBlockedIps := by
  unfold confirmBlockedIps
  rw [keep, mem_delete, if_neg Bool.false_ne_true, mem_foldl_put_iff apart,
    contains_eq_mem, decide_eq_false_iff_not]
  rfl

/-- The message has the row, or the session remembers it as it is. -/
lemma mem_blockedIpSnapshot {b : BlockedIp} (m : b ∈ rows)
    (delta : 1 ≤ σ.admissionProtocol) :
    b ∈ (σ.blockedIpSnapshot rows.rows revision).blockedIps ↔ b ∉ σ.blockedIps := by
  unfold blockedIpSnapshot
  rw [if_neg (Nat.not_lt.mpr delta), mem_filter]
  have key : ∀ x y : BlockedIp, decide (x.ip = b.ip) = true → decide (y.ip = b.ip) = true →
      Schema.clash x y := fun x y hx hy => (of_decide_eq_true hx).trans (of_decide_eq_true hy).symm
  refine (and_iff_right m).trans ?_
  cases found : σ.blockedIps.find? fun x => decide (x.ip = b.ip) with
  | none =>
    refine iff_of_true rfl fun stored => ?_
    exact absurd (decide_eq_true rfl) (ne_true_of_eq_false (find?_none.mp found b stored))
  | some old =>
    obtain ⟨stored, same⟩ := (find?_eq_some key).mp found
    constructor
    · intro changed m'
      cases eq_of_clash stored m' (of_decide_eq_true same)
      simp at changed
    · intro absent
      by_contra unchanged
      simp only [Bool.or_eq_true, decide_eq_true_eq, not_or, not_not] at unchanged
      -- an unchanged row is the remembered one
      obtain ⟨reason, createdAt⟩ := unchanged
      refine absent ?_
      cases old
      cases b
      cases of_decide_eq_true same
      cases reason
      cases createdAt
      exact stored

/-- The message about the bans turns the remembered list into that of the database. -/
lemma confirm_blockedIpSnapshot :
    (confirmBlockedIps σ.blockedIps (σ.blockedIpSnapshot rows.rows revision)).Same rows := by
  rcases Nat.lt_or_ge σ.admissionProtocol 1 with old | delta
  · apply confirmBlockedIps_all <;> rw [blockedIpSnapshot, if_pos old]
  have shape : σ.blockedIpSnapshot rows.rows revision =
      { revision
        incremental := true
        blockedIps := (σ.blockedIpSnapshot rows.rows revision).blockedIps
        removedBlockedIps := (σ.blockedIps.rows.map BlockedIp.ip).filter fun ip =>
          !rows.rows.any (·.ip = ip) } := by
    unfold blockedIpSnapshot
    rw [if_neg (Nat.not_lt.mpr delta)]
  have sub : (σ.blockedIpSnapshot rows.rows revision).blockedIps.Sublist rows.rows := by
    unfold blockedIpSnapshot
    rw [if_neg (Nat.not_lt.mpr delta)]
    exact filter_sublist
  have keep : (σ.blockedIpSnapshot rows.rows revision).replaceBlockedIps = false := by rw [shape]
  -- what is removed is remembered and no longer stored
  have removed : ∀ ip, ip ∈ (σ.blockedIpSnapshot rows.rows revision).removedBlockedIps ↔
      (∃ b ∈ σ.blockedIps, b.ip = ip) ∧ ∀ v ∈ rows, v.ip ≠ ip := by
    intro ip
    rw [shape]
    simp [mem_filter, mem_rows]
  intro b
  rw [mem_confirmBlockedIps keep (rows.unique.sublist sub), removed]
  constructor
  · rintro ⟨new | ⟨old, untouched⟩, kept⟩
    · exact sub.subset new
    · -- the address is still blocked, and its row is not in the message
      push Not at kept
      obtain ⟨v, m, same⟩ := kept ⟨b, old, rfl⟩
      have unsent : v ∉ (σ.blockedIpSnapshot rows.rows revision).blockedIps :=
        fun sent => untouched v sent same.symm
      rw [mem_blockedIpSnapshot m delta, not_not] at unsent
      cases eq_of_clash unsent old same
      exact m
  · intro m
    refine ⟨?_, fun gone => gone.2 b m rfl⟩
    by_cases sent : b ∈ (σ.blockedIpSnapshot rows.rows revision).blockedIps
    · exact .inl sent
    · refine .inr ⟨?_, fun v sent' same => ?_⟩
      · rw [mem_blockedIpSnapshot m delta, not_not] at sent
        exact sent
      · cases eq_of_clash (sub.subset sent') m same.symm
        exact sent sent'

/-- A page that does not complete a baseline leaves the list alone. -/
lemma confirm_page {page : NodeIdentityPage} (more : (baseline && page.isEnd) = false) :
    (confirmBlockedIps blocked (db.pageSnapshot baseline page revision)).Same blocked := by
  apply confirmBlockedIps_nothing
  · exact more
  · exact (congrArg (fun b : Bool => if b then _ else _) more).trans (if_neg Bool.false_ne_true)
  · rfl

/-- The last page of a baseline brings the list of the database. -/
lemma confirm_lastPage {page : NodeIdentityPage} (ended : (baseline && page.isEnd) = true) :
    (confirmBlockedIps blocked (db.pageSnapshot baseline page revision)).Same db.blockedIps := by
  apply confirmBlockedIps_all
  · exact ended
  · exact (congrArg (fun b : Bool => if b then _ else _) ended).trans (if_pos rfl)
  · rfl

/-- The edge makes of its list what the controller makes of its own. -/
lemma blockedAfter_eq {store : Edge.Store} (paged : State.Paged snapshot) :
    store.blockedAfter snapshot = confirmBlockedIps store.controllerBlockedIps snapshot := by
  have replaces : (snapshot.replaceBlockedIps || snapshot.completes) = snapshot.replaceBlockedIps := by
    cases completes : snapshot.completes with
    | false => exact Bool.or_false _
    | true =>
      rw [paged.bans completes]
      rfl
  unfold Edge.Store.blockedAfter confirmBlockedIps
  rw [replaces]

/-- A push or a baseline is still due. -/
def Due (σ : NodeSession Byte) : Prop :=
  σ.needsBlockedIps = true ∨ σ.needsFull = true ∨ σ.baselineActive = true ∨ σ.cacheReady = false

/-- The session remembers the list of the database, unless something is due. -/
def Tracks (bans : Table BlockedIp) (σ : NodeSession Byte) : Prop := σ.blockedIps.Same bans ∨ σ.Due

/-- Raising flags does no harm. -/
lemma Tracks.mono {bans : Table BlockedIp} {σ σ' : NodeSession Byte} (tracks : σ.Tracks bans)
    (blockedIps : σ'.blockedIps = σ.blockedIps)
    (needsBlockedIps : σ.needsBlockedIps = true → σ'.needsBlockedIps = true)
    (needsFull : σ.needsFull = true → σ'.needsFull = true)
    (baselineActive : σ'.baselineActive = σ.baselineActive) (cacheReady : σ'.cacheReady = σ.cacheReady) :
    σ'.Tracks bans := by
  refine tracks.imp (fun same => blockedIps ▸ same) ?_
  rintro (blocked | full | active | unready)
  · exact .inl (needsBlockedIps blocked)
  · exact .inr (.inl (needsFull full))
  · exact .inr (.inr (.inl (baselineActive.trans active)))
  · exact .inr (.inr (.inr (cacheReady.trans unready)))

/-- What is due is what the next push does, once the cache is cleared. -/
lemma Due.push {users : List Nat} (due : σ.Due) (id : σ.cacheSessionId.isSome = true)
    (idle : σ.pendingRevision ≤ σ.appliedRevision) :
    σ.cacheReady = false ∨ σ.choosePush users = .cacheReset ∨ σ.choosePush users = .blockedIps ∨
      σ.choosePush users = .page none := by
  cases ready : σ.cacheReady with
  | false => exact .inl rfl
  | true =>
    have some : (σ.cacheSessionId.isNone || decide (σ.appliedRevision < σ.pendingRevision)) = false := by
      rw [Bool.or_eq_false_iff]
      exact ⟨isNone_eq_false_iff.mpr id, decide_eq_false (Nat.not_lt.mpr idle)⟩
    unfold Due at due
    rw [ready] at due
    refine .inr ?_
    unfold choosePush
    rw [some, ready]
    cases full : σ.needsFull <;> cases active : σ.baselineActive <;> cases blocked : σ.needsBlockedIps <;>
      simp_all

end NodeSession

namespace State

variable {codec : Codec Byte} {nodeId : String} {s s' : State Byte}

/-! ## The list of the edge -/

/-- The list of an edge in the epoch `e` of a session: empty until the controller hears of the cleared cache,
then what the session remembers, or what an applied pending page makes of it. -/
structure EdgeList (s : State Byte) (e : CacheSessionId) : Prop where
  empty : (s.conns e.stream).session.cacheReady = false →
    Table.Same ∅ s.edge.store.controllerBlockedIps
  idle : (s.conns e.stream).session.cacheReady = true →
    (∀ snapshot b, (s.conns e.stream).session.pendingIdentity = some snapshot →
      .applied e snapshot.revision b ∉ s.log) →
    (s.conns e.stream).session.blockedIps.Same s.edge.store.controllerBlockedIps
  done : ∀ snapshot b, (s.conns e.stream).session.pendingIdentity = some snapshot →
    .applied e snapshot.revision b ∈ s.log →
    (NodeSession.confirmBlockedIps (s.conns e.stream).session.blockedIps snapshot).Same
      s.edge.store.controllerBlockedIps

/-- A step that leaves the session and the list alone. -/
lemma EdgeList.mono {e} (ok : EdgeList s e)
    (same : (s.conns e.stream).session.SameStage (s'.conns e.stream).session)
    (store : s'.edge.store = s.edge.store) (applied : ∀ r b, .applied e r b ∈ s'.log ↔ .applied e r b ∈ s.log) :
    EdgeList s' e := by
  constructor
  · rw [same.cacheReady, store]
    exact ok.empty
  · rw [same.cacheReady, same.pendingIdentity, same.blockedIps, store]
    simp only [applied]
    exact ok.idle
  · rw [same.pendingIdentity, same.blockedIps, store]
    simp only [applied]
    exact ok.done

/-! ## What is due -/

/-- The session tracks the bans, as it is or once the page under way is confirmed. -/
structure DueOk (s : State Byte) (k : Nat) : Prop where
  idle : (∀ p, s.held = some p → p.stream ≠ k) → (s.conns k).session.pendingIdentity = none →
    (s.conns k).session.Tracks s.db.blockedIps
  pending : ∀ snapshot, (s.conns k).session.pendingIdentity = some snapshot →
    ((s.conns k).session.confirmed snapshot).Tracks s.db.blockedIps
  held : ∀ p, s.held = some p → p.stream = k →
    ((s.conns k).session.confirmed p.snapshot).Tracks s.db.blockedIps

/-- The invariants of this module. -/
structure Listed (codec : Codec Byte) (s : State Byte) : Prop extends Settled codec s where
  list : ∀ e, s.edge.epoch = some e → (s.conns e.stream).session.cacheSessionId = some e → EdgeList s e
  due : ∀ k, s.current = some k → DueOk s k

/-! ## Each step keeps them -/

/-- The steps that neither reset nor apply, by what they do to the sessions. -/
lemma Listed.list_moves (inv : Listed codec s) (moves : Moves s s') (store : s'.edge.store = s.edge.store)
    (epoch : s'.edge.epoch = s.edge.epoch)
    (applied : ∀ e r b, .applied e r b ∈ s'.log ↔ .applied e r b ∈ s.log) :
    ∀ e, s'.edge.epoch = some e → (s'.conns e.stream).session.cacheSessionId = some e → EdgeList s' e := by
  intro e here' id'
  have here : s.edge.epoch = some e := epoch.symm.trans here'
  -- a session that stays where it is
  have keep : (s.conns e.stream).session.SameStage (s'.conns e.stream).session → EdgeList s' e := fun same =>
    (inv.list e here (same.cacheSessionId.symm.trans id')).mono same store (applied e)
  cases moves with
  | still sessions => exact keep (sessions e.stream)
  | @drew k others _ id =>
    by_cases at_k : e.stream = k
    · -- the edge is not in an epoch that is drawn only now
      rw [at_k] at id'
      have new : s.nextId k = e := Option.some.inj (id.symm.trans id')
      subst new
      exact absurd (mem_of_lastReset (inv.epoch _ here).last) (inv.undrawn_log le_rfl)
    · exact keep (sameStage_of_eq (others e.stream at_k))
  | @enqueued p _ held others _ session =>
    by_cases at_k : e.stream = p.stream
    · have ok := inv.held p held
      have id : (s.conns e.stream).session.cacheSessionId = some e := by
        rw [at_k, session] at id'
        rw [at_k]
        exact id'
      have old := inv.list e here id
      have nothing : (s.conns e.stream).session.pendingIdentity = none := by
        rw [at_k]
        exact ok.idle
      have ready : (s.conns e.stream).session.cacheReady = true := by
        rw [at_k]
        exact ok.ready
      -- the page is new, so it was not applied
      have fresh : ∀ b, .applied e p.snapshot.revision b ∉ s.log := by
        intro b m
        obtain ⟨_, suffix⟩ := exists_suffix m
        obtain ⟨sent, _⟩ := inv.sound _ _ suffix
        exact lt_irrefl _ (ok.newest _ _ _ (suffix.subset (mem_cons_of_mem _ sent)))
      have same := old.idle ready fun snapshot b pending => by cases nothing.symm.trans pending
      constructor
      · rw [at_k, session]
        intro unready
        cases ok.ready.symm.trans unready
      · intro _ _
        rw [store]
        rw [at_k] at same
        rw [at_k, session]
        exact same
      · intro snapshot b pending m
        rw [at_k, session] at pending
        cases pending
        exact absurd ((applied e _ b).mp m) (fresh b)
    · exact keep (sameStage_of_eq (others e.stream at_k))
  | @cleared k _ _ unready others _ session =>
    by_cases at_k : e.stream = k
    · have same := (inv.list e here (by rw [at_k, session] at id'; rw [at_k]; exact id')).empty
        (by rw [at_k]; exact unready)
      constructor
      · rw [at_k, session]
        nofun
      · intro _ _
        rw [at_k, session, store]
        exact same
      · rw [at_k, session]
        nofun
    · exact keep (sameStage_of_eq (others e.stream at_k))
  | @recorded k _ snapshot b id pending done others _ session =>
    by_cases at_k : e.stream = k
    · subst at_k
      have same' : (s.conns e.stream).session.cacheSessionId = some e := by
        rw [session] at id'
        exact id'
      cases id.symm.trans same'
      have same := (inv.list e here id).done snapshot b pending done
      obtain ⟨_, _, ready, _⟩ := (inv.session e.stream).pending snapshot pending
      constructor
      · rw [session]
        intro unready
        cases ready.symm.trans unready
      · intro _ _
        rw [session, store]
        exact same
      · rw [session]
        nofun
    · exact keep (sameStage_of_eq (others e.stream at_k))

/-- The page that the edge applies is the one its session waits for. -/
lemma Settled.pending_of_loaded (inv : Settled codec s) {r : Receiver Byte} {e revision payload snapshot}
    (link : s.edge.link = some r) (worker : r.worker = .loaded (.identitySnapshot e revision payload))
    (decode : codec.decode payload = some snapshot) (same : snapshot.revision = revision)
    (check : s.edge.store.checkSnapshot snapshot = .ok ()) :
    Pending s e snapshot ∧ (∀ b, .applied e revision b ∉ s.log) ∧ Paged snapshot := by
  obtain ⟨sent, here⟩ := inv.loaded link worker
  have fresh : ∀ b, .applied e revision b ∉ s.log := by
    intro b m
    obtain ⟨l, stored, _⟩ := (inv.epoch e here).revision revision b m
    have newer := inv.newer link worker decode check l stored
    omega
  have paged : Paged snapshot := by
    obtain ⟨snapshot', encoded, _, paged⟩ := (inv.enqueued _ _ _ sent).2
    rw [encoded, codec.decode_encode] at decode
    cases decode
    exact paged
  refine ⟨?_, fresh, paged⟩
  rcases inv.settled e revision payload sent with recorded | ⟨snapshot', pending, revision'⟩
  · obtain ⟨_, suffix⟩ := exists_suffix recorded
    obtain ⟨b, applied⟩ := inv.sound _ _ suffix
    exact absurd (suffix.subset (mem_cons_of_mem _ applied)) (fresh b)
  · -- a revision is enqueued once, so the payloads are the same
    obtain ⟨_, _, _, sent'⟩ := (inv.session e.stream).pending snapshot' pending.pending
    obtain ⟨decode', _⟩ := (inv.session e.stream).payload snapshot' pending.pending
    rw [revision'] at sent'
    obtain ⟨_, payloads⟩ := inv.sound.unique sent sent'
    rw [← payloads, decode] at decode'
    cases decode'
    exact pending

lemma Listed.list_step (inv : Listed codec s) (kind : Kind codec nodeId s s') :
    ∀ e, s'.edge.epoch = some e → (s'.conns e.stream).session.cacheSessionId = some e → EdgeList s' e := by
  have moves := inv.moves kind
  have skip : ∀ {ev : Event Byte} {log : List (Event Byte)}, (∀ e r b, ev ≠ .applied e r b) →
      ∀ e r b, .applied e r b ∈ ev :: log ↔ .applied e r b ∈ log := by
    intro ev log other e r b
    rw [mem_cons]
    exact or_iff_right fun same => other e r b same.symm
  cases kind with
  | calm calm => exact inv.list_moves moves calm.edge.store calm.edge.epoch fun _ _ _ => calm.mem_log rfl
  | enqueued | recorded => exact inv.list_moves moves rfl rfl (skip nofun)
  | dialed | discarded => nofun
  | welcomed _ _ _ _ _ _ store epoch' => exact inv.list_moves moves store epoch' (skip nofun)
  | collected _ _ _ _ _ _ _ _ store epoch' =>
    exact inv.list_moves moves store epoch' fun _ _ _ => Iff.rfl
  | @resetDone _ epoch link worker =>
    rintro e ⟨⟩ id
    -- the controller does not know yet that this epoch was entered
    have unready : (s.conns epoch.stream).session.cacheReady = false := by
      by_contra ready
      have entered := (inv.session epoch.stream).ready epoch id (Bool.eq_true_of_not_eq_false ready)
      have one : 0 < s.log.countP (·.resets epoch) := by
        rw [countP_pos_iff]
        exact ⟨_, entered, decide_eq_true rfl⟩
      have two : 0 < s.edge.resets epoch := by
        rw [resets_of_link link, countP_pos_iff]
        refine ⟨.cacheReset epoch, mem_append_right _ ?_, decide_eq_true rfl⟩
        rw [worker]
        exact mem_singleton_self _
      have linear := inv.linear epoch
      unfold uses at linear
      omega
    refine ⟨fun _ => .refl, fun ready => ?_, fun snapshot b pending => ?_⟩
    · cases unready.symm.trans ready
    · obtain ⟨_, _, ready, _⟩ := (inv.session epoch.stream).pending snapshot pending
      cases unready.symm.trans ready
  | @appliedDone _ epoch _ payload snapshot now store link worker decode same apply =>
    intro e here id
    obtain ⟨_, here'⟩ := inv.loaded link worker
    cases here'.symm.trans here
    obtain ⟨check, _⟩ := Edge.Store.apply_inv apply
    obtain ⟨pending, fresh, paged⟩ := inv.pending_of_loaded link worker decode same check
    obtain ⟨_, _, ready, _⟩ := (inv.session epoch.stream).pending snapshot pending.pending
    have old := (inv.list epoch here' id).idle ready fun snapshot' b pending' => by
      cases pending.pending.symm.trans pending'
      rw [same]
      exact fresh b
    have now : store.controllerBlockedIps =
        NodeSession.confirmBlockedIps s.edge.store.controllerBlockedIps snapshot :=
      (Edge.Store.apply_blocked apply).1.trans (NodeSession.blockedAfter_eq paged)
    refine ⟨fun unready => ?_, fun _ waits => ?_, fun snapshot' b pending' _ => ?_⟩
    · cases ready.symm.trans unready
    · refine absurd ?_ (waits snapshot payload pending.pending)
      rw [same]
      exact mem_cons_self
    · cases pending.pending.symm.trans pending'
      change Table.Same _ store.controllerBlockedIps
      rw [now]
      exact NodeSession.confirmBlockedIps_same old
  | _ => exact inv.list_moves moves rfl rfl fun _ _ _ => Iff.rfl

variable {k : Nat} {σ : NodeSession Byte}

/-- A step that keeps bans, prepared page and stage, and lowers no flag. -/
lemma DueOk.mono (ok : DueOk s k) (bans : s'.db.blockedIps = s.db.blockedIps)
    (held : s'.held = s.held ∨ s'.held = none ∧ ∀ p, s.held = some p → p.stream ≠ k)
    (stage : (s.conns k).session.SameStage (s'.conns k).session)
    (needsFull : (s.conns k).session.needsFull = true → (s'.conns k).session.needsFull = true)
    (needsBlockedIps : (s.conns k).session.needsBlockedIps = true →
      (s'.conns k).session.needsBlockedIps = true) : DueOk s' k := by
  have confirmed : ∀ snapshot, ((s.conns k).session.confirmed snapshot).Tracks s.db.blockedIps →
      ((s'.conns k).session.confirmed snapshot).Tracks s'.db.blockedIps := by
    intro snapshot tracks
    rw [bans]
    refine tracks.mono ?_ needsBlockedIps needsFull ?_ stage.cacheReady
    · exact congrArg (NodeSession.confirmBlockedIps · snapshot) stage.blockedIps
    · exact congrArg (fun active => if snapshot.baseline then !snapshot.baselineEnd else active)
        stage.baselineActive
  refine ⟨fun free nothing => ?_, fun snapshot pending => ?_, fun p here stream => ?_⟩
  · have free' : ∀ p, s.held = some p → p.stream ≠ k := by
      rcases held with same | ⟨_, other⟩
      · rw [← same]
        exact free
      · exact other
    rw [bans]
    exact (ok.idle free' (stage.pendingIdentity.symm.trans nothing)).mono stage.blockedIps needsBlockedIps
      needsFull stage.baselineActive stage.cacheReady
  · exact confirmed snapshot (ok.pending snapshot (stage.pendingIdentity.symm.trans pending))
  · rcases held with same | ⟨none, _⟩
    · exact confirmed p.snapshot (ok.held p (same.symm.trans here) stream)
    · cases none.symm.trans here

/-- A step that keeps bans, prepared page and session. -/
lemma DueOk.of_same (ok : DueOk s k) (bans : s'.db.blockedIps = s.db.blockedIps) (held : s'.held = s.held)
    (same : (s'.conns k).session = (s.conns k).session) : DueOk s' k := by
  refine ok.mono bans (.inl held) ?_ ?_ ?_ <;> rw [same]
  · exact .refl
  · exact fun on => on
  · exact fun on => on

/-- A session with a raised flag tracks whatever the bans are. -/
lemma DueOk.of_flag (flag : (s.conns k).session.needsBlockedIps = true) : DueOk s k :=
  ⟨fun _ _ => .inr (.inl flag), fun _ _ => .inr (.inl flag), fun _ _ _ => .inr (.inl flag)⟩

/-- A session whose cache is not ready waits for nothing. -/
lemma DueOk.of_unready (unready : (s.conns k).session.cacheReady = false)
    (nothing : (s.conns k).session.pendingIdentity = none) (free : ∀ p, s.held = some p → p.stream ≠ k) :
    DueOk s k := by
  refine ⟨fun _ _ => .inr (.inr (.inr (.inr unready))), fun _ pending => ?_, fun p held stream => ?_⟩
  · cases nothing.symm.trans pending
  · exact absurd stream (free p held)

/-- A session that waits for nothing. -/
lemma DueOk.of_idle (free : s.held = none)
    (nothing : (s.conns k).session.pendingIdentity = none)
    (tracks : (s.conns k).session.Tracks s.db.blockedIps) : DueOk s k := by
  refine ⟨fun _ _ => tracks, fun _ pending => ?_, fun p held => ?_⟩
  · cases nothing.symm.trans pending
  · cases free.symm.trans held

/-- A session that waits for a page. -/
lemma DueOk.of_pending {snapshot} (free : s.held = none)
    (pending : (s.conns k).session.pendingIdentity = some snapshot)
    (tracks : ((s.conns k).session.confirmed snapshot).Tracks s.db.blockedIps) : DueOk s k := by
  refine ⟨fun _ nothing => ?_, fun snapshot' pending' => ?_, fun p held => ?_⟩
  · cases pending.symm.trans nothing
  · cases pending.symm.trans pending'
    exact tracks
  · cases free.symm.trans held

/-- A session for which a page is prepared. -/
lemma DueOk.of_held {p : Prepared Byte} (held : s.held = some p) (stream : p.stream = k)
    (nothing : (s.conns k).session.pendingIdentity = none)
    (tracks : ((s.conns k).session.confirmed p.snapshot).Tracks s.db.blockedIps) : DueOk s k := by
  refine ⟨fun free => absurd stream (free p held), fun _ pending => ?_, fun p' held' _ => ?_⟩
  · cases nothing.symm.trans pending
  · cases held.symm.trans held'
    exact tracks

/-- What a push has prepared takes the session to the bans, or leaves something due. -/
lemma Pushed.tracks {db : Db.Store} {blocked snapshot}
    (pushed : Pushed nodeId db σ blocked snapshot) (tracks : σ.Tracks db.blockedIps)
    (ready : σ.cacheReady = true) : (σ.confirmed snapshot).Tracks db.blockedIps := by
  cases pushed with
  | blockedIps => exact .inl NodeSession.confirm_blockedIpSnapshot
  | @page _ _ page _ plain =>
    cases active : σ.baselineActive with
    | false =>
      -- nothing was due, so the remembered list is up to date
      obtain ⟨full, flag⟩ := plain active
      have same : σ.blockedIps.Same db.blockedIps := by
        refine tracks.resolve_right ?_
        rintro (h | h | h | h)
        · cases flag.symm.trans h
        · cases full.symm.trans h
        · cases active.symm.trans h
        · cases ready.symm.trans h
      exact .inl ((NodeSession.confirm_page rfl).trans same)
    | true =>
      cases ended : page.isEnd with
      | true => exact .inl (NodeSession.confirm_lastPage ended)
      | false =>
        refine .inr (.inr (.inr (.inl ?_)))
        change (if true = true then !(true && page.isEnd) else σ.baselineActive) = true
        rw [ended]
        rfl

/-- The flag of the bans is lowered when they are pushed. -/
lemma Pushed.tracks_prepared {db : Db.Store} {blocked snapshot cursor}
    (pushed : Pushed nodeId db σ blocked snapshot) (tracks : σ.Tracks db.blockedIps)
    (ready : σ.cacheReady = true) :
    (NodeSession.confirmed { σ with
      needsBlockedIps := σ.needsBlockedIps && !blocked
      pendingCursor := cursor } snapshot).Tracks db.blockedIps := by
  have done := pushed.tracks tracks ready
  cases pushed with
  | blockedIps => exact .inl NodeSession.confirm_blockedIpSnapshot
  | page =>
    refine done.mono rfl (fun on => ?_) (fun on => on) rfl rfl
    change (σ.needsBlockedIps && true) = true
    rw [Bool.and_true]
    exact on

/-- Pages leave the request for a full synchronisation standing. -/
lemma Paged.tracks_start {bans : Table BlockedIp} {σ' : NodeSession Byte} {snapshot payload} (paged : Paged snapshot)
    (tracks : (σ.confirmed snapshot).Tracks bans)
    (session : σ' = { σ.startTransfer snapshot payload with needsBlockedIps := σ'.needsBlockedIps })
    (flag : σ.needsBlockedIps = true → σ'.needsBlockedIps = true) : (σ'.confirmed snapshot).Tracks bans := by
  refine tracks.mono ?_ flag ?_ ?_ ?_ <;> rw [session]
  · rfl
  · intro on
    change (σ.needsFull && (snapshot.incremental || snapshot.baseline)) = true
    rw [Bool.and_eq_true, Bool.or_eq_true]
    exact ⟨on, paged.kind.symm⟩
  · rfl
  · rfl

lemma Listed.due_step (inv : Listed codec s) (kind : Kind codec nodeId s s') :
    ∀ k, s'.current = some k → DueOk s' k := by
  have held_ne : ∀ p k, s.held = some p → (s.conns k).session.cacheSessionId = none → p.stream ≠ k := by
    rintro p k held none rfl
    cases none.symm.trans (inv.held p held).id
  -- a step on a stream that keeps the stage of its session and lowers no flag
  have keep : ∀ j k (c : Conn Byte), DueOk s k → s'.db.blockedIps = s.db.blockedIps → s'.held = s.held →
      s'.conns = (s.setConn j c).conns → (s.conns j).session.SameCore c.session → DueOk s' k := by
    intro j k c ok bans held conns core
    have same : (s.conns k).session.SameCore (s'.conns k).session := by
      rw [conns]
      exact forall_setConn (Q := fun j c => (s.conns j).session.SameCore c.session) (fun _ => .refl) core k
    exact ok.mono bans (.inl held) same.toSameStage same.needsFull same.needsBlockedIps
  cases kind with
  | calm calm =>
    intro k current'
    have current := current_of_same calm.current current'
    have core := (calm.conns k).session
    rcases calm.bans with same | flag
    · refine (inv.due k current).mono same ?_ core.toSameStage core.needsFull core.needsBlockedIps
      rcases calm.held with kept | ⟨gone, other⟩
      · exact .inl kept
      · exact .inr ⟨gone, fun p held stream => other p held (stream ▸ current')⟩
    · exact .of_flag (flag k current')
  | @registered j _ new =>
    intro k current
    obtain rfl : j = k := Option.some.inj current
    have none := (inv.session j).unregistered new
    obtain ⟨_, unready, nothing⟩ := (inv.session j).blank none
    refine .of_unready ?_ ?_ fun p held => held_ne p j held none
    · exact (congrArg NodeSession.cacheReady setConn_session).trans unready
    · exact (congrArg NodeSession.pendingIdentity setConn_session).trans nothing
  | @drew j _ _ _ free session unready =>
    intro k current
    by_cases here : k = j
    · subst here
      refine .of_unready ?_ ?_ fun p held stream => ?_
      · exact (congrArg NodeSession.cacheReady setConn_session).trans ((inv.session k).unready unready)
      · refine (congrArg NodeSession.pendingIdentity setConn_session).trans ?_
        rw [session]
        exact ((inv.session k).quiet free).1
      · rcases free with none | ⟨free, _⟩
        · exact held_ne p k held none stream
        · cases free.symm.trans held
    · exact (inv.due k current).of_same rfl rfl (congrArg Conn.session (setConn_other here))
  | @prepared j _ _ snapshot _ _ _ current _ ready idle free pushed prepare =>
    intro k current'
    cases current.symm.trans current'
    obtain ⟨_, rfl⟩ := Store.prepare_eq_some prepare
    have nothing := (inv.session j).nothing idle
    have tracks := (inv.due j current).idle (by rw [free]; nofun) nothing
    refine .of_held rfl rfl ((congrArg NodeSession.pendingIdentity setSession_session).trans nothing) ?_
    change (((setSession s j _).conns j).session.confirmed snapshot).Tracks s.db.blockedIps
    rw [setSession_session]
    exact pushed.tracks_prepared tracks ready
  | @enqueued p c held current session flag =>
    intro k current'
    cases current.symm.trans current'
    have tracks := (inv.due p.stream current).held p held rfl
    have pending : c.session.pendingIdentity = some p.snapshot := by rw [session]; rfl
    refine .of_pending rfl ((congrArg NodeSession.pendingIdentity setConn_session).trans pending) ?_
    change (((s.setConn p.stream c).conns p.stream).session.confirmed p.snapshot).Tracks s.db.blockedIps
    rw [setConn_session]
    exact (inv.held p held).paged.tracks_start tracks session flag
  | @advanced j _ c _ _ _ _ session _ _ _ _ now =>
    intro k current'
    have stage : (s.conns k).session.SameStage ((s.setConn j c).conns k).session ∧
        ((s.setConn j c).conns k).session.needsFull = (s.conns k).session.needsFull ∧
        ((s.setConn j c).conns k).session.needsBlockedIps = (s.conns k).session.needsBlockedIps := by
      refine forall_setConn (Q := fun k c => (s.conns k).session.SameStage c.session ∧
        c.session.needsFull = (s.conns k).session.needsFull ∧
        c.session.needsBlockedIps = (s.conns k).session.needsBlockedIps) (fun _ => ⟨.refl, rfl, rfl⟩) ?_ k
      rw [session]
      exact ⟨⟨rfl, rfl, rfl, rfl, rfl, rfl, rfl, rfl⟩, rfl, rfl⟩
    exact (inv.due k (current_of_same now current')).mono rfl (.inl rfl) stage.1 stage.2.1.trans stage.2.2.trans
  | @cleared j _ c _ current free _ _ session =>
    intro k current'
    cases current.symm.trans current'
    have same : ((s.setConn j c).conns j).session = _ := setConn_session.trans session
    refine .of_idle free (congrArg NodeSession.pendingIdentity same) (.inr (.inr (.inr (.inl ?_))))
    exact congrArg NodeSession.baselineActive same
  | @recorded j _ _ snapshot db c _ _ here free _ _ pending _ confirm session _ _ _ _ now =>
    intro k current'
    cases here.symm.trans (current_of_same now current')
    have after : ((s.setConn j c).conns j).session = _ := setConn_session.trans session
    have bans : db.blockedIps = s.db.blockedIps := by
      obtain ⟨_, e⟩ := Store.confirm_eq_some confirm
      rw [e]
    refine .of_idle free (congrArg NodeSession.pendingIdentity after) ?_
    change (((s.setConn j c).conns j).session).Tracks db.blockedIps
    rw [after, bans]
    exact (inv.due j here).pending snapshot pending
  | dialed | reported => exact fun k current => keep _ k _ (inv.due k current) rfl rfl rfl .refl
  | welcomed _ _ _ within | collected _ _ _ _ _ within =>
    exact fun k current => keep _ k _ (inv.due k current) rfl rfl rfl within.session
  | _ => exact fun k current => (inv.due k current).of_same rfl rfl rfl

/-- Each step keeps the invariants. -/
lemma Listed.step {a} (inv : Listed codec s) (st : State.step codec nodeId s a = some s') :
    Listed codec s' :=
  have kind : Kind codec nodeId s s' := step_kind st
  { inv.toSettled.step st with
    list := inv.list_step kind
    due := inv.due_step kind }

lemma Listed.init (fresh : Fresh nodeId s) : Listed codec s := by
  refine { Settled.init fresh with list := ?_, due := ?_ }
  · rw [fresh.epoch]
    nofun
  · rw [fresh.current]
    nofun

/-- The invariants hold in every reachable state. -/
lemma Listed.of_reachable (reach : (machine codec nodeId).Reachable s) : Listed codec s :=
  reach.inv (fun _ => Listed.init) fun _ _ _ => Listed.step

end State

end MeowFrp.Cluster
