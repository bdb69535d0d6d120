import MeowFrp.Cluster.Notes
import MeowFrp.Cluster.Settled

/-!
# Which epoch the outbox describes

The outbox of the node belongs to one cache session (`node_cache_sessions`), the cache of the edge to the
epoch of its last reset, and between a reset of the edge and the moment the controller hears of it the two
differ. What keeps them together is that an epoch is entered once: the edge cannot come back to the epoch
that the outbox describes, and the controller cannot move the outbox away from an epoch that pages were
sent in while the edge is still in it (`Entered.apart`).

`Change` sorts the steps once more, by what they do to the outbox, the cache of the edge and the log; the
invariants of the next module go through it.
-/

namespace MeowFrp.Cluster

open Db List Store

/-- Other transactions keep the session of the node. -/
lemma DbStep.sessionOf {nodeId : String} {db db' : Db.Store} (st : DbStep nodeId db db') :
    db'.sessionOf nodeId = db.sessionOf nodeId := by
  cases st with
  | identity e =>
    obtain ⟨_, db₁, rfl | ⟨rfl, _⟩, keeps, _⟩ := execIdentity_records e
    · change db₁.sessionOf nodeId = _
      unfold Store.sessionOf
      rw [keeps.cacheSessions]
    · unfold Store.sessionOf
      rw [keeps.cacheSessions]
  | bans op => cases op <;> rfl
  | next => rfl
  | @other _ op _ differ e =>
    cases op with
    | reset =>
      cases e
      rw [sessionOf_reset, if_neg (Ne.symm differ)]
    | prepare =>
      obtain ⟨_, rfl⟩ := prepare_eq_some e
      rfl
    | confirm =>
      obtain ⟨_, same⟩ := confirm_eq_some e
      rw [same]
      rfl

namespace State

variable {Byte : Type} {codec : Codec Byte} {nodeId : String} {s s' : State Byte}

/-! ## What a step changes -/

/-- The cache of the edge is the same, in the same epoch. -/
structure SameCache (s s' : State Byte) : Prop where
  store : s'.edge.store = s.edge.store
  epoch : s'.edge.epoch = s.edge.epoch

/-- What a step does to the outbox, the cache and the log. -/
inductive Change (codec : Codec Byte) (nodeId : String) (s s' : State Byte) : Prop
  | still (db : s'.db = s.db ∨ s.held = none ∧ DbStep nodeId s.db s'.db)
      (held : s'.held = s.held ∨ s'.held = none) (cache : SameCache s s')
      (log : ∀ ev : Event Byte, ev.note = false → (ev ∈ s'.log ↔ ev ∈ s.log))
  | prepared {p} (free : s.held = none) (held : s'.held = some p)
      (id : (s.conns p.stream).session.cacheSessionId = some p.epoch)
      (idle : (s.conns p.stream).session.pendingIdentity = none)
      (pushed : Pushed nodeId s.db (s.conns p.stream).session p.blocked p.snapshot)
      (prepare : s.db.nextIdentityRevision.prepareNodeIdentityCache nodeId p.epoch p.snapshot.revision
        p.snapshot.affected = some s'.db)
      (cache : SameCache s s') (log : s'.log = s.log)
  | enqueued {p} (held : s.held = some p) (free : s'.held = none) (db : s'.db = s.db)
      (cache : SameCache s s') (log : s'.log = .enqueued p.epoch p.snapshot.revision p.payload :: s.log)
  | cleared {k epoch} (current : s.current = some k)
      (id : (s.conns k).session.cacheSessionId = some epoch)
      (unready : (s.conns k).session.cacheReady = false) (entered : .reset epoch ∈ s.log)
      (free : s'.held = none) (db : s'.db = s.db.resetNodeIdentityCache nodeId epoch)
      (cache : SameCache s s') (log : s'.log = s.log)
  | recorded {epoch snapshot payload} (pending : Pending s epoch snapshot)
      (applied : .applied epoch snapshot.revision payload ∈ s.log)
      (decode : codec.decode payload = some snapshot) (new : .recorded epoch snapshot.revision ∉ s.log)
      (free : s'.held = none)
      (confirm : s.db.confirmNodeIdentityCache nodeId epoch snapshot.revision
        (snapshot.users.map User.id) snapshot.removedUserIds
        (!snapshot.incremental && !snapshot.baseline) = some s'.db)
      (cache : SameCache s s') (log : s'.log = .recorded epoch snapshot.revision :: s.log)
  /-- the cache is discarded between connections, or for a new epoch -/
  | wiped (store : s'.edge.store = s.edge.store.discardControlIdentityCache)
      (epoch : ∀ e, s'.edge.epoch = some e → .reset e ∉ s.log) (db : s'.db = s.db)
      (held : s'.held = s.held) (grows : s.log ⊆ s'.log)
      (log : ∀ ev ∈ s'.log, ev ∈ s.log ∨ ∃ e, ev = .reset e)
  | applied {epoch snapshot payload now} (here : s.edge.epoch = some epoch)
      (sent : .enqueued epoch snapshot.revision payload ∈ s.log)
      (decode : codec.decode payload = some snapshot)
      (apply : s.edge.store.applyIdentitySnapshot now snapshot = .ok s'.edge.store)
      (epoch' : s'.edge.epoch = s.edge.epoch) (db : s'.db = s.db) (held : s'.held = s.held)
      (log : s'.log = .applied epoch snapshot.revision payload :: s.log)

/-- Steps that leave the database, the cache and the log alone. -/
lemma Change.of_same (db : s'.db = s.db) (held : s'.held = s.held) (store : s'.edge.store = s.edge.store)
    (epoch : s'.edge.epoch = s.edge.epoch) (log : s'.log = s.log) : Change codec nodeId s s' :=
  .still (.inl db) (.inl held) ⟨store, epoch⟩ fun _ _ => by rw [log]

/-- A revision that a session waits for was not recorded. -/
lemma Settled.unrecorded (inv : Settled codec s) {k e snapshot}
    (id : (s.conns k).session.cacheSessionId = some e)
    (pending : (s.conns k).session.pendingIdentity = some snapshot) :
    .recorded e snapshot.revision ∉ s.log := by
  intro recorded
  have stream := ((inv.session k).drawn e id).1
  obtain ⟨_, _⟩ := (inv.session k).payload snapshot pending
  have caught := (inv.caught e _ recorded (stream ▸ id)).applied
  rw [stream] at caught
  omega

lemma Settled.change (inv : Settled codec s) (kind : Kind codec nodeId s s') : Change codec nodeId s s' := by
  cases kind with
  | calm calm =>
    exact .still calm.db (calm.held.imp_right And.left) ⟨calm.edge.store, calm.edge.epoch⟩
      fun _ fact => calm.mem_log fact
  | @prepared k _ _ _ _ _ _ _ id _ idle free pushed prepare =>
    exact .prepared free rfl id ((inv.session k).nothing idle) pushed prepare ⟨rfl, rfl⟩ rfl
  | enqueued held => exact .enqueued held rfl rfl ⟨rfl, rfl⟩ rfl
  | @cleared k epoch _ job current free id unready =>
    exact .cleared current id unready ((inv.wire k).cleared epoch job) free rfl ⟨rfl, rfl⟩ rfl
  | @recorded k epoch _ _ _ _ _ job _ free id _ pending same confirm =>
    subst same
    have stream := ((inv.session k).drawn epoch id).1
    subst stream
    obtain ⟨_, applied, decode⟩ := inv.applied_of_ack job pending
    exact .recorded ⟨id, pending⟩ applied decode (inv.unrecorded id pending) free confirm ⟨rfl, rfl⟩ rfl
  | dialed | discarded => exact .wiped rfl nofun rfl rfl (fun _ m => m) fun _ m => .inl m
  | welcomed _ _ _ _ _ _ store epoch' =>
    refine .still (.inl rfl) (.inl rfl) ⟨store, epoch'⟩ fun ev fact => ?_
    rw [mem_cons]
    refine or_iff_right ?_
    rintro rfl
    cases fact
  | collected _ _ _ _ _ _ _ _ store epoch' => exact .of_same rfl rfl store epoch' rfl
  | @resetDone _ epoch link worker =>
    refine .wiped rfl (fun e same => ?_) rfl rfl (subset_cons_self _ _) fun ev m => ?_
    · cases same
      exact inv.reset_once link worker
    · rcases mem_cons.mp m with new | old
      · exact .inr ⟨epoch, new⟩
      · exact .inl old
  | @appliedDone _ _ _ _ _ _ _ link worker decode same apply =>
    subst same
    obtain ⟨sent, here⟩ := inv.loaded link worker
    exact .applied here sent decode apply rfl rfl rfl rfl
  | _ => exact .of_same rfl rfl rfl rfl rfl

/-- The session changes only when the controller hears of a cleared cache. -/
lemma Change.sessionOf (change : Change codec nodeId s s') :
    s'.db.sessionOf nodeId = s.db.sessionOf nodeId ∨
      ∃ k e, s.current = some k ∧ (s.conns k).session.cacheSessionId = some e ∧
        (s.conns k).session.cacheReady = false ∧ .reset e ∈ s.log ∧ s'.db.sessionOf nodeId = some e ∧
        s'.held = none ∧ SameCache s s' ∧ s'.log = s.log := by
  cases change with
  | still db =>
    rcases db with same | ⟨_, st⟩
    · rw [same]
      exact .inl rfl
    · exact .inl st.sessionOf
  | prepared _ _ _ _ _ prepare =>
    obtain ⟨_, db⟩ := prepare_eq_some prepare
    rw [db]
    exact .inl rfl
  | enqueued _ _ db | wiped _ _ db | applied _ _ _ _ _ db => exact .inl (by rw [db])
  | cleared current id unready entered free db cache log =>
    refine .inr ⟨_, _, current, id, unready, entered, ?_, free, cache, log⟩
    rw [db, sessionOf_reset, if_pos rfl]
  | recorded _ _ _ _ _ confirm =>
    obtain ⟨_, db⟩ := confirm_eq_some confirm
    rw [db]
    exact .inl rfl

/-! ## Epochs -/

/-- The invariants of this module. -/
structure Entered (codec : Codec Byte) (nodeId : String) (s : State Byte) : Prop extends Settled codec s where
  entered : ∀ e, s.db.sessionOf nodeId = some e → .reset e ∈ s.log
  prepared : ∀ p, s.held = some p → s.db.sessionOf nodeId = some p.epoch
  apart : ∀ e, s.edge.epoch = some e → s.db.sessionOf nodeId = some e → ∀ k e', s.current = some k →
    (s.conns k).session.cacheSessionId = some e' → e' ≠ e → .reset e' ∉ s.log
  opens : ∀ e r b, s.edge.epoch = some e → .enqueued e r b ∈ s.log → s.db.sessionOf nodeId = some e

/-- The epoch of the current session was so before, or was never entered. -/
lemma Transfer.current_id (inv : Transfer codec s) (kind : Kind codec nodeId s s') {k e}
    (current' : s'.current = some k) (id' : (s'.conns k).session.cacheSessionId = some e) :
    s.current = some k ∧ (s.conns k).session.cacheSessionId = some e ∨ .reset e ∉ s.log := by
  have before : (s.conns k).session.cacheSessionId = some e ∨ .reset e ∉ s.log := by
    have keep : s'.conns k = s.conns k → (s.conns k).session.cacheSessionId = some e ∨ .reset e ∉ s.log := by
      intro same
      rw [same] at id'
      exact .inl id'
    cases inv.moves kind with
    | still sessions => exact .inl ((sessions k).cacheSessionId.symm.trans id')
    | @drew j others _ id =>
      by_cases here : k = j
      · subst here
        cases id.symm.trans id'
        exact .inr (inv.undrawn_log le_rfl)
      · exact keep (others k here)
    | @enqueued p _ _ others _ session =>
      by_cases here : k = p.stream
      · subst here
        rw [session] at id'
        exact .inl id'
      · exact keep (others k here)
    | @cleared j _ _ _ others _ session | @recorded j _ _ _ _ _ _ others _ session =>
      by_cases here : k = j
      · subst here
        rw [session] at id'
        exact .inl id'
      · exact keep (others k here)
  rcases before with id | never
  · rcases kind.current with same | none | ⟨_, now, new, _⟩
    · exact .inl ⟨same.symm.trans current', id⟩
    · cases none.symm.trans current'
    · -- a stream that is registered just now has no session id yet
      cases now.symm.trans current'
      cases ((inv.session k).registered e id).symm.trans new
  · exact .inr never

/-- Pages are enqueued in sessions whose cache is ready. -/
lemma Settled.ready_of_enqueued (inv : Settled codec s) {k e r b} (sent : .enqueued e r b ∈ s.log)
    (id : (s.conns k).session.cacheSessionId = some e) : (s.conns k).session.cacheReady = true := by
  have stream := ((inv.session k).drawn e id).1
  subst stream
  rcases inv.settled e r b sent with recorded | ⟨snapshot, pending, _⟩
  · exact (inv.caught e r recorded id).ready
  · obtain ⟨_, _, ready, _⟩ := (inv.session e.stream).pending snapshot pending.pending
    exact ready

/-- The edge stays in its epoch, or its cache is wiped. -/
lemma Change.edge (change : Change codec nodeId s s') :
    (s'.edge.epoch = s.edge.epoch ∧ ∀ e, .reset e ∈ s'.log → .reset e ∈ s.log) ∨
      s'.db = s.db ∧ ∀ e, s'.edge.epoch = some e → .reset e ∉ s.log := by
  cases change with
  | still _ _ cache log => exact .inl ⟨cache.epoch, fun e m => (log _ rfl).mp m⟩
  | prepared _ _ _ _ _ _ cache log | cleared _ _ _ _ _ _ cache log =>
    exact .inl ⟨cache.epoch, fun e m => log ▸ m⟩
  | enqueued _ _ _ cache log | recorded _ _ _ _ _ _ cache log =>
    refine .inl ⟨cache.epoch, fun e m => ?_⟩
    rw [log] at m
    exact (mem_cons.mp m).resolve_left nofun
  | wiped _ epoch db => exact .inr ⟨db, epoch⟩
  | applied _ _ _ _ epoch' _ _ log =>
    refine .inl ⟨epoch', fun e m => ?_⟩
    rw [log] at m
    exact (mem_cons.mp m).resolve_left nofun

/-- The page that is enqueued is the one that was held. -/
lemma Change.enqueued_mem (change : Change codec nodeId s s') {e r b} (m : .enqueued e r b ∈ s'.log) :
    .enqueued e r b ∈ s.log ∨
      s'.db = s.db ∧ ∃ p, s.held = some p ∧ e = p.epoch ∧ r = p.snapshot.revision ∧ b = p.payload := by
  cases change with
  | still _ _ _ log => exact .inl ((log _ rfl).mp m)
  | prepared _ _ _ _ _ _ _ log | cleared _ _ _ _ _ _ _ log => exact .inl (log ▸ m)
  | @enqueued p held _ db _ log =>
    rw [log] at m
    rcases mem_cons.mp m with new | old
    · cases new
      exact .inr ⟨db, p, held, rfl, rfl, rfl⟩
    · exact .inl old
  | recorded _ _ _ _ _ _ _ log | applied _ _ _ _ _ _ _ log =>
    rw [log] at m
    exact .inl ((mem_cons.mp m).resolve_left nofun)
  | wiped _ _ _ _ _ log =>
    refine .inl ((log _ m).resolve_right ?_)
    rintro ⟨_, ⟨⟩⟩

/-- The page that is held was held before, or is prepared just now. -/
lemma Change.held_mem (change : Change codec nodeId s s') {p} (held' : s'.held = some p) :
    (s'.db = s.db ∧ s.held = some p) ∨
      Pushed nodeId s.db (s.conns p.stream).session p.blocked p.snapshot ∧
        s.db.nextIdentityRevision.prepareNodeIdentityCache nodeId p.epoch p.snapshot.revision
          p.snapshot.affected = some s'.db := by
  have busy : s'.held ≠ none := by
    rw [held']
    nofun
  cases change with
  | still db held =>
    have same := held.resolve_right busy
    rcases db with db | ⟨free, _⟩
    · exact .inl ⟨db, same.symm.trans held'⟩
    · exact absurd (same.trans free) busy
  | prepared _ held _ _ pushed prepare =>
    cases held.symm.trans held'
    exact .inr ⟨pushed, prepare⟩
  | enqueued _ free | cleared _ _ _ _ free | recorded _ _ _ _ free => exact absurd free busy
  | wiped _ _ db held | applied _ _ _ _ _ db held => exact .inl ⟨db, held.symm.trans held'⟩

/-! ## Each step keeps them -/

lemma Entered.prepared_step (inv : Entered codec nodeId s) (change : Change codec nodeId s s') :
    ∀ p, s'.held = some p → s'.db.sessionOf nodeId = some p.epoch := by
  intro p held'
  rcases change.held_mem held' with ⟨db, held⟩ | ⟨_, prepare⟩
  · rw [db]
    exact inv.prepared p held
  · obtain ⟨session, db⟩ := prepare_eq_some prepare
    rw [db]
    exact session

lemma Entered.apart_step (inv : Entered codec nodeId s) (kind : Kind codec nodeId s s') :
    ∀ e, s'.edge.epoch = some e → s'.db.sessionOf nodeId = some e → ∀ k e', s'.current = some k →
      (s'.conns k).session.cacheSessionId = some e' → e' ≠ e → .reset e' ∉ s'.log := by
  intro e here session k e' current id differ m
  have change := inv.change kind
  rcases change.edge with ⟨same, old⟩ | ⟨db, wiped⟩
  · rcases inv.current_id kind current id with ⟨current₀, id₀⟩ | never
    · rcases change.sessionOf with session₀ | ⟨_, _, now, drawn, _, _, session₀, _⟩
      · exact inv.apart e (same.symm.trans here) (session₀.symm.trans session) k e' current₀ id₀ differ (old e' m)
      · -- the outbox moves to the epoch of the current session, which is the one assumed to differ
        cases now.symm.trans current₀
        cases drawn.symm.trans id₀
        exact differ (Option.some.inj (session₀.symm.trans session))
    · exact never (old e' m)
  · exact wiped e here (inv.entered e (db ▸ session))

lemma Entered.opens_step (inv : Entered codec nodeId s) (change : Change codec nodeId s s') :
    ∀ e r b, s'.edge.epoch = some e → .enqueued e r b ∈ s'.log → s'.db.sessionOf nodeId = some e := by
  intro e r b here m
  rcases change.enqueued_mem m with sent | ⟨db, p, held, rfl, _⟩
  · rcases change.edge with ⟨same, _⟩ | ⟨_, wiped⟩
    · have open₀ := inv.opens e r b (same.symm.trans here) sent
      rcases change.sessionOf with session₀ | ⟨k₀, e₀, current, id, _, entered, session₀, _⟩
      · exact session₀.trans open₀
      · -- the outbox cannot move to another epoch that was entered
        by_cases one : e₀ = e
        · exact one ▸ session₀
        · exact absurd entered (inv.apart e (same.symm.trans here) open₀ k₀ e₀ current id one)
    · exact absurd (inv.opened e r b sent) (wiped e here)
  · rw [db]
    exact inv.prepared p held

/-- Each step keeps the invariants. -/
lemma Entered.step {a} (inv : Entered codec nodeId s) (st : State.step codec nodeId s a = some s') :
    Entered codec nodeId s' := by
  have kind : Kind codec nodeId s s' := step_kind st
  have change := inv.change kind
  refine { inv.toSettled.step st with
    entered := fun e session => ?_
    prepared := inv.prepared_step change
    apart := inv.apart_step kind
    opens := inv.opens_step change }
  rcases change.sessionOf with same | ⟨_, _, _, _, _, entered, now, _⟩
  · exact kind.log (inv.entered e (same.symm.trans session))
  · cases now.symm.trans session
    exact kind.log entered

lemma Entered.init (fresh : Fresh nodeId s) : Entered codec nodeId s := by
  refine { Settled.init fresh with entered := ?_, prepared := ?_, apart := ?_, opens := ?_ }
  · rw [fresh.session]
    nofun
  · rw [fresh.held]
    nofun
  · rw [fresh.epoch]
    nofun
  · rw [fresh.epoch]
    nofun

end State

end MeowFrp.Cluster
