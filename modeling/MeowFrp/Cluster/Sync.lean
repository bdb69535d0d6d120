import MeowFrp.Cluster.Epochs
import MeowFrp.Sync.Records

/-!
# No update is lost

The records of a user change at the controller, travel in pages and are recorded in the outbox once the
edge has committed them, and every one of these steps can be overtaken by another change. What holds
throughout is stated for each row of the outbox (`RowOk`) and for each page that is prepared but not yet
recorded (`Due`): the row of a user on such a page asks for the revision of the page or for a later one,
and as long as it asks for no later one, the page still shows what the node may see of the user.
-/

namespace MeowFrp.Cluster

open Db Sync List Option Store CacheRows

variable {nodeId : String} {db db' : Db.Store} {u : Nat}

/-! ## Transactions that concern other things -/

/-- What such a transaction can do to a user of the node. -/
inductive Touch (nodeId : String) (db db' : Db.Store) (u : Nat) : Prop
  | kept (row : db'.outboxRow u nodeId = db.outboxRow u nodeId)
      (records : visibleRecords db' nodeId u = visibleRecords db nodeId u)
  | dirty (row : db'.outboxRow u nodeId = some (Store.wanted u nodeId (db.sessionOf nodeId) (db.revision + 1)
        (db.outboxRow u nodeId))) (revision : db'.revision = db.revision + 1)
  /-- a user whom the node neither has nor may have -/
  | absent (row : db.outboxRow u nodeId = none) (row' : db'.outboxRow u nodeId = none)
  | created (row : db'.outboxRow u nodeId = db.outboxRow u nodeId) (unseen : ¬ Sees db nodeId u)

/-- Rows depend on their table only. -/
lemma outboxRow_congr (same : db'.userNodeCache = db.userNodeCache) :
    db'.outboxRow u nodeId = db.outboxRow u nodeId := by
  unfold Store.outboxRow
  rw [same]

/-- What other transactions do to the row of a user. -/
lemma DbStep.touch (st : DbStep nodeId db db') (enrolled : nodeId ∈ db.edgeNodes) (u : Nat) :
    Touch nodeId db db' u := by
  cases st with
  | identity e =>
    obtain ⟨v, db₁, how, keeps, same⟩ := execIdentity_records e
    have row₁ : db₁.outboxRow u nodeId = db.outboxRow u nodeId := outboxRow_congr keeps.userNodeCache
    have session₁ : db₁.sessionOf nodeId = db.sessionOf nodeId := by
      unfold Store.sessionOf
      rw [keeps.cacheSessions]
    rcases how with rfl | ⟨rfl, new⟩
    · have marked : (db₁.markUserIdentityDirty v).outboxRow u nodeId = _ :=
        outboxRow_markUserIdentityDirty (keeps.edgeNodes ▸ enrolled)
      rw [row₁, session₁, keeps.revision] at marked
      by_cases here : u = v
      · split at marked
        · exact .dirty marked (congrArg (· + 1) keeps.revision)
        · rename_i out
          cases row : db.outboxRow u nodeId with
          | none => exact .absent row (marked.trans row)
          | some =>
            rw [row] at out
            exact absurd ⟨here, rfl⟩ out
      · rw [if_neg fun both => here both.1] at marked
        have records : visibleRecords db₁ nodeId u = visibleRecords db nodeId u :=
          visibleRecords_congr (same u here)
        exact .kept marked records
    · by_cases here : u = v
      · refine .created row₁ ?_
        rintro ⟨x, m, mine, _⟩
        exact new x m (mine.trans here)
      · exact .kept row₁ (visibleRecords_congr (same u here))
  | bans op => cases op <;> exact .kept rfl rfl
  | next => exact .kept rfl rfl
  | @other _ op _ differ e =>
    cases op with
    | reset =>
      cases e
      refine .kept ?_ rfl
      rw [outboxRow_reset, if_neg (Ne.symm differ)]
    | prepare =>
      have row : db'.outboxRow u nodeId = _ := outboxRow_prepare e
      obtain ⟨_, rfl⟩ := prepare_eq_some e
      refine .kept ?_ rfl
      rw [row, if_neg fun both => differ both.2.symm]
    | confirm =>
      refine .kept (outboxRow_confirm_other (Ne.symm differ) e) ?_
      obtain ⟨_, same⟩ := confirm_eq_some e
      rw [same]
      rfl

/-- Other transactions raise revisions only. -/
lemma DbStep.grows (st : DbStep nodeId db db') :
    db'.edgeNodes = db.edgeNodes ∧ db.revision ≤ db'.revision := by
  cases st with
  | identity e =>
    obtain ⟨_, _, how, keeps, _⟩ := execIdentity_records e
    rcases how with rfl | ⟨rfl, _⟩
    · exact ⟨keeps.edgeNodes, keeps.revision ▸ Nat.le_succ _⟩
    · exact ⟨keeps.edgeNodes, keeps.revision.ge⟩
  | bans op => cases op <;> exact ⟨rfl, le_rfl⟩
  | next => exact ⟨rfl, Nat.le_succ _⟩
  | @other _ op _ _ e =>
    cases op with
    | reset =>
      cases e
      exact ⟨rfl, le_rfl⟩
    | prepare =>
      obtain ⟨_, rfl⟩ := prepare_eq_some e
      exact ⟨rfl, le_rfl⟩
    | confirm =>
      obtain ⟨_, same⟩ := confirm_eq_some e
      rw [same]
      exact ⟨rfl, le_rfl⟩

/-! ## Pages under way -/

/-- The page is still to be recorded: the rows of its users ask for it or for something later, and it is
current where nothing later is asked for. -/
def Due (nodeId : String) (db : Db.Store) (snap : IdentitySnapshot) : Prop :=
  ∀ u ∈ snap.affected, ∃ c, db.outboxRow u nodeId = some c ∧ c.appliedRevision < snap.revision ∧
    snap.revision ≤ c.desiredRevision ∧
    (c.desiredRevision = snap.revision → snap.rows.Lists u →
      snap.rows.recordsOf u = visibleRecords db nodeId u)

/-- A listed user whose records the page shows is one the node sees. -/
lemma sees_of_shown {snap : IdentitySnapshot} (listed : snap.rows.Lists u)
    (shown : snap.rows.recordsOf u = visibleRecords db nodeId u) : Sees db nodeId u := by
  rw [CacheRows.lists_iff, shown] at listed
  exact nonempty_visibleRecords.mp listed

/-- A page that is due stays due. -/
lemma Due.touch {snap : IdentitySnapshot} (due : Due nodeId db snap) (touch : ∀ u, Touch nodeId db db' u)
    (bound : snap.revision ≤ db.revision) : Due nodeId db' snap := by
  intro u m
  obtain ⟨c, row₀, applied, desired, shown⟩ := due u m
  cases touch u with
  | kept row records => exact ⟨c, row.trans row₀, applied, desired, records ▸ shown⟩
  | dirty row =>
    rw [row₀] at row
    refine ⟨_, row, applied, le_trans desired (le_max_left _ _), fun last => ?_⟩
    have later : db.revision + 1 ≤ snap.revision := last ▸ le_max_right _ _
    omega
  | absent row => cases row.symm.trans row₀
  | created row unseen =>
    refine ⟨c, row.trans row₀, applied, desired, fun last listed => ?_⟩
    exact absurd (sees_of_shown listed (shown last listed)) unseen

namespace State

variable {Byte : Type} {codec : Codec Byte} {s s' : State Byte}

/-! ## Rows of the outbox -/

/-- What a row of the outbox says about its user. -/
structure RowOk (nodeId : String) (s : State Byte) (u : Nat) (c : UserNodeCache) : Prop where
  session : c.sessionId = s.db.sessionOf nodeId
  applied : c.appliedRevision ≤ s.db.revision
  desired : c.desiredRevision ≤ s.db.revision
  sees : c.desiredRevision ≤ c.appliedRevision → Sees s.db nodeId u
  fresh : c.desiredRevision ≤ c.appliedRevision → ∀ e, s.edge.epoch = some e →
    s.db.sessionOf nodeId = some e → s.edge.store.cacheRows.recordsOf u = visibleRecords s.db nodeId u

/-- A row that asks for something says nothing about the records. -/
lemma RowOk.of_wanted {c : UserNodeCache} (session : c.sessionId = s.db.sessionOf nodeId)
    (applied : c.appliedRevision < c.desiredRevision) (desired : c.desiredRevision ≤ s.db.revision) :
    RowOk nodeId s u c :=
  ⟨session, (applied.trans_le desired).le, desired, fun settled => absurd applied settled.not_gt,
    fun settled => absurd applied settled.not_gt⟩

/-- The cache and the records of the user stay. -/
lemma RowOk.mono {c : UserNodeCache} (ok : RowOk nodeId s u c)
    (session : s'.db.sessionOf nodeId = s.db.sessionOf nodeId) (later : s.db.revision ≤ s'.db.revision)
    (records : visibleRecords s'.db nodeId u = visibleRecords s.db nodeId u)
    (cache : s'.edge.store.cacheRows.recordsOf u = s.edge.store.cacheRows.recordsOf u)
    (epoch : s'.edge.epoch = s.edge.epoch) : RowOk nodeId s' u c := by
  refine ⟨ok.session.trans session.symm, ok.applied.trans later, ok.desired.trans later, fun settled => ?_,
    fun settled e here session' => ?_⟩
  · have sees := ok.sees settled
    rw [← nonempty_visibleRecords] at sees ⊢
    rw [records]
    exact sees
  · rw [cache, records]
    exact ok.fresh settled e (epoch ▸ here) (session ▸ session')

/-- The database stays. -/
lemma RowOk.same_db {c : UserNodeCache} (ok : RowOk nodeId s u c) (db : s'.db = s.db)
    (cache : s'.edge.store.cacheRows.recordsOf u = s.edge.store.cacheRows.recordsOf u)
    (epoch : s'.edge.epoch = s.edge.epoch) : RowOk nodeId s' u c := by
  refine ok.mono ?_ ?_ ?_ cache epoch
  · rw [db]
  · rw [db]
  · rw [db]

/-- A new revision is wanted of a user. -/
lemma RowOk.wanted {revision : Nat} (rows : ∀ c, s.db.outboxRow u nodeId = some c → RowOk nodeId s u c)
    (newer : s.db.revision < revision) :
    ∃ c, c = Store.wanted u nodeId (s.db.sessionOf nodeId) revision (s.db.outboxRow u nodeId) ∧
      c.sessionId = s.db.sessionOf nodeId ∧ c.appliedRevision < revision ∧ c.desiredRevision = revision := by
  refine ⟨_, rfl, ?_⟩
  cases row : s.db.outboxRow u nodeId with
  | none => exact ⟨rfl, Nat.zero_lt_of_lt newer, rfl⟩
  | some c =>
    have ok := rows c row
    exact ⟨ok.session, ok.applied.trans_lt newer, max_eq_right (ok.desired.trans newer.le)⟩

/-- Transactions that concern other things. -/
lemma RowOk.touch (rows : ∀ c, s.db.outboxRow u nodeId = some c → RowOk nodeId s u c)
    (touch : Touch nodeId s.db s'.db u) (session : s'.db.sessionOf nodeId = s.db.sessionOf nodeId)
    (later : s.db.revision ≤ s'.db.revision) (cache : SameCache s s') :
    ∀ c, s'.db.outboxRow u nodeId = some c → RowOk nodeId s' u c := by
  intro c row'
  have rows₀ := congrArg (fun store => store.cacheRows.recordsOf u) cache.store
  cases touch with
  | kept row records => exact (rows c (row ▸ row')).mono session later records rows₀ cache.epoch
  | dirty row revision =>
    obtain ⟨_, rfl, same, applied, desired⟩ := RowOk.wanted rows (Nat.lt_succ_self _)
    cases row.symm.trans row'
    exact .of_wanted (same.trans session.symm) (desired.symm ▸ applied) (desired.trans revision.symm).le
  | absent _ row => cases row.symm.trans row'
  | created row unseen =>
    have ok := rows c (row ▸ row')
    exact ⟨ok.session.trans session.symm, ok.applied.trans later, ok.desired.trans later,
      fun settled => absurd (ok.sees settled) unseen, fun settled => absurd (ok.sees settled) unseen⟩

/-! ## The invariants -/

/-- The invariants of this module. -/
structure Synced (codec : Codec Byte) (nodeId : String) (s : State Byte) : Prop
    extends Entered codec nodeId s where
  enrolled : nodeId ∈ s.db.edgeNodes
  closed : s.edge.store.cacheRows.Closed
  source : ∀ u, s.edge.store.cacheRows.Lists u → ∃ e r b, s.edge.epoch = some e ∧ .applied e r b ∈ s.log
  rows : ∀ u c, s.db.outboxRow u nodeId = some c → RowOk nodeId s u c
  known : ∀ u, s.edge.store.cacheRows.Lists u → ∃ c, s.db.outboxRow u nodeId = some c
  read : ∀ p, s.held = some p → IsPage p.snapshot ∧ Due nodeId s.db p.snapshot
  pages : ∀ e r b snap, .enqueued e r b ∈ s.log → codec.decode b = some snap → IsPage snap
  due : ∀ e r b snap, .enqueued e r b ∈ s.log → codec.decode b = some snap →
    s.db.sessionOf nodeId = some e → .recorded e r ∉ s.log → Due nodeId s.db snap
  shown : ∀ e r b snap, s.edge.epoch = some e → .applied e r b ∈ s.log → codec.decode b = some snap →
    .recorded e r ∉ s.log → ∀ u ∈ snap.affected,
      s.edge.store.cacheRows.recordsOf u = snap.rows.recordsOf u

/-- A page has the revision it was enqueued under. -/
lemma Sent.revision_of_enqueued (inv : Sent codec s) {e r b snap} (m : .enqueued e r b ∈ s.log)
    (decode : codec.decode b = some snap) : snap.revision = r ∧ r ≤ s.db.revision := by
  obtain ⟨bound, snapshot, rfl, revision, _⟩ := inv.enqueued e r b m
  cases (codec.decode_encode snapshot).symm.trans decode
  exact ⟨revision, bound⟩

/-- An epoch has one page under way at a time. -/
lemma Settled.one_page (inv : Settled codec s) {e r r' b b'} (m : .enqueued e r b ∈ s.log)
    (m' : .enqueued e r' b' ∈ s.log) (new : .recorded e r ∉ s.log) (new' : .recorded e r' ∉ s.log) : r = r' := by
  obtain ⟨_, pending, rfl⟩ := (inv.settled e r b m).resolve_left new
  obtain ⟨_, pending', rfl⟩ := (inv.settled e r' b' m').resolve_left new'
  cases pending.pending.symm.trans pending'.pending
  rfl

/-- A cache with users is in the epoch of the outbox. -/
lemma Synced.session_of_lists (inv : Synced codec nodeId s) (listed : s.edge.store.cacheRows.Lists u) :
    ∃ e r b, s.edge.epoch = some e ∧ s.db.sessionOf nodeId = some e ∧ .enqueued e r b ∈ s.log := by
  obtain ⟨e, r, b, here, applied⟩ := inv.source u listed
  have sent := inv.sound.enqueued_of_applied applied
  exact ⟨e, r, b, here, inv.opens e r b here sent, sent⟩

/-- A snapshot of blocked addresses is a page without users. -/
lemma isPage_of_bare {snap : IdentitySnapshot} (shape : snap.incremental = true)
    (enforced : snap.nodeAccessEnforced = true) (rows : snap.rows = ∅) (removed : snap.removedUserIds = [])
    (revision : snap.revision = db.revision + 1) :
    IsPage snap ∧ Shows db nodeId snap ∧ snap.revision = db.revision + 1 := by
  refine ⟨⟨.inr shape, enforced, rows ▸ CacheRows.closed_empty, ?_⟩, ?_, revision⟩
  · rw [removed]
    nofun
  · intro id listed
    rw [rows] at listed
    exact absurd listed not_lists_empty

/-- What is read for a push is a page of what is stored. -/
lemma Pushed.isPage {σ : NodeSession Byte} {blocked snapshot} (pushed : Pushed nodeId db σ blocked snapshot) :
    IsPage snapshot ∧ Shows db nodeId snapshot ∧ snapshot.revision = db.revision + 1 := by
  cases pushed with
  | page requested _ read =>
    obtain ⟨page, shows⟩ := readPage_shows read requested
    exact ⟨page, shows, rfl⟩
  | blockedIps =>
    unfold NodeSession.blockedIpSnapshot
    split
    · exact isPage_of_bare rfl rfl rfl rfl rfl
    · exact isPage_of_bare rfl rfl rfl rfl rfl

/-! ## Each step keeps them -/

/-- The same cache has the same rows. -/
lemma SameCache.rows (cache : SameCache s s') : s'.edge.store.cacheRows = s.edge.store.cacheRows :=
  congrArg Edge.Store.cacheRows cache.store

/-- What a step does to the cache of the edge. -/
lemma Change.store (change : Change codec nodeId s s') :
    (SameCache s s' ∧ (∀ e r b, .applied e r b ∈ s'.log → .applied e r b ∈ s.log)) ∨
      (s'.edge.store.cacheRows = ∅ ∧ (∀ e, s'.edge.epoch = some e → .reset e ∉ s.log) ∧
        ∀ e r b, .applied e r b ∈ s'.log → .applied e r b ∈ s.log) ∨
      ∃ epoch snapshot payload now, s.edge.epoch = some epoch ∧
        .enqueued epoch snapshot.revision payload ∈ s.log ∧ codec.decode payload = some snapshot ∧
        s.edge.store.applyIdentitySnapshot now snapshot = .ok s'.edge.store ∧
        s'.edge.epoch = s.edge.epoch ∧ s'.log = .applied epoch snapshot.revision payload :: s.log := by
  cases change with
  | still _ _ cache log => exact .inl ⟨cache, fun e r b m => (log _ rfl).mp m⟩
  | prepared _ _ _ _ _ _ cache log | cleared _ _ _ _ _ _ cache log =>
    exact .inl ⟨cache, fun e r b m => log ▸ m⟩
  | enqueued _ _ _ cache log | recorded _ _ _ _ _ _ cache log =>
    refine .inl ⟨cache, fun e r b m => ?_⟩
    rw [log] at m
    exact (mem_cons.mp m).resolve_left nofun
  | wiped store epoch _ _ _ log =>
    refine .inr (.inl ⟨?_, epoch, fun e r b m => (log _ m).resolve_right ?_⟩)
    · rw [store]
      rfl
    · rintro ⟨_, ⟨⟩⟩
  | applied here sent decode apply epoch' _ _ log =>
    exact .inr (.inr ⟨_, _, _, _, here, sent, decode, apply, epoch', log⟩)

/-- The cache stays closed. -/
lemma Synced.closed_step (inv : Synced codec nodeId s) (change : Change codec nodeId s s') :
    s'.edge.store.cacheRows.Closed := by
  rcases change.store with ⟨cache, _⟩ | ⟨empty, _⟩ | ⟨e, snap, b, _, _, sent, decode, apply, _⟩
  · rw [cache.rows]
    exact inv.closed
  · rw [empty]
    exact closed_empty
  · exact (apply_records (inv.pages e _ b snap sent decode) apply inv.closed).1

/-- What is cached was applied in the epoch. -/
lemma Synced.source_step (inv : Synced codec nodeId s) (change : Change codec nodeId s s')
    (grows : s.log ⊆ s'.log) :
    ∀ u, s'.edge.store.cacheRows.Lists u → ∃ e r b, s'.edge.epoch = some e ∧ .applied e r b ∈ s'.log := by
  intro u listed
  rcases change.store with ⟨cache, _⟩ | ⟨empty, _⟩ | ⟨e, snap, b, _, here, _, _, _, same, log⟩
  · rw [cache.rows] at listed
    obtain ⟨e, r, b, here, applied⟩ := inv.source u listed
    exact ⟨e, r, b, cache.epoch.trans here, grows applied⟩
  · rw [empty] at listed
    exact absurd listed not_lists_empty
  · exact ⟨e, snap.revision, b, same.trans here, log ▸ mem_cons_self⟩

/-- Unrecorded pages show what the cache holds. -/
lemma Synced.shown_step (inv : Synced codec nodeId s) (change : Change codec nodeId s s')
    (grows : s.log ⊆ s'.log) (sound : Sound s'.log) :
    ∀ e r b snap, s'.edge.epoch = some e → .applied e r b ∈ s'.log → codec.decode b = some snap →
      .recorded e r ∉ s'.log → ∀ u ∈ snap.affected,
        s'.edge.store.cacheRows.recordsOf u = snap.rows.recordsOf u := by
  intro e r b snap here applied decode new u m
  have new₀ : .recorded e r ∉ s.log := fun recorded => new (grows recorded)
  rcases change.store with ⟨cache, old⟩ | ⟨_, wiped, old⟩ |
    ⟨_, _, _, now, here₀, sent, decode₀, apply, same, log⟩
  · rw [cache.rows]
    exact inv.shown e r b snap (cache.epoch ▸ here) (old e r b applied) decode new₀ u m
  · exact absurd (inv.sound.reset_of_applied (old e r b applied)) (wiped e here)
  · cases here₀.symm.trans (same.symm.trans here)
    rw [log] at applied sound
    obtain ⟨_, once, _⟩ := sound _ _ suffix_rfl
    rcases mem_cons.mp applied with first | old
    · cases first
      cases decode₀.symm.trans decode
      exact (apply_records (inv.pages e _ b snap sent decode) apply inv.closed).2.1 u m
    · -- two pages of the epoch would be under way
      have one := inv.one_page (inv.sound.enqueued_of_applied old) sent new₀ sound.not_recorded
      exact absurd (one ▸ old) (once b)

/-- The page that is applied just now is due. -/
lemma Synced.due_applied (inv : Synced codec nodeId s) {e snap b} (here : s.edge.epoch = some e)
    (sent : .enqueued e snap.revision b ∈ s.log) (decode : codec.decode b = some snap)
    (sound : Sound (.applied e snap.revision b :: s.log)) : Due nodeId s.db snap :=
  inv.due e snap.revision b snap sent decode (inv.opens e snap.revision b here sent) sound.not_recorded

/-- The page that is recorded just now is due. -/
lemma Synced.due_recorded (inv : Synced codec nodeId s) {e snap b} (applied : .applied e snap.revision b ∈ s.log)
    (decode : codec.decode b = some snap) (new : .recorded e snap.revision ∉ s.log)
    (session : s.db.sessionOf nodeId = some e) : IsPage snap ∧ Due nodeId s.db snap := by
  have sent := inv.sound.enqueued_of_applied applied
  exact ⟨inv.pages e _ b snap sent decode, inv.due e _ b snap sent decode session new⟩

/-- What preparing a page makes of the row of a user. -/
lemma Synced.prepared_row (inv : Synced codec nodeId s) {e} {snap : IdentitySnapshot} {db : Db.Store}
    (revision : snap.revision = s.db.revision + 1)
    (prepare : s.db.nextIdentityRevision.prepareNodeIdentityCache nodeId e snap.revision snap.affected =
      some db) (u : Nat) :
    (u ∉ snap.affected ∧ db.outboxRow u nodeId = s.db.outboxRow u nodeId) ∨
      u ∈ snap.affected ∧ ∃ c, db.outboxRow u nodeId = some c ∧ c.sessionId = s.db.sessionOf nodeId ∧
        c.appliedRevision < snap.revision ∧ c.desiredRevision = snap.revision := by
  have row : db.outboxRow u nodeId = _ := Store.outboxRow_prepare prepare
  obtain ⟨session, _⟩ := Store.prepare_eq_some prepare
  by_cases affected : u ∈ snap.affected
  · have newer : s.db.revision < snap.revision := by omega
    obtain ⟨_, rfl, facts⟩ := RowOk.wanted (inv.rows u) newer
    refine .inr ⟨affected, _, ?_, facts⟩
    rw [row, if_pos ⟨affected, rfl⟩, ← session]
    rfl
  · rw [if_neg fun both => affected both.1] at row
    exact .inl ⟨affected, row⟩

/-- What a confirmation makes of the row of a user. -/
lemma Synced.confirmed_row (inv : Synced codec nodeId s) {e snap} {db : Db.Store} (page : IsPage snap)
    (due : Due nodeId s.db snap)
    (confirm : s.db.confirmNodeIdentityCache nodeId e snap.revision (snap.users.map User.id)
      snap.removedUserIds (!snap.incremental && !snap.baseline) = some db) (u : Nat) :
    (u ∉ snap.affected ∧ db.outboxRow u nodeId = s.db.outboxRow u nodeId) ∨
      (u ∈ snap.removedUserIds ∧ db.outboxRow u nodeId = none) ∨
      u ∈ snap.affected ∧ ∃ c, db.outboxRow u nodeId = some c ∧ c.sessionId = s.db.sessionOf nodeId ∧
        c.appliedRevision = snap.revision ∧ c.desiredRevision ≤ s.db.revision ∧
        (c.desiredRevision ≤ snap.revision → snap.rows.Lists u ∧
          snap.rows.recordsOf u = visibleRecords s.db nodeId u) := by
  obtain ⟨session, _⟩ := Store.confirm_eq_some confirm
  have full : (!snap.incremental && !snap.baseline) = false := by
    rcases page.shape with shape | shape <;> simp [shape]
  rw [full] at confirm
  have row' : db.outboxRow u nodeId = _ := outboxRow_confirm confirm
  rw [if_pos rfl] at row'
  by_cases affected : u ∈ snap.affected
  · obtain ⟨c, row, applied, desired, shown⟩ := due u affected
    have ok := inv.rows u c row
    have mine : ¬ c.sessionId ≠ some e := not_not_intro (ok.session.trans session)
    have now : max c.appliedRevision snap.revision = snap.revision := max_eq_right applied.le
    rw [row, bind_some, Store.confirmedRow, if_neg mine] at row'
    by_cases removed : u ∈ snap.removedUserIds
    · rw [if_pos (contains_iff_mem.mpr removed)] at row'
      split at row'
      · exact .inr (.inl ⟨removed, row'⟩)
      · refine .inr (.inr ⟨affected, _, row', ok.session, now, ok.desired, fun settled => ?_⟩)
        exact absurd settled ‹_›
    · have listed : snap.rows.Lists u := (page.affected.mp affected).resolve_left removed
      rw [if_neg (mt contains_iff_mem.mp removed),
        if_pos (contains_iff_mem.mpr (page.lists.mp listed))] at row'
      refine .inr (.inr ⟨affected, _, row', ok.session, now, ok.desired, fun settled => ?_⟩)
      exact ⟨listed, shown (le_antisymm settled desired) listed⟩
  · have removed : snap.removedUserIds.contains u = false := by
      rw [← Bool.not_eq_true, contains_iff_mem]
      exact fun m => affected (mem_append_left _ m)
    have listed : (snap.users.map User.id).contains u = false := by
      rw [← Bool.not_eq_true, contains_iff_mem]
      exact fun m => affected (mem_append_right _ m)
    refine .inl ⟨affected, row'.trans ?_⟩
    rw [removed, listed]
    cases s.db.outboxRow u nodeId with
    | none => rfl
    | some => exact ite_self _

/-- The transactions on the outbox leave what the node may see alone. -/
lemma visibleRecords_prepare {e revision ids} {db db' : Db.Store}
    (prepare : db.nextIdentityRevision.prepareNodeIdentityCache nodeId e revision ids = some db') :
    visibleRecords db' nodeId u = visibleRecords db nodeId u := by
  obtain ⟨_, rfl⟩ := Store.prepare_eq_some prepare
  rfl

/-- A confirmation changes no record. -/
lemma visibleRecords_confirm {e revision users removed full} {db db' : Db.Store}
    (confirm : db.confirmNodeIdentityCache nodeId e revision users removed full = some db') :
    visibleRecords db' nodeId u = visibleRecords db nodeId u := by
  obtain ⟨_, same⟩ := Store.confirm_eq_some confirm
  rw [same]
  rfl

/-- Rows of the outbox stay right. -/
lemma Synced.rows_step (inv : Synced codec nodeId s) (change : Change codec nodeId s s') (sound : Sound s'.log) :
    ∀ u c, s'.db.outboxRow u nodeId = some c → RowOk nodeId s' u c := by
  intro u c row'
  have rows := inv.rows u
  -- over the same database and the same cache
  have keep : s'.db = s.db → SameCache s s' → RowOk nodeId s' u c := by
    intro db cache
    refine (rows c (db ▸ row')).same_db db ?_ cache.epoch
    rw [cache.rows]
  cases change with
  | still db _ cache =>
    rcases db with same | ⟨_, st⟩
    · exact keep same cache
    · exact RowOk.touch rows (st.touch inv.enrolled u) st.sessionOf st.grows.2 cache c row'
  | @prepared p _ _ _ _ pushed prepare cache =>
    obtain ⟨_, _, revision⟩ := pushed.isPage
    obtain ⟨session, db⟩ := prepare_eq_some prepare
    have session' : s'.db.sessionOf nodeId = s.db.sessionOf nodeId := by
      rw [db]
      rfl
    have revision' : s'.db.revision = p.snapshot.revision := by
      rw [db, revision]
      rfl
    rcases inv.prepared_row revision prepare u with ⟨_, same⟩ | ⟨_, _, now, mine, applied, desired⟩
    · refine (rows c (same.symm.trans row')).mono session' ?_ (visibleRecords_prepare prepare) ?_ cache.epoch
      · omega
      · rw [cache.rows]
    · cases now.symm.trans row'
      exact .of_wanted (mine.trans session'.symm) (desired.symm ▸ applied) (desired.trans revision'.symm).le
  | enqueued _ _ db cache => exact keep db cache
  | cleared _ _ _ _ _ db =>
    rw [db, outboxRow_reset, if_pos rfl] at row'
    cases row'
  | @recorded e snap b _ applied decode new _ confirm cache =>
    obtain ⟨session, db⟩ := confirm_eq_some confirm
    obtain ⟨page, due⟩ := inv.due_recorded applied decode new session
    have session' : s'.db.sessionOf nodeId = s.db.sessionOf nodeId := by
      rw [db]
      rfl
    have revision' : s'.db.revision = s.db.revision := by
      rw [db]
    have records : visibleRecords s'.db nodeId u = visibleRecords s.db nodeId u := visibleRecords_confirm confirm
    rcases inv.confirmed_row page due confirm u with
      ⟨_, same⟩ | ⟨_, none⟩ | ⟨affected, _, now, mine, applied', desired, shown⟩
    · refine (rows c (same.symm.trans row')).mono session' revision'.ge records ?_ cache.epoch
      rw [cache.rows]
    · cases none.symm.trans row'
    · cases now.symm.trans row'
      refine ⟨mine.trans session'.symm, ?_, revision' ▸ desired, fun settled => ?_, fun settled e' here session₁ => ?_⟩
      · rw [applied', revision']
        exact (inv.revision_of_enqueued (inv.sound.enqueued_of_applied applied) decode).2
      · obtain ⟨listed, same⟩ := shown (applied' ▸ settled)
        exact sees_of_shown listed (same.trans records.symm)
      · -- the edge is still in the epoch of the page, and has it
        obtain ⟨_, same⟩ := shown (applied' ▸ settled)
        cases session.symm.trans (session' ▸ session₁)
        rw [cache.rows, records, ← same]
        exact inv.shown e _ b snap (cache.epoch ▸ here) applied decode new u affected
  | wiped _ epoch db =>
    have ok := rows c (db ▸ row')
    refine ⟨db ▸ ok.session, db ▸ ok.applied, db ▸ ok.desired, fun settled => db ▸ ok.sees settled,
      fun _ e here session => ?_⟩
    -- the outbox belongs to an epoch that was entered before
    exact absurd (inv.entered e (db ▸ session)) (epoch e here)
  | @applied e snap b _ here sent decode apply epoch' db _ log =>
    have ok := rows c (db ▸ row')
    obtain ⟨_, _, others⟩ := apply_records (inv.pages e _ b snap sent decode) apply inv.closed
    by_cases affected : u ∈ snap.affected
    · obtain ⟨_, row₀, applied, desired, _⟩ := inv.due_applied here sent decode (log ▸ sound) u affected
      cases row₀.symm.trans (db ▸ row')
      exact .of_wanted (db ▸ ok.session) (applied.trans_le desired) (db ▸ ok.desired)
    · exact ok.same_db db (others u affected) epoch'

/-- Cached users have rows. -/
lemma Synced.known_step (inv : Synced codec nodeId s) (change : Change codec nodeId s s') (sound : Sound s'.log) :
    ∀ u, s'.edge.store.cacheRows.Lists u → ∃ c, s'.db.outboxRow u nodeId = some c := by
  intro u listed
  cases change with
  | still db _ cache =>
    obtain ⟨c, row⟩ := inv.known u (cache.rows ▸ listed)
    rcases db with same | ⟨_, st⟩
    · exact ⟨c, same ▸ row⟩
    · cases st.touch inv.enrolled u with
      | kept same | created same => exact ⟨c, same.trans row⟩
      | dirty now => exact ⟨_, now⟩
      | absent none => cases none.symm.trans row
  | @prepared _ _ _ _ _ pushed prepare cache =>
    obtain ⟨_, _, revision⟩ := pushed.isPage
    obtain ⟨c, row⟩ := inv.known u (cache.rows ▸ listed)
    rcases inv.prepared_row revision prepare u with ⟨_, same⟩ | ⟨_, c', now, _⟩
    · exact ⟨c, same.trans row⟩
    · exact ⟨c', now⟩
  | enqueued _ _ db cache => exact db ▸ inv.known u (cache.rows ▸ listed)
  | @cleared k e₀ current id unready entered _ _ cache =>
    -- a cache with users has been sent pages, and the session is not ready for them
    obtain ⟨e, _, b, here, session, sent⟩ := inv.session_of_lists (cache.rows ▸ listed)
    have one : e₀ = e := by
      by_contra differ
      exact inv.apart e here session k e₀ current id differ entered
    cases unready.symm.trans (inv.ready_of_enqueued (one ▸ sent) id)
  | @recorded e snap b _ applied decode new _ confirm cache =>
    obtain ⟨session, db⟩ := confirm_eq_some confirm
    obtain ⟨page, due⟩ := inv.due_recorded applied decode new session
    have listed₀ : s.edge.store.cacheRows.Lists u := cache.rows ▸ listed
    rcases inv.confirmed_row page due confirm u with ⟨_, same⟩ | ⟨removed, _⟩ | ⟨_, c', now, _⟩
    · obtain ⟨c, row⟩ := inv.known u listed₀
      exact ⟨c, same.trans row⟩
    · -- the edge has removed the user with the page
      obtain ⟨_, _, _, here, session', _⟩ := inv.session_of_lists listed₀
      cases session.symm.trans session'
      have gone := inv.shown e _ b snap here applied decode new u (page.affected.mpr (.inl removed))
      exact absurd ((lists_congr gone).mp listed₀) (page.removed u removed).2
    · exact ⟨c', now⟩
  | wiped store =>
    have empty : s'.edge.store.cacheRows = ∅ := by
      rw [store]
      rfl
    rw [empty] at listed
    exact absurd listed not_lists_empty
  | @applied e snap b _ here sent decode apply _ db _ log =>
    rw [db]
    obtain ⟨_, _, others⟩ := apply_records (inv.pages e _ b snap sent decode) apply inv.closed
    by_cases affected : u ∈ snap.affected
    · obtain ⟨c, row, _⟩ := inv.due_applied here sent decode (log ▸ sound) u affected
      exact ⟨c, row⟩
    · exact inv.known u ((lists_congr (others u affected)).mp listed)

/-- A prepared page is due. -/
lemma Synced.read_step (inv : Synced codec nodeId s) (change : Change codec nodeId s s') :
    ∀ p, s'.held = some p → IsPage p.snapshot ∧ Due nodeId s'.db p.snapshot := by
  intro p held'
  rcases change.held_mem held' with ⟨db, held⟩ | ⟨pushed, prepare⟩
  · rw [db]
    exact inv.read p held
  · obtain ⟨page, shows, revision⟩ := pushed.isPage
    refine ⟨page, fun u affected => ?_⟩
    rcases inv.prepared_row revision prepare u with ⟨out, _⟩ | ⟨_, c, row, _, applied, desired⟩
    · exact absurd affected out
    · refine ⟨c, row, applied, desired.ge, fun _ listed => ?_⟩
      rw [visibleRecords_prepare prepare]
      exact shows u listed

/-- The page that is enqueued is the one that was held. -/
lemma Synced.held_of_payload (inv : Synced codec nodeId s) {p snap} (held : s.held = some p)
    (decode : codec.decode p.payload = some snap) : snap = p.snapshot := by
  rw [(inv.held p held).payload, codec.decode_encode] at decode
  exact (Option.some.inj decode).symm

/-- Enqueued payloads are pages. -/
lemma Synced.pages_step (inv : Synced codec nodeId s) (change : Change codec nodeId s s') :
    ∀ e r b snap, .enqueued e r b ∈ s'.log → codec.decode b = some snap → IsPage snap := by
  intro e r b snap m decode
  rcases change.enqueued_mem m with old | ⟨_, p, held, _, _, rfl⟩
  · exact inv.pages e r b snap old decode
  · rw [inv.held_of_payload held decode]
    exact (inv.read p held).1

/-- Enqueued pages are due until they are recorded. -/
lemma Synced.due_step (inv : Synced codec nodeId s) (change : Change codec nodeId s s') (grows : s.log ⊆ s'.log) :
    ∀ e r b snap, .enqueued e r b ∈ s'.log → codec.decode b = some snap → s'.db.sessionOf nodeId = some e →
      .recorded e r ∉ s'.log → Due nodeId s'.db snap := by
  intro e r b snap m decode session new
  have new₀ : .recorded e r ∉ s.log := fun recorded => new (grows recorded)
  rcases change.enqueued_mem m with sent | ⟨db, p, held, _, _, rfl⟩
  · have keep : s'.db = s.db → Due nodeId s'.db snap := by
      intro db
      rw [db] at session ⊢
      exact inv.due e r b snap sent decode session new₀
    cases change with
    | still db =>
      rcases db with same | ⟨_, st⟩
      · exact keep same
      · have due := inv.due e r b snap sent decode (st.sessionOf.symm.trans session) new₀
        obtain ⟨revision, bound⟩ := inv.revision_of_enqueued sent decode
        exact due.touch (st.touch inv.enrolled) (revision ▸ bound)
    | @prepared p _ _ id idle _ prepare =>
      -- the session waits for no page when it prepares one
      obtain ⟨session₀, db⟩ := prepare_eq_some prepare
      obtain ⟨_, pending, _⟩ := (inv.settled e r b sent).resolve_left new₀
      have one : e = p.epoch := by
        rw [db] at session
        exact Option.some.inj (session.symm.trans session₀)
      have stream := ((inv.session p.stream).drawn p.epoch id).1
      rw [← stream, ← one, pending.pending] at idle
      cases idle
    | enqueued _ _ db | wiped _ _ db | applied _ _ _ _ _ db => exact keep db
    | @cleared _ _ _ id unready _ _ db =>
      rw [db, sessionOf_reset, if_pos rfl] at session
      cases session
      cases unready.symm.trans (inv.ready_of_enqueued sent id)
    | @recorded e₀ _ _ _ applied _ new' _ confirm _ log =>
      -- the page of the epoch that was under way is the one recorded
      obtain ⟨session₀, db⟩ := confirm_eq_some confirm
      have one : e₀ = e := by
        rw [db] at session
        exact Option.some.inj (session₀.symm.trans session)
      subst one
      have same := inv.one_page sent (inv.sound.enqueued_of_applied applied) new₀ new'
      rw [log, same] at new
      exact absurd mem_cons_self new
  · rw [db, inv.held_of_payload held decode]
    exact (inv.read p held).2

/-- The node stays enrolled. -/
lemma Synced.enrolled_step (inv : Synced codec nodeId s) (change : Change codec nodeId s s') :
    nodeId ∈ s'.db.edgeNodes := by
  have same : s'.db.edgeNodes = s.db.edgeNodes := by
    cases change with
    | still db =>
      rcases db with same | ⟨_, st⟩
      · rw [same]
      · exact st.grows.1
    | prepared _ _ _ _ _ prepare =>
      obtain ⟨_, db⟩ := prepare_eq_some prepare
      rw [db]
      rfl
    | enqueued _ _ db | wiped _ _ db | applied _ _ _ _ _ db => rw [db]
    | cleared _ _ _ _ _ db =>
      rw [db]
      rfl
    | recorded _ _ _ _ _ confirm =>
      obtain ⟨_, db⟩ := confirm_eq_some confirm
      rw [db]
  rw [same]
  exact inv.enrolled

/-- Each step keeps the invariants. -/
lemma Synced.step {a} (inv : Synced codec nodeId s) (st : State.step codec nodeId s a = some s') :
    Synced codec nodeId s' := by
  have kind : Kind codec nodeId s s' := step_kind st
  have change := inv.change kind
  have entered := inv.toEntered.step st
  exact { entered with
    enrolled := inv.enrolled_step change
    closed := inv.closed_step change
    source := inv.source_step change kind.log
    rows := inv.rows_step change entered.sound
    known := inv.known_step change entered.sound
    read := inv.read_step change
    pages := inv.pages_step change
    due := inv.due_step change kind.log
    shown := inv.shown_step change kind.log entered.sound }

/-- A fresh cache is empty. -/
lemma Synced.init (fresh : Fresh nodeId s) : Synced codec nodeId s := by
  have nobody : ∀ u, ¬ s.edge.store.cacheRows.Lists u := by
    rw [fresh.cache]
    exact fun _ => not_lists_empty
  refine { Entered.init fresh with
    enrolled := fresh.enrolled
    closed := fresh.cache ▸ closed_empty
    source := fun u listed => absurd listed (nobody u)
    rows := fun u c row => ?_
    known := fun u listed => absurd listed (nobody u)
    read := ?_
    pages := ?_
    due := ?_
    shown := ?_ }
  · cases (fresh.outbox u).symm.trans row
  · rw [fresh.held]
    nofun
  · rw [fresh.log]
    nofun
  · rw [fresh.log]
    nofun
  · rw [fresh.log]
    nofun

/-! ## No update is lost -/

/-- Where the outbox row of a user is settled and the cache of the edge is in the session of the outbox, the
cache holds of the user what the node may see; a cached user for whom it does not has a row of the session
that asks for more; and a cache in another epoch holds nothing at all. -/
theorem no_update_lost (reach : (machine codec nodeId).Reachable s) :
    (∀ u c e, s.db.outboxRow u nodeId = some c → s.db.sessionOf nodeId = some e → c.sessionId = some e →
      c.desiredRevision ≤ c.appliedRevision → s.edge.epoch = some e →
      s.edge.store.cacheRows.recordsOf u = visibleRecords s.db nodeId u) ∧
    (∀ u, s.edge.store.cacheRows.Lists u →
      s.edge.store.cacheRows.recordsOf u ≠ visibleRecords s.db nodeId u →
      ∃ c, s.db.outboxRow u nodeId = some c ∧ c.sessionId = s.db.sessionOf nodeId ∧
        c.appliedRevision < c.desiredRevision) ∧
    (s.edge.epoch ≠ s.db.sessionOf nodeId → ∀ u, s.edge.store.cacheRows.recordsOf u = ∅) := by
  have inv : Synced codec nodeId s := reach.inv (fun _ => Synced.init) fun _ _ _ inv st => inv.step st
  refine ⟨fun u c e row session _ settled here => ?_, fun u listed differ => ?_, fun apart u => ?_⟩
  · exact (inv.rows u c row).fresh settled e here session
  · obtain ⟨c, row⟩ := inv.known u listed
    have ok := inv.rows u c row
    refine ⟨c, row, ok.session, not_le.mp fun settled => differ ?_⟩
    obtain ⟨e, _, _, here, session, _⟩ := inv.session_of_lists listed
    exact ok.fresh settled e here session
  · refine recordsOf_of_not_lists inv.closed fun listed => apart ?_
    obtain ⟨_, _, _, here, session, _⟩ := inv.session_of_lists listed
    rw [here, session]

/-- A user who may access the node. -/
def sampleUser : User := ⟨1, "ann", .user, .active, "", Nat.one_pos⟩

/-- A user is created and given access, and the edge gets the baseline. -/
def sampleChange : List Action :=
  [.mutate (.createUser sampleUser), .mutate (.saveUserNodeAccess 1 ["edge"])] ++ sampleSync

/-- The edge has the user, and when the user is banned the row asks for the change. -/
theorem no_update_lost_ban : ∃ s s' : State IdentitySnapshot,
    ((machine sampleCodec "edge").Reachable s ∧ s.edge.store.cacheRows.Lists 1 ∧
      s.edge.store.cacheRows.recordsOf 1 = visibleRecords s.db "edge" 1) ∧
    (machine sampleCodec "edge").Reachable s' ∧
      s'.edge.store.cacheRows.recordsOf 1 ≠ visibleRecords s'.db "edge" 1 ∧
      ∃ c, s'.db.outboxRow 1 "edge" = some c ∧ c.sessionId = s'.db.sessionOf "edge" ∧
        c.appliedRevision < c.desiredRevision := by
  have ran : (((machine sampleCodec "edge").run sampleStart sampleChange).map fun s =>
      (s.db.outboxRow 1 "edge", s.db.sessionOf "edge", s.edge.epoch, s.edge.store.cachedUsers.rows)) =
      some (some ⟨1, "edge", some ⟨0, 0⟩, 2, 2, true⟩, some ⟨0, 0⟩, some ⟨0, 0⟩, [sampleUser]) := by
    decide +kernel
  have ran' : (((machine sampleCodec "edge").run sampleStart
      (sampleChange ++ [.mutate (.setUserStatus 1 .banned "abuse")])).map fun s =>
        (s.edge.store.cachedUsers.rows, s.db.users.rows.map User.status)) =
      some ([sampleUser], [.banned]) := by decide +kernel
  obtain ⟨s, run, seen⟩ := map_eq_some_iff.mp ran
  obtain ⟨s', run', seen'⟩ := map_eq_some_iff.mp ran'
  simp only [Prod.mk.injEq] at seen seen'
  obtain ⟨row, session, epoch, cached⟩ := seen
  obtain ⟨cached', users⟩ := seen'
  have reach : (machine sampleCodec "edge").Reachable s := ⟨sampleStart, _, sampleStart_fresh, run⟩
  have reach' : (machine sampleCodec "edge").Reachable s' := ⟨sampleStart, _, sampleStart_fresh, run'⟩
  have listed : ∀ store : Edge.Store, store.cachedUsers.rows = [sampleUser] →
      sampleUser ∈ (store.cacheRows.recordsOf 1).users := by
    intro store rows
    refine ⟨?_, rfl⟩
    change sampleUser ∈ store.cachedUsers.rows
    rw [rows]
    exact mem_singleton_self _
  have differ : s'.edge.store.cacheRows.recordsOf 1 ≠ visibleRecords s'.db "edge" 1 := by
    intro same
    have here := listed _ cached'
    rw [same] at here
    have status : Status.active ∈ s'.db.users.rows.map User.status := mem_map_of_mem here.1
    rw [users] at status
    cases mem_singleton.mp status
  refine ⟨s, s', ⟨reach, ⟨sampleUser, listed _ cached⟩, ?_⟩, reach', differ, ?_⟩
  · exact (no_update_lost reach).1 1 _ ⟨0, 0⟩ row session rfl le_rfl epoch
  · exact (no_update_lost reach').2.1 1 ⟨sampleUser, listed _ cached'⟩ differ

/-- The edge has lost its connection and discarded its cache: the row of the user is settled, and the user is
not on the edge. -/
theorem settled_row_after_discard : ∃ s : State IdentitySnapshot,
    (machine sampleCodec "edge").Reachable s ∧ ∃ c e, s.db.outboxRow 1 "edge" = some c ∧
      s.db.sessionOf "edge" = some e ∧ c.sessionId = some e ∧ c.desiredRevision ≤ c.appliedRevision ∧
      s.edge.store.cacheRows.recordsOf 1 ≠ visibleRecords s.db "edge" 1 := by
  have ran : (((machine sampleCodec "edge").run sampleStart
      (sampleChange ++ [.fence, .cancel, .leave, .discardCache])).map fun s =>
        (s.db.outboxRow 1 "edge", s.db.sessionOf "edge", s.edge.store.cachedUsers.rows, s.db.users.rows,
          s.db.canAccessNode 1 "edge")) =
      some (some ⟨1, "edge", some ⟨0, 0⟩, 2, 2, true⟩, some ⟨0, 0⟩, [], [sampleUser], true) := by decide +kernel
  obtain ⟨s, run, seen⟩ := map_eq_some_iff.mp ran
  simp only [Prod.mk.injEq] at seen
  obtain ⟨row, session, cached, users, access⟩ := seen
  refine ⟨s, ⟨sampleStart, _, sampleStart_fresh, run⟩, _, ⟨0, 0⟩, row, session, rfl, le_rfl, fun same => ?_⟩
  have sees : sampleUser ∈ (visibleRecords s.db "edge" 1).users := by
    refine ⟨?_, rfl, access⟩
    change sampleUser ∈ s.db.users.rows
    rw [users]
    exact mem_singleton_self _
  rw [← same] at sees
  have stored : sampleUser ∈ s.edge.store.cachedUsers.rows := sees.1
  rw [cached] at stored
  cases stored

end State

end MeowFrp.Cluster
