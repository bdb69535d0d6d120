import MeowFrp.Cluster.Transfer

/-!
# Pages are recorded or pending

A page that was enqueued is recorded, or it is the one page that its session waits for; and a session has
not fallen behind what was recorded in its epoch.
-/

namespace MeowFrp.Cluster.State

open List

variable {Byte : Type} {codec : Codec Byte} {nodeId : String} {s s' : State Byte}

/-! ## What a step does to the sessions -/

/-- What a step does to the sessions and to the events about them. -/
inductive Moves (s s' : State Byte) : Prop
  /-- the sessions stay where they are, up to the fragment that is under way -/
  | still (sessions : ∀ k, (s.conns k).session.SameStage (s'.conns k).session)
      (enqueued : ∀ e r b, .enqueued e r b ∈ s'.log → .enqueued e r b ∈ s.log)
      (recorded : ∀ e r, .recorded e r ∈ s'.log → .recorded e r ∈ s.log)
  | drew {k} (others : ∀ j, j ≠ k → s'.conns j = s.conns j) (log : s'.log = s.log)
      (id : (s'.conns k).session.cacheSessionId = some (s.nextId k))
      (nothing : (s.conns k).session.pendingIdentity = none)
      (nothing' : (s'.conns k).session.pendingIdentity = none)
      (unready : (s'.conns k).session.cacheReady = false)
  | enqueued {p flag} (held : s.held = some p) (others : ∀ j, j ≠ p.stream → s'.conns j = s.conns j)
      (log : s'.log = .enqueued p.epoch p.snapshot.revision p.payload :: s.log)
      (session : (s'.conns p.stream).session =
        { (s.conns p.stream).session.startTransfer p.snapshot p.payload with needsBlockedIps := flag })
      (raised : (s.conns p.stream).session.needsBlockedIps = true → flag = true)
  | cleared {k epoch} (id : (s.conns k).session.cacheSessionId = some epoch)
      (unready : (s.conns k).session.cacheReady = false)
      (others : ∀ j, j ≠ k → s'.conns j = s.conns j) (log : s'.log = s.log)
      (session : (s'.conns k).session = (s.conns k).session.cacheCleared)
  | recorded {k epoch snapshot b} (id : (s.conns k).session.cacheSessionId = some epoch)
      (pending : (s.conns k).session.pendingIdentity = some snapshot)
      (applied : .applied epoch snapshot.revision b ∈ s.log)
      (others : ∀ j, j ≠ k → s'.conns j = s.conns j)
      (log : s'.log = .recorded epoch snapshot.revision :: s.log)
      (session : (s'.conns k).session = (s.conns k).session.confirmed snapshot)

/-- Every step is a move. -/
lemma Sent.moves (inv : Sent codec s) (kind : Kind codec nodeId s s') : Moves s s' := by
  have put : ∀ k (c : Conn Byte), (s.conns k).session.SameStage c.session →
      ∀ j, (s.conns j).session.SameStage ((s.setConn k c).conns j).session := fun k c same =>
    forall_setConn (Q := fun j c => (s.conns j).session.SameStage c.session) (fun _ => .refl) same
  cases kind with
  | calm calm =>
    exact .still (fun k => (calm.conns k).session.toSameStage) (fun _ _ _ => (calm.mem_log rfl).mp)
      fun _ _ => (calm.mem_log rfl).mp
  | registered | dialed | reported => exact .still (put _ _ .refl) (fun _ _ _ m => m) fun _ _ m => m
  | @drew k _ _ _ free session unready =>
    have quiet := ((inv.session k).quiet free).1
    refine .drew (k := k) (fun _ => setConn_other) rfl ?_ quiet ?_ ?_
    · refine (congrArg NodeSession.cacheSessionId setConn_session).trans ?_
      rw [session]
    · refine (congrArg NodeSession.pendingIdentity setConn_session).trans ?_
      rw [session]
      exact quiet
    · exact (congrArg NodeSession.cacheReady setConn_session).trans ((inv.session k).unready unready)
  | prepared =>
    exact .still (put _ _ ⟨rfl, rfl, rfl, rfl, rfl, rfl, rfl, rfl⟩) (fun _ _ _ m => m) fun _ _ m => m
  | enqueued held _ session flag =>
    exact .enqueued held (fun _ => setConn_other) rfl (setConn_session.trans session) flag
  | advanced _ _ _ session =>
    refine .still (put _ _ ?_) (fun _ _ _ m => m) fun _ _ m => m
    rw [session]
    exact ⟨rfl, rfl, rfl, rfl, rfl, rfl, rfl, rfl⟩
  | cleared _ _ _ id unready session =>
    exact .cleared id unready (fun _ => setConn_other) rfl (setConn_session.trans session)
  | @recorded k epoch revision _ _ _ _ job _ _ id _ pending same _ session =>
    obtain ⟨b, applied⟩ := (inv.wire k).ack epoch revision job
    subst same
    exact .recorded id pending applied (fun _ => setConn_other) rfl (setConn_session.trans session)
  | welcomed _ _ _ within =>
    exact .still (put _ _ within.session.toSameStage)
      (fun _ _ _ m => (mem_cons.mp m).resolve_left nofun)
      fun _ _ m => (mem_cons.mp m).resolve_left nofun
  | collected _ _ _ _ _ within =>
    exact .still (put _ _ within.session.toSameStage) (fun _ _ _ m => m) fun _ _ m => m
  | resetDone | appliedDone =>
    exact .still (fun _ => .refl) (fun _ _ _ m => (mem_cons.mp m).resolve_left nofun)
      fun _ _ m => (mem_cons.mp m).resolve_left nofun
  | _ => exact .still (fun _ => .refl) (fun _ _ _ m => m) fun _ _ m => m

/-- The page is the one that the session of its epoch waits for. -/
structure Pending (s : State Byte) (e : CacheSessionId) (snapshot : IdentitySnapshot) : Prop where
  id : (s.conns e.stream).session.cacheSessionId = some e
  pending : (s.conns e.stream).session.pendingIdentity = some snapshot

/-- What the session of an epoch knows about the pages recorded in it. -/
structure Caught (s : State Byte) (e : CacheSessionId) (r : Nat) : Prop where
  ready : (s.conns e.stream).session.cacheReady = true
  applied : r ≤ (s.conns e.stream).session.appliedRevision

/-- The invariants of this module. -/
structure Settled (codec : Codec Byte) (s : State Byte) : Prop extends Transfer codec s where
  settled : ∀ e r b, .enqueued e r b ∈ s.log →
    .recorded e r ∈ s.log ∨ ∃ snapshot, Pending s e snapshot ∧ snapshot.revision = r
  caught : ∀ e r, .recorded e r ∈ s.log → (s.conns e.stream).session.cacheSessionId = some e → Caught s e r

/-- The pending page is kept where the session stays. -/
lemma Pending.mono {e snapshot} (ok : Pending s e snapshot)
    (same : (s.conns e.stream).session.SameStage (s'.conns e.stream).session) : Pending s' e snapshot :=
  ⟨same.cacheSessionId.trans ok.id, same.pendingIdentity.trans ok.pending⟩

/-- A session that keeps its stage has caught up as before. -/
lemma Caught.mono {e r} (ok : Caught s e r)
    (same : (s.conns e.stream).session.SameStage (s'.conns e.stream).session) : Caught s' e r :=
  ⟨same.cacheReady.trans ok.ready, same.appliedRevision ▸ ok.applied⟩

/-- An epoch that was never entered left no trace in the log. -/
lemma Transfer.undrawn_log (inv : Transfer codec s) {e} (undrawn : (s.conns e.stream).drawn ≤ e.seq) :
    .reset e ∉ s.log := by
  intro entered
  have none := inv.undrawn e undrawn
  have some : 0 < s.log.countP (·.resets e) := by
    rw [countP_pos_iff]
    exact ⟨_, entered, decide_eq_true rfl⟩
  unfold uses at none
  omega

/-- What is recorded was applied, after a reset. -/
lemma Transfer.reset_of_recorded (inv : Transfer codec s) {e r} (m : .recorded e r ∈ s.log) :
    .reset e ∈ s.log := by
  obtain ⟨_, suffix⟩ := exists_suffix m
  obtain ⟨_, applied⟩ := inv.sound _ _ suffix
  exact inv.sound.reset_of_applied (suffix.subset (mem_cons_of_mem _ applied))

/-! ## Each step keeps them -/

lemma sameStage_of_eq {j : Nat} (same : s'.conns j = s.conns j) :
    (s.conns j).session.SameStage (s'.conns j).session := by
  rw [same]
  exact .refl

/-- What is enqueued is recorded or pending. -/
lemma Settled.settled_step (inv : Settled codec s) (kind : Kind codec nodeId s s') :
    ∀ e r b, .enqueued e r b ∈ s'.log →
      .recorded e r ∈ s'.log ∨ ∃ snapshot, Pending s' e snapshot ∧ snapshot.revision = r := by
  have grows := kind.log
  -- a page of a session that stays where it is
  have keep : ∀ e r b, .enqueued e r b ∈ s.log →
      (s.conns e.stream).session.SameStage (s'.conns e.stream).session →
      .recorded e r ∈ s'.log ∨ ∃ snapshot, Pending s' e snapshot ∧ snapshot.revision = r := by
    intro e r b m same
    rcases inv.settled e r b m with recorded | ⟨snapshot, pending, revision⟩
    · exact .inl (grows recorded)
    · exact .inr ⟨snapshot, pending.mono same, revision⟩
  intro e r b m
  cases inv.moves kind with
  | still sessions enqueued => exact keep e r b (enqueued e r b m) (sessions e.stream)
  | @drew k others log _ nothing =>
    rw [log] at m
    by_cases here : e.stream = k
    · rcases inv.settled e r b m with recorded | ⟨snapshot, pending, _⟩
      · exact .inl (grows recorded)
      · rw [← here, pending.pending] at nothing
        cases nothing
    · exact keep e r b m (sameStage_of_eq (others e.stream here))
  | @enqueued p _ held others log session =>
    have ok := inv.held p held
    have stream := ((inv.session p.stream).drawn p.epoch ok.id).1
    rw [log] at m
    rcases mem_cons.mp m with new | old
    · cases new
      refine .inr ⟨p.snapshot, ⟨?_, ?_⟩, rfl⟩
      · rw [stream, session]
        exact ok.id
      · rw [stream, session]
        rfl
    · by_cases here : e.stream = p.stream
      · rcases inv.settled e r b old with recorded | ⟨snapshot, pending, _⟩
        · exact .inl (grows recorded)
        · have idle := ok.idle
          rw [← here, pending.pending] at idle
          cases idle
      · exact keep e r b old (sameStage_of_eq (others e.stream here))
  | @cleared k _ _ unready others log =>
    rw [log] at m
    by_cases here : e.stream = k
    · rcases inv.settled e r b m with recorded | ⟨snapshot, pending, _⟩
      · exact .inl (grows recorded)
      · obtain ⟨_, _, ready, _⟩ := (inv.session e.stream).pending snapshot pending.pending
        rw [here, unready] at ready
        cases ready
    · exact keep e r b m (sameStage_of_eq (others e.stream here))
  | @recorded k _ _ _ id pending _ others log =>
    rw [log] at m ⊢
    have old := (mem_cons.mp m).resolve_left nofun
    by_cases here : e.stream = k
    · rcases inv.settled e r b old with recorded | ⟨_, pending', revision⟩
      · exact .inl (mem_cons_of_mem _ recorded)
      · -- the page that is recorded is the one that was pending
        subst here
        cases pending.symm.trans pending'.pending
        cases id.symm.trans pending'.id
        rw [← revision]
        exact .inl mem_cons_self
    · exact log ▸ keep e r b old (sameStage_of_eq (others e.stream here))

/-- A session has caught up with what is recorded. -/
lemma Settled.caught_step (inv : Settled codec s) (kind : Kind codec nodeId s s') :
    ∀ e r, .recorded e r ∈ s'.log → (s'.conns e.stream).session.cacheSessionId = some e → Caught s' e r := by
  -- a session that stays where it is
  have keep : ∀ e r, .recorded e r ∈ s.log → (s'.conns e.stream).session.cacheSessionId = some e →
      (s.conns e.stream).session.SameStage (s'.conns e.stream).session → Caught s' e r := by
    intro e r m id same
    exact (inv.caught e r m (same.cacheSessionId.symm.trans id)).mono same
  intro e r m id'
  cases inv.moves kind with
  | still sessions _ recorded => exact keep e r (recorded e r m) id' (sessions e.stream)
  | @drew k others log id nothing =>
    rw [log] at m
    by_cases here : e.stream = k
    · -- nothing was recorded in an epoch that is drawn only now
      rw [here] at id'
      have new : s.nextId k = e := Option.some.inj (id.symm.trans id')
      subst new
      exact absurd (inv.reset_of_recorded m) (inv.undrawn_log le_rfl)
    · exact keep e r m id' (sameStage_of_eq (others e.stream here))
  | @enqueued p _ _ others log session =>
    rw [log] at m
    have old := (mem_cons.mp m).resolve_left nofun
    by_cases here : e.stream = p.stream
    · have same : (s.conns e.stream).session.cacheSessionId = some e := by
        rw [here, session] at id'
        rw [here]
        exact id'
      obtain ⟨ready, applied⟩ := inv.caught e r old same
      rw [here] at ready applied
      constructor
      · rw [here, session]
        exact ready
      · rw [here, session]
        exact applied
    · exact keep e r old id' (sameStage_of_eq (others e.stream here))
  | @cleared k _ _ unready others log session =>
    rw [log] at m
    by_cases here : e.stream = k
    · have same : (s.conns e.stream).session.cacheSessionId = some e := by
        rw [here, session] at id'
        rw [here]
        exact id'
      have ready := (inv.caught e r m same).ready
      rw [here, unready] at ready
      cases ready
    · exact keep e r m id' (sameStage_of_eq (others e.stream here))
  | @recorded k _ snapshot _ id pending applied others log session =>
    rw [log] at m
    by_cases here : e.stream = k
    · obtain ⟨_, _, ready, _⟩ := (inv.session k).pending snapshot pending
      obtain ⟨_, _⟩ := (inv.session k).payload snapshot pending
      have same : (s.conns e.stream).session.cacheSessionId = some e := by
        rw [here, session] at id'
        rw [here]
        exact id'
      constructor
      · rw [here, session]
        exact ready
      · rw [here, session]
        change r ≤ snapshot.revision
        rcases mem_cons.mp m with new | old
        · cases new
          exact le_rfl
        · have applied := (inv.caught e r old same).applied
          rw [here] at applied
          omega
    · refine keep e r ((mem_cons.mp m).resolve_left ?_) id' (sameStage_of_eq (others e.stream here))
      rintro ⟨⟩
      exact here ((inv.session k).drawn e id).1

/-- Each step keeps the invariants. -/
lemma Settled.step {a} (inv : Settled codec s) (st : State.step codec nodeId s a = some s') :
    Settled codec s' :=
  have kind : Kind codec nodeId s s' := step_kind st
  { inv.toTransfer.step st with
    settled := inv.settled_step kind
    caught := inv.caught_step kind }

lemma Settled.init (fresh : Fresh nodeId s) : Settled codec s := by
  refine { Transfer.init fresh with settled := ?_, caught := ?_ }
  · rw [fresh.log]
    nofun
  · rw [fresh.log]
    nofun

end MeowFrp.Cluster.State
