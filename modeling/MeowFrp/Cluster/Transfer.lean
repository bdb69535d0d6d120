import MeowFrp.Cluster.Sessions
import MeowFrp.Edge.Apply

/-!
# The transfer is exact

Whatever the edge applies for a revision of an epoch is the payload that was enqueued for it, it is applied
once, and the controller records a revision only after that. The argument follows an epoch: its welcome is
delivered, queued and committed as a reset at most once (`uses`), so while the edge is in the epoch the
revisions it applies rise, and the jobs of its worker belong to the epoch that the store will be in when
they run (`Fits`). Fragments carry the revision, and a revision is enqueued once.
-/

namespace MeowFrp.Cluster

open Lib List

variable {Byte : Type}

/-! ## Histories -/

/-- The epoch of the last reset. -/
def lastReset (log : List (Event Byte)) : Option CacheSessionId :=
  log.findSome? fun
    | .reset e => some e
    | _ => none

variable {log : List (Event Byte)} {r : Receiver Byte}

/-- The last reset is in the log. -/
lemma mem_of_lastReset {e} (last : lastReset log = some e) : .reset e ∈ log := by
  obtain ⟨ev, m, same⟩ := exists_of_findSome?_eq_some last
  cases ev with
  | reset =>
    cases same
    exact m
  | _ => cases same

/-- What the events before an event say. -/
def Follows (before : List (Event Byte)) : Event Byte → Prop
  | .enqueued _ r _ => ∀ e b, .enqueued e r b ∉ before
  | .applied e r b =>
    .enqueued e r b ∈ before ∧ (∀ b', .applied e r b' ∉ before) ∧ lastReset before = some e
  | .recorded e r => ∃ b, .applied e r b ∈ before
  | _ => True

/-- Every event follows from the events before it. -/
def Sound (log : List (Event Byte)) : Prop := ∀ ev before, ev :: before <:+ log → Follows before ev

lemma sound_nil : Sound ([] : List (Event Byte)) := by
  intro ev before suffix
  cases suffix_nil.mp suffix

/-- An event that follows the others. -/
lemma sound_cons {ev : Event Byte} {log} (follows : Follows log ev) (sound : Sound log) :
    Sound (ev :: log) := by
  intro ev' before suffix
  rcases suffix_cons_iff.mp suffix with same | later
  · cases same
    exact follows
  · exact sound ev' before later

/-- Notes change nothing. -/
lemma sound_notes {notes : List (Event Byte)} (note : ∀ ev ∈ notes, ev.note = true) (sound : Sound log) :
    Sound (notes ++ log) := by
  induction notes with
  | nil => exact sound
  | cons ev _ ih =>
    obtain ⟨now, later⟩ := forall_mem_cons.mp note
    refine sound_cons ?_ (ih later)
    cases ev with
    | welcomed | faultNotice | confirmed => trivial
    | _ => cases now

/-- An event of the log with the events before it. -/
lemma exists_suffix {ev} (m : ev ∈ log) : ∃ before, ev :: before <:+ log := by
  obtain ⟨_, before, rfl⟩ := append_of_mem m
  exact ⟨before, suffix_append _ _⟩

/-- A revision is enqueued once. -/
lemma Sound.unique (sound : Sound log) {e e' r b b'}
    (m : .enqueued e r b ∈ log) (m' : .enqueued e' r b' ∈ log) : e = e' ∧ b = b' := by
  induction log with
  | nil => cases m
  | cons ev log ih =>
    have earlier : Sound log := fun ev' before suffix =>
      sound ev' before (suffix.trans (suffix_cons ev log))
    have now := sound ev log suffix_rfl
    rcases mem_cons.mp m with rfl | old
    · rcases mem_cons.mp m' with same | old'
      · cases same
        exact ⟨rfl, rfl⟩
      · exact absurd old' (now e' b')
    · rcases mem_cons.mp m' with rfl | old'
      · exact absurd old (now e b)
      · exact ih earlier old old'

/-- The edge applies what was enqueued. -/
lemma Sound.enqueued_of_applied (sound : Sound log) {e r b}
    (m : .applied e r b ∈ log) : .enqueued e r b ∈ log := by
  obtain ⟨_, suffix⟩ := exists_suffix m
  exact suffix.subset (mem_cons_of_mem _ (sound _ _ suffix).1)

/-- The edge applies pages of epochs it has reset for. -/
lemma Sound.reset_of_applied (sound : Sound log) {e r b}
    (m : .applied e r b ∈ log) : .reset e ∈ log := by
  obtain ⟨_, suffix⟩ := exists_suffix m
  obtain ⟨_, _, last⟩ := sound _ _ suffix
  exact suffix.subset (mem_cons_of_mem _ (mem_of_lastReset last))

/-- A page that is applied just now was not recorded. -/
lemma Sound.not_recorded {e r b}
    (sound : Sound (.applied e r b :: log)) : .recorded e r ∉ log := by
  intro recorded
  obtain ⟨_, once, _⟩ := sound _ _ suffix_rfl
  obtain ⟨_, suffix⟩ := exists_suffix recorded
  obtain ⟨b', applied⟩ := sound _ _ (suffix.trans (suffix_cons _ _))
  exact once b' (suffix.subset (mem_cons_of_mem _ applied))

/-! ## How often an epoch can be entered -/

/-- The message is a welcome to the epoch. -/
def DownMsg.welcomes (e : CacheSessionId) : DownMsg Byte → Bool
  | .welcome e' _ => e' = e
  | _ => false

/-- The job resets the cache for the epoch. -/
def ApplyJob.resets (e : CacheSessionId) : ApplyJob Byte → Bool
  | .cacheReset e' => e' = e
  | _ => false

/-- The event is a reset for the epoch. -/
def Event.resets (e : CacheSessionId) : Event Byte → Bool
  | .reset e' => e' = e
  | _ => false

/-- The job that the worker has taken and not run. -/
def Worker.load : Worker Byte → Option (ApplyJob Byte)
  | .loaded job => some job
  | _ => none

/-- The jobs that wait for the worker or for their transaction. -/
def Receiver.todo (r : Receiver Byte) : List (ApplyJob Byte) := r.applyJobs.toList ++ r.worker.load.toList

/-- How many resets for an epoch the edge has still to run. -/
def EdgeClient.resets (c : EdgeClient Byte) (e : CacheSessionId) : Nat :=
  match c.link with
  | none => 0
  | some r => r.todo.countP (·.resets e)

/-- The epoch the store is in once the worker has run its job. -/
def Receiver.afterWorker (r : Receiver Byte) (epoch : Option CacheSessionId) : Option CacheSessionId :=
  match r.worker with
  | .loaded (.cacheReset e) => some e
  | _ => epoch

/-- The epoch the store is in once the queued job was run as well. -/
def Receiver.afterJobs (r : Receiver Byte) (epoch : Option CacheSessionId) : Option CacheSessionId :=
  match r.applyJobs with
  | some (.cacheReset e) => some e
  | _ => r.afterWorker epoch

/-- A page is run in its own epoch; a failed worker runs nothing. -/
structure Fits (epoch : Option CacheSessionId) (r : Receiver Byte) : Prop where
  loaded : ∀ e rev b, r.worker = .loaded (.identitySnapshot e rev b) → epoch = some e
  queued : ∀ e rev b, r.applyJobs = some (.identitySnapshot e rev b) → r.afterWorker epoch = some e
  receiving : r.receiving = true → ∀ e, r.cacheSessionId = some e → r.afterJobs epoch = some e

/-- What the receiver has collected, and what it has handed on. -/
structure Collected (log : List (Event Byte)) (r : Receiver Byte) : Prop where
  buffer : r.receiving = true → r.chunkTotal ≤ r.chunkIndex ∨
    ∃ e b, .enqueued e r.chunkRevision b ∈ log ∧ (r.cacheSessionId = some e →
      r.chunkBuffer = b.take (r.chunkIndex * identityChunkBytes) ∧
      r.chunkTotal = chunkCount identityChunkBytes b)
  jobs : ∀ e rev b, .identitySnapshot e rev b ∈ r.todo → .enqueued e rev b ∈ log

/-- A receiver without further fragments and jobs. -/
lemma Collected.mono {log' : List (Event Byte)} {r' : Receiver Byte} (ok : Collected log r) (grows : log ⊆ log')
    (receiving : r'.receiving = true → r.receiving = true ∧ r'.cacheSessionId = r.cacheSessionId ∧
      r'.chunkBuffer = r.chunkBuffer ∧ r'.chunkRevision = r.chunkRevision ∧
      r'.chunkIndex = r.chunkIndex ∧ r'.chunkTotal = r.chunkTotal)
    (todo : r'.todo ⊆ r.todo) : Collected log' r' := by
  constructor
  · intro on
    obtain ⟨was, id, buffer, revision, index, total⟩ := receiving on
    rw [id, buffer, revision, index, total]
    refine (ok.buffer was).imp_right ?_
    rintro ⟨e, b, sent, rest⟩
    exact ⟨e, b, grows sent, rest⟩
  · intro e rev b m
    exact grows (ok.jobs e rev b (todo m))

/-- The same jobs in the same epoch. -/
lemma Fits.mono {epoch : Option CacheSessionId} {r' : Receiver Byte} (ok : Fits epoch r)
    (jobs : r'.applyJobs = r.applyJobs) (worker : r'.worker = r.worker)
    (receiving : r'.receiving = true → r.receiving = true ∧ r'.cacheSessionId = r.cacheSessionId) :
    Fits epoch r' := by
  have after : r'.afterWorker epoch = r.afterWorker epoch := by
    unfold Receiver.afterWorker
    rw [worker]
  constructor
  · rw [worker]
    exact ok.loaded
  · rw [jobs, after]
    exact ok.queued
  · intro on
    obtain ⟨was, id⟩ := receiving on
    unfold Receiver.afterJobs
    rw [id, jobs, after]
    exact ok.receiving was

/-- The worker has run its job, or has told about it. -/
lemma Fits.unload {epoch epoch' : Option CacheSessionId} {w : Worker Byte} {l : Nat}
    (ok : Fits epoch r) (done : r.afterWorker epoch = epoch') (idle : w.load = none) :
    Fits epoch' { r with worker := w, locallyAppliedRevision := l } := by
  have after : { r with worker := w, locallyAppliedRevision := l }.afterWorker epoch' = epoch' := by
    unfold Receiver.afterWorker
    cases w with
    | loaded => cases idle
    | _ => rfl
  refine ⟨?_, fun e rev b slot => ?_, fun on e same => ?_⟩
  · rintro e rev b rfl
    cases idle
  · rw [after, ← done]
    exact ok.queued e rev b slot
  · have now := ok.receiving on e same
    unfold Receiver.afterJobs at now ⊢
    rw [after, ← done]
    exact now

namespace State

/-- The welcomes to an epoch under way, and the resets for it that are queued or were committed. -/
def uses (s : State Byte) (e : CacheSessionId) : Nat :=
  (s.conns e.stream).content.countP (·.welcomes e) + s.edge.resets e + s.log.countP (·.resets e)

variable {codec : Codec Byte} {nodeId : String} {s s' : State Byte} {e : CacheSessionId}

variable {c : EdgeClient Byte} {r : Receiver Byte}

/-- The resets queued on a connection. -/
lemma resets_of_link {r} (link : c.link = some r) :
    c.resets e = r.todo.countP (·.resets e) := by
  unfold EdgeClient.resets
  rw [link]

/-- Without a connection no reset is queued. -/
lemma resets_of_none (link : c.link = none) : c.resets e = 0 := by
  unfold EdgeClient.resets
  rw [link]

/-- A calm step queues no reset. -/
lemma resets_calmer {c' : EdgeClient Byte} (calmer : c.Calmer c') : c'.resets e = c.resets e := by
  obtain ⟨none, none'⟩ | ⟨_, _, link, link', same⟩ := calmer.link
  · rw [resets_of_none none, resets_of_none none']
  · rw [resets_of_link link, resets_of_link link']
    unfold Receiver.todo
    rw [same.applyJobs, same.worker]

/-- A connection that has no further jobs. -/
lemma resets_le {c' : EdgeClient Byte} {r r'} (link : c.link = some r) (link' : c'.link = some r')
    (todo : r'.todo <+~ r.todo) : c'.resets e ≤ c.resets e := by
  rw [resets_of_link link, resets_of_link link']
  exact todo.countP_le _

/-- Notes are no resets. -/
lemma countP_notes {notes : List (Event Byte)} (note : ∀ ev ∈ notes, ev.note = true) :
    notes.countP (·.resets e) = 0 := by
  rw [countP_eq_zero]
  intro ev m
  have fact := note ev m
  cases ev <;> first | exact Bool.false_ne_true | cases fact

/-- A message that is no welcome does not count. -/
lemma countP_content {c c' : Conn Byte} {m : DownMsg Byte} (content : c'.content <+~ m :: c.content)
    (no : m.welcomes e = false) : c'.content.countP (·.welcomes e) ≤ c.content.countP (·.welcomes e) := by
  refine (content.countP_le _).trans ?_
  rw [countP_cons_of_neg (by rw [no]; exact Bool.false_ne_true)]

/-- Welcomes and resets become fewer. -/
lemma uses_le (content : (s'.conns e.stream).content.countP (·.welcomes e) ≤
      (s.conns e.stream).content.countP (·.welcomes e))
    (edge : s'.edge.resets e ≤ s.edge.resets e)
    (log : s'.log.countP (·.resets e) = s.log.countP (·.resets e)) : s'.uses e ≤ s.uses e := by
  unfold uses
  rw [log]
  omega

/-- Only drawing an epoch adds to its uses. -/
lemma uses_step (inv : Sent codec s) (kind : Kind codec nodeId s s') :
    s'.uses e ≤ s.uses e ∨
      ∃ k, e = s.nextId k ∧ s'.uses e ≤ s.uses e + 1 ∧ (s'.conns k).drawn = (s.conns k).drawn + 1 := by
  -- the number of welcomes on a stream that is replaced
  have put : ∀ k (c : Conn Byte),
      c.content.countP (·.welcomes e) ≤ (s.conns k).content.countP (·.welcomes e) →
      ((s.setConn k c).conns e.stream).content.countP (·.welcomes e) ≤
        (s.conns e.stream).content.countP (·.welcomes e) := fun k c le =>
    forall_setConn (Q := fun j c => c.content.countP (·.welcomes e) ≤
      (s.conns j).content.countP (·.welcomes e)) (fun _ => le_rfl) le e.stream
  have skip : ∀ {ev : Event Byte}, ev.resets e = false →
      (ev :: s.log).countP (·.resets e) = s.log.countP (·.resets e) := fun no =>
    countP_cons_of_neg (by rw [no]; exact Bool.false_ne_true)
  cases kind with
  | calm calm =>
    obtain ⟨_, log, note⟩ := calm.log
    refine .inl (uses_le ((calm.conns e.stream).content.countP_le _) (resets_calmer calm.edge).le ?_)
    rw [log, countP_append, countP_notes note, Nat.zero_add]
  | registered | prepared => exact .inl (uses_le (put _ _ le_rfl) le_rfl rfl)
  | @drew k c _ _ _ _ _ drawn _ content =>
    by_cases new : e = s.nextId k
    · refine .inr ⟨k, new, ?_, ?_⟩
      · have count := content.countP_le (·.welcomes e)
        rw [countP_cons] at count
        subst new
        unfold uses
        change ((s.setConn k c).conns k).content.countP _ + s.edge.resets _ + s.log.countP _ ≤
          (s.conns k).content.countP _ + _ + _ + 1
        rw [setConn_self]
        split at count <;> omega
      · change ((s.setConn k c).conns k).drawn = _
        rw [setConn_self]
        exact drawn
    · exact .inl (uses_le (put k c (countP_content content (decide_eq_false (Ne.symm new)))) le_rfl rfl)
  | enqueued _ _ _ _ _ _ content | recorded _ _ _ _ _ _ _ _ _ _ _ content =>
    exact .inl (uses_le (put _ _ (countP_content content rfl)) le_rfl (skip rfl))
  | advanced _ _ _ _ _ _ content =>
    refine .inl (uses_le (put _ _ ?_) le_rfl rfl)
    rcases content with fewer | ⟨_, more⟩
    · exact fewer.countP_le _
    · exact countP_content more rfl
  | cleared _ _ _ _ _ _ _ _ content =>
    refine .inl (uses_le (put _ _ ?_) le_rfl rfl)
    rw [content]
  | dialed free => exact .inl (uses_le (put _ _ le_rfl) (resets_of_none free).ge rfl)
  | @welcomed r _ epoch fault c edge link _ empty within content link' =>
    -- the welcome leaves the stream and the reset enters the queue
    have popped : c.content.countP (·.welcomes e) + (if epoch = e then 1 else 0) ≤
        (s.conns r.stream).content.countP (·.welcomes e) := by
      simpa [countP_cons, DownMsg.welcomes] using content.countP_le (·.welcomes e)
    have queued : edge.resets e = s.edge.resets e + if epoch = e then 1 else 0 := by
      rw [resets_of_link link, resets_of_link link']
      simp [Receiver.todo, empty, countP_cons, ApplyJob.resets]
    have fewer := put _ c (within.content.countP_le _)
    refine .inl ?_
    change ((s.setConn r.stream c).conns e.stream).content.countP _ + edge.resets e +
      (Event.welcomed epoch :: s.log).countP _ ≤ _
    unfold uses
    rw [skip rfl, queued]
    split at popped
    · rename_i same
      subst same
      have stream := (inv.wire r.stream).welcome epoch fault (content.subset mem_cons_self)
      rw [if_pos rfl, stream.1, setConn_self]
      omega
    · rename_i other
      rw [if_neg other]
      omega
  | @collected _ _ edge _ _ index total _ _ link _ _ _ _ within link' empty =>
    refine .inl (uses_le (put _ _ (within.content.countP_le _)) ?_ rfl)
    change edge.resets e ≤ _
    rw [resets_of_link link, resets_of_link link']
    by_cases done : index + 1 = total
    · simp [Receiver.todo, done, empty done, ApplyJob.resets]
    · simp [Receiver.todo, done]
  | taken link worker slot =>
    refine .inl (uses_le le_rfl (resets_le link rfl ?_) rfl)
    unfold Receiver.todo
    rw [slot, worker]
    exact .refl _
  | @resetDone r epoch link worker =>
    refine .inl ?_
    have before : s.edge.resets e = r.applyJobs.toList.countP (·.resets e) + if epoch = e then 1 else 0 := by
      rw [resets_of_link link]
      simp [Receiver.todo, worker, Worker.load, countP_cons, ApplyJob.resets]
    have log : (Event.reset epoch :: s.log).countP (·.resets e) =
        s.log.countP (·.resets e) + if epoch = e then 1 else 0 := by
      simp [countP_cons, Event.resets]
    unfold uses
    rw [before]
    change (s.conns e.stream).content.countP _ + (r.applyJobs.toList ++ []).countP _ +
      (Event.reset epoch :: s.log).countP _ ≤ _
    rw [log, append_nil]
    exact le_of_eq (by omega)
  | appliedDone link =>
    refine .inl (uses_le le_rfl (resets_le link rfl ?_) (skip rfl))
    exact (List.Sublist.append_left (nil_sublist _) _).subperm
  | workerFailed link =>
    refine .inl (uses_le le_rfl (resets_le link rfl ?_) rfl)
    exact (List.Sublist.append_left (nil_sublist _) _).subperm
  | reported link worker =>
    refine .inl (uses_le (put _ _ le_rfl) (resets_le link rfl ?_) rfl)
    unfold Receiver.todo
    rw [worker]
    exact .refl _
  | left => exact .inl (uses_le le_rfl (Nat.zero_le _) rfl)
  | discarded => exact .inl (uses_le le_rfl le_rfl rfl)

/-! ## The invariants -/

/-- The epoch and the revision of the store, as the log knows them. -/
structure EpochOk (s : State Byte) (e : CacheSessionId) : Prop where
  last : lastReset s.log = some e
  revision : ∀ r b, .applied e r b ∈ s.log → ∃ l, s.edge.store.lastRevision = some l ∧ r ≤ l

/-- The invariants of the transfer. -/
structure Transfer (codec : Codec Byte) (s : State Byte) : Prop extends Sent codec s where
  linear : ∀ e, s.uses e ≤ 1
  undrawn : ∀ e, (s.conns e.stream).drawn ≤ e.seq → s.uses e = 0
  collected : ∀ r, s.edge.link = some r → Collected s.log r
  fits : ∀ r, s.edge.link = some r → r.worker ≠ .failed → Fits s.edge.epoch r
  epoch : ∀ e, s.edge.epoch = some e → EpochOk s e
  sound : Sound s.log

/-- Epochs are drawn one after the other. -/
lemma Kind.drawn (kind : Kind codec nodeId s s') (k : Nat) : (s.conns k).drawn ≤ (s'.conns k).drawn := by
  have put : ∀ j (c : Conn Byte), (s.conns j).drawn ≤ c.drawn →
      (s.conns k).drawn ≤ ((s.setConn j c).conns k).drawn := fun j c le =>
    forall_setConn (Q := fun j c => (s.conns j).drawn ≤ c.drawn) (fun _ => le_rfl) le k
  cases kind with
  | calm calm => exact (calm.conns k).drawn.ge
  | registered | prepared | dialed | reported => exact put _ _ le_rfl
  | drew _ _ _ _ drawn => exact put _ _ (drawn.ge.trans' (Nat.le_succ _))
  | enqueued _ _ _ _ drawn | advanced _ _ _ _ drawn | cleared _ _ _ _ _ _ drawn
  | recorded _ _ _ _ _ _ _ _ _ drawn => exact put _ _ drawn.ge
  | welcomed _ _ _ within | collected _ _ _ _ _ within => exact put _ _ within.drawn.ge
  | _ => exact le_rfl

/-- An epoch is used once, and not before it is drawn. -/
lemma Transfer.linear_step (inv : Transfer codec s) (kind : Kind codec nodeId s s') :
    s'.uses e ≤ 1 ∧ ((s'.conns e.stream).drawn ≤ e.seq → s'.uses e = 0) := by
  rcases uses_step (e := e) inv.toSent kind with fewer | ⟨k, new, _, drawn⟩
  · refine ⟨fewer.trans (inv.linear e), fun above => ?_⟩
    have none := inv.undrawn e ((kind.drawn e.stream).trans above)
    omega
  · subst new
    -- nothing used the epoch before it was drawn
    have none := inv.undrawn (s.nextId k) le_rfl
    refine ⟨by omega, fun above => ?_⟩
    change (s'.conns k).drawn ≤ (s.conns k).drawn at above
    omega

/-! ## Each step keeps them -/

/-- Fragments of one page are collected. -/
lemma Transfer.collected_step (inv : Transfer codec s) (kind : Kind codec nodeId s s') :
    ∀ r, s'.edge.link = some r → Collected s'.log r := by
  have grows := kind.log
  intro r' link'
  have keep : ∀ r, s.edge.link = some r →
      (r'.receiving = true → r.receiving = true ∧ r'.cacheSessionId = r.cacheSessionId ∧
        r'.chunkBuffer = r.chunkBuffer ∧ r'.chunkRevision = r.chunkRevision ∧
        r'.chunkIndex = r.chunkIndex ∧ r'.chunkTotal = r.chunkTotal) →
      r'.todo ⊆ r.todo → Collected s'.log r' := fun r link receiving todo =>
    (inv.collected r link).mono grows receiving todo
  cases kind with
  | calm calm =>
    obtain ⟨r, link, same⟩ := calm.edge.linked link'
    refine keep r link same.receiving ?_
    unfold Receiver.todo
    rw [same.applyJobs, same.worker]
    exact fun _ m => m
  | dialed =>
    cases link'
    exact ⟨fun _ => .inl le_rfl, nofun⟩
  | @welcomed r _ epoch fault _ _ link receiving _ _ content link₁ =>
    cases link₁.symm.trans link'
    have ok := inv.collected r link
    constructor
    · intro _
      refine (ok.buffer receiving).imp_right ?_
      rintro ⟨e, b, sent, _⟩
      refine ⟨e, b, grows sent, fun same => ?_⟩
      -- the epoch of the collected page was entered before, so there is no other welcome to it
      cases same
      have entered := inv.opened _ _ _ sent
      have linear := inv.linear epoch
      have welcome := content.subset mem_cons_self
      have stream := ((inv.wire r.stream).welcome epoch fault welcome).1
      have one : 0 < (s.conns epoch.stream).content.countP (·.welcomes epoch) := by
        rw [countP_pos_iff, stream]
        exact ⟨_, welcome, decide_eq_true rfl⟩
      have two : 0 < s.log.countP (·.resets epoch) := by
        rw [countP_pos_iff]
        exact ⟨_, entered, decide_eq_true rfl⟩
      unfold uses at linear
      omega
    · intro e rev b m
      rcases mem_append.mp m with queued | loaded
      · cases mem_singleton.mp queued
      · exact grows (ok.jobs e rev b (mem_append_right _ loaded))
  | @collected r _ _ epoch _ index total data _ link receiving id chunk next _ link₁ =>
    cases link₁.symm.trans link'
    have ok := inv.collected r link
    obtain ⟨b, sent, totals, slice, _⟩ := (inv.wire r.stream).chunk _ _ _ _ _ _ chunk
    -- the buffer holds the payload up to the fragment
    have assembled : index < total →
        r.chunkBuffer ++ data = b.take ((index + 1) * identityChunkBytes) := by
      intro more
      have before : r.chunkBuffer = b.take (index * identityChunkBytes) := by
        rcases next with ⟨zero, clean⟩ | ⟨_, indices, _, revisions⟩
        · rw [clean, zero, Nat.zero_mul, take_zero]
        · rcases ok.buffer receiving with past | ⟨e, b', sent', rest⟩
          · omega
          · rw [← revisions] at sent'
            obtain ⟨rfl, rfl⟩ := inv.sound.unique sent sent'
            rw [indices]
            exact (rest id).1
      rw [before, slice]
      exact take_append_chunk
    constructor
    · intro _
      rcases Nat.lt_or_ge index total with more | past
      · by_cases done : index + 1 = total
        · exact .inl (le_of_eq done.symm)
        · refine .inr ⟨epoch, b, sent, fun _ => ⟨?_, totals⟩⟩
          change (if index + 1 = total then [] else r.chunkBuffer ++ data) = _
          rw [if_neg done]
          exact assembled more
      · exact .inl (past.trans (Nat.le_succ _))
    · intro e rev b' m
      rcases mem_append.mp m with queued | loaded
      · change _ ∈ (if index + 1 = total then _ else r.applyJobs).toList at queued
        split at queued
        · rename_i done
          cases mem_singleton.mp queued
          have all : r.chunkBuffer ++ data = b := by
            rw [assembled (by omega), done, totals]
            exact take_chunkCount identityChunkBytes_pos
          rw [all]
          exact sent
        · exact ok.jobs e rev b' (mem_append_left _ queued)
      · exact ok.jobs e rev b' (mem_append_right _ loaded)
  | @taken r _ link worker slot =>
    cases link'
    refine keep r link (fun on => ⟨on, rfl, rfl, rfl, rfl, rfl⟩) ?_
    unfold Receiver.todo
    rw [slot, worker]
    exact fun _ m => m
  | resetDone link | appliedDone link | workerFailed link | reported link =>
    cases link'
    exact keep _ link (fun on => ⟨on, rfl, rfl, rfl, rfl, rfl⟩)
      (List.Sublist.append_left (nil_sublist _) _).subset
  | left => cases link'
  | discarded free => cases free.symm.trans link'
  | _ => exact keep r' link' (fun on => ⟨on, rfl, rfl, rfl, rfl, rfl⟩) fun _ m => m

/-- The jobs belong to the epochs they run in. -/
lemma Transfer.fits_step (inv : Transfer codec s) (kind : Kind codec nodeId s s') :
    ∀ r, s'.edge.link = some r → r.worker ≠ .failed → Fits s'.edge.epoch r := by
  intro r' link' runs
  cases kind with
  | calm calm =>
    obtain ⟨r, link, same⟩ := calm.edge.linked link'
    rw [calm.edge.epoch]
    rw [same.worker] at runs
    exact (inv.fits r link runs).mono same.applyJobs same.worker
      fun on => ⟨(same.receiving on).1, (same.receiving on).2.1⟩
  | dialed =>
    cases link'
    exact ⟨nofun, nofun, nofun⟩
  | @welcomed r _ _ _ _ edge link _ _ _ _ link₁ _ epoch' =>
    cases link₁.symm.trans link'
    change Fits edge.epoch _
    rw [epoch']
    have ok := inv.fits r link runs
    refine ⟨ok.loaded, nofun, ?_⟩
    rintro _ e ⟨⟩
    rfl
  | @collected r _ edge epoch _ index total _ _ link receiving id _ _ _ link₁ empty _ epoch' =>
    cases link₁.symm.trans link'
    change Fits edge.epoch _
    rw [epoch']
    have ok := inv.fits r link runs
    have now := ok.receiving receiving epoch id
    by_cases done : index + 1 = total
    · -- the channel was empty, so nothing stands between the worker's job and the page
      unfold Receiver.afterJobs at now
      rw [empty done] at now
      simp only [if_pos done]
      refine ⟨ok.loaded, ?_, ?_⟩
      · rintro e rev b ⟨⟩
        exact now
      · intro _ e same
        cases id.symm.trans same
        exact now
    · simp only [if_neg done]
      refine ⟨ok.loaded, ok.queued, ?_⟩
      intro _ e same
      cases id.symm.trans same
      exact now
  | @taken r job link worker slot =>
    cases link'
    have ok := inv.fits r link (by rw [worker]; nofun)
    have idle : r.afterWorker s.edge.epoch = s.edge.epoch := by
      unfold Receiver.afterWorker
      rw [worker]
    refine ⟨?_, nofun, ?_⟩
    · rintro e rev b ⟨⟩
      rw [← idle]
      exact ok.queued e rev b slot
    · intro on e same
      have now := ok.receiving on e same
      unfold Receiver.afterJobs at now
      rw [slot] at now
      cases job with
      | cacheReset => exact now
      | identitySnapshot => exact idle.symm.trans now
  | @resetDone r epoch link worker =>
    cases link'
    have ok := inv.fits r link (by rw [worker]; nofun)
    have done : r.afterWorker s.edge.epoch = some epoch := by
      unfold Receiver.afterWorker
      rw [worker]
    exact ok.unload done rfl
  | @appliedDone r _ _ _ _ _ _ link worker | @reported r _ link worker =>
    cases link'
    have ok := inv.fits r link (by rw [worker]; nofun)
    have done : r.afterWorker s.edge.epoch = s.edge.epoch := by
      unfold Receiver.afterWorker
      rw [worker]
    exact ok.unload done rfl
  | workerFailed =>
    cases link'
    exact absurd rfl runs
  | left => cases link'
  | discarded free => cases free.symm.trans link'
  | _ => exact inv.fits r' link' runs

/-- Steps that neither reset nor apply. -/
lemma EpochOk.mono (ok : EpochOk s e) (store : s'.edge.store = s.edge.store)
    (last : lastReset s'.log = lastReset s.log)
    (applied : ∀ r b, .applied e r b ∈ s'.log → .applied e r b ∈ s.log) : EpochOk s' e := by
  refine ⟨last.trans ok.last, fun r b m => ?_⟩
  rw [store]
  exact ok.revision r b (applied r b m)

/-- Notes keep the last reset. -/
lemma lastReset_notes {notes log : List (Event Byte)} (note : ∀ ev ∈ notes, ev.note = true) :
    lastReset (notes ++ log) = lastReset log := by
  induction notes with
  | nil => rfl
  | cons ev _ ih =>
    obtain ⟨now, later⟩ := forall_mem_cons.mp note
    refine Eq.trans ?_ (ih later)
    cases ev <;> first | rfl | cases now

/-- A page that is about to be applied was enqueued for the epoch of the store. -/
lemma Transfer.loaded (inv : Transfer codec s) {e revision payload}
    (link : s.edge.link = some r) (worker : r.worker = .loaded (.identitySnapshot e revision payload)) :
    .enqueued e revision payload ∈ s.log ∧ s.edge.epoch = some e := by
  constructor
  · refine (inv.collected r link).jobs e revision payload (mem_append_right _ ?_)
    rw [worker]
    exact mem_singleton_self _
  · have runs : r.worker ≠ .failed := by
      rw [worker]
      nofun
    exact (inv.fits r link runs).loaded e revision payload worker

/-- The cache is reset for an epoch once. -/
lemma Transfer.reset_once (inv : Transfer codec s) (link : s.edge.link = some r)
    (worker : r.worker = .loaded (.cacheReset e)) : .reset e ∉ s.log := by
  intro entered
  have one : 0 < s.log.countP (·.resets e) := by
    rw [countP_pos_iff]
    exact ⟨_, entered, decide_eq_true rfl⟩
  have two : 0 < s.edge.resets e := by
    rw [resets_of_link link, countP_pos_iff]
    refine ⟨.cacheReset e, mem_append_right _ ?_, decide_eq_true rfl⟩
    rw [worker]
    exact mem_singleton_self _
  have linear := inv.linear e
  unfold uses at linear
  omega

/-- What the worker applies is newer than what it has applied before. -/
lemma Transfer.newer (inv : Transfer codec s) {e revision payload snapshot}
    (link : s.edge.link = some r) (worker : r.worker = .loaded (.identitySnapshot e revision payload))
    (decode : codec.decode payload = some snapshot)
    (check : s.edge.store.checkSnapshot snapshot = .ok ()) :
    ∀ l, s.edge.store.lastRevision = some l → l < snapshot.revision := by
  obtain ⟨sent, _⟩ := inv.loaded link worker
  obtain ⟨_, encoded, _, paged⟩ := (inv.enqueued _ _ _ sent).2
  rw [encoded, codec.decode_encode] at decode
  cases decode
  exact Edge.Store.check_newer paged.kind check

/-- The store is in the epoch of its last reset. -/
lemma Transfer.epoch_step (inv : Transfer codec s) (kind : Kind codec nodeId s s') :
    ∀ e, s'.edge.epoch = some e → EpochOk s' e := by
  intro e epoch
  cases kind with
  | calm calm =>
    rw [calm.edge.epoch] at epoch
    obtain ⟨_, log, note⟩ := calm.log
    refine (inv.epoch e epoch).mono calm.edge.store ?_ fun r b => (calm.mem_log rfl).mp
    rw [log]
    exact lastReset_notes note
  | enqueued | recorded =>
    exact (inv.epoch e epoch).mono rfl rfl fun _ _ m => (mem_cons.mp m).resolve_left nofun
  | dialed | discarded => cases epoch
  | welcomed _ _ _ _ _ _ store epoch' =>
    exact (inv.epoch e (epoch'.symm.trans epoch)).mono store rfl
      fun _ _ m => (mem_cons.mp m).resolve_left nofun
  | collected _ _ _ _ _ _ _ _ store epoch' =>
    exact (inv.epoch e (epoch'.symm.trans epoch)).mono store rfl fun _ _ m => m
  | @resetDone _ _ link worker =>
    cases epoch
    refine ⟨rfl, fun rev b m => ?_⟩
    -- a page of the epoch would have been applied after another reset for it
    have entered := inv.sound.reset_of_applied ((mem_cons.mp m).resolve_left nofun)
    exact absurd entered (inv.reset_once link worker)
  | @appliedDone _ _ _ _ snapshot _ _ link worker decode same apply =>
    obtain ⟨_, here⟩ := inv.loaded link worker
    cases here.symm.trans epoch
    obtain ⟨last, older⟩ := inv.epoch e epoch
    obtain ⟨check, _, _, rfl⟩ := Edge.Store.apply_inv apply
    refine ⟨last, fun rev b m => ⟨snapshot.revision, rfl, ?_⟩⟩
    rcases mem_cons.mp m with new | old
    · cases new
      exact same.ge
    · obtain ⟨l, stored, le⟩ := older rev b old
      exact le.trans (inv.newer link worker decode check l stored).le
  | _ => exact (inv.epoch e epoch).mono rfl rfl fun _ _ m => m

/-- Every event follows those before it. -/
lemma Transfer.sound_step (inv : Transfer codec s) (kind : Kind codec nodeId s s') : Sound s'.log := by
  cases kind with
  | calm calm =>
    obtain ⟨_, log, note⟩ := calm.log
    rw [log]
    exact sound_notes note inv.sound
  | @enqueued p _ held =>
    refine sound_cons (fun e b m => ?_) inv.sound
    exact absurd ((inv.held p held).newest e _ b m) (lt_irrefl _)
  | @recorded k epoch revision _ _ _ _ job =>
    exact sound_cons ((inv.wire k).ack epoch revision job) inv.sound
  | welcomed | resetDone => exact sound_cons trivial inv.sound
  | @appliedDone _ e revision _ _ _ _ link worker decode _ apply =>
    obtain ⟨sent, here⟩ := inv.loaded link worker
    obtain ⟨last, older⟩ := inv.epoch e here
    obtain ⟨check, _⟩ := Edge.Store.apply_inv apply
    refine sound_cons ⟨sent, fun b m => ?_, last⟩ inv.sound
    obtain ⟨l, stored, _⟩ := older revision b m
    have newer := inv.newer link worker decode check l stored
    omega
  | _ => exact inv.sound

/-- Each step keeps the invariants. -/
lemma Transfer.step {a} (inv : Transfer codec s) (st : State.step codec nodeId s a = some s') :
    Transfer codec s' :=
  have kind : Kind codec nodeId s s' := step_kind st
  { inv.toSent.step st with
    linear := fun _ => (inv.linear_step kind).1
    undrawn := fun _ => (inv.linear_step kind).2
    collected := inv.collected_step kind
    fits := inv.fits_step kind
    epoch := inv.epoch_step kind
    sound := inv.sound_step kind }

/-- A fresh node has transferred nothing. -/
lemma Transfer.init (fresh : Fresh nodeId s) : Transfer codec s := by
  have none : ∀ e, s.uses e = 0 := by
    intro e
    unfold uses
    rw [fresh.conns, resets_of_none fresh.link, fresh.log]
    rfl
  refine { Sent.init fresh with linear := ?_, undrawn := ?_, collected := ?_, fits := ?_, epoch := ?_, sound := ?_ }
  · intro e
    rw [none]
    exact Nat.zero_le 1
  · exact fun e _ => none e
  · rw [fresh.link]
    nofun
  · rw [fresh.link]
    nofun
  · rw [fresh.epoch]
    nofun
  · rw [fresh.log]
    exact sound_nil

/-- The invariants hold in every reachable state. -/
lemma Transfer.of_reachable (reach : (machine codec nodeId).Reachable s) : Transfer codec s :=
  reach.inv (fun _ => Transfer.init) fun _ _ _ => Transfer.step

/-- The page that is acknowledged was applied. -/
lemma Transfer.applied_of_ack (inv : Transfer codec s) {k e snapshot}
    (ack : .identityAck e snapshot.revision ∈ (s.conns k).inbound)
    (pending : (s.conns k).session.pendingIdentity = some snapshot) :
    ∃ payload, .applied e snapshot.revision payload ∈ s.log ∧ codec.decode payload = some snapshot := by
  obtain ⟨payload, applied⟩ := (inv.wire k).ack e snapshot.revision ack
  obtain ⟨_, _, _, sent⟩ := (inv.session k).pending snapshot pending
  obtain ⟨decode, _⟩ := (inv.session k).payload snapshot pending
  -- a revision is enqueued once, so this is the payload of the page
  obtain ⟨_, same⟩ := inv.sound.unique (inv.sound.enqueued_of_applied applied) sent
  refine ⟨payload, applied, ?_⟩
  rw [same]
  exact decode

/-! ## Messages that come late -/

/-- The epoch is not the session's, or the revision was recorded. -/
def Late (σ : NodeSession Byte) (epoch : CacheSessionId) (revision : Nat) : Prop :=
  some epoch ≠ σ.cacheSessionId ∨ revision ≤ σ.appliedRevision

/-- A late acknowledgement or progress. -/
def LateMsg (σ : NodeSession Byte) : UpMsg → Prop
  | .identityChunkAck epoch revision _ => Late σ epoch revision
  | .identityProgress epoch revision _ => Late σ epoch revision
  | .identityAck epoch revision => Late σ epoch revision
  | _ => False

/-- Only messages from the edge are gone, and a stream that is not current may end. -/
def Unmoved (k : Nat) (s s' : State Byte) : Prop :=
  ∃ up jobs hungUp, s' = s.setConn k { s.conns k with up, jobs, hungUp } ∧
    (s.current = some k → hungUp = (s.conns k).hungUp)

/-- Ending a stream that is not current. -/
lemma hangUp_superseded {k} {c : Conn Byte} (superseded : s.current ≠ some k) :
    (s.setConn k c).hangUp k = s.setConn k { c with hungUp := true } := by
  rw [hangUp_setConn, if_neg superseded]
  rfl

/-- A late message is ignored, or ends a stream that is not current. -/
lemma acceptIdentityProgress_late {σ : NodeSession Byte} {current progress epoch revision sequence}
    (late : Late σ epoch revision) :
    σ.acceptIdentityProgress current progress epoch revision sequence = .ok (σ, none) ∨
      current = false ∧
        ∃ error, σ.acceptIdentityProgress current progress epoch revision sequence = .error error := by
  unfold NodeSession.acceptIdentityProgress
  by_cases same : some epoch = σ.cacheSessionId
  · have recorded : revision ≤ σ.appliedRevision := late.resolve_left (not_not_intro same)
    simp [same, recorded]
  · cases current <;> simp [same]

/-- A late acknowledgement of a fragment changes nothing. -/
lemma progress_late {k full progress epoch revision sequence up}
    (late : Late (s.conns k).session epoch revision) :
    Unmoved k s ((s.setConn k { s.conns k with up }).progress k full progress epoch revision sequence) := by
  have judged : (s.conns k).session.acceptIdentityProgress (s.current = some k) progress epoch revision
        sequence = .ok ((s.conns k).session, none) ∨
      decide (s.current = some k) = false ∧ ∃ error, (s.conns k).session.acceptIdentityProgress
        (s.current = some k) progress epoch revision sequence = .error error :=
    acceptIdentityProgress_late late
  unfold State.progress
  rw [setConn_self]
  split
  · rename_i e
    rcases judged with same | ⟨superseded, _⟩
    · cases e.symm.trans same
    · have superseded := of_decide_eq_false superseded
      rw [hangUp_superseded superseded]
      exact ⟨up, _, true, rfl, fun current => absurd current superseded⟩
  · rename_i σ e
    rcases judged with same | ⟨_, _, same⟩
    · cases e.symm.trans same
      rw [setSession_setConn]
      exact ⟨up, _, _, rfl, fun _ => rfl⟩
    · cases e.symm.trans same
  · rename_i σ chunk e
    rcases judged with same | ⟨_, _, same⟩
    · cases e.symm.trans same
    · cases e.symm.trans same

/-- A late message is taken off the stream and changes nothing else. -/
lemma serve_late {k full m up} (queue : (s.conns k).up = m :: up)
    (greeted : (s.conns k).session.cacheSessionId.isSome = true) (late : LateMsg (s.conns k).session m)
    (st : step codec nodeId s (.serve k full) = some s') : Unmoved k s s' := by
  obtain ⟨_, id⟩ := Option.isSome_iff_exists.mp greeted
  obtain ⟨_, st⟩ := Option.ite_none_left_eq_some.mp st
  rw [queue] at st
  cases st
  unfold State.serve
  rw [setConn_self]
  dsimp only
  rw [id]
  cases m with
  | identityChunkAck | identityProgress => exact progress_late late
  | identityAck =>
    dsimp only
    split
    · exact ⟨up, _, _, rfl, fun _ => rfl⟩
    · rw [setConn_setConn]
      exact ⟨up, _, _, rfl, fun _ => rfl⟩
  | _ => exact late.elim

/-- A late acknowledgement is dropped by the identity worker. -/
lemma job_late {k full epoch revision jobs} (queue : (s.conns k).jobs = .identityAck epoch revision :: jobs)
    (late : Late (s.conns k).session epoch revision)
    (st : step codec nodeId s (.runIdentityJob k full) = some s') : Unmoved k s s' := by
  obtain ⟨_, st⟩ := Option.ite_none_left_eq_some.mp st
  rw [queue] at st
  change (s.setConn k { s.conns k with jobs }).confirmIdentity nodeId k full epoch revision = some s' at st
  unfold confirmIdentity at st
  rw [setConn_self] at st
  dsimp only at st
  split at st
  · rename_i e
    cases st
    have superseded : s.current ≠ some k := by
      intro current
      unfold NodeSession.acknowledges at e
      split at e
      · rename_i no
        rw [Bool.not_eq_true', decide_eq_false_iff_not] at no
        exact no current
      split at e
      · cases e
      · rename_i same
        rw [if_pos (late.resolve_left same)] at e
        cases e
    rw [hangUp_superseded superseded]
    exact ⟨_, jobs, true, rfl, fun current => absurd current superseded⟩
  · cases st
    exact ⟨_, jobs, _, rfl, fun _ => rfl⟩
  · rename_i snapshot e
    obtain ⟨_, id, newer, _⟩ := acknowledges_inv e
    rcases late with other | recorded
    · exact absurd id.symm other
    · exact absurd newer (Nat.not_lt.mpr recorded)

/-- The transfer of identities is exact: what the edge applies for a revision of an epoch is what was
enqueued for it, while its store is in that epoch, and it is applied once; the controller records a revision
as applied, in the log and in the session, only after the edge has applied it in that epoch; and late
messages change nothing. -/
theorem transfer_exact (reach : (machine codec nodeId).Reachable s) :
    (∀ e r b before, .applied e r b :: before <:+ s.log →
      .enqueued e r b ∈ before ∧ (∀ b', .enqueued e r b' ∈ s.log → b' = b) ∧
      (∀ b', .applied e r b' ∉ before) ∧ lastReset before = some e) ∧
    (∀ e r before, .recorded e r :: before <:+ s.log → ∃ b, .applied e r b ∈ before) ∧
    (∀ k e, (s.conns k).session.cacheSessionId = some e → (s.conns k).session.cacheReady = true →
      (s.conns k).session.appliedRevision ≠ 0 →
      ∃ b, .applied e (s.conns k).session.appliedRevision b ∈ s.log) ∧
    (∀ k full m up s', (s.conns k).up = m :: up → (s.conns k).session.cacheSessionId.isSome = true →
      LateMsg (s.conns k).session m → step codec nodeId s (.serve k full) = some s' → Unmoved k s s') ∧
    (∀ k full e r jobs s', (s.conns k).jobs = .identityAck e r :: jobs → Late (s.conns k).session e r →
      step codec nodeId s (.runIdentityJob k full) = some s' → Unmoved k s s') := by
  have inv := Transfer.of_reachable reach
  refine ⟨?_, ?_, ?_, ?_, ?_⟩
  · intro e r b before suffix
    obtain ⟨sent, once, last⟩ := inv.sound _ _ suffix
    refine ⟨sent, fun b' m => ?_, once, last⟩
    exact (inv.sound.unique m (suffix.subset (mem_cons_of_mem _ sent))).2
  · exact fun e r before suffix => inv.sound _ _ suffix
  · exact fun k => (inv.session k).acked
  · exact fun k full m up s' => serve_late
  · exact fun k full e r jobs s' => job_late

/-- An enrolled node without users. -/
def sampleStart : State Byte := { db := { edgeNodes := ["edge"] } }

/-- Nothing has happened yet. -/
lemma sampleStart_fresh : Fresh "edge" (sampleStart : State Byte) := by
  refine ⟨?_, rfl, fun _ => rfl, rfl, rfl, rfl, rfl, rfl, rfl, rfl, rfl, rfl, rfl, rfl, rfl, rfl⟩
  exact mem_singleton_self _

/-- The edge connects and is sent the baseline. -/
def sampleSync : List Action :=
  [.connect 1, .register 0, .serve 0 false, .sendReply 0, .receive, .takeJob, .runJob 0 false, .reportJob,
    .serve 0 false, .runIdentityJob 0 false, .startPush, .push false false, .enqueue false, .receive,
    .takeJob, .runJob 0 false, .reportJob, .serve 0 false, .serve 0 false, .runIdentityJob 0 false]

/-- A page of two chunks is sent, collected and applied. -/
lemma apply_two_chunks {p : Prepared Byte} {r : Receiver Byte} {store : Edge.Store}
    (reach : (machine codec nodeId).Reachable s) (held : s.held = some p)
    (payload : p.payload = codec.encode p.snapshot) (two : chunkCount identityChunkBytes p.payload = 2)
    (current : s.current = some p.stream) (registered : (s.conns p.stream).registered = true)
    (listens : (s.conns p.stream).hungUp = false) (reply : (s.conns p.stream).reply = none)
    (up : (s.conns p.stream).up = []) (down : (s.conns p.stream).down = [])
    (id : (s.conns p.stream).session.cacheSessionId = some p.epoch)
    (older : (s.conns p.stream).session.appliedRevision < p.snapshot.revision)
    (link : s.edge.link = some r) (stream : r.stream = p.stream) (id' : r.cacheSessionId = some p.epoch)
    (empty : r.chunkBuffer = []) (jobs : r.applyJobs = none) (idle : r.worker = .idle)
    (receiving : r.receiving = true) (open_ : r.closing = false)
    (apply : s.edge.store.applyIdentitySnapshot 0 p.snapshot = .ok store) :
    ∃ s', (machine codec nodeId).Reachable s' ∧ s'.log = .applied p.epoch p.snapshot.revision p.payload ::
      .enqueued p.epoch p.snapshot.revision p.payload :: s.log := by
  have nonempty : ∀ i < 2, chunk identityChunkBytes p.payload i ≠ [] :=
    fun i h => chunk_ne_nil identityChunkBytes_pos (two ▸ h)
  have short : ∀ i, ¬ identityChunkBytes < (chunk identityChunkBytes p.payload i).length :=
    fun i => Nat.not_lt.mpr length_chunk_le
  have all : chunk identityChunkBytes p.payload 0 ++ chunk identityChunkBytes p.payload 1 = p.payload := by
    have first := @take_append_chunk _ identityChunkBytes 0 p.payload
    rw [Nat.zero_mul, take_zero, nil_append] at first
    have whole := @take_chunkCount _ _ p.payload identityChunkBytes_pos
    rw [two] at whole
    rw [first, take_append_chunk]
    exact whole
  have decode := codec.decode_encode p.snapshot
  rw [← payload] at decode
  suffices ∃ s', (machine codec nodeId).run s [.enqueue false, .receive, .serve p.stream false, .receive, .takeJob,
      .runJob 0 false] = some s' ∧ s'.log = .applied p.epoch p.snapshot.revision p.payload ::
        .enqueued p.epoch p.snapshot.revision p.payload :: s.log by
    obtain ⟨s', run, log⟩ := this
    exact ⟨s', reach.append run, log⟩
  simp [machine, step, held, enqueue, current, setSession, setConn, send, NodeSession.startTransfer,
    NodeSession.currentChunk, two, link, receiving, stream, down, State.receive, EdgeClient.receive,
    EdgeClient.receiveChunk, id', empty, nonempty 0, nonempty 1, short, EdgeClient.stopIfClosing, sendUp, serve, up,
    registered, listens, reply, id, progress, NodeSession.acceptIdentityProgress, Nat.not_le.mpr older,
    EdgeClient.queueApply, jobs, idle, open_, EdgeClient.runJob, decode, apply, all]

/-- A payload of a whole chunk and one symbol more. -/
def paddedCodec : Codec (Option IdentitySnapshot) where
  encode snapshot := List.replicate identityChunkBytes none ++ [some snapshot]
  decode payload := payload.getLast?.join
  decode_encode snapshot := by
    rw [List.getLast?_append]
    rfl

/-- The padded payload has two chunks. -/
lemma chunkCount_padded {snapshot : IdentitySnapshot} :
    chunkCount identityChunkBytes (paddedCodec.encode snapshot) = 2 := by
  rw [chunkCount, paddedCodec, length_append, length_replicate, length_singleton]
  decide

/-- A run in which the edge applies a payload of two chunks. -/
lemma padded_applied : ∃ s : State (Option IdentitySnapshot), (machine paddedCodec "edge").Reachable s ∧
    ∃ b before, s.log = .applied ⟨0, 0⟩ 1 b :: before ∧ chunkCount identityChunkBytes b = 2 := by
  -- the run up to the page that is prepared, whose payload nothing looks at
  have ran : (((machine paddedCodec "edge").run sampleStart (sampleSync.take 12)).map fun s =>
      s.held.map (fun p => (p.stream, p.epoch, p.snapshot.revision)) == some (0, ⟨0, 0⟩, 1) &&
        s.held.map (fun p => (s.edge.store.applyIdentitySnapshot 0 p.snapshot).isOk) == some true &&
        s.current == some 0 && (s.conns 0).registered && !(s.conns 0).hungUp && (s.conns 0).reply.isNone &&
        (s.conns 0).up.isEmpty && (s.conns 0).down.isEmpty &&
        (s.conns 0).session.cacheSessionId == some ⟨0, 0⟩ && (s.conns 0).session.appliedRevision == 0 &&
        s.edge.link.map (fun r => (r.stream, r.cacheSessionId, r.chunkBuffer.isEmpty, r.applyJobs.isNone,
          r.worker.ctorIdx, r.receiving, r.closing)) ==
            some (0, some ⟨0, 0⟩, true, true, 0, true, false)) = some true := by decide +kernel
  obtain ⟨s, run, facts⟩ := Option.map_eq_some_iff.mp ran
  simp only [Bool.and_eq_true, beq_iff_eq, Bool.not_eq_true', Option.isNone_iff_eq_none, List.isEmpty_iff] at facts
  obtain ⟨⟨⟨⟨⟨⟨⟨⟨⟨⟨page, accepted⟩, current⟩, registered⟩, listens⟩, reply⟩, up⟩, down⟩, id⟩, older⟩, link⟩ := facts
  obtain ⟨p, held, page⟩ := Option.map_eq_some_iff.mp page
  obtain ⟨r, link, fields⟩ := Option.map_eq_some_iff.mp link
  simp only [Prod.mk.injEq, Option.isNone_iff_eq_none, List.isEmpty_iff] at page fields
  obtain ⟨stream, epoch, revision⟩ := page
  obtain ⟨stream', id', empty, jobs, idle, receiving, open_⟩ := fields
  have idle : r.worker = .idle := by
    revert idle
    cases r.worker <;> simp [Worker.ctorIdx]
  have reach : (machine paddedCodec "edge").Reachable s := ⟨sampleStart, _, sampleStart_fresh, run⟩
  have payload := ((Transfer.of_reachable reach).held p held).payload
  obtain ⟨store, apply⟩ : ∃ store, s.edge.store.applyIdentitySnapshot 0 p.snapshot = .ok store := by
    rw [held] at accepted
    cases apply : s.edge.store.applyIdentitySnapshot 0 p.snapshot with
    | error => simp [apply, Except.isOk, Except.toBool] at accepted
    | ok store => exact ⟨store, rfl⟩
  have older : (s.conns p.stream).session.appliedRevision < p.snapshot.revision := by
    rw [stream, older, revision]
    decide
  rw [← epoch] at id id'
  rw [← stream] at current registered listens reply up down id stream'
  obtain ⟨s', reach', log⟩ := apply_two_chunks reach held payload (payload ▸ chunkCount_padded) current registered
    listens reply up down id older link stream' id' empty jobs idle receiving open_ apply
  rw [epoch, revision] at log
  exact ⟨s', reach', p.payload, _, log, payload ▸ chunkCount_padded⟩

/-- The first page of an edge is recorded, and so it was applied before; and a page of two chunks is applied as
it was enqueued, in the epoch of the edge. -/
theorem transfer_exact_baseline :
    (∃ s : State IdentitySnapshot, (machine sampleCodec "edge").Reachable s ∧
      ∃ before, .recorded ⟨0, 0⟩ 1 :: before <:+ s.log ∧ ∃ b, .applied ⟨0, 0⟩ 1 b ∈ before) ∧
    ∃ s : State (Option IdentitySnapshot), (machine paddedCodec "edge").Reachable s ∧
      ∃ b before, .applied ⟨0, 0⟩ 1 b :: before <:+ s.log ∧ chunkCount identityChunkBytes b = 2 ∧
        .enqueued ⟨0, 0⟩ 1 b ∈ before ∧ lastReset before = some ⟨0, 0⟩ := by
  constructor
  · have ran : (((machine sampleCodec "edge").run sampleStart sampleSync).map fun s => s.log.head?) =
        some (some (.recorded ⟨0, 0⟩ 1)) := by decide +kernel
    obtain ⟨s, run, head⟩ := Option.map_eq_some_iff.mp ran
    have reach : (machine sampleCodec "edge").Reachable s := ⟨sampleStart, sampleSync, sampleStart_fresh, run⟩
    obtain ⟨before, log⟩ : ∃ before, s.log = .recorded ⟨0, 0⟩ 1 :: before := List.head?_eq_some_iff.mp head
    refine ⟨s, reach, before, log ▸ suffix_rfl, ?_⟩
    exact (transfer_exact reach).2.1 ⟨0, 0⟩ 1 before (log ▸ suffix_rfl)
  · obtain ⟨s, reach, b, before, log, two⟩ := padded_applied
    have suffix : .applied ⟨0, 0⟩ 1 b :: before <:+ s.log := log ▸ suffix_rfl
    obtain ⟨enqueued, _, _, last⟩ := (transfer_exact reach).1 _ _ _ _ suffix
    exact ⟨s, reach, b, before, suffix, two, enqueued, last⟩

end State

end MeowFrp.Cluster
