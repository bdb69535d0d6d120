import MeowFrp.Cluster.Events
import MeowFrp.Lib.Machine

/-!
# Delivery of the events

Any number of edges queue events and report them in batches; the controller records the batches it
receives, event by event, several at a time, and acknowledges what it stored. A batch or an
acknowledgement that was sent may arrive any number of times, at any time, or not at all. A transaction may
fail before or after its commit, and either side may stop in the middle of a message.

`queued`, `committed`, `refused`, `acknowledged` and `pruned` are history variables: the events that were
queued (the last one first), those whose transaction was committed, those refused for a sequence collision,
those marked acknowledged, and the events of the DPI that had been queued when those of their edge were
deleted because they are no longer reported.
-/

namespace MeowFrp.Cluster

open Lib Table List Function EventQueue

/-- Go `recordEventBatch` in the middle of its loop. -/
structure Recording where
  nodeId : String
  sequence : Int
  index : Nat := 0
  rest : List EventEnvelope
  acked : List String := []

/-- The edges, the controller and what is under way. -/
structure Delivery where
  queues : String → EventQueue := fun _ => {}
  db : EventStore := {}
  /-- the batches that were sent -/
  batches : List (String × Int × List EventEnvelope) := []
  recordings : Nat → Option Recording := fun _ => none
  /-- the acknowledgements that were sent -/
  acks : List (String × List String) := []
  /-- what is left of the acknowledgement an edge works on -/
  acking : String → Option (List String) := fun _ => none
  queued : List (String × EventEnvelope) := []
  committed : List (String × String) := []
  refused : List (String × EventEnvelope × Int) := []
  acknowledged : List (String × EventEnvelope) := []
  pruned : List (String × EventEnvelope) := []

inductive DeliveryAction where
  | queue (nodeId : String) (e : EventEnvelope)
  | setReporting (nodeId : String) (dpiEvents runtimeLogs : Bool)
  /-- `PruneDisabledDPIEvents`, which also comes before a report -/
  | prune (nodeId : String)
  /-- the edge reports its events, with the time as the sequence number -/
  | report (nodeId : String) (sequence : Int)
  | receive (slot : Nat) (nodeId : String) (sequence : Int) (events : List EventEnvelope)
  | record (slot : Nat) (fault : StoreFault) (retain : Bool)
  | finish (slot : Nat)
  | abort (slot : Nat)
  | takeAck (nodeId : String) (ids : List String)
  | acknowledge (nodeId : String)
  | finishAck (nodeId : String) (discard : Bool)
  | stopAck (nodeId : String)

namespace Delivery

/-- An edge changes its queue. -/
def setQueue (s : Delivery) (nodeId : String) (q : EventQueue) : Delivery :=
  { s with queues := update s.queues nodeId q }

/-- A turn of the loop of Go `recordEventBatch`. -/
def recordNext (parses : String → Bool) (s : Delivery) (slot : Nat) (r : Recording) (e : EventEnvelope)
    (rest : List EventEnvelope) (fault : StoreFault) (retain : Bool) : Delivery :=
  let next := { r with index := r.index + 1, rest }
  if e.eventId = "" then { s with recordings := update s.recordings slot (some next) }
  else
    let sequence := eventSequence r.sequence r.index
    let call := s.db.recordNodeEventDurably parses r.nodeId sequence e fault retain
    { s with
      db := call.1
      recordings := update s.recordings slot
        (some { next with acked := if call.2.isOk then r.acked ++ [e.eventId] else r.acked })
      committed := if s.db.commits parses r.nodeId sequence e fault then (r.nodeId, e.eventId) :: s.committed
        else s.committed
      refused := match call.2 with
        | .error (.sequenceCollision n) => (r.nodeId, e, n) :: s.refused
        | _ => s.refused }

/-- One step. -/
def step (parses : String → Bool) (s : Delivery) : DeliveryAction → Option Delivery
  | .queue nodeId e =>
    -- the ids are drawn at random
    if s.queued.any fun old => old.1 = nodeId && old.2.eventId = e.eventId then none
    else if e.eventType = .dpiEvent && !(s.queues nodeId).dpiEvents then some s
    else
      some { s.setQueue nodeId ((s.queues nodeId).queueEvent e) with queued := (nodeId, e) :: s.queued }
  | .setReporting nodeId dpiEvents runtimeLogs =>
    some (s.setQueue nodeId { s.queues nodeId with dpiEvents, runtimeLogs })
  | .prune nodeId =>
    some { s.setQueue nodeId (s.queues nodeId).pruneDisabledDpiEvents with
      pruned := if (s.queues nodeId).dpiEvents then s.pruned
        else (s.queued.filter fun old => old.1 = nodeId && old.2.eventType = .dpiEvent) ++ s.pruned }
  | .report nodeId sequence =>
    let q := s.queues nodeId
    match q.pendingEventsForTypes q.reportedTypes with
    | [] => none
    | e :: events => some { s with batches := (nodeId, sequence, e :: events) :: s.batches }
  | .receive slot nodeId sequence events =>
    if (nodeId, sequence, events) ∈ s.batches && (s.recordings slot).isNone then
      if acceptsBatch sequence events then
        some { s with
          recordings := update s.recordings slot (some { nodeId, sequence, rest := events }) }
      else some { s with acks := (nodeId, []) :: s.acks }
    else none
  | .record slot fault retain =>
    match s.recordings slot with
    | some r =>
      match r.rest with
      | e :: rest => some (s.recordNext parses slot r e rest fault retain)
      | [] => none
    | none => none
  | .finish slot =>
    match s.recordings slot with
    | some r =>
      match r.rest with
      | [] =>
        some { s with
          acks := (r.nodeId, r.acked) :: s.acks, recordings := update s.recordings slot none }
      | _ :: _ => none
    | none => none
  | .abort slot => some { s with recordings := update s.recordings slot none }
  | .takeAck nodeId ids =>
    if (nodeId, ids) ∈ s.acks && (s.acking nodeId).isNone then
      some { s with acking := update s.acking nodeId (some ids) }
    else none
  | .acknowledge nodeId =>
    match s.acking nodeId with
    | some (id :: ids) =>
      let q := s.queues nodeId
      some { s.setQueue nodeId (q.acknowledge id) with
        acking := update s.acking nodeId (some ids)
        acknowledged := ((q.rows.rows.filter fun r => r.event.eventId = id).map fun r => (nodeId, r.event)) ++
          s.acknowledged }
    | _ => none
  | .finishAck nodeId discard =>
    match s.acking nodeId with
    | some [] =>
      let s := if discard then s.setQueue nodeId (s.queues nodeId).discardAcknowledged else s
      some { s with acking := update s.acking nodeId none }
    | _ => none
  | .stopAck nodeId => some { s with acking := update s.acking nodeId none }

/-- The machine. -/
def machine (parses : String → Bool) : Machine Delivery DeliveryAction where
  Init s := s = {}
  step := step parses

variable {parses : String → Bool} {s s' : Delivery} {nodeId : String} {e : EventEnvelope} {slot : Nat}

/-- The events that an edge queued, in their order. -/
def history (queued : List (String × EventEnvelope)) (nodeId : String) : List EventEnvelope :=
  ((queued.filter fun old => old.1 = nodeId).map (·.2)).reverse

section

variable {queued : List (String × EventEnvelope)} {n : String}

/-- The history holds what was queued. -/
lemma mem_history : e ∈ history queued n ↔ (n, e) ∈ queued := by
  unfold history
  simp

/-- A queued event is the last of its edge. -/
lemma history_cons_self : history ((n, e) :: queued) n = history queued n ++ [e] := by
  unfold history
  simp

/-- The histories of other edges stay. -/
lemma history_cons_of_ne (ne : n ≠ nodeId) : history ((nodeId, e) :: queued) n = history queued n := by
  unfold history
  simp [ne.symm]

end

/-- Why an event is gone that nobody has acknowledged. -/
inductive Dropped (queued pruned : List (String × EventEnvelope)) (nodeId : String) (e : EventEnvelope) : Prop
  /-- after it, as many of its type were queued as may wait -/
  | limit (telemetry : e.eventType = .runtimeLog ∨ e.eventType = .dpiEvent) (older newer : List EventEnvelope)
      (order : history queued nodeId = older ++ e :: newer)
      (many : maxQueuedTelemetryEvents ≤ newer.countP fun e' => e'.eventType = e.eventType)
  /-- it is of the DPI, and these were deleted while they were not reported -/
  | unreported (dpi : e.eventType = .dpiEvent) (deleted : (nodeId, e) ∈ pruned)

section

variable {queued pruned pruned' : List (String × EventEnvelope)} {n : String}

/-- A dropped event stays dropped. -/
lemma Dropped.prune (dropped : Dropped queued pruned n e) (more : ∀ x ∈ pruned, x ∈ pruned') :
    Dropped queued pruned' n e := by
  cases dropped with
  | limit telemetry older newer order many => exact .limit telemetry older newer order many
  | unreported dpi deleted => exact .unreported dpi (more _ deleted)

/-- A later event changes nothing. -/
lemma Dropped.queue {new : EventEnvelope} (dropped : Dropped queued pruned n e) :
    Dropped ((nodeId, new) :: queued) pruned n e := by
  cases dropped with
  | limit telemetry older newer order many =>
    by_cases this : n = nodeId
    · subst this
      refine .limit telemetry older (newer ++ [new]) ?_ ?_
      · rw [history_cons_self, order, append_assoc, cons_append]
      · rw [countP_append]
        exact Nat.le_add_right_of_le many
    · exact .limit telemetry older newer ((history_cons_of_ne this).trans order) many
  | unreported dpi deleted => exact .unreported dpi deleted

/-- The rows are in the order of their events, so later rows were queued later. -/
lemma Dropped.of_rows {older newer : List OutboundEvent}
    (order : ((older ++ ⟨e, false⟩ :: newer).map (·.event)).Sublist (history queued n))
    (telemetry : e.eventType = .runtimeLog ∨ e.eventType = .dpiEvent)
    (many : maxQueuedTelemetryEvents ≤ newer.countP (EventQueue.ofType e.eventType)) :
    Dropped queued pruned n e := by
  rw [map_append, map_cons] at order
  obtain ⟨first, _, parts, _, order⟩ := append_sublist_iff.mp order
  obtain ⟨_, rest, parts', m, order⟩ := cons_sublist_iff.mp order
  obtain ⟨left, right, rfl⟩ := append_of_mem m
  refine .limit telemetry (first ++ left) (right ++ rest) ?_ ?_
  · rw [parts, parts', append_assoc, append_assoc, cons_append]
  · rw [countP_append]
    refine Nat.le_add_left_of_le (Nat.le_trans many ?_)
    refine Nat.le_trans (Nat.le_of_eq ?_) order.countP_le
    rw [countP_map]
    rfl

end

/-- The key of a row of `dpi_events`. -/
def dpiKey (d : DpiRow) : String × String := (d.nodeId, d.eventId)

/-- The invariant: what is under way was queued, what is acknowledged or about to be was committed, and the
table of the DPI has one row for each of its committed events. -/
structure Sound (s : Delivery) : Prop where
  distinct : ∀ n e e', (n, e) ∈ s.queued → (n, e') ∈ s.queued → e.eventId = e'.eventId → e = e'
  order : ∀ n, ((s.queues n).rows.rows.map (·.event)).Sublist (history s.queued n)
  batches : ∀ n k es, (n, k, es) ∈ s.batches → ∀ e ∈ es, (n, e) ∈ s.queued
  recordings : ∀ i r, s.recordings i = some r →
    (∀ e ∈ r.rest, (r.nodeId, e) ∈ s.queued) ∧ ∀ id ∈ r.acked, (r.nodeId, id) ∈ s.committed
  acks : ∀ n ids, (n, ids) ∈ s.acks → ∀ id ∈ ids, (n, id) ∈ s.committed
  acking : ∀ n ids, s.acking n = some ids → ∀ id ∈ ids, (n, id) ∈ s.committed
  known : ∀ n id, (n, id) ∈ s.committed → ∃ e, (n, e) ∈ s.queued ∧ e.eventId = id
  stored : ∀ r ∈ s.db.nodeEvents, (r.nodeId, r.event) ∈ s.queued ∧ (r.nodeId, r.event.eventId) ∈ s.committed
  dpiUnique : (s.db.dpiEvents.map dpiKey).Nodup
  dpiStored : ∀ d ∈ s.db.dpiEvents, ∃ r ∈ s.db.nodeEvents,
    r.nodeId = d.nodeId ∧ r.event.eventId = d.eventId ∧ r.event.eventType = .dpiEvent
  dpiComplete : ∀ n e, (n, e.eventId) ∈ s.committed → (n, e) ∈ s.queued → e.eventType = .dpiEvent →
    (n, e.eventId) ∈ s.db.dpiEvents.map dpiKey
  marked : ∀ n e, (n, e) ∈ s.acknowledged → (n, e) ∈ s.queued ∧ (n, e.eventId) ∈ s.committed
  markedRows : ∀ n, ∀ r ∈ (s.queues n).rows, r.acknowledged = true → (n, r.event) ∈ s.acknowledged
  kept : ∀ n e, (n, e) ∈ s.queued →
    (s.queues n).Pending e ∨ (n, e) ∈ s.acknowledged ∨ Dropped s.queued s.pruned n e
  refused : ∀ n e k, (n, e, k) ∈ s.refused → (n, e) ∈ s.queued

/-- Nothing was queued yet. -/
lemma Sound.init : Sound {} where
  distinct := nofun
  order := fun _ => nil_sublist _
  batches := nofun
  recordings := nofun
  acks := nofun
  acking := nofun
  known := nofun
  stored := nofun
  dpiUnique := nodup_nil
  dpiStored := nofun
  dpiComplete := nofun
  marked := nofun
  markedRows := nofun
  kept := nofun
  refused := nofun

/-! ## The edges -/

/-- Rows are of events that were queued. -/
lemma Sound.rows {n : String} {r : OutboundEvent} (sound : Sound s) (m : r ∈ (s.queues n).rows) :
    (n, r.event) ∈ s.queued :=
  mem_history.mp ((sound.order n).subset (mem_map_of_mem m))

/-- An edge has the queue it changed to. -/
lemma setQueue_self {q : EventQueue} : (s.setQueue nodeId q).queues nodeId = q :=
  update_self _ _ _

/-- What waited in a queue waits on, is acknowledged, or is dropped. -/
lemma pending_setQueue {q : EventQueue} {n : String} {other : Prop} (pending : (s.queues n).Pending e)
    (here : (s.queues nodeId).Pending e → n = nodeId → q.Pending e ∨ other) :
    ((s.setQueue nodeId q).queues n).Pending e ∨ other := by
  by_cases this : n = nodeId
  · subst this
    rw [setQueue_self]
    exact here pending rfl
  · dsimp only [Delivery.setQueue]
    rw [update_of_ne this]
    exact .inl pending

/-- An edge gives up rows of its queue. -/
lemma Sound.setQueue {q : EventQueue} {pruned : List (String × EventEnvelope)} (sound : Sound s)
    (sub : q.rows.rows.Sublist (s.queues nodeId).rows.rows) (more : ∀ x ∈ s.pruned, x ∈ pruned)
    (kept : ∀ e, (nodeId, e) ∈ s.queued → (s.queues nodeId).Pending e →
      q.Pending e ∨ e.eventType = .dpiEvent ∧ (nodeId, e) ∈ pruned) :
    Sound { s.setQueue nodeId q with pruned } := by
  refine { sound with order := ?_, markedRows := ?_, kept := ?_ }
  · exact (forall_update_iff s.queues fun n q => (q.rows.rows.map _).Sublist (history s.queued n)).mpr
      ⟨(sub.map _).trans (sound.order nodeId), fun n _ => sound.order n⟩
  · exact (forall_update_iff s.queues fun n q => ∀ r ∈ q.rows, r.acknowledged = true →
      (n, r.event) ∈ s.acknowledged).mpr
      ⟨fun r m => sound.markedRows nodeId r (sub.subset m), fun n _ => sound.markedRows n⟩
  · intro n e queued
    rcases sound.kept n e queued with pending | old | old
    · refine pending_setQueue pending ?_
      rintro pending rfl
      exact (kept e queued pending).imp_right fun gone => .inr (.unreported gone.1 gone.2)
    · exact .inr (.inl old)
    · exact .inr (.inr (old.prune more))

/-- An event is queued. -/
lemma Sound.queue (sound : Sound s) (fresh : ∀ e', (nodeId, e') ∈ s.queued → e'.eventId ≠ e.eventId)
    (reported : (e.eventType = .dpiEvent && !(s.queues nodeId).dpiEvents) = false) :
    Sound { s.setQueue nodeId ((s.queues nodeId).queueEvent e) with queued := (nodeId, e) :: s.queued } := by
  have before : ∀ {n e'}, (n, e') ∈ s.queued → (n, e') ∈ (nodeId, e) :: s.queued :=
    fun m => mem_cons_of_mem _ m
  have unused : ∀ r ∈ (s.queues nodeId).rows, r.event.eventId ≠ e.eventId :=
    fun r m => fresh r.event (sound.rows m)
  have after : (((s.queues nodeId).rows.rows ++ [(⟨e, false⟩ : OutboundEvent)]).map (·.event)).Sublist
      (history s.queued nodeId ++ [e]) := by
    rw [map_append]
    exact (sound.order nodeId).append (List.Sublist.refl _)
  refine { sound with
    distinct := ?_, order := ?_, batches := fun n k es m e' m' => before (sound.batches n k es m e' m')
    recordings := fun i r m =>
      ⟨fun e' m' => before ((sound.recordings i r m).1 e' m'), (sound.recordings i r m).2⟩
    known := fun n id m => (sound.known n id m).imp fun _ h => ⟨before h.1, h.2⟩
    stored := fun r m => ⟨before (sound.stored r m).1, (sound.stored r m).2⟩, dpiComplete := ?_
    marked := fun n e' m => ⟨before (sound.marked n e' m).1, (sound.marked n e' m).2⟩
    markedRows := ?_, kept := ?_, refused := fun n e' k m => before (sound.refused n e' k m) }
  · intro n a b ma mb same
    rcases mem_cons.mp ma with new | ma
    · cases new
      rcases mem_cons.mp mb with new | mb
      · cases new
        rfl
      · exact absurd same.symm (fresh b mb)
    · rcases mem_cons.mp mb with new | mb
      · cases new
        exact absurd same (fresh a ma)
      · exact sound.distinct n a b ma mb same
  · refine (forall_update_iff s.queues fun n q => (q.rows.rows.map _).Sublist
      (history ((nodeId, e) :: s.queued) n)).mpr ⟨?_, fun n other => ?_⟩
    · rw [history_cons_self]
      exact (queueEvent_sublist.map _).trans after
    · rw [history_cons_of_ne other]
      exact sound.order n
  · intro n e' committed queued dpi
    rcases mem_cons.mp queued with new | queued
    · -- nothing is committed under a new id
      cases new
      obtain ⟨old, queued, same⟩ := sound.known nodeId e.eventId committed
      exact absurd same (fresh old queued)
    · exact sound.dpiComplete n e' committed queued dpi
  · refine (forall_update_iff s.queues fun n q => ∀ r ∈ q.rows, r.acknowledged = true →
      (n, r.event) ∈ s.acknowledged).mpr ⟨fun r m marked => ?_, fun n _ => sound.markedRows n⟩
    rcases mem_queueEvent m with old | rfl
    · exact sound.markedRows nodeId r old marked
    · cases marked
  · intro n e' queued
    rcases mem_cons.mp queued with new | queued
    · cases new
      dsimp only
      rw [setQueue_self]
      exact .inl (pending_queueEvent unused reported)
    · rcases sound.kept n e' queued with pending | old | old
      · refine pending_setQueue pending ?_
        rintro pending rfl
        refine (pending_queueEvent_or unused pending).imp_right ?_
        rintro ⟨telemetry, _, _, rows, many⟩
        rw [rows, ← history_cons_self] at after
        exact .inr (.of_rows after telemetry many)
      · exact .inr (.inl old)
      · exact .inr (.inr old.queue)

/-- An event is acknowledged. -/
lemma Sound.acknowledge {id : String} {ids : List String} (sound : Sound s)
    (at_ : s.acking nodeId = some (id :: ids)) :
    Sound { s.setQueue nodeId ((s.queues nodeId).acknowledge id) with
      acking := update s.acking nodeId (some ids)
      acknowledged := (((s.queues nodeId).rows.rows.filter fun r => r.event.eventId = id).map fun r =>
        (nodeId, r.event)) ++ s.acknowledged } := by
  have committed := sound.acking nodeId (id :: ids) at_
  -- the rows that are marked now
  have now : ∀ {r}, r ∈ (s.queues nodeId).rows → r.event.eventId = id →
      (nodeId, r.event) ∈ (((s.queues nodeId).rows.rows.filter fun r => r.event.eventId = id).map fun r =>
        (nodeId, r.event)) ++ s.acknowledged := by
    intro r m this
    refine mem_append_left _ (mem_map.mpr ⟨r, mem_filter.mpr ⟨m, ?_⟩, rfl⟩)
    exact decide_eq_true this
  refine { sound with order := ?_, acking := ?_, marked := ?_, markedRows := ?_, kept := ?_ }
  · refine (forall_update_iff s.queues fun n q => (q.rows.rows.map _).Sublist
      (history s.queued n)).mpr ⟨?_, fun n _ => sound.order n⟩
    rw [events_acknowledge]
    exact sound.order nodeId
  · refine (forall_update_iff s.acking fun n ids' => ∀ ids, ids' = some ids →
      ∀ id ∈ ids, (n, id) ∈ s.committed).mpr ⟨?_, fun n _ => sound.acking n⟩
    rintro _ ⟨⟩ id' m
    exact committed id' (mem_cons_of_mem _ m)
  · intro n e marked
    rcases mem_append.mp marked with new | old
    · obtain ⟨r, m, same⟩ := mem_map.mp new
      cases same
      obtain ⟨m, this⟩ := mem_filter.mp m
      refine ⟨sound.rows m, ?_⟩
      rw [of_decide_eq_true this]
      exact committed id mem_cons_self
    · exact sound.marked n e old
  · refine (forall_update_iff s.queues fun n q => ∀ r ∈ q.rows, r.acknowledged = true →
      (n, r.event) ∈ _).mpr ⟨fun r m marked => ?_, fun n _ r m marked => ?_⟩
    · rcases mem_acknowledge m with old | ⟨old, m, same, this⟩
      · exact mem_append_right _ (sound.markedRows nodeId r old marked)
      · rw [← same]
        exact now m this
    · exact mem_append_right _ (sound.markedRows n r m marked)
  · intro n e queued
    rcases sound.kept n e queued with pending | old | old
    · refine pending_setQueue pending ?_
      rintro pending rfl
      by_cases mine : e.eventId = id
      · exact .inr (.inl (now pending mine))
      · exact .inl (pending_acknowledge pending mine)
    · exact .inr (.inl (mem_append_right _ old))
    · exact .inr (.inr old)

/-- An edge gives up events of the DPI that it does not report. -/
lemma Sound.prune (sound : Sound s) :
    Sound { s.setQueue nodeId (s.queues nodeId).pruneDisabledDpiEvents with
      pruned := if (s.queues nodeId).dpiEvents then s.pruned
        else (s.queued.filter fun old => old.1 = nodeId && old.2.eventType = .dpiEvent) ++ s.pruned } := by
  refine sound.setQueue pruneDisabledDpiEvents_sublist (fun x m => ?_) fun e queued pending => ?_
  · split
    · exact m
    · exact mem_append_right _ m
  · refine (pending_pruneDisabledDpiEvents_or pending).imp_right ?_
    rintro ⟨off, dpi⟩
    rw [off, if_neg Bool.false_ne_true]
    refine ⟨dpi, mem_append_left _ (mem_filter.mpr ⟨queued, ?_⟩)⟩
    rw [dpi, decide_eq_true rfl, decide_eq_true rfl]
    rfl

/-- An edge gives up rows that are acknowledged. -/
lemma Sound.discard (sound : Sound s) : Sound (s.setQueue nodeId (s.queues nodeId).discardAcknowledged) :=
  sound.setQueue trim_sublist (fun _ => id) fun _ _ pending =>
    .inl (pending_discardAcknowledged pending)

/-- Committed ids are to be acknowledged. -/
lemma Sound.setAcking {ids' : Option (List String)} (sound : Sound s)
    (all : ∀ ids, ids' = some ids → ∀ id ∈ ids, (nodeId, id) ∈ s.committed) :
    Sound { s with acking := update s.acking nodeId ids' } :=
  { sound with
    acking := (forall_update_iff s.acking fun n ids' => ∀ ids, ids' = some ids →
      ∀ id ∈ ids, (n, id) ∈ s.committed).mpr ⟨all, fun n _ => sound.acking n⟩ }

/-! ## The controller -/

/-- A batch of queued events is received. -/
lemma Sound.setRecording {r' : Option Recording} (sound : Sound s)
    (all : ∀ r, r' = some r → (∀ e ∈ r.rest, (r.nodeId, e) ∈ s.queued) ∧
      ∀ id ∈ r.acked, (r.nodeId, id) ∈ s.committed) :
    Sound { s with recordings := update s.recordings slot r' } :=
  { sound with
    recordings := (forall_update_iff s.recordings fun _ r' => ∀ r, r' = some r →
      (∀ e ∈ r.rest, (r.nodeId, e) ∈ s.queued) ∧ ∀ id ∈ r.acked, (r.nodeId, id) ∈ s.committed).mpr
        ⟨all, fun i _ => sound.recordings i⟩ }

/-- An acknowledgement of committed events is sent. -/
lemma Sound.addAck {ids : List String} (sound : Sound s) (all : ∀ id ∈ ids, (nodeId, id) ∈ s.committed) :
    Sound { s with acks := (nodeId, ids) :: s.acks } := by
  refine { sound with acks := fun n ids m => ?_ }
  rcases mem_cons.mp m with new | m
  · cases new
    exact all
  · exact sound.acks n ids m

/-- Old runtime logs are deleted. -/
lemma Sound.retain (sound : Sound s) : Sound { s with db := s.db.retainRuntimeLogs nodeId } :=
  { sound with
    stored := fun r m => sound.stored r (EventStore.mem_retainRuntimeLogs m)
    dpiStored := by
      intro d m
      obtain ⟨r, stored, node, id, dpi⟩ := sound.dpiStored d m
      exact ⟨r, EventStore.mem_retainRuntimeLogs_of_dpi stored dpi, node, id, dpi⟩ }

/-- A new event is stored. -/
lemma Sound.store {sequence : Int} {nodeEvents : Table NodeEvent} (sound : Sound s)
    (queued : (nodeId, e) ∈ s.queued)
    (inserted : s.db.nodeEvents.insert ⟨nodeId, sequence, e⟩ = some nodeEvents) :
    Sound { s with
      db := ⟨nodeEvents, s.db.addDpiEvent nodeId e⟩, committed := (nodeId, e.eventId) :: s.committed } := by
  have before : ∀ {n id}, (n, id) ∈ s.committed → (n, id) ∈ (nodeId, e.eventId) :: s.committed :=
    fun m => mem_cons_of_mem _ m
  have kept : ∀ d ∈ s.db.dpiEvents, d ∈ s.db.addDpiEvent nodeId e := by
    intro d m
    unfold EventStore.addDpiEvent
    split
    · exact mem_append_left _ m
    · exact m
  refine { sound with
    recordings := fun i r m => ⟨(sound.recordings i r m).1, fun id m' =>
      before ((sound.recordings i r m).2 id m')⟩
    acks := fun n ids m id m' => before (sound.acks n ids m id m')
    acking := fun n ids m id m' => before (sound.acking n ids m id m')
    known := ?_, stored := ?_, dpiUnique := ?_, dpiStored := ?_, dpiComplete := ?_
    marked := fun n e m => ⟨(sound.marked n e m).1, before (sound.marked n e m).2⟩ }
  · intro n id m
    rcases mem_cons.mp m with new | m
    · cases new
      exact ⟨e, queued, rfl⟩
    · exact sound.known n id m
  · intro r m
    rcases (mem_insert inserted).mp m with old | rfl
    · exact ⟨(sound.stored r old).1, before (sound.stored r old).2⟩
    · exact ⟨queued, mem_cons_self⟩
  · unfold EventStore.addDpiEvent
    split
    · dsimp only
      rw [map_append]
      refine nodup_append.mpr ⟨sound.dpiUnique, pairwise_singleton _ _, ?_⟩
      rintro key old _ new rfl
      cases mem_singleton.mp new
      -- a row of the same event comes with a row of `node_events` that the new one would clash with
      obtain ⟨d, m, same⟩ := mem_map.mp old
      obtain ⟨node, id⟩ := Prod.mk.inj same
      obtain ⟨r, stored, node', id', _⟩ := sound.dpiStored d m
      exact fresh_of_insert inserted stored ⟨node'.trans node, .inr (id'.trans id)⟩
    · exact sound.dpiUnique
  · intro d m
    have old : d ∈ s.db.dpiEvents → ∃ r ∈ nodeEvents,
        r.nodeId = d.nodeId ∧ r.event.eventId = d.eventId ∧ r.event.eventType = .dpiEvent := by
      intro m
      obtain ⟨r, stored, h⟩ := sound.dpiStored d m
      exact ⟨r, (mem_insert inserted).mpr (.inl stored), h⟩
    unfold EventStore.addDpiEvent at m
    split at m
    · rename_i dpi
      rcases mem_append.mp m with m | new
      · exact old m
      · cases mem_singleton.mp new
        exact ⟨⟨nodeId, sequence, e⟩, (mem_insert inserted).mpr (.inr rfl), rfl, rfl, dpi⟩
    · exact old m
  · intro n e' m queued' dpi
    rcases mem_cons.mp m with new | m
    · obtain ⟨rfl, same⟩ := Prod.mk.inj new
      cases sound.distinct n e' e queued' queued same
      refine mem_map.mpr ⟨⟨n, e.payload, e.eventId⟩, ?_, rfl⟩
      unfold EventStore.addDpiEvent
      rw [if_pos dpi]
      exact mem_append_right _ (mem_singleton_self _)
    · obtain ⟨d, m, same⟩ := mem_map.mp (sound.dpiComplete n e' m queued' dpi)
      exact mem_map.mpr ⟨d, kept d m, same⟩

/-- An event is refused. -/
lemma Sound.refuse {refused : List (String × EventEnvelope × Int)} (sound : Sound s)
    (all : ∀ n e k, (n, e, k) ∈ refused → (n, e) ∈ s.queued) : Sound { s with refused } :=
  { sound with refused := all }

/-- The next event of a batch is recorded. -/
lemma Sound.recordNext {r : Recording} {rest : List EventEnvelope} {fault : StoreFault} {retain : Bool}
    (sound : Sound s) (at_ : s.recordings slot = some r) (next : r.rest = e :: rest) :
    Sound (s.recordNext parses slot r e rest fault retain) := by
  obtain ⟨known, acked⟩ := sound.recordings slot r at_
  rw [next] at known
  obtain ⟨queued, later⟩ := forall_mem_cons.mp known
  unfold Delivery.recordNext
  dsimp only
  split
  · refine sound.setRecording ?_
    rintro _ ⟨⟩
    exact ⟨later, acked⟩
  · generalize call : s.db.recordNodeEventDurably parses r.nodeId (eventSequence r.sequence r.index) e fault
      retain = result
    obtain ⟨db, result⟩ := result
    have refused : ∀ n e' k, (n, e', k) ∈ (match result with
        | .error (.sequenceCollision n) => (r.nodeId, e, n) :: s.refused
        | _ => s.refused) → (n, e') ∈ s.queued := by
      intro n e' k m
      split at m
      · rcases mem_cons.mp m with new | m
        · cases new
          exact queued
        · exact sound.refused n e' k m
      · exact sound.refused n e' k m
    rcases EventStore.recordNodeEventDurably_cases call with
      ⟨commits, _, inserted, after⟩ | ⟨commits, after, stored⟩
    · rw [commits, if_pos rfl]
      have base := sound.store queued inserted
      have stored : Sound { s with db, committed := (r.nodeId, e.eventId) :: s.committed } := by
        rcases after with rfl | rfl
        · exact base
        · exact base.retain
      refine (stored.refuse refused).setRecording ?_
      rintro _ ⟨⟩
      refine ⟨later, fun id m => ?_⟩
      dsimp only at m
      split at m
      · rcases mem_append.mp m with m | new
        · exact mem_cons_of_mem _ (acked id m)
        · rw [mem_singleton.mp new]
          exact mem_cons_self
      · exact mem_cons_of_mem _ (acked id m)
    · rw [commits, if_neg Bool.false_ne_true]
      have left : Sound { s with db } := by
        rcases after with rfl | rfl
        · exact sound
        · exact sound.retain
      refine (left.refuse refused).setRecording ?_
      rintro _ ⟨⟩
      refine ⟨later, fun id m => ?_⟩
      dsimp only at m
      split at m
      · rename_i ok
        rcases mem_append.mp m with m | new
        · exact acked id m
        · -- an event that is not new is acknowledged because it is stored
          rw [mem_singleton.mp new]
          cases result with
          | error => cases ok
          | ok =>
            obtain ⟨old, m, node, same⟩ := stored rfl
            rw [← node, ← same]
            exact (sound.stored old m).2
      · exact acked id m

/-- Every step is sound. -/
lemma Sound.step {a : DeliveryAction} (sound : Sound s) (st : s.step parses a = some s') : Sound s' := by
  cases a with
  | queue nodeId =>
    simp only [Delivery.step] at st
    split at st
    · cases st
    · rename_i new
      split at st
      · cases st
        exact sound
      · rename_i reported
        cases st
        refine sound.queue (fun e' m same => new ?_) (Bool.not_eq_true _ ▸ reported)
        refine any_eq_true.mpr ⟨(nodeId, e'), m, ?_⟩
        rw [Bool.and_eq_true]
        exact ⟨decide_eq_true rfl, decide_eq_true same⟩
  | setReporting =>
    cases st
    exact sound.setQueue (List.Sublist.refl _) (fun _ => id) fun _ _ => .inl
  | prune =>
    cases st
    exact sound.prune
  | report =>
    simp only [Delivery.step] at st
    split at st
    · cases st
    · rename_i e events pending
      cases st
      refine { sound with batches := ?_ }
      intro n k es m e' m'
      rcases mem_cons.mp m with new | m
      · cases new
        rw [← pending] at m'
        obtain ⟨r, m, rfl⟩ := mem_pendingEventsForTypes m'
        exact sound.rows m
      · exact sound.batches n k es m e' m'
  | receive _ nodeId sequence events =>
    simp only [Delivery.step, Option.ite_none_right_eq_some] at st
    obtain ⟨g, st⟩ := st
    split at st
    · cases st
      rw [Bool.and_eq_true, decide_eq_true_iff] at g
      refine sound.setRecording ?_
      rintro _ ⟨⟩
      exact ⟨sound.batches nodeId sequence events g.1, nofun⟩
    · cases st
      exact sound.addAck nofun
  | record =>
    simp only [Delivery.step] at st
    split at st
    · rename_i r at_
      split at st
      · rename_i e rest next
        cases st
        exact sound.recordNext at_ next
      · cases st
    · cases st
  | finish slot =>
    simp only [Delivery.step] at st
    split at st
    · rename_i r at_
      split at st
      · cases st
        have acked := (sound.recordings slot r at_).2
        exact (sound.addAck acked).setRecording nofun
      · cases st
    · cases st
  | abort =>
    cases st
    exact sound.setRecording nofun
  | takeAck nodeId ids =>
    simp only [Delivery.step, Option.ite_none_right_eq_some, Option.some.injEq] at st
    obtain ⟨g, rfl⟩ := st
    rw [Bool.and_eq_true, decide_eq_true_iff] at g
    refine sound.setAcking ?_
    rintro _ ⟨⟩
    exact sound.acks nodeId ids g.1
  | acknowledge =>
    simp only [Delivery.step] at st
    split at st
    · rename_i id ids at_
      cases st
      exact sound.acknowledge at_
    · cases st
  | finishAck _ discard =>
    simp only [Delivery.step] at st
    split at st
    · cases st
      cases discard with
      | true => exact sound.discard.setAcking nofun
      | false => exact sound.setAcking nofun
    · cases st
  | stopAck =>
    cases st
    exact sound.setAcking nofun

/-- Every reachable state is sound. -/
lemma sound_of_reachable (reach : (machine parses).Reachable s) : Sound s :=
  reach.inv (fun _ init => init ▸ Sound.init) fun _ _ _ old st => old.step st

/-- The events of the edges are stored once. What an edge marks as acknowledged was committed; an event of
the DPI has at most one row, and exactly one when it is acknowledged; a refused event waits until it is
acknowledged, as many newer events of its type were queued as may wait, or the events of the DPI are not
reported and so deleted; and the sequence numbers of an accepted batch neither overflow nor repeat. -/
theorem events_stored_once (reach : (machine parses).Reachable s) :
    (∀ n e, (n, e) ∈ s.acknowledged → (n, e.eventId) ∈ s.committed) ∧
    (∀ n, ∀ r ∈ (s.queues n).rows, r.acknowledged = true → (n, r.event.eventId) ∈ s.committed) ∧
    (∀ n id, s.db.dpiRows n id ≤ 1) ∧
    (∀ n e, (n, e) ∈ s.acknowledged → e.eventType = .dpiEvent → s.db.dpiRows n e.eventId = 1) ∧
    (∀ n e k, (n, e, k) ∈ s.refused →
      (s.queues n).Pending e ∨ (n, e) ∈ s.acknowledged ∨ Dropped s.queued s.pruned n e) ∧
    ∀ sequence events, acceptsBatch sequence events = true → ∀ i < events.length,
      eventSequence sequence i = sequence * 1000 + i ∧ 0 ≤ sequence * 1000 ∧
        sequence * 1000 + i ≤ maxInt64 ∧
        ∀ j < events.length, eventSequence sequence i = eventSequence sequence j → i = j := by
  have sound := sound_of_reachable reach
  have atMost : ∀ n id, s.db.dpiRows n id ≤ 1 := by
    intro n id
    have count : s.db.dpiRows n id = (s.db.dpiEvents.map dpiKey).count (n, id) := by
      unfold EventStore.dpiRows List.count
      rw [countP_map]
      exact countP_congr fun d _ => by simp [dpiKey]
    rw [count]
    exact nodup_iff_count.mp sound.dpiUnique (n, id)
  refine ⟨fun n e m => (sound.marked n e m).2, ?_, atMost, ?_, ?_, ?_⟩
  · exact fun n r m marked => (sound.marked n r.event (sound.markedRows n r m marked)).2
  · intro n e m dpi
    obtain ⟨queued, committed⟩ := sound.marked n e m
    refine Nat.le_antisymm (atMost n e.eventId) (countP_pos_iff.mpr ?_)
    obtain ⟨d, m, same⟩ := mem_map.mp (sound.dpiComplete n e committed queued dpi)
    obtain ⟨node, id⟩ := Prod.mk.inj same
    refine ⟨d, m, ?_⟩
    rw [Bool.and_eq_true]
    exact ⟨decide_eq_true node, decide_eq_true id⟩
  · exact fun n e k m => sound.kept n e (sound.refused n e k m)
  · intro sequence events ok i h
    obtain ⟨exact_, low, high⟩ := eventSequence_eq ok h
    exact ⟨exact_, low, high, fun j hj => eventSequence_inj ok h hj⟩

def sampleEvent (id : String) : EventEnvelope := ⟨id, .dpiEvent, ""⟩

/-- The first event is delivered, the second one is refused. -/
def sampleDelivery : List DeliveryAction :=
  [.queue "edge" (sampleEvent "a"), .report "edge" 7, .receive 0 "edge" 7 [sampleEvent "a"],
    .record 0 .none true, .finish 0, .takeAck "edge" ["a"], .acknowledge "edge", .finishAck "edge" true,
    .queue "edge" (sampleEvent "b"), .report "edge" 7, .receive 0 "edge" 7 [sampleEvent "b"],
    .record 0 .none true]

/-- The first event has its row; the second waits. -/
theorem events_stored_once_refused : ∃ s, (machine fun _ => true).Reachable s ∧
    ("edge", sampleEvent "a") ∈ s.acknowledged ∧ s.db.dpiRows "edge" "a" = 1 ∧
    ("edge", sampleEvent "b", 7000) ∈ s.refused ∧
    ((s.queues "edge").Pending (sampleEvent "b") ∨ ("edge", sampleEvent "b") ∈ s.acknowledged ∨
      Dropped s.queued s.pruned "edge" (sampleEvent "b")) := by
  obtain ⟨s, run, marked, refused⟩ : ∃ s, (machine fun _ => true).run {} sampleDelivery = some s ∧
      ("edge", sampleEvent "a") ∈ s.acknowledged ∧ ("edge", sampleEvent "b", 7000) ∈ s.refused :=
    ⟨_, rfl, mem_cons_self, mem_cons_self⟩
  have reach : (machine fun _ => true).Reachable s := ⟨{}, sampleDelivery, rfl, run⟩
  obtain ⟨_, _, _, once, waits, _⟩ := events_stored_once reach
  exact ⟨s, reach, marked, once _ _ marked rfl, refused, waits _ _ _ refused⟩

/-- A further event. -/
def sampleLater (i : Nat) : EventEnvelope := sampleEvent (String.ofList (List.replicate (i + 2) 'x'))

lemma sampleLater_ne {i j : Nat} (h : i ≠ j) : (sampleLater i).eventId ≠ (sampleLater j).eventId := by
  intro same
  have length := congrArg String.length same
  rw [sampleLater, sampleLater, sampleEvent, sampleEvent, String.length_ofList, String.length_ofList,
    length_replicate, length_replicate] at length
  omega

lemma sampleLater_ne_letter {i : Nat} {id : String} (letter : id.length = 1) : (sampleLater i).eventId ≠ id := by
  rintro rfl
  rw [sampleLater, sampleEvent, String.length_ofList, length_replicate] at letter
  omega

/-- The queue after `k` more events, and without earlier ones when `k` may wait. -/
structure Filled (s : Delivery) (k : Nat) (s' : Delivery) : Prop where
  refused : s'.refused = s.refused
  acknowledged : s'.acknowledged = s.acknowledged
  reported : (s'.queues "edge").dpiEvents = true
  queued : ∀ e, ("edge", e) ∈ s'.queued → ("edge", e) ∈ s.queued ∨ ∃ i < k, e = sampleLater i
  rows : ∃ olds, (s'.queues "edge").rows.rows = olds ++ (List.range k).map (fun i => ⟨sampleLater i, false⟩) ∧
    (k = maxQueuedTelemetryEvents → ∀ r ∈ olds, EventQueue.ofType .dpiEvent r = false)

/-- One further event. -/
lemma Filled.next {k : Nat} (letters : ∀ e, ("edge", e) ∈ s.queued → e.eventId.length = 1)
    {t : Delivery} (filled : Filled s k t) (sound : Sound t) (room : k < maxQueuedTelemetryEvents) :
    ∃ t', t.step parses (.queue "edge" (sampleLater k)) = some t' ∧ Filled s (k + 1) t' := by
  -- the id is new
  have new : ∀ e, ("edge", e) ∈ t.queued → e.eventId ≠ (sampleLater k).eventId := by
    intro e m
    rcases filled.queued e m with old | ⟨i, h, rfl⟩
    · exact (sampleLater_ne_letter (letters e old)).symm
    · exact sampleLater_ne (Nat.ne_of_lt h)
  have unused : (t.queued.any fun old => old.1 = "edge" && old.2.eventId = (sampleLater k).eventId) = false := by
    rw [any_eq_false]
    rintro ⟨_, e⟩ m taken
    rw [Bool.and_eq_true, decide_eq_true_iff, decide_eq_true_iff] at taken
    obtain ⟨rfl, same⟩ := taken
    exact new e m same
  refine ⟨{ t.setQueue "edge" ((t.queues "edge").queueEvent (sampleLater k)) with
    queued := ("edge", sampleLater k) :: t.queued }, ?_, ?_⟩
  · simp only [Delivery.step, unused, filled.reported, Bool.not_true, Bool.and_false, Bool.false_eq_true,
      if_false]
  · obtain ⟨_, rows, _⟩ := filled.rows
    have length : ((List.range k).map fun i => (⟨sampleLater i, false⟩ : OutboundEvent)).length = k := by
      rw [length_map, length_range]
    obtain ⟨olds', rows', full⟩ := rows_queueEvent rows
      (fun r m => new r.event (sound.rows m)) filled.reported rfl
      (fun r m => by
        obtain ⟨i, _, rfl⟩ := mem_map.mp m
        rfl)
      (by rw [length]; exact room)
    refine ⟨filled.refused, filled.acknowledged, ?_, ?_, olds', ?_, ?_⟩
    · dsimp only
      rw [setQueue_self, queueEvent_dpiEvents, filled.reported]
    · intro e m
      rcases mem_cons.mp m with new | m
      · cases new
        exact .inr ⟨k, Nat.lt_succ_self k, rfl⟩
      · refine (filled.queued e m).imp_right ?_
        rintro ⟨i, h, rfl⟩
        exact ⟨i, Nat.lt_succ_of_lt h, rfl⟩
    · dsimp only
      rw [setQueue_self, rows', range_succ, map_append]
      rfl
    · rw [length] at full
      exact full

/-- As many as may wait. -/
lemma Filled.exists_run (letters : ∀ e, ("edge", e) ∈ s.queued → e.eventId.length = 1)
    (reported : (s.queues "edge").dpiEvents = true) (reach : (machine parses).Reachable s) (k : Nat)
    (room : k ≤ maxQueuedTelemetryEvents) :
    ∃ t, (machine parses).Reachable t ∧ Filled s k t := by
  induction k with
  | zero =>
    refine ⟨s, reach, rfl, rfl, reported, fun e m => .inl m, (s.queues "edge").rows.rows, ?_, nofun⟩
    exact (append_nil _).symm
  | succ k ih =>
    obtain ⟨t, reach', filled⟩ := ih (Nat.le_of_succ_le room)
    obtain ⟨t', st, filled'⟩ : ∃ t', t.step parses (.queue "edge" (sampleLater k)) = some t' ∧
        Filled s (k + 1) t' := filled.next letters (sound_of_reachable reach') room
    have st' : (machine parses).step t (.queue "edge" (sampleLater k)) = some t' := st
    exact ⟨t', reach'.snoc st', filled'⟩

/-- A refused event that waits is dropped when as many further events as may wait are queued. -/
theorem refused_event_dropped : ∃ s, (machine fun _ => true).Reachable s ∧
    ("edge", sampleEvent "b", 7000) ∈ s.refused ∧ ¬ (s.queues "edge").Pending (sampleEvent "b") ∧
    ("edge", sampleEvent "b") ∉ s.acknowledged := by
  obtain ⟨s, run, refused, unmarked, letters, reported⟩ : ∃ s,
      (machine fun _ => true).run {} sampleDelivery = some s ∧
      ("edge", sampleEvent "b", 7000) ∈ s.refused ∧ ("edge", sampleEvent "b") ∉ s.acknowledged ∧
      (∀ e, ("edge", e) ∈ s.queued → e.eventId.length = 1) ∧ (s.queues "edge").dpiEvents = true := by
    refine ⟨_, rfl, mem_cons_self, by decide, fun e m => ?_, rfl⟩
    rcases mem_cons.mp m with new | m
    · cases new
      rfl
    · cases mem_singleton.mp m
      rfl
  have reach : (machine fun _ => true).Reachable s := ⟨{}, sampleDelivery, rfl, run⟩
  obtain ⟨t, reach', filled⟩ := Filled.exists_run letters reported reach maxQueuedTelemetryEvents (Nat.le_refl _)
  obtain ⟨olds, rows, full⟩ := filled.rows
  refine ⟨t, reach', filled.refused ▸ refused, ?_, filled.acknowledged ▸ unmarked⟩
  intro pending
  have m : (⟨sampleEvent "b", false⟩ : OutboundEvent) ∈ olds ++
      (List.range maxQueuedTelemetryEvents).map (fun i => ⟨sampleLater i, false⟩) := rows ▸ pending
  rcases mem_append.mp m with old | later
  · cases full rfl _ old
  · obtain ⟨i, _, same⟩ := mem_map.mp later
    have id : (sampleLater i).eventId = "b" := congrArg (fun r : OutboundEvent => r.event.eventId) same
    exact sampleLater_ne_letter rfl id

end Delivery

end MeowFrp.Cluster
