import Mathlib.Algebra.Order.Ring.Nat
import MeowFrp.Lib.Table

/-!
# Events of an edge

An edge keeps its events in the table `outbound_events` of its local database until the controller has
acknowledged them (Go `internal/edgestate/store.go` and `control.go`). The controller stores an event in
`node_events`, an event of the DPI also in `dpi_events`, in one transaction (Go `RecordNodeEventDurably`),
and acknowledges those of a batch that it has stored (Go `recordEventBatch`). The ids that both databases
draw ascend in the order of the rows.

`DpiRow.eventId` is no column: it tells which event a row came from, and nothing reads it.
-/

namespace MeowFrp.Cluster

open Lib Table List Option

/-- The types of events. -/
inductive EventType where
  | runtimeLog
  | dpiEvent
  | other (name : String)
  deriving DecidableEq, Repr

/-- Go `EventEnvelope`. -/
structure EventEnvelope where
  eventId : String
  eventType : EventType
  payload : String
  deriving DecidableEq, Repr

/-! ## The edge -/

/-- A row of `outbound_events`. -/
structure OutboundEvent where
  event : EventEnvelope
  /-- `acknowledged_at` is set -/
  acknowledged : Bool := false
  deriving DecidableEq, Repr

instance : Schema OutboundEvent where
  clash a b := a.event.eventId = b.event.eventId
  symm := Eq.symm
  dec _ _ := inferInstanceAs (Decidable (_ = _))

/-- The events of an edge and what it reports. -/
structure EventQueue where
  rows : Table OutboundEvent := ∅
  dpiEvents : Bool := true
  runtimeLogs : Bool := true

/-- Go `maxQueuedTelemetryEvents`. -/
def maxQueuedTelemetryEvents : Nat := 5000

namespace EventQueue

variable {q q' : EventQueue} {e : EventEnvelope} {r : OutboundEvent} {types : List EventType} {id : String}

/-- The row is of a type. -/
def ofType (type : EventType) (r : OutboundEvent) : Bool := r.event.eventType = type

/-- Go `QueueEvent`. -/
def queueEvent (q : EventQueue) (e : EventEnvelope) : EventQueue :=
  if e.eventType = .dpiEvent && !q.dpiEvents then q
  else
    let rows := (q.rows.insert ⟨e, false⟩).getD q.rows
    { q with
      rows := if e.eventType = .runtimeLog || e.eventType = .dpiEvent then
          rows.trim (ofType e.eventType) (ofType e.eventType) maxQueuedTelemetryEvents
        else rows }

/-- Go `PruneDisabledDPIEvents`. -/
def pruneDisabledDpiEvents (q : EventQueue) : EventQueue :=
  if q.dpiEvents then q else { q with rows := q.rows.delete (ofType .dpiEvent) }

/-- Go `PendingEventsForTypes`. -/
def pendingEventsForTypes (q : EventQueue) (types : List EventType) : List EventEnvelope :=
  ((q.rows.rows.filter fun r => !r.acknowledged && r.event.eventType ∈ types).take 100).map (·.event)

/-- What Go `EdgePendingEvents` asks for. -/
def reportedTypes (q : EventQueue) : List EventType :=
  (if q.dpiEvents then [.dpiEvent] else []) ++ if q.runtimeLogs then [.runtimeLog] else []

/-- A statement of Go `AcknowledgeEvents`. -/
def acknowledge (q : EventQueue) (id : String) : EventQueue :=
  { q with rows := q.rows.update (fun r => r.event.eventId = id) fun r => { r with acknowledged := true } }

/-- The last statement of Go `AcknowledgeEvents`. -/
def discardAcknowledged (q : EventQueue) : EventQueue :=
  { q with rows := q.rows.trim (·.acknowledged) (fun _ => true) 1000 }

/-- The event waits for its acknowledgement. -/
def Pending (q : EventQueue) (e : EventEnvelope) : Prop := ⟨e, false⟩ ∈ q.rows

instance : Decidable (q.Pending e) := inferInstanceAs (Decidable (_ ∈ q.rows))

/-- A new event comes last. -/
lemma queueEvent_sublist : (q.queueEvent e).rows.rows.Sublist (q.rows.rows ++ [⟨e, false⟩]) := by
  have inserted : ((q.rows.insert ⟨e, false⟩).getD q.rows).rows.Sublist (q.rows.rows ++ [⟨e, false⟩]) := by
    cases i : q.rows.insert ⟨e, false⟩ with
    | none => exact sublist_append_left _ _
    | some => rw [getD_some, insert_eq_some_iff.mp i]
  unfold queueEvent
  split
  · exact sublist_append_left _ _
  · dsimp only
    split
    · exact trim_sublist.trans inserted
    · exact inserted

/-- What is in the queue after an event is queued. -/
lemma mem_queueEvent (m : r ∈ (q.queueEvent e).rows) : r ∈ q.rows ∨ r = ⟨e, false⟩ :=
  (mem_append.mp (queueEvent_sublist.subset m)).imp_right mem_singleton.mp

/-- An event goes on waiting, unless as many of its type came later as may wait. -/
lemma pending_queueEvent_or {new : EventEnvelope} (fresh : ∀ r ∈ q.rows, r.event.eventId ≠ new.eventId)
    (pending : q.Pending e) :
    (q.queueEvent new).Pending e ∨
      (e.eventType = .runtimeLog ∨ e.eventType = .dpiEvent) ∧ ∃ older newer,
        q.rows.rows ++ [⟨new, false⟩] = older ++ ⟨e, false⟩ :: newer ∧
          maxQueuedTelemetryEvents ≤ newer.countP (ofType e.eventType) := by
  obtain ⟨rows, inserted⟩ : ∃ rows, q.rows.insert ⟨new, false⟩ = some rows := insert_of_fresh fresh
  have stays : (⟨e, false⟩ : OutboundEvent) ∈ rows := (mem_insert inserted).mpr (.inl pending)
  unfold queueEvent
  split
  · exact .inl pending
  · rw [inserted]
    dsimp only [getD_some]
    split
    · rename_i telemetry
      rw [Bool.or_eq_true, decide_eq_true_iff, decide_eq_true_iff] at telemetry
      refine (mem_trim_or (fun _ => id) stays).imp_right ?_
      rintro ⟨type, older, newer, order, many⟩
      rw [← show e.eventType = new.eventType from of_decide_eq_true type] at telemetry many
      exact ⟨telemetry, older, newer, insert_eq_some_iff.mp inserted ▸ order, many⟩
    · exact .inl stays

/-- A new event waits: the limit takes older ones. -/
lemma pending_queueEvent (fresh : ∀ r ∈ q.rows, r.event.eventId ≠ e.eventId)
    (reported : (e.eventType = .dpiEvent && !q.dpiEvents) = false) : (q.queueEvent e).Pending e := by
  obtain ⟨rows, inserted⟩ : ∃ rows, q.rows.insert ⟨e, false⟩ = some rows := insert_of_fresh fresh
  have order : rows.rows.reverse = [⟨e, false⟩] ++ q.rows.rows.reverse := by
    rw [insert_eq_some_iff.mp inserted, reverse_append, reverse_singleton]
  unfold queueEvent Pending
  rw [reported, inserted]
  simp only [Bool.false_eq_true, if_false, getD_some]
  split
  · apply mem_reverse.mpr
    rw [order, show maxQueuedTelemetryEvents = [(⟨e, false⟩ : OutboundEvent)].length + 4999 from rfl,
      trimFirst_append]
    · exact mem_append_left _ mem_cons_self
    · intro r m
      rw [mem_singleton.mp m]
      exact decide_eq_true rfl
  · exact (mem_insert inserted).mpr (.inr rfl)

lemma queueEvent_dpiEvents : (q.queueEvent e).dpiEvents = q.dpiEvents := by
  unfold queueEvent
  split
  · rfl
  · rfl

/-- The limit: an event comes after the `news` of its type, and no older one is left once these are as many as
may wait. -/
lemma rows_queueEvent {olds news : List OutboundEvent} (rows : q.rows.rows = olds ++ news)
    (fresh : ∀ r ∈ q.rows, r.event.eventId ≠ e.eventId) (reported : q.dpiEvents = true)
    (dpi : e.eventType = .dpiEvent) (all : ∀ r ∈ news, ofType .dpiEvent r = true)
    (room : news.length + 1 ≤ maxQueuedTelemetryEvents) :
    ∃ olds', (q.queueEvent e).rows.rows = olds' ++ (news ++ [⟨e, false⟩]) ∧
      (news.length + 1 = maxQueuedTelemetryEvents → ∀ r ∈ olds', ofType .dpiEvent r = false) := by
  obtain ⟨after, inserted⟩ : ∃ rows, q.rows.insert ⟨e, false⟩ = some rows := insert_of_fresh fresh
  have order : after.rows.reverse = (⟨e, false⟩ :: news.reverse) ++ olds.reverse := by
    rw [insert_eq_some_iff.mp inserted, rows, reverse_append, reverse_append,
      reverse_singleton, singleton_append, cons_append]
  have count : maxQueuedTelemetryEvents = ((⟨e, false⟩ : OutboundEvent) :: news.reverse).length +
      (maxQueuedTelemetryEvents - (news.length + 1)) := by
    rw [length_cons, length_reverse]
    omega
  have typed : ∀ r ∈ (⟨e, false⟩ : OutboundEvent) :: news.reverse, ofType .dpiEvent r = true := by
    intro r m
    rcases mem_cons.mp m with rfl | m
    · exact decide_eq_true dpi
    · exact all r (mem_reverse.mp m)
  refine ⟨(trimFirst (ofType .dpiEvent) (ofType .dpiEvent) (maxQueuedTelemetryEvents - (news.length + 1))
    olds.reverse).reverse, ?_, fun full r m => ?_⟩
  · unfold queueEvent
    rw [reported, inserted, dpi]
    simp only [decide_true, Bool.not_true, Bool.and_false, Bool.false_eq_true, if_false, getD_some,
      Bool.or_true, if_true]
    unfold Table.trim
    dsimp only
    rw [order, count, trimFirst_append typed, ← count, reverse_append, reverse_cons,
      reverse_reverse]
  · rw [full, Nat.sub_self] at m
    by_contra is
    exact not_mem_trimFirst_zero (Bool.not_eq_false _ ▸ is) (mem_reverse.mp m)

lemma pruneDisabledDpiEvents_sublist : q.pruneDisabledDpiEvents.rows.rows.Sublist q.rows.rows := by
  unfold pruneDisabledDpiEvents
  split
  · exact List.Sublist.refl _
  · exact filter_sublist

/-- What is pruned is an event of the DPI, which are not reported. -/
lemma pending_pruneDisabledDpiEvents_or (pending : q.Pending e) :
    q.pruneDisabledDpiEvents.Pending e ∨ q.dpiEvents = false ∧ e.eventType = .dpiEvent := by
  unfold pruneDisabledDpiEvents
  split
  · exact .inl pending
  · rename_i off
    by_cases dpi : e.eventType = .dpiEvent
    · exact .inr ⟨Bool.not_eq_true _ ▸ off, dpi⟩
    · exact .inl (mem_delete.mpr ⟨pending, decide_eq_false dpi⟩)

/-- A reported event has a row. -/
lemma mem_pendingEventsForTypes (m : e ∈ q.pendingEventsForTypes types) : ∃ r ∈ q.rows, r.event = e := by
  obtain ⟨r, taken, rfl⟩ := mem_map.mp m
  exact ⟨r, (mem_filter.mp (mem_of_mem_take taken)).1, rfl⟩

/-- A row was there before, or was and is acknowledged now. -/
lemma mem_acknowledge (m : r ∈ (q.acknowledge id).rows) :
    r ∈ q.rows ∨ ∃ old ∈ q.rows, old.event = r.event ∧ old.event.eventId = id := by
  unfold acknowledge at m
  rw [mem_update] at m
  obtain ⟨old, before, rfl⟩ := m
  unfold Table.rewrite
  split
  · rename_i this
    exact .inr ⟨old, before, rfl, of_decide_eq_true this⟩
  · exact .inl before

/-- Acknowledging keeps the events of the queue. -/
lemma events_acknowledge : (q.acknowledge id).rows.rows.map (·.event) = q.rows.rows.map (·.event) := by
  unfold acknowledge Table.update
  rw [List.map_map]
  refine List.map_congr_left fun r _ => ?_
  rw [Function.comp_apply, Table.rewrite]
  split
  · rfl
  · rfl

/-- Other events wait on. -/
lemma pending_acknowledge (pending : q.Pending e) (other : e.eventId ≠ id) : (q.acknowledge id).Pending e := by
  unfold Pending acknowledge
  rw [mem_update]
  exact ⟨⟨e, false⟩, pending, if_neg (by simpa using other)⟩

lemma pending_discardAcknowledged (pending : q.Pending e) : q.discardAcknowledged.Pending e :=
  mem_trim_of_not pending rfl

end EventQueue

/-! ## The controller -/

/-- A row of `node_events`. -/
structure NodeEvent where
  nodeId : String
  sequence : Int
  event : EventEnvelope
  deriving DecidableEq, Repr

instance : Schema NodeEvent where
  clash a b := a.nodeId = b.nodeId ∧ (a.sequence = b.sequence ∨ a.event.eventId = b.event.eventId)
  symm c := ⟨c.1.symm, c.2.imp Eq.symm Eq.symm⟩
  dec _ _ := inferInstanceAs (Decidable (_ ∧ _))

/-- A row of `dpi_events` that came from an edge. -/
structure DpiRow where
  nodeId : String
  payload : String
  eventId : String
  deriving DecidableEq, Repr

/-- The tables of the events. -/
structure EventStore where
  nodeEvents : Table NodeEvent := ∅
  dpiEvents : List DpiRow := []

/-- What goes wrong in a transaction: nothing, an error that rolls it back, or one after the commit. -/
inductive StoreFault where
  | none
  | rolledBack
  | answerLost
  deriving DecidableEq, Repr

/-- The errors of Go `RecordNodeEventDurably`. -/
inductive RecordError where
  | payload
  | storage
  | sequenceCollision (sequence : Int)
  deriving DecidableEq, Repr

namespace EventStore

variable {db db' : EventStore} {nodeId : String} {sequence : Int} {e : EventEnvelope} {fault : StoreFault}
  {retain : Bool} {parses : String → Bool}

/-- The rows of `dpi_events` that came from an event. -/
def dpiRows (db : EventStore) (nodeId eventId : String) : Nat :=
  db.dpiEvents.countP fun d => d.nodeId = nodeId && d.eventId = eventId

/-- The runtime logs of a node but the newest 5000 are deleted. -/
def retainRuntimeLogs (db : EventStore) (nodeId : String) : EventStore :=
  let ofNode (r : NodeEvent) : Bool := r.nodeId = nodeId && r.event.eventType = .runtimeLog
  { db with nodeEvents := db.nodeEvents.trim ofNode ofNode 5000 }

/-- Go `insertEdgeDPIEvent`, for an event of the DPI. -/
def addDpiEvent (db : EventStore) (nodeId : String) (e : EventEnvelope) : List DpiRow :=
  if e.eventType = .dpiEvent then db.dpiEvents ++ [⟨nodeId, e.payload, e.eventId⟩] else db.dpiEvents

/-- The transaction of Go `RecordNodeEventDurably`. -/
def insertEvent (db : EventStore) (nodeId : String) (sequence : Int) (e : EventEnvelope) :
    Except RecordError EventStore :=
  match db.nodeEvents.insert ⟨nodeId, sequence, e⟩ with
  | some nodeEvents => .ok { nodeEvents, dpiEvents := db.addDpiEvent nodeId e }
  | none =>
    if db.nodeEvents.any fun r => r.nodeId = nodeId && r.event.eventId = e.eventId then .ok db
    else .error (.sequenceCollision sequence)

/-- Go `RecordNodeEventDurably`: the tables after it, and its result. `retain` says that old runtime logs were
deleted, `parses` that a DPI event decodes. -/
def recordNodeEventDurably (parses : String → Bool) (db : EventStore) (nodeId : String) (sequence : Int)
    (e : EventEnvelope) (fault : StoreFault) (retain : Bool) : EventStore × Except RecordError Unit :=
  if e.eventType = .dpiEvent && !parses e.payload then (db, .error .payload)
  else
    match fault, db.insertEvent nodeId sequence e with
    | .rolledBack, _ => (db, .error .storage)
    | _, .error error => (db, .error error)
    | .answerLost, .ok db => (db, .error .storage)
    | .none, .ok db =>
      (if e.eventType = .runtimeLog && retain then db.retainRuntimeLogs nodeId else db, .ok ())

/-- The call stores the event: it is new, and the transaction is committed. -/
def commits (parses : String → Bool) (db : EventStore) (nodeId : String) (sequence : Int)
    (e : EventEnvelope) (fault : StoreFault) : Bool :=
  !(e.eventType = .dpiEvent && !parses e.payload) && fault ≠ .rolledBack &&
    (db.nodeEvents.insert ⟨nodeId, sequence, e⟩).isSome

/-- An event that clashes is stored already or refused. -/
lemma insertEvent_of_none (clash : db.nodeEvents.insert ⟨nodeId, sequence, e⟩ = none) :
    (db.insertEvent nodeId sequence e = .ok db ∧
        ∃ r ∈ db.nodeEvents, r.nodeId = nodeId ∧ r.event.eventId = e.eventId) ∨
      db.insertEvent nodeId sequence e = .error (.sequenceCollision sequence) := by
  unfold insertEvent
  rw [clash]
  dsimp only
  split
  · rename_i stored
    obtain ⟨r, m, same⟩ := Table.any_eq_true.mp stored
    rw [Bool.and_eq_true, decide_eq_true_iff, decide_eq_true_iff] at same
    exact .inl ⟨rfl, r, m, same⟩
  · exact .inr rfl

/-- A call stores the event, or succeeds only if it is stored already. -/
lemma recordNodeEventDurably_cases {result : Except RecordError Unit}
    (call : db.recordNodeEventDurably parses nodeId sequence e fault retain = (db', result)) :
    (db.commits parses nodeId sequence e fault = true ∧
      ∃ nodeEvents, db.nodeEvents.insert ⟨nodeId, sequence, e⟩ = some nodeEvents ∧
        (db' = ⟨nodeEvents, db.addDpiEvent nodeId e⟩ ∨
          db' = EventStore.retainRuntimeLogs ⟨nodeEvents, db.addDpiEvent nodeId e⟩ nodeId)) ∨
    (db.commits parses nodeId sequence e fault = false ∧ (db' = db ∨ db' = db.retainRuntimeLogs nodeId) ∧
      (result = .ok () → ∃ r ∈ db.nodeEvents, r.nodeId = nodeId ∧ r.event.eventId = e.eventId)) := by
  unfold recordNodeEventDurably at call
  unfold commits
  split at call
  · rename_i broken
    cases call
    rw [broken]
    exact .inr ⟨rfl, .inl rfl, nofun⟩
  · rename_i fine
    rw [Bool.not_eq_true] at fine
    rw [fine]
    cases inserted : db.nodeEvents.insert ⟨nodeId, sequence, e⟩ with
    | some nodeEvents =>
      have ok : db.insertEvent nodeId sequence e = .ok ⟨nodeEvents, db.addDpiEvent nodeId e⟩ := by
        unfold insertEvent
        rw [inserted]
      rw [ok] at call
      cases fault with
      | rolledBack =>
        cases call
        exact .inr ⟨rfl, .inl rfl, nofun⟩
      | answerLost =>
        cases call
        exact .inl ⟨rfl, nodeEvents, rfl, .inl rfl⟩
      | none =>
        cases call
        refine .inl ⟨rfl, nodeEvents, rfl, ?_⟩
        split
        · exact .inr rfl
        · exact .inl rfl
    | none =>
      refine .inr ⟨Bool.and_false _, ?_⟩
      rcases insertEvent_of_none inserted with ⟨ok, stored⟩ | failed
      · rw [ok] at call
        cases fault with
        | rolledBack | answerLost =>
          cases call
          exact ⟨.inl rfl, nofun⟩
        | none =>
          cases call
          refine ⟨?_, fun _ => stored⟩
          split
          · exact .inr rfl
          · exact .inl rfl
      · rw [failed] at call
        cases fault with
        | rolledBack | answerLost | none =>
          cases call
          exact ⟨.inl rfl, nofun⟩

lemma mem_retainRuntimeLogs {r : NodeEvent} (m : r ∈ (db.retainRuntimeLogs nodeId).nodeEvents) :
    r ∈ db.nodeEvents := mem_of_mem_trim m

/-- Events of the DPI stay. -/
lemma mem_retainRuntimeLogs_of_dpi {r : NodeEvent} (m : r ∈ db.nodeEvents)
    (dpi : r.event.eventType = .dpiEvent) : r ∈ (db.retainRuntimeLogs nodeId).nodeEvents := by
  refine mem_trim_of_not m ?_
  rw [dpi]
  exact Bool.and_false _

end EventStore

/-- The largest and the least `int64`. -/
def maxInt64 : Int := 2 ^ 63 - 1

/-- The value of an `int64` expression. -/
def int64 (x : Int) : Int := Int.bmod x (2 ^ 64)

/-- What Go `recordEventBatch` checks of a batch. -/
def acceptsBatch (sequence : Int) (events : List EventEnvelope) : Bool :=
  !(sequence < 0 || (maxInt64 - 999) / 1000 < sequence || 100 < events.length)

/-- The sequence number of an event of a batch. -/
def eventSequence (sequence : Int) (index : Nat) : Int := int64 (int64 (sequence * 1000) + index)

section

variable {sequence : Int} {events : List EventEnvelope} {i j : Nat}

/-- The sequence numbers of an accepted batch do not overflow. -/
lemma eventSequence_eq (ok : acceptsBatch sequence events = true) (h : i < events.length) :
    eventSequence sequence i = sequence * 1000 + i ∧ 0 ≤ sequence * 1000 ∧
      sequence * 1000 + i ≤ maxInt64 := by
  unfold acceptsBatch maxInt64 at ok
  simp only [Bool.not_eq_true', Bool.or_eq_false_iff, decide_eq_false_iff_not] at ok
  obtain ⟨⟨_, _⟩, _⟩ := ok
  unfold eventSequence int64 maxInt64
  have first : Int.bmod (sequence * 1000) (2 ^ 64) = sequence * 1000 := by
    rw [Int.bmod_eq_of_le] <;> omega
  rw [first]
  refine ⟨?_, by omega, by omega⟩
  rw [Int.bmod_eq_of_le] <;> omega

/-- Nor do they repeat. -/
lemma eventSequence_inj (ok : acceptsBatch sequence events = true) (hi : i < events.length)
    (hj : j < events.length) (e : eventSequence sequence i = eventSequence sequence j) : i = j := by
  rw [(eventSequence_eq ok hi).1, (eventSequence_eq ok hj).1] at e
  omega

end

end MeowFrp.Cluster
