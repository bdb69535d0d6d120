import MeowFrp.Data.Text
import MeowFrp.Lib.Fallible
import MeowFrp.Lib.Machine
import Mathlib.Logic.Function.Basic

/-!
# Disconnecting a client

The controller asks an edge to disconnect a device (`disconnect_client` in Go `HandleEdgeCommand`). The edge
revokes the leases of the device, queues a message for it and notes the leases under the id of the command, all
in one transaction (Go `DisconnectClientForCommand`), then closes the connections of these leases and notes
the result. A command is delivered any number of times, also at the same time, and the process may stop between
any two steps; a command that was not finished is executed again. In between the device logs in again.

`log` is a history variable, the latest event first. The events of a transaction are written in it by the
statements they stand for and are rolled back with it. Lease ids are random and never repeat. Token ids are not
negative here; the source refuses those that are not positive.
-/

namespace MeowFrp.Edge.Disconnect

open Lib List Option Function

/-- A row of `runtime_leases`. -/
structure Lease where
  leaseId : String
  tokenId : Nat
  clientId : String
  /-- the status is `active`, not `revoked` -/
  active : Bool
  deriving DecidableEq, Repr

/-- A row of `edge_clients`. -/
structure Client where
  id : Nat
  tokenId : Nat
  clientId : String
  deriving DecidableEq, Repr

/-- A row of `edge_client_commands`. -/
structure ClientCommand where
  clientRowId : Nat
  command : String
  message : String
  deriving DecidableEq, Repr

inductive Event where
  | created (leaseId : String)
  /-- a command has set leases to `revoked` -/
  | revoked (commandId : String) (leaseIds : List String)
  /-- a command has queued a message that asks for a new login -/
  | queued (commandId : String)
  /-- an execution of the command has got its leases -/
  | executed (commandId : String) (leaseIds : List String)
  /-- a command has closed the connections of a lease -/
  | terminated (commandId leaseId : String)
  deriving DecidableEq, Repr

/-- The database of the edge. -/
structure Store where
  leases : List Lease := []
  clients : List Client := []
  clientCommands : List ClientCommand := []
  /-- `command_disconnect_effects` -/
  effects : String → Option (List String) := fun _ => none
  log : List Event := []

/-- The statements of the transaction. -/
inductive Statement where
  | begin
  | selectEffect
  | selectClient
  | selectLeases
  | updateLeases
  | insertMessage
  | insertEffect
  | commit
  deriving DecidableEq, Repr

/-- A statement is reached; it fails if it is the one that does. -/
def reach (failing : Option Statement) (statement : Statement) : Except String Unit :=
  if failing = some statement then .error "database error" else .ok ()

/-- The leases of a device that are revoked. -/
def ofClient (tokenId : Nat) (clientId : String) (l : Lease) : Bool :=
  l.tokenId = tokenId && l.clientId = clientId && l.active

namespace Store

/-- `UPDATE runtime_leases SET status='revoked'` for a device. -/
def revoke (s : Store) (tokenId : Nat) (clientId : String) : List Lease :=
  s.leases.map fun l => if ofClient tokenId clientId l then { l with active := false } else l

/-- What Go `DisconnectClientForCommand` commits and returns. -/
def disconnect (s : Store) (commandId : String) (tokenId : Nat) (clientId reason : String)
    (failing : Option Statement) : Except String (Store × List String) := do
  reach failing .begin
  reach failing .selectEffect
  match s.effects commandId with
  | some ids => return (s, ids)
  | none =>
    reach failing .selectClient
    match s.clients.find? fun c => c.tokenId = tokenId && c.clientId = clientId with
    | none => .error "sql: no rows in result set"
    | some client =>
      reach failing .selectLeases
      let ids := (s.leases.filter (ofClient tokenId clientId)).map (·.leaseId)
      reach failing .updateLeases
      let s := { s with leases := s.revoke tokenId clientId, log := .revoked commandId ids :: s.log }
      reach failing .insertMessage
      let s := { s with
        clientCommands := s.clientCommands.concat { clientRowId := client.id, command := "reauth", message := reason }
        log := .queued commandId :: s.log }
      reach failing .insertEffect
      let s := { s with effects := update s.effects commandId (some ids) }
      reach failing .commit
      return (s, ids)

/-- Go `DisconnectClientForCommand`: an error rolls the transaction back. -/
def disconnectClientForCommand (s : Store) (commandId : String) (tokenId : Nat) (clientId reason : String)
    (failing : Option Statement) : Store × Except String (List String) :=
  match s.disconnect commandId tokenId clientId reason failing with
  | .ok (s', ids) => (s', .ok ids)
  | .error error => (s, .error error)

/-- A login of a device: its row is there, and a new lease replaces the others. -/
def bootstrap (s : Store) (tokenId : Nat) (clientId leaseId : String) : Store :=
  let clients :=
    if s.clients.any fun c => c.tokenId = tokenId && c.clientId = clientId then s.clients
    else s.clients ++ [{ id := s.clients.length + 1, tokenId, clientId }]
  { s with
    clients
    leases := s.revoke tokenId clientId ++ [{ leaseId, tokenId, clientId, active := true }]
    log := .created leaseId :: s.log }

end Store

/-- The payload of `disconnect_client`. -/
structure Payload where
  tokenId : Nat
  clientId : String
  reason : String
  deriving DecidableEq, Repr

/-- A payload that can be executed. -/
def Payload.valid (p : Payload) : Bool := p.tokenId ≠ 0 && trimSpace p.clientId ≠ ""

/-- Go `NodeCommand`; a payload that does not decode is `none`. -/
structure Command where
  commandId : String
  payload : Option Payload
  deriving DecidableEq, Repr

/-- A row of `received_commands`. -/
inductive Received where
  | executing
  | finished (succeeded : Bool)
  deriving DecidableEq, Repr

/-- Where Go `HandleEdgeCommand` is. -/
inductive Stage where
  | started
  /-- `BeginCommand` has found no row -/
  | unknown
  | begun
  /-- the connections of these leases are to be closed -/
  | closing (leaseIds : List String)
  /-- before `FinishCommand` -/
  | settled (succeeded : Bool)
  deriving DecidableEq, Repr

structure Handler where
  command : Command
  stage : Stage := .started
  deriving DecidableEq, Repr

structure State where
  store : Store := {}
  received : String → Option Received := fun _ => none
  handlers : Nat → Option Handler := fun _ => none

/-- What a step of a handler meets. -/
structure Circumstance where
  /-- the statement of `BeginCommand` or `FinishCommand` fails -/
  fails : Bool := false
  expired : Bool := false
  /-- the permission `disconnect_client` -/
  allowed : Bool := true
  failing : Option Statement := none
  deriving DecidableEq, Repr

inductive Action where
  | deliver (i : Nat) (command : Command)
  | next (i : Nat) (c : Circumstance)
  | bootstrap (tokenId : Nat) (clientId leaseId : String)
  /-- leases end otherwise, or are deleted -/
  | endLeases (ends deleted : List String)
  /-- clients fetch their messages -/
  | acknowledge (kept : List ClientCommand)
  | crash

namespace State

def goto (e : State) (i : Nat) (h : Handler) (stage : Stage) : State :=
  { e with handlers := update e.handlers i (some { h with stage }) }

/-- The handler returns a result. -/
def leave (e : State) (i : Nat) : State := { e with handlers := update e.handlers i none }

/-- The body of Go `HandleEdgeCommand` for `disconnect_client`. -/
def execute (e : State) (i : Nat) (h : Handler) (c : Circumstance) : State :=
  if c.expired || !c.allowed then e.goto i h (.settled false)
  else
    match h.command.payload with
    | none => e.goto i h (.settled false)
    | some p =>
      if !p.valid then e.goto i h (.settled false)
      else
        match e.store.disconnectClientForCommand h.command.commandId p.tokenId p.clientId p.reason c.failing with
        | (store, .error _) => State.goto { e with store } i h (.settled false)
        | (store, .ok ids) =>
          State.goto { e with store := { store with log := .executed h.command.commandId ids :: store.log } } i h
            (.closing ids)

def proceed (e : State) (i : Nat) (h : Handler) (c : Circumstance) : State :=
  match h.stage with
  | .started =>
    if c.fails then e.leave i
    else
      match e.received h.command.commandId with
      | some .executing => e.goto i h .begun
      | some (.finished _) => e.leave i
      | none => e.goto i h .unknown
  | .unknown =>
    -- the command may have been inserted by another handler
    if c.fails || (e.received h.command.commandId).isSome then e.leave i
    else
      State.goto { e with received := update e.received h.command.commandId (some .executing) } i h .begun
  | .begun => e.execute i h c
  | .closing [] => e.goto i h (.settled true)
  | .closing (id :: ids) =>
    State.goto { e with store := { e.store with log := .terminated h.command.commandId id :: e.store.log } } i h
      (.closing ids)
  | .settled succeeded =>
    if c.fails then e.leave i
    else
      State.leave { e with
        received := update e.received h.command.commandId (some (.finished succeeded)) } i

def step (e : State) : Action → Option State
  | .deliver i command =>
    if (e.handlers i).isNone then
      some { e with handlers := update e.handlers i (some { command }) }
    else none
  | .next i c => (e.handlers i).map (e.proceed i · c)
  | .bootstrap tokenId clientId leaseId =>
    if .created leaseId ∈ e.store.log then none
    else some { e with store := e.store.bootstrap tokenId clientId leaseId }
  | .endLeases ends deleted =>
    some { e with store := { e.store with
      leases := (e.store.leases.filter (·.leaseId ∉ deleted)).map fun l =>
        { l with active := l.active && l.leaseId ∉ ends } } }
  | .acknowledge kept => some { e with store := { e.store with clientCommands := kept } }
  | .crash => some { e with handlers := fun _ => none }

end State

/-- An edge with a new database. -/
def machine : Machine State Action where
  Init e := e.store = {} ∧ e.received = (fun _ => none) ∧ e.handlers = fun _ => none
  step := State.step

/-- The revocations of a command, the latest first. -/
def revocations (commandId : String) (log : List Event) : List (List String) :=
  log.filterMap fun
    | .revoked id leaseIds => if id = commandId then some leaseIds else none
    | _ => none

/-- How many messages a command has queued. -/
def messages (commandId : String) (log : List Event) : Nat := log.countP (· = .queued commandId)

/-! ## The transaction -/

variable {s s' : Store} {e e' : State} {commandId : String} {ids : List String}

variable {failing : Option Statement} {tokenId : Nat} {clientId reason : String} {log : List Event}
  {received : String → Option Received} {c : Circumstance}

/-- A statement that does not fail goes on. -/
lemma reach_bind_ok {β : Type} {statement : Statement} {f : Unit → Except String β}
    {b : β} : (reach failing statement >>= f) = .ok b ↔ failing ≠ some statement ∧ f () = .ok b :=
  test_bind_ok

/-- A transaction of a command: its leases were noted before, or are those that are active now. -/
inductive Committed (s : Store) (commandId : String) (ids : List String) : Store → Prop where
  | repeated (noted : s.effects commandId = some ids) : Committed s commandId ids s
  | first {s' : Store} (new : s.effects commandId = none)
    (leases : ∃ tokenId clientId, ids = (s.leases.filter (ofClient tokenId clientId)).map (·.leaseId) ∧
      s'.leases = s.revoke tokenId clientId)
    (effects : s'.effects = update s.effects commandId (some ids))
    (log : s'.log = .queued commandId :: .revoked commandId ids :: s.log) : Committed s commandId ids s'

/-- A transaction that succeeds is committed. -/
lemma disconnect_ok
    (e : s.disconnect commandId tokenId clientId reason failing = .ok (s', ids)) : Committed s commandId ids s' := by
  simp only [Store.disconnect, reach_bind_ok] at e
  obtain ⟨_, _, e⟩ := e
  split at e
  · rename_i noted
    cases e
    exact .repeated noted
  · rename_i new
    obtain ⟨_, e⟩ := reach_bind_ok.mp e
    split at e
    · cases e
    · simp only [reach_bind_ok] at e
      obtain ⟨_, _, _, _, _, e⟩ := e
      cases e
      exact .first new ⟨tokenId, clientId, rfl, rfl⟩ rfl rfl

/-- A call that succeeds has committed. -/
lemma disconnectClientForCommand_ok
    (e : s.disconnectClientForCommand commandId tokenId clientId reason failing = (s', .ok ids)) :
    Committed s commandId ids s' := by
  unfold Store.disconnectClientForCommand at e
  split at e
  · rename_i done
    cases e
    exact disconnect_ok done
  · cases e

/-- A call that fails changes nothing. -/
lemma disconnectClientForCommand_error {error : String}
    (e : s.disconnectClientForCommand commandId tokenId clientId reason failing = (s', .error error)) : s' = s := by
  unfold Store.disconnectClientForCommand at e
  split at e
  · cases e
  · cases e
    rfl

/-! ## The history -/

/-- Lease ids do not repeat, and what a command revokes was created before. -/
def Ordered : List Event → Prop
  | [] => True
  | .created id :: log => .created id ∉ log ∧ Ordered log
  | .revoked _ ids :: log => (∀ id ∈ ids, .created id ∈ log) ∧ Ordered log
  | .queued _ :: log | .executed _ _ :: log | .terminated _ _ :: log => Ordered log

/-- An earlier log is ordered. -/
lemma Ordered.tail {event : Event} (ordered : Ordered (event :: log)) : Ordered log := by
  cases event with
  | created | revoked => exact ordered.2
  | queued | executed | terminated => exact ordered

/-- A lease that is created later is not among those that were revoked. -/
lemma Ordered.not_mem {newer older : List Event} {id : String}
    (ordered : Ordered (newer ++ .revoked commandId ids :: older)) (created : .created id ∈ newer) : id ∉ ids := by
  induction newer with
  | nil => cases created
  | cons _ newer ih =>
    obtain rfl | created := mem_cons.mp created
    · intro mem
      have later : Ordered (.revoked commandId ids :: older) := by
        have all := ordered.tail
        clear ih ordered created
        induction newer with
        | nil => exact all
        | cons _ _ ih => exact ih all.tail
      exact ordered.1 (mem_append_right _ (mem_cons_of_mem _ (later.1 id mem)))
    · exact ih ordered.tail created

/-- What is known of the database. -/
structure Good (s : Store) : Prop where
  ordered : Ordered s.log
  known : ∀ l ∈ s.leases, .created l.leaseId ∈ s.log
  noted : ∀ commandId, revocations commandId s.log = (s.effects commandId).toList
  queued : ∀ commandId, messages commandId s.log = (revocations commandId s.log).length
  executed : ∀ commandId ids, .executed commandId ids ∈ s.log → s.effects commandId = some ids
  terminated : ∀ commandId id, .terminated commandId id ∈ s.log →
    ∃ ids, s.effects commandId = some ids ∧ id ∈ ids

/-- The leases that there are were there before. -/
lemma Good.leases (good : Good s) {leases : List Lease} {clients : List Client} {commands : List ClientCommand}
    (old : ∀ l' ∈ leases, ∃ l ∈ s.leases, l.leaseId = l'.leaseId) :
    Good { s with leases, clients, clientCommands := commands } where
  ordered := good.ordered
  known l' mem := by
    obtain ⟨l, there, same⟩ := old l' mem
    rw [← same]
    exact good.known l there
  noted := good.noted
  queued := good.queued
  executed := good.executed
  terminated := good.terminated

/-- An event that revokes nothing, queues nothing and creates nothing. -/
lemma Good.event (good : Good s) {event : Event} (ordered : Ordered (event :: s.log))
    (quiet : ∀ commandId, revocations commandId (event :: s.log) = revocations commandId s.log)
    (silent : ∀ commandId, messages commandId (event :: s.log) = messages commandId s.log)
    (executed : ∀ commandId ids, event = .executed commandId ids → s.effects commandId = some ids)
    (terminated : ∀ commandId id, event = .terminated commandId id →
      ∃ ids, s.effects commandId = some ids ∧ id ∈ ids) :
    Good { s with log := event :: s.log } where
  ordered := ordered
  known l mem := mem_cons_of_mem _ (good.known l mem)
  noted commandId := (quiet commandId).trans (good.noted commandId)
  queued commandId := by
    rw [quiet, silent]
    exact good.queued commandId
  executed commandId ids mem := by
    obtain here | old := mem_cons.mp mem
    · exact executed commandId ids here.symm
    · exact good.executed commandId ids old
  terminated commandId id mem := by
    obtain here | old := mem_cons.mp mem
    · exact terminated commandId id here.symm
    · exact good.terminated commandId id old

/-- An execution with noted leases. -/
lemma Good.execute (good : Good s) (noted : s.effects commandId = some ids) :
    Good { s with log := .executed commandId ids :: s.log } := by
  refine good.event good.ordered (fun _ => rfl) (fun _ => ?_) ?_ nofun
  · exact countP_cons_of_neg (by simp)
  · rintro _ _ ⟨⟩
    exact noted

/-- A connection of a noted lease is closed. -/
lemma Good.terminate (good : Good s) {id : String} (noted : s.effects commandId = some ids) (mem : id ∈ ids) :
    Good { s with log := .terminated commandId id :: s.log } := by
  refine good.event good.ordered (fun _ => rfl) (fun _ => ?_) nofun ?_
  · exact countP_cons_of_neg (by simp)
  · rintro _ _ ⟨⟩
    exact ⟨ids, noted, mem⟩

/-- Revoking changes no id. -/
lemma mem_revoke : ∀ l' ∈ s.revoke tokenId clientId,
    ∃ l ∈ s.leases, l.leaseId = l'.leaseId := by
  intro l' mem
  obtain ⟨l, there, rfl⟩ := mem_map.mp mem
  refine ⟨l, there, ?_⟩
  split
  · rfl
  · rfl

/-- A device logs in with a new lease. -/
lemma Good.bootstrap (good : Good s) {leaseId : String} (new : .created leaseId ∉ s.log) :
    Good (s.bootstrap tokenId clientId leaseId) := by
  have created : Good { s with log := .created leaseId :: s.log } := by
    refine good.event ⟨new, good.ordered⟩ (fun _ => rfl) (fun _ => ?_) nofun nofun
    exact countP_cons_of_neg (by simp)
  refine ⟨created.ordered, ?_, created.noted, created.queued, created.executed, created.terminated⟩
  intro l' mem
  obtain old | here := mem_append.mp mem
  · obtain ⟨l, there, same⟩ := mem_revoke l' old
    rw [← same]
    exact created.known l there
  · cases mem_singleton.mp here
    exact mem_cons_self

/-- A commit is one revocation of its command. -/
lemma revocations_committed {other : String} :
    revocations other (.queued commandId :: .revoked commandId ids :: log) =
      if commandId = other then ids :: revocations other log else revocations other log := by
  by_cases same : commandId = other
  · simp [revocations, same]
  · simp [revocations, same]

/-- A commit is one message of its command. -/
lemma messages_committed {other : String} :
    messages other (.queued commandId :: .revoked commandId ids :: log) =
      messages other log + if commandId = other then 1 else 0 := by
  simp only [messages, countP_cons, decide_eq_true_eq, Event.queued.injEq, reduceCtorEq, if_false,
    Nat.add_zero]

/-- A committed transaction of a command. -/
lemma Good.committed (good : Good s) (c : Committed s commandId ids s') :
    Good s' ∧ s'.effects commandId = some ids ∧
      ∀ other all, s.effects other = some all → s'.effects other = some all := by
  cases c with
  | repeated noted => exact ⟨good, noted, fun _ _ => id⟩
  | first new leases effects log =>
    obtain ⟨_, _, rfl, leases⟩ := leases
    have kept : ∀ other all, s.effects other = some all → s'.effects other = some all := by
      intro other all noted
      rw [effects, update_of_ne, noted]
      rintro rfl
      cases new.symm.trans noted
    refine ⟨?_, by rw [effects, update_self], kept⟩
    refine ⟨?ordered, ?known, ?noted, ?queued, ?executed, ?terminated⟩
    case ordered =>
      rw [log]
      refine ⟨fun id mem => ?_, good.ordered⟩
      obtain ⟨l, there, rfl⟩ := mem_map.mp mem
      exact good.known l (mem_filter.mp there).1
    case known =>
      intro l' mem
      rw [leases] at mem
      obtain ⟨l, there, same⟩ := mem_revoke l' mem
      rw [← same, log]
      exact mem_cons_of_mem _ (mem_cons_of_mem _ (good.known l there))
    case noted =>
      intro other
      rw [log, revocations_committed, good.noted, effects]
      split
      · rename_i same
        rw [← same, new, update_self]
        rfl
      · rename_i differ
        rw [update_of_ne (Ne.symm differ)]
    case queued =>
      intro other
      rw [log, revocations_committed, messages_committed, good.queued]
      split
      · rfl
      · rfl
    case executed =>
      intro other all mem
      rw [log] at mem
      simp only [mem_cons, reduceCtorEq, false_or] at mem
      exact kept other all (good.executed other all mem)
    case terminated =>
      intro other id mem
      rw [log] at mem
      simp only [mem_cons, reduceCtorEq, false_or] at mem
      obtain ⟨all, noted, mem⟩ := good.terminated other id mem
      exact ⟨all, kept other all noted, mem⟩

/-! ## Runs -/

/-- A handler that closes connections works on the leases noted for its command. -/
structure Fine (e : State) : Prop where
  store : Good e.store
  closing : ∀ i h ids, e.handlers i = some h → h.stage = .closing ids →
    ∃ all, e.store.effects h.command.commandId = some all ∧ ∀ id ∈ ids, id ∈ all

variable {i : Nat} {h : Handler}

/-- A handler moves on, and what was noted stays. -/
lemma Fine.goto (fine : Fine e) {stage : Stage} {store : Store}
    (good : Good store) (kept : ∀ other all, e.store.effects other = some all → store.effects other = some all)
    (closing : ∀ ids, stage = .closing ids →
      ∃ all, store.effects h.command.commandId = some all ∧ ∀ id ∈ ids, id ∈ all) :
    Fine (State.goto { e with store, received } i h stage) where
  store := good
  closing j h' ids at_ is := by
    by_cases same : j = i
    · subst same
      cases (update_self ..).symm.trans at_
      exact closing ids is
    · obtain ⟨all, noted, sub⟩ := fine.closing j h' ids ((update_of_ne same ..).symm.trans at_) is
      exact ⟨all, kept _ all noted, sub⟩

/-- A handler ends. -/
lemma Fine.leave (fine : Fine e) :
    Fine (State.leave { e with received } i) where
  store := fine.store
  closing j h' ids at_ is := by
    by_cases same : j = i
    · subst same
      cases (update_self ..).symm.trans at_
    · exact fine.closing j h' ids ((update_of_ne same ..).symm.trans at_) is

/-- A handler moves on without touching the database of the leases. -/
lemma Fine.advance (fine : Fine e) {stage : Stage}
    (quiet : ∀ ids, stage ≠ .closing ids) : Fine (State.goto { e with received } i h stage) :=
  fine.goto fine.store (fun _ _ => id) fun ids is => absurd is (quiet ids)

/-- A handler runs the transaction. -/
lemma Fine.execute (fine : Fine e) : Fine (e.execute i h c) := by
  unfold State.execute
  split
  · exact fine.advance nofun
  · split
    · exact fine.advance nofun
    · split
      · exact fine.advance nofun
      · split
        · rename_i failed
          rw [disconnectClientForCommand_error failed]
          exact fine.advance nofun
        · rename_i store ids done
          obtain ⟨good, noted, kept⟩ := fine.store.committed (disconnectClientForCommand_ok done)
          refine fine.goto (good.execute noted) kept fun ids' is => ?_
          cases is
          exact ⟨ids, noted, fun _ => id⟩

/-- A handler goes on. -/
lemma Fine.proceed (fine : Fine e) (at_ : e.handlers i = some h) : Fine (e.proceed i h c) := by
  unfold State.proceed
  split
  · split
    · exact fine.leave
    · split
      · exact fine.advance nofun
      · exact fine.leave
      · exact fine.advance nofun
  · split
    · exact fine.leave
    · exact fine.advance nofun
  · exact fine.execute
  · exact fine.advance nofun
  · rename_i id ids is
    obtain ⟨all, noted, sub⟩ := fine.closing i h _ at_ is
    refine fine.goto (fine.store.terminate noted (sub id mem_cons_self)) (fun _ _ => fun e => e) ?_
    rintro _ ⟨⟩
    exact ⟨all, noted, fun id mem => sub id (mem_cons_of_mem _ mem)⟩
  · split
    · exact fine.leave
    · exact fine.leave

/-- Every step is fine. -/
lemma Fine.step {a : Action} (fine : Fine e) (st : e.step a = some e') : Fine e' := by
  cases a with
  | deliver _ command =>
    simp only [State.step] at st
    split at st
    · cases st
      exact fine.advance (h := { command }) nofun
    · cases st
  | next =>
    obtain ⟨_, at_, rfl⟩ := map_eq_some_iff.mp st
    exact fine.proceed at_
  | bootstrap =>
    simp only [State.step] at st
    split at st
    · cases st
    · rename_i new
      cases st
      exact ⟨fine.store.bootstrap new, fine.closing⟩
  | endLeases =>
    cases st
    refine ⟨fine.store.leases fun l' mem => ?_, fine.closing⟩
    obtain ⟨l, there, rfl⟩ := mem_map.mp mem
    exact ⟨l, (mem_filter.mp there).1, rfl⟩
  | acknowledge =>
    cases st
    exact ⟨fine.store.leases fun l mem => ⟨l, mem, rfl⟩, fine.closing⟩
  | crash =>
    cases st
    exact ⟨fine.store, nofun⟩

/-- A command whose leases were noted changes no lease. -/
lemma leases_execute (noted : e.store.effects h.command.commandId = some ids) :
    (e.execute i h c).store.leases = e.store.leases := by
  unfold State.execute
  split
  · rfl
  · split
    · rfl
    · split
      · rfl
      · split
        · rename_i failed
          rw [disconnectClientForCommand_error failed]
          rfl
        · rename_i done
          cases disconnectClientForCommand_ok done with
          | repeated => rfl
          | first new => cases new.symm.trans noted

/-- A handler with noted leases changes no lease. -/
lemma leases_proceed (noted : e.store.effects h.command.commandId = some ids) :
    (e.proceed i h c).store.leases = e.store.leases := by
  unfold State.proceed
  split
  · split
    · rfl
    · split
      · rfl
      · rfl
      · rfl
  · split
    · rfl
    · rfl
  · exact leases_execute noted
  · rfl
  · rfl
  · split
    · rfl
    · rfl

/-- A command that is delivered and replayed in any way revokes leases and queues a message at most once, and both
or neither; all of its executions get the same leases; a lease that is created after its first committed
execution is neither revoked nor closed by it; and from that execution on none of its steps changes a lease. -/
theorem replay_spares_new_sessions (reach : machine.Reachable e) (commandId : String) :
    (revocations commandId e.store.log).length ≤ 1 ∧
    messages commandId e.store.log = (revocations commandId e.store.log).length ∧
    (∀ ids ids', .executed commandId ids ∈ e.store.log → .executed commandId ids' ∈ e.store.log → ids = ids') ∧
    (∀ newer older ids lease, e.store.log = newer ++ .revoked commandId ids :: older → .created lease ∈ newer →
      lease ∉ ids ∧ .terminated commandId lease ∉ e.store.log) ∧
    ∀ i h c e', e.handlers i = some h → h.command.commandId = commandId →
      revocations commandId e.store.log ≠ [] → e.step (.next i c) = some e' →
      e'.store.leases = e.store.leases := by
  have fine : Fine e := by
    refine reach.inv ?_ fun e a e' => Fine.step
    rintro e ⟨store, _, handlers⟩
    refine ⟨?_, by simp [handlers]⟩
    rw [store]
    exact ⟨trivial, nofun, fun _ => rfl, fun _ => rfl, nofun, nofun⟩
  have good := fine.store
  refine ⟨?_, good.queued commandId, ?_, ?_, ?_⟩
  · rw [good.noted]
    exact length_toList_le
  · intro ids ids' first second
    exact Option.some.inj ((good.executed _ _ first).symm.trans (good.executed _ _ second))
  · intro newer older ids lease log created
    have spared : lease ∉ ids := Ordered.not_mem (log ▸ good.ordered) created
    refine ⟨spared, fun terminated => ?_⟩
    obtain ⟨_, noted, mem⟩ := good.terminated _ _ terminated
    have revoked : ids ∈ revocations commandId e.store.log := by
      rw [log, revocations, filterMap_append]
      exact mem_append_right _ (by simp)
    rw [good.noted, noted, toList_some, mem_singleton] at revoked
    exact spared (revoked ▸ mem)
  · rintro i h c e' at_ rfl revoked st
    obtain ⟨_, at', rfl⟩ := map_eq_some_iff.mp st
    cases at_.symm.trans at'
    cases noted : e.store.effects h.command.commandId with
    | none => exact absurd ((good.noted _).trans (noted ▸ rfl)) revoked
    | some => exact leases_proceed noted

/-- A command for the device `pc`. -/
def sampleCommand : Command where
  commandId := "kick"
  payload := some { tokenId := 1, clientId := "pc", reason := "blocked" }

/-- The process dies after the transaction, the device logs in, and the command is replayed. -/
def sampleLog : List Event :=
  [.terminated "kick" "old", .executed "kick" ["old"], .created "new"] ++
    [.executed "kick" ["old"], .queued "kick", .revoked "kick" ["old"], .created "old"]

/-- The replay revokes the old lease only. -/
theorem replay_spares_new_sessions_crash : ∃ e, machine.Reachable e ∧ e.store.log = sampleLog ∧
    e.store.leases = [⟨"old", 1, "pc", false⟩, ⟨"new", 1, "pc", true⟩] ∧
    .terminated "kick" "new" ∉ e.store.log := by
  let acts : List Action := [.bootstrap 1 "pc" "old", .deliver 0 sampleCommand] ++
    List.replicate 3 (.next 0 {}) ++ [.crash, .bootstrap 1 "pc" "new", .deliver 0 sampleCommand] ++
    List.replicate 5 (.next 0 {})
  obtain ⟨e, run, log, leases⟩ : ∃ e, machine.run {} acts = some e ∧ e.store.log = sampleLog ∧
      e.store.leases = [⟨"old", 1, "pc", false⟩, ⟨"new", 1, "pc", true⟩] := ⟨_, rfl, rfl, rfl⟩
  have reach : machine.Reachable e := ⟨{}, acts, ⟨rfl, rfl, rfl⟩, run⟩
  obtain ⟨_, _, _, spared, _⟩ := replay_spares_new_sessions reach "kick"
  exact ⟨e, reach, log, leases, (spared (sampleLog.take 5) [.created "old"] ["old"] "new" log (by decide)).2⟩

end MeowFrp.Edge.Disconnect
