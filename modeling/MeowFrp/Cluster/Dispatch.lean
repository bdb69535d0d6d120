import MeowFrp.Cluster.Results
import Mathlib.Data.List.Sort
import Mathlib.Logic.Function.Basic

/-!
# Commands from the controller to an edge and back

A command for a node is a row of `node_commands` first. A request of an administrator may send it and wait for the
answer (Go `SendCommandAndWait`); besides, all open rows are sent again and again (Go `dispatchPendingCommands`). The
edge handles commands one after the other (Go `HandleEdgeCommand`), notes each of them in `received_commands` and
answers; the controller stores the answer with the row (Go `CompleteNodeCommand`) and passes it on to the request that
waits. Streams break and are replaced, queues overflow, either process stops at any time, and every access to a
database may fail.

The state is that of the controller, of one node and of the stream between them. The queues of a stream are one list
in each direction; they hold other messages, too, so that a queue may be full at any time. Whether a configuration is
superseded and what the execution of a command gives is left open here: `Edge.Commands` and `Edge.Disconnect` say it.
The clocks are those of the two machines. `log` and `confirmed` are history variables, the latest first.
-/

namespace MeowFrp.Cluster.Dispatch

open Lib Config Function

/-- The commands of an edge; `other` is a command that it does not know. -/
inductive Kind where
  | updateEdgeRuntimeSettings
  | updateEdgePermissions
  | updateEdgeAdvancedSettings
  | disconnectClient
  | disconnectConnection
  | blockIp
  | unblockIp
  | resetFrpTls
  | other
  deriving DecidableEq, Repr

/-- The three commands of Go `queueEdgeConfiguration`, which do not expire. -/
def Kind.configuration : Kind → Bool
  | .updateEdgeRuntimeSettings | .updateEdgePermissions | .updateEdgeAdvancedSettings => true
  | _ => false

/-- Go `cluster.NodeCommand`; one that expires at 0 does not expire. -/
structure NodeCommand where
  commandId : String
  kind : Kind
  expiresAt : Nat
  deriving DecidableEq, Repr

/-- Go `CommandResult`. -/
structure CommandResult extends Results.CommandResult where
  commandId : String
  error : String := ""
  deriving DecidableEq, Repr

def NodeCommand.failed (c : NodeCommand) (error : String) : CommandResult :=
  { commandId := c.commandId, status := .failed, error }

def NodeCommand.succeeded (c : NodeCommand) (superseded : Bool) : CommandResult :=
  { commandId := c.commandId, status := .succeeded, superseded }

/-- The command is to be sent again. -/
def CommandResult.again (r : CommandResult) (error : String) : CommandResult := { r with status := .retry, error }

/-! ## The edge -/

/-- A row of `received_commands`. -/
inductive Received where
  | executing
  | finished (result : CommandResult)
  deriving DecidableEq, Repr

/-- Where Go `HandleEdgeCommand` is: after `BeginCommand`, or after the execution. -/
inductive Handling where
  | begun (c : NodeCommand)
  | settled (c : NodeCommand) (result : CommandResult)
  deriving DecidableEq, Repr

inductive Event where
  | executed (commandId : String)
  | noted (result : CommandResult)
  | answered (result : CommandResult)
  deriving DecidableEq, Repr

structure Edge where
  received : String → Option Received := fun _ => none
  handling : Option Handling := none
  log : List Event := []

/-- The steps of Go `HandleEdgeCommand` after `BeginCommand`. -/
inductive EdgeAction where
  /-- the noted revision cannot be read -/
  | revisionFails (error : String)
  | supersede (fails : Option String)
  | expire (clock : Nat) (fails : Bool)
  | execute (clock : Nat) (fails : Option String)
  /-- the new revision cannot be noted -/
  | confirmFails (error : String)
  | finish (fails : Option String)

namespace Edge

/-- Go `BeginCommand`: the command is to be executed, or it has a result. -/
def beginCommand (e : Edge) (c : NodeCommand) : Edge × Option CommandResult :=
  match e.received c.commandId with
  | none => ({ e with received := update e.received c.commandId (some .executing) }, none)
  | some .executing =>
    -- the commands that the edge knows may be executed again
    if c.kind = .other then (e, some (c.failed "previous command execution did not complete")) else (e, none)
  | some (.finished result) => (e, some result)

/-- Go `FinishCommand`. -/
def finishCommand (e : Edge) (r : CommandResult) : Edge :=
  { e with
    received := update e.received r.commandId ((e.received r.commandId).map fun _ => .finished r)
    log := .noted r :: e.log }

/-- Go `HandleEdgeCommand` returns. -/
def answer (e : Edge) (r : CommandResult) : Edge × Option CommandResult :=
  ({ e with handling := none, log := .answered r :: e.log }, some r)

/-- Go `HandleEdgeCommand` up to `BeginCommand`, with the answer if there is one. -/
def start (e : Edge) (c : NodeCommand) (fails : Option String) : Edge × Option CommandResult :=
  match fails with
  | some error => e.answer ((c.failed "").again error)
  | none =>
    match e.beginCommand c with
    | (begun, none) => ({ begun with handling := some (.begun c) }, none)
    | (begun, some cached) => begun.answer cached

/-- Go `HandleEdgeCommand` returns after `FinishCommand`. -/
def conclude (e : Edge) (r : CommandResult) : Option String → Edge × Option CommandResult
  | some error => e.answer (r.again error)
  | none => (e.finishCommand r).answer r

/-- A step of Go `HandleEdgeCommand`, and the answer if it is the last. -/
def step (e : Edge) (a : EdgeAction) : Option (Edge × Option CommandResult) :=
  match a, e.handling with
  | .revisionFails error, some (.begun c) =>
    if c.kind.configuration then some (e.answer ((c.failed "").again ("read configuration revision: " ++ error)))
    else none
  | .supersede fails, some (.begun c) =>
    if c.kind.configuration then some (e.conclude (c.succeeded true) fails) else none
  | .expire clock fails, some (.begun c) =>
    if !c.kind.configuration && c.expiresAt ≠ 0 && c.expiresAt < clock then
      let r := c.failed "command expired before execution"
      -- an error of `FinishCommand` is ignored here
      some (if fails then e.answer r else e.conclude r none)
    else none
  | .execute clock fails, some (.begun c) =>
    if !c.kind.configuration && c.expiresAt ≠ 0 && c.expiresAt < clock then none
    else
      let r :=
        match c.kind, fails with
        | .other, _ => c.failed "unsupported command"
        | _, some error => c.failed error
        | _, none => c.succeeded false
      some ({ e with handling := some (.settled c r), log := .executed c.commandId :: e.log }, none)
  | .confirmFails error, some (.settled c r) =>
    if c.kind.configuration && r.status = .succeeded then
      some (e.answer (r.again ("persist configuration revision: " ++ error)))
    else none
  | .finish fails, some (.settled _ r) =>
    some (e.conclude r (fails.map fun error => "persist edge command result: " ++ error))
  | _, _ => none

end Edge

/-! ## The controller -/

/-- The columns of `node_commands` that `Results.NodeCommand` leaves out. -/
structure Columns where
  kind : Kind := .other
  expiresAt : Nat := 0
  createdAt : Nat := 0
  deriving DecidableEq, Repr

/-- A stream: the commands and the answers on their way. -/
structure Session where
  commands : List NodeCommand := []
  replies : List CommandResult := []
  deriving DecidableEq, Repr

structure State where
  /-- the rows of the node -/
  node : Results.Node
  columns : String → Columns := fun _ => {}
  /-- `commandWaiters`, with what is in the channel -/
  waiters : String → Option (Option CommandResult) := fun _ => none
  session : Option Session := none
  /-- the rows that Go `dispatchPendingCommands` has read and not sent yet -/
  dispatching : List NodeCommand := []
  /-- the answers that the workers of this and of earlier streams have to store -/
  telemetryJobs : List CommandResult := []
  edge : Edge := {}
  /-- the successes that a request was told -/
  confirmed : List CommandResult := []

/-- What becomes of a transaction; `unknown` commits and reports an error. -/
inductive Outcome where
  | committed
  | unknown
  | rolledBack
  deriving DecidableEq, Repr

inductive Action where
  /-- Go `CreateNodeCommand` -/
  | create (commandId : String) (columns : Columns) (revision : Nat) (settings : NodeRuntimeConfig)
  /-- Go `SendCommandAndWait` up to the answer -/
  | call (commandId : String) (full : Bool)
  | timeout (commandId : String) (marked : Bool)
  /-- the request gets its answer -/
  | receive (commandId : String) (outcome : Outcome)
  /-- Go `createEdgeCommand` sends a command and does not wait -/
  | send (commandId : String) (full marked : Bool)
  | connect
  | disconnect
  /-- the process of the controller stops -/
  | restart
  /-- the process of the edge stops -/
  | crash
  /-- Go `dispatchPendingCommands` reads the open rows -/
  | list (clock : Nat)
  /-- and sends one of them -/
  | dispatch (i : Nat) (full marked : Bool)
  | start (fails : Option String)
  | edge (a : EdgeAction)
  /-- an answer reaches the controller -/
  | arrive (full : Bool)
  /-- Go `persistControlData` -/
  | persist (i : Nat) (outcome : Outcome)

namespace State

/-- The command of a row. -/
def command (s : State) (commandId : String) : NodeCommand :=
  ⟨commandId, (s.columns commandId).kind, (s.columns commandId).expiresAt⟩

/-- The row of a command. -/
def row (s : State) (commandId : String) : Option Results.NodeCommand :=
  s.node.commands.find? (·.commandId = commandId)

/-- Go `SendCommand`, where there is a stream: a full queue ends it. -/
def sendCommand (s : State) (c : NodeCommand) (full : Bool) : State :=
  { s with
    session :=
      if full then none else s.session.map fun x => { x with commands := x.commands ++ [c] } }

/-- Go `deliverCommandResult`: the channel has room for one result. -/
def deliverCommandResult (s : State) (r : CommandResult) : State :=
  match s.waiters r.commandId with
  | some none => { s with waiters := update s.waiters r.commandId (some (some r)) }
  | _ => s

/-- `ORDER BY created_at, command_id` -/
def before (s : State) (a b : Results.NodeCommand) : Bool :=
  let (createdAt, createdAt') := ((s.columns a.commandId).createdAt, (s.columns b.commandId).createdAt)
  createdAt < createdAt' || (createdAt = createdAt' && a.commandId ≤ b.commandId)

/-- Go `ListPendingNodeCommands`. -/
def listPendingNodeCommands (s : State) (clock : Nat) : List NodeCommand :=
  let pending := s.node.commands.rows.filter fun row => !row.status.final &&
    (clock < (s.columns row.commandId).expiresAt || (s.columns row.commandId).kind.configuration)
  ((pending.insertionSort (s.before · ·)).take 100).map fun row => s.command row.commandId

/-- Go `MarkNodeCommandDelivered`, which may fail. -/
def mark (s : State) (commandId : String) (marked : Bool) : State :=
  if marked then { s with node := Results.markNodeCommandDelivered s.node commandId } else s

/-- A command is sent, and its row says so. -/
def sendAndMark (s : State) (c : NodeCommand) (full marked : Bool) : State :=
  if s.session.isNone then s
  else if full then s.sendCommand c full
  else (s.sendCommand c full).mark c.commandId marked

/-- Go `CompleteNodeCommand`, and whether it returns no error. -/
def completeNodeCommand (s : State) (r : CommandResult) (outcome : Outcome) : State × Bool :=
  match outcome, Results.completeNodeCommand s.node r.commandId r.toCommandResult with
  | .committed, some node => ({ s with node }, true)
  | .unknown, some node => ({ s with node }, false)
  | _, _ => (s, false)

/-- Go `persistControlData` for the result of a command. -/
def persistControlData (s : State) (r : CommandResult) (outcome : Outcome) : State :=
  let unavailable := r.again "edge replied, controller persistence unavailable; safe retry pending"
  let stored := s.completeNodeCommand r outcome
  -- `ErrNotFound` is no error
  stored.1.deliverCommandResult (if stored.2 || (s.row r.commandId).isNone then r else unavailable)

/-- The answer of a request; Go `createEdgeCommand` stores it first. -/
def receive (s : State) (r : CommandResult) (outcome : Outcome) : State :=
  let s := { s with waiters := update s.waiters r.commandId none }
  let stored :=
    if (s.columns r.commandId).kind.configuration then (s.mark r.commandId (outcome ≠ .rolledBack), true)
    else s.completeNodeCommand r outcome
  if stored.2 && r.status = .succeeded then { stored.1 with confirmed := r :: stored.1.confirmed }
  else stored.1

/-- The edge has taken a step; an answer goes into the stream. -/
def answer (s : State) (out : Edge × Option CommandResult) : State :=
  { s with
    edge := out.1
    session :=
      match out.2 with
      | none => s.session
      | some r => s.session.map fun x => { x with replies := x.replies ++ [r] } }

end State

def step (s : State) : Action → Option State
  | .create commandId columns revision settings =>
    let runtime := columns.kind = .updateEdgeRuntimeSettings
    -- Go `NextIdentityRevision` draws a new one
    if s.node.commands.any (·.revision = some revision) then none
    else do
      let commands ← s.node.commands.insert
        { commandId
          commandType := if runtime then .updateEdgeRuntimeSettings else .other
          revision := if columns.kind.configuration then some revision else none
          node := if runtime then some settings else none }
      some { s with
        node := { s.node with commands }
        columns := update s.columns commandId columns }
  | .call commandId full => do
    let _ ← s.row commandId
    if s.session.isNone || (s.waiters commandId).isSome then none
    -- a command that cannot be sent ends the call
    else if full then some (s.sendCommand (s.command commandId) true)
    else
      some { s.sendCommand (s.command commandId) false with
        waiters := update s.waiters commandId (some none) }
  | .timeout commandId marked =>
    let s := { s with waiters := update s.waiters commandId none }
    some (if (s.columns commandId).kind.configuration then s.mark commandId marked else s)
  | .receive commandId outcome => do
    let r ← (s.waiters commandId).join
    some (s.receive r outcome)
  | .send commandId full marked => do
    let _ ← s.row commandId
    if (s.columns commandId).kind.configuration then none
    else some (s.sendAndMark (s.command commandId) full marked)
  | .connect => if s.edge.handling = none then some { s with session := some {} } else none
  | .disconnect => some { s with session := none }
  | .restart => some { s with session := none, waiters := fun _ => none, dispatching := [], telemetryJobs := [] }
  | .crash => some { s with session := none, edge := { s.edge with handling := none } }
  | .list clock => some { s with dispatching := s.dispatching ++ s.listPendingNodeCommands clock }
  | .dispatch i full marked => do
    let c ← s.dispatching[i]?
    some (State.sendAndMark { s with dispatching := s.dispatching.eraseIdx i } c full marked)
  | .start fails => do
    let x ← s.session
    match x.commands, s.edge.handling with
    | c :: commands, none =>
      some (State.answer { s with session := some { x with commands } } (s.edge.start c fails))
    | _, _ => none
  | .edge a => do
    let out ← s.edge.step a
    some (s.answer out)
  | .arrive full => do
    let x ← s.session
    match x.replies with
    | [] => none
    | r :: replies =>
      let s := { s with session := some { x with replies } }
      some (if full then
          s.deliverCommandResult
            { commandId := r.commandId, status := .failed, error := "persistence queue is busy; retry later" }
        else { s with telemetryJobs := r :: s.telemetryJobs })
  | .persist i outcome => do
    let r ← s.telemetryJobs[i]?
    some (State.persistControlData { s with telemetryJobs := s.telemetryJobs.eraseIdx i } r outcome)

/-- An active node without commands, and an edge that has received none. -/
def machine : Machine State Action where
  Init s := ∃ entry, s = { node := { entry } }
  step := step

end MeowFrp.Cluster.Dispatch
