import MeowFrp.Config.Basic
import MeowFrp.Lib.Machine
import MeowFrp.Lib.Table

/-!
# Results of commands and the directory of the nodes

The controller keeps the commands for a node in the table `node_commands` and changes the entry of the node in
its directory when the node reports that it has taken over runtime settings (Go `CompleteNodeCommand`). The
results come in any order, more than once and over streams that were replaced in the meantime. The
transaction takes the lock of the row of the node first, so that the results of one node are handled one
after the other; it is one step here, which either commits or leaves everything as it was.

The state is that of one node. `shown` is not in the source: it is the revision of the settings that the
entry was taken from.
-/

namespace MeowFrp.Cluster.Results

open Lib Config Table

/-- The types of commands that are told apart here. -/
inductive CommandType where
  | updateEdgeRuntimeSettings
  | other
  deriving DecidableEq, Repr

inductive CommandStatus where
  | pending
  | delivered
  | succeeded
  | failed
  deriving DecidableEq, Repr

/-- The status is not changed any more. -/
def CommandStatus.final : CommandStatus → Bool
  | .succeeded | .failed => true
  | .pending | .delivered => false

/-- Go `NodeCommandRecord`. -/
structure NodeCommand where
  commandId : String
  commandType : CommandType
  /-- `_configuration_revision` of the payload, if it decodes -/
  revision : Option Nat
  /-- the settings in the payload, if they decode -/
  node : Option NodeRuntimeConfig
  status : CommandStatus := .pending
  /-- the stored result says `superseded` -/
  superseded : Bool := false
  deriving DecidableEq, Repr

instance : Schema NodeCommand where
  clash a b := a.commandId = b.commandId
  symm := Eq.symm
  dec a b := inferInstanceAs (Decidable (a.commandId = b.commandId))

/-- The status in a result; any other text is taken for `failed`. -/
inductive ResultStatus where
  | succeeded
  | failed
  | retry
  | unknown
  deriving DecidableEq, Repr

/-- Go `CommandResult`. -/
structure CommandResult where
  status : ResultStatus
  superseded : Bool := false
  deriving DecidableEq, Repr

/-- The status that is stored for a result. -/
def CommandResult.stored (r : CommandResult) : CommandStatus :=
  match r.status with
  | .succeeded => .succeeded
  | .failed | .unknown => .failed
  | .retry => .pending

/-- The columns of `edge_nodes` that a client can see. -/
structure Entry where
  name : String
  publicApiUrl : String
  selectable : Bool
  deriving DecidableEq, Repr

/-- A node and the commands for it. -/
structure Node where
  entry : Entry
  /-- the status of the node is `active` -/
  active : Bool := true
  commands : Table NodeCommand := ∅
  shown : Option Nat := none

/-- What settings make of the entry. -/
def entryOf (node : NodeRuntimeConfig) : Entry where
  name := node.tag
  publicApiUrl := node.publicApiUrl
  selectable := node.selectable

/-- The revision of settings that the node took over, or found superseded. -/
def NodeCommand.completedRevision (c : NodeCommand) : Option Nat :=
  if c.commandType = .updateEdgeRuntimeSettings && c.status = .succeeded then c.revision else none

/-- The loop body of Go `greatestCompletedConfigurationRevision`. -/
def greater (greatest : Nat) (c : NodeCommand) : Nat :=
  match c.completedRevision with
  | some revision => if greatest < revision then revision else greatest
  | none => greatest

/-- Go `greatestCompletedConfigurationRevision`. -/
def greatestCompletedConfigurationRevision (commands : Table NodeCommand) : Nat := commands.rows.foldl greater 0

def NodeCommand.deliver (c : NodeCommand) : NodeCommand := { c with status := .delivered }

/-- Go `MarkNodeCommandDelivered`. -/
def markNodeCommandDelivered (n : Node) (id : String) : Node :=
  { n with commands :=
      n.commands.update (fun c => c.commandId = id && c.status = .pending) NodeCommand.deliver }

/-- The result is stored with its command. -/
def NodeCommand.complete (result : CommandResult) (c : NodeCommand) : NodeCommand :=
  { c with status := result.stored, superseded := result.superseded }

/-- Go `CompleteNodeCommand`; an error rolls the transaction back. -/
def completeNodeCommand (n : Node) (id : String) (result : CommandResult) : Option Node :=
  match n.commands.find? (·.commandId = id) with
  | none => none
  | some c =>
    -- a result that is repeated changes nothing
    if c.status.final then some n
    else
      let n := { n with commands := n.commands.update (·.commandId = id) (NodeCommand.complete result) }
      if c.commandType = .updateEdgeRuntimeSettings && result.stored = .succeeded then
        let revision := c.revision.getD 0
        if result.superseded || revision < greatestCompletedConfigurationRevision n.commands then some n
        else
          match c.node with
          | none => none
          | some node => some (if n.active then { n with entry := entryOf node, shown := some revision } else n)
      else some n

inductive Action where
  | create (commandId : String) (commandType : CommandType) (revision : Option Nat)
    (node : Option NodeRuntimeConfig)
  | deliver (commandId : String)
  /-- a result is handled; `fails` is an error of the database -/
  | complete (commandId : String) (result : CommandResult) (fails : Bool)

def step (n : Node) : Action → Option Node
  | .create commandId commandType revision node =>
    (n.commands.insert { commandId, commandType, revision, node }).map fun commands => { n with commands }
  | .deliver commandId => some (markNodeCommandDelivered n commandId)
  | .complete commandId result fails =>
    if fails then some n else some ((completeNodeCommand n commandId result).getD n)

/-- An active node for which no command was issued yet. -/
def machine : Machine Node Action where
  Init n := n.active = true ∧ n.commands = ∅ ∧ n.shown = none
  step := step

/-- Settings are issued with a payload that decodes and a revision of their own. -/
def WellFormed (n : Node) : Action → Prop
  | .create _ commandType revision node => commandType = .updateEdgeRuntimeSettings →
      revision.isSome = true ∧ node.isSome = true ∧
      ∀ c ∈ n.commands.rows, c.commandType = .updateEdgeRuntimeSettings → c.revision ≠ revision
  | .deliver _ | .complete _ _ _ => True

instance (n : Node) : (a : Action) → Decidable (WellFormed n a)
  | .create _ commandType _ _ => inferInstanceAs (Decidable (commandType = .updateEdgeRuntimeSettings → _))
  | .deliver _ => inferInstanceAs (Decidable True)
  | .complete _ _ _ => inferInstanceAs (Decidable True)

/-- The node has taken over the runtime settings of the command. -/
def NodeCommand.Applied (c : NodeCommand) : Prop :=
  c.commandType = .updateEdgeRuntimeSettings ∧ c.status = .succeeded ∧ c.superseded = false

instance (c : NodeCommand) : Decidable c.Applied := inferInstanceAs (Decidable (_ ∧ _ ∧ _))

/-- A command is superseded only by a greater revision that was taken over. -/
def Justified (n : Node) : Prop :=
  ∀ c ∈ n.commands.rows, c.commandType = .updateEdgeRuntimeSettings → c.status = .succeeded →
    c.superseded = true → ∃ c' ∈ n.commands.rows, c'.Applied ∧ c.revision.getD 0 < c'.revision.getD 0

instance (n : Node) : Decidable (Justified n) := inferInstanceAs (Decidable (∀ c ∈ n.commands.rows, _))

variable {n n' n₀ : Node} {c c' : NodeCommand} {id : String} {result : CommandResult}

/-! ## The greatest revision -/

/-- The loop takes the greater revision. -/
lemma greater_eq_max {start : Nat} : greater start c = max start (c.completedRevision.getD 0) := by
  unfold greater
  cases c.completedRevision with
  | none => exact (Nat.max_zero start).symm
  | some r =>
    change (if start < r then r else start) = max start r
    split <;> omega

/-- The loop does not fall below its start. -/
lemma le_foldl_greater {rows : List NodeCommand} {start : Nat} : start ≤ rows.foldl greater start := by
  induction rows generalizing start with
  | nil => exact Nat.le_refl start
  | cons _ _ ih =>
    refine Nat.le_trans ?_ ih
    rw [greater_eq_max]
    exact Nat.le_max_left ..

/-- The greatest revision is at least every completed one. -/
lemma le_greatest {rows : List NodeCommand} {start : Nat} (mem : c ∈ rows) :
    c.completedRevision.getD 0 ≤ rows.foldl greater start := by
  induction rows generalizing start with
  | nil => cases mem
  | cons _ _ ih =>
    obtain rfl | mem := List.mem_cons.mp mem
    · refine Nat.le_trans (m := greater start c) ?_ le_foldl_greater
      rw [greater_eq_max]
      exact Nat.le_max_right ..
    · exact ih mem

/-- The greatest revision is that of a completed command, or the start. -/
lemma exists_of_lt_greatest {rows : List NodeCommand} {start r : Nat} (lt : r < rows.foldl greater start) :
    r < start ∨ ∃ c ∈ rows, r < c.completedRevision.getD 0 := by
  induction rows generalizing start with
  | nil => exact .inl lt
  | cons c _ ih =>
    obtain before | ⟨c', mem, lt⟩ := ih lt
    · rw [greater_eq_max] at before
      by_cases first : r < start
      · exact .inl first
      · exact .inr ⟨c, List.mem_cons_self, by omega⟩
    · exact .inr ⟨c', List.mem_cons_of_mem _ mem, lt⟩

/-- A command counts only when runtime settings have succeeded. -/
lemma completed_of_lt {r : Nat} (lt : r < c.completedRevision.getD 0) :
    c.commandType = .updateEdgeRuntimeSettings ∧ c.status = .succeeded ∧ r < c.revision.getD 0 := by
  unfold NodeCommand.completedRevision at lt
  split at lt
  · rename_i completed
    simp only [Bool.and_eq_true, decide_eq_true_eq] at completed
    exact ⟨completed.1, completed.2, lt⟩
  · cases lt

/-! ## One step -/

/-- A final command stays; one that becomes final keeps what it was issued with. -/
structure Follows (c c' : NodeCommand) : Prop where
  commandId : c'.commandId = c.commandId
  commandType : c'.commandType = c.commandType
  revision : c'.revision = c.revision
  node : c'.node = c.node
  final : c.status.final = true → c' = c

lemma Follows.refl : Follows c c := ⟨rfl, rfl, rfl, rfl, fun _ => rfl⟩

/-- The cases of a result that is handled. -/
inductive Completed (n : Node) (id : String) (result : CommandResult) : Node → Prop where
  /-- an error, or a result for a command with a final status -/
  | ignored : Completed n id result n
  /-- the status is stored, and the entry stays -/
  | stored {c : NodeCommand} (mem : c ∈ n.commands) (at_ : c.commandId = id) (running : c.status.final = false)
    (stays : c.commandType = .updateEdgeRuntimeSettings → result.stored = .succeeded →
      result.superseded = true ∨ c.revision.getD 0 <
        greatestCompletedConfigurationRevision (n.commands.update (·.commandId = id) (NodeCommand.complete result))) :
    Completed n id result { n with
      commands := n.commands.update (·.commandId = id) (NodeCommand.complete result) }
  /-- the entry follows -/
  | shown {c : NodeCommand} {node : NodeRuntimeConfig} (mem : c ∈ n.commands) (at_ : c.commandId = id)
    (running : c.status.final = false) (runtime : c.commandType = .updateEdgeRuntimeSettings)
    (succeeded : result.stored = .succeeded) (current : result.superseded = false) (settings : c.node = some node)
    (greatest : greatestCompletedConfigurationRevision
      (n.commands.update (·.commandId = id) (NodeCommand.complete result)) ≤ c.revision.getD 0) :
    Completed n id result { n with
      commands := n.commands.update (·.commandId = id) (NodeCommand.complete result)
      entry := entryOf node
      shown := some (c.revision.getD 0) }

/-- The result of a command of an active node. -/
lemma completeNodeCommand_cases (active : n.active = true) :
    Completed n id result ((completeNodeCommand n id result).getD n) := by
  unfold completeNodeCommand
  split
  · exact .ignored
  · rename_i c found
    have mem := mem_of_find? found
    have at_ := find?_prop found
    rw [decide_eq_true_eq] at at_
    split
    · exact .ignored
    · rename_i running
      have running : c.status.final = false := Bool.eq_false_iff.mpr running
      dsimp only
      split
      · rename_i success
        simp only [Bool.and_eq_true, decide_eq_true_eq] at success
        split
        · rename_i older
          simp only [Bool.or_eq_true, decide_eq_true_eq] at older
          exact .stored mem at_ running fun _ _ => older
        · rename_i newest
          simp only [Bool.or_eq_true, decide_eq_true_eq, not_or, not_lt, Bool.not_eq_true] at newest
          split
          · exact .ignored
          · rename_i node settings
            rw [Option.getD_some]
            exact .shown mem at_ running success.1 success.2 newest.1 settings newest.2
      · rename_i other
        simp only [Bool.and_eq_true, decide_eq_true_eq, not_and] at other
        exact .stored mem at_ running fun runtime succeeded => absurd succeeded (other runtime)

/-- The commands of one table, each moved on or as it was. -/
structure Moves (t t' : Table NodeCommand) : Prop where
  forward : ∀ c ∈ t, ∃ c' ∈ t', Follows c c'
  backward : ∀ c' ∈ t', ∃ c ∈ t, Follows c c'

/-- The commands with `p` move on. -/
lemma moves_update {t : Table NodeCommand} {p : NodeCommand → Bool} {f : NodeCommand → NodeCommand}
    {keeps : Table.KeepsKeys f} (follows : ∀ c ∈ t, p c = true → Follows c (f c)) : Moves t (t.update p f keeps) := by
  have each : ∀ c ∈ t, Follows c (Table.rewrite p f c) := by
    intro c mem
    unfold Table.rewrite
    split
    · rename_i hit
      exact follows c mem hit
    · exact .refl
  constructor
  · intro c mem
    exact ⟨_, mem_update.mpr ⟨c, mem, rfl⟩, each c mem⟩
  · intro c' mem
    obtain ⟨c, old, rfl⟩ := mem_update.mp mem
    exact ⟨c, old, each c old⟩

/-- Final commands stay. -/
lemma Moves.final {t t' : Table NodeCommand} (moves : Moves t t') (mem : c ∈ t) (final : c.status.final = true) :
    c ∈ t' := by
  obtain ⟨_, _, follows⟩ := moves.forward c mem
  rwa [← follows.final final]

lemma final_of_succeeded (succeeded : c.status = .succeeded) : c.status.final = true := by
  rw [succeeded]
  rfl

/-! ## The directory -/

/-- The revision of a command. -/
def NodeCommand.rev (c : NodeCommand) : Nat := c.revision.getD 0

/-- The commands are well formed. -/
structure Proper (t : Table NodeCommand) : Prop where
  decodes : ∀ c ∈ t, c.commandType = .updateEdgeRuntimeSettings → c.revision.isSome = true ∧ c.node.isSome = true
  distinct : ∀ c ∈ t, ∀ c' ∈ t, c.commandType = .updateEdgeRuntimeSettings →
    c'.commandType = .updateEdgeRuntimeSettings → c.revision = c'.revision → c = c'

/-- A table stays proper when commands move on. -/
lemma Proper.moves {t t' : Table NodeCommand} (proper : Proper t) (moves : Moves t t') : Proper t' where
  decodes c' mem' runtime := by
    obtain ⟨c, mem, follows⟩ := moves.backward c' mem'
    rw [follows.revision, follows.node]
    exact proper.decodes c mem (follows.commandType.symm.trans runtime)
  distinct a' ma' b' mb' ra rb same := by
    obtain ⟨a, ma, fa⟩ := moves.backward a' ma'
    obtain ⟨b, mb, fb⟩ := moves.backward b' mb'
    have one := proper.distinct a ma b mb (fa.commandType.symm.trans ra) (fb.commandType.symm.trans rb)
      (fa.revision.symm.trans (same.trans fb.revision))
    exact eq_of_clash ma' mb' (fa.commandId.trans ((congrArg _ one).trans fb.commandId.symm))

/-- What the entry and the commands have to do with each other. -/
structure Good (n₀ n : Node) : Prop where
  active : n.active = true
  proper : Proper n.commands
  /-- the entry shows settings that the node has taken over -/
  shows : ∀ r, n.shown = some r → ∃ c ∈ n.commands, c.Applied ∧ c.rev = r ∧
    ∃ node, c.node = some node ∧ n.entry = entryOf node
  initial : n.shown = none → n.entry = n₀.entry
  /-- settings that were taken over are shown, or older than something that was completed -/
  covered : ∀ c ∈ n.commands, c.Applied → (∃ r, n.shown = some r ∧ c.rev ≤ r) ∨
    ∃ c' ∈ n.commands, c'.commandType = .updateEdgeRuntimeSettings ∧ c'.status = .succeeded ∧ c.rev < c'.rev

/-- What does not change any more. -/
structure Kept (n n' : Node) : Prop where
  final : ∀ c ∈ n.commands, c.status.final = true → c ∈ n'.commands
  shown : ∀ r, n.shown = some r → ∃ r', n'.shown = some r' ∧ r ≤ r'

lemma Kept.refl : Kept n n := ⟨fun _ mem _ => mem, fun r is => ⟨r, is, Nat.le_refl r⟩⟩

lemma Kept.trans {n'' : Node} (first : Kept n n') (second : Kept n' n'') : Kept n n'' where
  final c mem final := second.final c (first.final c mem final) final
  shown r is := by
    obtain ⟨r', is', le⟩ := first.shown r is
    obtain ⟨r'', is'', le'⟩ := second.shown r' is'
    exact ⟨r'', is'', Nat.le_trans le le'⟩

/-- A command that was covered stays so when the final ones stay. -/
lemma Good.covered_of (good : Good n₀ n) {commands : Table NodeCommand}
    (final : ∀ c ∈ n.commands, c.status.final = true → c ∈ commands) (mem : c ∈ n.commands) (applied : c.Applied) :
    (∃ r, n.shown = some r ∧ c.rev ≤ r) ∨
      ∃ c' ∈ commands, c'.commandType = .updateEdgeRuntimeSettings ∧ c'.status = .succeeded ∧ c.rev < c'.rev := by
  obtain here | ⟨c', mem', runtime, succeeded, lt⟩ := good.covered c mem applied
  · exact .inl here
  · exact .inr ⟨c', final c' mem' (final_of_succeeded succeeded), runtime, succeeded, lt⟩

/-- The entry stays and the commands move on. -/
lemma Good.commands (good : Good n₀ n) {commands : Table NodeCommand} (proper : Proper commands)
    (final : ∀ c ∈ n.commands, c.status.final = true → c ∈ commands)
    (new : ∀ c ∈ commands, c.Applied → c ∈ n.commands ∨
      ∃ c' ∈ commands, c'.commandType = .updateEdgeRuntimeSettings ∧ c'.status = .succeeded ∧ c.rev < c'.rev) :
    Good n₀ { n with commands } ∧ Kept n { n with commands } := by
  refine ⟨⟨good.active, proper, ?_, good.initial, ?_⟩, final, fun r is => ⟨r, is, Nat.le_refl r⟩⟩
  · intro r is
    obtain ⟨c, mem, applied, rest⟩ := good.shows r is
    exact ⟨c, final c mem (final_of_succeeded applied.2.1), applied, rest⟩
  · intro c mem applied
    obtain old | covered := new c mem applied
    · exact good.covered_of final old applied
    · exact .inr covered

/-- A running command is completed. -/
lemma complete_follows (running : c.status.final = false) : Follows c (c.complete result) :=
  ⟨rfl, rfl, rfl, rfl, fun final => by cases running.symm.trans final⟩

/-- The only command with an id. -/
lemma moves_complete (mem : c ∈ n.commands) (at_ : c.commandId = id) (running : c.status.final = false) :
    Moves n.commands (n.commands.update (·.commandId = id) (NodeCommand.complete result)) := by
  refine moves_update fun c' mem' hit => ?_
  have same : c' = c := eq_of_clash mem' mem ((of_decide_eq_true hit).trans at_.symm)
  rw [same]
  exact complete_follows running

/-- After a result, a command is as it was or completed. -/
lemma mem_complete (mem : c ∈ n.commands) (at_ : c.commandId = id)
    (mem' : c' ∈ n.commands.update (·.commandId = id) (NodeCommand.complete result)) :
    c' ∈ n.commands ∨ c' = c.complete result := by
  obtain ⟨w, mw, rfl⟩ := mem_update.mp mem'
  unfold Table.rewrite
  split
  · rename_i hit
    have same : w = c := eq_of_clash mw mem ((of_decide_eq_true hit).trans at_.symm)
    rw [same]
    exact .inr rfl
  · exact .inl mw

/-- No applied revision exceeds the greatest one. -/
lemma Applied.le_greatest {commands : Table NodeCommand} (mem : c ∈ commands) (applied : c.Applied) :
    c.rev ≤ greatestCompletedConfigurationRevision commands := by
  have completed : c.completedRevision = c.revision := by
    rw [NodeCommand.completedRevision, applied.1, applied.2.1]
    rfl
  rw [NodeCommand.rev, ← completed]
  exact Results.le_greatest mem

/-- A result is stored. -/
lemma Good.completed (good : Good n₀ n) (e : Completed n id result n') : Good n₀ n' ∧ Kept n n' := by
  cases e with
  | ignored => exact ⟨good, .refl⟩
  | @stored c mem at_ running stays =>
    have moves : Moves n.commands (n.commands.update (·.commandId = id) (NodeCommand.complete result)) :=
      moves_complete mem at_ running
    refine good.commands (good.proper.moves moves) (fun c mem => moves.final mem) fun c' mem' applied => ?_
    obtain old | rfl := mem_complete mem at_ mem'
    · exact .inl old
    · obtain superseded | older := stays applied.1 applied.2.1
      · cases superseded.symm.trans applied.2.2
      · obtain no | ⟨c'', mem'', lt⟩ := exists_of_lt_greatest older
        · cases no
        · exact .inr ⟨c'', mem'', completed_of_lt lt⟩
  | @shown c node mem at_ running runtime succeeded current settings greatest =>
    have moves : Moves n.commands (n.commands.update (·.commandId = id) (NodeCommand.complete result)) :=
      moves_complete mem at_ running
    have stays := fun c mem => moves.final (c := c) mem
    have here : c.complete result ∈ n.commands.update (·.commandId = id) (NodeCommand.complete result) := by
      refine mem_update.mpr ⟨c, mem, ?_⟩
      rw [Table.rewrite, if_pos (decide_eq_true at_)]
    refine ⟨⟨good.active, good.proper.moves moves, ?_, ?_, ?_⟩, stays, ?_⟩
    · intro r is
      cases is
      exact ⟨_, here, ⟨runtime, succeeded, current⟩, rfl, node, settings, rfl⟩
    · rintro ⟨⟩
    · intro c' mem' applied
      exact .inl ⟨_, rfl, Nat.le_trans (Applied.le_greatest mem' applied) greatest⟩
    · intro r is
      obtain ⟨c', mem', applied, rfl, _⟩ := good.shows r is
      have still := stays c' mem' (final_of_succeeded applied.2.1)
      exact ⟨_, rfl, Nat.le_trans (Applied.le_greatest still applied) greatest⟩

/-- Every step keeps the entry right. -/
lemma Good.step {a : Action} (good : Good n₀ n) (wellFormed : WellFormed n a) (st : step n a = some n') :
    Good n₀ n' ∧ Kept n n' := by
  cases a with
  | create _ commandType revision =>
    obtain ⟨_, inserted, rfl⟩ := Option.map_eq_some_iff.mp st
    have mem_iff := fun c => mem_insert (w := c) inserted
    have fresh : ∀ c ∈ n.commands, c.commandType = .updateEdgeRuntimeSettings →
        commandType = .updateEdgeRuntimeSettings → c.revision ≠ revision := fun c mem runtime new =>
      (wellFormed new).2.2 c mem runtime
    refine good.commands ⟨?_, ?_⟩ (fun c mem _ => (mem_iff c).mpr (.inl mem)) fun c mem applied => ?_
    · intro c mem runtime
      obtain old | rfl := (mem_iff c).mp mem
      · exact good.proper.decodes c old runtime
      · exact ⟨(wellFormed runtime).1, (wellFormed runtime).2.1⟩
    · intro a ma b mb ra rb same
      obtain oa | rfl := (mem_iff a).mp ma
      · obtain ob | rfl := (mem_iff b).mp mb
        · exact good.proper.distinct a oa b ob ra rb same
        · exact absurd same (fresh a oa ra rb)
      · obtain ob | rfl := (mem_iff b).mp mb
        · exact absurd same.symm (fresh b ob rb ra)
        · rfl
    · obtain old | rfl := (mem_iff c).mp mem
      · exact .inl old
      · cases applied.2.1
  | deliver commandId =>
    cases st
    have moves : Moves n.commands (markNodeCommandDelivered n commandId).commands := by
      have keeps : Table.KeepsKeys NodeCommand.deliver := fun _ _ => Iff.rfl
      refine @moves_update _ _ _ keeps fun c mem hit => ?_
      simp only [Bool.and_eq_true, decide_eq_true_eq] at hit
      refine ⟨rfl, rfl, rfl, rfl, fun final => ?_⟩
      rw [hit.2] at final
      cases final
    refine good.commands (good.proper.moves moves) (fun c mem => moves.final mem) fun c' mem' applied => ?_
    obtain ⟨_, mem, rfl⟩ := mem_update.mp mem'
    obtain ⟨_, succeeded, _⟩ := applied
    unfold Table.rewrite at succeeded ⊢
    split at succeeded
    · cases succeeded
    · rename_i miss
      rw [if_neg miss]
      exact .inl mem
  | complete =>
    simp only [Results.step] at st
    split at st
    · cases st
      exact ⟨good, .refl⟩
    · cases st
      exact good.completed (completeNodeCommand_cases good.active)

/-- Settings that were taken over are shown, or newer ones are. The induction is on how far the revision is
from the greatest one: what is newer was taken over, or superseded by something newer still. -/
lemma Good.le_shown (good : Good n₀ n) (justified : Justified n) (mem : c ∈ n.commands) (applied : c.Applied) :
    ∃ r, n.shown = some r ∧ c.rev ≤ r := by
  induction k : greatestCompletedConfigurationRevision n.commands - c.rev using Nat.strong_induction_on
    generalizing c with
  | _ k ih =>
    obtain shown | ⟨c', mem', runtime, succeeded, lt⟩ := good.covered c mem applied
    · exact shown
    · obtain ⟨d, md, applied', lt'⟩ : ∃ d ∈ n.commands, d.Applied ∧ c.rev < d.rev := by
        cases superseded : c'.superseded with
        | false => exact ⟨c', mem', ⟨runtime, succeeded, superseded⟩, lt⟩
        | true =>
          obtain ⟨d, md, applied', lt'⟩ := justified c' mem' runtime succeeded superseded
          exact ⟨d, md, applied', Nat.lt_trans lt lt'⟩
      have bound := Applied.le_greatest md applied'
      obtain ⟨r, shown, _⟩ := ih _ (by omega) md applied' rfl
      exact ⟨r, shown, by omega⟩

/-- The entry is what it was at first. -/
lemma Good.init (i : machine.Init n) : Good n n := by
  obtain ⟨active, commands, shown⟩ := i
  exact ⟨active, ⟨by simp [commands], by simp [commands]⟩, by simp [shown], fun _ => rfl, by simp [commands]⟩

/-- Results in any order never bring older settings back. In every run: the entry shows the settings of the
revision `shown`, or what it was at first; from any state on, a final status stays and `shown` does not
decrease; and when all commands have a final status, the entry is that of the greatest revision that the node
has taken over, or what it was at first if there is none. -/
theorem directory_never_rolled_back {as bs : List Action} (init : machine.Init n₀)
    (run : machine.run n₀ as = some n) (run' : machine.run n bs = some n')
    (issued : machine.Along WellFormed n₀ as) (issued' : machine.Along WellFormed n bs) :
    Kept n n' ∧
    (∀ r, n'.shown = some r → ∃ c ∈ n'.commands, c.Applied ∧ c.rev = r ∧
      ∃ node, c.node = some node ∧ n'.entry = entryOf node) ∧
    (n'.shown = none → n'.entry = n₀.entry) ∧
    ((∀ c ∈ n'.commands, c.status.final = true) → Justified n' →
      (∃ c ∈ n'.commands, c.Applied ∧ (∀ c' ∈ n'.commands, c'.Applied → c'.rev ≤ c.rev) ∧
        ∃ node, c.node = some node ∧ n'.entry = entryOf node) ∨
      ((∀ c ∈ n'.commands, ¬ c.Applied) ∧ n'.entry = n₀.entry)) := by
  have good : Good n₀ n :=
    Machine.invariant_along (fun _ _ _ good wellFormed st => (good.step wellFormed st).1) issued (Good.init init) run
  obtain ⟨good', kept⟩ : Good n₀ n' ∧ Kept n n' := by
    refine Machine.invariant_along (I := fun m => Good n₀ m ∧ Kept n m) ?_ issued' ⟨good, .refl⟩ run'
    intro m a m' ⟨good, kept⟩ wellFormed st
    obtain ⟨good', kept'⟩ := good.step wellFormed st
    exact ⟨good', kept.trans kept'⟩
  refine ⟨kept, good'.shows, good'.initial, fun _ justified => ?_⟩
  cases is : n'.shown with
  | none =>
    refine .inr ⟨fun c mem applied => ?_, good'.initial is⟩
    obtain ⟨r, shown, _⟩ := good'.le_shown justified mem applied
    cases is.symm.trans shown
  | some r =>
    obtain ⟨c, mem, applied, rfl, node, settings, entry⟩ := good'.shows r is
    refine .inl ⟨c, mem, applied, fun c' mem' applied' => ?_, node, settings, entry⟩
    obtain ⟨_, shown, le⟩ := good'.le_shown justified mem' applied'
    cases is.symm.trans shown
    exact le

/-- A node with the settings that it was enrolled with. -/
def sampleNode : Node where
  entry := { name := "edge", publicApiUrl := "", selectable := false }

/-- Issue settings that name the node. -/
def issue (commandId : String) (revision : Nat) (tag : String) : Action :=
  .create commandId .updateEdgeRuntimeSettings (some revision) (some { tag })

/-- The second of three settings was superseded by the third, and the result of the first comes last. In the
end the entry is that of the greatest revision. -/
theorem directory_never_rolled_back_late : ∃ n',
    machine.run sampleNode [issue "a" 1 "first", issue "b" 2 "second", issue "c" 3 "third", .deliver "a",
      .complete "c" { status := .retry } false, .complete "c" { status := .succeeded } false,
      .complete "b" { status := .succeeded, superseded := true } false,
      .complete "a" { status := .succeeded } false, .complete "c" { status := .failed } false] = some n' ∧
    (∀ c ∈ n'.commands, c.status.final = true) ∧
    ∃ c ∈ n'.commands, c.Applied ∧ 3 ≤ c.rev ∧ (∀ c' ∈ n'.commands, c'.Applied → c'.rev ≤ c.rev) ∧
      ∃ node, c.node = some node ∧ n'.entry = entryOf node := by
  let as : List Action := [issue "a" 1 "first", issue "b" 2 "second", issue "c" 3 "third", .deliver "a",
    .complete "c" { status := .retry } false, .complete "c" { status := .succeeded } false,
    .complete "b" { status := .succeeded, superseded := true } false]
  let bs : List Action := [.complete "a" { status := .succeeded } false, .complete "c" { status := .failed } false]
  obtain ⟨n, n', run, run', issued', finals, justified, third⟩ : ∃ n n', machine.run sampleNode as = some n ∧
      machine.run n bs = some n' ∧ machine.Along WellFormed n bs ∧ (∀ c ∈ n'.commands, c.status.final = true) ∧
      Justified n' ∧ ∃ c ∈ n'.commands, c.Applied ∧ c.rev = 3 :=
    ⟨_, _, rfl, rfl, .of_along rfl, by decide +kernel, by decide +kernel, _, List.mem_of_getElem? (i := 2) rfl,
      by decide +kernel, rfl⟩
  have issued : machine.Along WellFormed sampleNode as := .of_along (by decide +kernel)
  obtain ⟨_, _, _, last⟩ := directory_never_rolled_back ⟨rfl, rfl, rfl⟩ run run' issued issued'
  obtain ⟨_, mem₃, applied₃, rev₃⟩ := third
  refine ⟨n', ?_, finals, ?_⟩
  · change machine.run sampleNode (as ++ bs) = some n'
    rw [Machine.run_append, run]
    exact run'
  · obtain ⟨c, mem, applied, greatest, shows⟩ | ⟨none, _⟩ := last finals justified
    · exact ⟨c, mem, applied, rev₃ ▸ greatest _ mem₃ applied₃, greatest, shows⟩
    · exact absurd applied₃ (none _ mem₃)

end MeowFrp.Cluster.Results
