import MeowFrp.Cluster.Answers
import MeowFrp.Lib.Progress
import Mathlib.Data.Finset.Card

/-!
# No configuration is stuck

Whatever has happened to a command of a configuration, it can still be completed: there is a run on which its
row becomes final, whatever the clocks show on it. In one round the first of the open rows is sent over a new
stream, handled and answered, and its answer is stored. A list of open rows has at most a hundred, so that
older commands may have to be completed first.
-/

namespace MeowFrp.Cluster.Dispatch

open Lib Lib.Machine Table List

variable {s t : State} {c : NodeCommand} {r : CommandResult} {id : String} {row : Results.NodeCommand}
  {controller edge : State → Nat}

/-- The clocks show what is given for the state in which they are read. -/
def Timely (controller edge : State → Nat) (s : State) : Action → Prop
  | .list clock => clock = controller s
  | .edge (.expire clock _) | .edge (.execute clock _) => clock = edge s
  | _ => True

/-- The commands without a final status. -/
def State.openIds (s : State) : Finset String :=
  ((s.node.commands.rows.filter fun row => !row.status.final).map (·.commandId)).toFinset

lemma mem_openIds : id ∈ s.openIds ↔ ∃ row ∈ s.node.commands, row.commandId = id ∧ row.status.final = false := by
  simp only [State.openIds, mem_toFinset, mem_map, mem_filter, Bool.not_eq_true', mem_rows]
  grind

/-- The rows are those of `s`; handling and stream are given. -/
structure Round (s t : State) (handling : Option Handling) (session : Option Session) : Prop where
  reach : machine.Reachable t
  node : t.node = s.node
  columns : t.columns = s.columns
  handling : t.edge.handling = handling
  session : t.session = session

lemma reach_step {P : State → Prop} {a : Action} (reach : machine.Reachable s) (st : step s a = some t)
    (timely : Timely controller edge s a)
    (later : machine.Reachable t → machine.CanReach (Timely controller edge) t P) :
    machine.CanReach (Timely controller edge) s P :=
  CanReach.step (M := machine) st timely (later (reach.snoc st))

/-- A row that decodes can be completed. -/
lemma complete_isSome (reach : machine.Reachable s) (mem : row ∈ s.node.commands)
    (named : row.commandId = r.commandId) :
    ∃ node, Results.completeNodeCommand s.node r.commandId r.toCommandResult = some node := by
  have found : s.node.commands.find? (·.commandId = r.commandId) = some row := by
    refine (find?_eq_some fun a b ha hb => ?_).mpr ⟨mem, decide_eq_true named⟩
    exact (of_decide_eq_true ha).trans (of_decide_eq_true hb).symm
  obtain ⟨_, sound⟩ := sound_of_reachable reach
  unfold Results.completeNodeCommand
  rw [found]
  dsimp only
  split
  · exact ⟨_, rfl⟩
  · split
    · rename_i success
      rw [Bool.and_eq_true, decide_eq_true_eq] at success
      obtain ⟨_, is⟩ := Option.isSome_iff_exists.mp (sound.good.proper.decodes row mem success.1).2
      rw [is]
      split <;> exact ⟨_, rfl⟩
    · exact ⟨_, rfl⟩

/-- The edge can finish the command that it handles. -/
lemma reach_answer {h : Handling} {x : Option Session} (round : Round s t (some h) x) :
    machine.CanReach (Timely controller edge) t fun u => ∃ r, r.commandId = h.command.commandId ∧ r.Final ∧
      Round s u none (x.map fun x => { x with replies := x.replies ++ [r] }) := by
  have finish {t : State} {c : NodeCommand} {r : CommandResult} (round : Round s t (some (.settled c r)) x) :
      machine.CanReach (Timely controller edge) t fun u => ∃ r, r.commandId = c.commandId ∧ r.Final ∧
        Round s u none (x.map fun x => { x with replies := x.replies ++ [r] }) := by
    have st : step t (.edge (.finish none)) = some (t.answer ((t.edge.finishCommand r).answer r)) := by
      simp only [step, Edge.step, round.handling]
      rfl
    obtain ⟨_, sound⟩ := sound_of_reachable round.reach
    have settles := sound.edge.settled c r round.handling
    exact reach_step round.reach st trivial fun reach => .here ⟨r, settles.named, settles.final, reach, round.node,
      round.columns, rfl, congrArg (Option.map _) round.session⟩
  cases h with
  | settled => exact finish round
  | begun c =>
    by_cases late : (!c.kind.configuration && c.expiresAt ≠ 0 && c.expiresAt < edge t) = true
    · have st : step t (.edge (.expire (edge t) false)) = some (t.answer
          (t.edge.conclude (c.failed "command expired before execution") none)) := by
        simp only [step, Edge.step, round.handling, late, if_true, if_false, Bool.false_eq_true]
        rfl
      exact reach_step round.reach st rfl fun reach => .here ⟨_, rfl, .inr rfl, reach, round.node, round.columns,
        rfl, congrArg (Option.map _) round.session⟩
    · obtain ⟨r, st⟩ : ∃ r, step t (.edge (.execute (edge t) none)) = some (t.answer
          ({ t.edge with handling := some (.settled c r), log := .executed c.commandId :: t.edge.log }, none)) := by
        simp only [step, Edge.step, round.handling, late]
        exact ⟨_, rfl⟩
      exact reach_step round.reach st rfl fun reach => finish ⟨reach, round.node, round.columns, rfl, round.session⟩

/-- A new stream. -/
lemma reach_connect (reach : machine.Reachable s) :
    machine.CanReach (Timely controller edge) s (Round s · none (some {})) := by
  have connect {t : State} {x : Option Session} (round : Round s t none x) :
      machine.CanReach (Timely controller edge) t (Round s · none (some {})) := by
    have st : step t .connect = some { t with session := some {} } := if_pos round.handling
    exact reach_step round.reach st trivial fun reach =>
      .here ⟨reach, round.node, round.columns, round.handling, rfl⟩
  cases at_ : s.edge.handling with
  | none => exact connect ⟨reach, rfl, rfl, at_, rfl⟩
  | some =>
    exact (reach_answer ⟨reach, rfl, rfl, at_, rfl⟩).trans fun t ⟨_, _, _, round⟩ => connect round

/-- The first of the open rows is sent. -/
lemma reach_dispatch (round : Round s t none (some {})) (mem : row ∈ s.node.commands)
    (running : row.status.final = false) (configures : s.facts.Configures row.commandId) :
    machine.CanReach (Timely controller edge) t fun u =>
      ∃ id ∈ s.openIds, Round s u none (some ⟨[s.command id], []⟩) := by
  obtain ⟨id, rest, open_, listed⟩ : ∃ id rest, id ∈ s.openIds ∧
      t.listPendingNodeCommands (controller t) = s.command id :: rest := by
    have pending : row ∈ t.node.commands.rows.filter fun row => !row.status.final &&
        (controller t < (t.columns row.commandId).expiresAt || (t.columns row.commandId).kind.configuration) := by
      rw [round.node, round.columns]
      refine mem_filter.mpr ⟨mem, ?_⟩
      rw [running]
      exact Bool.or_eq_true_iff.mpr (.inr configures)
    obtain ⟨first, rest, sorted⟩ :=
      exists_cons_of_ne_nil (ne_nil_of_mem ((mem_insertionSort (t.before · ·)).mpr pending))
    have listed := (mem_insertionSort (t.before · ·)).mp (sorted ▸ mem_cons_self : first ∈ _)
    obtain ⟨stored, open_⟩ := mem_filter.mp listed
    rw [Bool.and_eq_true, Bool.not_eq_true'] at open_
    rw [round.node] at stored
    refine ⟨first.commandId, (rest.take 99).map fun row => t.command row.commandId,
      mem_openIds.mpr ⟨first, stored, rfl, open_.1⟩, ?_⟩
    unfold State.listPendingNodeCommands State.command
    dsimp only
    rw [sorted, ← round.columns]
    rfl
  have list : step t (.list (controller t)) =
      some { t with dispatching := t.dispatching ++ t.listPendingNodeCommands (controller t) } := rfl
  refine reach_step round.reach list rfl fun reach => ?_
  have dispatch : step { t with dispatching := t.dispatching ++ t.listPendingNodeCommands (controller t) }
      (.dispatch t.dispatching.length false false) = some { t with
        dispatching := (t.dispatching ++ t.listPendingNodeCommands (controller t)).eraseIdx t.dispatching.length
        session := some ⟨[s.command id], []⟩ } := by
    simp [step, listed, State.sendAndMark, State.sendCommand, State.mark, round.session]
  exact reach_step reach dispatch trivial fun reach =>
    .here ⟨id, open_, reach, round.node, round.columns, round.handling, rfl⟩

/-- The edge handles the command. -/
lemma reach_handle (round : Round s t none (some ⟨[c], []⟩)) :
    machine.CanReach (Timely controller edge) t fun u =>
      ∃ r, r.commandId = c.commandId ∧ r.Final ∧ Round s u none (some ⟨[], [r]⟩) := by
  obtain ⟨_, sound⟩ := sound_of_reachable round.reach
  have st : step t (.start none) =
      some (State.answer { t with session := some ⟨[], []⟩ } (t.edge.start c none)) := by
    simp [step, round.session, round.handling]
  have started : (∃ e, t.edge.start c none = (e, none) ∧ e.handling = some (.begun c)) ∨
      ∃ e r, t.edge.start c none = (e, some r) ∧ e.handling = none ∧ r.Final := by
    unfold Edge.start Edge.beginCommand
    cases found : t.edge.received c.commandId with
    | none => exact .inl ⟨_, rfl, rfl⟩
    | some row =>
      cases row with
      | executing =>
        by_cases unknown : c.kind = .other
        · simp only [if_pos unknown]
          exact .inr ⟨_, _, rfl, rfl, .inr rfl⟩
        · simp only [if_neg unknown]
          exact .inl ⟨_, rfl, rfl⟩
      | finished => exact .inr ⟨_, _, rfl, rfl, (sound.edge.book.ended _ _ found).final⟩
  have moves := @Edge.moves_start _ c none sound.edge
  obtain ⟨_, eq, at_⟩ | ⟨_, r, eq, idle, final⟩ := started
  · rw [eq] at st
    exact reach_step round.reach st trivial fun reach => reach_answer ⟨reach, round.node, round.columns, at_, rfl⟩
  · rw [eq] at st moves
    exact reach_step round.reach st trivial fun reach =>
      .here ⟨r, (moves.reply r rfl).1, final, reach, round.node, round.columns, idle, rfl⟩

/-- A final result is stored for an open row. -/
lemma openIds_complete {node : Results.Node} (final : r.Final) (open_ : r.commandId ∈ s.openIds)
    (e : Results.completeNodeCommand s.node r.commandId r.toCommandResult = some node) :
    (State.openIds { s with node }) ⊂ s.openIds := by
  obtain ⟨_, mem, named, running⟩ := mem_openIds.mp open_
  obtain ⟨_, mem', named', ⟨done, -⟩ | ⟨-, eq⟩⟩ := completed_cases e
  · cases eq_of_clash mem mem' (named.trans named'.symm)
    cases done.symm.trans running
  · have left : ∀ row' ∈ node.commands, row'.status.final = false →
        row' ∈ s.node.commands ∧ row'.commandId ≠ r.commandId := by
      intro row' stored running'
      rw [eq] at stored
      obtain ⟨c', stored', rfl⟩ := mem_update.mp stored
      unfold Table.rewrite at running' ⊢
      split at running'
      · rw [show (c'.complete r.toCommandResult).status = r.stored from rfl] at running'
        obtain status | status := final <;> rw [Results.CommandResult.stored, status] at running' <;> cases running'
      · rename_i other
        rw [if_neg other]
        exact ⟨stored', fun same => other (decide_eq_true same)⟩
    refine Finset.ssubset_iff_subset_ne.mpr ⟨fun id mem => ?_, fun same => ?_⟩
    · obtain ⟨row', stored, named, running⟩ := mem_openIds.mp mem
      exact mem_openIds.mpr ⟨row', (left row' stored running).1, named, running⟩
    · rw [← same] at open_
      obtain ⟨row', stored, named, running⟩ := mem_openIds.mp open_
      exact (left row' stored running).2 named

/-- The answer is stored. -/
lemma reach_persist (round : Round s t none (some ⟨[], [r]⟩)) (final : r.Final) (open_ : r.commandId ∈ s.openIds) :
    machine.CanReach (Timely controller edge) t fun u => machine.Reachable u ∧
      (∀ id, s.facts.Registered id → u.facts.Registered id) ∧ u.columns = s.columns ∧ u.openIds ⊂ s.openIds := by
  have arrive : step t (.arrive false) = some { t with
      session := some ⟨[], []⟩, telemetryJobs := r :: t.telemetryJobs } := by
    simp [step, round.session]
  refine reach_step round.reach arrive trivial fun reach => ?_
  obtain ⟨row, mem, named, -⟩ := mem_openIds.mp open_
  obtain ⟨_, sound⟩ := sound_of_reachable reach
  have backed := sound.telemetryJobs r mem_cons_self
  obtain ⟨node, e⟩ := complete_isSome round.reach (round.node ▸ mem) named
  obtain ⟨-, grows, -⟩ := sound_complete sound backed e
  have persist : step { t with session := some ⟨[], []⟩, telemetryJobs := r :: t.telemetryJobs }
      (.persist 0 .committed) =
      some (State.deliverCommandResult { t with session := some ⟨[], []⟩, node } r) := by
    simp [step, State.persistControlData, State.completeNodeCommand, e]
  have same {u : State} : (u.deliverCommandResult r).node = u.node ∧ (u.deliverCommandResult r).facts = u.facts := by
    unfold State.deliverCommandResult
    split <;> exact ⟨rfl, rfl⟩
  obtain ⟨node_, facts⟩ := @same { t with session := some ⟨[], []⟩, node }
  refine reach_step reach persist trivial fun reach => .here ⟨reach, fun id ⟨row, mem, named⟩ => ?_, ?_, ?_⟩
  · rw [facts]
    exact Facts.Registered.mono (t := t.facts) ⟨row, (round.node ▸ mem : row ∈ t.node.commands), named⟩ grows
  · exact (congrArg Facts.columns facts).trans round.columns
  · rw [State.openIds, node_]
    rw [round.node] at e
    exact openIds_complete final open_ e

/-- A configuration is never stuck: from every reachable state, whatever was lost before and whatever the clocks
show, there is a run on which its row becomes final. -/
theorem configuration_completes (reach : machine.Reachable s) (mem : row ∈ s.node.commands)
    (configures : s.facts.Configures row.commandId) (controller edge : State → Nat) :
    machine.CanReach (Timely controller edge) s fun t =>
      ∃ row' ∈ t.node.commands, row'.commandId = row.commandId ∧ row'.status.final = true := by
  refine CanReach.of_measure
    (I := fun t => machine.Reachable t ∧ t.facts.Registered row.commandId ∧ t.facts.Configures row.commandId)
    (fun t => t.openIds.card) (fun t ⟨reach, ⟨row', mem', named⟩, configures⟩ => ?_)
    ⟨reach, ⟨row, mem, rfl⟩, configures⟩
  cases running : row'.status.final with
  | true => exact .here (.inl ⟨row', mem', named, running⟩)
  | false =>
    refine (reach_connect reach).trans fun t₁ round => ?_
    refine (reach_dispatch round mem' running (named ▸ configures)).trans fun t₂ ⟨id, open_, round⟩ => ?_
    refine (reach_handle round).trans fun t₃ ⟨r, named', final, round⟩ => ?_
    refine (reach_persist round final (named' ▸ open_)).trans fun u ⟨reach', registered, columns, fewer⟩ => ?_
    refine .here (.inr ⟨⟨reach', registered _ ⟨row', mem', named⟩, ?_⟩, Finset.card_lt_card fewer⟩)
    change (u.columns _).kind.configuration = true
    rw [columns]
    exact configures

/-- The edge stops while it executes the second of two commands. -/
def sampleCrash : List Action :=
  [.create "b" { kind := .disconnectClient, expiresAt := 5 } 1 {}, .create "c" sampleColumns 2 {}, .connect,
    .call "c" false, .start none, .edge (.execute 1 none), .crash]

/-- The command is completed, although the clocks show that the other one has expired meanwhile. -/
theorem configuration_completes_crash : ∃ s, machine.run sampleStart sampleCrash = some s ∧
    s.edge.received "c" = some .executing ∧ s.openIds = {"b", "c"} ∧
    machine.CanReach (Timely (fun _ => 3) fun _ => 9) s fun t =>
      ∃ row' ∈ t.node.commands, row'.commandId = "c" ∧ row'.status.final = true := by
  refine ⟨_, rfl, rfl, rfl, ?_⟩
  exact @configuration_completes _ ⟨"c", .updateEdgeRuntimeSettings, some 2, some {}, .pending, false⟩
    ⟨sampleStart, sampleCrash, sampleStart_init, rfl⟩ (mem_cons_of_mem _ mem_cons_self) rfl _ _

end MeowFrp.Cluster.Dispatch
