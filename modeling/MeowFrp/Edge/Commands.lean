import MeowFrp.Lib.Machine
import Mathlib.Logic.Function.Basic

/-!
# Configuration commands on an edge

The controller changes the settings of an edge by commands that carry a revision (Go `HandleEdgeCommand`
for the three kinds of configuration). The edge notes a command in `received_commands`, compares its
revision with the one it has noted in `configuration_revisions`, writes its config file, takes the
configuration over in memory, notes the revision and at last the result. Commands are handled one after
the other, in any order and any number of times; each of these steps may fail, and the process may stop
after each of them and read its file again.

`Settings.revision` is not in the file, and `writes`, the latest first, is a history variable.
-/

namespace MeowFrp.Edge

open Lib Function

/-- The kinds of configuration: `update_edge_runtime_settings`, `update_edge_permissions` and
`update_edge_advanced_settings`. -/
inductive ConfigKind where
  | runtimeSettings
  | permissions
  | advancedSettings
  deriving DecidableEq, Repr

/-- A command; without `_configuration_revision` it has the revision 0. -/
structure ConfigCommand where
  commandId : String
  kind : ConfigKind
  revision : Nat
  payload : String
  deriving DecidableEq, Repr

/-- The settings of a kind, and the revision that wrote them. -/
structure Settings where
  payload : String := ""
  revision : Nat := 0
  deriving DecidableEq, Repr

/-- The configuration of an edge. -/
structure EdgeConfig where
  controllerAdministrationEnabled : Bool := true
  settings : ConfigKind → Settings := fun _ => {}

/-- Go `CommandResult`. -/
structure CommandResult where
  succeeded : Bool
  error : String := ""
  superseded : Bool := false
  deriving DecidableEq, Repr

/-- A row of `received_commands`. -/
inductive Received where
  | executing
  | finished (result : CommandResult)
  deriving DecidableEq, Repr

/-- Where Go `HandleEdgeCommand` is. -/
inductive CommandStage where
  | idle
  /-- after `BeginCommand` -/
  | begun (c : ConfigCommand)
  /-- it is not superseded -/
  | accepted (c : ConfigCommand)
  /-- the file is written -/
  | written (c : ConfigCommand) (cfg : EdgeConfig)
  /-- the configuration is in use -/
  | running (c : ConfigCommand)
  /-- before `FinishCommand` -/
  | settled (c : ConfigCommand) (result : CommandResult)

/-- An edge. -/
structure Commands where
  file : EdgeConfig := {}
  /-- the configuration in memory -/
  cfg : EdgeConfig := {}
  /-- `configuration_revisions` -/
  revisions : ConfigKind → Option Nat := fun _ => none
  received : String → Option Received := fun _ => none
  stage : CommandStage := .idle
  writes : List (ConfigKind × Nat) := []

inductive CommandAction where
  | start (c : ConfigCommand) (fails : Bool)
  | compare (fails : Bool)
  | write (fails : Bool)
  | setRuntime
  | confirm (fails : Bool)
  | finish (fails : Bool)
  | crash

/-- What is known of payloads: the error of decoding and checking one, and whether permissions let the
controller change the settings. -/
structure Payloads where
  refuse : ConfigKind → String → Option String
  changeRuntimeSettings : String → Bool

namespace Commands

/-- Go `ConfigurationSuperseded`. -/
def configurationSuperseded (s : Commands) (c : ConfigCommand) : Bool :=
  match s.revisions c.kind with
  | none => false
  | some applied => 0 < applied && c.revision < applied

/-- Why Go `HandleEdgeCommand` does not write settings. -/
def refuse (p : Payloads) (cfg : EdgeConfig) (c : ConfigCommand) : Option String :=
  match c.kind with
  | .permissions =>
    if !cfg.controllerAdministrationEnabled then some "controller administration is disabled on this edge"
    else p.refuse c.kind c.payload
  | .runtimeSettings | .advancedSettings =>
    if !cfg.controllerAdministrationEnabled || !p.changeRuntimeSettings (cfg.settings .permissions).payload then
      some "remote runtime settings are disabled on this edge"
    else p.refuse c.kind c.payload

/-- The configuration with the settings of a command. -/
def apply (cfg : EdgeConfig) (c : ConfigCommand) : EdgeConfig :=
  { cfg with settings := update cfg.settings c.kind ⟨c.payload, c.revision⟩ }

/-- Go `ConfirmConfiguration`. -/
def confirmConfiguration (s : Commands) (c : ConfigCommand) : ConfigKind → Option Nat :=
  update s.revisions c.kind (some (max ((s.revisions c.kind).getD 0) c.revision))

/-- One step of Go `HandleEdgeCommand`, or the process starts again. -/
def step (p : Payloads) (s : Commands) : CommandAction → Option Commands
  | .start c fails =>
    match s.stage with
    | .idle =>
      if fails then some s
      else
        match s.received c.commandId with
        | none =>
          some { s with
            received := update s.received c.commandId (some .executing), stage := .begun c }
        -- the three kinds are safe to repeat
        | some .executing => some { s with stage := .begun c }
        | some (.finished _) => some s
    | _ => none
  | .compare fails =>
    match s.stage with
    | .begun c =>
      if fails then some { s with stage := .idle }
      else if s.configurationSuperseded c then
        some { s with stage := .settled c { succeeded := true, superseded := true } }
      else some { s with stage := .accepted c }
    | _ => none
  | .write fails =>
    match s.stage with
    | .accepted c =>
      match refuse p s.cfg c with
      | some error => some { s with stage := .settled c { succeeded := false, error } }
      | none =>
        if fails then
          some { s with stage := .settled c { succeeded := false, error := "write edge config failed" } }
        else
          some { s with
            file := apply s.cfg c
            writes := (c.kind, c.revision) :: s.writes
            stage := .written c (apply s.cfg c) }
    | _ => none
  | .setRuntime =>
    match s.stage with
    | .written c cfg => some { s with cfg, stage := .running c }
    | _ => none
  | .confirm fails =>
    match s.stage with
    | .running c =>
      if fails then some { s with stage := .idle }
      else
        some { s with
          revisions := s.confirmConfiguration c, stage := .settled c { succeeded := true } }
    | _ => none
  | .finish fails =>
    match s.stage with
    | .settled c result =>
      if fails then some { s with stage := .idle }
      else
        some { s with
          received := update s.received c.commandId (some (.finished result)), stage := .idle }
    | _ => none
  | .crash => some { s with cfg := s.file, stage := .idle }

/-- The noted revision of a kind. -/
def applied (s : Commands) (kind : ConfigKind) : Nat := (s.revisions kind).getD 0

/-- The machine, from a process whose revisions are noted. -/
def machine (p : Payloads) : Machine Commands CommandAction where
  Init s := s.stage = .idle ∧ s.cfg = s.file ∧ s.writes = [] ∧
    ∀ kind, (s.file.settings kind).revision ≤ s.applied kind
  step := step p

/-- Before the step: between the write of a file and the note of its revision nothing fails or stops. -/
def Noted (s : Commands) : CommandAction → Prop
  | .crash =>
    match s.stage with
    | .written _ _ | .running _ => False
    | _ => True
  | .confirm fails => fails = false
  | _ => True

/-- No settings are written over newer ones of their kind. -/
def Ordered (writes : List (ConfigKind × Nat)) : Prop :=
  ∀ later kind revision earlier, writes = later ++ (kind, revision) :: earlier →
    ∀ older, (kind, older) ∈ earlier → older ≤ revision

variable {p : Payloads} {s s' : Commands} {c : ConfigCommand}

lemma Ordered.cons {kind : ConfigKind} {revision : Nat} {writes : List (ConfigKind × Nat)}
    (old : Ordered writes) (newest : ∀ older, (kind, older) ∈ writes → older ≤ revision) :
    Ordered ((kind, revision) :: writes) := by
  intro later kind' revision' earlier split
  cases later with
  | nil =>
    cases split
    exact newest
  | cons _ later => exact old later kind' revision' earlier (List.cons.inj split).2

/-- The command at hand against what is noted. -/
def Current (s : Commands) : CommandStage → Prop
  | .idle | .begun _ | .settled _ _ =>
    s.cfg = s.file ∧ ∀ kind, (s.file.settings kind).revision ≤ s.applied kind
  | .accepted c =>
    s.cfg = s.file ∧ (∀ kind, (s.file.settings kind).revision ≤ s.applied kind) ∧
      s.applied c.kind ≤ c.revision
  | .written c cfg =>
    cfg = s.file ∧ (s.file.settings c.kind).revision = c.revision ∧
      ∀ kind ≠ c.kind, (s.file.settings kind).revision ≤ s.applied kind
  | .running c =>
    s.cfg = s.file ∧ (s.file.settings c.kind).revision = c.revision ∧
      ∀ kind ≠ c.kind, (s.file.settings kind).revision ≤ s.applied kind

/-- The file holds the newest settings that were written of each kind. -/
structure Sound (s : Commands) : Prop where
  ordered : Ordered s.writes
  newest : ∀ kind revision, (kind, revision) ∈ s.writes → revision ≤ (s.file.settings kind).revision
  current : s.Current s.stage

lemma le_of_not_superseded (h : s.configurationSuperseded c = false) : s.applied c.kind ≤ c.revision := by
  unfold configurationSuperseded at h
  unfold applied
  cases e : s.revisions c.kind with
  | none => exact Nat.zero_le _
  | some =>
    rw [e] at h
    simp only [Bool.and_eq_false_iff, decide_eq_false_iff_not] at h
    rw [Option.getD_some]
    omega

/-- The settings of a command are written. -/
lemma Sound.write (sound : Sound s) (at_ : s.stage = .accepted c) :
    Sound { s with
      file := apply s.cfg c
      writes := (c.kind, c.revision) :: s.writes
      stage := .written c (apply s.cfg c) } := by
  have current := sound.current
  rw [at_] at current
  obtain ⟨same, noted, newer⟩ := current
  have mine : ((apply s.cfg c).settings c.kind).revision = c.revision := by
    unfold apply
    dsimp only
    rw [update_self]
  have others : ∀ kind, kind ≠ c.kind → (apply s.cfg c).settings kind = s.file.settings kind := by
    intro kind other
    unfold apply
    dsimp only
    rw [update_of_ne other, same]
  -- what was written before is noted, and the command is not older than that
  have older : ∀ revision, (c.kind, revision) ∈ s.writes → revision ≤ c.revision := by
    intro revision m
    exact Nat.le_trans (sound.newest c.kind revision m) (Nat.le_trans (noted c.kind) newer)
  refine ⟨sound.ordered.cons older, fun kind revision m => ?_, rfl, mine, fun kind other => ?_⟩
  · dsimp only
    by_cases this : kind = c.kind
    · subst this
      rw [mine]
      rcases List.mem_cons.mp m with new | m
      · cases new
        exact Nat.le_refl _
      · exact older revision m
    · rw [others kind this]
      refine sound.newest kind revision ((List.mem_cons.mp m).resolve_left ?_)
      rintro ⟨⟩
      exact this rfl
  · dsimp only
    rw [others kind other]
    exact noted kind

/-- The revision of a command is noted. -/
lemma Sound.confirm (sound : Sound s) (at_ : s.stage = .running c) :
    Sound { s with revisions := s.confirmConfiguration c, stage := .settled c { succeeded := true } } := by
  have current := sound.current
  rw [at_] at current
  obtain ⟨same, mine, noted⟩ := current
  refine ⟨sound.ordered, sound.newest, same, fun kind => ?_⟩
  unfold applied confirmConfiguration
  dsimp only
  by_cases this : kind = c.kind
  · subst this
    rw [update_self, Option.getD_some, mine]
    exact Nat.le_max_right _ _
  · rw [update_of_ne this]
    exact noted kind this

lemma Sound.step {a : CommandAction} (sound : Sound s) (noted : Noted s a) (st : s.step p a = some s') :
    Sound s' := by
  obtain ⟨ordered, newest, current⟩ := sound
  cases a with
  | start =>
    simp only [Commands.step] at st
    split at st
    · rename_i idle
      rw [idle] at current
      split at st
      · cases st
        exact ⟨ordered, newest, idle ▸ current⟩
      · split at st
        · cases st
          exact ⟨ordered, newest, current⟩
        · cases st
          exact ⟨ordered, newest, current⟩
        · cases st
          exact ⟨ordered, newest, idle ▸ current⟩
    · cases st
  | compare =>
    simp only [Commands.step] at st
    split at st
    · rename_i c begun
      rw [begun] at current
      split at st
      · cases st
        exact ⟨ordered, newest, current⟩
      · split at st
        · cases st
          exact ⟨ordered, newest, current⟩
        · rename_i newer
          cases st
          exact ⟨ordered, newest, current.1, current.2, le_of_not_superseded (Bool.not_eq_true _ ▸ newer)⟩
    · cases st
  | write =>
    simp only [Commands.step] at st
    split at st
    · rename_i c accepted
      have sound : Sound s := ⟨ordered, newest, current⟩
      rw [accepted] at current
      split at st
      · cases st
        exact ⟨ordered, newest, current.1, current.2.1⟩
      · split at st
        · cases st
          exact ⟨ordered, newest, current.1, current.2.1⟩
        · cases st
          exact sound.write accepted
    · cases st
  | setRuntime =>
    simp only [Commands.step] at st
    split at st
    · rename_i c cfg written
      rw [written] at current
      cases st
      exact ⟨ordered, newest, current⟩
    · cases st
  | confirm =>
    simp only [Commands.step] at st
    split at st
    · rename_i c running
      cases noted
      cases st
      exact Sound.confirm ⟨ordered, newest, current⟩ running
    · cases st
  | finish =>
    simp only [Commands.step] at st
    split at st
    · rename_i c result settled
      rw [settled] at current
      split at st
      · cases st
        exact ⟨ordered, newest, current⟩
      · cases st
        exact ⟨ordered, newest, current⟩
    · cases st
  | crash =>
    cases st
    refine ⟨ordered, newest, rfl, ?_⟩
    unfold Noted at noted
    cases e : s.stage with
    | idle | begun | settled =>
      rw [e] at current
      exact current.2
    | accepted =>
      rw [e] at current
      exact current.2.1
    | written | running =>
      rw [e] at noted
      exact noted.elim

/-- A stale configuration command never overwrites a newer one: the settings of each kind are written in
the order of their revisions. -/
theorem stale_settings_never_written (reach : (machine p).ReachableAlong Noted s) : Ordered s.writes := by
  refine (reach.inv (I := Sound) ?_ fun _ _ _ old noted st => old.step noted st).ordered
  rintro _ ⟨idle, same, none, noted⟩
  refine ⟨?_, ?_, ?_⟩
  · rw [none]
    intro later kind revision earlier split
    cases later <;> cases split
  · rw [none]
    exact nofun
  · rw [idle]
    exact ⟨same, noted⟩

/-- Every payload is fine. -/
def samplePayloads : Payloads := ⟨fun _ _ => none, fun _ => true⟩

def sampleCommand (id : String) (revision : Nat) : ConfigCommand := ⟨id, .runtimeSettings, revision, id⟩

/-- The second revision is written and noted; the first one, received after a restart, is superseded. -/
theorem stale_settings_never_written_superseded : ∃ s, (machine samplePayloads).ReachableAlong Noted s ∧
    s.writes = [(.runtimeSettings, 2)] ∧
    s.received "one" = some (.finished { succeeded := true, superseded := true }) ∧ Ordered s.writes := by
  let acts : List CommandAction :=
    [.start (sampleCommand "two" 2) false, .compare false, .write false, .setRuntime, .confirm false, .crash,
      .start (sampleCommand "one" 1) false, .compare false, .finish false]
  obtain ⟨s, run, writes, received⟩ : ∃ s, (machine samplePayloads).run {} acts = some s ∧
      s.writes = [(.runtimeSettings, 2)] ∧
      s.received "one" = some (.finished { succeeded := true, superseded := true }) := ⟨_, rfl, rfl, rfl⟩
  have along : (machine samplePayloads).Along Noted {} acts :=
    .cons rfl trivial (.cons rfl trivial (.cons rfl trivial (.cons rfl trivial (.cons rfl rfl (.cons rfl trivial
      (.cons rfl trivial (.cons rfl trivial (.cons rfl trivial trivial))))))))
  have reach : (machine samplePayloads).ReachableAlong Noted s :=
    ⟨{}, acts, ⟨rfl, rfl, rfl, fun _ => Nat.le_refl _⟩, along, run⟩
  exact ⟨s, reach, writes, received, stale_settings_never_written reach⟩

/-- The process stops after it has written the settings of the second revision: the first revision is
then compared with the older note, and is written over them. -/
theorem stale_settings_written_after_crash : ∃ s, (machine samplePayloads).Reachable s ∧
    s.writes = [(.runtimeSettings, 1), (.runtimeSettings, 2)] ∧
    s.file.settings .runtimeSettings = ⟨"one", 1⟩ ∧ ¬ Ordered s.writes := by
  refine ⟨_, ⟨{}, [.start (sampleCommand "two" 2) false, .compare false, .write false, .crash,
    .start (sampleCommand "one" 1) false, .compare false, .write false],
    ⟨rfl, rfl, rfl, fun _ => Nat.le_refl _⟩, rfl⟩, rfl, rfl, ?_⟩
  intro ordered
  have le := ordered [] .runtimeSettings 1 [(.runtimeSettings, 2)] rfl 2 List.mem_cons_self
  omega

end Commands

end MeowFrp.Edge
