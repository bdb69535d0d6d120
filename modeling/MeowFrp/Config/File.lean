import MeowFrp.Config.RoundTrip

/-!
# Replacing the config file

Model of Go `WriteFileConfig` operation by operation. The new content is written to a temporary file, which is
renamed into place. If the rename fails, the old file is moved aside first; then there is for some time no
file at the path at all, and a `Load` at that time takes the server for one that was never set up.

Every operation may fail, and the process may crash before any of them or in the middle of the write of the
temporary file. A rename happens or does not; a write that succeeds is complete. `ended` is not in the
source: it is how the last save has ended.
-/

namespace MeowFrp.Config.File

open Lib

/-- The next operation of a save. -/
inductive Stage where
  | writeTemp
  /-- the first `os.Rename` of the temporary file -/
  | rename
  | stat
  /-- `os.Remove` of the temporary file, after which the error is returned -/
  | removeTemp
  | removeBackup
  | moveAside
  /-- the second `os.Rename` of the temporary file -/
  | replace
  | restore
  /-- `os.Remove` of the old file, after which the save has succeeded -/
  | removeOld
  deriving DecidableEq, Repr

/-- A save in progress: the old content, and what it writes. -/
structure Save (Bytes : Type) where
  previous : Option Bytes
  new : Bytes
  stage : Stage

inductive Outcome where
  | ok
  | error
  | crashed
  deriving DecidableEq, Repr

structure Ended (Bytes : Type) where
  previous : Option Bytes
  new : Bytes
  outcome : Outcome

/-- The files at the path, at `path.tmp` and at `path.bak`. -/
structure Disk (Bytes : Type) where
  config : Option Bytes := none
  temp : Option Bytes := none
  backup : Option Bytes := none
  saving : Option (Save Bytes) := none
  ended : Option (Ended Bytes) := none

inductive Action (Bytes : Type) where
  /-- a save is called; `RandomSecret` and `os.MkdirAll` may fail -/
  | begin (file : FileConfig) (now : Nat) (secret : Option String) (mkdirFails : Bool)
  /-- the next operation; a write that fails leaves something -/
  | next (fails : Bool) (left : Option Bytes)
  /-- the process stops; in the middle of the write something is left -/
  | crash (left : Option Bytes)

variable {Bytes : Type}

/-- `os.ReadFile`, when it does not fail. -/
def Disk.read (d : Disk Bytes) : FileRead Bytes :=
  match d.config with
  | some bytes => .data bytes
  | none => .missing

/-- The save goes on. -/
def Disk.goto (d : Disk Bytes) (save : Save Bytes) (stage : Stage) : Disk Bytes :=
  { d with saving := some { save with stage } }

/-- The save ends. -/
def Disk.finish (d : Disk Bytes) (save : Save Bytes) (outcome : Outcome) : Disk Bytes :=
  { d with saving := none, ended := some { previous := save.previous, new := save.new, outcome } }

/-- One operation of Go `WriteFileConfig`. -/
def Disk.operate (d : Disk Bytes) (save : Save Bytes) (fails : Bool) (left : Option Bytes) : Disk Bytes :=
  match save.stage with
  | .writeTemp =>
    if fails then Disk.finish { d with temp := left } save .error
    else Disk.goto { d with temp := some save.new } save .rename
  | .rename =>
    if fails || d.temp.isNone then d.goto save .stat
    else Disk.finish { d with config := d.temp, temp := none } save .ok
  | .stat => d.goto save (if fails || d.config.isNone then .removeTemp else .removeBackup)
  | .removeTemp => Disk.finish { d with temp := if fails then d.temp else none } save .error
  | .removeBackup => Disk.goto { d with backup := if fails then d.backup else none } save .moveAside
  | .moveAside =>
    if fails || d.config.isNone then d.goto save .removeTemp
    else Disk.goto { d with config := none, backup := d.config } save .replace
  | .replace =>
    if fails || d.temp.isNone then d.goto save .restore
    else Disk.goto { d with config := d.temp, temp := none } save .removeOld
  | .restore =>
    if fails || d.backup.isNone then d.finish save .error
    else Disk.finish { d with config := d.backup, backup := none } save .error
  | .removeOld => Disk.finish { d with backup := if fails then d.backup else none } save .ok

def step (codec : FileCodec Bytes) (d : Disk Bytes) : Action Bytes → Option (Disk Bytes)
  | .begin file now secret mkdirFails =>
    match d.saving with
    | some _ => none
    | none =>
      let save : Save Bytes :=
        { previous := d.config, new := codec.encode (complete now (secret.getD "") file), stage := .writeTemp }
      if file.cookieSecret = "" && secret.isNone || mkdirFails then some (d.finish save .error)
      else some { d with saving := some save, ended := none }
  | .next fails left =>
    match d.saving with
    | some save => some (d.operate save fails left)
    | none => none
  | .crash left =>
    match d.saving with
    | some save =>
      some (Disk.finish { d with temp := if save.stage = .writeTemp then left else d.temp } save .crashed)
    | none => none

/-- Saves one after the other, with any file or none at first. -/
def machine (codec : FileCodec Bytes) : Machine (Disk Bytes) (Action Bytes) where
  Init d := d.saving = none ∧ d.ended = none
  step := step codec

/-- The path holds the old content or the new one, after an error the old one. -/
structure AllOrNothing (d : Disk Bytes) (e : Ended Bytes) : Prop where
  complete : d.config = e.previous ∨ d.config = some e.new
  kept : e.outcome = .error → d.config = e.previous
  replaced : e.outcome = .ok → d.config = some e.new

/-- Once the old file is moved aside, a file is put in place before the process stops. -/
def Careful (d : Disk Bytes) : Action Bytes → Prop
  | .begin _ _ _ _ => True
  | .next fails _ => fails = true → d.saving.map (·.stage) ≠ some .restore
  | .crash _ => d.saving.map (·.stage) ≠ some .replace ∧ d.saving.map (·.stage) ≠ some .restore

instance (d : Disk Bytes) : (a : Action Bytes) → Decidable (Careful d a)
  | .begin _ _ _ _ => inferInstanceAs (Decidable True)
  | .next fails _ => inferInstanceAs (Decidable (fails = true → _))
  | .crash _ => inferInstanceAs (Decidable (_ ∧ _))

variable {codec : FileCodec Bytes} {d d' : Disk Bytes} {save : Save Bytes}

/-- What is on the disk before an operation. -/
def Ready (d : Disk Bytes) (save : Save Bytes) : Prop :=
  match save.stage with
  | .writeTemp | .removeTemp => d.config = save.previous
  | .rename | .stat | .removeBackup | .moveAside => d.config = save.previous ∧ d.temp = some save.new
  | .replace => d.backup = save.previous ∧ save.previous.isSome ∧ d.temp = some save.new
  | .restore => d.backup = save.previous ∧ save.previous.isSome
  | .removeOld => d.config = some save.new

structure Good (d : Disk Bytes) : Prop where
  ready : ∀ save, d.saving = some save → Ready d save
  ended : ∀ e, d.ended = some e → AllOrNothing d e
  open_ : d.saving ≠ none → d.ended = none

/-- A save goes on to a stage it is ready for. -/
lemma Good.goto {stage : Stage} (open_ : d.ended = none) (ready : Ready d { save with stage }) :
    Good (d.goto save stage) where
  ready _ e := by
    cases e
    exact ready
  ended e is := by cases open_.symm.trans is
  open_ _ := open_

/-- A save ends with the old or the new file. -/
lemma Good.finish {outcome : Outcome} (complete : d.config = save.previous ∨ d.config = some save.new)
    (kept : outcome = .error → d.config = save.previous) (replaced : outcome = .ok → d.config = some save.new) :
    Good (d.finish save outcome) where
  ready := nofun
  ended e is := by
    cases is
    exact ⟨complete, kept, replaced⟩
  open_ no := absurd rfl no

/-- A save that returns an error has left the old file in place. -/
lemma Good.error (kept : d.config = save.previous) : Good (d.finish save .error) :=
  .finish (.inl kept) (fun _ => kept) nofun

lemma Good.ok (replaced : d.config = some save.new) : Good (d.finish save .ok) :=
  .finish (.inr replaced) nofun fun _ => replaced

/-- An operation is good, unless the restoring one fails. -/
lemma Good.operate {fails : Bool} {left : Option Bytes} (open_ : d.ended = none) (ready : Ready d save)
    (careful : fails = true → save.stage ≠ .restore) : Good (d.operate save fails left) := by
  unfold Ready at ready
  unfold Disk.operate
  cases at_ : save.stage with
  | writeTemp =>
    simp only [at_] at ready ⊢
    split
    · exact .error ready
    · exact .goto open_ ⟨ready, rfl⟩
  | rename =>
    simp only [at_] at ready ⊢
    split
    · exact .goto open_ ready
    · exact .ok ready.2
  | stat =>
    simp only [at_] at ready ⊢
    split
    · exact .goto open_ ready.1
    · exact .goto open_ ready
  | removeTemp =>
    simp only [at_] at ready ⊢
    exact .error ready
  | removeBackup =>
    simp only [at_] at ready ⊢
    exact .goto open_ ready
  | moveAside =>
    simp only [at_] at ready ⊢
    split
    · exact .goto open_ ready.1
    · rename_i there
      refine .goto open_ ⟨ready.1, ?_, ready.2⟩
      rw [← ready.1, Option.isSome_iff_ne_none]
      simp only [Bool.or_eq_true, Option.isNone_iff_eq_none, not_or] at there
      exact there.2
  | replace =>
    simp only [at_] at ready ⊢
    split
    · exact .goto open_ ⟨ready.1, ready.2.1⟩
    · exact .goto open_ ready.2.2
  | restore =>
    simp only [at_] at ready ⊢
    obtain ⟨backup, there⟩ := ready
    have works : fails = false := Bool.eq_false_iff.mpr fun fails => careful fails at_
    rw [works, backup, Option.isNone_eq_false_iff.mpr there]
    exact .error rfl
  | removeOld =>
    simp only [at_] at ready ⊢
    exact .ok ready

/-- Each step is good. -/
lemma Good.step {a : Action Bytes} (good : Good d) (careful : Careful d a) (st : step codec d a = some d') :
    Good d' := by
  cases a with
  | begin =>
    simp only [File.step] at st
    split at st
    · cases st
    · split at st
      · cases st
        exact .error rfl
      · cases st
        exact ⟨fun _ e => by cases e; rfl, nofun, fun _ => rfl⟩
  | next fails =>
    simp only [File.step] at st
    split at st
    · rename_i save at_
      cases st
      refine .operate (good.open_ (by simp [at_])) (good.ready save at_) fun fails restore => ?_
      rw [Careful, at_] at careful
      exact careful fails (congrArg some restore)
    · cases st
  | crash =>
    simp only [File.step] at st
    split at st
    · rename_i save at_
      cases st
      rw [Careful, at_] at careful
      refine .finish ?_ nofun nofun
      have ready := good.ready save at_
      unfold Ready at ready
      cases stage : save.stage with
      | replace => exact absurd (congrArg some stage) careful.1
      | restore => exact absurd (congrArg some stage) careful.2
      | removeOld =>
        simp only [stage] at ready
        exact .inr ready
      | writeTemp | removeTemp =>
        simp only [stage] at ready
        exact .inl ready
      | _ =>
        simp only [stage] at ready
        exact .inl ready.1
    · cases st

/-- A save replaces the file as a whole or leaves it. -/
theorem save_all_or_nothing (reach : (machine codec).ReachableAlong Careful d) :
    ∀ e, d.ended = some e → AllOrNothing d e := by
  have good : Good d := by
    refine reach.inv ?_ fun d a d' => Good.step
    rintro _ ⟨idle, none⟩
    exact ⟨by simp [idle], by simp [none], fun _ => none⟩
  exact good.ended

/-- The rename over the old file fails, and the process stops when the old file is moved aside: a server that
was configured finds no configuration. -/
theorem crash_after_move_aside : ∃ d e, (machine sampleFileCodec).Reachable d ∧ d.ended = some e ∧
    e.previous.isSome ∧ ¬ AllOrNothing d e ∧
    (load samplePlatform sampleFileCodec noEnvironment "server.json" d.read).configState = .unconfigured := by
  let old : FileConfig := complete 0 "" (sampleEdge.fileConfig samplePlatform)
  let acts : List (Action FileConfig) := [.begin old 0 (some "") false, .next false none, .next true none,
    .next false none, .next false none, .next false none, .crash none]
  refine ⟨_, _, ⟨{ config := some old }, acts, ⟨rfl, rfl⟩, rfl⟩, rfl, rfl, fun all => ?_, rfl⟩
  obtain no | no := all.complete
  · cases no
  · cases no

/-- The same without a crash: the second rename succeeds. -/
theorem save_all_or_nothing_fallback : ∃ d e, (machine sampleFileCodec).ReachableAlong Careful d ∧
    d.ended = some e ∧ e.outcome = .ok ∧ d.backup = none ∧ AllOrNothing d e := by
  let old : FileConfig := {}
  let acts : List (Action FileConfig) := [.begin { configVersion := 2, cookieSecret := "s" } 0 none false,
    .next false none, .next true none, .next false none, .next false none, .next false none, .next false none,
    .next false none]
  have along : (machine sampleFileCodec).Along Careful { config := some old } acts := .of_along (by decide)
  have reach : ∃ d e, (machine sampleFileCodec).ReachableAlong Careful d ∧ d.ended = some e ∧ e.outcome = .ok ∧
      d.backup = none := ⟨_, _, ⟨{ config := some old }, acts, ⟨rfl, rfl⟩, along, rfl⟩, rfl, rfl, rfl⟩
  obtain ⟨d, e, reach, ended, ok, backup⟩ := reach
  exact ⟨d, e, reach, ended, ok, backup, save_all_or_nothing reach e ended⟩

end MeowFrp.Config.File
