import MeowFrp.Config.RoundTrip
import Mathlib.Data.List.Find

/-!
# Concurrent writers of the configuration of an edge

Any number of requests and commands change the configuration of an edge at the same time. Each of them
copies the configuration in memory (Go `getConfig`), changes its copy, writes the whole copy to the file
(`WriteFileConfig`), puts it in place of the configuration in memory (`setRuntime`) and reports. Nothing
keeps two of them apart, so that one that copied before another one wrote undoes the change of the other.

`installs` is not in the source: it lists what was put in place, with what has been reported about it, the
newest first. A command that is found in the log of the commands, or is superseded, ends without writing
and is no writer.
-/

namespace MeowFrp.Config.Writers

open Lib Option Function Machine

/-- The groups of settings. -/
inductive Group where
  | node
  | permissions
  | administration
  | advanced
  | admin
  deriving DecidableEq, Repr

/-- The value of a group. -/
inductive Setting where
  | node (node : NodeRuntimeConfig)
  | permissions (reporting : EdgeReportingConfig) (remoteCommands : EdgeRemoteCommandsConfig)
  | administration (enabled : Bool)
  | advanced (settings : EdgeAdvancedSettings)
  | admin (admin : InitialAdminConfig)
  deriving DecidableEq, Repr

/-- The value of a group in a file (Go `edgeAdvancedSnapshot`). -/
def Group.value (file : FileConfig) : Group → Setting
  | .node => .node file.node
  | .permissions => .permissions file.edge.reporting file.edge.remoteCommands
  | .administration => .administration file.edge.controllerAdministrationEnabled
  | .advanced => .advanced {
      configurationMode := file.configurationMode
      connectionTuning := file.connectionTuning
      embeddedFrpEnabled := file.embeddedFrpEnabled.getD true
      frpTransportTls := true
      frpBindAddr := file.frpBindAddr
      frpProxyBindAddr := file.frpProxyBindAddr
      sessionTtl := file.sessionTtl
      runtimeTokenTtl := file.runtimeTokenTtl
      udpConnectionTtl := file.udpConnectionTtl
      clientComment := file.clientConfigComment }
  | .admin => .admin file.initialAdmin

/-- The groups of which a save gives a field. -/
def settingsTouch (req : SettingsRequest) : Group → Bool
  | .node => req.node.isSome || req.nodeSelectable.isSome
  | .permissions => req.reporting.isSome || req.remoteCommands.isSome
  | .administration => req.controllerAdministrationEnabled.isSome
  | .advanced => req.connectionTuning.isSome || req.configurationMode.isSome || req.embeddedFrpEnabled.isSome ||
      req.frpBindAddr ≠ "" || req.frpProxyBindAddr ≠ "" || req.clientConfigComment ≠ "" ||
      req.sessionTtl ≠ "" || req.runtimeTokenTtl ≠ "" || req.udpConnectionTtl ≠ ""
  | .admin => false

/-- The groups that a change is about. -/
def touches : Change → Group → Bool
  | .settings req, g => settingsTouch req g
  | .runtimeSettings _, g | .observedAddress _, g => g = .node
  | .permissions _, g => g = .permissions
  | .advancedSettings _, g => g = .advanced
  | .rotateAdmin _ _, g => g = .admin

/-- The commands whose result is logged before it is reported. -/
def logged : Change → Bool
  | .runtimeSettings _ | .permissions _ | .advancedSettings _ => true
  | .settings _ | .rotateAdmin _ _ | .observedAddress _ => false

/-- A writer on its way. -/
inductive Writer where
  | copied (change : Change) (copy : ServerConfig)
  | written (change : Change) (config : ServerConfig)
  | installed (change : Change)

/-- A configuration that was put in place. -/
structure Install where
  writer : Nat
  change : Change
  config : ServerConfig
  reported : Bool := false

/-- How Go `WriteFileConfig` ends: with the new file, the old one, or none. -/
inductive Written where
  | ok
  | kept
  | lost
  deriving DecidableEq, Repr

/-- An edge and its writers, by number. -/
structure Edge where
  config : ServerConfig
  file : Option FileConfig
  writers : Nat → Option Writer := fun _ => none
  installs : List Install := []

inductive Action where
  | start (i : Nat) (change : Change)
  | write (i : Nat) (now : Nat) (secret : String) (ends : Written)
  | install (i : Nat)
  /-- Go `ConfirmConfiguration` or `FinishCommand` may fail for a command that is logged -/
  | report (i : Nat) (fails : Bool)

/-- The writer has reported success. -/
def Install.report (i : Nat) (x : Install) : Install :=
  { x with reported := x.reported || x.writer = i }

section

variable (h : Host)

def step (s : Edge) : Action → Option Edge
  | .start i change =>
    if (s.writers i).isNone && s.installs.all (·.writer ≠ i) then
      some { s with writers := update s.writers i (some (.copied change s.config)) }
    else none
  | .write i now secret ends =>
    match s.writers i with
    | some (.copied change copy) =>
      match change.apply h copy, ends with
      | .error _, _ | .ok _, .kept => some { s with writers := update s.writers i none }
      | .ok _, .lost => some { s with file := none, writers := update s.writers i none }
      | .ok cfg, .ok =>
        some { s with
          file := some (complete now secret (cfg.fileConfig h.toPlatform))
          writers := update s.writers i (some (.written change cfg)) }
    | _ => none
  | .install i =>
    match s.writers i with
    | some (.written change cfg) =>
      some { s with
        config := setRuntime cfg
        installs := { writer := i, change, config := cfg } :: s.installs
        writers := update s.writers i (some (.installed change)) }
    | _ => none
  | .report i fails =>
    match s.writers i with
    | some (.installed change) =>
      some { s with
        installs := if fails && logged change then s.installs else s.installs.map (Install.report i)
        writers := update s.writers i none }
    | _ => none

/-- An edge that has loaded its file. -/
def machine {Bytes : Type} (codec : FileCodec Bytes) (path : String) : Machine Edge Action where
  Init s := s.config.configState = .configured ∧ s.config.mode = modeEdge ∧
    (∃ bytes file, codec.decode bytes = .ok file ∧ s.file = some file ∧
      s.config = load h.toPlatform codec noEnvironment path (.data bytes)) ∧
    s.writers = (fun _ => none) ∧ s.installs = []
  step := step h

/-- The last writer of a group that has reported success. -/
def Edge.last (s : Edge) (g : Group) : Option Install :=
  s.installs.find? fun x => touches x.change g && x.reported

/-- The file is there and has the value that a configuration has for a group. -/
def Edge.FileHas (s : Edge) (g : Group) (cfg : ServerConfig) : Prop :=
  s.file.map (Group.value · g) = some (g.value (cfg.fileConfig h.toPlatform))

/-- Configuration and file have the value that a writer gave to a group. -/
def Edge.Has (s : Edge) (g : Group) (x : Install) : Prop :=
  g.value (s.config.fileConfig h.toPlatform) = g.value (x.config.fileConfig h.toPlatform) ∧
    s.FileHas h g x.config

end

variable {Bytes : Type} {h : Host} {codec : FileCodec Bytes} {path : String} {s s' : Edge}
  {cfg cfg' : ServerConfig} {c : Change} {g : Group}

/-! ## One change -/

/-- A save leaves a group alone that it gives no field of. -/
lemma settings_untouched {req : SettingsRequest} (held : Held cfg) (edge : cfg.mode = modeEdge)
    (e : updateSystemSettings h cfg req = .ok cfg') (no : settingsTouch req g = false) :
    g.value (cfg'.fileConfig h.toPlatform) = g.value (cfg.fileConfig h.toPlatform) := by
  obtain ⟨_, _, _, node, _, _, sessionKept, runtimeKept, udpKept, taken, rfl⟩ :=
    updateSystemSettings_edge_ok edge e
  cases g with
  | admin => rfl
  | administration =>
    rw [settingsTouch, isSome_eq_false_iff, isNone_iff_eq_none] at no
    simp only [Group.value, ServerConfig.fileConfig, no, getD_none]
  | permissions =>
    simp only [settingsTouch, Bool.or_eq_false_iff, isSome_eq_false_iff, isNone_iff_eq_none] at no
    simp only [Group.value, ServerConfig.fileConfig, no, getD_none]
  | node =>
    simp only [settingsTouch, Bool.or_eq_false_iff, isSome_eq_false_iff, isNone_iff_eq_none] at no
    obtain ⟨_, rfl⟩ | ⟨_, given, _⟩ := taken
    · simp only [Group.value, ServerConfig.fileConfig, no, getD_none]
    · cases no.1.symm.trans given
  | advanced =>
    simp only [settingsTouch, Bool.or_eq_false_iff, isSome_eq_false_iff, isNone_iff_eq_none,
      decide_eq_false_iff_not, not_not] at no
    obtain ⟨⟨⟨⟨⟨⟨⟨⟨tuning, mode⟩, embedded⟩, bind⟩, proxy⟩, comment⟩, sessionTtl⟩, runtimeTtl⟩, udpTtl⟩ := no
    -- in the automatic mode the recommended settings are in place already
    have recommended : (cfg.configurationMode = configurationAutomatic || cfg.embeddedFrpEnabled) =
        cfg.embeddedFrpEnabled := by
      by_cases automatic : cfg.configurationMode = configurationAutomatic
      · rw [held.automatic automatic, Bool.or_true]
      · rw [decide_eq_false automatic, Bool.false_or]
    simp only [Group.value, ServerConfig.fileConfig, tuning, mode, embedded, bind, proxy, comment, tuneText,
      sessionKept sessionTtl, runtimeKept runtimeTtl, udpKept udpTtl, getD_none, getD_some, ne_eq,
      not_true_eq_false, if_false, recommended]

/-- A change leaves a group alone that it is not about. -/
lemma untouched (held : Held cfg) (edge : cfg.mode = modeEdge) (e : c.apply h cfg = .ok cfg')
    (no : touches c g = false) :
    g.value (cfg'.fileConfig h.toPlatform) = g.value (cfg.fileConfig h.toPlatform) := by
  cases c.apply_ok e with
  | settings updated => exact settings_untouched held edge updated no
  | runtimeSettings | observedAddress =>
    cases g with
    | node => cases no
    | _ => rfl
  | permissions =>
    cases g with
    | permissions => cases no
    | _ => rfl
  | advancedSettings applied =>
    obtain ⟨_, _, _, _, _, rfl⟩ := applyEdgeAdvancedSettings_ok applied
    cases g with
    | advanced => cases no
    | _ => rfl
  | rotateAdmin rotated =>
    obtain ⟨admin, _, _, rfl⟩ := rotateLocalEdgeAdmin_ok rotated
    cases g with
    | admin => cases no
    | _ => rfl

/-- The comment is not left empty, or `WriteFileConfig` would put one. -/
def KeepsComment : Change → Prop
  | .settings req => req.clientConfigComment = "" ∨ trimSpace req.clientConfigComment ≠ ""
  | .advancedSettings (some req) => trimSpace req.clientComment ≠ ""
  | _ => True

/-- What is kept of the configuration of an edge. -/
structure Fit (cfg : ServerConfig) : Prop extends Held cfg where
  edge : cfg.mode = modeEdge
  comment : cfg.clientConfigComment ≠ ""

lemma Fit.apply (fit : Fit cfg) (e : c.apply h cfg = .ok cfg') (keeps : KeepsComment c) : Fit cfg' := by
  refine ⟨fit.toHeld.change e, ?_, ?_⟩
  · cases c.apply_ok e with
    | settings updated =>
      obtain ⟨_, _, _, _, _, _, _, _, _, _, rfl⟩ :=
        updateSystemSettings_edge_ok fit.edge updated
      exact fit.edge
    | advancedSettings applied =>
      obtain ⟨_, _, _, _, _, rfl⟩ := applyEdgeAdvancedSettings_ok applied
      exact fit.edge
    | rotateAdmin rotated =>
      obtain ⟨_, _, _, rfl⟩ := rotateLocalEdgeAdmin_ok rotated
      exact fit.edge
    | _ => exact fit.edge
  · cases c.apply_ok e with
    | settings updated =>
      obtain ⟨_, _, _, _, _, _, _, _, _, _, rfl⟩ :=
        updateSystemSettings_edge_ok fit.edge updated
      dsimp only [tuneText]
      split
      · rename_i given
        exact keeps.resolve_left given
      · exact fit.comment
    | advancedSettings applied =>
      obtain ⟨_, _, _, _, _, rfl⟩ := applyEdgeAdvancedSettings_ok applied
      exact keeps
    | rotateAdmin rotated =>
      obtain ⟨_, _, _, rfl⟩ := rotateLocalEdgeAdmin_ok rotated
      exact fit.comment
    | _ => exact fit.comment

lemma Fit.setRuntime (fit : Fit cfg) : Fit (setRuntime cfg) := ⟨fit.toHeld.setRuntime, fit.edge, fit.comment⟩

/-- What `WriteFileConfig` fills in is in no group but an empty comment. -/
lemma value_complete {now : Nat} {secret : String} (comment : cfg.clientConfigComment ≠ "") :
    g.value (complete now secret (cfg.fileConfig h.toPlatform)) = g.value (cfg.fileConfig h.toPlatform) := by
  cases g with
  | advanced =>
    simp only [Group.value, complete, ServerConfig.fileConfig, given_of_ne (formatDuration_ne_empty _ _),
      given_of_ne comment, getD_some]
  | _ => rfl

/-! ## Writers one after the other -/

/-- The writer has copied the configuration and put nothing in place. -/
def Writer.Busy : Writer → Prop
  | .copied _ _ | .written _ _ => True
  | .installed _ => False

/-- A writer copies the configuration only when no other one is between its copy and `setRuntime`; a command
that has changed it is put into the log; no comment is left empty; a write that fails keeps the old file. -/
def Serial (s : Edge) : Action → Prop
  | .start _ change => (∀ j w, s.writers j = some w → ¬ w.Busy) ∧ KeepsComment change
  | .write _ _ _ ends => ends ≠ .lost
  | .report _ fails => fails = false
  | .install _ => True

/-- What is known of a writer on its way. -/
def Sound (h : Host) (s : Edge) : Writer → Prop
  | .copied change copy => KeepsComment change ∧ copy = s.config
  | .written change cfg => KeepsComment change ∧ change.apply h s.config = .ok cfg ∧
      ∀ g, s.FileHas h g cfg
  | .installed _ => True

structure Good (h : Host) (s : Edge) : Prop where
  fit : Fit s.config
  alone : ∀ {i j w w'}, s.writers i = some w → s.writers j = some w' → w.Busy → w'.Busy → i = j
  sound : ∀ {i w}, s.writers i = some w → Sound h s w
  /-- the file is that of the configuration, unless a writer is about to install -/
  file : (∀ i c cfg, s.writers i ≠ some (.written c cfg)) → s.installs ≠ [] →
    ∀ g, s.FileHas h g s.config
  running : ∀ {g x}, s.installs.find? (touches ·.change g) = some x →
    g.value (s.config.fileConfig h.toPlatform) = g.value (x.config.fileConfig h.toPlatform)
  unreported : ∀ x ∈ s.installs, x.reported = false → ∃ c, s.writers x.writer = some (.installed c)

variable {i : Nat} {w : Writer}

lemma of_update {writers : Nat → Option Writer} {j : Nat} {v : Option Writer}
    (e : update writers i v j = some w) : (j = i ∧ v = some w) ∨ (j ≠ i ∧ writers j = some w) := by
  by_cases same : j = i
  · subst same
    rw [update_self] at e
    exact .inl ⟨rfl, e⟩
  · rw [update_of_ne same] at e
    exact .inr ⟨same, e⟩

/-- What is installed and not reported stays so. -/
lemma Good.unreported_update (good : Good h s) {v : Option Writer} (moves : ∀ c, s.writers i ≠ some (.installed c))
    {x : Install} (mem : x ∈ s.installs) (no : x.reported = false) :
    ∃ c, update s.writers i v x.writer = some (.installed c) := by
  obtain ⟨c, at_⟩ := good.unreported x mem no
  have other : x.writer ≠ i := by
    intro same
    rw [same] at at_
    exact moves c at_
  exact ⟨c, by rwa [update_of_ne other]⟩

/-- A writer copies the configuration. -/
lemma Good.start (good : Good h s) (new : s.writers i = none) (idle : ∀ j w, s.writers j = some w → ¬ w.Busy)
    (keeps : KeepsComment c) :
    Good h { s with writers := update s.writers i (some (.copied c s.config)) } where
  fit := good.fit
  alone e₁ e₂ busy₁ busy₂ := by
    obtain ⟨rfl, _⟩ | ⟨_, old₁⟩ := of_update e₁
    · obtain ⟨rfl, _⟩ | ⟨_, old₂⟩ := of_update e₂
      · rfl
      · exact absurd busy₂ (idle _ _ old₂)
    · exact absurd busy₁ (idle _ _ old₁)
  sound e := by
    obtain ⟨_, is⟩ | ⟨_, old⟩ := of_update e
    · cases is
      exact ⟨keeps, rfl⟩
    · exact good.sound old
  file none := by
    refine good.file fun j c' cfg' at_ => ?_
    exact idle _ _ at_ trivial
  running := good.running
  unreported x mem no := good.unreported_update (by simp [new]) mem no

/-- A writer that has nothing installed gives up. -/
lemma Good.giveUp (good : Good h s) (at_ : s.writers i = some (.copied c cfg)) :
    Good h { s with writers := update s.writers i none } where
  fit := good.fit
  alone e₁ e₂ := by
    obtain ⟨_, no⟩ | ⟨_, old₁⟩ := of_update e₁
    · cases no
    · obtain ⟨_, no⟩ | ⟨_, old₂⟩ := of_update e₂
      · cases no
      · exact good.alone old₁ old₂
  sound e := by
    obtain ⟨_, no⟩ | ⟨_, old⟩ := of_update e
    · cases no
    · exact good.sound old
  file none := by
    refine good.file fun j c' cfg' is => none j c' cfg' ?_
    have other : j ≠ i := by
      rintro rfl
      cases at_.symm.trans is
    exact (update_of_ne other ..).trans is
  running := good.running
  unreported x mem no := good.unreported_update (by simp [at_]) mem no

/-- A writer writes the file. -/
lemma Good.write {now : Nat} {secret : String} (good : Good h s) (at_ : s.writers i = some (.copied c cfg))
    (e : c.apply h cfg = .ok cfg') :
    Good h { s with
      file := some (complete now secret (cfg'.fileConfig h.toPlatform))
      writers := update s.writers i (some (.written c cfg')) } where
  fit := good.fit
  alone e₁ e₂ busy₁ busy₂ := by
    obtain ⟨rfl, _⟩ | ⟨_, old₁⟩ := of_update e₁
    · obtain ⟨rfl, _⟩ | ⟨_, old₂⟩ := of_update e₂
      · rfl
      · exact good.alone at_ old₂ trivial busy₂
    · obtain ⟨rfl, _⟩ | ⟨_, old₂⟩ := of_update e₂
      · exact good.alone old₁ at_ busy₁ trivial
      · exact good.alone old₁ old₂ busy₁ busy₂
  sound {j w} is := by
    obtain ⟨keeps, rfl⟩ := good.sound at_
    obtain ⟨_, is⟩ | ⟨other, old⟩ := of_update is
    · cases is
      exact ⟨keeps, e, fun g => congrArg some (value_complete (good.fit.apply e keeps).comment)⟩
    · cases w with
      | copied => exact good.sound old
      | written => exact absurd (good.alone old at_ trivial trivial) other
      | installed => trivial
  file none := absurd (update_self ..) (none i c cfg')
  running := good.running
  unreported x mem no := good.unreported_update (by simp [at_]) mem no

lemma value_setRuntime : g.value ((setRuntime cfg).fileConfig h.toPlatform) =
    g.value (cfg.fileConfig h.toPlatform) := by
  cases g with
  | _ => rfl

/-- A writer puts its copy in place. -/
lemma Good.install (good : Good h s) (at_ : s.writers i = some (.written c cfg)) :
    Good h { s with
      config := setRuntime cfg
      installs := { writer := i, change := c, config := cfg } :: s.installs
      writers := update s.writers i (some (.installed c)) } := by
  obtain ⟨keeps, e, file⟩ := good.sound at_
  refine ⟨(good.fit.apply e keeps).setRuntime, ?alone, ?sound, ?file, ?running, ?unreported⟩
  case alone =>
    intro i₁ i₂ w₁ w₂ e₁ e₂ busy₁ busy₂
    obtain ⟨_, is⟩ | ⟨_, old₁⟩ := of_update e₁
    · cases is
      cases busy₁
    · obtain ⟨_, is⟩ | ⟨_, old₂⟩ := of_update e₂
      · cases is
        cases busy₂
      · exact good.alone old₁ old₂ busy₁ busy₂
  case sound =>
    intro j w is
    obtain ⟨_, is⟩ | ⟨other, old⟩ := of_update is
    · cases is
      trivial
    · cases w with
      | copied | written => exact absurd (good.alone old at_ trivial trivial) other
      | installed => trivial
  case file =>
    intro _ _ g
    exact (file g).trans (congrArg some value_setRuntime.symm)
  case running =>
    intro g x found
    rw [List.find?_cons] at found
    rw [value_setRuntime]
    split at found
    · cases found
      rfl
    · rename_i no
      exact (untouched good.fit.toHeld good.fit.edge e no).trans (good.running found)
  case unreported =>
    intro x mem no
    obtain rfl | mem := List.mem_cons.mp mem
    · exact ⟨c, update_self ..⟩
    · exact good.unreported_update (by simp [at_]) mem no

/-- A writer reports. -/
lemma Good.report (good : Good h s) (at_ : s.writers i = some (.installed c)) :
    Good h { s with
      installs := s.installs.map (Install.report i)
      writers := update s.writers i none } where
  fit := good.fit
  alone e₁ e₂ := by
    obtain ⟨_, no⟩ | ⟨_, old₁⟩ := of_update e₁
    · cases no
    · obtain ⟨_, no⟩ | ⟨_, old₂⟩ := of_update e₂
      · cases no
      · exact good.alone old₁ old₂
  sound e := by
    obtain ⟨_, no⟩ | ⟨_, old⟩ := of_update e
    · cases no
    · exact good.sound old
  file none some := by
    refine good.file (fun j c' cfg' is => none j c' cfg' ?_) (mt (by rintro (e : s.installs = []); simp [e]) some)
    have other : j ≠ i := by
      rintro rfl
      cases at_.symm.trans is
    exact (update_of_ne other ..).trans is
  running found := by
    rw [List.find?_map] at found
    obtain ⟨x, old, rfl⟩ := map_eq_some_iff.mp found
    exact good.running (x := x) old
  unreported x mem no := by
    obtain ⟨y, old, rfl⟩ := List.mem_map.mp mem
    obtain ⟨before, other⟩ := Bool.or_eq_false_iff.mp no
    obtain ⟨c', at'⟩ := good.unreported y old before
    exact ⟨c', (update_of_ne (of_decide_eq_false other) ..).trans at'⟩

/-- Every serial step is good. -/
lemma Good.step {a : Action} (good : Good h s) (serial : Serial s a) (st : step h s a = some s') : Good h s' := by
  cases a with
  | start =>
    simp only [Writers.step] at st
    split at st
    · rename_i guard
      cases st
      exact good.start (isNone_iff_eq_none.mp (Bool.and_eq_true_iff.mp guard).1) serial.1 serial.2
    · cases st
  | write =>
    simp only [Writers.step] at st
    split at st
    · rename_i at_
      split at st
      · cases st
        exact good.giveUp at_
      · cases st
        exact good.giveUp at_
      · exact absurd rfl serial
      · rename_i e
        cases st
        exact good.write at_ e
    · cases st
  | install =>
    simp only [Writers.step] at st
    split at st
    · rename_i at_
      cases st
      exact good.install at_
    · cases st
  | report =>
    cases serial
    simp only [Writers.step] at st
    split at st
    · rename_i at_
      cases st
      exact good.report at_
    · cases st

lemma Good.init (i : (machine h codec path).Init s) : Good h s := by
  obtain ⟨configured, edge, ⟨_, file, _, _, loaded⟩, writers, installs⟩ := i
  have normal : Normal path s.config := by
    rw [loaded] at configured ⊢
    exact load_normal configured
  exact ⟨⟨normal.toHeld, edge, normal.comment⟩, by simp [writers], by simp [writers],
    fun _ some => absurd installs some,
    by simp [installs], by simp [installs]⟩

/-- When the writers have come one after the other and all have finished, the configuration in memory and the
file have in every group the value of the last writer of that group that has reported success. -/
theorem last_writer_in_place (reach : (machine h codec path).ReachableAlong Serial s)
    (finished : ∀ i, s.writers i = none) : ∀ g x, s.last g = some x → s.Has h g x := by
  intro g x last
  have good : Good h s := reach.inv (fun s => Good.init) fun s a s' => Good.step
  have reported : ∀ x ∈ s.installs, x.reported = true := by
    intro x mem
    cases is : x.reported with
    | true => rfl
    | false =>
      obtain ⟨c, at_⟩ := good.unreported x mem is
      cases (finished x.writer).symm.trans at_
  have found : s.installs.find? (touches ·.change g) = some x := by
    rw [← last]
    refine List.find?_congr fun x mem => ?_
    rw [reported x mem, Bool.and_true]
  have running := good.running found
  refine ⟨running, (good.file ?_ ?_ g).trans (congrArg some running)⟩
  · intro i c cfg at_
    cases (finished i).symm.trans at_
  · intro empty
    rw [empty] at found
    cases found

/-! ## Runs -/

/-- The edge after the file was loaded. -/
def sampleStart : Edge where
  config := sampleEdge
  file := some (complete 0 "" (sampleEdge.fileConfig samplePlatform))

lemma sampleStart_init : (machine sampleHost sampleFileCodec "server.json").Init sampleStart := by
  have loaded : sampleEdge = load samplePlatform sampleFileCodec noEnvironment "server.json"
      (.data (save samplePlatform sampleFileCodec 0 "" sampleEdge)) := (load_save_normal sampleEdge_normal).symm
  exact ⟨rfl, rfl, ⟨_, _, rfl, rfl, loaded⟩, rfl, rfl⟩

/-- The controller asks for the connections. -/
def samplePermissions : Change := .permissions (some ({ connections := true }, {}))

/-- An administrator saves that the node cannot be selected. -/
def sampleSave : Change := .settings { nodeSelectable := some false }

/-- The save has copied the configuration before the command wrote its own, and undoes it; both report
success. -/
theorem concurrent_writer_lost : ∃ s, (machine sampleHost sampleFileCodec "server.json").Reachable s ∧
    (∀ i, s.writers i = none) ∧ ∃ x, s.last .permissions = some x ∧ ¬ s.Has sampleHost .permissions x := by
  let acts : List Action := [.start 0 samplePermissions, .start 1 sampleSave, .write 0 0 "" .ok, .install 0,
    .report 0 false, .write 1 0 "" .ok, .install 1, .report 1 false]
  refine ⟨_, ⟨sampleStart, acts, sampleStart_init, rfl⟩, fun i => ?_, _, rfl, fun has => ?_⟩
  · match i with
    | 0 => rfl
    | 1 => rfl
    | _ + 2 => rfl
  · exact absurd has.1 (by decide)

/-- A writer that has its turn alone. -/
lemma turn (codec : FileCodec Bytes) (path : String) (idle : s.writers = fun _ => none)
    (new : s.installs.all (·.writer ≠ i) = true)
    (keeps : KeepsComment c) (e : c.apply h s.config = .ok cfg) : ∃ acts s',
      (machine h codec path).Along Serial s acts ∧ (machine h codec path).run s acts = some s' ∧
      s'.config = setRuntime cfg ∧ (s'.writers = fun _ => none) ∧
      s'.installs = ({ writer := i, change := c, config := cfg } :: s.installs).map (Install.report i) := by
  let s₁ : Edge := { s with writers := update s.writers i (some (.copied c s.config)) }
  let s₂ : Edge := { s₁ with
    file := some (complete 0 "" (cfg.fileConfig h.toPlatform))
    writers := update s₁.writers i (some (.written c cfg)) }
  let s₃ : Edge := { s₂ with
    config := setRuntime cfg
    installs := { writer := i, change := c, config := cfg } :: s.installs
    writers := update s₂.writers i (some (.installed c)) }
  let s₄ : Edge := { s₃ with
    installs := s₃.installs.map (Install.report i)
    writers := update s₃.writers i none }
  have start : step h s (.start i c) = some s₁ := by
    simp only [step, idle, new, s₁]
    rfl
  have write : step h s₁ (.write i 0 "" .ok) = some s₂ := by
    simp only [step, s₁, s₂, update_self, e]
  have install : step h s₂ (.install i) = some s₃ := by simp only [step, s₁, s₂, s₃, update_self]
  have report : step h s₃ (.report i false) = some s₄ := by
    simp only [step, s₃, s₄, update_self]
    rfl
  refine ⟨[.start i c, .write i 0 "" .ok, .install i, .report i false], s₄,
    .cons start ⟨by simp [idle], keeps⟩ <| .cons write nofun <| .cons install trivial <| .cons report rfl trivial,
    ?_, rfl, ?_, rfl⟩
  · refine run_cons_some.mpr ⟨s₁, start, run_cons_some.mpr ⟨s₂, write, ?_⟩⟩
    exact run_cons_some.mpr ⟨s₃, install, run_cons_some.mpr ⟨s₄, report, rfl⟩⟩
  · simp only [s₄, s₃, s₂, s₁, update_idem, idle]
    exact update_eq_self i _

/-- The edge after the command. -/
def samplePermitted : ServerConfig :=
  { sampleEdge with edge := { sampleEdge.edge with reporting := { connections := true }, remoteCommands := {} } }

/-- The same two writers, one after the other. -/
theorem last_writer_in_place_serial : ∃ s x y,
    (machine sampleHost sampleFileCodec "server.json").ReachableAlong Serial s ∧
    s.last .permissions = some x ∧ s.last .node = some y ∧ x.writer = 0 ∧ y.writer = 1 ∧
    s.Has sampleHost .permissions x ∧ s.Has sampleHost .node y := by
  have permitted : samplePermissions.apply sampleHost sampleStart.config = .ok samplePermitted := rfl
  obtain ⟨_, save⟩ : ∃ cfg, sampleSave.apply sampleHost (setRuntime samplePermitted) = .ok cfg := ⟨_, rfl⟩
  obtain ⟨acts, s, along, run, config, idle, installs⟩ :=
    turn (i := 0) (c := samplePermissions) sampleFileCodec "server.json" rfl rfl trivial permitted
  rw [← config] at save
  have new : s.installs.all (·.writer ≠ 1) = true := by
    rw [installs]
    rfl
  obtain ⟨acts', s', along', run', _, idle', installs'⟩ :=
    turn (i := 1) (c := sampleSave) sampleFileCodec "server.json" idle new (.inl rfl) save
  have reach : (machine sampleHost sampleFileCodec "server.json").ReachableAlong Serial s' := by
    refine ⟨sampleStart, acts ++ acts', sampleStart_init, along.append run along', ?_⟩
    rw [run_append, run]
    exact run'
  have has := last_writer_in_place reach (congrFun idle')
  obtain ⟨x, first, zero⟩ : ∃ x, s'.last .permissions = some x ∧ x.writer = 0 := by
    rw [Edge.last, installs', installs]
    exact ⟨_, rfl, rfl⟩
  obtain ⟨y, second, one⟩ : ∃ y, s'.last .node = some y ∧ y.writer = 1 := by
    rw [Edge.last, installs', installs]
    exact ⟨_, rfl, rfl⟩
  exact ⟨s', x, y, reach, first, second, zero, one, has _ _ first, has _ _ second⟩

end MeowFrp.Config.Writers
