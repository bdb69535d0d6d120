import MeowFrp.Config.Accepted
import MeowFrp.Lib.Machine
import Mathlib.Logic.Encodable.Basic

/-!
# A saved configuration loads again

`Valid` says what `Validate` accepts, and `Held` what is kept by every accepted change of the configuration
of a running server. A configuration that is `Held` survives a save and a load in all that identifies the
server; one that comes from a file (`Normal`) survives them unchanged.
-/

namespace MeowFrp.Config

open Lib

/-- The certificates and the key are there, in some form. -/
def TlsFiles.Complete (t : TlsFiles) : Prop :=
  ((t.caCertificateBase64 ≠ "" ∧ t.certificateBase64 ≠ "") ∧ t.privateKeyBase64 ≠ "") ∨
    ((t.caFile ≠ "" ∧ t.certFile ≠ "") ∧ t.keyFile ≠ "")

/-- What Go `Validate` asks for. -/
structure Valid (cfg : ServerConfig) : Prop where
  tuning : validateConnectionTuning cfg.connectionTuning = none
  configurationMode : cfg.configurationMode = "" ∨ cfg.configurationMode = configurationAutomatic ∨
    cfg.configurationMode = configurationManual
  mode : cfg.mode = modeController ∨ cfg.mode = modeEdge
  initialized : cfg.initialized = true
  admin : cfg.initialAdmin.username ≠ "" ∧ cfg.initialAdmin.passwordHash ≠ ""
  database : cfg.mode = modeController → cfg.mysqlDsn ≠ ""
  enrolled : cfg.mode = modeEdge → cfg.edge.nodeId ≠ "" ∧ cfg.edge.controllerAddr ≠ ""
  mtls : cfg.mode = modeEdge → cfg.edge.tls.Complete
  ports : validateNodePorts cfg.node = none

variable {Bytes : Type} {h : Host} {go : Platform} {codec : FileCodec Bytes} {env : Environment} {path : String}
  {cfg cfg' : ServerConfig} {file : FileConfig}

lemma validate_eq_none : validate cfg = none ↔ Valid cfg := by
  unfold validate
  simp only [orElse_eq_none, check_eq_none, Bool.and_eq_false_iff, Bool.or_eq_false_iff, Bool.not_eq_false',
    decide_eq_false_iff_not, ne_eq, not_not, Bool.and_eq_true, decide_eq_true_eq]
  constructor
  · rintro ⟨tuning, configurationMode, mode, initialized, admin, database, enrolled, mtls, ports⟩
    exact ⟨tuning, or_assoc.mp configurationMode, mode, initialized, admin, imp_iff_not_or.mpr database,
      imp_iff_not_or.mpr enrolled, imp_iff_not_or.mpr (or_assoc.mp mtls), ports⟩
  · rintro ⟨tuning, configurationMode, mode, initialized, admin, database, enrolled, mtls, ports⟩
    exact ⟨tuning, or_assoc.mpr configurationMode, mode, initialized, admin, imp_iff_not_or.mp database,
      imp_iff_not_or.mp enrolled, or_assoc.mpr (imp_iff_not_or.mp mtls), ports⟩

/-- Validity depends on these parts only. -/
lemma Valid.of_parts (valid : Valid cfg) (tuning : validateConnectionTuning cfg'.connectionTuning = none)
    (configurationMode : cfg'.configurationMode = "" ∨ cfg'.configurationMode = configurationAutomatic ∨
      cfg'.configurationMode = configurationManual)
    (mode : cfg'.mode = cfg.mode) (initialized : cfg'.initialized = cfg.initialized)
    (admin : cfg'.initialAdmin.username ≠ "" ∧ cfg'.initialAdmin.passwordHash ≠ "")
    (database : cfg'.mysqlDsn = cfg.mysqlDsn) (nodeId : cfg'.edge.nodeId = cfg.edge.nodeId)
    (controllerAddr : cfg'.edge.controllerAddr = cfg.edge.controllerAddr) (tls : cfg'.edge.tls = cfg.edge.tls)
    (ports : validateNodePorts cfg'.node = none) : Valid cfg' := by
  refine ⟨tuning, configurationMode, ?_, initialized.trans valid.initialized, admin, ?_, ?_, ?_, ports⟩
  · rw [mode]
    exact valid.mode
  · rw [mode, database]
    exact valid.database
  · rw [mode, nodeId, controllerAddr]
    exact valid.enrolled
  · rw [mode, tls]
    exact valid.mtls

/-- What is kept of the configuration of a configured server. -/
structure Held (cfg : ServerConfig) : Prop where
  valid : Valid cfg
  configured : cfg.configState = .configured
  advertised : cfg.node.frpAdvertiseAddr ≠ ""
  statePath : cfg.edge.statePath ≠ ""
  listening : cfg.controller.listenAddr ≠ ""
  heartbeat : 0 < cfg.controller.heartbeatIntervalSeconds
  automatic : cfg.configurationMode = configurationAutomatic → cfg.embeddedFrpEnabled = true

/-- A configuration as it comes from a file. -/
structure Normal (path : String) (cfg : ServerConfig) : Prop extends Held cfg where
  path : cfg.configPath = path
  version : cfg.configVersion ≠ 0
  configurationMode : cfg.configurationMode ≠ ""
  noError : cfg.configError = ""
  httpAddr : cfg.httpAddr = ":8080"
  secret : cfg.cookieSecret ≠ ""
  bound : cfg.frpBindAddr ≠ ""
  proxyBound : cfg.frpProxyBindAddr ≠ ""
  comment : cfg.clientConfigComment ≠ ""
  tls : cfg.frpTransportTls = true
  serverAddr : cfg.frpServerAddr = cfg.node.frpAdvertiseAddr
  serverPort : cfg.frpServerPort = cfg.node.frpBindPort

/-! ## Loading -/

/-- The recommended settings are taken over. -/
lemma merge_eq : merge go env path file =
    { applyFileConfig go { defaults go env with configPath := path } file with
      embeddedFrpEnabled :=
        (applyFileConfig go { defaults go env with configPath := path } file).configurationMode =
          configurationAutomatic ||
        (applyFileConfig go { defaults go env with configPath := path } file).embeddedFrpEnabled } := by
  unfold merge
  dsimp only
  split
  · rename_i automatic
    rw [decide_eq_true automatic]
    rfl
  · rename_i manual
    rw [decide_eq_false manual, Bool.false_or]

/-- A file whose content is valid is loaded. -/
lemma load_of_valid {bytes : Bytes} (decoded : codec.decode bytes = .ok file)
    (valid : Valid (merge go noEnvironment path file)) : load go codec noEnvironment path (.data bytes) =
      { merge go noEnvironment path file with configState := .configured } := by
  unfold load
  dsimp only
  rw [decoded]
  dsimp only
  rw [validate_eq_none.mpr valid]
  dsimp only
  rw [applyEnv_none, merge_eq]
  rfl

/-- A configuration that is loaded as configured has a valid file. -/
lemma load_configured {bytes : Bytes}
    (configured : (load go codec noEnvironment path (.data bytes)).configState = .configured) :
    ∃ file, Valid (merge go noEnvironment path file) ∧ load go codec noEnvironment path (.data bytes) =
        { merge go noEnvironment path file with configState := .configured } := by
  cases decoded : codec.decode bytes with
  | error =>
    unfold load at configured
    dsimp only at configured
    rw [decoded] at configured
    cases configured
  | ok file =>
    cases valid : validate (merge go noEnvironment path file) with
    | some =>
      unfold load at configured
      dsimp only at configured
      rw [decoded] at configured
      dsimp only at configured
      rw [valid] at configured
      cases configured
    | none => exact ⟨file, validate_eq_none.mp valid, load_of_valid decoded (validate_eq_none.mp valid)⟩

/-- What is missing in a file is filled in. -/
lemma merge_normal (valid : Valid (merge go noEnvironment path file)) :
    Normal path { merge go noEnvironment path file with configState := .configured } := by
  rw [merge_eq] at valid ⊢
  have statePath : "data/edge-state.db" ≠ "" := by decide
  have listenAddr : "0.0.0.0:9443" ≠ "" := by decide
  have interval : (0 : Int) < 5 := by decide
  exact {
    valid := valid.of_parts valid.tuning valid.configurationMode rfl rfl valid.admin rfl rfl rfl rfl valid.ports
    configured := rfl
    advertised := given_ne_empty (given_ne_empty (by decide))
    statePath := given_ne_empty statePath
    listening := given_ne_empty listenAddr
    heartbeat := givenPositive_pos interval
    automatic := fun is => by
      dsimp only at is ⊢
      rw [decide_eq_true is, Bool.true_or]
    path := rfl
    version := by
      change (if file.configVersion = 0 then 1 else file.configVersion) ≠ 0
      split
      · decide
      · assumption
    configurationMode := given_ne_empty (by decide)
    noError := rfl
    httpAddr := rfl
    secret := given_ne_empty (by decide)
    bound := given_ne_empty (by decide)
    proxyBound := given_ne_empty (given_ne_empty (by decide))
    comment := given_ne_empty (by decide)
    tls := rfl
    serverAddr := rfl
    serverPort := rfl }

/-! ## Saving -/

variable {now : Nat} {secret : String}

/-- The file that is saved for a configuration. -/
abbrev saved (go : Platform) (now : Nat) (secret : String) (cfg : ServerConfig) : FileConfig :=
  complete now secret (cfg.fileConfig go)

lemma mergeNodeRuntimeConfig_valid {base node : NodeRuntimeConfig} (ports : validateNodePorts node = none) :
    mergeNodeRuntimeConfig base node = node := by
  obtain ⟨bind, _⟩ := validateNodePorts_none.mp ports
  unfold mergeNodeRuntimeConfig
  rw [givenPositive_of_pos bind.1, givenPositive_of_pos (by omega), givenPositive_of_pos (by omega)]

/-- The settings of a node are read as they were written. -/
lemma merge_node (held : Held cfg) : (merge go noEnvironment path (saved go now secret cfg)).node = cfg.node := by
  obtain ⟨_, _⟩ := validateNodePorts_none.mp held.valid.ports
  have configured : nodeRuntimeConfigured cfg.node = true := by
    unfold nodeRuntimeConfigured
    have : cfg.node.frpBindPort ≠ 0 := by omega
    simp [this]
  have node : ∀ base mode, fileNode base mode (saved go now secret cfg) = cfg.node := by
    intro base mode
    exact (if_pos configured).trans (mergeNodeRuntimeConfig_valid held.valid.ports)
  rw [merge_eq]
  unfold applyFileConfig
  dsimp only
  rw [node, if_neg (by omega), given_of_ne held.advertised, if_neg (by omega), if_neg (by omega)]

lemma merge_mode (held : Held cfg) : (merge go noEnvironment path (saved go now secret cfg)).mode = cfg.mode := by
  have set : cfg.mode ≠ "" := by
    rcases held.valid.mode with mode | mode
    · rw [mode]
      decide
    · rw [mode]
      decide
  rw [merge_eq]
  change (if (cfg.mode = "" && _) = true then _ else cfg.mode) = cfg.mode
  rw [decide_eq_false set, Bool.false_and, if_neg Bool.false_ne_true]

/-- The defaults have no text that a saved one could not replace. -/
lemma merge_controller (held : Held cfg) :
    (merge go noEnvironment path (saved go now secret cfg)).controller = cfg.controller := by
  rw [merge_eq]
  change mergeControllerConfig { listenAddr := "0.0.0.0:9443", heartbeatIntervalSeconds := 5 } cfg.controller = _
  unfold mergeControllerConfig
  rw [given_of_ne held.listening, givenPositive_of_pos held.heartbeat]
  simp only [given_empty, mergeTls_empty]

lemma merge_edge (held : Held cfg) : (merge go noEnvironment path (saved go now secret cfg)).edge = cfg.edge := by
  rw [merge_eq]
  change mergeEdgeConfig (defaults go noEnvironment).edge cfg.edge = _
  unfold mergeEdgeConfig defaults
  simp only [given_empty, mergeTls_empty, given_of_ne held.statePath]

/-- The content of a saved file is valid. -/
lemma merge_valid (held : Held cfg) : Valid (merge go noEnvironment path (saved go now secret cfg)) := by
  have initialized : (merge go noEnvironment path (saved go now secret cfg)).initialized = cfg.initialized := by
    rw [merge_eq]
    change (cfg.initialized || _) = cfg.initialized
    rw [held.valid.initialized, Bool.true_or]
  have configurationMode : (merge go noEnvironment path (saved go now secret cfg)).configurationMode =
      given cfg.configurationMode configurationManual := by
    rw [merge_eq]
    rfl
  have edge : (merge go noEnvironment path (saved go now secret cfg)).edge = cfg.edge := merge_edge held
  refine held.valid.of_parts ?_ ?_ (merge_mode held) initialized ?_ ?_ (by rw [edge]) (by rw [edge])
    (by rw [edge]) ?_
  · rw [merge_eq]
    exact held.valid.tuning
  · rw [configurationMode]
    rcases held.valid.configurationMode with none | automatic | manual
    · rw [none]
      exact .inr (.inr rfl)
    · rw [automatic]
      exact .inr (.inl rfl)
    · rw [manual]
      exact .inr (.inr rfl)
  · rw [merge_eq]
    exact held.valid.admin
  · rw [merge_eq]
    rfl
  · rw [merge_node held]
    exact held.valid.ports

/-- A saved configuration is loaded. -/
lemma load_save (held : Held cfg) : load go codec noEnvironment path (.data (save go codec now secret cfg)) =
    { merge go noEnvironment path (saved go now secret cfg) with configState := .configured } :=
  load_of_valid (codec.decode_encode _) (merge_valid held)

/-- A duration is written as something. -/
lemma formatDuration_ne_empty (go : Platform) (d : Duration) : go.formatDuration d ≠ "" := by
  intro empty
  have parsed := go.parse_format d
  rw [empty, go.parse_empty] at parsed
  cases parsed

/-- A duration is read back. -/
lemma parseDuration_format {d fallback : Duration} {other : String} :
    parseDuration go (given (go.formatDuration d) other) fallback = d := by
  unfold parseDuration
  rw [given_of_ne (formatDuration_ne_empty go d), go.parse_format]
  rfl

/-- A configuration that came from a file is loaded unchanged. -/
lemma load_save_normal (normal : Normal path cfg) :
    load go codec noEnvironment path (.data (save go codec now secret cfg)) = cfg := by
  have held := normal.toHeld
  rw [load_save held]
  have node : (merge go noEnvironment path (saved go now secret cfg)).node = cfg.node := merge_node held
  apply ServerConfig.ext
  case mode => exact merge_mode held
  case controller => exact merge_controller held
  case edge => exact merge_edge held
  case node => exact node
  case configState => exact held.configured.symm
  -- the address and the port at the top level are those of the node
  case frpServerAddr =>
    rw [normal.serverAddr, ← node, merge_eq]
    rfl
  case frpServerPort =>
    rw [normal.serverPort, ← node, merge_eq]
    rfl
  all_goals rw [merge_eq]
  case configPath => exact normal.path.symm
  case configVersion =>
    change (if (if cfg.configVersion = 0 then 2 else cfg.configVersion) = 0 then 1
      else if cfg.configVersion = 0 then 2 else cfg.configVersion) = cfg.configVersion
    rw [if_neg normal.version, if_neg normal.version]
  case configurationMode => exact given_of_ne normal.configurationMode
  case connectionTuning => rfl
  case configError => exact normal.noError.symm
  case httpAddr => exact normal.httpAddr.symm
  case mysqlDsn => rfl
  case cookieSecret =>
    change given (given cfg.cookieSecret secret) _ = cfg.cookieSecret
    rw [given_of_ne normal.secret, given_of_ne normal.secret]
  case sessionTtl => exact parseDuration_format
  case runtimeTokenTtl => exact parseDuration_format
  case udpConnectionTtl => exact parseDuration_format
  case embeddedFrpEnabled =>
    change (decide (given cfg.configurationMode _ = configurationAutomatic) || cfg.embeddedFrpEnabled) = _
    rw [given_of_ne normal.configurationMode]
    by_cases automatic : cfg.configurationMode = configurationAutomatic
    · rw [held.automatic automatic, Bool.or_true]
    · rw [decide_eq_false automatic, Bool.false_or]
  case frpBindAddr => exact given_of_ne normal.bound
  case frpProxyBindAddr => exact given_of_ne normal.proxyBound
  case frpTransportTls => exact normal.tls.symm
  case clientConfigComment =>
    change given (given cfg.clientConfigComment _) _ = cfg.clientConfigComment
    rw [given_of_ne normal.comment, given_of_ne normal.comment]
  case initialAdmin => rfl
  case initialized =>
    change (cfg.initialized || _) = cfg.initialized
    rw [held.valid.initialized, Bool.true_or]

/-! ## Changes -/

/-- A save of the settings keeps the configuration fit to be saved. -/
lemma Held.settings {req : SettingsRequest} (held : Held cfg) (e : updateSystemSettings h cfg req = .ok cfg') :
    Held cfg' := by
  obtain ⟨_, e₁, e⟩ := bind_ok.mp e
  obtain ⟨tuning, mode, e₁⟩ := updateTuning_ok e₁
  obtain ⟨_, _, _, _, _, _, rfl⟩ := applyRuntimeTuning_ok e₁
  have tuned : validateConnectionTuning (req.connectionTuning.getD cfg.connectionTuning) = none := by
    cases given : req.connectionTuning with
    | none => exact held.valid.tuning
    | some t => exact Option.bind_eq_none_iff.mp tuning t given
  have moded : req.configurationMode.getD cfg.configurationMode = "" ∨
      req.configurationMode.getD cfg.configurationMode = configurationAutomatic ∨
      req.configurationMode.getD cfg.configurationMode = configurationManual := by
    cases given : req.configurationMode with
    | none => exact held.valid.configurationMode
    | some m => exact .inr (mode m given)
  dsimp only at e
  split at e
  · obtain ⟨node, _, _, taken, rfl⟩ := updateEdgeSettings_ok e
    have fit : node.frpAdvertiseAddr ≠ "" ∧ validateNodePorts node = none := by
      obtain ⟨_, rfl⟩ | ⟨_, _, _, passed⟩ := taken
      · exact ⟨held.advertised, held.valid.ports⟩
      · exact validateNodeRuntime_none passed
    exact ⟨held.valid.of_parts tuned moded rfl rfl held.valid.admin rfl rfl rfl rfl fit.2, held.configured, fit.1,
      held.statePath, held.listening, held.heartbeat, fun is => Bool.or_eq_true_iff.mpr (.inl (decide_eq_true is))⟩
  · obtain ⟨node, _, _, _, _, _, _, _, rfl, listening, heartbeat, fit⟩ :=
      updateControllerSettings_ok e
    have fit := fit held.advertised held.valid.ports
    exact ⟨held.valid.of_parts tuned moded rfl rfl held.valid.admin rfl rfl rfl rfl fit.2, held.configured, fit.1,
      held.statePath, listening held.listening, heartbeat held.heartbeat,
      fun is => Bool.or_eq_true_iff.mpr (.inl (decide_eq_true is))⟩

/-- A node with an address and ports in range may be put in place. -/
lemma Held.node {node : NodeRuntimeConfig} {addr : String} {port : Int} (held : Held cfg)
    (advertised : node.frpAdvertiseAddr ≠ "") (ports : validateNodePorts node = none) :
    Held { cfg with node, frpServerAddr := addr, frpServerPort := port } :=
  ⟨held.valid.of_parts held.valid.tuning held.valid.configurationMode rfl rfl held.valid.admin rfl rfl rfl rfl ports,
    held.configured, advertised, held.statePath, held.listening, held.heartbeat, held.automatic⟩

lemma Held.change {c : Change} (held : Held cfg) (e : c.apply h cfg = .ok cfg') : Held cfg' := by
  cases c.apply_ok e with
  | settings updated => exact held.settings updated
  | observedAddress given => exact held.node given held.valid.ports
  | runtimeSettings passed =>
    obtain ⟨advertised, ports⟩ := validateNodeRuntime_none passed
    exact held.node advertised ports
  | permissions =>
    exact ⟨held.valid.of_parts held.valid.tuning held.valid.configurationMode rfl rfl held.valid.admin rfl rfl
      rfl rfl held.valid.ports, held.configured, held.advertised, held.statePath, held.listening,
      held.heartbeat, held.automatic⟩
  | advancedSettings applied =>
    obtain ⟨mode, tuning, _, _, _, rfl⟩ := applyEdgeAdvancedSettings_ok applied
    exact ⟨held.valid.of_parts tuning (.inr mode) rfl rfl held.valid.admin rfl rfl rfl rfl held.valid.ports,
      held.configured, held.advertised, held.statePath, held.listening, held.heartbeat,
      fun is => Bool.or_eq_true_iff.mpr (.inl (decide_eq_true is))⟩
  | rotateAdmin rotated =>
    obtain ⟨_, username, hash, rfl⟩ := rotateLocalEdgeAdmin_ok rotated
    exact ⟨held.valid.of_parts held.valid.tuning held.valid.configurationMode rfl rfl ⟨username, hash⟩ rfl rfl rfl
      rfl held.valid.ports, held.configured, held.advertised, held.statePath, held.listening, held.heartbeat,
      held.automatic⟩

lemma Held.setRuntime (held : Held cfg) : Held (setRuntime cfg) :=
  ⟨held.valid.of_parts held.valid.tuning held.valid.configurationMode rfl rfl held.valid.admin rfl rfl rfl rfl
    held.valid.ports, held.configured, held.advertised, held.statePath, held.listening, held.heartbeat,
    held.automatic⟩

/-! ## A running server -/

/-- A request is handled; a write that fails changes nothing. -/
def step (h : Host) (cfg : ServerConfig) (request : Change × Bool) : Option ServerConfig :=
  match request.1.apply h cfg with
  | .ok changed => if request.2 then some cfg else some (setRuntime changed)
  | .error _ => some cfg

/-- A server that has loaded its file, without variables in the environment. -/
def machine (h : Host) (codec : FileCodec Bytes) (path : String) : Machine ServerConfig (Change × Bool) where
  Init cfg := cfg.configState = .configured ∧
    ∃ bytes, cfg = load h.toPlatform codec noEnvironment path (.data bytes)
  step := step h

/-- The configuration `cfg'` is configured and identifies the same server. -/
structure Restores (cfg' cfg : ServerConfig) : Prop where
  configured : cfg'.configState = .configured
  mode : cfg'.mode = cfg.mode
  admin : cfg'.initialAdmin = cfg.initialAdmin
  database : cfg'.mysqlDsn = cfg.mysqlDsn
  /-- the enrollment, its certificates and what the controller may do -/
  edge : cfg'.edge = cfg.edge
  /-- the certificates of the controller and its addresses -/
  controller : cfg'.controller = cfg.controller
  node : cfg'.node = cfg.node

lemma load_normal {bytes : Bytes}
    (configured : (load go codec noEnvironment path (.data bytes)).configState = .configured) :
    Normal path (load go codec noEnvironment path (.data bytes)) := by
  obtain ⟨_, valid, loaded⟩ := load_configured configured
  rw [loaded]
  exact merge_normal valid

lemma held_of_reachable (reach : (machine h codec path).Reachable cfg) : Held cfg := by
  refine reach.inv (I := Held) ?_ fun cfg request cfg' held st => ?_
  · rintro _ ⟨configured, _, rfl⟩
    exact (load_normal configured).toHeld
  · simp only [machine, step] at st
    split at st
    · rename_i changed e
      split at st
      · cases st
        exact held
      · cases st
        exact (held.change e).setRuntime
    · cases st
      exact held

/-- The configuration of a running server can be saved and loaded: it is configured again, as the same
server. What a load gives is not changed by a save and another load. -/
theorem saved_configuration_loads (reach : (machine h codec path).Reachable cfg) :
    (∀ now secret, Restores
      (load h.toPlatform codec noEnvironment path (.data (save h.toPlatform codec now secret cfg))) cfg) ∧
    ∀ bytes now secret, (load h.toPlatform codec noEnvironment path (.data bytes)).configState = .configured →
      load h.toPlatform codec noEnvironment path (.data (save h.toPlatform codec now secret
        (load h.toPlatform codec noEnvironment path (.data bytes)))) =
      load h.toPlatform codec noEnvironment path (.data bytes) := by
  refine ⟨fun now secret => ?_, fun bytes now secret configured => load_save_normal (load_normal configured)⟩
  have held := held_of_reachable reach
  rw [load_save held]
  refine ⟨rfl, merge_mode held, ?_, ?_, merge_edge held, merge_controller held, merge_node held⟩
  · rw [merge_eq]
    rfl
  · rw [merge_eq]
    rfl

/-- Durations are written as texts of a length that tells them. -/
def samplePlatform : Platform where
  parseDuration text := if text.length = 0 then none else Encodable.decode (text.length - 1)
  formatDuration d := String.ofList (List.replicate (Encodable.encode d + 1) 's')
  parse_format d := by
    rw [String.length_ofList, List.length_replicate, if_neg (Nat.succ_ne_zero _)]
    exact Encodable.encodek d
  parse_empty := rfl
  atoi _ := none
  parseBool _ := none

/-- A host with one local address. -/
def sampleHost : Host where
  toPlatform := samplePlatform
  isIp address := address = "127.0.0.1" || address = "0.0.0.0"
  isLoopback address := address = "127.0.0.1"
  isUnspecified _ := false
  parseUrl _ := none
  controllerPki _ := .error ""
  prepareFrpIdentity _ := none
  hashPassword password := .ok ("hash of " ++ password)
  hash_ne_empty := by
    intro password hash e empty
    cases e
    have length := congrArg String.length empty
    simp at length

/-- The file is its content. -/
def sampleFileCodec : FileCodec FileConfig := ⟨id, .ok, fun _ => rfl⟩

/-- An edge that advertises a local address. -/
def sampleEdge : ServerConfig :=
  { defaults samplePlatform noEnvironment with
    configPath := "server.json"
    mode := modeEdge
    configState := .configured
    initialized := true
    initialAdmin := { username := "admin", passwordHash := "hash" }
    frpServerAddr := "127.0.0.1"
    frpServerPort := 7000
    edge := {
      nodeId := "node"
      controllerAddr := "center:9443"
      statePath := "data/edge-state.db"
      tls := { caFile := "ca.pem", certFile := "cert.pem", keyFile := "key.pem" }
      controllerAdministrationEnabled := true }
    node := {
      tag := "edge"
      frpAdvertiseAddr := "127.0.0.1"
      frpBindPort := 7000
      portRangeStart := 1024
      portRangeEnd := 65535
      selectable := true } }

lemma sampleEdge_normal : Normal "server.json" sampleEdge where
  valid := validate_eq_none.mp (by decide)
  configured := rfl
  advertised := by decide
  statePath := by decide
  listening := by decide
  heartbeat := by decide
  automatic _ := rfl
  path := rfl
  version := by decide
  configurationMode := by decide
  noError := rfl
  httpAddr := rfl
  secret := by decide
  bound := by decide
  proxyBound := by decide
  comment := by decide
  tls := rfl
  serverAddr := rfl
  serverPort := rfl

/-- The edge takes over an address that was observed, and then new credentials. -/
theorem saved_configuration_loads_edge : ∃ cfg,
    (machine sampleHost sampleFileCodec "server.json").Reachable cfg ∧
    cfg.node.frpAdvertiseAddr = "203.0.113.7" ∧ cfg.initialAdmin.username = "root" ∧
    ∀ now secret, Restores (load samplePlatform sampleFileCodec noEnvironment "server.json"
      (.data (save samplePlatform sampleFileCodec now secret cfg))) cfg := by
  let acts : List (Change × Bool) :=
    [(.observedAddress "203.0.113.7", false), (.rotateAdmin false (some ⟨"root", "", "a password"⟩), false)]
  obtain ⟨cfg, run, address, username⟩ : ∃ cfg,
      (machine sampleHost sampleFileCodec "server.json").run sampleEdge acts = some cfg ∧
      cfg.node.frpAdvertiseAddr = "203.0.113.7" ∧ cfg.initialAdmin.username = "root" := by
    refine ⟨_, rfl, ?_, ?_⟩
    · decide
    · decide
  have loaded : sampleEdge = load samplePlatform sampleFileCodec noEnvironment "server.json"
      (.data (save samplePlatform sampleFileCodec 0 "" sampleEdge)) := (load_save_normal sampleEdge_normal).symm
  have reach : (machine sampleHost sampleFileCodec "server.json").Reachable cfg :=
    ⟨sampleEdge, acts, ⟨rfl, _, loaded⟩, run⟩
  exact ⟨cfg, reach, address, username, (saved_configuration_loads reach).1⟩

end MeowFrp.Config
