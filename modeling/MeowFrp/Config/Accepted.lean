import MeowFrp.Config.Changes
import MeowFrp.Lib.Fallible

/-!
# Accepted changes

What is known of a change that was accepted: each function of `Changes` comes with one lemma that says what
its result is and which checks have passed. The proofs about the configuration use these lemmas only.
-/

namespace MeowFrp.Config

open Lib

lemma refuse_ok {o : Option String} {u : Unit} : refuse o = .ok u ↔ o = none := by
  cases o with
  | none => exact ⟨fun _ => rfl, fun _ => rfl⟩
  | some => exact ⟨nofun, nofun⟩

/-- A check stands before the rest. -/
lemma refuse_bind_ok {β : Type} {o : Option String} {f : Unit → Except String β} {b : β} :
    (refuse o >>= f) = .ok b ↔ o = none ∧ f () = .ok b := by
  rw [bind_ok]
  constructor
  · rintro ⟨⟨⟩, passed, e⟩
    exact ⟨refuse_ok.mp passed, e⟩
  · rintro ⟨passed, e⟩
    exact ⟨(), refuse_ok.mpr passed, e⟩

variable {h : Host} {cfg cfg' : ServerConfig}

variable {node : NodeRuntimeConfig} {req : SettingsRequest}

lemma setNode_ok (e : setNode h cfg node = .ok cfg') :
    validateNodeRuntime h (normalizeNodeRuntime node) = none ∧
      cfg' = syncLegacyFrpFields { cfg with node := normalizeNodeRuntime node } := by
  obtain ⟨passed, e⟩ := refuse_bind_ok.mp e
  exact ⟨passed, (pure_ok.mp e).symm⟩

/-- Settings of a node that pass have an address, and ports in range. -/
lemma validateNodeRuntime_none (passed : validateNodeRuntime h node = none) :
    node.frpAdvertiseAddr ≠ "" ∧ validateNodePorts node = none := by
  unfold validateNodeRuntime at passed
  simp only [orElse_eq_none, check_eq_none] at passed
  obtain ⟨_, address, _, ports, _⟩ := passed
  exact ⟨of_decide_eq_false address, ports⟩

/-- Timeouts, addresses and comment are tuned, nothing else. -/
lemma applyRuntimeTuning_ok (e : applyRuntimeTuning h cfg req = .ok cfg') :
    ∃ session runtime udp,
      (req.sessionTtl = "" → session = cfg.sessionTtl) ∧
      (req.runtimeTokenTtl = "" → runtime = cfg.runtimeTokenTtl) ∧
      (req.udpConnectionTtl = "" → udp = cfg.udpConnectionTtl) ∧
      cfg' = { cfg with
        sessionTtl := session
        runtimeTokenTtl := runtime
        udpConnectionTtl := udp
        frpBindAddr := tuneText req.frpBindAddr cfg.frpBindAddr
        frpProxyBindAddr := tuneText req.frpProxyBindAddr cfg.frpProxyBindAddr
        clientConfigComment := tuneText req.clientConfigComment cfg.clientConfigComment } := by
  have kept : ∀ {name value : String} {current d : Duration}, tuneDuration h name value current = .ok d →
      value = "" → d = current := by
    intro name value current d e empty
    rw [tuneDuration, if_pos empty] at e
    cases e
    rfl
  obtain ⟨session, e₁, e⟩ := bind_ok.mp e
  obtain ⟨runtime, e₂, e⟩ := bind_ok.mp e
  obtain ⟨udp, e₃, e⟩ := bind_ok.mp e
  exact ⟨session, runtime, udp, kept e₁, kept e₂, kept e₃, (pure_ok.mp e).symm⟩

/-- The recommended settings are taken over. -/
lemma prepareAdvancedSettings_ok (e : prepareAdvancedSettings h cfg = .ok cfg') :
    cfg' = { cfg with
      frpTransportTls := true
      embeddedFrpEnabled := cfg.configurationMode = configurationAutomatic || cfg.embeddedFrpEnabled } := by
  obtain ⟨_, e⟩ := refuse_bind_ok.mp e
  obtain ⟨_, e⟩ := refuse_bind_ok.mp e
  rw [← pure_ok.mp e]
  by_cases automatic : cfg.configurationMode = configurationAutomatic
  · rw [if_pos automatic, decide_eq_true automatic]
    rfl
  · rw [if_neg automatic, decide_eq_false automatic, Bool.false_or]

lemma checkConfigurationMode_none {mode : String} (passed : checkConfigurationMode mode = none) :
    mode = configurationAutomatic ∨ mode = configurationManual := by
  rw [checkConfigurationMode, check_eq_none] at passed
  by_contra no
  obtain ⟨automatic, manual⟩ := not_or.mp no
  simp [automatic, manual] at passed

/-- The tuning of a request that passes is valid. -/
lemma updateTuning_ok (e : updateTuning h cfg req = .ok cfg') :
    req.connectionTuning.bind validateConnectionTuning = none ∧
    (∀ mode, req.configurationMode = some mode → mode = configurationAutomatic ∨ mode = configurationManual) ∧
    applyRuntimeTuning h
      { cfg with
        connectionTuning := req.connectionTuning.getD cfg.connectionTuning
        configurationMode := req.configurationMode.getD cfg.configurationMode } req = .ok cfg' := by
  obtain ⟨_, e⟩ := refuse_bind_ok.mp e
  obtain ⟨tuning, e⟩ := refuse_bind_ok.mp e
  obtain ⟨mode, e⟩ := refuse_bind_ok.mp e
  refine ⟨tuning, fun m is => checkConfigurationMode_none ?_, e⟩
  exact Option.bind_eq_none_iff.mp mode m is

/-- The settings of the node: those it had, or checked ones. -/
def NodeTaken (h : Host) (cfg : ServerConfig) (req : Option NodeRuntimeConfig) (node : NodeRuntimeConfig) : Prop :=
  (req = none ∧ node = cfg.node) ∨
    (∃ n, req = some n ∧ node = normalizeNodeRuntime n ∧ validateNodeRuntime h node = none)

/-- A save on an edge. -/
lemma updateEdgeSettings_ok (e : updateEdgeSettings h cfg req = .ok cfg') :
    ∃ node addr port, NodeTaken h cfg req.node node ∧
      cfg' = { cfg with
        embeddedFrpEnabled := cfg.configurationMode = configurationAutomatic ||
          req.embeddedFrpEnabled.getD cfg.embeddedFrpEnabled
        frpTransportTls := true
        edge := { cfg.edge with
          reporting := req.reporting.getD cfg.edge.reporting
          remoteCommands := req.remoteCommands.getD cfg.edge.remoteCommands
          controllerAdministrationEnabled :=
            req.controllerAdministrationEnabled.getD cfg.edge.controllerAdministrationEnabled }
        node := { node with selectable := req.nodeSelectable.getD node.selectable }
        frpServerAddr := addr
        frpServerPort := port } := by
  obtain ⟨_, e₁, e⟩ := bind_ok.mp e
  obtain ⟨_, e₂, e⟩ := bind_ok.mp e
  obtain ⟨_, e⟩ := refuse_bind_ok.mp e
  cases pure_ok.mp e
  cases prepareAdvancedSettings_ok e₂
  cases given : req.node with
  | none =>
    rw [given] at e₁
    cases e₁
    exact ⟨cfg.node, cfg.frpServerAddr, cfg.frpServerPort, .inl ⟨rfl, rfl⟩, rfl⟩
  | some n =>
    rw [given] at e₁
    obtain ⟨passed, rfl⟩ := setNode_ok e₁
    exact ⟨_, _, _, .inr ⟨n, rfl, rfl, passed⟩, rfl⟩

/-- The same with what both modes share. -/
lemma updateSystemSettings_edge_ok (edge : cfg.mode = modeEdge)
    (e : updateSystemSettings h cfg req = .ok cfg') :
    ∃ session runtime udp node addr port,
      (req.sessionTtl = "" → session = cfg.sessionTtl) ∧
      (req.runtimeTokenTtl = "" → runtime = cfg.runtimeTokenTtl) ∧
      (req.udpConnectionTtl = "" → udp = cfg.udpConnectionTtl) ∧
      NodeTaken h cfg req.node node ∧
      cfg' = { cfg with
        connectionTuning := req.connectionTuning.getD cfg.connectionTuning
        configurationMode := req.configurationMode.getD cfg.configurationMode
        sessionTtl := session
        runtimeTokenTtl := runtime
        udpConnectionTtl := udp
        frpBindAddr := tuneText req.frpBindAddr cfg.frpBindAddr
        frpProxyBindAddr := tuneText req.frpProxyBindAddr cfg.frpProxyBindAddr
        clientConfigComment := tuneText req.clientConfigComment cfg.clientConfigComment
        embeddedFrpEnabled :=
          req.configurationMode.getD cfg.configurationMode = configurationAutomatic ||
            req.embeddedFrpEnabled.getD cfg.embeddedFrpEnabled
        frpTransportTls := true
        edge := { cfg.edge with
          reporting := req.reporting.getD cfg.edge.reporting
          remoteCommands := req.remoteCommands.getD cfg.edge.remoteCommands
          controllerAdministrationEnabled :=
            req.controllerAdministrationEnabled.getD cfg.edge.controllerAdministrationEnabled }
        node := { node with selectable := req.nodeSelectable.getD node.selectable }
        frpServerAddr := addr
        frpServerPort := port } := by
  obtain ⟨_, e₁, e⟩ := bind_ok.mp e
  obtain ⟨_, _, e₁⟩ := updateTuning_ok e₁
  obtain ⟨session, runtime, udp, sessionKept, runtimeKept, udpKept, rfl⟩ := applyRuntimeTuning_ok e₁
  rw [if_pos edge] at e
  obtain ⟨node, addr, port, taken, rfl⟩ := updateEdgeSettings_ok e
  exact ⟨session, runtime, udp, node, addr, port, sessionKept, runtimeKept, udpKept, taken, rfl⟩

/-- The advanced settings of a command. -/
lemma applyEdgeAdvancedSettings_ok {req : EdgeAdvancedSettings}
    (e : applyEdgeAdvancedSettings h cfg req = .ok cfg') :
    (req.configurationMode = configurationAutomatic ∨ req.configurationMode = configurationManual) ∧
    validateConnectionTuning req.connectionTuning = none ∧
    ∃ session runtime udp, cfg' = { cfg with
      configurationMode := req.configurationMode
      connectionTuning := req.connectionTuning
      embeddedFrpEnabled := req.configurationMode = configurationAutomatic || req.embeddedFrpEnabled
      frpTransportTls := true
      sessionTtl := session
      runtimeTokenTtl := runtime
      udpConnectionTtl := udp
      frpBindAddr := tuneText req.frpBindAddr cfg.frpBindAddr
      frpProxyBindAddr := tuneText req.frpProxyBindAddr cfg.frpProxyBindAddr
      clientConfigComment := trimSpace req.clientComment } := by
  obtain ⟨_, e⟩ := refuse_bind_ok.mp e
  obtain ⟨mode, e⟩ := refuse_bind_ok.mp e
  obtain ⟨_, e⟩ := refuse_bind_ok.mp e
  obtain ⟨tuning, e⟩ := refuse_bind_ok.mp e
  obtain ⟨_, e⟩ := refuse_bind_ok.mp e
  obtain ⟨_, e₁, e⟩ := bind_ok.mp e
  obtain ⟨session, runtime, udp, _, _, _, rfl⟩ := applyRuntimeTuning_ok e₁
  exact ⟨checkConfigurationMode_none mode, tuning, session, runtime, udp, prepareAdvancedSettings_ok e⟩

/-- The new administrator has a name and a password. -/
lemma rotateLocalEdgeAdmin_ok {expired : Bool} {payload : Option AdminCredentials}
    (e : rotateLocalEdgeAdmin h cfg expired payload = .ok cfg') :
    ∃ admin : InitialAdminConfig, admin.username ≠ "" ∧ admin.passwordHash ≠ "" ∧
      cfg' = { cfg with initialAdmin := admin } := by
  obtain ⟨_, e⟩ := refuse_bind_ok.mp e
  obtain ⟨_, e⟩ := refuse_bind_ok.mp e
  cases payload with
  | none => cases e
  | some p =>
    obtain ⟨passed, e⟩ := refuse_bind_ok.mp e
    cases hashed : h.hashPassword p.password with
    | error =>
      simp only [hashed] at e
      cases e
    | ok =>
      simp only [hashed] at e
      refine ⟨_, ?_, ?_, (pure_ok.mp e).symm⟩
      · simp only [check_eq_none, Bool.or_eq_false_iff, decide_eq_false_iff_not] at passed
        exact passed.1.1.1
      · exact h.hash_ne_empty hashed

/-- An address that was observed takes the place of a local one. -/
lemma handleObservedAddress_some {address : String} (e : handleObservedAddress h cfg address = some cfg') :
    trimSpace address ≠ "" ∧
      cfg' = syncLegacyFrpFields { cfg with node := { cfg.node with frpAdvertiseAddr := trimSpace address } } := by
  unfold handleObservedAddress at e
  dsimp only at e
  split at e
  · cases e
  · rename_i given
    split at e
    · cases e
    · cases e
      exact ⟨given, rfl⟩

/-- The controller keeps an address to listen on and an interval. -/
lemma takeController_ok {c c' : ControllerConfig} {req : Option ControllerRequest}
    (e : takeController c req = .ok c') :
    (c.listenAddr ≠ "" → c'.listenAddr ≠ "") ∧
      (0 < c.heartbeatIntervalSeconds → 0 < c'.heartbeatIntervalSeconds) := by
  cases req with
  | none =>
    cases e
    exact ⟨id, id⟩
  | some =>
    obtain ⟨passed, e⟩ := refuse_bind_ok.mp e
    cases pure_ok.mp e
    refine ⟨given_ne_empty, fun pos => ?_⟩
    dsimp only
    split
    · rename_i given
      simp only [check_eq_none, given, ne_eq, not_false_eq_true, decide_true, Bool.true_and,
        Bool.or_eq_false_iff, decide_eq_false_iff_not] at passed
      omega
    · exact pos

/-- The material of the controller is put into the file. -/
lemma ensureControllerPki_ok (e : ensureControllerPki h cfg = .ok cfg') :
    ∃ tls caKeyFile, cfg' = { cfg with controller := { cfg.controller with tls, caKeyFile } } := by
  unfold ensureControllerPki at e
  split at e
  · cases e
    exact ⟨_, _, rfl⟩
  · split at e
    · cases e
    · split at e
      · cases e
        exact ⟨_, _, rfl⟩
      · cases e

/-- The settings of the node are the old or checked ones, or have another address. -/
lemma updateControllerNode_ok (e : updateControllerNode h cfg req = .ok cfg') :
    ∃ node addr port, cfg' = { cfg with node, frpServerAddr := addr, frpServerPort := port } ∧
      (node = cfg.node ∨ validateNodeRuntime h node = none ∨
        (addr = node.frpAdvertiseAddr ∧ port = node.frpBindPort ∧
          node.portRangeStart = cfg.node.portRangeStart ∧ node.portRangeEnd = cfg.node.portRangeEnd)) := by
  unfold updateControllerNode at e
  split at e
  · obtain ⟨passed, rfl⟩ := setNode_ok e
    exact ⟨_, _, _, rfl, .inr (.inl passed)⟩
  · split at e
    · cases e
      exact ⟨_, _, _, rfl, .inr (.inr ⟨rfl, rfl, rfl, rfl⟩)⟩
    · cases e
      exact ⟨_, _, _, rfl, .inl rfl⟩

/-- The ports of a node are in range, whoever may select it. -/
lemma validateNodePorts_none : validateNodePorts node = none ↔
    (0 < node.frpBindPort ∧ node.frpBindPort ≤ 65535) ∧
      1 ≤ node.portRangeStart ∧ node.portRangeEnd ≤ 65535 ∧ node.portRangeStart ≤ node.portRangeEnd := by
  unfold validateNodePorts
  simp only [orElse_eq_none, check_eq_none, Bool.or_eq_false_iff, decide_eq_false_iff_not]
  omega

/-- A save on the controller. -/
lemma updateControllerSettings_ok
    (e : updateControllerSettings h cfg req = .ok cfg') :
    ∃ node controller embedded bind proxy comment addr port,
      cfg' = { cfg with
        node := { node with selectable := req.nodeSelectable.getD node.selectable }
        controller
        embeddedFrpEnabled := cfg.configurationMode = configurationAutomatic || embedded
        frpBindAddr := bind
        frpProxyBindAddr := proxy
        frpTransportTls := true
        clientConfigComment := comment
        frpServerAddr := addr
        frpServerPort := port } ∧
      (cfg.controller.listenAddr ≠ "" → controller.listenAddr ≠ "") ∧
      (0 < cfg.controller.heartbeatIntervalSeconds → 0 < controller.heartbeatIntervalSeconds) ∧
      (cfg.node.frpAdvertiseAddr ≠ "" → validateNodePorts cfg.node = none →
        node.frpAdvertiseAddr ≠ "" ∧ validateNodePorts node = none) := by
  obtain ⟨_, e₁, e⟩ := bind_ok.mp e
  obtain ⟨node, _, _, rfl, taken⟩ := updateControllerNode_ok e₁
  obtain ⟨address, e⟩ := refuse_bind_ok.mp e
  obtain ⟨range, e⟩ := refuse_bind_ok.mp e
  obtain ⟨_, e₂, e⟩ := bind_ok.mp e
  obtain ⟨_, e₃, e⟩ := bind_ok.mp e
  cases prepareAdvancedSettings_ok e₃
  obtain ⟨_, e₄, e⟩ := bind_ok.mp e
  obtain ⟨_, _, rfl⟩ := ensureControllerPki_ok e₄
  obtain ⟨_, e⟩ := refuse_bind_ok.mp e
  obtain ⟨listen, heartbeat⟩ := takeController_ok e₂
  refine ⟨node, _, _, _, _, _, _, _, (pure_ok.mp e).symm, listen, heartbeat, fun old valid => ?_⟩
  obtain rfl | passed | ⟨rfl, rfl, first, last⟩ := taken
  · exact ⟨old, valid⟩
  · exact validateNodeRuntime_none passed
  · simp only [check_eq_none, Bool.or_eq_false_iff, decide_eq_false_iff_not] at address range
    refine ⟨address, validateNodePorts_none.mpr ?_⟩
    rw [first, last]
    exact ⟨by omega, (validateNodePorts_none.mp valid).2⟩

/-- The changes that are accepted, and their results. -/
inductive Accepted (h : Host) (cfg : ServerConfig) : Change → ServerConfig → Prop where
  | settings {req : SettingsRequest} {cfg' : ServerConfig} (updated : updateSystemSettings h cfg req = .ok cfg') :
    Accepted h cfg (.settings req) cfg'
  | runtimeSettings {node : NodeRuntimeConfig}
    (passed : validateNodeRuntime h (normalizeNodeRuntime node) = none) :
    Accepted h cfg (.runtimeSettings (some node))
      (syncLegacyFrpFields { cfg with node := normalizeNodeRuntime node })
  | permissions {reporting : EdgeReportingConfig} {remoteCommands : EdgeRemoteCommandsConfig} :
    Accepted h cfg (.permissions (some (reporting, remoteCommands)))
      { cfg with edge := { cfg.edge with reporting, remoteCommands } }
  | advancedSettings {req : EdgeAdvancedSettings} {cfg' : ServerConfig}
    (applied : applyEdgeAdvancedSettings h cfg req = .ok cfg') : Accepted h cfg (.advancedSettings (some req)) cfg'
  | rotateAdmin {expired : Bool} {payload : Option AdminCredentials} {cfg' : ServerConfig}
    (rotated : rotateLocalEdgeAdmin h cfg expired payload = .ok cfg') :
    Accepted h cfg (.rotateAdmin expired payload) cfg'
  | observedAddress {address : String} (given : trimSpace address ≠ "") :
    Accepted h cfg (.observedAddress address)
      (syncLegacyFrpFields { cfg with node := { cfg.node with frpAdvertiseAddr := trimSpace address } })

/-- A command is accepted on an edge only. -/
lemma edgeCommand_ok {c : Change} (e : edgeCommand h cfg c = .ok cfg') : Accepted h cfg c cfg' := by
  cases c with
  | settings | observedAddress => cases e
  | rotateAdmin => exact .rotateAdmin e
  | permissions payload =>
    obtain ⟨_, e⟩ := refuse_bind_ok.mp e
    cases payload with
    | none => cases e
    | some =>
      cases pure_ok.mp e
      exact .permissions
  | runtimeSettings payload =>
    obtain ⟨_, e⟩ := refuse_bind_ok.mp e
    cases payload with
    | none => cases e
    | some =>
      obtain ⟨passed, rfl⟩ := setNode_ok e
      exact .runtimeSettings passed
  | advancedSettings payload =>
    obtain ⟨_, e⟩ := refuse_bind_ok.mp e
    cases payload with
    | none => cases e
    | some =>
      obtain ⟨_, applied, e⟩ := bind_ok.mp e
      obtain ⟨_, e⟩ := refuse_bind_ok.mp e
      cases pure_ok.mp e
      exact .advancedSettings applied

lemma Change.apply_ok {c : Change} (e : c.apply h cfg = .ok cfg') : Accepted h cfg c cfg' := by
  have command : (if cfg.mode = modeEdge then edgeCommand h cfg c else .error "edge state unavailable") = .ok cfg' →
      Accepted h cfg c cfg' := by
    intro e
    split at e
    · exact edgeCommand_ok e
    · cases e
  cases c with
  | settings => exact .settings e
  | observedAddress =>
    simp only [Change.apply] at e
    split at e
    · rename_i observed
      cases e
      obtain ⟨given, rfl⟩ := handleObservedAddress_some observed
      exact .observedAddress given
    · cases e
  | runtimeSettings | permissions | advancedSettings | rotateAdmin => exact command e

end MeowFrp.Config
