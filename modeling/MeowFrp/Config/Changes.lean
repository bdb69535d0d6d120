import MeowFrp.Config.Basic

/-!
# The writers of the configuration

Every writer copies the configuration in memory, changes its part of the copy, writes the copy to the file
and puts it in place of the one in memory. This file models the second step of each of them: what it makes
of the copy, or why it refuses (Go `updateSystemSettings`, the three configuration commands and the
rotation of the credentials in `HandleEdgeCommand`, and `HandleObservedAddress`).

Parsing of IP addresses and URLs, hashing, the PKI of the controller and the FRP identity are parameters
(`Host`).
-/

namespace MeowFrp.Config

/-- The parts of a parsed URL that are checked. -/
structure Url where
  scheme : String
  host : String
  hostname : String
  hasUser : Bool
  rawQuery : String
  fragment : String

/-- The certificates and keys of the controller, in base64. -/
structure PkiMaterial where
  caCertificate : String
  caPrivateKey : String
  certificate : String
  privateKey : String

/-- What the writers depend on besides their requests. -/
structure Host extends Platform where
  /-- Go `net.ParseIP` finds an address -/
  isIp : String → Bool
  isLoopback : String → Bool
  isUnspecified : String → Bool
  parseUrl : String → Option Url
  /-- what Go `ensureControllerPKI` loads, generates or reissues -/
  controllerPki : ServerConfig → Except String PkiMaterial
  /-- the error of Go `prepareFRPIdentity` -/
  prepareFrpIdentity : ServerConfig → Option String
  hashPassword : String → Except String String
  hash_ne_empty : ∀ {password hash}, hashPassword password = .ok hash → hash ≠ ""

/-- Go `strings.Trim`. -/
def trim (cut : Char → Bool) (s : String) : String :=
  String.ofList ((s.toList.dropWhile cut).reverse.dropWhile cut).reverse

/-- Go `strings.TrimRight` for the slash. -/
def trimSlashes (s : String) : String := String.ofList (s.toList.reverse.dropWhile (· = '/')).reverse

/-- Go `strings.TrimSuffix` for one character. -/
def cutEnd (s : String) (last : Char) : String :=
  if s.toList.getLast? = some last then String.ofList s.toList.dropLast else s

/-- Simple case folding, to be compared with ASCII texts. -/
def foldRune (c : Char) : Char :=
  if c.toNat = 0x17F then 's' else if c.toNat = 0x212A then 'k' else c.toLower

/-- Go `strings.EqualFold` with a text in lower case. -/
def equalFold (s lower : String) : Bool := s.toList.map foldRune = lower.toList

/-- Go `NormalizeControllerAddress`. -/
def normalizeControllerAddress (value : String) : String :=
  cutEnd (cutStart (cutStart (trimSpace value) "https://") "http://") '/'

section

variable (h : Host)

/-- Go `isLoopbackAPIHost`. -/
def isLoopbackApiHost (host : String) : Bool :=
  equalFold (trimSpace host) "localhost" || h.isLoopback (trimSpace host)

/-- Go `isLocalAdvertiseAddress`. -/
def isLocalAdvertiseAddress (value : String) : Bool :=
  let value := trimSpace (trim (fun c => c = '[' || c = ']') value)
  value = "" || equalFold value "localhost" || value = "0.0.0.0" || value = "::" ||
    h.isLoopback value || h.isUnspecified value

/-- A part of a host name between dots that is not allowed. -/
def badLabel (label : List Char) : Bool :=
  label = [] || 63 < label.length || label.head? = some '-' || label.getLast? = some '-' ||
    label.any fun c => !(('a' ≤ c && c ≤ 'z') || ('A' ≤ c && c ≤ 'Z') || ('0' ≤ c && c ≤ '9') || c = '-')

/-- Go `validateFRPAdvertiseAddress`. -/
def validateFrpAdvertiseAddress (value : String) : Option String :=
  if h.isIp (trim (fun c => c = '[' || c = ']') value) then none
  else
    check (value = "" || 253 < value.utf8ByteSize ||
        value.toList.any fun c => ":/\\?#@[] \t\r\n".toList.contains c)
      "FRP address must be an IP address or hostname without a scheme, port or path" <|>
    check (((cutEnd value '.').toList.splitOn '.').any badLabel) "invalid FRP hostname"

/-- Go `validatePublicAPIURL`. -/
def validatePublicApiUrl (value : String) : Option String :=
  match h.parseUrl value with
  | none => some "public_api_url must be an absolute HTTP(S) URL"
  | some u =>
    check ((u.scheme ≠ "http" && u.scheme ≠ "https") || u.host = "")
      "public_api_url must be an absolute HTTP(S) URL" <|>
    check (u.hasUser || u.rawQuery ≠ "" || u.fragment ≠ "")
      "public_api_url must not contain credentials, a query, or a fragment" <|>
    check (u.scheme = "http" && !isLoopbackApiHost h u.hostname)
      "public_api_url must use HTTPS for non-loopback hosts"

/-- Go `normalizeNodeRuntime`. -/
def normalizeNodeRuntime (node : NodeRuntimeConfig) : NodeRuntimeConfig :=
  { node with
    tag := trimSpace node.tag
    publicApiUrl := trimSlashes (trimSpace node.publicApiUrl)
    frpAdvertiseAddr := trimSpace node.frpAdvertiseAddr }

/-- Go `validateNodeRuntime`. -/
def validateNodeRuntime (node : NodeRuntimeConfig) : Option String :=
  check (node.tag = "") "node tag is required" <|>
  check (node.frpAdvertiseAddr = "") "frp advertise address is required" <|>
  validateFrpAdvertiseAddress h node.frpAdvertiseAddr <|>
  validateNodePorts node <|>
  validatePublicApiUrl h node.publicApiUrl

/-- Go `syncLegacyFRPFields`. -/
def syncLegacyFrpFields (cfg : ServerConfig) : ServerConfig :=
  { cfg with frpServerAddr := cfg.node.frpAdvertiseAddr, frpServerPort := cfg.node.frpBindPort }

/-- An error stops a writer. -/
def refuse : Option String → Except String Unit
  | some error => .error error
  | none => .ok ()

/-- The settings of a node are checked and put in place. -/
def setNode (cfg : ServerConfig) (node : NodeRuntimeConfig) : Except String ServerConfig := do
  let node := normalizeNodeRuntime node
  refuse (validateNodeRuntime h node)
  return syncLegacyFrpFields { cfg with node }

/-- Settings of the node that a request may have. -/
def takeNode (cfg : ServerConfig) : Option NodeRuntimeConfig → Except String ServerConfig
  | some node => setNode h cfg node
  | none => .ok cfg

/-- Go `updateControllerSettingsRequest`. -/
structure ControllerRequest where
  edgeAccessEnabled : Bool
  listenAddr : String
  publicAddress : String
  heartbeatIntervalSeconds : Int

/-- Go `updateSystemSettingsRequest`. -/
structure SettingsRequest where
  connectionTuning : Option ConnectionTuning := none
  configurationMode : Option String := none
  nodeSelectable : Option Bool := none
  embeddedFrpEnabled : Option Bool := none
  frpBindAddr : String := ""
  frpProxyBindAddr : String := ""
  frpServerAddr : String := ""
  frpServerPort : Int := 0
  frpTransportTls : Option Bool := none
  clientConfigComment : String := ""
  sessionTtl : String := ""
  runtimeTokenTtl : String := ""
  udpConnectionTtl : String := ""
  controller : Option ControllerRequest := none
  node : Option NodeRuntimeConfig := none
  reporting : Option EdgeReportingConfig := none
  remoteCommands : Option EdgeRemoteCommandsConfig := none
  controllerAdministrationEnabled : Option Bool := none

/-- A timeout of a request, of which an empty one is left as it is. -/
def tuneDuration (name value : String) (current : Duration) : Except String Duration :=
  if value = "" then .ok current
  else
    match h.parseDuration (trimSpace value) with
    | some d => if d ≤ 0 then .error (name ++ " must be a positive duration") else .ok d
    | none => .error (name ++ " must be a positive duration")

/-- A text of a request, of which an empty one is left as it is. -/
def tuneText (value current : String) : String := if value ≠ "" then trimSpace value else current

/-- Go `applyRuntimeTuning`. -/
def applyRuntimeTuning (cfg : ServerConfig) (req : SettingsRequest) : Except String ServerConfig := do
  let sessionTtl ← tuneDuration h "session_ttl" req.sessionTtl cfg.sessionTtl
  let runtimeTokenTtl ← tuneDuration h "runtime_token_ttl" req.runtimeTokenTtl cfg.runtimeTokenTtl
  let udpConnectionTtl ← tuneDuration h "udp_connection_ttl" req.udpConnectionTtl cfg.udpConnectionTtl
  return { cfg with
    sessionTtl
    runtimeTokenTtl
    udpConnectionTtl
    frpBindAddr := tuneText req.frpBindAddr cfg.frpBindAddr
    frpProxyBindAddr := tuneText req.frpProxyBindAddr cfg.frpProxyBindAddr
    clientConfigComment := tuneText req.clientConfigComment cfg.clientConfigComment }

/-- The address of the mTLS listener is not an address and a port. -/
def badListenAddr (listenAddr : String) : Bool :=
  match splitHostPort listenAddr with
  | none => true
  | some (host, portText) =>
    match h.atoi portText with
    | none => true
    | some port => port < 1 || 65535 < port || (host ≠ "" && host ≠ "localhost" && !h.isIp host)

/-- Go `prepareAdvancedSettings`. -/
def prepareAdvancedSettings (cfg : ServerConfig) : Except String ServerConfig := do
  let cfg := { cfg with frpTransportTls := true }
  let cfg := if cfg.configurationMode = configurationAutomatic then applyRecommended cfg else cfg
  refuse (check
    ([cfg.frpBindAddr, cfg.frpProxyBindAddr].any fun a => a ≠ "" && a ≠ "localhost" && !h.isIp a)
    "FRP bind address must be an IP address or localhost")
  refuse (check
    (cfg.mode = modeController && cfg.controller.edgeAccessEnabled && badListenAddr h cfg.controller.listenAddr)
    "mTLS listen address must be an IP address and port between 1 and 65535")
  return cfg

/-- Go `setControllerPKIMaterial`. -/
def setControllerPkiMaterial (cfg : ServerConfig) (m : PkiMaterial) : ServerConfig :=
  { cfg with controller := { cfg.controller with
    tls := {
      caCertificateBase64 := m.caCertificate
      caPrivateKeyBase64 := m.caPrivateKey
      certificateBase64 := m.certificate
      privateKeyBase64 := m.privateKey }
    caKeyFile := "" } }

/-- The settings of the controller in Go `updateSystemSettings`. -/
def updateController (c : ControllerConfig) (req : ControllerRequest) : Except String ControllerConfig := do
  refuse (check (req.heartbeatIntervalSeconds ≠ 0 &&
      (req.heartbeatIntervalSeconds < 2 || 60 < req.heartbeatIntervalSeconds))
    "heartbeat interval must be between 2 and 60 seconds")
  return { c with
    edgeAccessEnabled := req.edgeAccessEnabled
    listenAddr := given (trimSpace req.listenAddr) c.listenAddr
    publicAddress :=
      if trimSpace req.publicAddress ≠ "" then normalizeControllerAddress req.publicAddress else c.publicAddress
    heartbeatIntervalSeconds :=
      if req.heartbeatIntervalSeconds ≠ 0 then req.heartbeatIntervalSeconds else c.heartbeatIntervalSeconds }

/-- Settings of the controller that a request may have. -/
def takeController (c : ControllerConfig) : Option ControllerRequest → Except String ControllerConfig
  | some req => updateController c req
  | none => .ok c

/-- Go `ensureControllerPKI`, for a controller that edges may connect to. -/
def ensureControllerPki (cfg : ServerConfig) : Except String ServerConfig :=
  if !cfg.controller.edgeAccessEnabled then .ok cfg
  else if cfg.controller.publicAddress = "" then
    .error "controller public_address is required when edge access is enabled"
  else
    match h.controllerPki cfg with
    | .ok material => .ok (setControllerPkiMaterial cfg material)
    | .error error => .error ("prepare controller PKI failed: " ++ error)

/-- A mode of configuration that can be asked for. -/
def checkConfigurationMode (mode : String) : Option String :=
  check (mode ≠ configurationAutomatic && mode ≠ configurationManual)
    "configuration_mode must be automatic or manual"

/-- What Go `updateSystemSettings` does in both modes. -/
def updateTuning (cfg : ServerConfig) (req : SettingsRequest) : Except String ServerConfig := do
  refuse (check (req.frpTransportTls = some false) "仅支持 TCP+TLS，不能关闭 FRP TLS")
  refuse (req.connectionTuning.bind validateConnectionTuning)
  refuse (req.configurationMode.bind checkConfigurationMode)
  applyRuntimeTuning h
    { cfg with
      connectionTuning := req.connectionTuning.getD cfg.connectionTuning
      configurationMode := req.configurationMode.getD cfg.configurationMode } req

/-- Go `updateSystemSettings` on an edge. -/
def updateEdgeSettings (cfg : ServerConfig) (req : SettingsRequest) : Except String ServerConfig := do
  let cfg := { cfg with
    embeddedFrpEnabled := req.embeddedFrpEnabled.getD cfg.embeddedFrpEnabled
    frpTransportTls := req.frpTransportTls.getD cfg.frpTransportTls }
  let cfg ← takeNode h cfg req.node
  let cfg := { cfg with
    edge := { cfg.edge with
      reporting := req.reporting.getD cfg.edge.reporting
      remoteCommands := req.remoteCommands.getD cfg.edge.remoteCommands
      controllerAdministrationEnabled :=
        req.controllerAdministrationEnabled.getD cfg.edge.controllerAdministrationEnabled }
    node := { cfg.node with selectable := req.nodeSelectable.getD cfg.node.selectable } }
  let cfg ← prepareAdvancedSettings h cfg
  refuse ((h.prepareFrpIdentity cfg).map ("prepare FRP identity failed: " ++ ·))
  return cfg

/-- The settings of the node in Go `updateSystemSettings`; old requests have only an address and a port. -/
def updateControllerNode (cfg : ServerConfig) (req : SettingsRequest) : Except String ServerConfig :=
  match req.node with
  | some node => setNode h cfg node
  | none =>
    if req.frpServerAddr ≠ "" || req.frpServerPort ≠ 0 then
      .ok (syncLegacyFrpFields { cfg with node := { cfg.node with
        frpAdvertiseAddr := tuneText req.frpServerAddr cfg.node.frpAdvertiseAddr
        frpBindPort := if req.frpServerPort ≠ 0 then req.frpServerPort else cfg.node.frpBindPort } })
    else .ok cfg

/-- Go `updateSystemSettings` on the controller. -/
def updateControllerSettings (cfg : ServerConfig) (req : SettingsRequest) : Except String ServerConfig := do
  let cfg ← updateControllerNode h cfg req
  let cfg := { cfg with node := { cfg.node with selectable := req.nodeSelectable.getD cfg.node.selectable } }
  refuse (check (cfg.frpServerAddr = "") "frp_server_addr is required")
  refuse (check (cfg.frpServerPort ≤ 0 || 65535 < cfg.frpServerPort) "frp_server_port is invalid")
  let cfg := { cfg with
    embeddedFrpEnabled := req.embeddedFrpEnabled.getD cfg.embeddedFrpEnabled
    frpBindAddr := given (trimSpace req.frpBindAddr) cfg.frpBindAddr
    frpProxyBindAddr := given (trimSpace req.frpProxyBindAddr) cfg.frpProxyBindAddr
    frpTransportTls := req.frpTransportTls.getD cfg.frpTransportTls
    clientConfigComment := given (trimSpace req.clientConfigComment) cfg.clientConfigComment }
  let controller ← takeController cfg.controller req.controller
  let cfg ← prepareAdvancedSettings h { cfg with controller }
  let cfg ← ensureControllerPki h cfg
  refuse ((h.prepareFrpIdentity cfg).map ("prepare FRP identity failed: " ++ ·))
  return cfg

/-- Go `updateSystemSettings`. -/
def updateSystemSettings (cfg : ServerConfig) (req : SettingsRequest) : Except String ServerConfig := do
  let cfg ← updateTuning h cfg req
  if cfg.mode = modeEdge then updateEdgeSettings h cfg req else updateControllerSettings h cfg req

/-- Go `edgeAdvancedSettings`. -/
structure EdgeAdvancedSettings where
  configurationMode : String
  connectionTuning : ConnectionTuning
  embeddedFrpEnabled : Bool
  frpTransportTls : Bool
  frpBindAddr : String
  frpProxyBindAddr : String
  sessionTtl : String
  runtimeTokenTtl : String
  udpConnectionTtl : String
  clientComment : String
  deriving DecidableEq, Repr

/-- Go `applyEdgeAdvancedSettings`. -/
def applyEdgeAdvancedSettings (cfg : ServerConfig) (req : EdgeAdvancedSettings) :
    Except String ServerConfig := do
  refuse (check (!req.frpTransportTls) "仅支持 TCP+TLS，不能关闭 FRP TLS")
  refuse (checkConfigurationMode req.configurationMode)
  refuse (check ([req.frpBindAddr, req.frpProxyBindAddr, req.sessionTtl, req.runtimeTokenTtl,
      req.udpConnectionTtl].any fun value => trimSpace value = "")
    "edge advanced settings must contain bind addresses and positive timeouts")
  refuse (validateConnectionTuning req.connectionTuning)
  -- these two belong to the listener of the controller
  refuse (check (req.connectionTuning.mtlsHandshakeTimeoutSeconds ≠ 0 ||
      req.connectionTuning.disableMtlsSessionTickets)
    "mTLS listener settings belong to the center system settings")
  let cfg ← applyRuntimeTuning h
    { cfg with
      configurationMode := req.configurationMode
      connectionTuning := req.connectionTuning
      embeddedFrpEnabled := req.embeddedFrpEnabled
      frpTransportTls := req.frpTransportTls }
    { frpBindAddr := req.frpBindAddr, frpProxyBindAddr := req.frpProxyBindAddr
      sessionTtl := req.sessionTtl, runtimeTokenTtl := req.runtimeTokenTtl
      udpConnectionTtl := req.udpConnectionTtl }
  prepareAdvancedSettings h { cfg with clientConfigComment := trimSpace req.clientComment }

/-- The payload of `rotate_edge_admin`. -/
structure AdminCredentials where
  username : String
  displayName : String
  password : String

/-- Go `rotateLocalEdgeAdmin`. -/
def rotateLocalEdgeAdmin (cfg : ServerConfig) (expired : Bool) (payload : Option AdminCredentials) :
    Except String ServerConfig := do
  refuse (check (!cfg.edge.controllerAdministrationEnabled) "controller administration is disabled on this edge")
  refuse (check expired "credential command expired before execution")
  match payload with
  | none => .error "invalid administrator credentials payload"
  | some p =>
    let username := trimSpace p.username
    refuse (check (username = "" || 64 < username.utf8ByteSize || p.password.utf8ByteSize < 8 ||
      72 < p.password.utf8ByteSize) "invalid administrator username or password")
    match h.hashPassword p.password with
    | .error _ => .error "hash administrator password failed"
    | .ok passwordHash =>
      return { cfg with initialAdmin := { username, displayName := trimSpace p.displayName, passwordHash } }

/-- Go `HandleObservedAddress`; nothing is reported when there is nothing to do. -/
def handleObservedAddress (cfg : ServerConfig) (address : String) : Option ServerConfig :=
  let address := trimSpace address
  if address = "" then none
  else if cfg.mode ≠ modeEdge || !isLocalAdvertiseAddress h cfg.node.frpAdvertiseAddr then none
  else some (syncLegacyFrpFields { cfg with node := { cfg.node with frpAdvertiseAddr := address } })

/-- A request to change the configuration; a payload that does not decode is `none`. -/
inductive Change where
  /-- a save of the settings over the local API -/
  | settings (req : SettingsRequest)
  | runtimeSettings (node : Option NodeRuntimeConfig)
  | permissions (payload : Option (EdgeReportingConfig × EdgeRemoteCommandsConfig))
  | advancedSettings (req : Option EdgeAdvancedSettings)
  | rotateAdmin (expired : Bool) (payload : Option AdminCredentials)
  | observedAddress (address : String)

/-- The commands from the controller, which only an edge receives. -/
def edgeCommand (cfg : ServerConfig) : Change → Except String ServerConfig
  | .permissions payload => do
    refuse (check (!cfg.edge.controllerAdministrationEnabled)
      "controller administration is disabled on this edge")
    match payload with
    | none => .error "invalid edge permissions payload"
    | some (reporting, remoteCommands) => return { cfg with edge := { cfg.edge with reporting, remoteCommands } }
  | .runtimeSettings payload => do
    refuse (check (!cfg.edge.controllerAdministrationEnabled || !cfg.edge.remoteCommands.changeRuntimeSettings)
      "remote runtime settings are disabled on this edge")
    match payload with
    | none => .error "invalid edge runtime settings payload"
    | some node => setNode h cfg node
  | .advancedSettings payload => do
    refuse (check (!cfg.edge.controllerAdministrationEnabled || !cfg.edge.remoteCommands.changeRuntimeSettings)
      "remote runtime settings are disabled on this edge")
    match payload with
    | none => .error "invalid edge advanced settings payload"
    | some req =>
      let cfg ← applyEdgeAdvancedSettings h cfg req
      refuse (h.prepareFrpIdentity cfg)
      return cfg
  | .rotateAdmin expired payload => rotateLocalEdgeAdmin h cfg expired payload
  | .settings _ | .observedAddress _ => .error "unsupported command"

/-- What a writer makes of its copy of the configuration. -/
def Change.apply (cfg : ServerConfig) : Change → Except String ServerConfig
  | .settings req => updateSystemSettings h cfg req
  | .observedAddress address =>
    match handleObservedAddress h cfg address with
    | some cfg => .ok cfg
    | none => .error ""
  | c => if cfg.mode = modeEdge then edgeCommand h cfg c else .error "edge state unavailable"

end

/-- Go `setRuntime`. -/
def setRuntime (cfg : ServerConfig) : ServerConfig := { cfg with frpTransportTls := true }

end MeowFrp.Config
