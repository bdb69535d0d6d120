import MeowFrp.Data.Text

/-!
# The configuration of a server

Model of Go `internal/config`: the configuration in memory, the file it is kept in, and `Load`, which
merges a file into the defaults, validates the result and applies the environment. The texts of `mode` and
`configuration_mode` are kept as they stand in the file; `Validate` is what restricts them.

What is assumed of the formats is in `Platform` (durations) and `FileCodec` (JSON): a value that was written
is read again. A file that is not there, one that cannot be read, and one that does not decode are told
apart, as in the source.
-/

namespace MeowFrp.Config

/-- Go `time.Duration`, in nanoseconds. -/
abbrev Duration := Int

def second : Duration := 1000000000

def hour : Duration := 3600 * second

def modeController : String := "controller"

def modeEdge : String := "edge"

def configurationAutomatic : String := "automatic"

def configurationManual : String := "manual"

structure ConnectionTuning where
  disableTcpMux : Bool := false
  tcpMuxKeepaliveSeconds : Int := 0
  tcpKeepaliveSeconds : Int := 0
  maxPoolCount : Int := 0
  heartbeatTimeoutSeconds : Int := 0
  userConnectionTimeoutSeconds : Int := 0
  mtlsHandshakeTimeoutSeconds : Int := 0
  disableMtlsSessionTickets : Bool := false
  enableMtlsSessionResumption : Bool := false
  deriving DecidableEq, Repr

structure NodeRuntimeConfig where
  tag : String := ""
  publicApiUrl : String := ""
  frpAdvertiseAddr : String := ""
  frpBindPort : Int := 0
  portRangeStart : Int := 0
  portRangeEnd : Int := 0
  selectable : Bool := false
  deriving DecidableEq, Repr

structure TlsFiles where
  caFile : String := ""
  certFile : String := ""
  keyFile : String := ""
  caCertificateBase64 : String := ""
  caPrivateKeyBase64 : String := ""
  certificateBase64 : String := ""
  privateKeyBase64 : String := ""
  deriving DecidableEq, Repr

structure ControllerConfig where
  edgeAccessEnabled : Bool := false
  listenAddr : String := ""
  publicAddress : String := ""
  tls : TlsFiles := {}
  caKeyFile : String := ""
  heartbeatIntervalSeconds : Int := 0
  deriving DecidableEq, Repr

structure EdgeReportingConfig where
  clientPresence : Bool := false
  connections : Bool := false
  trafficStatistics : Bool := false
  dpiEvents : Bool := false
  runtimeLogs : Bool := false
  deriving DecidableEq, Repr

structure EdgeRemoteCommandsConfig where
  disconnectClient : Bool := false
  disconnectConnection : Bool := false
  blockIp : Bool := false
  changeRuntimeSettings : Bool := false
  deriving DecidableEq, Repr

structure EdgeConfig where
  nodeId : String := ""
  nodeName : String := ""
  controllerAddr : String := ""
  controllerApiAddr : String := ""
  serverName : String := ""
  tls : TlsFiles := {}
  statePath : String := ""
  controllerAdministrationEnabled : Bool := false
  reporting : EdgeReportingConfig := {}
  remoteCommands : EdgeRemoteCommandsConfig := {}
  deriving DecidableEq, Repr

structure InitialAdminConfig where
  username : String := ""
  displayName : String := ""
  passwordHash : String := ""
  deriving DecidableEq, Repr

/-- Go `ConfigState`. -/
inductive ConfigState where
  | unset
  | unconfigured
  | invalid
  | configured
  deriving DecidableEq, Repr

/-- Go `Config`: the configuration in memory. -/
@[ext]
structure ServerConfig where
  configPath : String := ""
  configVersion : Int := 0
  configurationMode : String := ""
  connectionTuning : ConnectionTuning := {}
  mode : String := ""
  configState : ConfigState := .unset
  configError : String := ""
  httpAddr : String := ""
  mysqlDsn : String := ""
  cookieSecret : String := ""
  sessionTtl : Duration := 0
  runtimeTokenTtl : Duration := 0
  udpConnectionTtl : Duration := 0
  embeddedFrpEnabled : Bool := false
  frpBindAddr : String := ""
  frpProxyBindAddr : String := ""
  frpServerAddr : String := ""
  frpServerPort : Int := 0
  frpTransportTls : Bool := false
  clientConfigComment : String := ""
  initialAdmin : InitialAdminConfig := {}
  controller : ControllerConfig := {}
  edge : EdgeConfig := {}
  node : NodeRuntimeConfig := {}
  initialized : Bool := false
  deriving DecidableEq, Repr

/-- The content of the file. -/
structure FileConfig where
  configVersion : Int := 0
  configurationMode : String := ""
  connectionTuning : ConnectionTuning := {}
  mode : String := ""
  mysqlDsn : String := ""
  cookieSecret : String := ""
  sessionTtl : String := ""
  runtimeTokenTtl : String := ""
  udpConnectionTtl : String := ""
  embeddedFrpEnabled : Option Bool := none
  frpBindAddr : String := ""
  frpProxyBindAddr : String := ""
  frpServerAddr : String := ""
  frpServerPort : Int := 0
  frpTransportTls : Bool := true
  clientConfigComment : String := ""
  initialAdmin : InitialAdminConfig := {}
  controller : ControllerConfig := {}
  edge : EdgeConfig := {}
  node : NodeRuntimeConfig := {}
  initialized : Bool := false
  createdAt : Nat := 0
  deriving DecidableEq, Repr

/-- What the configuration needs of the standard library. -/
structure Platform where
  /-- Go `time.ParseDuration` -/
  parseDuration : String → Option Duration
  /-- Go `Duration.String` -/
  formatDuration : Duration → String
  parse_format : ∀ d, parseDuration (formatDuration d) = some d
  parse_empty : parseDuration "" = none
  /-- Go `strconv.Atoi` -/
  atoi : String → Option Int
  /-- Go `strconv.ParseBool` -/
  parseBool : String → Option Bool

/-- The JSON form of the file. -/
structure FileCodec (Bytes : Type) where
  encode : FileConfig → Bytes
  /-- an error of decoding, or the content -/
  decode : Bytes → Except String FileConfig
  decode_encode : ∀ file, decode (encode file) = .ok file

/-- Go `os.Getenv`: a variable that is not set is empty. -/
abbrev Environment := String → String

/-- No variable is set. -/
def noEnvironment : Environment := fun _ => ""

/-- Keep what is there unless a value is given. -/
def given (value base : String) : String := if value ≠ "" then value else base

@[simp]
lemma given_empty {value : String} : given value "" = value := by
  unfold given
  split
  · rfl
  · rename_i empty
    exact (not_not.mp empty).symm

/-- A text that is given is taken. -/
lemma given_of_ne {value base : String} (ne : value ≠ "") : given value base = value := if_pos ne

/-- A default that is not empty stays not empty. -/
lemma given_ne_empty {value base : String} (ne : base ≠ "") : given value base ≠ "" := by
  unfold given
  split
  · assumption
  · exact ne

/-- The same for a number. -/
def givenPositive (value base : Int) : Int := if 0 < value then value else base

lemma givenPositive_of_pos {value base : Int} (pos : 0 < value) : givenPositive value base = value := if_pos pos

/-- A positive default stays positive. -/
lemma givenPositive_pos {value base : Int} (pos : 0 < base) : 0 < givenPositive value base := by
  unfold givenPositive
  split
  · assumption
  · exact pos

section

variable (go : Platform) (env : Environment)

/-- Go `parseDuration`. -/
def parseDuration (value : String) (fallback : Duration) : Duration := (go.parseDuration value).getD fallback

/-- Go `env`. -/
def envString (key fallback : String) : String := given (env key) fallback

/-- Go `envInt`. -/
def envInt (key : String) (fallback : Int) : Int :=
  if env key = "" then fallback else (go.atoi (env key)).getD fallback

/-- Go `envBool`. -/
def envBool (key : String) (fallback : Bool) : Bool :=
  if env key = "" then fallback else (go.parseBool (env key)).getD fallback

/-- Go `envDuration`. -/
def envDuration (key : String) (fallback : Duration) : Duration :=
  if env key = "" then fallback else parseDuration go (env key) fallback

/-- Go `defaults`. -/
def defaults : ServerConfig where
  configVersion := 2
  configurationMode := configurationAutomatic
  httpAddr := envString env "FRP_CONTROL_HTTP_ADDR" ":8080"
  cookieSecret := envString env "FRP_CONTROL_COOKIE_SECRET" "dev-change-me-before-production"
  sessionTtl := envDuration go env "FRP_CONTROL_SESSION_TTL" hour
  runtimeTokenTtl := envDuration go env "FRP_CONTROL_RUNTIME_TOKEN_TTL" (24 * hour)
  udpConnectionTtl := envDuration go env "FRP_CONTROL_UDP_CONNECTION_TTL" (10 * second)
  embeddedFrpEnabled := envBool go env "FRP_CONTROL_EMBEDDED_FRPS_ENABLED" true
  frpBindAddr := envString env "FRP_CONTROL_FRP_BIND_ADDR" "0.0.0.0"
  frpProxyBindAddr := envString env "FRP_CONTROL_FRP_PROXY_BIND_ADDR" "0.0.0.0"
  frpServerAddr := envString env "FRP_CONTROL_FRP_SERVER_ADDR" "127.0.0.1"
  frpServerPort := envInt go env "FRP_CONTROL_FRP_SERVER_PORT" 7000
  frpTransportTls := envBool go env "FRP_CONTROL_FRP_TRANSPORT_TLS" true
  clientConfigComment := envString env "FRP_CONTROL_CLIENT_CONFIG_COMMENT" "generated by frp-control-server"
  controller := { listenAddr := "0.0.0.0:9443", heartbeatIntervalSeconds := 5 }
  edge := {
    statePath := "data/edge-state.db"
    reporting := { clientPresence := true }
    remoteCommands := { disconnectClient := true, disconnectConnection := true } }
  node := { frpBindPort := 7000, portRangeStart := 1024, portRangeEnd := 65535, selectable := true }

/-- Go `applyEnv`. -/
def applyEnv (cfg : ServerConfig) : ServerConfig :=
  let frpServerAddr := envString env "FRP_CONTROL_FRP_SERVER_ADDR" cfg.frpServerAddr
  let frpServerPort := envInt go env "FRP_CONTROL_FRP_SERVER_PORT" cfg.frpServerPort
  { cfg with
    mysqlDsn := envString env "FRP_CONTROL_MYSQL_DSN" cfg.mysqlDsn
    httpAddr := envString env "FRP_CONTROL_HTTP_ADDR" cfg.httpAddr
    cookieSecret := envString env "FRP_CONTROL_COOKIE_SECRET" cfg.cookieSecret
    sessionTtl := envDuration go env "FRP_CONTROL_SESSION_TTL" cfg.sessionTtl
    runtimeTokenTtl := envDuration go env "FRP_CONTROL_RUNTIME_TOKEN_TTL" cfg.runtimeTokenTtl
    udpConnectionTtl := envDuration go env "FRP_CONTROL_UDP_CONNECTION_TTL" cfg.udpConnectionTtl
    embeddedFrpEnabled := envBool go env "FRP_CONTROL_EMBEDDED_FRPS_ENABLED" cfg.embeddedFrpEnabled
    frpBindAddr := envString env "FRP_CONTROL_FRP_BIND_ADDR" cfg.frpBindAddr
    frpProxyBindAddr := envString env "FRP_CONTROL_FRP_PROXY_BIND_ADDR" cfg.frpProxyBindAddr
    frpServerAddr
    frpServerPort
    frpTransportTls := true
    clientConfigComment := envString env "FRP_CONTROL_CLIENT_CONFIG_COMMENT" cfg.clientConfigComment
    -- the old names of the variables feed the settings of the node
    node := { cfg.node with frpAdvertiseAddr := frpServerAddr, frpBindPort := frpServerPort } }

/-- Without variables only address and port of the node are taken over. -/
lemma applyEnv_none {cfg : ServerConfig} : applyEnv go noEnvironment cfg = { cfg with
    frpTransportTls := true
    node := { cfg.node with frpAdvertiseAddr := cfg.frpServerAddr, frpBindPort := cfg.frpServerPort } } := rfl

end

/-- Go `ApplyRecommended`. -/
def applyRecommended (cfg : ServerConfig) : ServerConfig :=
  { cfg with embeddedFrpEnabled := true, frpTransportTls := true }

/-- Go `mergeTLSMaterial`, after the names of the files. -/
def mergeTls (base value : TlsFiles) : TlsFiles where
  caFile := given value.caFile base.caFile
  certFile := given value.certFile base.certFile
  keyFile := given value.keyFile base.keyFile
  caCertificateBase64 := given value.caCertificateBase64 base.caCertificateBase64
  caPrivateKeyBase64 := given value.caPrivateKeyBase64 base.caPrivateKeyBase64
  certificateBase64 := given value.certificateBase64 base.certificateBase64
  privateKeyBase64 := given value.privateKeyBase64 base.privateKeyBase64

/-- The defaults have no TLS material. -/
@[simp]
lemma mergeTls_empty {value : TlsFiles} : mergeTls {} value = value := by
  simp only [mergeTls, given_empty]

/-- Go `mergeControllerConfig`. -/
def mergeControllerConfig (base value : ControllerConfig) : ControllerConfig where
  edgeAccessEnabled := value.edgeAccessEnabled
  listenAddr := given value.listenAddr base.listenAddr
  publicAddress := given value.publicAddress base.publicAddress
  heartbeatIntervalSeconds := givenPositive value.heartbeatIntervalSeconds base.heartbeatIntervalSeconds
  tls := mergeTls base.tls value.tls
  caKeyFile := given value.caKeyFile base.caKeyFile

/-- Go `mergeEdgeConfig`. -/
def mergeEdgeConfig (base value : EdgeConfig) : EdgeConfig where
  nodeId := given value.nodeId base.nodeId
  nodeName := given value.nodeName base.nodeName
  controllerAddr := given value.controllerAddr base.controllerAddr
  controllerApiAddr := given value.controllerApiAddr base.controllerApiAddr
  serverName := given value.serverName base.serverName
  statePath := given value.statePath base.statePath
  tls := mergeTls base.tls value.tls
  controllerAdministrationEnabled := value.controllerAdministrationEnabled
  reporting := value.reporting
  remoteCommands := value.remoteCommands

/-- Go `mergeNodeRuntimeConfig`. -/
def mergeNodeRuntimeConfig (base value : NodeRuntimeConfig) : NodeRuntimeConfig where
  tag := value.tag
  publicApiUrl := value.publicApiUrl
  frpAdvertiseAddr := value.frpAdvertiseAddr
  frpBindPort := givenPositive value.frpBindPort base.frpBindPort
  portRangeStart := givenPositive value.portRangeStart base.portRangeStart
  portRangeEnd := givenPositive value.portRangeEnd base.portRangeEnd
  selectable := value.selectable

/-- Go `nodeRuntimeConfigured`. -/
def nodeRuntimeConfigured (value : NodeRuntimeConfig) : Bool :=
  value.tag ≠ "" || value.publicApiUrl ≠ "" || value.frpAdvertiseAddr ≠ "" || value.frpBindPort ≠ 0 ||
    value.portRangeStart ≠ 0 || value.portRangeEnd ≠ 0

/-- The settings of the node in Go `applyFileConfig`, before the defaults. -/
def fileNode (base : NodeRuntimeConfig) (mode : String) (file : FileConfig) : NodeRuntimeConfig :=
  if nodeRuntimeConfigured file.node then mergeNodeRuntimeConfig base file.node
  else
    -- older files have only the address and the port, at the top level
    { base with
      frpAdvertiseAddr := file.frpServerAddr
      frpBindPort := file.frpServerPort
      tag := if mode = modeEdge && file.edge.nodeName ≠ "" then file.edge.nodeName else base.tag }

/-- Go `applyFileConfig`. -/
def applyFileConfig (go : Platform) (cfg : ServerConfig) (file : FileConfig) : ServerConfig :=
  let mode :=
    if file.mode = "" && (file.mysqlDsn ≠ "" || file.initialized) then modeController else file.mode
  let frpBindAddr := given file.frpBindAddr "0.0.0.0"
  let frpServerAddr := given file.frpServerAddr "127.0.0.1"
  let frpServerPort := if file.frpServerPort = 0 then 7000 else file.frpServerPort
  let node := fileNode cfg.node mode file
  let node := { node with
    frpBindPort := if node.frpBindPort = 0 then frpServerPort else node.frpBindPort
    frpAdvertiseAddr := given node.frpAdvertiseAddr frpServerAddr
    portRangeStart := if node.portRangeStart = 0 then 1024 else node.portRangeStart
    portRangeEnd := if node.portRangeEnd = 0 then 65535 else node.portRangeEnd }
  { cfg with
    connectionTuning := file.connectionTuning
    -- a file without a mode may contain deliberate settings
    configurationMode := given file.configurationMode configurationManual
    configVersion := if file.configVersion = 0 then 1 else file.configVersion
    mode
    mysqlDsn := file.mysqlDsn
    cookieSecret := given file.cookieSecret "dev-change-me-before-production"
    sessionTtl := parseDuration go file.sessionTtl cfg.sessionTtl
    runtimeTokenTtl := parseDuration go file.runtimeTokenTtl cfg.runtimeTokenTtl
    udpConnectionTtl := parseDuration go file.udpConnectionTtl cfg.udpConnectionTtl
    embeddedFrpEnabled := file.embeddedFrpEnabled.getD cfg.embeddedFrpEnabled
    frpBindAddr
    frpProxyBindAddr := given file.frpProxyBindAddr frpBindAddr
    frpTransportTls := true
    clientConfigComment := given file.clientConfigComment "generated by frp-control-server"
    initialAdmin := file.initialAdmin
    initialized := file.initialized || file.initialAdmin.passwordHash ≠ ""
    controller := mergeControllerConfig cfg.controller file.controller
    edge := mergeEdgeConfig cfg.edge file.edge
    node
    frpServerAddr := node.frpAdvertiseAddr
    frpServerPort := node.frpBindPort }

/-- A check that fails with a message. -/
def check (bad : Bool) (error : String) : Option String := if bad then some error else none

/-- A check passes where nothing is bad. -/
lemma check_eq_none {bad : Bool} {error : String} : check bad error = none ↔ bad = false := by
  cases bad with
  | true => exact ⟨nofun, nofun⟩
  | false => exact ⟨fun _ => rfl, fun _ => rfl⟩

/-- Two checks in a row pass if both do. -/
lemma orElse_eq_none {o o' : Option String} : (o <|> o') = none ↔ o = none ∧ o' = none := by
  cases o with
  | none => exact ⟨fun e => ⟨rfl, e⟩, fun e => e.2⟩
  | some => exact ⟨nofun, fun e => e.1⟩

/-- Go `ValidateConnectionTuning`. -/
def validateConnectionTuning (value : ConnectionTuning) : Option String :=
  let fields : List (String × Int × Int × Int) := [
    ("tcp_mux_keepalive_seconds", value.tcpMuxKeepaliveSeconds, 0, 3600),
    ("tcp_keepalive_seconds", value.tcpKeepaliveSeconds, -1, 86400),
    ("max_pool_count", value.maxPoolCount, 0, 1024),
    ("heartbeat_timeout_seconds", value.heartbeatTimeoutSeconds, -1, 3600),
    ("user_connection_timeout_seconds", value.userConnectionTimeoutSeconds, 0, 600),
    ("mtls_handshake_timeout_seconds", value.mtlsHandshakeTimeoutSeconds, 0, 120)]
  fields.findSome? fun (name, value, minimum, maximum) =>
    check (value < minimum || maximum < value)
      (name ++ " must be between " ++ toString minimum ++ " and " ++ toString maximum)

/-- Go `ValidateNodeRuntime`. -/
def validateNodePorts (node : NodeRuntimeConfig) : Option String :=
  check (node.frpBindPort ≤ 0 || 65535 < node.frpBindPort)
      "node frp_bind_port must be between 1 and 65535" <|>
    check (node.portRangeStart < 1 || 65535 < node.portRangeEnd || node.portRangeEnd < node.portRangeStart)
      "node port range is invalid"

/-- Go `Validate`. -/
def validate (cfg : ServerConfig) : Option String :=
  validateConnectionTuning cfg.connectionTuning <|>
  check (cfg.configurationMode ≠ "" && cfg.configurationMode ≠ configurationAutomatic &&
    cfg.configurationMode ≠ configurationManual) "configuration_mode must be automatic or manual" <|>
  check (cfg.mode ≠ modeController && cfg.mode ≠ modeEdge) "mode must be \"controller\" or \"edge\"" <|>
  check (!cfg.initialized) "configuration is not initialized" <|>
  check (cfg.initialAdmin.username = "" || cfg.initialAdmin.passwordHash = "")
    "local administrator credential is missing" <|>
  check (cfg.mode = modeController && cfg.mysqlDsn = "") "controller mysql configuration is missing" <|>
  check (cfg.mode = modeEdge && (cfg.edge.nodeId = "" || cfg.edge.controllerAddr = ""))
    "edge enrollment information is missing" <|>
  check (cfg.mode = modeEdge &&
    !(cfg.edge.tls.caCertificateBase64 ≠ "" && cfg.edge.tls.certificateBase64 ≠ "" &&
      cfg.edge.tls.privateKeyBase64 ≠ "") &&
    !(cfg.edge.tls.caFile ≠ "" && cfg.edge.tls.certFile ≠ "" && cfg.edge.tls.keyFile ≠ ""))
    "edge mTLS files are missing" <|>
  validateNodePorts cfg.node

/-- What reading the config file gives. -/
inductive FileRead (Bytes : Type) where
  | missing
  | failed (error : String)
  | data (bytes : Bytes)

/-- What Go `Load` makes of the content of a file. -/
def merge (go : Platform) (env : Environment) (path : String) (file : FileConfig) : ServerConfig :=
  let cfg := applyFileConfig go { defaults go env with configPath := path } file
  if cfg.configurationMode = configurationAutomatic then applyRecommended cfg else cfg

/-- Go `Load`, for the file at `path`. -/
def load {Bytes : Type} (go : Platform) (codec : FileCodec Bytes) (env : Environment) (path : String)
    (file : FileRead Bytes) : ServerConfig :=
  let cfg := { defaults go env with configPath := path }
  match file with
  | .missing => applyEnv go env (applyRecommended { cfg with configState := .unconfigured })
  | .failed error => { cfg with configState := .invalid, configError := error, initialized := false }
  | .data bytes =>
    match codec.decode bytes with
    | .error error => { cfg with configState := .invalid, configError := error, initialized := false }
    | .ok file =>
      let cfg := merge go env path file
      match validate cfg with
      | some error => { cfg with configState := .invalid, configError := error, initialized := false }
      | none => applyEnv go env { cfg with configState := .configured }

/-- Go `Config.FileConfig`. -/
def ServerConfig.fileConfig (go : Platform) (c : ServerConfig) : FileConfig where
  configVersion := c.configVersion
  configurationMode := c.configurationMode
  connectionTuning := c.connectionTuning
  mode := c.mode
  mysqlDsn := c.mysqlDsn
  cookieSecret := c.cookieSecret
  sessionTtl := go.formatDuration c.sessionTtl
  runtimeTokenTtl := go.formatDuration c.runtimeTokenTtl
  udpConnectionTtl := go.formatDuration c.udpConnectionTtl
  embeddedFrpEnabled := some c.embeddedFrpEnabled
  frpBindAddr := c.frpBindAddr
  frpProxyBindAddr := c.frpProxyBindAddr
  frpServerAddr := c.frpServerAddr
  frpServerPort := c.frpServerPort
  frpTransportTls := c.frpTransportTls
  clientConfigComment := c.clientConfigComment
  initialAdmin := c.initialAdmin
  controller := c.controller
  edge := c.edge
  node := c.node
  initialized := c.initialized

/-- What Go `WriteFileConfig` fills in, at the instant `now` and with a new secret. -/
def complete (now : Nat) (secret : String) (file : FileConfig) : FileConfig :=
  { file with
    configVersion := if file.configVersion = 0 then 2 else file.configVersion
    createdAt := if file.createdAt = 0 then now else file.createdAt
    cookieSecret := given file.cookieSecret secret
    sessionTtl := given file.sessionTtl "1h"
    runtimeTokenTtl := given file.runtimeTokenTtl "24h"
    udpConnectionTtl := given file.udpConnectionTtl "10s"
    embeddedFrpEnabled := some (file.embeddedFrpEnabled.getD true)
    clientConfigComment := given file.clientConfigComment "generated by frp-control-server" }

/-- The bytes that `WriteFileConfig` puts in place. -/
def save {Bytes : Type} (go : Platform) (codec : FileCodec Bytes) (now : Nat) (secret : String)
    (cfg : ServerConfig) : Bytes :=
  codec.encode (complete now secret (cfg.fileConfig go))

end MeowFrp.Config
