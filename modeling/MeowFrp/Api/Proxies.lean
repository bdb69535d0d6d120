import MeowFrp.Data.Models
import MeowFrp.Data.Text

/-!
# Checks of requested proxies

Model of Go `validateBootstrapProxies` (controller) and `validateEdgeProxies` (edge). The two are
written separately in the source, with their checks in another order and other messages, so each
keeps its own body; what they read from the store is passed in as `ProxyRules`. A loop over the
request carries the names and ports seen so far, and each of its rounds is one function.
-/

namespace MeowFrp.Api

open List

/-- Go `config.Mode`. -/
inductive Mode where
  | controller
  | edge
  deriving DecidableEq, Repr

/-- The settings of a node that admission depends on; a port of `0` is none. -/
structure NodeConfig where
  mode : Mode
  portRangeStart : Nat
  portRangeEnd : Nat
  frpBindPort : Nat
  /-- `portFromAddress(cfg.HTTPAddr)` -/
  httpPort : Nat
  /-- `portFromAddress(cfg.Controller.ListenAddr)` -/
  listenPort : Nat
  runtimeTokenTtl : Nat
  /-- the embedded frps is the only one, so its counts are authoritative -/
  embeddedFrpEnabled : Bool := true
  deriving DecidableEq, Repr

/-- Go `nodeReservedPorts`; a later entry replaces an earlier one. -/
def nodeReservedPorts (cfg : NodeConfig) (port : Nat) : Option String :=
  if cfg.mode = .controller && cfg.listenPort > 0 && port = cfg.listenPort then some "controller mTLS"
  else if cfg.httpPort > 0 && port = cfg.httpPort then some "node API"
  else if cfg.frpBindPort > 0 && port = cfg.frpBindPort then some "frps control"
  else none

/-- Go `validateNodeRemotePort`; `none` is success. -/
def validateNodeRemotePort (cfg : NodeConfig) (port : Nat) : Option String :=
  if port < cfg.portRangeStart || port > cfg.portRangeEnd then
    some s!"remote port {port} is outside node range {cfg.portRangeStart}-{cfg.portRangeEnd}"
  else
    match nodeReservedPorts cfg port with
    | some reason => some s!"remote port {port} is reserved for {reason}"
    | none => none

/-- Go `intersectNodePortRange`; `none` when they do not overlap. -/
def intersectNodePortRange (policy : UserResourcePolicy) (cfg : NodeConfig) :
    Option UserResourcePolicy :=
  let portStart := if policy.portStart < cfg.portRangeStart then cfg.portRangeStart else policy.portStart
  let portEnd :=
    if policy.portEnd = 0 || policy.portEnd > cfg.portRangeEnd then cfg.portRangeEnd else policy.portEnd
  if portStart ≤ portEnd then some { policy with portStart, portEnd } else none

/-- Go `normalizeProtocol`. -/
def normalizeProtocol (value : String) : String :=
  let value := toLower (trimSpace value)
  if ["tcp", "udp", "http", "https", "stcp", "xtcp", "tcpmux"].contains value then value else ""

/-- Go `matchesAnyGrant`. -/
def matchesAnyGrant (proxy : ProxyAllocationInput) (grants : List PortGrant) : Bool :=
  grants.any fun grant => grant.enabled && grant.protocol = proxy.proxyType &&
    if proxy.proxyType = "tcp" || proxy.proxyType = "udp" then
      proxy.remotePort ≥ grant.remotePortStart && proxy.remotePort ≤ grant.remotePortEnd
    else if proxy.proxyType = "http" || proxy.proxyType = "https" || proxy.proxyType = "tcpmux" then
      (grant.domain = "" || grant.domain = proxy.domain) &&
        (grant.subdomain = "" || grant.subdomain = proxy.subdomain)
    else true

/-- The trimming at the head of both loops. -/
def normalizeProxy (proxy : ProxyAllocationInput) : ProxyAllocationInput :=
  { proxy with
    proxyName := trimSpace proxy.proxyName
    proxyType := normalizeProtocol proxy.proxyType
    localIp := if trimSpace proxy.localIp = "" then "127.0.0.1" else trimSpace proxy.localIp
    domain := trimSpace proxy.domain
    subdomain := trimSpace proxy.subdomain }

/-- What the checks read: the user's policy, the token's grants, and which ports other clients hold
(`RemotePortInUseExceptClient`). -/
structure ProxyRules where
  cfg : NodeConfig
  policy : Option UserResourcePolicy
  token : AccessToken
  grants : List PortGrant
  inUse : String → Nat → Bool

/-- The names and ports of the proxies accepted so far. -/
structure Requested where
  names : List String := []
  ports : List (String × Nat) := []

/-- Remember an accepted proxy. -/
def Requested.add (seen : Requested) (proxy : ProxyAllocationInput) : Requested :=
  ⟨proxy.proxyName :: seen.names, (proxy.proxyType, proxy.remotePort) :: seen.ports⟩

/-- Run a check over the request, with the proxies accepted so far. -/
def checkAll (check : Requested → ProxyAllocationInput → Except String ProxyAllocationInput) :
    Requested → List ProxyAllocationInput → Except String (List ProxyAllocationInput)
  | _, [] => .ok []
  | seen, proxy :: proxies =>
    match check seen proxy with
    | .error reason => .error reason
    | .ok proxy =>
      match checkAll check (seen.add proxy) proxies with
      | .error reason => .error reason
      | .ok rest => .ok (proxy :: rest)

/-- One round of the loop of `validateBootstrapProxies`. -/
def checkBootstrapProxy (rules : ProxyRules) (policy : UserResourcePolicy) (seen : Requested)
    (proxy : ProxyAllocationInput) : Except String ProxyAllocationInput :=
  let proxy := normalizeProxy proxy
  if proxy.proxyName = "" || proxy.proxyType = "" || proxy.localPort = 0 || proxy.localPort > 65535 then
    .error "proxy name, supported type and local_port are required"
  else if seen.names.contains proxy.proxyName then
    .error s!"proxy name {proxy.proxyName} is duplicated"
  else if proxy.proxyName.utf8ByteSize > 48 then
    .error "proxy name must not exceed 48 bytes"
  else if !policy.allowedProtocols.contains proxy.proxyType then
    .error s!"protocol {proxy.proxyType} is not enabled for this user"
  else if proxy.proxyType ≠ "tcp" && proxy.proxyType ≠ "udp" then
    .error "user-selected server ports currently support tcp/udp only"
  else if proxy.remotePort < policy.portStart || proxy.remotePort > policy.portEnd then
    .error s!"remote port {proxy.remotePort} is outside user range {policy.portStart}-{policy.portEnd}"
  else
    match validateNodeRemotePort rules.cfg proxy.remotePort with
    | some reason => .error reason
    | none =>
      if seen.ports.contains (proxy.proxyType, proxy.remotePort) then
        .error s!"remote port {proxy.remotePort} is duplicated in this request"
      else if rules.inUse proxy.proxyType proxy.remotePort then
        .error s!"remote port {proxy.remotePort} is already in use on this node"
      else if !matchesAnyGrant proxy rules.grants && !rules.grants.isEmpty then
        .error s!"proxy {proxy.proxyName} is not covered by token grants"
      else .ok proxy

/-- Go `validateBootstrapProxies`. -/
def validateBootstrapProxies (rules : ProxyRules) (proxies : List ProxyAllocationInput) :
    Except String (List ProxyAllocationInput) :=
  if proxies.isEmpty then .error "at least one proxy is required"
  else
    match rules.policy.filter (·.enabled) with
    | none => .error "资源策略尚未配置或已禁用，请在中心用户详情中检查资源策略并保存"
    | some policy =>
      if policy.maxPorts > 0 && proxies.length > policy.maxPorts then
        .error s!"proxy count {proxies.length} exceeds user limit {policy.maxPorts}"
      else if rules.token.maxProxyCount > 0 && proxies.length > rules.token.maxProxyCount then
        .error s!"proxy count {proxies.length} exceeds token limit {rules.token.maxProxyCount}"
      else
        match intersectNodePortRange policy rules.cfg with
        | none => .error "node and user port ranges do not overlap"
        | some policy => checkAll (checkBootstrapProxy rules policy) {} proxies

/-- One round of the loop of `validateEdgeProxies`. -/
def checkEdgeProxy (rules : ProxyRules) (policy : UserResourcePolicy) (seen : Requested)
    (proxy : ProxyAllocationInput) : Except String ProxyAllocationInput :=
  let proxy := normalizeProxy proxy
  if proxy.proxyName = "" || proxy.localPort = 0 || proxy.localPort > 65535 ||
      (proxy.proxyType ≠ "tcp" && proxy.proxyType ≠ "udp") then
    .error "invalid proxy"
  else if seen.names.contains proxy.proxyName then
    .error s!"proxy name {proxy.proxyName} is duplicated"
  else if proxy.proxyName.utf8ByteSize > 48 then
    .error "proxy name must not exceed 48 bytes"
  else if !policy.allowedProtocols.contains proxy.proxyType ||
      proxy.remotePort < policy.portStart || proxy.remotePort > policy.portEnd then
    .error s!"proxy {proxy.proxyName} is outside policy"
  else
    match validateNodeRemotePort rules.cfg proxy.remotePort with
    | some reason => .error reason
    | none =>
      if seen.ports.contains (proxy.proxyType, proxy.remotePort) then
        .error s!"remote port {proxy.remotePort} is duplicated in this request"
      else if rules.inUse proxy.proxyType proxy.remotePort then
        .error s!"remote port {proxy.remotePort} is already in use on this node"
      else if !rules.grants.isEmpty && !matchesAnyGrant proxy rules.grants then
        .error s!"proxy {proxy.proxyName} is not covered by token grants"
      else .ok proxy

/-- Go `validateEdgeProxies`. -/
def validateEdgeProxies (rules : ProxyRules) (proxies : List ProxyAllocationInput) :
    Except String (List ProxyAllocationInput) :=
  if proxies.isEmpty then .error "at least one proxy is required"
  else
    match rules.policy.filter (·.enabled) with
    | none => .error "资源策略未同步或已禁用，请检查中心用户资源策略；刚保存后请稍候重新选择节点"
    | some policy =>
      if policy.maxPorts > 0 && proxies.length > policy.maxPorts then
        .error "proxy count exceeds user limit"
      else if rules.token.maxProxyCount > 0 && proxies.length > rules.token.maxProxyCount then
        .error "proxy count exceeds token limit"
      else
        match intersectNodePortRange policy rules.cfg with
        | none => .error "node and user port ranges do not overlap"
        | some policy => checkAll (checkEdgeProxy rules policy) {} proxies

/-! ## The ranges of ports -/

variable {rules : ProxyRules} {policy range : UserResourcePolicy} {seen : Requested}
  {proxy out : ProxyAllocationInput} {proxies accepted : List ProxyAllocationInput}

/-- What a round asks of a trimmed proxy; `range` is cut to the node's ports. -/
structure Permitted (rules : ProxyRules) (range : UserResourcePolicy) (seen : Requested)
    (out : ProxyAllocationInput) : Prop where
  named : out.proxyName ≠ ""
  localPort : 0 < out.localPort ∧ out.localPort ≤ 65535
  newName : out.proxyName ∉ seen.names
  short : out.proxyName.utf8ByteSize ≤ 48
  allowed : out.proxyType ∈ range.allowedProtocols
  protocol : out.proxyType = "tcp" ∨ out.proxyType = "udp"
  inRange : range.portStart ≤ out.remotePort ∧ out.remotePort ≤ range.portEnd
  onNode : validateNodeRemotePort rules.cfg out.remotePort = none
  newPort : (out.proxyType, out.remotePort) ∉ seen.ports
  free : rules.inUse out.proxyType out.remotePort = false
  granted : rules.grants = [] ∨ matchesAnyGrant out rules.grants = true

/-- A check that fails is an error. -/
lemma ite_error_eq_ok {α : Type} {c : Prop} [Decidable c] {reason : String} {rest : Except String α} {a : α} :
    (if c then .error reason else rest) = .ok a ↔ ¬ c ∧ rest = .ok a := by
  by_cases fails : c
  · rw [if_pos fails]
    exact iff_of_false nofun fun ok => ok.1 fails
  · rw [if_neg fails]
    exact (and_iff_right fails).symm

/-- The last checks, which the rounds share. -/
lemma portChecks_eq_ok {duplicated used uncovered : String} {covered : Bool} :
    (match validateNodeRemotePort rules.cfg out.remotePort with
      | some reason => Except.error reason
      | none =>
        if seen.ports.contains (out.proxyType, out.remotePort) then .error duplicated
        else if rules.inUse out.proxyType out.remotePort then .error used
        else if covered then .error uncovered
        else .ok out) = .ok proxy ↔
      (validateNodeRemotePort rules.cfg out.remotePort = none ∧
        (out.proxyType, out.remotePort) ∉ seen.ports ∧
        rules.inUse out.proxyType out.remotePort = false ∧ covered = false) ∧ out = proxy := by
  cases validateNodeRemotePort rules.cfg out.remotePort with
  | some => exact iff_of_false nofun fun ok => by cases ok.1.1
  | none =>
    dsimp only
    rw [ite_error_eq_ok, ite_error_eq_ok, ite_error_eq_ok, contains_iff_mem, Bool.not_eq_true,
      Bool.not_eq_true, Except.ok.injEq]
    simp only [true_and, and_assoc]

lemma checkBootstrapProxy_eq_ok : checkBootstrapProxy rules range seen proxy = .ok out ↔
    Permitted rules range seen (normalizeProxy proxy) ∧ normalizeProxy proxy = out := by
  unfold checkBootstrapProxy
  dsimp only
  generalize normalizeProxy proxy = p
  rw [ite_error_eq_ok, ite_error_eq_ok, ite_error_eq_ok, ite_error_eq_ok, ite_error_eq_ok, ite_error_eq_ok,
    portChecks_eq_ok]
  simp only [Bool.or_eq_true, Bool.and_eq_true, decide_eq_true_eq, not_or, not_and_or, not_not,
    List.contains_iff_mem, Bool.not_eq_true', Bool.and_eq_false_iff, Bool.not_eq_false', List.isEmpty_iff,
    Bool.not_eq_false, ne_eq]
  constructor
  · rintro ⟨⟨⟨⟨named, _⟩, port⟩, small⟩, newName, short, allowed, protocol, ⟨low, high⟩,
      ⟨onNode, newPort, free, granted⟩, rfl⟩
    exact ⟨⟨named, ⟨Nat.pos_of_ne_zero port, Nat.not_lt.mp small⟩, newName, Nat.not_lt.mp short, allowed,
      protocol, ⟨Nat.not_lt.mp low, Nat.not_lt.mp high⟩, onNode, newPort, free, granted.symm⟩, rfl⟩
  · rintro ⟨ok, rfl⟩
    -- a supported protocol is not the empty one
    have type : p.proxyType ≠ "" := by
      rcases ok.protocol with tcp | udp
      · rw [tcp]
        decide
      · rw [udp]
        decide
    exact ⟨⟨⟨⟨ok.named, type⟩, ok.localPort.1.ne'⟩, Nat.not_lt.mpr ok.localPort.2⟩, ok.newName,
      Nat.not_lt.mpr ok.short, ok.allowed, ok.protocol,
      ⟨Nat.not_lt.mpr ok.inRange.1, Nat.not_lt.mpr ok.inRange.2⟩,
      ⟨ok.onNode, ok.newPort, ok.free, ok.granted.symm⟩, rfl⟩

lemma checkEdgeProxy_eq_ok : checkEdgeProxy rules range seen proxy = .ok out ↔
    Permitted rules range seen (normalizeProxy proxy) ∧ normalizeProxy proxy = out := by
  unfold checkEdgeProxy
  dsimp only
  generalize normalizeProxy proxy = p
  rw [ite_error_eq_ok, ite_error_eq_ok, ite_error_eq_ok, ite_error_eq_ok, portChecks_eq_ok]
  simp only [Bool.or_eq_true, Bool.and_eq_true, decide_eq_true_eq, not_or, not_and_or, not_not,
    List.contains_iff_mem, Bool.not_eq_true', Bool.and_eq_false_iff, Bool.not_eq_false', List.isEmpty_iff,
    Bool.not_eq_false, ne_eq]
  constructor
  · rintro ⟨⟨⟨⟨named, port⟩, small⟩, protocol⟩, newName, short, ⟨⟨allowed, low⟩, high⟩,
      ⟨onNode, newPort, free, granted⟩, rfl⟩
    exact ⟨⟨named, ⟨Nat.pos_of_ne_zero port, Nat.not_lt.mp small⟩, newName, Nat.not_lt.mp short, allowed,
      protocol, ⟨Nat.not_lt.mp low, Nat.not_lt.mp high⟩, onNode, newPort, free, granted⟩, rfl⟩
  · rintro ⟨ok, rfl⟩
    exact ⟨⟨⟨⟨ok.named, ok.localPort.1.ne'⟩, Nat.not_lt.mpr ok.localPort.2⟩, ok.protocol⟩, ok.newName,
      Nat.not_lt.mpr ok.short,
      ⟨⟨ok.allowed, Nat.not_lt.mpr ok.inRange.1⟩, Nat.not_lt.mpr ok.inRange.2⟩,
      ⟨ok.onNode, ok.newPort, ok.free, ok.granted⟩, rfl⟩

/-! ## The loops -/

/-- Every accepted proxy is permitted, and no name or port is accepted twice. -/
structure AllPermitted (rules : ProxyRules) (range : UserResourcePolicy) (seen : Requested)
    (accepted : List ProxyAllocationInput) : Prop where
  each : ∀ a ∈ accepted, Permitted rules range seen a
  names : (accepted.map ProxyAllocationInput.proxyName).Nodup
  ports : (accepted.map fun a => (a.proxyType, a.remotePort)).Nodup

/-- The later rounds are made against one more name and port. -/
lemma allPermitted_cons : AllPermitted rules range seen (out :: accepted) ↔
    Permitted rules range seen out ∧ AllPermitted rules range (seen.add out) accepted := by
  constructor
  · rintro ⟨each, names, ports⟩
    rw [map_cons, nodup_cons] at names ports
    refine ⟨each out mem_cons_self, ⟨fun a m => ?_, names.2, ports.2⟩⟩
    have ok := each a (mem_cons_of_mem _ m)
    refine { ok with newName := fun again => ?_, newPort := fun again => ?_ }
    · rcases mem_cons.mp again with same | old
      · exact names.1 (mem_map.mpr ⟨a, m, same⟩)
      · exact ok.newName old
    · rcases mem_cons.mp again with same | old
      · exact ports.1 (mem_map.mpr ⟨a, m, same⟩)
      · exact ok.newPort old
  · rintro ⟨first, later⟩
    refine ⟨fun a m => ?_, ?_, ?_⟩
    · rcases mem_cons.mp m with rfl | m
      · exact first
      · have ok := later.each a m
        exact { ok with
          newName := fun old => ok.newName (mem_cons_of_mem _ old)
          newPort := fun old => ok.newPort (mem_cons_of_mem _ old) }
    · rw [map_cons, nodup_cons]
      refine ⟨fun m => ?_, later.names⟩
      obtain ⟨a, ma, same⟩ := mem_map.mp m
      exact (later.each a ma).newName (same ▸ mem_cons_self)
    · rw [map_cons, nodup_cons]
      refine ⟨fun m => ?_, later.ports⟩
      obtain ⟨a, ma, same⟩ := mem_map.mp m
      exact (later.each a ma).newPort (same ▸ mem_cons_self)

/-- A loop accepts the trimmed request if all of it is permitted. -/
lemma checkAll_eq_ok {check : Requested → ProxyAllocationInput → Except String ProxyAllocationInput}
    (round : ∀ seen proxy out, check seen proxy = .ok out ↔
      Permitted rules range seen (normalizeProxy proxy) ∧ normalizeProxy proxy = out) :
    checkAll check seen proxies = .ok accepted ↔
      AllPermitted rules range seen accepted ∧ accepted = proxies.map normalizeProxy := by
  induction proxies generalizing seen accepted with
  | nil =>
    rw [checkAll, Except.ok.injEq, map_nil]
    constructor
    · rintro rfl
      exact ⟨⟨nofun, nodup_nil, nodup_nil⟩, rfl⟩
    · exact fun all => all.2.symm
  | cons proxy proxies ih =>
    unfold checkAll
    rw [map_cons]
    cases first : check seen proxy with
    | error =>
      refine iff_of_false nofun ?_
      rintro ⟨all, rfl⟩
      rw [(round ..).mpr ⟨(allPermitted_cons.mp all).1, rfl⟩] at first
      cases first
    | ok =>
      obtain ⟨ok, rfl⟩ := (round ..).mp first
      dsimp only
      cases rest : checkAll check (seen.add (normalizeProxy proxy)) proxies with
      | error =>
        refine iff_of_false nofun ?_
        rintro ⟨all, rfl⟩
        rw [ih.mpr ⟨(allPermitted_cons.mp all).2, rfl⟩] at rest
        cases rest
      | ok =>
        obtain ⟨later, rfl⟩ := ih.mp rest
        rw [Except.ok.injEq]
        constructor
        · rintro rfl
          exact ⟨allPermitted_cons.mpr ⟨ok, later⟩, rfl⟩
        · exact fun all => all.2.symm

/-! ## The whole request -/

/-- What both functions ask of the request before their loop. -/
structure Eligible (rules : ProxyRules) (proxies : List ProxyAllocationInput)
    (policy range : UserResourcePolicy) : Prop where
  nonempty : proxies ≠ []
  found : rules.policy = some policy
  enabled : policy.enabled = true
  userLimit : 0 < policy.maxPorts → proxies.length ≤ policy.maxPorts
  tokenLimit : 0 < rules.token.maxProxyCount → proxies.length ≤ rules.token.maxProxyCount
  overlap : intersectNodePortRange policy rules.cfg = some range

lemma limit_iff {limit : Nat} :
    ¬ (decide (limit > 0) && decide (proxies.length > limit)) = true ↔
      (0 < limit → proxies.length ≤ limit) := by
  rw [Bool.and_eq_true, decide_eq_true_eq, decide_eq_true_eq, not_and, Nat.not_lt]

/-- The checks before the loop, the same up to their messages. -/
lemma requestChecks_eq_ok {check : UserResourcePolicy → Requested → ProxyAllocationInput →
      Except String ProxyAllocationInput} {empty disabled tokenLimit apart : String}
    {userLimit : UserResourcePolicy → String}
    (round : ∀ range seen proxy out, check range seen proxy = .ok out ↔
      Permitted rules range seen (normalizeProxy proxy) ∧ normalizeProxy proxy = out) :
    (if proxies.isEmpty then Except.error empty
      else
        match rules.policy.filter (·.enabled) with
        | none => .error disabled
        | some policy =>
          if policy.maxPorts > 0 && proxies.length > policy.maxPorts then .error (userLimit policy)
          else if rules.token.maxProxyCount > 0 && proxies.length > rules.token.maxProxyCount then
            .error tokenLimit
          else
            match intersectNodePortRange policy rules.cfg with
            | none => .error apart
            | some policy => checkAll (check policy) {} proxies) = .ok accepted ↔
    ∃ policy range, Eligible rules proxies policy range ∧ AllPermitted rules range {} accepted ∧
      accepted = proxies.map normalizeProxy := by
  rw [ite_error_eq_ok, List.isEmpty_iff]
  cases found : rules.policy.filter (·.enabled) with
  | none =>
    refine iff_of_false (fun ok => by cases ok.2) ?_
    rintro ⟨policy, range, ok, _⟩
    rw [Option.filter_eq_none_iff] at found
    exact found policy ok.found ok.enabled
  | some p =>
    obtain ⟨found, enabled⟩ := Option.filter_eq_some_iff.mp found
    dsimp only
    rw [ite_error_eq_ok, ite_error_eq_ok, limit_iff, limit_iff]
    constructor
    · rintro ⟨nonempty, user, token, loop⟩
      split at loop
      · cases loop
      · rename_i range overlap
        exact ⟨p, range, ⟨nonempty, found, enabled, user, token, overlap⟩,
          (checkAll_eq_ok (round range)).mp loop⟩
    · rintro ⟨_, range, ok, loop⟩
      cases found.symm.trans ok.found
      rw [ok.overlap]
      exact ⟨ok.nonempty, ok.userLimit, ok.tokenLimit, (checkAll_eq_ok (round range)).mpr loop⟩

/-- What the controller accepts. -/
lemma validateBootstrapProxies_eq_ok : validateBootstrapProxies rules proxies = .ok accepted ↔
    ∃ policy range, Eligible rules proxies policy range ∧ AllPermitted rules range {} accepted ∧
      accepted = proxies.map normalizeProxy :=
  requestChecks_eq_ok fun _ _ _ _ => checkBootstrapProxy_eq_ok

/-- What the edge accepts. -/
lemma validateEdgeProxies_eq_ok : validateEdgeProxies rules proxies = .ok accepted ↔
    ∃ policy range, Eligible rules proxies policy range ∧ AllPermitted rules range {} accepted ∧
      accepted = proxies.map normalizeProxy :=
  requestChecks_eq_ok fun _ _ _ _ => checkEdgeProxy_eq_ok

/-- On the same rules both accept the same, with the same allocations. -/
lemma validateEdgeProxies_eq_ok_iff : validateEdgeProxies rules proxies = .ok accepted ↔
    validateBootstrapProxies rules proxies = .ok accepted := by
  rw [validateEdgeProxies_eq_ok, validateBootstrapProxies_eq_ok]

/-- The checks before the loop read the policy, the token and the node. -/
lemma Eligible.congr {rules' : ProxyRules} (same : rules.policy = rules'.policy) (token : rules.token = rules'.token)
    (cfg : rules.cfg = rules'.cfg) (ok : Eligible rules proxies policy range) : Eligible rules' proxies policy range :=
  { ok with found := same ▸ ok.found, tokenLimit := token ▸ ok.tokenLimit, overlap := cfg ▸ ok.overlap }

/-- The controller accepts only ports that no other client holds. -/
lemma validateBootstrapProxies_free (e : validateBootstrapProxies rules proxies = .ok accepted) :
    ∀ a ∈ accepted, rules.inUse a.proxyType a.remotePort = false := by
  obtain ⟨_, _, _, permitted, _⟩ := validateBootstrapProxies_eq_ok.mp e
  exact fun a m => (permitted.each a m).free

/-- The controller accepts only proxies with a name. -/
lemma validateBootstrapProxies_named (e : validateBootstrapProxies rules proxies = .ok accepted) :
    ∀ a ∈ accepted, a.proxyName ≠ "" := by
  obtain ⟨_, _, _, permitted, _⟩ := validateBootstrapProxies_eq_ok.mp e
  exact fun a m => (permitted.each a m).named

/-- The edge accepts only ports that no other client holds. -/
lemma validateEdgeProxies_free (e : validateEdgeProxies rules proxies = .ok accepted) :
    ∀ a ∈ accepted, rules.inUse a.proxyType a.remotePort = false :=
  validateBootstrapProxies_free (validateEdgeProxies_eq_ok_iff.mp e)

/-- The controller accepts no more proxies than the policy allows. -/
lemma validateBootstrapProxies_within (e : validateBootstrapProxies rules proxies = .ok accepted) :
    ∃ p, rules.policy = some p ∧ p.enabled = true ∧ (0 < p.maxPorts → accepted.length ≤ p.maxPorts) := by
  obtain ⟨policy, _, ok, _, rfl⟩ := validateBootstrapProxies_eq_ok.mp e
  exact ⟨policy, ok.found, ok.enabled, fun limited => (length_map _).trans_le (ok.userLimit limited)⟩

/-- The edge accepts no more proxies than the policy allows. -/
lemma validateEdgeProxies_within (e : validateEdgeProxies rules proxies = .ok accepted) :
    ∃ p, rules.policy = some p ∧ p.enabled = true ∧ (0 < p.maxPorts → accepted.length ≤ p.maxPorts) :=
  validateBootstrapProxies_within (validateEdgeProxies_eq_ok_iff.mp e)

end MeowFrp.Api
