import MeowFrp.Core.Drain
import MeowFrp.Lib.Machine
import MeowFrp.Node.Fault

/-!
# Outages of an edge and the ports of its clients

The machine of an edge that loses its controller: the flags of the control channel, the transitions of
`transitionNodeFault`, client requests as far as they touch the outage state, and the FRP server's
registrations with the fence of `Core.Admission`. `transitionNodeFault` first moves the fence, waiting
for the registrations in progress, and then marks the clients; a heartbeat, however, goes by the flags
of the control channel, which are changed before the fence is moved.

A resource-policy request is a login. It decides under `fault.mu` whether the client's drain is over and
then waits for the fence's lock, still holding `fault.mu`; whatever needs that lock waits for it.

What identities a request is checked against is left open: a request whose credential is accepted names
the row of its client, whose id is trimmed, and the token that its hash stands for.
-/

namespace MeowFrp.Node

open Lib MeowFrp.Core List Option

/-- The token hash, the token and the client id of an entry. -/
def FaultClient.identity (c : FaultClient) : String × Nat × String := (c.tokenHash, c.tokenId, c.clientId)

namespace Memory

variable {m : Memory}

/-- The client whose drain `rememberClient` finishes. -/
def finishes (m : Memory) (tokenHash : String) (client : Client) (login : Bool) :
    Option (Nat × String) :=
  match m.lookupClient tokenHash client.clientId with
  | some c =>
    if login && c.draining && !m.fault.closed && m.core.clientProxyCount c.tokenId c.clientId = 0 then
      some (c.tokenId, c.clientId)
    else none
  | none =>
    if login && !m.fault.closed && m.core.clientProxyCount client.tokenId client.clientId = 0 then
      some (client.tokenId, client.clientId)
    else none

/-- The entry is the request's or has the identity of an older one. -/
def Carries (m : Memory) (tokenHash : String) (client : Client) (c : FaultClient) : Prop :=
  c.identity = (tokenHash, client.tokenId, client.clientId) ∨
    ∃ d ∈ m.fault.clients, c.identity = d.identity

lemma mem_of_lookupClient {tokenHash clientId c} (found : m.lookupClient tokenHash clientId = some c) :
    c ∈ m.fault.clients ∧ c.tokenHash = tokenHash ∧ trimSpace c.clientId = trimSpace clientId := by
  refine ⟨mem_of_find?_eq_some found, ?_⟩
  have hit := List.find?_some found
  rw [Bool.and_eq_true] at hit
  exact ⟨of_decide_eq_true hit.1, of_decide_eq_true hit.2⟩

/-- `rememberClient` finishes at most one drain and replaces one entry. -/
lemma rememberClient_eq {now tokenHash client login} :
    ∃ c,
      m.rememberClient now tokenHash client login =
        ((m.finishes tokenHash client login).elim m fun key => m.finishDrain key.1 key.2).putClient c ∧
      m.Carries tokenHash client c := by
  unfold rememberClient finishes
  cases found : m.lookupClient tokenHash client.clientId with
  | none =>
    dsimp only
    split <;> exact ⟨_, rfl, .inl rfl⟩
  | some c =>
    have old := (mem_of_lookupClient found).1
    dsimp only
    split
    · exact ⟨_, rfl, .inr ⟨c, old, rfl⟩⟩
    · exact ⟨_, rfl, .inr ⟨c, old, rfl⟩⟩

end Memory

/-- Drains are added, and no identity is. -/
structure NodeFault.Extends (fault fault' : NodeFault) : Prop where
  drains : fault.drains ⊆ fault'.drains
  clients : ∀ c ∈ fault'.clients, ∃ d ∈ fault.clients, c.identity = d.identity

lemma NodeFault.Extends.refl {fault : NodeFault} : fault.Extends fault :=
  ⟨fun _ d => d, fun c mc => ⟨c, mc, rfl⟩⟩

namespace Memory

variable {m : Memory}

/-- A client is put in. -/
lemma mem_putClient {c d} (md : d ∈ (m.putClient c).fault.clients) : d = c ∨ d ∈ m.fault.clients := by
  rcases mem_cons.mp md with rfl | old
  · exact .inl rfl
  · exact .inr (mem_of_mem_filter old)

lemma extends_putClient {fault : NodeFault} {c} (ext : fault.Extends m.fault)
    (old : ∃ d ∈ fault.clients, c.identity = d.identity) : fault.Extends (m.putClient c).fault := by
  refine ⟨ext.drains, fun d md => ?_⟩
  rcases mem_putClient md with rfl | older
  · exact old
  · exact ext.clients d older

/-- The drain that a heartbeat on a closed or unavailable node records. -/
def recordDrain (m : Memory) (drains : Bool) (key : Nat × String) : Memory :=
  if drains then { m with fault := { m.fault with drains := m.fault.drains ++ [key] } } else m

/-- A drain is added. -/
lemma extends_recordDrain {drains key} : m.fault.Extends (m.recordDrain drains key).fault := by
  unfold recordDrain
  split
  · exact ⟨subset_append_left .., NodeFault.Extends.refl.clients⟩
  · exact .refl

/-- A heartbeat finds its client draining: the node is closed, or the controller out of reach. -/
def drainsAll (m : Memory) (cfg : Api.NodeConfig) (edgeUnavailable : Bool) : Bool :=
  (m.fault.closed && (cfg.mode = .edge || m.fault.databaseFailed)) || edgeUnavailable

/-- What `faultHeartbeat` does: it records the drain, replaces the entry at most, and tells the client to log
in again only when it drains and the core counts no proxy of it. -/
lemma faultHeartbeat_spec {cfg now u v tokenHash clientId c}
    (found : m.lookupClient tokenHash clientId = some c) :
    ∃ m₁, m₁ = m.recordDrain (m.drainsAll cfg v) (faultDrainKey c.tokenId c.clientId) ∧
      ((m.faultHeartbeat cfg now u v tokenHash clientId).1 = m₁ ∨
        ∃ d, (m.faultHeartbeat cfg now u v tokenHash clientId).1 = m₁.putClient d ∧
          d.identity = c.identity) ∧
      ∀ warning, (m.faultHeartbeat cfg now u v tokenHash clientId).2 = some (.draining true warning) →
        (c.draining || m.drainsAll cfg v) = true ∧
          m₁.core.clientProxyCount c.tokenId c.clientId = 0 := by
  refine ⟨_, rfl, ?_⟩
  unfold faultHeartbeat
  rw [found]
  dsimp only
  rw [← recordDrain, ← drainsAll]
  generalize m.recordDrain _ _ = m₁
  split
  · split
    · exact ⟨.inr ⟨_, rfl, rfl⟩, fun _ reply => by cases reply⟩
    · exact ⟨.inl rfl, fun _ reply => by cases reply⟩
  · rename_i drains
    rw [Bool.not_eq_true', Bool.not_eq_false] at drains
    refine ⟨.inr ⟨_, rfl, rfl⟩, fun _ reply => ⟨drains, ?_⟩⟩
    have reauth := (FaultReply.draining.inj (Option.some.inj reply)).1
    exact of_decide_eq_true ((Bool.and_eq_true _ _).mp reauth).1

/-- A heartbeat adds drains only. -/
lemma extends_faultHeartbeat {cfg now u v tokenHash clientId} :
    m.fault.Extends (m.faultHeartbeat cfg now u v tokenHash clientId).1.fault := by
  cases found : m.lookupClient tokenHash clientId with
  | none =>
    unfold faultHeartbeat
    rw [found]
    exact .refl
  | some c =>
    obtain ⟨_, rfl, memory | ⟨_, memory, same⟩, -⟩ := faultHeartbeat_spec found
    · rw [memory]
      exact extends_recordDrain
    · rw [memory]
      exact extends_putClient extends_recordDrain ⟨c, (mem_of_lookupClient found).1, same⟩

/-- Whom `faultHeartbeat` tells to log in again: a draining client without a proxy. -/
lemma faultHeartbeat_reauth {cfg now u v tokenHash clientId warning}
    (reply : (m.faultHeartbeat cfg now u v tokenHash clientId).2 = some (.draining true warning)) :
    ∃ c, m.lookupClient tokenHash clientId = some c ∧ (c.draining || m.drainsAll cfg v) = true ∧
      m.core.clientProxyCount c.tokenId c.clientId = 0 ∧
      (m.drainsAll cfg v = true → faultDrainKey c.tokenId c.clientId ∈
        (m.faultHeartbeat cfg now u v tokenHash clientId).1.fault.drains) := by
  cases found : m.lookupClient tokenHash clientId with
  | none =>
    unfold faultHeartbeat at reply
    rw [found] at reply
    dsimp only at reply
    split at reply <;> cases reply
  | some c =>
    obtain ⟨_, rfl, memory, told⟩ := faultHeartbeat_spec found
    obtain ⟨drains, count⟩ := told _ reply
    refine ⟨c, rfl, drains, ?_, fun all => ?_⟩
    · unfold recordDrain at count
      split at count <;> exact count
    · rw [all] at memory
      have recorded : faultDrainKey c.tokenId c.clientId ∈
          (m.recordDrain true (faultDrainKey c.tokenId c.clientId)).fault.drains :=
        mem_append_right _ mem_cons_self
      obtain memory | ⟨_, memory, -⟩ := memory <;> rw [memory]
      · exact recorded
      · exact recorded

end Memory

/-- The settings of the node, the client of a lease id, and the token of a hash. -/
structure World where
  cfg : Api.NodeConfig
  owner : String → Nat × String
  tokenOf : String → Nat
  edge : cfg.mode = .edge := by rfl

/-- An approved proxy that is not registered yet. -/
structure Approval where
  leaseId : String
  runId : String
  name : String
  deriving DecidableEq, Repr

/-- The state of the edge. -/
structure Outage where
  admission : Admission := {}
  fault : NodeFault := {}
  now : Time := 0
  connected : Bool := false
  syncReady : Bool := false
  controllerFault : Bool := false
  identityResetPending : Bool := true
  approved : List Approval := []
  /-- transitions that have moved the fence, with clients still to mark -/
  marking : List Bool := []
  /-- the login that holds `fault.mu` and waits for the fence, with the state it leaves -/
  held : Option ((Nat × String) × NodeFault) := none

namespace Outage

section Steps

variable (w : World)

/-- The steps. -/
inductive Action where
  | tick (elapsed : Nat)
  /-- the control channel changes its flags -/
  | link (connected syncReady controllerFault identityResetPending : Bool)
  /-- the local store is probed -/
  | probe (failed : Bool)
  /-- `transitionNodeFault` moves the fence -/
  | fence (closed : Bool)
  /-- it marks the clients -/
  | mark (closed : Bool)
  | heartbeat (tokenHash clientId : String)
  /-- the credential of a request other than a login is accepted -/
  | credential (tokenHash : String) (client : Client)
  /-- the credential of a resource-policy request is accepted; `policy` is the cached one -/
  | resourcePolicy (tokenHash : String) (client : Client) (policy : Option UserResourcePolicy)
  /-- the waiting login gets the lock of the fence -/
  | finish
  /-- an FRP `Login` is accepted -/
  | login (lease : RuntimeLease)
  /-- a `NewProxy` is approved -/
  | newProxy (lease : RuntimeLease) (runId name : String)
  /-- the FRP server begins to register an approved proxy -/
  | begin (approval : Approval)
  | opened (leaseId runId name : String)
  | release (leaseId : String)
  | closed (runId name : String)
  /-- leases are invalidated by a logout, a timeout or a snapshot -/
  | invalidate (covered : RuntimeLease → Bool)

/-- The memory of the node. -/
def memory (s : Outage) : Memory := ⟨s.admission.core, s.fault⟩

/-- Go `edgeOnlineForNewSessions`. -/
def edgeOnlineForNewSessions (s : Outage) : Bool :=
  !(s.fault.closed || s.fault.localFailed) && s.connected && s.syncReady && !s.controllerFault

/-- Go `nodeUnavailableEdge`. -/
def nodeUnavailableEdge (s : Outage) : Bool :=
  !s.connected || s.controllerFault || s.identityResetPending

/-- The answer of `faultHeartbeat`. -/
def answer (s : Outage) (tokenHash clientId : String) : Memory × Option Memory.FaultReply :=
  s.memory.faultHeartbeat w.cfg s.now (!s.edgeOnlineForNewSessions) s.nodeUnavailableEdge tokenHash clientId

/-- The login is answered with the policy (Go `edgeClientResourcePolicy`). -/
def accepts (policy : Option UserResourcePolicy) : Bool :=
  ((policy.filter (·.enabled)).bind (Api.intersectNodePortRange · w.cfg)).isSome

/-- The request names the row of its client and the token of its hash. -/
def names (tokenHash : String) (client : Client) : Bool :=
  client.tokenId = w.tokenOf tokenHash && trimSpace client.clientId = client.clientId

/-- An operation of the FRP core. -/
def withAdmission (s : Outage) (a : Admission.Action) : Option Outage :=
  (s.admission.step w.owner a).map fun admission => { s with admission }

/-- Go `rememberClient` up to the lock of the fence. -/
def remember (s : Outage) (tokenHash : String) (client : Client) (login : Bool) : Outage :=
  let fault := (s.memory.rememberClient s.now tokenHash client login).fault
  match s.memory.finishes tokenHash client login with
  | some key => { s with held := some (key, fault) }
  | none => { s with fault }

/-- One step; `none` when it is not enabled. -/
def step (s : Outage) : Action → Option Outage
  | .tick elapsed => some { s with now := s.now + elapsed }
  | .link connected syncReady controllerFault identityResetPending =>
    some { s with connected, syncReady, controllerFault, identityResetPending }
  | .probe failed =>
    if s.held.isSome then none else some { s with fault := { s.fault with localFailed := failed } }
  | .fence closed =>
    -- an edge whose own store failed does not reopen
    if !closed && s.fault.localFailed then none
    else (s.withAdmission w (.setAdmissionClosed closed)).map fun s =>
      { s with marking := closed :: s.marking }
  | .mark closed =>
    if s.held.isSome || !s.marking.contains closed then none
    else some { s with
      fault := (s.memory.transitionNodeFault false closed).fault, marking := s.marking.erase closed }
  | .heartbeat tokenHash clientId =>
    if s.held.isSome then none
    else some { s with fault := (s.answer w tokenHash clientId).1.fault }
  | .credential tokenHash client =>
    if s.held.isSome || !names w tokenHash client then none
    else some (s.remember tokenHash client false)
  | .resourcePolicy tokenHash client _ =>
    if s.held.isSome || !names w tokenHash client || !s.edgeOnlineForNewSessions then none
    else some (s.remember tokenHash client true)
  | .finish =>
    match s.held with
    | none => none
    | some (key, fault) =>
      (s.withAdmission w (.finishClientDrain key.1 key.2)).map fun s => { s with fault, held := none }
  | .login lease =>
    if s.held.isSome || !s.edgeOnlineForNewSessions then none
    else s.withAdmission w (.rememberRuntimeLease lease)
  | .newProxy lease runId name =>
    if s.held.isSome || !s.edgeOnlineForNewSessions ||
        s.memory.clientIsDraining lease.tokenId lease.clientId ||
        Manager.clientKey lease ≠ w.owner lease.leaseId then none
    else some { s with approved := ⟨lease.leaseId, runId, name⟩ :: s.approved }
  | .begin approval =>
    if approval ∈ s.approved then
      (s.withAdmission w (.begin approval.leaseId)).map fun s =>
        { s with approved := s.approved.erase approval }
    else none
  | .opened leaseId runId name => s.withAdmission w (.opened leaseId runId name)
  | .release leaseId => s.withAdmission w (.release leaseId)
  | .closed runId name => s.withAdmission w (.closed runId name)
  | .invalidate covered => s.withAdmission w (.invalidateRuntime covered)

/-- The edge before anything happened. -/
def machine : Machine Outage Action where
  Init s := (Admission.machine w.owner).Init s.admission ∧ s.fault.clients = [] ∧ s.fault.drains = [] ∧
    s.approved = [] ∧ s.marking = [] ∧ s.held = none
  step := step w

end Steps

/-! ## What a step can do -/

/-- The ways a step can end. -/
inductive Kind (w : World) (s : Outage) : Action → Outage → Prop
  | aside {a s'} (admission : s'.admission = s.admission) (approved : s'.approved = s.approved)
      (held : s'.held = s.held) (clients : s'.fault.clients = s.fault.clients)
      (drains : s'.fault.drains = s.fault.drains) : Kind w s a s'
  /-- a call of the FRP core that neither begins a registration nor finishes a drain -/
  | called {a b admission marking} (st : s.admission.step w.owner b = some admission)
      (begins : ∀ leaseId, b ≠ .begin leaseId)
      (finishes : ∀ tokenId clientId, b ≠ .finishClientDrain tokenId clientId) :
      Kind w s a { s with admission, marking }
  | begun {r admission} (approved : r ∈ s.approved)
      (st : s.admission.step w.owner (.begin r.leaseId) = some admission) :
      Kind w s (.begin r) { s with admission, approved := s.approved.erase r }
  | finished {key fault admission} (held : s.held = some (key, fault))
      (st : s.admission.step w.owner (.finishClientDrain key.1 key.2) = some admission) :
      Kind w s .finish { s with admission, fault, held := none }
  | extended {a fault marking} (free : s.held = none) (ext : s.fault.Extends fault) :
      Kind w s a { s with fault, marking }
  | remembered {a tokenHash client login} (free : s.held = none) (named : names w tokenHash client)
      (stays : s.memory.finishes tokenHash client login = none) :
      Kind w s a { s with fault := (s.memory.rememberClient s.now tokenHash client login).fault }
  | waiting {tokenHash client policy key} (free : s.held = none) (named : names w tokenHash client)
      (found : s.memory.finishes tokenHash client true = some key) :
      Kind w s (.resourcePolicy tokenHash client policy)
        { s with held := some (key, (s.memory.rememberClient s.now tokenHash client true).fault) }
  | approved {lease runId name} (own : Manager.clientKey lease = w.owner lease.leaseId)
      (drains : s.memory.clientIsDraining lease.tokenId lease.clientId = false) :
      Kind w s (.newProxy lease runId name)
        { s with approved := ⟨lease.leaseId, runId, name⟩ :: s.approved }

variable {w : World} {s s' : Outage} {a : Action}

/-- Only a login finishes a drain. -/
lemma finishes_false {m : Memory} {tokenHash client} : m.finishes tokenHash client false = none := by
  unfold Memory.finishes
  split <;> rfl

lemma extends_mark {closed} : s.fault.Extends (s.memory.transitionNodeFault false closed).fault := by
  cases closed with
  | false => exact ⟨fun _ d => d, fun c mc => ⟨c, mc, rfl⟩⟩
  | true =>
    refine ⟨subset_append_left .., fun c mc => ?_⟩
    obtain ⟨d, md, rfl⟩ := mem_map.mp mc
    exact ⟨d, md, rfl⟩

/-- Inversion of an operation of the core. -/
lemma withAdmission_some {b} (st : s.withAdmission w b = some s') :
    ∃ admission, s.admission.step w.owner b = some admission ∧ s' = { s with admission } := by
  obtain ⟨admission, call, rfl⟩ := map_eq_some_iff.mp st
  exact ⟨admission, call, rfl⟩

lemma withAdmission_map {b} {f : Outage → Outage} (st : (s.withAdmission w b).map f = some s') :
    ∃ admission, s.admission.step w.owner b = some admission ∧ s' = f { s with admission } := by
  obtain ⟨_, called, rfl⟩ := map_eq_some_iff.mp st
  obtain ⟨admission, call, rfl⟩ := withAdmission_some called
  exact ⟨admission, call, rfl⟩

/-- Inversion of a step. -/
lemma step_kind (st : step w s a = some s') : Kind w s a s' := by
  cases a with
  | tick | link =>
    cases st
    exact .aside rfl rfl rfl rfl rfl
  | probe =>
    obtain ⟨_, ⟨⟩⟩ := ite_none_left_eq_some.mp st
    exact .aside rfl rfl rfl rfl rfl
  | fence =>
    obtain ⟨_, moved⟩ := ite_none_left_eq_some.mp st
    obtain ⟨_, call, rfl⟩ := withAdmission_map moved
    exact .called call nofun nofun
  | mark =>
    obtain ⟨guard, ⟨⟩⟩ := ite_none_left_eq_some.mp st
    simp only [Bool.or_eq_true, not_or] at guard
    exact .extended (not_isSome_iff_eq_none.mp guard.1) extends_mark
  | heartbeat tokenHash clientId =>
    obtain ⟨free, ⟨⟩⟩ := ite_none_left_eq_some.mp st
    have ext : s.fault.Extends (s.answer w tokenHash clientId).1.fault :=
      Memory.extends_faultHeartbeat (m := s.memory)
    exact .extended (not_isSome_iff_eq_none.mp free) ext
  | credential =>
    obtain ⟨guard, ⟨⟩⟩ := ite_none_left_eq_some.mp st
    simp only [Bool.or_eq_true, not_or, Bool.not_eq_true', Bool.not_eq_false] at guard
    unfold remember
    rw [finishes_false]
    exact .remembered (not_isSome_iff_eq_none.mp guard.1) guard.2 finishes_false
  | resourcePolicy =>
    obtain ⟨guard, ⟨⟩⟩ := ite_none_left_eq_some.mp st
    simp only [Bool.or_eq_true, not_or, Bool.not_eq_true', Bool.not_eq_false] at guard
    have free := not_isSome_iff_eq_none.mp guard.1.1
    unfold remember
    dsimp only
    split
    · exact .waiting free guard.1.2 ‹_›
    · exact .remembered free guard.1.2 ‹_›
  | finish =>
    simp only [step] at st
    split at st
    · cases st
    · rename_i key fault held
      obtain ⟨_, call, rfl⟩ := withAdmission_map st
      exact .finished held call
  | login =>
    obtain ⟨_, accepted⟩ := ite_none_left_eq_some.mp st
    obtain ⟨_, call, rfl⟩ := withAdmission_some accepted
    exact .called call nofun nofun
  | newProxy =>
    obtain ⟨guard, ⟨⟩⟩ := ite_none_left_eq_some.mp st
    simp only [Bool.or_eq_true, not_or, Bool.not_eq_true, decide_eq_true_eq, not_not] at guard
    exact .approved guard.2 guard.1.2
  | begin =>
    obtain ⟨approved, begun⟩ := ite_none_right_eq_some.mp st
    obtain ⟨_, call, rfl⟩ := withAdmission_map begun
    exact .begun approved call
  | opened | release | closed | invalidate =>
    obtain ⟨_, call, rfl⟩ := withAdmission_some st
    exact .called call nofun nofun

/-- A login that gets the lock has done what Go `rememberClient` does. -/
lemma memory_finish {tokenHash client login} (free : s.held = none)
    (st : step w (s.remember tokenHash client login) .finish = some s') :
    s'.memory = s.memory.rememberClient s.now tokenHash client login := by
  obtain ⟨_, whole, -⟩ := @Memory.rememberClient_eq s.memory s.now tokenHash client login
  unfold remember at st
  cases found : s.memory.finishes tokenHash client login with
  | none =>
    rw [found] at st
    simp only [step, free] at st
    cases st
  | some =>
    rw [found] at st whole
    simp only [step] at st
    obtain ⟨_, call, rfl⟩ := withAdmission_map st
    obtain ⟨_, ⟨⟩⟩ := ite_none_right_eq_some.mp call
    rw [whole]
    rfl

end Outage

end MeowFrp.Node
