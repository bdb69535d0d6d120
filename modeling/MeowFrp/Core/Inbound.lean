import MeowFrp.Core.Manager
import MeowFrp.Lib.Machine

/-!
# Blocked inbound addresses

The in-memory list of blocked addresses of the FRP core (Go `internal/frpcore/manager.go`), and its
concurrent use. The FRP server admits a user connection in two critical sections: `IsInboundBlocked`
looks the address up, and `RegisterTCPConnection` tracks the connection later, without looking again.
A ban closes the tracked connections of its address. Between the two sections a ban finds nothing to
close, and the connection is registered after it (`banned_ip_stays_connected`). A ban that finds no
admission from its address halfway leaves no connection of it, until the address is unblocked.
-/

namespace MeowFrp.Core

open Lib List Manager

/-- The first component of Go `splitAddr`. -/
def inboundIp (remoteAddr : String) : String :=
  match splitHostPort (trimSpace remoteAddr) with
  | none => trimSpace remoteAddr
  | some (host, _) => host

namespace Manager

/-- Go `IsInboundBlocked`. -/
def isInboundBlocked (m : Manager) (remoteAddr : String) : Bool :=
  inboundIp remoteAddr ≠ "" && m.blockedInboundIps.any (·.ip = inboundIp remoteAddr)

/-- Go `setBlockedInboundIP`; UDP flows are dropped in any case. -/
def setBlocked (m : Manager) (block : BlockedIp) (closeExisting : Bool) : Manager :=
  { m with
    blockedInboundIps := block :: m.blockedInboundIps.filter (·.ip ≠ block.ip)
    tcpConnections :=
      if closeExisting then m.tcpConnections.filter (inboundIp ·.remoteAddr ≠ block.ip)
      else m.tcpConnections
    udpFlows := m.udpFlows.filter (inboundIp ·.remoteAddr ≠ block.ip) }

/-- A block without a time is blocked now. -/
def stamped (now : Time) (block : BlockedIp) : BlockedIp :=
  if block.createdAt = 0 then { block with createdAt := now } else block

/-- Go `BlockInboundIP`. -/
def blockInboundIp (m : Manager) (now : Time) (ip reason : String) : Manager :=
  m.setBlocked ⟨trimSpace ip, trimSpace reason, now⟩ true

/-- Go `SetBlockedInboundIP`. -/
def setBlockedInboundIp (m : Manager) (now : Time) (block : BlockedIp) : Manager :=
  m.setBlocked (stamped now block) false

/-- Go `EnforceBlockedInboundIP`. -/
def enforceBlockedInboundIp (m : Manager) (now : Time) (block : BlockedIp) : Manager :=
  m.setBlocked (stamped now block) true

/-- Go `UnblockInboundIP`. -/
def unblockInboundIp (m : Manager) (ip : String) : Manager :=
  { m with blockedInboundIps := m.blockedInboundIps.filter (·.ip ≠ trimSpace ip) }

/-- The address is on the list. -/
def Blocked (m : Manager) (ip : String) : Prop := ∃ b ∈ m.blockedInboundIps, b.ip = ip

variable {m : Manager} {ip : String}

@[simp]
lemma stamped_ip {now block} : (stamped now block).ip = block.ip := by
  unfold stamped
  split <;> rfl

/-- One more address is blocked. -/
lemma blocked_setBlocked {block closeExisting} :
    (m.setBlocked block closeExisting).Blocked ip ↔ m.Blocked ip ∨ ip = block.ip := by
  constructor
  · rintro ⟨b, mb, rfl⟩
    rcases mem_cons.mp mb with rfl | old
    · exact .inr rfl
    · exact .inl ⟨b, mem_of_mem_filter old, rfl⟩
  · rintro (⟨b, mb, rfl⟩ | rfl)
    · by_cases same : b.ip = block.ip
      · exact ⟨block, mem_cons_self, same.symm⟩
      · exact ⟨b, mem_cons_of_mem _ (mem_filter.mpr ⟨mb, decide_eq_true same⟩), rfl⟩
    · exact ⟨block, mem_cons_self, rfl⟩

/-- One address is no longer blocked. -/
lemma blocked_unblock {other} :
    (m.unblockInboundIp other).Blocked ip ↔ m.Blocked ip ∧ ip ≠ trimSpace other := by
  constructor
  · rintro ⟨b, mb, rfl⟩
    obtain ⟨old, ne⟩ := mem_filter.mp mb
    exact ⟨⟨b, old, rfl⟩, of_decide_eq_true ne⟩
  · rintro ⟨⟨b, mb, rfl⟩, ne⟩
    exact ⟨b, mem_filter.mpr ⟨mb, decide_eq_true ne⟩, rfl⟩

/-- The check sees every blocked address that is not empty. -/
lemma not_blocked_of_passes {remoteAddr} (passes : m.isInboundBlocked remoteAddr = false)
    (named : inboundIp remoteAddr ≠ "") : ¬ m.Blocked (inboundIp remoteAddr) := by
  rintro ⟨b, mb, same⟩
  unfold isInboundBlocked at passes
  rw [decide_eq_true named, Bool.true_and, any_eq_false] at passes
  exact passes b mb (decide_eq_true same)

/-- No TCP connection comes from the address. -/
def Unconnected (m : Manager) (ip : String) : Prop := ∀ c ∈ m.tcpConnections, inboundIp c.remoteAddr ≠ ip

/-- Fewer connections leave the address unconnected. -/
lemma Unconnected.mono {m' : Manager} (un : m.Unconnected ip)
    (sub : ∀ c ∈ m'.tcpConnections, c ∈ m.tcpConnections) : m'.Unconnected ip :=
  fun c mc => un c (sub c mc)

lemma tcpConnections_setBlocked {block closeExisting c}
    (mc : c ∈ (m.setBlocked block closeExisting).tcpConnections) :
    c ∈ m.tcpConnections ∧ (closeExisting = true → inboundIp c.remoteAddr ≠ block.ip) := by
  cases closeExisting with
  | false => exact ⟨mc, nofun⟩
  | true =>
    obtain ⟨old, ne⟩ := mem_filter.mp mc
    exact ⟨old, fun _ => of_decide_eq_true ne⟩

end Manager

/-- A user connection that passed the check and is not registered yet. -/
structure Admitted where
  leaseId : String
  proxyName : String
  remoteAddr : String
  deriving DecidableEq, Repr

/-- The core with the admissions in progress. -/
structure Inbound where
  core : Manager := {}
  now : Time := 0
  admitted : List Admitted := []

namespace Inbound

/-- The critical sections. -/
inductive Action where
  | tick (elapsed : Nat)
  /-- the blocked check of an admission -/
  | isInboundBlocked (conn : Admitted)
  /-- an admission that passed the check registers its connection -/
  | registerTcpConnection (conn : Admitted)
  | unregisterTcpConnection (id : Nat)
  | terminate (target : Manager.Target)
  | blockInboundIp (ip reason : String)
  | setBlockedInboundIp (block : BlockedIp)
  | enforceBlockedInboundIp (block : BlockedIp)
  | unblockInboundIp (ip : String)
  deriving DecidableEq, Repr

/-- One critical section; `none` when it is not to be run. -/
def step (s : Inbound) : Action → Option Inbound
  | .tick elapsed => some { s with now := s.now + elapsed }
  | .isInboundBlocked conn =>
    some (if s.core.isInboundBlocked conn.remoteAddr then s
      else { s with admitted := conn :: s.admitted })
  | .registerTcpConnection conn =>
    if conn ∈ s.admitted then
      some { s with
        core := s.core.registerTcpConnection s.now conn.leaseId conn.proxyName conn.remoteAddr
        admitted := s.admitted.erase conn }
    else none
  | .unregisterTcpConnection id => some { s with core := s.core.unregisterTcpConnection id }
  | .terminate target => some { s with core := s.core.terminate target }
  | .blockInboundIp ip reason => some { s with core := s.core.blockInboundIp s.now ip reason }
  | .setBlockedInboundIp block => some { s with core := s.core.setBlockedInboundIp s.now block }
  | .enforceBlockedInboundIp block => some { s with core := s.core.enforceBlockedInboundIp s.now block }
  | .unblockInboundIp ip => some { s with core := s.core.unblockInboundIp ip }

def machine : Machine Inbound Action where
  Init s := s.core.tcpConnections = [] ∧ s.admitted = []
  step := step

/-- The action bans the address and closes its connections. -/
def bans (ip : String) : Action → Bool
  | .blockInboundIp a _ => trimSpace a = ip
  | .enforceBlockedInboundIp block => block.ip = ip
  | _ => false

/-- The action unblocks the address. -/
def unblocks (ip : String) : Action → Bool
  | .unblockInboundIp a => trimSpace a = ip
  | _ => false

variable {s s' s₁ s₂ : Inbound} {a : Action} {ip : String}

/-- The address is banned: nothing of it is connected or on its way. -/
structure Banned (ip : String) (s : Inbound) : Prop where
  blocked : s.core.Blocked ip
  unconnected : s.core.Unconnected ip
  nobody : ∀ conn ∈ s.admitted, inboundIp conn.remoteAddr ≠ ip

/-- Changing the block of some address keeps a ban. -/
lemma Banned.setBlocked {block closeExisting} (ban : Banned ip s) :
    Banned ip { s with core := s.core.setBlocked block closeExisting } :=
  ⟨blocked_setBlocked.mpr (.inl ban.blocked),
    ban.unconnected.mono fun _ mc => (tcpConnections_setBlocked mc).1, ban.nobody⟩

/-- A ban lasts until its address is unblocked. -/
lemma Banned.step (named : ip ≠ "") (ban : Banned ip s) (stays : unblocks ip a = false)
    (st : s.step a = some s') : Banned ip s' := by
  obtain ⟨blocked, un, nobody⟩ := ban
  cases a with
  | tick =>
    cases st
    exact ⟨blocked, un, nobody⟩
  | isInboundBlocked =>
    simp only [Inbound.step, Option.some.injEq] at st
    rw [← st]
    split
    · exact ⟨blocked, un, nobody⟩
    · rename_i passes
      refine ⟨blocked, un, forall_mem_cons.mpr ⟨fun same => ?_, nobody⟩⟩
      have free := not_blocked_of_passes (Bool.eq_false_iff.mpr passes) (same ▸ named)
      exact free (same ▸ blocked)
  | registerTcpConnection conn =>
    obtain ⟨mem, ⟨⟩⟩ := Option.ite_none_right_eq_some.mp st
    refine ⟨blocked, forall_mem_cons.mpr ⟨?_, un⟩, fun conn m => nobody conn (mem_of_mem_erase m)⟩
    exact nobody conn mem
  | unregisterTcpConnection =>
    cases st
    exact ⟨blocked, un.mono fun _ => mem_of_mem_filter, nobody⟩
  | terminate =>
    cases st
    unfold Manager.terminate
    split
    · exact ⟨blocked, un.mono fun _ => mem_of_mem_filter, nobody⟩
    · exact ⟨blocked, un, nobody⟩
  | blockInboundIp | setBlockedInboundIp | enforceBlockedInboundIp =>
    cases st
    exact Banned.setBlocked ⟨blocked, un, nobody⟩
  | unblockInboundIp =>
    cases st
    refine ⟨blocked_unblock.mpr ⟨blocked, fun same => ?_⟩, un, nobody⟩
    rw [same, unblocks, decide_eq_true rfl] at stays
    cases stays

/-- A ban takes hold at once when no admission is halfway. -/
lemma banned_of_bans (ban : bans ip a = true) (st : s.step a = some s')
    (idle : ∀ conn ∈ s.admitted, inboundIp conn.remoteAddr ≠ ip) : Banned ip s' := by
  cases a with
  | blockInboundIp other =>
    cases st
    have same : trimSpace other = ip := of_decide_eq_true ban
    refine ⟨blocked_setBlocked.mpr (.inr same.symm), fun c mc => ?_, idle⟩
    exact same ▸ (tcpConnections_setBlocked mc).2 rfl
  | enforceBlockedInboundIp block =>
    cases st
    have same : (Manager.stamped s.now block).ip = ip := by simpa using of_decide_eq_true ban
    refine ⟨blocked_setBlocked.mpr (.inr same.symm), fun c mc => ?_, idle⟩
    exact same ▸ (tcpConnections_setBlocked mc).2 rfl
  | tick | isInboundBlocked | registerTcpConnection | unregisterTcpConnection | terminate
  | setBlockedInboundIp | unblockInboundIp => cases ban

/-- A connection from `10.0.0.9`. -/
def sampleConn : Admitted := ⟨"lease", "web", "10.0.0.9:4000"⟩

/-- A connection is registered after its address was banned: the ban ran between the check and the
registration. No admission is in progress any more. -/
theorem banned_ip_stays_connected :
    ∃ s₁ s₂, machine.Reachable s₁ ∧
      machine.run s₁ [.blockInboundIp "10.0.0.9" "abuse", .registerTcpConnection sampleConn] = some s₂ ∧
      s₂.admitted = [] ∧ s₂.core.Blocked "10.0.0.9" ∧
      ∃ c ∈ s₂.core.tcpConnections, inboundIp c.remoteAddr = "10.0.0.9" := by
  refine ⟨_, _, ⟨{}, [.isInboundBlocked sampleConn], ⟨rfl, rfl⟩, rfl⟩, rfl, rfl, ?_, ?_⟩
  · exact ⟨_, mem_cons_self, by decide⟩
  · exact ⟨_, mem_cons_self, by decide⟩

/-- When no admission from an address is between its check and its registration at the moment of a
ban, then from the return of the ban on until the address is unblocked no registered TCP connection
comes from it. -/
theorem banned_ip_has_no_connection {bs : List Action} (named : ip ≠ "") (ban : bans ip a = true)
    (st : s.step a = some s₁)
    (idle : ∀ conn ∈ s.admitted, inboundIp conn.remoteAddr ≠ ip)
    (run : machine.run s₁ bs = some s₂) (stays : ∀ b ∈ bs, unblocks ip b = false) :
    ∀ c ∈ s₂.core.tcpConnections, inboundIp c.remoteAddr ≠ ip := by
  have banned := Machine.invariant_along (M := machine) (I := Banned ip)
    (fun _ _ _ ban stays st => ban.step named stays st) (.of_forall stays)
    (banned_of_bans ban st idle) run
  exact banned.unconnected

/-- The address of a registered connection is banned; it cannot come back. -/
theorem banned_ip_has_no_connection_after_sweep :
    ∃ s s₁ s₂, machine.Reachable s ∧ s.core.tcpConnections ≠ [] ∧
      s.step (.blockInboundIp "10.0.0.9" "abuse") = some s₁ ∧
      machine.run s₁ [.isInboundBlocked sampleConn] = some s₂ ∧
      ∀ c ∈ s₂.core.tcpConnections, inboundIp c.remoteAddr ≠ "10.0.0.9" := by
  have reach : machine.Reachable _ :=
    ⟨{}, [.isInboundBlocked sampleConn, .registerTcpConnection sampleConn], ⟨rfl, rfl⟩, rfl⟩
  refine ⟨_, _, _, reach, by decide, rfl, rfl, ?_⟩
  have ban : bans "10.0.0.9" (.blockInboundIp "10.0.0.9" "abuse") = true := by decide
  have stays : ∀ b ∈ [Action.isInboundBlocked sampleConn], unblocks "10.0.0.9" b = false := by decide
  exact banned_ip_has_no_connection (by decide) ban rfl (forall_mem_nil _) rfl stays

end Inbound

end MeowFrp.Core
