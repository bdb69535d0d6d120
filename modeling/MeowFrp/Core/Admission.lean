import MeowFrp.Core.Manager
import MeowFrp.Lib.Machine
import MeowFrp.Lib.Tally

/-!
# The admission fence

The concurrent use of the FRP core by registrations, logins and outage handling (Go
`internal/frpcore/admission.go`). A registration holds `admissionMu` for reading from a successful
`Begin` to its release and calls `Opened` only in between; the operations that take `admissionMu` for
writing wait until no registration is in progress. The others need `mu` only and run at any time.

A lease id belongs to one client for good, since leases are rows under a primary key whose client is
never changed: `owner` is that function, and a login remembers a lease of the owner of its id.

The stored counters are exact in every reachable state (`Counted`): they are indexed through the map
of remembered leases, and no lease with a registered proxy ever leaves it.
-/

namespace MeowFrp.Core

open Lib List Option Manager

/-- The core with the registrations in progress. -/
structure Admission where
  core : Manager := {}
  /-- the lease ids of the registrations that hold the read lock -/
  inFlight : List String := []

namespace Admission

/-- The calls. -/
inductive Action where
  /-- `proxyLifecycle.Begin` -/
  | begin (leaseId : String)
  /-- `proxyLifecycle.Opened` of a registration in progress -/
  | opened (leaseId runId name : String)
  /-- the function that `Begin` returned -/
  | release (leaseId : String)
  | closed (runId name : String)
  | rememberRuntimeLease (lease : RuntimeLease)
  | setAdmissionClosed (closed : Bool)
  | pauseAdmission
  | finishClientDrain (tokenId : Nat) (clientId : String)
  | invalidateRuntime (covered : RuntimeLease → Bool)

variable (owner : String → Nat × String)

/-- An operation under the write lock. -/
def exclusively (s : Admission) (op : Manager → Manager) : Option Admission :=
  if s.inFlight = [] then some { s with core := op s.core } else none

/-- One call; `none` when it has to wait or may not be made. -/
def step (s : Admission) : Action → Option Admission
  | .begin leaseId =>
    some (if s.core.mayRegister leaseId then { s with inFlight := leaseId :: s.inFlight } else s)
  | .opened leaseId runId name =>
    if leaseId ∈ s.inFlight then some { s with core := s.core.opened leaseId runId name } else none
  | .release leaseId =>
    if leaseId ∈ s.inFlight then some { s with inFlight := s.inFlight.erase leaseId } else none
  | .closed runId name => some { s with core := s.core.closed runId name }
  | .rememberRuntimeLease lease =>
    if Manager.clientKey lease = owner lease.leaseId then
      some { s with core := s.core.rememberRuntimeLease lease }
    else none
  | .setAdmissionClosed closed => s.exclusively (·.setAdmissionClosed closed)
  | .pauseAdmission => s.exclusively (·.pauseAdmission)
  | .finishClientDrain tokenId clientId => s.exclusively (·.finishClientDrain tokenId clientId)
  | .invalidateRuntime covered => s.exclusively (·.invalidateRuntime covered)

/-- Go `NewManager`. -/
def machine : Machine Admission Action where
  Init s := s.core.runtimeLeases = [] ∧ s.core.registeredProxies = [] ∧
    s.core.proxyCounts = (fun _ => 0) ∧ s.core.leaseProxyCounts = (fun _ => 0) ∧ s.inFlight = []
  step := step owner

end Admission

namespace Manager

variable {owner : String → Nat × String} {m m' : Manager}

/-- The registered proxies whose lease belongs to a client. -/
def proxiesOf (m : Manager) (tokenId : Nat) (clientId : String) : List ((String × String) × String) :=
  m.registeredProxies.filter fun p => (m.lookupLease p.2).any (clientKey · = (tokenId, clientId))

/-- The lease id is that of a remembered lease. -/
def Known (m : Manager) (leaseId : String) : Prop := ∃ l ∈ m.runtimeLeases, l.leaseId = leaseId

/-- The counters are exact, and their leases are remembered. -/
structure Counted (owner : String → Nat × String) (m : Manager) : Prop where
  owned : ∀ l ∈ m.runtimeLeases, clientKey l = owner l.leaseId
  known : ∀ p ∈ m.registeredProxies, m.Known p.2
  keyed : Keyed m.registeredProxies
  clients : m.proxyCounts = tally owner m.registeredProxies
  leases : m.leaseProxyCounts = tally id m.registeredProxies

/-- A known lease is stored under its id, with the owner of the id. -/
lemma Counted.lookup {leaseId} (counted : m.Counted owner) (known : m.Known leaseId) :
    ∃ l, m.lookupLease leaseId = some l ∧ clientKey l = owner leaseId := by
  cases e : m.lookupLease leaseId with
  | none =>
    obtain ⟨l, ml, id⟩ := known
    exact absurd id (by simpa using List.find?_eq_none.mp e l ml)
  | some l =>
    refine ⟨l, rfl, ?_⟩
    have id : l.leaseId = leaseId := by simpa using List.find?_some e
    rw [counted.owned l (mem_of_find?_eq_some e), id]

lemma Counted.keyOf {leaseId} (counted : m.Counted owner) (known : m.Known leaseId) :
    m.keyOf leaseId = owner leaseId := by
  obtain ⟨_, e, key⟩ := counted.lookup known
  rw [Manager.keyOf, e]
  exact key

/-- The proxies of a client are those whose lease id it owns. -/
lemma Counted.mem_proxiesOf {tokenId clientId p} (counted : m.Counted owner) :
    p ∈ m.proxiesOf tokenId clientId ↔ p ∈ m.registeredProxies ∧ owner p.2 = (tokenId, clientId) := by
  unfold proxiesOf
  rw [mem_filter]
  refine and_congr_right fun mp => ?_
  obtain ⟨_, e, key⟩ := counted.lookup (counted.known p mp)
  rw [e, any_some, decide_eq_true_eq, key]

/-- A proxy that is found is registered. -/
lemma registeredUnder_some {runId name old} (e : m.registeredUnder runId name = some old) :
    ((runId, name), old) ∈ m.registeredProxies := by
  obtain ⟨p, found, rfl⟩ := map_eq_some_iff.mp e
  have key : p.1 = (runId, name) := by simpa using List.find?_some found
  rw [← key]
  exact mem_of_find?_eq_some found

/-- A proxy that is not found is not registered. -/
lemma registeredUnder_none {runId name} (e : m.registeredUnder runId name = none) :
    (runId, name) ∉ m.registeredProxies.map Prod.fst := by
  intro mem
  obtain ⟨p, mp, key⟩ := mem_map.mp mem
  have none := List.find?_eq_none.mp (map_eq_none_iff.mp e) p mp
  exact none (decide_eq_true key)

/-! ## The operations -/

/-- Removing the entry of a run and name, with its counters. -/
lemma Counted.removed {runId name old} (counted : m.Counted owner)
    (entry : m.registeredUnder runId name = some old) :
    Counted owner { m.removeProxyCount old with
      registeredProxies := m.registeredProxies.filter (·.1 ≠ (runId, name)) } := by
  have mem := registeredUnder_some entry
  have key := counted.keyOf (counted.known _ mem)
  refine ⟨counted.owned, fun p mp => ?_, counted.keyed.filter, ?_, ?_⟩
  · exact counted.known p (mem_of_mem_filter mp)
  · rw [tally_remove counted.keyed mem, ← counted.clients, ← key]
    rfl
  · rw [tally_remove counted.keyed mem, ← counted.leases]
    rfl

/-- A proxy that closes is counted no more. -/
lemma Counted.closed {runId name} (counted : m.Counted owner) :
    (m.closed runId name).Counted owner := by
  unfold Manager.closed
  split
  · exact counted
  · exact counted.removed ‹_›

/-- Adding an entry under a free run and name, with its counters. -/
lemma Counted.added {leaseId runId name} (counted : m.Counted owner) (known : m.Known leaseId)
    (free : (runId, name) ∉ m.registeredProxies.map Prod.fst) :
    Counted owner { m with
      registeredProxies := ((runId, name), leaseId) :: m.registeredProxies
      proxyCounts :=
        Function.update m.proxyCounts (m.keyOf leaseId) (m.proxyCounts (m.keyOf leaseId) + 1)
      leaseProxyCounts :=
        Function.update m.leaseProxyCounts leaseId (m.leaseProxyCounts leaseId + 1) } := by
  refine ⟨counted.owned, fun p mp => ?_, nodup_cons.mpr ⟨free, counted.keyed⟩, ?_, ?_⟩
  · rcases mem_cons.mp mp with rfl | old
    · exact known
    · exact counted.known p old
  · rw [tally_cons, ← counted.clients, counted.keyOf known]
  · rw [tally_cons, ← counted.leases]
    rfl

/-- Opening a proxy removes an entry of the same name and adds the new one. -/
lemma Counted.opened {leaseId runId name} (counted : m.Counted owner) (known : m.Known leaseId) :
    (m.opened leaseId runId name).Counted owner := by
  unfold Manager.opened
  dsimp only
  split
  · rename_i old entry
    refine (counted.removed entry).added known fun mem => ?_
    obtain ⟨_, mp, key⟩ := mem_map.mp mem
    exact of_decide_eq_true (mem_filter.mp mp).2 key
  · rename_i entry
    have free := registeredUnder_none entry
    rw [filter_key_ne_self free]
    exact counted.added known free

lemma known_remember {lease leaseId} (known : m.Known leaseId) :
    (m.rememberRuntimeLease lease).Known leaseId := by
  obtain ⟨l, ml, rfl⟩ := known
  by_cases same : l.leaseId = lease.leaseId
  · exact ⟨lease, mem_cons_self, same.symm⟩
  · exact ⟨l, mem_cons_of_mem _ (mem_filter.mpr ⟨ml, by simpa using same⟩), rfl⟩

/-- Remembering a lease keeps the counts. -/
lemma Counted.remember {lease} (counted : m.Counted owner)
    (own : clientKey lease = owner lease.leaseId) :
    (m.rememberRuntimeLease lease).Counted owner := by
  refine ⟨fun l ml => ?_, fun p mp => known_remember (counted.known p mp), counted.keyed,
    counted.clients, counted.leases⟩
  rcases mem_cons.mp ml with rfl | old
  · exact own
  · exact counted.owned l (mem_of_mem_filter old)

/-- A drained client has no proxy, so no lease with one is forgotten. -/
lemma Counted.finish {tokenId clientId} (counted : m.Counted owner) :
    (m.finishClientDrain tokenId clientId).Counted owner := by
  unfold Manager.finishClientDrain
  split
  · exact counted
  · rename_i none
    refine ⟨fun l ml => counted.owned l (mem_of_mem_filter ml), fun p mp => ?_, counted.keyed,
      counted.clients, counted.leases⟩
    obtain ⟨l, ml, id⟩ := counted.known p mp
    refine ⟨l, mem_filter.mpr ⟨ml, decide_eq_true fun key => none ?_⟩, id⟩
    rw [counted.clients]
    refine countP_pos_iff.mpr ⟨p, mp, decide_eq_true ?_⟩
    rw [← key, counted.owned l ml, id]

/-- Invalidating leases keeps the counts. -/
lemma Counted.invalidate {covered} (counted : m.Counted owner) :
    (m.invalidateRuntime covered).Counted owner := by
  refine ⟨fun l ml => ?_, fun p mp => ?_, counted.keyed, counted.clients, counted.leases⟩
  · obtain ⟨k, mk, rfl⟩ := mem_map.mp ml
    have own := counted.owned k mk
    split <;> exact own
  · obtain ⟨l, ml, id⟩ := counted.known p mp
    refine ⟨_, mem_map.mpr ⟨l, ml, rfl⟩, ?_⟩
    split <;> exact id

@[simp]
lemma runtimeLeases_opened {leaseId runId name} :
    (m.opened leaseId runId name).runtimeLeases = m.runtimeLeases := by
  unfold Manager.opened
  dsimp only
  split <;> rfl

@[simp]
lemma drainingClients_opened {leaseId runId name} :
    (m.opened leaseId runId name).drainingClients = m.drainingClients := by
  unfold Manager.opened
  dsimp only
  split <;> rfl

@[simp]
lemma runtimeLeases_closed {runId name} : (m.closed runId name).runtimeLeases = m.runtimeLeases := by
  unfold Manager.closed
  split <;> rfl

@[simp]
lemma drainingClients_closed {runId name} :
    (m.closed runId name).drainingClients = m.drainingClients := by
  unfold Manager.closed
  split <;> rfl

/-- Whom `Begin` lets pass. -/
lemma Counted.mayRegister {leaseId} (counted : m.Counted owner) (ok : m.mayRegister leaseId = true) :
    m.admissionClosed = false ∧ m.Known leaseId ∧ owner leaseId ∉ m.drainingClients := by
  unfold Manager.mayRegister at ok
  obtain ⟨opened, ok⟩ := (Bool.and_eq_true _ _).mp ok
  cases found : m.lookupLease leaseId with
  | none =>
    rw [found] at ok
    cases ok
  | some l =>
    rw [found, any_some, Bool.and_eq_true, Bool.not_eq_true'] at ok
    have ml : l ∈ m.runtimeLeases := mem_of_find?_eq_some found
    have id : l.leaseId = leaseId := by simpa using List.find?_some found
    refine ⟨by simpa using opened, ⟨l, ml, id⟩, fun drains => ?_⟩
    rw [← id, ← counted.owned l ml] at drains
    exact absurd (contains_iff_mem.mpr drains) (Bool.eq_false_iff.mp ok.2)

end Manager

namespace Admission

variable {owner : String → Nat × String} {s s' : Admission} {a : Action}

/-- What a call can do. -/
inductive Kind (owner : String → Nat × String) (s : Admission) : Action → Admission → Prop
  | passed {leaseId} (ok : s.core.mayRegister leaseId = true) :
      Kind owner s (.begin leaseId) { s with inFlight := leaseId :: s.inFlight }
  | refused {leaseId} : Kind owner s (.begin leaseId) s
  | opened {leaseId runId name} (flying : leaseId ∈ s.inFlight) :
      Kind owner s (.opened leaseId runId name) { s with core := s.core.opened leaseId runId name }
  | released {leaseId} : Kind owner s (.release leaseId) { s with inFlight := s.inFlight.erase leaseId }
  | closed {runId name} : Kind owner s (.closed runId name) { s with core := s.core.closed runId name }
  | remembered {lease} (own : Manager.clientKey lease = owner lease.leaseId) :
      Kind owner s (.rememberRuntimeLease lease) { s with core := s.core.rememberRuntimeLease lease }
  | fenced {closed} (alone : s.inFlight = []) :
      Kind owner s (.setAdmissionClosed closed) { s with core := s.core.setAdmissionClosed closed }
  | paused (alone : s.inFlight = []) :
      Kind owner s .pauseAdmission { s with core := s.core.pauseAdmission }
  | finished {tokenId clientId} (alone : s.inFlight = []) :
      Kind owner s (.finishClientDrain tokenId clientId)
        { s with core := s.core.finishClientDrain tokenId clientId }
  | invalidated {covered} (alone : s.inFlight = []) :
      Kind owner s (.invalidateRuntime covered) { s with core := s.core.invalidateRuntime covered }

/-- Inversion of a call. -/
lemma step_kind (st : s.step owner a = some s') : Kind owner s a s' := by
  cases a with
  | begin =>
    cases st
    split
    · exact .passed ‹_›
    · exact .refused
  | closed =>
    cases st
    exact .closed
  | opened =>
    obtain ⟨flying, ⟨⟩⟩ := ite_none_right_eq_some.mp st
    exact .opened flying
  | release =>
    obtain ⟨_, ⟨⟩⟩ := ite_none_right_eq_some.mp st
    exact .released
  | rememberRuntimeLease =>
    obtain ⟨own, ⟨⟩⟩ := ite_none_right_eq_some.mp st
    exact .remembered own
  | setAdmissionClosed =>
    obtain ⟨alone, ⟨⟩⟩ := ite_none_right_eq_some.mp st
    exact .fenced alone
  | pauseAdmission =>
    obtain ⟨alone, ⟨⟩⟩ := ite_none_right_eq_some.mp st
    exact .paused alone
  | finishClientDrain =>
    obtain ⟨alone, ⟨⟩⟩ := ite_none_right_eq_some.mp st
    exact .finished alone
  | invalidateRuntime =>
    obtain ⟨alone, ⟨⟩⟩ := ite_none_right_eq_some.mp st
    exact .invalidated alone

/-- The counters are exact, and no registration in progress is of a draining client. -/
structure Fenced (owner : String → Nat × String) (s : Admission) : Prop where
  counted : s.core.Counted owner
  known : ∀ id ∈ s.inFlight, s.core.Known id
  free : ∀ id ∈ s.inFlight, owner id ∉ s.core.drainingClients

/-- Under the write lock no registration is in progress. -/
lemma Fenced.alone {core : Manager} (alone : s.inFlight = []) (counted : core.Counted owner) :
    Fenced owner { s with core } := by
  refine ⟨counted, ?_, ?_⟩
  all_goals
    intro id m
    rw [alone] at m
    cases m

/-- Every call keeps the invariant. -/
lemma Fenced.step (inv : Fenced owner s) (st : s.step owner a = some s') : Fenced owner s' := by
  obtain ⟨counted, known, free⟩ := inv
  cases step_kind st with
  | passed ok =>
    obtain ⟨_, knows, frees⟩ := counted.mayRegister ok
    exact ⟨counted, forall_mem_cons.mpr ⟨knows, known⟩, forall_mem_cons.mpr ⟨frees, free⟩⟩
  | refused => exact ⟨counted, known, free⟩
  | @opened leaseId _ _ flying =>
    refine ⟨counted.opened (known leaseId flying), ?_, ?_⟩
    · simpa only [Manager.Known, runtimeLeases_opened] using known
    · simpa only [drainingClients_opened] using free
  | released =>
    exact ⟨counted, fun id m => known id (mem_of_mem_erase m),
      fun id m => free id (mem_of_mem_erase m)⟩
  | closed =>
    refine ⟨counted.closed, ?_, ?_⟩
    · simpa only [Manager.Known, runtimeLeases_closed] using known
    · simpa only [drainingClients_closed] using free
  | remembered own =>
    exact ⟨counted.remember own, fun id m => known_remember (known id m), free⟩
  | fenced alone | paused alone =>
    exact .alone alone ⟨counted.owned, counted.known, counted.keyed, counted.clients, counted.leases⟩
  | finished alone => exact .alone alone counted.finish
  | invalidated alone => exact .alone alone counted.invalidate

/-- The fence holds in every reachable state. -/
lemma fenced (r : (machine owner).Reachable s) : Fenced owner s := by
  refine r.inv ?_ fun s a s' inv st => inv.step st
  rintro _ ⟨leases, proxies, clients, counts, flying⟩
  refine ⟨⟨?_, ?_, ?_, ?_, ?_⟩, ?_, ?_⟩
  · simp [leases]
  · simp [proxies]
  · simp [proxies, Keyed]
  · rw [proxies, clients]
    rfl
  · rw [proxies, counts]
    rfl
  · simp [flying]
  · simp [flying]

/-- In every reachable state the stored count of a client is the number of registered entries whose
lease belongs to it, and the stored count of a lease is the number of entries of that lease. -/
theorem proxy_counts_exact (r : (machine owner).Reachable s) :
    (∀ tokenId clientId,
      s.core.clientProxyCount tokenId clientId = (s.core.proxiesOf tokenId clientId).length) ∧
    ∀ leaseId,
      s.core.leaseProxyCounts leaseId = (s.core.registeredProxies.filter (·.2 = leaseId)).length := by
  have counted := (fenced r).counted
  refine ⟨fun tokenId clientId => ?_, fun leaseId => ?_⟩
  · have same : s.core.proxiesOf tokenId clientId =
        s.core.registeredProxies.filter (owner ·.2 = (tokenId, clientId)) := by
      refine filter_congr fun p mp => ?_
      obtain ⟨_, e, key⟩ := counted.lookup (counted.known p mp)
      rw [e, any_some, key]
    rw [same, ← countP_eq_length_filter, Manager.clientProxyCount, counted.clients]
    rfl
  · rw [← countP_eq_length_filter, counted.leases]
    rfl

/-- A lease of the client `desktop` of token 9. -/
def sampleLease : RuntimeLease :=
  { leaseId := "lease", userId := 1, tokenId := 9, clientId := "desktop", runtimeTokenHash := "hash",
    status := .active, expiresAt := 100, userId_pos := Nat.one_pos, leaseId_ne := sampleLeaseId_ne }

/-- The owner of every lease of the sample runs. -/
def sampleOwner (_ : String) : Nat × String := (9, "desktop")

/-- The client logs in and registers two proxies. -/
def sampleOpen : List Action :=
  [.rememberRuntimeLease sampleLease, .begin "lease", .opened "lease" "run" "tcp",
    .opened "lease" "run" "udp", .release "lease"]

/-- Opening a proxy again and closing it twice is counted once. -/
theorem proxy_counts_exact_after_reopen :
    ∃ s, (machine sampleOwner).Reachable s ∧ s.core.proxiesOf 9 "desktop" = [(("run", "udp"), "lease")] ∧
      s.core.clientProxyCount 9 "desktop" = 1 := by
  obtain ⟨s, run, one⟩ : ∃ s, (machine sampleOwner).run {}
      (sampleOpen ++ [.begin "lease", .opened "lease" "run" "tcp", .release "lease",
        .closed "run" "tcp", .closed "run" "tcp"]) = some s ∧
      s.core.proxiesOf 9 "desktop" = [(("run", "udp"), "lease")] := ⟨_, rfl, rfl⟩
  have reach : (machine sampleOwner).Reachable s := ⟨_, _, ⟨rfl, rfl, rfl, rfl, rfl⟩, run⟩
  refine ⟨s, reach, one, ?_⟩
  rw [(proxy_counts_exact reach).1, one]
  rfl

end Admission

end MeowFrp.Core
