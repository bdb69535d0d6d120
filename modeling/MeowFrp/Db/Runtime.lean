import MeowFrp.Data.Book
import MeowFrp.Db.Store

/-!
# Clients and leases in the controller's database

The runtime half of Go `internal/db`: devices (`clients`), runtime leases with their allocations, and
the administrative changes that reach them. The lease statements are those of the lease book; the
foreign keys of `runtime_leases` are checked where a lease is created. Client ids, and the lease id a
client names in a release, are compared under the collation of the database.

Instants are milliseconds; `TIMESTAMPDIFF(SECOND, ...)` is the quotient by a thousand.
-/

namespace MeowFrp.Db.Store

open Lib Table

/-- The lease tables. -/
def book (s : Store) : LeaseBook := ⟨s.leases, s.allocations, s.collate⟩

/-! ## Devices -/

/-- Go `GetUserByID`. -/
def getUserById (s : Store) (id : Nat) : Option User := s.users.find? (·.id = id)

/-- Go `GetUserResourcePolicy`. -/
def getUserResourcePolicy (s : Store) (userId : Nat) : Option UserResourcePolicy :=
  s.policies.find? (·.userId = userId)

/-- Go `ListPortGrants`. -/
def listPortGrants (s : Store) (tokenId : Nat) : List PortGrant :=
  s.grants.rows.filter (·.tokenId = tokenId)

/-- Go `GetClientByID`. -/
def getClientById (s : Store) (id : Nat) : Option Client := s.clients.find? (·.id = id)

/-- Go `GetClient`. -/
def getClient (s : Store) (tokenId : Nat) (clientId : String) : Option Client :=
  s.clients.find? fun c => c.tokenId = tokenId && s.collate c.clientId = s.collate clientId

/-- Go `FindOrCreateClient`; `id` is assigned to a new row. -/
def findOrCreateClient (s : Store) (now : Time) (userId tokenId : Nat) (clientId : String) (id : Nat) :
    Option (Store × Client) :=
  match s.getClient tokenId clientId with
  | some client => some (s, client)
  | none => do
    let client : Client :=
      { id, userId, tokenId, clientId, status := .active, lastSeenAt := some now }
    let clients ← s.clients.insert client
    return ({ s with clients }, client)

/-- Go `SetClientStatus`. -/
def setClientStatus (s : Store) (id : Nat) (status : Status) (reason : String) : Store :=
  { s with
    clients := s.clients.update (fun c => c.id = id) fun c => { c with status, banReason := reason } }

/-- Go `TouchClientHeartbeat`. -/
def touchClientHeartbeat (s : Store) (now : Time) (id : Nat) : Store :=
  { s with
    clients := s.clients.update (fun c => c.id = id) (fun c => { c with lastSeenAt := some now })
      (Client.keepsKeys_seen now) }

/-- Go `ClearClientPresence`. -/
def clearClientPresence (s : Store) (id : Nat) : Store :=
  { s with
    clients := s.clients.update (fun c => c.id = id) (fun c => { c with lastSeenAt := none })
      Client.keepsKeys_unseen }

/-- Go `clientHeartbeatTimeout`, in seconds. -/
def clientHeartbeatTimeout : Nat := 60

/-- Go `IsClientHeartbeatFresh`. -/
def isClientHeartbeatFresh (s : Store) (now : Time) (id : Nat) : Bool :=
  s.clients.any fun c =>
    c.id = id && c.lastSeenAt.any fun seen => (now - seen) / 1000 ≤ clientHeartbeatTimeout

/-- Go `DeleteClient`. -/
def deleteClient (s : Store) (id : Nat) : Option Store := do
  let client ← s.getClientById id
  let mine (l : RuntimeLease) : Bool :=
    l.tokenId = client.tokenId && s.collate l.clientId = s.collate client.clientId
  return { s with
    allocations := s.allocations.delete fun a => s.leases.any fun l => l.leaseId = a.leaseId && mine l
    sessions := s.sessions.delete fun p =>
      p.tokenId = client.tokenId && s.collate p.clientId = s.collate client.clientId
    leases := s.leases.delete mine
    clients := s.clients.delete (·.id = client.id) }

/-! ## Leases -/

/-- Go `RemotePortInUseExceptClient`. -/
def remotePortInUseExceptClient (s : Store) (now : Time) (protocol : String) (remotePort : Nat)
    (tokenId : Nat) (clientId : String) : Bool :=
  s.book.remotePortInUseExceptClient now protocol remotePort tokenId clientId

/-- Go `CreateRuntimeLease`. -/
def createRuntimeLease (s : Store) (lease : RuntimeLease) (allocations : List ProxyAllocationInput) :
    Option Store := do
  if !s.hasUser lease.userId || (s.getAccessTokenById lease.tokenId).isNone then none
  let book ← s.book.issue lease allocations
  return { s with leases := book.leases, allocations := book.allocations }

/-- Go `GetRuntimeLeaseByTokenHash`. -/
def getRuntimeLeaseByTokenHash (s : Store) (hash : String) : Option RuntimeLease :=
  s.leases.find? (·.runtimeTokenHash = hash)

/-- The leases a release request matches. -/
def releasable (s : Store) (leaseId : String) (tokenId : Nat) (clientId : String) (l : RuntimeLease) :
    Bool :=
  s.collate l.leaseId = s.collate leaseId && l.tokenId = tokenId &&
    s.collate l.clientId = s.collate clientId && l.status = .active

/-- Go `ReleaseRuntimeLease`; the flag says whether a row was changed. -/
def releaseRuntimeLease (s : Store) (leaseId : String) (tokenId : Nat) (clientId : String) :
    Store × Bool :=
  ({ s with leases := revokeLeases s.leases (s.releasable leaseId tokenId clientId) },
    s.leases.any (s.releasable leaseId tokenId clientId))

/-- Go `RevokeActiveRuntimeLeasesForClient`. -/
def revokeActiveRuntimeLeasesForClient (s : Store) (tokenId : Nat) (clientId : String) : Store :=
  { s with
    leases := s.book.revokeClient tokenId clientId
    sessions := s.sessions.update
      (fun p => p.tokenId = tokenId && s.collate p.clientId = s.collate clientId && p.status = .active)
      fun p => { p with status := .closed } }

/-! ## Proxy sessions -/

/-- Go `GetLeaseAllocation`. -/
def getLeaseAllocation (s : Store) (leaseId proxyName proxyType : String) (remotePort : Nat)
    (domain subdomain : String) : Option ProxyAllocation :=
  s.allocations.find? fun a => a.leaseId = leaseId && a.proxyName = proxyName &&
    a.proxyType = proxyType && a.remotePort = remotePort && a.domain = domain && a.subdomain = subdomain

/-- The active session rows of a token. -/
def activeSessions (s : Store) (tokenId : Nat) : List ProxySession :=
  s.sessions.rows.filter fun p => p.tokenId = tokenId && p.status = .active

/-- Go `CountActiveProxySessions`. -/
def countActiveProxySessions (s : Store) (tokenId : Nat) : Nat := (s.activeSessions tokenId).length

/-- Go `StartProxySession`: a stored row becomes active again, under the new run id. -/
def startProxySession (s : Store) (lease : RuntimeLease) (proxyName proxyType : String)
    (remotePort : Nat) (domain subdomain runId : String) : Store :=
  { s with
    sessions := s.sessions.merge
      { leaseId := lease.leaseId, userId := lease.userId, tokenId := lease.tokenId
        clientId := lease.clientId, proxyName, proxyType, remotePort, domain, subdomain, runId
        status := .active }
      fun old => { old with status := .active, runId } }

/-- Go `CloseProxySession`. -/
def closeProxySession (s : Store) (leaseId proxyName : String) : Store :=
  { s with
    sessions := s.sessions.update
      (fun p => p.leaseId = leaseId && p.proxyName = proxyName && p.status = .active)
      fun p => { p with status := .closed } }

/-- The rows after `startProxySession`. -/
lemma mem_startProxySession {s : Store} {lease proxyName proxyType remotePort domain subdomain runId p} :
    p ∈ (s.startProxySession lease proxyName proxyType remotePort domain subdomain runId).sessions ↔
      (p ∈ s.sessions ∧ ¬ (p.leaseId = lease.leaseId ∧ p.proxyName = proxyName)) ∨
      (∃ old ∈ s.sessions, (old.leaseId = lease.leaseId ∧ old.proxyName = proxyName) ∧
        p = { old with status := .active, runId }) ∨
      ((∀ old ∈ s.sessions, ¬ (old.leaseId = lease.leaseId ∧ old.proxyName = proxyName)) ∧
        p = ⟨lease.leaseId, lease.userId, lease.tokenId, lease.clientId, proxyName, proxyType,
          remotePort, domain, subdomain, runId, .active⟩) :=
  mem_merge (f := fun old : ProxySession => { old with status := .active, runId })
    (fun _ _ => Iff.rfl) fun _ _ _ c c' => ⟨c.1.trans c'.1, c.2.trans c'.2⟩

/-- The rows after `closeProxySession`. -/
lemma mem_closeProxySession {s : Store} {leaseId proxyName p} :
    p ∈ (s.closeProxySession leaseId proxyName).sessions ↔ ∃ old ∈ s.sessions,
      Table.rewrite (fun q => q.leaseId = leaseId && q.proxyName = proxyName && q.status = .active)
        (fun q : ProxySession => { q with status := .closed }) old = p :=
  List.mem_map

lemma countActiveProxySessions_eq {s : Store} {tokenId} : s.countActiveProxySessions tokenId =
    s.sessions.rows.countP fun p => p.tokenId = tokenId && p.status = .active :=
  List.countP_eq_length_filter.symm

/-- A started session counts at most once more, for its token. -/
lemma count_startProxySession {s : Store} {lease proxyName proxyType remotePort domain subdomain runId}
    {tokenId : Nat} (own : ∀ p ∈ s.sessions, p.leaseId = lease.leaseId → p.tokenId = lease.tokenId) :
    (s.startProxySession lease proxyName proxyType remotePort domain subdomain runId).countActiveProxySessions
        tokenId ≤
      s.countActiveProxySessions tokenId + if lease.tokenId = tokenId then 1 else 0 := by
  rw [countActiveProxySessions_eq, countActiveProxySessions_eq]
  refine countP_put_le.trans (Nat.add_le_add_left ?_ _)
  -- the written row is a stored one of the lease, or a new one of the lease
  generalize found : s.sessions.find? _ = stored
  cases stored with
  | none => simp
  | some old =>
    have hit := find?_prop found
    have key : old.leaseId = lease.leaseId := (of_decide_eq_true hit).1
    simp [own old (mem_of_find? found) key]

/-- Closing a session does not raise a count. -/
lemma count_closeProxySession {s : Store} {leaseId proxyName tokenId} :
    (s.closeProxySession leaseId proxyName).countActiveProxySessions tokenId ≤
      s.countActiveProxySessions tokenId := by
  rw [countActiveProxySessions_eq, countActiveProxySessions_eq]
  refine countP_update_le ?_ fun p _ => ?_
  · exact fun _ _ => Iff.rfl
  unfold Table.rewrite
  split
  · simp
  · exact id

/-- Inversion of `createRuntimeLease`. -/
lemma createRuntimeLease_inv {s s' : Store} {lease allocations}
    (e : s.createRuntimeLease lease allocations = some s') :
    ∃ book, s.book.issue lease allocations = some book ∧
      s' = { s with leases := book.leases, allocations := book.allocations } := by
  simp only [createRuntimeLease, Option.bind_eq_bind, Option.pure_def] at e
  split at e
  · cases e
  · obtain ⟨book, issued, e⟩ := Option.bind_eq_some_iff.mp e
    exact ⟨book, issued, (Option.some.inj e).symm⟩

end MeowFrp.Db.Store
