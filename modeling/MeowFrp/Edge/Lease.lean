import MeowFrp.Data.Book
import MeowFrp.Data.Text
import MeowFrp.Edge.Apply

/-!
# Devices and leases on the edge

The runtime half of Go `internal/edgestate`: what client and FRP requests read from the cached
identities, the devices known to the edge, and the leases it issues. A lease can be created only while
no identity reset is pending, and records the hash of the cached token it is issued under.
-/

namespace MeowFrp.Edge.Store

open Lib

/-- The lease tables. -/
def book (s : Store) : LeaseBook := ⟨s.leases, s.allocations, id⟩

/-! ## Credentials and devices -/

/-- The device of a token. -/
def getClient (s : Store) (tokenId : Nat) (clientId : String) : Option Client :=
  s.clients.find? fun c => c.tokenId = tokenId && c.clientId = clientId

/-- `INSERT INTO edge_clients ... ON CONFLICT DO NOTHING`; `create` is the id of the new row, `none` when no
device is to be created. -/
def ensureClient (s : Store) (userId tokenId : Nat) (clientId : String) (create : Option Nat) :
    Option Store :=
  match create, s.getClient tokenId clientId with
  | some id, none => do
    let clients ← s.clients.insert { id, userId, tokenId, clientId, status := .active }
    return { s with clients }
  | _, _ => some s

/-- Go `Credential`; `none` is `sql.ErrNoRows`. -/
def credential (s : Store) (tokenHash clientId : String) (create : Option Nat) :
    Option (Store × AccessToken × User × Client) := do
  let token ← s.cachedTokens.find? (·.tokenHash = tokenHash)
  let user ← s.cachedUsers.find? (·.id = token.userId)
  let s ← s.ensureClient user.id token.id clientId create
  let client ← s.getClient token.id clientId
  return (s, token, user, client)

/-- Go `ValidateCredential`. -/
def validateCredential (now : Time) (token : AccessToken) (user : User) (client : Client) :
    Except String Unit :=
  if user.role ≠ .user || user.status ≠ .active then
    .error (if user.banReason ≠ "" then user.banReason else "user is not active")
  else if token.status ≠ .active then
    .error (if token.banReason ≠ "" then token.banReason else "token is not active")
  else if token.expiresAt.any (now > ·) then .error "token expired"
  else if client.status ≠ .active then .error (trimSpace client.banReason)
  else .ok ()

/-- Go `Policy`. -/
def policy (s : Store) (userId : Nat) : Option UserResourcePolicy :=
  s.cachedPolicies.find? (·.userId = userId)

/-- Go `Grants`. -/
def grants (s : Store) (tokenId : Nat) : List PortGrant :=
  s.cachedGrants.rows.filter (·.tokenId = tokenId)

/-- Go `TouchClient` and `TouchClientSeen`. -/
def touchClient (s : Store) (now : Time) (id : Nat) : Store :=
  { s with
    clients := s.clients.update (fun c => c.id = id) (fun c => { c with lastSeenAt := some now })
      (Client.keepsKeys_seen now) }

/-- Go `ClearClient`. -/
def clearClient (s : Store) (id : Nat) : Store :=
  { s with
    clients := s.clients.update (fun c => c.id = id) (fun c => { c with lastSeenAt := none })
      Client.keepsKeys_unseen }

/-- Go `clientHeartbeatTimeout`, in milliseconds. -/
def clientHeartbeatTimeout : Nat := 60 * 1000

/-- Go `ClientFresh`. -/
def clientFresh (s : Store) (now : Time) (id : Nat) : Bool :=
  s.clients.any fun c => c.id = id && c.lastSeenAt.any fun seen => now - seen ≤ clientHeartbeatTimeout

/-- Go `RuntimeClientFresh`. -/
def runtimeClientFresh (s : Store) (now : Time) (tokenId : Nat) (clientId : String) : Bool :=
  s.clients.any fun c => c.tokenId = tokenId && c.clientId = clientId && c.status = .active &&
    s.clientFresh now c.id

/-- Go `StaleClients` with the cutoff of the watchdog. -/
def staleClients (s : Store) (now : Time) : List Client :=
  s.clients.rows.filter fun c =>
    c.status = .active && c.lastSeenAt.all fun seen => seen + clientHeartbeatTimeout < now

/-! ## Leases -/

/-- Go `RuntimeLease`. -/
def runtimeLease (s : Store) (hash : String) : Option RuntimeLease :=
  s.leases.find? (·.runtimeTokenHash = hash)

/-- Go `RuntimeAuthorized`; a missing row is an error. -/
def runtimeAuthorized (s : Store) (now : Time) (userId tokenId : Nat) : Except String Unit :=
  match s.cachedUsers.find? (·.id = userId) with
  | none => .error "sql: no rows in result set"
  | some user =>
    match s.cachedTokens.find? fun t => t.id = tokenId && t.userId = userId with
    | none => .error "sql: no rows in result set"
    | some token =>
      if user.status ≠ .active || user.role ≠ .user then
        .error (if user.banReason ≠ "" then user.banReason else "user is not active")
      else if token.status ≠ .active then
        .error (if token.banReason ≠ "" then token.banReason else "token is not active")
      else if !unexpired token now then .error "token expired or invalid expiry"
      else .ok ()

/-- Go `RuntimeConnectionAuthorized`. -/
def runtimeConnectionAuthorized (s : Store) (now : Time) (userId tokenId : Nat) (leaseId : String) :
    Except String Unit :=
  match s.runtimeAuthorized now userId tokenId with
  | .error e => .error e
  | .ok () =>
    if s.leases.any fun l => l.leaseId = leaseId && l.userId = userId && l.tokenId = tokenId &&
        l.live now then .ok ()
    else .error "runtime lease revoked or expired after identity update"

/-- Go `CreateLease`. -/
def createLease (s : Store) (lease : RuntimeLease) (allocations : List ProxyAllocationInput) :
    Except String Store :=
  if s.identityResetPending then .error "identity cache is synchronizing; retry later"
  else
    match s.book.issue lease allocations with
    | none => .error "constraint failed"
    | some book =>
      match s.cachedTokens.find? (·.id = lease.tokenId) with
      | none => .error "lease issuer identity unavailable"
      | some token =>
        match s.issuers.insert ⟨lease.leaseId, token.tokenHash⟩ with
        | none => .error "constraint failed"
        | some issuers =>
          .ok { s with leases := book.leases, allocations := book.allocations, issuers }

/-- Go `AllocationExists`. -/
def allocationExists (s : Store) (leaseId name kind : String) (port : Nat) (domain subdomain : String) :
    Bool :=
  s.allocations.any fun a => a.leaseId = leaseId && a.proxyName = name && a.proxyType = kind &&
    a.remotePort = port && a.domain = domain && a.subdomain = subdomain

/-- Go `RevokeClient`. -/
def revokeClient (s : Store) (tokenId : Nat) (clientId : String) : Store :=
  { s with leases := s.book.revokeClient tokenId clientId }

/-- Go `ReleaseRuntimeLease`; the flag says whether a row was changed. -/
def releaseRuntimeLease (s : Store) (leaseId : String) (tokenId : Nat) (clientId : String) :
    Store × Bool :=
  let mine (l : RuntimeLease) : Bool :=
    l.leaseId = leaseId && l.tokenId = tokenId && l.clientId = clientId && l.status = .active
  ({ s with leases := revokeLeases s.leases mine }, s.leases.any mine)

/-! ## The lease book -/

variable {s s' : Store}

/-- Inversion of `createLease`. -/
lemma createLease_inv {lease allocations} (e : s.createLease lease allocations = .ok s') :
    s.identityResetPending = false ∧
    ∃ book token issuers, s.book.issue lease allocations = some book ∧
      s.cachedTokens.find? (·.id = lease.tokenId) = some token ∧
      s.issuers.insert ⟨lease.leaseId, token.tokenHash⟩ = some issuers ∧
      s' = { s with leases := book.leases, allocations := book.allocations, issuers } := by
  unfold createLease at e
  split at e
  · cases e
  rename_i ready
  split at e
  · cases e
  rename_i book eb
  split at e
  · cases e
  rename_i token et
  split at e
  · cases e
  rename_i issuers ei
  cases e
  exact ⟨by simpa using ready, book, token, issuers, eb, et, ei, rfl⟩

/-- Dropping the cache keeps the leases, unless at a boot. -/
lemma resetIdentityCache_book {boot} : s.book.Shrinks (s.resetIdentityCache boot).book := by
  cases boot with
  | false => exact .refl
  | true => exact ⟨rfl, nofun, nofun, fun _ => nofun⟩

/-- A snapshot only ever revokes leases. -/
lemma apply_book {now snap} (ap : s.applyIdentitySnapshot now snap = .ok s') :
    s.book.Shrinks s'.book := by
  obtain ⟨_, s₁, ins, rfl⟩ := apply_inv ap
  have same : s₁.book = (s.revokeRotated snap).book := by
    rw [ins.rest]
    unfold clearFor
    split
    · rfl
    · split <;> rfl
  have rotated : s.book.Shrinks s₁.book := by
    rw [same]
    exact .revoke
  refine rotated.trans ?_
  unfold finishSnapshot
  split
  · exact .revoke
  · exact .refl

/-! ## What a snapshot leaves of tokens and leases -/

/-- A cached token was cached before or came with the snapshot. -/
lemma apply_tokens {now snap t} (ap : s.applyIdentitySnapshot now snap = .ok s')
    (m : t ∈ s'.cachedTokens) : t ∈ s.cachedTokens ∨ t ∈ snap.tokens := by
  obtain ⟨_, s₁, ins, rfl⟩ := apply_inv ap
  have rows := congrArg CacheRows.tokens ins.rows
  change t ∈ s₁.cacheRows.tokens at m
  rw [rows] at m
  rcases List.mem_append.mp m with old | new
  · refine .inl ?_
    change t ∈ ((s.revokeRotated snap).clearFor snap).cachedTokens at old
    unfold clearFor at old
    split at old
    · exact (Table.mem_delete.mp old).1
    · split at old
      · exact old
      · cases old
  · exact .inr new

/-- The tokens of a snapshot are cached. -/
lemma apply_caches {now snap t} (ap : s.applyIdentitySnapshot now snap = .ok s')
    (m : t ∈ snap.tokens) : t ∈ s'.cachedTokens := by
  obtain ⟨_, s₁, ins, rfl⟩ := apply_inv ap
  change t ∈ s₁.cacheRows.tokens
  rw [congrArg CacheRows.tokens ins.rows]
  exact List.mem_append_right _ m

/-- A snapshot leaves the issuers alone. -/
lemma apply_issuers {now snap} (ap : s.applyIdentitySnapshot now snap = .ok s') :
    s'.issuers = s.issuers := by
  obtain ⟨_, s₁, ins, rfl⟩ := apply_inv ap
  change s₁.issuers = _
  rw [ins.rest]
  unfold clearFor
  split
  · rfl
  · split <;> rfl

/-- A snapshot leaves the devices alone. -/
lemma apply_clients {now snap} (ap : s.applyIdentitySnapshot now snap = .ok s') :
    s'.clients = s.clients := by
  obtain ⟨_, s₁, ins, rfl⟩ := apply_inv ap
  change s₁.clients = _
  rw [ins.rest]
  unfold clearFor
  split
  · rfl
  · split <;> rfl

/-- A snapshot after which no reset is pending ends a transfer. -/
lemma apply_ends {now snap} (ap : s.applyIdentitySnapshot now snap = .ok s')
    (ready : s'.identityResetPending = false) : snap.ends = true := by
  obtain ⟨check, s₁, ins, rfl⟩ := apply_inv ap
  by_contra inner
  have base : snap.baseline = true := by
    by_contra other
    exact inner (by simp [IdentitySnapshot.ends, other])
  obtain ⟨pending, inc, _⟩ := check_baseline base check
  have still : s₁.identityResetPending = true := by
    rw [ins.rest, clearFor, inc, if_neg Bool.false_ne_true, base, if_pos rfl]
    exact pending
  exact inner (by simpa [finishSnapshot, still, IdentitySnapshot.completes, inc] using ready)

/-- An active lease after a closing snapshot is authorised by the cache. -/
lemma apply_authorised {now snap l} (ap : s.applyIdentitySnapshot now snap = .ok s')
    (ends : snap.ends = true) (m : l ∈ s'.leases) (active : l.status = .active) :
    s'.authorised now l = true := by
  obtain ⟨_, s₁, _, rfl⟩ := apply_inv ap
  simp only [finishSnapshot, ends, if_true] at m
  obtain ⟨_, _, e⟩ := mem_revokeLeases.mp m
  unfold Table.rewrite at e
  split at e
  · cases e
    cases active
  · rename_i keep
    cases e
    have ok : s₁.authorised now l = true := by simpa [active] using keep
    exact ok

/-- An authorised lease was issued under a cached token value. -/
lemma authorised_issuer {now l i} (ok : s.authorised now l = true) (mi : i ∈ s.issuers)
    (same : i.leaseId = l.leaseId) :
    ∃ t ∈ s.cachedTokens, t.id = l.tokenId ∧ t.tokenHash = i.accessTokenHash := by
  simp only [authorised, Bool.and_eq_true, Bool.not_eq_true'] at ok
  by_contra none
  have hit : (s.issuers.any fun i => i.leaseId = l.leaseId &&
      !(s.cachedTokens.any fun t => t.id = l.tokenId && t.tokenHash = i.accessTokenHash)) = true := by
    refine Table.any_eq_true.mpr ⟨i, mi, ?_⟩
    simp only [same, decide_true, Bool.true_and, Bool.not_eq_true']
    by_contra some
    obtain ⟨t, mt, p⟩ := Table.any_eq_true.mp (Bool.not_eq_false _ |>.mp some)
    exact none ⟨t, mt, by simpa using p⟩
  rw [ok.2] at hit
  cases hit

end MeowFrp.Edge.Store
