import MeowFrp.Db.Permit
import MeowFrp.Edge.Lease

/-!
# Credential and runtime checks

What a node decides about a presented credential: the access token of a client request
(Go `validateAccessTokenRequestWithClientMode`, `edgeCredential`) and the runtime token of an FRP
plugin call (Go `validateRuntime`, `edgeRuntime`). The checks of one request are evaluated in one
state of the store. A token is presented in plain text and looked up by its hash; the hash function
(Go `security.TokenHash`) is a parameter.
-/

namespace MeowFrp.Api

open Lib Table

/-- The body of a refused client request. -/
structure Rejection where
  status : String
  reason : String
  deriving DecidableEq, Repr

/-- The rejection of Go `databaseRejection`. -/
def databaseUnavailable : Rejection := ⟨"database_unavailable", "节点异常：数据库暂时不可用"⟩

/-- The metadata an FRP client sends with every plugin call. -/
structure Metas where
  token : String
  leaseId : String
  deriving DecidableEq, Repr

/-! ## The controller -/

/-- The checks on token and user before the device is looked up. -/
def checkAccessToken (s : Db.Store) (now : Time) (token : AccessToken) (user : User) :
    Option Rejection :=
  if user.role ≠ .user then some ⟨"unauthorized", "admin accounts cannot use frp access"⟩
  else if !s.canAccessNode user.id Db.Store.controllerNode then
    some ⟨"forbidden", "该账号没有此节点的使用权限"⟩
  else if user.status = .banned then some ⟨"banned", user.banReason⟩
  else if token.status = .banned then some ⟨"banned", token.banReason⟩
  else if token.expiresAt.any (now > ·) then some ⟨"expired", "token expired"⟩
  else none

/-- Go `validateAccessTokenRequestWithClientMode` up to the draining check; `create` is the id of a new device
row. -/
def validateAccessTokenRequest (s : Db.Store) (now : Time) (tokenHash clientId : String)
    (create : Option Nat) : Except Rejection (Db.Store × AccessToken × User × Client) :=
  match s.getAccessTokenByHash tokenHash with
  | none => .error ⟨"unauthorized", "invalid access token"⟩
  | some token =>
    match s.getUserById token.userId with
    | none => .error ⟨"unauthorized", "invalid token owner"⟩
    | some user =>
      match checkAccessToken s now token user with
      | some rejection => .error rejection
      | none =>
        let found := match create with
          | some id => s.findOrCreateClient now user.id token.id clientId id
          | none => (s.getClient token.id clientId).map (s, ·)
        match found with
        | none =>
          .error (if create.isSome then databaseUnavailable
            else ⟨"heartbeat_required", "client heartbeat is required before bootstrap"⟩)
        | some (s, client) =>
          if client.status = .banned then .error ⟨"banned", client.banReason⟩
          else .ok (s, token, user, client)

/-- The outcome of `validateRuntime`: the lease, a reason, or a device to terminate. -/
inductive RuntimeCheck where
  | ok (lease : RuntimeLease)
  | rejected (reason : String)
  | timedOut (client : Client)
  deriving DecidableEq, Repr

/-- The reason given for something that is not active. -/
def banReasonOr (status : Status) (banReason otherwise : String) : String :=
  if status = .banned && banReason ≠ "" then banReason else otherwise

/-- Go `validateRuntime`, on a database that answers. -/
def validateRuntime (tokenHash : String → String) (s : Db.Store) (now : Time) (metas : Metas) :
    RuntimeCheck :=
  if metas.token = "" || metas.leaseId = "" then .rejected "missing runtime token or lease_id"
  else
    match s.getRuntimeLeaseByTokenHash (tokenHash metas.token) with
    | none => .rejected "invalid runtime token"
    | some lease =>
      if lease.leaseId ≠ metas.leaseId then .rejected "runtime token and lease_id mismatch"
      else if lease.status ≠ .active || now > lease.expiresAt then
        .rejected "runtime lease expired or inactive"
      else if !s.canAccessNode lease.userId Db.Store.controllerNode then .rejected "node access denied"
      else
        match s.getUserById lease.userId with
        | none => .rejected "user is not active"
        | some user =>
          if user.status ≠ .active then
            .rejected (banReasonOr user.status user.banReason "user is not active")
          else
            match s.getAccessTokenById lease.tokenId with
            | none => .rejected "token is not active"
            | some token =>
              if token.status ≠ .active then
                .rejected (banReasonOr token.status token.banReason "token is not active")
              else if token.expiresAt.any (!now < ·) then .rejected "access token expired"
              else
                match s.getClient lease.tokenId lease.clientId with
                | none => .rejected "client is not active"
                | some client =>
                  if client.status ≠ .active then
                    .rejected (banReasonOr client.status client.banReason "client is not active")
                  else if !s.isClientHeartbeatFresh now client.id then .timedOut client
                  else .ok lease

/-- A runtime that passes the check is permitted by the database. -/
lemma validateRuntime_ok {tokenHash s now metas lease}
    (ok : validateRuntime tokenHash s now metas = .ok lease) :
    lease.leaseId = metas.leaseId ∧ s.Permits lease := by
  unfold validateRuntime at ok
  split at ok
  · cases ok
  split at ok
  · cases ok
  rename_i found
  split at ok
  · cases ok
  rename_i same
  split at ok
  · cases ok
  rename_i active
  split at ok
  · cases ok
  rename_i access
  split at ok
  · cases ok
  rename_i user owner
  split at ok
  · cases ok
  rename_i userActive
  split at ok
  · cases ok
  rename_i token issued
  split at ok
  · cases ok
  rename_i tokenActive
  split at ok
  · cases ok
  split at ok
  · cases ok
  rename_i client device
  split at ok
  · cases ok
  rename_i clientActive
  split at ok
  · cases ok
  cases ok
  simp only [Bool.or_eq_true, decide_eq_true_eq, not_or, not_not] at active
  have key := find?_prop device
  simp only [Bool.and_eq_true, decide_eq_true_eq] at key
  refine ⟨not_not.mp same, mem_of_find? found, active.1, ?_, ?_, ?_, by simpa using access⟩
  · exact ⟨user, mem_of_find? owner, by simpa using find?_prop owner,
      not_not.mp userActive⟩
  · exact ⟨token, mem_of_find? issued, by simpa using find?_prop issued,
      not_not.mp tokenActive⟩
  · exact ⟨client, mem_of_find? device, key.1, key.2, not_not.mp clientActive⟩

/-! ## The edge -/

/-- Go `edgeCredential` up to the draining check. -/
def edgeCredential (s : Edge.Store) (now : Time) (tokenHash clientId : String) (create : Option Nat) :
    Except Rejection (Edge.Store × AccessToken × User × Client) :=
  match s.credential tokenHash (trimSpace clientId) create with
  | none => .error ⟨"unauthorized", "invalid access token"⟩
  | some (s, token, user, client) =>
    match Edge.Store.validateCredential now token user client with
    | .error reason => .error ⟨"rejected", reason⟩
    | .ok () => .ok (s, token, user, client)

/-- Go `edgeRuntime`. -/
def edgeRuntime (tokenHash : String → String) (s : Edge.Store) (now : Time) (metas : Metas) :
    Except String RuntimeLease :=
  if metas.token = "" || metas.leaseId = "" then .error "missing runtime token or lease_id"
  else
    match s.runtimeLease (tokenHash metas.token) with
    | none => .error "invalid runtime token"
    | some lease =>
      if lease.leaseId ≠ metas.leaseId then .error "invalid runtime token"
      else if lease.status ≠ .active || now > lease.expiresAt then
        .error "runtime lease expired or inactive"
      else
        match s.runtimeAuthorized now lease.userId lease.tokenId with
        | .error reason => .error reason
        | .ok () =>
          if !s.runtimeClientFresh now lease.tokenId lease.clientId then .error "client heartbeat timeout"
          else .ok lease

/-- A runtime that passes the check holds an active lease. -/
lemma edgeRuntime_ok {tokenHash s now metas lease}
    (ok : edgeRuntime tokenHash s now metas = .ok lease) :
    lease ∈ s.leases ∧ lease.leaseId = metas.leaseId ∧ lease.status = .active := by
  unfold edgeRuntime at ok
  split at ok
  · cases ok
  split at ok
  · cases ok
  rename_i found
  split at ok
  · cases ok
  rename_i same
  split at ok
  · cases ok
  rename_i active
  split at ok
  · cases ok
  split at ok
  · cases ok
  cases ok
  simp only [Bool.or_eq_true, decide_eq_true_eq, not_or, not_not] at active
  exact ⟨mem_of_find? found, not_not.mp same, active.1⟩

end MeowFrp.Api
