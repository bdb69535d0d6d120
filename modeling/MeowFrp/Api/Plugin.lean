import MeowFrp.Api.Access
import MeowFrp.Api.Proxies

/-!
# Approval of a proxy

The decision of Go `handleFrpNewProxy`: an FRP client that announces a proxy must present a valid
runtime, the proxy must be one that its lease allocates, and the token must have sessions left. FRP
sends the name of a proxy with the user, and the generated configuration puts the lease id before it,
so both are stripped before the allocation is looked up.
-/

namespace MeowFrp.Api

open Lib Table

/-- Go `frpNewProxyContent`. -/
structure NewProxyContent where
  metas : Metas
  runId : String
  proxyName : String
  proxyType : String
  remotePort : Nat
  customDomains : List String := []
  subdomain : String := ""
  deriving DecidableEq, Repr

namespace NewProxyContent

/-- The domain of the announced proxy (Go `first`). -/
def domain (content : NewProxyContent) : String := trimSpace (content.customDomains.headD "")

/-- The normalised type of the announced proxy. -/
def type (content : NewProxyContent) : String := normalizeProtocol content.proxyType

end NewProxyContent

/-- Go `stripFRPUserProxyPrefix`. -/
def stripFrpUserProxyPrefix (userId : Nat) (proxyName leaseId : String) : String :=
  cutStart (cutStart proxyName s!"u{userId}.") (leaseId ++ ".")

example : stripFrpUserProxyPrefix 1 "u1.lease.ssh" "lease" = "ssh" := by decide

/-- Go `handleFrpNewProxy` up to the session row: the lease that the proxy is approved under, or a reason. -/
def newProxy (tokenHash : String → String) (s : Db.Store) (now : Time)
    (clientIsDraining : Nat → String → Bool) (content : NewProxyContent) : Except String RuntimeLease :=
  match validateRuntime tokenHash s now content.metas with
  | .rejected reason => .error reason
  | .timedOut _ => .error "client heartbeat timeout"
  | .ok lease =>
    if clientIsDraining lease.tokenId lease.clientId then .error "节点异常：禁止开启新穿透端口"
    else if content.type = "" then .error "unsupported proxy type"
    else
      let name := stripFrpUserProxyPrefix lease.userId content.proxyName lease.leaseId
      match s.getLeaseAllocation lease.leaseId name content.type content.remotePort content.domain
        (trimSpace content.subdomain) with
      | none => .error "proxy is not allocated by current lease"
      | some _ =>
        match (s.getAccessTokenById lease.tokenId).filter (·.status = .active) with
        | none => .error "token is not active"
        | some token =>
          if token.maxProxyCount > 0 && s.countActiveProxySessions lease.tokenId ≥ token.maxProxyCount then
            .error s!"token max proxy count {token.maxProxyCount} reached"
          else .ok lease

/-- A proxy is approved under the stored lease it was announced with, which allocates it. -/
lemma newProxy_ok {tokenHash s now draining content lease}
    (ok : newProxy tokenHash s now draining content = .ok lease) :
    lease ∈ s.leases ∧ lease.leaseId = content.metas.leaseId ∧ ∃ a ∈ s.allocations,
      a.proxyName = stripFrpUserProxyPrefix lease.userId content.proxyName lease.leaseId := by
  simp only [newProxy] at ok
  split at ok
  · cases ok
  · cases ok
  rename_i valid
  iterate 2 (split at ok; · cases ok)
  split at ok
  · cases ok
  rename_i found
  split at ok
  · cases ok
  split at ok
  · cases ok
  cases ok
  obtain ⟨id, permits⟩ := validateRuntime_ok valid
  refine ⟨permits.lease, id, _, mem_of_find? found, ?_⟩
  have hit := find?_prop found
  simp only [Bool.and_eq_true, decide_eq_true_eq] at hit
  exact hit.1.1.1.1.2

/-- A proxy is approved only while its token has sessions left. -/
lemma newProxy_below {tokenHash s now draining content lease}
    (ok : newProxy tokenHash s now draining content = .ok lease) :
    ∃ token ∈ s.tokens, token.id = lease.tokenId ∧
      (0 < token.maxProxyCount → s.countActiveProxySessions lease.tokenId < token.maxProxyCount) := by
  simp only [newProxy] at ok
  split at ok
  · cases ok
  · cases ok
  iterate 2 (split at ok; · cases ok)
  split at ok
  · cases ok
  split at ok
  · cases ok
  rename_i token found
  split at ok
  · cases ok
  rename_i below
  cases ok
  obtain ⟨found, _⟩ := Option.filter_eq_some_iff.mp found
  have hit := find?_prop found
  refine ⟨token, mem_of_find? found, of_decide_eq_true hit, fun limited => ?_⟩
  simpa [limited] using below

end MeowFrp.Api
