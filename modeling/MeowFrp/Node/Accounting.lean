import MeowFrp.Api.Plugin
import MeowFrp.Lib.Machine
import MeowFrp.Node.Basic

/-!
# Proxy session accounting

The controller keeps two records of the proxies that its embedded FRP server has open: a row of
`frp_proxy_sessions`, which the limit of a token is checked against, and a binding in memory. Both are
keyed by lease id and proxy name. This file is the machine of the calls between the FRP server and the
plugin endpoint that maintain them.

* A `NewProxy` call is approved, writes the row and binds the proxy; only then does the FRP server
  register the proxy, which may still fail (`RegisterProxy`).
* The FRP server closes a proxy by itself and notifies the endpoint from a goroutine of its own, so the
  notification may arrive at any later time; it closes the row and unbinds the proxy.
* A restart loses the memory, the registered proxies and every call in flight; the rows stay.

A reconnecting client logs in with its lease again and announces its proxies under a new run id. The
remaining requests matter only for what they do to the other tables; those that end sessions wholesale
(deleting a user or a device, terminating a device) are not part of the machine.
-/

namespace MeowFrp.Node

open Lib MeowFrp.Core

/-- A proxy registered in the FRP server, with the run of its connection and the token of its lease. -/
structure Registered where
  name : String
  runId : String
  leaseId : String
  tokenId : Nat
  deriving DecidableEq, Repr

/-- A call in flight, by what it does next. -/
inductive Call where
  /-- an approved `NewProxy` call: `StartProxySession` is next -/
  | start (lease : RuntimeLease) (content : Api.NewProxyContent)
  /-- `BindProxy` is next -/
  | bind (lease : RuntimeLease) (content : Api.NewProxyContent)
  /-- answered: the FRP server registers the proxy next -/
  | register (lease : RuntimeLease) (content : Api.NewProxyContent)
  /-- a close notification: `CloseProxySession` is next -/
  | close (leaseId name : String)
  /-- `UnbindProxy` is next -/
  | unbind (leaseId name : String)
  deriving DecidableEq, Repr

/-- What is left of a call after its next step. -/
def Call.next : Call → Option Call
  | .start lease content => some (.bind lease content)
  | .bind lease content => some (.register lease content)
  | .register _ _ => none
  | .close leaseId name => some (.unbind leaseId name)
  | .unbind _ _ => none

/-- The records of the controller and the state of its FRP server. -/
structure Accounting where
  store : Db.Store := {}
  now : Time := 0
  core : Manager := {}
  /-- the proxies of the FRP server, one for each name -/
  proxies : List Registered := []
  calls : List Call := []

namespace Accounting

variable (env : Env)

/-- The steps of the machine. -/
inductive Action where
  | tick (elapsed : Nat)
  /-- a device registers or is seen -/
  | heartbeat (userId tokenId : Nat) (clientId : String) (newId : Nat)
  /-- a transaction of another request -/
  | exec (op : Db.Op)
  | bootstrap (user : User) (token : AccessToken) (clientId : String)
      (proxies : List ProxyAllocationInput) (draw : Draw)
  /-- an FRP login, the first or a reconnect -/
  | login (metas : Api.Metas)
  | newProxy (content : Api.NewProxyContent)
  /-- the next statement of a call -/
  | proceed (call : Call)
  /-- the FRP server registers an approved proxy -/
  | register (lease : RuntimeLease) (content : Api.NewProxyContent)
  /-- the FRP server fails to register an approved proxy -/
  | fail (lease : RuntimeLease) (content : Api.NewProxyContent)
  /-- the FRP server closes a proxy -/
  | closeProxy (name : String)
  | restart

/-- The binding of an approved proxy. -/
def bindingOf (lease : RuntimeLease) (content : Api.NewProxyContent) : ProxyBinding :=
  ⟨lease.userId, lease.tokenId, lease.clientId, lease.leaseId, content.proxyName, content.type,
    content.remotePort⟩

/-- A call in flight takes its next step. -/
def advance (s : Accounting) (call : Call) : Accounting :=
  { s with calls := call.next.toList ++ s.calls.erase call }

/-- Go `handleFrpNewProxy` after the approval, and `handleFrpCloseProxy`. -/
def proceed (s : Accounting) : Call → Option Accounting
  | .start lease content =>
    let store := s.store.startProxySession lease content.proxyName content.type content.remotePort
      content.domain (trimSpace content.subdomain) content.runId
    some { s.advance (.start lease content) with store }
  | .bind lease content =>
    let core := s.core.bindProxy (bindingOf lease content)
    some { s.advance (.bind lease content) with core }
  | .register _ _ => none
  | .close leaseId name =>
    if leaseId ≠ "" && name ≠ "" then
      let store := s.store.closeProxySession leaseId name
      some { s.advance (.close leaseId name) with store }
    else some { s with calls := s.calls.erase (.close leaseId name) }
  | .unbind leaseId name =>
    let core := s.core.unbindProxy leaseId name
    some { s.advance (.unbind leaseId name) with core }

/-- One step; `none` when the action is not enabled. -/
def step (s : Accounting) : Action → Option Accounting
  | .tick elapsed => some { s with now := s.now + elapsed }
  | .heartbeat userId tokenId clientId newId =>
    match s.store.findOrCreateClient s.now userId tokenId clientId newId with
    | none => none
    | some (store, client) => some { s with store := store.touchClientHeartbeat s.now client.id }
  | .exec op =>
    if op.endsSessions then none
    else
      match s.store.exec s.now op with
      | none => none
      | some store => some { s with store }
  | .bootstrap user token clientId proxies draw =>
    match Api.validateBootstrapProxies (env.proxyRules s.store s.now user token clientId) proxies with
    | .error _ => none
    | .ok allocations =>
      match s.store.createRuntimeLease (env.lease s.now user token clientId draw) allocations with
      | none => none
      | some store => some { s with store }
  | .login metas =>
    match Api.validateRuntime env.tokenHash s.store s.now metas with
    | .ok lease => some { s with core := s.core.rememberRuntimeLease lease }
    | _ => none
  | .newProxy content =>
    match Api.newProxy env.tokenHash s.store s.now s.core.clientDraining content with
    | .error _ => none
    | .ok lease => some { s with calls := .start lease content :: s.calls }
  | .proceed call => if call ∈ s.calls then s.proceed call else none
  | .register lease content =>
    -- `proxyLifecycle.Begin`, and `PxyManager.Exist` and `Add`
    if .register lease content ∈ s.calls && s.core.mayRegister lease.leaseId &&
        !s.proxies.any (·.name = content.proxyName) then
      let proxy : Registered := ⟨content.proxyName, content.runId, lease.leaseId, lease.tokenId⟩
      some { s.advance (.register lease content) with
        proxies := proxy :: s.proxies
        core := s.core.opened lease.leaseId content.runId content.proxyName }
    else none
  | .fail lease content =>
    if .register lease content ∈ s.calls then some (s.advance (.register lease content)) else none
  | .closeProxy name =>
    match s.proxies.find? (·.name = name) with
    | none => none
    | some proxy =>
      some { s with
        proxies := s.proxies.filter (·.name ≠ name)
        core := s.core.closed proxy.runId name
        calls := .close proxy.leaseId name :: s.calls }
  | .restart => some { s with core := {}, proxies := [], calls := [] }

/-- The controller starts without leases and sessions. -/
def machine : Machine Accounting Action where
  Init s := s.store.leases = ∅ ∧ s.store.allocations = ∅ ∧ s.store.sessions = ∅ ∧ s.core.bindings = [] ∧
    s.proxies = [] ∧ s.calls = []
  step := step env

end Accounting

end MeowFrp.Node
