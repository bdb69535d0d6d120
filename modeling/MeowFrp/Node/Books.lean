import MeowFrp.Node.ControllerSteps
import MeowFrp.Node.EdgeSteps

/-!
# What a node does to its lease book

The controller and the edge change their leases in the same few ways: most steps let time pass and
revoke or delete leases, the validation of a bootstrap decides what its lease will hold, and the
creation issues that lease. `Books.Step` says so once for both, and the results about the leases of a
node (`Ports`, `Quota`) are proved over it.
-/

namespace MeowFrp.Node

open Edge.Store

/-- The lease that a validated bootstrap is about to create. -/
def Locked.creating {ε : Type} : Option (Locked ε) → Option (RuntimeLease × List ProxyAllocationInput)
  | some (.create lease _ allocations) => some (lease, allocations)
  | _ => none

/-- What of a node concerns its leases. -/
structure Books where
  book : LeaseBook
  now : Time
  creating : Option (RuntimeLease × List ProxyAllocationInput)

/-- A step of a node; `proceeds` says that it is one of the lock holder. -/
inductive Books.Step (policy : Nat → Option UserResourcePolicy) (proceeds : Prop) :
    Books → Books → Prop
  | shrink {b b' now now' creating} (sh : LeaseBook.Shrinks b b') (le : now ≤ now') :
      Step policy proceeds ⟨b, now, creating⟩ ⟨b', now', creating⟩
  | cancel {b b' now now' creating} (sh : LeaseBook.Shrinks b b') (le : now ≤ now') :
      Step policy proceeds ⟨b, now, creating⟩ ⟨b', now', none⟩
  | check {b now creating} {lease : RuntimeLease} {allocations}
      (free : ∀ a ∈ allocations, b.remotePortInUseExceptClient now a.proxyType a.remotePort
        lease.tokenId lease.clientId = false)
      (within : ∃ p, policy lease.userId = some p ∧ p.enabled = true ∧
        (0 < p.maxPorts → allocations.length ≤ p.maxPorts)) :
      Step policy proceeds ⟨b, now, creating⟩ ⟨b, now, some (lease, allocations)⟩
  | create {b b' now lease allocations} (by_ : proceeds)
      (issued : b.issue lease allocations = some b') :
      Step policy proceeds ⟨b, now, some (lease, allocations)⟩ ⟨b', now, none⟩

namespace Controller

variable {env : Env} {c c' : Controller} {a : Action}

/-- A step of the request that holds the bootstrap lock. -/
def Action.proceedsLocked : Action → Bool
  | .proceedLocked => true
  | _ => false

def books (c : Controller) : Books := ⟨c.store.book, c.now, Locked.creating c.locked⟩

lemma shrinks_books {policy proceeds} (sh : c.store.book.Shrinks c'.store.book) (le : c.now ≤ c'.now)
    (same : Locked.creating c'.locked = Locked.creating c.locked) :
    Books.Step policy proceeds c.books c'.books := by
  unfold books
  rw [same]
  exact .shrink sh le

/-- A step under the lock is a step of the books. -/
lemma LockedStep.books {l} (holds : c.locked = some l) (st : LockedStep env c l c') :
    Books.Step c.store.getUserResourcePolicy True c.books c'.books := by
  cases st with
  | ended => exact .cancel .refl le_rfl
  | validated ok =>
    exact .check (Api.validateBootstrapProxies_free ok) (Api.validateBootstrapProxies_within ok)
  | created ran =>
    obtain ⟨⟨_, _⟩, issued, rfl⟩ := Db.Store.createRuntimeLease_inv ran
    cases (LeaseBook.issue_inv issued).2.2
    unfold Controller.books
    rw [holds]
    exact .create trivial issued
  | released =>
    refine shrinks_books .revoke le_rfl ?_
    rw [holds]
    rfl
  | performed did =>
    refine shrinks_books did.book did.same.1.ge ?_
    rw [holds]
    rfl

/-- Every step of the controller node is a step of its book. -/
lemma books_step (st : c.step env a = some c') :
    Books.Step c.store.getUserResourcePolicy (a = .proceedLocked) c.books c'.books := by
  cases step_kind st with
  | frame frame | start frame =>
    exact shrinks_books (frame.book ▸ .refl) frame.now (by rw [frame.locked])
  | lock frame free locks =>
    refine shrinks_books (frame.book ▸ .refl) frame.now ?_
    rw [free]
    cases locks <;> rfl
  | perform _ _ did => exact shrinks_books did.book did.same.1.ge (by rw [did.same.2.1])
  | locked is holds st =>
    rw [eq_true is]
    exact st.books holds
  | restart => exact .cancel .refl le_rfl

end Controller

namespace EdgeNode

variable {env : Env} {e e' : EdgeNode} {a : Action}

/-- A step of the request that holds the bootstrap lock. -/
def Action.proceedsLocked : Action → Bool
  | .proceedLocked => true
  | _ => false

def books (e : EdgeNode) : Books := ⟨e.store.book, e.now, Locked.creating e.locked⟩

lemma shrinks_books {policy proceeds} (sh : e.store.book.Shrinks e'.store.book) (le : e.now ≤ e'.now)
    (same : Locked.creating e'.locked = Locked.creating e.locked) :
    Books.Step policy proceeds e.books e'.books := by
  unfold books
  rw [same]
  exact .shrink sh le

lemma LockedStep.books {l} (holds : e.locked = some l) (st : LockedStep env e l e') :
    Books.Step e.store.policy True e.books e'.books := by
  cases st with
  | ended => exact .cancel .refl le_rfl
  | validated ok => exact .check (Api.validateEdgeProxies_free ok) (Api.validateEdgeProxies_within ok)
  | created ran =>
    obtain ⟨_, ⟨_, _⟩, _, _, issued, _, _, rfl⟩ := createLease_inv ran
    cases (LeaseBook.issue_inv issued).2.2
    unfold EdgeNode.books
    rw [holds]
    exact .create trivial issued
  | released =>
    refine shrinks_books .revoke le_rfl ?_
    rw [holds]
    rfl
  | performed =>
    refine shrinks_books perform_book perform_same.1.ge ?_
    rw [holds]
    rfl

/-- Every step of an edge node is a step of its book. -/
lemma books_step (st : e.step env a = some e') :
    Books.Step e.store.policy (a = .proceedLocked) e.books e'.books := by
  cases step_kind st with
  | frame frame | start frame =>
    exact shrinks_books (frame.book ▸ .refl) frame.now (by rw [frame.locked])
  | lock frame free locks =>
    refine shrinks_books (frame.book ▸ .refl) frame.now ?_
    rw [free]
    cases locks <;> rfl
  | perform => exact shrinks_books perform_book perform_same.1.ge (by rw [perform_same.2.1])
  | locked is holds st =>
    rw [eq_true is]
    exact st.books holds
  | packet | reconnect | list | finish => exact shrinks_books .refl le_rfl rfl
  | boot => exact .cancel resetIdentityCache_book le_rfl
  | apply _ _ ran => exact shrinks_books (apply_book ran) le_rfl rfl
  | check _ _ did => cases did <;> exact shrinks_books .refl le_rfl rfl

end EdgeNode

end MeowFrp.Node
