import MeowFrp.Node.Books

/-!
# A remote port is leased to one client at a time

Both kinds of nodes follow the reservation protocol of `Lib.Ledger`: the holdings are the ports of the
live leases, and a bootstrap between its validation and its lease creation holds a reservation. Each
step of a node's book is a step of the protocol (`Books.Step.simulates`), so the protocol's invariant
holds in every reachable state of either node. Between the two steps of a
bootstrap any lease may be revoked, deleted or expire; none can be created, because the bootstrap lock
is held.
-/

namespace MeowFrp.Node

open Lib List LeaseBook

/-- A node's book as a state of the reservation protocol. -/
def Books.ledger (s : Books) : Ledger.State String (Nat × String) (String × Nat) :=
  ⟨s.book.holdings s.now, s.creating.map fun (lease, allocations) =>
    (LeaseBook.ownerOf lease s.book.key, LeaseBook.ports allocations)⟩

/-- Every step of the book is a step of the reservation protocol. -/
lemma Books.Step.simulates {policy proceeds} {s s' : Books} (own : s.book.Owned)
    (st : Books.Step policy proceeds s s') : s'.book.Owned ∧ Ledger.Step s.ledger s'.ledger := by
  cases st with
  | shrink sh le =>
    refine ⟨sh.owned own, ?_⟩
    unfold Books.ledger
    rw [sh.key]
    exact .shrink (sh.holdings le)
  | cancel sh le => exact ⟨sh.owned own, .cancel (sh.holdings le)⟩
  | check free =>
    refine ⟨own, .reserve (LeaseBook.Shrinks.refl.holdings le_rfl) ?_⟩
    exact freeFor_of_unused free
  | create _ issued =>
    exact ⟨issue_owned own issued, .grant (issue_holdings own issued)⟩

namespace Controller

variable {env : Env} {c c' : Controller}

/-- Every step of the controller is one of the reservation protocol. -/
lemma simulates {a} (own : c.store.book.Owned) (st : c.step env a = some c') :
    c'.store.book.Owned ∧ Ledger.Step c.books.ledger c'.books.ledger :=
  (books_step st).simulates own

/-- The ports of the controller are exclusive. -/
lemma portsExclusive (r : (machine env).Reachable c) : c.store.book.PortsExclusive c.now := by
  have inv : c.store.book.Owned ∧ Ledger.Safe c.books.ledger := by
    refine r.inv (I := fun c => c.store.book.Owned ∧ Ledger.Safe c.books.ledger) ?_ ?_
    · rintro c ⟨leases, allocations, _, _, unlocked, _⟩
      refine ⟨fun a m => ?_, ?_, fun k rs e => ?_⟩
      · change a ∈ c.store.allocations at m
        rw [allocations] at m
        cases m
      · rintro _ ⟨l, m, _⟩
        change l ∈ c.store.leases at m
        rw [leases] at m
        cases m
      · unfold Books.ledger books at e
        rw [unlocked] at e
        cases e
    · rintro _ a _ ⟨own, safe⟩ st
      obtain ⟨own', step⟩ := simulates own st
      exact ⟨own', step.safe safe⟩
  exact portsExclusive_of_ledger inv.2.exclusive

end Controller

namespace EdgeNode

variable {env : Env} {e e' : EdgeNode}

/-- Every step of an edge node is a step of the reservation protocol. -/
lemma simulates {a} (own : e.store.book.Owned) (st : e.step env a = some e') :
    e'.store.book.Owned ∧ Ledger.Step e.books.ledger e'.books.ledger :=
  (books_step st).simulates own

/-- The ports of an edge node are exclusive in every reachable state. -/
lemma portsExclusive (r : (machine env).Reachable e) : e.store.book.PortsExclusive e.now := by
  have inv : e.store.book.Owned ∧ Ledger.Safe e.books.ledger := by
    refine r.inv (I := fun e => e.store.book.Owned ∧ Ledger.Safe e.books.ledger) ?_ ?_
    · rintro e ⟨leases, allocations, _, _, _, unlocked, _⟩
      refine ⟨fun a m => ?_, ?_, fun k rs eq => ?_⟩
      · change a ∈ e.store.allocations at m
        rw [allocations] at m
        cases m
      · rintro _ ⟨l, m, _⟩
        change l ∈ e.store.leases at m
        rw [leases] at m
        cases m
      · unfold Books.ledger books at eq
        rw [unlocked] at eq
        cases eq
    · rintro _ a _ ⟨own, safe⟩ st
      obtain ⟨own', step⟩ := simulates own st
      exact ⟨own', step.safe safe⟩
  exact portsExclusive_of_ledger inv.2.exclusive

end EdgeNode

/-- In every reachable state of a node, controller or edge, each pair of protocol and remote port is
allocated in at most one active, unexpired lease. -/
theorem remote_port_leased_once (env : Env) :
    (∀ c, (Controller.machine env).Reachable c → c.store.book.PortsExclusive c.now) ∧
    (∀ e, (EdgeNode.machine env).Reachable e → e.store.book.PortsExclusive e.now) :=
  ⟨fun _ => Controller.portsExclusive, fun _ => EdgeNode.portsExclusive⟩

/-- Two devices hold a port each. -/
theorem remote_port_leased_once_after_bootstrap :
    ∃ c, (Controller.machine Controller.sampleEnv).Reachable c ∧
      (∃ l l', l ≠ l' ∧ c.store.book.Holds c.now ("tcp", 1500) l ∧
        c.store.book.Holds c.now ("tcp", 1501) l') ∧ c.store.book.PortsExclusive c.now := by
  obtain ⟨c, run, held⟩ : ∃ c, (Controller.machine Controller.sampleEnv).run Controller.sample
      (Controller.sampleBootstrap ++ Controller.sampleSecond) = some c ∧
      ∃ l l', l ≠ l' ∧ c.store.book.Holds c.now ("tcp", 1500) l ∧
        c.store.book.Holds c.now ("tcp", 1501) l' :=
    ⟨_, rfl, _, _, by decide, ⟨mem_cons_self, rfl, _, mem_cons_self, rfl, rfl⟩,
      ⟨mem_cons_of_mem _ mem_cons_self, rfl, _, mem_cons_of_mem _ mem_cons_self, rfl,
        rfl⟩⟩
  have reach : (Controller.machine Controller.sampleEnv).Reachable c :=
    ⟨_, _, ⟨rfl, rfl, by decide, rfl, rfl, rfl, rfl⟩, run⟩
  exact ⟨c, reach, held, (remote_port_leased_once Controller.sampleEnv).1 c reach⟩

end MeowFrp.Node
