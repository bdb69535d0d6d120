import MeowFrp.Lib.Ledger
import MeowFrp.Data.Models

/-!
# The lease book of a node

The controller and the edge keep their runtime leases and the remote ports allocated to them in two
tables of the same shape, and both query and extend them with the same statements: the free-port
check `RemotePortInUseExceptClient`, and the transaction that revokes a client's leases, inserts the
new one and its allocations. This file states the two once, over a `LeaseBook`. They differ in what
counts as the same client: SQLite compares client ids exactly, MySQL by the key of its collation.

`holdings` reads a book as a ledger: a live lease is a grant to its client, and the allocated pairs of
protocol and remote port are the resources. `Shrinks` is what every operation other than `issue` does
to a book.
-/

namespace MeowFrp

open Lib Table

/-- The tables `runtime_leases` and `lease_proxy_allocations` (`lease_allocations` on the edge). -/
structure LeaseBook where
  leases : Table RuntimeLease
  allocations : Table ProxyAllocation
  /-- two client ids are equal in the database if their keys are -/
  key : String → String

namespace LeaseBook

variable {b b' : LeaseBook} {now now' : Time}

/-- Another client's live lease holds the port (Go `RemotePortInUseExceptClient`). -/
def remotePortInUseExceptClient (b : LeaseBook) (now : Time) (protocol : String) (remotePort : Nat)
    (tokenId : Nat) (clientId : String) : Bool :=
  b.allocations.any fun a => a.proxyType = protocol && a.remotePort = remotePort &&
    b.leases.any fun l => l.leaseId = a.leaseId && l.live now &&
      !(l.tokenId = tokenId && b.key l.clientId = b.key clientId)

/-- Revoke the active leases of a client. -/
def revokeClient (b : LeaseBook) (tokenId : Nat) (clientId : String) : Table RuntimeLease :=
  revokeLeases b.leases fun l =>
    l.tokenId = tokenId && b.key l.clientId = b.key clientId && l.status = .active

/-- Replace the client's leases by a new one (Go `CreateRuntimeLease`, `CreateLease`). -/
def issue (b : LeaseBook) (lease : RuntimeLease) (inputs : List ProxyAllocationInput) :
    Option LeaseBook := do
  let leases ← (b.revokeClient lease.tokenId lease.clientId).insert lease
  let allocations ← b.allocations.insertAll (inputs.map (⟨·, lease.leaseId⟩))
  return { b with leases, allocations }

/-- Every allocation belongs to a stored lease. -/
def Owned (b : LeaseBook) : Prop := ∀ a ∈ b.allocations, ∃ l ∈ b.leases, l.leaseId = a.leaseId

/-- Leases were at most revoked or deleted, and allocations deleted. -/
structure Shrinks (b b' : LeaseBook) : Prop where
  key : b'.key = b.key
  leases : ∀ l' ∈ b'.leases, ∃ l ∈ b.leases, l' = l ∨ l' = l.revoke
  allocations : ∀ a ∈ b'.allocations, a ∈ b.allocations
  owned : b.Owned → b'.Owned

lemma Shrinks.refl : b.Shrinks b :=
  ⟨rfl, fun l m => ⟨l, m, .inl rfl⟩, fun _ m => m, id⟩

lemma Shrinks.trans {b''} (sh : b.Shrinks b') (sh' : b'.Shrinks b'') : b.Shrinks b'' := by
  refine ⟨sh'.key.trans sh.key, fun l'' m => ?_, fun a m => sh.allocations a (sh'.allocations a m),
    sh'.owned ∘ sh.owned⟩
  obtain ⟨l', m', rfl | rfl⟩ := sh'.leases l'' m
  · exact sh.leases l'' m'
  · obtain ⟨l, ml, rfl | rfl⟩ := sh.leases l' m'
    · exact ⟨l', ml, .inr rfl⟩
    · exact ⟨l, ml, .inr rfl⟩

lemma live_of_revoke {l : RuntimeLease} : l.revoke.live now = false := rfl

/-- A lease that is live later was live earlier. -/
lemma live_mono {l : RuntimeLease} (le : now ≤ now') (live : l.live now' = true) :
    l.live now = true := by
  simp only [RuntimeLease.live, Bool.and_eq_true, decide_eq_true_eq] at live ⊢
  exact ⟨live.1, lt_of_le_of_lt le live.2⟩

/-- A revocation of leases, with the allocations kept. -/
lemma Shrinks.revoke {p} : b.Shrinks ⟨revokeLeases b.leases p, b.allocations, b.key⟩ := by
  refine ⟨rfl, fun l' m => ?_, fun _ m => m, fun own a m => ?_⟩
  · obtain ⟨l, ml, e⟩ := mem_revokeLeases.mp m
    refine ⟨l, ml, ?_⟩
    rw [← e, Table.rewrite]
    split
    · exact .inr rfl
    · exact .inl rfl
  · obtain ⟨l, ml, e⟩ := own a m
    refine ⟨_, mem_revokeLeases.mpr ⟨l, ml, rfl⟩, ?_⟩
    rw [← e, Table.rewrite]
    split <;> rfl

/-- Deleting leases together with their allocations. -/
lemma Shrinks.delete {p : RuntimeLease → Bool} :
    b.Shrinks ⟨b.leases.delete p,
      b.allocations.delete fun a => b.leases.any fun l => l.leaseId = a.leaseId && p l, b.key⟩ := by
  refine ⟨rfl, fun l m => ⟨l, (mem_delete.mp m).1, .inl rfl⟩,
    fun a m => (mem_delete.mp m).1, fun own a m => ?_⟩
  obtain ⟨ma, kept⟩ := mem_delete.mp m
  obtain ⟨l, ml, e⟩ := own a ma
  refine ⟨l, mem_delete.mpr ⟨ml, ?_⟩, e⟩
  by_contra pl
  have hit : (b.leases.any fun l => l.leaseId = a.leaseId && p l) = true :=
    any_eq_true.mpr ⟨l, ml, by simpa [e] using pl⟩
  rw [kept] at hit
  cases hit

/-! ## The book as a ledger -/

/-- The client of a lease, as the database tells clients apart. -/
def ownerOf (l : RuntimeLease) (key : String → String := id) : Nat × String := (l.tokenId, key l.clientId)

/-- The port an allocation occupies. -/
def portOf (a : ProxyAllocationInput) : String × Nat := (a.proxyType, a.remotePort)

/-- The ports held by live leases. -/
def holdings (b : LeaseBook) (now : Time) :
    Set (Ledger.Holding String (Nat × String) (String × Nat)) :=
  {h | ∃ l ∈ b.leases, ∃ a ∈ b.allocations, l.live now = true ∧ a.leaseId = l.leaseId ∧
    h = ⟨l.leaseId, ownerOf l b.key, portOf a.toProxyAllocationInput⟩}

/-- The ports asked for by a list of proxies. -/
def ports (inputs : List ProxyAllocationInput) : Set (String × Nat) := {r | ∃ a ∈ inputs, portOf a = r}

/-- Time, revocations and deletions bring no new holding. -/
lemma Shrinks.holdings (sh : b.Shrinks b') (le : now ≤ now') :
    b'.holdings now' ⊆ b.holdings now := by
  rintro _ ⟨l', ml', a, ma, live, e, rfl⟩
  obtain ⟨_, ml, rfl | rfl⟩ := sh.leases l' ml'
  · exact ⟨l', ml, a, sh.allocations a ma, live_mono le live, e, by rw [sh.key]⟩
  · rw [live_of_revoke] at live
    cases live

/-- A live lease of the book holds the port. -/
def Holds (b : LeaseBook) (now : Time) (port : String × Nat) (lease : RuntimeLease) : Prop :=
  lease ∈ b.leases ∧ lease.live now = true ∧
    ∃ a ∈ b.allocations, lease.leaseId = a.leaseId ∧ portOf a.toProxyAllocationInput = port

/-- A port is free if every live lease on it is the client's own. -/
lemma remotePortFree {protocol remotePort tokenId clientId} :
    b.remotePortInUseExceptClient now protocol remotePort tokenId clientId = false ↔
      ∀ l, b.Holds now (protocol, remotePort) l → ownerOf l b.key = (tokenId, b.key clientId) := by
  rw [Bool.eq_false_iff, ne_eq, remotePortInUseExceptClient, any_eq_true]
  simp only [any_eq_true, Bool.and_eq_true, decide_eq_true_eq, Bool.not_eq_true',
    Bool.and_eq_false_iff, decide_eq_false_iff_not]
  constructor
  · rintro free l ⟨ml, live, a, ma, e, port⟩
    by_contra other
    obtain ⟨type, number⟩ := Prod.mk.inj port
    refine free ⟨a, ma, ⟨type, number⟩, l, ml, ⟨e, live⟩, ?_⟩
    exact not_and_or.mp fun own => other (Prod.ext own.1 own.2)
  · rintro own ⟨a, ma, ⟨type, number⟩, l, ml, ⟨e, live⟩, other⟩
    obtain ⟨token, client⟩ := Prod.mk.inj (own l ⟨ml, live, a, ma, e, Prod.ext type number⟩)
    exact other.elim (· token) (· client)

/-- Ports that pass the free-port check are free for the client. -/
lemma freeFor_of_unused {tokenId clientId inputs}
    (unused : ∀ a ∈ inputs, b.remotePortInUseExceptClient now a.proxyType a.remotePort tokenId
      clientId = false) :
    Ledger.FreeFor (b.holdings now) (tokenId, b.key clientId) (ports inputs) := by
  rintro _ ⟨l, ml, a, ma, live, e, rfl⟩ ⟨i, mi, ei⟩
  exact remotePortFree.mp (unused i mi) l ⟨ml, live, a, ma, e.symm, ei.symm⟩

/-! ## Issuing a lease -/

/-- What `issue` stores. -/
lemma issue_inv {lease inputs} (e : b.issue lease inputs = some b') :
    (b.revokeClient lease.tokenId lease.clientId).insert lease = some b'.leases ∧
    b.allocations.insertAll (inputs.map (⟨·, lease.leaseId⟩)) = some b'.allocations ∧
    b'.key = b.key := by
  simp only [issue, Option.bind_eq_bind, Option.bind_eq_some_iff, Option.pure_def,
    Option.some.injEq] at e
  obtain ⟨_, el, _, ea, rfl⟩ := e
  exact ⟨el, ea, rfl⟩

/-- A lease after `issue` is the new one, or an earlier one under another id. -/
lemma mem_issue_leases {lease inputs l} (e : b.issue lease inputs = some b') (m : l ∈ b'.leases) :
    l = lease ∨ l.leaseId ≠ lease.leaseId ∧ ∃ k ∈ b.leases, l.leaseId = k.leaseId ∧
      (l = k ∧ (k.status = .active → ownerOf k b.key ≠ ownerOf lease b.key) ∨ l = k.revoke) := by
  obtain ⟨el, _⟩ := issue_inv e
  rcases (mem_insert el).mp m with old | new
  · refine .inr ⟨fun c => fresh_of_insert el old (.inl c), ?_⟩
    obtain ⟨k, mk, ek⟩ := mem_revokeLeases.mp old
    refine ⟨k, mk, ?_⟩
    rw [← ek, Table.rewrite]
    split
    case isTrue => exact ⟨rfl, .inr rfl⟩
    case isFalse keep =>
      refine ⟨rfl, .inl ⟨rfl, fun act same => keep ?_⟩⟩
      obtain ⟨et, ec⟩ := Prod.mk.inj same
      simp [et, ec, act]
  · exact .inl new

/-- An allocation after `issue` is an earlier one or the new lease's. -/
lemma mem_issue_allocations {lease inputs a} (e : b.issue lease inputs = some b') :
    a ∈ b'.allocations ↔
      a ∈ b.allocations ∨ a.leaseId = lease.leaseId ∧ a.toProxyAllocationInput ∈ inputs := by
  obtain ⟨_, ea, _⟩ := issue_inv e
  rw [mem_insertAll ea, List.mem_map]
  refine or_congr Iff.rfl ⟨?_, fun ⟨ei, m⟩ => ⟨a.toProxyAllocationInput, m, by rw [← ei]⟩⟩
  rintro ⟨_, m, rfl⟩
  exact ⟨rfl, m⟩

/-- No earlier allocation carries the id of the new lease. -/
lemma fresh_of_issue {lease inputs a} (own : b.Owned) (e : b.issue lease inputs = some b')
    (m : a ∈ b.allocations) : a.leaseId ≠ lease.leaseId := by
  intro same
  obtain ⟨k, mk, ek⟩ := own a m
  have kept : Table.rewrite _ RuntimeLease.revoke k ∈ b.revokeClient lease.tokenId lease.clientId :=
    mem_revokeLeases.mpr ⟨k, mk, rfl⟩
  refine absurd (.inl ?_) (fresh_of_insert (issue_inv e).1 kept)
  rw [← same, ← ek, Table.rewrite]
  split <;> rfl

/-- The new lease takes the place of what its client held. -/
lemma issue_holdings {lease inputs} (own : b.Owned) (e : b.issue lease inputs = some b') :
    b'.holdings now ⊆
      Ledger.regrant (b.holdings now) lease.leaseId (ownerOf lease b.key) (ports inputs) := by
  rintro _ ⟨l, ml, a, ma, live, ea, rfl⟩
  rw [(issue_inv e).2.2]
  rcases mem_issue_leases e ml with rfl | ⟨ne, _, mk, _, ⟨rfl, other⟩ | rfl⟩
  · right
    rcases (mem_issue_allocations e).mp ma with old | ⟨_, new⟩
    · exact absurd ea (fresh_of_issue own e old)
    · exact ⟨rfl, rfl, _, new, rfl⟩
  · left
    rcases (mem_issue_allocations e).mp ma with old | ⟨new, _⟩
    · have act : l.status = .active := by
        simp only [RuntimeLease.live, Bool.and_eq_true, decide_eq_true_eq] at live
        exact live.1
      exact ⟨⟨l, mk, a, old, live, ea, rfl⟩, other act⟩
    · exact absurd (ea.symm.trans new) ne
  · rw [live_of_revoke] at live
    cases live

/-- Issuing a lease keeps allocations attached to leases. -/
lemma issue_owned {lease inputs} (own : b.Owned) (e : b.issue lease inputs = some b') :
    b'.Owned := by
  intro a m
  obtain ⟨el, _⟩ := issue_inv e
  rcases (mem_issue_allocations e).mp m with old | ⟨new, _⟩
  · obtain ⟨k, mk, ek⟩ := own a old
    refine ⟨_, (mem_insert el).mpr (.inl (mem_revokeLeases.mpr ⟨k, mk, rfl⟩)), ?_⟩
    rw [← ek, Table.rewrite]
    split <;> rfl
  · exact ⟨lease, (mem_insert el).mpr (.inr rfl), new.symm⟩

/-- No protocol and port are allocated in two live leases. -/
def PortsExclusive (b : LeaseBook) (now : Time) : Prop :=
  ∀ l ∈ b.leases, ∀ l' ∈ b.leases, l.live now = true → l'.live now = true →
    ∀ a ∈ b.allocations, ∀ a' ∈ b.allocations, a.leaseId = l.leaseId → a'.leaseId = l'.leaseId →
      a.proxyType = a'.proxyType → a.remotePort = a'.remotePort → l = l'

lemma portsExclusive_of_ledger (ex : Ledger.Exclusive (b.holdings now)) : b.PortsExclusive now := by
  intro l ml l' ml' live live' a ma a' ma' ea ea' et ep
  have same := ex _ ⟨l, ml, a, ma, live, ea, rfl⟩ _ ⟨l', ml', a', ma', live', ea', rfl⟩
    (Prod.ext et ep)
  exact eq_of_clash ml ml' (.inl same)

end LeaseBook

end MeowFrp
