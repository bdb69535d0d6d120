import MeowFrp.Node.Books

/-!
# The port quota of a user

Both kinds of nodes compare the number of proxies of one bootstrap with the limit of the user's policy,
and never look at what the user holds already: a second device, or a second token, gets the whole quota
again (`ports_exceed_quota`). The limit bounds a lease, not a user. It bounds the user when a lease is
created only while no other device of the user holds a live one, because the creation revokes what the
same device held before.
-/

namespace MeowFrp

open Lib Table List

namespace LeaseBook

variable {b b' : LeaseBook} {now now' : Time} {userId n : Nat}

/-- The number of allocations in the user's live leases. -/
def portsHeld (b : LeaseBook) (now : Time) (userId : Nat) : Nat :=
  b.allocations.rows.countP fun a =>
    b.leases.any fun l => l.leaseId = a.leaseId && l.userId = userId && l.live now

/-- The user has at most one live lease, with at most `n` allocations. -/
structure Quota (b : LeaseBook) (now : Time) (userId n : Nat) : Prop where
  single : ∀ l ∈ b.leases, ∀ l' ∈ b.leases, l.userId = userId → l'.userId = userId →
    l.live now = true → l'.live now = true → l = l'
  small : ∀ l ∈ b.leases, l.userId = userId → l.live now = true →
    b.allocations.rows.countP (·.leaseId = l.leaseId) ≤ n

/-- The allocations of the one live lease are all that the user holds. -/
lemma Quota.portsHeld_le (quota : b.Quota now userId n) : b.portsHeld now userId ≤ n := by
  by_cases none : ∀ l ∈ b.leases, l.userId = userId → l.live now = false
  · refine (List.countP_eq_zero.mpr fun a _ held => ?_).trans_le (Nat.zero_le n)
    obtain ⟨l, m, is⟩ := Table.any_eq_true.mp held
    simp only [Bool.and_eq_true, decide_eq_true_eq] at is
    rw [none l m is.1.2] at is
    cases is.2
  · push Not at none
    obtain ⟨l, m, mine, live⟩ := none
    have live : l.live now = true := by simpa using live
    refine (List.countP_mono_left fun a _ held => ?_).trans (quota.small l m mine live)
    obtain ⟨l', m', is⟩ := Table.any_eq_true.mp held
    simp only [Bool.and_eq_true, decide_eq_true_eq] at is
    rw [quota.single l m l' m' mine is.1.2 live is.2]
    exact decide_eq_true is.1.1.symm

/-- The passage of time, revocations and deletions keep the quota. -/
lemma Quota.shrinks (quota : b.Quota now userId n) (sh : b.Shrinks b') (le : now ≤ now') :
    b'.Quota now' userId n := by
  have kept : ∀ l ∈ b'.leases, l.live now' = true → l ∈ b.leases ∧ l.live now = true := by
    intro l m live
    obtain ⟨_, mk, rfl | rfl⟩ := sh.leases l m
    · exact ⟨mk, live_mono le live⟩
    · rw [live_of_revoke] at live
      cases live
  refine ⟨fun l m l' m' mine mine' live live' => ?_, fun l m mine live => ?_⟩
  · exact quota.single l (kept l m live).1 l' (kept l' m' live').1 mine mine' (kept l m live).2
      (kept l' m' live').2
  · refine le_trans ?_ (quota.small l (kept l m live).1 mine (kept l m live).2)
    exact countP_le_of_subset (fun _ => ⟨rfl, rfl⟩) sh.allocations

/-- The allocations of a lease after `issue`. -/
lemma count_issue {lease : RuntimeLease} {inputs leaseId} (issued : b.issue lease inputs = some b') :
    b'.allocations.rows.countP (·.leaseId = leaseId) =
      b.allocations.rows.countP (·.leaseId = leaseId) +
        if lease.leaseId = leaseId then inputs.length else 0 := by
  rw [insertAll_eq_some_iff.mp (issue_inv issued).2.1, countP_append, countP_map]
  congr 1
  split
  · rename_i same
    refine countP_eq_length.mpr fun i _ => ?_
    exact decide_eq_true same
  · rename_i other
    refine countP_eq_zero.mpr fun i _ is => ?_
    exact other (of_decide_eq_true is)

/-- A new lease keeps the quota when it is the user's only live one. -/
lemma Quota.issue {lease : RuntimeLease} {inputs} (quota : b.Quota now userId n) (own : b.Owned)
    (issued : b.issue lease inputs = some b')
    (sole : lease.userId = userId → ∀ l ∈ b.leases, l.userId = userId → l.live now = true →
      ownerOf l b.key = ownerOf lease b.key)
    (within : lease.userId = userId → inputs.length ≤ n) : b'.Quota now userId n := by
  -- a live lease of the user is the new one, or an earlier one and the new one is another user's
  have kept : ∀ l ∈ b'.leases, l.userId = userId → l.live now = true →
      l = lease ∨ l ∈ b.leases ∧ l.leaseId ≠ lease.leaseId ∧ lease.userId ≠ userId := by
    intro l m mine live
    rcases mem_issue_leases issued m with new | ⟨ne, _, mk, _, ⟨rfl, other⟩ | rfl⟩
    · exact .inl new
    · refine .inr ⟨mk, ne, fun same => ?_⟩
      have active : l.status = .active := by
        simp only [RuntimeLease.live, Bool.and_eq_true, decide_eq_true_eq] at live
        exact live.1
      exact other active (sole same l mk mine live)
    · rw [live_of_revoke] at live
      cases live
  refine ⟨fun l m l' m' mine mine' live live' => ?_, fun l m mine live => ?_⟩
  · rcases kept l m mine live with rfl | ⟨old, _, foreign⟩
    · rcases kept l' m' mine' live' with rfl | ⟨_, _, foreign⟩
      · rfl
      · exact absurd mine foreign
    · rcases kept l' m' mine' live' with rfl | ⟨old', _⟩
      · exact absurd mine' foreign
      · exact quota.single l old l' old' mine mine' live live'
  · rw [count_issue issued]
    rcases kept l m mine live with rfl | ⟨old, ne, _⟩
    · rw [if_pos rfl, countP_eq_zero.mpr, Nat.zero_add]
      · exact within mine
      · exact fun a ma is => fresh_of_issue own issued ma (of_decide_eq_true is)
    · rw [if_neg ne.symm]
      exact quota.small l old mine live

end LeaseBook

namespace Node

/-- A lease is created only when no other device of the user holds one. -/
def Books.Sole (userId : Nat) (s : Books) : Prop :=
  ∀ p ∈ s.creating, p.1.userId = userId → ∀ l ∈ s.book.leases.rows, l.userId = userId →
    l.live s.now = true → LeaseBook.ownerOf l s.book.key = LeaseBook.ownerOf p.1 s.book.key

instance {userId} {s : Books} : Decidable (s.Sole userId) :=
  inferInstanceAs (Decidable (∀ p ∈ s.creating, p.1.userId = userId → ∀ l ∈ s.book.leases.rows,
    l.userId = userId → l.live s.now = true →
      LeaseBook.ownerOf l s.book.key = LeaseBook.ownerOf p.1 s.book.key))

/-- The quota holds, also for the lease about to be created. -/
structure Books.Quota (userId n : Nat) (s : Books) : Prop where
  owned : s.book.Owned
  held : s.book.Quota s.now userId n
  creating : ∀ p ∈ s.creating, p.1.userId = userId → p.2.length ≤ n

/-- Every step keeps the quota, if a lease is created only while it is the only one. -/
lemma Books.Quota.step {userId n policy proceeds} {s s' : Books} (quota : s.Quota userId n)
    (positive : 0 < n) (limit : ∀ p, policy userId = some p → p.enabled = true → p.maxPorts = n)
    (sole : proceeds → s.Sole userId) (st : Books.Step policy proceeds s s') : s'.Quota userId n := by
  cases st with
  | shrink sh le => exact ⟨sh.owned quota.owned, quota.held.shrinks sh le, quota.creating⟩
  | cancel sh le => exact ⟨sh.owned quota.owned, quota.held.shrinks sh le, nofun⟩
  | check _ within =>
    refine ⟨quota.owned, quota.held, ?_⟩
    rintro _ ⟨⟩ rfl
    obtain ⟨p, found, enabled, most⟩ := within
    rw [limit p found enabled] at most
    exact most positive
  | create by_ issued =>
    refine ⟨LeaseBook.issue_owned quota.owned issued, ?_, nofun⟩
    exact quota.held.issue quota.owned issued (sole by_ _ rfl) (quota.creating _ rfl)

/-- A node without leases is within every quota. -/
lemma Books.Quota.init {userId n now} {b : LeaseBook} (leases : b.leases = ∅)
    (allocations : b.allocations = ∅) : Books.Quota userId n ⟨b, now, none⟩ := by
  refine ⟨fun a m => ?_, ⟨fun l m => ?_, fun l m => ?_⟩, nofun⟩
  · rw [allocations] at m
    cases m
  · rw [leases] at m
    cases m
  · rw [leases] at m
    cases m

namespace Controller

variable {env : Env} {c : Controller} {a : Action} {userId n : Nat}

/-- The enabled policy of the user allows `n` ports. -/
def LimitedPorts (userId n : Nat) (c : Controller) (_ : Action) : Prop :=
  ∀ p ∈ c.store.policies.rows, p.userId = userId → p.enabled = true → p.maxPorts = n

instance : Decidable (LimitedPorts userId n c a) := inferInstanceAs (Decidable
  (∀ p ∈ c.store.policies.rows, p.userId = userId → p.enabled = true → p.maxPorts = n))

/-- A lease of the user is created only while no other device holds a live one. -/
def SoleDevice (userId : Nat) (c : Controller) (a : Action) : Prop :=
  a.proceedsLocked = true → c.books.Sole userId

instance : Decidable (SoleDevice userId c a) :=
  inferInstanceAs (Decidable (a.proceedsLocked = true → c.books.Sole userId))

lemma quota (positive : 0 < n) (r : (machine env).ReachableAlong
    (fun c a => LimitedPorts userId n c a ∧ SoleDevice userId c a) c) : c.books.Quota userId n := by
  refine r.inv (I := fun c => c.books.Quota userId n) ?_ ?_
  · rintro _ ⟨leases, allocations, _, _, unlocked, _⟩
    unfold books
    rw [unlocked]
    exact .init leases allocations
  · rintro _ a _ inv ⟨limit, sole⟩ st
    have only : a = .proceedLocked → _ := fun is => sole (by rw [is]; rfl)
    refine inv.step positive (fun p found enabled => ?_) only (books_step st)
    have mine := find?_prop found
    exact limit p (mem_of_find? found) (of_decide_eq_true mine) enabled

end Controller

namespace EdgeNode

variable {env : Env} {e : EdgeNode} {a : Action} {userId n : Nat}

/-- The cached policy of the user, when enabled, allows `n` ports. -/
def LimitedPorts (userId n : Nat) (e : EdgeNode) (_ : Action) : Prop :=
  ∀ p ∈ e.store.cachedPolicies.rows, p.userId = userId → p.enabled = true → p.maxPorts = n

instance : Decidable (LimitedPorts userId n e a) := inferInstanceAs (Decidable
  (∀ p ∈ e.store.cachedPolicies.rows, p.userId = userId → p.enabled = true → p.maxPorts = n))

/-- A lease of the user is created only while no other device holds a live one. -/
def SoleDevice (userId : Nat) (e : EdgeNode) (a : Action) : Prop :=
  a.proceedsLocked = true → e.books.Sole userId

instance : Decidable (SoleDevice userId e a) :=
  inferInstanceAs (Decidable (a.proceedsLocked = true → e.books.Sole userId))

lemma quota (positive : 0 < n) (r : (machine env).ReachableAlong
    (fun e a => LimitedPorts userId n e a ∧ SoleDevice userId e a) e) : e.books.Quota userId n := by
  refine r.inv (I := fun e => e.books.Quota userId n) ?_ ?_
  · rintro _ ⟨leases, allocations, _, _, _, unlocked, _⟩
    unfold books
    rw [unlocked]
    exact .init leases allocations
  · rintro _ a _ inv ⟨limit, sole⟩ st
    have only : a = .proceedLocked → _ := fun is => sole (by rw [is]; rfl)
    refine inv.step positive (fun p found enabled => ?_) only (books_step st)
    have mine := find?_prop found
    exact limit p (mem_of_find? found) (of_decide_eq_true mine) enabled

end EdgeNode

/-- In every run of a node, controller or edge, in which the user's enabled policy constantly allows `n`
ports and a lease of the user is created only while no other device of the user holds a live one, the
user's live leases hold at most `n` ports. -/
theorem ports_within_quota (env : Env) {userId n : Nat} (positive : 0 < n) :
    (∀ c, (Controller.machine env).ReachableAlong (fun c a =>
        Controller.LimitedPorts userId n c a ∧ Controller.SoleDevice userId c a) c →
      c.store.book.portsHeld c.now userId ≤ n) ∧
    (∀ e, (EdgeNode.machine env).ReachableAlong (fun e a =>
        EdgeNode.LimitedPorts userId n e a ∧ EdgeNode.SoleDevice userId e a) e →
      e.store.book.portsHeld e.now userId ≤ n) :=
  ⟨fun _ r => (Controller.quota positive r).held.portsHeld_le,
    fun _ r => (EdgeNode.quota positive r).held.portsHeld_le⟩

/-- The same on an edge. -/
def EdgeNode.sampleSecond : List EdgeNode.Action :=
  [.bootstrap "ak" "dev" [Controller.sampleProxy] ⟨"lease", "rt", sampleLeaseId_ne⟩, .proceedLocked,
    .proceedLocked, .heartbeat "ak" "dev2" 10,
    .bootstrap "ak" "dev2" [⟨"web", "tcp", "", 80, 1501, "", ""⟩] ⟨"lease2", "rt2", sampleNextLeaseId_ne⟩,
    .proceedLocked, .proceedLocked]

/-- A user who may have one port holds two, with two devices. -/
theorem ports_exceed_quota :
    (∃ c, (Controller.machine Controller.sampleEnv).ReachableAlong (Controller.LimitedPorts 1 1) c ∧
      c.store.book.portsHeld c.now 1 = 2) ∧
    (∃ e, (EdgeNode.machine EdgeNode.sampleEnv).ReachableAlong (EdgeNode.LimitedPorts 1 1) e ∧
      e.store.book.portsHeld e.now 1 = 2) := by
  refine ⟨⟨_, ⟨Controller.sample, Controller.sampleBootstrap ++ Controller.sampleSecond,
      ⟨rfl, rfl, by decide, rfl, rfl, rfl, rfl⟩, .of_along rfl, rfl⟩, rfl⟩,
    ⟨_, ⟨EdgeNode.sample, EdgeNode.sampleStart ++ EdgeNode.sampleSecond,
      ⟨rfl, rfl, rfl, rfl, rfl, rfl, rfl, rfl, rfl⟩, .of_along rfl, rfl⟩, rfl⟩⟩

/-- The first device moves its proxy to another port. -/
def Controller.sampleAgain : List Controller.Action :=
  [.bootstrap "ak" "dev" [⟨"web", "tcp", "", 80, 1501, "", ""⟩] ⟨"lease2", "rt2", sampleNextLeaseId_ne⟩,
    .proceedLocked, .proceedLocked]

/-- Likewise on an edge. -/
def EdgeNode.sampleAgain : List EdgeNode.Action :=
  [.bootstrap "ak" "dev" [Controller.sampleProxy] ⟨"lease", "rt", sampleLeaseId_ne⟩, .proceedLocked,
    .proceedLocked,
    .bootstrap "ak" "dev" [⟨"web", "tcp", "", 80, 1501, "", ""⟩] ⟨"lease2", "rt2", sampleNextLeaseId_ne⟩,
    .proceedLocked, .proceedLocked]

/-- With one device the user stays within the quota: the second lease replaces the first. -/
theorem ports_within_quota_of_oneDevice :
    (∃ c, (Controller.machine Controller.sampleEnv).Reachable c ∧ c.store.leases.rows.length = 2 ∧
      c.store.book.portsHeld c.now 1 ≤ 1) ∧
    (∃ e, (EdgeNode.machine EdgeNode.sampleEnv).Reachable e ∧ e.store.leases.rows.length = 2 ∧
      e.store.book.portsHeld e.now 1 ≤ 1) := by
  obtain ⟨c, run, two⟩ : ∃ c, (Controller.machine Controller.sampleEnv).run Controller.sample
      (Controller.sampleBootstrap ++ Controller.sampleAgain) = some c ∧
      c.store.leases.rows.length = 2 := ⟨_, rfl, rfl⟩
  obtain ⟨e, erun, etwo⟩ : ∃ e, (EdgeNode.machine EdgeNode.sampleEnv).run EdgeNode.sample
      (EdgeNode.sampleStart ++ EdgeNode.sampleAgain) = some e ∧ e.store.leases.rows.length = 2 :=
    ⟨_, rfl, rfl⟩
  have init : (Controller.machine Controller.sampleEnv).Init Controller.sample :=
    ⟨rfl, rfl, by decide, rfl, rfl, rfl, rfl⟩
  have einit : (EdgeNode.machine EdgeNode.sampleEnv).Init EdgeNode.sample :=
    ⟨rfl, rfl, rfl, rfl, rfl, rfl, rfl, rfl, rfl⟩
  exact ⟨⟨c, ⟨_, _, init, run⟩, two,
      (ports_within_quota _ (by decide)).1 c ⟨_, _, init, .of_along rfl, run⟩⟩,
    ⟨e, ⟨_, _, einit, erun⟩, etwo,
      (ports_within_quota _ (by decide)).2 e ⟨_, _, einit, .of_along rfl, erun⟩⟩⟩

end Node

end MeowFrp
