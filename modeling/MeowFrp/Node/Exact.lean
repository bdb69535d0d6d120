import MeowFrp.Node.AccountingSteps
import MeowFrp.Node.Controller

/-!
# Proxy sessions are exact in orderly runs

Rows and bindings are keyed by lease id and proxy name only, so a call in flight can spoil what another
one under the same key has recorded. `Orderly` excludes the three ways in which this happens: a proxy is
approved again while the notification of its last close is on its way (or closed while another call
opens it), an approved proxy is not registered, and the process restarts with active rows. In every run
whose steps are orderly, the rows and bindings are exact whenever no call is in flight; outside of
these runs they are not (`sessions_drift`).

The argument is one key at a time. `Settled` says what a row, a binding, a registered proxy and the
calls in flight under one key imply about each other; a step changes them for one key only.
-/

namespace MeowFrp.Node

open Lib MeowFrp.Core List Db.Store Manager

namespace Accounting

variable {env : Env} {s s' : Accounting} {k : ProxyKey}

/-! ## Exactness -/

/-- The keys of the active session rows of a token. -/
def activeRows (s : Accounting) (tokenId : Nat) : List ProxyKey :=
  (s.store.activeSessions tokenId).map fun p => (p.leaseId, p.proxyName)

/-- The keys of the bindings of a token. -/
def bindings (s : Accounting) (tokenId : Nat) : List ProxyKey :=
  (s.core.bindings.filter (·.tokenId = tokenId)).map fun b => (b.leaseId, b.proxyName)

/-- The keys of the registered proxies of a token. -/
def registered (s : Accounting) (tokenId : Nat) : List ProxyKey :=
  (s.proxies.filter (·.tokenId = tokenId)).map (·.key)

/-- Rows and bindings of every token are its registered proxies. -/
def Exact (s : Accounting) : Prop :=
  ∀ tokenId, (s.activeRows tokenId).Perm (s.registered tokenId) ∧
    (s.bindings tokenId).Perm (s.registered tokenId)

/-! ## One key -/

/-- There is an active row under the key. -/
def hasRow (s : Accounting) (k : ProxyKey) : Prop :=
  ∃ p ∈ s.store.sessions, p.status = .active ∧ (p.leaseId, p.proxyName) = k

/-- There is a binding under the key. -/
def isBound (s : Accounting) (k : ProxyKey) : Prop :=
  ∃ b ∈ s.core.bindings, (b.leaseId, b.proxyName) = k

/-- A proxy is registered under the key. -/
def isOpen (s : Accounting) (k : ProxyKey) : Prop := ∃ p ∈ s.proxies, p.key = k

/-- A call under the key is at the stage. -/
def pending (s : Accounting) (stage : Stage) (k : ProxyKey) : Prop :=
  ∃ c ∈ s.calls, c.stage = stage ∧ c.key = k

/-- A call under the key opens a proxy. -/
def opening (s : Accounting) (k : ProxyKey) : Prop :=
  s.pending .start k ∨ s.pending .bind k ∨ s.pending .register k

/-- A close notification under the key is in flight. -/
def closing (s : Accounting) (k : ProxyKey) : Prop := s.pending .close k ∨ s.pending .unbind k

/-- How row, binding, proxy and calls under one key depend on each other. -/
structure Settled (s : Accounting) (k : ProxyKey) : Prop where
  row : s.hasRow k → s.isOpen k ∨ s.pending .bind k ∨ s.pending .register k ∨ s.pending .close k
  row_of : s.isOpen k ∨ s.pending .bind k ∨ s.pending .register k → s.hasRow k
  bound : s.isBound k → s.isOpen k ∨ s.pending .register k ∨ s.closing k
  bound_of : s.isOpen k ∨ s.pending .register k → s.isBound k
  /-- a key that is being closed is neither open nor being opened -/
  alone : s.closing k → ¬ s.isOpen k ∧ ¬ s.opening k

lemma pending_advance {call stage} (p : (s.advance call).pending stage k) :
    (∃ n, call.next = some n ∧ n.stage = stage ∧ n.key = k) ∨ s.pending stage k := by
  obtain ⟨c, m, is⟩ := p
  rcases mem_advance m with new | old
  · exact .inl ⟨c, new, is⟩
  · exact .inr ⟨c, old, is⟩

/-- The calls other than the one that moves stay. -/
lemma pending_kept {call stage} (p : s.pending stage k)
    (other : ¬ (stage = call.stage ∧ k = call.key)) : (s.advance call).pending stage k := by
  obtain ⟨c, m, rfl, rfl⟩ := p
  refine ⟨c, mem_append_right _ ((mem_erase_of_ne fun e => other ?_).mpr m), rfl, rfl⟩
  rw [e]
  exact ⟨rfl, rfl⟩

/-- A call only changes what is in flight under its own key. -/
lemma pending_other {call stage} (other : k ≠ call.key) :
    (s.advance call).pending stage k ↔ s.pending stage k := by
  refine ⟨fun p => ?_, fun p => pending_kept p fun e => other e.2⟩
  rcases pending_advance p with ⟨_, new, _, key⟩ | old
  · exact absurd (key.symm.trans (Call.key_next new)) other
  · exact old

/-- A started session has a row. -/
lemma hasRow_start {lease name type port domain subdomain runId}
    (rows : s'.store = s.store.startProxySession lease name type port domain subdomain runId) :
    s'.hasRow k ↔ k = (lease.leaseId, name) ∨ s.hasRow k := by
  unfold hasRow
  rw [rows]
  constructor
  · rintro ⟨p, m, act, rfl⟩
    rcases mem_startProxySession.mp m with ⟨old, _⟩ | ⟨old, _, ⟨id, nm⟩, rfl⟩ | ⟨_, rfl⟩
    · exact .inr ⟨p, old, act, rfl⟩
    · exact .inl (Prod.ext id nm)
    · exact .inl rfl
  · intro has
    by_cases is : k = (lease.leaseId, name)
    · subst is
      by_cases stored : ∃ old ∈ s.store.sessions, old.leaseId = lease.leaseId ∧ old.proxyName = name
      · obtain ⟨old, m, id, nm⟩ := stored
        exact ⟨_, mem_startProxySession.mpr (.inr (.inl ⟨old, m, ⟨id, nm⟩, rfl⟩)), rfl,
          Prod.ext id nm⟩
      · refine ⟨_, mem_startProxySession.mpr (.inr (.inr ⟨?_, rfl⟩)), rfl, rfl⟩
        exact fun old m same => stored ⟨old, m, same⟩
    · obtain ⟨p, m, act, rfl⟩ := has.resolve_left is
      have other : ¬ (p.leaseId = lease.leaseId ∧ p.proxyName = name) := fun e => is (Prod.ext e.1 e.2)
      exact ⟨p, mem_startProxySession.mpr (.inl ⟨m, other⟩), act, rfl⟩

/-- A closed one has none. -/
lemma hasRow_close {leaseId name} (rows : s'.store = s.store.closeProxySession leaseId name) :
    s'.hasRow k ↔ k ≠ (leaseId, name) ∧ s.hasRow k := by
  unfold hasRow
  rw [rows]
  constructor
  · rintro ⟨p, m, act, rfl⟩
    obtain ⟨old, mo, rfl⟩ := mem_closeProxySession.mp m
    unfold Table.rewrite at act ⊢
    split at act
    · cases act
    · rename_i other
      rw [if_neg other]
      refine ⟨fun e => other ?_, old, mo, act, rfl⟩
      obtain ⟨id, nm⟩ := Prod.mk.inj e
      simp [id, nm, act]
  · rintro ⟨ne, p, m, act, rfl⟩
    refine ⟨p, mem_closeProxySession.mpr ⟨p, m, ?_⟩, act, rfl⟩
    refine if_neg fun hit => ne ?_
    simp only [Bool.and_eq_true, decide_eq_true_eq] at hit
    exact Prod.ext hit.1.1 hit.1.2

lemma isBound_congr (same : s'.core.bindings = s.core.bindings) : s'.isBound k ↔ s.isBound k := by
  unfold isBound
  rw [same]

/-- A bound proxy. -/
lemma isBound_bind {b} (bound : s'.core = s.core.bindProxy b) :
    s'.isBound k ↔ k = (b.leaseId, b.proxyName) ∨ s.isBound k := by
  unfold isBound
  rw [bound]
  constructor
  · rintro ⟨x, m, rfl⟩
    rcases mem_bindProxy.mp m with rfl | ⟨old, _⟩
    · exact .inl rfl
    · exact .inr ⟨x, old, rfl⟩
  · intro has
    by_cases is : k = (b.leaseId, b.proxyName)
    · exact ⟨b, mem_bindProxy.mpr (.inl rfl), is.symm⟩
    · obtain ⟨x, m, rfl⟩ := has.resolve_left is
      exact ⟨x, mem_bindProxy.mpr (.inr ⟨m, is⟩), rfl⟩

/-- An unbound proxy. -/
lemma isBound_unbind {leaseId name} (bound : s'.core = s.core.unbindProxy leaseId name) :
    s'.isBound k ↔ k ≠ (leaseId, name) ∧ s.isBound k := by
  unfold isBound
  rw [bound]
  constructor
  · rintro ⟨x, m, rfl⟩
    obtain ⟨old, ne⟩ := mem_unbindProxy.mp m
    exact ⟨ne, x, old, rfl⟩
  · rintro ⟨ne, x, m, rfl⟩
    exact ⟨x, mem_unbindProxy.mpr ⟨m, ne⟩, rfl⟩

/-- Names are unique, so closing by name closes the one under its key. -/
lemma isOpen_close {proxy} (shape : s.Shaped) (mem : proxy ∈ s.proxies)
    (proxies : s'.proxies = s.proxies.filter (·.name ≠ proxy.name)) :
    s'.isOpen k ↔ k ≠ proxy.key ∧ s.isOpen k := by
  unfold isOpen
  rw [proxies]
  constructor
  · rintro ⟨p, m, rfl⟩
    obtain ⟨old, ne⟩ := mem_filter.mp m
    exact ⟨fun e => of_decide_eq_true ne (Prod.mk.inj e).2, p, old, rfl⟩
  · rintro ⟨ne, p, m, rfl⟩
    refine ⟨p, mem_filter.mpr ⟨m, decide_eq_true fun same => ne ?_⟩, rfl⟩
    by_contra other
    have apart : Std.Symm fun p q : Registered => p.name ≠ q.name := ⟨fun _ _ h => h.symm⟩
    exact shape.names.forall m mem (fun e => other (by rw [e])) same

/-! ## Orderly runs -/

/-- Before the step: a proxy is approved only while no close notification under its key is in flight, and
closed only while no call opens it; a registration fails only because the same proxy is registered; and the
process restarts only without active rows. -/
def Orderly (s : Accounting) : Action → Prop
  | .newProxy content => ¬ s.closing (content.metas.leaseId, content.proxyName)
  | .closeProxy name => ∀ p ∈ s.proxies, p.name = name → ¬ s.opening p.key
  | .fail lease content => s.isOpen (lease.leaseId, content.proxyName)
  | .restart => ∀ p ∈ s.store.sessions, p.status ≠ .active
  | _ => True

/-- A call under the key has advanced or ended; the others stay. -/
structure Advanced (s s' : Accounting) (k : ProxyKey) (stage : Stage) (next : Option Stage) : Prop where
  was : s.pending stage k
  only : ∀ st, s'.pending st k → next = some st ∨ s.pending st k
  kept : ∀ st, st ≠ stage → s.pending st k → s'.pending st k
  now : ∀ st, next = some st → s'.pending st k

lemma advanced {call} (flying : call ∈ s.calls) (calls : s'.calls = (s.advance call).calls) :
    Advanced s s' call.key call.stage (call.next.map Call.stage) := by
  have same : ∀ stage, s'.pending stage call.key ↔ (s.advance call).pending stage call.key := by
    intro stage
    unfold pending
    rw [calls]
  refine ⟨⟨call, flying, rfl, rfl⟩, fun st p => ?_, fun st ne p => ?_, fun st is => ?_⟩
  · rcases pending_advance ((same st).mp p) with ⟨n, new, rfl, _⟩ | old
    · exact .inl (Option.map_eq_some_iff.mpr ⟨n, new, rfl⟩)
    · exact .inr old
  · exact (same st).mpr (pending_kept p fun e => ne e.1)
  · obtain ⟨n, new, rfl⟩ := Option.map_eq_some_iff.mp is
    rw [same, ← Call.key_next new]
    exact ⟨n, mem_append_left _ (Option.mem_toList.mpr new), rfl, rfl⟩

/-- What an orderly step does to a single key. -/
inductive KeyStep (s s' : Accounting) (k : ProxyKey) : Prop
  | same (row : s'.hasRow k ↔ s.hasRow k) (bound : s'.isBound k ↔ s.isBound k)
      (open_ : s'.isOpen k ↔ s.isOpen k) (calls : ∀ st, s'.pending st k ↔ s.pending st k)
  | approved (row : s'.hasRow k ↔ s.hasRow k) (bound : s'.isBound k ↔ s.isBound k)
      (open_ : s'.isOpen k ↔ s.isOpen k) (calls : ∀ st, s'.pending st k ↔ st = .start ∨ s.pending st k)
      (free : ¬ s.closing k)
  | started (row : s'.hasRow k) (bound : s'.isBound k ↔ s.isBound k)
      (open_ : s'.isOpen k ↔ s.isOpen k) (adv : Advanced s s' k .start (some .bind))
  | bound (row : s'.hasRow k ↔ s.hasRow k) (bound : s'.isBound k)
      (open_ : s'.isOpen k ↔ s.isOpen k) (adv : Advanced s s' k .bind (some .register))
  | registered (row : s'.hasRow k ↔ s.hasRow k) (bound : s'.isBound k ↔ s.isBound k)
      (open_ : s'.isOpen k) (adv : Advanced s s' k .register none)
  | failed (row : s'.hasRow k ↔ s.hasRow k) (bound : s'.isBound k ↔ s.isBound k)
      (open_ : s'.isOpen k ∧ s.isOpen k) (adv : Advanced s s' k .register none)
  | closing (row : s'.hasRow k ↔ s.hasRow k) (bound : s'.isBound k ↔ s.isBound k)
      (open_ : ¬ s'.isOpen k ∧ s.isOpen k)
      (calls : ∀ st, s'.pending st k ↔ st = .close ∨ s.pending st k) (free : ¬ s.opening k)
  | closed (row : ¬ s'.hasRow k) (bound : s'.isBound k ↔ s.isBound k)
      (open_ : s'.isOpen k ↔ s.isOpen k) (adv : Advanced s s' k .close (some .unbind))
  | unbound (row : s'.hasRow k ↔ s.hasRow k) (bound : ¬ s'.isBound k)
      (open_ : s'.isOpen k ↔ s.isOpen k) (adv : Advanced s s' k .unbind none)
  | gone (row : ¬ s'.hasRow k) (bound : ¬ s'.isBound k) (open_ : ¬ s'.isOpen k)
      (calls : ∀ st, ¬ s'.pending st k)

/-- The dependencies under a key survive these steps. -/
lemma Settled.keyStep (inv : s.Settled k) (step : KeyStep s s' k) : s'.Settled k := by
  obtain ⟨_, _, bound, _⟩ := inv
  cases step with
  | same | approved | closing | gone => constructor <;> grind [opening, closing]
  | started _ _ _ adv | bound _ _ _ adv | registered _ _ _ adv | failed _ _ _ adv | closed _ _ _ adv
  | unbound _ _ _ adv =>
    obtain ⟨_, _⟩ := adv
    constructor <;> grind [opening, closing]

/-- A new call is in flight under its own key. -/
lemma pending_cons {call stage} (calls : s'.calls = call :: s.calls) :
    s'.pending stage k ↔ (stage = call.stage ∧ k = call.key) ∨ s.pending stage k := by
  unfold pending
  rw [calls, exists_mem_cons_iff]
  exact or_congr_left (and_congr eq_comm eq_comm)

/-- Every orderly step is one of the steps above for each key. -/
lemma Kind.keyStep {a} (kind : Kind s a s') (shape : s.Shaped) (ok : s.Orderly a) : KeyStep s s' k := by
  cases kind with
  | frame kept _ bindings proxies calls =>
    refine .same ?_ ?_ ?_ fun stage => ?_
    · rw [hasRow, kept.sessions, hasRow]
    · rw [isBound, bindings, isBound]
    · rw [isOpen, proxies, isOpen]
    · rw [pending, calls, pending]
  | @approved content lease _ id =>
    change ¬ s.closing _ at ok
    rw [← id] at ok
    by_cases own : k = (lease.leaseId, content.proxyName)
    · subst own
      refine .approved Iff.rfl Iff.rfl Iff.rfl (fun st => ?_) ok
      exact (pending_cons rfl).trans (or_congr_left (and_iff_left rfl))
    · refine .same Iff.rfl Iff.rfl Iff.rfl fun st => (pending_cons rfl).trans (or_iff_right ?_)
      exact fun e => own e.2
  | @started lease content flying =>
    by_cases own : k = (Call.start lease content).key
    · subst own
      exact .started ((hasRow_start rfl).mpr (.inl rfl)) Iff.rfl Iff.rfl (advanced flying rfl)
    · exact .same ((hasRow_start rfl).trans (or_iff_right own)) Iff.rfl Iff.rfl fun _ =>
        pending_other own
  | @bound lease content flying =>
    by_cases own : k = (Call.bind lease content).key
    · subst own
      exact .bound Iff.rfl ((isBound_bind rfl).mpr (.inl rfl)) Iff.rfl (advanced flying rfl)
    · exact .same Iff.rfl ((isBound_bind rfl).trans (or_iff_right own)) Iff.rfl fun _ =>
        pending_other own
  | @closed leaseId name flying =>
    by_cases own : k = (Call.close leaseId name).key
    · subst own
      refine .closed (fun has => ?_) Iff.rfl Iff.rfl (advanced flying rfl)
      exact ((hasRow_close rfl).mp has).1 rfl
    · exact .same ((hasRow_close rfl).trans (and_iff_right own)) Iff.rfl Iff.rfl fun _ =>
        pending_other own
  | ignored flying void =>
    obtain ⟨id, name⟩ := shape.calls _ flying
    exact absurd void (not_or.mpr ⟨id, name⟩)
  | @unbound leaseId name flying =>
    by_cases own : k = (Call.unbind leaseId name).key
    · subst own
      refine .unbound Iff.rfl (fun has => ?_) Iff.rfl (advanced flying rfl)
      exact ((isBound_unbind rfl).mp has).1 rfl
    · exact .same Iff.rfl ((isBound_unbind rfl).trans (and_iff_right own)) Iff.rfl fun _ =>
        pending_other own
  | @registered lease content flying =>
    by_cases own : k = (Call.register lease content).key
    · subst own
      exact .registered Iff.rfl (isBound_congr bindings_opened)
        ⟨_, mem_cons_self, rfl⟩ (advanced flying rfl)
    · refine .same Iff.rfl (isBound_congr bindings_opened) ?_ fun _ => pending_other own
      refine (exists_mem_cons_iff _ _ _).trans (or_iff_right fun e => own e.symm)
  | @failed lease content flying =>
    by_cases own : k = (Call.register lease content).key
    · subst own
      exact .failed Iff.rfl Iff.rfl ⟨ok, ok⟩ (advanced flying rfl)
    · exact .same Iff.rfl Iff.rfl Iff.rfl fun _ => pending_other own
  | @closing proxy mem =>
    by_cases own : k = proxy.key
    · subst own
      refine .closing Iff.rfl (isBound_congr bindings_closed)
        ⟨fun still => ((isOpen_close shape mem rfl).mp still).1 rfl, proxy, mem, rfl⟩ (fun st => ?_)
        (ok proxy mem rfl)
      exact (pending_cons rfl).trans (or_congr_left (and_iff_left rfl))
    · refine .same Iff.rfl (isBound_congr bindings_closed)
        ((isOpen_close shape mem rfl).trans (and_iff_right own))
        fun st => (pending_cons rfl).trans (or_iff_right ?_)
      exact fun e => own e.2
  | restart =>
    refine .gone ?_ ?_ ?_ fun st => ?_
    · rintro ⟨p, m, act, _⟩
      exact ok p m act
    · rintro ⟨_, m, _⟩
      cases m
    · rintro ⟨_, m, _⟩
      cases m
    · rintro ⟨_, m, _⟩
      cases m

/-! ## Exactness at rest -/

/-- What holds of every state of an orderly run. -/
structure Kept (s : Accounting) : Prop where
  owned : s.Owned
  shaped : s.Shaped
  settled : ∀ k, s.Settled k

/-- The dependencies hold in every orderly run. -/
lemma kept (r : (machine env).ReachableAlong Orderly s) : s.Kept := by
  refine r.inv ?_ fun s a s' inv ok st => ?_
  · rintro s ⟨_, allocations, sessions, bindings, proxies, calls⟩
    have noRow : ∀ k, ¬ s.hasRow k := by
      rintro k ⟨_, m, _⟩
      rw [sessions] at m
      cases m
    have noBound : ∀ k, ¬ s.isBound k := by
      rintro k ⟨_, m, _⟩
      rw [bindings] at m
      cases m
    have noOpen : ∀ k, ¬ s.isOpen k := by
      rintro k ⟨_, m, _⟩
      rw [proxies] at m
      cases m
    have noCall : ∀ stage k, ¬ s.pending stage k := by
      rintro _ k ⟨_, m, _⟩
      rw [calls] at m
      cases m
    refine ⟨⟨?_, ?_, ?_, ?_⟩, ⟨?_, ?_, ?_, ?_, ?_⟩, fun k => ?_⟩
    · rw [sessions]
      exact fun _ m => absurd m Table.not_mem_empty
    · rw [bindings]
      exact forall_mem_nil _
    · rw [proxies]
      exact forall_mem_nil _
    · rw [calls]
      exact forall_mem_nil _
    · rw [allocations]
      exact fun _ m => absurd m Table.not_mem_empty
    · rw [proxies]
      exact forall_mem_nil _
    · rw [calls]
      exact forall_mem_nil _
    · rw [proxies]
      exact .nil
    · rw [bindings]
      exact .nil
    · constructor <;> grind [opening, closing]
  · have kind := step_kind st
    exact ⟨inv.owned.step kind, inv.shaped.step kind, fun k =>
      (inv.settled k).keyStep (kind.keyStep inv.shaped ok)⟩

/-- Without calls a key has a row exactly when a proxy is registered. -/
lemma Kept.hasRow_iff (inv : s.Kept) (idle : s.calls = []) : s.hasRow k ↔ s.isOpen k := by
  have none : ∀ stage, ¬ s.pending stage k := by
    rintro _ ⟨_, m, _⟩
    rw [idle] at m
    cases m
  obtain ⟨_, _⟩ := inv.settled k
  grind

lemma Kept.isBound_iff (inv : s.Kept) (idle : s.calls = []) : s.isBound k ↔ s.isOpen k := by
  have none : ∀ stage, ¬ s.pending stage k := by
    rintro _ ⟨_, m, _⟩
    rw [idle] at m
    cases m
  obtain ⟨_, _⟩ := inv.settled k
  grind [closing]

/-- Records that cover the open keys are, token by token, the registered proxies. -/
lemma Kept.perm {α : Type} {records : List α} {key : α → ProxyKey} {token : α → Nat} (inv : s.Kept)
    (apart : records.Pairwise fun a b => key a ≠ key b)
    (own : ∀ a ∈ records, s.Owns (key a).1 (token a))
    (same : ∀ k, (∃ a ∈ records, key a = k) ↔ s.isOpen k) (tokenId : Nat) :
    ((records.filter (token · = tokenId)).map key).Perm (s.registered tokenId) := by
  have names : s.proxies.Pairwise fun p q => p.key ≠ q.key :=
    inv.shaped.names.imp fun ne e => ne (Prod.mk.inj e).2
  refine (perm_ext_iff_of_nodup ?_ ?_).mpr fun k => ?_
  · exact pairwise_map.mpr (apart.filter _)
  · exact pairwise_map.mpr (names.filter _)
  -- both sides name the token of the lease, so a key is listed on both under the same token
  simp only [registered, mem_map, mem_filter, decide_eq_true_eq]
  constructor
  · rintro ⟨a, ⟨m, rfl⟩, rfl⟩
    obtain ⟨p, mp, e⟩ := (same (key a)).mp ⟨a, m, rfl⟩
    refine ⟨p, ⟨mp, ?_⟩, e⟩
    have owns := inv.owned.proxies p mp
    rw [show p.leaseId = (key a).1 from congrArg Prod.fst e] at owns
    exact owns.unique (own a m)
  · rintro ⟨p, ⟨mp, rfl⟩, rfl⟩
    obtain ⟨a, m, e⟩ := (same p.key).mpr ⟨p, mp, rfl⟩
    refine ⟨a, ⟨m, ?_⟩, e⟩
    have owns := own a m
    rw [e] at owns
    exact owns.unique (inv.owned.proxies p mp)

/-- Without calls the records are exact. -/
lemma Kept.exact (inv : s.Kept) (idle : s.calls = []) : s.Exact := by
  intro tokenId
  constructor
  · have active : (((s.store.sessions.rows.filter (·.status = .active)).filter
        (·.tokenId = tokenId)).map fun p => (p.leaseId, p.proxyName)).Perm (s.registered tokenId) := by
      refine inv.perm ?_ ?_ (fun k => ?_) tokenId
      · exact (s.store.sessions.unique.imp fun ne e => ne (Prod.mk.inj e)).filter _
      · exact fun p m => inv.owned.rows p (mem_of_mem_filter m)
      · rw [← inv.hasRow_iff idle]
        simp only [mem_filter, decide_eq_true_eq, and_assoc]
        exact Iff.rfl
    rw [filter_filter] at active
    exact active
  · refine inv.perm inv.shaped.keys inv.owned.bindings (fun k => ?_) tokenId
    exact inv.isBound_iff idle

/-- The small node of `Controller.sample`. -/
def sample : Accounting where
  store := Controller.sample.store

/-- The lease that the device of the sample obtains. -/
def sampleLease : RuntimeLease :=
  ⟨"lease", 1, 5, "dev", "h:rt", .active, 3600000, Nat.one_pos, sampleTokenId_pos, sampleLeaseId_ne⟩

/-- The proxy of that lease, as the FRP client announces it. -/
def sampleContent (runId : String) : Api.NewProxyContent :=
  ⟨⟨"rt", "lease"⟩, runId, "u1.lease.ssh", "tcp", 1500, [], ""⟩

/-- A proxy is announced, recorded and bound. -/
def announce (runId : String) : List Action :=
  [.newProxy (sampleContent runId), .proceed (.start sampleLease (sampleContent runId)),
    .proceed (.bind sampleLease (sampleContent runId))]

/-- A device obtains a lease, logs in and announces its proxy. -/
def sampleStart : List Action :=
  [.heartbeat 1 5 "dev" 9,
    .bootstrap ⟨1, "ann", .user, .active, "", Nat.one_pos⟩
      ⟨5, 1, "laptop", "h:ak", .active, "", 2, none, sampleTokenId_pos⟩ "dev" [Controller.sampleProxy]
      ⟨"lease", "rt", sampleLeaseId_ne⟩,
    .login ⟨"rt", "lease"⟩] ++ announce "run"

/-- The announced proxy is registered. -/
def sampleOpen : List Action := sampleStart ++ [.register sampleLease (sampleContent "run")]

end Accounting

end MeowFrp.Node
