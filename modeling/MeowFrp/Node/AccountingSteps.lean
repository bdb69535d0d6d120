import MeowFrp.Node.Accounting

/-!
# What a step of the accounting can do

Inversion of the step function of `Accounting`, and two invariants of all of its runs: the records carry
the token of their lease (`Owned`), and their keys are well formed (`Shaped`).
-/

namespace MeowFrp.Node

open Lib MeowFrp.Core List Db.Store Manager

/-- Lease id and proxy name. -/
abbrev ProxyKey := String × String

def Registered.key (p : Registered) : ProxyKey := (p.leaseId, p.name)

/-- Where a call stands. -/
inductive Stage where
  | start
  | bind
  | register
  | close
  | unbind
  deriving DecidableEq, Repr

namespace Call

def stage : Call → Stage
  | .start _ _ => .start
  | .bind _ _ => .bind
  | .register _ _ => .register
  | .close _ _ => .close
  | .unbind _ _ => .unbind

def key : Call → ProxyKey
  | .start lease content => (lease.leaseId, content.proxyName)
  | .bind lease content => (lease.leaseId, content.proxyName)
  | .register lease content => (lease.leaseId, content.proxyName)
  | .close leaseId name => (leaseId, name)
  | .unbind leaseId name => (leaseId, name)

/-- The lease of a call that opens a proxy. -/
def lease? : Call → Option RuntimeLease
  | .start lease _ => some lease
  | .bind lease _ => some lease
  | .register lease _ => some lease
  | _ => none

lemma key_next {call n : Call} (e : call.next = some n) : n.key = call.key := by
  cases call <;> cases e <;> rfl

lemma lease_next {call n : Call} {l} (e : call.next = some n) (is : n.lease? = some l) :
    call.lease? = some l := by
  cases call <;> cases e <;> exact is

end Call

namespace Accounting

variable {env : Env} {s s' : Accounting} {k : ProxyKey}

/-! ## What a step can do -/

/-- The outcomes of a step. -/
inductive Kind (s : Accounting) : Action → Accounting → Prop
  /-- the records and the FRP server are not touched -/
  | frame {a s'} (kept : s.store.KeepsSessions s'.store)
      (named : ∀ x ∈ s'.store.allocations, x ∈ s.store.allocations ∨ x.proxyName ≠ "")
      (bindings : s'.core.bindings = s.core.bindings) (proxies : s'.proxies = s.proxies)
      (calls : s'.calls = s.calls) : Kind s a s'
  | approved {content lease} (stored : lease ∈ s.store.leases)
      (id : lease.leaseId = content.metas.leaseId)
      (allocated : ∃ x ∈ s.store.allocations,
        x.proxyName = Api.stripFrpUserProxyPrefix lease.userId content.proxyName lease.leaseId) :
      Kind s (.newProxy content) { s with calls := .start lease content :: s.calls }
  | started {lease content} (flying : .start lease content ∈ s.calls) :
      Kind s (.proceed (.start lease content))
        { s.advance (.start lease content) with
          store := s.store.startProxySession lease content.proxyName content.type content.remotePort
            content.domain (trimSpace content.subdomain) content.runId }
  | bound {lease content} (flying : .bind lease content ∈ s.calls) :
      Kind s (.proceed (.bind lease content))
        { s.advance (.bind lease content) with
          core := s.core.bindProxy (bindingOf lease content) }
  | closed {leaseId name} (flying : .close leaseId name ∈ s.calls) :
      Kind s (.proceed (.close leaseId name))
        { s.advance (.close leaseId name) with
          store := s.store.closeProxySession leaseId name }
  | ignored {leaseId name} (flying : .close leaseId name ∈ s.calls) (void : leaseId = "" ∨ name = "") :
      Kind s (.proceed (.close leaseId name)) { s with calls := s.calls.erase (.close leaseId name) }
  | unbound {leaseId name} (flying : .unbind leaseId name ∈ s.calls) :
      Kind s (.proceed (.unbind leaseId name))
        { s.advance (.unbind leaseId name) with core := s.core.unbindProxy leaseId name }
  | registered {lease content} (flying : .register lease content ∈ s.calls)
      (new : ∀ p ∈ s.proxies, p.name ≠ content.proxyName) :
      Kind s (.register lease content)
        { s.advance (.register lease content) with
          proxies := ⟨content.proxyName, content.runId, lease.leaseId, lease.tokenId⟩ :: s.proxies
          core := s.core.opened lease.leaseId content.runId content.proxyName }
  | failed {lease content} (flying : .register lease content ∈ s.calls) :
      Kind s (.fail lease content) (s.advance (.register lease content))
  | closing {proxy : Registered} (open_ : proxy ∈ s.proxies) :
      Kind s (.closeProxy proxy.name)
        { s with
          proxies := s.proxies.filter (·.name ≠ proxy.name)
          core := s.core.closed proxy.runId proxy.name
          calls := .close proxy.leaseId proxy.name :: s.calls }
  | restart : Kind s .restart { s with core := {}, proxies := [], calls := [] }

/-- A call takes its next step. -/
lemma proceed_kind {call} (flying : call ∈ s.calls) (st : s.proceed call = some s') :
    Kind s (.proceed call) s' := by
  cases call with
  | start =>
    cases st
    exact .started flying
  | bind =>
    cases st
    exact .bound flying
  | register => cases st
  | close =>
    simp only [proceed] at st
    split at st
    · cases st
      exact .closed flying
    · rename_i void
      cases st
      refine .ignored flying ?_
      simpa [or_iff_not_imp_left] using void
  | unbind =>
    cases st
    exact .unbound flying

/-- Every step is of one of the kinds. -/
lemma step_kind {a} (st : s.step env a = some s') : Kind s a s' := by
  cases a with
  | tick =>
    cases st
    exact .frame (.of_eq rfl rfl) (fun _ m => .inl m) rfl rfl rfl
  | heartbeat =>
    simp only [step] at st
    split at st
    · cases st
    rename_i store client found
    cases st
    obtain ⟨_, _, rfl⟩ := findOrCreateClient_grows found
    exact .frame (.of_eq rfl rfl) (fun _ m => .inl m) rfl rfl rfl
  | exec =>
    simp only [step] at st
    split at st
    · cases st
    rename_i keep
    split at st
    · cases st
    rename_i store ran
    cases st
    refine .frame (exec_keepsSessions ran (by simpa using keep)) (fun x m => .inl ?_) rfl rfl rfl
    exact (exec_book ran).allocations x m
  | bootstrap =>
    simp only [step] at st
    split at st
    · cases st
    rename_i allocations valid
    split at st
    · cases st
    rename_i store ran
    cases st
    refine .frame (createRuntimeLease_keepsSessions ran) (fun x m => ?_) rfl rfl rfl
    obtain ⟨_, issued, rfl⟩ := createRuntimeLease_inv ran
    refine ((LeaseBook.mem_issue_allocations issued).mp m).imp_right fun new => ?_
    exact Api.validateBootstrapProxies_named valid _ new.2
  | login =>
    simp only [step] at st
    split at st
    · cases st
      exact .frame (.of_eq rfl rfl) (fun _ m => .inl m) rfl rfl rfl
    · cases st
  | newProxy =>
    simp only [step] at st
    split at st
    · cases st
    rename_i lease ok
    cases st
    obtain ⟨stored, id, allocated⟩ := Api.newProxy_ok ok
    exact .approved stored id allocated
  | proceed =>
    simp only [step] at st
    split at st
    · exact proceed_kind ‹_› st
    · cases st
  | register =>
    simp only [step] at st
    split at st
    · rename_i may
      cases st
      simp only [Bool.and_eq_true, decide_eq_true_eq, Bool.not_eq_true', any_eq_false] at may
      exact .registered may.1.1 (by simpa using may.2)
    · cases st
  | fail =>
    simp only [step] at st
    split at st
    · cases st
      exact .failed ‹_›
    · cases st
  | closeProxy name =>
    simp only [step] at st
    split at st
    · cases st
    rename_i proxy found
    cases st
    have is : proxy.name = name := by simpa using List.find?_some found
    subst is
    exact .closing (mem_of_find?_eq_some found)
  | restart =>
    cases st
    exact .restart

/-! ## Records name the token of their lease -/

/-- The lease under the id belongs to the token. -/
def Owns (s : Accounting) (leaseId : String) (tokenId : Nat) : Prop :=
  ∃ l ∈ s.store.leases, l.leaseId = leaseId ∧ l.tokenId = tokenId

/-- A lease has one token. -/
lemma Owns.unique {leaseId t t'} (o : s.Owns leaseId t) (o' : s.Owns leaseId t') : t = t' := by
  obtain ⟨_, m, id, rfl⟩ := o
  obtain ⟨_, m', id', rfl⟩ := o'
  rw [Table.eq_of_clash m m' (.inl (id.trans id'.symm))]

lemma Owns.kept {leaseId t} (kept : s.store.KeepsSessions s'.store) (o : s.Owns leaseId t) :
    s'.Owns leaseId t := by
  obtain ⟨l, m, id, token⟩ := o
  obtain ⟨l', m', id', token'⟩ := kept.leases l m
  exact ⟨l', m', id'.trans id, token'.trans token⟩

/-- Rows, bindings, proxies and calls carry the token of their lease. -/
structure Owned (s : Accounting) : Prop where
  rows : ∀ p ∈ s.store.sessions, s.Owns p.leaseId p.tokenId
  bindings : ∀ b ∈ s.core.bindings, s.Owns b.leaseId b.tokenId
  proxies : ∀ p ∈ s.proxies, s.Owns p.leaseId p.tokenId
  calls : ∀ c ∈ s.calls, ∀ l, c.lease? = some l → s.Owns l.leaseId l.tokenId

/-- The calls once one has gone on. -/
lemma mem_advance {call c} (m : c ∈ (s.advance call).calls) : call.next = some c ∨ c ∈ s.calls := by
  rcases mem_append.mp m with new | old
  · exact .inl (Option.mem_toList.mp new)
  · exact .inr (mem_of_mem_erase old)

/-- A call in flight keeps its lease. -/
lemma Owned.advance {call} (own : s.Owned) (flying : call ∈ s.calls) :
    ∀ c ∈ (s.advance call).calls, ∀ l, c.lease? = some l → s.Owns l.leaseId l.tokenId := by
  intro c m l is
  rcases mem_advance m with new | old
  · exact own.calls call flying l (Call.lease_next new is)
  · exact own.calls c old l is

/-- Tokens stay with their leases. -/
lemma Owned.step {a} (own : s.Owned) (kind : Kind s a s') : s'.Owned := by
  cases kind with
  | frame kept _ bindings proxies calls =>
    refine ⟨?_, ?_, ?_, ?_⟩
    · rw [kept.sessions]
      exact fun p m => (own.rows p m).kept kept
    · rw [bindings]
      exact fun b m => (own.bindings b m).kept kept
    · rw [proxies]
      exact fun p m => (own.proxies p m).kept kept
    · rw [calls]
      exact fun c m l is => (own.calls c m l is).kept kept
  | approved stored =>
    refine ⟨own.rows, own.bindings, own.proxies, fun c m l is => ?_⟩
    rcases mem_cons.mp m with rfl | old
    · cases is
      exact ⟨_, stored, rfl, rfl⟩
    · exact own.calls c old l is
  | started flying =>
    refine ⟨fun p m => ?_, own.bindings, own.proxies, own.advance flying⟩
    rcases mem_startProxySession.mp m with ⟨old, _⟩ | ⟨old, mo, _, rfl⟩ | ⟨_, rfl⟩
    · exact own.rows p old
    · exact own.rows old mo
    · exact own.calls _ flying _ rfl
  | bound flying =>
    refine ⟨own.rows, fun b m => ?_, own.proxies, own.advance flying⟩
    rcases mem_bindProxy.mp m with rfl | ⟨old, _⟩
    · exact own.calls _ flying _ rfl
    · exact own.bindings b old
  | closed flying =>
    refine ⟨fun p m => ?_, own.bindings, own.proxies, own.advance flying⟩
    obtain ⟨old, mo, rfl⟩ := mem_closeProxySession.mp m
    unfold Table.rewrite
    split <;> exact own.rows old mo
  | ignored =>
    exact ⟨own.rows, own.bindings, own.proxies, fun c m => own.calls c (mem_of_mem_erase m)⟩
  | unbound flying =>
    refine ⟨own.rows, fun b m => ?_, own.proxies, own.advance flying⟩
    exact own.bindings b (mem_unbindProxy.mp m).1
  | registered flying =>
    refine ⟨own.rows, ?_, fun p m => ?_, own.advance flying⟩
    · change ∀ b ∈ (s.core.opened _ _ _).bindings, _
      rw [bindings_opened]
      exact own.bindings
    · rcases mem_cons.mp m with rfl | old
      · exact own.calls _ flying _ rfl
      · exact own.proxies p old
  | failed flying => exact ⟨own.rows, own.bindings, own.proxies, own.advance flying⟩
  | closing =>
    refine ⟨own.rows, ?_, fun p m => own.proxies p (mem_of_mem_filter m), fun c m l is => ?_⟩
    · change ∀ b ∈ (s.core.closed _ _).bindings, _
      rw [bindings_closed]
      exact own.bindings
    · rcases mem_cons.mp m with rfl | old
      · cases is
      · exact own.calls c old l is
  | restart => exact ⟨own.rows, forall_mem_nil _, forall_mem_nil _, forall_mem_nil _⟩

/-! ## Names and keys -/

/-- Both parts of the key are there, as `handleFrpCloseProxy` needs. -/
def Full (k : ProxyKey) : Prop := k.1 ≠ "" ∧ k.2 ≠ ""

/-- Keys are full, and each name and each key has one entry. -/
structure Shaped (s : Accounting) : Prop where
  allocations : ∀ a ∈ s.store.allocations, a.proxyName ≠ ""
  proxies : ∀ p ∈ s.proxies, Full p.key
  calls : ∀ c ∈ s.calls, Full c.key
  names : s.proxies.Pairwise fun p q => p.name ≠ q.name
  keys : s.core.bindings.Pairwise fun a b => (a.leaseId, a.proxyName) ≠ (b.leaseId, b.proxyName)

lemma Shaped.advance {call} (shape : s.Shaped) (flying : call ∈ s.calls) :
    ∀ c ∈ (s.advance call).calls, Full c.key := by
  intro c m
  rcases mem_advance m with new | old
  · rw [Call.key_next new]
    exact shape.calls call flying
  · exact shape.calls c old

/-- Every step keeps the shape. -/
lemma Shaped.step {a} (shape : s.Shaped) (kind : Kind s a s') : s'.Shaped := by
  cases kind with
  | frame _ named bindings proxies calls =>
    refine ⟨fun x m => (named x m).elim (shape.allocations x) id, ?_, ?_, ?_, ?_⟩
    · exact proxies ▸ shape.proxies
    · exact calls ▸ shape.calls
    · exact proxies ▸ shape.names
    · exact bindings ▸ shape.keys
  | @approved content lease _ _ allocated =>
    refine ⟨shape.allocations, shape.proxies, fun c m => ?_, shape.names, shape.keys⟩
    rcases mem_cons.mp m with rfl | old
    · refine ⟨lease.leaseId_ne, fun empty => ?_⟩
      -- stripping leaves nothing of an empty name, and no allocation has one
      obtain ⟨x, mx, name⟩ := allocated
      change content.proxyName = "" at empty
      apply shape.allocations x mx
      rw [name, empty, Api.stripFrpUserProxyPrefix, cutStart_empty, cutStart_empty]
    · exact shape.calls c old
  | started flying | closed flying | failed flying =>
    exact ⟨shape.allocations, shape.proxies, shape.advance flying, shape.names, shape.keys⟩
  | bound flying =>
    refine ⟨shape.allocations, shape.proxies, shape.advance flying, shape.names, ?_⟩
    refine List.Pairwise.cons (fun b m => ?_) (shape.keys.filter _)
    exact Ne.symm (of_decide_eq_true (mem_filter.mp m).2)
  | ignored =>
    exact ⟨shape.allocations, shape.proxies, fun c m => shape.calls c (mem_of_mem_erase m),
      shape.names, shape.keys⟩
  | unbound flying =>
    exact ⟨shape.allocations, shape.proxies, shape.advance flying, shape.names, shape.keys.filter _⟩
  | registered flying new =>
    refine ⟨shape.allocations, fun p m => ?_, shape.advance flying, ?_, ?_⟩
    · rcases mem_cons.mp m with rfl | old
      · exact shape.calls _ flying
      · exact shape.proxies p old
    · exact List.Pairwise.cons (fun p m => (new p m).symm) shape.names
    · change (s.core.opened _ _ _).bindings.Pairwise _
      rw [bindings_opened]
      exact shape.keys
  | @closing proxy mem =>
    refine ⟨shape.allocations, fun p m => shape.proxies p (mem_of_mem_filter m), fun c m => ?_,
      shape.names.filter _, ?_⟩
    · rcases mem_cons.mp m with rfl | old
      · exact shape.proxies proxy mem
      · exact shape.calls c old
    · change (s.core.closed _ _).bindings.Pairwise _
      rw [bindings_closed]
      exact shape.keys
  | restart => exact ⟨shape.allocations, forall_mem_nil _, forall_mem_nil _, .nil, .nil⟩

end Accounting

end MeowFrp.Node
