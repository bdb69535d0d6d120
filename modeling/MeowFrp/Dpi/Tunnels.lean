import MeowFrp.Core.Manager
import MeowFrp.Db.Runtime
import MeowFrp.Dpi.Summary
import MeowFrp.Lib.Machine

/-!
# The policy of a tunnel through an outage

The machine of the samples on a controller: FRP hands a sample to Go `FeedTrafficSample`, which fills in
the owner of the lease from the proxy's binding, and the provider (Go `db.GetPolicy`) looks the owner up
by the lease where the binding is missing. An error of that lookup is ignored, and a flow without an
owner gets the default policy, which the service then remembers for the lease.

Proxies are bound and unbound, leases primed and the store rewritten between the samples, and each query
of the provider may fail. `owner` gives the user of each lease; the rows and bindings of a lease agree
with it. `verified` is a history variable: the last policy of its owner that the provider returned for a
lease while it was available.
-/

namespace MeowFrp.Dpi

open Lib MeowFrp.Core List Option Function

/-- The queries of the provider that fail, the second one with its error. -/
structure QueryFaults where
  lease : Bool := false
  policy : Option String := none
  deriving DecidableEq, Repr

/-- Go `GetRuntimeLeaseByLeaseID`. -/
def getRuntimeLeaseByLeaseId (store : Db.Store) (leaseId : String) : Option RuntimeLease :=
  store.leases.find? (·.leaseId = leaseId)

/-- Go `GetDPIPolicy`. -/
def getDpiPolicy (store : Db.Store) (userId : Nat) : DpiPolicy :=
  (store.dpiPolicies.find? (·.userId = userId)).getD defaultPolicy

/-- The user that Go `db.GetPolicy` settles on; `0` is nobody. -/
def flowUser (store : Db.Store) (faults : QueryFaults) (flow : FlowContext) : Nat :=
  if flow.userId = 0 && flow.leaseId ≠ "" then
    if faults.lease then 0 else ((getRuntimeLeaseByLeaseId store flow.leaseId).map (·.userId)).getD 0
  else flow.userId

/-- Go `db.GetPolicy`. -/
def getPolicy (store : Db.Store) (faults : QueryFaults) (flow : FlowContext) :
    Except PolicyError DpiPolicy :=
  let userId := flowUser store faults flow
  if userId = 0 then .ok defaultPolicy
  else
    match faults.policy with
    | some message => .error (.query message)
    | none => .ok (getDpiPolicy store userId)

/-- The flow of a sample as Go `FeedTrafficSample` completes it. -/
def completeFlow (core : Manager) (flow : FlowContext) : FlowContext :=
  if flow.userId = 0 && flow.leaseId ≠ "" && flow.proxyName ≠ "" then
    match core.bindings.find? fun b => b.leaseId = flow.leaseId && b.proxyName = flow.proxyName with
    | some binding =>
      { flow with
        userId := binding.userId, tokenId := binding.tokenId, clientId := binding.clientId
        remotePort := binding.remotePort
        proxyType := if flow.proxyType = "" then binding.proxyType else flow.proxyType }
    | none => flow
  else flow

/-- The state that the samples of a controller depend on. -/
structure Tunnels where
  store : Db.Store := {}
  core : Manager := {}
  service : Service := {}
  verified : String → Option DpiPolicy := fun _ => none

inductive TunnelAction where
  /-- the plugin approves a proxy of the lease (Go `BindProxy`) -/
  | bind (lease : RuntimeLease) (proxyName proxyType : String) (remotePort : Nat)
  | unbind (leaseId proxyName : String)
  /-- an FRP login of the lease (Go `rememberRuntime`) -/
  | prime (lease : RuntimeLease) (faults : QueryFaults)
  | sample (flow : FlowContext) (faults : QueryFaults) (engine : Except String (List Finding))
  /-- Go `SetProviderUnavailable` -/
  | setProviderUnavailable (unavailable : Bool)
  /-- the database changes -/
  | write (store : Db.Store)

namespace Tunnels

variable (owner : String → Nat)

/-- What the provider answers to `Inspect` on a sample. -/
def answer (s : Tunnels) (flow : FlowContext) (faults : QueryFaults) : Except PolicyError DpiPolicy :=
  s.service.ask (getPolicy s.store faults (completeFlow s.core flow))

/-- Go `FeedTrafficSample`. -/
def feedTrafficSample (s : Tunnels) (flow : FlowContext) (faults : QueryFaults)
    (engine : Except String (List Finding)) : Service × Decision :=
  s.service.conclude flow.leaseId (s.answer flow faults) engine

/-- The flow with which Go `rememberRuntime` primes a lease. -/
def primeFlow (lease : RuntimeLease) : FlowContext :=
  { userId := lease.userId, tokenId := lease.tokenId, clientId := lease.clientId, leaseId := lease.leaseId }

/-- Note a policy of the owner that an available provider returned. -/
def note (s : Tunnels) (leaseId : String) (userId : Nat) (answer : Except PolicyError DpiPolicy) :
    String → Option DpiPolicy :=
  match answer with
  | .ok policy =>
    if leaseId ≠ "" && userId ≠ 0 && userId = owner leaseId && !s.service.providerUnavailable then
      update s.verified leaseId (some policy)
    else s.verified
  | .error _ => s.verified

/-- One step. -/
def step (s : Tunnels) : TunnelAction → Option Tunnels
  | .bind lease proxyName proxyType remotePort =>
    let binding : ProxyBinding :=
      ⟨lease.userId, lease.tokenId, lease.clientId, lease.leaseId, proxyName, proxyType, remotePort⟩
    if lease.userId = owner lease.leaseId then some { s with core := s.core.bindProxy binding } else none
  | .unbind leaseId proxyName => some { s with core := s.core.unbindProxy leaseId proxyName }
  | .prime lease faults =>
    if lease.userId = owner lease.leaseId then
      let answer := getPolicy s.store faults (primeFlow lease)
      some { s with
        service := s.service.primeLease lease.leaseId answer
        verified := s.note owner lease.leaseId lease.userId answer }
    else none
  | .sample flow faults engine =>
    if flow.userId = 0 ∨ flow.userId = owner flow.leaseId then
      some { s with
        service := (s.feedTrafficSample flow faults engine).1
        verified := s.note owner flow.leaseId (flowUser s.store faults (completeFlow s.core flow))
          (s.answer flow faults) }
    else none
  | .setProviderUnavailable unavailable =>
    some { s with service := { s.service with providerUnavailable := unavailable } }
  | .write store => if store.leases.rows.all fun l => l.userId = owner l.leaseId then some { s with store } else none

/-- The machine; at the start nothing is bound or remembered. -/
def machine : Machine Tunnels TunnelAction where
  Init s := s.core = {} ∧ s.service = {} ∧ s.verified = (fun _ => none) ∧
    ∀ l ∈ s.store.leases, l.userId = owner l.leaseId
  step := step owner

/-- The provider can tell the owner of the sample. -/
def Resolvable (s : Tunnels) (flow : FlowContext) (faults : QueryFaults) : Prop :=
  flow.userId ≠ 0 ∨
    (flow.proxyName ≠ "" ∧ ∃ b ∈ s.core.bindings, b.leaseId = flow.leaseId ∧ b.proxyName = flow.proxyName) ∨
    (faults.lease = false ∧ ∃ l ∈ s.store.leases, l.leaseId = flow.leaseId)

/-- Before the step: a sample of the lease is resolved, and no login is answered in an outage. -/
def Steady (leaseId : String) (s : Tunnels) : TunnelAction → Prop
  | .sample flow faults _ =>
    flow.leaseId = leaseId → s.service.providerUnavailable = false → s.Resolvable flow faults
  | .prime lease faults =>
    lease.leaseId = leaseId → s.service.providerUnavailable = true → faults.policy.isSome = true
  | _ => True

variable {owner} {s s' : Tunnels} {leaseId : String} {flow : FlowContext} {faults : QueryFaults}

/-! ## The owner of a flow -/

/-- Rows and bindings name the owners of their leases. -/
structure Owned (owner : String → Nat) (s : Tunnels) : Prop where
  bound : ∀ b ∈ s.core.bindings, b.userId ≠ 0 ∧ b.userId = owner b.leaseId
  leased : ∀ l ∈ s.store.leases, l.userId = owner l.leaseId

lemma mem_of_getRuntimeLease {store : Db.Store} {lease : RuntimeLease}
    (found : getRuntimeLeaseByLeaseId store leaseId = some lease) :
    lease ∈ store.leases ∧ lease.leaseId = leaseId := by
  unfold getRuntimeLeaseByLeaseId at found
  have key := Table.find?_prop found
  exact ⟨Table.mem_of_find? found, of_decide_eq_true key⟩

@[simp]
lemma completeFlow_leaseId {core : Manager} : (completeFlow core flow).leaseId = flow.leaseId := by
  unfold completeFlow
  split
  · split <;> rfl
  · rfl

/-- A flow keeps its user, or takes that of its binding. -/
lemma completeFlow_user {core : Manager} :
    (completeFlow core flow).userId = flow.userId ∨
      ∃ b ∈ core.bindings, b.leaseId = flow.leaseId ∧ (completeFlow core flow).userId = b.userId := by
  unfold completeFlow
  split
  · split
    · rename_i binding found
      have key := List.find?_some found
      rw [Bool.and_eq_true, decide_eq_true_eq, decide_eq_true_eq] at key
      exact .inr ⟨binding, mem_of_find?_eq_some found, key.1, rfl⟩
    · exact .inl rfl
  · exact .inl rfl

/-- The provider settles on the owner or on nobody. -/
lemma flowUser_owner (own : Owned owner s) (given : flow.userId = 0 ∨ flow.userId = owner flow.leaseId) :
    flowUser s.store faults (completeFlow s.core flow) = 0 ∨
      flowUser s.store faults (completeFlow s.core flow) = owner flow.leaseId := by
  unfold flowUser
  split
  · split
    · exact .inl rfl
    · cases found : getRuntimeLeaseByLeaseId s.store (completeFlow s.core flow).leaseId with
      | none => exact .inl rfl
      | some lease =>
        rw [completeFlow_leaseId] at found
        obtain ⟨stored, key⟩ := mem_of_getRuntimeLease found
        right
        rw [← key]
        exact own.leased lease stored
  · rcases completeFlow_user with kept | ⟨b, mb, lease, taken⟩
    · rw [kept]
      exact given
    · right
      rw [taken, ← lease]
      exact (own.bound b mb).2

/-- It settles on somebody if the owner can be told. -/
lemma flowUser_ne_zero (own : Owned owner s) (named : flow.leaseId ≠ "")
    (resolvable : s.Resolvable flow faults) :
    flowUser s.store faults (completeFlow s.core flow) ≠ 0 := by
  by_cases known : (completeFlow s.core flow).userId = 0
  · -- neither the flow nor a binding names a user, so the lease has to
    rcases resolvable with given | ⟨proxy, b, mb, lease, name⟩ | ⟨answers, l, ml, key⟩
    · unfold completeFlow at known
      rw [if_neg (by simp [given])] at known
      exact absurd known given
    · exfalso
      unfold completeFlow at known
      split at known
      · split at known
        · rename_i binding found
          exact (own.bound binding (mem_of_find?_eq_some found)).1 known
        · rename_i missing
          rw [List.find?_eq_none] at missing
          exact missing b mb (by simp [lease, name])
      · rename_i skipped
        exact skipped (by simp [known, named, proxy])
    · unfold flowUser
      rw [completeFlow_leaseId, answers, if_pos (by simp [known, named]), if_neg Bool.false_ne_true]
      cases found : getRuntimeLeaseByLeaseId s.store flow.leaseId with
      | none =>
        unfold getRuntimeLeaseByLeaseId at found
        exact absurd key (of_decide_eq_false (Table.find?_none.mp found l ml))
      | some lease => exact lease.userId_pos.ne'
  · unfold flowUser
    rw [if_neg (by simp [known])]
    exact known

/-! ## The remembered policy -/

/-- What was verified for the lease is remembered. -/
structure Kept (owner : String → Nat) (leaseId : String) (s : Tunnels) : Prop extends Owned owner s where
  kept : ∀ p, s.verified leaseId = some p → leaseId ≠ "" ∧ s.service.leasePolicies leaseId = some p

/-- Answers for other leases change nothing. -/
lemma note_of_ne {leaseId' userId answer} (ne : leaseId ≠ leaseId') :
    s.note owner leaseId' userId answer leaseId = s.verified leaseId := by
  unfold note
  split
  · split
    · exact update_of_ne ne ..
    · rfl
  · rfl

/-- Other leases keep their policies. -/
lemma primeLease_of_ne {service : Service} {leaseId' answer} (ne : leaseId ≠ leaseId') :
    (service.primeLease leaseId' answer).leasePolicies leaseId = service.leasePolicies leaseId := by
  unfold Service.primeLease
  split
  · split
    · rfl
    · exact Service.remember_of_ne ne
  · rfl

/-- An answer for the lease that is the owner's is noted and remembered. -/
lemma kept_of_answer {userId : Nat} {answer : Except PolicyError DpiPolicy} (old : Kept owner leaseId s)
    (owned : ∀ p, answer = .ok p → leaseId ≠ "" →
      userId ≠ 0 ∧ userId = owner leaseId ∧ s.service.providerUnavailable = false) :
    ∀ p, s.note owner leaseId userId answer leaseId = some p →
      leaseId ≠ "" ∧ (s.service.primeLease leaseId answer).leasePolicies leaseId = some p := by
  intro p noted
  cases answer with
  | error => exact old.kept p noted
  | ok policy =>
    unfold note at noted
    dsimp only at noted
    by_cases named : leaseId = ""
    · rw [if_neg (by simp [named])] at noted
      exact absurd named (old.kept p noted).1
    · obtain ⟨somebody, isOwner, available⟩ := owned policy rfl named
      rw [if_pos (by simp [named, somebody, ← isOwner, available]), update_self] at noted
      refine ⟨named, ?_⟩
      unfold Service.primeLease
      dsimp only
      rw [if_neg named, Service.remember_self, noted]

/-- Each step keeps the policy of the lease. -/
lemma Kept.step {a : TunnelAction} (old : Kept owner leaseId s) (steady : Steady leaseId s a)
    (st : s.step owner a = some s') : Kept owner leaseId s' := by
  cases a with
  | bind lease =>
    simp only [Tunnels.step, ite_none_right_eq_some, some.injEq] at st
    obtain ⟨own, rfl⟩ := st
    refine ⟨⟨?_, old.leased⟩, old.kept⟩
    intro b mb
    rcases Manager.mem_bindProxy.mp mb with rfl | ⟨mb, _⟩
    · exact ⟨lease.userId_pos.ne', own⟩
    · exact old.bound b mb
  | unbind =>
    cases st
    exact ⟨⟨fun b mb => old.bound b (Manager.mem_unbindProxy.mp mb).1, old.leased⟩, old.kept⟩
  | prime lease faults =>
    simp only [Tunnels.step, ite_none_right_eq_some, some.injEq] at st
    obtain ⟨own, rfl⟩ := st
    refine ⟨⟨old.bound, old.leased⟩, ?_⟩
    by_cases this : leaseId = lease.leaseId
    · subst this
      refine kept_of_answer old fun p answered _ => ⟨lease.userId_pos.ne', own, ?_⟩
      -- during an outage the login gets no answer
      by_contra outage
      rw [Bool.not_eq_false] at outage
      obtain ⟨_, fails⟩ := isSome_iff_exists.mp (steady rfl outage)
      have user : flowUser s.store faults (primeFlow lease) = lease.userId :=
        if_neg (by simp [primeFlow, lease.userId_pos.ne'])
      unfold getPolicy at answered
      rw [user, fails, if_neg lease.userId_pos.ne'] at answered
      cases answered
    · dsimp only
      rw [note_of_ne this, primeLease_of_ne this]
      exact old.kept
  | sample flow =>
    simp only [Tunnels.step, ite_none_right_eq_some, some.injEq] at st
    obtain ⟨given, rfl⟩ := st
    refine ⟨⟨old.bound, old.leased⟩, ?_⟩
    by_cases this : leaseId = flow.leaseId
    · subst this
      refine kept_of_answer old fun p answered named => ?_
      have available : s.service.providerUnavailable = false := by
        by_contra outage
        unfold answer Service.ask at answered
        rw [if_pos (Bool.not_eq_false _ ▸ outage)] at answered
        cases answered
      have somebody := flowUser_ne_zero old.toOwned named (steady rfl available)
      exact ⟨somebody, (flowUser_owner old.toOwned given).resolve_left somebody, available⟩
    · dsimp only [feedTrafficSample, Service.conclude]
      rw [note_of_ne this, primeLease_of_ne this]
      exact old.kept
  | setProviderUnavailable =>
    cases st
    exact ⟨⟨old.bound, old.leased⟩, old.kept⟩
  | write =>
    simp only [Tunnels.step, ite_none_right_eq_some, some.injEq] at st
    obtain ⟨own, rfl⟩ := st
    refine ⟨⟨old.bound, fun l ml => ?_⟩, old.kept⟩
    exact of_decide_eq_true (all_eq_true.mp own l ml)

lemma Kept.of_reachable (r : (machine owner).ReachableAlong (Steady leaseId) s) : Kept owner leaseId s := by
  refine r.inv ?_ fun s a s' old steady st => old.step steady st
  rintro _ ⟨core, _, verified, leased⟩
  refine ⟨⟨?_, leased⟩, ?_⟩
  · rw [core]
    exact nofun
  · rw [verified]
    exact nofun

/-- During an outage a lease is judged by the policy of its owner that was verified last. -/
theorem lease_policy_survives_outage (owner : String → Nat) (leaseId : String) (s : Tunnels)
    (r : (machine owner).ReachableAlong (Steady leaseId) s)
    (outage : s.service.providerUnavailable = true) (policy : DpiPolicy)
    (verified : s.verified leaseId = some policy) (flow : FlowContext) (of : flow.leaseId = leaseId)
    (faults : QueryFaults) (engine : Except String (List Finding)) :
    (s.feedTrafficSample flow faults engine).2 = judge policy engine := by
  obtain ⟨named, remembered⟩ := (Kept.of_reachable r).kept policy verified
  unfold feedTrafficSample answer Service.ask
  rw [if_pos outage, of]
  unfold Service.conclude Service.effective
  dsimp only
  rw [if_neg named, remembered]

/-- A lease of a user whose policy blocks HTTP. -/
def sampleLease : RuntimeLease :=
  ⟨"lease", 1, 5, "pc", "h", .active, 100, Nat.one_pos, sampleTokenId_pos, sampleLeaseId_ne⟩

def sample : Tunnels where
  store := { leases := ⟨[sampleLease], by decide⟩, dpiPolicies := ⟨[blockHttp], by decide⟩ }

/-- An HTTP request over the tunnel. -/
def sampleHttp : Except String (List Finding) := .ok [{ detector := "http" }]

lemma sample_init : (machine fun _ => 1).Init sample := by
  refine ⟨rfl, rfl, rfl, fun l ml => ?_⟩
  rw [mem_singleton.mp ml]
  rfl

/-- The tunnel is primed at its login, carries a sample, and stays blocked when the database is lost. -/
theorem lease_policy_survives_outage_primed :
    ∃ s, (machine fun _ => 1).ReachableAlong (Steady "lease") s ∧
      s.service.providerUnavailable = true ∧ s.verified "lease" = some blockHttp ∧
      (s.feedTrafficSample { leaseId := "lease" } {} sampleHttp).2 = judge blockHttp sampleHttp := by
  let acts : List TunnelAction :=
    [.prime sampleLease {}, .sample { leaseId := "lease" } {} sampleHttp, .setProviderUnavailable true]
  obtain ⟨s, run, outage, verified⟩ : ∃ s, (machine fun _ => 1).run sample acts = some s ∧
      s.service.providerUnavailable = true ∧ s.verified "lease" = some blockHttp := ⟨_, rfl, rfl, rfl⟩
  have along : (machine fun _ => 1).Along (Steady "lease") sample acts := by
    refine .cons rfl nofun (.cons rfl ?_ (.cons rfl trivial trivial))
    -- the lease is stored, so the sample is resolved by it
    exact fun _ _ => .inr (.inr ⟨rfl, sampleLease, mem_singleton_self _, rfl⟩)
  have reach : (machine fun _ => 1).ReachableAlong (Steady "lease") s := ⟨_, _, sample_init, along, run⟩
  exact ⟨s, reach, outage, verified,
    lease_policy_survives_outage _ "lease" s reach outage blockHttp verified _ rfl {} sampleHttp⟩

/-- A sample without a binding, whose lease lookup fails, replaces the verified policy by the default,
and the outage then lets HTTP through. -/
theorem lease_policy_lost_by_failed_lookup :
    ∃ s, (machine fun _ => 1).Reachable s ∧
      s.service.providerUnavailable = true ∧ s.verified "lease" = some blockHttp ∧
      (judge blockHttp sampleHttp).action = .block ∧
      (s.feedTrafficSample { leaseId := "lease" } {} sampleHttp).2.action = .allow := by
  refine ⟨_, ⟨sample, [.prime sampleLease {}, .sample { leaseId := "lease" } { lease := true } sampleHttp,
    .setProviderUnavailable true], sample_init, rfl⟩, rfl, rfl, by decide +kernel, by decide +kernel⟩

end Tunnels

end MeowFrp.Dpi
