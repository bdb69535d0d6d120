import MeowFrp.Dpi.Service
import MeowFrp.Edge.Apply
import MeowFrp.Lib.Machine

/-!
# Policy lookups while the cache is rebuilt

On an edge the provider is the local store (Go `edgestate.GetPolicy`): it reads the flag
`identityResetPending` and then queries the cached policies, and the service remembers the answer. These
are three steps of a lookup, and those of the worker that rebuilds the cache come in between. A reset
sets the flag and then commits the deletion; a snapshot is committed and then the flag is cleared, if the
snapshot completes the cache. The worker makes one reset or application after the other.

`owner` gives the user of each lease; the flow of a sample names its user if its proxy is bound, and
nobody otherwise. `answers` is a history variable with the answers of the finished lookups.
-/

namespace MeowFrp.Dpi

open Lib List Function Edge.Store

/-- A lookup in progress. -/
inductive Lookup where
  | idle
  /-- the flag was not set, the query comes next -/
  | admitted (flow : FlowContext)
  /-- the provider has answered -/
  | answered (flow : FlowContext) (answer : Except PolicyError DpiPolicy)

/-- What the worker is doing. -/
inductive Rebuilder where
  | idle
  /-- the flag is set, the deletion not committed -/
  | resetting
  /-- a snapshot is committed; the value the flag gets next -/
  | committed (pending : Bool)

/-- The state that the lookups of an edge depend on. -/
structure Rebuild where
  store : Edge.Store := {}
  worker : Rebuilder := .idle
  /-- the lookups in progress, by slot -/
  lookups : Nat → Lookup := fun _ => .idle
  service : Service := {}
  answers : List (FlowContext × Except PolicyError DpiPolicy) := []

inductive RebuildAction where
  /-- a lookup reads the flag -/
  | readFlag (slot : Nat) (flow : FlowContext)
  /-- it queries the cache, which may fail -/
  | query (slot : Nat) (fault : Option String)
  /-- the service goes by the answer -/
  | conclude (slot : Nat) (engine : Except String (List Finding))
  /-- a reset sets the flag -/
  | beginReset
  /-- its transaction is committed -/
  | commitReset (boot : Bool)
  /-- its transaction fails -/
  | failReset
  /-- a snapshot is committed -/
  | commit (now : Time) (snap : IdentitySnapshot)
  /-- the flag is cleared, if the snapshot completes the cache -/
  | finish

namespace Rebuild

variable (owner : String → Nat)

/-- The query of Go `edgestate.GetPolicy`. -/
def cachedPolicy (store : Edge.Store) (userId : Nat) : DpiPolicy :=
  (store.cachedDpiPolicies.find? (·.userId = userId)).getD defaultPolicy

/-- Go `edgestate.GetPolicy` up to its query. -/
def readFlag (s : Rebuild) (flow : FlowContext) : Lookup :=
  if s.store.identityResetPending then .answered flow (.error .synchronizing)
  else if flow.userId = 0 then .answered flow (.ok defaultPolicy)
  else .admitted flow

/-- A slot changes. -/
def setLookup (s : Rebuild) (slot : Nat) (lookup : Lookup) : Rebuild :=
  { s with lookups := update s.lookups slot lookup }

/-- One step. -/
def step (s : Rebuild) : RebuildAction → Option Rebuild
  | .readFlag slot flow =>
    match s.lookups slot with
    | .idle =>
      if flow.userId = 0 ∨ flow.userId = owner flow.leaseId then some (s.setLookup slot (s.readFlag flow))
      else none
    | _ => none
  | .query slot fault =>
    match s.lookups slot with
    | .admitted flow =>
      let answer : Except PolicyError DpiPolicy :=
        match fault with
        | some message => .error (.query message)
        | none => .ok (cachedPolicy s.store flow.userId)
      some (s.setLookup slot (.answered flow answer))
    | _ => none
  | .conclude slot engine =>
    match s.lookups slot with
    | .answered flow answer =>
      some { s.setLookup slot .idle with
        service := (s.service.conclude flow.leaseId answer engine).1
        answers := (flow, answer) :: s.answers }
    | _ => none
  | .beginReset =>
    match s.worker with
    | .idle => some { s with store := { s.store with identityResetPending := true }, worker := .resetting }
    | _ => none
  | .commitReset boot =>
    match s.worker with
    | .resetting => some { s with store := s.store.resetIdentityCache boot, worker := .idle }
    | _ => none
  | .failReset =>
    match s.worker with
    | .resetting => some { s with worker := .idle }
    | _ => none
  | .commit now snap =>
    match s.worker with
    | .idle =>
      match s.store.applyIdentitySnapshot now snap with
      | .ok store =>
        some { s with
          store := { store with identityResetPending := s.store.identityResetPending }
          worker := .committed store.identityResetPending }
      | .error _ => none
    | _ => none
  | .finish =>
    match s.worker with
    | .committed pending =>
      some { s with store := { s.store with identityResetPending := pending }, worker := .idle }
    | _ => none

/-- The user has a cached policy. -/
def Has (userId : Nat) (store : Edge.Store) : Prop := ∃ p ∈ store.cachedDpiPolicies, p.userId = userId

/-- The machine, from a complete cache or one that waits to be rebuilt. -/
def machine (userId : Nat) : Machine Rebuild RebuildAction where
  Init s := s.worker = .idle ∧ s.lookups = (fun _ => .idle) ∧ s.service = {} ∧ s.answers = [] ∧
    (s.store.identityResetPending = true ∨ Has userId s.store)
  step := step owner

/-- A flow of the user, by name or over one of the user's leases. -/
def Of (userId : Nat) (flow : FlowContext) : Prop := flow.userId = userId ∨ owner flow.leaseId = userId

/-- The user has a policy in every snapshot but inner pages, and in every complete baseline. -/
def Covers (userId : Nat) (s : Rebuild) : RebuildAction → Prop
  | .commit now snap => snap.ends = true → ∀ store, s.store.applyIdentitySnapshot now snap = .ok store →
    Has userId store
  | _ => True

/-- Before the step: no reset between flag and query of a lookup for the user, whose flow names the user. -/
def Apart (userId : Nat) (s : Rebuild) : RebuildAction → Prop
  | .commitReset _ => ∀ slot flow, s.lookups slot = .admitted flow → flow.userId ≠ userId
  | .readFlag _ flow => owner flow.leaseId = userId → flow.userId = userId
  | _ => True

variable {owner} {userId : Nat} {s s' : Rebuild} {store : Edge.Store} {flow : FlowContext}

/-! ## The cache -/

/-- A policy of a user is not the default one, which belongs to nobody. -/
lemma cachedPolicy_ne_default (positive : 0 < userId) (has : Has userId store) :
    cachedPolicy store userId ≠ defaultPolicy := by
  unfold cachedPolicy
  cases found : store.cachedDpiPolicies.find? (·.userId = userId) with
  | none =>
    obtain ⟨p, mp, own⟩ := has
    exact absurd own (of_decide_eq_false (Table.find?_none.mp found p mp))
  | some =>
    have own := Table.find?_prop found
    rintro rfl
    exact positive.ne' (of_decide_eq_true own).symm

/-- An inner page of a baseline adds to the cache and leaves the flag set. -/
lemma apply_inner {now : Time} {snap : IdentitySnapshot} (inner : snap.ends = false)
    (ok : s.store.applyIdentitySnapshot now snap = .ok store) :
    s.store.identityResetPending = true ∧ store.identityResetPending = true ∧
      (Has userId s.store → Has userId store) := by
  have baseline : snap.baseline = true := by
    unfold IdentitySnapshot.ends at inner
    rw [Bool.or_eq_false_iff, Bool.not_eq_false'] at inner
    exact inner.1
  obtain ⟨check, s₁, inserted, rfl⟩ := apply_inv ok
  obtain ⟨pending, notIncremental, _⟩ := check_baseline baseline check
  have cleared : (s.store.revokeRotated snap).clearFor snap = s.store.revokeRotated snap := by
    unfold Edge.Store.clearFor
    rw [notIncremental, baseline]
    rfl
  rw [cleared] at inserted
  refine ⟨pending, ?_, ?_⟩
  · have kept : s₁.identityResetPending = true := by
      rw [inserted.rest]
      exact pending
    show (s₁.identityResetPending && !snap.completes) = true
    unfold IdentitySnapshot.completes
    rw [kept, inner, Bool.and_false]
    rfl
  · rintro ⟨p, mp, own⟩
    refine ⟨p, ?_, own⟩
    have rows := congrArg CacheRows.dpiPolicies inserted.rows
    show p ∈ s₁.cachedDpiPolicies.rows
    rw [show s₁.cachedDpiPolicies.rows = s.store.cachedDpiPolicies.rows ++ snap.rows.dpiPolicies from rows]
    exact mem_append_left _ mp

/-! ## The invariant -/

/-- While the flag is not set, or about to be cleared, the user's policy is cached; a lookup past the flag
still finds it; and no answer was the default policy. -/
structure Guarded (owner : String → Nat) (userId : Nat) (s : Rebuild) : Prop where
  complete : s.store.identityResetPending = false → Has userId s.store
  resetting : s.worker = .resetting → s.store.identityResetPending = true
  clearing : s.worker = .committed false → Has userId s.store
  admitted : ∀ slot flow, s.lookups slot = .admitted flow → Of owner userId flow →
    flow.userId = userId ∧ Has userId s.store
  answered : ∀ slot flow answer, s.lookups slot = .answered flow answer → Of owner userId flow →
    answer ≠ .ok defaultPolicy
  answers : ∀ flow answer, (flow, answer) ∈ s.answers → Of owner userId flow → answer ≠ .ok defaultPolicy
  remembered : ∀ leaseId, owner leaseId = userId → s.service.leasePolicies leaseId ≠ some defaultPolicy

/-- The lookups after one of them has moved. -/
lemma forall_setLookup {Q : Lookup → Prop} (slot : Nat) {lookup : Lookup} (moved : Q lookup)
    (others : ∀ i, Q (s.lookups i)) : ∀ i, Q ((s.setLookup slot lookup).lookups i) := by
  intro i
  show Q (update s.lookups slot lookup i)
  by_cases this : i = slot
  · rw [this, update_self]
    exact moved
  · rw [update_of_ne this]
    exact others i

/-- A lookup that moves on keeps the invariant if its new state does. -/
lemma Guarded.setLookup {slot : Nat} {lookup : Lookup} (old : Guarded owner userId s)
    (admitted : ∀ flow, lookup = .admitted flow → Of owner userId flow →
      flow.userId = userId ∧ Has userId s.store)
    (answered : ∀ flow answer, lookup = .answered flow answer → Of owner userId flow →
      answer ≠ .ok defaultPolicy) : Guarded owner userId (s.setLookup slot lookup) where
  complete := old.complete
  resetting := old.resetting
  clearing := old.clearing
  admitted := forall_setLookup (Q := fun l => ∀ flow, l = .admitted flow → Of owner userId flow →
    flow.userId = userId ∧ Has userId s.store) slot admitted old.admitted
  answered := forall_setLookup (Q := fun l => ∀ flow answer, l = .answered flow answer →
    Of owner userId flow → answer ≠ .ok defaultPolicy) slot answered old.answered
  answers := old.answers
  remembered := old.remembered

/-- A lookup reads the flag. -/
lemma Guarded.readFlag {slot : Nat} (positive : 0 < userId) (old : Guarded owner userId s)
    (apart : owner flow.leaseId = userId → flow.userId = userId) :
    Guarded owner userId (s.setLookup slot (s.readFlag flow)) := by
  -- a flow of the user names the user
  have names : Of owner userId flow → flow.userId = userId := fun own => own.elim id apart
  unfold Rebuild.readFlag
  split
  · refine old.setLookup nofun fun _ _ e _ => ?_
    cases e
    exact nofun
  · rename_i ready
    rw [Bool.not_eq_true] at ready
    split
    · rename_i nobody
      refine old.setLookup nofun fun _ _ e own => ?_
      cases e
      exact absurd ((names own).symm.trans nobody) positive.ne'
    · refine old.setLookup (fun _ e own => ?_) nofun
      cases e
      exact ⟨names own, old.complete ready⟩

/-- It queries the cache. -/
lemma Guarded.query {slot : Nat} (positive : 0 < userId) (old : Guarded owner userId s)
    (at_ : s.lookups slot = .admitted flow) (fault : Option String) :
    Guarded owner userId (s.setLookup slot (.answered flow
      (match fault with
        | some message => .error (.query message)
        | none => .ok (cachedPolicy s.store flow.userId)))) := by
  refine old.setLookup nofun fun _ _ e own => ?_
  cases e
  obtain ⟨names, has⟩ := old.admitted slot flow at_ own
  cases fault with
  | some => exact nofun
  | none =>
    rw [names]
    exact fun e => cachedPolicy_ne_default positive has (Except.ok.inj e)

/-- The service goes by the answer. -/
lemma Guarded.conclude {slot : Nat} {answer : Except PolicyError DpiPolicy} {engine}
    (old : Guarded owner userId s) (at_ : s.lookups slot = .answered flow answer) :
    Guarded owner userId { s.setLookup slot .idle with
      service := (s.service.conclude flow.leaseId answer engine).1
      answers := (flow, answer) :: s.answers } := by
  have idle : Guarded owner userId (s.setLookup slot .idle) := old.setLookup nofun nofun
  have real := old.answered slot flow answer at_
  refine { idle with answers := ?_, remembered := ?_ }
  · intro flow' answer' m
    rcases mem_cons.mp m with e | m
    · cases e
      exact real
    · exact old.answers flow' answer' m
  · intro leaseId own
    show (s.service.primeLease flow.leaseId answer).leasePolicies leaseId ≠ some defaultPolicy
    unfold Service.primeLease
    cases answer with
    | error => exact old.remembered leaseId own
    | ok =>
      dsimp only
      split
      · exact old.remembered leaseId own
      · by_cases this : leaseId = flow.leaseId
        · subst this
          rw [Service.remember_self]
          exact fun e => real (.inr own) (congrArg Except.ok (Option.some.inj e))
        · rw [Service.remember_of_ne this]
          exact old.remembered leaseId own

/-- A snapshot is committed. -/
lemma Guarded.commit {now : Time} {snap : IdentitySnapshot} (old : Guarded owner userId s)
    (covers : snap.ends = true → Has userId store)
    (ok : s.store.applyIdentitySnapshot now snap = .ok store) :
    Guarded owner userId { s with
      store := { store with identityResetPending := s.store.identityResetPending }
      worker := .committed store.identityResetPending } := by
  cases ends : snap.ends with
  | true =>
    have has := covers ends
    exact { old with
      complete := fun _ => has
      resetting := nofun
      clearing := fun _ => has
      admitted := fun slot flow e own => ⟨(old.admitted slot flow e own).1, has⟩ }
  | false =>
    -- an inner page: the flag stays set and nothing is deleted
    obtain ⟨pending, pending', keeps⟩ := @apply_inner userId s store now snap ends ok
    exact { old with
      complete := fun ready => by
        rw [show s.store.identityResetPending = false from ready] at pending
        cases pending
      resetting := nofun
      clearing := fun e => by
        rw [pending'] at e
        cases e
      admitted := fun slot flow e own =>
        ⟨(old.admitted slot flow e own).1, keeps (old.admitted slot flow e own).2⟩ }

lemma Guarded.step {a : RebuildAction} (positive : 0 < userId) (old : Guarded owner userId s)
    (covers : Covers userId s a) (apart : Apart owner userId s a) (st : s.step owner a = some s') :
    Guarded owner userId s' := by
  cases a with
  | readFlag =>
    simp only [Rebuild.step] at st
    split at st
    · split at st
      · cases st
        exact old.readFlag positive apart
      · cases st
    · cases st
  | query _ fault =>
    simp only [Rebuild.step] at st
    split at st
    · rename_i flow at_
      cases st
      exact old.query positive at_ fault
    · cases st
  | conclude =>
    simp only [Rebuild.step] at st
    split at st
    · rename_i flow answer at_
      cases st
      exact old.conclude at_
    · cases st
  | beginReset =>
    simp only [Rebuild.step] at st
    split at st
    · cases st
      exact { old with complete := nofun, resetting := fun _ => rfl, clearing := nofun }
    · cases st
  | commitReset =>
    simp only [Rebuild.step] at st
    split at st
    · cases st
      -- no lookup for the user is waiting for its query
      refine { old with complete := nofun, resetting := nofun, clearing := nofun, admitted := ?_ }
      intro slot flow e own
      exact absurd (old.admitted slot flow e own).1 (apart slot flow e)
    · cases st
  | failReset =>
    simp only [Rebuild.step] at st
    split at st
    · cases st
      exact { old with resetting := nofun, clearing := nofun }
    · cases st
  | commit =>
    simp only [Rebuild.step] at st
    split at st
    · split at st
      · rename_i store ok
        cases st
        exact old.commit (fun ends => covers ends store ok) ok
      · cases st
    · cases st
  | finish =>
    simp only [Rebuild.step] at st
    split at st
    · rename_i pending at_
      cases st
      refine { old with complete := ?_, resetting := nofun, clearing := nofun }
      rintro rfl
      exact old.clearing at_
    · cases st

lemma Guarded.of_reachable (positive : 0 < userId)
    (r : (machine owner userId).ReachableAlong (fun s a => Covers userId s a ∧ Apart owner userId s a) s) :
    Guarded owner userId s := by
  refine r.inv ?_ fun s a s' old ok st => old.step positive ok.1 ok.2 st
  rintro s ⟨worker, lookups, service, answers, ready⟩
  have idle : ∀ slot, s.lookups slot = .idle := fun slot => congrFun lookups slot
  exact {
    complete := fun notPending => ready.resolve_left fun pending => by
      rw [notPending] at pending
      cases pending
    resetting := fun e => by
      rw [worker] at e
      cases e
    clearing := fun e => by
      rw [worker] at e
      cases e
    admitted := fun slot flow e => by
      rw [idle] at e
      cases e
    answered := fun slot flow answer e => by
      rw [idle] at e
      cases e
    answers := fun flow answer m => by
      rw [answers] at m
      cases m
    remembered := fun leaseId _ => by
      rw [service]
      exact nofun }

/-- While the cache is rebuilt, no lookup for the user is answered with the default policy and none of
the user's leases remembers it. -/
theorem no_default_policy_while_rebuilding (owner : String → Nat) (userId : Nat) (positive : 0 < userId)
    (s : Rebuild)
    (r : (machine owner userId).ReachableAlong (fun s a => Covers userId s a ∧ Apart owner userId s a) s) :
    (∀ flow answer, (flow, answer) ∈ s.answers → Of owner userId flow → answer ≠ .ok defaultPolicy) ∧
    ∀ leaseId, owner leaseId = userId → s.service.leasePolicies leaseId ≠ some defaultPolicy :=
  ⟨(Guarded.of_reachable positive r).answers, (Guarded.of_reachable positive r).remembered⟩

/-- A policy of user `1`. -/
def samplePolicy : DpiPolicy := { defaultPolicy with userId := 1, enabled := true, mode := .block }

/-- A baseline of one page. -/
def sampleBaseline : IdentitySnapshot :=
  { revision := 1, nodeAccessEnforced := true, baseline := true, baselineEnd := true
    users := [⟨1, "ann", .user, .active, "", Nat.one_pos⟩], dpiPolicies := [samplePolicy] }

/-- A complete cache with the policy. -/
def sample : Rebuild where
  store := { cachedDpiPolicies := ⟨[samplePolicy], by decide⟩ }

/-- A flow over the user's lease. -/
def sampleFlow : FlowContext := { userId := 1, leaseId := "lease" }

lemma sample_init : (machine (fun _ => 1) 1).Init sample :=
  ⟨rfl, rfl, rfl, rfl, .inr ⟨samplePolicy, mem_singleton_self _, rfl⟩⟩

/-- The baseline brings the policy back. -/
lemma covers_baseline {s : Rebuild} : Covers 1 s (.commit 0 sampleBaseline) := by
  intro _ store ok
  obtain ⟨_, s₁, inserted, rfl⟩ := apply_inv ok
  have rows := congrArg CacheRows.dpiPolicies inserted.rows
  refine ⟨samplePolicy, ?_, rfl⟩
  show samplePolicy ∈ s₁.cachedDpiPolicies.rows
  rw [show s₁.cachedDpiPolicies.rows = _ ++ sampleBaseline.rows.dpiPolicies from rows]
  exact mem_append_right _ (mem_singleton_self _)

/-- A lookup before the reset, one while the cache is empty, and the rebuilt cache. -/
theorem no_default_policy_while_rebuilding_once :
    ∃ s, (machine (fun _ => 1) 1).ReachableAlong
        (fun s a => Covers 1 s a ∧ Apart (fun _ => 1) 1 s a) s ∧
      s.answers = [(sampleFlow, .error .synchronizing), (sampleFlow, .ok samplePolicy)] ∧
      s.store.identityResetPending = false ∧ s.service.leasePolicies "lease" ≠ some defaultPolicy := by
  let acts : List RebuildAction :=
    [.readFlag 0 sampleFlow, .query 0 none, .conclude 0 (.ok []), .beginReset, .commitReset false,
      .readFlag 0 sampleFlow, .conclude 0 (.ok []), .commit 0 sampleBaseline, .finish]
  obtain ⟨s, run, answers, ready⟩ : ∃ s, (machine (fun _ => 1) 1).run sample acts = some s ∧
      s.answers = [(sampleFlow, .error .synchronizing), (sampleFlow, .ok samplePolicy)] ∧
      s.store.identityResetPending = false := ⟨_, rfl, rfl, rfl⟩
  have along : (machine (fun _ => 1) 1).Along (fun s a => Covers 1 s a ∧ Apart (fun _ => 1) 1 s a)
      sample acts := by
    refine .cons rfl ⟨trivial, fun _ => rfl⟩ (.cons rfl ⟨trivial, trivial⟩ (.cons rfl ⟨trivial, trivial⟩
      (.cons rfl ⟨trivial, trivial⟩ (.cons rfl ⟨trivial, ?_⟩ (.cons rfl ⟨trivial, fun _ => rfl⟩
      (.cons rfl ⟨trivial, trivial⟩ (.cons rfl ⟨covers_baseline, trivial⟩
      (.cons rfl ⟨trivial, trivial⟩ trivial))))))))
    -- the only lookup is concluded when the reset is committed
    intro slot flow e
    simp [setLookup, sample] at e
  have reach : (machine (fun _ => 1) 1).ReachableAlong
      (fun s a => Covers 1 s a ∧ Apart (fun _ => 1) 1 s a) s := ⟨_, _, sample_init, along, run⟩
  exact ⟨s, reach, answers, ready,
    (no_default_policy_while_rebuilding _ 1 (by decide) s reach).2 "lease" rfl⟩

/-- A lookup that has passed the flag when the reset is committed finds no policy; its lease remembers
the default one, also when the baseline has brought the policy back. -/
theorem default_policy_remembered_by_race :
    ∃ s, (machine (fun _ => 1) 1).ReachableAlong (Covers 1) s ∧
      s.answers = [(sampleFlow, .ok defaultPolicy)] ∧
      s.service.leasePolicies "lease" = some defaultPolicy ∧
      s.store.identityResetPending = false ∧ Has 1 s.store := by
  let acts : List RebuildAction :=
    [.readFlag 0 sampleFlow, .beginReset, .commitReset false, .query 0 none, .conclude 0 (.ok []),
      .commit 0 sampleBaseline, .finish]
  have along : (machine (fun _ => 1) 1).Along (Covers 1) sample acts :=
    .cons rfl trivial (.cons rfl trivial (.cons rfl trivial (.cons rfl trivial (.cons rfl trivial
      (.cons rfl covers_baseline (.cons rfl trivial trivial))))))
  exact ⟨_, ⟨sample, acts, sample_init, along, rfl⟩, rfl, rfl, rfl,
    samplePolicy, mem_singleton_self _, rfl⟩

end Rebuild

end MeowFrp.Dpi
