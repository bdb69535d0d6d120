import MeowFrp.Node.AccountingSteps
import MeowFrp.Node.Exact

/-!
# The proxy limit of a token

`handleFrpNewProxy` compares the token's active session rows with its limit and writes the row of the
approved proxy in a later statement. Two calls that are both checked before either has written its row
pass the last free place twice (`sessions_exceed_limit`). When the calls of a token are checked one
after the other's row, the rows and the approved calls together never exceed the limit.
-/

namespace MeowFrp.Node

open Lib List

/-- An approved `NewProxy` call whose row is still to be written. -/
def Call.starts (tokenId : Nat) : Call → Bool
  | .start lease _ => lease.tokenId = tokenId
  | _ => false

namespace Accounting

variable {env : Env} {s s' : Accounting} {a : Action} {tokenId n : Nat}

/-- The approved calls of the token without a row. -/
def approved (s : Accounting) (tokenId : Nat) : Nat := s.calls.countP (Call.starts tokenId)

/-- The token's limit is `n`. -/
def Limited (tokenId n : Nat) (s : Accounting) (_ : Action) : Prop :=
  ∀ t ∈ s.store.tokens.rows, t.id = tokenId → t.maxProxyCount = n

instance : Decidable (Limited tokenId n s a) :=
  inferInstanceAs (Decidable (∀ t ∈ s.store.tokens.rows, t.id = tokenId → t.maxProxyCount = n))

/-- A proxy is checked only while every approved one has its row. -/
def Serial (tokenId : Nat) (s : Accounting) : Action → Prop
  | .newProxy content =>
    (∃ l ∈ s.store.leases.rows, l.leaseId = content.metas.leaseId ∧ l.tokenId = tokenId) →
      s.approved tokenId = 0
  | _ => True

instance : Decidable (Serial tokenId s a) :=
  match a with
  | .newProxy content => inferInstanceAs (Decidable
      ((∃ l ∈ s.store.leases.rows, l.leaseId = content.metas.leaseId ∧ l.tokenId = tokenId) →
        s.approved tokenId = 0))
  | .tick _ | .heartbeat _ _ _ _ | .exec _ | .bootstrap _ _ _ _ _ | .login _ | .proceed _
  | .register _ _ | .fail _ _ | .closeProxy _ | .restart => inferInstanceAs (Decidable True)

/-- Rows and approved calls are within the limit, and records have the token of their lease. -/
structure Within (tokenId n : Nat) (s : Accounting) : Prop where
  owned : s.Owned
  count : s.store.countActiveProxySessions tokenId + s.approved tokenId ≤ n

/-- No call starts a session in a later step. -/
lemma starts_next {call c : Call} (next : call.next = some c) : c.starts tokenId = false := by
  cases call <;> cases next <;> rfl

/-- A call that takes its step is no longer counted. -/
lemma approved_advance {call} (flying : call ∈ s.calls) :
    (s.advance call).approved tokenId + (if call.starts tokenId then 1 else 0) = s.approved tokenId := by
  have rest : (s.calls.erase call).countP (Call.starts tokenId) +
      (if call.starts tokenId then 1 else 0) = s.approved tokenId := by
    rw [approved, (perm_cons_erase flying).countP_eq, countP_cons]
  have next : call.next.toList.countP (Call.starts tokenId) = 0 := by
    refine countP_eq_zero.mpr fun c m => ?_
    rw [starts_next (Option.mem_toList.mp m)]
    exact Bool.false_ne_true
  rw [← rest, approved, advance, countP_append, next, Nat.zero_add]

/-- A call leaves the rows alone. -/
lemma Within.advance {call} (inv : s.Within tokenId n) (flying : call ∈ s.calls) :
    s.store.countActiveProxySessions tokenId + (s.advance call).approved tokenId ≤ n := by
  refine (Nat.add_le_add_left ?_ _).trans inv.count
  rw [← approved_advance flying]
  exact Nat.le_add_right _ _

/-- An approved call finds a free place, when earlier ones have their rows. -/
lemma Within.approve {content lease} (inv : s.Within tokenId n) (positive : 0 < n)
    (limit : Limited tokenId n s a) (serial : Serial tokenId s (.newProxy content))
    (ok : Api.newProxy env.tokenHash s.store s.now s.core.clientDraining content = .ok lease) :
    s.store.countActiveProxySessions tokenId +
      (Call.start lease content :: s.calls).countP (Call.starts tokenId) ≤ n := by
  obtain ⟨stored, id, _⟩ := Api.newProxy_ok ok
  by_cases mine : lease.tokenId = tokenId
  · subst mine
    have idle := serial ⟨lease, stored, id, rfl⟩
    obtain ⟨token, mt, same, below⟩ := Api.newProxy_below ok
    rw [limit token mt same] at below
    have free := below positive
    have counted : (Call.start lease content).starts lease.tokenId = true := decide_eq_true rfl
    rw [countP_cons_of_pos counted, ← approved, idle]
    exact free
  · have other : (Call.start lease content).starts tokenId = false := by simpa [Call.starts] using mine
    rw [countP_cons_of_neg (by rw [other]; exact Bool.false_ne_true)]
    exact inv.count

/-- Every guarded step keeps rows and calls within the limit. -/
lemma Within.step (inv : s.Within tokenId n) (positive : 0 < n) (limit : Limited tokenId n s a)
    (serial : Serial tokenId s a) (st : s.step env a = some s') : s'.Within tokenId n := by
  have kind := step_kind st
  refine ⟨inv.owned.step kind, ?_⟩
  cases kind with
  | frame kept _ _ _ calls =>
    rw [Db.Store.countActiveProxySessions, Db.Store.activeSessions, kept.sessions, approved, calls]
    exact inv.count
  | approved =>
    simp only [Accounting.step] at st
    split at st
    · cases st
    rename_i lease' ok
    cases st
    exact inv.approve positive limit serial ok
  | @started lease content flying =>
    -- the place of the approved call becomes that of its row
    have own : ∀ p ∈ s.store.sessions, p.leaseId = lease.leaseId → p.tokenId = lease.tokenId :=
      fun p m same => (same ▸ inv.owned.rows p m).unique (inv.owned.calls _ flying _ rfl)
    refine (Nat.add_le_add_right (Db.Store.count_startProxySession own) _).trans ?_
    have moved : (s.advance (.start lease content)).approved tokenId +
        (if lease.tokenId = tokenId then 1 else 0) = s.approved tokenId := by
      rw [← approved_advance flying]
      simp [Call.starts]
    have count := inv.count
    rw [← moved] at count
    change _ + _ + (s.advance (.start lease content)).approved tokenId ≤ n
    omega
  | bound flying | unbound flying | registered flying | failed flying => exact inv.advance flying
  | closed flying =>
    have fewer := inv.advance flying
    exact (Nat.add_le_add_right Db.Store.count_closeProxySession _).trans fewer
  | ignored =>
    refine (Nat.add_le_add_left ?_ _).trans inv.count
    exact erase_sublist.countP_le
  | closing =>
    change _ + (Call.close _ _ :: s.calls).countP _ ≤ n
    rw [countP_cons_of_neg Bool.false_ne_true]
    exact inv.count
  | restart => exact (Nat.le_add_right _ _).trans inv.count

/-- In every run in which the token's limit is constantly `n` and its proxies are checked one after the
other's row, the token never has more than `n` active sessions. -/
theorem sessions_within_limit (positive : 0 < n)
    (r : (machine env).ReachableAlong (fun s a => Limited tokenId n s a ∧ Serial tokenId s a) s) :
    s.store.countActiveProxySessions tokenId ≤ n := by
  have inv : s.Within tokenId n := by
    refine r.inv (fun s init => ?_) fun s a s' inv guard st => inv.step positive guard.1 guard.2 st
    obtain ⟨_, _, sessions, bindings, proxies, calls⟩ := init
    refine ⟨⟨?_, ?_, ?_, ?_⟩, ?_⟩
    · rw [sessions]
      exact fun _ m => absurd m Table.not_mem_empty
    · rw [bindings]
      exact forall_mem_nil _
    · rw [proxies]
      exact forall_mem_nil _
    · rw [calls]
      exact forall_mem_nil _
    · rw [Db.Store.countActiveProxySessions, Db.Store.activeSessions, sessions, approved, calls]
      exact Nat.zero_le n
  exact (Nat.le_add_right _ _).trans inv.count

/-! ## Concrete runs -/

/-- A token that may have one proxy. -/
def sampleToken : AccessToken := ⟨5, 1, "laptop", "h:ak", .active, "", 1, none, sampleTokenId_pos⟩

/-- The small node with that token. -/
def sampleSingle : Accounting where
  store := { sample.store with tokens := ⟨[sampleToken], by decide⟩ }

/-- The owner of the token. -/
def sampleUser : User := ⟨1, "ann", .user, .active, "", Nat.one_pos⟩

/-- The random tokens of the two devices. -/
def sampleDraw (second : Bool) : Draw :=
  if second then ⟨"lease2", "rt2", sampleNextLeaseId_ne⟩ else ⟨"lease", "rt", sampleLeaseId_ne⟩

/-- The lease of a device of the token. -/
def deviceLease (second : Bool) : RuntimeLease :=
  Controller.sampleEnv.lease 0 sampleUser sampleToken (if second then "dev2" else "dev") (sampleDraw second)

/-- The proxy of a device, as its FRP client announces it. -/
def deviceContent (second : Bool) : Api.NewProxyContent :=
  if second then ⟨⟨"rt2", "lease2"⟩, "run2", "u1.lease2.ssh", "tcp", 1501, [], ""⟩
  else ⟨⟨"rt", "lease"⟩, "run", "u1.lease.ssh", "tcp", 1500, [], ""⟩

/-- Two devices of the token obtain a lease with one proxy each. -/
def sampleDevices : List Action :=
  [.heartbeat 1 5 "dev" 9, .heartbeat 1 5 "dev2" 10,
    .bootstrap sampleUser sampleToken "dev" [⟨"ssh", "tcp", "", 22, 1500, "", ""⟩] (sampleDraw false),
    .bootstrap sampleUser sampleToken "dev2" [⟨"ssh", "tcp", "", 22, 1501, "", ""⟩] (sampleDraw true)]

/-- Both devices announce their proxy before the row of either is written: a token that may have one
proxy has two active sessions. -/
theorem sessions_exceed_limit :
    ∃ s, (machine Controller.sampleEnv).ReachableAlong (Limited 5 1) s ∧
      s.store.countActiveProxySessions 5 = 2 := by
  refine ⟨_, ⟨sampleSingle, sampleDevices ++ [.newProxy (deviceContent false), .newProxy (deviceContent true),
    .proceed (.start (deviceLease false) (deviceContent false)),
    .proceed (.start (deviceLease true) (deviceContent true))], ⟨rfl, rfl, rfl, rfl, rfl, rfl⟩,
    .of_along rfl, rfl⟩, rfl⟩

/-- When the first device has its row, the second one is turned away. -/
theorem sessions_within_limit_of_twoDevices :
    ∃ s, (machine Controller.sampleEnv).ReachableAlong (fun s a => Limited 5 1 s a ∧ Serial 5 s a) s ∧
      s.step Controller.sampleEnv (.newProxy (deviceContent true)) = none ∧
      s.store.activeSessions 5 ≠ [] ∧ s.store.countActiveProxySessions 5 ≤ 1 := by
  obtain ⟨s, run, rejected, active, along⟩ : ∃ s, (machine Controller.sampleEnv).run sampleSingle
      (sampleDevices ++ [.newProxy (deviceContent false),
        .proceed (.start (deviceLease false) (deviceContent false))]) = some s ∧
      s.step Controller.sampleEnv (.newProxy (deviceContent true)) = none ∧
      s.store.activeSessions 5 ≠ [] ∧
      (machine Controller.sampleEnv).Along (fun s a => Limited 5 1 s a ∧ Serial 5 s a) sampleSingle
        (sampleDevices ++ [.newProxy (deviceContent false),
          .proceed (.start (deviceLease false) (deviceContent false))]) :=
    ⟨_, rfl, rfl, nofun, .of_along rfl⟩
  have reach : (machine Controller.sampleEnv).ReachableAlong
      (fun s a => Limited 5 1 s a ∧ Serial 5 s a) s := ⟨_, _, ⟨rfl, rfl, rfl, rfl, rfl, rfl⟩, along, run⟩
  exact ⟨s, reach, rejected, active, sessions_within_limit (by decide) reach⟩

end Accounting

end MeowFrp.Node
