import MeowFrp.Node.ControllerSteps
import MeowFrp.Node.EdgeSteps

/-!
# Token rotation and the leases of the old value

A lease is *superseded* when the token it was obtained with has another value by now. On an edge the
store records the value a lease was issued under and a snapshot revokes the leases of other values; on
the controller `RotateAccessToken` leaves the leases alone, and they stay valid
(`superseded_lease_passes`). On both kinds of nodes a bootstrap that looked up the old value before a
rotation and creates its lease after it obtains a lease that outlives the rotation.

Where neither happens, superseded leases pass no check: the invariant is that every active lease, and
every bootstrap under way, goes with the stored value of its token.
-/

namespace MeowFrp.Node

open Lib Table List LeaseBook Edge.Store

/-- The lease was obtained with a value that is not the stored one. -/
def Superseded (tokens : Table AccessToken) (issuedUnder : List (String × String))
    (l : RuntimeLease) : Prop :=
  ∃ hash, (l.leaseId, hash) ∈ issuedUnder ∧ ∃ t ∈ tokens, t.id = l.tokenId ∧ t.tokenHash ≠ hash

/-- No other value than `hash` is stored for the token. -/
def Current (tokens : Table AccessToken) (tokenId : Nat) (hash : String) : Prop :=
  ∀ t ∈ tokens, t.id = tokenId → t.tokenHash = hash

/-- Active leases were obtained with the stored value of their token. -/
def LeasesCurrent (leases : Table RuntimeLease) (tokens : Table AccessToken)
    (issuedUnder : List (String × String)) : Prop :=
  ∀ l ∈ leases, l.status = .active → ∀ hash, (l.leaseId, hash) ∈ issuedUnder →
    Current tokens l.tokenId hash

/-- The bootstrap presented the stored value, and its lease id is new. -/
def BootstrapCurrent (underWay : Option (String × Nat × String)) (tokens : Table AccessToken)
    (issuedUnder : List (String × String)) : Prop :=
  ∀ leaseId tokenId presented, underWay = some (leaseId, tokenId, presented) →
    (∀ hash, (leaseId, hash) ∉ issuedUnder) ∧ Current tokens tokenId presented

variable {leases : Table RuntimeLease} {tokens tokens' : Table AccessToken}
  {issuedUnder : List (String × String)} {b b' : LeaseBook}

/-- An active lease is not superseded. -/
lemma LeasesCurrent.not_superseded {l} (cur : LeasesCurrent leases tokens issuedUnder) (m : l ∈ leases)
    (active : l.status = .active) : ¬ Superseded tokens issuedUnder l := by
  rintro ⟨hash, issued, t, mt, same, ne⟩
  exact ne (cur l m active hash issued t mt same)

/-- Revocations keep the leases current, as do token changes that none sees. -/
lemma LeasesCurrent.shrinks (cur : LeasesCurrent b.leases tokens issuedUnder) (sh : b.Shrinks b')
    (keep : ∀ l ∈ b.leases, l.status = .active → ∀ hash, Current tokens l.tokenId hash →
      Current tokens' l.tokenId hash) : LeasesCurrent b'.leases tokens' issuedUnder := by
  intro l m active hash issued
  obtain ⟨_, mk, rfl | rfl⟩ := sh.leases l m
  · exact keep l mk active hash (cur l mk active hash issued)
  · cases active

/-- A lease created by a current bootstrap is current. -/
lemma LeasesCurrent.issue {lease inputs presented}
    (cur : LeasesCurrent b.leases tokens issuedUnder) (issued : b.issue lease inputs = some b')
    (boot : BootstrapCurrent (some (lease.leaseId, lease.tokenId, presented)) tokens issuedUnder) :
    LeasesCurrent b'.leases tokens ((lease.leaseId, presented) :: issuedUnder) := by
  obtain ⟨fresh, now⟩ := boot _ _ _ rfl
  intro l m active hash mh
  rcases mem_issue_leases issued m with rfl | ⟨ne, _, mk, _, ⟨rfl, _⟩ | rfl⟩
  · rcases mem_cons.mp mh with e | old
    · cases e
      exact now
    · exact absurd old (fresh hash)
  · rcases mem_cons.mp mh with e | old
    · exact absurd (congrArg Prod.fst e) ne
    · exact cur l mk active hash old
  · cases active

/-- No bootstrap is under way. -/
lemma BootstrapCurrent.none : BootstrapCurrent Option.none tokens issuedUnder := nofun

/-! ## The controller -/

namespace Controller

variable {env : Env} {c c' : Controller} {a : Action}

/-- The token whose value a step replaces. -/
def rotated (c : Controller) (a : Action) : Option Nat := do
  let thread ← a.thread
  let effect ← (c.todo thread).head?
  let op ← effect.op
  op.rotates

/-- The token has no active lease, and no bootstrap of it is under way. -/
def TokenIdle (c : Controller) (id : Nat) : Prop :=
  (∀ l ∈ c.store.leases.rows, l.tokenId = id → l.status ≠ .active) ∧
  ∀ p ∈ Locked.underWay c.locked, p.2.1 ≠ id

instance {id} : Decidable (c.TokenIdle id) :=
  inferInstanceAs (Decidable ((∀ l ∈ c.store.leases.rows, l.tokenId = id → l.status ≠ .active) ∧
    ∀ p ∈ Locked.underWay c.locked, p.2.1 ≠ id))

/-- Tokens are rotated only while they have no active lease and no bootstrap. -/
def RotatesIdle (c : Controller) (a : Action) : Prop :=
  ∀ id ∈ c.rotated a, c.TokenIdle id

instance : Decidable (RotatesIdle c a) :=
  inferInstanceAs (Decidable (∀ id ∈ c.rotated a, c.TokenIdle id))

/-- Leases and bootstraps go with the stored tokens, none newer than the last id. -/
structure TokensCurrent (c : Controller) : Prop where
  assigned : ∀ t ∈ c.store.tokens, t.id ≤ c.store.tokenSeq
  leased : ∀ l ∈ c.store.leases, l.tokenId ≤ c.store.tokenSeq
  presented : ∀ leaseId tokenId presented,
    Locked.underWay c.locked = some (leaseId, tokenId, presented) → tokenId ≤ c.store.tokenSeq
  leases : LeasesCurrent c.store.leases c.store.tokens c.issuedUnder
  bootstrap : BootstrapCurrent (Locked.underWay c.locked) c.store.tokens c.issuedUnder

lemma Frame.tokensCurrent (frame : Frame c c') (inv : TokensCurrent c) : TokensCurrent c' := by
  obtain ⟨_, _, store⟩ := frame.store
  obtain ⟨assigned, leased, presented, leases, bootstrap⟩ := inv
  refine ⟨?_, ?_, ?_, ?_, ?_⟩
  all_goals simp only [store, frame.locked, frame.issuedUnder]
  · exact assigned
  · exact leased
  · exact presented
  · exact leases
  · exact bootstrap

/-- A value is replaced only by a rotation of its token. -/
lemma current_of_tokensFrom {s s' : Db.Store} {rotated tokenId hash} (from_ : s.TokensFrom s' rotated)
    (old : tokenId ≤ s.tokenSeq) (other : rotated ≠ some tokenId)
    (cur : Current s.tokens tokenId hash) : Current s'.tokens tokenId hash := by
  rintro t' m rfl
  rcases from_.rows t' m with ⟨new, _⟩ | ⟨t, mt, same, keep⟩
  · exact absurd old (Nat.not_le.mpr new)
  · rw [← keep (same ▸ other)]
    exact cur t mt same

/-- A transaction rotates only an idle token. -/
lemma TokensCurrent.exec {op store} (inv : TokensCurrent c) (ran : c.store.exec c.now op = some store)
    (idle : ∀ id, op.rotates = some id → c.TokenIdle id) : TokensCurrent { c with store } := by
  have tokens := Db.Store.exec_tokens ran
  have book := Db.Store.exec_book ran
  refine ⟨fun t m => ?_, fun l m => ?_, fun _ _ _ e => ?_, ?_, fun leaseId tokenId hash e => ?_⟩
  · rcases tokens.rows t m with ⟨_, le⟩ | ⟨k, mk, same, _⟩
    · exact le
    · exact same ▸ (inv.assigned k mk).trans tokens.seq
  · obtain ⟨k, mk, rfl | rfl⟩ := book.leases l m
    · exact (inv.leased l mk).trans tokens.seq
    · exact (inv.leased k mk).trans tokens.seq
  · exact (inv.presented _ _ _ e).trans tokens.seq
  · refine inv.leases.shrinks book fun l m active hash cur => ?_
    refine current_of_tokensFrom tokens (inv.leased l m) (fun rot => ?_) cur
    exact (idle _ rot).1 l m rfl active
  · obtain ⟨fresh, cur⟩ := inv.bootstrap _ _ _ e
    refine ⟨fresh, current_of_tokensFrom tokens (inv.presented _ _ _ e) (fun rot => ?_) cur⟩
    exact (idle _ rot).2 _ e rfl

/-- An effect keeps the invariant when the token it rotates is idle. -/
lemma Performed.tokensCurrent {rest effect c₁ rest'} (did : Performed c rest effect (c₁, rest'))
    (inv : TokensCurrent c) (idle : ∀ id, effect.op.bind Db.Op.rotates = some id → c.TokenIdle id) :
    TokensCurrent c₁ := by
  cases did with
  | committed ran | attempted ran => exact inv.exec ran idle
  | failed | ignored => exact inv
  | terminated | remembered => exact ⟨inv.assigned, inv.leased, inv.presented, inv.leases, inv.bootstrap⟩

/-- The lock may be released, or passed on to effects, at any time. -/
lemma TokensCurrent.unlock {l} (inv : TokensCurrent c) (idle : Locked.underWay l = none) :
    TokensCurrent { c with locked := l } := by
  refine ⟨inv.assigned, inv.leased, ?_, inv.leases, ?_⟩
  · intro leaseId tokenId presented e
    change Locked.underWay l = _ at e
    rw [idle] at e
    cases e
  · change BootstrapCurrent (Locked.underWay l) _ _
    rw [idle]
    exact .none

lemma LockedStep.tokensCurrent {l} (st : LockedStep env c l c') (holds : c.locked = some l)
    (inv : TokensCurrent c) (idle : RotatesIdle c .proceedLocked) : TokensCurrent c' := by
  have boot := inv.bootstrap
  have old := inv.presented
  rw [holds] at boot old
  cases st with
  | ended => exact inv.unlock rfl
  | validated => exact ⟨inv.assigned, inv.leased, old, inv.leases, boot⟩
  | created ran =>
    obtain ⟨_, issued, rfl⟩ := Db.Store.createRuntimeLease_inv ran
    refine ⟨inv.assigned, fun k m => ?_, nofun, inv.leases.issue issued boot, .none⟩
    rcases mem_issue_leases issued m with rfl | ⟨_, k, mk, _, ⟨rfl, _⟩ | rfl⟩
    · exact old _ _ _ rfl
    · exact inv.leased _ mk
    · exact inv.leased k mk
  | @released leaseId tokenId clientId =>
    have sh : c.store.book.Shrinks (c.store.releaseRuntimeLease leaseId tokenId clientId).1.book := .revoke
    refine ⟨inv.assigned, fun k m => ?_, nofun, inv.leases.shrinks sh fun _ _ _ _ => id, .none⟩
    obtain ⟨k, mk, rfl | rfl⟩ := sh.leases _ m
    · exact inv.leased _ mk
    · exact inv.leased k mk
  | performed did =>
    refine (did.tokensCurrent inv fun id rot => idle id ?_).unlock rfl
    change ((c.todo none).head?.bind fun effect => effect.op.bind Db.Op.rotates) = some id
    rw [todo_locked holds]
    exact rot

/-- Every step keeps the invariant, if what it rotates is idle. -/
lemma TokensCurrent.step (inv : TokensCurrent c) (idle : RotatesIdle c a)
    (st : c.step env a = some c') : TokensCurrent c' := by
  cases step_kind st with
  | frame frame => exact frame.tokensCurrent inv
  | start frame =>
    obtain ⟨assigned, leased, presented, leases, bootstrap⟩ := frame.tokensCurrent inv
    exact ⟨assigned, leased, presented, leases, bootstrap⟩
  | lock frame _ locks =>
    have inv' := frame.tokensCurrent inv
    cases locks with
    | timedOut | release => exact inv'.unlock rfl
    | bootstrap found _ _ fresh =>
      obtain ⟨_, _, store⟩ := frame.store
      have mt := mem_of_find? found
      have hash := find?_prop found
      refine ⟨inv'.assigned, inv'.leased, ?_, inv'.leases, ?_⟩
      · rintro _ _ _ ⟨⟩
        rw [store]
        exact inv.assigned _ mt
      · rintro _ _ _ ⟨⟩
        refine ⟨frame.issuedUnder ▸ fresh, fun t m same => ?_⟩
        rw [store] at m
        rw [eq_of_clash m mt (.inl same)]
        exact of_decide_eq_true hash
  | perform is at_ did =>
    have inv' := did.tokensCurrent inv fun id rot => by
      refine idle id ?_
      rw [is]
      change ((c.requests _).head?.bind fun effect => effect.op.bind Db.Op.rotates) = some id
      rw [at_]
      exact rot
    exact ⟨inv'.assigned, inv'.leased, inv'.presented, inv'.leases, inv'.bootstrap⟩
  | locked is holds st => exact st.tokensCurrent holds inv (is ▸ idle)
  | restart =>
    obtain ⟨assigned, leased, presented, leases, bootstrap⟩ := inv.unlock (l := none) rfl
    exact ⟨assigned, leased, presented, leases, bootstrap⟩

lemma tokensCurrent (r : (machine env).ReachableAlong RotatesIdle c) : TokensCurrent c := by
  refine r.inv ?_ fun c a c' inv idle st => inv.step idle st
  rintro _ ⟨leases, _, assigned, _, unlocked, _⟩
  refine ⟨assigned, ?_, ?_, ?_, ?_⟩
  · rw [leases]
    exact nofun
  · rw [unlocked]
    exact nofun
  · rw [leases]
    exact nofun
  · rw [unlocked]
    exact .none

end Controller

/-! ## The edge -/

namespace EdgeNode

variable {env : Env} {e e' : EdgeNode} {a : Action}

/-- The tokens that a step caches. -/
def Action.carried : Action → List AccessToken
  | .apply snap => snap.tokens
  | _ => []

/-- No snapshot changes a token while a bootstrap of it is under way. -/
def AppliesIdle (e : EdgeNode) (a : Action) : Prop :=
  ∀ p ∈ Locked.underWay e.locked, ∀ t ∈ a.carried, t.id = p.2.1 → t.tokenHash = p.2.2

instance : Decidable (AppliesIdle e a) :=
  inferInstanceAs (Decidable (∀ p ∈ Locked.underWay e.locked, ∀ t ∈ a.carried, t.id = p.2.1 →
    t.tokenHash = p.2.2))

/-- A lease is recorded with its value, the cached one unless the cache is rebuilt. -/
structure TokensCurrent (e : EdgeNode) : Prop where
  recorded : ∀ l ∈ e.store.leases, ∃ i ∈ e.store.issuers, i.leaseId = l.leaseId ∧
    ∀ hash, (l.leaseId, hash) ∈ e.issuedUnder → i.accessTokenHash = hash
  leases : e.store.identityResetPending = false →
    LeasesCurrent e.store.leases e.store.cachedTokens e.issuedUnder
  bootstrap : BootstrapCurrent (Locked.underWay e.locked) e.store.cachedTokens e.issuedUnder

lemma Frame.tokensCurrent (frame : Frame e e') (inv : TokensCurrent e) : TokensCurrent e' := by
  obtain ⟨_, _, store⟩ := frame.store
  obtain ⟨recorded, leases, bootstrap⟩ := inv
  refine ⟨?_, ?_, ?_⟩
  all_goals simp only [store, frame.locked, frame.issuedUnder]
  · exact recorded
  · exact leases
  · exact bootstrap

/-- Revocations keep the record. -/
lemma TokensCurrent.shrinks {leases} (inv : TokensCurrent e)
    (sh : e.store.book.Shrinks ⟨leases, e.store.allocations, id⟩) :
    TokensCurrent { e with store := { e.store with leases } } := by
  refine ⟨fun l m => ?_, fun ready => (inv.leases ready).shrinks sh fun _ _ _ _ => id, inv.bootstrap⟩
  obtain ⟨k, mk, rfl | rfl⟩ := sh.leases l m
  · exact inv.recorded l mk
  · exact inv.recorded k mk

/-- The effect of a handler keeps the invariant. -/
lemma TokensCurrent.perform {effect} (inv : TokensCurrent e) : TokensCurrent (e.perform effect) := by
  cases effect with
  | revokeClient => exact inv.shrinks .revoke
  | clearClient | terminate | remember | bind | register => exact ⟨inv.recorded, inv.leases, inv.bootstrap⟩

lemma TokensCurrent.unlock {l} (inv : TokensCurrent e) (idle : Locked.underWay l = none) :
    TokensCurrent { e with locked := l } := by
  refine ⟨inv.recorded, inv.leases, ?_⟩
  change BootstrapCurrent (Locked.underWay l) _ _
  rw [idle]
  exact .none

lemma LockedStep.tokensCurrent {l} (st : LockedStep env e l e') (holds : e.locked = some l)
    (inv : TokensCurrent e) : TokensCurrent e' := by
  have boot := inv.bootstrap
  rw [holds] at boot
  cases st with
  | ended => exact inv.unlock rfl
  | validated => exact ⟨inv.recorded, inv.leases, boot⟩
  | @created _ presented _ _ ran =>
    obtain ⟨ready, _, token, _, issued, cached, ins, rfl⟩ := createLease_inv ran
    obtain ⟨fresh, cur⟩ := boot _ _ _ rfl
    refine ⟨fun l m => ?_, fun _ => (inv.leases ready).issue issued boot, .none⟩
    rcases mem_issue_leases issued m with rfl | ⟨ne, k, mk, same, _⟩
    · -- the recorded hash is that of the cached token, which is the presented one
      refine ⟨_, (mem_insert ins).mpr (.inr rfl), rfl, fun hash mh => ?_⟩
      have value := cur token (mem_of_find? cached) (by simpa using find?_prop cached)
      rcases mem_cons.mp mh with eq | old
      · cases eq
        exact value
      · exact absurd old (fresh hash)
    · obtain ⟨i, mi, ei, rec⟩ := inv.recorded k mk
      refine ⟨i, (mem_insert ins).mpr (.inl mi), ei.trans same.symm, fun hash mh => ?_⟩
      rcases mem_cons.mp mh with eq | old
      · exact absurd (congrArg Prod.fst eq) ne
      · exact rec hash (same ▸ old)
  | released => exact (inv.shrinks .revoke).unlock rfl
  | performed => exact inv.perform.unlock rfl

/-- A snapshot keeps the record. -/
lemma TokensCurrent.apply_recorded {snap store} (inv : TokensCurrent e)
    (ran : e.store.applyIdentitySnapshot e.now snap = .ok store) :
    ∀ l ∈ store.leases, ∃ i ∈ store.issuers, i.leaseId = l.leaseId ∧
      ∀ hash, (l.leaseId, hash) ∈ e.issuedUnder → i.accessTokenHash = hash := by
  intro l m
  rw [apply_issuers ran]
  obtain ⟨k, mk, rfl | rfl⟩ := (apply_book ran).leases l m
  · exact inv.recorded l mk
  · exact inv.recorded k mk

/-- A committed snapshot leaves only leases of cached values, unless it is an inner page. -/
lemma TokensCurrent.apply_leases {snap store} (inv : TokensCurrent e)
    (ran : e.store.applyIdentitySnapshot e.now snap = .ok store) (ends : snap.ends = true) :
    LeasesCurrent store.leases store.cachedTokens e.issuedUnder := by
  intro l m active hash issued t mt same
  obtain ⟨_, mi, ei, rec⟩ := inv.apply_recorded ran l m
  obtain ⟨_, mt', same', value⟩ := authorised_issuer
    (apply_authorised ran ends m active) mi ei
  rw [eq_of_clash mt mt' (.inl (same.trans same'.symm)), value]
  exact rec hash issued

/-- A snapshot keeps it, applied while idle. -/
lemma TokensCurrent.apply {snap store} (inv : TokensCurrent e)
    (ran : e.store.applyIdentitySnapshot e.now snap = .ok store) (idle : AppliesIdle e (.apply snap)) :
    TokensCurrent { e with store } := by
  refine ⟨inv.apply_recorded ran, fun ready => ?_, fun leaseId tokenId hash under => ?_⟩
  · exact inv.apply_leases ran (apply_ends ran ready)
  · obtain ⟨fresh, cur⟩ := inv.bootstrap _ _ _ under
    refine ⟨fresh, fun t m same => ?_⟩
    rcases apply_tokens ran m with old | new
    · exact cur t old same
    · exact idle _ under t new same

/-- Every step keeps the invariant, if what it applies is idle. -/
lemma TokensCurrent.step (inv : TokensCurrent e) (idle : AppliesIdle e a)
    (st : e.step env a = some e') : TokensCurrent e' := by
  cases step_kind st with
  | frame frame => exact frame.tokensCurrent inv
  | start frame =>
    obtain ⟨recorded, leases, bootstrap⟩ := frame.tokensCurrent inv
    exact ⟨recorded, leases, bootstrap⟩
  | lock frame _ locks =>
    have inv' := frame.tokensCurrent inv
    cases locks with
    | release => exact inv'.unlock rfl
    | bootstrap _ found fresh =>
      obtain ⟨_, _, store⟩ := frame.store
      refine ⟨inv'.recorded, inv'.leases, ?_⟩
      rintro _ _ _ ⟨⟩
      refine ⟨frame.issuedUnder ▸ fresh, fun t m same => ?_⟩
      rw [store] at m
      rw [eq_of_clash m (mem_of_find? found) (.inl same)]
      simpa using find?_prop found
  | perform =>
    obtain ⟨recorded, leases, bootstrap⟩ := inv.perform
    exact ⟨recorded, leases, bootstrap⟩
  | locked _ holds st => exact st.tokensCurrent holds inv
  | packet | list | finish => exact ⟨inv.recorded, inv.leases, inv.bootstrap⟩
  | reconnect =>
    refine ⟨inv.recorded, nofun, fun leaseId tokenId hash under => ?_⟩
    exact ⟨(inv.bootstrap _ _ _ under).1, nofun⟩
  | boot => exact ⟨nofun, nofun, .none⟩
  | apply is _ ran =>
    obtain ⟨recorded, leases, bootstrap⟩ := inv.apply ran (is ▸ idle)
    exact ⟨recorded, leases, bootstrap⟩
  | check _ _ did => cases did <;> exact ⟨inv.recorded, inv.leases, inv.bootstrap⟩

lemma tokensCurrent (r : (machine env).ReachableAlong AppliesIdle e) : TokensCurrent e := by
  refine r.inv ?_ fun e a e' inv idle st => inv.step idle st
  rintro _ ⟨leases, _, _, pending, _, unlocked, _⟩
  refine ⟨?_, ?_, ?_⟩
  · rw [leases]
    exact nofun
  · rw [pending]
    exact nofun
  · rw [unlocked]
    exact .none

end EdgeNode

/-! ## Superseded leases -/

/-- A device obtains a lease, and its token is rotated afterwards. -/
def Controller.sampleRotation : List Controller.Action :=
  Controller.sampleBootstrap ++ [.admin 0 (.rotateToken 5 "h:new"), .proceed 0]

/-- A snapshot with the new value arrives between the steps of a bootstrap. -/
def EdgeNode.sampleRotation : List EdgeNode.Action :=
  EdgeNode.sampleStart ++
  [.bootstrap "ak" "dev" [Controller.sampleProxy] ⟨"lease", "rt", sampleLeaseId_ne⟩,
    .apply (EdgeNode.sampleUpdate "h:new"), .proceedLocked, .proceedLocked]

/-- Superseded leases that pass the check of their node. -/
theorem superseded_lease_passes :
    (∃ c, (Controller.machine Controller.sampleEnv).Reachable c ∧
      ∃ l ∈ c.store.leases, Superseded c.store.tokens c.issuedUnder l ∧
        ∃ metas, metas.leaseId = l.leaseId ∧
          Api.validateRuntime Controller.sampleEnv.tokenHash c.store c.now metas = .ok l) ∧
    (∃ e, (EdgeNode.machine EdgeNode.sampleEnv).Reachable e ∧ e.store.identityResetPending = false ∧
      ∃ l ∈ e.store.leases, Superseded e.store.cachedTokens e.issuedUnder l ∧
        ∃ metas, metas.leaseId = l.leaseId ∧
          Api.edgeRuntime EdgeNode.sampleEnv.tokenHash e.store e.now metas = .ok l) := by
  refine ⟨⟨_, ⟨Controller.sample, Controller.sampleRotation,
      ⟨rfl, rfl, by decide, rfl, rfl, rfl, rfl⟩, rfl⟩, ?_⟩,
    ⟨_, ⟨EdgeNode.sample, EdgeNode.sampleRotation,
      ⟨rfl, rfl, rfl, rfl, rfl, rfl, rfl, rfl, rfl⟩, rfl⟩, rfl, ?_⟩⟩
  · exact ⟨_, mem_cons_self, ⟨_, mem_cons_self, _, mem_cons_self, rfl, by decide⟩,
      ⟨"rt", "lease"⟩, rfl, rfl⟩
  · exact ⟨_, mem_cons_self, ⟨_, mem_cons_self, _, mem_cons_self, rfl, by decide⟩,
      ⟨"rt", "lease"⟩, rfl, rfl⟩

/-- In every run of a controller that rotates tokens only while they are idle, and in every run of an
edge in which no snapshot changes the token of a bootstrap under way, a superseded lease passes the
runtime check of its node no more: on the controller from the rotation on, on an edge whenever the
cache is complete. -/
theorem superseded_lease_rejected (env : Env) :
    (∀ c, (Controller.machine env).ReachableAlong Controller.RotatesIdle c →
      ∀ l ∈ c.store.leases, Superseded c.store.tokens c.issuedUnder l →
        ∀ metas, metas.leaseId = l.leaseId →
          ∀ k, Api.validateRuntime env.tokenHash c.store c.now metas ≠ .ok k) ∧
    (∀ e, (EdgeNode.machine env).ReachableAlong EdgeNode.AppliesIdle e →
      e.store.identityResetPending = false →
      ∀ l ∈ e.store.leases, Superseded e.store.cachedTokens e.issuedUnder l →
        ∀ metas, metas.leaseId = l.leaseId →
          ∀ k, Api.edgeRuntime env.tokenHash e.store e.now metas ≠ .ok k) := by
  refine ⟨fun c r l m old metas same k ok => ?_, fun e r ready l m old metas same k ok => ?_⟩
  · obtain ⟨lease, permits⟩ := Api.validateRuntime_ok ok
    have is : l = k := eq_of_clash m permits.lease (.inl (same.symm.trans lease.symm))
    cases is
    exact (Controller.tokensCurrent r).leases.not_superseded m permits.active old
  · obtain ⟨mk, lease, active⟩ := Api.edgeRuntime_ok ok
    have is : l = k := eq_of_clash m mk (.inl (same.symm.trans lease.symm))
    cases is
    exact ((EdgeNode.tokensCurrent r).leases ready).not_superseded m active old

/-- The lease is released before the token is rotated. -/
def Controller.sampleReleaseRotation : List Controller.Action :=
  Controller.sampleBootstrap ++ [.release "ak" "dev" "lease", .proceedLocked, .proceedLocked,
    .proceedLocked, .admin 0 (.rotateToken 5 "h:new"), .proceed 0]

/-- The snapshot with the new value arrives after the bootstrap. -/
def EdgeNode.sampleLateRotation : List EdgeNode.Action :=
  EdgeNode.sampleStart ++
  [.bootstrap "ak" "dev" [Controller.sampleProxy] ⟨"lease", "rt", sampleLeaseId_ne⟩, .proceedLocked, .proceedLocked,
    .apply (EdgeNode.sampleUpdate "h:new")]

/-- Superseded leases that are rejected: released before a rotation on the controller, and revoked by
the snapshot on an edge. -/
theorem superseded_lease_rejected_after_rotation :
    (∃ c, (Controller.machine Controller.sampleEnv).ReachableAlong Controller.RotatesIdle c ∧
      ∃ l ∈ c.store.leases, Superseded c.store.tokens c.issuedUnder l ∧
      ∀ k, Api.validateRuntime Controller.sampleEnv.tokenHash c.store c.now ⟨"rt", "lease"⟩ ≠ .ok k) ∧
    (∃ e, (EdgeNode.machine EdgeNode.sampleEnv).ReachableAlong EdgeNode.AppliesIdle e ∧
      ∃ l ∈ e.store.leases, Superseded e.store.cachedTokens e.issuedUnder l ∧
      ∀ k, Api.edgeRuntime EdgeNode.sampleEnv.tokenHash e.store e.now ⟨"rt", "lease"⟩ ≠ .ok k) := by
  obtain ⟨c, run, l, m, old, id⟩ : ∃ c, (Controller.machine Controller.sampleEnv).run Controller.sample
      Controller.sampleReleaseRotation = some c ∧ ∃ l ∈ c.store.leases,
        Superseded c.store.tokens c.issuedUnder l ∧ "lease" = l.leaseId :=
    ⟨_, rfl, _, mem_cons_self, ⟨_, mem_cons_self, _, mem_cons_self, rfl, by decide⟩, rfl⟩
  have reach : (Controller.machine Controller.sampleEnv).ReachableAlong Controller.RotatesIdle c :=
    ⟨_, _, ⟨rfl, rfl, by decide, rfl, rfl, rfl, rfl⟩, .of_along rfl, run⟩
  obtain ⟨e, erun, k, mk, eold, ready, eid⟩ : ∃ e, (EdgeNode.machine EdgeNode.sampleEnv).run
      EdgeNode.sample EdgeNode.sampleLateRotation = some e ∧ ∃ l ∈ e.store.leases,
        Superseded e.store.cachedTokens e.issuedUnder l ∧ e.store.identityResetPending = false ∧
        "lease" = l.leaseId :=
    ⟨_, rfl, _, mem_cons_self, ⟨_, mem_cons_self, _, mem_cons_self, rfl, by decide⟩,
      rfl, rfl⟩
  have ereach : (EdgeNode.machine EdgeNode.sampleEnv).ReachableAlong EdgeNode.AppliesIdle e :=
    ⟨_, _, ⟨rfl, rfl, rfl, rfl, rfl, rfl, rfl, rfl, rfl⟩, .of_along rfl, erun⟩
  exact ⟨⟨c, reach, l, m, old, (superseded_lease_rejected _).1 c reach l m old _ id⟩,
    ⟨e, ereach, k, mk, eold, (superseded_lease_rejected _).2 e ereach ready k mk eold _ eid⟩⟩

end MeowFrp.Node
