import MeowFrp.Node.Rotation

/-!
# A bootstrap racing with a token rotation on an edge

An edge looks up the credential of a bootstrap, validates its proxies and creates its lease in three
steps, while the snapshot worker commits snapshots. `CreateLease` records the hash that is cached when
it runs. A snapshot with a new value of the token that commits between the lookup and the creation
therefore ends up as the issuer of a lease that was obtained with the old value
(`lease_of_old_value_survives`). When no snapshot brings another value of the token of a bootstrap under
way, every lease that is active after a snapshot was obtained with the value the snapshot gave, up to
the next snapshot that gives another one.
-/

namespace MeowFrp.Node.EdgeNode

open Lib Table List Edge.Store

variable {env : Env} {e e' e₁ e₂ : EdgeNode} {a : Action} {t : AccessToken}

/-- Cache, active leases and bootstrap know no other value of the token. -/
structure Given (t : AccessToken) (e : EdgeNode) : Prop where
  cached : Current e.store.cachedTokens t.id t.tokenHash
  leases : ∀ l ∈ e.store.leases, l.status = .active → l.tokenId = t.id →
    ∀ hash, (l.leaseId, hash) ∈ e.issuedUnder → hash = t.tokenHash
  bootstrap : ∀ leaseId presented, Locked.underWay e.locked = some (leaseId, t.id, presented) →
    presented = t.tokenHash

/-- The step gives the token no other value. -/
def Keeps (t : AccessToken) (a : Action) : Prop :=
  ∀ t' ∈ a.carried, t'.id = t.id → t'.tokenHash = t.tokenHash

instance : Decidable (Keeps t a) :=
  inferInstanceAs (Decidable (∀ t' ∈ a.carried, t'.id = t.id → t'.tokenHash = t.tokenHash))

lemma Frame.given (frame : Frame e e') (inv : Given t e) : Given t e' := by
  obtain ⟨_, _, store⟩ := frame.store
  obtain ⟨cached, leases, bootstrap⟩ := inv
  refine ⟨?_, ?_, ?_⟩
  all_goals simp only [store, frame.locked, frame.issuedUnder]
  · exact cached
  · exact leases
  · exact bootstrap

/-- Revocations leave no new active lease. -/
lemma Given.shrinks {leases} (inv : Given t e)
    (sh : e.store.book.Shrinks ⟨leases, e.store.allocations, id⟩) :
    Given t { e with store := { e.store with leases } } := by
  refine ⟨inv.cached, fun l m active same => ?_, inv.bootstrap⟩
  obtain ⟨_, mk, rfl | rfl⟩ := sh.leases l m
  · exact inv.leases l mk active same
  · cases active

lemma Given.perform {effect} (inv : Given t e) : Given t (e.perform effect) := by
  cases effect with
  | revokeClient => exact inv.shrinks .revoke
  | clearClient | terminate | remember | bind | register => exact ⟨inv.cached, inv.leases, inv.bootstrap⟩

lemma Given.unlock {l} (inv : Given t e) (idle : Locked.underWay l = none) :
    Given t { e with locked := l } := by
  refine ⟨inv.cached, inv.leases, fun leaseId presented under => ?_⟩
  change Locked.underWay l = _ at under
  rw [idle] at under
  cases under

lemma LockedStep.given {l} (st : LockedStep env e l e') (holds : e.locked = some l)
    (cur : TokensCurrent e) (inv : Given t e) : Given t e' := by
  have boot := inv.bootstrap
  have fresh := cur.bootstrap
  rw [holds] at boot fresh
  cases st with
  | ended => exact inv.unlock rfl
  | validated => exact ⟨inv.cached, inv.leases, boot⟩
  | @created _ _ _ _ ran =>
    obtain ⟨_, _, token, _, issued, _, _, rfl⟩ := createLease_inv ran
    refine ⟨inv.cached, fun l m active same hash mh => ?_, nofun⟩
    rcases LeaseBook.mem_issue_leases issued m with rfl | ⟨ne, _, mk, _, ⟨rfl, _⟩ | rfl⟩
    · rcases mem_cons.mp mh with eq | old
      · cases eq
        exact boot _ _ (by rw [← same]; rfl)
      · exact absurd old ((fresh _ _ _ rfl).1 hash)
    · rcases mem_cons.mp mh with eq | old
      · exact absurd (congrArg Prod.fst eq) ne
      · exact inv.leases l mk active same hash old
    · cases active
  | released => exact (inv.shrinks .revoke).unlock rfl
  | performed => exact inv.perform.unlock rfl

/-- Steps that give the token no other value keep the invariant. -/
lemma Given.step (inv : Given t e) (cur : TokensCurrent e) (keeps : Keeps t a)
    (st : e.step env a = some e') : Given t e' := by
  cases step_kind st with
  | frame frame => exact frame.given inv
  | start frame =>
    obtain ⟨cached, leases, bootstrap⟩ := frame.given inv
    exact ⟨cached, leases, bootstrap⟩
  | lock frame _ locks =>
    have inv' := frame.given inv
    cases locks with
    | release => exact inv'.unlock rfl
    | @bootstrap accessToken _ _ _ token _ _ found =>
      refine ⟨inv'.cached, inv'.leases, fun leaseId presented under => ?_⟩
      -- the presented value is that of the cached token, which is the given one
      have value : token.tokenHash = env.tokenHash accessToken := by simpa using find?_prop found
      simp only [Locked.underWay, Option.some.injEq, Prod.mk.injEq] at under
      obtain ⟨_, same, rfl⟩ := under
      rw [← value]
      exact inv.cached token (mem_of_find? found) same
  | perform =>
    obtain ⟨cached, leases, bootstrap⟩ := inv.perform
    exact ⟨cached, leases, bootstrap⟩
  | locked _ holds st => exact st.given holds cur inv
  | packet | list | finish => exact ⟨inv.cached, inv.leases, inv.bootstrap⟩
  | reconnect => exact ⟨fun _ m => absurd m not_mem_empty, inv.leases, inv.bootstrap⟩
  | boot =>
    exact ⟨fun _ m => absurd m not_mem_empty, fun _ m => absurd m not_mem_empty, nofun⟩
  | apply is _ ran =>
    refine ⟨fun t' m same => ?_, fun l m active same => ?_, inv.bootstrap⟩
    · rcases apply_tokens ran m with old | new
      · exact inv.cached t' old same
      · exact keeps t' (is ▸ new) same
    · obtain ⟨_, mk, rfl | rfl⟩ := (apply_book ran).leases l m
      · exact inv.leases l mk active same
      · cases active
  | check _ _ did => cases did <;> exact ⟨inv.cached, inv.leases, inv.bootstrap⟩

/-- Inversion of a committed snapshot. -/
lemma apply_committed {snap} (st : e.step env (.apply snap) = some e') :
    ∃ store, e.store.applyIdentitySnapshot e.now snap = .ok store ∧ e'.store = store ∧
      e'.issuedUnder = e.issuedUnder := by
  simp only [EdgeNode.step, EdgeNode.apply] at st
  split at st
  · split at st
    · cases st
    · cases st
      exact ⟨_, ‹_›, rfl, rfl⟩
  · cases st

/-- A committed snapshot settles the value of the tokens it leaves cached. -/
lemma TokensCurrent.given {snap} (cur : TokensCurrent e) (ends : snap.ends = true)
    (idle : AppliesIdle e (.apply snap)) (st : e.step env (.apply snap) = some e')
    (mt : t ∈ e'.store.cachedTokens) : Given t e' := by
  have cur' := cur.step idle st
  obtain ⟨_, ran, leases, issued⟩ := apply_committed st
  refine ⟨fun t' m same => ?_, fun l m active same hash mh => ?_, fun leaseId presented under => ?_⟩
  · rw [eq_of_clash m mt (.inl same)]
  · rw [leases] at m mt
    rw [issued] at mh
    exact (cur.apply_leases ran ends l m active hash mh t mt same.symm).symm
  · exact ((cur'.bootstrap _ _ _ under).2 t mt rfl).symm

/-- On an edge, a device looks up its credential before a snapshot with a new value of its token
commits, and obtains an active lease with the old value after it. -/
theorem lease_of_old_value_survives :
    ∃ e e₁ e₂, (machine sampleEnv).Reachable e ∧
      e.step sampleEnv (.apply (sampleUpdate "h:new")) = some e₁ ∧
      (machine sampleEnv).run e₁ [.proceedLocked, .proceedLocked] = some e₂ ∧
      ∃ t ∈ (sampleUpdate "h:new").tokens, ∃ l ∈ e₂.store.leases, l.status = .active ∧
        l.tokenId = t.id ∧ (l.leaseId, "h:ak") ∈ e₂.issuedUnder ∧ "h:ak" ≠ t.tokenHash := by
  refine ⟨_, _, _, ⟨sample, sampleStart ++ [.bootstrap "ak" "dev" [Controller.sampleProxy]
    ⟨"lease", "rt", sampleLeaseId_ne⟩], ⟨rfl, rfl, rfl, rfl, rfl, rfl, rfl, rfl, rfl⟩, rfl⟩, rfl, rfl, ?_⟩
  exact ⟨_, mem_cons_self, _, mem_cons_self, rfl, rfl, mem_cons_self, by decide⟩

/-- In every run of an edge in which no snapshot brings another value of the token of a bootstrap under
way: once a snapshot is committed (a baseline with its last page), every active lease of a token that
it carried or left cached was obtained with the value the token has in it, until a later snapshot
gives the token another one. -/
theorem no_lease_of_old_value (env : Env) {e e₁ e₂ : EdgeNode} {snap : IdentitySnapshot}
    {t : AccessToken} {as : List Action} (reach : (machine env).ReachableAlong AppliesIdle e)
    (ends : snap.ends = true) (idle : AppliesIdle e (.apply snap))
    (st : e.step env (.apply snap) = some e₁)
    (given : t ∈ snap.tokens ∨ t ∈ e₁.store.cachedTokens)
    (along : (machine env).Along AppliesIdle e₁ as) (keeps : ∀ a ∈ as, Keeps t a)
    (run : (machine env).run e₁ as = some e₂) :
    ∀ l ∈ e₂.store.leases, l.status = .active → l.tokenId = t.id →
      ∀ hash, (l.leaseId, hash) ∈ e₂.issuedUnder → hash = t.tokenHash := by
  have cur := tokensCurrent reach
  have mt : t ∈ e₁.store.cachedTokens := by
    rcases given with carried | cached
    · obtain ⟨_, ran, is, _⟩ := apply_committed st
      rw [is]
      exact apply_caches ran carried
    · exact cached
  have both := Machine.invariant_along (M := machine env) (I := fun e => TokensCurrent e ∧ Given t e)
    (fun _ _ _ inv guard st => ⟨inv.1.step guard.1 st, inv.2.step inv.1 guard.2 st⟩)
    (along.and (.of_forall keeps)) ⟨cur.step idle st, cur.given ends idle st mt⟩ run
  exact both.2.leases

/-- A device obtains a lease. -/
def sampleLease : List Action :=
  sampleStart ++ [.bootstrap "ak" "dev" [Controller.sampleProxy] ⟨"lease", "rt", sampleLeaseId_ne⟩,
    .proceedLocked, .proceedLocked]

/-- It obtains another one, with the new value of its token. -/
def sampleNextLease : List Action :=
  [.bootstrap "new" "dev" [Controller.sampleProxy] ⟨"next", "rt2", by decide⟩, .proceedLocked,
    .proceedLocked]

/-- The snapshot with the new value arrives after the bootstrap has ended, and the device obtains its
next lease with the new value. -/
theorem no_lease_of_old_value_after_rotation :
    ∃ e, (machine sampleEnv).Reachable e ∧
      (∃ l ∈ e.store.leases, l.status = .active ∧ l.tokenId = 5) ∧
      ∀ l ∈ e.store.leases, l.status = .active → l.tokenId = 5 →
        ∀ hash, (l.leaseId, hash) ∈ e.issuedUnder → hash = "h:new" := by
  have init : (machine sampleEnv).Init sample := ⟨rfl, rfl, rfl, rfl, rfl, rfl, rfl, rfl, rfl⟩
  have before : (machine sampleEnv).Along AppliesIdle sample sampleLease := .of_along rfl
  obtain ⟨e, e₁, e₂, run, st, run', idle, along, lease⟩ : ∃ e e₁ e₂,
      (machine sampleEnv).run sample sampleLease = some e ∧
      (machine sampleEnv).step e (.apply (sampleUpdate "h:new")) = some e₁ ∧
      (machine sampleEnv).run e₁ sampleNextLease = some e₂ ∧
      AppliesIdle e (.apply (sampleUpdate "h:new")) ∧
      (machine sampleEnv).Along AppliesIdle e₁ sampleNextLease ∧
      ∃ l ∈ e₂.store.leases, l.status = .active ∧ l.tokenId = 5 :=
    ⟨_, _, _, rfl, rfl, rfl, nofun, .of_along rfl, _, mem_cons_of_mem _ mem_cons_self, rfl, rfl⟩
  have reach : (machine sampleEnv).Reachable e := ⟨_, _, init, run⟩
  have reach := (reach.snoc st).append run'
  exact ⟨e₂, reach, lease, no_lease_of_old_value sampleEnv ⟨_, _, init, before, run⟩ rfl idle st
    (.inl mem_cons_self) along (by decide) run'⟩

end MeowFrp.Node.EdgeNode
