import MeowFrp.Edge.Store

/-!
# What a committed snapshot did

Inversion of `applyIdentitySnapshot`: a successful transaction passed the checks, appended the rows of
the snapshot to what `clearFor` left of the cache, and judged the leases against the result. The rest
of the development reads a commit through `apply_inv` and the lemmas of `Inserted` and never unfolds
the transaction again. `revokeRotated_baseline` is the observation behind the treatment of leases
during a baseline: a page that would find a token cached under another hash cannot be inserted.
-/

namespace MeowFrp.Edge.Store

open Lib Table Option

variable {s s' s₁ : Store} {snap : IdentitySnapshot} {now : Time}

/-- The rows of `snap` were appended to the cache, and nothing else changed. -/
structure Inserted (s : Store) (snap : IdentitySnapshot) (s' : Store) : Prop where
  rows : s'.cacheRows = s.cacheRows ++ snap.rows
  rest : s' = { s with
    cachedUsers := s'.cachedUsers
    cachedTokens := s'.cachedTokens
    cachedPolicies := s'.cachedPolicies
    cachedGrants := s'.cachedGrants
    cachedDpiPolicies := s'.cachedDpiPolicies }

/-- The insert loops succeed exactly when all rows can be appended. -/
lemma insertIdentity_eq_some : s.insertIdentity snap = some s' ↔ Inserted s snap s' := by
  unfold insertIdentity
  simp only [bind_eq_bind, bind_eq_some_iff, pure_def, some.injEq,
    insertAll_eq_some_iff]
  constructor
  · rintro ⟨_, u, _, t, _, p, _, g, _, d, rfl⟩
    exact ⟨CacheRows.ext u t p g d, rfl⟩
  · rintro ⟨rows, rest⟩
    exact ⟨_, congrArg CacheRows.users rows, _, congrArg CacheRows.tokens rows,
      _, congrArg CacheRows.policies rows, _, congrArg CacheRows.grants rows,
      _, congrArg CacheRows.dpiPolicies rows, rest.symm⟩

/-- Rows that do not clash can be inserted. -/
lemma exists_inserted (st : (s.cacheRows ++ snap.rows).Storable) : ∃ s', Inserted s snap s' :=
  ⟨{ s with
      cachedUsers := ⟨_, st.users⟩
      cachedTokens := ⟨_, st.tokens⟩
      cachedPolicies := ⟨_, st.policies⟩
      cachedGrants := ⟨_, st.grants⟩
      cachedDpiPolicies := ⟨_, st.dpiPolicies⟩ }, rfl, rfl⟩

/-- Inversion of a committed snapshot (Go `ApplyIdentitySnapshot`). -/
lemma apply_inv (ap : s.applyIdentitySnapshot now snap = .ok s') :
    s.checkSnapshot snap = .ok () ∧
    ∃ s₁, Inserted ((s.revokeRotated snap).clearFor snap) snap s₁ ∧
      s' = s₁.finishSnapshot now snap := by
  unfold applyIdentitySnapshot at ap
  split at ap
  · cases ap
  · rename_i check
    split at ap
    · cases ap
    · rename_i s₁ ins
      cases ap
      exact ⟨check, s₁, insertIdentity_eq_some.mp ins, rfl⟩

/-- A snapshot that passes the checks and fits is committed. -/
lemma apply_intro (check : s.checkSnapshot snap = .ok ())
    (ins : Inserted ((s.revokeRotated snap).clearFor snap) snap s₁) :
    s.applyIdentitySnapshot now snap = .ok (s₁.finishSnapshot now snap) := by
  unfold applyIdentitySnapshot
  rw [check]
  dsimp only
  rw [insertIdentity_eq_some.mpr ins]

/-- What the checks of a baseline page establish. -/
lemma check_baseline (b : snap.baseline = true) (check : s.checkSnapshot snap = .ok ()) :
    s.identityResetPending = true ∧ snap.incremental = false ∧ 0 < snap.revision ∧
    ∀ r, s.lastRevision = some r → r < snap.revision := by
  unfold checkSnapshot at check
  split at check
  · cases check
  rename_i pending
  split at check
  · cases check
  rename_i flags
  split at check
  · cases check
  rename_i rev
  split at check
  · cases check
  rename_i stale
  refine ⟨by simpa [b] using pending, by simpa [b] using flags, by omega, ?_⟩
  intro r e
  simpa [b, e] using stale

/-- What the checks of an incremental snapshot establish. -/
lemma check_incremental (i : snap.incremental = true) (check : s.checkSnapshot snap = .ok ()) :
    ∃ r, s.lastRevision = some r ∧ r < snap.revision := by
  unfold checkSnapshot at check
  split at check
  · cases check
  split at check
  · cases check
  split at check
  · cases check
  split at check
  · cases check
  split at check
  · cases check
  rename_i r last
  split at check
  · cases check
  rename_i newer
  exact ⟨r, last, Nat.lt_of_not_le newer⟩

/-- A page or an update is newer than what was applied before. -/
lemma check_newer (shape : snap.baseline = true ∨ snap.incremental = true)
    (check : s.checkSnapshot snap = .ok ()) : ∀ r, s.lastRevision = some r → r < snap.revision := by
  intro r last
  rcases shape with b | i
  · exact (check_baseline b check).2.2.2 r last
  · obtain ⟨_, last', newer⟩ := check_incremental i check
    cases last.symm.trans last'
    exact newer

/-- A baseline page that fits finds none of its tokens cached. -/
lemma revokeRotated_baseline (b : snap.baseline = true) (i : snap.incremental = false)
    (ins : Inserted ((s.revokeRotated snap).clearFor snap) snap s₁) : s.revokeRotated snap = s := by
  have fresh : ∀ tokenId, s.rotates snap tokenId = false := by
    intro tokenId
    rw [rotates, List.any_eq_false]
    intro t mt h
    simp only [Bool.and_eq_true, decide_eq_true_eq, Table.any_eq_true] at h
    obtain ⟨_, c, mc, ec, ne⟩ := h
    -- the cached copy and the new row would both be stored, with one primary key
    have e := congrArg CacheRows.tokens ins.rows
    rw [clearFor, i, if_neg Bool.false_ne_true, b, if_pos rfl] at e
    change s₁.cachedTokens.rows = s.cachedTokens.rows ++ snap.tokens at e
    have mc' : c ∈ s₁.cachedTokens := by
      rw [← Table.mem_rows, e]
      exact List.mem_append_left _ mc
    have mt' : t ∈ s₁.cachedTokens := by
      rw [← Table.mem_rows, e]
      exact List.mem_append_right _ mt
    have ct := Table.eq_of_clash mc' mt' (.inl ec)
    exact ne (by rw [ct])
  have leases : revokeLeases s.leases (fun l => l.status = .active && s.rotates snap l.tokenId)
      = s.leases := by
    apply Table.update_eq_self
    intro l _
    rw [fresh, Bool.and_false]
  unfold revokeRotated
  rw [leases]

/-- The rows of a committed baseline page are appended to the cache. -/
lemma apply_baseline_inv (b : snap.baseline = true)
    (ap : s.applyIdentitySnapshot now snap = .ok s') :
    ∃ s₁, Inserted s snap s₁ ∧ s' = s₁.finishSnapshot now snap := by
  obtain ⟨check, s₁, ins, e⟩ := apply_inv ap
  obtain ⟨_, i, _⟩ := check_baseline b check
  have rot := revokeRotated_baseline b i ins
  rw [rot, clearFor, i, if_neg Bool.false_ne_true, b, if_pos rfl] at ins
  exact ⟨s₁, ins, e⟩

/-- A newer baseline page whose rows clash with nothing is committed. -/
lemma apply_baseline_exists (b : snap.baseline = true) (i : snap.incremental = false)
    (pend : s.identityResetPending = true) (rev : 0 < snap.revision)
    (newer : ∀ r, s.lastRevision = some r → r < snap.revision)
    (st : (s.cacheRows ++ snap.rows).Storable) :
    ∃ s₁, Inserted s snap s₁ ∧
      s.applyIdentitySnapshot now snap = .ok (s₁.finishSnapshot now snap) := by
  have check : s.checkSnapshot snap = .ok () := by
    have stale : s.lastRevision.any (snap.revision ≤ ·) = false := by
      rw [any_eq_false]
      intro r e
      simpa using newer r e
    simp only [checkSnapshot, b, i, pend, stale]
    rw [if_neg (Nat.pos_iff_ne_zero.mp rev)]
    rfl
  have clear : (s.revokeRotated snap).clearFor snap = s.revokeRotated snap := by
    rw [clearFor, i, if_neg Bool.false_ne_true, b, if_pos rfl]
  obtain ⟨s₁, ins⟩ : ∃ s₁, Inserted (s.revokeRotated snap) snap s₁ := exists_inserted st
  rw [← clear] at ins
  have ap : s.applyIdentitySnapshot now snap = .ok (s₁.finishSnapshot now snap) :=
    apply_intro check ins
  rw [revokeRotated_baseline b i ins, clearFor, i, if_neg Bool.false_ne_true, b, if_pos rfl] at ins
  exact ⟨s₁, ins, ap⟩

/-- A full snapshot whose rows do not clash is committed, and is the cache. -/
lemma apply_full_exists (b : snap.baseline = false) (i : snap.incremental = false)
    (rev : 0 < snap.revision) (st : snap.rows.Storable) :
    ∃ s₁ : Store, s₁.cacheRows = snap.rows ∧
      s.applyIdentitySnapshot now snap = .ok (s₁.finishSnapshot now snap) := by
  have check : s.checkSnapshot snap = .ok () := by
    simp only [checkSnapshot, b, i]
    rw [if_neg (Nat.pos_iff_ne_zero.mp rev)]
    rfl
  have clear : (s.revokeRotated snap).clearFor snap = (s.revokeRotated snap).dropAll := by
    rw [clearFor, i, if_neg Bool.false_ne_true, b, if_neg Bool.false_ne_true]
  obtain ⟨s₁, ins⟩ : ∃ s₁, Inserted (s.revokeRotated snap).dropAll snap s₁ := exists_inserted st
  rw [← clear] at ins
  refine ⟨s₁, ?_, apply_intro check ins⟩
  rw [ins.rows, clear]
  rfl

/-- A committed snapshot changes the controller's bans as it says, and not the node's. -/
lemma apply_blocked (ap : s.applyIdentitySnapshot now snap = .ok s') :
    s'.controllerBlockedIps = s.blockedAfter snap ∧ s'.blockedInboundIps = s.blockedInboundIps := by
  obtain ⟨_, s₁, ins, rfl⟩ := apply_inv ap
  have same : s₁.controllerBlockedIps = s.controllerBlockedIps ∧
      s₁.blockedInboundIps = s.blockedInboundIps := by
    rw [ins.rest]
    unfold clearFor
    split
    · exact ⟨rfl, rfl⟩
    · split <;> exact ⟨rfl, rfl⟩
  refine ⟨?_, same.2⟩
  change s₁.blockedAfter snap = s.blockedAfter snap
  unfold blockedAfter
  rw [same.1]

/-- A completing snapshot replaces the blocked addresses. -/
lemma blockedAfter_completes (c : snap.completes = true) : s.blockedAfter snap =
    (snap.blockedIps.foldl Table.put ∅).delete fun b => snap.removedBlockedIps.contains b.ip := by
  rw [blockedAfter, c, Bool.or_true, if_pos rfl]

end MeowFrp.Edge.Store
