import MeowFrp.Edge.Apply

/-!
# Leases across a reconnect

A reconnecting edge drops its cached identities but keeps its leases, receives a new baseline page by
page, and judges the leases when the last page is committed. This file follows the leases through
that sequence for an arbitrary split of the baseline: `applyPages_inner` is the invariant over the
inner pages (their rows pile up in the cache, no lease changes), and
`reconnect_keeps_authorised_leases` states which leases survive in terms of the baseline alone.
-/

namespace MeowFrp.Edge.Store

open Lib IdentitySnapshot Table List

/-- Apply pages in the order they arrive, each at its own instant. -/
def applyPages (s : Store) (pages : List (Time × IdentitySnapshot)) : Except String Store :=
  pages.foldlM (fun s p => s.applyIdentitySnapshot p.1 p.2) s

lemma applyPages_cons {s t : Store} {p pages} :
    s.applyPages (p :: pages) = .ok t ↔
      ∃ s', s.applyIdentitySnapshot p.1 p.2 = .ok s' ∧ s'.applyPages pages = .ok t := by
  change (s.applyIdentitySnapshot p.1 p.2 >>= fun s' => s'.applyPages pages) = _ ↔ _
  cases s.applyIdentitySnapshot p.1 p.2 with
  | error | ok => simp [bind, Except.bind]

/-- The rows of the snapshots were appended, and leases and issuers kept. -/
structure Appended (s : Store) (snaps : List IdentitySnapshot) (s' : Store) : Prop where
  rows : s'.cacheRows = s.cacheRows ++ rowsOf snaps
  leases : s'.leases = s.leases
  issuers : s'.issuers = s.issuers

/-- Inserting a snapshot appends its rows. -/
lemma Inserted.appended {s s' : Store} {snap} (ins : Inserted s snap s') :
    Appended s [snap] s' := by
  refine ⟨?_, ?_, ?_⟩
  · rw [ins.rows, rowsOf_singleton]
  · rw [ins.rest]
  · rw [ins.rest]

lemma Appended.trans {s s' s'' : Store} {snaps snaps'} (a : Appended s snaps s')
    (b : Appended s' snaps' s'') : Appended s (snaps ++ snaps') s'' := by
  refine ⟨?_, b.leases.trans a.leases, b.issuers.trans a.issuers⟩
  rw [b.rows, a.rows, rowsOf_append, CacheRows.append_assoc]

/-- A page of a baseline that is not its last. -/
def innerPage (snap : IdentitySnapshot) : Prop := snap.baseline = true ∧ snap.baselineEnd = false

/-- An inner page appends its rows and judges no lease. -/
lemma apply_innerPage {s s' : Store} {now snap} (inner : innerPage snap)
    (ap : s.applyIdentitySnapshot now snap = .ok s') : Appended s [snap] s' := by
  obtain ⟨_, ins, rfl⟩ := apply_baseline_inv inner.1 ap
  have a := ins.appended
  have ends : snap.ends = false := by simp [IdentitySnapshot.ends, inner.1, inner.2]
  refine ⟨a.rows, ?_, a.issuers⟩
  simpa [finishSnapshot, ends] using a.leases

/-- The inner pages of a baseline change no lease. -/
lemma applyPages_inner {s s' : Store} {pages : List (Time × IdentitySnapshot)}
    (inner : ∀ p ∈ pages, innerPage p.2) (ap : s.applyPages pages = .ok s') :
    Appended s (pages.map Prod.snd) s' := by
  induction pages generalizing s with
  | nil =>
    cases ap
    exact ⟨(CacheRows.append_empty _).symm, rfl, rfl⟩
  | cons p _ ih =>
    obtain ⟨_, ap₁, ap₂⟩ := applyPages_cons.mp ap
    have a := apply_innerPage (inner p mem_cons_self) ap₁
    have b := ih (fun q m => inner q (mem_cons_of_mem p m)) ap₂
    exact a.trans b

/-- The rows authorise the lease: its user is an active ordinary user with an enabled policy, and its token is
that user's, active, unexpired and the one it was issued under. -/
def BaselineAuthorises (rows : CacheRows) (issuers : Table LeaseIssuer) (now : Time)
    (l : RuntimeLease) : Prop :=
  (∃ u ∈ rows.users, u.id = l.userId ∧ u.status = .active ∧ u.role = .user) ∧
  (∃ p ∈ rows.policies, p.userId = l.userId ∧ p.enabled = true) ∧
  ∃ t ∈ rows.tokens, t.id = l.tokenId ∧ t.userId = l.userId ∧ t.status = .active ∧
    unexpired t now = true ∧
    ∀ i ∈ issuers, i.leaseId = l.leaseId → i.accessTokenHash = t.tokenHash

/-- The final revocation decides `BaselineAuthorises` of the cache. -/
lemma authorised_iff {s : Store} {now l} :
    s.authorised now l = true ↔ BaselineAuthorises s.cacheRows s.issuers now l := by
  unfold authorised BaselineAuthorises
  simp only [Bool.and_eq_true, Table.any_eq_true, decide_eq_true_eq, Bool.not_eq_true',
    Bool.eq_false_iff, ne_eq, not_exists, not_and, cacheRows, Table.mem_rows]
  constructor
  · rintro ⟨⟨⟨⟨u, mu, ⟨eu, au⟩, ru⟩, ⟨p, mp, ep⟩⟩, ⟨t, mt, ⟨⟨et, ut⟩, at'⟩, xt⟩⟩, iss⟩
    refine ⟨⟨u, mu, eu, au, ru⟩, ⟨p, mp, ep⟩, t, mt, et, ut, at', xt, ?_⟩
    intro i mi ei
    have ex := iss i mi ei
    push Not at ex
    obtain ⟨_, mc, ec, hc⟩ := ex
    -- the token with the issuing hash has the lease's token id, so it is `t`
    have ct := Table.eq_of_clash mc mt (.inl (ec.trans et.symm))
    rw [← ct, hc]
  · rintro ⟨⟨u, mu, eu, au, ru⟩, ⟨p, mp, ep⟩, t, mt, et, ut, at', xt, iss⟩
    refine ⟨⟨⟨⟨u, mu, ⟨eu, au⟩, ru⟩, ⟨p, mp, ep⟩⟩, ⟨t, mt, ⟨⟨et, ut⟩, at'⟩, xt⟩⟩, ?_⟩
    intro i mi ei no
    exact no t mt et (iss i mi ei).symm

/-- A revocation leaves a lease active exactly when its condition fails. -/
lemma active_after_revoke {leases : Table RuntimeLease} {p : RuntimeLease → Bool} {l : RuntimeLease}
    (m : l ∈ leases) (act : l.status = .active) :
    (∃ l' ∈ revokeLeases leases p, l'.leaseId = l.leaseId ∧ l'.status = .active) ↔ p l = false := by
  constructor
  · rintro ⟨_, m', e, act'⟩
    obtain ⟨_, mk, rfl⟩ := mem_revokeLeases.mp m'
    unfold Table.rewrite at e act'
    split at act'
    · cases act'
    · rename_i no
      rw [if_neg no] at e
      have kl := eq_of_clash mk m (.inl e)
      rw [← kl]
      simpa using no
  · intro no
    refine ⟨l, mem_revokeLeases.mpr ⟨l, m, ?_⟩, rfl, act⟩
    rw [Table.rewrite, no, if_neg Bool.false_ne_true]

/-- A reconnect keeps exactly the leases that are still authorised, and no page before the last
changes a lease. -/
theorem reconnect_keeps_authorised_leases {e e₁ e₂ : Store}
    {inner : List (Time × IdentitySnapshot)} {now : Time} {last : IdentitySnapshot}
    (isInner : ∀ p ∈ inner, innerPage p.2)
    (isLast : last.baseline = true ∧ last.baselineEnd = true)
    (pages : e.discardControlIdentityCache.applyPages inner = .ok e₁)
    (fin : e₁.applyIdentitySnapshot now last = .ok e₂) :
    (∀ n e', e.discardControlIdentityCache.applyPages (inner.take n) = .ok e' →
      e'.leases = e.leases) ∧
    ∀ l ∈ e.leases, l.status = .active →
      ((∃ l' ∈ e₂.leases, l'.leaseId = l.leaseId ∧ l'.status = .active) ↔
        BaselineAuthorises (rowsOf (inner.map Prod.snd ++ [last])) e.issuers now l) := by
  refine ⟨?_, ?_⟩
  · intro n e' ap
    have a := applyPages_inner (fun p m => isInner p (mem_of_mem_take m)) ap
    exact a.leases
  · intro l ml act
    obtain ⟨s₁, ins, rfl⟩ := apply_baseline_inv isLast.1 fin
    have a := (applyPages_inner isInner pages).trans ins.appended
    have ends : last.ends = true := by simp [IdentitySnapshot.ends, isLast.2]
    have leases : (s₁.finishSnapshot now last).leases =
        revokeLeases s₁.leases fun l => l.status = .active && !s₁.authorised now l := by
      simp [finishSnapshot, ends]
    have issuers : s₁.issuers = e.issuers := a.issuers
    have ml' : l ∈ s₁.leases := by
      rw [a.leases]
      exact ml
    have rows : s₁.cacheRows = rowsOf (inner.map Prod.snd ++ [last]) := a.rows
    rw [leases, active_after_revoke ml' act, ← issuers, ← rows, ← authorised_iff]
    simp [act]

/-- An edge with one lease of client `pc`, issued under the hash `h1`. -/
def oneLease : Store :=
  { leases := ⟨[⟨"lease_1", 1, 1, "pc", "rt_1", .active, 100, Nat.one_pos, Nat.one_pos, by decide⟩], by decide⟩
    issuers := ⟨[⟨"lease_1", "h1"⟩], by decide⟩ }

/-- The user of the lease in a first page, another user in the last one. -/
def twoPages : IdentitySnapshot × IdentitySnapshot :=
  ({ baseline := true
     revision := 1
     users := [{ id := 1, username := "amy", role := .user, status := .active, id_pos := Nat.one_pos }]
     tokens := [{ id := 1, userId := 1, name := "t", tokenHash := "h1", status := .active,
                  maxProxyCount := 1, id_pos := Nat.one_pos }]
     policies := [⟨1, 1024, 65535, 1, ["tcp"], true⟩] },
   { baseline := true
     baselineEnd := true
     revision := 2
     users := [{ id := 2, username := "bob", role := .user, status := .active, id_pos := Nat.two_pos }] })

/-- The lease of `oneLease` survives the reconnect that brings `twoPages`. -/
theorem reconnect_keeps_oneLease : ∃ e₁ e₂,
    oneLease.discardControlIdentityCache.applyPages [(5, twoPages.1)] = .ok e₁ ∧
    e₁.applyIdentitySnapshot 6 twoPages.2 = .ok e₂ ∧
    ∃ l' ∈ e₂.leases, l'.leaseId = "lease_1" ∧ l'.status = .active := by
  have commits : ∃ e₁ e₂,
      oneLease.discardControlIdentityCache.applyPages [(5, twoPages.1)] = .ok e₁ ∧
      e₁.applyIdentitySnapshot 6 twoPages.2 = .ok e₂ := ⟨_, _, rfl, rfl⟩
  obtain ⟨e₁, e₂, ap₁, ap₂⟩ := commits
  have isInner : ∀ p ∈ [((5 : Time), twoPages.1)], innerPage p.2 := by
    intro p m
    cases mem_singleton.mp m
    exact ⟨rfl, rfl⟩
  have keeps := (reconnect_keeps_authorised_leases isInner ⟨rfl, rfl⟩ ap₁ ap₂).2
  refine ⟨e₁, e₂, ap₁, ap₂, (keeps _ mem_cons_self rfl).mpr ⟨?_, ?_, ?_⟩⟩
  · exact ⟨_, mem_cons_self, rfl, rfl, rfl⟩
  · exact ⟨_, mem_cons_self, rfl, rfl⟩
  · refine ⟨_, mem_cons_self, rfl, rfl, rfl, rfl, ?_⟩
    intro i mi _
    cases mem_singleton.mp mi
    rfl

end MeowFrp.Edge.Store
