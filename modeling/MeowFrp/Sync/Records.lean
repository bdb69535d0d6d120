import MeowFrp.Db.Records
import MeowFrp.Sync.Baseline

/-!
# What each side holds of a user

The records of one user, as the controller's tables hold them for a node (`visibleRecords`) and as the rows
of a cache or of a snapshot do (`CacheRows.recordsOf`). A page carries, of each user it lists, exactly what
the node may see (`readPage_shows`); a committed page replaces the cached records of the users it concerns
by its own and leaves the others alone (`apply_records`). The grants are what makes this an argument: a
grant belongs to a user through its token, so it has to be seen that no token under an old grant comes back
as the token of another user.
-/

namespace MeowFrp

open Lib Db List CacheRows Store

/-- The records of a user. -/
@[ext]
structure Records where
  users : Set User
  tokens : Set AccessToken
  policies : Set UserResourcePolicy
  grants : Set PortGrant
  dpiPolicies : Set DpiPolicy

namespace Records

instance : EmptyCollection Records := ⟨⟨∅, ∅, ∅, ∅, ∅⟩⟩

instance : Union Records where
  union a b := ⟨a.users ∪ b.users, a.tokens ∪ b.tokens, a.policies ∪ b.policies, a.grants ∪ b.grants,
    a.dpiPolicies ∪ b.dpiPolicies⟩

lemma empty_union (a : Records) : ∅ ∪ a = a := by
  ext1 <;> exact Set.empty_union _

lemma union_empty (a : Records) : a ∪ ∅ = a := by
  ext1 <;> exact Set.union_empty _

end Records

namespace CacheRows

/-- The rows of a user. A grant is one of the user when its token is. -/
def recordsOf (r : CacheRows) (userId : Nat) : Records where
  users := {u | u ∈ r.users ∧ u.id = userId}
  tokens := {t | t ∈ r.tokens ∧ t.userId = userId}
  policies := {p | p ∈ r.policies ∧ p.userId = userId}
  grants := {g | g ∈ r.grants ∧ ∃ t ∈ r.tokens, t.id = g.tokenId ∧ t.userId = userId}
  dpiPolicies := {p | p ∈ r.dpiPolicies ∧ p.userId = userId}

/-- The rows hold the user. -/
def Lists (r : CacheRows) (userId : Nat) : Prop := ∃ u ∈ r.users, u.id = userId

/-- Every row belongs to a user among the rows, and every grant to a token. -/
structure Closed (r : CacheRows) : Prop where
  tokens : ∀ t ∈ r.tokens, r.Lists t.userId
  policies : ∀ p ∈ r.policies, r.Lists p.userId
  grants : ∀ g ∈ r.grants, ∃ t ∈ r.tokens, t.id = g.tokenId
  dpiPolicies : ∀ p ∈ r.dpiPolicies, r.Lists p.userId

/-- The rows without those of the given users. -/
def drop (r : CacheRows) (ids : List Nat) : CacheRows where
  users := r.users.filter fun u => !ids.contains u.id
  tokens := r.tokens.filter fun t => !ids.contains t.userId
  policies := r.policies.filter fun p => !ids.contains p.userId
  grants := r.grants.filter fun g => !r.tokens.any fun t => t.id = g.tokenId && ids.contains t.userId
  dpiPolicies := r.dpiPolicies.filter fun p => !ids.contains p.userId

variable {r a b : CacheRows} {userId : Nat} {ids : List Nat}

lemma closed_empty : (∅ : CacheRows).Closed := ⟨nofun, nofun, nofun, nofun⟩

lemma not_lists_empty : ¬ (∅ : CacheRows).Lists userId := by
  rintro ⟨_, m, _⟩
  cases m

lemma lists_iff : r.Lists userId ↔ (r.recordsOf userId).users.Nonempty := Iff.rfl

/-- Rows that hold the same of a user both hold the user, or neither does. -/
lemma lists_congr (same : a.recordsOf userId = b.recordsOf userId) : a.Lists userId ↔ b.Lists userId := by
  rw [lists_iff, lists_iff, same]

/-- Two sets of rows list the users of both. -/
lemma lists_append : (a ++ b).Lists userId ↔ a.Lists userId ∨ b.Lists userId := by
  change (∃ u ∈ a.users ++ b.users, _) ↔ _
  simp only [mem_append, or_and_right, exists_or]
  rfl

/-- Two closed sets of rows are closed together. -/
lemma Closed.append (ca : a.Closed) (cb : b.Closed) : (a ++ b).Closed := by
  have left : ∀ {id}, a.Lists id → (a ++ b).Lists id := fun here => lists_append.mpr (.inl here)
  have right : ∀ {id}, b.Lists id → (a ++ b).Lists id := fun here => lists_append.mpr (.inr here)
  constructor
  · intro t m
    exact (mem_append.mp m).elim (fun m => left (ca.tokens t m)) fun m => right (cb.tokens t m)
  · intro p m
    exact (mem_append.mp m).elim (fun m => left (ca.policies p m)) fun m => right (cb.policies p m)
  · intro g m
    rcases mem_append.mp m with m | m
    · obtain ⟨t, mt, same⟩ := ca.grants g m
      exact ⟨t, mem_append_left _ mt, same⟩
    · obtain ⟨t, mt, same⟩ := cb.grants g m
      exact ⟨t, mem_append_right _ mt, same⟩
  · intro p m
    exact (mem_append.mp m).elim (fun m => left (ca.dpiPolicies p m)) fun m => right (cb.dpiPolicies p m)

/-- Tokens of rows that can be stored together have ids of their own. -/
lemma Storable.token_unique (st : (a ++ b).Storable) {t t' : AccessToken} (m : t ∈ a.tokens)
    (m' : t' ∈ b.tokens) : t.id ≠ t'.id :=
  fun same => (pairwise_append.mp st.tokens).2.2 t m t' m' (.inl same)

/-- Rows that can be stored together hold of a user what each does. -/
lemma recordsOf_append (ca : a.Closed) (cb : b.Closed) (st : (a ++ b).Storable) :
    (a ++ b).recordsOf userId = a.recordsOf userId ∪ b.recordsOf userId := by
  have both : ∀ {V : Type} (xs ys : List V) (owner : V → Nat),
      {x | x ∈ xs ++ ys ∧ owner x = userId} = {x | x ∈ xs ∧ owner x = userId} ∪ {x | x ∈ ys ∧ owner x = userId} := by
    intro V xs ys owner
    ext x
    exact (and_congr_left' mem_append).trans or_and_right
  refine Records.ext (both a.users b.users User.id) (both a.tokens b.tokens AccessToken.userId)
    (both a.policies b.policies UserResourcePolicy.userId) (Set.ext fun g => ?_)
    (both a.dpiPolicies b.dpiPolicies DpiPolicy.userId)
  constructor
  · rintro ⟨mg, t, mt, same, mine⟩
    -- a grant stands on the side of its token
    rcases mem_append.mp mg with mg | mg <;> obtain ⟨t₀, m₀, same₀⟩ := Closed.grants ‹_› g mg <;>
      rcases mem_append.mp mt with mt | mt
    · exact .inl ⟨mg, t, mt, same, mine⟩
    · exact absurd (same₀.trans same.symm) (st.token_unique m₀ mt)
    · exact absurd (same.trans same₀.symm) (st.token_unique mt m₀)
    · exact .inr ⟨mg, t, mt, same, mine⟩
  · rintro (⟨mg, t, mt, rest⟩ | ⟨mg, t, mt, rest⟩)
    · exact ⟨mem_append_left _ mg, t, mem_append_left _ mt, rest⟩
    · exact ⟨mem_append_right _ mg, t, mem_append_right _ mt, rest⟩

/-- Closed rows hold nothing of a user whom they do not hold. -/
lemma recordsOf_of_not_lists (closed : r.Closed) (no : ¬ r.Lists userId) : r.recordsOf userId = ∅ := by
  refine Records.ext (Set.eq_empty_iff_forall_notMem.mpr ?_) (Set.eq_empty_iff_forall_notMem.mpr ?_)
    (Set.eq_empty_iff_forall_notMem.mpr ?_) (Set.eq_empty_iff_forall_notMem.mpr ?_)
    (Set.eq_empty_iff_forall_notMem.mpr ?_)
  · exact fun u here => no ⟨u, here⟩
  · rintro t ⟨m, rfl⟩
    exact no (closed.tokens t m)
  · rintro p ⟨m, rfl⟩
    exact no (closed.policies p m)
  · rintro _ ⟨_, t, m, _, rfl⟩
    exact no (closed.tokens t m)
  · rintro p ⟨m, rfl⟩
    exact no (closed.dpiPolicies p m)

lemma mem_drop {V : Type} {xs : List V} {owner : V → Nat} {x : V} :
    (x ∈ xs.filter fun x => !ids.contains (owner x)) ↔ x ∈ xs ∧ owner x ∉ ids := by
  rw [mem_filter, Bool.not_eq_true', ← Bool.not_eq_true, contains_iff_mem]

/-- Dropped users are not listed. -/
lemma lists_drop : (r.drop ids).Lists userId ↔ r.Lists userId ∧ userId ∉ ids := by
  constructor
  · rintro ⟨u, m, rfl⟩
    obtain ⟨m, kept⟩ := mem_drop.mp m
    exact ⟨⟨u, m, rfl⟩, kept⟩
  · rintro ⟨⟨u, m, rfl⟩, kept⟩
    exact ⟨u, mem_drop.mpr ⟨m, kept⟩, rfl⟩

/-- A grant is dropped with its token. -/
lemma mem_drop_grants {g : PortGrant} : g ∈ (r.drop ids).grants ↔
    g ∈ r.grants ∧ ∀ t ∈ r.tokens, t.id = g.tokenId → t.userId ∉ ids := by
  change g ∈ r.grants.filter _ ↔ _
  rw [mem_filter, Bool.not_eq_true', any_eq_false]
  simp only [Bool.and_eq_true, decide_eq_true_eq, contains_iff_mem, not_and]

lemma Closed.drop (closed : r.Closed) : (r.drop ids).Closed := by
  constructor
  · intro t m
    obtain ⟨m, kept⟩ := mem_drop.mp m
    exact lists_drop.mpr ⟨closed.tokens t m, kept⟩
  · intro p m
    obtain ⟨m, kept⟩ := mem_drop.mp m
    exact lists_drop.mpr ⟨closed.policies p m, kept⟩
  · intro g m
    obtain ⟨m, kept⟩ := mem_drop_grants.mp m
    obtain ⟨t, mt, same⟩ := closed.grants g m
    exact ⟨t, mem_drop.mpr ⟨mt, kept t mt same⟩, same⟩
  · intro p m
    obtain ⟨m, kept⟩ := mem_drop.mp m
    exact lists_drop.mpr ⟨closed.dpiPolicies p m, kept⟩

/-- The other users keep their rows. -/
lemma recordsOf_drop (st : r.Storable) (out : userId ∉ ids) : (r.drop ids).recordsOf userId = r.recordsOf userId := by
  have keep : ∀ {V : Type} {xs : List V} {owner : V → Nat} (x : V),
      (x ∈ xs.filter fun x => !ids.contains (owner x)) ∧ owner x = userId ↔ x ∈ xs ∧ owner x = userId := by
    intro V xs owner x
    rw [mem_drop]
    refine and_congr_left fun mine => and_iff_left ?_
    rw [mine]
    exact out
  refine Records.ext (Set.ext fun x => keep x) (Set.ext fun t => keep t) (Set.ext fun p => keep p)
    (Set.ext fun g => ?_) (Set.ext fun p => keep p)
  constructor
  · rintro ⟨mg, t, mt, same, mine⟩
    exact ⟨(mem_drop_grants.mp mg).1, t, (mem_drop.mp mt).1, same, mine⟩
  · rintro ⟨mg, t, mt, same, mine⟩
    refine ⟨mem_drop_grants.mpr ⟨mg, fun t' mt' same' => ?_⟩, t, mem_drop.mpr ⟨mt, mine ▸ out⟩, same, mine⟩
    -- the token under the grant's id is the user's
    have one : t' = t := by
      have stored : ∀ {x}, x ∈ r.tokens → x ∈ (⟨r.tokens, st.tokens⟩ : Table AccessToken) := fun m => m
      exact Table.eq_of_clash (stored mt') (stored mt) (.inl (same'.trans same.symm))
    rw [one, mine]
    exact out

end CacheRows

namespace Sync

/-! ## Pages -/

/-- A page: its rows belong to the users it lists, and it removes none of them. -/
structure IsPage (snap : IdentitySnapshot) : Prop where
  shape : snap.baseline = true ∨ snap.incremental = true
  enforced : snap.nodeAccessEnforced = true
  closed : snap.rows.Closed
  removed : ∀ id ∈ snap.removedUserIds, snap.incremental = true ∧ ¬ snap.rows.Lists id

lemma IsPage.lists {snap : IdentitySnapshot} (page : IsPage snap) {id : Nat} :
    snap.rows.Lists id ↔ id ∈ snap.users.map User.id := by
  change (∃ u ∈ snap.storedUsers, _) ↔ _
  rw [IdentitySnapshot.storedUsers, if_pos page.enforced, mem_map]

/-- A page affects the users it removes or lists. -/
lemma IsPage.affected {snap : IdentitySnapshot} (page : IsPage snap) {id : Nat} :
    id ∈ snap.affected ↔ id ∈ snap.removedUserIds ∨ snap.rows.Lists id := by
  rw [page.lists]
  exact mem_append

/-- The rows of an edge's store can be stored. -/
lemma storable_cacheRows (e : Edge.Store) : e.cacheRows.Storable :=
  ⟨e.cachedUsers.unique, e.cachedTokens.unique, e.cachedPolicies.unique, e.cachedGrants.unique,
    e.cachedDpiPolicies.unique⟩

/-- A committed page replaces what the cache holds of its users. -/
lemma apply_records {e e' : Edge.Store} {now : Time} {snap : IdentitySnapshot} (page : IsPage snap)
    (ap : e.applyIdentitySnapshot now snap = .ok e') (closed : e.cacheRows.Closed) :
    e'.cacheRows.Closed ∧
      (∀ id ∈ snap.affected, e'.cacheRows.recordsOf id = snap.rows.recordsOf id) ∧
      ∀ id, id ∉ snap.affected → e'.cacheRows.recordsOf id = e.cacheRows.recordsOf id := by
  -- the rows that stay, and what is appended to them
  have appended : ∃ kept : CacheRows, e'.cacheRows = kept ++ snap.rows ∧ kept.Closed ∧
      (∀ id ∈ snap.affected, ¬ kept.Lists id) ∧
      ∀ id, id ∉ snap.affected → kept.recordsOf id = e.cacheRows.recordsOf id := by
    cases kind : snap.incremental with
    | true =>
      obtain ⟨_, e₁, ins, rfl⟩ := Edge.Store.apply_inv ap
      refine ⟨e.cacheRows.drop snap.affected, ?_, closed.drop, fun id m here => ?_, fun id out => ?_⟩
      · have rows := ins.rows
        rw [Edge.Store.clearFor, if_pos kind] at rows
        exact rows
      · exact (lists_drop.mp here).2 m
      · exact recordsOf_drop (storable_cacheRows e) out
    | false =>
      have baseline : snap.baseline = true := page.shape.resolve_right (by rw [kind]; exact Bool.false_ne_true)
      obtain ⟨e₁, ins, rfl⟩ := Edge.Store.apply_baseline_inv baseline ap
      refine ⟨e.cacheRows, ins.rows, closed, fun id m here => ?_, fun _ _ => rfl⟩
      have listed : snap.rows.Lists id := by
        refine (page.affected.mp m).resolve_left fun gone => ?_
        cases kind.symm.trans (page.removed id gone).1
      -- a user cannot be inserted twice
      obtain ⟨u, mu, same⟩ := here
      obtain ⟨u', mu', same'⟩ := listed
      have st : (e.cacheRows ++ snap.rows).Storable := ins.rows ▸ storable_cacheRows e₁
      exact (pairwise_append.mp st.users).2.2 u mu u' mu' (same.trans same'.symm)
  obtain ⟨kept, rows, closed', gone, same⟩ := appended
  have st : (kept ++ snap.rows).Storable := rows ▸ storable_cacheRows e'
  rw [rows]
  refine ⟨closed'.append page.closed, fun id m => ?_, fun id out => ?_⟩
  · rw [recordsOf_append closed' page.closed st,
      recordsOf_of_not_lists closed' (gone id m), Records.empty_union]
  · have no : ¬ snap.rows.Lists id := fun here => out (page.affected.mpr (.inr here))
    rw [recordsOf_append closed' page.closed st,
      recordsOf_of_not_lists page.closed no, Records.union_empty]
    exact same id out

/-! ## What a node may see -/

variable {s s₁ : Db.Store} {nodeId : String} {userId : Nat}

/-- The records of a user that the node may see. -/
def visibleRecords (s : Db.Store) (nodeId : String) (userId : Nat) : Records where
  users := {u | u ∈ s.users ∧ u.id = userId ∧ s.canAccessNode userId nodeId = true}
  tokens := {t | t ∈ s.tokens ∧ t.userId = userId ∧ Sees s nodeId userId}
  policies := {p | p ∈ s.policies ∧ p.userId = userId ∧ Sees s nodeId userId}
  grants := {g | s.Owns userId g ∧ Sees s nodeId userId}
  dpiPolicies := {p | p ∈ s.dpiPolicies ∧ p.userId = userId ∧ Sees s nodeId userId}

lemma nonempty_visibleRecords : (visibleRecords s nodeId userId).users.Nonempty ↔ Sees s nodeId userId := Iff.rfl

/-- What the node may see of a user depends on the user's records. -/
lemma visibleRecords_congr (same : s.SameRecords s₁ userId) :
    visibleRecords s₁ nodeId userId = visibleRecords s nodeId userId := by
  have sees : Sees s₁ nodeId userId ↔ Sees s nodeId userId := by
    unfold Sees
    rw [same.access]
    refine exists_congr fun u => ?_
    constructor
    · rintro ⟨m, mine, access⟩
      exact ⟨(same.users u mine).mp m, mine, access⟩
    · rintro ⟨m, mine, access⟩
      exact ⟨(same.users u mine).mpr m, mine, access⟩
  refine Records.ext (Set.ext fun u => ?_) (Set.ext fun t => ?_) (Set.ext fun p => ?_) (Set.ext fun g => ?_)
    (Set.ext fun p => ?_)
  · change _ ∧ _ ∧ s₁.canAccessNode userId nodeId = true ↔ _
    rw [same.access]
    exact and_congr_left fun mine => same.users u mine.1
  · change _ ∧ _ ∧ Sees s₁ nodeId userId ↔ _
    rw [sees]
    exact and_congr_left fun mine => same.tokens t mine.1
  · change _ ∧ _ ∧ Sees s₁ nodeId userId ↔ _
    rw [sees]
    exact and_congr_left fun mine => same.policies p mine.1
  · exact and_congr (same.grants g) sees
  · change _ ∧ _ ∧ Sees s₁ nodeId userId ↔ _
    rw [sees]
    exact and_congr_left fun mine => same.dpiPolicies p mine.1

/-- The snapshot carries what the node may see of each user it lists. -/
def Shows (s : Db.Store) (nodeId : String) (snap : IdentitySnapshot) : Prop :=
  ∀ id, snap.rows.Lists id → snap.rows.recordsOf id = visibleRecords s nodeId id

/-- What a page holds, for whatever users it was asked. -/
lemma readPage_inv {after requested limit p} (read : s.readNodeIdentityPage nodeId after requested limit = some p) :
    (∀ u ∈ p.users, u ∈ s.users ∧ s.canAccessNode u.id nodeId = true) ∧
      p.tokens = s.tokensOf (p.users.map User.id) ∧ p.policies = s.policiesOf (p.users.map User.id) ∧
      p.grants = s.grantsOf (p.users.map User.id) ∧ p.dpiPolicies = s.dpiPoliciesOf (p.users.map User.id) ∧
      ∀ id ∈ p.removed, requested.isSome = true ∧ id ∉ p.users.map User.id := by
  obtain ⟨_, read⟩ := Option.ite_none_left_eq_some.mp read
  cases read
  refine ⟨fun u m => ?_, rfl, rfl, rfl, rfl, fun id m => ?_⟩
  · obtain ⟨m, access, _⟩ := mem_nodeUsers.mp (mem_of_mem_take (mem_of_mem_take m))
    exact ⟨m, access⟩
  · obtain ⟨asked, out⟩ := mem_filter.mp m
    rw [Bool.not_eq_true', ← Bool.not_eq_true, contains_iff_mem] at out
    refine ⟨?_, out⟩
    cases requested with
    | none => cases asked
    | some => rfl

/-- A page carries what the node may see of the users it lists. -/
lemma readPage_shows {after requested limit p revision baseline}
    (read : s.readNodeIdentityPage nodeId after requested limit = some p)
    (kind : requested.isNone = baseline) :
    IsPage (s.pageSnapshot baseline p revision) ∧ Shows s nodeId (s.pageSnapshot baseline p revision) := by
  obtain ⟨users, tokens, policies, grants, dpiPolicies, removed⟩ := readPage_inv read
  have rows : (s.pageSnapshot baseline p revision).rows = rowsFor s p.users := by
    change CacheRows.mk p.users p.tokens p.policies p.grants p.dpiPolicies = _
    rw [tokens, policies, grants, dpiPolicies]
    rfl
  have lists : ∀ id, (rowsFor s p.users).Lists id ↔ id ∈ p.users.map User.id := fun id => mem_map.symm
  constructor
  · refine ⟨?_, rfl, ?_, fun id m => ?_⟩
    · cases baseline with
      | true => exact .inl rfl
      | false => exact .inr rfl
    · rw [rows]
      refine ⟨fun t m => ?_, fun q m => ?_, fun g m => ?_, fun q m => ?_⟩
      · exact (lists _).mpr (mem_tokensOf.mp m).2
      · exact (lists _).mpr (mem_policiesOf.mp m).2
      · obtain ⟨_, t, mt, same, mine⟩ := mem_grantsOf.mp m
        exact ⟨t, mem_tokensOf.mpr ⟨mt, mine⟩, same⟩
      · exact (lists _).mpr (mem_dpiPoliciesOf.mp m).2
    · obtain ⟨asked, out⟩ := removed id m
      refine ⟨?_, fun here => ?_⟩
      · change (!baseline) = true
        rw [← kind, ← Option.not_isSome, asked]
        rfl
      · rw [rows] at here
        exact out ((lists id).mp here)
  · intro id here
    rw [rows] at here ⊢
    have listed := (lists id).mp here
    have sees : Sees s nodeId id := by
      obtain ⟨u, m, rfl⟩ := here
      obtain ⟨m, access⟩ := users u m
      exact ⟨u, m, rfl, access⟩
    refine Records.ext (Set.ext fun u => ?_) (Set.ext fun t => ?_) (Set.ext fun q => ?_) (Set.ext fun g => ?_)
      (Set.ext fun q => ?_)
    · constructor
      · rintro ⟨m, rfl⟩
        obtain ⟨m, access⟩ := users u m
        exact ⟨m, rfl, access⟩
      · rintro ⟨m, rfl, _⟩
        -- the listed row under the id is this one
        obtain ⟨u', m', same⟩ := here
        cases Table.eq_of_clash (users u' m').1 m same
        exact ⟨m', rfl⟩
    · constructor
      · rintro ⟨m, mine⟩
        exact ⟨(mem_tokensOf.mp m).1, mine, sees⟩
      · rintro ⟨m, mine, _⟩
        exact ⟨mem_tokensOf.mpr ⟨m, mine ▸ listed⟩, mine⟩
    · constructor
      · rintro ⟨m, mine⟩
        exact ⟨(mem_policiesOf.mp m).1, mine, sees⟩
      · rintro ⟨m, mine, _⟩
        exact ⟨mem_policiesOf.mpr ⟨m, mine ▸ listed⟩, mine⟩
    · constructor
      · rintro ⟨m, t, mt, same, mine⟩
        exact ⟨⟨(mem_grantsOf.mp m).1, t, (mem_tokensOf.mp mt).1, same, mine⟩, sees⟩
      · rintro ⟨⟨m, t, mt, same, mine⟩, _⟩
        exact ⟨mem_grantsOf.mpr ⟨m, t, mt, same, mine ▸ listed⟩, t,
          mem_tokensOf.mpr ⟨mt, mine ▸ listed⟩, same, mine⟩
    · constructor
      · rintro ⟨m, mine⟩
        exact ⟨(mem_dpiPoliciesOf.mp m).1, mine, sees⟩
      · rintro ⟨m, mine, _⟩
        exact ⟨mem_dpiPoliciesOf.mpr ⟨m, mine ▸ listed⟩, mine⟩

end Sync

end MeowFrp
