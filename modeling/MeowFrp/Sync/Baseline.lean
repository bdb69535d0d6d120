import MeowFrp.Db.Page
import MeowFrp.Edge.Reconnect

/-!
# The paged baseline against the full snapshot

Reading the identity pages of an unchanged database to the end and applying them to a just-reset edge
leaves the same cache as applying the one full snapshot. The argument has three parts: the keyset loop
ends and its pages partition the authorised users (`readBaseline_spec`), the rows of different users
never clash (`pairwise_owned`), so both transfers commit (`apply_baseline_exists`, `apply_full_exists`),
and page by page the same rows arrive (`mem_pages`).
-/

namespace MeowFrp.Sync

open Lib Db Table List Store Edge.Store

variable {s : Db.Store} {nodeId : String}

/-! ## Reading the pages -/

/-- The other rows of a page are those of its users. -/
structure PageOf (s : Db.Store) (p : NodeIdentityPage) : Prop where
  tokens : p.tokens = s.tokensOf (p.users.map User.id)
  policies : p.policies = s.policiesOf (p.users.map User.id)
  grants : p.grants = s.grantsOf (p.users.map User.id)
  dpiPolicies : p.dpiPolicies = s.dpiPoliciesOf (p.users.map User.id)
  removed : p.removed = []

/-- A baseline page takes the first rows, and ends the read when there are no more. -/
lemma readPage_spec (s : Db.Store) (nodeId : String) {after limit} (pos : 1 ≤ limit) :
    ∃ p, s.readNodeIdentityPage nodeId after none limit = some p ∧ PageOf s p ∧
      p.users = (s.nodeUsers nodeId after none).take limit ∧
      (p.isEnd = true ↔ (s.nodeUsers nodeId after none).length ≤ limit) ∧
      p.lastId = Keyset.lastKey User.id after p.users := by
  have valid : (limit < 1 || Option.any (fun r : List Nat => limit < r.length || after ≠ 0) none)
      = false := by simp; omega
  have users : ((s.nodeUsers nodeId after none).take (limit + 1)).take limit =
      (s.nodeUsers nodeId after none).take limit := by
    rw [take_take, Nat.min_eq_left (Nat.le_succ limit)]
  unfold Store.readNodeIdentityPage
  rw [valid, if_neg Bool.false_ne_true]
  refine ⟨_, rfl, ⟨rfl, rfl, rfl, rfl, rfl⟩, users, ?_, rfl⟩
  rw [decide_eq_true_eq, length_take]
  omega

/-- The pages of a baseline: inner ones, then the one that ends it. -/
structure IsBaseline (s : Db.Store) (pages : List NodeIdentityPage) : Prop where
  pageOf : ∀ p ∈ pages, PageOf s p
  shape : ∃ inner last, pages = inner ++ [last] ∧ (∀ p ∈ inner, p.isEnd = false) ∧
    last.isEnd = true

/-- The read ends, and its pages partition the users. -/
lemma readBaseline_spec {limit} (pos : 1 ≤ limit) {fuel after}
    (enough : (s.nodeUsers nodeId after none).length < fuel) :
    ∃ pages, s.readBaseline nodeId limit fuel after = some pages ∧ IsBaseline s pages ∧
      pages.flatMap (·.users) = s.nodeUsers nodeId after none := by
  induction fuel generalizing after with
  | zero => exact absurd enough (Nat.not_lt_zero _)
  | succ fuel ih =>
    obtain ⟨p, read, pageOf, users, isEnd, lastId⟩ := readPage_spec s nodeId pos
    cases fin : p.isEnd with
    | true =>
      refine ⟨[p], readBaseline_end read fin, ⟨?_, [], p, rfl, nofun, fin⟩, ?_⟩
      · intro q m
        cases mem_singleton.mp m
        exact pageOf
      · rw [flatMap_singleton, users, take_of_length_le (isEnd.mp fin)]
    | false =>
      have more : limit < (s.nodeUsers nodeId after none).length := by
        by_contra le
        rw [isEnd.mpr (Nat.le_of_not_lt le)] at fin
        cases fin
      -- the cursor returned by a full page continues exactly where the page stopped
      have next : s.nodeUsers nodeId p.lastId none = (s.nodeUsers nodeId after none).drop limit := by
        rw [lastId, users]
        exact keyset_nodeUsers.rest_lastKey pos more
      have enough' : (s.nodeUsers nodeId p.lastId none).length < fuel := by
        rw [next, length_drop]
        omega
      obtain ⟨pages, e, base, flat⟩ := ih enough'
      obtain ⟨inner, last, shape, notEnd, ended⟩ := base.shape
      refine ⟨p :: pages, ?_, ⟨?_, p :: inner, last, ?_, ?_, ended⟩, ?_⟩
      · rw [readBaseline_more read fin, e]
        rfl
      · intro q m
        rcases mem_cons.mp m with rfl | m
        · exact pageOf
        · exact base.pageOf q m
      · rw [shape, cons_append]
      · intro q m
        rcases mem_cons.mp m with rfl | m
        · exact fin
        · exact notEnd q m
      · rw [flatMap_cons, flat, next, users, take_append_drop]

/-- More fuel does not change a finished read. -/
lemma readBaseline_mono {limit fuel fuel' after pages} (le : fuel ≤ fuel')
    (read : s.readBaseline nodeId limit fuel after = some pages) :
    s.readBaseline nodeId limit fuel' after = some pages := by
  induction fuel generalizing fuel' after pages with
  | zero => cases read
  | succ _ ih =>
    obtain ⟨more, rfl⟩ : ∃ more, fuel' = more + 1 := ⟨fuel' - 1, by omega⟩
    cases page : s.readNodeIdentityPage nodeId after none limit with
    | none => simp [Store.readBaseline, page] at read
    | some p =>
      cases fin : p.isEnd with
      | true =>
        rw [readBaseline_end page fin] at read ⊢
        exact read
      | false =>
        rw [readBaseline_more page fin, Option.map_eq_some_iff] at read
        obtain ⟨_, e, rfl⟩ := read
        rw [readBaseline_more page fin, ih (Nat.le_of_succ_le_succ le) e]
        rfl

/-! ## Rows of different users never clash -/

/-- Rows picked for disjoint groups of owners can be stored together. -/
lemma pairwise_owned {V : Type} [Schema V] (t : Table V) (owner : V → Option Nat)
    {rows : List Nat → List V}
    (mem : ∀ ids v, v ∈ rows ids ↔ v ∈ t ∧ ∃ id ∈ ids, owner v = some id)
    (apart : ∀ ids, (rows ids).Pairwise fun a b => ¬ Schema.clash a b)
    {groups : List (List Nat)} (disjoint : groups.flatten.Nodup) :
    (groups.flatMap rows).Pairwise fun a b => ¬ Schema.clash a b := by
  induction groups with
  | nil => exact List.Pairwise.nil
  | cons ids _ ih =>
    rw [flatten_cons, nodup_append] at disjoint
    obtain ⟨_, nodup, sep⟩ := disjoint
    rw [flatMap_cons, pairwise_append]
    refine ⟨apart ids, ih nodup, ?_⟩
    intro a ma b mb c
    obtain ⟨ta, i, mi, oi⟩ := (mem ids a).mp ma
    obtain ⟨ids', mids, mb⟩ := mem_flatMap.mp mb
    obtain ⟨tb, _, mj, oj⟩ := (mem ids' b).mp mb
    have ab := eq_of_clash ta tb c
    rw [ab, oj] at oi
    cases oi
    exact sep i mi i (mem_flatten.mpr ⟨ids', mids, mj⟩) rfl

/-- The user whose token a grant belongs to. -/
def grantOwner (s : Db.Store) (g : PortGrant) : Option Nat :=
  (s.tokens.find? (·.id = g.tokenId)).map (·.userId)

lemma mem_grantsOf_owner {ids g} : g ∈ s.grantsOf ids ↔
    g ∈ s.grants ∧ ∃ id ∈ ids, grantOwner s g = some id := by
  rw [mem_grantsOf]
  refine and_congr_right fun _ => ?_
  have key : ∀ t, s.tokens.find? (·.id = g.tokenId) = some t ↔ t ∈ s.tokens ∧ t.id = g.tokenId := by
    intro t
    rw [find?_eq_some]
    · simp
    · intro a b ea eb
      exact .inl ((of_decide_eq_true ea).trans (of_decide_eq_true eb).symm)
  constructor
  · rintro ⟨t, mt, et, mem⟩
    refine ⟨t.userId, mem, ?_⟩
    rw [grantOwner, (key t).mpr ⟨mt, et⟩]
    rfl
  · rintro ⟨_, mem, own⟩
    obtain ⟨t, e, rfl⟩ := Option.map_eq_some_iff.mp own
    obtain ⟨mt, et⟩ := (key t).mp e
    exact ⟨t, mt, et, mem⟩

/-- The rows of a group of users. -/
def rowsFor (s : Db.Store) (users : List User) : CacheRows :=
  let ids := users.map User.id
  ⟨users, s.tokensOf ids, s.policiesOf ids, s.grantsOf ids, s.dpiPoliciesOf ids⟩

/-- The rows of several groups of users, in order. -/
def rowsForAll (s : Db.Store) (groups : List (List User)) : CacheRows :=
  let ids := groups.map (·.map User.id)
  ⟨groups.flatten, ids.flatMap s.tokensOf, ids.flatMap s.policiesOf, ids.flatMap s.grantsOf,
    ids.flatMap s.dpiPoliciesOf⟩

lemma rowsForAll_cons {users groups} :
    rowsForAll s (users :: groups) = rowsFor s users ++ rowsForAll s groups := rfl

/-- The rows of disjoint groups of users can be stored together. -/
lemma storable_groups {groups : List (List User)} (asc : Keyset.Ascending User.id groups.flatten) :
    (rowsForAll s groups).Storable := by
  have disjoint : (groups.map (·.map User.id)).flatten.Nodup := by
    rw [← map_flatten]
    refine List.Pairwise.map _ (fun a b lt => ?_) asc
    exact Nat.ne_of_lt lt
  refine ⟨asc.imp fun lt => Nat.ne_of_lt lt, ?_, ?_, ?_, ?_⟩
  · refine pairwise_owned s.tokens (fun t => some t.userId) ?_ ?_ disjoint
    · intro ids t
      rw [mem_tokensOf]
      simp
    · exact fun ids => pairwise_orderBy (s.tokens.unique.filter _)
  · refine pairwise_owned s.policies (fun p => some p.userId) ?_ ?_ disjoint
    · intro ids p
      rw [mem_policiesOf]
      simp
    · exact fun ids => pairwise_orderBy (s.policies.unique.filter _)
  · refine pairwise_owned s.grants (grantOwner s) (fun _ _ => mem_grantsOf_owner) ?_ disjoint
    exact fun ids => pairwise_orderBy (s.grants.unique.filter _)
  · refine pairwise_owned s.dpiPolicies (fun p => some p.userId) ?_ ?_ disjoint
    · intro ids p
      rw [mem_dpiPoliciesOf]
      simp
    · exact fun ids => pairwise_orderBy (s.dpiPolicies.unique.filter _)

/-! ## Both transfers commit -/

/-- The snapshots of the pages, with their instants and revisions. -/
def pageStream (s : Db.Store) (pages : List NodeIdentityPage) (stamps : List (Time × Nat)) :
    List (Time × IdentitySnapshot) :=
  List.zipWith (fun p stamp => (stamp.1, s.pageSnapshot true p stamp.2)) pages stamps

lemma PageOf.rows {p} (pageOf : PageOf s p) (revision : Nat) :
    (s.pageSnapshot true p revision).rows = rowsFor s p.users := by
  change CacheRows.mk p.users p.tokens p.policies p.grants p.dpiPolicies = _
  rw [pageOf.tokens, pageOf.policies, pageOf.grants, pageOf.dpiPolicies]
  rfl

/-- The revisions of a transfer rise, above the one the edge has. -/
structure Rising (last : Option Nat) (stamps : List (Time × Nat)) : Prop where
  pos : ∀ p ∈ stamps, 0 < p.2
  rising : stamps.Pairwise fun a b => a.2 < b.2
  newer : ∀ r, last = some r → ∀ p ∈ stamps, r < p.2

lemma Rising.tail {last stamp stamps} (r : Rising last (stamp :: stamps)) :
    Rising (some stamp.2) stamps := by
  refine ⟨fun p m => r.pos p (mem_cons_of_mem _ m), r.rising.of_cons, ?_⟩
  intro q e p m
  cases e
  exact rel_of_pairwise_cons r.rising m

/-- One page of an unclashing baseline commits. -/
lemma PageOf.commits {e : Edge.Store} {p} (pageOf : PageOf s p) {stamp : Time × Nat}
    (pend : e.identityResetPending = true) (pos : 0 < stamp.2)
    (newer : ∀ r, e.lastRevision = some r → r < stamp.2)
    (st : (e.cacheRows ++ rowsFor s p.users).Storable) :
    ∃ s₁ : Edge.Store, s₁.cacheRows = e.cacheRows ++ rowsFor s p.users ∧
      s₁.identityResetPending = true ∧
      e.applyIdentitySnapshot stamp.1 (s.pageSnapshot true p stamp.2) =
        .ok (s₁.finishSnapshot stamp.1 (s.pageSnapshot true p stamp.2)) := by
  rw [← pageOf.rows stamp.2] at st ⊢
  obtain ⟨s₁, ins, ap⟩ := apply_baseline_exists rfl rfl pend pos newer st
  refine ⟨s₁, ins.rows, ?_, ap⟩
  rw [ins.rest]
  exact pend

/-- A paged baseline commits page by page, and replaces what was there. -/
lemma pages_commit {e : Edge.Store} {inner : List NodeIdentityPage} {last : NodeIdentityPage}
    {stamps : List (Time × Nat)}
    (pageOf : ∀ p ∈ inner ++ [last], PageOf s p)
    (notEnd : ∀ p ∈ inner, p.isEnd = false) (ended : last.isEnd = true)
    (len : stamps.length = (inner ++ [last]).length) (rev : Rising e.lastRevision stamps)
    (pend : e.identityResetPending = true)
    (st : (e.cacheRows ++ rowsForAll s ((inner ++ [last]).map (·.users))).Storable) :
    ∃ e', e.applyPages (pageStream s (inner ++ [last]) stamps) = .ok e' ∧
      e'.cacheRows = e.cacheRows ++ rowsForAll s ((inner ++ [last]).map (·.users)) ∧
      e'.controllerBlockedIps =
        (s.blockedIps.rows.foldl Table.put ∅).delete fun b => [].contains b.ip := by
  induction inner generalizing e stamps with
  | nil =>
    obtain ⟨stamp, rfl⟩ := length_eq_one_iff.mp len
    have pageOf' := pageOf last mem_cons_self
    change (e.cacheRows ++ (rowsFor s last.users ++ ∅)).Storable at st
    rw [CacheRows.append_empty] at st
    obtain ⟨s₁, rows, _, ap⟩ := pageOf'.commits pend (rev.pos _ mem_cons_self)
      (fun r h => rev.newer r h _ mem_cons_self) st
    have completes : (s.pageSnapshot true last stamp.2).completes = true := by
      simp [IdentitySnapshot.completes, IdentitySnapshot.ends, Store.pageSnapshot, ended]
    refine ⟨s₁.finishSnapshot stamp.1 (s.pageSnapshot true last stamp.2), ?_, ?_, ?_⟩
    · exact applyPages_cons.mpr ⟨_, ap, rfl⟩
    · change s₁.cacheRows = e.cacheRows ++ (rowsFor s last.users ++ ∅)
      rw [rows, CacheRows.append_empty]
    · change s₁.blockedAfter _ = _
      rw [blockedAfter_completes completes]
      simp [Store.pageSnapshot, ended, pageOf'.removed]
  | cons p inner ih =>
    obtain ⟨stamp, _, rfl⟩ := exists_cons_of_length_eq_add_one len
    have pageOf' := pageOf p mem_cons_self
    rw [cons_append, map_cons, rowsForAll_cons, ← CacheRows.append_assoc] at st
    obtain ⟨s₁, rows, pend₁, ap⟩ := pageOf'.commits pend (rev.pos _ mem_cons_self)
      (fun r h => rev.newer r h _ mem_cons_self) st.left
    have completes : (s.pageSnapshot true p stamp.2).completes = false := by
      simp [IdentitySnapshot.completes, IdentitySnapshot.ends, Store.pageSnapshot,
        notEnd p mem_cons_self]
    -- an inner page leaves the reset pending, so the next one is accepted too
    have pend₂ : (s₁.finishSnapshot stamp.1 (s.pageSnapshot true p stamp.2)).identityResetPending
        = true := by
      simp [Edge.Store.finishSnapshot, completes, pend₁]
    have st₂ : ((s₁.finishSnapshot stamp.1 (s.pageSnapshot true p stamp.2)).cacheRows ++
        rowsForAll s ((inner ++ [last]).map (·.users))).Storable := by
      change (s₁.cacheRows ++ _).Storable
      rw [rows]
      exact st
    obtain ⟨e', ap', rows', blocked⟩ := ih (fun q m => pageOf q (mem_cons_of_mem _ m))
      (fun q m => notEnd q (mem_cons_of_mem _ m)) (Nat.succ.inj len) rev.tail pend₂ st₂
    refine ⟨e', ?_, ?_, blocked⟩
    · exact applyPages_cons.mpr ⟨_, ap, ap'⟩
    · rw [rows']
      change s₁.cacheRows ++ _ = _
      rw [rows, cons_append, map_cons, rowsForAll_cons, CacheRows.append_assoc]

/-! ## Both transfers bring what the node may see -/

/-- The user exists and may access the node. -/
def Sees (s : Db.Store) (nodeId : String) (id : Nat) : Prop :=
  ∃ u ∈ s.users, u.id = id ∧ s.canAccessNode id nodeId = true

/-- The rows are exactly the controller's records visible to the node. -/
structure Visible (s : Db.Store) (nodeId : String) (r : CacheRows) : Prop where
  users : ∀ u, u ∈ r.users ↔ u ∈ s.users ∧ s.canAccessNode u.id nodeId = true
  tokens : ∀ t, t ∈ r.tokens ↔ t ∈ s.tokens ∧ Sees s nodeId t.userId
  policies : ∀ p, p ∈ r.policies ↔ p ∈ s.policies ∧ Sees s nodeId p.userId
  grants : ∀ g, g ∈ r.grants ↔
    g ∈ s.grants ∧ ∃ t ∈ s.tokens, t.id = g.tokenId ∧ Sees s nodeId t.userId
  dpiPolicies : ∀ p, p ∈ r.dpiPolicies ↔ p ∈ s.dpiPolicies ∧ Sees s nodeId p.userId

/-- The ids of the node's users are the ones it sees. -/
lemma mem_ids_iff {users : List User}
    (mem : ∀ u, u ∈ users ↔ u ∈ s.users ∧ s.canAccessNode u.id nodeId = true) {id} :
    id ∈ users.map User.id ↔ Sees s nodeId id := by
  rw [mem_map]
  constructor
  · rintro ⟨u, mu, rfl⟩
    obtain ⟨mu, acc⟩ := (mem u).mp mu
    exact ⟨u, mu, rfl, acc⟩
  · rintro ⟨u, mu, rfl, acc⟩
    exact ⟨u, (mem u).mpr ⟨mu, acc⟩, rfl⟩

lemma mem_nodeUsers_all {u} : u ∈ s.nodeUsers nodeId 0 none ↔
    u ∈ s.users ∧ s.canAccessNode u.id nodeId = true := by
  rw [mem_nodeUsers]
  constructor
  · rintro ⟨mu, acc, _⟩
    exact ⟨mu, acc⟩
  · rintro ⟨mu, acc⟩
    exact ⟨mu, acc, u.id_pos, nofun⟩

/-- Groups that partition the node's users bring what the node may see. -/
lemma visible_groups {groups : List (List User)}
    (flat : groups.flatten = s.nodeUsers nodeId 0 none) : Visible s nodeId (rowsForAll s groups) := by
  have users : ∀ u, u ∈ groups.flatten ↔ u ∈ s.users ∧ s.canAccessNode u.id nodeId = true := by
    intro u
    rw [flat]
    exact mem_nodeUsers_all
  have owned : ∀ id, (∃ ids ∈ groups.map (·.map User.id), id ∈ ids) ↔ Sees s nodeId id := by
    intro id
    rw [← mem_flatten, ← map_flatten]
    exact mem_ids_iff users
  refine ⟨users, ?_, ?_, ?_, ?_⟩
  · intro t
    simp only [rowsForAll, mem_flatMap, mem_tokensOf, ← owned]
    tauto
  · intro p
    simp only [rowsForAll, mem_flatMap, mem_policiesOf, ← owned]
    tauto
  · intro g
    simp only [rowsForAll, mem_flatMap, mem_grantsOf, ← owned]
    constructor
    · rintro ⟨ids, mids, mg, t, mt, et, mem⟩
      exact ⟨mg, t, mt, et, ids, mids, mem⟩
    · rintro ⟨mg, t, mt, et, ids, mids, mem⟩
      exact ⟨ids, mids, mg, t, mt, et, mem⟩
  · intro p
    simp only [rowsForAll, mem_flatMap, mem_dpiPoliciesOf, ← owned]
    tauto

/-- The full snapshot brings what the node may see. -/
lemma visible_full {revision} :
    Visible s nodeId (s.identitySnapshotForUsers nodeId none revision).rows := by
  have users : ∀ u, u ∈ (s.identitySnapshotForUsers nodeId none revision).users ↔
      u ∈ s.users ∧ s.canAccessNode u.id nodeId = true := by
    intro u
    simp only [Store.identitySnapshotForUsers, mem_reverse, mem_orderBy, mem_filter,
      Option.all_none, Bool.true_and, mem_rows]
  have kept : ∀ id, ((s.identitySnapshotForUsers nodeId none revision).users.map User.id).contains id
      = true ↔ Sees s nodeId id := by
    intro id
    rw [contains_iff_mem]
    exact mem_ids_iff users
  have tokens : ∀ t, t ∈ (s.identitySnapshotForUsers nodeId none revision).tokens ↔
      t ∈ s.tokens ∧ Sees s nodeId t.userId := by
    intro t
    rw [← kept]
    simp only [Store.identitySnapshotForUsers, mem_reverse, mem_orderBy, mem_filter,
      mem_rows]
  refine ⟨users, tokens, ?_, ?_, ?_⟩
  · intro p
    rw [← kept]
    simp only [IdentitySnapshot.rows, Store.identitySnapshotForUsers, mem_reverse, mem_orderBy,
      mem_filter, mem_rows]
  · intro g
    have mem : g ∈ (s.identitySnapshotForUsers nodeId none revision).rows.grants ↔ g ∈ s.grants ∧
        ∃ t ∈ (s.identitySnapshotForUsers nodeId none revision).tokens, t.id = g.tokenId := by
      change g ∈ (orderBy PortGrant.id s.grants.rows).filter _ ↔ _
      rw [mem_filter, mem_orderBy, contains_iff_mem, mem_map, mem_rows]
      rfl
    rw [mem]
    simp only [tokens]
    constructor
    · rintro ⟨mg, t, ⟨mt, sees⟩, et⟩
      exact ⟨mg, t, mt, et, sees⟩
    · rintro ⟨mg, t, mt, et, sees⟩
      exact ⟨mg, t, ⟨mt, sees⟩, et⟩
  · intro p
    rw [← kept]
    simp only [IdentitySnapshot.rows, Store.identitySnapshotForUsers, mem_reverse, mem_orderBy,
      mem_filter, mem_rows]

/-- The rows of the full snapshot come from tables and do not clash. -/
lemma storable_full {revision} :
    (s.identitySnapshotForUsers nodeId none revision).rows.Storable := by
  have back : ∀ {V : Type} [Schema V] {rows : List V},
      rows.Pairwise (fun a b => ¬ Schema.clash a b) →
        rows.reverse.Pairwise fun a b => ¬ Schema.clash a b := by
    intro V _ rows h
    rw [pairwise_reverse]
    exact h.imp fun no c => no (Schema.symm c)
  refine ⟨?_, ?_, ?_, ?_, ?_⟩
  · exact back (pairwise_orderBy (s.users.unique.filter _))
  · exact (back (pairwise_orderBy s.tokens.unique)).filter _
  · exact (back (pairwise_orderBy s.policies.unique)).filter _
  · exact (pairwise_orderBy s.grants.unique).filter _
  · exact (back (pairwise_orderBy s.dpiPolicies.unique)).filter _

/-- The caches and the controller's blocked addresses hold the same rows. -/
structure SameCache (a b : Edge.Store) : Prop where
  users : ∀ u, u ∈ a.cachedUsers ↔ u ∈ b.cachedUsers
  tokens : ∀ t, t ∈ a.cachedTokens ↔ t ∈ b.cachedTokens
  policies : ∀ p, p ∈ a.cachedPolicies ↔ p ∈ b.cachedPolicies
  grants : ∀ g, g ∈ a.cachedGrants ↔ g ∈ b.cachedGrants
  dpiPolicies : ∀ p, p ∈ a.cachedDpiPolicies ↔ p ∈ b.cachedDpiPolicies
  blockedIps : ∀ b', b' ∈ a.controllerBlockedIps ↔ b' ∈ b.controllerBlockedIps

/-- Two stores that hold the visible records hold the same ones. -/
lemma Visible.same {a b : Edge.Store} (va : Visible s nodeId a.cacheRows)
    (vb : Visible s nodeId b.cacheRows) (blocked : a.controllerBlockedIps = b.controllerBlockedIps) :
    SameCache a b :=
  ⟨fun u => (va.users u).trans (vb.users u).symm, fun t => (va.tokens t).trans (vb.tokens t).symm,
    fun p => (va.policies p).trans (vb.policies p).symm,
    fun g => (va.grants g).trans (vb.grants g).symm,
    fun p => (va.dpiPolicies p).trans (vb.dpiPolicies p).symm, fun _ => by rw [blocked]⟩

/-- Reading the pages of an unchanged database ends and covers each authorised user once; applying
them to a just-reset edge leaves the cache that the full snapshot leaves. -/
theorem paged_baseline_eq_full_snapshot (s : Db.Store) (nodeId : String) {limit : Nat}
    (pos : 1 ≤ limit) :
    ∃ pages : List NodeIdentityPage,
      (∃ enough, ∀ fuel, enough ≤ fuel → s.readBaseline nodeId limit fuel 0 = some pages) ∧
      ((pages.flatMap (·.users)).map User.id).Nodup ∧
      (∀ u, u ∈ pages.flatMap (·.users) ↔ u ∈ s.users ∧ s.canAccessNode u.id nodeId = true) ∧
      ∀ (e : Edge.Store) (boot : Bool) (stamps : List (Time × Nat)) (now : Time) (fullRevision : Nat),
        stamps.length = pages.length → Rising none stamps → 0 < fullRevision →
        ∃ e₁ e₂, (e.resetIdentityCache boot).applyPages (pageStream s pages stamps) = .ok e₁ ∧
          (e.resetIdentityCache boot).applyIdentitySnapshot now
            (s.identitySnapshotForUsers nodeId none fullRevision) = .ok e₂ ∧
          SameCache e₁ e₂ := by
  obtain ⟨pages, read, base, flat⟩ := readBaseline_spec pos (Nat.lt_succ_self
    (s.nodeUsers nodeId 0 none).length)
  have groups : (pages.map (·.users)).flatten = s.nodeUsers nodeId 0 none := by
    rw [← flat, flatMap_def]
  refine ⟨pages, ⟨_, fun fuel le => readBaseline_mono le read⟩, ?_, ?_, ?_⟩
  · rw [flat]
    refine List.Pairwise.map _ (fun a b lt => ?_) ascending_nodeUsers
    exact Nat.ne_of_lt lt
  · intro u
    rw [flat]
    exact mem_nodeUsers_all
  · intro e boot stamps now fullRevision len rev full
    obtain ⟨inner, last, shape, notEnd, ended⟩ := base.shape
    subst shape
    have st : ((e.resetIdentityCache boot).cacheRows ++
        rowsForAll s ((inner ++ [last]).map (·.users))).Storable := by
      change (∅ ++ _ : CacheRows).Storable
      rw [CacheRows.empty_append]
      apply storable_groups
      rw [groups]
      exact ascending_nodeUsers
    obtain ⟨e₁, ap₁, rows₁, blocked₁⟩ :=
      pages_commit base.pageOf notEnd ended len rev rfl st
    obtain ⟨s₂, rows₂, ap₂⟩ : ∃ s₂ : Edge.Store,
        s₂.cacheRows = (s.identitySnapshotForUsers nodeId none fullRevision).rows ∧
        (e.resetIdentityCache boot).applyIdentitySnapshot now
          (s.identitySnapshotForUsers nodeId none fullRevision) =
          .ok (s₂.finishSnapshot now (s.identitySnapshotForUsers nodeId none fullRevision)) :=
      apply_full_exists rfl rfl full storable_full
    have visible₁ : Visible s nodeId e₁.cacheRows := by
      rw [rows₁]
      exact visible_groups groups
    have visible₂ : Visible s nodeId s₂.cacheRows := by
      rw [rows₂]
      exact visible_full
    refine ⟨e₁, _, ap₁, ap₂, visible₁.same visible₂ ?_⟩
    rw [blocked₁]
    change _ = s₂.blockedAfter _
    rw [blockedAfter_completes rfl]
    rfl

/-- Two users of an edge, one of them with a token. -/
def twoUsers : Db.Store :=
  { users := ⟨[{ id := 1, username := "amy", role := .user, status := .active, id_pos := Nat.one_pos },
               { id := 2, username := "bob", role := .user, status := .banned, id_pos := Nat.two_pos }], by decide⟩
    tokens := ⟨[{ id := 7, userId := 2, name := "t", tokenHash := "h7", status := .active,
                  maxProxyCount := 1 }], by decide⟩
    nodeAccess := ⟨[⟨1, "edge"⟩, ⟨2, "edge"⟩], by decide⟩ }

/-- With a page limit of one, `twoUsers` is read in two pages, which an edge applies under the
revisions one and two. -/
theorem paged_baseline_of_twoUsers : ∃ pages e₁ e₂,
    twoUsers.readBaseline "edge" 1 3 0 = some pages ∧ pages.length = 2 ∧
    (Edge.Store.resetIdentityCache {} true).applyPages
      (pageStream twoUsers pages [(10, 1), (11, 2)]) = .ok e₁ ∧
    (Edge.Store.resetIdentityCache {} true).applyIdentitySnapshot 12
      (twoUsers.identitySnapshotForUsers "edge" none 3) = .ok e₂ ∧
    SameCache e₁ e₂ := by
  obtain ⟨pages, ⟨enough, read⟩, _, _, same⟩ :=
    paged_baseline_eq_full_snapshot twoUsers "edge" (Nat.le_refl 1)
  obtain ⟨ps, three, len⟩ : ∃ ps, twoUsers.readBaseline "edge" 1 3 0 = some ps ∧ ps.length = 2 :=
    ⟨_, rfl, rfl⟩
  have all := readBaseline_mono (Nat.le_max_right enough 3) three
  rw [read _ (Nat.le_max_left enough 3)] at all
  cases all
  have rising : Rising none [((10 : Time), 1), (11, 2)] := ⟨by decide, by decide, nofun⟩
  obtain ⟨e₁, e₂, ap₁, ap₂, eq⟩ := same {} true [(10, 1), (11, 2)] 12 3 len.symm rising (by decide)
  exact ⟨pages, e₁, e₂, three, len, ap₁, ap₂, eq⟩

end MeowFrp.Sync
