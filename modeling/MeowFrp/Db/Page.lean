import Mathlib.Data.List.Sort
import MeowFrp.Db.Store
import MeowFrp.Lib.Keyset

/-!
# Identity pages and the full snapshot

The two ways the controller reads the identities of a node: page by page in key order
(Go `ReadNodeIdentityPage`, `internal/db/identity_page.go`), and all at once
(Go `identitySnapshotForUsers`, `internal/cluster/server.go`); and the snapshots made of them
(Go `identityPageMessage`, `internal/cluster/identity_transfer.go`).
-/

namespace MeowFrp.Db

open Lib Table List

/-- Rows in ascending order of a numeric key (SQL `ORDER BY`). -/
def orderBy {V : Type} (key : V → Nat) (rows : List V) : List V :=
  rows.insertionSort fun a b => key a ≤ key b

@[simp]
lemma mem_orderBy {V : Type} {key : V → Nat} {rows v} : v ∈ orderBy key rows ↔ v ∈ rows :=
  (perm_insertionSort _ rows).mem_iff

/-- Sorting keeps the rows pairwise without clash. -/
lemma pairwise_orderBy {V : Type} [Schema V] {key : V → Nat} {rows : List V}
    (h : rows.Pairwise fun a b => ¬ Schema.clash a b) :
    (orderBy key rows).Pairwise fun a b => ¬ Schema.clash a b :=
  (perm_insertionSort _ rows).symm.pairwise h fun no c => no (Schema.symm c)

/-- Go `db.NodeIdentityPage`. -/
structure NodeIdentityPage where
  users : List User
  tokens : List AccessToken
  policies : List UserResourcePolicy
  grants : List PortGrant
  dpiPolicies : List DpiPolicy
  removed : List Nat
  lastId : Nat
  isEnd : Bool

namespace Store

variable (s : Store)

/-- Users that may access the node, above `after` and among the requested ones. -/
def nodeUsers (nodeId : String) (after : Nat) (requested : Option (List Nat)) : List User :=
  orderBy User.id (s.users.rows.filter fun u =>
    s.canAccessNode u.id nodeId && after < u.id && requested.all (·.contains u.id))

/-- The tokens of the users, by id. -/
def tokensOf (ids : List Nat) : List AccessToken :=
  orderBy AccessToken.id (s.tokens.rows.filter fun t => ids.contains t.userId)

/-- The resource policies of the users. -/
def policiesOf (ids : List Nat) : List UserResourcePolicy :=
  orderBy UserResourcePolicy.userId (s.policies.rows.filter fun p => ids.contains p.userId)

/-- The grants of the users' tokens, by id. -/
def grantsOf (ids : List Nat) : List PortGrant :=
  orderBy PortGrant.id (s.grants.rows.filter fun g =>
    s.tokens.any fun t => t.id = g.tokenId && ids.contains t.userId)

/-- The DPI policies of the users. -/
def dpiPoliciesOf (ids : List Nat) : List DpiPolicy :=
  orderBy DpiPolicy.userId (s.dpiPolicies.rows.filter fun p => ids.contains p.userId)

/-- Go `ReadNodeIdentityPage`; `none` is the error of an invalid request. -/
def readNodeIdentityPage (nodeId : String) (after : Nat) (requested : Option (List Nat))
    (limit : Nat) : Option NodeIdentityPage :=
  if limit < 1 || requested.any (fun r => limit < r.length || after ≠ 0) then none
  else
    -- the query fetches one row more than the page takes, to see whether there are more
    let rows := (s.nodeUsers nodeId after requested).take (limit + 1)
    let users := rows.take limit
    let ids := users.map User.id
    some {
      users
      tokens := s.tokensOf ids
      policies := s.policiesOf ids
      grants := s.grantsOf ids
      dpiPolicies := s.dpiPoliciesOf ids
      removed := (requested.getD []).filter fun id => !ids.contains id
      lastId := (users.getLast?.map User.id).getD after
      isEnd := rows.length ≤ limit }

/-- Read the pages of a baseline until the last one; `none` when the fuel runs out. -/
def readBaseline (nodeId : String) (limit : Nat) : Nat → Nat → Option (List NodeIdentityPage)
  | 0, _ => none
  | fuel + 1, after => do
    let page ← s.readNodeIdentityPage nodeId after none limit
    if page.isEnd then return [page]
    let pages ← readBaseline nodeId limit fuel page.lastId
    return page :: pages

/-- The snapshot of a page (Go `identityPageMessage`). -/
def pageSnapshot (baseline : Bool) (page : NodeIdentityPage) (revision : Nat) : IdentitySnapshot :=
  { revision
    nodeAccessEnforced := true
    incremental := !baseline
    baseline
    baselineEnd := baseline && page.isEnd
    removedUserIds := page.removed
    users := page.users
    tokens := page.tokens
    policies := page.policies
    grants := page.grants
    dpiPolicies := page.dpiPolicies
    replaceBlockedIps := baseline && page.isEnd
    blockedIps := if baseline && page.isEnd then s.blockedIps.rows else [] }

/-- The snapshot of all identities of a node (Go `identitySnapshotForUsers`). -/
def identitySnapshotForUsers (nodeId : String) (requested : Option (List Nat)) (revision : Nat) :
    IdentitySnapshot :=
  let kept := s.users.rows.filter fun u =>
    requested.all (·.contains u.id) && s.canAccessNode u.id nodeId
  let users := (orderBy User.id kept).reverse
  let keptUsers := users.map User.id
  let tokens := (orderBy AccessToken.id s.tokens.rows).reverse.filter
    fun t => keptUsers.contains t.userId
  let keptTokens := tokens.map AccessToken.id
  { revision
    incremental := requested.isSome
    nodeAccessEnforced := true
    users
    removedUserIds := (requested.getD []).filter fun id => !keptUsers.contains id
    tokens
    policies := (orderBy UserResourcePolicy.userId s.policies.rows).reverse.filter
      fun p => keptUsers.contains p.userId
    grants := (orderBy PortGrant.id s.grants.rows).filter fun g => keptTokens.contains g.tokenId
    dpiPolicies := (orderBy DpiPolicy.userId s.dpiPolicies.rows).reverse.filter
      fun p => keptUsers.contains p.userId
    blockedIps := if requested.isSome then [] else s.blockedIps.rows }

/-! ## What a page holds -/

variable {s}

/-- The users of a page may use the node. -/
lemma mem_nodeUsers {nodeId after requested u} : u ∈ s.nodeUsers nodeId after requested ↔
    u ∈ s.users ∧ s.canAccessNode u.id nodeId = true ∧ after < u.id ∧
      ∀ ids, requested = some ids → u.id ∈ ids := by
  unfold nodeUsers
  rw [mem_orderBy, mem_filter, mem_rows]
  simp only [Bool.and_eq_true, decide_eq_true_eq, Option.all_eq_true, contains_iff_mem]
  exact and_congr_right fun _ => and_assoc

lemma mem_tokensOf {ids t} : t ∈ s.tokensOf ids ↔ t ∈ s.tokens ∧ t.userId ∈ ids := by
  rw [tokensOf, mem_orderBy, mem_filter, mem_rows, contains_iff_mem]

lemma mem_policiesOf {ids p} : p ∈ s.policiesOf ids ↔ p ∈ s.policies ∧ p.userId ∈ ids := by
  rw [policiesOf, mem_orderBy, mem_filter, mem_rows, contains_iff_mem]

/-- The grants are those of the users' tokens. -/
lemma mem_grantsOf {ids g} : g ∈ s.grantsOf ids ↔
    g ∈ s.grants ∧ ∃ t ∈ s.tokens, t.id = g.tokenId ∧ t.userId ∈ ids := by
  rw [grantsOf, mem_orderBy, List.mem_filter, Table.mem_rows, Table.any_eq_true]
  simp only [Bool.and_eq_true, decide_eq_true_eq, List.contains_iff_mem]

lemma mem_dpiPoliciesOf {ids p} : p ∈ s.dpiPoliciesOf ids ↔ p ∈ s.dpiPolicies ∧ p.userId ∈ ids := by
  rw [dpiPoliciesOf, mem_orderBy, mem_filter, mem_rows, contains_iff_mem]

/-- The read stops at a page that ends it. -/
lemma readBaseline_end {nodeId limit fuel after p}
    (page : s.readNodeIdentityPage nodeId after none limit = some p) (fin : p.isEnd = true) :
    s.readBaseline nodeId limit (fuel + 1) after = some [p] := by
  unfold readBaseline
  simp [page, fin]

/-- After any other page it goes on at the page's cursor. -/
lemma readBaseline_more {nodeId limit fuel after p}
    (page : s.readNodeIdentityPage nodeId after none limit = some p) (more : p.isEnd = false) :
    s.readBaseline nodeId limit (fuel + 1) after =
      (s.readBaseline nodeId limit fuel p.lastId).map (p :: ·) := by
  rw [readBaseline]
  simp only [page, more, Option.bind_eq_bind, Option.bind_some, Bool.false_eq_true, if_false]
  cases s.readBaseline nodeId limit fuel p.lastId <;> rfl

/-- The users of a query come in ascending order. -/
lemma ascending_nodeUsers {nodeId after requested} :
    Keyset.Ascending User.id (s.nodeUsers nodeId after requested) := by
  have sorted : (s.nodeUsers nodeId after requested).Pairwise fun a b => a.id ≤ b.id :=
    pairwise_insertionSort _ _
  have unique : (s.nodeUsers nodeId after requested).Pairwise fun a b => ¬ Schema.clash a b :=
    pairwise_orderBy (s.users.unique.filter _)
  exact (sorted.and unique).imp fun h => Nat.lt_of_le_of_ne h.1 h.2

/-- The paged query is a keyset query. -/
lemma keyset_nodeUsers {nodeId} :
    Keyset.Query User.id fun after => s.nodeUsers nodeId after none := by
  refine ⟨fun _ => ascending_nodeUsers, ?_, ?_⟩
  · intro c c' u le
    simp only [mem_nodeUsers]
    constructor
    · rintro ⟨mu, acc, lt, req⟩
      exact ⟨⟨mu, acc, by omega, req⟩, lt⟩
    · rintro ⟨⟨mu, acc, _, req⟩, lt⟩
      exact ⟨mu, acc, lt, req⟩
  · intro c u mu
    exact (mem_nodeUsers.mp mu).2.2.1

end Store

end MeowFrp.Db
