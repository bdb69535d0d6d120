import MeowFrp.Db.Op

/-!
# What permits a lease

A lease may be used on the controller while its own row, its user, its token and its client are active
and the user has access to the node (`Permits`). `Op.ends` names the transactions that can take this
away from a lease, and `exec_permits` shows that no other one does.
-/

namespace MeowFrp.Db

open Lib Table List

/-- The lease may be used on the controller. -/
structure Store.Permits (s : Store) (l : RuntimeLease) : Prop where
  lease : l ∈ s.leases
  active : l.status = .active
  user : ∃ u ∈ s.users, u.id = l.userId ∧ u.status = .active
  token : ∃ t ∈ s.tokens, t.id = l.tokenId ∧ t.status = .active
  client : ∃ c ∈ s.clients, c.tokenId = l.tokenId ∧ s.collate c.clientId = s.collate l.clientId ∧
    c.status = .active
  access : s.canAccessNode l.userId Store.controllerNode = true

/-- The row is the device of the lease. -/
def Store.deviceOf (s : Store) (l : RuntimeLease) (c : Client) : Bool :=
  l.tokenId = c.tokenId && s.collate l.clientId = s.collate c.clientId

/-- The transaction takes away something that permits the lease. -/
def Op.ends (s : Store) (l : RuntimeLease) : Op → Bool
  | .identity (.setUserStatus id status _) => l.userId = id && status ≠ .active
  | .identity (.deleteUser id) =>
    l.userId = id || (s.tokens.any fun t => t.id = l.tokenId && t.userId = id) ||
      s.clients.any fun c => s.deviceOf l c && c.userId = id
  | .identity (.setAccessTokenStatus id status _) => l.tokenId = id && status ≠ .active
  | .identity (.saveUserNodeAccess userId nodes) =>
    l.userId = userId && !nodes.contains Store.controllerNode
  | .setClientStatus id status _ =>
    status ≠ .active && s.clients.any fun c => c.id = id && s.deviceOf l c
  | .deleteClient id => s.clients.any fun c => c.id = id && s.deviceOf l c
  | .revokeActiveRuntimeLeasesForClient tokenId clientId =>
    l.tokenId = tokenId && s.collate l.clientId = s.collate clientId
  | _ => false

namespace Store

variable {s s' : Store} {now : Time} {l : RuntimeLease}

/-- The access rows after the inserts of `saveUserNodeAccess`. -/
lemma mem_grantNodes {t : Table NodeAccess} {userId} {nodes : List String} {a} :
    a ∈ nodes.foldl (fun t n => t.put ⟨userId, n⟩) t ↔
      a ∈ t ∨ a.userId = userId ∧ a.nodeId ∈ nodes := by
  induction nodes generalizing t with
  | nil => simp
  | cons n _ ih =>
    rw [foldl_cons, ih, mem_put, mem_cons]
    constructor
    · rintro ((⟨old, _⟩ | rfl) | ⟨user, node⟩)
      · exact .inl old
      · exact .inr ⟨rfl, .inl rfl⟩
      · exact .inr ⟨user, .inr node⟩
    · rintro (old | ⟨user, rfl | node⟩)
      · -- an old row either stays or is the one that is put in its place
        by_cases clash : a.userId = userId ∧ a.nodeId = n
        · exact .inl (.inr (by cases a; cases clash.1; cases clash.2; rfl))
        · exact .inl (.inl ⟨old, clash⟩)
      · exact .inl (.inr (by cases a; cases user; rfl))
      · exact .inr ⟨user, node⟩

/-- Access after `saveUserNodeAccess`: as listed, unchanged for others. -/
lemma canAccessNode_save {userId nodes id n} :
    (s.saveUserNodeAccess userId nodes).canAccessNode id n =
      if id = userId then nodes.contains n else s.canAccessNode id n := by
  have mem : ∀ a, a ∈ (s.saveUserNodeAccess userId nodes).nodeAccess ↔
      (a ∈ s.nodeAccess ∧ a.userId ≠ userId) ∨ a.userId = userId ∧ a.nodeId ∈ nodes := by
    intro a
    change a ∈ nodes.foldl (fun t n => t.put ⟨userId, n⟩) (s.nodeAccess.delete (·.userId = userId)) ↔ _
    rw [mem_grantNodes, Table.mem_delete, decide_eq_false_iff_not]
  rw [Bool.eq_iff_iff]
  unfold canAccessNode
  simp only [Table.any_eq_true, mem, Bool.and_eq_true, decide_eq_true_eq]
  split
  · rename_i same
    rw [List.contains_iff_mem]
    constructor
    · rintro ⟨a, ⟨_, other⟩ | ⟨_, node⟩, user, rfl⟩
      · exact absurd (user.trans same) other
      · exact node
    · intro node
      exact ⟨⟨userId, n⟩, .inr ⟨rfl, node⟩, same.symm, rfl⟩
  · rename_i other
    rw [Table.any_eq_true]
    simp only [Bool.and_eq_true, decide_eq_true_eq]
    constructor
    · rintro ⟨a, ⟨old, _⟩ | ⟨user, _⟩, same, node⟩
      · exact ⟨a, old, same, node⟩
      · exact absurd (same.symm.trans user) other
    · rintro ⟨a, old, same, node⟩
      exact ⟨a, .inl ⟨old, fun user => other (same.symm.trans user)⟩, same, node⟩

/-- The devices kept their keys and status. -/
lemma Permits.clients {clients} (ok : s.Permits l)
    (kept : ∀ c ∈ s.clients, c.tokenId = l.tokenId → s.collate c.clientId = s.collate l.clientId →
      c.status = .active → ∃ c' ∈ clients, c'.tokenId = c.tokenId ∧ c'.clientId = c.clientId ∧ c'.status = .active) :
    Permits { s with clients } l := by
  obtain ⟨c, mc, token, client, active⟩ := ok.client
  obtain ⟨c', mc', token', client', active'⟩ := kept c mc token client active
  exact ⟨ok.lease, ok.active, ok.user, ok.token,
    ⟨c', mc', token'.trans token, (congrArg _ client').trans client, active'⟩, ok.access⟩

lemma mem_revokeLeases_of_not {leases : Table RuntimeLease} {p} (m : l ∈ leases) (keep : p l = false) :
    l ∈ revokeLeases leases p := by
  refine mem_revokeLeases.mpr ⟨l, m, ?_⟩
  rw [Table.rewrite, keep]
  rfl

/-- An identity transaction that does not end the lease permits it. -/
lemma execIdentity_permits {op} (e : s.execIdentity op = some s') (ok : s.Permits l)
    (keep : Op.ends s l (.identity op) = false) : s'.Permits l := by
  obtain ⟨lease, active, ⟨u, mu, eu, au⟩, ⟨t, mt, et, at_⟩, ⟨c, mc, ec, ec', ac⟩, access⟩ := ok
  cases op with
  | createUser =>
    obtain ⟨_, ins, rfl⟩ := createUser_inv e
    exact ⟨lease, active, ⟨u, (Table.mem_insert ins).mpr (.inl mu), eu, au⟩, ⟨t, mt, et, at_⟩,
      ⟨c, mc, ec, ec', ac⟩, access⟩
  | createUserWithAccessToken =>
    obtain ⟨_, _, _, iu, _, it, _, rfl⟩ := createUserWithAccessToken_inv e
    exact ⟨lease, active, ⟨u, (Table.mem_insert iu).mpr (.inl mu), eu, au⟩,
      ⟨t, (Table.mem_insert it).mpr (.inl mt), et, at_⟩, ⟨c, mc, ec, ec', ac⟩, access⟩
  | setUserStatus id =>
    cases e
    refine ⟨lease, active, ⟨_, List.mem_map_of_mem mu, ?_⟩, ⟨t, mt, et, at_⟩,
      ⟨c, mc, ec, ec', ac⟩, access⟩
    unfold Table.rewrite
    split
    · rename_i same
      have is : l.userId = id := eu.symm.trans (of_decide_eq_true same)
      exact ⟨eu, by simpa [Op.ends, is] using keep⟩
    · exact ⟨eu, au⟩
  | deleteUser id =>
    obtain ⟨_, _, rfl⟩ := deleteUser_inv e
    simp only [Op.ends, Bool.or_eq_false_iff, decide_eq_false_iff_not] at keep
    obtain ⟨⟨user, token⟩, client⟩ := keep
    have token' : t.userId ≠ id := fun own =>
      Bool.false_ne_true (token.symm.trans (Table.any_eq_true.mpr ⟨t, mt, by simp [et, own]⟩))
    have client' : c.userId ≠ id := fun own =>
      Bool.false_ne_true (client.symm.trans
        (Table.any_eq_true.mpr ⟨c, mc, by simp [deviceOf, ec, ec', own]⟩))
    have others : ∀ a ∈ s.nodeAccess, a.userId = l.userId →
        a ∈ s.nodeAccess.delete (·.userId = id) :=
      fun a ma own => Table.mem_delete.mpr ⟨ma, by simpa [own] using user⟩
    refine ⟨Table.mem_delete.mpr ⟨lease, by simpa using user⟩, active,
      ⟨u, Table.mem_delete.mpr ⟨mu, by simpa [eu] using user⟩, eu, au⟩,
      ⟨t, Table.mem_delete.mpr ⟨mt, by simpa using token'⟩, et, at_⟩,
      ⟨c, Table.mem_delete.mpr ⟨mc, by simpa using client'⟩, ec, ec', ac⟩, ?_⟩
    obtain ⟨a, ma, own⟩ := Table.any_eq_true.mp access
    simp only [Bool.and_eq_true, decide_eq_true_eq] at own
    exact Table.any_eq_true.mpr ⟨a, others a ma own.1, by simp [own]⟩
  | upsertUserResourcePolicy =>
    obtain ⟨_, rfl⟩ := upsertUserResourcePolicy_inv e
    exact ⟨lease, active, ⟨u, mu, eu, au⟩, ⟨t, mt, et, at_⟩, ⟨c, mc, ec, ec', ac⟩, access⟩
  | createAccessToken =>
    obtain ⟨_, _, _, ins, rfl⟩ := createAccessToken_inv e
    exact ⟨lease, active, ⟨u, mu, eu, au⟩, ⟨t, (Table.mem_insert ins).mpr (.inl mt), et, at_⟩,
      ⟨c, mc, ec, ec', ac⟩, access⟩
  | setAccessTokenStatus id =>
    obtain ⟨_, _, rfl⟩ := setAccessTokenStatus_inv e
    refine ⟨lease, active, ⟨u, mu, eu, au⟩, ⟨_, List.mem_map_of_mem mt, ?_⟩,
      ⟨c, mc, ec, ec', ac⟩, access⟩
    unfold Table.rewrite
    split
    · rename_i same
      have is : l.tokenId = id := et.symm.trans (of_decide_eq_true same)
      exact ⟨et, by simpa [Op.ends, is] using keep⟩
    · exact ⟨et, at_⟩
  | rotateAccessToken =>
    obtain ⟨_, _, _, alt, rfl⟩ := rotateAccessToken_inv e
    refine ⟨lease, active, ⟨u, mu, eu, au⟩, ⟨_, (Table.mem_alter alt).mpr ⟨t, mt, rfl⟩, ?_⟩,
      ⟨c, mc, ec, ec', ac⟩, access⟩
    unfold Table.rewrite
    split
    · exact ⟨et, rfl⟩
    · exact ⟨et, at_⟩
  | createPortGrant =>
    obtain ⟨_, _, _, _, rfl⟩ := createPortGrant_inv e
    exact ⟨lease, active, ⟨u, mu, eu, au⟩, ⟨t, mt, et, at_⟩, ⟨c, mc, ec, ec', ac⟩, access⟩
  | upsertDpiPolicy =>
    obtain ⟨_, rfl⟩ := upsertDpiPolicy_inv e
    exact ⟨lease, active, ⟨u, mu, eu, au⟩, ⟨t, mt, et, at_⟩, ⟨c, mc, ec, ec', ac⟩, access⟩
  | saveUserNodeAccess userId nodes =>
    cases e
    have access' : (s.saveUserNodeAccess userId nodes).canAccessNode l.userId controllerNode = true := by
      rw [canAccessNode_save]
      split
      · rename_i same
        simpa [Op.ends, same] using keep
      · exact access
    refine ⟨mem_revokeLeases_of_not lease ?_, active, ⟨u, mu, eu, au⟩, ⟨t, mt, et, at_⟩,
      ⟨c, mc, ec, ec', ac⟩, access'⟩
    by_cases same : l.userId = userId
    · rw [← same] at access' ⊢
      change (_ && !(s.saveUserNodeAccess l.userId nodes).canAccessNode l.userId controllerNode) = false
      rw [access', Bool.not_true, Bool.and_false]
    · simp [same]

/-- A transaction that does not end the lease leaves it permitted. -/
lemma exec_permits {op} (e : s.exec now op = some s') (ok : s.Permits l)
    (keep : op.ends s l = false) : s'.Permits l := by
  cases op with
  | identity => exact execIdentity_permits e ok keep
  | setClientStatus id =>
    cases e
    refine ok.clients fun c mc token client active => ⟨_, List.mem_map_of_mem mc, ?_⟩
    unfold Table.rewrite
    split
    · rename_i same
      have hit : (s.clients.any fun c => c.id = id && s.deviceOf l c) = true :=
        Table.any_eq_true.mpr ⟨c, mc, by simp [deviceOf, token, client, of_decide_eq_true same]⟩
      exact ⟨rfl, rfl, by simpa [Op.ends, hit] using keep⟩
    · exact ⟨rfl, rfl, active⟩
  | deleteClient =>
    obtain ⟨client, found, rfl⟩ := deleteClient_inv e
    have other : s.deviceOf l client = false := by
      by_contra own
      refine Bool.false_ne_true (keep.symm.trans (Table.any_eq_true.mpr
        ⟨client, Table.mem_of_find? found, ?_⟩))
      rw [Bool.not_eq_false _ |>.mp own, Bool.and_true]
      simpa using Table.find?_prop found
    obtain ⟨lease, active, user, token, ⟨c, mc, ec, ec', ac⟩, access⟩ := ok
    refine ⟨Table.mem_delete.mpr ⟨lease, ?_⟩, active, user, token,
      ⟨c, Table.mem_delete.mpr ⟨mc, ?_⟩, ec, ec', ac⟩, access⟩
    · exact other
    · by_contra same
      have is : c = client := Table.eq_of_clash mc (Table.mem_of_find? found)
        (.inl (by simpa using same))
      rw [is] at ec ec'
      simp [deviceOf, ec, ec'] at other
  | touchClientHeartbeat | clearClientPresence =>
    cases e
    refine ok.clients fun c mc token client active => ⟨_, List.mem_map_of_mem mc, ?_⟩
    unfold Table.rewrite
    split <;> exact ⟨rfl, rfl, active⟩
  | revokeActiveRuntimeLeasesForClient tokenId clientId =>
    cases e
    refine ⟨mem_revokeLeases_of_not ok.lease ?_, ok.active, ok.user, ok.token, ok.client, ok.access⟩
    rw [show (decide (l.tokenId = tokenId) && decide (s.book.key l.clientId = s.book.key clientId)) = false
      from keep, Bool.false_and]

/-- A new lease takes the permission of its client's earlier ones only. -/
lemma createRuntimeLease_permits {lease inputs} (e : s.createRuntimeLease lease inputs = some s')
    (ok : s.Permits l) (other : LeaseBook.ownerOf l s.collate ≠ LeaseBook.ownerOf lease s.collate) :
    s'.Permits l := by
  obtain ⟨_, issued, rfl⟩ := createRuntimeLease_inv e
  obtain ⟨inserted, _⟩ := LeaseBook.issue_inv issued
  have kept : l ∈ s.book.revokeClient lease.tokenId lease.clientId := by
    apply mem_revokeLeases_of_not ok.lease
    by_contra own
    simp only [Bool.not_eq_false, Bool.and_eq_true, decide_eq_true_eq] at own
    exact other (Prod.ext own.1.1 own.1.2)
  exact ⟨(mem_insert inserted).mpr (.inl kept), ok.active, ok.user, ok.token, ok.client,
    ok.access⟩

lemma releaseRuntimeLease_permits {leaseId tokenId clientId} (ok : s.Permits l)
    (other : s.releasable leaseId tokenId clientId l = false) :
    (s.releaseRuntimeLease leaseId tokenId clientId).1.Permits l :=
  ⟨mem_revokeLeases_of_not ok.lease other, ok.active, ok.user, ok.token, ok.client, ok.access⟩

end Store

end MeowFrp.Db
