import MeowFrp.Db.Op

/-!
# The records of a user

What the database holds of one user, and that an identity transaction changes it for one user only, whom
it enters in the outbox unless the user was created by it (`execIdentity_records`). New users have access
to no node, so nothing is queued for them.
-/

namespace MeowFrp.Db.Store

open Lib Table

variable {s s₁ s' : Store} {v : Nat}

/-- The grant belongs to a token of the user. -/
def Owns (s : Store) (userId : Nat) (g : PortGrant) : Prop :=
  g ∈ s.grants ∧ ∃ t ∈ s.tokens, t.id = g.tokenId ∧ t.userId = userId

/-- The two stores hold the same of a user. -/
structure SameRecords (s s₁ : Store) (userId : Nat) : Prop where
  users : ∀ x : User, x.id = userId → (x ∈ s₁.users ↔ x ∈ s.users)
  tokens : ∀ t : AccessToken, t.userId = userId → (t ∈ s₁.tokens ↔ t ∈ s.tokens)
  policies : ∀ p : UserResourcePolicy, p.userId = userId → (p ∈ s₁.policies ↔ p ∈ s.policies)
  grants : ∀ g, s₁.Owns userId g ↔ s.Owns userId g
  dpiPolicies : ∀ p : DpiPolicy, p.userId = userId → (p ∈ s₁.dpiPolicies ↔ p ∈ s.dpiPolicies)
  access : ∀ n, s₁.canAccessNode userId n = s.canAccessNode userId n

lemma SameRecords.refl : s.SameRecords s v :=
  ⟨fun _ _ => Iff.rfl, fun _ _ => Iff.rfl, fun _ _ => Iff.rfl, fun _ => Iff.rfl, fun _ _ => Iff.rfl,
    fun _ => rfl⟩

/-- The change leaves the outbox and the blocked addresses alone. -/
structure KeepsOutbox (s s₁ : Store) : Prop where
  blockedIps : s₁.blockedIps = s.blockedIps
  edgeNodes : s₁.edgeNodes = s.edgeNodes
  cacheSessions : s₁.cacheSessions = s.cacheSessions
  userNodeCache : s₁.userNodeCache = s.userNodeCache
  revision : s₁.revision = s.revision

/-! ## Rows of one user -/

/-- Replacing the row of another user. -/
lemma mem_put_other {V : Type} [Schema V] {t : Table V} {w row : V} (apart : ¬ Schema.clash w row)
    (differ : w ≠ row) : w ∈ t.put row ↔ w ∈ t := by
  rw [mem_put]
  constructor
  · rintro (⟨m, _⟩ | rfl)
    · exact m
    · exact absurd rfl differ
  · exact fun m => .inl ⟨m, apart⟩

/-- Inserting a row of another user. -/
lemma mem_insert_other {V : Type} [Schema V] {t t' : Table V} {w row : V}
    (ins : t.insert row = some t') (differ : w ≠ row) : w ∈ t' ↔ w ∈ t := by
  rw [mem_insert ins]
  exact or_iff_left differ

/-- Rewriting rows of other users. -/
lemma mem_rewrite_other {V : Type} [Schema V] {t t' : Table V} {p : V → Bool} {f : V → V} {w : V}
    (mem : ∀ w, w ∈ t' ↔ ∃ old ∈ t, Table.rewrite p f old = w)
    (into : ∀ old ∈ t, p old = true → f old ≠ w) (out : w ∈ t → p w ≠ true) : w ∈ t' ↔ w ∈ t := by
  rw [mem]
  unfold Table.rewrite
  constructor
  · rintro ⟨old, m, rfl⟩
    split
    · rename_i hit
      rw [if_pos hit] at into
      exact absurd rfl (into old m hit)
    · exact m
  · intro m
    exact ⟨w, m, if_neg (out m)⟩

/-- Rewriting a token keeps the tokens of other users. -/
lemma mem_token_other {t t' : Table AccessToken} {id : Nat} {f : AccessToken → AccessToken}
    {token w : AccessToken} (found : t.find? (·.id = id) = some token)
    (mem : ∀ w, w ∈ t' ↔ ∃ old ∈ t, Table.rewrite (fun x => x.id = id) f old = w)
    (keep : ∀ x, (f x).userId = x.userId) (differ : w.userId ≠ token.userId) : w ∈ t' ↔ w ∈ t := by
  have owner : ∀ old ∈ t, decide (old.id = id) = true → old = token := by
    intro old m same
    have same' : token.id = id := by simpa using find?_prop found
    exact eq_of_clash m (mem_of_find? found)
      (.inl ((of_decide_eq_true same).trans same'.symm))
  refine mem_rewrite_other mem ?_ ?_
  · rintro old m same rfl
    rw [keep, owner old m same] at differ
    exact differ rfl
  · intro m same
    rw [owner w m same] at differ
    exact differ rfl

/-- The token of a grant has one owner. -/
lemma owner_unique {g : PortGrant} {t token : AccessToken} (m : t ∈ s.tokens) (same : t.id = g.tokenId)
    (found : s.tokens.find? (·.id = g.tokenId) = some token) : t.userId = token.userId := by
  have same' : token.id = g.tokenId := by simpa using find?_prop found
  rw [eq_of_clash m (mem_of_find? found) (.inl (same.trans same'.symm))]

/-- The grants of a user stay when the user's tokens do. -/
lemma owns_congr (grants : s₁.grants = s.grants)
    (tokens : ∀ t : AccessToken, t.userId = v → (t ∈ s₁.tokens ↔ t ∈ s.tokens)) (g : PortGrant) :
    s₁.Owns v g ↔ s.Owns v g := by
  unfold Owns
  rw [grants]
  refine and_congr_right fun _ => exists_congr fun t => ?_
  constructor
  · rintro ⟨m, same, user⟩
    exact ⟨(tokens t user).mp m, same, user⟩
  · rintro ⟨m, same, user⟩
    exact ⟨(tokens t user).mpr m, same, user⟩

/-- A change of the tokens of one user. -/
lemma SameRecords.of_tokens {tokens : Table AccessToken} {tokenSeq : Nat}
    (same : ∀ t : AccessToken, t.userId = v → (t ∈ tokens ↔ t ∈ s.tokens)) :
    s.SameRecords { s with tokens, tokenSeq } v :=
  ⟨fun _ _ => Iff.rfl, same, fun _ _ => Iff.rfl, owns_congr rfl same, fun _ _ => Iff.rfl, fun _ => rfl⟩

/-- Deleting a user leaves the others as they were. -/
lemma SameRecords.of_deleteUser {id : Nat} {allocations sessions leases clients} (differ : v ≠ id) :
    s.SameRecords
      { s with
        allocations, sessions, leases, clients
        grants := s.grants.delete fun g => s.tokens.any fun t => t.id = g.tokenId && t.userId = id
        tokens := s.tokens.delete (·.userId = id)
        policies := s.policies.delete (·.userId = id)
        dpiPolicies := s.dpiPolicies.delete (·.userId = id)
        nodeAccess := s.nodeAccess.delete (·.userId = id)
        users := s.users.delete (·.id = id) } v := by
  have kept : ∀ {V : Type} [Schema V] {t : Table V} (owner : V → Nat) (w : V), owner w = v →
      (w ∈ t.delete (fun x => owner x = id) ↔ w ∈ t) := by
    intro V _ t owner w user
    rw [mem_delete]
    exact and_iff_left (decide_eq_false (user ▸ differ))
  refine ⟨kept User.id, kept AccessToken.userId, kept UserResourcePolicy.userId, ?_,
    kept DpiPolicy.userId, ?_⟩
  · intro g
    unfold Owns
    constructor
    · rintro ⟨mg, t, mt, same, user⟩
      exact ⟨(mem_delete.mp mg).1, t, (mem_delete.mp mt).1, same, user⟩
    · rintro ⟨mg, t, mt, same, user⟩
      refine ⟨mem_delete.mpr ⟨mg, ?_⟩, t, (kept AccessToken.userId t user).mpr mt, same, user⟩
      -- a token of the deleted user under the same id would be the same token
      rw [← Bool.not_eq_true, any_eq_true]
      rintro ⟨t', mt', both⟩
      obtain ⟨same', user'⟩ : t'.id = g.tokenId ∧ t'.userId = id := by simpa using both
      rw [eq_of_clash mt' mt (.inl (same'.trans same.symm))] at user'
      exact differ (user.symm.trans user')
  · intro n
    unfold canAccessNode
    rw [Bool.eq_iff_iff, any_eq_true, any_eq_true]
    refine exists_congr fun a => ?_
    rw [mem_delete]
    constructor
    · rintro ⟨⟨m, _⟩, same⟩
      exact ⟨m, same⟩
    · rintro ⟨m, same⟩
      have user : a.userId = v := by
        have both := same
        simp only [Bool.and_eq_true, decide_eq_true_eq] at both
        exact both.1
      exact ⟨⟨m, decide_eq_false (user ▸ differ)⟩, same⟩

lemma mem_foldl_access {nodes : List String} {t : Table NodeAccess} {id : Nat} {a : NodeAccess}
    (differ : a.userId ≠ id) : a ∈ nodes.foldl (fun t n => t.put ⟨id, n⟩) t ↔ a ∈ t := by
  induction nodes generalizing t with
  | nil => rfl
  | cons _ _ ih =>
    rw [List.foldl_cons, ih]
    refine mem_put_other (fun clash => differ clash.1) ?_
    rintro rfl
    exact differ rfl

/-- Node access of others than the user it is saved for. -/
lemma canAccessNode_saved {nodes : List String} {id : Nat} (differ : v ≠ id) {n : String} :
    canAccessNode
      { s with
        nodeAccess := nodes.foldl (fun t n => t.put ⟨id, n⟩) (s.nodeAccess.delete (·.userId = id)) } v n =
      s.canAccessNode v n := by
  unfold canAccessNode
  rw [Bool.eq_iff_iff, any_eq_true, any_eq_true]
  refine exists_congr fun a => ?_
  refine and_congr_left fun same => ?_
  have user : a.userId ≠ id := by
    simp only [Bool.and_eq_true, decide_eq_true_eq] at same
    exact same.1 ▸ differ
  rw [mem_foldl_access user, mem_delete]
  exact and_iff_left (decide_eq_false user)

/-! ## The transactions -/

/-- An identity transaction changes one user, who is entered in the outbox or is new. -/
lemma execIdentity_records {op} (e : s.execIdentity op = some s') :
    ∃ u s₁, (s' = s₁.markUserIdentityDirty u ∨ s' = s₁ ∧ ∀ x ∈ s.users, x.id ≠ u) ∧
      s.KeepsOutbox s₁ ∧ ∀ v, v ≠ u → s.SameRecords s₁ v := by
  cases op with
  | createUser user =>
    obtain ⟨users, ins, rfl⟩ := createUser_inv e
    refine ⟨user.id, _, .inr ⟨rfl, fun x m => fresh_of_insert ins m⟩, ⟨rfl, rfl, rfl, rfl, rfl⟩,
      fun v differ => ?_⟩
    refine { SameRecords.refl with users := fun x user => mem_insert_other ins ?_ }
    rintro rfl
    exact differ user.symm
  | createUserWithAccessToken user =>
    obtain ⟨users, tokens, policies, eu, _, et, ep, rfl⟩ := createUserWithAccessToken_inv e
    refine ⟨user.id, _, .inr ⟨rfl, fun x m => fresh_of_insert eu m⟩, ⟨rfl, rfl, rfl, rfl, rfl⟩,
      fun v differ => ?_⟩
    have same : ∀ t : AccessToken, t.userId = v → (t ∈ tokens ↔ t ∈ s.tokens) := by
      intro t user
      refine mem_insert_other et ?_
      rintro rfl
      exact differ user.symm
    refine ⟨fun x user => mem_insert_other eu ?_, same, fun p user => mem_insert_other ep ?_,
      owns_congr rfl same, fun _ _ => Iff.rfl, fun _ => rfl⟩
    · rintro rfl
      exact differ user.symm
    · rintro rfl
      exact differ user.symm
  | setUserStatus id status reason =>
    cases e
    refine ⟨id, _, .inl rfl, ⟨rfl, rfl, rfl, rfl, rfl⟩, fun v differ => ?_⟩
    have keeps : Table.KeepsKeys fun u : User => { u with status, banReason := reason } :=
      fun _ _ => Iff.rfl
    refine { SameRecords.refl with
      users := fun x user => mem_rewrite_other (fun _ => @Table.mem_update _ _ _ _ _ _ keeps) ?_ ?_ }
    · rintro _ _ same rfl
      exact differ (user.symm.trans (of_decide_eq_true same))
    · intro _ same
      exact differ (user.symm.trans (of_decide_eq_true same))
  | deleteUser id =>
    obtain ⟨_, _, rfl⟩ := deleteUser_inv e
    exact ⟨id, _, .inl rfl, ⟨rfl, rfl, rfl, rfl, rfl⟩, fun v differ => .of_deleteUser differ⟩
  | upsertUserResourcePolicy policy =>
    obtain ⟨_, rfl⟩ := upsertUserResourcePolicy_inv e
    refine ⟨policy.userId, _, .inl rfl, ⟨rfl, rfl, rfl, rfl, rfl⟩, fun v differ => ?_⟩
    refine { SameRecords.refl with policies := fun p user => mem_put_other ?_ ?_ }
    · exact fun clash => differ (user.symm.trans clash)
    · rintro rfl
      exact differ user.symm
  | createAccessToken token =>
    obtain ⟨_, _, _, ins, rfl⟩ := createAccessToken_inv e
    refine ⟨token.userId, _, .inl rfl, ⟨rfl, rfl, rfl, rfl, rfl⟩, fun v differ => ?_⟩
    refine .of_tokens fun t user => mem_insert_other ins ?_
    rintro rfl
    exact differ user.symm
  | setAccessTokenStatus =>
    obtain ⟨token, found, rfl⟩ := setAccessTokenStatus_inv e
    refine ⟨token.userId, _, .inl rfl, ⟨rfl, rfl, rfl, rfl, rfl⟩, fun v differ => ?_⟩
    refine .of_tokens fun t user => ?_
    exact mem_token_other found (fun _ => mem_update) (fun _ => rfl) (user ▸ differ)
  | rotateAccessToken =>
    obtain ⟨token, _, found, alt, rfl⟩ := rotateAccessToken_inv e
    refine ⟨token.userId, _, .inl rfl, ⟨rfl, rfl, rfl, rfl, rfl⟩, fun v differ => ?_⟩
    refine .of_tokens fun t user => ?_
    exact mem_token_other found (fun _ => mem_alter alt) (fun _ => rfl) (user ▸ differ)
  | createPortGrant =>
    obtain ⟨token, grants, found, ins, rfl⟩ := createPortGrant_inv e
    refine ⟨token.userId, _, .inl rfl, ⟨rfl, rfl, rfl, rfl, rfl⟩, fun v differ => ?_⟩
    refine { SameRecords.refl with grants := fun g => and_congr_left ?_ }
    rintro ⟨_, m, same, user⟩
    refine mem_insert_other ins ?_
    rintro rfl
    exact differ (user.symm.trans (owner_unique m same found))
  | upsertDpiPolicy policy =>
    obtain ⟨_, rfl⟩ := upsertDpiPolicy_inv e
    refine ⟨policy.userId, _, .inl rfl, ⟨rfl, rfl, rfl, rfl, rfl⟩, fun v differ => ?_⟩
    refine { SameRecords.refl with dpiPolicies := fun p user => mem_put_other ?_ ?_ }
    · exact fun clash => differ (user.symm.trans clash)
    · rintro rfl
      exact differ user.symm
  | saveUserNodeAccess userId =>
    cases e
    exact ⟨userId, _, .inl rfl, ⟨rfl, rfl, rfl, rfl, rfl⟩,
      fun v differ => { SameRecords.refl with access := fun n => canAccessNode_saved differ }⟩

end MeowFrp.Db.Store
