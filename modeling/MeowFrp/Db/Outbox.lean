import MeowFrp.Db.Page

/-!
# The outbox

The transactions on `user_node_cache`, `node_cache_sessions` and `identity_sync_sequence` through which
the controller follows what a node has been sent (Go `internal/db/user_node_cache.go`). A row belongs to
one user and one node (`outboxRow`); each transaction is described by what it does to the row of an
arbitrary user and node, and proofs about the outbox go through these lemmas only.
-/

namespace MeowFrp.Db.Store

open Lib Table List Option

/-- Go `NextIdentityRevision`; the revision drawn is that of the result. -/
def nextIdentityRevision (s : Store) : Store := { s with revision := s.revision + 1 }

/-- Go `ResetNodeIdentityCache`. -/
def resetNodeIdentityCache (s : Store) (nodeId : String) (sessionId : CacheSessionId) : Store :=
  { s with
    cacheSessions := s.cacheSessions.put ⟨nodeId, sessionId⟩
    userNodeCache := s.userNodeCache.delete (·.nodeId = nodeId) }

/-- Go `PendingNodeIdentityUsers`. -/
def pendingNodeIdentityUsers (s : Store) (nodeId : String) (sessionId : CacheSessionId) : List Nat :=
  ((orderBy UserNodeCache.userId (s.userNodeCache.rows.filter fun c =>
    c.nodeId = nodeId && c.sessionId = some sessionId && c.appliedRevision < c.desiredRevision)).take
      64).map UserNodeCache.userId

/-- Go `PrepareNodeIdentityCache`; `none` when the session is superseded. -/
def prepareNodeIdentityCache (s : Store) (nodeId : String) (sessionId : CacheSessionId)
    (revision : Nat) (userIds : List Nat) : Option Store :=
  if s.sessionOf nodeId = some sessionId then
    some { s with
      userNodeCache := userIds.foldl (fun t id => wantRevision t id nodeId (some sessionId) revision)
        s.userNodeCache }
  else none

/-- Go `ConfirmNodeIdentityCache`; `none` when the session is superseded. Each round of its two loops concerns
the row of one user, so a loop is one statement. -/
def confirmNodeIdentityCache (s : Store) (nodeId : String) (sessionId : CacheSessionId)
    (revision : Nat) (users removed : List Nat) (full : Bool) : Option Store :=
  if s.sessionOf nodeId = some sessionId then
    let ofNode (c : UserNodeCache) : Bool := c.nodeId = nodeId && c.sessionId = some sessionId
    let t := s.userNodeCache.update (fun c => ofNode c && users.contains c.userId) fun c =>
      { c with appliedRevision := max c.appliedRevision revision, cached := true }
    let t := t.update (fun c => ofNode c && removed.contains c.userId) fun c =>
      { c with appliedRevision := max c.appliedRevision revision, cached := false }
    let t := t.delete fun c =>
      ofNode c && removed.contains c.userId && c.desiredRevision ≤ revision
    -- a full snapshot has no omitted cached users
    let t :=
      if full then
        (t.update (fun c => ofNode c && c.appliedRevision < revision) fun c =>
          { c with appliedRevision := revision, cached := false }).delete fun c =>
            ofNode c && c.desiredRevision ≤ revision && !c.cached
      else t
    some { s with userNodeCache := t }
  else none

/-! ## The row of a user and node -/

/-- The row of a user and node in an outbox. -/
def lookupRow (t : Table UserNodeCache) (userId : Nat) (nodeId : String) : Option UserNodeCache :=
  t.find? fun c => c.userId = userId && c.nodeId = nodeId

/-- The outbox row of a user and node. -/
def outboxRow (s : Store) (userId : Nat) (nodeId : String) : Option UserNodeCache :=
  lookupRow s.userNodeCache userId nodeId

variable {s s' : Store} {t : Table UserNodeCache} {userId u : Nat} {nodeId n : String}
  {sessionId : CacheSessionId} {revision : Nat}

lemma lookupRow_eq_some {c} :
    lookupRow t userId nodeId = some c ↔ c ∈ t ∧ c.userId = userId ∧ c.nodeId = nodeId := by
  unfold lookupRow
  rw [find?_eq_some]
  · simp only [Bool.and_eq_true, decide_eq_true_eq]
  · intro a b ha hb
    simp only [Bool.and_eq_true, decide_eq_true_eq] at ha hb
    exact ⟨ha.1.trans hb.1.symm, ha.2.trans hb.2.symm⟩

/-- What `wantRevision` makes of the row it concerns. -/
def wanted (userId : Nat) (nodeId : String) (sessionId : Option CacheSessionId) (revision : Nat) :
    Option UserNodeCache → UserNodeCache
  | none => { userId, nodeId, sessionId, desiredRevision := revision }
  | some old => { old with desiredRevision := max old.desiredRevision revision }

lemma lookupRow_wantRevision {session} :
    lookupRow (wantRevision t userId nodeId session revision) u n =
      if u = userId ∧ n = nodeId then
        some (wanted userId nodeId session revision (lookupRow t userId nodeId))
      else lookupRow t u n := by
  have keeps : Table.KeepsKeys fun old : UserNodeCache =>
      { old with desiredRevision := max old.desiredRevision revision } := fun _ _ => Iff.rfl
  have trans : ∀ a b c : UserNodeCache,
      Schema.clash a b → Schema.clash b c → Schema.clash a c :=
    fun a b c ab bc => ⟨ab.1.trans bc.1, ab.2.trans bc.2⟩
  refine Option.ext fun c => ?_
  rw [lookupRow_eq_some, wantRevision, mem_merge keeps trans]
  split
  · rename_i same
    obtain ⟨rfl, rfl⟩ := same
    cases found : lookupRow t u n with
    | none =>
      have new : ∀ old ∈ t, ¬ Schema.clash old ⟨u, n, session, 0, revision, false⟩ := by
        intro old m clash
        rw [lookupRow_eq_some.mpr ⟨m, clash.1, clash.2⟩] at found
        cases found
      constructor
      · rintro ⟨⟨_, no⟩ | ⟨old, m, clash, _⟩ | ⟨_, rfl⟩, key⟩
        · exact absurd key no
        · exact absurd clash (new old m)
        · rfl
      · rintro ⟨⟩
        exact ⟨.inr (.inr ⟨new, rfl⟩), rfl, rfl⟩
    | some old =>
      obtain ⟨stored, key⟩ := lookupRow_eq_some.mp found
      constructor
      · rintro ⟨⟨_, no⟩ | ⟨_, m, clash, rfl⟩ | ⟨new, _⟩, key'⟩
        · exact absurd key' no
        · rw [eq_of_clash m stored (trans _ _ _ clash ⟨key.1.symm, key.2.symm⟩)]
          rfl
        · exact absurd key (new old stored)
      · rintro ⟨⟩
        exact ⟨.inr (.inl ⟨old, stored, key, rfl⟩), key⟩
  · rename_i differ
    rw [lookupRow_eq_some]
    constructor
    · rintro ⟨⟨m, _⟩ | ⟨_, m, clash, rfl⟩ | ⟨_, rfl⟩, key⟩
      · exact ⟨m, key⟩
      · exact absurd ⟨key.1.symm.trans clash.1, key.2.symm.trans clash.2⟩ differ
      · exact absurd ⟨key.1.symm, key.2.symm⟩ differ
    · rintro ⟨m, key⟩
      exact ⟨.inl ⟨m, fun clash => differ ⟨key.1.symm.trans clash.1, key.2.symm.trans clash.2⟩⟩, key⟩

/-- Wanting the same revision twice is wanting it once. -/
lemma wanted_wanted {session row} :
    wanted userId nodeId session revision (some (wanted userId nodeId session revision row)) =
      wanted userId nodeId session revision row := by
  cases row with
  | none | some => simp [wanted]

/-- Wanting a revision of several users of a node. -/
lemma lookupRow_wantUsers {session} {ids : List Nat} :
    lookupRow (ids.foldl (fun t id => wantRevision t id nodeId session revision) t) u n =
      if u ∈ ids ∧ n = nodeId then some (wanted u nodeId session revision (lookupRow t u nodeId))
      else lookupRow t u n := by
  induction ids generalizing t with
  | nil => simp
  | cons id ids ih =>
    rw [foldl_cons, ih]
    simp only [lookupRow_wantRevision, mem_cons]
    by_cases node : n = nodeId
    · subst node
      by_cases first : u = id
      · subst first
        by_cases later : u ∈ ids
        · simp [later, wanted_wanted]
        · simp [later]
      · simp [first]
    · simp [node]

/-- Wanting a revision of a user for several nodes. -/
lemma lookupRow_wantNodes {session : String → Option CacheSessionId} {nodes : List String} :
    lookupRow (nodes.foldl (fun t m => wantRevision t userId m (session m) revision) t) u n =
      if u = userId ∧ n ∈ nodes then some (wanted userId n (session n) revision (lookupRow t userId n))
      else lookupRow t u n := by
  induction nodes generalizing t with
  | nil => simp
  | cons m nodes ih =>
    rw [foldl_cons, ih]
    simp only [lookupRow_wantRevision, mem_cons]
    by_cases user : u = userId
    · subst user
      by_cases first : n = m
      · subst first
        by_cases later : n ∈ nodes
        · simp [later, wanted_wanted]
        · simp [later]
      · simp [first]
    · simp [user]

lemma lookupRow_update {p f} {keeps : Table.KeepsKeys f}
    (key : ∀ c, (f c).userId = c.userId ∧ (f c).nodeId = c.nodeId) :
    lookupRow (t.update p f keeps) u n = (lookupRow t u n).map (Table.rewrite p f) := by
  have same : ∀ c, (Table.rewrite p f c).userId = c.userId ∧ (Table.rewrite p f c).nodeId = c.nodeId := by
    intro c
    unfold Table.rewrite
    split
    · exact key c
    · exact ⟨rfl, rfl⟩
  refine Option.ext fun c => ?_
  rw [lookupRow_eq_some, mem_update, map_eq_some_iff]
  constructor
  · rintro ⟨⟨old, m, rfl⟩, user, node⟩
    exact ⟨old, lookupRow_eq_some.mpr ⟨m, (same old).1.symm.trans user, (same old).2.symm.trans node⟩, rfl⟩
  · rintro ⟨old, found, rfl⟩
    obtain ⟨m, user, node⟩ := lookupRow_eq_some.mp found
    exact ⟨⟨old, m, rfl⟩, (same old).1.trans user, (same old).2.trans node⟩

lemma lookupRow_delete {p} : lookupRow (t.delete p) u n = (lookupRow t u n).filter fun c => !p c := by
  refine Option.ext fun c => ?_
  rw [lookupRow_eq_some, mem_delete, filter_eq_some_iff, lookupRow_eq_some, Bool.not_eq_true']
  constructor
  · rintro ⟨⟨m, no⟩, key⟩
    exact ⟨⟨m, key⟩, no⟩
  · rintro ⟨⟨m, key⟩, no⟩
    exact ⟨⟨m, no⟩, key⟩

/-! ## The transactions -/

lemma sessionOf_eq_some : s.sessionOf n = some sessionId ↔ ⟨n, sessionId⟩ ∈ s.cacheSessions := by
  unfold sessionOf
  rw [map_eq_some_iff]
  constructor
  · rintro ⟨row, found, rfl⟩
    have node : row.nodeId = n := by simpa using find?_prop found
    rw [← node]
    exact mem_of_find? found
  · intro m
    refine ⟨⟨n, sessionId⟩, (find?_eq_some ?_).mpr ⟨m, decide_eq_true rfl⟩, rfl⟩
    intro a b ha hb
    exact (of_decide_eq_true ha).trans (of_decide_eq_true hb).symm

/-- A reset starts a session. -/
lemma sessionOf_reset : (s.resetNodeIdentityCache nodeId sessionId).sessionOf n =
    if n = nodeId then some sessionId else s.sessionOf n := by
  refine Option.ext fun e => ?_
  rw [sessionOf_eq_some]
  change _ ∈ s.cacheSessions.put _ ↔ _
  rw [mem_put]
  split
  · rename_i same
    subst same
    constructor
    · rintro (⟨_, no⟩ | new)
      · exact absurd rfl no
      · cases new
        rfl
    · rintro ⟨⟩
      exact .inr rfl
  · rename_i differ
    rw [sessionOf_eq_some]
    constructor
    · rintro (⟨old, _⟩ | new)
      · exact old
      · cases new
        exact absurd rfl differ
    · exact fun old => .inl ⟨old, differ⟩

/-- A reset empties the outbox of the node. -/
lemma outboxRow_reset : (s.resetNodeIdentityCache nodeId sessionId).outboxRow u n =
    if n = nodeId then none else s.outboxRow u n := by
  change lookupRow (s.userNodeCache.delete _) u n = _
  rw [lookupRow_delete]
  refine Option.ext fun c => ?_
  rw [filter_eq_some_iff]
  split
  · rename_i same
    constructor
    · rintro ⟨found, no⟩
      have key := (lookupRow_eq_some.mp found).2.2
      simp [key, same] at no
    · rintro ⟨⟩
  · rename_i differ
    constructor
    · exact fun found => found.1
    · intro found
      have key := (lookupRow_eq_some.mp found).2.2
      exact ⟨found, by simp [key, differ]⟩

/-- A change is wanted of a node that caches the user or that the user may access. -/
lemma outboxRow_markUserIdentityDirty (enrolled : n ∈ s.edgeNodes) :
    (s.markUserIdentityDirty userId).outboxRow u n =
      if u = userId ∧ ((s.outboxRow u n).isSome || s.canAccessNode u n) then
        some (wanted u n (s.sessionOf n) (s.revision + 1) (s.outboxRow u n))
      else s.outboxRow u n := by
  change lookupRow ((s.dirtyTargets userId).foldl _ s.userNodeCache) u n = _
  rw [lookupRow_wantNodes]
  have target : n ∈ s.dirtyTargets userId ↔
      ((s.outboxRow userId n).isSome || s.canAccessNode userId n) = true := by
    unfold dirtyTargets outboxRow lookupRow
    rw [List.mem_filter, Table.isSome_find?]
    exact and_iff_right enrolled
  by_cases user : u = userId
  · subst user
    simp only [true_and, target]
    rfl
  · simp only [user, false_and, if_false]
    rfl

/-- The users of a page are marked as wanted. -/
lemma prepare_eq_some {ids} (e : s.prepareNodeIdentityCache nodeId sessionId revision ids = some s') :
    s.sessionOf nodeId = some sessionId ∧
      s' = { s with
        userNodeCache := ids.foldl (fun t id => wantRevision t id nodeId (some sessionId) revision)
          s.userNodeCache } := by
  obtain ⟨lock, e⟩ := ite_none_right_eq_some.mp e
  exact ⟨lock, (Option.some.inj e).symm⟩

/-- A page is wanted of the users it concerns. -/
lemma outboxRow_prepare {ids} (e : s.prepareNodeIdentityCache nodeId sessionId revision ids = some s') :
    s'.outboxRow u n =
      if u ∈ ids ∧ n = nodeId then
        some (wanted u nodeId (some sessionId) revision (s.outboxRow u nodeId))
      else s.outboxRow u n := by
  obtain ⟨_, rfl⟩ := prepare_eq_some e
  exact lookupRow_wantUsers

/-- A confirmation changes the outbox only. -/
lemma confirm_eq_some {users removed full}
    (e : s.confirmNodeIdentityCache nodeId sessionId revision users removed full = some s') :
    s.sessionOf nodeId = some sessionId ∧ s' = { s with userNodeCache := s'.userNodeCache } := by
  obtain ⟨lock, e⟩ := ite_none_right_eq_some.mp e
  cases e
  exact ⟨lock, rfl⟩

/-- A confirmation of one node leaves the rows of the others alone. -/
lemma outboxRow_confirm_other {users removed full} (differ : n ≠ nodeId)
    (e : s.confirmNodeIdentityCache nodeId sessionId revision users removed full = some s') :
    s'.outboxRow u n = s.outboxRow u n := by
  obtain ⟨_, e⟩ := ite_none_right_eq_some.mp e
  cases e
  change lookupRow (if full then ((((s.userNodeCache.update _ _ _).update _ _ _).delete _).update _ _ _).delete _
    else ((s.userNodeCache.update _ _ _).update _ _ _).delete _) u n = lookupRow s.userNodeCache u n
  cases found : lookupRow s.userNodeCache u n with
  | none => cases full <;> simp [lookupRow_delete, lookupRow_update, found]
  | some c =>
    have node : c.nodeId ≠ nodeId := (lookupRow_eq_some.mp found).2.2 ▸ differ
    cases full <;> simp [lookupRow_delete, lookupRow_update, found, Table.rewrite, node]

/-- What the confirmation of a page makes of a row of the node. -/
def confirmedRow (sessionId : CacheSessionId) (revision : Nat) (listed removed : Bool)
    (c : UserNodeCache) : Option UserNodeCache :=
  if c.sessionId ≠ some sessionId then some c
  else if removed then
    if c.desiredRevision ≤ revision then none
    else some { c with appliedRevision := max c.appliedRevision revision, cached := false }
  else if listed then some { c with appliedRevision := max c.appliedRevision revision, cached := true }
  else some c

/-- The rows after a confirmation. -/
lemma outboxRow_confirm {users removed}
    (e : s.confirmNodeIdentityCache nodeId sessionId revision users removed false = some s') :
    s'.outboxRow u n =
      if n = nodeId then
        (s.outboxRow u n).bind (confirmedRow sessionId revision (users.contains u) (removed.contains u))
      else s.outboxRow u n := by
  obtain ⟨_, e⟩ := ite_none_right_eq_some.mp e
  cases e
  change lookupRow (((s.userNodeCache.update _ _ _).update _ _ _).delete _) u n =
    if n = nodeId then (lookupRow s.userNodeCache u n).bind _ else lookupRow s.userNodeCache u n
  rw [lookupRow_delete, lookupRow_update, lookupRow_update]
  · cases found : lookupRow s.userNodeCache u n with
    | none => simp
    | some c =>
      obtain ⟨_, rfl, rfl⟩ := lookupRow_eq_some.mp found
      simp only [map_some, bind_some, Table.rewrite, confirmedRow]
      by_cases node : c.nodeId = nodeId
      · by_cases session : c.sessionId = some sessionId
        · by_cases gone : c.userId ∈ removed
          · by_cases listed : c.userId ∈ users <;> by_cases old : c.desiredRevision ≤ revision <;>
              simp [node, session, gone, listed, old]
          · by_cases listed : c.userId ∈ users <;> simp [node, session, gone, listed]
        · simp [session]
      · simp [node]
  · exact fun _ => ⟨rfl, rfl⟩
  · exact fun _ => ⟨rfl, rfl⟩

end MeowFrp.Db.Store
