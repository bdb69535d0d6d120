import MeowFrp.Db.Runtime

/-!
# Transactions of the controller's database

The transactions that requests commit, as one data type: those that change an identity and are queued
for the edges (`IdentityOp`), and those on devices and leases (`Op`). Lease creation and release are
not among them; they run under the bootstrap lock and are steps of their own.

`exec_book` says once what any of them can do to the lease book (it shrinks), and `exec_tokens` what any
of them can do to the token values.
-/

namespace MeowFrp.Db

open Lib Table Option

/-- A transaction that changes users, tokens, policies, grants or node access. -/
inductive IdentityOp where
  | createUser (user : User)
  | createUserWithAccessToken (user : User) (token : AccessToken)
  | setUserStatus (id : Nat) (status : Status) (reason : String)
  | deleteUser (id : Nat)
  | upsertUserResourcePolicy (policy : UserResourcePolicy)
  | createAccessToken (token : AccessToken)
  | setAccessTokenStatus (id : Nat) (status : Status) (reason : String)
  | rotateAccessToken (id : Nat) (tokenHash : String)
  | createPortGrant (grant : PortGrant)
  | upsertDpiPolicy (policy : DpiPolicy) (detectors : Option (List String))
  | saveUserNodeAccess (userId : Nat) (nodes : List String)

/-- A transaction that a request commits. -/
inductive Op where
  | identity (op : IdentityOp)
  | setClientStatus (id : Nat) (status : Status) (reason : String)
  | deleteClient (id : Nat)
  | touchClientHeartbeat (id : Nat)
  | clearClientPresence (id : Nat)
  | revokeActiveRuntimeLeasesForClient (tokenId : Nat) (clientId : String)

/-- The token whose value a transaction replaces. -/
def IdentityOp.rotates : IdentityOp → Option Nat
  | .rotateAccessToken id _ => some id
  | _ => none

@[inherit_doc IdentityOp.rotates]
def Op.rotates : Op → Option Nat
  | .identity op => op.rotates
  | _ => none

/-- The transaction ends or deletes proxy sessions. -/
def Op.endsSessions : Op → Bool
  | .identity (.deleteUser _) => true
  | .deleteClient _ => true
  | .revokeActiveRuntimeLeasesForClient _ _ => true
  | _ => false

namespace Store

/-- Run an identity transaction; `none` is an error that changes nothing. -/
def execIdentity (s : Store) : IdentityOp → Option Store
  | .createUser user => s.createUser user
  | .createUserWithAccessToken user token => s.createUserWithAccessToken user token
  | .setUserStatus id status reason => some (s.setUserStatus id status reason)
  | .deleteUser id => s.deleteUser id
  | .upsertUserResourcePolicy policy => s.upsertUserResourcePolicy policy
  | .createAccessToken token => s.createAccessToken token
  | .setAccessTokenStatus id status reason => s.setAccessTokenStatus id status reason
  | .rotateAccessToken id tokenHash => s.rotateAccessToken id tokenHash
  | .createPortGrant grant => s.createPortGrant grant
  | .upsertDpiPolicy policy detectors => s.upsertDpiPolicy policy detectors
  | .saveUserNodeAccess userId nodes => some (s.saveUserNodeAccess userId nodes)

/-- Run a transaction at the instant `now`. -/
def exec (s : Store) (now : Time) : Op → Option Store
  | .identity op => s.execIdentity op
  | .setClientStatus id status reason => some (s.setClientStatus id status reason)
  | .deleteClient id => s.deleteClient id
  | .touchClientHeartbeat id => some (s.touchClientHeartbeat now id)
  | .clearClientPresence id => some (s.clearClientPresence id)
  | .revokeActiveRuntimeLeasesForClient tokenId clientId =>
    some (s.revokeActiveRuntimeLeasesForClient tokenId clientId)

/-! ## Inversion of the transactions -/

variable {s s' : Store} {now : Time}

/-- A new user is active. -/
lemma createUser_inv {user} (e : s.createUser user = some s') :
    ∃ users, s.users.insert { user with status := .active, banReason := "" } = some users ∧
      s' = { s with users } := by
  simp only [createUser, bind_eq_bind, pure_def] at e
  split at e
  · cases e
  · obtain ⟨users, ins, e⟩ := bind_eq_some_iff.mp e
    exact ⟨users, ins, (Option.some.inj e).symm⟩

/-- A new token has a new id. -/
lemma insertToken_inv {token} (e : s.insertToken token = some s') :
    ∃ tokens, s.tokenSeq < token.id ∧ s.tokens.insert token = some tokens ∧
      s' = { s with tokens, tokenSeq := token.id } := by
  simp only [insertToken, bind_eq_bind, pure_def] at e
  split at e
  · cases e
  · rename_i new
    obtain ⟨tokens, ins, e⟩ := bind_eq_some_iff.mp e
    exact ⟨tokens, Nat.lt_of_not_le new, ins, (Option.some.inj e).symm⟩

/-- A user with a first token and a default policy. -/
lemma createUserWithAccessToken_inv {user token} (e : s.createUserWithAccessToken user token = some s') :
    ∃ users tokens policies,
      s.users.insert { user with status := .active, banReason := "" } = some users ∧
      s.tokenSeq < token.id ∧ s.tokens.insert (firstToken user token) = some tokens ∧
      s.policies.insert ⟨user.id, 1024, 65535, 1, ["tcp", "udp"], true⟩ = some policies ∧
      s' = { s with users, tokens, policies, tokenSeq := token.id } := by
  simp only [createUserWithAccessToken, bind_eq_bind, bind_eq_some_iff,
    pure_def, Option.some.injEq] at e
  obtain ⟨_, e₁, _, e₂, policies, ep, rfl⟩ := e
  obtain ⟨users, eu, rfl⟩ := createUser_inv e₁
  obtain ⟨tokens, new, et, rfl⟩ := insertToken_inv e₂
  exact ⟨users, tokens, policies, eu, new, et, ep, rfl⟩

/-- Inversion of `deleteUser`: the user's rows are gone. -/
lemma deleteUser_inv {id} (e : s.deleteUser id = some s') :
    ∃ user, s.users.find? (·.id = id) = some user ∧
      s' = markUserIdentityDirty
        { s with
          allocations := s.allocations.delete fun a =>
            s.leases.any fun l => l.leaseId = a.leaseId && l.userId = id
          sessions := s.sessions.delete (·.userId = id)
          leases := s.leases.delete (·.userId = id)
          clients := s.clients.delete (·.userId = id)
          grants := s.grants.delete fun g => s.tokens.any fun t => t.id = g.tokenId && t.userId = id
          tokens := s.tokens.delete (·.userId = id)
          policies := s.policies.delete (·.userId = id)
          dpiPolicies := s.dpiPolicies.delete (·.userId = id)
          nodeAccess := s.nodeAccess.delete (·.userId = id)
          users := s.users.delete (·.id = id) } id := by
  simp only [deleteUser, bind_eq_bind, bind_eq_some_iff] at e
  obtain ⟨user, found, e⟩ := e
  refine ⟨user, found, ?_⟩
  split at e
  · cases e
  · simpa using e.symm

/-- The policy of a stored user is replaced. -/
lemma upsertUserResourcePolicy_inv {policy} (e : s.upsertUserResourcePolicy policy = some s') :
    s.hasUser policy.userId = true ∧
      s' = markUserIdentityDirty
        { s with
          policies := s.policies.put { policy with
            maxPorts := max policy.maxPorts 1
            allowedProtocols := normalizeProtocolList policy.allowedProtocols } } policy.userId := by
  unfold upsertUserResourcePolicy at e
  split at e
  · exact ⟨‹_›, (Option.some.inj e).symm⟩
  · cases e

/-- A stored user gets an active token. -/
lemma createAccessToken_inv {token} (e : s.createAccessToken token = some s') :
    ∃ tokens, s.hasUser token.userId = true ∧ s.tokenSeq < token.id ∧
      s.tokens.insert { token with status := .active, banReason := "" } = some tokens ∧
      s' = markUserIdentityDirty { s with tokens, tokenSeq := token.id } token.userId := by
  simp only [createAccessToken, bind_eq_bind, pure_def] at e
  split at e
  · cases e
  · rename_i has
    obtain ⟨_, e₁, e⟩ := bind_eq_some_iff.mp e
    obtain ⟨tokens, new, ins, rfl⟩ := insertToken_inv e₁
    exact ⟨tokens, by simpa using has, new, ins, (Option.some.inj e).symm⟩

/-- A token changes its status only. -/
lemma setAccessTokenStatus_inv {id status reason}
    (e : s.setAccessTokenStatus id status reason = some s') :
    ∃ token, s.getAccessTokenById id = some token ∧
      s' = markUserIdentityDirty
        { s with tokens := s.tokens.update (fun t => t.id = id) fun t =>
            { t with status, banReason := reason } } token.userId := by
  obtain ⟨token, found, e⟩ := bind_eq_some_iff.mp e
  exact ⟨token, found, (Option.some.inj e).symm⟩

/-- A token gets another value. -/
lemma rotateAccessToken_inv {id tokenHash} (e : s.rotateAccessToken id tokenHash = some s') :
    ∃ token tokens, s.getAccessTokenById id = some token ∧
      (s.tokens.alter (fun t => t.id = id) fun t =>
        { t with tokenHash, status := .active, banReason := "" }) = some tokens ∧
      s' = markUserIdentityDirty { s with tokens } token.userId := by
  obtain ⟨token, found, e⟩ := bind_eq_some_iff.mp e
  obtain ⟨tokens, alt, e⟩ := bind_eq_some_iff.mp e
  exact ⟨token, tokens, found, alt, (Option.some.inj e).symm⟩

/-- A stored token gets a grant. -/
lemma createPortGrant_inv {grant} (e : s.createPortGrant grant = some s') :
    ∃ token grants, s.getAccessTokenById grant.tokenId = some token ∧
      s.grants.insert grant = some grants ∧
      s' = markUserIdentityDirty { s with grants } token.userId := by
  obtain ⟨token, found, e⟩ := bind_eq_some_iff.mp e
  obtain ⟨grants, ins, e⟩ := bind_eq_some_iff.mp e
  exact ⟨token, grants, found, ins, (Option.some.inj e).symm⟩

/-- The DPI policy of a stored user is replaced. -/
lemma upsertDpiPolicy_inv {policy detectors} (e : s.upsertDpiPolicy policy detectors = some s') :
    s.hasUser policy.userId = true ∧
      s' = markUserIdentityDirty
        { s with dpiPolicies := s.dpiPolicies.put (normalizeDpiPolicy policy detectors) }
        policy.userId := by
  unfold upsertDpiPolicy at e
  split at e
  · exact ⟨‹_›, (Option.some.inj e).symm⟩
  · cases e

/-- A device goes with its allocations, sessions and leases. -/
lemma deleteClient_inv {id} (e : s.deleteClient id = some s') :
    ∃ client, s.getClientById id = some client ∧
      s' = { s with
        allocations := s.allocations.delete fun a => s.leases.any fun l =>
          l.leaseId = a.leaseId &&
            (l.tokenId = client.tokenId && s.collate l.clientId = s.collate client.clientId)
        sessions := s.sessions.delete fun p =>
          p.tokenId = client.tokenId && s.collate p.clientId = s.collate client.clientId
        leases := s.leases.delete fun l =>
          l.tokenId = client.tokenId && s.collate l.clientId = s.collate client.clientId
        clients := s.clients.delete (·.id = client.id) } := by
  obtain ⟨client, found, e⟩ := bind_eq_some_iff.mp e
  exact ⟨client, found, (Option.some.inj e).symm⟩

/-! ## What a transaction does to the lease book -/

/-- An identity transaction only ever revokes or deletes leases. -/
lemma execIdentity_book {op} (e : s.execIdentity op = some s') : s.book.Shrinks s'.book := by
  cases op with
  | createUser =>
    obtain ⟨_, _, rfl⟩ := createUser_inv e
    exact .refl
  | createUserWithAccessToken =>
    obtain ⟨_, _, _, _, _, _, _, rfl⟩ := createUserWithAccessToken_inv e
    exact .refl
  | setUserStatus =>
    cases e
    exact .refl
  | deleteUser =>
    obtain ⟨_, _, rfl⟩ := deleteUser_inv e
    exact .delete
  | upsertUserResourcePolicy =>
    obtain ⟨_, rfl⟩ := upsertUserResourcePolicy_inv e
    exact .refl
  | createAccessToken =>
    obtain ⟨_, _, _, _, rfl⟩ := createAccessToken_inv e
    exact .refl
  | setAccessTokenStatus =>
    obtain ⟨_, _, rfl⟩ := setAccessTokenStatus_inv e
    exact .refl
  | rotateAccessToken =>
    obtain ⟨_, _, _, _, rfl⟩ := rotateAccessToken_inv e
    exact .refl
  | createPortGrant =>
    obtain ⟨_, _, _, _, rfl⟩ := createPortGrant_inv e
    exact .refl
  | upsertDpiPolicy =>
    obtain ⟨_, rfl⟩ := upsertDpiPolicy_inv e
    exact .refl
  | saveUserNodeAccess =>
    cases e
    exact .revoke

/-- A transaction only ever revokes or deletes leases. -/
lemma exec_book {op} (e : s.exec now op = some s') : s.book.Shrinks s'.book := by
  cases op with
  | identity => exact execIdentity_book e
  | setClientStatus | touchClientHeartbeat | clearClientPresence =>
    cases e
    exact .refl
  | deleteClient =>
    obtain ⟨_, _, rfl⟩ := deleteClient_inv e
    exact .delete
  | revokeActiveRuntimeLeasesForClient =>
    cases e
    exact .revoke

/-! ## What a transaction does to the tokens -/

/-- Tokens are new, or keep their value unless it was rotated. -/
structure TokensFrom (s s' : Store) (rotated : Option Nat) : Prop where
  seq : s.tokenSeq ≤ s'.tokenSeq
  rows : ∀ t' ∈ s'.tokens, s.tokenSeq < t'.id ∧ t'.id ≤ s'.tokenSeq ∨
    ∃ t ∈ s.tokens, t.id = t'.id ∧ (rotated ≠ some t.id → t.tokenHash = t'.tokenHash)

/-- Tokens are deleted at most. -/
lemma TokensFrom.of_subset {rotated} (seq : s'.tokenSeq = s.tokenSeq)
    (sub : ∀ t ∈ s'.tokens, t ∈ s.tokens) : s.TokensFrom s' rotated :=
  ⟨seq.ge, fun t m => .inr ⟨t, sub t m, rfl, fun _ => rfl⟩⟩

/-- The tokens stay. -/
lemma TokensFrom.of_eq {rotated} (seq : s'.tokenSeq = s.tokenSeq) (same : s'.tokens = s.tokens) :
    s.TokensFrom s' rotated :=
  .of_subset seq fun _ m => same ▸ m

/-- A token is added. -/
lemma TokensFrom.of_insert {rotated} (token : AccessToken) (new : s.tokenSeq < token.id)
    (seq : s'.tokenSeq = token.id) (ins : s.tokens.insert token = some s'.tokens) :
    s.TokensFrom s' rotated := by
  refine ⟨(Nat.le_of_lt new).trans seq.ge, fun t m => ?_⟩
  rcases (mem_insert ins).mp m with old | rfl
  · exact .inr ⟨t, old, rfl, fun _ => rfl⟩
  · exact .inl ⟨new, seq.ge⟩

/-- Tokens change, but neither ids nor values. -/
lemma TokensFrom.of_update {rotated p f} (keeps : Table.KeepsKeys f) (seq : s'.tokenSeq = s.tokenSeq)
    (upd : s'.tokens = s.tokens.update p f keeps)
    (keep : ∀ t, (f t).id = t.id ∧ (f t).tokenHash = t.tokenHash) : s.TokensFrom s' rotated := by
  refine ⟨seq.ge, fun t' m => .inr ?_⟩
  rw [upd] at m
  obtain ⟨t, mt, rfl⟩ := mem_update.mp m
  refine ⟨t, mt, ?_⟩
  unfold Table.rewrite
  split
  · exact ⟨(keep t).1.symm, fun _ => (keep t).2.symm⟩
  · exact ⟨rfl, fun _ => rfl⟩

/-- What an identity transaction does to the tokens. -/
lemma execIdentity_tokens {op} (e : s.execIdentity op = some s') : s.TokensFrom s' op.rotates := by
  cases op with
  | createUser =>
    obtain ⟨_, _, rfl⟩ := createUser_inv e
    exact .of_eq rfl rfl
  | createUserWithAccessToken user token =>
    obtain ⟨_, _, _, _, new, ins, _, rfl⟩ := createUserWithAccessToken_inv e
    exact .of_insert (firstToken user token) new rfl ins
  | setUserStatus | saveUserNodeAccess =>
    cases e
    exact .of_eq rfl rfl
  | deleteUser =>
    obtain ⟨_, _, rfl⟩ := deleteUser_inv e
    exact .of_subset rfl fun _ m => (mem_delete.mp m).1
  | upsertUserResourcePolicy =>
    obtain ⟨_, rfl⟩ := upsertUserResourcePolicy_inv e
    exact .of_eq rfl rfl
  | createAccessToken token =>
    obtain ⟨_, _, new, ins, rfl⟩ := createAccessToken_inv e
    exact .of_insert { token with status := .active, banReason := "" } new rfl ins
  | setAccessTokenStatus _ status reason =>
    obtain ⟨_, _, rfl⟩ := setAccessTokenStatus_inv e
    exact .of_update (f := fun t => { t with status, banReason := reason }) (fun _ _ => Iff.rfl) rfl rfl
      fun _ => ⟨rfl, rfl⟩
  | rotateAccessToken =>
    obtain ⟨_, tokens, _, alt, rfl⟩ := rotateAccessToken_inv e
    refine ⟨le_rfl, fun t' m => .inr ?_⟩
    obtain ⟨t, mt, rfl⟩ := (mem_alter alt).mp m
    refine ⟨t, mt, ?_⟩
    unfold Table.rewrite
    split
    · rename_i same
      refine ⟨rfl, fun other => absurd ?_ other⟩
      rw [of_decide_eq_true same]
      rfl
    · exact ⟨rfl, fun _ => rfl⟩
  | createPortGrant =>
    obtain ⟨_, _, _, _, rfl⟩ := createPortGrant_inv e
    exact .of_eq rfl rfl
  | upsertDpiPolicy =>
    obtain ⟨_, rfl⟩ := upsertDpiPolicy_inv e
    exact .of_eq rfl rfl

/-- A transaction adds tokens under new ids, deletes some, and rotates at most one. -/
lemma exec_tokens {op} (e : s.exec now op = some s') : s.TokensFrom s' op.rotates := by
  cases op with
  | identity => exact execIdentity_tokens e
  | setClientStatus | touchClientHeartbeat | clearClientPresence | revokeActiveRuntimeLeasesForClient =>
    cases e
    exact .of_eq rfl rfl
  | deleteClient =>
    obtain ⟨_, _, rfl⟩ := deleteClient_inv e
    exact .of_eq rfl rfl

/-! ## What a transaction leaves of the sessions -/

/-- The sessions stay, and every lease is kept under its id and token. -/
structure KeepsSessions (s s' : Store) : Prop where
  sessions : s'.sessions = s.sessions
  leases : ∀ l ∈ s.leases, ∃ l' ∈ s'.leases, l'.leaseId = l.leaseId ∧ l'.tokenId = l.tokenId

/-- Leases and sessions stay. -/
lemma KeepsSessions.of_eq (sessions : s'.sessions = s.sessions) (leases : s'.leases = s.leases) :
    s.KeepsSessions s' :=
  ⟨sessions, fun l m => ⟨l, leases ▸ m, rfl, rfl⟩⟩

/-- Leases are revoked. -/
lemma KeepsSessions.of_revoke {p} (sessions : s'.sessions = s.sessions)
    (leases : s'.leases = revokeLeases s.leases p) : s.KeepsSessions s' := by
  refine ⟨sessions, fun l m => ⟨_, leases ▸ mem_revokeLeases.mpr ⟨l, m, rfl⟩, ?_⟩⟩
  unfold Table.rewrite
  split <;> exact ⟨rfl, rfl⟩

/-- A new lease ends no session. -/
lemma createRuntimeLease_keepsSessions {lease allocations}
    (e : s.createRuntimeLease lease allocations = some s') : s.KeepsSessions s' := by
  obtain ⟨_, issued, rfl⟩ := createRuntimeLease_inv e
  refine ⟨rfl, fun l m => ?_⟩
  refine ⟨_, (mem_insert (LeaseBook.issue_inv issued).1).mpr
    (.inl (mem_revokeLeases.mpr ⟨l, m, rfl⟩)), ?_⟩
  unfold Table.rewrite
  split <;> exact ⟨rfl, rfl⟩

/-- The transactions that end no session. -/
lemma exec_keepsSessions {op} (e : s.exec now op = some s') (keep : op.endsSessions = false) :
    s.KeepsSessions s' := by
  cases op with
  | identity op =>
    cases op with
    | createUser =>
      obtain ⟨_, _, rfl⟩ := createUser_inv e
      exact .of_eq rfl rfl
    | createUserWithAccessToken =>
      obtain ⟨_, _, _, _, _, _, _, rfl⟩ := createUserWithAccessToken_inv e
      exact .of_eq rfl rfl
    | setUserStatus =>
      cases e
      exact .of_eq rfl rfl
    | deleteUser => cases keep
    | upsertUserResourcePolicy =>
      obtain ⟨_, rfl⟩ := upsertUserResourcePolicy_inv e
      exact .of_eq rfl rfl
    | createAccessToken =>
      obtain ⟨_, _, _, _, rfl⟩ := createAccessToken_inv e
      exact .of_eq rfl rfl
    | setAccessTokenStatus =>
      obtain ⟨_, _, rfl⟩ := setAccessTokenStatus_inv e
      exact .of_eq rfl rfl
    | rotateAccessToken =>
      obtain ⟨_, _, _, _, rfl⟩ := rotateAccessToken_inv e
      exact .of_eq rfl rfl
    | createPortGrant =>
      obtain ⟨_, _, _, _, rfl⟩ := createPortGrant_inv e
      exact .of_eq rfl rfl
    | upsertDpiPolicy =>
      obtain ⟨_, rfl⟩ := upsertDpiPolicy_inv e
      exact .of_eq rfl rfl
    | saveUserNodeAccess =>
      cases e
      exact .of_revoke rfl rfl
  | setClientStatus | touchClientHeartbeat | clearClientPresence =>
    cases e
    exact .of_eq rfl rfl
  | deleteClient | revokeActiveRuntimeLeasesForClient => cases keep

end Store

end MeowFrp.Db
