import MeowFrp.Data.Models

/-!
# Identity snapshots

The payload of an identity page (Go `cluster.IdentitySnapshot`, `internal/cluster/protocol.go`). The
controller builds it, the edge applies it; it comes in three kinds, told apart by its flags: a full
snapshot, a page of a baseline, and an incremental update of the named users.
-/

namespace MeowFrp

open List

/-- Go `cluster.IdentitySnapshot`. -/
structure IdentitySnapshot where
  baseline : Bool := false
  baselineEnd : Bool := false
  replaceBlockedIps : Bool := false
  incremental : Bool := false
  removedUserIds : List Nat := []
  nodeAccessEnforced : Bool := true
  revision : Nat
  users : List User := []
  tokens : List AccessToken := []
  policies : List UserResourcePolicy := []
  grants : List PortGrant := []
  dpiPolicies : List DpiPolicy := []
  blockedIps : List BlockedIp := []
  removedBlockedIps : List String := []
  deriving DecidableEq, Repr

/-- Rows for the five cached tables of an edge. -/
@[ext]
structure CacheRows where
  users : List User := []
  tokens : List AccessToken := []
  policies : List UserResourcePolicy := []
  grants : List PortGrant := []
  dpiPolicies : List DpiPolicy := []

namespace CacheRows

instance : Append CacheRows where
  append a b := ⟨a.users ++ b.users, a.tokens ++ b.tokens, a.policies ++ b.policies,
    a.grants ++ b.grants, a.dpiPolicies ++ b.dpiPolicies⟩

instance : EmptyCollection CacheRows := ⟨{}⟩

lemma append_assoc (a b c : CacheRows) : a ++ b ++ c = a ++ (b ++ c) := by
  ext1 <;> exact List.append_assoc _ _ _

@[simp]
lemma append_empty (a : CacheRows) : a ++ ∅ = a := by
  ext1 <;> exact append_nil _

@[simp]
lemma empty_append (a : CacheRows) : ∅ ++ a = a := rfl

/-- No two rows of a table clash, so all of them can be stored. -/
structure Storable (r : CacheRows) : Prop where
  users : r.users.Pairwise fun a b => ¬ Lib.Schema.clash a b
  tokens : r.tokens.Pairwise fun a b => ¬ Lib.Schema.clash a b
  policies : r.policies.Pairwise fun a b => ¬ Lib.Schema.clash a b
  grants : r.grants.Pairwise fun a b => ¬ Lib.Schema.clash a b
  dpiPolicies : r.dpiPolicies.Pairwise fun a b => ¬ Lib.Schema.clash a b

/-- The first part of storable rows is storable. -/
lemma Storable.left {a b : CacheRows} (st : Storable (a ++ b)) : Storable a :=
  ⟨(pairwise_append.mp st.users).1, (pairwise_append.mp st.tokens).1,
    (pairwise_append.mp st.policies).1, (pairwise_append.mp st.grants).1,
    (pairwise_append.mp st.dpiPolicies).1⟩

end CacheRows

namespace IdentitySnapshot

/-- The users an incremental snapshot replaces: removed and listed ones. -/
def affected (snap : IdentitySnapshot) : List Nat :=
  snap.removedUserIds ++ snap.users.map User.id

/-- The snapshot ends a transfer: after it the edge judges the leases. -/
def ends (snap : IdentitySnapshot) : Bool := !snap.baseline || snap.baselineEnd

/-- A full snapshot, or the last page of a baseline. -/
def completes (snap : IdentitySnapshot) : Bool := !snap.incremental && snap.ends

/-- Ban reason where the controller does not enforce node access. -/
def notEnforcedReason : String := "中心尚未同步节点权限，请升级中心服务端"

/-- The users as the edge stores them: banned unless the controller enforces node access. -/
def storedUsers (snap : IdentitySnapshot) : List User :=
  if snap.nodeAccessEnforced then snap.users
  else snap.users.map fun u => { u with status := .banned, banReason := notEnforcedReason }

/-- The rows an edge inserts for the snapshot. -/
def rows (snap : IdentitySnapshot) : CacheRows :=
  ⟨snap.storedUsers, snap.tokens, snap.policies, snap.grants, snap.dpiPolicies⟩

/-- The rows of several snapshots, in order. -/
def rowsOf : List IdentitySnapshot → CacheRows
  | [] => ∅
  | snap :: snaps => snap.rows ++ rowsOf snaps

@[simp]
lemma rowsOf_singleton {snap} : rowsOf [snap] = snap.rows := CacheRows.append_empty _

/-- The rows of pages come page by page. -/
lemma rowsOf_append {snaps snaps'} : rowsOf (snaps ++ snaps') = rowsOf snaps ++ rowsOf snaps' := by
  induction snaps with
  | nil => rfl
  | cons _ _ ih => rw [cons_append, rowsOf, rowsOf, ih, CacheRows.append_assoc]

end IdentitySnapshot

end MeowFrp
