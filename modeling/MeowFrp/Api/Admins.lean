import MeowFrp.Db.Op
import MeowFrp.Lib.Machine

/-!
# The accounts of the administrators

Any number of requests of administrators create, delete, ban and unban accounts (Go `createUser`, `deleteUser`,
`banUser` and `unbanUser` in `httpapi/handlers_admin.go`). A request is let in when its sender is an active
administrator (Go `requireAdmin`) and changes the table `users` later. Creating an account and setting a status
are one statement on that table. Go `DeleteUser` reads the role and counts the other active administrators from
the snapshot of its transaction, and the row is gone with the commit; between the two other requests go on.

The table is that of `Db.Store`. The lemmas `setUserStatus_store` and `deleteUser_store` say that the steps do
to it what the functions of the store do.
-/

namespace MeowFrp.Api.Admins

open Lib Table Option

/-- An active administrator. -/
def isActiveAdmin (u : User) : Bool := u.role = .admin && u.status = .active

def withStatus (status : Status) (reason : String) (u : User) : User := { u with status, banReason := reason }

/-- Go `SetUserStatus` on the table. -/
def setUserStatus (users : Table User) (id : Nat) (status : Status) (reason : String) : Table User :=
  users.update (·.id = id) (withStatus status reason)

/-- What Go `DeleteUser` reads: the role of the account. -/
def checkDelete (users : Table User) (id : Nat) : Option Role :=
  match users.find? (·.id = id) with
  | none => none
  | some user =>
    if user.role = .admin && !users.any (fun u => isActiveAdmin u && u.id ≠ id) then none else some user.role

lemma setUserStatus_store {s : Db.Store} {id : Nat} {status : Status} {reason : String} :
    (s.setUserStatus id status reason).users = setUserStatus s.users id status reason := rfl

/-- A deletion with nothing in between is that of the store. -/
lemma deleteUser_store {s s' : Db.Store} {id : Nat} (e : s.deleteUser id = some s') :
    (checkDelete s.users id).isSome = true ∧ s'.users = s.users.delete (·.id = id) := by
  refine ⟨?_, ?_⟩
  · simp only [Db.Store.deleteUser, bind_eq_bind, bind_eq_some_iff] at e
    obtain ⟨_, found, e⟩ := e
    split at e
    · cases e
    · rename_i allowed
      rw [checkDelete, found]
      dsimp only
      rw [if_neg]
      · rfl
      · simpa only [isActiveAdmin] using allowed
  · obtain ⟨_, _, rfl⟩ := Db.Store.deleteUser_inv e
    rfl

/-- What a request asks for. -/
inductive Operation where
  | createUser (username : String) (role : Role)
  | deleteUser (id : Nat)
  | banUser (id : Nat) (reason : String)
  | unbanUser (id : Nat)
  deriving DecidableEq, Repr

/-- A request that was let in. -/
structure Request where
  id : Nat
  /-- Go `currentUser` -/
  admin : Nat
  operation : Operation
  /-- the role of the account to delete, once it is checked -/
  checked : Option Role := none
  deriving DecidableEq, Repr

instance : Schema Request where
  clash a b := a.id = b.id
  symm := Eq.symm
  dec a b := inferInstanceAs (Decidable (a.id = b.id))

structure System where
  users : Table User := ∅
  /-- the last id of `AUTO_INCREMENT` -/
  userSeq : Nat := 0
  requests : Table Request := ∅

inductive Action where
  | start (id admin : Nat) (operation : Operation)
  /-- the next transaction, or its next part; `fails` is an error of the database -/
  | next (id : Nat) (fails : Bool)

namespace System

/-- The request is answered. -/
def leave (s : System) (id : Nat) : System := { s with requests := s.requests.delete (·.id = id) }

/-- Go `CreateUser` or `CreateUserWithAccessToken`; a name in use is an error. -/
def createUser (s : System) (username : String) (role : Role) : System :=
  if s.users.any (·.username = username) then s
  else
    match s.users.insert { id := s.userSeq + 1, username, role, status := .active, id_pos := Nat.succ_pos _ } with
    | some users => { s with users, userSeq := s.userSeq + 1 }
    | none => s

def proceed (s : System) (r : Request) (fails : Bool) : System :=
  if fails then s.leave r.id
  else
    match r.operation with
    | .createUser username role => (s.createUser username role).leave r.id
    | .banUser id reason =>
      let reason := if trimSpace reason = "" then "banned by administrator" else reason
      System.leave { s with users := setUserStatus s.users id .banned reason } r.id
    | .unbanUser id => System.leave { s with users := setUserStatus s.users id .active "" } r.id
    | .deleteUser id =>
      match r.checked with
      | some _ => System.leave { s with users := s.users.delete (·.id = id) } r.id
      | none =>
        -- an administrator cannot delete the own account
        if r.admin = id then s.leave r.id
        else
          match checkDelete s.users id with
          | none => s.leave r.id
          | some role => { s with requests := s.requests.put { r with checked := some role } }

def step (s : System) : Action → Option System
  | .start id admin operation =>
    if s.users.any (fun u => u.id = admin && isActiveAdmin u) then
      (s.requests.insert { id, admin, operation }).map fun requests => { s with requests }
    else some s
  | .next id fails => (s.requests.find? (·.id = id)).map (s.proceed · fails)

/-- There is an active administrator. -/
def HasAdmin (s : System) : Prop := ∃ u ∈ s.users, isActiveAdmin u = true

end System

/-- A controller after its setup. -/
def machine : Machine System Action where
  Init s := s.HasAdmin ∧ (∀ u ∈ s.users, u.id ≤ s.userSeq) ∧ s.requests = ∅
  step := System.step

/-- An administrator's deletion is between its check and its commit. -/
def Request.deletesAdmin (r : Request) : Bool :=
  match r.operation with
  | .deleteUser _ => r.checked = some .admin
  | _ => false

/-- An administrator is banned only when another one is active; and at a ban, as at the check of a deletion,
no deletion of an administrator is between its check and its commit. -/
def Request.Careful (s : System) (r : Request) : Prop :=
  match r.operation with
  | .banUser target _ => ∀ u ∈ s.users.rows, u.id = target → isActiveAdmin u = true →
      (∃ o ∈ s.users.rows, isActiveAdmin o = true ∧ o.id ≠ target) ∧
        ∀ o ∈ s.requests.rows, o.deletesAdmin = false
  | .deleteUser _ => r.checked = none → ∀ o ∈ s.requests.rows, o.deletesAdmin = false
  | .createUser _ _ | .unbanUser _ => True

@[inherit_doc Request.Careful]
def Careful (s : System) : Action → Prop
  | .start _ _ _ => True
  | .next id _ => ∀ r ∈ s.requests.rows, r.id = id → r.Careful s

instance (s : System) (r : Request) : Decidable (Request.Careful s r) := by
  unfold Request.Careful
  split <;> infer_instance

instance (s : System) : (a : Action) → Decidable (Careful s a)
  | .start _ _ _ => inferInstanceAs (Decidable True)
  | .next _ _ => inferInstanceAs (Decidable (∀ r ∈ s.requests.rows, _))

variable {s s' : System} {r : Request}

/-- What is known while the accounts change. -/
structure Good (s : System) : Prop where
  admin : s.HasAdmin
  ids : ∀ u ∈ s.users, u.id ≤ s.userSeq
  /-- a deletion that has checked an account -/
  checked : ∀ r ∈ s.requests, ∀ id role, r.operation = .deleteUser id → r.checked = some role →
    id ≤ s.userSeq ∧ (∀ u ∈ s.users, u.id = id → u.role = role) ∧
    (role = .admin → ∃ u ∈ s.users, isActiveAdmin u = true ∧ u.id ≠ id)
  alone : ∀ a ∈ s.requests, ∀ b ∈ s.requests, a.deletesAdmin = true → b.deletesAdmin = true → a = b

variable {id target : Nat} {users : Table User} {role : Role} {status : Status} {reason : String}

lemma deletesAdmin_of (deletes : r.operation = .deleteUser id) (checked : r.checked = some .admin) :
    r.deletesAdmin = true := by
  rw [Request.deletesAdmin, deletes, checked]
  rfl

lemma Good.leave (good : Good s) : Good (s.leave id) where
  admin := good.admin
  ids := good.ids
  checked r mem := good.checked r (mem_delete_key.mp mem).1
  alone a ma b mb := good.alone a (mem_delete_key.mp ma).1 b (mem_delete_key.mp mb).1

/-- A request changes the accounts and leaves: roles stay, and no other deletion takes the only administrator
that is left. -/
lemma Good.change (good : Good s) {userSeq : Nat} (admin : ∃ u ∈ users, isActiveAdmin u = true)
    (ids : ∀ u ∈ users, u.id ≤ userSeq) (grows : s.userSeq ≤ userSeq)
    (roles : ∀ u' ∈ users, u'.id ≤ s.userSeq → ∃ u ∈ s.users, u.id = u'.id ∧ u.role = u'.role)
    (others : ∀ r ∈ s.requests, r.id ≠ id → ∀ target, r.operation = .deleteUser target → r.checked = some .admin →
      ∃ u ∈ users, isActiveAdmin u = true ∧ u.id ≠ target) :
    Good (System.leave { s with users, userSeq } id) where
  admin := admin
  ids := ids
  checked r mem target role deletes checked := by
    obtain ⟨there, other⟩ := mem_delete_key.mp mem
    obtain ⟨le, same, _⟩ := good.checked r there target role deletes checked
    refine ⟨Nat.le_trans le grows, ?_, ?_⟩
    · intro u' mem' at_
      obtain ⟨u, old, id, role⟩ := roles u' mem' (at_ ▸ le)
      exact role.symm.trans (same u old (id.trans at_))
    · rintro rfl
      exact others r there other target deletes checked
  alone a ma b mb := good.alone a (mem_delete_key.mp ma).1 b (mem_delete_key.mp mb).1

/-- A new account has an id of its own. -/
lemma Good.createUser (good : Good s) {username : String} :
    Good ((s.createUser username role).leave id) := by
  unfold System.createUser
  split
  · exact good.leave
  · split
    · rename_i users inserted
      have mem_iff := fun u => mem_insert (w := u) inserted
      have old : ∀ u ∈ s.users, u ∈ users := fun u mem => (mem_iff u).mpr (.inl mem)
      refine good.change ?_ ?_ (Nat.le_succ _) ?_ ?_
      · obtain ⟨u, mem, active⟩ := good.admin
        exact ⟨u, old u mem, active⟩
      · intro u mem
        obtain there | rfl := (mem_iff u).mp mem
        · exact Nat.le_succ_of_le (good.ids u there)
        · exact Nat.le_refl _
      · intro u mem le
        obtain there | rfl := (mem_iff u).mp mem
        · exact ⟨u, there, rfl, rfl⟩
        · exact absurd le (Nat.not_succ_le_self _)
      · intro r there _ target deletes checked
        obtain ⟨_, _, other⟩ := good.checked r there target .admin deletes checked
        obtain ⟨u, mem, active⟩ := other rfl
        exact ⟨u, old u mem, active⟩
    · exact good.leave

/-- After a status is set, an account has the id and the role it had. -/
lemma mem_setUserStatus {u' : User}
    (mem : u' ∈ setUserStatus users id status reason) : ∃ u ∈ users, u.id = u'.id ∧ u.role = u'.role := by
  unfold setUserStatus at mem
  obtain ⟨u, there, rfl⟩ := mem_update.mp mem
  refine ⟨u, there, ?_⟩
  unfold Table.rewrite
  split
  · exact ⟨rfl, rfl⟩
  · exact ⟨rfl, rfl⟩

/-- The others keep their status. -/
lemma mem_setUserStatus_of_ne {u : User}
    (mem : u ∈ users) (other : u.id ≠ id) : u ∈ setUserStatus users id status reason := by
  unfold setUserStatus
  refine mem_update.mpr ⟨u, mem, ?_⟩
  rw [Table.rewrite, if_neg]
  simpa using other

/-- A status is set, and the administrators that are needed stay active. -/
lemma Good.setUserStatus (good : Good s)
    (admin : ∃ u ∈ Admins.setUserStatus s.users target status reason, isActiveAdmin u = true)
    (others : ∀ r ∈ s.requests, ∀ deleted, r.operation = .deleteUser deleted → r.checked = some .admin →
      ∃ u ∈ Admins.setUserStatus s.users target status reason, isActiveAdmin u = true ∧ u.id ≠ deleted) :
    Good (System.leave { s with users := Admins.setUserStatus s.users target status reason } id) := by
  refine @Good.change s _ _ good s.userSeq admin ?_ (Nat.le_refl _) ?_ fun r mem _ => others r mem
  · intro u mem
    obtain ⟨old, there, id, _⟩ := mem_setUserStatus mem
    exact id ▸ good.ids old there
  · intro u mem _
    exact mem_setUserStatus mem

/-- A ban leaves an administrator that is needed. -/
lemma Good.ban (good : Good s)
    (careful : ∀ u ∈ s.users, u.id = target → isActiveAdmin u = true →
      (∃ o ∈ s.users, isActiveAdmin o = true ∧ o.id ≠ target) ∧ ∀ o ∈ s.requests, o.deletesAdmin = false) :
    Good (System.leave { s with users := Admins.setUserStatus s.users target .banned reason } id) := by
  refine good.setUserStatus ?_ ?_
  · obtain ⟨u, mem, active⟩ := good.admin
    by_cases same : u.id = target
    · obtain ⟨⟨o, there, active, other⟩, _⟩ := careful u mem same active
      exact ⟨o, mem_setUserStatus_of_ne there other, active⟩
    · exact ⟨u, mem_setUserStatus_of_ne mem same, active⟩
  · intro r there deleted deletes checked
    obtain ⟨_, _, other⟩ := good.checked r there deleted .admin deletes checked
    obtain ⟨u, mem, active, ne⟩ := other rfl
    by_cases same : u.id = target
    · have idle := (careful u mem same active).2 r there
      rw [deletesAdmin_of deletes checked] at idle
      cases idle
    · exact ⟨u, mem_setUserStatus_of_ne mem same, active, ne⟩

/-- An active administrator stays active when someone is unbanned. -/
lemma mem_unban {u : User} (mem : u ∈ users) (active : isActiveAdmin u = true) :
    ∃ u' ∈ setUserStatus users target .active "", isActiveAdmin u' = true ∧ u'.id = u.id := by
  unfold setUserStatus
  refine ⟨_, mem_update.mpr ⟨u, mem, rfl⟩, ?_⟩
  unfold Table.rewrite
  split
  · simp only [isActiveAdmin, Bool.and_eq_true, decide_eq_true_eq] at active
    refine ⟨?_, rfl⟩
    simp only [isActiveAdmin, withStatus, active.1]
    rfl
  · exact ⟨active, rfl⟩

lemma Good.unban (good : Good s) :
    Good (System.leave { s with users := Admins.setUserStatus s.users target .active "" } id) := by
  refine good.setUserStatus ?_ ?_
  · obtain ⟨_, mem, active⟩ := good.admin
    obtain ⟨u', mem', active', _⟩ := mem_unban mem active
    exact ⟨u', mem', active'⟩
  · intro r there deleted deletes checked
    obtain ⟨_, _, other⟩ := good.checked r there deleted .admin deletes checked
    obtain ⟨_, mem, active, ne⟩ := other rfl
    obtain ⟨u', mem', active', id⟩ := mem_unban mem active
    exact ⟨u', mem', active', id ▸ ne⟩

/-- The deletion that was checked is committed. -/
lemma Good.delete (good : Good s) (mem : r ∈ s.requests)
    (deletes : r.operation = .deleteUser target) (checked : r.checked = some role) :
    Good (System.leave { s with users := s.users.delete (·.id = target) } r.id) := by
  have stays : ∀ u ∈ s.users, u.id ≠ target → u ∈ s.users.delete (·.id = target) :=
    fun u there other => mem_delete.mpr ⟨there, decide_eq_false other⟩
  obtain ⟨_, same, left⟩ := good.checked r mem target role deletes checked
  refine @Good.change s _ _ good s.userSeq ?_ ?_ (Nat.le_refl _) ?_ ?_
  · cases role with
    | admin =>
      obtain ⟨u, there, active, other⟩ := left rfl
      exact ⟨u, stays u there other, active⟩
    | user =>
      obtain ⟨u, there, active⟩ := good.admin
      refine ⟨u, stays u there fun at_ => ?_, active⟩
      rw [isActiveAdmin, same u there at_] at active
      cases active
  · exact fun u there => good.ids u (mem_delete.mp there).1
  · exact fun u there _ => ⟨u, (mem_delete.mp there).1, rfl, rfl⟩
  · intro r' there other target' deletes' checked'
    obtain ⟨_, _, left'⟩ := good.checked r' there target' .admin deletes' checked'
    obtain ⟨u, mem', active, ne⟩ := left' rfl
    refine ⟨u, stays u mem' fun at_ => ?_, active, ne⟩
    -- the account that goes is an administrator, so that both requests delete one
    have admin : role = .admin := by
      simp only [isActiveAdmin, Bool.and_eq_true, decide_eq_true_eq] at active
      exact (same u mem' at_).symm.trans active.1
    rw [admin] at checked
    exact other (congrArg _ (good.alone r' there r mem (deletesAdmin_of deletes' checked')
      (deletesAdmin_of deletes checked)))

/-- What the check of a deletion says. -/
lemma checkDelete_some (e : checkDelete users id = some role) :
    ∃ user ∈ users, user.id = id ∧ user.role = role ∧
      (role = .admin → ∃ u ∈ users, isActiveAdmin u = true ∧ u.id ≠ id) := by
  unfold checkDelete at e
  split at e
  · cases e
  · rename_i user found
    have mem := mem_of_find? found
    have at_ := find?_prop found
    rw [decide_eq_true_eq] at at_
    split at e
    · cases e
    · rename_i allowed
      cases e
      refine ⟨user, mem, at_, rfl, fun admin => ?_⟩
      rw [decide_eq_true admin, Bool.true_and, Bool.not_eq_true', Bool.not_eq_false] at allowed
      obtain ⟨u, there, other⟩ := any_eq_true.mp allowed
      rw [Bool.and_eq_true, decide_eq_true_eq] at other
      exact ⟨u, there, other⟩

/-- A deletion is checked while no other one is on its way. -/
lemma Good.check (good : Good s)
    (deletes : r.operation = .deleteUser target) (e : checkDelete s.users target = some role)
    (free : ∀ o ∈ s.requests, o.deletesAdmin = false) :
    Good { s with requests := s.requests.put { r with checked := some role } } where
  admin := good.admin
  ids := good.ids
  checked r' mem' id role' deletes' checked' := by
    obtain ⟨there, _⟩ | rfl := mem_put.mp mem'
    · exact good.checked r' there id role' deletes' checked'
    · cases deletes.symm.trans deletes'
      cases checked'
      obtain ⟨user, there, at_, is, left⟩ := checkDelete_some e
      refine ⟨at_ ▸ good.ids user there, fun u mem same => ?_, left⟩
      rw [eq_of_clash mem there (same.trans at_.symm)]
      exact is
  alone a ma b mb da db := by
    obtain ⟨there, _⟩ | rfl := mem_put.mp ma
    · cases (free a there).symm.trans da
    · obtain ⟨there, _⟩ | rfl := mem_put.mp mb
      · cases (free b there).symm.trans db
      · rfl

lemma Good.step {a : Action} (good : Good s) (careful : Careful s a) (st : s.step a = some s') : Good s' := by
  cases a with
  | start _ _ operation =>
    simp only [System.step] at st
    split at st
    · obtain ⟨requests, inserted, rfl⟩ := map_eq_some_iff.mp st
      refine ⟨good.admin, good.ids, ?_, ?_⟩
      · intro r mem target role deletes checked
        obtain there | rfl := (mem_insert inserted).mp mem
        · exact good.checked r there target role deletes checked
        · cases checked
      · intro a ma b mb da db
        have fresh : ∀ {r}, r ∈ requests → r.deletesAdmin = true → r ∈ s.requests := by
          intro r mem deletes
          obtain there | rfl := (mem_insert inserted).mp mem
          · exact there
          · cases operation <;> cases deletes
        exact good.alone a (fresh ma da) b (fresh mb db) da db
    · cases st
      exact good
  | next =>
    obtain ⟨r, found, rfl⟩ := map_eq_some_iff.mp st
    have mem := mem_of_find? found
    have at_ := find?_prop found
    rw [decide_eq_true_eq] at at_
    have careful := careful r mem at_
    unfold System.proceed
    split
    · exact good.leave
    · split
      · exact good.createUser
      · rename_i target reason asks
        rw [Request.Careful, asks] at careful
        exact good.ban careful
      · exact good.unban
      · rename_i target asks
        rw [Request.Careful, asks] at careful
        split
        · rename_i role checked
          exact good.delete mem asks checked
        · rename_i unchecked
          split
          · exact good.leave
          · split
            · exact good.leave
            · rename_i role e
              exact good.check asks e (careful unchecked)

/-- When bans leave another administrator and nothing comes between the check and the commit of a deletion, there
is always an active administrator. -/
theorem active_admin_remains (reach : machine.ReachableAlong Careful s) : s.HasAdmin := by
  have good : Good s := by
    refine reach.inv ?_ fun s a s' => Good.step
    rintro _ ⟨admin, ids, requests⟩
    exact ⟨admin, ids, by simp [requests], by simp [requests]⟩
  exact good.admin

/-- The administrator of the setup. -/
def root : User := { id := 1, username := "root", role := .admin, status := .active, id_pos := Nat.one_pos }

def sampleSystem : System where
  users := ⟨[root], List.pairwise_singleton _ _⟩
  userSeq := 1

lemma sampleSystem_init : machine.Init sampleSystem := by
  refine ⟨⟨root, List.mem_singleton_self _, rfl⟩, ?_, rfl⟩
  intro u mem
  cases List.mem_singleton.mp mem
  exact Nat.le_refl 1

/-- The only administrator bans the own account. -/
theorem last_admin_banned : ∃ s, machine.Reachable s ∧ s.requests.rows = [] ∧ ¬ s.HasAdmin := by
  refine ⟨_, ⟨sampleSystem, [.start 1 1 (.banUser 1 ""), .next 1 false], sampleSystem_init, rfl⟩, rfl, ?_⟩
  rintro ⟨_, mem, active⟩
  cases List.mem_singleton.mp mem
  cases active

/-- A second administrator is created and deletes the first one. -/
theorem active_admin_remains_second : ∃ s, machine.ReachableAlong Careful s ∧ s.users.rows.map (·.id) = [2] ∧
    s.HasAdmin := by
  let acts : List Action := [.start 1 1 (.createUser "second" .admin), .next 1 false,
    .start 2 2 (.deleteUser 1), .next 2 false, .next 2 false]
  obtain ⟨s, run, ids⟩ : ∃ s, machine.run sampleSystem acts = some s ∧ s.users.rows.map (·.id) = [2] :=
    ⟨_, rfl, rfl⟩
  have reach : machine.ReachableAlong Careful s :=
    ⟨sampleSystem, acts, sampleSystem_init, .of_along (by decide +kernel), run⟩
  exact ⟨s, reach, ids, active_admin_remains reach⟩

end MeowFrp.Api.Admins
