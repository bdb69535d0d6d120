import MeowFrp.Lib.Machine
import MeowFrp.Lib.Table

/-!
# The initial setup

Any number of requests of Go `setupAdmin` run against a controller that is not configured, on one database. A
request asks three times whether the system is initialised: in memory, in the table `system_settings`, and in
the transaction of Go `CreateInitialAdmin`, which counts the administrators. All three are reads that take no
lock, and the transaction reads from its snapshot. Each read, each statement and each effect in memory is a step.

An inserted user is seen by others after the commit only. An insert waits for another transaction that has
inserted the same name, and the row of `system_settings` is locked from its insert on to the end of the
transaction. The checks of a request that read nothing shared stand before its first step. `succeeded` is not in
the source: it is the number of requests that were answered with success.
-/

namespace MeowFrp.Api.Setup

open Lib Table

/-- What a request has done. -/
inductive Stage where
  /-- the configuration in memory was not initialised -/
  | checked
  /-- the store is there -/
  | opened
  /-- Go `IsInitialized` was false -/
  | verified
  /-- Go `prepareFRPIdentity` has returned -/
  | prepared
  /-- the transaction has counted no administrator -/
  | counted
  | inserted
  /-- the row `initialized` is written and locked -/
  | marked
  | committed
  /-- Go `GetUserByID` has returned -/
  | read
  /-- the config file is written -/
  | written
  /-- Go `setRuntime` has put the configuration in place -/
  | installed
  deriving DecidableEq, Repr

/-- The transaction of `CreateInitialAdmin` is open and has counted. -/
def Stage.inTransaction : Stage → Bool
  | .counted | .inserted | .marked => true
  | _ => false

/-- A request in progress. -/
structure Request where
  id : Nat
  username : String
  /-- it has the data of the database, which is opened first -/
  database : Bool
  stage : Stage := .checked
  deriving DecidableEq, Repr

def Request.at (stage : Stage) (r : Request) : Request := { r with stage }

instance : Schema Request where
  clash a b := a.id = b.id
  symm := Eq.symm
  dec a b := inferInstanceAs (Decidable (a.id = b.id))

/-- A row of the table `users`. -/
structure User where
  username : String
  /-- the role is `admin` -/
  admin : Bool
  deriving DecidableEq, Repr

structure System where
  /-- `cfg.Initialized` in memory -/
  initialized : Bool := false
  /-- the row `initialized` of `system_settings` is `true` -/
  marked : Bool := false
  users : List User := []
  requests : Table Request := ∅
  succeeded : Nat := 0

/-- What happens to the next call; only a commit may be lost. -/
inductive Fault where
  | none
  | failed
  | lost
  deriving DecidableEq, Repr

inductive Action where
  | start (id : Nat) (username : String) (database : Bool)
  | next (id : Nat) (fault : Fault)

namespace System

/-- `SELECT COUNT(*) FROM users WHERE role='admin'`. -/
def adminCount (s : System) : Nat := s.users.countP (·.admin)

def goto (s : System) (id : Nat) (stage : Stage) : System :=
  { s with requests := s.requests.update (·.id = id) (Request.at stage) }

/-- The request is answered. -/
def leave (s : System) (id : Nat) : System := { s with requests := s.requests.delete (·.id = id) }

/-- The transaction becomes visible. -/
def commit (s : System) (r : Request) : System :=
  { s with users := s.users ++ [{ username := r.username, admin := true }], marked := true }

/-- The next call of Go `setupAdmin`; `none` if it has to wait. -/
def proceed (s : System) (r : Request) (fault : Fault) : Option System :=
  match r.stage with
  | .checked =>
    -- there is no store, or it cannot be opened or migrated, or the file cannot be written
    if fault ≠ .none then some (s.leave r.id)
    -- a new store is put in place together with the copy of the configuration
    else some (System.goto { s with initialized := s.initialized && !r.database } r.id .opened)
  | .opened => if fault ≠ .none || s.marked then some (s.leave r.id) else some (s.goto r.id .verified)
  | .verified => if fault ≠ .none then some (s.leave r.id) else some (s.goto r.id .prepared)
  | .prepared =>
    if fault ≠ .none || 0 < s.adminCount then some (s.leave r.id) else some (s.goto r.id .counted)
  | .counted =>
    if fault ≠ .none then some (s.leave r.id)
    else if s.requests.any fun o => o.id ≠ r.id && (o.stage = .inserted || o.stage = .marked) &&
        o.username = r.username then none
    else if s.users.any (·.username = r.username) then some (s.leave r.id)
    else some (s.goto r.id .inserted)
  | .inserted =>
    if fault ≠ .none then some (s.leave r.id)
    else if s.requests.any fun o => o.id ≠ r.id && o.stage = .marked then none
    else some (s.goto r.id .marked)
  | .marked =>
    match fault with
    | .failed => some (s.leave r.id)
    | .lost => some ((s.commit r).leave r.id)
    | .none => some ((s.commit r).goto r.id .committed)
  | .committed => if fault ≠ .none then some (s.leave r.id) else some (s.goto r.id .read)
  | .read => if fault ≠ .none then some (s.leave r.id) else some (s.goto r.id .written)
  | .written => some (System.goto { s with initialized := true } r.id .installed)
  | .installed =>
    -- a token for the browser is issued
    if fault ≠ .none then some (s.leave r.id)
    else some (System.leave { s with succeeded := s.succeeded + 1 } r.id)

def step (s : System) : Action → Option System
  | .start id username database =>
    if s.initialized then some s
    else (s.requests.insert { id, username, database }).map fun requests => { s with requests }
  | .next id fault =>
    match s.requests.find? (·.id = id) with
    | some r => s.proceed r fault
    | none => none

end System

/-- A controller that is not configured; the database may have users. -/
def machine : Machine System Action where
  Init s := s.initialized = false ∧ s.requests = ∅ ∧ s.succeeded = 0
  step := System.step

/-- No other transaction is between its count and its end when one counts. -/
def Alone (s : System) : Action → Prop
  | .start _ _ _ => True
  | .next id _ => ∀ r ∈ s.requests.rows, r.id = id → r.stage = .prepared →
      ∀ o ∈ s.requests.rows, o.stage.inTransaction = false

instance (s : System) : (a : Action) → Decidable (Alone s a)
  | .start _ _ _ => inferInstanceAs (Decidable True)
  | .next _ _ => inferInstanceAs (Decidable (∀ r ∈ s.requests.rows, _))

/-! ## Requests one after the other -/

/-- The request has counted. -/
def Stage.past : Stage → Bool
  | .counted | .inserted | .marked | .committed | .read | .written | .installed => true
  | .checked | .opened | .verified | .prepared => false

/-- At most one request is past its count; it has found no administrator, brings one and is answered with
success. -/
structure Good (requests : Table Request) (admins succeeded : Nat) : Prop where
  alone : ∀ a ∈ requests, ∀ b ∈ requests, a.stage.past = true → b.stage.past = true → a = b
  none_yet : ∀ r ∈ requests, r.stage.past = true → succeeded = 0
  before : ∀ r ∈ requests, r.stage.inTransaction = true → admins = 0
  after : ∀ r ∈ requests, r.stage.past = true → r.stage.inTransaction = false → admins = 1
  once : succeeded ≤ 1
  admin : succeeded = 1 → admins = 1

variable {requests requests' : Table Request} {admins succeeded : Nat} {r r' : Request} {s s' : System}

lemma past_of_inTransaction (inside : r.stage.inTransaction = true) : r.stage.past = true := by
  cases at_ : r.stage with
  | counted | inserted | marked => rfl
  | _ =>
    rw [at_] at inside
    cases inside

/-- No new request is past its count. -/
lemma Good.of_subset (good : Good requests admins succeeded)
    (sub : ∀ r ∈ requests', r.stage.past = true → r ∈ requests) : Good requests' admins succeeded where
  alone a ma b mb pa pb := good.alone a (sub a ma pa) b (sub b mb pb) pa pb
  none_yet r mem past := good.none_yet r (sub r mem past) past
  before r mem inside := good.before r (sub r mem (past_of_inTransaction inside)) inside
  after r mem past := good.after r (sub r mem past) past
  once := good.once
  admin := good.admin

/-- Only one request is past its count. -/
lemma Good.of_single (single : ∀ r ∈ requests', r.stage.past = true → r = r')
    (before : r'.stage.inTransaction = true → admins = 0) (after : r'.stage.inTransaction = false → admins = 1) :
    Good requests' admins 0 where
  alone a ma b mb pa pb := (single a ma pa).trans (single b mb pb).symm
  none_yet _ _ _ := rfl
  before r mem inside := by
    cases single r mem (past_of_inTransaction inside)
    exact before inside
  after r mem past outside := by
    cases single r mem past
    exact after outside
  once := Nat.zero_le 1
  admin := nofun

/-- No request is past its count. -/
lemma Good.of_none (none : ∀ r ∈ requests', r.stage.past = false) (once : succeeded ≤ 1)
    (admin : succeeded = 1 → admins = 1) : Good requests' admins succeeded :=
  have no : ∀ {r}, r ∈ requests' → r.stage.past ≠ true := fun mem past => by
    cases past.symm.trans (none _ mem)
  ⟨fun _ ma _ _ pa => absurd pa (no ma), fun _ mem past => absurd past (no mem),
    fun _ mem inside => absurd (past_of_inTransaction inside) (no mem),
    fun _ mem past => absurd past (no mem), once, admin⟩

variable {id : Nat} {stage : Stage}

/-- Other requests stay, the one that moves has the new stage. -/
lemma mem_goto (mem : r' ∈ (s.goto id stage).requests) :
    (r' ∈ s.requests ∧ r'.id ≠ id) ∨ ∃ r ∈ s.requests, r.id = id ∧ r' = r.at stage := by
  dsimp only [System.goto] at mem
  obtain ⟨r, there, rfl⟩ := mem_update.mp mem
  unfold Table.rewrite
  split
  · rename_i hit
    exact .inr ⟨r, there, of_decide_eq_true hit, rfl⟩
  · rename_i miss
    exact .inl ⟨there, fun same => miss (decide_eq_true same)⟩

/-- The system as the invariant sees it. -/
def System.Good (s : System) : Prop := Setup.Good s.requests s.adminCount s.succeeded

lemma System.Good.leave (good : s.Good) : (s.leave id).Good :=
  Setup.Good.of_subset good fun _ mem _ => (mem_delete_key.mp mem).1

/-- A request that has not counted moves on. -/
lemma System.Good.goto_early (good : s.Good) {initialized : Bool}
    (early : stage.past = false) :
    (System.goto { s with initialized } id stage).Good := by
  refine Setup.Good.of_subset good fun r mem past => ?_
  obtain ⟨there, _⟩ | ⟨_, _, _, rfl⟩ := mem_goto mem
  · exact there
  · cases early.symm.trans past

/-- The only request past its count moves on. -/
lemma single_goto (mem : r ∈ s.requests) (at_ : r.id = id)
    (single : ∀ o ∈ s.requests, o.stage.past = true → o.id = id) :
    ∀ o ∈ (s.goto id stage).requests, o.stage.past = true → o = r.at stage := by
  intro o there past
  obtain ⟨old, other⟩ | ⟨_, old, same, rfl⟩ := mem_goto there
  · exact absurd (single o old past) other
  · rw [eq_of_clash old mem (same.trans at_.symm)]

lemma System.Good.single (good : s.Good) (mem : r ∈ s.requests) (past : r.stage.past = true) :
    ∀ o ∈ s.requests, o.stage.past = true → o.id = r.id := by
  intro o there past'
  rw [Setup.Good.alone good o there r mem past' past]

/-- The request in the transaction, or after it, moves on. -/
lemma System.Good.goto_late (good : s.Good) {initialized : Bool} (mem : r ∈ s.requests)
    (past : r.stage.past = true) (kept : stage.inTransaction = r.stage.inTransaction) :
    (System.goto { s with initialized } r.id stage).Good := by
  have single : ∀ o ∈ (s.goto r.id stage).requests, o.stage.past = true → o = r.at stage :=
    single_goto mem rfl (good.single mem past)
  have zero : s.succeeded = 0 := Setup.Good.none_yet good r mem past
  change Setup.Good _ s.adminCount s.succeeded
  rw [zero]
  refine .of_single single ?_ ?_
  · intro inside
    exact Setup.Good.before good r mem (kept.symm.trans inside)
  · intro outside
    exact Setup.Good.after good r mem past (kept.symm.trans outside)

/-- A request counts no administrator while no other one is past its count. -/
lemma System.Good.count (good : s.Good) (mem : r ∈ s.requests) (zero : s.adminCount = 0)
    (free : ∀ o ∈ s.requests, o.stage.inTransaction = false) : (s.goto r.id .counted).Good := by
  have early : ∀ o ∈ s.requests, o.stage.past = false := by
    intro o there
    by_contra past
    have one := Setup.Good.after good o there (eq_true_of_ne_false past) (free o there)
    omega
  have none : s.succeeded = 0 := by
    have once := Setup.Good.once good
    have admin := Setup.Good.admin good
    omega
  change Setup.Good _ s.adminCount s.succeeded
  rw [none]
  have single : ∀ o ∈ (s.goto r.id .counted).requests, o.stage.past = true → o = r.at .counted :=
    single_goto mem rfl fun o there past => by cases past.symm.trans (early o there)
  exact .of_single single (fun _ => zero) nofun

lemma adminCount_commit : (s.commit r).adminCount = s.adminCount + 1 := by
  simp only [System.adminCount, System.commit, List.countP_append]
  rfl

/-- The transaction is committed. -/
lemma System.Good.commit (good : s.Good) (mem : r ∈ s.requests) (at_ : r.stage = .marked) :
    ((s.commit r).goto r.id .committed).Good := by
  have past : r.stage.past = true := by rw [at_]; rfl
  have single : ∀ o ∈ ((s.commit r).goto r.id .committed).requests, o.stage.past = true → o = r.at .committed :=
    single_goto (s := s.commit r) mem rfl (good.single mem past)
  have zero : s.succeeded = 0 := Setup.Good.none_yet good r mem past
  have none : s.adminCount = 0 := Setup.Good.before good r mem (by rw [at_]; rfl)
  change Setup.Good _ (s.commit r).adminCount s.succeeded
  rw [zero, adminCount_commit, none]
  exact .of_single single nofun fun _ => rfl

/-- The only request past its count leaves. -/
lemma System.Good.none_left (good : s.Good) (mem : r ∈ s.requests) (past : r.stage.past = true) :
    ∀ o ∈ (s.leave r.id).requests, o.stage.past = false := by
  intro o there
  obtain ⟨there, other⟩ := mem_delete_key.mp there
  by_contra no
  exact other (good.single mem past o there (eq_true_of_ne_false no))

lemma System.Good.proceed {fault : Fault} (good : s.Good) (mem : r ∈ s.requests)
    (alone : r.stage = .prepared → ∀ o ∈ s.requests, o.stage.inTransaction = false)
    (st : s.proceed r fault = some s') : s'.Good := by
  unfold System.proceed at st
  split at st
  case h_1 =>
    split at st
    · cases st
      exact good.leave
    · cases st
      exact good.goto_early rfl
  case h_2 =>
    split at st
    · cases st
      exact good.leave
    · cases st
      exact good.goto_early rfl
  case h_3 =>
    split at st
    · cases st
      exact good.leave
    · cases st
      exact good.goto_early rfl
  case h_4 at_ =>
    split at st
    · cases st
      exact good.leave
    · rename_i counts
      cases st
      simp only [Bool.or_eq_true, decide_eq_true_eq, not_or] at counts
      exact good.count mem (Nat.eq_zero_of_not_pos counts.2) (alone at_)
  case h_5 at_ =>
    split at st
    · cases st
      exact good.leave
    · split at st
      · cases st
      · split at st
        · cases st
          exact good.leave
        · cases st
          exact good.goto_late mem (by rw [at_]; rfl) (by rw [at_]; rfl)
  case h_6 at_ =>
    split at st
    · cases st
      exact good.leave
    · split at st
      · cases st
      · cases st
        exact good.goto_late mem (by rw [at_]; rfl) (by rw [at_]; rfl)
  case h_7 at_ =>
    have past : r.stage.past = true := by rw [at_]; rfl
    split at st
    · cases st
      exact good.leave
    · cases st
      have none : s.succeeded = 0 := Setup.Good.none_yet good r mem past
      refine Setup.Good.of_none (good.none_left mem past) ?_ ?_
      · change s.succeeded ≤ 1
        omega
      · intro one
        cases none.symm.trans one
    · cases st
      exact good.commit mem at_
  case h_8 at_ =>
    split at st
    · cases st
      exact good.leave
    · cases st
      exact good.goto_late mem (by rw [at_]; rfl) (by rw [at_]; rfl)
  case h_9 at_ =>
    split at st
    · cases st
      exact good.leave
    · cases st
      exact good.goto_late mem (by rw [at_]; rfl) (by rw [at_]; rfl)
  case h_10 at_ =>
    cases st
    exact good.goto_late mem (by rw [at_]; rfl) (by rw [at_]; rfl)
  case h_11 at_ =>
    have past : r.stage.past = true := by rw [at_]; rfl
    split at st
    · cases st
      exact good.leave
    · cases st
      have none : s.succeeded = 0 := Setup.Good.none_yet good r mem past
      have one : s.adminCount = 1 := Setup.Good.after good r mem past (by rw [at_]; rfl)
      refine Setup.Good.of_none (good.none_left mem past) ?_ fun _ => one
      change s.succeeded + 1 ≤ 1
      omega

lemma System.Good.step {a : Action} (good : s.Good) (alone : Alone s a) (st : s.step a = some s') : s'.Good := by
  cases a with
  | start =>
    simp only [System.step] at st
    split at st
    · cases st
      exact good
    · obtain ⟨_, inserted, rfl⟩ := Option.map_eq_some_iff.mp st
      refine Setup.Good.of_subset good fun r mem past => ?_
      obtain old | rfl := (mem_insert inserted).mp mem
      · exact old
      · cases past
  | next =>
    simp only [System.step] at st
    split at st
    · rename_i r found
      have mem := mem_of_find? found
      have at_ := find?_prop found
      rw [decide_eq_true_eq] at at_
      exact good.proceed mem (alone r mem at_) st
    · cases st

/-- When the transactions that create the first administrator count one after the other, at most one request is
answered with success, and then there is exactly one administrator. -/
theorem setup_succeeds_once (reach : machine.ReachableAlong Alone s) :
    s.succeeded ≤ 1 ∧ (s.succeeded = 1 → s.adminCount = 1) := by
  have good : s.Good := by
    refine reach.inv (I := System.Good) ?_ fun s a s' => System.Good.step
    rintro _ ⟨_, requests, _⟩
    refine Setup.Good.of_none ?_ (by omega) (by omega)
    rw [requests]
    exact fun _ mem => absurd mem not_mem_empty
  exact ⟨Setup.Good.once good, Setup.Good.admin good⟩

/-- The steps of one request up to its count, and from its insert on. -/
def upToCount (id : Nat) : List Action := List.replicate 4 (.next id .none)

def fromInsert (id : Nat) : List Action := List.replicate 7 (.next id .none)

/-- Two requests with different names count before either has committed; both succeed. -/
theorem setup_succeeds_twice : ∃ s, machine.Reachable s ∧ s.requests.rows = [] ∧ s.succeeded = 2 ∧
    s.adminCount = 2 :=
  ⟨_, ⟨{}, [.start 1 "alice" true, .start 2 "bob" true] ++ upToCount 1 ++ upToCount 2 ++ fromInsert 1 ++ fromInsert 2,
    ⟨rfl, rfl, rfl⟩, rfl⟩, rfl, rfl, rfl⟩

/-- The same two requests, the second of which counts after the first has committed. -/
theorem setup_succeeds_once_late : ∃ s, machine.ReachableAlong Alone s ∧ s.requests.rows = [] ∧
    s.succeeded = 1 ∧ s.adminCount = 1 := by
  let acts := [Action.start 1 "alice" true, .start 2 "bob" true] ++ List.replicate 3 (.next 2 .none) ++
    upToCount 1 ++ fromInsert 1 ++ [.next 2 .none]
  obtain ⟨s, run, finished, one⟩ : ∃ s, machine.run {} acts = some s ∧ s.requests.rows = [] ∧ s.succeeded = 1 :=
    ⟨_, rfl, rfl, rfl⟩
  have reach : machine.ReachableAlong Alone s := ⟨{}, acts, ⟨rfl, rfl, rfl⟩, .of_along (by decide +kernel), run⟩
  exact ⟨s, reach, finished, one, (setup_succeeds_once reach).2 one⟩

end MeowFrp.Api.Setup
