import MeowFrp.Node.ControllerSteps

/-!
# The controller's outage fallback

During an outage the controller answers keepalives from the leases it remembers in memory. Bans, node
access changes, device terminations and releases commit their transaction first and invalidate the
remembered leases in a later step of the same request; a login validates first and remembers later.

The invariant is that a remembered lease is permitted by the committed database, or one of the requests
in progress is about to invalidate it. `FallbackSafe` names the steps that break it: user and device
deletions invalidate *before* their transaction, a bootstrap that replaces a lease does not invalidate
the old one at all, a client ban that could not read its row has nothing to invalidate, a transaction
can fall between the two steps of a login, and memory compares client and lease ids exactly where the
database goes by its collation.
-/

namespace MeowFrp.Node

open Lib MeowFrp.Core List Function Db.Store

/-- The effects will invalidate the remembered lease. -/
def invalidates (l : RuntimeLease) : List Effect → Bool
  | [] => false
  | .terminate target :: rest => (target.valid && target.covers l) || invalidates l rest
  | .commit _ :: _ => false
  | .attempt _ :: rest => invalidates l rest
  | .remember _ :: rest => invalidates l rest

/-- The device id of a lease of the controller: trimmed and not empty. -/
def Trimmed (clientId : String) : Prop := clientId ≠ "" ∧ trimSpace clientId = clientId

/-- The transactions that the invalidation of the lease follows, if they end it. -/
def invalidated (l : RuntimeLease) : Db.Op → Bool
  | .identity (.setUserStatus _ _ _) => true
  | .identity (.setAccessTokenStatus _ _ _) => true
  | .identity (.saveUserNodeAccess _ _) => true
  | .revokeActiveRuntimeLeasesForClient _ clientId => l.clientId = clientId
  | _ => false

/-- After each transaction the request invalidates the leases it ended. -/
def Orderly : List Effect → Prop
  | [] => True
  | effect :: rest =>
    (∀ op, effect.op = some op → ∀ s l, invalidated l op = true → Trimmed l.clientId →
      op.ends s l = true → invalidates l rest = true) ∧ Orderly rest

/-- A trimmed client is covered by its own termination. -/
lemma covers_client {l : RuntimeLease} {tokenId clientId} (trimmed : Trimmed l.clientId)
    (own : l.tokenId = tokenId ∧ l.clientId = clientId) :
    (Manager.Target.client tokenId clientId).valid = true ∧
      (Manager.Target.client tokenId clientId).covers l = true := by
  obtain ⟨rfl, rfl⟩ := own
  simp [Manager.Target.valid, Manager.Target.covers, trimmed.2, trimmed.1, l.tokenId_pos]

/-- An effect that runs no transaction. -/
lemma Orderly.quiet {effect rest} (quiet : effect.op = none) (later : Orderly rest) :
    Orderly (effect :: rest) := by
  refine ⟨fun op is => ?_, later⟩
  rw [quiet] at is
  cases is

/-- A last transaction that needs no invalidation. -/
lemma orderly_single {op} (other : ∀ l, invalidated l op = false) : Orderly [.commit op] := by
  refine ⟨fun op' is s l handled => ?_, trivial⟩
  cases is
  rw [other] at handled
  cases handled

/-- Terminating a client is orderly. -/
lemma orderly_terminateClientRuntime {client} (rest : List Effect) (later : Orderly rest) :
    Orderly (Controller.terminateClientRuntime client ++ rest) := by
  refine ⟨fun op is s l spelled trimmed ends => ?_, .quiet rfl later⟩
  cases is
  obtain ⟨own, _⟩ := (Bool.and_eq_true _ _).mp ends
  obtain ⟨valid, covers⟩ := covers_client trimmed ⟨of_decide_eq_true own, of_decide_eq_true spelled⟩
  simp [invalidates, valid, covers]

namespace Controller

variable {env : Env} {c c' : Controller} {a : Action} {l : RuntimeLease}

/-- The handlers of the administrator invalidate after they commit. -/
lemma orderly_program {request} : Orderly (c.program request) := by
  cases request with
  | createUser | createAdmin | savePolicy | createToken | rotateToken | createGrant | saveDpiPolicy
  | unbanClient => exact orderly_single fun _ => rfl
  | banUser id =>
    refine ⟨fun op is s l _ _ ends => ?_, .quiet rfl trivial⟩
    cases is
    have own : l.userId = id := by simpa [Db.Op.ends] using ends
    simp [invalidates, Manager.Target.valid, Manager.Target.covers, ← own, l.userId_pos]
  | unbanUser | unbanToken =>
    refine ⟨fun op is s l _ _ ends => ?_, trivial⟩
    cases is
    simp [Db.Op.ends] at ends
  | deleteUser => exact .quiet rfl (orderly_single fun _ => rfl)
  | banToken id =>
    refine ⟨fun op is s l _ _ ends => ?_, .quiet rfl trivial⟩
    cases is
    have own : l.tokenId = id := by simpa [Db.Op.ends] using ends
    simp [invalidates, Manager.Target.valid, Manager.Target.covers, ← own, l.tokenId_pos]
  | saveNodes userId =>
    simp only [program]
    split
    · rename_i kept
      refine ⟨fun op is s l _ _ ends => ?_, trivial⟩
      cases is
      simp [Db.Op.ends, (contains_iff_mem ..).mp kept] at ends
    · refine ⟨fun op is s l _ _ ends => ?_, .quiet rfl trivial⟩
      cases is
      have own : l.userId = userId := by
        simp only [Db.Op.ends, Bool.and_eq_true, decide_eq_true_eq] at ends
        exact ends.1
      simp [invalidates, Manager.Target.valid, Manager.Target.covers, ← own, l.userId_pos]
  | banClient =>
    simp only [program]
    refine ⟨fun op is s l inv => ?_, ?_⟩
    · cases is
      cases inv
    · split
      · exact .quiet rfl trivial
      · trivial
  | deleteClient =>
    simp only [program]
    split
    · exact orderly_terminateClientRuntime _ (orderly_single fun _ => rfl)
    · trivial
  | stopClient =>
    simp only [program]
    split
    · exact orderly_terminateClientRuntime [] trivial
    · trivial

/-- Administrators remember no lease. -/
lemma remember_not_mem_program (request : AdminRequest) : .remember l ∉ c.program request := by
  cases request <;> simp only [program, terminateClientRuntime] <;> (try split) <;> simp

/-- Requests are orderly. -/
lemma Origin.orderly {todo} (origin : Origin env c todo) : Orderly todo := by
  cases origin with
  | admin => exact orderly_program
  | done => trivial
  | terminate => exact orderly_terminateClientRuntime [] trivial
  | clear => exact orderly_terminateClientRuntime _ (orderly_single fun _ => rfl)
  | login => exact .quiet rfl trivial

/-- A lease is validated before it is remembered. -/
lemma Origin.permits {todo} (origin : Origin env c todo) (m : .remember l ∈ todo) :
    c.store.Permits l := by
  cases origin with
  | admin => exact absurd m (remember_not_mem_program _)
  | done => cases m
  | terminate | clear => simp [terminateClientRuntime] at m
  | login _ valid =>
    cases mem_singleton.mp m
    exact (Api.validateRuntime_ok valid).2

/-! ## The invariant -/

/-- The lease is remembered as active. -/
def Remembers (c : Controller) (l : RuntimeLease) : Prop :=
  l ∈ c.memory.core.runtimeLeases ∧ l.status = .active

/-- A login with the lease was validated and is not remembered yet. -/
def LoggingIn (c : Controller) (l : RuntimeLease) : Prop := ∃ i, .remember l ∈ c.todo i

/-- Some thread is going to invalidate the remembered lease. -/
def Invalidating (c : Controller) (l : RuntimeLease) : Prop := ∃ i, invalidates l (c.todo i) = true

/-- What the holder of the bootstrap lock names is well formed. -/
def LockNamed : Locked Effect → Prop
  | .validate _ _ _ clientId _ _ => Trimmed clientId
  | .create lease _ _ => Trimmed lease.clientId
  | .release leaseId _ _ => leaseId ≠ ""
  | .effects _ => True

/-- An effect may be performed: it ends no lease of a login in progress, and remembered ones only if they are
invalidated next. -/
def EffectSafe (c : Controller) (effect : Effect) (rest : List Effect) : Prop :=
  ∀ op, effect.op = some op → ∀ l, op.ends c.store l = true →
    ¬ c.LoggingIn l ∧ (c.Remembers l → invalidated l op = true ∨ invalidates l rest = true)

/-- The steps that keep the fallback within what the database permits. -/
def FallbackSafe (c : Controller) : Action → Prop
  | .proceed slot =>
    match c.requests slot with
    | effect :: rest => c.EffectSafe effect rest
    | [] => True
  | .proceedLocked =>
    match c.locked with
    | some (.effects (effect :: rest)) => c.EffectSafe effect rest
    | some (.create lease _ _) =>
      ∀ l, c.LoggingIn l ∨ c.Remembers l →
        LeaseBook.ownerOf l c.store.collate ≠ LeaseBook.ownerOf lease c.store.collate
    | some (.release leaseId tokenId clientId) =>
      ∀ l, c.store.releasable leaseId tokenId clientId l = true →
        ¬ c.LoggingIn l ∧ (c.Remembers l → l.leaseId = leaseId)
    | _ => True
  | .keepalive _ metas => ∀ l, c.Remembers l → l.leaseId = metas.leaseId → ¬ c.Invalidating l
  | _ => True

/-- Remembered leases are permitted or about to be invalidated. -/
structure Faithful (c : Controller) : Prop where
  trimmed : ∀ l ∈ c.store.leases, Trimmed l.clientId
  lock : ∀ l, c.locked = some l → LockNamed l
  orderly : ∀ i, Orderly (c.todo i)
  logins : ∀ l, c.LoggingIn l → c.store.Permits l
  remembered : ∀ l, c.Remembers l → c.store.Permits l ∨ c.Invalidating l

/-- Requests in progress stay. -/
lemma Frame.todo (frame : Frame c c') : c'.todo = c.todo := by
  funext i
  cases i with
  | none => simp only [Controller.todo, frame.locked]
  | some => simp only [Controller.todo, frame.requests]

/-- Permissions stay. -/
lemma Frame.permits (frame : Frame c c') (ok : c.store.Permits l) : c'.store.Permits l := by
  obtain ⟨_, grow, store⟩ := frame.store
  rw [store]
  refine ok.clients fun r m _ _ active => ?_
  obtain ⟨r', m', _, token, client, status⟩ := grow r m
  exact ⟨r', m', token, client, status.trans active⟩

/-- No lease is newly remembered. -/
lemma Frame.remembers (frame : Frame c c') (rem : c'.Remembers l) : c.Remembers l :=
  ⟨frame.core.active l rem.1 rem.2, rem.2⟩

/-- A frame step keeps the memory faithful. -/
lemma Frame.faithful (frame : Frame c c') (inv : Faithful c) : Faithful c' := by
  refine ⟨?_, ?_, ?_, ?_, ?_⟩
  · obtain ⟨_, _, store⟩ := frame.store
    rw [store]
    exact inv.trimmed
  · rw [frame.locked]
    exact inv.lock
  · rw [frame.todo]
    exact inv.orderly
  · rintro l ⟨i, m⟩
    rw [frame.todo] at m
    exact frame.permits (inv.logins l ⟨i, m⟩)
  · intro l rem
    refine (inv.remembered l (frame.remembers rem)).imp frame.permits ?_
    rintro ⟨i, m⟩
    exact ⟨i, frame.todo ▸ m⟩

/-- A thread that goes on keeps what it is going to invalidate. -/
lemma Invalidating.advance {i rest} (hit : c.Invalidating l)
    (threads : c'.todo = update c.todo i rest)
    (here : invalidates l (c.todo i) = true → invalidates l rest = true) : c'.Invalidating l := by
  obtain ⟨j, hit⟩ := hit
  refine ⟨j, ?_⟩
  rw [threads, update_apply]
  split
  · rename_i same
    exact here (same ▸ hit)
  · exact hit

/-- A thread that is about to invalidate. -/
lemma Invalidating.here {i rest} (threads : c'.todo = update c.todo i rest)
    (hit : invalidates l rest = true) : c'.Invalidating l :=
  ⟨i, by rw [threads, update_self]; exact hit⟩

/-- An idle thread gets something to do, and invalidates what the store ends. -/
lemma Faithful.turn {i rest} (inv : Faithful c) (idle : c.todo i = [])
    (core : c'.memory.core = c.memory.core) (threads : c'.todo = update c.todo i rest)
    (lock : ∀ l, c'.locked = some l → LockNamed l) (trimmed : ∀ l ∈ c'.store.leases, Trimmed l.clientId)
    (orderly : Orderly rest) (new : ∀ l, .remember l ∈ rest → c'.store.Permits l)
    (logins : ∀ l, c.LoggingIn l → c.store.Permits l → c'.store.Permits l)
    (kept : ∀ l, c.Remembers l → c.store.Permits l → c'.store.Permits l ∨ invalidates l rest = true) :
    Faithful c' := by
  refine ⟨trimmed, lock, fun j => ?_, ?_, ?_⟩
  · rw [threads, update_apply]
    split
    · exact orderly
    · exact inv.orderly j
  · rintro l ⟨j, m⟩
    rw [threads, update_apply] at m
    split at m
    · exact new l m
    · exact logins l ⟨j, m⟩ (inv.logins l ⟨j, m⟩)
  · rintro l ⟨m, active⟩
    have rem : c.Remembers l := ⟨core ▸ m, active⟩
    rcases inv.remembered l rem with ok | hit
    · exact (kept l rem ok).imp id (.here threads)
    · exact .inr (hit.advance threads (by rw [idle]; exact nofun))

/-- A transaction keeps a lease permitted, or it is invalidated next. -/
lemma Faithful.exec {i effect rest op store} (inv : Faithful c) (at_ : c.todo i = effect :: rest)
    (is : effect.op = some op) (safe : c.EffectSafe effect rest) (ran : c.store.exec c.now op = some store)
    (ok : c.store.Permits l) (rem : c.Remembers l) : store.Permits l ∨ invalidates l rest = true := by
  cases ends : op.ends c.store l with
  | false => exact .inl (exec_permits ran ok ends)
  | true =>
    refine .inr ?_
    rcases (safe op is l ends).2 rem with handled | hit
    · have orderly := inv.orderly i
      rw [at_] at orderly
      exact orderly.1 op is c.store l handled (inv.trimmed l ok.lease) ends
    · exact hit

/-- What is remembered after an effect. -/
lemma Performed.kept {i effect rest rest'} {c₁ : Controller}
    (did : Performed c rest effect (c₁, rest')) (inv : Faithful c) (at_ : c.todo i = effect :: rest)
    (safe : c.EffectSafe effect rest) (store : c'.store = c₁.store)
    (threads : c'.todo = update c.todo i rest') (rem : c₁.Remembers l) :
    c'.store.Permits l ∨ c'.Invalidating l := by
  rw [store]
  cases did with
  | committed ran =>
    rcases inv.remembered l rem with ok | hit
    · exact (inv.exec at_ rfl safe ran ok rem).imp id (.here threads)
    · exact .inr (hit.advance threads (by rw [at_]; exact nofun))
  | failed =>
    refine (inv.remembered l rem).imp id fun hit => ?_
    exact hit.advance threads (by rw [at_]; exact nofun)
  | attempted ran =>
    rcases inv.remembered l rem with ok | hit
    · exact (inv.exec at_ rfl safe ran ok rem).imp id (.here threads)
    · exact .inr (hit.advance threads (by rw [at_]; exact id))
  | ignored =>
    refine (inv.remembered l rem).imp id fun hit => ?_
    exact hit.advance threads (by rw [at_]; exact id)
  | terminated =>
    obtain ⟨m, spared⟩ := Manager.active_terminate rem.1 rem.2
    refine (inv.remembered l ⟨m, rem.2⟩).imp id fun hit => hit.advance threads fun here => ?_
    rw [at_] at here
    rcases (Bool.or_eq_true _ _).mp here with now | later
    · obtain ⟨valid, covers⟩ := (Bool.and_eq_true _ _).mp now
      rw [spared valid] at covers
      cases covers
    · exact later
  | remembered =>
    obtain ⟨m, active⟩ := rem
    rcases mem_cons.mp m with rfl | old
    · exact .inl (inv.logins l ⟨i, by rw [at_]; exact mem_cons_self⟩)
    · refine (inv.remembered l ⟨mem_of_mem_filter old, active⟩).imp id fun hit => ?_
      exact hit.advance threads (by rw [at_]; exact id)

/-- A safe effect ends no lease of a login. -/
lemma Performed.permits {effect rest rest'} {c₁ : Controller}
    (did : Performed c rest effect (c₁, rest')) (safe : c.EffectSafe effect rest)
    (login : c.LoggingIn l) (ok : c.store.Permits l) : c₁.store.Permits l := by
  have keep : ∀ op, effect.op = some op → op.ends c.store l = false := by
    intro op is
    by_contra ends
    exact (safe op is l (Bool.not_eq_false _ |>.mp ends)).1 login
  cases did with
  | committed ran | attempted ran => exact exec_permits ran ok (keep _ rfl)
  | failed | ignored | terminated | remembered => exact ok

/-- A request goes on or ends. -/
lemma Performed.rest {effect rest rest'} {c₁ : Controller}
    (did : Performed c rest effect (c₁, rest')) : rest' = rest ∨ rest' = [] := by
  cases did with
  | failed => exact .inr rfl
  | committed | attempted | ignored | terminated | remembered => exact .inl rfl

/-- A thread performs its next effect. -/
lemma Faithful.perform {i effect rest rest'} {c₁ : Controller} (inv : Faithful c)
    (at_ : c.todo i = effect :: rest) (did : Performed c rest effect (c₁, rest'))
    (safe : c.EffectSafe effect rest) (store : c'.store = c₁.store)
    (core : c'.memory.core = c₁.memory.core) (threads : c'.todo = update c.todo i rest')
    (lock : ∀ l, c'.locked = some l → LockNamed l) : Faithful c' := by
  have orderly := inv.orderly i
  rw [at_] at orderly
  refine ⟨fun l m => ?_, lock, fun j => ?_, ?_, fun l rem => ?_⟩
  · rw [store] at m
    obtain ⟨k, mk, rfl | rfl⟩ := did.book.leases l m
    · exact inv.trimmed l mk
    · exact inv.trimmed k mk
  · rw [threads, update_apply]
    split
    · rcases did.rest with same | none
      · exact same ▸ orderly.2
      · exact none ▸ trivial
    · exact inv.orderly j
  · rintro l ⟨j, m⟩
    rw [threads, update_apply] at m
    have login : c.LoggingIn l := by
      split at m
      · refine ⟨i, ?_⟩
        rw [at_]
        rcases did.rest with same | none
        · exact mem_cons_of_mem _ (same ▸ m)
        · rw [none] at m
          cases m
      · exact ⟨j, m⟩
    rw [store]
    exact did.permits safe login (inv.logins l login)
  · refine did.kept inv at_ safe store threads ?_
    exact ⟨core ▸ rem.1, rem.2⟩

/-! ## Steps -/

/-- A request in a slot goes on. -/
lemma todo_update_slot {slot rest} (locked : c'.locked = c.locked)
    (requests : c'.requests = update c.requests slot rest) :
    c'.todo = update c.todo (some slot) rest := by
  funext i
  cases i with
  | none =>
    rw [update_of_ne (Option.some_ne_none slot).symm]
    simp only [todo, locked]
  | some => simp only [todo, requests, update_apply, Option.some.injEq]

/-- The lock holder goes on. -/
lemma todo_update_locked {rest} (requests : c'.requests = c.requests) (now : c'.todo none = rest) :
    c'.todo = update c.todo none rest := by
  funext i
  cases i with
  | none => rw [update_self, now]
  | some j =>
    rw [update_of_ne (Option.some_ne_none j)]
    simp only [todo, requests]

/-- The lock passes to somebody who has no effects to perform yet. -/
lemma Faithful.relock {lock} (inv : Faithful c) (idle : c.todo none = [])
    (named : ∀ l, lock = some l → LockNamed l) (quiet : ∀ rest, lock = some (.effects rest) → rest = []) :
    Faithful { c with locked := lock } := by
  have same : Controller.todo { c with locked := lock } = update c.todo none [] :=
    todo_update_locked rfl (todo_unlocked quiet)
  exact inv.turn idle rfl same named inv.trimmed trivial (fun _ m => absurd m not_mem_nil)
    (fun _ _ => id) fun _ _ => .inl

/-- A step of the lock holder. -/
lemma LockedStep.faithful {l} (st : LockedStep env c l c') (holds : c.locked = some l)
    (inv : Faithful c) (safe : FallbackSafe c .proceedLocked) : Faithful c' := by
  have named := inv.lock l holds
  cases st with
  | ended quiet =>
    have idle : c.todo none = [] := by
      refine todo_unlocked fun rest is => quiet rest ?_
      exact Option.some.inj (holds.symm.trans is)
    exact inv.relock idle (by simp) (by simp)
  | validated =>
    have idle : c.todo none = [] := todo_unlocked (by rw [holds]; rintro _ ⟨⟩)
    refine inv.relock idle ?_ (by simp)
    rintro _ ⟨⟩
    exact named
  | created ran =>
    have idle : c.todo none = [] := todo_unlocked (by rw [holds]; rintro _ ⟨⟩)
    rw [FallbackSafe, holds] at safe
    refine inv.turn idle rfl (todo_update_locked rfl rfl) (by simp) (fun k m => ?_) trivial (by simp [todo])
      (fun k login ok => createRuntimeLease_permits ran ok (safe k (.inl login)))
      fun k rem ok => .inl (createRuntimeLease_permits ran ok (safe k (.inr rem)))
    obtain ⟨_, issued, rfl⟩ := createRuntimeLease_inv ran
    rcases LeaseBook.mem_issue_leases issued m with rfl | ⟨_, k, mk, _, ⟨rfl, _⟩ | rfl⟩
    · exact named
    · exact inv.trimmed _ mk
    · exact inv.trimmed k mk
  | @released leaseId tokenId clientId =>
    have idle : c.todo none = [] := todo_unlocked (by rw [holds]; rintro _ ⟨⟩)
    rw [FallbackSafe, holds] at safe
    refine inv.turn idle rfl (todo_update_locked rfl rfl) ?_ (fun k m => ?_) ?_ ?_
      (fun k login ok => ?_) fun k rem ok => ?_
    · rintro _ ⟨⟩
      trivial
    · obtain ⟨k, mk, e⟩ := mem_revokeLeases.mp m
      rw [← e, Table.rewrite]
      split
      · exact inv.trimmed k mk
      · exact inv.trimmed k mk
    · split
      · exact .quiet rfl trivial
      · trivial
    · intro k m
      split at m
      · cases m with
        | tail _ m => cases m
      · cases m
    · refine releaseRuntimeLease_permits ok (Bool.eq_false_iff.mpr fun hit => ?_)
      exact (safe k hit).1 login
    · cases hit : c.store.releasable leaseId tokenId clientId k with
      | false => exact .inl (releaseRuntimeLease_permits ok hit)
      | true =>
        -- the released lease is the one that the terminate effect names
        refine .inr ?_
        have changed : (c.store.releaseRuntimeLease leaseId tokenId clientId).2 = true :=
          Table.any_eq_true.mpr ⟨k, ok.lease, hit⟩
        simp [changed, todo, invalidates, Manager.Target.valid, Manager.Target.covers,
          (safe k hit).2 rem, show leaseId ≠ "" from named]
  | performed did =>
    rw [FallbackSafe, holds] at safe
    refine inv.perform (todo_locked holds) did safe rfl rfl
      (todo_update_locked did.same.2.2.1 rfl) ?_
    rintro _ ⟨⟩
    trivial

/-- Every safe step keeps the invariant. -/
lemma Faithful.step (inv : Faithful c) (safe : FallbackSafe c a) (st : c.step env a = some c') :
    Faithful c' := by
  cases step_kind st with
  | frame frame => exact frame.faithful inv
  | @start _ slot _ frame free origin =>
    have inv' := frame.faithful inv
    refine inv'.turn (i := some slot) ?_ rfl (todo_update_slot rfl rfl) inv'.lock inv'.trimmed
      origin.orderly (fun l m => ?_) (fun _ _ => id) fun _ _ => .inl
    · rw [todo, frame.requests]
      exact free
    · refine frame.permits ?_
      exact origin.permits m
  | lock frame free locks =>
    have inv' := frame.faithful inv
    have idle : Controller.todo _ none = [] := todo_unlocked (by rw [frame.locked, free]; rintro _ ⟨⟩)
    cases locks with
    | bootstrap _ _ named =>
      refine inv'.relock idle ?_ (by simp)
      rintro _ ⟨⟩
      exact ⟨named, trimSpace_trimSpace _⟩
    | timedOut =>
      refine inv'.turn idle rfl (todo_update_locked rfl rfl) ?_ inv'.trimmed
        (orderly_terminateClientRuntime [] trivial) (fun l m => ?_)
        (fun _ _ => id) fun _ _ => .inl
      · rintro _ ⟨⟩
        trivial
      · simp [terminateClientRuntime, todo] at m
    | release named =>
      refine inv'.relock idle ?_ (by simp)
      rintro _ ⟨⟩
      exact named
  | perform is at_ did =>
    rw [is, FallbackSafe, at_] at safe
    refine inv.perform (i := some _) at_ did safe rfl rfl (todo_update_slot did.same.2.1 ?_) ?_
    · rw [did.same.2.2.1]
    · rw [did.same.2.1]
      exact inv.lock
  | locked is holds st => exact st.faithful holds inv (is ▸ safe)
  | restart =>
    refine ⟨inv.trimmed, by simp, fun i => ?_, ?_, fun l rem => absurd rem.1 not_mem_nil⟩
    · cases i <;> trivial
    · rintro _ ⟨i, m⟩
      cases i <;> cases m

/-- The memory is faithful in every safe run. -/
lemma faithful (r : (machine env).ReachableAlong FallbackSafe c) : Faithful c := by
  refine r.inv ?_ fun c a c' inv safe st => inv.step safe st
  rintro c ⟨leases, _, _, memory, unlocked, requests, _⟩
  have idle : ∀ i, c.todo i = [] := by
    intro i
    cases i with
    | none => exact todo_unlocked (by rw [unlocked]; rintro _ ⟨⟩)
    | some => rw [todo, requests]
  refine ⟨?_, ?_, fun i => ?_, ?_, ?_⟩
  · rw [leases]
    rintro _ ⟨⟩
  · rw [unlocked]
    rintro _ ⟨⟩
  · rw [idle]
    trivial
  · rintro _ ⟨_, m⟩
    rw [idle] at m
    cases m
  · rintro _ ⟨m, _⟩
    rw [memory] at m
    cases m

/-- A device obtains a lease and logs in with it. -/
def sampleLogin : List Action :=
  sampleBootstrap ++ [.login 0 ⟨"rt", "lease"⟩, .proceed 0]

end Controller

end MeowFrp.Node
