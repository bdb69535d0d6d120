import MeowFrp.Node.Controller

/-!
# What a step of the controller node can do

Inversion of the controller's step function. Most actions leave the store alone up to the device
table, drop at most some remembered leases, and leave behind a request in progress (`Frame` and the
first three cases of `Kind`); what changes the store or the remembered leases is the next effect of a
request or of the holder of the bootstrap lock. The invariants of the node are proved from
`step_kind` and never unfold the step function again.
-/

namespace MeowFrp.Node.Controller

open MeowFrp.Core Option Memory

variable {env : Env} {c c' : Controller}

/-- Only the device table changes, and no lease is newly remembered. -/
structure Frame (c c' : Controller) : Prop where
  store : ∃ clients, ClientsGrow c.store.clients clients ∧ c'.store = { c.store with clients }
  core : c.memory.core.Settles c'.memory.core
  now : c.now ≤ c'.now
  issuedUnder : c'.issuedUnder = c.issuedUnder
  locked : c'.locked = c.locked
  requests : c'.requests = c.requests

lemma Frame.refl : Frame c c :=
  ⟨⟨_, .refl, rfl⟩, .refl, le_rfl, rfl, rfl, rfl⟩

lemma Frame.trans {c''} (f : Frame c c') (g : Frame c' c'') : Frame c c'' := by
  obtain ⟨_, grow, e⟩ := f.store
  obtain ⟨clients', grow', e'⟩ := g.store
  refine ⟨⟨clients', grow.trans (by simpa [e] using grow'), by rw [e', e]⟩,
    f.core.trans g.core, f.now.trans g.now, g.issuedUnder.trans f.issuedUnder,
    g.locked.trans f.locked, g.requests.trans f.requests⟩

/-- Only the memory changes. -/
lemma Frame.memory {memory : Memory} (settles : c.memory.core.Settles memory.core) :
    Frame c { c with memory } :=
  ⟨⟨_, .refl, rfl⟩, settles, le_rfl, rfl, rfl, rfl⟩

/-! ## Requests -/

/-- A change of the device table only. -/
lemma Frame.of_clients {store : Db.Store}
    (grows : ∃ clients, ClientsGrow c.store.clients clients ∧ store = { c.store with clients }) :
    Frame c { c with store } :=
  ⟨grows, .refl, le_rfl, rfl, rfl, rfl⟩

/-- An accepted token is the stored one of its hash, with its owner. -/
lemma validate_spec {s store : Db.Store} {now hash clientId create token user client}
    (e : Api.validateAccessTokenRequest s now hash clientId create =
      .ok (store, token, user, client)) :
    s.getAccessTokenByHash hash = some token ∧ s.getUserById token.userId = some user ∧
    ∃ clients, ClientsGrow s.clients clients ∧ store = { s with clients } := by
  unfold Api.validateAccessTokenRequest at e
  split at e
  · cases e
  rename_i token' found
  split at e
  · cases e
  rename_i user' owner
  split at e
  · cases e
  dsimp only at e
  split at e
  · cases e
  rename_i store' client' grown
  split at e
  · cases e
  cases e
  refine ⟨found, owner, ?_⟩
  cases create with
  | some => exact findOrCreateClient_grows grown
  | none =>
    obtain ⟨_, _, e⟩ := map_eq_some_iff.mp grown
    cases e
    exact ⟨_, .refl, rfl⟩

/-- What `authenticate` can do, and whom it accepts. -/
lemma authenticate_spec {path accessToken clientId create found}
    (e : c.authenticate env path accessToken clientId create = (c', found)) :
    Frame c c' ∧ ∀ token user client, found = some (token, user, client) →
      c.store.getAccessTokenByHash (env.tokenHash accessToken) = some token ∧
      c.store.getUserById token.userId = some user := by
  unfold authenticate at e
  split at e
  · cases e
    exact ⟨Frame.memory settles_pauseDatabaseAdmission, nofun⟩
  split at e
  · cases e
    exact ⟨.refl, nofun⟩
  rename_i store token user client ok
  obtain ⟨found, owner, grows⟩ := validate_spec ok
  dsimp only at e
  split at e
  · cases e
    exact ⟨.of_clients grows, nofun⟩
  · cases e
    refine ⟨(Frame.of_clients grows).trans (Frame.memory settles_rememberClient), fun _ _ _ e => ?_⟩
    cases e
    exact ⟨found, owner⟩

/-- What starts a request that is not an administrator's. -/
inductive Origin (env : Env) (c : Controller) : List Effect → Prop
  | admin (request : AdminRequest) : Origin env c (c.program request)
  | done : Origin env c []
  | terminate (client : Client) : Origin env c (terminateClientRuntime client)
  | clear (client : Client) (id : Nat) :
      Origin env c (terminateClientRuntime client ++ [.commit (.clearClientPresence id)])
  | login {metas lease} (up : c.dbUp = true)
      (valid : Api.validateRuntime env.tokenHash c.store c.now metas = .ok lease) :
      Origin env c [.remember lease]

/-- How a request takes the bootstrap lock. -/
inductive Locks (env : Env) (c : Controller) : Locked Effect → Prop
  | bootstrap {accessToken clientId proxies draw token user}
      (found : c.store.getAccessTokenByHash (env.tokenHash accessToken) = some token)
      (owner : c.store.getUserById token.userId = some user) (named : trimSpace clientId ≠ "")
      (fresh : ∀ hash, (draw.leaseId, hash) ∉ c.issuedUnder) :
      Locks env c (.validate user token (env.tokenHash accessToken) (trimSpace clientId) proxies draw)
  | timedOut (client : Client) : Locks env c (.effects (terminateClientRuntime client))
  | release {leaseId : String} (named : leaseId ≠ "") (tokenId : Nat) (clientId : String) :
      Locks env c (.release leaseId tokenId clientId)

/-- The outcomes of an effect. -/
inductive Performed (c : Controller) (rest : List Effect) : Effect → Controller × List Effect → Prop
  | committed {op store} (ran : c.store.exec c.now op = some store) :
      Performed c rest (.commit op) ({ c with store }, rest)
  | failed {op} : Performed c rest (.commit op) (c, [])
  | attempted {op store} (ran : c.store.exec c.now op = some store) :
      Performed c rest (.attempt op) ({ c with store }, rest)
  | ignored {op} : Performed c rest (.attempt op) (c, rest)
  | terminated {target} : Performed c rest (.terminate target)
      ({ c with memory := { c.memory with core := c.memory.core.terminate target } }, rest)
  | remembered {lease} : Performed c rest (.remember lease)
      ({ c with memory := { c.memory with core := c.memory.core.rememberRuntimeLease lease } }, rest)

/-- What an effect does. -/
lemma performed {rest effect} : Performed c rest effect (c.perform rest effect) := by
  cases effect with
  | commit =>
    unfold perform
    dsimp only
    split
    · rename_i ran
      exact .committed (by simpa using (ite_none_right_eq_some.mp ran).2)
    · exact .failed
  | attempt =>
    unfold perform
    dsimp only
    split
    · rename_i ran
      exact .attempted (by simpa using (ite_none_right_eq_some.mp ran).2)
    · exact .ignored
  | terminate => exact .terminated
  | remember => exact .remembered

/-- The outcomes of the next step of the lock holder. -/
inductive LockedStep (env : Env) (c : Controller) : Locked Effect → Controller → Prop
  | ended {l} (idle : ∀ todo, l = .effects todo → todo = []) : LockedStep env c l { c with locked := none }
  | validated {user token presented clientId proxies draw allocations}
      (ok : Api.validateBootstrapProxies (env.proxyRules c.store c.now user token clientId) proxies =
        .ok allocations) :
      LockedStep env c (.validate user token presented clientId proxies draw)
        { c with locked := some (.create (env.lease c.now user token clientId draw) presented allocations) }
  | created {lease presented allocations store}
      (ran : c.store.createRuntimeLease lease allocations = some store) :
      LockedStep env c (.create lease presented allocations)
        { c with store, locked := none, issuedUnder := (lease.leaseId, presented) :: c.issuedUnder }
  | released {leaseId tokenId clientId} :
      LockedStep env c (.release leaseId tokenId clientId)
        { c with
          store := (c.store.releaseRuntimeLease leaseId tokenId clientId).1
          locked := some (.effects
            (if (c.store.releaseRuntimeLease leaseId tokenId clientId).2 then
              [.terminate (.lease leaseId)] else [])) }
  | performed {effect rest} {c₁ : Controller} {rest'} (did : Performed c rest effect (c₁, rest')) :
      LockedStep env c (.effects (effect :: rest)) { c₁ with locked := some (.effects rest') }

/-- The step of the request that holds the lock. -/
lemma lockedStep {l} : LockedStep env c l (c.proceedLocked env l) := by
  cases l with
  | validate =>
    unfold proceedLocked
    dsimp only
    split
    · exact .ended nofun
    · rename_i allocations ok
      split at ok
      · exact .validated ok
      · cases ok
  | create =>
    unfold proceedLocked
    dsimp only
    split
    · exact .ended nofun
    · rename_i store ran
      exact .created (ite_none_right_eq_some.mp ran).2
  | release =>
    unfold proceedLocked
    dsimp only
    split
    · exact .released
    · exact .ended nofun
  | effects todo =>
    cases todo with
    | nil => exact .ended fun _ same => (Locked.effects.inj same).symm
    | cons => exact .performed performed

/-- The kinds of steps; those that change store or memory name their action. -/
inductive Kind (env : Env) (c : Controller) (a : Action) : Controller → Prop
  | frame {d : Controller} (frame : Frame c d) : Kind env c a d
  | start {c₁ : Controller} {slot todo} (frame : Frame c c₁) (free : c.requests slot = [])
      (origin : Origin env c todo) :
      Kind env c a { c₁ with requests := Function.update c₁.requests slot todo }
  | lock {c₁ : Controller} {l} (frame : Frame c c₁) (free : c.locked = none) (locks : Locks env c l) :
      Kind env c a { c₁ with locked := some l }
  | perform {slot effect rest} {c₁ : Controller} {rest'} (is : a = .proceed slot)
      (at_ : c.requests slot = effect :: rest) (did : Performed c rest effect (c₁, rest')) :
      Kind env c a { c₁ with requests := Function.update c₁.requests slot rest' }
  | locked {l} {c₁ : Controller} (is : a = .proceedLocked) (holds : c.locked = some l)
      (step : LockedStep env c l c₁) : Kind env c a c₁
  | restart : Kind env c a
      { c with memory := {}, failedSince := none, locked := none, requests := fun _ => [] }

/-- A request gets a slot. -/
lemma start_kind {a c₁ slot todo} (frame : Frame c c₁) (origin : Origin env c todo)
    (st : c₁.start slot todo = some c') : Kind env c a c' := by
  unfold start at st
  split at st
  · rename_i free
    cases st
    exact .start frame (frame.requests ▸ free) origin
  · cases st

/-- A heartbeat that is accepted touches the device. -/
lemma Frame.touch {c₁ id} (frame : Frame c c₁) :
    Frame c { c₁ with store := c₁.store.touchClientHeartbeat c₁.now id } :=
  frame.trans (Frame.of_clients ⟨_, .touch, rfl⟩)

/-- A heartbeat touches its device. -/
lemma heartbeat_kind {a accessToken clientId newId}
    (st : c.step env (.heartbeat accessToken clientId newId) = some c') : Kind env c a c' := by
  simp only [step] at st
  split at st
  · cases st
  have beat : Frame c { c with memory := (c.memory.faultHeartbeat env.cfg c.now c.memory.fault.closed
      false (env.tokenHash accessToken) (trimSpace clientId)).1 } :=
    Frame.memory settles_faultHeartbeat
  split at st
  · cases st
    exact .frame beat
  split at st
  · rename_i c₁ auth
    cases st
    exact .frame (beat.trans (authenticate_spec auth).1)
  · rename_i c₁ _ _ client auth
    cases st
    exact .frame (beat.trans (authenticate_spec auth).1).touch

/-- A bootstrap takes the lock. -/
lemma bootstrap_kind {a accessToken clientId proxies} {draw : Draw} (free : c.locked = none)
    (fresh : ∀ hash, (draw.leaseId, hash) ∉ c.issuedUnder) :
    Kind env c a (c.bootstrap env accessToken clientId proxies draw) := by
  unfold bootstrap
  dsimp only
  split
  · exact .frame .refl
  rename_i filled
  have named : trimSpace clientId ≠ "" := by
    simp only [Bool.or_eq_true, decide_eq_true_eq, not_or] at filled
    exact filled.2
  split
  · rename_i c₁ auth
    exact .frame (authenticate_spec auth).1
  · rename_i c₁ token user client auth
    obtain ⟨frame, found⟩ := authenticate_spec auth
    split
    · obtain ⟨held, owner⟩ := found token user client rfl
      exact .lock frame free (.bootstrap held owner named fresh)
    · exact .lock frame free (.timedOut client)

/-- A release takes the lock. -/
lemma release_kind {a accessToken clientId leaseId} (free : c.locked = none) :
    Kind env c a (c.release env accessToken clientId leaseId) := by
  unfold release
  dsimp only
  split
  · exact .frame .refl
  rename_i filled
  have named : leaseId ≠ "" := by
    simp only [Bool.or_eq_true, decide_eq_true_eq, not_or] at filled
    exact filled.2
  split
  · rename_i c₁ auth
    exact .frame (authenticate_spec auth).1
  · rename_i c₁ token _ _ auth
    exact .lock (authenticate_spec auth).1 free (.release named token.id (trimSpace clientId))

/-- What a runtime check leaves behind. -/
lemma checkRuntime_spec {metas answer todo} (e : c.checkRuntime env metas = (c', answer, todo)) :
    Frame c c' ∧ Origin env c todo ∧
      ∀ lease, answer = .validated lease → Origin env c [.remember lease] := by
  unfold checkRuntime at e
  split at e
  · cases e
    exact ⟨.refl, .done, nofun⟩
  split at e
  · cases e
    exact ⟨Frame.memory settles_pauseDatabaseAdmission, .done, nofun⟩
  rename_i up
  split at e
  · rename_i lease ok
    cases e
    refine ⟨.refl, .done, fun _ e => ?_⟩
    cases e
    exact .login (by simpa using up) ok
  · cases e
    exact ⟨.refl, .done, nofun⟩
  · rename_i client _
    cases e
    exact ⟨.refl, .terminate client, nofun⟩

/-- What a login has to do. -/
lemma login_spec {metas} :
    Frame c (c.login env metas).1 ∧ Origin env c (c.login env metas).2 := by
  unfold login
  split
  · exact ⟨.refl, .done⟩
  split
  · rename_i c₁ lease _ check
    obtain ⟨frame, _, valid⟩ := checkRuntime_spec check
    exact ⟨frame, valid lease rfl⟩
  · rename_i c₁ _ _ _ check
    obtain ⟨frame, origin, _⟩ := checkRuntime_spec check
    exact ⟨frame, origin⟩

/-- What a keepalive has to do. -/
lemma keepalive_spec {metas} :
    Frame c (c.keepalive env metas).1 ∧ Origin env c (c.keepalive env metas).2.2 := by
  unfold keepalive
  split
  · exact ⟨.refl, .done⟩
  split
  · rename_i c₁ _ _ check
    obtain ⟨frame, origin, _⟩ := checkRuntime_spec check
    split <;> exact ⟨frame, origin⟩
  · rename_i check
    have whole : c.checkRuntime env metas = ((c.checkRuntime env metas).1,
      (c.checkRuntime env metas).2.1, (c.checkRuntime env metas).2.2) := rfl
    obtain ⟨frame, origin, _⟩ := checkRuntime_spec whole
    exact ⟨frame, origin⟩

/-- Inversion of a step. -/
lemma step_kind {a} (st : c.step env a = some c') : Kind env c a c' := by
  cases a with
  | tick =>
    cases st
    exact .frame ⟨⟨_, .refl, rfl⟩, .refl, Nat.le_add_right _ _, rfl, rfl, rfl⟩
  | database =>
    cases st
    exact .frame ⟨⟨_, .refl, rfl⟩, .refl, le_rfl, rfl, rfl, rfl⟩
  | probe =>
    cases st
    exact .frame ⟨⟨_, .refl, rfl⟩, settles_observe, le_rfl, rfl, rfl, rfl⟩
  | admin _ request => exact start_kind .refl (.admin request) st
  | heartbeat => exact heartbeat_kind st
  | resourcePolicy =>
    simp only [step] at st
    split at st
    · cases st
    split at st
    · rename_i c₁ auth
      cases st
      exact .frame (authenticate_spec auth).1
    rename_i c₁ _ _ client auth
    split at st
    · cases st
      exact .frame (authenticate_spec auth).1.touch
    · cases st
      exact .frame (authenticate_spec auth).1
  | logout =>
    simp only [step] at st
    split at st
    · cases st
    split at st
    · rename_i c₁ auth
      cases st
      exact .frame (authenticate_spec auth).1
    · rename_i c₁ _ _ client auth
      exact start_kind (authenticate_spec auth).1 (.clear client client.id) st
  | bootstrap =>
    simp only [step] at st
    split at st
    · cases st
    rename_i free
    cases st
    obtain ⟨unlocked, fresh⟩ : c.locked = none ∧ _ := by simpa using free
    exact bootstrap_kind unlocked fresh
  | release =>
    simp only [step] at st
    split at st
    · cases st
    rename_i free
    cases st
    exact release_kind (by simpa using free)
  | sweep _ id =>
    simp only [step] at st
    split at st
    · cases st
    split at st
    · cases st
    rename_i client _
    split at st
    · cases st
    exact start_kind .refl (.clear client id) st
  | login _ metas =>
    obtain ⟨frame, origin⟩ : Frame c (c.login env metas).1 ∧ Origin env c (c.login env metas).2 :=
      login_spec
    exact start_kind frame origin st
  | keepalive _ metas =>
    obtain ⟨frame, origin⟩ : Frame c (c.keepalive env metas).1 ∧
      Origin env c (c.keepalive env metas).2.2 := keepalive_spec
    exact start_kind frame origin st
  | openProxy =>
    simp only [step] at st
    split at st
    · cases st
      exact .frame (.memory Manager.settles_opened)
    · cases st
  | closeProxy =>
    cases st
    exact .frame (.memory Manager.settles_closed)
  | proceed =>
    simp only [step] at st
    split at st
    · cases st
    · rename_i effect rest at_
      cases st
      exact .perform rfl at_ performed
  | proceedLocked =>
    simp only [step] at st
    split at st
    · cases st
    · rename_i l holds
      cases st
      exact .locked rfl holds lockedStep
  | restart =>
    cases st
    exact .restart

/-! ## What steps leave alone

The requests and the lock holder's effects together are the threads of the node; `none` is the lock. -/

/-- What a thread still has to do. -/
def todo (c : Controller) : Option Nat → List Effect
  | some slot => c.requests slot
  | none =>
    match c.locked with
    | some (.effects rest) => rest
    | _ => []

/-- The thread that a step advances. -/
def Action.thread : Action → Option (Option Nat)
  | .proceed slot => some (some slot)
  | .proceedLocked => some none
  | _ => none

/-- The lock holder's effects. -/
lemma todo_locked {rest} (holds : c.locked = some (.effects rest)) : c.todo none = rest := by
  rw [todo, holds]

/-- Without effects the lock holder has nothing to do. -/
lemma todo_unlocked (idle : ∀ rest, c.locked = some (.effects rest) → rest = []) : c.todo none = [] := by
  rw [todo]
  split
  · exact idle _ ‹_›
  · rfl

/-- The leases stay. -/
lemma Frame.book (frame : Frame c c') : c'.store.book = c.store.book := by
  obtain ⟨_, _, e⟩ := frame.store
  rw [e]
  rfl

/-- An effect only ever revokes or deletes leases. -/
lemma Performed.book {rest effect c₁ rest'} (did : Performed c rest effect (c₁, rest')) :
    c.store.book.Shrinks c₁.store.book := by
  cases did with
  | committed ran | attempted ran => exact Db.Store.exec_book ran
  | failed | ignored | terminated | remembered => exact .refl

/-- An effect changes store and memory only. -/
lemma Performed.same {rest effect c₁ rest'} (did : Performed c rest effect (c₁, rest')) :
    c₁.now = c.now ∧ c₁.locked = c.locked ∧ c₁.requests = c.requests ∧
      c₁.issuedUnder = c.issuedUnder := by
  cases did <;> exact ⟨rfl, rfl, rfl, rfl⟩

end MeowFrp.Node.Controller
