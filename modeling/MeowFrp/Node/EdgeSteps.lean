import MeowFrp.Node.Edge

/-!
# What a step of an edge node can do

Inversion of the edge's step function, in the shape of that of the controller: most actions leave the
store alone up to the device table and the FRP core settled, and possibly leave a request behind; the
rest are the next effects of requests and of the holder of the bootstrap lock, the steps of the
snapshot worker, and the two resets of the cache.
-/

namespace MeowFrp.Node.EdgeNode

open Lib MeowFrp.Core Option Manager

variable {env : Env} {e e' e₁ : EdgeNode}

/-- Only the device table changes, and no lease is newly remembered. -/
structure Frame (e e' : EdgeNode) : Prop where
  store : ∃ clients, ClientsGrow e.store.clients clients ∧ e'.store = { e.store with clients }
  core : e.memory.core.Settles e'.memory.core
  now : e.now ≤ e'.now
  issuedUnder : e'.issuedUnder = e.issuedUnder
  locked : e'.locked = e.locked
  requests : e'.requests = e.requests
  worker : e'.worker = e.worker

lemma Frame.refl : Frame e e := ⟨⟨_, .refl, rfl⟩, .refl, le_rfl, rfl, rfl, rfl, rfl⟩

lemma Frame.trans {e''} (f : Frame e e') (g : Frame e' e'') : Frame e e'' := by
  obtain ⟨_, grow, es⟩ := f.store
  obtain ⟨clients', grow', es'⟩ := g.store
  refine ⟨⟨clients', grow.trans (by simpa [es] using grow'), by rw [es', es]⟩,
    f.core.trans g.core, f.now.trans g.now, g.issuedUnder.trans f.issuedUnder,
    g.locked.trans f.locked, g.requests.trans f.requests, g.worker.trans f.worker⟩

/-- Only the memory changes. -/
lemma Frame.memory {memory : Memory} (settles : e.memory.core.Settles memory.core) :
    Frame e { e with memory } :=
  ⟨⟨_, .refl, rfl⟩, settles, le_rfl, rfl, rfl, rfl, rfl⟩

/-- Devices are added. -/
lemma Frame.of_clients {store : Edge.Store}
    (grows : ∃ clients, ClientsGrow e.store.clients clients ∧ store = { e.store with clients }) :
    Frame e { e with store } :=
  ⟨grows, .refl, le_rfl, rfl, rfl, rfl, rfl⟩

/-- A device is seen again. -/
lemma Frame.touch {id} (frame : Frame e e₁) :
    Frame e { e₁ with store := e₁.store.touchClient e₁.now id } :=
  frame.trans (Frame.of_clients ⟨_, .touch, rfl⟩)

/-! ## Requests -/

/-- A found or created device only adds to the device table. -/
lemma credential_spec {s store : Edge.Store} {hash clientId create token user client}
    (h : s.credential hash clientId create = some (store, token, user, client)) :
    s.cachedTokens.find? (·.tokenHash = hash) = some token ∧
    s.cachedUsers.find? (·.id = token.userId) = some user ∧
    (client ∈ store.clients ∧ client.tokenId = token.id ∧ client.clientId = clientId) ∧
    ∃ clients, ClientsGrow s.clients clients ∧ store = { s with clients } := by
  simp only [Edge.Store.credential, bind_eq_bind, bind_eq_some_iff, pure_def,
    some.injEq] at h
  obtain ⟨_, found, _, owner, _, made, _, device, h⟩ := h
  cases h
  have row := Table.find?_prop device
  simp only [Bool.and_eq_true, decide_eq_true_eq] at row
  refine ⟨found, owner, ⟨Table.mem_of_find? device, row⟩, ?_⟩
  unfold Edge.Store.ensureClient at made
  split at made
  · obtain ⟨clients, ins, made⟩ := bind_eq_some_iff.mp made
    cases made
    refine ⟨clients, fun r m => ?_, rfl⟩
    exact ⟨r, (Table.mem_insert ins).mpr (.inl m), rfl, rfl, rfl, rfl⟩
  · cases made
    exact ⟨_, .refl, rfl⟩

/-- What `authenticate` can do, and whom it accepts. -/
lemma authenticate_spec {bootstrap login accessToken clientId create found}
    (h : e.authenticate env bootstrap login accessToken clientId create = (e', found)) :
    Frame e e' ∧ ∀ token user client, found = some (token, user, client) →
      e.store.cachedTokens.find? (·.tokenHash = env.tokenHash accessToken) = some token ∧
      client ∈ e'.store.clients ∧ client.tokenId = token.id ∧ client.clientId = trimSpace clientId := by
  unfold authenticate at h
  split at h
  · cases h
    exact ⟨.refl, nofun⟩
  rename_i store token user client ok
  have cred : e.store.credential (env.tokenHash accessToken) (trimSpace clientId) create =
      some (store, token, user, client) := by
    unfold Api.edgeCredential at ok
    split at ok
    · cases ok
    rename_i found
    split at ok
    · cases ok
    · cases ok
      exact found
  obtain ⟨held, _, device, grows⟩ := credential_spec cred
  dsimp only at h
  split at h
  · cases h
    exact ⟨.of_clients grows, nofun⟩
  · cases h
    refine ⟨(Frame.of_clients grows).trans (Frame.memory Memory.settles_rememberClient), ?_⟩
    intro _ _ _ eq
    cases eq
    exact ⟨held, device⟩

/-- What starts a request. -/
inductive Origin (env : Env) (e : EdgeNode) : List EdgeEffect → Prop
  | done : Origin env e []
  | clear (tokenId : Nat) (clientId : String) (id : Nat) :
      Origin env e
        [.revokeClient tokenId clientId, .clearClient id, .terminate (.client tokenId clientId)]
  | login {metas lease} (valid : Api.edgeRuntime env.tokenHash e.store e.now metas = .ok lease) :
      Origin env e [.remember lease]
  | bind (binding : ProxyBinding) : Origin env e [.bind binding]
  | connect (leaseId proxyName remoteAddr : String) :
      Origin env e [.register leaseId proxyName remoteAddr]

/-- How a request takes the lock; a bootstrap looks its device up trimmed. -/
inductive Locks (env : Env) (e e₁ : EdgeNode) (a : Action) : Locked EdgeEffect → Prop
  | bootstrap {accessToken clientId proxies draw token user}
      (is : a = .bootstrap accessToken clientId proxies draw)
      (found : e.store.cachedTokens.find? (·.tokenHash = env.tokenHash accessToken) = some token)
      (fresh : ∀ hash, (draw.leaseId, hash) ∉ e.issuedUnder)
      (device : ∃ r ∈ e₁.store.clients, r.tokenId = token.id ∧ r.clientId = trimSpace clientId) :
      Locks env e e₁ a (.validate user token (env.tokenHash accessToken) clientId proxies draw)
  | release (leaseId : String) (tokenId : Nat) (clientId : String) :
      Locks env e e₁ a (.release leaseId tokenId clientId)

/-- The outcomes of the next step of the lock holder. -/
inductive LockedStep (env : Env) (e : EdgeNode) : Locked EdgeEffect → EdgeNode → Prop
  | ended {l} : LockedStep env e l { e with locked := none }
  | validated {user token presented clientId proxies draw allocations}
      (ok : Api.validateEdgeProxies (e.proxyRules env user token clientId) proxies = .ok allocations) :
      LockedStep env e (.validate user token presented clientId proxies draw)
        { e with locked := some (.create (env.lease e.now user token clientId draw) presented allocations) }
  | created {lease presented allocations store}
      (ran : e.store.createLease lease allocations = .ok store) :
      LockedStep env e (.create lease presented allocations)
        { e with store, locked := none, issuedUnder := (lease.leaseId, presented) :: e.issuedUnder }
  | released {leaseId tokenId clientId} :
      LockedStep env e (.release leaseId tokenId clientId)
        { e with
          store := (e.store.releaseRuntimeLease leaseId tokenId clientId).1
          locked := some (.effects
            (if (e.store.releaseRuntimeLease leaseId tokenId clientId).2 then
              [.terminate (.lease leaseId)] else [])) }
  | performed {effect rest} :
      LockedStep env e (.effects (effect :: rest)) { e.perform effect with locked := some (.effects rest) }

/-- The step of the request that holds the lock. -/
lemma lockedStep {l} : LockedStep env e l (e.proceedLocked env l) := by
  cases l with
  | validate =>
    unfold proceedLocked
    dsimp only
    split
    · exact .ended
    · exact .validated ‹_›
  | create =>
    unfold proceedLocked
    dsimp only
    split
    · exact .ended
    · exact .created ‹_›
  | release => exact .released
  | effects todo =>
    cases todo with
    | nil => exact .ended
    | cons => exact .performed

/-- The outcomes of checking a connection after a snapshot. -/
inductive Checked (e : EdgeNode) (snap : IdentitySnapshot) (checked : List String)
    (c : ActiveConnection) : EdgeNode × List String → Prop
  | draining (drains : e.memory.core.clientDraining c.tokenId c.clientId = true) :
      Checked e snap checked c (e, checked)
  | unaffected (inc : snap.incremental = true) (other : affects snap c.userId = false) :
      Checked e snap checked c (e, checked)
  | known (before : c.leaseId ∈ checked) : Checked e snap checked c (e, checked)
  | allowed (ok : e.store.runtimeConnectionAuthorized e.now c.userId c.tokenId c.leaseId = .ok ()) :
      Checked e snap checked c (e, c.leaseId :: checked)
  | cut : Checked e snap checked c
      (e.withCore (e.memory.core.terminate (.lease c.leaseId)), c.leaseId :: checked)

/-- A connection is checked against the store. -/
lemma checked_connection {snap checked c} :
    Checked e snap checked c (e.checkConnection snap checked c) := by
  unfold checkConnection
  split
  · exact .draining ‹_›
  split
  · rename_i h
    obtain ⟨inc, other⟩ : snap.incremental = true ∧ affects snap c.userId = false := by simpa using h
    exact .unaffected inc other
  split
  · rename_i h
    exact .known (by simpa using h)
  split
  · exact .allowed ‹_›
  · exact .cut

/-- The kinds of steps; those that change store or memory name their action. -/
inductive Kind (env : Env) (e : EdgeNode) (a : Action) : EdgeNode → Prop
  | frame {d : EdgeNode} (frame : Frame e d) : Kind env e a d
  | start {e₁ : EdgeNode} {slot todo} (frame : Frame e e₁) (free : e.requests slot = [])
      (origin : Origin env e todo) :
      Kind env e a { e₁ with requests := Function.update e₁.requests slot todo }
  | lock {e₁ : EdgeNode} {l} (frame : Frame e e₁) (free : e.locked = none) (locks : Locks env e e₁ a l) :
      Kind env e a { e₁ with locked := some l }
  | perform {slot effect rest} (is : a = .proceed slot) (at_ : e.requests slot = effect :: rest) :
      Kind env e a { e.perform effect with requests := Function.update e.requests slot rest }
  | locked {l} {e₁ : EdgeNode} (is : a = .proceedLocked) (holds : e.locked = some l)
      (step : LockedStep env e l e₁) : Kind env e a e₁
  | packet {leaseId proxyName remoteAddr} (is : a = .packet leaseId proxyName remoteAddr) :
      Kind env e a (e.withCore (e.memory.core.observeUdpFlow e.now leaseId proxyName remoteAddr))
  | reconnect : Kind env e a { e with store := e.store.discardControlIdentityCache, syncReady := false }
  | boot : Kind env e a
      { store := e.store.resetIdentityCache true, now := e.now, issuedUnder := e.issuedUnder }
  | apply {snap store} (is : a = .apply snap) (idle : e.worker = .idle)
      (ran : e.store.applyIdentitySnapshot e.now snap = .ok store) :
      Kind env e a { e with store, worker := if snap.ends then .committed snap else .idle }
  | list {snap udpTtl} (is : a = .work udpTtl) (at_ : e.worker = .committed snap) :
      Kind env e a
        { e with worker := .checking snap (e.memory.core.listConnections e.now udpTtl) [] }
  | check {snap c todo checked udpTtl} {e₁ : EdgeNode} {checked'} (is : a = .work udpTtl)
      (at_ : e.worker = .checking snap (c :: todo) checked)
      (did : Checked e snap checked c (e₁, checked')) :
      Kind env e a { e₁ with worker := .checking snap todo checked' }
  | finish {snap checked} (at_ : e.worker = .checking snap [] checked) :
      Kind env e a { e with worker := .idle }

/-- A request gets a slot. -/
lemma start_kind {a slot todo} (frame : Frame e e₁) (origin : Origin env e todo)
    (st : e₁.start slot todo = some e') : Kind env e a e' := by
  unfold start at st
  split at st
  · rename_i free
    cases st
    exact .start frame (frame.requests ▸ free) origin
  · cases st

/-- A snapshot is committed. -/
lemma apply_kind {snap} (st : e.apply snap = some e') : Kind env e (.apply snap) e' := by
  unfold apply at st
  split at st
  · rename_i idle
    split at st
    · cases st
    · cases st
      exact .apply rfl idle ‹_›
  · cases st

/-- The worker checks a connection or finishes. -/
lemma work_kind {udpTtl} (st : e.work udpTtl = some e') : Kind env e (.work udpTtl) e' := by
  unfold work at st
  split at st
  · cases st
  · cases st
    exact .list rfl ‹_›
  · cases st
    exact .finish ‹_›
  · cases st
    exact .check rfl ‹_› checked_connection

/-- A heartbeat touches its device. -/
lemma heartbeat_kind {a accessToken clientId newId}
    (st : e.step env (.heartbeat accessToken clientId newId) = some e') : Kind env e a e' := by
  simp only [step] at st
  have beat : Frame e { e with memory := (e.memory.faultHeartbeat env.cfg e.now
      (!e.edgeOnlineForNewSessions) e.nodeUnavailableEdge (env.tokenHash accessToken) clientId).1 } :=
    Frame.memory Memory.settles_faultHeartbeat
  split at st
  · split at st
    · cases st
      split
      · exact .frame beat
      · exact .frame beat.touch
    · cases st
      exact .frame beat
  · cases st
    exact .frame beat
  · split at st
    · cases st
      exact .frame beat
    split at st
    · rename_i auth
      cases st
      exact .frame (beat.trans (authenticate_spec auth).1)
    · rename_i auth
      cases st
      exact .frame (beat.trans (authenticate_spec auth).1).touch

/-- A bootstrap takes the lock. -/
lemma bootstrap_kind {accessToken clientId proxies} {draw : Draw} (free : e.locked = none)
    (fresh : ∀ hash, (draw.leaseId, hash) ∉ e.issuedUnder) :
    Kind env e (.bootstrap accessToken clientId proxies draw) (e.bootstrap env accessToken clientId proxies draw) := by
  unfold bootstrap
  split
  · exact .frame .refl
  split
  · rename_i auth
    exact .frame (authenticate_spec auth).1
  · rename_i token user client auth
    obtain ⟨frame, accepted⟩ := authenticate_spec auth
    obtain ⟨found, device⟩ := accepted token user client rfl
    split
    · exact .lock frame free (.bootstrap rfl found fresh ⟨client, device⟩)
    · exact .frame frame

/-- A release takes the lock. -/
lemma release_kind {a accessToken clientId leaseId} (free : e.locked = none) :
    Kind env e a (e.release env accessToken clientId leaseId) := by
  unfold release
  dsimp only
  split
  · exact .frame .refl
  split
  · rename_i auth
    exact .frame (authenticate_spec auth).1
  · rename_i token _ _ auth
    exact .lock (authenticate_spec auth).1 free (.release leaseId token.id (trimSpace clientId))

/-- What a login has to do. -/
lemma login_origin {metas} : Origin env e (e.login env metas) := by
  unfold login
  split
  · exact .done
  split
  · exact .done
  · exact .login ‹_›

/-- What an approved proxy has to do. -/
lemma newProxy_origin {metas proxyName proxyType remotePort domain subdomain} :
    Origin env e (e.newProxy env metas proxyName proxyType remotePort domain subdomain) := by
  unfold newProxy
  split
  · exact .done
  split
  · exact .done
  split
  · exact .done
  split
  · exact .done
  · exact .bind _

/-- What a new connection has to do. -/
lemma connect_origin {metas proxyName remoteAddr} :
    Origin env e (e.connect env metas proxyName remoteAddr) := by
  unfold connect
  split
  · exact .done
  · exact .connect _ _ _

/-- A step that only changes the core. -/
lemma core_kind {a} {core : Manager} (settles : e.memory.core.Settles core) :
    Kind env e a (e.withCore core) :=
  .frame (Frame.memory settles)

/-- A health check changes the flags. -/
lemma health_kind {a storeFailed} : Kind env e a (e.health storeFailed) := by
  unfold health
  dsimp only
  split
  · exact .frame (Frame.memory Memory.settles_transitionNodeFault)
  · exact .frame (Frame.memory .refl)

/-- Inversion of a step. -/
lemma step_kind {a} (st : e.step env a = some e') : Kind env e a e' := by
  cases a with
  | tick =>
    cases st
    exact .frame ⟨⟨_, .refl, rfl⟩, .refl, Nat.le_add_right _ _, rfl, rfl, rfl, rfl⟩
  | link =>
    cases st
    exact .frame ⟨⟨_, .refl, rfl⟩, .refl, le_rfl, rfl, rfl, rfl, rfl⟩
  | health =>
    cases st
    exact health_kind
  | reconnect =>
    cases st
    exact .reconnect
  | boot =>
    cases st
    exact .boot
  | apply => exact apply_kind st
  | work => exact work_kind st
  | heartbeat => exact heartbeat_kind st
  | resourcePolicy =>
    simp only [step] at st
    split at st
    · cases st
    split at st
    · rename_i auth
      cases st
      exact .frame (authenticate_spec auth).1
    rename_i auth
    split at st
    · cases st
      exact .frame (authenticate_spec auth).1.touch
    · cases st
      exact .frame (authenticate_spec auth).1
  | logout =>
    simp only [step] at st
    split at st
    · rename_i auth
      cases st
      exact .frame (authenticate_spec auth).1
    · rename_i auth
      exact start_kind (authenticate_spec auth).1 (.clear _ _ _) st
  | bootstrap =>
    simp only [step] at st
    split at st
    · cases st
    rename_i free
    cases st
    obtain ⟨unlocked, fresh⟩ : e.locked = none ∧ _ := by simpa using free
    exact bootstrap_kind unlocked fresh
  | release =>
    simp only [step] at st
    split at st
    · cases st
    rename_i free
    cases st
    exact release_kind (by simpa using free)
  | sweep =>
    simp only [step] at st
    split at st
    · cases st
    split at st
    · cases st
    split at st
    · cases st
    exact start_kind .refl (.clear _ _ _) st
  | login => exact start_kind .refl login_origin st
  | newProxy => exact start_kind .refl newProxy_origin st
  | connect => exact start_kind .refl connect_origin st
  | disconnect =>
    cases st
    exact core_kind settles_unregisterTcpConnection
  | packet =>
    simp only [step] at st
    split at st
    · cases st
      exact .packet rfl
    · cases st
  | expireFlows =>
    cases st
    exact core_kind settles_cleanupExpiredUdpFlows
  | openProxy =>
    simp only [step] at st
    split at st
    · cases st
      exact core_kind settles_opened
    · cases st
  | closeProxy =>
    cases st
    exact core_kind settles_closed
  | proceed =>
    simp only [step] at st
    split at st
    · cases st
    · cases st
      exact .perform rfl ‹_›
  | proceedLocked =>
    simp only [step] at st
    split at st
    · cases st
    · rename_i holds
      cases st
      exact .locked rfl holds lockedStep

/-! ## What steps leave alone -/

/-- The leases stay. -/
lemma Frame.book (frame : Frame e e') : e'.store.book = e.store.book := by
  obtain ⟨_, _, es⟩ := frame.store
  rw [es]
  rfl

/-- An effect only ever revokes leases. -/
lemma perform_book {effect} : e.store.book.Shrinks (e.perform effect).store.book := by
  cases effect with
  | revokeClient => exact .revoke
  | clearClient | terminate | remember | bind | register => exact .refl

/-- An effect changes store and memory only. -/
lemma perform_same {effect} : (e.perform effect).now = e.now ∧ (e.perform effect).locked = e.locked ∧
    (e.perform effect).requests = e.requests ∧ (e.perform effect).worker = e.worker ∧
    (e.perform effect).issuedUnder = e.issuedUnder := by
  cases effect <;> exact ⟨rfl, rfl, rfl, rfl, rfl⟩

end MeowFrp.Node.EdgeNode
