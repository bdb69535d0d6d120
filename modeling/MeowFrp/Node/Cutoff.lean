import MeowFrp.Node.EdgeSteps

/-!
# Leases that a snapshot revokes on an edge

The snapshot handler commits the snapshot, which revokes leases in the store, and then ends the
connections of the leases that are no longer authorised; only this second part reaches the remembered
leases that the outage fallback consults. A revoked lease without a listed connection, or whose client
is draining, is therefore remembered as active, and the fallback keeps accepting it.

For a lease that the second part does reach, `Severed` is what it leaves behind, and `Sentenced` is the
invariant that carries the lease from the commit to that point: either it is severed, or the worker has
a connection of it still ahead.
-/

namespace MeowFrp.Node.EdgeNode

open Lib MeowFrp.Core Table List Edge.Store Manager

variable {env : Env} {e e' : EdgeNode} {a : Action} {id : String}

/-! ## Lease ids are used once -/

/-- Stored lease ids were issued, that of a bootstrap was not, and the lock holder only terminates. -/
structure IdsOnce (e : EdgeNode) : Prop where
  stored : ∀ l ∈ e.store.leases, ∃ hash, (l.leaseId, hash) ∈ e.issuedUnder
  drawn : ∀ p, Locked.underWay e.locked = some p → ∀ hash, (p.1, hash) ∉ e.issuedUnder
  lock : ∀ todo, e.locked = some (.effects todo) → ∀ effect ∈ todo, ∃ target, effect = .terminate target

lemma IdsOnce.of_shrinks (inv : IdsOnce e) (sh : e.store.book.Shrinks e'.store.book)
    (issued : e'.issuedUnder = e.issuedUnder) (locked : e'.locked = e.locked) : IdsOnce e' := by
  refine ⟨fun l m => ?_, ?_, ?_⟩
  · rw [issued]
    obtain ⟨k, mk, rfl | rfl⟩ := sh.leases l m
    · exact inv.stored l mk
    · exact inv.stored k mk
  · rw [issued, locked]
    exact inv.drawn
  · rw [locked]
    exact inv.lock

/-- The lock passes to somebody else. -/
lemma IdsOnce.relock {lock} (inv : IdsOnce e)
    (drawn : ∀ p, Locked.underWay lock = some p → ∀ hash, (p.1, hash) ∉ e.issuedUnder)
    (quiet : ∀ todo, lock = some (.effects todo) → ∀ effect ∈ todo, ∃ target, effect = .terminate target) :
    IdsOnce { e with locked := lock } :=
  ⟨inv.stored, drawn, quiet⟩

lemma LockedStep.idsOnce {l} (st : LockedStep env e l e') (holds : e.locked = some l)
    (inv : IdsOnce e) : IdsOnce e' := by
  have drawn := inv.drawn
  have quiet := inv.lock
  rw [holds] at drawn quiet
  cases st with
  | ended => exact inv.relock (by simp [Locked.underWay]) (by simp)
  | validated => exact inv.relock drawn (by simp)
  | created ran =>
    obtain ⟨_, _, _, _, issued, _, _, rfl⟩ := createLease_inv ran
    refine ⟨fun k m => ?_, by simp [Locked.underWay], by simp⟩
    rcases LeaseBook.mem_issue_leases issued m with rfl | ⟨_, j, mj, same, _⟩
    · exact ⟨_, mem_cons_self⟩
    · obtain ⟨hash, old⟩ := inv.stored j mj
      exact ⟨hash, mem_cons_of_mem _ (same ▸ old)⟩
  | @released leaseId tokenId clientId =>
    have freed : IdsOnce { e with store := (e.store.releaseRuntimeLease leaseId tokenId clientId).1 } :=
      inv.of_shrinks .revoke rfl rfl
    refine freed.relock (by simp [Locked.underWay]) ?_
    rintro _ ⟨⟩ effect m
    split at m
    · exact ⟨_, mem_singleton.mp m⟩
    · cases m
  | @performed effect =>
    have done : IdsOnce (e.perform effect) :=
      inv.of_shrinks perform_book perform_same.2.2.2.2 perform_same.2.1
    refine done.relock (by simp [Locked.underWay]) ?_
    rintro _ ⟨⟩ other m
    exact quiet _ rfl other (mem_cons_of_mem _ m)

/-- Lease ids are issued once. -/
lemma IdsOnce.step (inv : IdsOnce e) (st : e.step env a = some e') : IdsOnce e' := by
  cases step_kind st with
  | frame frame | start frame =>
    exact inv.of_shrinks (frame.book ▸ .refl) frame.issuedUnder frame.locked
  | lock frame _ locks =>
    have inv' := inv.of_shrinks (frame.book ▸ .refl) frame.issuedUnder frame.locked
    cases locks with
    | bootstrap _ _ fresh =>
      refine inv'.relock ?_ (by simp)
      rintro _ ⟨⟩
      exact frame.issuedUnder ▸ fresh
    | release => exact inv'.relock (by simp [Locked.underWay]) (by simp)
  | perform => exact inv.of_shrinks perform_book perform_same.2.2.2.2 perform_same.2.1
  | locked _ holds st => exact st.idsOnce holds inv
  | packet | reconnect | list | finish => exact inv.of_shrinks .refl rfl rfl
  | boot => exact ⟨fun l m => absurd m not_mem_empty, by simp [Locked.underWay], by simp⟩
  | apply _ _ ran => exact inv.of_shrinks (apply_book ran) rfl rfl
  | check _ _ did => cases did <;> exact inv.of_shrinks .refl rfl rfl

lemma idsOnce (r : (machine env).Reachable e) : IdsOnce e := by
  refine r.inv ?_ fun e a e' inv st => inv.step st
  rintro e ⟨leases, _, _, _, _, unlocked, _⟩
  refine ⟨?_, by simp [unlocked, Locked.underWay], by simp [unlocked]⟩
  rw [leases]
  exact fun l m => absurd m not_mem_empty

/-! ## Revoked for good -/

/-- The lease was issued and is not active in the store. -/
structure Revoked (e : EdgeNode) (id : String) : Prop where
  issued : ∃ hash, (id, hash) ∈ e.issuedUnder
  inactive : ∀ l ∈ e.store.leases, l.leaseId = id → l.status ≠ .active

lemma Revoked.of_shrinks (rev : Revoked e id) (sh : e.store.book.Shrinks e'.store.book)
    (issued : e'.issuedUnder = e.issuedUnder) : Revoked e' id := by
  refine ⟨issued ▸ rev.issued, fun l m same => ?_⟩
  obtain ⟨_, mk, rfl | rfl⟩ := sh.leases l m
  · exact rev.inactive l mk same
  · exact nofun

/-- The lock holder revives no lease. -/
lemma LockedStep.revoked {l} (st : LockedStep env e l e') (holds : e.locked = some l) (inv : IdsOnce e)
    (rev : Revoked e id) : Revoked e' id := by
  cases st with
  | ended | validated => exact rev.of_shrinks .refl rfl
  | created ran =>
    obtain ⟨_, _, _, _, issued, _, _, rfl⟩ := createLease_inv ran
    have drawn := inv.drawn
    rw [holds] at drawn
    obtain ⟨hash, old⟩ := rev.issued
    refine ⟨⟨hash, mem_cons_of_mem _ old⟩, fun k m same => ?_⟩
    rcases LeaseBook.mem_issue_leases issued m with rfl | ⟨_, _, mj, _, ⟨rfl, _⟩ | rfl⟩
    · exact absurd (same ▸ old) (drawn _ rfl hash)
    · exact rev.inactive _ mj same
    · exact nofun
  | released => exact rev.of_shrinks .revoke rfl
  | performed => exact rev.of_shrinks perform_book perform_same.2.2.2.2

/-- A lease that is not active is never active again. -/
lemma Revoked.step (rev : Revoked e id) (inv : IdsOnce e) (st : e.step env a = some e') :
    Revoked e' id := by
  cases step_kind st with
  | frame frame | start frame | lock frame =>
    exact rev.of_shrinks (frame.book ▸ .refl) frame.issuedUnder
  | perform => exact rev.of_shrinks perform_book perform_same.2.2.2.2
  | locked _ holds st => exact st.revoked holds inv rev
  | packet | reconnect | list | finish => exact rev.of_shrinks .refl rfl
  | boot => exact ⟨rev.issued, fun l m => absurd m not_mem_empty⟩
  | apply _ _ ran => exact rev.of_shrinks (apply_book ran) rfl
  | check _ _ did => cases did <;> exact rev.of_shrinks .refl rfl

/-! ## Cut off in memory -/

/-- The lease is not remembered as active and has no connection. -/
structure Severed (m : Manager) (id : String) : Prop where
  leases : ∀ l ∈ m.runtimeLeases, l.leaseId = id → l.status ≠ .active
  connections : ∀ c ∈ m.tracked, c.leaseId ≠ id

/-- Settling operations track nothing. -/
lemma Severed.settles {m m' : Manager} (cut : Severed m id) (settles : m.Settles m') :
    Severed m' id :=
  ⟨fun l ml same active => cut.leases l (settles.active l ml active) same active,
    fun c mc => cut.connections c (settles.tracked c mc)⟩

/-- What the handler does to a lease it finds unauthorised. -/
lemma severed_terminate {m : Manager} (named : id ≠ "") : Severed (m.terminate (.lease id)) id := by
  have valid : (Manager.Target.lease id).valid = true := by simpa [Manager.Target.valid] using named
  refine ⟨fun l ml same active => ?_, fun c mc same => ?_⟩
  · have out := (active_terminate ml active).2 valid
    simp [Manager.Target.covers, same] at out
  · have out := (tracked_terminate mc).2 valid
    simp [Manager.Target.reaches, same] at out

/-- The effect of an earlier login or connection makes the lease known again. -/
def readmits (id : String) : EdgeEffect → Prop
  | .remember lease => lease.leaseId = id
  | .register leaseId _ _ => leaseId = id
  | _ => False

/-- An effect that does not readmit. -/
lemma severed_perform {effect} (cut : Severed e.memory.core id) (other : ¬ readmits id effect) :
    Severed (e.perform effect).memory.core id := by
  cases effect with
  | revokeClient | clearClient => exact cut
  | terminate => exact cut.settles settles_terminate
  | remember =>
    refine ⟨fun l ml same => ?_, cut.connections⟩
    rcases mem_cons.mp ml with rfl | old
    · exact absurd same other
    · exact cut.leases l (mem_of_mem_filter old) same
  | bind => exact cut.settles settles_bindProxy
  | register =>
    refine ⟨cut.leases, fun c mc same => ?_⟩
    rcases mem_tracked_register mc with new | old
    · exact other (new.symm.trans same)
    · exact cut.connections c old same

/-! ## From the commit to the end of the handler -/

/-- A connection of the lease whose check is going to end it. -/
def Convicts (snap : IdentitySnapshot) (id : String) (c : ActiveConnection) : Prop :=
  c.leaseId = id ∧ (snap.incremental = true → affects snap c.userId = true)

/-- The step does not get into the way of cutting the lease off. -/
def Undisturbed (id : String) (e : EdgeNode) : Action → Prop
  | .proceed slot => ∀ effect ∈ (e.requests slot).head?, ¬ readmits id effect
  | .packet leaseId _ _ => leaseId ≠ id
  | .work udpTtl =>
    match e.worker with
    | .committed snap =>
      Severed e.memory.core id ∨ ∃ c ∈ e.memory.core.listConnections e.now udpTtl, Convicts snap id c
    | .checking _ (c :: _) _ =>
      c.leaseId = id → e.memory.core.clientDraining c.tokenId c.clientId = false
    | _ => True
  | _ => True

lemma LockedStep.memory {l} (st : LockedStep env e l e') (holds : e.locked = some l)
    (inv : IdsOnce e) : e.memory.core.Settles e'.memory.core ∧ e'.worker = e.worker := by
  have quiet := inv.lock
  rw [holds] at quiet
  cases st with
  | ended | validated | created | released => exact ⟨.refl, rfl⟩
  | performed =>
    obtain ⟨_, rfl⟩ := quiet _ rfl _ mem_cons_self
    exact ⟨settles_terminate, rfl⟩

/-- A lease that is cut off stays so. -/
lemma Severed.step (cut : Severed e.memory.core id) (inv : IdsOnce e) (quiet : Undisturbed id e a)
    (st : e.step env a = some e') : Severed e'.memory.core id := by
  cases step_kind st with
  | frame frame | start frame | lock frame => exact cut.settles frame.core
  | perform is at_ =>
    rw [is, Undisturbed, at_] at quiet
    exact severed_perform cut (quiet _ rfl)
  | locked _ holds st => exact cut.settles (st.memory holds inv).1
  | packet is =>
    rw [is] at quiet
    refine ⟨fun l ml => ?_, fun c mc same => ?_⟩
    · change l ∈ (Manager.observeUdpFlow _ _ _ _ _).runtimeLeases at ml
      rw [runtimeLeases_observe] at ml
      exact cut.leases l ml
    · rcases mem_tracked_observe mc with new | old
      · exact quiet (new.symm.trans same)
      · exact cut.connections c old same
  | reconnect | apply | list | finish => exact cut
  | boot => exact ⟨fun l m => absurd m not_mem_nil, fun c m => absurd m not_mem_nil⟩
  | check _ _ did =>
    cases did with
    | cut => exact cut.settles settles_terminate
    | draining | unaffected | known | allowed => exact cut

/-- The lease is cut off, or the worker is going to cut it off. -/
inductive Sentenced (id : String) (e : EdgeNode) : Prop
  | severed (cut : Severed e.memory.core id)
  | committed {snap} (at_ : e.worker = .committed snap)
  | checking {snap todo checked c} (at_ : e.worker = .checking snap todo checked) (new : id ∉ checked)
      (ahead : c ∈ todo) (convicts : Convicts snap id c)

/-- Where the worker does not move, the lease is as close to its cut-off. -/
lemma Sentenced.stay (sent : Sentenced id e) (worker : e'.worker = e.worker)
    (cut : Severed e.memory.core id → Severed e'.memory.core id) : Sentenced id e' := by
  cases sent with
  | severed now => exact .severed (cut now)
  | committed at_ => exact .committed (worker.trans at_)
  | checking at_ new ahead convicts => exact .checking (worker.trans at_) new ahead convicts

/-- The check of one connection. -/
lemma Checked.sentenced {snap c todo checked checked'} {e₁ : EdgeNode} (rev : Revoked e id)
    (named : id ≠ "") (did : Checked e snap checked c (e₁, checked')) (new : id ∉ checked)
    (ahead : ∃ d ∈ c :: todo, Convicts snap id d)
    (drains : c.leaseId = id → e.memory.core.clientDraining c.tokenId c.clientId = false) :
    Sentenced id { e₁ with worker := .checking snap todo checked' } := by
  obtain ⟨d, md, convicts⟩ := ahead
  by_cases here : c.leaseId = id
  · -- a connection of the lease: it is passed over only if another one is still ahead
    have later : ∀ {e₁ : EdgeNode}, d ≠ c →
        Sentenced id { e₁ with worker := .checking snap todo checked } := fun {_} ne =>
      .checking rfl new ((List.mem_cons.mp md).resolve_left ne) convicts
    cases did with
    | draining drained => exact absurd drained (by simp [drains here])
    | unaffected inc other =>
      refine later fun same => ?_
      rw [same] at convicts
      simp [convicts.2 inc] at other
    | known before => exact absurd (here ▸ before) new
    | allowed ok =>
      -- a check that passes finds an active row
      exfalso
      unfold Edge.Store.runtimeConnectionAuthorized at ok
      split at ok
      · cases ok
      split at ok
      · rename_i live
        obtain ⟨l, ml, hit⟩ := Table.any_eq_true.mp live
        simp only [RuntimeLease.live, Bool.and_eq_true, decide_eq_true_eq] at hit
        exact rev.inactive l ml (hit.1.1.1.trans here) hit.2.1
      · cases ok
    | cut =>
      rw [here]
      exact .severed (severed_terminate named)
  · -- another lease: the connection that convicts ours is still ahead
    have rest : d ∈ todo := by
      refine (List.mem_cons.mp md).resolve_left fun same => here ?_
      exact same ▸ convicts.1
    have unchecked : id ∉ c.leaseId :: checked := by
      intro m
      rcases List.mem_cons.mp m with same | old
      · exact here same.symm
      · exact new old
    cases did with
    | draining | unaffected | known => exact .checking rfl new rest convicts
    | allowed | cut => exact .checking rfl unchecked rest convicts

/-- Every undisturbed step keeps the lease on its way. -/
lemma Sentenced.step (sent : Sentenced id e) (rev : Revoked e id) (named : id ≠ "") (inv : IdsOnce e)
    (quiet : Undisturbed id e a) (st : e.step env a = some e') : Sentenced id e' := by
  have cut : Severed e.memory.core id → Severed e'.memory.core id := fun now => now.step inv quiet st
  cases step_kind st with
  | frame frame | start frame | lock frame => exact sent.stay frame.worker cut
  | perform => exact sent.stay perform_same.2.2.2.1 cut
  | locked _ holds st => exact sent.stay (st.memory holds inv).2 cut
  | packet | reconnect => exact sent.stay rfl cut
  | boot => exact .severed ⟨fun l m => absurd m not_mem_nil, fun c m => absurd m not_mem_nil⟩
  | apply _ idle =>
    cases sent with
    | severed now => exact .severed (cut now)
    | committed at_ | checking at_ => cases idle.symm.trans at_
  | list is at_ =>
    rw [is, Undisturbed, at_] at quiet
    rcases quiet with now | ⟨_, listed, convicts⟩
    · exact .severed (cut now)
    · exact .checking rfl not_mem_nil listed convicts
  | check is at_ did =>
    cases sent with
    | severed now => exact .severed (cut now)
    | committed at' => cases at_.symm.trans at'
    | checking at' new ahead convicts =>
      cases at_.symm.trans at'
      rw [is, Undisturbed, at_] at quiet
      exact did.sentenced rev named new ⟨_, ahead, convicts⟩ quiet
  | finish at_ =>
    cases sent with
    | severed now => exact .severed (cut now)
    | committed at' => cases at_.symm.trans at'
    | checking at' _ ahead =>
      cases at_.symm.trans at'
      cases ahead

/-! ## Keepalives of a revoked lease -/

/-- A lease that is revoked and cut off is rejected. -/
lemma keepalive_rejected {metas} (rev : Revoked e metas.leaseId)
    (cut : Severed e.memory.core metas.leaseId) :
    ∃ reason, e.keepalive env metas = .rejected reason := by
  unfold keepalive
  split
  · rename_i allow
    exfalso
    unfold Memory.allowFaultRuntime at allow
    split at allow
    · cases allow
    rename_i l found
    obtain ⟨held, fits⟩ := Option.filter_eq_some_iff.mp found
    simp only [Bool.and_eq_true, decide_eq_true_eq] at fits
    have same := List.find?_some held
    exact cut.leases l (mem_of_find?_eq_some held) (of_decide_eq_true same) fits.1
  · split
    · exact ⟨_, rfl⟩
    · rename_i l ok
      obtain ⟨ml, same, active⟩ := Api.edgeRuntime_ok ok
      exact absurd active (rev.inactive l ml same)

/-- Let a lease be revoked when the transaction of a closing snapshot has committed, and let no step
after that disturb the handler in cutting it off. Once the handler has finished, every keepalive with
the lease is rejected and none of its connections is tracked, whatever happens later. -/
theorem revoked_lease_cut_off {e₀ e₁ e₂ e₃ : EdgeNode} {snap l as bs}
    (r : (machine env).Reachable e₀) (applied : e₀.step env (.apply snap) = some e₁)
    (ends : snap.ends = true) (m : l ∈ e₁.store.leases) (revoked : l.status = .revoked)
    (run₁ : (machine env).run e₁ as = some e₂)
    (quiet₁ : (machine env).Along (Undisturbed l.leaseId) e₁ as) (done : e₂.worker = .idle)
    (run₂ : (machine env).run e₂ bs = some e₃)
    (quiet₂ : (machine env).Along (Undisturbed l.leaseId) e₂ bs) :
    (∀ metas, metas.leaseId = l.leaseId → ∃ reason, e₃.keepalive env metas = .rejected reason) ∧
    ∀ c ∈ e₃.memory.core.tracked, c.leaseId ≠ l.leaseId := by
  have ids₁ : IdsOnce e₁ := idsOnce (r.snoc (a := Action.apply snap) applied)
  have rev₁ : Revoked e₁ l.leaseId := by
    refine ⟨ids₁.stored l m, fun k mk same active => ?_⟩
    rw [eq_of_clash mk m (.inl same), revoked] at active
    cases active
  have sent₁ : Sentenced l.leaseId e₁ := by
    have at_ : e₁.worker = .committed snap := by
      change e₀.apply snap = some e₁ at applied
      unfold apply at applied
      split at applied
      · split at applied
        · cases applied
        · cases applied
          exact if_pos ends
      · cases applied
    exact .committed at_
  obtain ⟨ids₂, rev₂, sent₂⟩ := Machine.invariant_along
    (I := fun e => IdsOnce e ∧ Revoked e l.leaseId ∧ Sentenced l.leaseId e)
    (fun e a e' ⟨ids, rev, sent⟩ quiet st =>
      ⟨ids.step st, rev.step ids st, sent.step rev l.leaseId_ne ids quiet st⟩)
    quiet₁ ⟨ids₁, rev₁, sent₁⟩ run₁
  have cut₂ : Severed e₂.memory.core l.leaseId := by
    cases sent₂ with
    | severed cut => exact cut
    | committed at_ | checking at_ => cases done.symm.trans at_
  obtain ⟨_, rev₃, cut₃⟩ := Machine.invariant_along
    (I := fun e => IdsOnce e ∧ Revoked e l.leaseId ∧ Severed e.memory.core l.leaseId)
    (fun e a e' ⟨ids, rev, cut⟩ quiet st => ⟨ids.step st, rev.step ids st, cut.step ids quiet st⟩)
    quiet₂ ⟨ids₂, rev₂, cut₂⟩ run₂
  refine ⟨fun metas same => ?_, cut₃.connections⟩
  rw [← same] at rev₃ cut₃
  exact keepalive_rejected rev₃ cut₃

/-- A device obtains a lease and logs in with it. -/
def sampleLogin : List Action :=
  sampleStart ++ [.bootstrap "ak" "dev" [⟨"ssh", "tcp", "", 22, 1500, "", ""⟩] ⟨"lease", "rt", sampleLeaseId_ne⟩,
    .proceedLocked, .proceedLocked, .login 0 ⟨"rt", "lease"⟩, .proceed 0]

/-- It opens its proxy, and somebody connects. -/
def sampleConnection : List Action :=
  sampleLogin ++ [.newProxy 0 ⟨"rt", "lease"⟩ "ssh" "tcp" 1500 "" "", .proceed 0,
    .connect 0 ⟨"rt", "lease"⟩ "ssh" "1.2.3.4:5", .proceed 0]

/-- The user is banned. -/
def sampleBan : IdentitySnapshot :=
  { sampleUpdate "h:ak" with users := [⟨1, "ann", .user, .banned, "", Nat.one_pos⟩] }

/-- A lease with a connection is cut off, and stays so when the controller is lost. -/
theorem revoked_lease_cut_off_connected :
    ∃ e₀ e₁ e₂ e₃, (machine sampleEnv).Reachable e₀ ∧ e₀.step sampleEnv (.apply sampleBan) = some e₁ ∧
      (machine sampleEnv).run e₁ [.work 0, .work 0, .work 0] = some e₂ ∧ e₂.worker = .idle ∧
      (machine sampleEnv).run e₂ [.link false false false] = some e₃ ∧
      ∃ reason, e₃.keepalive sampleEnv ⟨"rt", "lease"⟩ = .rejected reason := by
  obtain ⟨e₀, e₁, e₂, e₃, l, run, applied, m, revoked, same, run₁, quiet₁, done, run₂⟩ :
      ∃ e₀ e₁ e₂ e₃ l, (machine sampleEnv).run sample sampleConnection = some e₀ ∧
        e₀.step sampleEnv (.apply sampleBan) = some e₁ ∧ l ∈ e₁.store.leases ∧ l.status = .revoked ∧
        "lease" = l.leaseId ∧ (machine sampleEnv).run e₁ [.work 0, .work 0, .work 0] = some e₂ ∧
        (machine sampleEnv).Along (Undisturbed "lease") e₁ [.work 0, .work 0, .work 0] ∧
        e₂.worker = .idle ∧ (machine sampleEnv).run e₂ [.link false false false] = some e₃ := by
    refine ⟨_, _, _, _, _, rfl, rfl, mem_cons_self, rfl, rfl, rfl, .cons rfl ?_ (.cons rfl ?_
      (.cons rfl trivial trivial)), rfl, rfl⟩
    · exact .inr ⟨_, mem_cons_self, rfl, fun _ => rfl⟩
    · exact fun _ => rfl
  have reach : (machine sampleEnv).Reachable e₀ :=
    ⟨_, _, ⟨rfl, rfl, rfl, rfl, rfl, rfl, rfl, rfl, rfl⟩, run⟩
  have quiet₂ : (machine sampleEnv).Along (Undisturbed l.leaseId) e₂ [.link false false false] :=
    ⟨trivial, fun _ _ => trivial⟩
  have cut := revoked_lease_cut_off reach applied rfl m revoked run₁ (same ▸ quiet₁) done run₂ quiet₂
  exact ⟨e₀, e₁, e₂, e₃, reach, applied, run₁, done, run₂, cut.1 ⟨"rt", "lease"⟩ same⟩

/-- Without a connection the handler does not reach the lease: when the controller is lost afterwards,
the fallback accepts it. -/
theorem fallback_accepts_revoked_lease :
    ∃ e₀ e₁ e₂ e₃ l, (machine sampleEnv).Reachable e₀ ∧ l ∈ e₀.store.leases ∧ l.status = .active ∧
      e₀.step sampleEnv (.apply sampleBan) = some e₁ ∧ l.revoke ∈ e₁.store.leases ∧
      (machine sampleEnv).run e₁ [.work 0, .work 0] = some e₂ ∧ e₂.worker = .idle ∧
      (machine sampleEnv).run e₂ [.link false false false] = some e₃ ∧ l.leaseId = "lease" ∧
      e₃.keepalive sampleEnv ⟨"rt", "lease"⟩ = .fallback :=
  ⟨_, _, _, _, _, ⟨sample, sampleLogin, ⟨rfl, rfl, rfl, rfl, rfl, rfl, rfl, rfl, rfl⟩, rfl⟩,
    mem_cons_self, rfl, rfl, mem_cons_self, rfl, rfl, rfl, rfl, rfl⟩

end MeowFrp.Node.EdgeNode
