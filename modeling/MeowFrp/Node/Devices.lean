import MeowFrp.Node.Books

/-!
# The devices of an edge and their leases

`edgeCredential` looks up a device under its trimmed id, while `edgeClientBootstrap` issues the lease,
and `edgeClientLogout` revokes leases, under the id as it was sent. An id with surrounding white space
thus gives a registered device a second lease that belongs to no row, and logging out with it leaves the
device's own lease active (`lease_without_device`). When the ids of bootstraps and logouts are sent
trimmed, active leases and device rows correspond.
-/

namespace MeowFrp.Node

open Lib LeaseBook Edge.Store

/-- The device a bootstrap under way is for. -/
def Locked.device {ε : Type} : Option (Locked ε) → Option (Nat × String)
  | some (.validate _ token _ clientId _ _) => some (token.id, clientId)
  | some (.create lease _ _) => some (LeaseBook.ownerOf lease)
  | _ => none

/-- No lease of the device is active. -/
def Quiet (device : Nat × String) (b : LeaseBook) : Prop :=
  ∀ l ∈ b.leases, LeaseBook.ownerOf l = device → l.status ≠ .active

/-- A book that shrinks stays quiet. -/
lemma Quiet.shrinks {device} {b b' : LeaseBook} (quiet : Quiet device b) (sh : b.Shrinks b') :
    Quiet device b' := by
  intro l m mine active
  obtain ⟨_, mk, rfl | rfl⟩ := sh.leases l m
  · exact quiet l mk mine active
  · cases active

/-- A device without active leases has none until one is created. -/
lemma Books.Step.quiet {device policy proceeds} {s s' : Books} (st : Books.Step policy proceeds s s')
    (other : proceeds → ∀ p ∈ s.creating, LeaseBook.ownerOf p.1 ≠ device)
    (quiet : Quiet device s.book) : Quiet device s'.book := by
  cases st with
  | shrink sh | cancel sh => exact quiet.shrinks sh
  | check => exact quiet
  | create by_ issued =>
    intro l m mine active
    rcases mem_issue_leases issued m with rfl | ⟨_, _, mk, _, ⟨rfl, _⟩ | rfl⟩
    · exact other by_ _ rfl mine
    · exact quiet l mk mine active
    · cases active

namespace EdgeNode

variable {env : Env} {e e' : EdgeNode} {a : Action}

/-- The device is registered. -/
def HasDevice (e : EdgeNode) (device : Nat × String) : Prop :=
  ∃ r ∈ e.store.clients, r.tokenId = device.1 ∧ r.clientId = device.2

/-- The client id of a request that acts on leases, as it is sent. -/
def Action.sentId : Action → Option String
  | .bootstrap _ clientId _ _ => some clientId
  | .logout _ _ clientId => some clientId
  | _ => none

/-- Bootstraps and logouts send their client id trimmed. -/
def Trimmed (_ : EdgeNode) (a : Action) : Prop := ∀ clientId ∈ a.sentId, trimSpace clientId = clientId

instance : Decidable (Trimmed e a) :=
  inferInstanceAs (Decidable (∀ clientId ∈ a.sentId, trimSpace clientId = clientId))

/-- Active leases belong to devices, one to each, and so does a bootstrap. -/
structure Devices (e : EdgeNode) : Prop where
  rows : ∀ l ∈ e.store.leases, l.status = .active → e.HasDevice (LeaseBook.ownerOf l)
  single : ∀ l ∈ e.store.leases, ∀ l' ∈ e.store.leases, l.status = .active → l'.status = .active →
    LeaseBook.ownerOf l = LeaseBook.ownerOf l' → l = l'
  bootstrap : ∀ device ∈ Locked.device e.locked, e.HasDevice device

lemma HasDevice.grow {device} (grow : ClientsGrow e.store.clients e'.store.clients)
    (has : e.HasDevice device) : e'.HasDevice device := by
  obtain ⟨r, m, token, client⟩ := has
  obtain ⟨r', m', _, token', client', _⟩ := grow r m
  exact ⟨r', m', token'.trans token, client'.trans client⟩

/-- Revocations and new devices keep the invariant. -/
lemma Devices.shrinks (inv : Devices e) (sh : e.store.book.Shrinks e'.store.book)
    (grow : ClientsGrow e.store.clients e'.store.clients)
    (locked : ∀ device ∈ Locked.device e'.locked, e'.HasDevice device) : Devices e' := by
  have kept : ∀ l ∈ e'.store.leases, l.status = .active → l ∈ e.store.leases := by
    intro l m active
    obtain ⟨_, mk, rfl | rfl⟩ := sh.leases l m
    · exact mk
    · cases active
  refine ⟨fun l m active => ?_, fun l m l' m' active active' same => ?_, locked⟩
  · exact (inv.rows l (kept l m active) active).grow grow
  · exact inv.single l (kept l m active) l' (kept l' m' active') active active' same

lemma perform_clients {effect} : ClientsGrow e.store.clients (e.perform effect).store.clients := by
  cases effect with
  | revokeClient | terminate | remember | bind | register => exact .refl
  | clearClient => exact .touch

/-- A step that adds devices only keeps the invariant. -/
lemma Frame.devices (frame : Frame e e') (inv : Devices e) : Devices e' := by
  obtain ⟨_, grow, store⟩ := frame.store
  have grow : ClientsGrow e.store.clients e'.store.clients := by
    rw [store]
    exact grow
  refine inv.shrinks (frame.book ▸ .refl) grow fun device m => ?_
  rw [frame.locked] at m
  exact (inv.bootstrap device m).grow grow

lemma LockedStep.devices {l} (st : LockedStep env e l e') (holds : e.locked = some l)
    (inv : Devices e) : Devices e' := by
  have boot := inv.bootstrap
  rw [holds] at boot
  cases st with
  | ended => exact inv.shrinks .refl .refl nofun
  | validated => exact inv.shrinks .refl .refl boot
  | created ran =>
    obtain ⟨_, _, _, _, issued, _, _, rfl⟩ := createLease_inv ran
    refine ⟨fun l m active => ?_, fun l m l' m' active active' same => ?_, nofun⟩
    · rcases mem_issue_leases issued m with rfl | ⟨_, _, mk, _, ⟨rfl, _⟩ | rfl⟩
      · exact boot _ rfl
      · exact inv.rows l mk active
      · cases active
    · -- the leases the device held before are revoked
      rcases mem_issue_leases issued m with rfl | ⟨_, _, mk, _, ⟨rfl, other⟩ | rfl⟩
      · rcases mem_issue_leases issued m' with rfl | ⟨_, _, mk, _, ⟨rfl, other⟩ | rfl⟩
        · rfl
        · exact absurd same.symm (other active')
        · cases active'
      · rcases mem_issue_leases issued m' with rfl | ⟨_, _, mk', _, ⟨rfl, _⟩ | rfl⟩
        · exact absurd same (other active)
        · exact inv.single l mk l' mk' active active' same
        · cases active'
      · cases active
  | released => exact inv.shrinks .revoke .refl nofun
  | performed => exact inv.shrinks perform_book perform_clients nofun

/-- Every step keeps the invariant, if bootstraps send trimmed ids. -/
lemma Devices.step (inv : Devices e) (trimmed : Trimmed e a) (st : e.step env a = some e') :
    Devices e' := by
  cases step_kind st with
  | frame frame => exact frame.devices inv
  | start frame =>
    obtain ⟨rows, single, bootstrap⟩ := frame.devices inv
    exact ⟨rows, single, bootstrap⟩
  | lock frame _ locks =>
    have inv' := frame.devices inv
    cases locks with
    | bootstrap is _ _ device =>
      subst is
      refine inv'.shrinks .refl .refl ?_
      rintro _ ⟨⟩
      obtain ⟨r, m, token, client⟩ := device
      exact ⟨r, m, token, client.trans (trimmed _ rfl)⟩
    | release => exact inv'.shrinks .refl .refl nofun
  | perform =>
    refine inv.shrinks perform_book perform_clients fun device m => ?_
    change device ∈ Locked.device (e.perform _).locked at m
    rw [perform_same.2.1] at m
    exact (inv.bootstrap device m).grow perform_clients
  | locked _ holds st => exact st.devices holds inv
  | packet | reconnect | list | finish => exact inv.shrinks .refl .refl inv.bootstrap
  | boot => exact inv.shrinks resetIdentityCache_book .touch nofun
  | apply _ _ ran =>
    have same : _ = e.store.clients := apply_clients ran
    refine inv.shrinks (apply_book ran) (same ▸ .refl) fun device m => ?_
    exact (inv.bootstrap device m).grow (same ▸ .refl)
  | check _ _ did => cases did <;> exact inv.shrinks .refl .refl inv.bootstrap

lemma devices (r : (machine env).ReachableAlong Trimmed e) : Devices e := by
  refine r.inv (fun e init => ?_) fun e a e' inv trimmed st => inv.step trimmed st
  obtain ⟨leases, _, _, _, _, unlocked, _⟩ := init
  refine ⟨fun l m => ?_, fun l m => ?_, fun device m => ?_⟩
  · rw [leases] at m
    cases m
  · rw [leases] at m
    cases m
  · rw [unlocked] at m
    cases m

/-! ## Logging out -/

/-- A lease is created for another device only. -/
def Spares (device : Nat × String) (e : EdgeNode) (a : Action) : Prop :=
  a.proceedsLocked = true → ∀ p ∈ e.books.creating, LeaseBook.ownerOf p.1 ≠ device

instance {device} : Decidable (Spares device e a) := inferInstanceAs (Decidable
  (a.proceedsLocked = true → ∀ p ∈ e.books.creating, LeaseBook.ownerOf p.1 ≠ device))

/-- A device that is spared stays quiet. -/
lemma quiet_run {device as} (quiet : Quiet device e.store.book)
    (spares : (machine env).Along (Spares device) e as) (run : (machine env).run e as = some e') :
    Quiet device e'.store.book := by
  refine Machine.invariant_along (M := machine env) (I := fun e => Quiet device e.store.book)
    (fun e a e' quiet spare st => ?_) spares quiet run
  exact (books_step st).quiet (fun is => spare (by rw [is]; rfl)) quiet

/-- The requests of a logout, up to its answer. -/
def logoutSteps (slot : Nat) (accessToken clientId : String) : List Action :=
  [.logout slot accessToken clientId, .proceed slot, .proceed slot, .proceed slot]

/-- An accepted logout leaves no active lease under its id. -/
lemma quiet_logout {slot accessToken clientId e₁ token user client}
    (accepted : e.authenticate env false false accessToken clientId none =
      (e₁, some (token, user, client)))
    (run : (machine env).run e (logoutSteps slot accessToken clientId) = some e') :
    Quiet (token.id, clientId) e'.store.book := by
  obtain ⟨e₂, st, run⟩ := Machine.run_cons_some.mp run
  obtain ⟨_, revoked, run⟩ := Machine.run_cons_some.mp run
  have queued : e₂.requests slot = [.revokeClient token.id clientId, .clearClient client.id,
      .terminate (.client token.id clientId)] := by
    simp only [machine, step, accepted, start] at st
    obtain ⟨_, ⟨⟩⟩ := Option.ite_none_right_eq_some.mp st
    exact Function.update_self ..
  -- the first step revokes, the other two leave the leases alone
  simp only [machine, step, queued, Option.some.injEq] at revoked
  subst revoked
  refine quiet_run ?_ ?_ run
  · intro l m mine active
    obtain ⟨_, _, is⟩ := mem_revokeLeases.mp m
    unfold Table.rewrite at is
    split at is
    · cases is
      cases active
    · rename_i kept
      cases is
      obtain ⟨same, same'⟩ : l.tokenId = token.id ∧ l.clientId = clientId := Prod.mk.inj mine
      exact kept (by simp [same, same', active])
  · refine ⟨?_, fun _ _ => ⟨?_, fun _ _ => trivial⟩⟩
    · rintro ⟨⟩
    · rintro ⟨⟩

/-- In every run of an edge whose bootstraps and logouts send their client ids trimmed, every active
lease belongs to a registered device of its token and no device has two of them; and once a logout of a
device was accepted and is answered, none of its leases is active until one is created for it. -/
theorem device_holds_one_lease (env : Env) {e : EdgeNode}
    (r : (machine env).ReachableAlong Trimmed e) :
    (∀ l ∈ e.store.leases, l.status = .active →
      ∃ r ∈ e.store.clients, r.tokenId = l.tokenId ∧ r.clientId = l.clientId) ∧
    (∀ l ∈ e.store.leases, ∀ l' ∈ e.store.leases, l.status = .active → l'.status = .active →
      l.tokenId = l'.tokenId → l.clientId = l'.clientId → l = l') ∧
    (∀ slot accessToken clientId, Trimmed e (.logout slot accessToken clientId) →
      ∀ e₁ token user client, e.authenticate env false false accessToken clientId none =
        (e₁, some (token, user, client)) →
      ∀ e₂, (machine env).run e (logoutSteps slot accessToken clientId) = some e₂ →
      ∀ as e₃, (machine env).Along (Spares (client.tokenId, client.clientId)) e₂ as →
        (machine env).run e₂ as = some e₃ →
        ∀ l ∈ e₃.store.leases, l.tokenId = client.tokenId → l.clientId = client.clientId →
          l.status ≠ .active) := by
  have inv := devices r
  refine ⟨inv.rows, fun l m l' m' active active' token client => ?_, ?_⟩
  · exact inv.single l m l' m' active active' (Prod.ext token client)
  · intro slot accessToken clientId trimmed e₁ token user client accepted e₂ run as e₃ spares run' l m
      sameToken sameClient
    obtain ⟨_, _, ofToken, trims⟩ := (authenticate_spec accepted).2 token user client rfl
    have quiet := quiet_logout accepted run
    rw [← ofToken, ← trimmed clientId rfl, ← trims] at quiet
    exact quiet_run quiet spares run' l m (Prod.ext sameToken sameClient)

/-- A device bootstraps under its id, and again with a blank before it. -/
def sampleBlank : List Action :=
  sampleStart ++
  [.bootstrap "ak" "dev" [Controller.sampleProxy] ⟨"lease", "rt", sampleLeaseId_ne⟩, .proceedLocked, .proceedLocked,
    .bootstrap "ak" " dev" [⟨"web", "tcp", "", 80, 1501, "", ""⟩] ⟨"lease2", "rt2", sampleNextLeaseId_ne⟩,
    .proceedLocked, .proceedLocked]

/-- The second lease belongs to no device, and logging out with the same id, which is accepted for the
device, leaves the device's lease active. -/
theorem lease_without_device :
    ∃ e, (machine sampleEnv).Reachable e ∧
      (∃ l ∈ e.store.leases, l.status = .active ∧ ∀ r ∈ e.store.clients.rows, r.clientId ≠ l.clientId) ∧
      ∃ e₁ token user client, e.authenticate sampleEnv false false "ak" " dev" none =
        (e₁, some (token, user, client)) ∧
      ∃ e₂, (machine sampleEnv).run e (logoutSteps 0 "ak" " dev") = some e₂ ∧
        ∃ l ∈ e₂.store.leases, l.tokenId = client.tokenId ∧ l.clientId = client.clientId ∧
          l.status = .active := by
  refine ⟨_, ⟨sample, sampleBlank, ⟨rfl, rfl, rfl, rfl, rfl, rfl, rfl, rfl, rfl⟩, rfl⟩, ?_, _, _, _, _, rfl,
    _, rfl, ?_⟩
  · exact ⟨_, List.mem_cons_of_mem _ List.mem_cons_self, rfl, by decide +kernel⟩
  · exact ⟨_, List.mem_cons_self, rfl, rfl, rfl⟩

/-- A device with a lease logs out. -/
theorem device_holds_one_lease_after_logout :
    ∃ e e₂, (machine sampleEnv).ReachableAlong Trimmed e ∧
      (∃ l ∈ e.store.leases, l.status = .active ∧ l.tokenId = 5 ∧ l.clientId = "dev") ∧
      (machine sampleEnv).run e (logoutSteps 0 "ak" "dev") = some e₂ ∧
      ∀ l ∈ e₂.store.leases, l.tokenId = 5 → l.clientId = "dev" → l.status ≠ .active := by
  obtain ⟨e, run, lease, e₁, token, user, client, accepted, ⟨is, is'⟩, e₂, run'⟩ : ∃ e,
      (machine sampleEnv).run sample (sampleStart ++ [.bootstrap "ak" "dev" [Controller.sampleProxy]
        ⟨"lease", "rt", sampleLeaseId_ne⟩, .proceedLocked, .proceedLocked]) = some e ∧
      (∃ l ∈ e.store.leases, l.status = .active ∧ l.tokenId = 5 ∧ l.clientId = "dev") ∧
      ∃ e₁ token user client, e.authenticate sampleEnv false false "ak" "dev" none =
        (e₁, some (token, user, client)) ∧ (client.tokenId = 5 ∧ client.clientId = "dev") ∧
      ∃ e₂, (machine sampleEnv).run e (logoutSteps 0 "ak" "dev") = some e₂ :=
    ⟨_, rfl, ⟨_, List.mem_cons_self, rfl, rfl, rfl⟩, _, _, _, _, rfl, ⟨rfl, rfl⟩, _, rfl⟩
  have reach : (machine sampleEnv).ReachableAlong Trimmed e :=
    ⟨_, _, ⟨rfl, rfl, rfl, rfl, rfl, rfl, rfl, rfl, rfl⟩, .of_along rfl, run⟩
  refine ⟨e, e₂, reach, lease, run', ?_⟩
  have trimmed : Trimmed e (.logout 0 "ak" "dev") := by
    rintro _ ⟨⟩
    decide
  have quiet := (device_holds_one_lease sampleEnv reach).2.2 0 "ak" "dev" trimmed e₁ token user client
    accepted e₂ run' [] e₂ trivial rfl
  rw [is, is'] at quiet
  exact quiet

end EdgeNode

end MeowFrp.Node
