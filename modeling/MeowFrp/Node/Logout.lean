import MeowFrp.Node.Outage

/-!
# Logouts during an outage

A heartbeat that finds no registered proxy of a draining client tells it to log in again. That no port of
the client opens after such a reply is true only if something stops its registrations by then. The
FRP server's fence does so once it has been moved, for the clients that were logged in; the drain that the
heartbeat itself records stops approvals from then on, but not a registration that was approved before.
A connection that is lost changes the flags first and moves the fence later, and a heartbeat in between is
answered by the flags.
-/

namespace MeowFrp.Node

open Lib MeowFrp.Core List Option Memory Admission

/-- The entry is one that requests can leave: its hash is the token's and its id trimmed. -/
def World.Knows (w : World) (identity : String × Nat × String) : Prop :=
  identity.2.1 = w.tokenOf identity.1 ∧ trimSpace identity.2.2 = identity.2.2

namespace Outage

variable {w : World} {s s' : Outage} {a : Action} {key : Nat × String}

/-- The entries are ones that requests can leave, also in the state that a waiting login will leave, and the
login waits for the client of such an entry. -/
structure Known (w : World) (s : Outage) : Prop where
  fenced : s.admission.Fenced w.owner
  clients : ∀ c ∈ s.fault.clients, w.Knows c.identity
  held : ∀ key fault, s.held = some (key, fault) → ∀ c ∈ fault.clients, w.Knows c.identity

lemma knows_of_names {tokenHash client} (named : names w tokenHash client) :
    w.Knows (tokenHash, client.tokenId, client.clientId) := by
  obtain ⟨token, trimmed⟩ := (Bool.and_eq_true _ _).mp named
  exact ⟨of_decide_eq_true token, of_decide_eq_true trimmed⟩

/-- `rememberClient` leaves entries that requests can leave. -/
lemma knows_remember {tokenHash client login now} (known : ∀ c ∈ s.fault.clients, w.Knows c.identity)
    (named : names w tokenHash client) :
    ∀ c ∈ (s.memory.rememberClient now tokenHash client login).fault.clients, w.Knows c.identity := by
  obtain ⟨_, whole, carries⟩ := @Memory.rememberClient_eq s.memory now tokenHash client login
  rw [whole]
  intro d md
  rcases mem_putClient md with rfl | old
  · rcases carries with new | ⟨e, me, same⟩
    · rw [new]
      exact knows_of_names named
    · rw [same]
      exact known e me
  · refine known d ?_
    cases found : s.memory.finishes tokenHash client login with
    | none | some =>
      rw [found] at old
      exact old

/-- A login finishes the drain of its own client. -/
lemma finishes_key {tokenHash client login} (known : ∀ c ∈ s.fault.clients, w.Knows c.identity)
    (named : names w tokenHash client) (found : s.memory.finishes tokenHash client login = some key) :
    key = (client.tokenId, client.clientId) := by
  obtain ⟨token, trimmed⟩ := knows_of_names named
  unfold Memory.finishes at found
  split at found
  · rename_i c entry
    obtain ⟨_, ⟨⟩⟩ := ite_none_right_eq_some.mp found
    obtain ⟨mc, hash, id⟩ := mem_of_lookupClient entry
    obtain ⟨token', trimmed'⟩ := known c mc
    refine Prod.ext ?_ ?_
    · exact token'.trans ((congrArg w.tokenOf hash).trans token.symm)
    · exact trimmed'.symm.trans (id.trans trimmed)
  · obtain ⟨_, ⟨⟩⟩ := ite_none_right_eq_some.mp found
    rfl

/-- Every step keeps the invariant. -/
lemma Known.step (inv : Known w s) (st : step w s a = some s') : Known w s' := by
  obtain ⟨fenced, clients, held⟩ := inv
  cases step_kind st with
  | aside admission _ waits same =>
    refine ⟨admission ▸ fenced, same ▸ clients, ?_⟩
    rw [waits]
    exact held
  | called call | begun _ call => exact ⟨fenced.step call, clients, held⟩
  | finished waits call => exact ⟨fenced.step call, held _ _ waits, nofun⟩
  | extended _ ext =>
    refine ⟨fenced, fun c mc => ?_, held⟩
    obtain ⟨d, md, same⟩ := ext.clients c mc
    rw [same]
    exact clients d md
  | remembered _ named => exact ⟨fenced, knows_remember clients named, held⟩
  | waiting _ named =>
    refine ⟨fenced, clients, fun key fault e => ?_⟩
    cases e
    exact knows_remember clients named
  | approved => exact ⟨fenced, clients, held⟩

lemma known_of_reachable (reach : (machine w).Reachable s) : Known w s := by
  refine reach.inv ?_ fun s a s' inv st => inv.step st
  rintro s ⟨core, clients, _, approved, _, held⟩
  refine ⟨Admission.fenced ⟨s.admission, [], core, rfl⟩, ?_, ?_⟩
  · simp [clients]
  · simp [held]

/-- No registration of the client is approved or in progress. -/
def Idle (w : World) (key : Nat × String) (s : Outage) : Prop :=
  (∀ r ∈ s.approved, w.owner r.leaseId ≠ key) ∧ ∀ leaseId ∈ s.admission.inFlight, w.owner leaseId ≠ key

instance : Decidable (Idle w key s) := inferInstanceAs (Decidable (_ ∧ _))

/-- The FRP core drains the client, or the node does and no registration of it is on its way. -/
def Barred (w : World) (key : Nat × String) (s : Outage) : Prop :=
  key ∈ s.admission.core.drainingClients ∨
    (s.fault.closed || s.nodeUnavailableEdge || s.fault.drains.contains (Memory.faultDrainKey key.1 key.2)) ∧
      Idle w key s

instance : Decidable (Barred w key s) := inferInstanceAs (Decidable (_ ∨ _))

/-- A heartbeat that is answered as that of a draining client finds the client barred, and an accepted
resource-policy request is answered with a policy. -/
def Guarded (w : World) (s : Outage) : Action → Prop
  | .heartbeat tokenHash clientId =>
    ∀ c ∈ s.memory.lookupClient tokenHash clientId,
      (c.draining || s.fault.closed || s.nodeUnavailableEdge) → Barred w (c.tokenId, c.clientId) s
  | .resourcePolicy _ _ policy => accepts w policy
  | _ => True

instance : Decidable (Guarded w s a) :=
  match a with
  | .heartbeat tokenHash clientId =>
    match e : s.memory.lookupClient tokenHash clientId with
    | none => isTrue (by simp [Guarded, e])
    | some c =>
      decidable_of_iff
        ((c.draining || s.fault.closed || s.nodeUnavailableEdge) → Barred w (c.tokenId, c.clientId) s)
        (by simp [Guarded, e])
  | .resourcePolicy _ _ policy => inferInstanceAs (Decidable (accepts w policy = true))
  | .tick .. | .link .. | .probe .. | .fence .. | .mark .. | .credential .. | .finish | .login ..
  | .newProxy .. | .begin .. | .opened .. | .release .. | .closed .. | .invalidate .. => isTrue trivial

/-- The step is an accepted login of the client. -/
def logsIn (w : World) (key : Nat × String) : Action → Bool
  | .resourcePolicy _ client policy => accepts w policy && (client.tokenId, client.clientId) = key
  | _ => false

/-- The client was told to log in again: it has no proxy and can get none. -/
structure LoggedOut (w : World) (key : Nat × String) (s : Outage) : Prop where
  known : Known w s
  trimmed : trimSpace key.2 = key.2
  none : ∀ p ∈ s.admission.core.registeredProxies, w.owner p.2 ≠ key
  barred : key ∈ s.admission.core.drainingClients ∨
    Memory.faultDrainKey key.1 key.2 ∈ s.fault.drains ∧ Idle w key s
  held : ∀ other fault, s.held = some (other, fault) → other ≠ key ∧
    (Memory.faultDrainKey key.1 key.2 ∈ s.fault.drains → Memory.faultDrainKey key.1 key.2 ∈ fault.drains)

/-- No call of the core registers a proxy of a barred client. -/
lemma LoggedOut.none_call {admission b} (inv : LoggedOut w key s)
    (call : s.admission.step w.owner b = some admission) :
    ∀ p ∈ admission.core.registeredProxies, w.owner p.2 ≠ key := by
  intro p mp own
  rcases mem_registeredProxies_step call mp with flying | old
  · rcases inv.barred with drains | ⟨_, _, idle⟩
    · exact absurd drains (own ▸ inv.known.fenced.free p.2 flying)
    · exact idle p.2 flying own
  · exact inv.none p old own

/-- A call that neither registers the client nor finishes its drain leaves it barred. -/
lemma LoggedOut.barred_call {admission b} {approved : List Approval} {fault : NodeFault}
    (inv : LoggedOut w key s) (call : s.admission.step w.owner b = some admission)
    (begins : ∀ leaseId, b = .begin leaseId → ∃ r ∈ s.approved, r.leaseId = leaseId)
    (finishes : b ≠ .finishClientDrain key.1 key.2) (fewer : approved ⊆ s.approved)
    (drains : Memory.faultDrainKey key.1 key.2 ∈ s.fault.drains →
      Memory.faultDrainKey key.1 key.2 ∈ fault.drains) :
    key ∈ admission.core.drainingClients ∨
      Memory.faultDrainKey key.1 key.2 ∈ fault.drains ∧
        (∀ r ∈ approved, w.owner r.leaseId ≠ key) ∧ ∀ leaseId ∈ admission.inFlight, w.owner leaseId ≠ key := by
  rcases inv.barred with old | ⟨recorded, approvals, flying⟩
  · refine .inl (drains_step call ?_ old)
    cases b with
    | finishClientDrain =>
      refine Bool.eq_false_iff.mpr fun own => finishes ?_
      simp only [Admission.finishes, Bool.and_eq_true, decide_eq_true_eq] at own
      rw [own.1.1, own.1.2]
    | _ => rfl
  · refine .inr ⟨drains recorded, fun r mr => approvals r (fewer mr), fun leaseId mem => ?_⟩
    rcases mem_inFlight_step call mem with new | old
    · obtain ⟨r, mr, rfl⟩ := begins leaseId new
      exact approvals r mr
    · exact flying leaseId old

/-- The drain keys of different clients differ. -/
lemma faultDrainKey_ne {other : Nat × String} (trimmed : trimSpace key.2 = key.2)
    (trimmed' : trimSpace other.2 = other.2) (differ : other ≠ key) :
    Memory.faultDrainKey key.1 key.2 ≠ Memory.faultDrainKey other.1 other.2 := by
  unfold Memory.faultDrainKey
  rw [trimmed, trimmed']
  exact fun same => differ same.symm

/-- Drains stay unless a login finishes its own. -/
lemma drains_remember {tokenHash client login now drain}
    (other : ∀ other, s.memory.finishes tokenHash client login = some other →
      drain ≠ Memory.faultDrainKey other.1 other.2) (recorded : drain ∈ s.fault.drains) :
    drain ∈ (s.memory.rememberClient now tokenHash client login).fault.drains := by
  obtain ⟨_, whole, -⟩ := @Memory.rememberClient_eq s.memory now tokenHash client login
  rw [whole]
  cases found : s.memory.finishes tokenHash client login with
  | none => exact recorded
  | some key => exact mem_filter.mpr ⟨recorded, decide_eq_true (other key found)⟩

/-- A client that was told to log in again gets no proxies until it does. -/
lemma LoggedOut.step (inv : LoggedOut w key s) (guarded : Guarded w s a)
    (waits : logsIn w key a = false) (st : step w s a = some s') : LoggedOut w key s' := by
  have known := inv.known.step st
  cases step_kind st with
  | aside admission approved held _ drains =>
    refine ⟨known, inv.trimmed, ?_, ?_, ?_⟩
    · rw [admission]
      exact inv.none
    · unfold Idle
      rw [admission, drains, approved]
      exact inv.barred
    · rw [held, drains]
      exact inv.held
  | called call begins finishes =>
    refine ⟨known, inv.trimmed, inv.none_call call, ?_, inv.held⟩
    exact inv.barred_call call (fun id e => absurd e (begins id)) (finishes _ _) (fun _ m => m) id
  | begun approved call =>
    refine ⟨known, inv.trimmed, inv.none_call call, ?_, inv.held⟩
    refine inv.barred_call call (fun id e => ?_) nofun erase_subset id
    cases e
    exact ⟨_, approved, rfl⟩
  | finished held call =>
    -- the drain that ends is another client's
    obtain ⟨other, drains⟩ := inv.held _ _ held
    refine ⟨known, inv.trimmed, inv.none_call call, ?_, nofun⟩
    refine inv.barred_call call nofun (fun e => other ?_) (fun _ m => m) drains
    obtain ⟨token, client⟩ := Admission.Action.finishClientDrain.inj e
    exact Prod.ext token client
  | extended free ext =>
    refine ⟨known, inv.trimmed, inv.none, ?_, fun other fault e => ?_⟩
    · exact inv.barred.imp_right fun ⟨recorded, idle⟩ => ⟨ext.drains recorded, idle⟩
    · cases free.symm.trans e
  | remembered free _ stays =>
    refine ⟨known, inv.trimmed, inv.none, ?_, fun other fault e => ?_⟩
    · refine inv.barred.imp_right fun ⟨recorded, idle⟩ => ⟨drains_remember ?_ recorded, idle⟩
      exact fun other found => nomatch stays.symm.trans found
    · cases free.symm.trans e
  | @waiting tokenHash client policy other _ named found =>
    refine ⟨known, inv.trimmed, inv.none, inv.barred, fun other' fault e => ?_⟩
    cases e
    have own := finishes_key inv.known.clients named found
    have differ : other ≠ key := by
      rw [own]
      intro same
      -- the policy is accepted, so this would be a login of the client
      have login : logsIn w key (.resourcePolicy tokenHash client policy) = true :=
        (Bool.and_eq_true _ _).mpr ⟨guarded, decide_eq_true same⟩
      exact Bool.false_ne_true (waits.symm.trans login)
    refine ⟨differ, drains_remember fun key' found' => ?_⟩
    cases found.symm.trans found'
    refine faultDrainKey_ne inv.trimmed ?_ differ
    rw [own]
    exact (knows_of_names named).2
  | @approved _ _ _ own drains =>
    refine ⟨known, inv.trimmed, inv.none, ?_, inv.held⟩
    refine inv.barred.imp_right fun ⟨recorded, approvals, flying⟩ => ⟨recorded, ?_, flying⟩
    refine forall_mem_cons.mpr ⟨fun same => ?_, approvals⟩
    -- a `NewProxy` of a client whose drain is recorded is refused
    obtain ⟨refused, -⟩ := (Bool.or_eq_false_iff).mp drains
    refine Bool.false_ne_true (refused.symm.trans (contains_iff_mem.mpr ?_))
    cases own.trans same
    exact recorded

lemma drainsAll_eq : s.memory.drainsAll w.cfg s.nodeUnavailableEdge =
    (s.fault.closed || s.nodeUnavailableEdge) := by
  unfold Memory.drainsAll
  rw [w.edge, decide_eq_true rfl, Bool.true_or, Bool.and_true]
  rfl

/-- The reply puts a barred client into that state. -/
lemma loggedOut_of_reauth {tokenHash clientId warning} (known : Known w s)
    (guarded : Guarded w s (.heartbeat tokenHash clientId))
    (told : (s.answer w tokenHash clientId).2 = some (.draining true warning))
    (st : step w s (.heartbeat tokenHash clientId) = some s') :
    ∃ c, s.memory.lookupClient tokenHash clientId = some c ∧ LoggedOut w (c.tokenId, c.clientId) s' := by
  obtain ⟨c, found, drains, count, recorded⟩ := faultHeartbeat_reauth told
  rw [drainsAll_eq] at drains recorded
  have trimmed := (known.clients c (mem_of_lookupClient found).1).2
  have barred := guarded c found ((Bool.or_assoc ..).trans drains)
  have known' := known.step st
  obtain ⟨free, ⟨⟩⟩ := ite_none_left_eq_some.mp st
  refine ⟨c, found, known', trimmed, fun p mp own => ?_, ?_, fun other fault e => ?_⟩
  · -- the counters are exact, and the count is zero
    have zero : s.admission.core.proxyCounts (c.tokenId, c.clientId) = 0 := count
    rw [known.fenced.counted.clients, tally, countP_eq_zero] at zero
    exact zero p mp (decide_eq_true own)
  · refine barred.imp_right fun busy => ⟨?_, busy.2⟩
    rcases (Bool.or_eq_true _ _).mp busy.1 with all | before
    · exact recorded all
    · have ext : s.fault.Extends (s.answer w tokenHash clientId).1.fault :=
        extends_faultHeartbeat (m := s.memory)
      exact ext.drains (contains_iff_mem.mp before)
  · rw [not_isSome_iff_eq_none] at free
    cases free.symm.trans e

/-- The node, the client and the lease of the sample runs. -/
def sampleWorld : World where
  cfg :=
    { mode := .edge, portRangeStart := 1000, portRangeEnd := 2000, frpBindPort := 7000, httpPort := 8080,
      listenPort := 0, runtimeTokenTtl := 60000 }
  owner := Admission.sampleOwner
  tokenOf _ := 9

def sampleClient : Client := { id := 1, userId := 1, tokenId := 9, clientId := "desktop", status := .active }

/-- A proxy of the client is approved when the connection is lost. -/
def sampleApproved : List Action :=
  [.link true true false false, .credential "hash" sampleClient, .login Admission.sampleLease,
    .newProxy Admission.sampleLease "run" "tcp", .link false false false false]

/-- A heartbeat that comes before the fence has been moved tells the client to log in again, and the proxy
is registered afterwards. -/
theorem port_opens_after_logout :
    ∃ s s₁ s₂, (machine sampleWorld).run {} sampleApproved = some s ∧
      (s.answer sampleWorld "hash" "desktop").2 = some (.draining true false) ∧
      step sampleWorld s (.heartbeat "hash" "desktop") = some s₁ ∧
      s₁.admission.core.proxiesOf 9 "desktop" = [] ∧
      (machine sampleWorld).run s₁ [.begin ⟨"lease", "run", "tcp"⟩, .opened "lease" "run" "tcp"] = some s₂ ∧
      s₂.admission.core.proxiesOf 9 "desktop" = [(("run", "tcp"), "lease")] :=
  ⟨_, _, _, rfl, by decide +kernel, rfl, by decide +kernel, rfl, by decide +kernel⟩

/-- After a reply that tells a barred client to log in again, no proxy of it is registered until an accepted
login of it. -/
theorem no_port_after_logout {tokenHash clientId warning as} {s₁ s₂ : Outage}
    (reach : (machine w).Reachable s)
    (told : (s.answer w tokenHash clientId).2 = some (.draining true warning))
    (st : step w s (.heartbeat tokenHash clientId) = some s₁) (run : (machine w).run s₁ as = some s₂)
    (guarded : (machine w).Along (Guarded w) s (.heartbeat tokenHash clientId :: as)) :
    ∃ c, s.memory.lookupClient tokenHash clientId = some c ∧
      ((∀ a ∈ as, logsIn w (c.tokenId, c.clientId) a = false) →
        s₂.admission.core.proxiesOf c.tokenId c.clientId = []) := by
  obtain ⟨c, found, out⟩ := loggedOut_of_reauth (known_of_reachable reach) guarded.1 told st
  refine ⟨c, found, fun waits => ?_⟩
  have along := (guarded.2 s₁ st).and (Machine.Along.of_forall waits)
  have out₂ := Machine.invariant_along (M := machine w) (I := LoggedOut w (c.tokenId, c.clientId))
    (fun _ _ _ inv ok st => inv.step ok.1 ok.2 st) along out run
  refine eq_nil_iff_forall_not_mem.mpr fun p mp => ?_
  obtain ⟨registered, own⟩ := out₂.known.fenced.counted.mem_proxiesOf.mp mp
  exact out₂.none p registered own

/-- The connection is back, and the approved proxy is tried. -/
def sampleRetry : List Action :=
  [.link true true false false, .fence false, .mark false, .begin ⟨"lease", "run", "tcp"⟩]

/-- The fence is moved before the heartbeat comes: the approved proxy is refused, also when the
connection is back. -/
theorem no_port_after_logout_behind_fence :
    ∃ s s₁ s₂, (machine sampleWorld).run {} (sampleApproved ++ [.fence true, .mark true]) = some s ∧
      (s.answer sampleWorld "hash" "desktop").2 = some (.draining true false) ∧
      step sampleWorld s (.heartbeat "hash" "desktop") = some s₁ ∧
      (machine sampleWorld).run s₁ sampleRetry = some s₂ ∧
      s₂.admission.core.proxiesOf 9 "desktop" = [] := by
  -- the run is evaluated, the theorem says how it ends
  obtain ⟨s, run₀, told, entry, guarded, s₁, st, s₂, run⟩ : ∃ s,
      (machine sampleWorld).run {} (sampleApproved ++ [.fence true, .mark true]) = some s ∧
      (s.answer sampleWorld "hash" "desktop").2 = some (.draining true false) ∧
      (s.memory.lookupClient "hash" "desktop").map (fun c => (c.tokenId, c.clientId)) =
        some (9, "desktop") ∧
      (machine sampleWorld).along (Guarded sampleWorld) s (.heartbeat "hash" "desktop" :: sampleRetry) = true ∧
      ∃ s₁, step sampleWorld s (.heartbeat "hash" "desktop") = some s₁ ∧
      ∃ s₂, (machine sampleWorld).run s₁ sampleRetry = some s₂ :=
    ⟨_, rfl, by decide +kernel, by decide +kernel, by decide +kernel, _, rfl, _, rfl⟩
  have reach : (machine sampleWorld).Reachable s :=
    ⟨{}, _, ⟨⟨rfl, rfl, rfl, rfl, rfl⟩, rfl, rfl, rfl, rfl, rfl⟩, run₀⟩
  obtain ⟨_, found, none⟩ := no_port_after_logout reach told st run (.of_along guarded)
  rw [found, map_some, some.injEq, Prod.mk.injEq] at entry
  rw [entry.1, entry.2] at none
  exact ⟨s, s₁, s₂, run₀, told, st, run, none (by decide)⟩

end Outage

end MeowFrp.Node
