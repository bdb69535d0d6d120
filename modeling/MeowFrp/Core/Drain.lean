import MeowFrp.Core.Admission

/-!
# The drain fence

Once `SetAdmissionClosed(true)` has returned, no registration is in progress and every client with a
remembered lease drains. From then on a draining client cannot pass `Begin`, so its registered proxies
can only become fewer until `FinishClientDrain` lets it go, and that happens only when none is left,
because the counters are exact. A client whose login is remembered after the fence has closed does not
drain; nobody registers anything as long as the fence stays closed.
-/

namespace MeowFrp.Core

open Lib List

namespace Manager

variable {m : Manager}

/-- An entry after `Opened` is the new one or was there before. -/
lemma mem_registeredProxies_opened {leaseId runId name p}
    (mp : p ∈ (m.opened leaseId runId name).registeredProxies) :
    p.2 = leaseId ∨ p ∈ m.registeredProxies := by
  unfold Manager.opened at mp
  dsimp only at mp
  rcases mem_cons.mp mp with rfl | old
  · exact .inl rfl
  · refine .inr ?_
    split at old <;> exact mem_of_mem_filter old

lemma mem_registeredProxies_closed {runId name p}
    (mp : p ∈ (m.closed runId name).registeredProxies) : p ∈ m.registeredProxies := by
  unfold Manager.closed at mp
  split at mp
  · exact mp
  · exact mem_of_mem_filter mp

lemma registeredProxies_finish {tokenId clientId} :
    (m.finishClientDrain tokenId clientId).registeredProxies = m.registeredProxies := by
  unfold Manager.finishClientDrain
  split <;> rfl

end Manager

namespace Admission

variable {owner : String → Nat × String} {s s' : Admission} {a : Action}

/-- The call is a `FinishClientDrain` for the client that does not return early. -/
def finishes (tokenId : Nat) (clientId : String) (s : Admission) : Action → Bool
  | .finishClientDrain t c =>
    t = tokenId && c = clientId && s.core.clientProxyCount tokenId clientId = 0
  | _ => false

lemma finishes_self {tokenId clientId} :
    finishes tokenId clientId s (.finishClientDrain tokenId clientId) = true ↔
      s.core.proxyCounts (tokenId, clientId) = 0 := by
  simp only [finishes, decide_true, Bool.true_and, decide_eq_true_eq]
  rfl

/-- A call adds a proxy only for a registration in progress. -/
lemma mem_registeredProxies_step {p} (st : s.step owner a = some s')
    (mp : p ∈ s'.core.registeredProxies) : p.2 ∈ s.inFlight ∨ p ∈ s.core.registeredProxies := by
  cases step_kind st with
  | opened flying =>
    rcases Manager.mem_registeredProxies_opened mp with new | old
    · exact .inl (new ▸ flying)
    · exact .inr old
  | closed => exact .inr (Manager.mem_registeredProxies_closed mp)
  | finished =>
    rw [Manager.registeredProxies_finish] at mp
    exact .inr mp
  | passed | refused | released | remembered | fenced | paused | invalidated => exact .inr mp

/-- A registration in progress was so before, or has begun. -/
lemma mem_inFlight_step {leaseId} (st : s.step owner a = some s') (flying : leaseId ∈ s'.inFlight) :
    a = .begin leaseId ∨ leaseId ∈ s.inFlight := by
  cases step_kind st with
  | passed =>
    rcases mem_cons.mp flying with rfl | old
    · exact .inl rfl
    · exact .inr old
  | released => exact .inr (mem_of_mem_erase flying)
  | refused | opened | closed | remembered | fenced | paused | finished | invalidated => exact .inr flying

/-- A client drains until a `FinishClientDrain` for it passes. -/
lemma drains_step {tokenId clientId} (st : s.step owner a = some s')
    (waits : finishes tokenId clientId s a = false)
    (drains : (tokenId, clientId) ∈ s.core.drainingClients) :
    (tokenId, clientId) ∈ s'.core.drainingClients := by
  cases step_kind st with
  | opened | closed => simpa using drains
  | fenced =>
    rw [Manager.setAdmissionClosed]
    split
    · exact mem_append_left _ drains
    · exact drains
  | finished =>
    rw [Manager.finishClientDrain]
    split
    · exact drains
    · rename_i none
      refine mem_filter.mpr ⟨drains, decide_eq_true fun same => none ?_⟩
      cases same
      refine Nat.pos_of_ne_zero fun zero => ?_
      rw [finishes_self.mpr zero] at waits
      cases waits
  | passed | refused | released | remembered | paused | invalidated => exact drains

/-- The fence is closed and nobody is inside. -/
structure Shut (s : Admission) : Prop where
  closed : s.core.admissionClosed = true
  alone : s.inFlight = []

/-- The fence stays shut until it is opened. -/
lemma Shut.step (shut : Shut s) (st : s.step owner a = some s')
    (stays : a ≠ .setAdmissionClosed false) : Shut s' := by
  obtain ⟨closed, alone⟩ := shut
  cases step_kind st with
  | passed ok =>
    unfold Manager.mayRegister at ok
    rw [closed] at ok
    cases ok
  | opened flying =>
    rw [alone] at flying
    cases flying
  | released =>
    refine ⟨closed, ?_⟩
    rw [alone]
    rfl
  | closed =>
    refine ⟨?_, alone⟩
    unfold Manager.closed
    split <;> exact closed
  | @fenced b =>
    cases b with
    | false => exact absurd rfl stays
    | true => exact ⟨rfl, alone⟩
  | finished =>
    refine ⟨?_, alone⟩
    unfold Manager.finishClientDrain
    split <;> exact closed
  | refused | remembered | invalidated => exact ⟨closed, alone⟩
  | paused => exact ⟨rfl, alone⟩

/-- No proxy of the client was registered between the two states. -/
def Shrunk (owner : String → Nat × String) (tokenId : Nat) (clientId : String) (s s' : Admission) :
    Prop :=
  ∀ p ∈ s'.core.registeredProxies, owner p.2 = (tokenId, clientId) → p ∈ s.core.registeredProxies

lemma Shrunk.proxiesOf {tokenId clientId} (shrunk : Shrunk owner tokenId clientId s s')
    (inv : Fenced owner s) (inv' : Fenced owner s') :
    s'.core.proxiesOf tokenId clientId ⊆ s.core.proxiesOf tokenId clientId := by
  intro p mp
  obtain ⟨registered, own⟩ := inv'.counted.mem_proxiesOf.mp mp
  exact inv.counted.mem_proxiesOf.mpr ⟨shrunk p registered own, own⟩

/-- While a client drains, none of its proxies is registered. -/
lemma shrunk_of_drains {tokenId clientId s₂ s₃ bs} (inv : Fenced owner s₂)
    (drains : (tokenId, clientId) ∈ s₂.core.drainingClients)
    (waits : (machine owner).Along (fun s a => finishes tokenId clientId s a = false) s₂ bs)
    (run : (machine owner).run s₂ bs = some s₃) : Shrunk owner tokenId clientId s₂ s₃ := by
  have kept := Machine.invariant_along (M := machine owner)
    (I := fun s => Fenced owner s ∧ (tokenId, clientId) ∈ s.core.drainingClients ∧
      Shrunk owner tokenId clientId s₂ s) ?_ waits ⟨inv, drains, fun _ mp _ => mp⟩ run
  · exact kept.2.2
  rintro _ _ _ ⟨inv, drains, shrunk⟩ wait st
  refine ⟨inv.step st, drains_step st wait drains, fun p mp own => ?_⟩
  rcases mem_registeredProxies_step st mp with flying | old
  · exact absurd drains (own ▸ inv.free p.2 flying)
  · exact shrunk p old own

/-- While the fence is shut, no proxy is registered. -/
lemma shrunk_of_shut {tokenId clientId s₂ s₃ bs} (shut : Shut s₂)
    (stays : ∀ a ∈ bs, a ≠ .setAdmissionClosed false) (run : (machine owner).run s₂ bs = some s₃) :
    Shut s₃ ∧ Shrunk owner tokenId clientId s₂ s₃ := by
  refine Machine.invariant_along (M := machine owner)
    (I := fun s => Shut s ∧ Shrunk owner tokenId clientId s₂ s) ?_ (.of_forall stays)
    ⟨shut, fun _ mp _ => mp⟩ run
  rintro _ a _ ⟨shut, shrunk⟩ stay st
  refine ⟨shut.step st stay, fun p mp own => ?_⟩
  rcases mem_registeredProxies_step st mp with flying | old
  · rw [shut.alone] at flying
    cases flying
  · exact shrunk p old own

/-- From the return of `SetAdmissionClosed(true)` on, the registered proxies of every client with a
remembered lease only become fewer until `FinishClientDrain` passes for it (and those of every client
do as long as the fence is not opened), and it passes only when the client has no registered proxy. -/
theorem drain_fence_tight {s₁ s₂ s₃ : Admission} {as bs : List Action} {tokenId : Nat}
    {clientId : String} (reach : (machine owner).Reachable s)
    (fault : s.step owner (.setAdmissionClosed true) = some s₁)
    (run : (machine owner).run s₁ as = some s₂) (run' : (machine owner).run s₂ bs = some s₃) :
    ((∃ l ∈ s₁.core.runtimeLeases, Manager.clientKey l = (tokenId, clientId)) →
      (machine owner).Along (fun s a => finishes tokenId clientId s a = false) s₁ as →
      (machine owner).Along (fun s a => finishes tokenId clientId s a = false) s₂ bs →
      s₃.core.proxiesOf tokenId clientId ⊆ s₂.core.proxiesOf tokenId clientId) ∧
    ((∀ a ∈ as ++ bs, a ≠ .setAdmissionClosed false) →
      s₃.core.proxiesOf tokenId clientId ⊆ s₂.core.proxiesOf tokenId clientId) ∧
    (finishes tokenId clientId s₃ (.finishClientDrain tokenId clientId) = true →
      s₃.core.proxiesOf tokenId clientId = []) := by
  have inv := fenced reach
  have inv₁ := inv.step fault
  have inv₂ : Fenced owner s₂ := Machine.invariant (fun _ _ _ inv st => inv.step st) inv₁ run
  have inv₃ : Fenced owner s₃ := Machine.invariant (fun _ _ _ inv st => inv.step st) inv₂ run'
  refine ⟨fun held waits waits' => ?_, fun stays => ?_, fun passes => ?_⟩
  · have drains : (tokenId, clientId) ∈ s₁.core.drainingClients := by
      obtain ⟨alone, ⟨⟩⟩ := Option.ite_none_right_eq_some.mp fault
      obtain ⟨l, ml, key⟩ := held
      exact mem_append_right _ (mem_map.mpr ⟨l, ml, key⟩)
    have drains₂ := Machine.invariant_along (M := machine owner)
      (I := fun s => (tokenId, clientId) ∈ s.core.drainingClients)
      (fun _ _ _ drains wait st => drains_step st wait drains) waits drains run
    exact (shrunk_of_drains inv₂ drains₂ waits' run').proxiesOf inv₂ inv₃
  · obtain ⟨stays, stays'⟩ := forall_mem_append.mp stays
    have shut : Shut s₁ := by
      obtain ⟨alone, ⟨⟩⟩ := Option.ite_none_right_eq_some.mp fault
      exact ⟨rfl, alone⟩
    have shut₂ : Shut s₂ ∧ Shrunk owner tokenId clientId s₁ s₂ := shrunk_of_shut shut stays run
    exact (shrunk_of_shut shut₂.1 stays' run').2.proxiesOf inv₂ inv₃
  · have none := finishes_self.mp passes
    refine eq_nil_iff_forall_not_mem.mpr fun p mp => ?_
    obtain ⟨registered, own⟩ := inv₃.counted.mem_proxiesOf.mp mp
    rw [inv₃.counted.clients, tally, countP_eq_zero] at none
    exact none p registered (decide_eq_true own)

/-- A client with two proxies drains: the fence closes, one proxy is closed, the fence opens again. -/
theorem drain_fence_tight_of_twoProxies :
    ∃ s s₁ s₂ s₃, (machine sampleOwner).Reachable s ∧
      s.step sampleOwner (.setAdmissionClosed true) = some s₁ ∧
      (machine sampleOwner).run s₁ [.closed "run" "tcp"] = some s₂ ∧
      (machine sampleOwner).run s₂ [.setAdmissionClosed false, .begin "lease",
        .finishClientDrain 9 "desktop", .closed "run" "udp"] = some s₃ ∧
      s₂.core.proxiesOf 9 "desktop" ≠ [] ∧
      s₃.core.proxiesOf 9 "desktop" ⊆ s₂.core.proxiesOf 9 "desktop" ∧
      finishes 9 "desktop" s₃ (.finishClientDrain 9 "desktop") = true ∧
      s₃.core.proxiesOf 9 "desktop" = [] := by
  obtain ⟨s, run₀⟩ : ∃ s, (machine sampleOwner).run {} sampleOpen = some s := ⟨_, rfl⟩
  have reach : (machine sampleOwner).Reachable s := ⟨_, _, ⟨rfl, rfl, rfl, rfl, rfl⟩, run₀⟩
  cases run₀
  have tight := @drain_fence_tight sampleOwner _ _ _ _ [.closed "run" "tcp"]
    [.setAdmissionClosed false, .begin "lease", .finishClientDrain 9 "desktop", .closed "run" "udp"]
    9 "desktop" reach rfl rfl rfl
  refine ⟨_, _, _, _, reach, rfl, rfl, rfl, by decide, ?_, rfl, tight.2.2 rfl⟩
  exact tight.1 ⟨_, mem_cons_self, rfl⟩ (.of_along rfl) (.of_along rfl)

end Admission

end MeowFrp.Core
