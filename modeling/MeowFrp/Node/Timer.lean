import MeowFrp.Lib.Machine
import MeowFrp.Node.Fault

/-!
# The fault timer of the controller

The controller probes its database every second (Go `observeControllerDatabaseHealth`). The first
failing probe pauses admission and marks the database suspect; a failing probe ten seconds later declares
the fault, which makes the clients drain; a successful probe clears everything. A request that meets a
database error (Go `databaseRejection`) pauses admission and marks the database suspect as well, in two
steps. The flags are kept in three places: the FRP core, the outage state of the node and the control
server of the edges.

The machine has the probes, the two halves of a rejection, and what else may change a client's state:
heartbeats during an outage, requests that remember a client, and the FRP proxies. `probes` is a history
variable, the latest first; the run of failures and its beginning are read off it.
-/

namespace MeowFrp.Node

open Lib MeowFrp.Core List Option

/-- The outage state of the controller, with the flags of `ControllerServer`. -/
structure Watch where
  memory : Memory := {}
  failedSince : Option Time := none
  databaseSuspect : Bool := false
  databaseFault : Bool := false
  /-- time and success of the probes so far -/
  probes : List (Time × Bool) := []

namespace Watch

/-- The first failure of a run (Go `observeControllerDatabaseHealth`). -/
def startTimer (w : Watch) (now : Time) : Watch :=
  if w.failedSince.isNone then
    { w with
      failedSince := some now, memory := w.memory.pauseDatabaseAdmission, databaseSuspect := true }
  else w

/-- Declare the fault, if that has not been done. -/
def declareFault (w : Watch) : Watch :=
  let memory : Memory := { w.memory with fault := { w.memory.fault with databaseFailed := true } }
  if w.memory.fault.databaseFailed then { w with memory }
  else { w with databaseFault := true, memory := memory.transitionNodeFault false true }

/-- The database answers again. -/
def recover (w : Watch) : Watch :=
  let recovering := w.memory.fault.closed || w.databaseSuspect
  let memory : Memory := { w.memory with fault := { w.memory.fault with databaseFailed := false } }
  if recovering then
    -- Go `SetDatabaseFault(false)` clears both flags
    { w with
      databaseFault := false, databaseSuspect := false, memory := memory.transitionNodeFault false false
      failedSince := none }
  else { w with memory, failedSince := none }

/-- Go `observeControllerDatabaseHealth`. -/
def observeControllerDatabaseHealth (w : Watch) (now : Time) (ok : Bool) : Watch :=
  if ok then w.recover
  else
    let w := w.startTimer now
    if now - w.failedSince.getD now ≥ 10000 then w.declareFault else w

inductive Action where
  | probe (now : Time) (ok : Bool)
  /-- the first half of Go `databaseRejection` -/
  | pause
  /-- the second half of Go `databaseRejection` -/
  | suspect
  | heartbeat (now : Time) (tokenHash clientId : String)
  | rememberClient (now : Time) (tokenHash : String) (client : Client) (login : Bool)
  | forgetIdle (now : Time)
  /-- FRP changes its leases, proxies and connections -/
  | core (core : Manager)

/-- One step; probes do not go back in time. -/
def step (cfg : Api.NodeConfig) (w : Watch) : Action → Option Watch
  | .probe now ok =>
    if w.probes.head?.all (·.1 ≤ now) then
      some { w.observeControllerDatabaseHealth now ok with probes := (now, ok) :: w.probes }
    else none
  | .pause => some { w with memory := w.memory.pauseDatabaseAdmission }
  | .suspect => some { w with databaseSuspect := true }
  | .heartbeat now tokenHash clientId =>
    some { w with memory :=
      (w.memory.faultHeartbeat { cfg with mode := .controller } now w.memory.fault.closed false
        tokenHash clientId).1 }
  | .rememberClient now tokenHash client login =>
    some { w with memory := w.memory.rememberClient now tokenHash client login }
  | .forgetIdle now => some { w with memory := w.memory.forgetIdle now }
  | .core core =>
    if core.admissionClosed = w.memory.core.admissionClosed ∧
        core.drainingClients = w.memory.core.drainingClients then
      some { w with memory := { w.memory with core } }
    else none

/-- The machine, from a healthy database. -/
def machine (cfg : Api.NodeConfig) : Machine Watch Action where
  Init w := w.failedSince = none ∧ w.databaseSuspect = false ∧ w.databaseFault = false ∧ w.probes = [] ∧
    w.memory.fault.closed = false ∧ w.memory.fault.databaseFailed = false ∧
    w.memory.core.admissionClosed = false
  step := step cfg

/-! ## The run of failures -/

/-- The times of the current run of failures, the latest first. -/
def failures (probes : List (Time × Bool)) : List Time := (probes.takeWhile fun p => !p.2).map Prod.fst

/-- The first failure of the current run. -/
def began (probes : List (Time × Bool)) : Option Time := (failures probes).getLast?

/-- A probe of the current run failed ten seconds after the first one. -/
def Overdue (probes : List (Time × Bool)) : Prop :=
  ∃ start, began probes = some start ∧ ∃ t ∈ failures probes, start + 10000 ≤ t

/-- A probe failing at `now` is the first one of its run to be overdue. -/
def FirstOverdue (probes : List (Time × Bool)) (now : Time) : Prop :=
  ∃ start, began ((now, false) :: probes) = some start ∧ start + 10000 ≤ now ∧
    ∀ t ∈ failures probes, t < start + 10000

variable {cfg : Api.NodeConfig} {w w' : Watch} {m : Memory} {probes : List (Time × Bool)} {now : Time}
  {tokenId : Nat} {clientId : String}

@[simp]
lemma failures_fail : failures ((now, false) :: probes) = now :: failures probes := rfl

lemma began_fail : began ((now, false) :: probes) = some ((began probes).getD now) := by
  unfold began
  rw [failures_fail, List.getLast?_cons]

/-- A failing probe is overdue when it is late, or the run was overdue. -/
lemma overdue_fail : Overdue ((now, false) :: probes) ↔
    (began probes).getD now + 10000 ≤ now ∨ Overdue probes := by
  unfold Overdue
  rw [began_fail, failures_fail]
  constructor
  · rintro ⟨start, e, t, m, late⟩
    cases e
    rcases mem_cons.mp m with rfl | m
    · exact .inl late
    · cases b : began probes with
      | none =>
        rw [List.getLast?_eq_none_iff.mp b] at m
        cases m
      | some start =>
        rw [b] at late
        exact .inr ⟨start, rfl, t, m, late⟩
  · rintro (late | ⟨_, b, t, m, late⟩)
    · exact ⟨_, rfl, now, mem_cons_self, late⟩
    · refine ⟨_, rfl, t, mem_cons_of_mem _ m, ?_⟩
      rw [b]
      exact late

lemma not_overdue_ok : ¬ Overdue ((now, true) :: probes) := by
  rintro ⟨_, e, _⟩
  cases e

/-- The first overdue probe makes the run overdue. -/
lemma firstOverdue_iff : FirstOverdue probes now ↔
    ¬ Overdue probes ∧ Overdue ((now, false) :: probes) := by
  rw [overdue_fail]
  constructor
  · rintro ⟨start, e, late, early⟩
    rw [began_fail] at e
    cases e
    refine ⟨?_, .inl late⟩
    rintro ⟨start, b, t, m, overdue⟩
    have notYet := early t m
    rw [b] at notYet
    exact absurd overdue (Nat.not_le.mpr notYet)
  · rintro ⟨notYet, late⟩
    refine ⟨_, began_fail, late.resolve_right notYet, fun t m => ?_⟩
    cases b : began probes with
    | none =>
      rw [List.getLast?_eq_none_iff.mp b] at m
      cases m
    | some start => exact Nat.not_le.mp fun overdue => notYet ⟨start, b, t, m, overdue⟩

/-! ## The flags -/

/-- How the flags depend on the probes. -/
structure Sound (w : Watch) : Prop where
  admission : w.memory.core.admissionClosed = w.memory.fault.closed
  since : w.failedSince = began w.probes
  paused : w.failedSince.isSome = true → w.memory.fault.closed = true ∧ w.databaseSuspect = true
  failed : w.memory.fault.databaseFailed = w.databaseFault
  declared : w.databaseFault = true ↔ Overdue w.probes

/-- A declared fault is a run of failures that has begun. -/
lemma Sound.fault (ok : Sound w) (fault : w.databaseFault = true) :
    w.memory.fault.closed = true ∧ w.databaseSuspect = true := by
  obtain ⟨_, b, _⟩ := ok.declared.mp fault
  apply ok.paused
  rw [ok.since, b]
  rfl

/-- What a step that is no probe keeps. -/
structure Quiet (w w' : Watch) : Prop where
  admission : w'.memory.core.admissionClosed = w.memory.core.admissionClosed ∧
      w'.memory.fault.closed = w.memory.fault.closed ∨
    w'.memory.core.admissionClosed = true ∧ w'.memory.fault.closed = true
  suspect : w.databaseSuspect = true → w'.databaseSuspect = true
  failed : w'.memory.fault.databaseFailed = w.memory.fault.databaseFailed
  timer : w'.failedSince = w.failedSince ∧ w'.databaseFault = w.databaseFault ∧ w'.probes = w.probes

lemma Sound.quiet (ok : Sound w) (quiet : Quiet w w') : Sound w' := by
  obtain ⟨since, fault, probes⟩ := quiet.timer
  refine ⟨?_, ?_, ?_, ?_, ?_⟩
  · rcases quiet.admission with ⟨core, closed⟩ | ⟨core, closed⟩
    · rw [core, closed]
      exact ok.admission
    · rw [core, closed]
  · rw [since, probes]
    exact ok.since
  · intro started
    rw [since] at started
    obtain ⟨closed, suspect⟩ := ok.paused started
    refine ⟨?_, quiet.suspect suspect⟩
    rcases quiet.admission with ⟨_, same⟩ | ⟨_, closed⟩
    · rw [same]
      exact closed
    · exact closed
  · rw [quiet.failed, fault]
    exact ok.failed
  · rw [fault, probes]
    exact ok.declared

/-! ## Draining clients -/

/-- The client is recorded as draining by the node, the FRP core or its entry. -/
def Drains (m : Memory) (tokenId : Nat) (clientId : String) : Prop :=
  m.clientIsDraining tokenId clientId = true ∨
    ∃ c ∈ m.fault.clients, c.tokenId = tokenId ∧ c.clientId = clientId ∧ c.draining = true

/-- The flags stay, and no client starts draining. -/
structure Calm (m m' : Memory) : Prop where
  admission : m'.core.admissionClosed = m.core.admissionClosed
  closed : m'.fault.closed = m.fault.closed
  failed : m'.fault.databaseFailed = m.fault.databaseFailed
  drains : ∀ tokenId clientId, Drains m' tokenId clientId → Drains m tokenId clientId

lemma Calm.refl : Calm m m := ⟨rfl, rfl, rfl, fun _ _ => id⟩

lemma Calm.trans {m' m'' : Memory} (first : Calm m m') (next : Calm m' m'') : Calm m m'' :=
  ⟨next.admission.trans first.admission, next.closed.trans first.closed, next.failed.trans first.failed,
    fun tokenId clientId d => first.drains tokenId clientId (next.drains tokenId clientId d)⟩

/-- An entry is replaced by one that drains only if its client does. -/
lemma calm_putClient {c : FaultClient} (drains : c.draining = true → Drains m c.tokenId c.clientId) :
    Calm m (m.putClient c) := by
  refine ⟨rfl, rfl, rfl, ?_⟩
  rintro _ _ (recorded | ⟨d, md, token, client, draining⟩)
  · exact .inl recorded
  · rcases mem_cons.mp md with rfl | md
    · rw [← token, ← client]
      exact drains draining
    · exact .inr ⟨d, (mem_filter.mp md).1, token, client, draining⟩

lemma calm_finishDrain : Calm m (m.finishDrain tokenId clientId) := by
  have core : (m.core.finishClientDrain tokenId clientId).admissionClosed = m.core.admissionClosed ∧
      ∀ key ∈ (m.core.finishClientDrain tokenId clientId).drainingClients, key ∈ m.core.drainingClients := by
    unfold Manager.finishClientDrain
    split
    · exact ⟨rfl, fun _ mk => mk⟩
    · exact ⟨rfl, fun _ mk => (mem_filter.mp mk).1⟩
  refine ⟨core.1, rfl, rfl, ?_⟩
  rintro token client (recorded | entry)
  · left
    unfold Memory.clientIsDraining Manager.clientDraining at recorded ⊢
    rw [Bool.or_eq_true, contains_iff_mem, contains_iff_mem] at recorded ⊢
    rcases recorded with node | frp
    · exact .inl (mem_filter.mp node).1
    · exact .inr (core.2 _ frp)
  · exact .inr entry

variable {tokenHash : String} {ok : Bool}

/-- The entry found for a client is one of the node's. -/
lemma mem_of_lookupClient {c : FaultClient}
    (found : m.lookupClient tokenHash clientId = some c) : c ∈ m.fault.clients :=
  mem_of_find?_eq_some found

lemma calm_rememberClient {client : Client} {login : Bool} :
    Calm m (m.rememberClient now tokenHash client login) := by
  unfold Memory.rememberClient
  split
  · rename_i c found
    split
    · exact calm_finishDrain.trans (calm_putClient nofun)
    · exact calm_putClient fun draining => .inr ⟨c, mem_of_lookupClient found, rfl, rfl, draining⟩
  · dsimp only
    split
    · exact calm_finishDrain.trans (calm_putClient nofun)
    · exact calm_putClient nofun

lemma calm_forgetIdle : Calm m (m.forgetIdle now) := by
  refine ⟨rfl, rfl, rfl, ?_⟩
  rintro _ client (recorded | ⟨c, mc, entry⟩)
  · exact .inl recorded
  · exact .inr ⟨c, (mem_filter.mp mc).1, entry⟩

/-- A heartbeat keeps the flags, and drains its client only after the fault. -/
lemma calm_faultHeartbeat (notFailed : m.fault.databaseFailed = false) :
    Calm m (m.faultHeartbeat { cfg with mode := .controller } now m.fault.closed false
      tokenHash clientId).1 := by
  unfold Memory.faultHeartbeat
  split
  · exact .refl
  · rename_i c found
    have idle : (m.fault.closed && (decide (Api.Mode.controller = .edge) || m.fault.databaseFailed) ||
        false) = false := by
      rw [notFailed]
      cases m.fault.closed <;> rfl
    dsimp only
    simp only [idle, Bool.or_false, Bool.false_eq_true, if_false]
    have known : c.draining = true → Drains m c.tokenId c.clientId :=
      fun draining => .inr ⟨c, mem_of_lookupClient found, rfl, rfl, draining⟩
    split
    · split
      · exact calm_putClient known
      · exact .refl
    · exact calm_putClient known

/-- In any case it keeps the flags. -/
lemma faultHeartbeat_flags {u v : Bool} :
    (m.faultHeartbeat cfg now u v tokenHash clientId).1.core = m.core ∧
      (m.faultHeartbeat cfg now u v tokenHash clientId).1.fault.closed = m.fault.closed ∧
      (m.faultHeartbeat cfg now u v tokenHash clientId).1.fault.databaseFailed =
        m.fault.databaseFailed := by
  unfold Memory.faultHeartbeat
  split
  · exact ⟨rfl, rfl, rfl⟩
  · dsimp only
    split
    · split <;> split <;> exact ⟨rfl, rfl, rfl⟩
    · dsimp only [Memory.putClient]
      split <;> exact ⟨rfl, rfl, rfl⟩

/-! ## Steps other than probes -/

lemma Calm.quiet {memory : Memory} (calm : Calm w.memory memory) : Quiet w { w with memory } :=
  ⟨.inl ⟨calm.admission, calm.closed⟩, id, calm.failed, rfl, rfl, rfl⟩

/-- Other steps keep the timer, and drain only by a heartbeat after the fault. -/
lemma quiet_step {a : Action} (noProbe : ∀ now ok, a ≠ .probe now ok) (st : w.step cfg a = some w') :
    Quiet w w' ∧
      ((∀ tokenId clientId, Drains w'.memory tokenId clientId → Drains w.memory tokenId clientId) ∨
        (∃ now tokenHash clientId, a = .heartbeat now tokenHash clientId) ∧
          w.memory.fault.databaseFailed = true) := by
  cases a with
  | probe now ok => exact absurd rfl (noProbe now ok)
  | pause =>
    cases st
    exact ⟨⟨.inr ⟨rfl, rfl⟩, id, rfl, rfl, rfl, rfl⟩, .inl fun _ _ => id⟩
  | suspect =>
    cases st
    exact ⟨⟨.inl ⟨rfl, rfl⟩, fun _ => rfl, rfl, rfl, rfl, rfl⟩, .inl fun _ _ => id⟩
  | heartbeat now tokenHash clientId =>
    cases st
    obtain ⟨core, closed, failed⟩ := @faultHeartbeat_flags { cfg with mode := .controller } w.memory now
      clientId tokenHash w.memory.fault.closed false
    refine ⟨⟨.inl ⟨congrArg Manager.admissionClosed core, closed⟩, id, failed, rfl, rfl, rfl⟩, ?_⟩
    cases declared : w.memory.fault.databaseFailed with
    | true => exact .inr ⟨⟨now, tokenHash, clientId, rfl⟩, rfl⟩
    | false => exact .inl (calm_faultHeartbeat declared).drains
  | rememberClient =>
    cases st
    exact ⟨calm_rememberClient.quiet, .inl calm_rememberClient.drains⟩
  | forgetIdle =>
    cases st
    exact ⟨calm_forgetIdle.quiet, .inl calm_forgetIdle.drains⟩
  | core core =>
    simp only [Watch.step, ite_none_right_eq_some, some.injEq] at st
    obtain ⟨⟨admission, draining⟩, rfl⟩ := st
    have calm : Calm w.memory { w.memory with core } := by
      refine ⟨admission, rfl, rfl, ?_⟩
      rintro _ _ (recorded | entry)
      · left
        unfold Memory.clientIsDraining Manager.clientDraining at recorded ⊢
        rw [← draining]
        exact recorded
      · exact .inr entry
    exact ⟨calm.quiet, .inl calm.drains⟩

/-! ## Probes -/

/-- After a first failure the timer runs and admission is paused. -/
lemma startTimer_spec (ok : Sound w) :
    (w.startTimer now).failedSince = some ((began w.probes).getD now) ∧
    (w.startTimer now).memory.core.admissionClosed = true ∧
    (w.startTimer now).memory.fault.closed = true ∧ (w.startTimer now).databaseSuspect = true ∧
    (w.startTimer now).memory.fault.databaseFailed = w.databaseFault ∧
    (w.startTimer now).databaseFault = w.databaseFault ∧
    (w.startTimer now).memory.fault.clients = w.memory.fault.clients ∧
    (w.startTimer now).memory.fault.drains = w.memory.fault.drains ∧
    (w.startTimer now).memory.core.runtimeLeases = w.memory.core.runtimeLeases ∧
    (w.startTimer now).memory.core.drainingClients = w.memory.core.drainingClients := by
  unfold startTimer
  rw [← ok.since]
  cases since : w.failedSince with
  | none => exact ⟨rfl, rfl, rfl, rfl, ok.failed, rfl, rfl, rfl, rfl, rfl⟩
  | some =>
    obtain ⟨closed, suspect⟩ := ok.paused (since ▸ rfl)
    exact ⟨since, ok.admission.trans closed, closed, suspect, ok.failed, rfl, rfl, rfl, rfl, rfl⟩

/-- A failing probe, by the beginning of its run. -/
lemma observe_fail (ok : Sound w) : w.observeControllerDatabaseHealth now false =
    if (began w.probes).getD now + 10000 ≤ now then (w.startTimer now).declareFault
    else w.startTimer now := by
  have late : ∀ now start : Nat, now - start ≥ 10000 ↔ start + 10000 ≤ now := by omega
  unfold observeControllerDatabaseHealth
  rw [if_neg Bool.false_ne_true]
  dsimp only
  rw [(startTimer_spec ok).1, getD_some]
  exact if_congr (late _ _) rfl rfl

/-- Draining depends on three lists. -/
lemma drains_congr {m' : Memory} (clients : m'.fault.clients = m.fault.clients)
    (drains : m'.fault.drains = m.fault.drains)
    (core : m'.core.drainingClients = m.core.drainingClients) :
    Drains m' tokenId clientId ↔ Drains m tokenId clientId := by
  unfold Drains Memory.clientIsDraining Manager.clientDraining
  rw [clients, drains, core]

/-- The declared fault: every client that is known drains. -/
lemma declareFault_drains (first : w.memory.fault.databaseFailed = false) :
    (∀ c ∈ w.memory.fault.clients, w.declareFault.memory.clientIsDraining c.tokenId c.clientId = true) ∧
    ∀ l ∈ w.memory.core.runtimeLeases,
      w.declareFault.memory.clientIsDraining l.tokenId l.clientId = true := by
  have declares : w.declareFault.memory = Memory.transitionNodeFault
      { w.memory with fault := { w.memory.fault with databaseFailed := true } } false true := by
    unfold declareFault
    rw [first]
    rfl
  rw [declares]
  unfold Memory.clientIsDraining Manager.clientDraining
  constructor
  · intro c mc
    rw [Bool.or_eq_true, contains_iff_mem]
    exact .inl (mem_append_right _ (mem_map_of_mem mc))
  · intro l ml
    rw [Bool.or_eq_true, contains_iff_mem, contains_iff_mem]
    exact .inr (mem_append_right _ (mem_map_of_mem ml))

/-- The flags after the fault has been declared. -/
lemma declareFault_spec (closed : w.memory.fault.closed = true)
    (admission : w.memory.core.admissionClosed = true)
    (failed : w.memory.fault.databaseFailed = w.databaseFault) :
    w.declareFault.memory.core.admissionClosed = true ∧ w.declareFault.memory.fault.closed = true ∧
    w.declareFault.memory.fault.databaseFailed = true ∧ w.declareFault.databaseFault = true ∧
    w.declareFault.failedSince = w.failedSince ∧ w.declareFault.databaseSuspect = w.databaseSuspect := by
  unfold declareFault
  dsimp only
  split
  · rename_i already
    exact ⟨admission, closed, rfl, failed ▸ already, rfl, rfl⟩
  · exact ⟨rfl, rfl, rfl, rfl, rfl, rfl⟩

/-- After a successful probe admission is open and all flags are clear. -/
lemma recover_spec (ok : Sound w) :
    w.recover.memory.core.admissionClosed = false ∧ w.recover.memory.fault.closed = false ∧
    w.recover.memory.fault.databaseFailed = false ∧ w.recover.databaseFault = false ∧
    w.recover.databaseSuspect = false ∧ w.recover.failedSince = none := by
  unfold recover
  dsimp only
  split
  · exact ⟨rfl, rfl, rfl, rfl, rfl, rfl⟩
  · rename_i healthy
    rw [Bool.not_eq_true, Bool.or_eq_false_iff] at healthy
    obtain ⟨openNow, clear⟩ := healthy
    have noFault : w.databaseFault = false := by
      by_contra fault
      rw [Bool.not_eq_false] at fault
      rw [(ok.fault fault).1] at openNow
      cases openNow
    exact ⟨ok.admission.trans openNow, openNow, rfl, noFault, clear, rfl⟩

lemma recover_drains : Drains w.recover.memory tokenId clientId → Drains w.memory tokenId clientId := by
  unfold recover
  dsimp only
  split
  · exact (drains_congr rfl rfl rfl).mp
  · exact (drains_congr rfl rfl rfl).mp

/-- A probe is sound. -/
lemma Sound.probe (sound : Sound w) :
    Sound { w.observeControllerDatabaseHealth now ok with probes := (now, ok) :: w.probes } := by
  cases ok with
  | true =>
    show Sound { w.recover with probes := (now, true) :: w.probes }
    obtain ⟨admission, closed, failed, fault, suspect, since⟩ := recover_spec sound
    refine ⟨admission.trans closed.symm, since, ?_, failed.trans fault.symm, ?_⟩
    · intro started
      rw [since] at started
      cases started
    · refine iff_of_false ?_ not_overdue_ok
      rw [fault]
      exact Bool.false_ne_true
  | false =>
    obtain ⟨since, admission, closed, suspect, failed, fault, _⟩ := @startTimer_spec w now sound
    rw [observe_fail sound]
    split
    · rename_i overdue
      obtain ⟨admission', closed', failed', fault', since', suspect'⟩ :=
        declareFault_spec closed admission (failed.trans fault.symm)
      refine ⟨admission'.trans closed'.symm, ?_, fun _ => ⟨closed', suspect'.trans suspect⟩,
        failed'.trans fault'.symm, ?_⟩
      · exact (since'.trans since).trans began_fail.symm
      · exact iff_of_true fault' (overdue_fail.mpr (.inl overdue))
    · rename_i early
      refine ⟨admission.trans closed.symm, since.trans began_fail.symm, fun _ => ⟨closed, suspect⟩,
        failed.trans fault.symm, ?_⟩
      rw [overdue_fail, or_iff_right early, ← sound.declared]
      exact Bool.eq_iff_iff.mp fault

/-- Every step is sound. -/
lemma Sound.step {a : Action} (sound : Sound w) (st : w.step cfg a = some w') : Sound w' := by
  by_cases probe : ∃ now ok, a = .probe now ok
  · obtain ⟨now, ok, rfl⟩ := probe
    simp only [Watch.step, ite_none_right_eq_some, some.injEq] at st
    obtain ⟨_, rfl⟩ := st
    exact sound.probe
  · exact sound.quiet (quiet_step (fun now ok e => probe ⟨now, ok, e⟩) st).1

lemma Sound.of_reachable (r : (machine cfg).Reachable w) : Sound w := by
  refine r.inv ?_ fun w a w' sound st => sound.step st
  rintro _ ⟨since, _, fault, probes, closed, failed, admission⟩
  refine ⟨admission.trans closed.symm, ?_, ?_, failed.trans fault.symm, ?_⟩
  · rw [since, probes]
    rfl
  · rw [since]
    exact nofun
  · rw [fault, probes]
    refine iff_of_false Bool.false_ne_true ?_
    rintro ⟨_, e, _⟩
    cases e

/-- A probe that makes a client drain declares the fault. -/
lemma firstOverdue_of_drains (sound : Sound w) (before : ¬ Drains w.memory tokenId clientId)
    (after : Drains (w.observeControllerDatabaseHealth now ok).memory tokenId clientId) :
    ok = false ∧ FirstOverdue w.probes now := by
  cases ok with
  | true => exact absurd (recover_drains after) before
  | false =>
    refine ⟨rfl, ?_⟩
    obtain ⟨_, _, _, _, failed, _, clients, drains, _, core⟩ := @startTimer_spec w now sound
    rw [observe_fail sound] at after
    have started := mt (drains_congr clients drains core).mp before
    split at after
    · rename_i overdue
      -- a fault that was declared before leaves the clients as they are
      have notYet : w.databaseFault = false := by
        by_contra declared
        rw [Bool.not_eq_false] at declared
        unfold declareFault at after
        dsimp only at after
        rw [failed, declared, if_pos rfl] at after
        exact started ((drains_congr rfl rfl rfl).mp after)
      rw [firstOverdue_iff, ← sound.declared, notYet]
      exact ⟨Bool.false_ne_true, overdue_fail.mpr (.inl overdue)⟩
    · exact absurd after started

/-- The probe that declares the fault. -/
lemma declares_iff (sound : Sound w) :
    (w.databaseFault = false ∧ (w.observeControllerDatabaseHealth now ok).databaseFault = true) ↔
      ok = false ∧ FirstOverdue w.probes now := by
  have after := (@Sound.probe w now ok sound).declared
  rw [firstOverdue_iff, ← sound.declared, Bool.not_eq_true]
  cases ok with
  | true =>
    refine iff_of_false ?_ nofun
    rintro ⟨_, fault⟩
    exact not_overdue_ok (after.mp fault)
  | false =>
    rw [← after]
    exact (and_iff_right rfl).symm

/-- At the probe that declares the fault every known client drains. -/
lemma declared_drains (sound : Sound w) (first : FirstOverdue w.probes now) :
    (∀ c ∈ w.memory.fault.clients,
      (w.observeControllerDatabaseHealth now false).memory.clientIsDraining c.tokenId c.clientId = true) ∧
    ∀ l ∈ w.memory.core.runtimeLeases,
      (w.observeControllerDatabaseHealth now false).memory.clientIsDraining l.tokenId l.clientId = true := by
  obtain ⟨notYet, now'⟩ := firstOverdue_iff.mp first
  rw [← sound.declared, Bool.not_eq_true] at notYet
  obtain ⟨_, _, _, _, failed, _, clients, _, leases, _⟩ := @startTimer_spec w now sound
  have late : (began w.probes).getD now + 10000 ≤ now := by
    refine (overdue_fail.mp now').resolve_right ?_
    rw [← sound.declared, notYet]
    exact Bool.false_ne_true
  rw [observe_fail sound, if_pos late, ← clients, ← leases]
  exact declareFault_drains (failed.trans notYet)

/-- A transition to where the node already is. -/
lemma transition_open (admission : m.core.admissionClosed = false) (closed : m.fault.closed = false) :
    m.transitionNodeFault false false = m := by
  obtain ⟨core, fault⟩ := m
  cases core
  cases fault
  cases admission
  cases closed
  rfl

/-- The controller machine, which leaves the flags of the edges out, observes the same. -/
lemma observe_memory (sound : Sound w) :
    ((w.observeControllerDatabaseHealth now ok).memory, (w.observeControllerDatabaseHealth now ok).failedSince) =
      w.memory.observeControllerDatabaseHealth now ok w.failedSince := by
  cases ok with
  | true =>
    show (w.recover.memory, w.recover.failedSince) = _
    unfold recover Memory.observeControllerDatabaseHealth
    dsimp only
    rw [if_pos rfl]
    cases closed : w.memory.fault.closed with
    | true => rfl
    | false =>
      have same := @transition_open
        { w.memory with fault := { w.memory.fault with closed := false, databaseFailed := false } }
        (sound.admission.trans closed) rfl
      cases w.databaseSuspect with
      | false => rfl
      | true => exact congrArg (·, none) same
  | false =>
    obtain ⟨since, _⟩ := @startTimer_spec w now sound
    have started : (if w.failedSince.isNone then w.memory.pauseDatabaseAdmission else w.memory) =
        (w.startTimer now).memory := by
      unfold startTimer
      split <;> rfl
    unfold observeControllerDatabaseHealth Memory.observeControllerDatabaseHealth
    rw [if_neg Bool.false_ne_true, if_neg Bool.false_ne_true]
    dsimp only
    rw [started, since, sound.since, getD_some]
    generalize w.startTimer now = w₁ at since
    unfold declareFault
    by_cases late : now - (began w.probes).getD now ≥ 10000
    · rw [if_pos late]
      cases failed : w₁.memory.fault.databaseFailed with
      | true =>
        have same : { w₁.memory with fault := { w₁.memory.fault with databaseFailed := true } } =
            w₁.memory := by
          rw [← failed]
        simp [late, same, since]
      | false => simp [late, since]
    · rw [if_neg late]
      simp [late, since]

/-- The fault timer, in every reachable state. A probe declares the fault exactly if it is the first of
its run of failures to fail ten seconds after the run began, and then all known clients drain. After a
successful probe admission is open and no flag is set. While the fault is set, the database is suspect and
admission closed. A client starts draining only at the declaring probe, or at a heartbeat after it, so
never in a shorter run of failures. -/
theorem fault_timer_correct (cfg : Api.NodeConfig) (w : Watch) (r : (machine cfg).Reachable w) :
    (∀ now ok w', w.step cfg (.probe now ok) = some w' →
      ((w.databaseFault = false ∧ w'.databaseFault = true) ↔ ok = false ∧ FirstOverdue w.probes now) ∧
      (w.databaseFault = false ∧ w'.databaseFault = true →
        (∀ c ∈ w.memory.fault.clients, w'.memory.clientIsDraining c.tokenId c.clientId = true) ∧
        ∀ l ∈ w.memory.core.runtimeLeases, w'.memory.clientIsDraining l.tokenId l.clientId = true) ∧
      (ok = true → w'.memory.core.admissionClosed = false ∧ w'.memory.fault.closed = false ∧
        w'.databaseSuspect = false ∧ w'.databaseFault = false ∧
        w'.memory.fault.databaseFailed = false)) ∧
    (w.databaseFault = true → w.databaseSuspect = true ∧ w.memory.core.admissionClosed = true ∧
      w.memory.fault.closed = true) ∧
    ∀ a w', w.step cfg a = some w' → ∀ tokenId clientId, ¬ Drains w.memory tokenId clientId →
      Drains w'.memory tokenId clientId →
        ((∃ now, a = .probe now false ∧ FirstOverdue w.probes now) ∨
          (∃ now tokenHash clientId, a = .heartbeat now tokenHash clientId) ∧ w.databaseFault = true) ∧
        Overdue w'.probes := by
  have sound := Sound.of_reachable r
  refine ⟨?_, ?_, ?_⟩
  · intro now ok w' st
    simp only [Watch.step, ite_none_right_eq_some, some.injEq] at st
    obtain ⟨_, rfl⟩ := st
    refine ⟨declares_iff sound, fun declared => ?_, fun success => ?_⟩
    · obtain ⟨rfl, first⟩ := (declares_iff sound).mp declared
      exact declared_drains sound first
    · subst success
      obtain ⟨admission, closed, failed, fault, suspect, _⟩ := recover_spec sound
      exact ⟨admission, closed, suspect, fault, failed⟩
  · intro fault
    obtain ⟨closed, suspect⟩ := sound.fault fault
    exact ⟨suspect, sound.admission.trans closed, closed⟩
  · intro a w' st tokenId clientId before after
    by_cases probe : ∃ now ok, a = .probe now ok
    · obtain ⟨now, ok, rfl⟩ := probe
      simp only [Watch.step, ite_none_right_eq_some, some.injEq] at st
      obtain ⟨_, rfl⟩ := st
      obtain ⟨rfl, first⟩ := firstOverdue_of_drains sound before after
      exact ⟨.inl ⟨now, rfl, first⟩, (firstOverdue_iff.mp first).2⟩
    · obtain ⟨quiet, calm | ⟨beat, failed⟩⟩ := quiet_step (fun now ok e => probe ⟨now, ok, e⟩) st
      · exact absurd (calm tokenId clientId after) before
      · rw [sound.failed] at failed
        refine ⟨.inr ⟨beat, failed⟩, ?_⟩
        rw [quiet.timer.2.2]
        exact sound.declared.mp failed

def sampleCfg : Api.NodeConfig := ⟨.controller, 1000, 2000, 7000, 8080, 9443, 3600000, true⟩

/-- A known client, a failure and another one ten seconds later: the fault is declared, and the client
drains. -/
theorem fault_timer_correct_boundary :
    ∃ w w', (machine sampleCfg).Reachable w ∧ w.step sampleCfg (.probe 10000 false) = some w' ∧
      FirstOverdue w.probes 10000 ∧ w'.databaseFault = true ∧
      w'.memory.clientIsDraining 5 "pc" = true := by
  obtain ⟨w, run, probes, entry, w', st⟩ : ∃ w, (machine sampleCfg).run {}
      [.rememberClient 0 "h" ⟨1, 1, 5, "pc", .active, "", none⟩ true, .probe 0 false, .pause, .suspect,
        .probe 9999 false] = some w ∧ w.probes = [(9999, false), (0, false)] ∧
      (∃ c ∈ w.memory.fault.clients, c.tokenId = 5 ∧ c.clientId = "pc") ∧
      ∃ w', w.step sampleCfg (.probe 10000 false) = some w' :=
    ⟨_, rfl, rfl, ⟨_, mem_cons_self, rfl, rfl⟩, _, rfl⟩
  have reach : (machine sampleCfg).Reachable w := ⟨{}, _, ⟨rfl, rfl, rfl, rfl, rfl, rfl, rfl⟩, run⟩
  have first : FirstOverdue w.probes 10000 := by
    rw [probes]
    refine ⟨0, rfl, by decide, fun t m => ?_⟩
    have earlier : t = 9999 ∨ t = 0 := by simpa [failures] using m
    rcases earlier with rfl | rfl <;> decide
  obtain ⟨declares, drains, _⟩ := (fault_timer_correct sampleCfg w reach).1 10000 false w' st
  have declared := declares.mpr ⟨rfl, first⟩
  obtain ⟨c, mc, token, client⟩ := entry
  have drained := (drains declared).1 c mc
  rw [token, client] at drained
  exact ⟨w, w', reach, st, first, declared.2, drained⟩

end Watch

end MeowFrp.Node
