import MeowFrp.Cluster.Client
import MeowFrp.Lib.Machine

/-!
# The end of a stream

The deferred function of Go `connect` stores the flags that close admission before it cancels the context
and waits for the goroutines, of which the receive loop writes the same flags. Here every load and store
of a flag is a step of its own; what a goroutine has still to do is the list of its instructions. Run
without interruption they are the functions of `Cluster.Client` (`receive_eq`, `fence_eq`, `leave_eq`,
`checkHealth_eq`).

`shut` is a history variable: the deferred function of a stream has stored its flags, and no
`identity_confirmed` with `sync_complete` of a later stream has been processed.
-/

namespace MeowFrp.Cluster

open Lib List EdgeClient

/-- A load or a store of a flag. A load may skip the body of the `if` it decides. -/
inductive Instr where
  | storeConnected (value : Bool)
  | storeSyncReady (value : Bool)
  /-- the last section of Go `transitionNodeFault` -/
  | storeClosed (value : Bool)
  /-- `controllerFault.Swap`, and whether the fault is new -/
  | swapControllerFault (fault : Bool)
  | loadSyncReady
  | loadControllerFault
  /-- the first section of Go `transitionNodeFault(false)` -/
  | loadLocalFailed
  deriving DecidableEq, Repr

namespace EdgeClient

variable {Byte : Type} {c : EdgeClient Byte} {r : Receiver Byte} {m : DownMsg Byte} {i : Instr}

/-- An instruction, and how many it skips. -/
def exec (c : EdgeClient Byte) : Instr → EdgeClient Byte × Nat
  | .storeConnected value => ({ c with connected := value }, 0)
  | .storeSyncReady value => ({ c with syncReady := value }, 0)
  | .storeClosed value => ({ c with closed := value }, 0)
  | .swapControllerFault fault =>
    ({ c with controllerFault := fault }, if fault && !c.controllerFault then 0 else 2)
  | .loadSyncReady => (c, if c.syncReady then 0 else 3)
  | .loadControllerFault => (c, if c.controllerFault then 2 else 0)
  | .loadLocalFailed => (c, if c.localFailed then 1 else 0)

/-- All of them without interruption. -/
def execAll (c : EdgeClient Byte) : List Instr → EdgeClient Byte
  | [] => c
  | i :: rest => (c.exec i).1.execAll (rest.drop (c.exec i).2)
termination_by instrs => instrs.length
decreasing_by
  rw [length_drop, length_cons]
  omega

/-- The receive loop goes on with a message. -/
def accepts (r : Receiver Byte) : DownMsg Byte → Bool
  | .identityChunk epoch _ _ index _ _ =>
    some epoch = r.cacheSessionId && !(index = 0 && !r.chunkBuffer.isEmpty)
  | .identityConfirmed epoch revision _ =>
    some epoch = r.cacheSessionId && revision = r.locallyAppliedRevision
  | _ => true

/-- What a message that is accepted does to the flags. -/
def handler : DownMsg Byte → List Instr
  | .welcome _ fault =>
    [.storeConnected true, .swapControllerFault fault, .storeClosed true, .storeSyncReady false,
      .storeClosed true, .storeSyncReady false]
  | .identityChunk _ _ _ index _ _ => if index = 0 then [.storeSyncReady false] else []
  | .identityConfirmed _ _ syncComplete =>
    [.storeSyncReady syncComplete, .loadSyncReady, .loadControllerFault, .loadLocalFailed,
      .storeClosed false]
  | .heartbeatAck fault | .controllerState fault =>
    [.storeConnected true, .swapControllerFault fault, .storeClosed true, .storeSyncReady false]

/-- What the receive loop does to the flags about a message. -/
def program (r : Receiver Byte) (m : DownMsg Byte) : List Instr := if accepts r m then handler m else []

/-- The rest: variables that only the receive loop reads. -/
def take (c : EdgeClient Byte) (r : Receiver Byte) (m : DownMsg Byte) : EdgeClient Byte :=
  { c with link := (c.receive r m).1.link }

/-- The deferred function of Go `connect`, up to the cancellation. -/
def fencing : List Instr := [.storeConnected false, .storeSyncReady false, .storeClosed true]

/-- Go `Run` after `connect`. -/
def leaving : List Instr := [.storeClosed true, .storeConnected false, .storeSyncReady false]

/-- What a round of Go `runNodeHealth` reads first. -/
def readHealth (c : EdgeClient Byte) : Bool :=
  !c.connected || c.controllerFault || c.store.identityResetPending

/-- And what it makes of that. -/
def applyHealth (c : EdgeClient Byte) (closed : Bool) : EdgeClient Byte :=
  let closed := closed || c.localFailed
  if c.closed = closed then c else if closed then c.signalFault else c.reopen

/-! ## The functions of the client -/

lemma execAll_nil : c.execAll [] = c := by
  rw [execAll]

lemma execAll_cons {rest : List Instr} :
    c.execAll (i :: rest) = (c.exec i).1.execAll (rest.drop (c.exec i).2) := by
  rw [execAll]

/-- The instructions of `observeFault`. -/
lemma execAll_observeFault {fault : Bool} {rest : List Instr} :
    c.execAll (.storeConnected true :: .swapControllerFault fault :: .storeClosed true ::
      .storeSyncReady false :: rest) = (c.observeFault fault).execAll rest := by
  unfold observeFault
  simp only [execAll_cons, exec, drop_zero]
  split
  · simp only [drop_zero, execAll_cons, exec]
    rfl
  · rfl

lemma observeFault_link {fault : Bool} : (c.observeFault fault).link = c.link := by
  unfold observeFault
  dsimp only
  split
  · rfl
  · rfl

/-- The queue to the worker is no flag. -/
lemma queueApply_eq {job : ApplyJob Byte} :
    c.queueApply r job = { c with link := (c.queueApply r job).link } := by
  unfold queueApply
  split
  · rfl
  · rfl

/-- The instructions of a fragment. -/
lemma receiveChunk_eq {epoch : CacheSessionId} {revision sequence index total : Nat} {data : List Byte} :
    (c.receiveChunk r epoch revision sequence index total data).1 =
      { c with
        link := (c.receiveChunk r epoch revision sequence index total data).1.link }.execAll
          (program r (.identityChunk epoch revision sequence index total data)) := by
  unfold program accepts handler receiveChunk
  by_cases session : some epoch = r.cacheSessionId
  · by_cases overlap : (index = 0 && !r.chunkBuffer.isEmpty) = true
    · simp only [session, overlap, ne_eq, not_true_eq_false, if_false, if_true, decide_true, Bool.not_true,
        Bool.and_false, Bool.false_eq_true, execAll_nil]
      rfl
    · simp only [session, overlap, ne_eq, not_true_eq_false, if_false, decide_true, Bool.not_false,
        Bool.and_true, if_true, Bool.false_eq_true]
      -- the checks of the fragment end in `fail`, in `queueApply` or in the next turn of the loop
      by_cases first : index = 0
      · simp only [first, if_true, execAll_cons, exec, drop_nil, execAll_nil]
        split
        · rfl
        · split
          · exact queueApply_eq
          · rfl
      · simp only [first, if_false, execAll_nil]
        split
        · rfl
        · split
          · exact queueApply_eq
          · rfl
  · simp only [session, ne_eq, not_false_eq_true, if_true, decide_false, Bool.false_and, if_false,
      Bool.false_eq_true, execAll_nil]
    rfl

/-- The instructions of a confirmation. -/
lemma execAll_confirmed {complete : Bool} :
    c.execAll [.storeSyncReady complete, .loadSyncReady, .loadControllerFault, .loadLocalFailed,
        .storeClosed false] =
      if complete && !c.controllerFault then { c with syncReady := complete }.reopen
      else { c with syncReady := complete } := by
  simp only [execAll_cons, exec, drop_zero]
  cases complete with
  | false => exact execAll_nil
  | true =>
    cases fault : c.controllerFault with
    | true => simp [execAll_cons, exec, execAll_nil]
    | false => cases failed : c.localFailed <;> simp [execAll_cons, exec, execAll_nil, reopen]

/-- Receiving a confirmation is running its instructions. -/
lemma receiveConfirmed_eq {epoch : CacheSessionId} {revision : Nat} {syncComplete : Bool} :
    (c.receiveConfirmed r epoch revision syncComplete).1 =
      { c with link := (c.receiveConfirmed r epoch revision syncComplete).1.link }.execAll
        (program r (.identityConfirmed epoch revision syncComplete)) := by
  unfold program accepts handler receiveConfirmed
  by_cases ok : some epoch = r.cacheSessionId ∧ revision = r.locallyAppliedRevision
  · simp only [ok.1, ok.2, ne_eq, not_true_eq_false, decide_false, Bool.or_false, Bool.false_eq_true,
      if_false, decide_true, Bool.and_true, if_true, execAll_confirmed]
    split
    · rfl
    · rfl
  · have refused : (decide (some epoch ≠ r.cacheSessionId) || decide (revision ≠ r.locallyAppliedRevision))
        = true := by
      rw [Bool.or_eq_true, decide_eq_true_iff, decide_eq_true_iff]
      exact Decidable.not_and_iff_or_not.mp ok
    have not : (decide (some epoch = r.cacheSessionId) && decide (revision = r.locallyAppliedRevision))
        = false := by
      rw [Bool.and_eq_false_iff, decide_eq_false_iff_not, decide_eq_false_iff_not]
      exact Decidable.not_and_iff_or_not.mp ok
    simp only [refused, not, if_true, if_false, Bool.false_eq_true, execAll_nil]
    rfl

/-- The receive loop without interruption. -/
lemma receive_eq : (c.receive r m).1 = (c.take r m).execAll (program r m) := by
  cases m with
  | welcome epoch fault =>
    show c.receiveWelcome r epoch fault =
      { c with link := (c.receiveWelcome r epoch fault).link }.execAll
        (.storeConnected true :: .swapControllerFault fault :: .storeClosed true :: .storeSyncReady false ::
          [.storeClosed true, .storeSyncReady false])
    rw [execAll_observeFault]
    simp only [execAll_cons, exec, drop_zero, drop_nil, execAll_nil]
    unfold receiveWelcome
    dsimp only
    rw [queueApply_eq]
    unfold observeFault
    dsimp only
    split
    · rfl
    · rfl
  | identityChunk => exact receiveChunk_eq
  | identityConfirmed => exact receiveConfirmed_eq
  | heartbeatAck fault | controllerState fault =>
    show c.observeFault fault = { c with link := (c.observeFault fault).link }.execAll
      [.storeConnected true, .swapControllerFault fault, .storeClosed true, .storeSyncReady false]
    rw [observeFault_link, execAll_observeFault, execAll_nil]

lemma fence_eq : c.fence r = { c with link := some { r with fenced := true } }.execAll fencing := by
  simp only [fencing, execAll_cons, exec, drop_zero, execAll_nil]
  rfl

lemma leave_eq : c.leave = { c with link := none }.execAll leaving := by
  simp only [leaving, execAll_cons, exec, drop_zero, execAll_nil]
  rfl

/-- A health check reads first and stores then. -/
lemma checkHealth_eq : c.checkHealth = c.applyHealth c.readHealth := by
  unfold checkHealth applyHealth readHealth signalFault reopen
  dsimp only
  split
  · rename_i same
    rw [← same]
  · split
    · rename_i closed
      rw [closed]
    · rename_i opened
      rw [Bool.not_eq_true, Bool.or_eq_false_iff] at opened
      rw [opened.1, opened.2, Bool.and_false]
      rfl

/-! ## Which instructions raise a flag -/

/-- Where the deferred function and `Run` lower the flags. -/
def Lowers : Instr → Prop
  | .storeConnected value | .storeSyncReady value => value = false
  | _ => True

/-- Only a store raises `connected`. -/
lemma exec_connected (low : c.connected = false) (h : i ≠ .storeConnected true) :
    (c.exec i).1.connected = false := by
  cases i with
  | storeConnected value =>
    cases value with
    | true => exact absurd rfl h
    | false => rfl
  | storeSyncReady | storeClosed | swapControllerFault | loadSyncReady | loadControllerFault
  | loadLocalFailed => exact low

/-- Only a store raises `syncReady`. -/
lemma exec_syncReady (low : c.syncReady = false) (h : i ≠ .storeSyncReady true) :
    (c.exec i).1.syncReady = false := by
  cases i with
  | storeSyncReady value =>
    cases value with
    | true => exact absurd rfl h
    | false => rfl
  | storeConnected | storeClosed | swapControllerFault | loadSyncReady | loadControllerFault
  | loadLocalFailed => exact low

/-- The worker changes no flag of the stream. -/
lemma runJob_flags {codec : Codec Byte} {now : Time} {fails : Bool} {job : ApplyJob Byte} :
    (c.runJob codec r now fails job).1.connected = c.connected ∧
      (c.runJob codec r now fails job).1.syncReady = c.syncReady := by
  cases job with
  | cacheReset =>
    simp only [runJob]
    split
    · exact ⟨rfl, rfl⟩
    · exact ⟨rfl, rfl⟩
  | identitySnapshot =>
    simp only [runJob]
    split
    · exact ⟨rfl, rfl⟩
    · split
      · exact ⟨rfl, rfl⟩
      · split
        · exact ⟨rfl, rfl⟩
        · exact ⟨rfl, rfl⟩

/-- A health check changes no flag of the stream. -/
lemma applyHealth_flags {closed : Bool} :
    (c.applyHealth closed).connected = c.connected ∧ (c.applyHealth closed).syncReady = c.syncReady := by
  unfold applyHealth
  dsimp only
  split
  · exact ⟨rfl, rfl⟩
  · split
    · exact ⟨rfl, rfl⟩
    · exact ⟨rfl, rfl⟩

/-- No message raises both flags. -/
lemma program_tame : .storeSyncReady true ∉ program r m ∨ .storeConnected true ∉ program r m := by
  unfold program
  split
  · cases m with
    | welcome | heartbeatAck | controllerState => exact .inl (by simp [handler])
    | identityChunk =>
      refine .inl ?_
      simp only [handler]
      split
      · simp
      · exact not_mem_nil
    | identityConfirmed => exact .inr (by simp [handler])
  · exact .inl not_mem_nil

end EdgeClient

/-! ## The goroutines -/

/-- Where Go `Run` is. -/
inductive Phase where
  /-- the loop of `connect` -/
  | streaming
  /-- the deferred function, and what is left before the cancellation -/
  | fencing (rest : List Instr)
  /-- it waits for the goroutines -/
  | joining
  /-- after `connect`, and what is left to store; nothing between two connections -/
  | leaving (rest : List Instr)
  deriving DecidableEq, Repr

/-- The client with its goroutines. -/
structure Teardown (Byte : Type) where
  client : EdgeClient Byte := {}
  phase : Phase := .leaving []
  /-- what the receive loop has still to do about the message at hand -/
  handling : List Instr := []
  /-- what `runNodeHealth` has read -/
  health : Option Bool := none
  shut : Bool := false

inductive TeardownAction (Byte : Type) where
  | connect (stream : Nat)
  /-- a connection fails before its stream -/
  | redial
  /-- the receive loop gets a message -/
  | take (m : DownMsg Byte)
  | exec
  /-- the receive loop gets an error -/
  | fail
  | takeJob
  | runJob (now : Time) (fails : Bool)
  | reportJob
  | tearDown
  | fence
  | cancel
  | join
  | leave
  | discardCache
  | readHealth
  | applyHealth
  | probe (failed : Bool)
  /-- a request finds the local database away -/
  | localFault

namespace Teardown

variable {Byte : Type}

/-- The deferred function has not stored its flags yet. -/
def live : Phase → Bool
  | .streaming | .fencing (_ :: _) => true
  | _ => false

/-- One step. -/
def step (codec : Codec Byte) (s : Teardown Byte) : TeardownAction Byte → Option (Teardown Byte)
  | .connect stream =>
    match s.phase with
    | .leaving [] => some { s with client := s.client.connect stream, phase := .streaming }
    | _ => none
  | .redial =>
    match s.phase with
    | .leaving [] => some { s with phase := .leaving EdgeClient.leaving }
    | _ => none
  | .take m =>
    match s.client.link, s.handling with
    | some r, [] =>
      if !r.receiving then none
      else
        match s.phase with
        | .streaming | .fencing _ =>
          some { s with client := s.client.take r m, handling := EdgeClient.program r m }
        -- the context is cancelled
        | .joining => some { s with client := s.client.fail r }
        | .leaving _ => none
    | _, _ => none
  | .exec =>
    match s.handling with
    | [] => none
    | i :: rest =>
      some { s with
        client := (s.client.exec i).1
        handling := rest.drop (s.client.exec i).2
        shut := s.shut && !(i = .storeSyncReady true && live s.phase) }
  | .fail =>
    match s.client.link, s.handling with
    | some r, [] => some { s with client := s.client.fail r }
    | _, _ => none
  | .takeJob =>
    match s.client.link with
    | none => none
    | some r =>
      match r.worker, r.applyJobs with
      | .idle, some job =>
        some { s with client := { s.client with link := some { r with worker := .loaded job, applyJobs := none } } }
      | _, _ => none
  | .runJob now fails =>
    match s.client.link with
    | none => none
    | some r =>
      match r.worker with
      | .loaded job => some { s with client := (s.client.runJob codec r now fails job).1 }
      | _ => none
  | .reportJob =>
    match s.client.link with
    | none => none
    | some r =>
      match r.worker with
      | .committed _ => some { s with client := { s.client with link := some { r with worker := .idle } } }
      | _ => none
  | .tearDown =>
    match s.phase, s.client.link with
    | .streaming, some r =>
      some { s with
        client := { s.client with link := some { r with fenced := true } }
        phase := .fencing EdgeClient.fencing }
    | _, _ => none
  | .fence =>
    match s.phase with
    | .fencing (i :: rest) =>
      some { s with client := (s.client.exec i).1, phase := .fencing rest, shut := s.shut || rest.isEmpty }
    | _ => none
  | .cancel =>
    match s.phase, s.client.link with
    | .fencing [], some r => some { s with client := s.client.cancel r, phase := .joining }
    | _, _ => none
  | .join =>
    match s.phase, s.client.link, s.handling with
    | .joining, some r, [] =>
      if r.receiving then none
      else
        match r.worker with
        | .loaded _ => none
        | _ => some { s with client := { s.client with link := none }, phase := .leaving EdgeClient.leaving }
    | _, _, _ => none
  | .leave =>
    match s.phase with
    | .leaving (i :: rest) => some { s with client := (s.client.exec i).1, phase := .leaving rest }
    | _ => none
  | .discardCache =>
    match s.phase with
    | .leaving [] => some { s with client := s.client.discardCache }
    | _ => none
  | .readHealth => some { s with health := some s.client.readHealth }
  | .applyHealth =>
    match s.health with
    | some closed => some { s with client := s.client.applyHealth closed, health := none }
    | none => none
  | .probe failed => some { s with client := { s.client with localFailed := failed } }
  | .localFault => some { s with client := s.client.signalFault }

/-- The machine, from a process that has just started. -/
def machine (codec : Codec Byte) : Machine (Teardown Byte) (TeardownAction Byte) where
  Init s := s.client.link = none ∧ s.client.connected = false ∧ s.client.syncReady = false ∧
    s.phase = .leaving [] ∧ s.handling = [] ∧ s.health = none ∧ s.shut = false
  step := step codec

/-- The deferred function has begun and not yet cancelled the context. -/
def uncancelled : Phase → Bool
  | .fencing _ => true
  | _ => false

/-- Before the step: the receive loop gets no message between the deferred function and the cancellation. -/
def Undisturbed (s : Teardown Byte) : TeardownAction Byte → Prop
  | .take _ => uncancelled s.phase = false
  | _ => True

instance (s : Teardown Byte) (a : TeardownAction Byte) : Decidable (Undisturbed s a) :=
  match a with
  | .take _ => inferInstanceAs (Decidable (_ = false))
  | .connect _ | .redial | .exec | .fail | .takeJob | .runJob _ _ | .reportJob | .tearDown | .fence | .cancel
  | .join | .leave | .discardCache | .readHealth | .applyHealth | .probe _ | .localFault => .isTrue trivial

variable {codec : Codec Byte} {s s' : Teardown Byte} {c c' : EdgeClient Byte} {rest handling : List Instr}
  {shut : Bool}

/-! ## The invariant -/

/-- One of `connected` and `syncReady` is down once the instructions `rest` are through, and the message at
hand does not raise it. -/
def Down (c : EdgeClient Byte) (rest handling : List Instr) : Prop :=
  (.storeSyncReady true ∉ handling ∧ (.storeSyncReady false ∉ rest → c.syncReady = false)) ∨
    (.storeConnected true ∉ handling ∧ (.storeConnected false ∉ rest → c.connected = false))

/-- A node whose flag is down is not online. -/
lemma Down.offline (down : Down c [] handling) : c.edgeOnlineForNewSessions = false := by
  unfold EdgeClient.edgeOnlineForNewSessions
  rcases down with ⟨_, low⟩ | ⟨_, low⟩
  · rw [low not_mem_nil, Bool.and_false, Bool.false_and]
  · rw [low not_mem_nil, Bool.and_false, Bool.false_and, Bool.false_and]

variable {i : Instr} {phase : Phase}

/-- The receive loop goes on. -/
lemma Down.exec (down : Down c rest (i :: handling)) :
    Down (c.exec i).1 rest (handling.drop (c.exec i).2) := by
  have kept : ∀ {j}, j ∉ i :: handling → j ∉ handling.drop (c.exec i).2 := fun h m =>
    h (mem_cons_of_mem _ (mem_of_mem_drop m))
  refine down.imp (fun ⟨h, low⟩ => ⟨kept h, fun done => ?_⟩) fun ⟨h, low⟩ => ⟨kept h, fun done => ?_⟩
  · exact exec_syncReady (low done) fun e => h (e ▸ mem_cons_self)
  · exact exec_connected (low done) fun e => h (e ▸ mem_cons_self)

/-- A store lowers `syncReady`, if it was the last one. -/
lemma lower_syncReady (low : .storeSyncReady false ∉ i :: rest → c.syncReady = false)
    (lowers : EdgeClient.Lowers i) (stored : .storeSyncReady false ∉ rest) :
    (c.exec i).1.syncReady = false := by
  by_cases now : i = .storeSyncReady false
  · subst now
    rfl
  · refine exec_syncReady (low (not_mem_cons_of_ne_of_not_mem (Ne.symm now) stored)) ?_
    rintro rfl
    cases lowers

/-- A store lowers `connected`, if it was the last one. -/
lemma lower_connected (low : .storeConnected false ∉ i :: rest → c.connected = false)
    (lowers : EdgeClient.Lowers i) (stored : .storeConnected false ∉ rest) :
    (c.exec i).1.connected = false := by
  by_cases now : i = .storeConnected false
  · subst now
    rfl
  · refine exec_connected (low (not_mem_cons_of_ne_of_not_mem (Ne.symm now) stored)) ?_
    rintro rfl
    cases lowers

/-- The deferred function goes on. -/
lemma Down.lower (down : Down c (i :: rest) handling) (lowers : EdgeClient.Lowers i) :
    Down (c.exec i).1 rest handling :=
  down.imp (fun ⟨h, low⟩ => ⟨h, lower_syncReady low lowers⟩) fun ⟨h, low⟩ => ⟨h, lower_connected low lowers⟩

/-- A flag that is down stays down. -/
lemma Down.mono (down : Down c [] handling) : Down c rest handling :=
  down.imp (fun ⟨h, low⟩ => ⟨h, fun _ => low not_mem_nil⟩) fun ⟨h, low⟩ =>
    ⟨h, fun _ => low not_mem_nil⟩

/-- What holds in each phase. -/
def Closing (c : EdgeClient Byte) (handling : List Instr) (shut : Bool) : Phase → Prop
  | .streaming =>
    (.storeSyncReady true ∉ handling ∨ .storeConnected true ∉ handling) ∧
      (shut = true → c.syncReady = false)
  | .fencing rest =>
    (∀ i ∈ rest, EdgeClient.Lowers i) ∧ Down c rest handling ∧
      (rest ≠ [] → shut = true → c.syncReady = false)
  | .joining => Down c [] handling
  | .leaving rest =>
    (∀ i ∈ rest, EdgeClient.Lowers i) ∧ handling = [] ∧ Down c [] [] ∧
      (.storeSyncReady false ∉ rest → c.syncReady = false)

/-- A step that leaves the two flags alone. -/
lemma Closing.same (old : Closing c handling shut phase) (connected : c'.connected = c.connected)
    (syncReady : c'.syncReady = c.syncReady) : Closing c' handling shut phase := by
  unfold Closing Down at old ⊢
  rw [connected, syncReady]
  exact old

/-- A node that is shut is not online. -/
lemma Closing.offline (old : Closing c handling true phase) :
    c.edgeOnlineForNewSessions = false := by
  have unready : c.syncReady = false → c.edgeOnlineForNewSessions = false := by
    intro low
    unfold EdgeClient.edgeOnlineForNewSessions
    rw [low, Bool.and_false, Bool.false_and]
  cases phase with
  | streaming => exact unready (old.2 rfl)
  | fencing rest =>
    obtain ⟨_, down, before⟩ := old
    cases rest with
    | nil => exact down.offline
    | cons i rest => exact unready (before (cons_ne_nil i rest) rfl)
  | joining => exact Down.offline old
  | leaving => exact old.2.2.1.offline

/-- An instruction of the message at hand runs. -/
lemma Closing.exec (old : Closing c (i :: handling) shut phase) :
    Closing (c.exec i).1 (handling.drop (c.exec i).2)
      (shut && !(i = .storeSyncReady true && live phase)) phase := by
  have kept : ∀ {j}, j ∉ i :: handling → j ∉ handling.drop (c.exec i).2 := fun h m =>
    h (mem_cons_of_mem _ (mem_of_mem_drop m))
  -- as long as the phase is live, a step that raises `syncReady` ends the time in question
  have unready : live phase = true → (shut = true → c.syncReady = false) →
      (shut && !(i = .storeSyncReady true && live phase)) = true → (c.exec i).1.syncReady = false := by
    intro alive low still
    rw [Bool.and_eq_true, alive, Bool.and_true, Bool.not_eq_true', decide_eq_false_iff_not] at still
    exact exec_syncReady (low still.1) still.2
  cases phase with
  | streaming => exact ⟨old.1.imp kept kept, unready rfl old.2⟩
  | fencing rest =>
    obtain ⟨lowers, down, before⟩ := old
    refine ⟨lowers, down.exec, fun more => ?_⟩
    cases rest with
    | nil => exact absurd rfl more
    | cons => exact unready rfl (before more)
  | joining => exact Down.exec old
  | leaving => cases old.2.1

/-- Every undisturbed step keeps the flags down. -/
lemma Closing.step {a : TeardownAction Byte} (old : Closing s.client s.handling s.shut s.phase)
    (quiet : Undisturbed s a) (st : s.step codec a = some s') :
    Closing s'.client s'.handling s'.shut s'.phase := by
  cases a with
  | connect =>
    simp only [Teardown.step] at st
    split at st
    · rename_i between
      cases st
      rw [between] at old
      obtain ⟨_, idle, _, low⟩ := old
      dsimp only
      rw [idle]
      exact ⟨.inl not_mem_nil, fun _ => low not_mem_nil⟩
    · cases st
  | redial =>
    simp only [Teardown.step] at st
    split at st
    · rename_i between
      cases st
      rw [between] at old
      obtain ⟨_, idle, down, low⟩ := old
      refine ⟨?_, idle, down, fun _ => low not_mem_nil⟩
      simp [EdgeClient.leaving, EdgeClient.Lowers]
    · cases st
  | take =>
    simp only [Teardown.step] at st
    split at st
    · rename_i r link idle
      split at st
      · cases st
      · split at st
        · rename_i streaming
          cases st
          dsimp only
          rw [streaming] at old ⊢
          exact ⟨program_tame, old.2⟩
        · rename_i rest fencing
          unfold Undisturbed at quiet
          rw [fencing] at quiet
          cases quiet
        · cases st
          exact old.same rfl rfl
        · cases st
    · cases st
  | exec =>
    simp only [Teardown.step] at st
    split at st
    · cases st
    · rename_i i rest handling
      cases st
      rw [handling] at old
      exact old.exec
  | fail | discardCache =>
    simp only [Teardown.step] at st
    split at st
    · cases st
      exact old.same rfl rfl
    · cases st
  | takeJob | reportJob =>
    simp only [Teardown.step] at st
    split at st
    · cases st
    · split at st
      · cases st
        exact old.same rfl rfl
      · cases st
  | runJob =>
    simp only [Teardown.step] at st
    split at st
    · cases st
    · split at st
      · cases st
        exact old.same runJob_flags.1 runJob_flags.2
      · cases st
  | tearDown =>
    simp only [Teardown.step] at st
    split at st
    · rename_i r streaming link
      cases st
      rw [streaming] at old
      refine ⟨?_, ?_, fun _ => old.2⟩
      · simp [EdgeClient.fencing, EdgeClient.Lowers]
      · -- nothing is stored yet
        refine old.1.imp (fun h => ⟨h, fun stored => absurd ?_ stored⟩) fun h => ⟨h, fun stored => absurd ?_ stored⟩
        · simp [EdgeClient.fencing]
        · simp [EdgeClient.fencing]
    · cases st
  | fence =>
    simp only [Teardown.step] at st
    split at st
    · rename_i i rest fencing
      cases st
      rw [fencing] at old
      obtain ⟨lowers, down, before⟩ := old
      obtain ⟨now, later⟩ := forall_mem_cons.mp lowers
      refine ⟨later, down.lower now, fun more still => ?_⟩
      have same : (s.shut || rest.isEmpty) = s.shut := by
        rw [isEmpty_eq_false_iff.mpr more, Bool.or_false]
      have low := before (cons_ne_nil i rest) (same.symm.trans still)
      refine exec_syncReady low ?_
      rintro rfl
      cases now
    · cases st
  | cancel =>
    simp only [Teardown.step] at st
    split at st
    · rename_i r fencing link
      cases st
      rw [fencing] at old
      exact old.2.1
    · cases st
  | join =>
    simp only [Teardown.step] at st
    split at st
    · rename_i r joining link idle
      split at st
      · cases st
      · split at st
        · cases st
        · cases st
          rw [joining, idle] at old
          refine ⟨?_, idle, old, fun stored => absurd ?_ stored⟩
          · simp [EdgeClient.leaving, EdgeClient.Lowers]
          · simp [EdgeClient.leaving]
    · cases st
  | leave =>
    simp only [Teardown.step] at st
    split at st
    · rename_i i rest leaving
      cases st
      rw [leaving] at old
      obtain ⟨lowers, idle, down, low⟩ := old
      obtain ⟨now, later⟩ := forall_mem_cons.mp lowers
      exact ⟨later, idle, down.mono.lower now, lower_syncReady low now⟩
    · cases st
  | readHealth =>
    cases st
    exact old
  | applyHealth =>
    simp only [Teardown.step] at st
    split at st
    · cases st
      exact old.same applyHealth_flags.1 applyHealth_flags.2
    · cases st
  | probe | localFault =>
    cases st
    exact old.same rfl rfl

/-- Losing the stream closes admission and keeps it closed: from the moment the deferred function has
stored its flags until an `identity_confirmed` with `sync_complete` of a later stream is processed, the
node is not online for new sessions. -/
theorem admission_stays_shut (reach : (machine codec).ReachableAlong Undisturbed s)
    (shut : s.shut = true) : s.client.edgeOnlineForNewSessions = false := by
  have closing : Closing s.client s.handling s.shut s.phase := by
    refine reach.inv (I := fun s => Closing s.client s.handling s.shut s.phase) ?_
      fun _ _ _ old quiet st => old.step quiet st
    rintro _ ⟨_, _, syncReady, between, idle, _⟩
    rw [between]
    exact ⟨nofun, idle, .inl ⟨not_mem_nil, fun _ => syncReady⟩, fun _ => syncReady⟩
  rw [shut] at closing
  exact closing.offline

/-- A stream whose first page has been applied. -/
def sampleApplied : List (TeardownAction IdentitySnapshot) :=
  [.connect 0, .take (.welcome ⟨0, 0⟩ false), .exec, .exec, .exec, .exec, .takeJob, .runJob 0 false, .reportJob,
    .take (.identityChunk ⟨0, 0⟩ 1 0 0 1 [{ baseline := true, baselineEnd := true, revision := 1 }]), .exec,
    .takeJob, .runJob 0 false, .reportJob]

/-- The confirmation is at hand when the stream is torn down: its last stores find `connected` down. -/
theorem admission_stays_shut_confirmed : ∃ s : Teardown IdentitySnapshot,
    (machine sampleCodec).ReachableAlong Undisturbed s ∧ s.shut = true ∧ s.client.syncReady = true ∧
      s.client.edgeOnlineForNewSessions = false := by
  let acts : List (TeardownAction IdentitySnapshot) := sampleApplied ++
    [.take (.identityConfirmed ⟨0, 0⟩ 1 true), .tearDown, .fence, .fence, .fence, .exec, .exec, .exec, .exec,
      .exec]
  obtain ⟨s, run, shut, ready⟩ : ∃ s, (machine sampleCodec).run {} acts = some s ∧ s.shut = true ∧
      s.client.syncReady = true := ⟨_, rfl, rfl, rfl⟩
  have reach : (machine sampleCodec).ReachableAlong Undisturbed s :=
    ⟨{}, acts, ⟨rfl, rfl, rfl, rfl, rfl, rfl, rfl⟩, .of_along rfl, run⟩
  exact ⟨s, reach, shut, ready, admission_stays_shut reach shut⟩

/-- A heartbeat and the confirmation that arrive between the last store and the cancellation open
admission again. -/
theorem admission_reopened_by_teardown : ∃ s : Teardown IdentitySnapshot,
    (machine sampleCodec).Reachable s ∧ s.shut = true ∧ s.client.edgeOnlineForNewSessions = true := by
  refine ⟨_, ⟨{}, sampleApplied ++
    [.tearDown, .fence, .fence, .fence, .take (.heartbeatAck false), .exec, .exec,
      .take (.identityConfirmed ⟨0, 0⟩ 1 true), .exec, .exec, .exec, .exec, .exec],
    ⟨rfl, rfl, rfl, rfl, rfl, rfl, rfl⟩, rfl⟩, rfl, rfl⟩

end Teardown

end MeowFrp.Cluster
