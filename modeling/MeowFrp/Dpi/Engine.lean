import Mathlib.Algebra.Ring.Nat
import MeowFrp.Dpi.Parsers
import MeowFrp.Lib.Table

/-!
# The inspection engine

Model of Go `CompositeEngine` (`internal/dpiengine/composite.go`). The engine keeps a state for every flow: the
bytes of a TLS record that is not complete, how many bytes were inspected, and what the search for encrypted
tunnels has counted. A state is dropped only by `cleanupLocked`, which runs when a sample of a flow without a
state finds `maxFlowStates` states; a flow that goes on after a pause goes on with its old state.

Times are nanoseconds, and 0 is the zero time. The ratios that the source compares as floating-point numbers are
compared exactly; both agree, since the numbers of bytes are far too small for a ratio to round to a bound that
it does not equal.
-/

namespace MeowFrp.Dpi.Engine

open Lib Table List

def maxInspectBytes : Nat := 8192

def maxFlowStates : Nat := 8192

def flowStateTTL : Nat := 3 * 60 * 1000000000

/-- Go `flowState`. -/
structure FlowState where
  tlsBuffer : Bytes := []
  inspectedBytes : Nat := 0
  ssPackets : Nat := 0
  ssDetected : Bool := false
  lastSeen : Nat := 0
  deriving DecidableEq, Repr

inductive Direction where
  | inbound
  | outbound
  deriving DecidableEq, Repr

def Direction.toString : Direction → String
  | .inbound => "inbound"
  | .outbound => "outbound"

/-- Go `TrafficSample`. -/
structure TrafficSample where
  flow : FlowContext
  direction : Direction
  payload : Bytes
  observedAt : Nat
  deriving DecidableEq, Repr

/-- Go `flowKey`. -/
def flowKey (flow : FlowContext) (direction : Direction) : String :=
  "|".intercalate [flow.leaseId, flow.proxyName, flow.proxyType, flow.remoteAddr, direction.toString]

/-! ## Heuristics

The positions that these functions read lie below the lengths that they check first. -/

/-- Go `IsQUICInitial`. -/
def isQUICInitial (data : Bytes) : Bool :=
  let first := data.getD 0 0
  20 ≤ data.length && first &&& 0x80 ≠ 0 && first &&& 0x40 ≠ 0 && (first &&& 0x30) >>> 4 = 0 &&
    (data.drop 1).take 4 = [0, 0, 0, 1]

/-- Go `looksLikeTLS`. -/
def looksLikeTLS (data : Bytes) : Bool :=
  3 ≤ data.length && 0x14 ≤ data.getD 0 0 && data.getD 0 0 ≤ 0x17 && data.getD 1 0 = 0x03 && data.getD 2 0 ≤ 0x04

/-- Go `isKnownProtocol`. -/
def isKnownProtocol (data : Bytes) : Bool :=
  5 ≤ data.length &&
    ((text "SSH-").isPrefixOf data || (data.getD 0 0 = 0x03 && data.getD 1 0 = 0x00) ||
      [0x4a, 0x00, 0x00, 0x00, 0x0a].isPrefixOf data ||
      (8 ≤ data.length && data.getD 0 0 = 0x12 && data.getD 1 0 = 0x01) ||
      (8 ≤ data.length && data.getD 0 0 = 0x00 && data.getD 4 0 = 0x00))

/-- Go `bitsInByte`. -/
def bitsInByte (b : UInt8) : Nat := (List.range 8).countP b.toNat.testBit

/-- The average number of bits of Go `calcAvgPopcount` is from 3.4 to 4.6. -/
def averageBits (data : Bytes) : Bool :=
  let total := (data.map bitsInByte).sum
  34 * data.length ≤ 10 * total && 10 * total ≤ 46 * data.length

/-- At most 35 of 100 bytes are printable (Go `calcPrintableRatio`). -/
def fewPrintable (data : Bytes) : Bool :=
  100 * data.countP (fun b => 0x20 ≤ b && b ≤ 0x7e) ≤ 35 * data.length

/-- Go `isUniformDistribution`. -/
def isUniformDistribution (data : Bytes) : Bool :=
  let unique := (List.range 256).countP fun v => data.any fun b => b.toNat = v
  20 ≤ data.length && 15 ≤ unique && 3 * data.length < 10 * unique

/-- Go `hasProtocolStructure`; the sums of bytes wrap around. -/
def hasProtocolStructure (data : Bytes) : Bool :=
  let b := fun i => data.getD i 0
  4 ≤ data.length &&
    (2 ≤ [1, 2, 3].countP (fun i => b i = b 0) || (b 1 = b 0 + 1 && b 2 = b 1 + 1))

/-- Go `isLikelyEncryptedTunnel`. -/
def isLikelyEncryptedTunnel (data : Bytes) : Bool :=
  averageBits data && fewPrintable data && isUniformDistribution data && data.getD 0 0 ≠ 0x00 &&
    !hasProtocolStructure data && !isKnownProtocol data

/-- Go `detectEncryptedTunnel`. -/
def detectEncryptedTunnel (state : FlowState) (data : Bytes) : FlowState × Bool :=
  if state.ssDetected || data.length < 20 then (state, false)
  else
    let state := { state with ssPackets := state.ssPackets + 1 }
    if 3 < state.ssPackets then (state, false)
    else if looksLikeTLS data || looksLikeHTTP data || isQUICInitial data || isKnownProtocol data then (state, false)
    else if isLikelyEncryptedTunnel data then ({ state with ssDetected := true }, true)
    else (state, false)

/-! ## Inspection -/

/-- Go `feedTLSClientHello`: the new buffer of a flow and the server name. -/
def feedBuffer (buffer data : Bytes) : Except Fault (Bytes × Bytes) := do
  if data.isEmpty then
    return (buffer, [])
  if buffer.isEmpty then
    if (← index data 0) ≠ 0x16 then
      return (buffer, [])
  if maxInspectBytes < buffer.length + data.length then
    return ([], [])
  let buffer := buffer ++ data
  let sni ← parseTLSClientHelloSNI buffer
  if sni ≠ [] then
    return ([], sni)
  return (buffer, [])

/-- Go `feedTLSClientHello`. -/
def feedTLSClientHello (state : FlowState) (data : Bytes) : Except Fault (FlowState × Bytes) := do
  let (tlsBuffer, sni) ← feedBuffer state.tlsBuffer data
  return ({ state with tlsBuffer }, sni)

/-- The findings of a payload in the order of the source. -/
def report (payload host sni : Bytes) (tunnel : Bool) : List Finding :=
  let http : Finding := { detector := "http", protocol := "HTTP", host, summary := "http host detected" }
  let tls : Finding := { detector := "tls", protocol := "TLS", sni, summary := "tls sni detected" }
  let quic : Finding := { detector := "quic", protocol := "QUIC", summary := "quic initial detected" }
  let ss : Finding :=
    { detector := "encrypted_tunnel", protocol := "SS", confidence := 72,
      summary := "encrypted tunnel heuristic matched" }
  (if host ≠ [] then [http] else []) ++ (if sni ≠ [] then [tls] else []) ++
    (if isQUICInitial payload then [quic] else []) ++ if tunnel then [ss] else []

/-- Go `inspectLocked`. -/
def inspectLocked (state : FlowState) (payload : Bytes) : Except Fault (FlowState × List Finding) := do
  let host ← parseHTTPHost payload
  let (state, sni) ← feedTLSClientHello state payload
  let (state, tunnel) := detectEncryptedTunnel state payload
  return (state, report payload host sni tunnel)

/-- An entry of the map of states. -/
structure Entry where
  key : String
  state : FlowState
  deriving DecidableEq, Repr

instance : Schema Entry where
  clash a b := a.key = b.key
  symm := Eq.symm
  dec _ _ := inferInstanceAs (Decidable (_ = _))

/-- Go `CompositeEngine`. -/
structure CompositeEngine where
  states : Table Entry := ∅

/-- A sample, and what the clock shows when it is inspected. -/
structure Arrival where
  sample : TrafficSample
  clock : Nat
  deriving DecidableEq, Repr

/-- The time of a sample. -/
def Arrival.now (x : Arrival) : Nat := if x.sample.observedAt = 0 then x.clock else x.sample.observedAt

def Arrival.key (x : Arrival) : String := flowKey x.sample.flow x.sample.direction

/-- What Go `Inspect` does with the state of the flow. -/
def Arrival.inspectState (x : Arrival) (state : FlowState) : Except Fault (FlowState × List Finding) :=
  let state := { state with lastSeen := x.now }
  if maxInspectBytes ≤ state.inspectedBytes then .ok (state, [])
  else
    inspectLocked { state with inspectedBytes := state.inspectedBytes + x.sample.payload.length } x.sample.payload

namespace CompositeEngine

/-- The state of a flow. -/
def get (e : CompositeEngine) (key : String) : Option FlowState := (e.states.find? (·.key = key)).map (·.state)

def set (e : CompositeEngine) (key : String) (state : FlowState) : CompositeEngine := ⟨e.states.put { key, state }⟩

/-- Go `cleanupLocked`. -/
def cleanupLocked (e : CompositeEngine) (now : Nat) : CompositeEngine :=
  ⟨e.states.delete fun entry => flowStateTTL < now - entry.state.lastSeen⟩

/-- The state that `Inspect` finds or creates, and its engine. -/
def locate (e : CompositeEngine) (key : String) (now : Nat) : CompositeEngine × FlowState :=
  match e.get key with
  | some state => (e, state)
  | none => (if maxFlowStates ≤ e.states.rows.length then e.cleanupLocked now else e, {})

/-- Go `Inspect`. -/
def inspect (e : CompositeEngine) (x : Arrival) : Except Fault (CompositeEngine × List Finding) :=
  if x.sample.payload.isEmpty then .ok (e, [])
  else do
    let (e, state) := e.locate x.key x.now
    let (state, findings) ← x.inspectState state
    return (e.set x.key state, findings)

/-- What a sample is answered with. -/
def findings (e : CompositeEngine) (x : Arrival) : Except Fault (List Finding) := (e.inspect x).map (·.2)

/-- The engine after a history of samples. -/
def feed (e : CompositeEngine) : List Arrival → Except Fault CompositeEngine
  | [] => .ok e
  | x :: xs => do
    let (e, _) ← e.inspect x
    e.feed xs

end CompositeEngine

/-! ## What the findings depend on -/

variable {a b state state' : FlowState} {data : Bytes} {fs : List Finding} {e e' : CompositeEngine} {x : Arrival}
  {key : String}

/-- A state that has no influence on the findings of a payload. -/
structure Harmless (state : FlowState) (payload : Bytes) : Prop where
  budget : state.inspectedBytes < maxInspectBytes
  buffer : state.tlsBuffer = []
  tunnel : payload.length < 20 ∨ state.ssDetected = false ∧ state.ssPackets < 3

/-- A short payload, or one of the first three of a flow, is judged by itself. -/
lemma detectEncryptedTunnel_snd (tunnel : data.length < 20 ∨ state.ssDetected = false ∧ state.ssPackets < 3) :
    (detectEncryptedTunnel state data).2 =
      (!decide (data.length < 20) &&
        !(looksLikeTLS data || looksLikeHTTP data || isQUICInitial data || isKnownProtocol data) &&
        isLikelyEncryptedTunnel data) := by
  unfold detectEncryptedTunnel
  obtain short | ⟨detected, _⟩ := tunnel
  · simp [short]
  · rw [detected, Bool.false_or]
    cases decide (data.length < 20) with
    | true => rfl
    | false =>
      have few : ¬3 < state.ssPackets + 1 := by omega
      simp only [Bool.false_eq_true, if_false, few]
      cases looksLikeTLS data || looksLikeHTTP data || isQUICInitial data || isKnownProtocol data with
      | true => rfl
      | false =>
        cases isLikelyEncryptedTunnel data with
        | true | false => rfl

/-- The search for tunnels only counts. -/
lemma detectEncryptedTunnel_fst : ∃ ssPackets ssDetected,
    (detectEncryptedTunnel state data).1 = { state with ssPackets, ssDetected } := by
  unfold detectEncryptedTunnel
  split
  · exact ⟨_, _, rfl⟩
  · dsimp only
    split
    · exact ⟨_, _, rfl⟩
    · split
      · exact ⟨_, _, rfl⟩
      · split
        · exact ⟨_, _, rfl⟩
        · exact ⟨_, _, rfl⟩

/-- States with the same buffer that do not influence the search give the same findings. -/
lemma inspectLocked_findings (same : a.tlsBuffer = b.tlsBuffer)
    (tunnel : data.length < 20 ∨ a.ssDetected = false ∧ a.ssPackets < 3)
    (tunnel' : data.length < 20 ∨ b.ssDetected = false ∧ b.ssPackets < 3) :
    (inspectLocked a data).map (·.2) = (inspectLocked b data).map (·.2) := by
  unfold inspectLocked feedTLSClientHello
  rw [same]
  cases parseHTTPHost data with
  | error => rfl
  | ok host =>
    cases feedBuffer b.tlsBuffer data with
    | error => rfl
    | ok fed =>
      have detected : (detectEncryptedTunnel { a with tlsBuffer := fed.1 } data).2 =
          (detectEncryptedTunnel { b with tlsBuffer := fed.1 } data).2 :=
        by rw [detectEncryptedTunnel_snd (by exact tunnel), detectEncryptedTunnel_snd (by exact tunnel')]
      exact congrArg (fun tunnel => Except.ok (report data host fed.2 tunnel)) detected

/-- What an inspection has found, and what it may change. -/
lemma inspectLocked_ok (e : inspectLocked state data = .ok (state', fs)) :
    ∃ host tlsBuffer sni ssPackets ssDetected tunnel, parseHTTPHost data = .ok host ∧
      feedBuffer state.tlsBuffer data = .ok (tlsBuffer, sni) ∧
      state' = { state with tlsBuffer, ssPackets, ssDetected } ∧ fs = report data host sni tunnel := by
  unfold inspectLocked feedTLSClientHello at e
  obtain ⟨host, parsed, e⟩ := bind_ok.mp e
  obtain ⟨_, fed, e⟩ := bind_ok.mp e
  obtain ⟨⟨tlsBuffer, sni⟩, buffered, rest⟩ := bind_ok.mp fed
  cases rest
  obtain ⟨ssPackets, ssDetected, counted⟩ :
      ∃ ssPackets ssDetected, (detectEncryptedTunnel { state with tlsBuffer } data).1 = _ :=
    detectEncryptedTunnel_fst
  cases e
  exact ⟨host, tlsBuffer, sni, ssPackets, ssDetected, _, parsed, buffered, counted, rfl⟩

lemma inspectState_lastSeen (e : x.inspectState state = .ok (state', fs)) : state'.lastSeen = x.now := by
  unfold Arrival.inspectState at e
  dsimp only at e
  split at e
  · cases e
    rfl
  · obtain ⟨_, _, _, _, _, _, _, _, rfl, _⟩ := inspectLocked_ok e
    rfl

lemma inspectState_findings (harmless : Harmless state x.sample.payload) :
    (x.inspectState state).map (·.2) = (x.inspectState {}).map (·.2) := by
  unfold Arrival.inspectState
  dsimp only
  rw [if_neg (Nat.not_le.mpr harmless.budget), if_neg (by decide)]
  exact inspectLocked_findings harmless.buffer harmless.tunnel (.inr ⟨rfl, Nat.zero_lt_succ _⟩)

namespace CompositeEngine

lemma findings_eq : e.findings x = if x.sample.payload.isEmpty then .ok []
    else (x.inspectState (e.locate x.key x.now).2).map (·.2) := by
  unfold findings inspect
  split
  · rfl
  · dsimp only
    cases x.inspectState (e.locate x.key x.now).2 with
    | error | ok => rfl

/-- The findings of a sample with a harmless state are those of a new engine. -/
lemma findings_of_harmless (harmless : ∀ state, e.get x.key = some state → Harmless state x.sample.payload) :
    e.findings x = findings {} x := by
  have fresh : (locate {} x.key x.now).2 = {} := rfl
  rw [findings_eq, findings_eq, fresh]
  unfold locate
  cases found : e.get x.key with
  | none => rfl
  | some state => rw [inspectState_findings (harmless state found)]

/-! ## The map of states -/

lemma get_eq_some : e.get key = some state ↔ ⟨key, state⟩ ∈ e.states := by
  have clash : ∀ a b : Entry, decide (a.key = key) = true → decide (b.key = key) = true → Schema.clash a b := by
    intro a b ka kb
    rw [decide_eq_true_eq] at ka kb
    exact ka.trans kb.symm
  unfold get
  rw [Option.map_eq_some_iff]
  constructor
  · rintro ⟨⟨_, _⟩, found, rfl⟩
    obtain ⟨mem, is⟩ := (find?_eq_some clash).mp found
    rw [decide_eq_true_eq] at is
    cases is
    exact mem
  · intro mem
    exact ⟨_, (find?_eq_some clash).mpr ⟨mem, decide_eq_true rfl⟩, rfl⟩

lemma get_set_self : (e.set key state).get key = some state := get_eq_some.mpr (mem_put.mpr (.inr rfl))

lemma get_set_of_ne {other : String} (ne : other ≠ key) : (e.set key state).get other = e.get other := by
  ext state'
  rw [get_eq_some, get_eq_some]
  change _ ∈ e.states.put _ ↔ _
  rw [mem_put]
  constructor
  · rintro (⟨mem, _⟩ | is)
    · exact mem
    · cases is
      exact absurd rfl ne
  · exact fun mem => .inl ⟨mem, ne⟩

/-- A cleanup drops the states that have expired, and no others. -/
lemma get_cleanupLocked {now : Nat} : (e.cleanupLocked now).get key = some state ↔
    e.get key = some state ∧ ¬flowStateTTL < now - state.lastSeen := by
  rw [get_eq_some, get_eq_some]
  change _ ∈ e.states.delete _ ↔ _
  rw [mem_delete, decide_eq_false_iff_not]

lemma get_locate {now : Nat} {other : String} (found : (e.locate key now).1.get other = some state) :
    e.get other = some state := by
  unfold locate at found
  split at found
  · exact found
  · dsimp only at found
    split at found
    · exact (get_cleanupLocked.mp found).1
    · exact found

/-! ## Histories -/

/-- A sample stores a state of its own flow, with its own time. -/
lemma inspect_ok (done : e.inspect x = .ok (e', fs)) : (x.sample.payload = [] ∧ e' = e) ∨
    ∃ state, state.lastSeen = x.now ∧ e' = (e.locate x.key x.now).1.set x.key state := by
  unfold inspect at done
  split at done
  · rename_i empty
    cases done
    exact .inl ⟨isEmpty_iff.mp empty, rfl⟩
  · dsimp only at done
    cases inspected : x.inspectState (e.locate x.key x.now).2 with
    | error =>
      rw [inspected] at done
      cases done
    | ok r =>
      rw [inspected] at done
      cases done
      exact .inr ⟨r.1, inspectState_lastSeen inspected, rfl⟩

/-- Other flows keep their states or lose them. -/
lemma get_inspect (done : e.inspect x = .ok (e', fs)) (ne : key ≠ x.key) (found : e'.get key = some state) :
    e.get key = some state := by
  obtain ⟨_, rfl⟩ | ⟨_, _, rfl⟩ := inspect_ok done
  · exact found
  · rw [get_set_of_ne ne] at found
    exact get_locate found

lemma feed_cons {xs : List Arrival} (run : e.feed (x :: xs) = .ok e') :
    ∃ e₁ fs, e.inspect x = .ok (e₁, fs) ∧ e₁.feed xs = .ok e' := by
  unfold feed at run
  cases done : e.inspect x with
  | error =>
    rw [done] at run
    cases run
  | ok r =>
    rw [done] at run
    exact ⟨r.1, r.2, rfl, run⟩

lemma feed_append {xs ys : List Arrival} (run : e.feed (xs ++ ys) = .ok e') :
    ∃ e₁, e.feed xs = .ok e₁ ∧ e₁.feed ys = .ok e' := by
  induction xs generalizing e with
  | nil => exact ⟨e, rfl, run⟩
  | cons _ _ ih =>
    obtain ⟨_, _, done, run⟩ := feed_cons run
    obtain ⟨e₂, run₁, run₂⟩ := ih run
    refine ⟨e₂, ?_, run₂⟩
    rw [feed, done]
    exact run₁

/-- A flow of which no sample arrives keeps its state or loses it. -/
lemma get_feed {xs : List Arrival} (run : e.feed xs = .ok e') (others : ∀ x ∈ xs, key ≠ x.key)
    (found : e'.get key = some state) : e.get key = some state := by
  induction xs generalizing e with
  | nil =>
    cases run
    exact found
  | cons _ _ ih =>
    obtain ⟨_, _, done, run⟩ := feed_cons run
    obtain ⟨here, rest⟩ := forall_mem_cons.mp others
    exact get_inspect done here (ih run rest)

/-- No state is newer than the samples. -/
lemma lastSeen_feed {xs : List Arrival} {t : Nat} (run : e.feed xs = .ok e') (times : ∀ x ∈ xs, x.now ≤ t)
    (seen : ∀ key state, e.get key = some state → state.lastSeen ≤ t) (found : e'.get key = some state) :
    state.lastSeen ≤ t := by
  induction xs generalizing e with
  | nil =>
    cases run
    exact seen key state found
  | cons x _ ih =>
    obtain ⟨_, _, done, run⟩ := feed_cons run
    obtain ⟨here, rest⟩ := forall_mem_cons.mp times
    refine ih run rest fun other state found => ?_
    by_cases own : other = x.key
    · subst own
      obtain ⟨_, rfl⟩ | ⟨_, lastSeen, rfl⟩ := inspect_ok done
      · exact seen _ _ found
      · cases get_set_self.symm.trans found
        exact lastSeen ▸ here
    · exact seen other state (get_inspect done own found)

/-- A sample that finds the map full drops the other states that have expired. -/
lemma get_inspect_full (done : e.inspect x = .ok (e', fs)) (payload : x.sample.payload ≠ [])
    (new : e.get x.key = none) (full : maxFlowStates ≤ e.states.rows.length) (ne : key ≠ x.key)
    (found : e'.get key = some state) : ¬flowStateTTL < x.now - state.lastSeen := by
  obtain ⟨empty, _⟩ | ⟨_, _, rfl⟩ := inspect_ok done
  · exact absurd empty payload
  · rw [get_set_of_ne ne, locate, new] at found
    dsimp only at found
    rw [if_pos full] at found
    exact (get_cleanupLocked.mp found).2

/-- Later than the lifetime of a state after `t`, a new flow found the map full. -/
def Cleaned (e : CompositeEngine) (t : Nat) (xs : List Arrival) : Prop :=
  ∃ before x after e₁, xs = before ++ x :: after ∧ e.feed before = .ok e₁ ∧ t + flowStateTTL < x.now ∧
    x.sample.payload ≠ [] ∧ e₁.get x.key = none ∧ maxFlowStates ≤ e₁.states.rows.length

/-- Then a flow without samples since `t` has no state any more. -/
lemma Cleaned.get {t : Nat} {xs : List Arrival} (cleaned : Cleaned e t xs) (run : e.feed xs = .ok e')
    (others : ∀ x ∈ xs, key ≠ x.key) (seen : ∀ state, e.get key = some state → state.lastSeen ≤ t) :
    e'.get key = none := by
  obtain ⟨_, x, _, _, rfl, run₁, expired, payload, new, full⟩ := cleaned
  obtain ⟨_, run₁', run⟩ := feed_append run
  cases run₁.symm.trans run₁'
  obtain ⟨_, _, done, run₂⟩ := feed_cons run
  rw [forall_mem_append, forall_mem_cons] at others
  obtain ⟨others₁, here, others₂⟩ := others
  cases found : e'.get key with
  | none => rfl
  | some state =>
    have kept := get_feed run₂ others₂ found
    have old := seen state (get_feed run₁ others₁ (get_inspect done here kept))
    have young := get_inspect_full done payload new full here kept
    omega

/-- Let no sample of a flow arrive between `previous` and `x`. Then `x` gets the findings that a new engine gives it,
if in between, when the state of the flow had expired, a sample of a flow without a state found the map full, or
if the state of the flow is a harmless one. -/
theorem expired_state_has_no_effect {before between : List Arrival} {previous : Arrival}
    (run : feed {} (before ++ [previous]) = .ok e) (run' : e.feed between = .ok e')
    (ordered : (before ++ previous :: (between ++ [x])).Pairwise fun y z => y.now ≤ z.now)
    (others : ∀ y ∈ between, x.key ≠ y.key)
    (cond : Cleaned e previous.now between ∨
      ∀ state, e'.get x.key = some state → Harmless state x.sample.payload) :
    e'.findings x = findings {} x := by
  refine findings_of_harmless fun state found => ?_
  obtain cleaned | harmless := cond
  · have times : ∀ y ∈ before ++ [previous], y.now ≤ previous.now := by
      intro y mem
      obtain mem | mem := mem_append.mp mem
      · exact (pairwise_append.mp ordered).2.2 y mem previous mem_cons_self
      · cases mem_singleton.mp mem
        exact Nat.le_refl _
    have gone := cleaned.get run' others fun state found => lastSeen_feed run times nofun found
    cases gone.symm.trans found
  · exact harmless state found

/-- A sample of one flow, at a second. -/
def sampleArrival (payload : Bytes) (second : Nat) : Arrival where
  sample := {
    flow := { leaseId := "lease", proxyName := "web", proxyType := "tcp", remoteAddr := "192.0.2.1:5000" }
    direction := .inbound
    payload
    observedAt := second * 1000000000 }
  clock := 0

/-- A ClientHello for `a.b` in one record. -/
def sampleHello : Bytes :=
  [0x16, 0x03, 0x01, 0x00, 0x3b, 0x01, 0x00, 0x00, 0x37, 0x03, 0x03] ++ List.replicate 32 0x00 ++
    [0x00, 0x00, 0x02, 0x13, 0x01, 0x01, 0x00, 0x00, 0x0c] ++
    [0x00, 0x00, 0x00, 0x08, 0x00, 0x06, 0x00, 0x00, 0x03] ++ text "a.b"

/-- What a new engine finds in it. -/
def sampleFinding : Finding where
  detector := "tls"
  protocol := "TLS"
  sni := text "a.b"
  summary := "tls sni detected"

/-- Bytes that leave nothing behind but their number. -/
theorem expired_state_has_no_effect_text : ∃ e, feed {} [sampleArrival (text "hello") 1] = .ok e ∧
    e.findings (sampleArrival sampleHello 1000) = .ok [sampleFinding] := by
  obtain ⟨e, run, state, found, harmless⟩ : ∃ e, feed {} [sampleArrival (text "hello") 1] = .ok e ∧
      ∃ state, e.get (sampleArrival sampleHello 1000).key = some state ∧ Harmless state sampleHello :=
    ⟨_, rfl, _, rfl, by decide, rfl, .inr ⟨rfl, by decide⟩⟩
  refine ⟨e, run, ?_⟩
  have fresh : findings {} (sampleArrival sampleHello 1000) = .ok [sampleFinding] := rfl
  have ordered : ([] ++ sampleArrival (text "hello") 1 :: ([] ++ [sampleArrival sampleHello 1000])).Pairwise
      fun y z : Arrival => y.now ≤ z.now := by decide
  rw [← fresh]
  refine expired_state_has_no_effect run (show e.feed [] = .ok e from rfl) ordered nofun
    (.inr fun state' found' => ?_)
  cases found.symm.trans found'
  exact harmless

/-- A single byte 0x16 is kept in the buffer of the flow. A ClientHello that arrives 999 seconds later is read
together with it, as the start of a longer record, and its server name is not found. -/
theorem expired_state_hides_server_name : ∃ e, feed {} [sampleArrival [0x16] 1] = .ok e ∧
    (sampleArrival [0x16] 1).key = (sampleArrival sampleHello 1000).key ∧
    (sampleArrival [0x16] 1).now + flowStateTTL < (sampleArrival sampleHello 1000).now ∧
    e.findings (sampleArrival sampleHello 1000) = .ok [] ∧
    findings {} (sampleArrival sampleHello 1000) = .ok [sampleFinding] :=
  ⟨_, rfl, rfl, by decide, rfl, rfl⟩

end CompositeEngine

end MeowFrp.Dpi.Engine
