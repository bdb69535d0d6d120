import MeowFrp.Dpi.Bounds
import MeowFrp.Dpi.Engine

/-!
# The memory of the engine

No sample fails, and no history makes a flow buffer more than `maxInspectBytes` bytes. The number of flow states
is another matter: `cleanupLocked` drops the expired states only, and a state is added after it whether it has
dropped one or not.
-/

namespace MeowFrp.Dpi.Engine

open Lib Table List

variable {state : FlowState} {buffer data : Bytes} {x : Arrival}

/-! ## Buffers -/

/-- A payload is judged with the buffer, or dropped. -/
lemma feedBuffer_eq (nonempty : data ≠ []) : feedBuffer buffer data =
    if buffer = [] ∧ data.head? ≠ some 0x16 then .ok (buffer, [])
    else if maxInspectBytes < buffer.length + data.length then .ok ([], [])
    else parseTLSClientHelloSNI (buffer ++ data) >>= fun sni =>
      if sni ≠ [] then .ok ([], sni) else .ok (buffer ++ data, []) := by
  obtain ⟨b, rest, rfl⟩ := exists_cons_of_ne_nil nonempty
  unfold feedBuffer
  have first : index (b :: rest) 0 = .ok b := rfl
  cases buffer with
  | nil =>
    by_cases handshake : b = 0x16
    · subst handshake
      simp [first]
    · simp [handshake, first]
  | cons => simp

/-- The buffer stays within its limit. -/
lemma feedBuffer_returns : Returns (feedBuffer buffer data) fun r =>
    buffer.length ≤ maxInspectBytes → r.1.length ≤ maxInspectBytes := by
  by_cases empty : data = []
  · rw [empty]
    exact .ok id
  · rw [feedBuffer_eq empty]
    refine .ite (fun _ => .ok id) fun _ => .ite (fun _ => .ok fun _ => Nat.zero_le _) fun fits => ?_
    refine parseTLSClientHelloSNI_returns.bind fun sni _ => ?_
    refine .ite (fun _ => .ok fun _ => Nat.zero_le _) fun _ => .ok fun _ => ?_
    rw [length_append]
    omega

lemma inspectLocked_returns : Returns (inspectLocked state data) fun r =>
    state.tlsBuffer.length ≤ maxInspectBytes → r.1.tlsBuffer.length ≤ maxInspectBytes := by
  obtain ⟨_, buffered, within⟩ : Returns (feedBuffer state.tlsBuffer data) _ := feedBuffer_returns
  obtain ⟨r, inspected, _⟩ : Returns (inspectLocked state data) fun _ => True := by
    unfold inspectLocked feedTLSClientHello
    refine parseHTTPHost_returns.bind fun host _ => ?_
    rw [buffered]
    exact .ok trivial
  refine ⟨r, inspected, fun short => ?_⟩
  obtain ⟨_, _, _, _, _, _, _, buffered', changed, _⟩ := inspectLocked_ok inspected
  cases buffered.symm.trans buffered'
  rw [changed]
  exact within short

lemma inspectState_returns : Returns (x.inspectState state) fun r =>
    state.tlsBuffer.length ≤ maxInspectBytes → r.1.tlsBuffer.length ≤ maxInspectBytes := by
  unfold Arrival.inspectState
  exact .ite (fun _ => .ok id) fun _ => inspectLocked_returns

namespace CompositeEngine

variable {e e' : CompositeEngine} {fs : List Finding} {xs : List Arrival}

/-- No flow buffers too much. -/
def Buffers (e : CompositeEngine) : Prop :=
  ∀ key state, e.get key = some state → state.tlsBuffer.length ≤ maxInspectBytes

lemma buffers_empty : Buffers {} := nofun

lemma Buffers.locate {key : String} {now : Nat} (buffers : e.Buffers) :
    (e.locate key now).2.tlsBuffer.length ≤ maxInspectBytes := by
  unfold CompositeEngine.locate
  split
  · rename_i found
    exact buffers _ _ found
  · exact Nat.zero_le _

/-- An inspection returns, with buffers in their limit. -/
lemma inspect_returns : Returns (e.inspect x) fun r => e.Buffers → r.1.Buffers := by
  unfold inspect
  refine .ite (fun _ => .ok id) fun _ => ?_
  refine inspectState_returns.bind fun r within => .ok fun buffers key state found => ?_
  by_cases own : key = x.key
  · rw [own] at found
    cases get_set_self.symm.trans found
    exact within buffers.locate
  · rw [get_set_of_ne own] at found
    exact buffers key state (get_locate found)

/-- So does a history of samples. -/
lemma feed_returns : Returns (e.feed xs) fun e' => e.Buffers → e'.Buffers := by
  induction xs generalizing e with
  | nil => exact .ok id
  | cons _ _ ih =>
    unfold feed
    refine inspect_returns.bind fun r kept => ?_
    exact ih.mono fun e' kept' buffers => kept' (kept buffers)

/-! ## The number of states -/

/-- A sample of a new flow that finds the map full also finds an expired state. -/
def HasRoom (e : CompositeEngine) (x : Arrival) : Prop :=
  x.sample.payload ≠ [] → e.get x.key = none → maxFlowStates ≤ e.states.rows.length →
    ∃ key state, e.get key = some state ∧ flowStateTTL < x.now - state.lastSeen

/-- Then there are no more states than allowed after it either. -/
lemma HasRoom.inspect (room : e.HasRoom x) (done : e.inspect x = .ok (e', fs))
    (few : e.states.rows.length ≤ maxFlowStates) : e'.states.rows.length ≤ maxFlowStates := by
  by_cases empty : x.sample.payload = []
  · rw [CompositeEngine.inspect, if_pos (isEmpty_iff.mpr empty)] at done
    cases done
    exact few
  · obtain ⟨_, rfl⟩ | ⟨_, _, rfl⟩ := inspect_ok done
    · exact few
    · unfold locate
      cases found : e.get x.key with
      | some => exact Nat.le_trans (length_put_of_clash (get_eq_some.mp found) rfl) few
      | none =>
        refine Nat.le_trans length_put_le ?_
        dsimp only
        split
        · rename_i full
          obtain ⟨_, _, found', expired⟩ := room empty found full
          have dropped : (e.cleanupLocked x.now).states.rows.length < e.states.rows.length :=
            length_delete_lt (get_eq_some.mp found') (decide_eq_true expired)
          omega
        · omega

/-- The number of states stays within its limit. -/
lemma length_feed (run : e.feed xs = .ok e') (few : e.states.rows.length ≤ maxFlowStates)
    (room : ∀ before x after e₁, xs = before ++ x :: after → e.feed before = .ok e₁ → e₁.HasRoom x) :
    e'.states.rows.length ≤ maxFlowStates := by
  induction xs generalizing e with
  | nil =>
    cases run
    exact few
  | cons x xs ih =>
    obtain ⟨_, _, done, run⟩ := feed_cons run
    refine ih run ((room [] x xs e rfl rfl).inspect done few) fun before y after e₂ split run' => ?_
    refine room (x :: before) y after e₂ (congrArg (x :: ·) split) ?_
    rw [feed, done]
    exact run'

/-- A sample adds at most one state. -/
lemma length_feed_le (run : e.feed xs = .ok e') : e'.states.rows.length ≤ e.states.rows.length + xs.length := by
  induction xs generalizing e with
  | nil =>
    cases run
    exact Nat.le_refl _
  | cons x _ ih =>
    obtain ⟨e₁, _, done, run⟩ := feed_cons run
    have located : (e.locate x.key x.now).1.states.rows.length ≤ e.states.rows.length := by
      unfold locate
      split
      · exact Nat.le_refl _
      · dsimp only
        split
        · exact length_filter_le _ _
        · exact Nat.le_refl _
    have one : e₁.states.rows.length ≤ e.states.rows.length + 1 := by
      obtain ⟨_, rfl⟩ | ⟨_, _, rfl⟩ := inspect_ok done
      · exact Nat.le_succ _
      · exact Nat.le_trans length_put_le (Nat.succ_le_succ located)
    have rest := ih run
    rw [length_cons]
    omega

/-! ## Samples at one time -/

/-- All states were last seen at one time. -/
def SeenAt (e : CompositeEngine) (t : Nat) : Prop := ∀ key state, e.get key = some state → state.lastSeen = t

/-- A sample at that time drops no state. -/
lemma SeenAt.inspect {t : Nat} (seen : e.SeenAt t) (now : x.now = t) (payload : x.sample.payload ≠ [])
    (done : e.inspect x = .ok (e', fs)) :
    e'.SeenAt t ∧ ∀ key, (e.get key).isSome ∨ key = x.key → (e'.get key).isSome := by
  obtain ⟨empty, _⟩ | ⟨state, lastSeen, rfl⟩ := inspect_ok done
  · exact absurd empty payload
  · refine ⟨fun key old found => ?_, fun key had => ?_⟩
    · by_cases own : key = x.key
      · rw [own] at found
        cases get_set_self.symm.trans found
        exact lastSeen.trans now
      · rw [get_set_of_ne own] at found
        exact seen key old (get_locate found)
    · by_cases own : key = x.key
      · rw [own, get_set_self]
        rfl
      · obtain ⟨old, found⟩ := Option.isSome_iff_exists.mp (had.resolve_right own)
        have young : ¬flowStateTTL < x.now - old.lastSeen := by
          rw [seen key old found, now, Nat.sub_self]
          exact Nat.not_lt_zero _
        have kept : (e.locate x.key x.now).1.get key = some old := by
          unfold locate
          split
          · exact found
          · dsimp only
            split
            · exact get_cleanupLocked.mpr ⟨found, young⟩
            · exact found
        rw [get_set_of_ne own, kept]
        rfl

/-- So every flow of which a sample arrived has a state. -/
lemma SeenAt.feed {t : Nat} (seen : e.SeenAt t) (now : ∀ x ∈ xs, x.now = t)
    (payload : ∀ x ∈ xs, x.sample.payload ≠ []) (run : e.feed xs = .ok e') {key : String}
    (had : (e.get key).isSome ∨ key ∈ xs.map Arrival.key) : (e'.get key).isSome := by
  induction xs generalizing e with
  | nil =>
    cases run
    exact had.resolve_right not_mem_nil
  | cons _ _ ih =>
    obtain ⟨_, _, done, run⟩ := feed_cons run
    obtain ⟨now, nows⟩ := forall_mem_cons.mp now
    obtain ⟨payload, payloads⟩ := forall_mem_cons.mp payload
    obtain ⟨seen₁, kept⟩ := seen.inspect now payload done
    refine ih seen₁ nows payloads run ?_
    rw [map_cons, mem_cons] at had
    obtain had | rfl | later := had
    · exact .inl (kept key (.inl had))
    · exact .inl (kept _ (.inr rfl))
    · exact .inr later

/-- A sample of the `i`-th flow at a time. -/
def ofFlow (i t : Nat) : Arrival where
  sample := {
    flow := { leaseId := String.ofList (List.replicate i 'a'), proxyName := "web", proxyType := "tcp",
              remoteAddr := "192.0.2.1:5000" }
    direction := .inbound
    payload := [0]
    observedAt := t }
  clock := 0

/-- One sample each of `n` flows, all at one time. -/
def flood (n : Nat) : List Arrival := (List.range n).map (ofFlow · 1)

/-- Samples of different flows have different keys. -/
lemma ofFlow_key {i j t t' : Nat} (same : (ofFlow i t).key = (ofFlow j t').key) : i = j := by
  have lengths := congrArg String.length same
  simpa [ofFlow, Arrival.key, flowKey] using lengths

/-- What the samples of a flood have in common. -/
lemma mem_flood {n : Nat} (mem : x ∈ flood n) :
    x.now = 1 ∧ x.sample.payload ≠ [] ∧ ∃ i < n, x = ofFlow i 1 := by
  obtain ⟨i, below, rfl⟩ := mem_map.mp mem
  exact ⟨rfl, cons_ne_nil _ _, i, mem_range.mp below, rfl⟩

lemma length_flood (n : Nat) : (flood n).length = n := by simp [flood]

/-- After a flood there is a state for each of its flows. -/
lemma length_of_flood {n : Nat} (run : feed {} (flood n) = .ok e) : n ≤ e.states.rows.length := by
  have sub : (flood n).map Arrival.key ⊆ e.states.rows.map Entry.key := by
    intro key mem
    have seen : SeenAt {} 1 := nofun
    obtain ⟨state, found⟩ := Option.isSome_iff_exists.mp (seen.feed (fun x mem => (mem_flood mem).1)
      (fun x mem => (mem_flood mem).2.1) run (.inr mem))
    exact mem_map.mpr ⟨_, get_eq_some.mp found, rfl⟩
  have keys : ((flood n).map Arrival.key).Nodup := by
    rw [flood, map_map, nodup_iff_pairwise_ne, pairwise_map]
    exact nodup_range.imp fun ne same => ne (ofFlow_key same)
  have few := (subperm_of_subset keys sub).length_le
  rwa [length_map, length_flood, length_map] at few

/-! ## The bound -/

/-- Every history of samples is inspected without a failure, and leaves no flow with more than `maxInspectBytes`
buffered bytes. It leaves no more than `maxFlowStates` states if every sample of a flow without a state that found
the map full also found a state that had expired. -/
theorem memory_bounded (xs : List Arrival) : ∃ e, feed {} xs = .ok e ∧
    (∀ key state, e.get key = some state → state.tlsBuffer.length ≤ maxInspectBytes) ∧
    ((∀ before x after e₁, xs = before ++ x :: after → feed {} before = .ok e₁ → e₁.HasRoom x) →
      e.states.rows.length ≤ maxFlowStates) := by
  obtain ⟨e, run, kept⟩ : Returns (feed {} xs) _ := feed_returns
  exact ⟨e, run, kept buffers_empty, length_feed run (Nat.zero_le _)⟩

/-- A sample of another flow, after the states of a flood have expired. -/
def late : Arrival := ofFlow maxFlowStates (flowStateTTL + 2)

/-- A flood that fills the map, and a sample of another flow after the states have expired. -/
theorem memory_bounded_full : ∃ e₁ e, feed {} (flood maxFlowStates) = .ok e₁ ∧
    maxFlowStates ≤ e₁.states.rows.length ∧ e₁.get late.key = none ∧
    feed {} (flood maxFlowStates ++ [late]) = .ok e ∧ e.states.rows.length ≤ maxFlowStates := by
  obtain ⟨e, run, _, few⟩ := memory_bounded (flood maxFlowStates ++ [late])
  obtain ⟨e₁, run₁, _⟩ := feed_append run
  have full := length_of_flood run₁
  refine ⟨e₁, e, run₁, full, ?_, run, few fun before x after e₂ split run₂ _ _ full₂ => ?_⟩
  · -- no sample of its flow has arrived
    cases found : e₁.get late.key with
    | none => rfl
    | some =>
      have other : ∀ x ∈ flood maxFlowStates, late.key ≠ x.key := by
        intro x mem same
        obtain ⟨_, _, _, below, rfl⟩ := mem_flood mem
        exact absurd (ofFlow_key same) (Nat.ne_of_gt below)
      cases get_feed run₁ other found
  · -- only the last sample finds the map full, and then it finds a state of the flood
    have short : e₂.states.rows.length ≤ before.length := by
      simpa using length_feed_le run₂
    have lengths := congrArg List.length split
    rw [length_append, length_flood, length_append, length_singleton, length_cons] at lengths
    obtain ⟨rfl, rfl, rfl⟩ : flood maxFlowStates = before ∧ late = x ∧ [] = after := by
      obtain ⟨same, is⟩ := append_inj split (by rw [length_flood]; omega)
      exact ⟨same, List.cons.inj is⟩
    cases run₁.symm.trans run₂
    have here : 0 < e₁.states.rows.length := Nat.lt_of_lt_of_le (by decide) full
    obtain ⟨entry, mem⟩ := exists_mem_of_length_pos here
    have found : e₁.get entry.key = some entry.state := get_eq_some.mpr mem
    have old := lastSeen_feed run₁ (fun x mem => Nat.le_of_eq (mem_flood mem).1) nofun found
    refine ⟨entry.key, entry.state, found, ?_⟩
    change flowStateTTL < flowStateTTL + 2 - entry.state.lastSeen
    omega

/-- One sample each of 8193 flows, all at the same time. -/
theorem flood_exceeds_bound : ∃ e, feed {} (flood (maxFlowStates + 1)) = .ok e ∧
    maxFlowStates < e.states.rows.length := by
  obtain ⟨e, run, _⟩ : Returns (feed {} (flood (maxFlowStates + 1))) _ := feed_returns
  exact ⟨e, run, length_of_flood run⟩

end CompositeEngine

end MeowFrp.Dpi.Engine
