import MeowFrp.Dpi.Memory

/-!
# Segmentation

A server name that the parser finds in a stream, it also finds in every longer stream: the search takes the same
turns, since a record that is not complete ends it without a result (`parseTLSClientHelloSNI_append`). So it does
not matter in which segments a stream reaches the engine, as long as the stream fits into the buffer of the flow.
-/

namespace MeowFrp.Dpi.Engine

open Lib List Option

variable {data tail part sni : Bytes} {i start stop offset : Nat} {b : UInt8}

/-! ## Longer streams -/

/-- A byte that is read is read with more data. -/
lemma index_append (read : index data i = .ok b) : index (data ++ tail) i = .ok b := by
  unfold index at read ⊢
  cases here : data[i]? with
  | none =>
    rw [here] at read
    cases read
  | some =>
    rw [here] at read
    cases read
    rw [List.getElem?_append_left (List.getElem?_eq_some_iff.mp here).1, here]

/-- So is a slice. -/
lemma slice_append (read : slice data start stop = .ok part) : slice (data ++ tail) start stop = .ok part := by
  unfold slice at read
  split at read
  · rename_i bounds
    cases read
    rw [Bool.and_eq_true, decide_eq_true_eq, decide_eq_true_eq] at bounds
    obtain ⟨ordered, _⟩ := bounds
    rw [slice_eq ordered (by rw [length_append]; omega), drop_append_of_le_length (by omega),
      take_append_of_le_length (by rw [length_drop]; omega)]
  · cases read

/-- A turn that does not give up takes place in a longer stream, too. -/
lemma parseRecord_append {next : Nat ⊕ Bytes} (turn : parseRecord data offset = .ok next)
    (goes : Sum.elim (fun _ => True) (· ≠ []) next) : parseRecord (data ++ tail) offset = .ok next := by
  unfold parseRecord at turn ⊢
  obtain ⟨contentType, read, turn⟩ := bind_ok.mp turn
  rw [index_append read, ok_bind]
  by_cases other : contentType ≠ 0x16
  · rw [if_pos other] at turn ⊢
    exact turn
  · rw [if_neg other] at turn ⊢
    obtain ⟨_, read, turn⟩ := bind_ok.mp turn
    obtain ⟨version, decoded, turn⟩ := bind_ok.mp turn
    rw [slice_append read, ok_bind, decoded, ok_bind]
    by_cases old : version < 0x0301
    · rw [if_pos old] at turn ⊢
      exact turn
    · rw [if_neg old] at turn ⊢
      obtain ⟨_, read, turn⟩ := bind_ok.mp turn
      obtain ⟨recordLen, decoded, turn⟩ := bind_ok.mp turn
      rw [slice_append read, ok_bind, decoded, ok_bind]
      by_cases odd : (decide (recordLen = 0) || decide (16384 < recordLen)) = true
      · rw [if_pos odd] at turn ⊢
        exact turn
      · rw [if_neg odd] at turn ⊢
        by_cases incomplete : data.length < offset + 5 + recordLen
        · rw [if_pos incomplete] at turn
          cases turn
          exact absurd rfl goes
        · rw [if_neg incomplete] at turn
          rw [if_neg (by rw [length_append]; omega)]
          obtain ⟨_, read, turn⟩ := bind_ok.mp turn
          rw [slice_append read, ok_bind]
          exact turn

/-- A server name in a stream is found in every longer one. -/
lemma parseTLSClientHelloSNI_append (found : parseTLSClientHelloSNI data = .ok sni) (named : sni ≠ []) :
    parseTLSClientHelloSNI (data ++ tail) = .ok sni := by
  refine loop_transfer (Q := (· ≠ [])) (fun offset header => ?_) (fun offset next => parseRecord_append)
    (fun _ none => none rfl) ?_ found named
  · have within : offset + 5 ≤ data.length := by
      injection header with header
      exact of_decide_eq_true header
    refine congrArg Except.ok (decide_eq_true ?_)
    rw [length_append]
    omega
  · rw [length_append]
    omega

/-! ## Segments of a flow -/

/-- The first server name that is reported. -/
def firstSNI (fs : List Finding) : Option Bytes := (fs.find? fun f => f.detector = "tls").map (·.sni)

/-- The first name is in the first list that has one. -/
lemma firstSNI_append {fs gs : List Finding} : firstSNI (fs ++ gs) = (firstSNI fs).or (firstSNI gs) := by
  unfold firstSNI
  rw [List.find?_append]
  cases fs.find? fun f => f.detector = "tls" with
  | none | some => rfl

lemma firstSNI_other {f : Finding} {p : Prop} [Decidable p] (other : f.detector ≠ "tls") :
    firstSNI (if p then [f] else []) = none := by
  unfold firstSNI
  split
  · rw [List.find?_cons_of_neg (by simpa using other)]
    rfl
  · rfl

lemma firstSNI_report {payload host : Bytes} {tunnel : Bool} :
    firstSNI (report payload host sni tunnel) = if sni = [] then none else some sni := by
  have tls : firstSNI (if sni ≠ [] then [{ detector := "tls", protocol := "TLS", sni, summary := "tls sni detected" }]
      else []) = if sni = [] then none else some sni := by
    by_cases none : sni = []
    · rw [if_pos none, if_neg (not_not_intro none)]
      rfl
    · rw [if_neg none, if_pos none]
      rfl
  unfold report
  simp (disch := simp) only [firstSNI_append, tls, firstSNI_other, none_or, or_none]

namespace CompositeEngine

variable {e e' : CompositeEngine} {x : Arrival} {key : String} {buffer : Bytes} {xs : List Arrival}

/-- What a history of samples is answered with. -/
def inspectAll (e : CompositeEngine) : List Arrival → Except Fault (List Finding)
  | [] => .ok []
  | x :: xs => do
    let (e, found) ← e.inspect x
    let more ← e.inspectAll xs
    return found ++ more

/-- No sample makes the engine fail. -/
lemma inspectAll_returns : Returns (e.inspectAll xs) fun _ => True := by
  induction xs generalizing e with
  | nil => exact .ok trivial
  | cons _ _ ih =>
    unfold inspectAll
    refine inspect_returns.bind fun r _ => ?_
    exact ih.bind fun more _ => .ok trivial

/-- All that was inspected of the flow is in its buffer. -/
def Buffered (e : CompositeEngine) (key : String) (buffer : Bytes) : Prop :=
  ((e.get key).getD {}).tlsBuffer = buffer ∧ ((e.get key).getD {}).inspectedBytes = buffer.length

lemma locate_snd {now : Nat} : (e.locate key now).2 = (e.get key).getD {} := by
  unfold locate
  cases e.get key with
  | none | some => rfl

/-- One segment of a stream that fits into the buffer. -/
lemma Buffered.inspect (buffered : e.Buffered x.key buffer) (segment : x.sample.payload ≠ [])
    (starts : buffer = [] → x.sample.payload.head? = some 0x16)
    (short : buffer.length + x.sample.payload.length ≤ maxInspectBytes) :
    ∃ e' fs sni, e.inspect x = .ok (e', fs) ∧ parseTLSClientHelloSNI (buffer ++ x.sample.payload) = .ok sni ∧
      firstSNI fs = (if sni = [] then none else some sni) ∧
      (sni = [] → e'.Buffered x.key (buffer ++ x.sample.payload)) := by
  have located : (e.locate x.key x.now).2 = (e.get x.key).getD {} := locate_snd
  obtain ⟨holds, inspected⟩ := buffered
  rw [← located] at holds inspected
  have positive : 0 < x.sample.payload.length := length_pos_iff.mpr segment
  obtain ⟨⟨e', fs⟩, done, _⟩ : Returns (e.inspect x) _ := inspect_returns
  obtain ⟨sni, parsed, _⟩ : Returns (parseTLSClientHelloSNI (buffer ++ x.sample.payload)) _ :=
    parseTLSClientHelloSNI_returns
  refine ⟨e', fs, sni, done, parsed, ?_⟩
  rw [CompositeEngine.inspect, if_neg (by simpa using segment)] at done
  dsimp only at done
  obtain ⟨⟨_, _⟩, inspect, done⟩ := bind_ok.mp done
  cases done
  unfold Arrival.inspectState at inspect
  dsimp only at inspect
  rw [if_neg (by omega)] at inspect
  obtain ⟨_, _, _, _, _, _, _, fed, changed, rfl⟩ := inspectLocked_ok inspect
  dsimp only at fed
  rw [holds, feedBuffer_eq segment, if_neg (fun no => no.2 (starts no.1)), if_neg (by omega), parsed, ok_bind] at fed
  by_cases none : sni = []
  · rw [if_neg (not_not_intro none)] at fed
    cases fed
    refine ⟨by rw [firstSNI_report, none], fun _ => ?_⟩
    unfold Buffered
    rw [get_set_self, changed]
    exact ⟨rfl, by rw [length_append, ← inspected]; rfl⟩
  · rw [if_pos none] at fed
    cases fed
    exact ⟨firstSNI_report, fun is => absurd is none⟩

/-- The first server name that is reported is that of the stream. -/
lemma Buffered.inspectAll (buffered : e.Buffered key buffer) (flow : ∀ x ∈ xs, x.key = key)
    (segments : ∀ x ∈ xs, x.sample.payload ≠ [])
    (starts : buffer = [] → (xs.flatMap (·.sample.payload)).head? = some 0x16)
    (short : buffer.length + (xs.flatMap (·.sample.payload)).length ≤ maxInspectBytes)
    (nothing : parseTLSClientHelloSNI buffer = .ok []) :
    ∃ found sni, e.inspectAll xs = .ok found ∧
      parseTLSClientHelloSNI (buffer ++ xs.flatMap (·.sample.payload)) = .ok sni ∧
      firstSNI found = if sni = [] then none else some sni := by
  induction xs generalizing e buffer with
  | nil => exact ⟨[], [], rfl, by rw [flatMap_nil, append_nil]; exact nothing, rfl⟩
  | cons _ xs ih =>
    obtain ⟨own, flow⟩ := forall_mem_cons.mp flow
    obtain ⟨segment, segments⟩ := forall_mem_cons.mp segments
    rw [flatMap_cons] at starts short ⊢
    rw [length_append] at short
    rw [← own] at buffered
    obtain ⟨e', fs, sni, done, parsed, first, kept⟩ := buffered.inspect segment
      (fun empty => by rw [← starts empty, List.head?_append_of_ne_nil _ segment]) (by omega)
    rw [← append_assoc]
    by_cases none : sni = []
    · rw [own] at kept
      obtain ⟨found, sni', run, parsed', first'⟩ := ih (kept none) flow segments
        (fun empty => absurd (append_eq_nil_iff.mp empty).2 segment)
        (by rw [length_append]; omega) (none ▸ parsed)
      refine ⟨fs ++ found, sni', ?_, parsed', ?_⟩
      · rw [inspectAll, done, ok_bind]
        dsimp only
        rw [run]
        rfl
      · rw [firstSNI_append, first, if_pos none, none_or, first']
    · obtain ⟨found, run, _⟩ : Returns (e'.inspectAll xs) _ := inspectAll_returns
      refine ⟨fs ++ found, sni, ?_, parseTLSClientHelloSNI_append parsed none, ?_⟩
      · rw [inspectAll, done, ok_bind]
        dsimp only
        rw [run]
        rfl
      · rw [firstSNI_append, first, if_neg none, some_or]

/-- Let a stream of at most 8192 bytes that starts with 0x16 reach a flow without a state in any segments, at any
times. The first server name that the engine reports is the one that the parser finds in the whole stream; if it
finds none, none is reported. -/
theorem server_name_independent_of_segments (e : CompositeEngine) (key : String) (xs : List Arrival) (stream : Bytes)
    (fresh : e.get key = none) (flow : ∀ x ∈ xs, x.key = key) (segments : ∀ x ∈ xs, x.sample.payload ≠ [])
    (whole : xs.flatMap (·.sample.payload) = stream) (starts : stream.head? = some 0x16)
    (short : stream.length ≤ 8192) :
    ∃ found sni, e.inspectAll xs = .ok found ∧ parseTLSClientHelloSNI stream = .ok sni ∧
      firstSNI found = if sni = [] then none else some sni := by
  subst whole
  have buffered : e.Buffered key [] := by
    unfold Buffered
    rw [fresh]
    exact ⟨rfl, rfl⟩
  exact buffered.inspectAll flow segments (fun _ => starts) (by rw [length_nil, Nat.zero_add]; exact short) rfl

/-- A ClientHello in two segments. -/
theorem server_name_independent_of_segments_two : ∃ found,
    inspectAll {} [sampleArrival (sampleHello.take 7) 1, sampleArrival (sampleHello.drop 7) 2] = .ok found ∧
      firstSNI found = some (text "a.b") := by
  obtain ⟨found, _, run, parsed, first⟩ := server_name_independent_of_segments {} (sampleArrival [] 1).key
    [sampleArrival (sampleHello.take 7) 1, sampleArrival (sampleHello.drop 7) 2] sampleHello rfl
    (forall_mem_cons.mpr ⟨rfl, forall_mem_cons.mpr ⟨rfl, nofun⟩⟩) (by decide) rfl rfl (by decide)
  cases (show parseTLSClientHelloSNI sampleHello = .ok (text "a.b") from rfl).symm.trans parsed
  exact ⟨found, run, first⟩

end CompositeEngine

end MeowFrp.Dpi.Engine
