import MeowFrp.Dpi.Parsers

/-!
# The parsers stay within their slices

What each step of the parsers returns, and that none of them fails: every position that is read lies within the
slice, and every loop comes to its end before it has run as often as the slice has bytes. The scans of a line are
described by what they pass over (`scan`), which the proof about hosts reads off later.
-/

namespace MeowFrp.Dpi.Engine

open Lib List

variable {data sub : Bytes} {i start stop lineStart lineEnd : Nat}

/-! ## Reading -/

/-- An index in range. -/
lemma index_eq (below : i < data.length) : index data i = .ok data[i] := by
  unfold index
  rw [List.getElem?_eq_getElem below]

lemma index_returns (below : i < data.length) : Returns (index data i) fun b => data[i]? = some b := by
  rw [index_eq below, List.getElem?_eq_getElem below]
  exact .ok rfl

/-- A slice in range. -/
lemma slice_eq (ordered : start ≤ stop) (within : stop ≤ data.length) :
    slice data start stop = .ok ((data.drop start).take (stop - start)) := by
  unfold slice
  simp [ordered, within]

/-- A slice has the length that was asked for. -/
lemma slice_returns (ordered : start ≤ stop) (within : stop ≤ data.length) :
    Returns (slice data start stop) fun part => part.length = stop - start := by
  rw [slice_eq ordered within]
  refine .ok ?_
  rw [length_take, length_drop]
  omega

/-- Two bytes make a number. -/
lemma uint16_returns (long : 2 ≤ data.length) : Returns (uint16 data) fun _ => True := by
  unfold uint16
  refine (index_returns (by omega)).bind fun _ _ => ?_
  refine (index_returns (by omega)).bind fun _ _ => ?_
  exact .ok trivial

/-! ## Scans -/

/-- The first position from `start` on, up to `stop`, whose byte does not pass. -/
def scan (p : UInt8 → Bool) (data : Bytes) (start stop : Nat) : Nat :=
  start + (((data.take stop).drop start).takeWhile p).length

variable {p : UInt8 → Bool}

/-- A scan that is at its end. -/
lemma scan_stop (done : stop ≤ start) : scan p data start stop = start := by
  have none : (data.take stop).drop start = [] := by
    rw [drop_eq_nil_iff, length_take]
    omega
  unfold scan
  rw [none]
  rfl

/-- A byte that passes is skipped. -/
lemma scan_pass (below : start < stop) (within : stop ≤ data.length) (pass : p data[start] = true) :
    scan p data (start + 1) stop = scan p data start stop := by
  have inside : start < (data.take stop).length := by
    rw [length_take]
    omega
  unfold scan
  rw [drop_eq_getElem_cons inside, getElem_take, takeWhile_cons_of_pos pass, length_cons]
  omega

/-- A scan stops at a byte that fails. -/
lemma scan_fail (below : start < stop) (within : stop ≤ data.length) (fail : p data[start] = false) :
    scan p data start stop = start := by
  have inside : start < (data.take stop).length := by
    rw [length_take]
    omega
  unfold scan
  rw [drop_eq_getElem_cons inside, getElem_take,
    takeWhile_cons_of_neg (by rw [fail]; exact Bool.false_ne_true)]
  rfl

/-- A scan does not go back. -/
lemma le_scan : start ≤ scan p data start stop := Nat.le_add_right _ _

/-- A scan does not pass its end. -/
lemma scan_le (ordered : start ≤ stop) : scan p data start stop ≤ stop := by
  have few := (takeWhile_sublist p (l := (data.take stop).drop start)).length_le
  rw [length_drop, length_take] at few
  unfold scan
  omega

/-- What a scan passes over. -/
lemma take_scan (ordered : start ≤ stop) : (data.take (scan p data start stop)).drop start =
    ((data.take stop).drop start).takeWhile p := by
  have within : scan p data start stop ≤ stop := scan_le ordered
  have taken : data.take (scan p data start stop) = (data.take stop).take (scan p data start stop) := by
    rw [take_take, Nat.min_eq_left within]
  rw [taken, drop_take]
  unfold scan
  rw [Nat.add_sub_cancel_left]
  exact (prefix_iff_eq_take.mp ( takeWhile_prefix p)).symm

/-- What a scan leaves. -/
lemma drop_scan : (data.take stop).drop (scan p data start stop) = ((data.take stop).drop start).dropWhile p := by
  unfold scan
  rw [← drop_drop]
  generalize (data.take stop).drop start = rest
  have parts := takeWhile_append_dropWhile (p := p) (l := rest)
  calc rest.drop (rest.takeWhile p).length
      = (rest.takeWhile p ++ rest.dropWhile p).drop (rest.takeWhile p).length := by rw [parts]
    _ = rest.dropWhile p := drop_left

/-- What is skipped is the longest run of bytes that pass. -/
lemma slice_scan (ordered : start ≤ stop) (within : stop ≤ data.length) :
    slice data start (scan p data start stop) = .ok (((data.take stop).drop start).takeWhile p) := by
  rw [slice_eq le_scan (Nat.le_trans (scan_le ordered) within), ← take_scan ordered, drop_take]

/-- The loop of a scan. -/
lemma scan_loop (ordered : start ≤ stop) (within : stop ≤ data.length) :
    loop .iterations
      (fun i => do
        if i < stop then
          let b ← index data i
          return p b
        else return false)
      (fun i => .ok (.inl (i + 1))) id data.length start = .ok (scan p data start stop) := by
  -- the scan from the position of a turn ends where the whole scan ends
  refine returns_eq.mp (loop_returns (fun i => i ≤ stop ∧ scan p data i stop = scan p data start stop)
    (fun i => stop - i) ?_ ⟨ordered, rfl⟩ (by omega))
  rintro _ ⟨_, same⟩
  refine .ite (fun below => ?_) fun done => ?_
  · refine (index_returns (by omega)).bind fun b here => ?_
    rw [List.getElem?_eq_getElem (by omega), Option.some.injEq] at here
    refine .ok ⟨fun pass => ⟨by omega, .ok ⟨⟨below, ?_⟩, by omega⟩⟩, fun fail => ?_⟩
    · rw [scan_pass below within (here ▸ pass)]
      exact same
    · rw [← same, scan_fail below within (here ▸ fail)]
      rfl
  · refine .ok ⟨nofun, fun _ => ?_⟩
    rw [← same, scan_stop (by omega)]
    rfl

/-! ## HTTP -/

/-- A blank of a header. -/
def isBlank (b : UInt8) : Bool := b = space || b = tab

/-- A byte that does not end a line. -/
def inLine (b : UInt8) : Bool := b ≠ cr && b ≠ lf

/-- A byte that does not end a host. -/
def inHost (b : UInt8) : Bool := !(b = space || b = tab || b = colon)

/-- The line is one of the header `Host`. -/
def namesHost : Bytes → Bool
  | h :: o :: s :: t :: c :: _ =>
    equalFoldByte h 0x68 && equalFoldByte o 0x6f && equalFoldByte s 0x73 && equalFoldByte t 0x74 && c = colon
  | _ => false

lemma namesHost_cons {h o s t c : UInt8} {rest : Bytes} : namesHost (h :: o :: s :: t :: c :: rest) =
    (equalFoldByte h 0x68 && equalFoldByte o 0x6f && equalFoldByte s 0x73 && equalFoldByte t 0x74 &&
      decide (c = colon)) := rfl

variable {line : Bytes} {limit : Nat}

/-- A short line names no host. -/
lemma namesHost_short (short : line.length < 5) : namesHost line = false := by
  unfold namesHost
  split
  · simp only [length_cons] at short
    omega
  · rfl

/-- The first five bytes of a line. -/
lemma exists_five (long : 5 ≤ line.length) :
    ∃ a b c d e rest, line = a :: b :: c :: d :: e :: rest := by
  obtain _ | ⟨a, _ | ⟨b, _ | ⟨c, _ | ⟨d, _ | ⟨e, rest⟩⟩⟩⟩⟩ := line
  case cons.cons.cons.cons.cons => exact ⟨a, b, c, d, e, rest, rfl⟩
  all_goals
    simp only [length_cons, length_nil] at long
    omega

/-- Skipping blanks is a scan. -/
lemma skipBlanks_eq (ordered : start ≤ lineEnd) (within : lineEnd ≤ data.length) :
    skipBlanks data lineEnd start = .ok (scan isBlank data start lineEnd) := scan_loop ordered within

/-- Finding the end of a line is a scan. -/
lemma findLineEnd_eq (ordered : lineStart ≤ limit) (within : limit ≤ data.length) :
    findLineEnd data limit lineStart = .ok (scan inLine data lineStart limit) := scan_loop ordered within

/-- Finding the end of a value is a scan. -/
lemma findValueEnd_eq (ordered : start ≤ lineEnd) (within : lineEnd ≤ data.length) :
    findValueEnd data lineEnd start = .ok (scan inHost data start lineEnd) := by
  refine returns_eq.mp (loop_returns
    (fun i => i ≤ lineEnd ∧ scan inHost data i lineEnd = scan inHost data start lineEnd) (fun i => lineEnd - i)
    ?_ ⟨ordered, rfl⟩ (by omega))
  rintro i ⟨_, same⟩
  refine .ok ⟨fun below => ?_, fun done => ?_⟩
  · rw [decide_eq_true_eq] at below
    refine ⟨by omega, (index_returns (by omega)).bind fun b here => ?_⟩
    rw [List.getElem?_eq_getElem (by omega), Option.some.injEq] at here
    refine .ite (fun fail => .ok ?_) fun pass => .ok ⟨⟨below, ?_⟩, by omega⟩
    · have fails : inHost data[i] = false := by
        unfold inHost
        rw [here, fail]
        rfl
      rw [← same, scan_fail below within fails]
      rfl
    · have passes : inHost data[i] = true := by
        unfold inHost
        rw [here, Bool.eq_false_iff.mpr pass]
        rfl
      rw [scan_pass below within passes]
      exact same
  · rw [decide_eq_false_iff_not] at done
    rw [← same, scan_stop (by omega)]
    rfl

/-- The header `Host` is recognised by its first five bytes. -/
lemma hostValueStart_eq (within : lineEnd ≤ data.length) : hostValueStart data lineStart lineEnd =
    .ok (if namesHost ((data.take lineEnd).drop lineStart) then some (scan isBlank data (lineStart + 5) lineEnd)
      else none) := by
  have length : ((data.take lineEnd).drop lineStart).length = lineEnd - lineStart := by
    rw [length_drop, length_take]
    omega
  unfold hostValueStart
  by_cases short : lineEnd - lineStart < 5
  · rw [if_pos short, namesHost_short (length ▸ short)]
    rfl
  · rw [if_neg short]
    -- the bytes that are read are those of the line
    have read : ∀ k, k < 5 → index data (lineStart + k) = index ((data.take lineEnd).drop lineStart) k := by
      intro k few
      unfold index
      rw [List.getElem?_drop, List.getElem?_take_of_lt (by omega)]
    have first := read 0 (by omega)
    rw [Nat.add_zero] at first
    rw [first, read 1 (by omega), read 2 (by omega), read 3 (by omega), read 4 (by omega),
      skipBlanks_eq (show lineStart + 5 ≤ lineEnd by omega) within]
    generalize (data.take lineEnd).drop lineStart = line at length ⊢
    obtain ⟨h, o, s, t, c, _, rfl⟩ := exists_five (show 5 ≤ line.length by omega)
    change (if !equalFoldByte h 0x68 then Except.ok none else if !equalFoldByte o 0x6f then Except.ok none
      else if !equalFoldByte s 0x73 then Except.ok none else if !equalFoldByte t 0x74 then Except.ok none
      else if c ≠ colon then Except.ok none else Except.ok (some _)) = _
    rw [namesHost_cons]
    cases equalFoldByte h 0x68 with
    | false => rfl
    | true =>
      cases equalFoldByte o 0x6f with
      | false => rfl
      | true =>
        cases equalFoldByte s 0x73 with
        | false => rfl
        | true =>
          cases equalFoldByte t 0x74 with
          | false => rfl
          | true =>
            by_cases named : c = colon
            · simp [named]
            · simp [named]

/-- The host in a line of the header `Host`. -/
def hostValue (line : Bytes) : Bytes := ((line.drop 5).dropWhile isBlank).takeWhile inHost

/-- The next line starts after one or two bytes. -/
lemma nextLine_eq (within : limit ≤ data.length) : nextLine data limit lineEnd =
    .ok (if lineEnd + 1 < limit ∧ data[lineEnd]? = some cr ∧ data[lineEnd + 1]? = some lf then lineEnd + 2
      else lineEnd + 1) := by
  unfold nextLine
  by_cases below : lineEnd + 1 < limit
  · have here : lineEnd < data.length := by omega
    have next : lineEnd + 1 < data.length := by omega
    simp only [below, if_true, true_and, Nat.add_sub_cancel, index_eq here, index_eq next,
      List.getElem?_eq_getElem here, List.getElem?_eq_getElem next, Option.some.injEq]
    by_cases first : data[lineEnd] = cr
    · by_cases second : data[lineEnd + 1] = lf
      · simp [first, second]
      · simp [first, second]
    · simp [first]
  · simp [below]

/-- The value of the header is cut out of its line. -/
lemma parseValue_eq (within : lineEnd ≤ data.length)
    (passed : (data.take lineEnd).drop lineStart = line) (long : lineStart + 5 ≤ lineEnd) :
    (do
      let valueStart := scan isBlank data (lineStart + 5) lineEnd
      let valueEnd ← findValueEnd data lineEnd valueStart
      if valueStart < valueEnd then return .inr (← slice data valueStart valueEnd) else return .inr []) =
      (.ok (.inr (hostValue line)) : Except Fault (Nat ⊕ Bytes)) := by
  have ordered : scan isBlank data (lineStart + 5) lineEnd ≤ lineEnd := scan_le long
  have value : ((data.take lineEnd).drop (scan isBlank data (lineStart + 5) lineEnd)).takeWhile inHost =
      hostValue line := by
    rw [drop_scan, ← drop_drop, passed]
    rfl
  dsimp only
  rw [findValueEnd_eq ordered within, ok_bind]
  split
  · rw [slice_scan ordered within, value]
    rfl
  · rename_i empty
    have size : scan inHost data (scan isBlank data (lineStart + 5) lineEnd) lineEnd =
        scan isBlank data (lineStart + 5) lineEnd + (hostValue line).length := by
      rw [← value]
      rfl
    have none : hostValue line = [] := length_eq_zero_iff.mp (by omega)
    rw [none]
    rfl

/-- A line is judged by itself. -/
lemma parseLine_eq (ordered : lineStart ≤ limit) (within : limit ≤ data.length) :
    parseLine data limit lineStart =
      let line := ((data.take limit).drop lineStart).takeWhile inLine
      if namesHost line then .ok (.inr (hostValue line))
      else (nextLine data limit (lineStart + line.length)).map .inl := by
  have below : scan inLine data lineStart limit ≤ data.length := Nat.le_trans (scan_le ordered) within
  have passed : (data.take (scan inLine data lineStart limit)).drop lineStart =
      ((data.take limit).drop lineStart).takeWhile inLine := take_scan ordered
  unfold parseLine
  rw [findLineEnd_eq ordered within, ok_bind, hostValueStart_eq below, ok_bind, passed]
  dsimp only
  cases named : namesHost (((data.take limit).drop lineStart).takeWhile inLine) with
  | true =>
    have long : lineStart + 5 ≤ scan inLine data lineStart limit := by
      refine Nat.add_le_add_left (Nat.not_lt.mp fun short => ?_) _
      rw [namesHost_short short] at named
      cases named
    exact parseValue_eq below passed long
  | false =>
    change (nextLine data limit (scan inLine data lineStart limit) >>= fun next => pure (Sum.inl next)) =
      (nextLine data limit (scan inLine data lineStart limit)).map Sum.inl
    cases nextLine data limit (scan inLine data lineStart limit) with
    | error | ok => rfl

/-- A line is read, and the next one starts later. -/
lemma parseLine_returns (below : lineStart < limit) (within : limit ≤ data.length) :
    Returns (parseLine data limit lineStart) (Sum.elim (fun next => lineStart < next) fun _ => True) := by
  rw [parseLine_eq (Nat.le_of_lt below) within]
  dsimp only
  refine .ite (fun _ => .ok trivial) fun _ => ?_
  rw [nextLine_eq within]
  refine .ok ?_
  change lineStart < ite _ _ _
  split <;> omega

/-- A match lies in the text. -/
lemma indexOf_le : ∀ {data : Bytes} {n}, indexOf sub data = some n → n ≤ data.length
  | [], n, found => by
    unfold indexOf at found
    split at found
    · cases found
      exact Nat.le_refl _
    · cases found
  | b :: data, n, found => by
    unfold indexOf at found
    split at found
    · cases found
      exact Nat.zero_le _
    · obtain ⟨_, later, rfl⟩ := Option.map_eq_some_iff.mp found
      exact Nat.succ_le_succ (indexOf_le later)

/-- Where the lines of a request end. -/
def headLimit (data : Bytes) : Nat :=
  (indexOf (text "\r\n\r\n") (data.take 4096)).getD (min data.length 4096)

/-- The head lies in the text. -/
lemma headLimit_le : headLimit data ≤ data.length := by
  unfold headLimit
  cases found : indexOf (text "\r\n\r\n") (data.take 4096) with
  | none => exact Nat.min_le_left _ _
  | some =>
    have le := indexOf_le found
    rw [length_take] at le
    exact Nat.le_trans le (Nat.min_le_right _ _)

/-- The parser as a loop over lines. -/
lemma parseHTTPHost_eq : parseHTTPHost data = if data.length < 16 || !looksLikeHTTP data then .ok [] else
    loop .iterations (fun lineStart => .ok (decide (lineStart < headLimit data))) (parseLine data (headLimit data))
      (fun _ => []) data.length 0 := by
  have head : (data.drop 0).take (min data.length 4096 - 0) = data.take 4096 := by
    rw [drop_zero, Nat.sub_zero, take_eq_take_iff]
    omega
  unfold parseHTTPHost
  split
  · rfl
  · dsimp only
    rw [slice_eq (Nat.zero_le _) (Nat.min_le_left _ _), ok_bind, head]
    rfl

/-- The parser of HTTP returns. -/
lemma parseHTTPHost_returns : Returns (parseHTTPHost data) fun _ => True := by
  rw [parseHTTPHost_eq]
  refine .ite (fun _ => .ok trivial) fun _ => ?_
  refine loop_returns (fun _ => True) (fun lineStart => headLimit data - lineStart) ?_ trivial
    (Nat.le_trans (Nat.sub_le _ _) headLimit_le)
  refine fun lineStart _ => .ok ⟨fun below => ?_, fun _ => trivial⟩
  rw [decide_eq_true_eq] at below
  refine ⟨by omega, (parseLine_returns below headLimit_le).mono fun next post => ?_⟩
  cases next with
  | inl next => exact ⟨trivial, by have : lineStart < next := post; omega⟩
  | inr => trivial

/-! ## TLS -/

/-- The parser of the server name returns. -/
lemma parseSNIExtension_returns : Returns (parseSNIExtension data) fun _ => True := by
  unfold parseSNIExtension
  refine .ite (fun _ => .ok trivial) fun long => ?_
  refine (slice_returns (Nat.zero_le _) (by omega)).bind fun part size => ?_
  refine (uint16_returns (by omega)).bind fun listLen _ => ?_
  refine .ite (fun _ => .ok trivial) fun _ => ?_
  refine (index_returns (by omega)).bind fun nameType _ => ?_
  refine (slice_returns (by omega) (by omega)).bind fun part' size' => ?_
  refine (uint16_returns (by omega)).bind fun nameLen _ => ?_
  refine .ite (fun named => ?_) fun _ => .ok trivial
  have within : 5 + nameLen ≤ data.length := by
    simp only [Bool.and_eq_true, decide_eq_true_eq] at named
    have := named.2
    omega
  exact (slice_returns (Nat.le_add_right _ _) within).mono fun _ _ => trivial

/-- An extension is read, and the next one starts later. -/
lemma parseExtension_returns {pos : Nat} (header : pos + 4 ≤ stop) (within : stop ≤ data.length) :
    Returns (parseExtension data stop pos) (Sum.elim (fun next => pos < next ∧ next ≤ stop) fun _ => True) := by
  unfold parseExtension
  refine (slice_returns (by omega) (by omega)).bind fun part size => ?_
  refine (uint16_returns (by omega)).bind fun extType _ => ?_
  refine (slice_returns (by omega) (by omega)).bind fun part' size' => ?_
  refine (uint16_returns (by omega)).bind fun extDataLen _ => ?_
  refine .ite (fun _ => .ok trivial) fun fits => ?_
  refine .ite (fun _ => ?_) fun _ => .ok ⟨by omega, by omega⟩
  refine (slice_returns (by omega) (by omega)).bind fun body _ => ?_
  exact parseSNIExtension_returns.bind fun _ _ => .ok trivial

/-- The loop over the extensions returns. -/
lemma parseExtensions_returns {pos : Nat} (within : stop ≤ data.length) :
    Returns (parseExtensions data stop pos) fun _ => True := by
  refine loop_returns (fun _ => True) (fun pos => stop - pos) ?_ trivial (by omega)
  refine fun pos _ => .ok ⟨fun header => ?_, fun _ => trivial⟩
  rw [decide_eq_true_eq] at header
  refine ⟨by omega, (parseExtension_returns header within).mono fun next post => ?_⟩
  cases next with
  | inl next => exact ⟨trivial, by have : pos < next ∧ next ≤ stop := post; omega⟩
  | inr => trivial

/-- The parser of a ClientHello returns. -/
lemma parseClientHelloRecord_returns : Returns (parseClientHelloRecord data) fun _ => True := by
  unfold parseClientHelloRecord
  refine .ite (fun _ => .ok trivial) fun _ => ?_
  refine (index_returns (by omega)).bind fun msgType _ => ?_
  refine .ite (fun _ => .ok trivial) fun _ => ?_
  refine (index_returns (by omega)).bind fun _ _ => ?_
  refine (index_returns (by omega)).bind fun _ _ => ?_
  refine (index_returns (by omega)).bind fun _ _ => ?_
  refine .ite (fun _ => .ok trivial) fun _ => ?_
  refine .ite (fun _ => .ok trivial) fun _ => ?_
  refine .ite (fun _ => .ok trivial) fun _ => ?_
  refine (index_returns (by omega)).bind fun sidLen _ => ?_
  refine .ite (fun _ => .ok trivial) fun _ => ?_
  refine (slice_returns (by omega) (by omega)).bind fun part size => ?_
  refine (uint16_returns (by omega)).bind fun csLen _ => ?_
  refine .ite (fun _ => .ok trivial) fun _ => ?_
  refine (index_returns (by omega)).bind fun compLen _ => ?_
  refine .ite (fun _ => .ok trivial) fun _ => ?_
  refine (slice_returns (by omega) (by omega)).bind fun part' size' => ?_
  refine (uint16_returns (by omega)).bind fun extLen _ => ?_
  exact parseExtensions_returns (Nat.min_le_right _ _)

/-- A record is read, and the next one starts later. -/
lemma parseRecord_returns {offset : Nat} (header : offset + 5 ≤ data.length) :
    Returns (parseRecord data offset) (Sum.elim (fun next => offset < next) fun _ => True) := by
  unfold parseRecord
  refine (index_returns (by omega)).bind fun contentType _ => ?_
  refine .ite (fun _ => .ok (Nat.lt_succ_self _)) fun _ => ?_
  refine (slice_returns (by omega) (by omega)).bind fun part size => ?_
  refine (uint16_returns (by omega)).bind fun version _ => ?_
  refine .ite (fun _ => .ok (Nat.lt_succ_self _)) fun _ => ?_
  refine (slice_returns (by omega) (by omega)).bind fun part' size' => ?_
  refine (uint16_returns (by omega)).bind fun recordLen _ => ?_
  refine .ite (fun _ => .ok (Nat.lt_succ_self _)) fun _ => ?_
  refine .ite (fun _ => .ok trivial) fun _ => ?_
  refine (slice_returns (by omega) (by omega)).bind fun record _ => ?_
  refine parseClientHelloRecord_returns.bind fun sni _ => ?_
  refine .ite (fun _ => .ok trivial) fun _ => .ok ?_
  change offset < offset + (5 + recordLen)
  omega

/-- The loop over the records returns. -/
lemma parseTLSClientHelloSNI_returns : Returns (parseTLSClientHelloSNI data) fun _ => True := by
  refine loop_returns (fun _ => True) (fun offset => data.length - offset) ?_ trivial (Nat.sub_le _ _)
  refine fun offset _ => .ok ⟨fun header => ?_, fun _ => trivial⟩
  rw [decide_eq_true_eq] at header
  refine ⟨by omega, (parseRecord_returns header).mono fun next post => ?_⟩
  cases next with
  | inl next => exact ⟨trivial, by have : offset < next := post; omega⟩
  | inr => trivial

/-- No parser reads outside of its slice, and no loop runs more often than the slice has bytes: every run ends with
a result. The bounds of a line are positions of the slice. -/
theorem parsers_stay_in_bounds (data : Bytes) :
    (∃ host, parseHTTPHost data = .ok host) ∧
      (∀ lineStart lineEnd, lineEnd ≤ data.length → ∃ value, hostValueStart data lineStart lineEnd = .ok value) ∧
      (∃ sni, parseTLSClientHelloSNI data = .ok sni) ∧ (∃ sni, parseClientHelloRecord data = .ok sni) ∧
      ∃ name, parseSNIExtension data = .ok name := by
  obtain ⟨host, http, _⟩ : Returns (parseHTTPHost data) _ := parseHTTPHost_returns
  obtain ⟨sni, hello, _⟩ : Returns (parseTLSClientHelloSNI data) _ := parseTLSClientHelloSNI_returns
  obtain ⟨sni', record, _⟩ : Returns (parseClientHelloRecord data) _ := parseClientHelloRecord_returns
  obtain ⟨name, extension, _⟩ : Returns (parseSNIExtension data) _ := parseSNIExtension_returns
  exact ⟨⟨host, http⟩, fun _ _ within => ⟨_, hostValueStart_eq within⟩, ⟨sni, hello⟩, ⟨sni', record⟩, name, extension⟩

/-- An incomplete request, the first line of which ends where the slice does. -/
theorem parsers_stay_in_bounds_line : ∃ value, hostValueStart (text "Host: a") 0 7 = .ok value :=
  (parsers_stay_in_bounds (text "Host: a")).2.1 0 7 (by decide)

end MeowFrp.Dpi.Engine
