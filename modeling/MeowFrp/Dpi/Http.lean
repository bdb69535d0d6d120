import MeowFrp.Dpi.Bounds

/-!
# The host of a request

What a request head is (lines that end with CRLF, then an empty line) and what a `Host` header may contain, and
that the parser returns the host of the first such header. The loop over the lines keeps that what is left of the
head is a list of lines with the same first `Host` header. A host in brackets is the exception: the parser ends
every host at the first colon.
-/

namespace MeowFrp.Dpi.Engine

open Lib List Option

/-! ## Request heads -/

def methods : List String := ["GET", "POST", "PUT", "HEAD", "DELETE", "PATCH", "OPTIONS", "CONNECT"]

/-- A line without its end. -/
structure Line where
  bytes : Bytes
  nonempty : bytes ≠ []
  inside : ∀ b ∈ bytes, inLine b = true

/-- A request up to its empty line. -/
structure RequestHead where
  method : String
  target : Bytes
  headers : List Line
  listed : method ∈ methods
  inside : ∀ b ∈ target, inLine b = true

namespace RequestHead

/-- The method, and the rest of the first line. -/
def requestLine (head : RequestHead) : Bytes := text head.method ++ space :: head.target

def encode (head : RequestHead) : Bytes :=
  head.requestLine ++ [cr, lf] ++ head.headers.flatMap (fun line => line.bytes ++ [cr, lf]) ++ [cr, lf]

end RequestHead

/-! ## Hosts -/

def isDigit (b : UInt8) : Bool := 0x30 ≤ b && b ≤ 0x39

def isLetter (b : UInt8) : Bool := (0x41 ≤ b && b ≤ 0x5a) || (0x61 ≤ b && b ≤ 0x7a)

/-- A byte of a registered name. -/
def inName (b : UInt8) : Bool := isLetter b || isDigit b || (text "-._~%!$&'()*+,;=").contains b

/-- A byte of an IPv6 address. -/
def inAddress (b : UInt8) : Bool :=
  isDigit b || (0x41 ≤ b && b ≤ 0x46) || (0x61 ≤ b && b ≤ 0x66) || b = colon || b = 0x2e

def digit (n : Nat) : UInt8 := 0x30 + UInt8.ofNat (n % 10)

/-- A number of an IPv4 address. -/
def decimal (n : Fin 256) : Bytes :=
  if n < 10 then [digit n]
  else if n < 100 then [digit (n / 10), digit n]
  else [digit (n / 100), digit (n / 10), digit n]

/-- A host: a name, an IPv4 address or an IPv6 address in brackets. -/
inductive IsHost : Bytes → Prop where
  | name {host : Bytes} : (∀ b ∈ host, inName b = true) → IsHost host
  | ipv4 (a b c d : Fin 256) :
    IsHost (decimal a ++ 0x2e :: (decimal b ++ 0x2e :: (decimal c ++ 0x2e :: decimal d)))
  | ipv6 {address : Bytes} : (∀ b ∈ address, inAddress b = true) → colon ∈ address →
    IsHost (0x5b :: (address ++ [0x5d]))

/-- A port behind its colon, or nothing. -/
inductive IsPort : Bytes → Prop where
  | none : IsPort []
  | some {digits : Bytes} : (∀ b ∈ digits, isDigit b = true) → IsPort (colon :: digits)

def toLower (b : UInt8) : UInt8 := if 0x41 ≤ b && b ≤ 0x5a then b + 0x20 else b

/-- A line of the header `Host`, in any case, with its value. -/
def IsHostLine (line value : Bytes) : Prop := ∃ name, line = name ++ colon :: value ∧ name.map toLower = text "host"

/-- The value is a host, perhaps with a port and blanks around it. -/
def IsHostValue (value host : Bytes) : Prop :=
  ∃ before port after, value = before ++ (host ++ (port ++ after)) ∧ IsHost host ∧ IsPort port ∧
    (∀ b ∈ before, isBlank b = true) ∧ ∀ b ∈ after, isBlank b = true

/-! ## One line -/

variable {line value host : Bytes}

lemma text_host : text "host" = [0x68, 0x6f, 0x73, 0x74] := by decide

lemma equalFoldByte_eq {actual expectedLower : UInt8} :
    equalFoldByte actual expectedLower = decide (toLower actual = expectedLower) := rfl

/-- The check of the parser is the one for the header. -/
lemma namesHost_iff : namesHost line = true ↔ ∃ value, IsHostLine line value := by
  unfold IsHostLine
  rw [text_host]
  constructor
  · intro named
    have long : 5 ≤ line.length := Nat.not_lt.mp fun short => by
      rw [namesHost_short short] at named
      cases named
    obtain ⟨h, o, s, t, _, rest, rfl⟩ := exists_five long
    simp only [namesHost_cons, equalFoldByte_eq, Bool.and_eq_true, decide_eq_true_eq] at named
    obtain ⟨⟨⟨⟨hh, ho⟩, hs⟩, ht⟩, rfl⟩ := named
    refine ⟨rest, [h, o, s, t], rfl, ?_⟩
    rw [map_cons, map_cons, map_cons, map_cons, hh, ho, hs, ht, map_nil]
  · rintro ⟨_, name, rfl, is⟩
    obtain ⟨h, o, s, t, rfl⟩ : ∃ h o s t, name = [h, o, s, t] := by
      have length := congrArg List.length is
      rw [length_map] at length
      obtain _ | ⟨h, _ | ⟨o, _ | ⟨s, _ | ⟨t, _ | ⟨_, _⟩⟩⟩⟩⟩ := name
      case cons.cons.cons.cons.nil => exact ⟨h, o, s, t, rfl⟩
      all_goals
        simp only [length_cons, length_nil] at length
        omega
    simp only [map_cons, map_nil, List.cons.injEq, and_true] at is
    obtain ⟨hh, ho, hs, ht⟩ := is
    simp only [cons_append, nil_append, namesHost_cons, equalFoldByte_eq, hh, ho, hs, ht, decide_true,
      Bool.and_true]

/-- The value follows the name and the colon. -/
lemma IsHostLine.drop (names : IsHostLine line value) : line.drop 5 = value := by
  obtain ⟨name, rfl, is⟩ := names
  have length : name.length = 4 := by
    have length := congrArg List.length is
    rwa [length_map, text_host] at length
  rw [← singleton_append, ← append_assoc]
  exact drop_left' (by rw [length_append, length]; rfl)

/-- A host ends at a blank or a colon. -/
lemma inHost_eq_false {b : UInt8} : inHost b = false ↔ isBlank b = true ∨ b = colon := by
  unfold inHost isBlank
  rw [Bool.not_eq_false', Bool.or_eq_true, decide_eq_true_eq]

/-- A host does not end in a name. -/
lemma inHost_of_inName {b : UInt8} (allowed : inName b = true) : inHost b = true := by
  cases inside : inHost b with
  | true => rfl
  | false =>
    have special : (b = space ∨ b = tab) ∨ b = colon := by simpa [isBlank] using inHost_eq_false.mp inside
    obtain (rfl | rfl) | rfl := special
    all_goals exact absurd allowed (by decide)

/-- Digits are bytes of a name. -/
lemma digit_inName (n : Nat) : inName (digit n) = true := by
  have all : ∀ k : Fin 10, inName (0x30 + UInt8.ofNat k) = true := by decide
  exact all ⟨n % 10, Nat.mod_lt _ (by decide)⟩

/-- Numbers consist of bytes of a name. -/
lemma decimal_inName (n : Fin 256) : ∀ b ∈ decimal n, inName b = true := by
  unfold decimal
  split
  · simp [digit_inName]
  · split
    · simp [digit_inName]
    · simp [digit_inName]

/-- A host consists of bytes of a name, or stands in brackets and has a colon. -/
lemma IsHost.named_or_bracketed (is : IsHost host) :
    (∀ b ∈ host, inName b = true) ∨ host.head? = some 0x5b ∧ colon ∈ host := by
  cases is with
  | name allowed => exact .inl allowed
  | ipv4 a b c d =>
    refine .inl fun x mem => ?_
    simp only [mem_append, mem_cons] at mem
    obtain mem | rfl | mem | rfl | mem | rfl | mem := mem
    · exact decimal_inName a x mem
    · decide
    · exact decimal_inName b x mem
    · decide
    · exact decimal_inName c x mem
    · decide
    · exact decimal_inName d x mem
  | ipv6 _ separated => exact .inr ⟨rfl, mem_cons_of_mem _ (mem_append_left _ separated)⟩

/-- What follows a host ends it. -/
lemma takeWhile_after {port after : Bytes} (isPort : IsPort port) (blank : ∀ b ∈ after, isBlank b = true) :
    (port ++ after).takeWhile inHost = [] := by
  cases isPort with
  | some => rfl
  | none =>
    cases after with
    | nil => rfl
    | cons b =>
      have ends : inHost b = false := inHost_eq_false.mpr (.inl (blank b mem_cons_self))
      exact takeWhile_cons_of_neg (by rw [ends]; exact Bool.false_ne_true)

/-- The value of a host of bytes of a name is the host. -/
lemma hostValue_eq (names : IsHostLine line value) (is : IsHostValue value host)
    (named : ∀ b ∈ host, inName b = true) : hostValue line = host := by
  obtain ⟨_, _, after, split, _, isPort, blank, blank'⟩ := is
  have inside : ∀ b ∈ host, inHost b = true := fun b mem => inHost_of_inName (named b mem)
  unfold hostValue
  rw [names.drop, split, dropWhile_append_of_pos blank]
  cases host with
  | nil =>
    rw [nil_append]
    cases isPort with
    | some => rfl
    | none =>
      have none : (after ++ []).dropWhile isBlank = [] := dropWhile_append_of_pos blank'
      rw [append_nil] at none
      rw [nil_append, none]
      rfl
  | cons b =>
    have filled : ¬isBlank b = true := fun blank => by
      have ends := inHost_eq_false.mpr (.inl blank)
      rw [inside b mem_cons_self] at ends
      cases ends
    rw [cons_append, dropWhile_cons_of_neg filled, ← cons_append, takeWhile_append_of_pos inside,
      takeWhile_after isPort blank', append_nil]

/-- The value is the host exactly if the host does not stand in brackets. -/
lemma hostValue_eq_iff (names : IsHostLine line value) (is : IsHostValue value host) :
    hostValue line = host ↔ host.head? ≠ some 0x5b := by
  obtain ⟨_, _, _, _, isHost, _⟩ := id is
  obtain named | ⟨bracket, separated⟩ := isHost.named_or_bracketed
  · refine iff_of_true (hostValue_eq names is named) fun bracket => ?_
    exact absurd (named 0x5b (mem_of_head? bracket)) (by decide)
  · -- no colon is taken
    refine iff_of_false (fun same => ?_) (· bracket)
    rw [← same] at separated
    exact absurd (all_eq_true.mp all_takeWhile _ separated) (by decide)

/-! ## The lines -/

/-- Lines with an end between them. -/
def join : List Line → Bytes
  | [] => []
  | [x] => x.bytes
  | x :: y :: xs => x.bytes ++ cr :: lf :: join (y :: xs)

/-- What the parser returns for these lines. -/
def firstHost (lines : List Line) : Bytes :=
  match lines.find? fun line => namesHost line.bytes with
  | some line => hostValue line.bytes
  | none => []

variable {x y : Line} {xs lines : List Line}

/-- Other lines are skipped. -/
lemma firstHost_skip (other : namesHost x.bytes = false) : firstHost (x :: xs) = firstHost xs := by
  unfold firstHost
  rw [List.find?_cons_of_neg (by rw [other]; exact Bool.false_ne_true)]

/-- Lines that name no host are skipped. -/
lemma firstHost_append {before : List Line} (others : ∀ line ∈ before, ∀ value, ¬IsHostLine line.bytes value) :
    firstHost (before ++ xs) = firstHost xs := by
  have none : before.find? (fun line => namesHost line.bytes) = none :=
    List.find?_eq_none.mpr fun line mem named =>
      have ⟨value, names⟩ := namesHost_iff.mp named
      others line mem value names
  unfold firstHost
  rw [List.find?_append, none, none_or]

/-- The first line that names a host is taken. -/
lemma firstHost_take (named : namesHost x.bytes = true) : firstHost (x :: xs) = hostValue x.bytes := by
  unfold firstHost
  rw [List.find?_cons_of_pos (by exact named)]

lemma join_cons_cons : join (x :: y :: xs) = x.bytes ++ cr :: lf :: join (y :: xs) := rfl

/-- Lines begin with a byte that is not the end of one. -/
lemma exists_join : ∃ b rest, join (x :: xs) = b :: rest ∧ inLine b = true := by
  obtain ⟨b, rest, split⟩ := exists_cons_of_ne_nil x.nonempty
  have inside := x.inside b (split ▸ mem_cons_self)
  cases xs with
  | nil => exact ⟨b, rest, split, inside⟩
  | cons => exact ⟨b, _, by rw [join_cons_cons, split, cons_append], inside⟩

/-- A line ends where it should. -/
lemma takeWhile_join : (join (x :: xs)).takeWhile inLine = x.bytes := by
  cases xs with
  | nil =>
    have all : (x.bytes ++ []).takeWhile inLine = x.bytes ++ [] := takeWhile_append_of_pos x.inside
    rwa [append_nil] at all
  | cons =>
    rw [join_cons_cons, takeWhile_append_of_pos x.inside]
    exact append_nil _

/-- Every line with its end, and the empty line. -/
lemma join_encode : x.bytes ++ [cr, lf] ++ xs.flatMap (fun line => line.bytes ++ [cr, lf]) ++ [cr, lf] =
    join (x :: xs) ++ [cr, lf, cr, lf] := by
  induction xs generalizing x with
  | nil => simp [join]
  | cons y _ ih =>
    have rest := ih (x := y)
    simp only [append_assoc, cons_append, nil_append] at rest
    simp [join_cons_cons, rest]

/-! ## The empty line -/

lemma text_emptyLine : text "\r\n\r\n" = [cr, lf, cr, lf] := by decide

/-- The search goes on at another byte. -/
lemma indexOf_cons_of_ne {b : UInt8} {rest : Bytes} (other : b ≠ cr) :
    indexOf [cr, lf, cr, lf] (b :: rest) = (indexOf [cr, lf, cr, lf] rest).map (· + 1) := by
  have no : (cr == b) = false := beq_false_of_ne other.symm
  rw [indexOf, List.isPrefixOf, no, Bool.false_and, if_neg Bool.false_ne_true]

/-- A line has no carriage return. -/
lemma ne_cr_of_inLine {b : UInt8} (inside : inLine b = true) : b ≠ cr := by
  rintro rfl
  cases inside

/-- The search goes on after a line. -/
lemma indexOf_skip {part rest : Bytes} (inside : ∀ b ∈ part, inLine b = true) :
    indexOf [cr, lf, cr, lf] (part ++ rest) = (indexOf [cr, lf, cr, lf] rest).map (· + part.length) := by
  induction part with
  | nil => simp
  | cons _ _ ih =>
    obtain ⟨here, inside⟩ := List.forall_mem_cons.mp inside
    rw [List.cons_append, indexOf_cons_of_ne (ne_cr_of_inLine here), ih inside, Option.map_map]
    rfl

/-- The empty line of a request is the first one. -/
lemma indexOf_join (tail : Bytes) : ∀ (x : Line) (xs : List Line),
    indexOf [cr, lf, cr, lf] (join (x :: xs) ++ ([cr, lf, cr, lf] ++ tail)) = some (join (x :: xs)).length
  | x, [] => by
    have here : indexOf [cr, lf, cr, lf] ([cr, lf, cr, lf] ++ tail) = some 0 := rfl
    change indexOf _ (x.bytes ++ _) = _
    rw [indexOf_skip x.inside, here, map_some, Nat.zero_add]
    rfl
  | x, y :: xs => by
    have ih := indexOf_join tail y xs
    obtain ⟨b, rest, split, inside⟩ : ∃ b rest, join (y :: xs) = b :: rest ∧ inLine b = true := exists_join
    -- the end of a line is followed by another line
    have no : (cr == b) = false := beq_false_of_ne (ne_cr_of_inLine inside).symm
    have here : [cr, lf, cr, lf].isPrefixOf (cr :: lf :: (join (y :: xs) ++ ([cr, lf, cr, lf] ++ tail))) = false := by
      rw [split]
      simp [List.isPrefixOf, no]
    rw [join_cons_cons, append_assoc, indexOf_skip x.inside, cons_append, cons_append, indexOf, here,
      if_neg Bool.false_ne_true, indexOf_cons_of_ne (by decide), ih]
    simp only [map_some, length_append, length_cons]
    congr 1
    omega

/-- The lines end where the last of them ends. -/
lemma headLimit_join {tail : Bytes} (within : (join (x :: xs)).length + 4 ≤ 4096) :
    headLimit (join (x :: xs) ++ ([cr, lf, cr, lf] ++ tail)) = (join (x :: xs)).length := by
  have taken : (join (x :: xs) ++ ([cr, lf, cr, lf] ++ tail)).take 4096 =
      join (x :: xs) ++ ([cr, lf, cr, lf] ++ tail.take (4092 - (join (x :: xs)).length)) := by
    have size : [cr, lf, cr, lf].length = 4 := rfl
    rw [take_append, take_of_length_le (by omega), take_append, take_of_length_le (by omega), size,
      show 4096 - (join (x :: xs)).length - 4 = 4092 - (join (x :: xs)).length by omega]
  unfold headLimit
  rw [taken, text_emptyLine, indexOf_join]
  rfl

/-! ## The loop -/

/-- One turn reads one line; after the last one it is past the limit. -/
lemma parseLine_join {whole after : Bytes} {lineStart : Nat} (left : whole.drop lineStart = join (x :: xs)) :
    parseLine (whole ++ after) whole.length lineStart =
      if namesHost x.bytes then .ok (.inr (hostValue x.bytes))
      else .ok (.inl (if xs = [] then whole.length + 1 else lineStart + (x.bytes.length + 2))) := by
  have total : whole.length - lineStart = (join (x :: xs)).length := by rw [← left, length_drop]
  obtain ⟨b, rest, split, _⟩ : ∃ b rest, join (x :: xs) = b :: rest ∧ inLine b = true := exists_join
  have below : lineStart < whole.length := by
    rw [split, length_cons] at total
    omega
  have within : whole.length ≤ (whole ++ after).length := by
    rw [length_append]
    omega
  rw [parseLine_eq (Nat.le_of_lt below) within, take_left, left, takeWhile_join]
  dsimp only
  split
  · rfl
  · rw [nextLine_eq within]
    cases xs with
    | nil =>
      have last : lineStart + x.bytes.length = whole.length := by
        change _ = x.bytes.length at total
        omega
      rw [last, if_neg (by omega)]
      rfl
    | cons y xs =>
      rw [join_cons_cons] at left total
      obtain ⟨c, more, next, _⟩ : ∃ c more, join (y :: xs) = c :: more ∧ inLine c = true := exists_join
      rw [next, length_append, length_cons, length_cons, length_cons] at total
      have read : ∀ k, k < x.bytes.length + 2 →
          (whole ++ after)[lineStart + k]? = (x.bytes ++ cr :: lf :: join (y :: xs))[k]? := by
        intro k few
        rw [List.getElem?_append_left (by omega), ← List.getElem?_drop, left]
      have first : (whole ++ after)[lineStart + x.bytes.length]? = some cr := by
        rw [read _ (by omega), List.getElem?_append_right (Nat.le_refl _), Nat.sub_self]
        rfl
      have second : (whole ++ after)[lineStart + x.bytes.length + 1]? = some lf := by
        rw [Nat.add_assoc, read _ (by omega), List.getElem?_append_right (Nat.le_add_right _ _),
          Nat.add_sub_cancel_left]
        rfl
      rw [if_pos ⟨by omega, first, second⟩, if_neg (cons_ne_nil _ _)]
      rfl

/-- The loop visits the lines one by one. -/
lemma parse_lines {after : Bytes} :
    loop .iterations (fun lineStart => .ok (decide (lineStart < (join (x :: xs)).length)))
      (parseLine (join (x :: xs) ++ after) (join (x :: xs)).length) (fun _ => [])
      (join (x :: xs) ++ after).length 0 = .ok (firstHost (x :: xs)) := by
  -- what is left are lines with the same first header, or none of the lines is one
  refine returns_eq.mp (loop_returns
    (fun lineStart => (∃ y ys, (join (x :: xs)).drop lineStart = join (y :: ys) ∧
        firstHost (y :: ys) = firstHost (x :: xs)) ∨
      (join (x :: xs)).length ≤ lineStart ∧ firstHost (x :: xs) = [])
    (fun lineStart => (join (x :: xs)).length - lineStart) ?_ (.inl ⟨x, xs, drop_zero, rfl⟩)
    (by rw [length_append]; omega))
  generalize join (x :: xs) = whole
  rintro lineStart (⟨y, ys, left, same⟩ | ⟨_, none⟩)
  · have total : whole.length - lineStart = (join (y :: ys)).length := by rw [← left, length_drop]
    obtain ⟨b, rest, split, _⟩ : ∃ b rest, join (y :: ys) = b :: rest ∧ inLine b = true := exists_join
    rw [split, length_cons] at total
    refine .ok ⟨fun _ => ⟨by omega, ?_⟩, fun ended => ?_⟩
    · rw [parseLine_join left]
      refine .ite (fun named => .ok ?_) fun other => .ok ?_
      · rw [← same]
        exact (firstHost_take named).symm
      · rw [Bool.not_eq_true] at other
        cases ys with
        | nil =>
          refine ⟨.inr ⟨Nat.le_succ _, ?_⟩, ?_⟩
          · rw [← same, firstHost_skip other]
            rfl
          · rw [if_pos rfl]
            omega
        | cons z ys =>
          rw [if_neg (cons_ne_nil _ _)]
          refine ⟨.inl ⟨z, ys, ?_, (firstHost_skip other).symm.trans same⟩, by omega⟩
          rw [← drop_drop, left, join_cons_cons, ← drop_drop, drop_left]
          rfl
    · rw [decide_eq_false_iff_not] at ended
      omega
  · refine .ok ⟨fun below => ?_, fun _ => none.symm⟩
    rw [decide_eq_true_eq] at below
    omega

/-! ## The first line -/

/-- A method has no line break. -/
lemma method_inside : ∀ method ∈ methods, (text method ++ [space]).all inLine = true := by decide

/-- A method is no header. -/
lemma method_not_host : ∀ method ∈ methods,
    4 ≤ (text method ++ [space]).length ∧ ((text method ++ [space]).take 4).map toLower ≠ text "host" := by decide

/-- The parser knows the methods. -/
lemma method_listed : ∀ method ∈ methods,
    ∃ listed ∈ ["GET ", "POST ", "PUT ", "HEAD ", "DELETE ", "PATCH ", "OPTIONS ", "CONNECT "],
      text listed = text method ++ [space] := by decide

namespace RequestHead

variable (head : RequestHead)

/-- The request line starts with the method. -/
lemma requestLine_eq : head.requestLine = text head.method ++ [space] ++ head.target := by
  unfold requestLine
  rw [append_assoc]
  rfl

def firstLine : Line where
  bytes := head.requestLine
  nonempty := by simp [requestLine]
  inside := by
    rw [requestLine_eq]
    exact forall_mem_append.mpr ⟨all_eq_true.mp (method_inside _ head.listed), head.inside⟩

/-- A head as its lines. -/
lemma encode_eq : head.encode = join (head.firstLine :: head.headers) ++ [cr, lf, cr, lf] :=
  join_encode (x := head.firstLine)

/-- The request line names no host. -/
lemma namesHost_requestLine : namesHost head.requestLine = false := by
  rw [Bool.eq_false_iff]
  intro named
  obtain ⟨_, name, split, is⟩ := namesHost_iff.mp named
  obtain ⟨long, other⟩ := method_not_host _ head.listed
  have length : name.length = 4 := by
    have length := congrArg List.length is
    rwa [length_map, text_host] at length
  have taken : (text head.method ++ [space] ++ head.target).take 4 = (text head.method ++ [space]).take 4 :=
    take_append_of_le_length long
  have first : (text head.method ++ [space]).take 4 = name := by
    rw [← taken, ← requestLine_eq, split, ← length, take_left]
  exact other (first ▸ is)

/-- A request head looks like HTTP. -/
lemma looksLikeHTTP_encode (tail : Bytes) : looksLikeHTTP (head.encode ++ tail) = true := by
  obtain ⟨listed, mem, same⟩ := method_listed _ head.listed
  unfold looksLikeHTTP
  refine any_eq_true.mpr ⟨listed, mem, ?_⟩
  rw [ isPrefixOf_iff_prefix, same, encode, requestLine_eq]
  simp only [append_assoc (_ ++ [space])]
  exact prefix_append _ _

/-- The parser returns what its lines say. -/
lemma parse_encode (tail : Bytes) (long : 16 ≤ head.encode.length) (within : head.encode.length ≤ 4096) :
    parseHTTPHost (head.encode ++ tail) = .ok (firstHost head.headers) := by
  have enough : ¬(decide ((head.encode ++ tail).length < 16) || !looksLikeHTTP (head.encode ++ tail)) = true := by
    rw [looksLikeHTTP_encode, length_append]
    simp
    omega
  rw [parseHTTPHost_eq, if_neg enough]
  rw [encode_eq, length_append] at within
  rw [encode_eq, append_assoc, headLimit_join within, parse_lines, firstHost_skip head.namesHost_requestLine]

end RequestHead

/-- The parser returns the host of the first `Host` header of a request head, whatever follows the head, exactly if
the host does not stand in brackets; without such a header it returns nothing. -/
theorem host_of_request (head : RequestHead) (tail : Bytes) (long : 16 ≤ head.encode.length)
    (within : head.encode.length ≤ 4096) :
    (∀ before line after value host, head.headers = before ++ line :: after →
        (∀ other ∈ before, ∀ value, ¬IsHostLine other.bytes value) → IsHostLine line.bytes value →
        IsHostValue value host →
        (parseHTTPHost (head.encode ++ tail) = .ok host ↔ host.head? ≠ some 0x5b)) ∧
      ((∀ line ∈ head.headers, ∀ value, ¬IsHostLine line.bytes value) →
        parseHTTPHost (head.encode ++ tail) = .ok []) := by
  rw [head.parse_encode tail long within]
  constructor
  · intro before line after value host split others names is
    rw [split, firstHost_append others, firstHost_take (namesHost_iff.mpr ⟨value, names⟩), Except.ok.injEq,
      hostValue_eq_iff names is]
  · intro absent
    rw [← append_nil head.headers, firstHost_append absent]
    rfl

/-- The line `Host: ` with a value. -/
def sampleHost (value : Bytes) (inside : value.all inLine = true) : Line where
  bytes := text "Host: " ++ value
  nonempty := by simp [text]
  inside := forall_mem_append.mpr ⟨all_eq_true.mp (by decide), all_eq_true.mp inside⟩

/-- A request with one header. -/
def sampleRequest (host : Line) : RequestHead where
  method := "GET"
  target := text "/ HTTP/1.1"
  headers := [host]
  listed := by decide
  inside := all_eq_true.mp (by decide)

/-- A registered name with a port. -/
theorem host_of_request_name :
    let head := sampleRequest (sampleHost (text "a.b:80") (by decide))
    parseHTTPHost (head.encode ++ text "body") = .ok (text "a.b") := by
  intro head
  have names : IsHostLine (text "Host: a.b:80") (text " a.b:80") := ⟨text "Host", rfl, by decide⟩
  have value : IsHostValue (text " a.b:80") (text "a.b") :=
    ⟨[space], text ":80", [], rfl, .name (all_eq_true.mp (by decide)),
      @IsPort.some (text "80") (all_eq_true.mp (by decide)), all_eq_true.mp (by decide), nofun⟩
  exact ((host_of_request head (text "body") (by decide) (by decide)).1 [] _ [] _ _ rfl nofun names value).mpr
    (by decide)

/-- Of an IPv6 address the parser returns what stands before the first colon. -/
theorem bracketed_host_cut :
    let line := sampleHost (text "[::1]") (by decide)
    let head := sampleRequest line
    head.headers = [line] ∧ IsHostLine line.bytes (text " [::1]") ∧ IsHostValue (text " [::1]") (text "[::1]") ∧
      16 ≤ head.encode.length ∧ head.encode.length ≤ 4096 ∧ parseHTTPHost head.encode = .ok (text "[") ∧
      text "[" ≠ text "[::1]" := by
  refine ⟨rfl, ⟨text "Host", rfl, by decide⟩, ⟨[space], [], [], rfl, ?_, .none, ?_, nofun⟩, by decide, by decide, rfl,
    by decide⟩
  · exact @IsHost.ipv6 (text "::1") (all_eq_true.mp (by decide)) (by decide)
  · exact all_eq_true.mp (by decide)

end MeowFrp.Dpi.Engine
