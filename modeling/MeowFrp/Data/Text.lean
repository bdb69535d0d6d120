import Mathlib.Data.List.Basic
import Mathlib.Data.List.DropRight

/-!
# Text normalisation

The string functions of the Go standard library that the server's checks rely on.
-/

namespace MeowFrp

open List

/-- Go `unicode.IsSpace`. -/
def isSpace (c : Char) : Bool :=
  let n := c.toNat
  (9 ≤ n && n ≤ 13) || n = 32 || n = 0x85 || n = 0xA0 || n = 0x1680 ||
    (0x2000 ≤ n && n ≤ 0x200A) || n = 0x2028 || n = 0x2029 || n = 0x202F || n = 0x205F || n = 0x3000

/-- Go `strings.TrimSpace`. -/
def trimSpace (s : String) : String :=
  String.ofList ((s.toList.dropWhile isSpace).reverse.dropWhile isSpace).reverse

/-- Trimming twice is trimming once: what is left begins and ends with something kept. -/
lemma trimSpace_trimSpace (s : String) : trimSpace (trimSpace s) = trimSpace s := by
  unfold trimSpace
  rw [String.toList_ofList]
  generalize eq : s.toList.dropWhile isSpace = kept
  -- the trimmed text is a prefix of `kept`, so it starts where `kept` does
  have front : (kept.reverse.dropWhile isSpace).reverse.dropWhile isSpace =
      (kept.reverse.dropWhile isSpace).reverse := by
    have start : kept.rdropWhile isSpace <+: kept := rdropWhile_prefix _ _
    change (kept.rdropWhile isSpace).dropWhile isSpace = kept.rdropWhile isSpace
    rw [dropWhile_eq_self_iff]
    intro len
    have whole : kept.dropWhile isSpace = kept := by
      rw [← eq]
      exact dropWhile_idempotent _ _
    rw [start.getElem len]
    exact dropWhile_eq_self_iff.mp whole (len.trans_le start.length_le)
  rw [front, reverse_reverse]
  congr 2
  exact dropWhile_idempotent _ _

/-- Go `strings.TrimPrefix`. -/
def cutStart (s start : String) : String :=
  if start.toList.isPrefixOf s.toList then String.ofList (s.toList.drop start.length) else s

@[simp]
lemma cutStart_empty {start : String} : cutStart "" start = "" := by
  unfold cutStart
  split
  · simp
  · rfl

/-- Go `net.SplitHostPort`; `none` is an error. The port starts after the last colon; a host in brackets ends
before it, any other has no colon. -/
def splitHostPort (s : String) : Option (String × String) :=
  let hostport := s.toList
  let port := (hostport.reverse.takeWhile (· ≠ ':')).reverse
  let host := hostport.take (hostport.length - port.length - 1)
  if !hostport.contains ':' then none
  else if hostport.head? = some '[' then
    let inner := hostport.tail.takeWhile (· ≠ ']')
    if inner.length + 2 = host.length && !hostport.tail.contains '[' &&
        !(hostport.drop (inner.length + 2)).contains ']' then
      some (String.ofList inner, String.ofList port)
    else none
  else if host.contains ':' || hostport.contains '[' || hostport.contains ']' then none
  else some (String.ofList host, String.ofList port)

example : splitHostPort "[::1]:80" = some ("::1", "80") ∧ splitHostPort "10.0.0.1:443" = some ("10.0.0.1", "443") ∧
    splitHostPort "::1" = none := by decide

/-- Go `unicode.ToLower`, where its result is an ASCII letter. -/
def lowerRune (c : Char) : Char :=
  if c.toNat = 0x130 then 'i' else if c.toNat = 0x212A then 'k' else c.toLower

/-- Go `strings.ToLower`, to be compared with ASCII texts. -/
def toLower (s : String) : String := String.ofList (s.toList.map lowerRune)

/-- The protocols a proxy can have. -/
def knownProtocols : List String := ["tcp", "udp", "http", "https", "tcpmux", "stcp", "xtcp"]

/-- Go `normalizeProtocolList`: lower case, known, without repetition. -/
def normalizeProtocolList (protocols : List String) : List String :=
  protocols.foldl (fun normalized protocol =>
    let protocol := toLower (trimSpace protocol)
    if knownProtocols.contains protocol && !normalized.contains protocol then
      normalized ++ [protocol]
    else normalized) []

example : normalizeProtocolList [" TCP", "ftp", "udp", "tcp"] = ["tcp", "udp"] := by decide

/-- Go `splitCSV` of a joined list: the trimmed, non-empty pieces. -/
def splitCsv (values : List String) : List String :=
  ((values.flatMap fun v => (v.toList.splitOn ',').map String.ofList).map trimSpace).filter (· ≠ "")

example : splitCsv ["http, tls", "", " quic"] = ["http", "tls", "quic"] := by decide

end MeowFrp
