import MeowFrp.Lib.Fallible

/-!
# The parsers of the inspection engine

Model of the parsers of Go `internal/dpiengine/composite.go`: the host of an HTTP request and the server name of
a TLS ClientHello. An index or a slice expression out of range is an error, as it is a panic in Go, and so is a
loop that runs its body more often than the slice has bytes. Texts are byte strings; positions are natural
numbers, since none of them is negative where the source uses it.
-/

namespace MeowFrp.Dpi

/-- The bytes of a payload, or of a text found in one. -/
abbrev Bytes := List UInt8

/-- Go `dpiengine.FlowContext` without the local address, the user name and the metas. -/
structure FlowContext where
  userId : Nat := 0
  tokenId : Nat := 0
  clientId : String := ""
  leaseId : String
  proxyName : String := ""
  proxyType : String := ""
  remotePort : Nat := 0
  remoteAddr : String := ""
  deriving DecidableEq, Repr

/-- Go `dpiengine.Finding`; the confidence in hundredths. -/
structure Finding where
  detector : String
  protocol : String := ""
  host : Bytes := []
  sni : Bytes := []
  targetIp : String := ""
  confidence : Nat := 0
  summary : String := ""
  deriving DecidableEq, Repr

namespace Engine

open Lib

/-- What a run of a parser cannot recover from. -/
inductive Fault where
  | index
  | slice
  | iterations
  deriving DecidableEq, Repr

/-- The bytes of an ASCII text. -/
def text (s : String) : Bytes := s.toList.map fun c => UInt8.ofNat c.toNat

def cr : UInt8 := 0x0d

def lf : UInt8 := 0x0a

def space : UInt8 := 0x20

def tab : UInt8 := 0x09

def colon : UInt8 := 0x3a

/-- `data[i]`. -/
def index (data : Bytes) (i : Nat) : Except Fault UInt8 :=
  match data[i]? with
  | some b => .ok b
  | none => .error .index

/-- `data[start:stop]`. -/
def slice (data : Bytes) (start stop : Nat) : Except Fault Bytes :=
  if start ≤ stop && stop ≤ data.length then .ok ((data.drop start).take (stop - start)) else .error .slice

/-- Go `binary.BigEndian.Uint16`. -/
def uint16 (data : Bytes) : Except Fault Nat := do
  return (← index data 0).toNat * 256 + (← index data 1).toNat

/-- Go `bytes.Index`. -/
def indexOf (sub : Bytes) : Bytes → Option Nat
  | [] => if sub.isEmpty then some 0 else none
  | b :: data => if sub.isPrefixOf (b :: data) then some 0 else (indexOf sub data).map (· + 1)

/-! ## HTTP -/

/-- Go `looksLikeHTTP`. -/
def looksLikeHTTP (data : Bytes) : Bool :=
  ["GET ", "POST ", "PUT ", "HEAD ", "DELETE ", "PATCH ", "OPTIONS ", "CONNECT "].any fun method =>
    (text method).isPrefixOf data

/-- Go `equalFoldByte`. -/
def equalFoldByte (actual expectedLower : UInt8) : Bool :=
  (if 0x41 ≤ actual && actual ≤ 0x5a then actual + 0x20 else actual) = expectedLower

/-- Skip the blanks before the value of a header. -/
def skipBlanks (data : Bytes) (lineEnd start : Nat) : Except Fault Nat :=
  loop .iterations
    (fun start => do
      if start < lineEnd then
        let b ← index data start
        return b = space || b = tab
      else return false)
    (fun start => .ok (.inl (start + 1))) id data.length start

/-- Go `hostValueStart`, with `none` for -1. -/
def hostValueStart (data : Bytes) (lineStart lineEnd : Nat) : Except Fault (Option Nat) := do
  if lineEnd - lineStart < 5 then
    return none
  if !equalFoldByte (← index data lineStart) 0x68 then
    return none
  if !equalFoldByte (← index data (lineStart + 1)) 0x6f then
    return none
  if !equalFoldByte (← index data (lineStart + 2)) 0x73 then
    return none
  if !equalFoldByte (← index data (lineStart + 3)) 0x74 then
    return none
  if (← index data (lineStart + 4)) ≠ colon then
    return none
  return some (← skipBlanks data lineEnd (lineStart + 5))

/-- The end of the line that starts at a position. -/
def findLineEnd (data : Bytes) (limit lineStart : Nat) : Except Fault Nat :=
  loop .iterations
    (fun lineEnd => do
      if lineEnd < limit then
        let b ← index data lineEnd
        return b ≠ cr && b ≠ lf
      else return false)
    (fun lineEnd => .ok (.inl (lineEnd + 1))) id data.length lineStart

/-- The end of the host in the value of its header. -/
def findValueEnd (data : Bytes) (lineEnd valueStart : Nat) : Except Fault Nat :=
  loop .iterations (fun valueEnd => .ok (decide (valueEnd < lineEnd)))
    (fun valueEnd => do
      let b ← index data valueEnd
      if b = space || b = tab || b = colon then return .inr valueEnd else return .inl (valueEnd + 1))
    id data.length valueStart

/-- The start of the line after the one that ends at a position. -/
def nextLine (data : Bytes) (limit lineEnd : Nat) : Except Fault Nat := do
  let lineStart := lineEnd + 1
  if lineStart < limit then
    if (← index data (lineStart - 1)) = cr then
      if (← index data lineStart) = lf then
        return lineStart + 1
  return lineStart

/-- One line of a request: the host, or where the next line starts. -/
def parseLine (data : Bytes) (limit lineStart : Nat) : Except Fault (Nat ⊕ Bytes) := do
  let lineEnd ← findLineEnd data limit lineStart
  match ← hostValueStart data lineStart lineEnd with
  | some valueStart =>
    let valueEnd ← findValueEnd data lineEnd valueStart
    if valueStart < valueEnd then return .inr (← slice data valueStart valueEnd) else return .inr []
  | none => return .inl (← nextLine data limit lineEnd)

/-- Go `ParseHTTPHost`. -/
def parseHTTPHost (data : Bytes) : Except Fault Bytes := do
  if data.length < 16 || !looksLikeHTTP data then
    return []
  let limit := min data.length 4096
  let head ← slice data 0 limit
  let limit := (indexOf (text "\r\n\r\n") head).getD limit
  loop .iterations (fun lineStart => .ok (decide (lineStart < limit))) (parseLine data limit) (fun _ => [])
    data.length 0

/-! ## TLS -/

/-- Go `parseSNIExtension`. -/
def parseSNIExtension (data : Bytes) : Except Fault Bytes := do
  if data.length < 5 then
    return []
  let listLen ← uint16 (← slice data 0 2)
  let stop := min (2 + listLen) data.length
  if stop < 5 then
    return []
  let nameType ← index data 2
  let nameLen ← uint16 (← slice data 3 5)
  if nameType = 0 && 0 < nameLen && 5 + nameLen ≤ stop then slice data 5 (5 + nameLen) else return []

/-- One extension: the server name, or where the next extension starts. -/
def parseExtension (record : Bytes) (stop pos : Nat) : Except Fault (Nat ⊕ Bytes) := do
  let extType ← uint16 (← slice record pos (pos + 2))
  let extDataLen ← uint16 (← slice record (pos + 2) (pos + 4))
  let pos := pos + 4
  if stop < pos + extDataLen then
    return .inr []
  if extType = 0 then
    return .inr (← parseSNIExtension (← slice record pos (pos + extDataLen)))
  return .inl (pos + extDataLen)

/-- The extensions of a ClientHello. -/
def parseExtensions (record : Bytes) (stop pos : Nat) : Except Fault Bytes :=
  loop .iterations (fun pos => .ok (decide (pos + 4 ≤ stop))) (parseExtension record stop) (fun _ => [])
    record.length pos

/-- Go `parseClientHelloRecord`. -/
def parseClientHelloRecord (record : Bytes) : Except Fault Bytes := do
  if record.length < 4 then
    return []
  if (← index record 0) ≠ 1 then
    return []
  let hsLen := (← index record 1).toNat * 65536 + (← index record 2).toNat * 256 + (← index record 3).toNat
  if record.length - 4 < hsLen then
    return []
  if 4 + hsLen < 38 then
    return []
  let pos := 38
  if record.length ≤ pos then
    return []
  let sidLen := (← index record pos).toNat
  let pos := pos + (1 + sidLen)
  if record.length < pos + 2 then
    return []
  let csLen ← uint16 (← slice record pos (pos + 2))
  let pos := pos + (2 + csLen)
  if record.length ≤ pos then
    return []
  let compLen := (← index record pos).toNat
  let pos := pos + (1 + compLen)
  if record.length < pos + 2 then
    return []
  let extLen ← uint16 (← slice record pos (pos + 2))
  let pos := pos + 2
  parseExtensions record (min (pos + extLen) record.length) pos

/-- One position of the search: the server name, or where to search on. -/
def parseRecord (buffer : Bytes) (offset : Nat) : Except Fault (Nat ⊕ Bytes) := do
  if (← index buffer offset) ≠ 0x16 then
    return .inl (offset + 1)
  let version ← uint16 (← slice buffer (offset + 1) (offset + 3))
  if version < 0x0301 then
    return .inl (offset + 1)
  let recordLen ← uint16 (← slice buffer (offset + 3) (offset + 5))
  if recordLen = 0 || 16384 < recordLen then
    return .inl (offset + 1)
  if buffer.length < offset + 5 + recordLen then
    return .inr []
  let sni ← parseClientHelloRecord (← slice buffer (offset + 5) (offset + 5 + recordLen))
  if sni ≠ [] then
    return .inr sni
  return .inl (offset + (5 + recordLen))

/-- Go `parseTLSClientHelloSNI`. -/
def parseTLSClientHelloSNI (buffer : Bytes) : Except Fault Bytes :=
  loop .iterations (fun offset => .ok (decide (offset + 5 ≤ buffer.length))) (parseRecord buffer) (fun _ => [])
    buffer.length 0

end Engine

end MeowFrp.Dpi
