import MeowFrp.Data.Snapshot
import MeowFrp.Db.Store
import MeowFrp.Lib.Chunks

/-!
# The control channel

The messages of the control stream between the controller and an edge (Go `internal/cluster/protocol.go`)
as far as the transfer of identities and the admission of clients depend on them. The stream is FIFO in
both directions; the types of the messages are those of the source, with the fields that their receivers
read. Both sides speak the paged protocol (`cache_protocol` 3).
-/

namespace MeowFrp.Cluster

/-- Go `identityChunkBytes`. -/
def identityChunkBytes : Nat := 512 * 1024

/-- A chunk holds at least one byte. -/
lemma identityChunkBytes_pos : 0 < identityChunkBytes := by decide

/-- The JSON encoding of a snapshot. -/
structure Codec (Byte : Type) where
  encode : IdentitySnapshot → List Byte
  decode : List Byte → Option IdentitySnapshot
  decode_encode : ∀ snap, decode (encode snap) = some snap

/-- A payload of one symbol. -/
def sampleCodec : Codec IdentitySnapshot where
  encode snapshot := [snapshot]
  decode
    | [snapshot] => some snapshot
    | _ => none
  decode_encode _ := rfl

/-- What the controller sends. -/
inductive DownMsg (Byte : Type) where
  | welcome (epoch : CacheSessionId) (controllerFault : Bool)
  | identityChunk (epoch : CacheSessionId) (revision sequence index total : Nat) (data : List Byte)
  | identityConfirmed (epoch : CacheSessionId) (revision : Nat) (syncComplete : Bool)
  | heartbeatAck (controllerFault : Bool)
  | controllerState (controllerFault : Bool)
  deriving DecidableEq, Repr

/-- What the edge sends. -/
inductive UpMsg where
  | hello (admissionProtocol : Nat)
  | heartbeat
  | cacheCleared (epoch : CacheSessionId)
  | identityChunkAck (epoch : CacheSessionId) (revision sequence : Nat)
  | identityProgress (epoch : CacheSessionId) (revision sequence : Nat)
  | identityAck (epoch : CacheSessionId) (revision : Nat)
  deriving DecidableEq, Repr

end MeowFrp.Cluster
