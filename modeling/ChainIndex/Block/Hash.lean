import ChainIndex.Sha256
import ChainIndex.Text.Base64
import ChainIndex.Text.Hex

/-!
# ChainIndex.Block.Hash

Block hashes: 32 opaque bytes, written as `0x` and 64 lower-case hexadecimal digits.

A chain whose blocks are numbered but have no hash of their own gets one derived: the
SHA-256 digest of the network's genesis bytes followed by the block number as eight bytes,
big endian.
-/

namespace ChainIndex

open Text

/-- The hash of a block. -/
structure BlockHash where
  bytes : Vector UInt8 32
  deriving DecidableEq

namespace BlockHash

/-- The hash of 32 zero bytes, the parent of the first block. -/
def zero : BlockHash := ⟨Vector.replicate 32 0⟩

/-- The written form of a hash. -/
def toText (hash : BlockHash) : String :=
  "0x" ++ Hex.encode hash.bytes.toList

/-- A text without one leading `0x`, if it has one. -/
def dropMarker (text : String) : String :=
  match text.toList with
  | '0' :: 'x' :: rest => String.ofList rest
  | _ => text

/-- Reads 64 digits of either case, with or without the marker `0x`. -/
def ofText (text : String) : Except Hex.HexError BlockHash := do
  let bytes ← Hex.decodeSized 32 (dropMarker text)
  return ⟨Vector.ofFn fun i => bytes.getD i.val 0⟩

instance : ToString BlockHash := ⟨toText⟩

end BlockHash

/-- The bytes a genesis text contributes to the hashes of its network: those it encodes in
base64, or else its own. -/
def genesisBytes (genesis : String) : List UInt8 :=
  (Base64.decode? genesis).getD genesis.toUTF8.toList

/-- The bytes that identify block `number` of the network with this genesis text. -/
def hashPreimage (genesis : String) (number : UInt64) : List UInt8 :=
  genesisBytes genesis ++ Sha256.bigEndianBytes number

/-- The derived hash of block `number`. -/
def deriveHash (genesis : String) (number : UInt64) : BlockHash :=
  ⟨Sha256.digest (hashPreimage genesis number)⟩

end ChainIndex
