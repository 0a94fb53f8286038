/-
Module: BllvmConsensus.Core.Serialization
Layer: Core
Purpose: Little-endian integer encodings, the Bitcoin varint (`encode_varint` of
  `transaction_hash.rs`), the byte layouts of outpoints, inputs, outputs and transactions, the
  transaction id, and the block-header hash (`compute_block_hash` of `initial_sync.rs`).
Trusted boundary: the crate's `serialization` module is declared in `serialization/mod.rs` but its
  files are not in the source tree; `serializeTransaction` and `calculateTxIdSpec` are modelled
  from the spec's wire formats (§6).
Main exports: encodeVarint, u32Bytes, i64Bytes, inputBytes, outputBytes, serializeTransaction,
  calculateTxIdSpec, computeBlockHash
-/
import BllvmConsensus.Core.Digest

namespace BllvmConsensus

open Digest

/-- `encode_varint`: one byte below `0xfd`, then `0xfd`, `0xfe` or `0xff` followed by two, four or
eight little-endian bytes. Callers pass lengths, `len() as u64`, which never truncates. -/
def encodeVarint (value : Nat) : ByteString :=
  if value < 0xfd then [value.toUInt8]
  else if value ≤ 0xffff then 0xfd :: leBytes value 2
  else if value ≤ 0xffffffff then 0xfe :: leBytes value 4
  else 0xff :: leBytes value 8

/-- `to_le_bytes` of a 32-bit field. -/
def u32Bytes (x : UInt32) : ByteString := leBytes x.toNat 4

/-- `to_le_bytes` of an `i64`: the eight bytes of its two's complement. -/
def i64Bytes (x : I64) : ByteString := leBytes (x.toInt % 2 ^ 64).toNat 8

/-- An outpoint on the wire: the 32 hash bytes, then the index. -/
def outPointBytes (p : OutPoint) : ByteString := p.hash.bytes ++ u32Bytes p.index

/-- An input as `calculate_transaction_sighash` writes it, which is also its wire layout (§6):
outpoint, script length, script, sequence. -/
def inputBytes (input : TransactionInput) : ByteString :=
  outPointBytes input.prevout ++ encodeVarint input.scriptSig.length ++ input.scriptSig ++
    u32Bytes input.sequence

/-- An output as `calculate_transaction_sighash` writes it, which is also its wire layout (§6):
value, script length, script. -/
def outputBytes (output : TransactionOutput) : ByteString :=
  i64Bytes output.value ++ encodeVarint output.scriptPubkey.length ++ output.scriptPubkey

/-- Modelled from the spec: `serialize_transaction`, the non-segwit wire form (§6):
`version LE4 || varint(nin) || inputs || varint(nout) || outputs || lock_time LE4`. -/
def serializeTransaction (tx : Transaction) : ByteString :=
  u32Bytes tx.version ++ encodeVarint tx.inputs.length ++ tx.inputs.flatMap inputBytes ++
    encodeVarint tx.outputs.length ++ tx.outputs.flatMap outputBytes ++ u32Bytes tx.lockTime

/-- Modelled from the spec: the transaction id, the double SHA-256 of the wire form. -/
def calculateTxIdSpec (tx : Transaction) : Hash := doubleSha256 (serializeTransaction tx)

/-- `compute_block_hash`: the double SHA-256 of the 80-byte header. -/
def computeBlockHash (header : BlockHeader) : Hash :=
  doubleSha256 (u32Bytes header.version ++ header.prevBlockHash.bytes ++ header.merkleRoot.bytes ++
    u32Bytes header.timestamp ++ u32Bytes header.bits ++ u32Bytes header.nonce)

/-! ### Lengths -/

@[simp] theorem leBytes_length (n k : Nat) : (leBytes n k).length = k := by
  induction k generalizing n with
  | zero => rfl
  | succ k ih => simp [leBytes, ih]

@[simp] theorem u32Bytes_length (x : UInt32) : (u32Bytes x).length = 4 := leBytes_length _ _

@[simp] theorem i64Bytes_length (x : I64) : (i64Bytes x).length = 8 := leBytes_length _ _

/-- A varint is one, three, five or nine bytes long. -/
theorem encodeVarint_length (value : Nat) :
    (encodeVarint value).length =
      if value < 0xfd then 1 else if value ≤ 0xffff then 3 else if value ≤ 0xffffffff then 5
      else 9 := by
  unfold encodeVarint
  split_ifs <;> simp

theorem encodeVarint_length_pos (value : Nat) : 0 < (encodeVarint value).length := by
  rw [encodeVarint_length]; split_ifs <;> omega

end BllvmConsensus
