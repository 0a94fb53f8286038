/-
Module: BllvmConsensus.Core.TransactionHash
Layer: Core
Purpose: `transaction_hash.rs`: the `SighashType` enum with its `from_byte` parser and `BitOr`
  impl, and `calculate_transaction_sighash`, the double SHA-256 of a preimage assembled from the
  version, the inputs (masked or written out), the outputs the type selects, the lock time and the
  type's discriminant.
Trusted boundary: none
Main exports: SighashType, SighashType.fromByte, SighashType.bitor, SighashType.discriminant,
  zeroedInputBytes, sighashInputs, sighashOutputs, sighashPreimage, calculateTransactionSighash
-/
import BllvmConsensus.Core.Serialization

namespace BllvmConsensus

/-!
Two details of the source decide what is signed. `BitOr` returns its left operand in every case,
so `from_byte` maps `0x81`, `0x82`, `0x83` to the plain base types and the `AnyoneCanPay` bit is
lost. And the input loop writes input `i` out only when the type *is* `AnyoneCanPay` or `i` is the
signing index: under every type `from_byte` can return, the other inputs are replaced by zeros.

[SPEC src/src/transaction_hash.rs:10-175]
-/

/-- `SighashType`, with the discriminants `All = 0x01`, `None = 0x02`, `Single = 0x03` and
`AnyoneCanPay = 0x80`. -/
inductive SighashType where
  | all
  | none
  | single
  | anyoneCanPay
deriving DecidableEq, Repr

namespace SighashType

/-- `sighash_type as u32`, the variant's discriminant. -/
def discriminant : SighashType → UInt32
  | .all => 0x01
  | .none => 0x02
  | .single => 0x03
  | .anyoneCanPay => 0x80

/-- `impl BitOr for SighashType`: a base type or'd with `AnyoneCanPay` is the base type, and
every other pair gives the left operand (`_ => self`). -/
def bitor : SighashType → SighashType → SighashType
  | .all, .anyoneCanPay => .all
  | .none, .anyoneCanPay => .none
  | .single, .anyoneCanPay => .single
  | self, _ => self

/-- `SighashType::from_byte`: the three base bytes and their `0x80` variants; any other byte is
`InvalidSighashType`. -/
def fromByte (byte : UInt8) : Except Abort SighashType :=
  match byte with
  | 0x01 => .ok .all
  | 0x02 => .ok .none
  | 0x03 => .ok .single
  | 0x81 => .ok (bitor .all .anyoneCanPay)
  | 0x82 => .ok (bitor .none .anyoneCanPay)
  | 0x83 => .ok (bitor .single .anyoneCanPay)
  | _ => .error (.err (.invalidSighashType byte))

end SighashType

/-- The 41 bytes that replace a masked input: a zero prevout hash and index, an empty script and
a zero sequence. -/
def zeroedInputBytes : ByteString :=
  List.replicate 32 0 ++ List.replicate 4 0 ++ [0] ++ List.replicate 4 0

/-- The input loop of `calculate_transaction_sighash`, from position `i`: an input is written out
when the type is `AnyoneCanPay` or the position is the signing index, and zeroed otherwise. -/
def sighashInputs (sighashType : SighashType) (inputIndex : Nat) :
    Nat → List TransactionInput → ByteString
  | _, [] => []
  | i, input :: rest =>
      (if sighashType = .anyoneCanPay ∨ i = inputIndex then inputBytes input
        else zeroedInputBytes) ++
      sighashInputs sighashType inputIndex (i + 1) rest

/-- The outputs written after the output count: all of them for `All` (and for `AnyoneCanPay`,
the `_` arm), none for `None`, and for `Single` the output at the signing index if there is one. -/
def sighashOutputs (sighashType : SighashType) (inputIndex : Nat)
    (outputs : List TransactionOutput) : ByteString :=
  match sighashType with
  | .all => outputs.flatMap outputBytes
  | .none => []
  | .single =>
      if h : inputIndex < outputs.length then outputBytes (outputs.get ⟨inputIndex, h⟩) else []
  | .anyoneCanPay => outputs.flatMap outputBytes

/-- The preimage `calculate_transaction_sighash` hashes. The output count is always the full
count, whatever the type selects. -/
def sighashPreimage (tx : Transaction) (inputIndex : Nat) (sighashType : SighashType) :
    ByteString :=
  u32Bytes tx.version ++ encodeVarint tx.inputs.length ++
    sighashInputs sighashType inputIndex 0 tx.inputs ++ encodeVarint tx.outputs.length ++
    sighashOutputs sighashType inputIndex tx.outputs ++ u32Bytes tx.lockTime ++
    u32Bytes sighashType.discriminant

/-- `calculate_transaction_sighash`: `InvalidInputIndex` past the last input, `InvalidPrevoutsCount`
unless there is one prevout per input, and otherwise the double SHA-256 of the preimage. -/
def calculateTransactionSighash (tx : Transaction) (inputIndex : Nat)
    (prevouts : List TransactionOutput) (sighashType : SighashType) : Except Abort Hash :=
  if inputIndex ≥ tx.inputs.length then .error (.err (.invalidInputIndex inputIndex))
  else if prevouts.length ≠ tx.inputs.length then
    .error (.err (.invalidPrevoutsCount prevouts.length tx.inputs.length))
  else .ok (Digest.doubleSha256 (sighashPreimage tx inputIndex sighashType))

/-- With the input index in range and one prevout per input, the sighash is the digest of the
preimage. -/
theorem calculateTransactionSighash_of_valid {tx : Transaction} {inputIndex : Nat}
    {prevouts : List TransactionOutput} (within : inputIndex < tx.inputs.length)
    (counted : prevouts.length = tx.inputs.length) (sighashType : SighashType) :
    calculateTransactionSighash tx inputIndex prevouts sighashType =
      .ok (Digest.doubleSha256 (sighashPreimage tx inputIndex sighashType)) := by
  unfold calculateTransactionSighash
  rw [if_neg (by omega), if_neg (by omega)]

/-- `BitOr` returns its left operand. -/
@[simp] theorem SighashType.bitor_eq_left (a b : SighashType) : a.bitor b = a := by
  cases a <;> cases b <;> rfl

/-- What `from_byte` accepts: each base byte and its `0x80` variant, both parsed to the base
type. -/
theorem SighashType.fromByte_eq_ok {byte : UInt8} {t : SighashType} (h : fromByte byte = .ok t) :
    ((byte = 0x01 ∨ byte = 0x81) ∧ t = .all) ∨ ((byte = 0x02 ∨ byte = 0x82) ∧ t = .none) ∨
      ((byte = 0x03 ∨ byte = 0x83) ∧ t = .single) := by
  unfold fromByte at h
  split at h <;> simp_all

/-- `from_byte` never returns `AnyoneCanPay`. -/
theorem SighashType.fromByte_ne_anyoneCanPay (byte : UInt8) :
    fromByte byte ≠ .ok .anyoneCanPay := fun h => by
  rcases fromByte_eq_ok h with ⟨-, h⟩ | ⟨-, h⟩ | ⟨-, h⟩ <;> cases h

end BllvmConsensus
