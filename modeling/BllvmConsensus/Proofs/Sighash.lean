/-
Module: BllvmConsensus.Proofs.Sighash
Layer: Proofs
Purpose: The signing-hash preimage as the spec describes it (§4.C), next to the one
  `calculate_transaction_sighash` assembles. For every transaction, signing index and accepted
  type byte, the code's preimage is the spec's preimage for the same byte with the
  `ANYONECANPAY` bit set, except that its last four bytes carry the base type alone
  (`sighashPreimage_eq_spec_anyoneCanPay`): the other inputs are always masked, and the `0x80` bit
  never reaches the hashed type word, so the digest differs from the spec's
  (`sighash_drops_anyone_can_pay`).
Imports: BllvmConsensus.Core.TransactionHash
Trusted boundary: none
Main exports: specSighashBody, specSighashPreimage, sighashPreimage_eq_spec_anyoneCanPay,
  sighash_drops_anyone_can_pay
-/
import BllvmConsensus.Core.TransactionHash

namespace BllvmConsensus.Sighash

open Digest

/-- The spec's input list: with `ANYONECANPAY`, every input but the signing one is zeroed. -/
def specInputs (anyoneCanPay : Bool) (inputIndex : Nat) : Nat → List TransactionInput → ByteString
  | _, [] => []
  | j, input :: rest =>
      (if anyoneCanPay ∧ j ≠ inputIndex then zeroedInputBytes else inputBytes input) ++
        specInputs anyoneCanPay inputIndex (j + 1) rest

/-- The spec's output list for a base type: all outputs for `ALL`, none for `NONE`, and for
`SINGLE` the output at the signing index if there is one. -/
def specOutputs (base : UInt8) (inputIndex : Nat) (outputs : List TransactionOutput) : ByteString :=
  if base = 0x02 then []
  else if base = 0x03 then
    if h : inputIndex < outputs.length then outputBytes (outputs.get ⟨inputIndex, h⟩) else []
  else outputs.flatMap outputBytes

/-- The preimage the spec describes for the type byte `b = base | acp`, up to its type word:
version, input count, inputs, output count, the outputs the base selects, and lock time. -/
def specSighashBody (tx : Transaction) (inputIndex : Nat) (byte : UInt8) : ByteString :=
  u32Bytes tx.version ++ encodeVarint tx.inputs.length ++
    specInputs (byte &&& 0x80 = 0x80) inputIndex 0 tx.inputs ++ encodeVarint tx.outputs.length ++
    specOutputs (byte &&& 0x7f) inputIndex tx.outputs ++ u32Bytes tx.lockTime

/-- The whole spec preimage: the body followed by `b` as four little-endian bytes. -/
def specSighashPreimage (tx : Transaction) (inputIndex : Nat) (byte : UInt8) : ByteString :=
  specSighashBody tx inputIndex byte ++ leBytes byte.toNat 4

/-- Under every type but `AnyoneCanPay` the code's input loop is the spec's loop with the
`ANYONECANPAY` bit set: only the signing input is written out. -/
theorem sighashInputs_eq_specInputs {t : SighashType} (ht : t ≠ .anyoneCanPay)
    (inputIndex j : Nat) (inputs : List TransactionInput) :
    sighashInputs t inputIndex j inputs = specInputs true inputIndex j inputs := by
  induction inputs generalizing j with
  | nil => rfl
  | cons input rest ih =>
    by_cases signing : j = inputIndex <;> simp [sighashInputs, specInputs, ih, ht, signing]

/-- For every transaction, signing index and byte `from_byte` accepts, the code hashes the spec's
body for the byte with `0x80` set, followed by the base type alone: the other inputs are masked
whether or not the byte asked for it, and the `0x80` bit never reaches the type word. -/
theorem sighashPreimage_eq_spec_anyoneCanPay {byte : UInt8} {t : SighashType}
    (accepted : SighashType.fromByte byte = .ok t) (tx : Transaction) (inputIndex : Nat) :
    sighashPreimage tx inputIndex t =
      specSighashBody tx inputIndex (byte ||| 0x80) ++ leBytes (byte &&& 0x7f).toNat 4 := by
  have masked := sighashInputs_eq_specInputs
    (fun h => SighashType.fromByte_ne_anyoneCanPay byte (h ▸ accepted)) inputIndex 0 tx.inputs
  rcases SighashType.fromByte_eq_ok accepted with
    ⟨rfl | rfl, rfl⟩ | ⟨rfl | rfl, rfl⟩ | ⟨rfl | rfl, rfl⟩ <;>
    simp only [sighashPreimage, specSighashBody, masked, List.append_assoc] <;> rfl

/-- A one-input, no-output transaction. -/
def oneInputTx : Transaction := ⟨1, [⟨⟨Hash.zero, 0⟩, [], 0xffffffff⟩], [], 0⟩

set_option maxRecDepth 20000 in
/-- For every byte `from_byte` accepts, the code hashes the spec's body for the byte with `0x80`
set, followed by the base type alone. So signing the one input of `oneInputTx` with the accepted
byte `0x81` (`ALL | ANYONECANPAY`) gives a digest other than the double SHA-256 of the spec
preimage: `from_byte` turns `0x81` into plain `All`, and the code hashes the type word
`01 00 00 00` where the spec hashes `81 00 00 00`. -/
theorem sighash_drops_anyone_can_pay :
    (∀ (byte : UInt8) (t : SighashType), SighashType.fromByte byte = .ok t →
      ∀ (tx : Transaction) (inputIndex : Nat), sighashPreimage tx inputIndex t =
        specSighashBody tx inputIndex (byte ||| 0x80) ++ leBytes (byte &&& 0x7f).toNat 4) ∧
    SighashType.fromByte 0x81 = .ok .all ∧
      (SighashType.fromByte 0x81 >>= calculateTransactionSighash oneInputTx 0 [⟨I64.zero, []⟩]) ≠
        .ok (doubleSha256 (specSighashPreimage oneInputTx 0 0x81)) := by
  refine ⟨fun _ _ accepted => sighashPreimage_eq_spec_anyoneCanPay accepted, rfl, fun h => ?_⟩
  have digests : doubleSha256 (sighashPreimage oneInputTx 0 .all) =
      doubleSha256 (specSighashPreimage oneInputTx 0 0x81) := Except.ok.inj h
  revert digests
  decide

end BllvmConsensus.Sighash
