/-
Module: BllvmConsensus.Core.Transaction
Layer: Core
Purpose: `transaction.rs`: the structural check `check_transaction`, the input-resolution and fee
  check `check_tx_inputs` with its two `i64` accumulations, `is_coinbase`, and the simplified
  `calculate_transaction_size`.
Trusted boundary: none
Main exports: isCoinbase, calculateTransactionSize, findInvalidOutput, checkTransaction,
  sumInputValues, sumOutputValues, checkTxInputs
-/
import BllvmConsensus.Core.Serialization

namespace BllvmConsensus

/-!
`check_tx_inputs` reads the height argument `_height` nowhere, and sums `utxo.value` once per
input, so an outpoint listed twice is counted twice. Both sums are `i64` additions and panic on
overflow.

[SPEC src/src/transaction.rs:15-114]
-/

/-- `is_coinbase`: exactly one input, whose prevout is the null outpoint `([0; 32], 0xffffffff)`. -/
def isCoinbase (tx : Transaction) : Bool :=
  match tx.inputs with
  | [input] => decide (input.prevout.hash = Hash.zero ∧ input.prevout.index = 0xffffffff)
  | _ => false

/-- `calculate_transaction_size`, the crate's simplified size: 41 bytes per input and 9 per output
around the 8 bytes of version and lock time. Scripts are not counted. -/
def calculateTransactionSize (tx : Transaction) : Nat :=
  4 + tx.inputs.length * 41 + tx.outputs.length * 9 + 4

/-- The output loop of `check_transaction`: the first output, with its index, whose value lies
outside `[0, MAX_MONEY]`. -/
def findInvalidOutput : Nat → List TransactionOutput → Option (Nat × TransactionOutput)
  | _, [] => none
  | i, output :: rest =>
      if output.value.toInt < 0 ∨ output.value.toInt > maxMoney then some (i, output)
      else findInvalidOutput (i + 1) rest

/-- `check_transaction`: non-empty inputs and outputs, every output value in `[0, MAX_MONEY]`,
at most `MAX_INPUTS` inputs and `MAX_OUTPUTS` outputs, and a simplified size of at most
`MAX_TX_SIZE`, checked in this order; the first failed check names the verdict's reason. -/
def checkTransaction (tx : Transaction) : Except Abort ValidationResult :=
  if tx.inputs.isEmpty || tx.outputs.isEmpty then .ok (.invalid "Empty inputs or outputs")
  else
    match findInvalidOutput 0 tx.outputs with
    | some (i, output) =>
        .ok (.invalid ("Invalid output value " ++ toString output.value.toInt ++ " at index " ++
          toString i))
    | none =>
        if tx.inputs.length > maxInputs then
          .ok (.invalid ("Too many inputs: " ++ toString tx.inputs.length))
        else if tx.outputs.length > maxOutputs then
          .ok (.invalid ("Too many outputs: " ++ toString tx.outputs.length))
        else if calculateTransactionSize tx > maxTxSize then
          .ok (.invalid ("Transaction too large: " ++ toString (calculateTransactionSize tx) ++
            " bytes"))
        else .ok .valid

/-- The input loop of `check_tx_inputs`, from input `i` with running total `total`: `.inr` the
final total when every prevout is found, `.inl i` the index of the first missing one; the
`+= utxo.value` panics on overflow. -/
def sumInputValues (utxoSet : UtxoSet) : Nat → I64 → List TransactionInput → Except Abort (Nat ⊕ I64)
  | _, total, [] => .ok (.inr total)
  | i, total, input :: rest =>
      match utxoSet.get input.prevout with
      | none => .ok (.inl i)
      | some utxo => do
          let total ← Abort.ofOption (total.checkedAdd utxo.value)
          sumInputValues utxoSet (i + 1) total rest

/-- `tx.outputs.iter().map(|o| o.value).sum()`: a left fold of `i64` additions from `total`,
panicking on overflow. -/
def sumOutputValues : I64 → List TransactionOutput → Except Abort I64
  | total, [] => .ok total
  | total, output :: rest => do
      let total ← Abort.ofOption (total.checkedAdd output.value)
      sumOutputValues total rest

/-- `check_tx_inputs`: a coinbase is `(Valid, 0)`; otherwise every prevout must be in the set, and
the fee `Σ inputs − Σ outputs` must not be negative. The height is not read. -/
def checkTxInputs (tx : Transaction) (utxoSet : UtxoSet) (_height : UInt32) :
    Except Abort (ValidationResult × I64) :=
  if isCoinbase tx then .ok (.valid, I64.zero)
  else
    sumInputValues utxoSet 0 I64.zero tx.inputs >>= fun
      | .inl i => .ok (.invalid ("Input " ++ toString i ++ " not found in UTXO set"), I64.zero)
      | .inr totalInputValue =>
          sumOutputValues I64.zero tx.outputs >>= fun totalOutputValue =>
            if totalInputValue.toInt < totalOutputValue.toInt then
              .ok (.invalid "Insufficient input value", I64.zero)
            else
              Abort.ofOption (totalInputValue.checkedSub totalOutputValue) >>= fun fee =>
                .ok (.valid, fee)

end BllvmConsensus
