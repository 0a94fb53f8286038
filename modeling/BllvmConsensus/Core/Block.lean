/-
Module: BllvmConsensus.Core.Block
Layer: Core
Purpose: `connect_block`, which `reorganize_chain` calls, as §4.H of the spec describes it: in
  transaction order, each non-coinbase input's prevout is removed (it must be present) and each
  output is inserted under `(txid, index)` with the connecting height. A failed connect returns
  the set it was given.
Imports: BllvmConsensus.Core.Transaction
Trusted boundary: the crate's `block` module is not in the source tree; everything here is
  modelled from the spec.
Main exports: spendInputs, insertOutputs, connectTransaction, connectBlock, outputKeys,
  spentOutpoints, createdOutpoints
-/
import BllvmConsensus.Core.Transaction

namespace BllvmConsensus

open Digest

/-!
The spec's txid is the double SHA-256 of the transaction's serialization
(`calculateTxIdSpec`). The two outpoint lists at the end name what a block spends and what it
creates, so that later statements can speak of them without unfolding the connect.

[SPEC spec.md §4.H]
-/

/-- Modelled from the spec: step 1 of `connect_block` for one transaction. Each input's prevout is
removed in order, and the step fails when one is absent. -/
def spendInputs (utxoSet : UtxoSet) : List TransactionInput → Option UtxoSet
  | [] => some utxoSet
  | input :: rest =>
      if (utxoSet.get input.prevout).isSome then spendInputs (utxoSet.remove input.prevout) rest
      else none

/-- Modelled from the spec: step 2 of `connect_block` for one transaction, from output position
`i`. Each output is inserted under `(txid, i)` with the connecting height. -/
def insertOutputs (txId : Hash) (height : UInt32) (utxoSet : UtxoSet) :
    Nat → List TransactionOutput → UtxoSet
  | _, [] => utxoSet
  | i, output :: rest =>
      insertOutputs txId height
        (utxoSet.insert ⟨txId, i.toUInt32⟩ ⟨output.value, output.scriptPubkey, height⟩) (i + 1) rest

/-- Modelled from the spec: one transaction of `connect_block`. A coinbase spends nothing. -/
def connectTransaction (height : UInt32) (utxoSet : UtxoSet) (tx : Transaction) :
    Option UtxoSet := do
  let spent ← if isCoinbase tx then some utxoSet else spendInputs utxoSet tx.inputs
  pure (insertOutputs (calculateTxIdSpec tx) height spent 0 tx.outputs)

/-- Modelled from the spec: `connect_block` (crate `block` module, not in the source tree). The
transactions are applied in order, and the result is `(Valid, new_set)`. When an input's prevout is
missing the connect is rolled back, and the result is `Invalid` with the set as it was. -/
def connectBlock (block : Block) (utxoSet : UtxoSet) (height : UInt32) :
    Except Abort (ValidationResult × UtxoSet) :=
  match block.transactions.foldlM (connectTransaction height) utxoSet with
  | some connected => .ok (.valid, connected)
  | none => .ok (.invalid "Input not found in UTXO set", utxoSet)

/-- The keys `(txId, i)` for the output positions of a transaction. -/
def outputKeys (txId : Hash) (tx : Transaction) : List OutPoint :=
  (List.range tx.outputs.length).map fun i => ⟨txId, i.toUInt32⟩

/-- The prevouts a block's non-coinbase inputs spend. -/
def spentOutpoints (block : Block) : List OutPoint :=
  block.transactions.flatMap fun tx => if isCoinbase tx then [] else tx.inputs.map (·.prevout)

/-- The outpoints a connect of the block creates, keyed by the spec's txid. -/
def createdOutpoints (block : Block) : List OutPoint :=
  block.transactions.flatMap fun tx => outputKeys (calculateTxIdSpec tx) tx

end BllvmConsensus
