/-
Module: BllvmConsensus.Core.Reorganization
Layer: Core
Purpose: `reorganization.rs`: chain selection by `should_reorganize` over `calculate_chain_work`
  and `expand_target`, the placeholder `calculate_tx_id`, `disconnect_block`,
  `find_common_ancestor`, and `reorganize_chain` with its disconnect and connect loops.
Imports: BllvmConsensus.Core.Transaction
Trusted boundary: `reorganize_chain` calls `connect_block` from the crate's `block` module, which is
  not in the source tree; it is a parameter here (`connectBlock` is the spec's reading of it).
Main exports: expandTarget, calculateChainWork, shouldReorganize, calculateTxId, disconnectBlock,
  findCommonAncestor, ReorganizationResult, reorganizeChain
-/
import BllvmConsensus.Core.Transaction

namespace BllvmConsensus

/-!
The crate's `Natural` is `u32`: the property tests pass a `u32` range to
`expand_target(bits: Natural)`. Heights are therefore `u32`, and the height arithmetic of
`reorganize_chain` panics on overflow like every other `+` and `-` of the model.

Three simplifications of the source decide what it computes. `should_reorganize` compares lengths
before it compares work. `find_common_ancestor` returns the first block of the current chain. And
`reorganize_chain` disconnects the whole current chain (`disconnect_start = 0`) and connects the
whole new one. `disconnect_block` removes the outputs keyed by the placeholder `calculate_tx_id` and
restores no spent input.

[SPEC src/src/reorganization.rs:15-166]
-/

/-- Overflow-checked `u32` addition. -/
def u32CheckedAdd (a b : UInt32) : Except Abort UInt32 :=
  if a.toNat + b.toNat < 2 ^ 32 then .ok (a + b) else .error .panic

/-- Overflow-checked `u32` subtraction. -/
def u32CheckedSub (a b : UInt32) : Except Abort UInt32 :=
  if b.toNat ≤ a.toNat then .ok (a - b) else .error .panic

theorem u32CheckedAdd_eq_ok {a b c : UInt32} (added : u32CheckedAdd a b = .ok c) :
    c = a + b ∧ c.toNat = a.toNat + b.toNat := by
  unfold u32CheckedAdd at added
  split_ifs at added with fits
  cases added
  exact ⟨rfl, (BitVec.toNat_add _ _).trans (Nat.mod_eq_of_lt fits)⟩

theorem u32CheckedSub_eq_ok {a b c : UInt32} (subtracted : u32CheckedSub a b = .ok c) :
    c = a - b ∧ b.toNat ≤ a.toNat ∧ c.toNat = a.toNat - b.toNat := by
  unfold u32CheckedSub at subtracted
  split_ifs at subtracted with fits
  cases subtracted
  exact ⟨rfl, fits, UInt32.toNat_sub_of_le a b fits⟩

/-! ### Chain selection -/

/-- `u128::MAX`. -/
def u128Max : Nat := 2 ^ 128 - 1

/-- The exponent byte of a compact target, `(bits >> 24) as u8`; a `u32` shifted by 24 fits in a
byte, so the cast keeps it. -/
def compactExponent (bits : UInt32) : Nat := (bits >>> 24).toNat

/-- The mantissa of a compact target, `bits & 0x00ffffff`. -/
def compactMantissa (bits : UInt32) : Nat := (bits &&& 0x00ffffff).toNat

/-- `expand_target`. Exponents up to 3 shift the mantissa right by `8 * (3 - exponent)`. Larger
ones shift it left by `8 * (exponent - 3)`, computed in `u8`, which overflows from exponent 35 on.
A shift of 104 or more is `InvalidProofOfWork("Target too large")`. -/
def expandTarget (bits : UInt32) : Except Abort Nat :=
  let exponent := compactExponent bits
  let mantissa := compactMantissa bits
  if exponent ≤ 3 then .ok (mantissa >>> (8 * (3 - exponent)))
  else if 2 ^ 8 ≤ 8 * (exponent - 3) then .error .panic
  else if 104 ≤ 8 * (exponent - 3) then
    .error (.err (.invalidProofOfWork "Target too large"))
  else .ok (mantissa <<< (8 * (exponent - 3)))

/-- The loop of `calculate_chain_work` from the running total: each block with a positive target
adds `u128::MAX / target`, and a total past `u128::MAX` is the `+=` overflow panic. -/
def chainWorkFrom (total : Nat) : List Block → Except Abort Nat
  | [] => .ok total
  | block :: rest => do
      let target ← expandTarget block.header.bits
      if 0 < target then
        if u128Max < total + u128Max / target then .error .panic
        else chainWorkFrom (total + u128Max / target) rest
      else chainWorkFrom total rest

/-- `calculate_chain_work`. -/
def calculateChainWork (chain : List Block) : Except Abort Nat := chainWorkFrom 0 chain

/-- `should_reorganize`: a longer new chain wins outright, a shorter one loses, and chains of equal
length compare their work, the new one winning only when it has strictly more. -/
def shouldReorganize (newChain currentChain : List Block) : Except Abort Bool :=
  if newChain.length > currentChain.length then .ok true
  else if newChain.length = currentChain.length then do
    let newWork ← calculateChainWork newChain
    let currentWork ← calculateChainWork currentChain
    .ok (decide (newWork > currentWork))
  else .ok false

/-! ### Disconnect -/

/-- `calculate_tx_id`, the placeholder id: the low bytes of the version, the input count, the output
count and the lock time, then 28 zero bytes. -/
def calculateTxId (tx : Transaction) : Hash :=
  ⟨[tx.version.toUInt8, tx.inputs.length.toUInt8, tx.outputs.length.toUInt8, tx.lockTime.toUInt8] ++
    List.replicate 28 0, by simp⟩

/-- The output loop of `disconnect_block` for one transaction, from output position `i`: the entry
`(tx_id, i as Natural)` is removed. -/
def removeCreatedOutputs (txId : Hash) (utxoSet : UtxoSet) : Nat → List TransactionOutput → UtxoSet
  | _, [] => utxoSet
  | i, _ :: rest => removeCreatedOutputs txId (utxoSet.remove ⟨txId, i.toUInt32⟩) (i + 1) rest

/-- `disconnect_block`: for each transaction in order, the outputs keyed by `calculate_tx_id` are
removed. The loop meant to restore the spent inputs has an empty body, and the height is unused. -/
def disconnectBlock (block : Block) (utxoSet : UtxoSet) (_height : UInt32) :
    Except Abort UtxoSet :=
  .ok (block.transactions.foldl
    (fun set tx => removeCreatedOutputs (calculateTxId tx) set 0 tx.outputs) utxoSet)

/-! ### Reorganization -/

/-- `find_common_ancestor`: the header of the first block of the current chain, or an error when
either chain is empty. -/
def findCommonAncestor (newChain currentChain : List Block) : Except Abort BlockHeader :=
  match newChain, currentChain with
  | _ :: _, first :: _ => .ok first.header
  | _, _ => .error (.err (.consensusRuleViolation "Cannot find common ancestor: empty chain"))

/-- `ReorganizationResult`. -/
structure ReorganizationResult where
  newUtxoSet : UtxoSet
  newHeight : UInt32
  commonAncestor : BlockHeader
  disconnectedBlocks : List Block
  connectedBlocks : List Block
  reorganizationDepth : Nat

/-- The disconnect loop of `reorganize_chain`, `for i in (0..len).rev()`: the call on fuel `i + 1`
disconnects the block at index `i`, at height `(i as Natural) + 1`, and goes on with `i`. -/
def disconnectLoop (currentChain : List Block) : Nat → UtxoSet → Except Abort UtxoSet
  | 0, utxoSet => .ok utxoSet
  | i + 1, utxoSet =>
      match currentChain.get? i with
      | some block => do
          let height ← u32CheckedAdd i.toUInt32 1
          let utxoSet ← disconnectBlock block utxoSet height
          disconnectLoop currentChain i utxoSet
      | none => disconnectLoop currentChain i utxoSet

section Connect

variable (connect : Block → UtxoSet → UInt32 → Except Abort (ValidationResult × UtxoSet))

/-- The connect loop of `reorganize_chain`: before each block the height is incremented, the block
is connected there, and a verdict other than `Valid` stops the reorganization. The blocks connected
so far are accumulated in order. -/
def connectLoop : List Block → UtxoSet → UInt32 → List Block →
    Except Abort (UtxoSet × UInt32 × List Block)
  | [], utxoSet, newHeight, connected => .ok (utxoSet, newHeight, connected)
  | block :: rest, utxoSet, newHeight, connected => do
      let newHeight ← u32CheckedAdd newHeight 1
      let (validationResult, newUtxoSet) ← connect block utxoSet newHeight
      match validationResult with
      | .valid => connectLoop rest newUtxoSet newHeight (connected ++ [block])
      | .invalid _ =>
          .error (.err (.consensusRuleViolation
            ("Invalid block at height " ++ toString newHeight ++ " during reorganization")))

/-- `reorganize_chain`, with the crate's `connect_block` passed in as `connect`. -/
def reorganizeChain (newChain currentChain : List Block) (currentUtxoSet : UtxoSet)
    (currentHeight : UInt32) : Except Abort ReorganizationResult := do
  let commonAncestor ← findCommonAncestor newChain currentChain
  let utxoSet ← disconnectLoop currentChain currentChain.length currentUtxoSet
  let newHeight ← u32CheckedSub currentHeight currentChain.length.toUInt32
  let newHeight ← u32CheckedAdd newHeight 1
  let (utxoSet, newHeight, connectedBlocks) ← connectLoop connect newChain utxoSet newHeight []
  pure
    { newUtxoSet := utxoSet
      newHeight := newHeight
      commonAncestor := commonAncestor
      disconnectedBlocks := currentChain
      connectedBlocks := connectedBlocks
      reorganizationDepth := currentChain.length }

end Connect

end BllvmConsensus
