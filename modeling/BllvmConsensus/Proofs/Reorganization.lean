/-
Module: BllvmConsensus.Proofs.Reorganization
Layer: Proofs
Purpose: What `disconnect_block` and `reorganize_chain` do to the unspent-output set.
  `disconnect_block` removes the outputs keyed by the placeholder `calculate_tx_id` and restores
  nothing, so after a connect as the spec describes it (keyed by the double SHA-256 txid) the round
  trip loses every entry the block spent (`disconnect_block_loses_spent_prevout`), where its
  documentation calls it the reverse of `ConnectBlock`. `reorganize_chain` rewinds the whole current
  chain and replays the whole new one, whatever prefix they share
  (`reorganize_chain_rewinds_common_prefix`), where its documentation rewinds to the common
  ancestor. It connects block `k` of the new chain at height
  `current_height - |current_chain| + 2 + k`, one above the height of the block it replaces, and
  overflows the height at `u32::MAX` (`reorganize_chain_connects_one_height_up`).
Imports: BllvmConsensus.Core.Block, BllvmConsensus.Core.Reorganization
Trusted boundary: none
Main exports: eraseAll, removedOutpoints, disconnectBlock_eq,
  disconnect_block_restores_no_spent_entry, disconnect_block_loses_spent_prevout,
  RewindsWholeChain, reorganize_chain_rewinds_whole_current_chain, connectLoop_congr,
  reorganizeChain_congr, reorganize_chain_connects_one_height_up,
  reorganize_chain_rewinds_common_prefix
-/
import BllvmConsensus.Core.Block
import BllvmConsensus.Core.Reorganization

namespace BllvmConsensus.Reorganization

/-! ### Removing a list of keys -/

/-- The set with every entry whose key is in `keys` dropped. -/
def eraseAll (set : UtxoSet) (keys : List OutPoint) : UtxoSet :=
  ⟨fun k => if k ∈ keys then none else set.get k⟩

@[simp] theorem get_eraseAll (set : UtxoSet) (keys : List OutPoint) (k : OutPoint) :
    (eraseAll set keys).get k = if k ∈ keys then none else set.get k := rfl

theorem eraseAll_congr {set : UtxoSet} {keys keys' : List OutPoint}
    (same : ∀ o, o ∈ keys ↔ o ∈ keys') : eraseAll set keys = eraseAll set keys' := by
  ext o : 2
  simp [same]

theorem eraseAll_eraseAll (set : UtxoSet) (keys keys' : List OutPoint) :
    eraseAll (eraseAll set keys) keys' = eraseAll set (keys ++ keys') := by
  ext o : 2
  by_cases later : o ∈ keys' <;> simp [later]

/-- The outpoints `disconnect_block` removes: `(calculate_tx_id(tx), j)` for every output position
`j` of every transaction. -/
def removedOutpoints (block : Block) : List OutPoint :=
  block.transactions.flatMap fun tx => outputKeys (calculateTxId tx) tx

/-! ### Disconnect -/

theorem removeCreatedOutputs_get (txId : Hash) (set : UtxoSet) (i : Nat)
    (outputs : List TransactionOutput) (o : OutPoint) :
    (removeCreatedOutputs txId set i outputs).get o =
      if o ∈ (List.range' i outputs.length).map (fun j => (⟨txId, j.toUInt32⟩ : OutPoint)) then none
      else set.get o := by
  induction outputs generalizing set i with
  | nil => rfl
  | cons _ rest ih =>
    simp only [removeCreatedOutputs, ih, UtxoSet.get_remove, List.length_cons, List.range'_succ,
      List.map_cons, List.mem_cons]
    by_cases later : o ∈ (List.range' (i + 1) rest.length).map
      (fun j => (⟨txId, j.toUInt32⟩ : OutPoint)) <;> simp [later]

/-- `disconnect_block` always succeeds, with exactly the placeholder-keyed outputs removed. -/
theorem disconnectBlock_eq (block : Block) (set : UtxoSet) (height : UInt32) :
    disconnectBlock block set height = .ok (eraseAll set (removedOutpoints block)) := by
  suffices loop : ∀ (txs : List Transaction) (set : UtxoSet),
      txs.foldl (fun set tx => removeCreatedOutputs (calculateTxId tx) set 0 tx.outputs) set =
        eraseAll set (txs.flatMap fun tx => outputKeys (calculateTxId tx) tx) from
    congrArg Except.ok (loop block.transactions set)
  intro txs
  induction txs with
  | nil => intro set; ext o : 2; simp
  | cons tx rest ih =>
    intro set
    ext o : 2
    simp only [List.foldl_cons, ih, get_eraseAll, removeCreatedOutputs_get, List.flatMap_cons,
      List.mem_append, outputKeys, List.range_eq_range']
    by_cases created : o ∈ (List.range' 0 tx.outputs.length).map
      (fun j => (⟨calculateTxId tx, j.toUInt32⟩ : OutPoint)) <;> simp [created]

/-! ### Connect, as the spec describes it -/

/-- The prevouts a transaction's connect removes: none for a coinbase. -/
def txSpent (tx : Transaction) : List OutPoint :=
  if isCoinbase tx then [] else tx.inputs.map (·.prevout)

theorem spentOutpoints_eq (block : Block) : spentOutpoints block = block.transactions.flatMap txSpent :=
  rfl

theorem spendInputs_get {set set' : UtxoSet} {inputs : List TransactionInput}
    (spent : spendInputs set inputs = some set') (o : OutPoint) :
    set'.get o = if o ∈ inputs.map (·.prevout) then none else set.get o := by
  induction inputs generalizing set with
  | nil => cases spent; simp
  | cons input rest ih =>
    simp only [spendInputs] at spent
    split_ifs at spent
    simp only [ih spent, UtxoSet.get_remove, List.map_cons, List.mem_cons]
    by_cases later : o ∈ rest.map (·.prevout) <;> simp [later]

theorem insertOutputs_get_of_not_mem {txId : Hash} {height : UInt32} {set : UtxoSet} {i : Nat}
    {outputs : List TransactionOutput} {o : OutPoint}
    (fresh : o ∉ (List.range' i outputs.length).map fun j => (⟨txId, j.toUInt32⟩ : OutPoint)) :
    (insertOutputs txId height set i outputs).get o = set.get o := by
  induction outputs generalizing set i with
  | nil => rfl
  | cons _ rest ih =>
    simp only [List.length_cons, List.range'_succ, List.map_cons, List.mem_cons, not_or] at fresh
    simp only [insertOutputs, ih fresh.2, UtxoSet.get_insert, if_neg fresh.1]

/-- A connected transaction leaves every outpoint it does not create as it was, except the ones it
spends, which are gone. -/
theorem connectTransaction_get {height : UInt32} {set set' : UtxoSet} {tx : Transaction}
    (connected : connectTransaction height set tx = some set') {o : OutPoint}
    (fresh : o ∉ outputKeys (calculateTxIdSpec tx) tx) :
    set'.get o = if o ∈ txSpent tx then none else set.get o := by
  simp only [connectTransaction, txSpent] at connected ⊢
  rw [outputKeys, List.range_eq_range'] at fresh
  split_ifs at connected with coinbase
  · cases connected
    simp [coinbase, insertOutputs_get_of_not_mem fresh]
  · obtain ⟨spent, spends, inserted⟩ := Option.bind_eq_some.mp connected
    cases Option.some.inj inserted
    simp only [insertOutputs_get_of_not_mem fresh, spendInputs_get spends, if_neg coinbase]

/-- The transactions of a connect, in order: an outpoint none of them creates ends up absent if
one of them spends it, and as it was otherwise. -/
theorem connectTransactions_get {height : UInt32} {set set' : UtxoSet} {txs : List Transaction}
    (connected : txs.foldlM (connectTransaction height) set = some set') {o : OutPoint}
    (fresh : o ∉ txs.flatMap fun tx => outputKeys (calculateTxIdSpec tx) tx) :
    set'.get o = if o ∈ txs.flatMap txSpent then none else set.get o := by
  induction txs generalizing set with
  | nil => cases connected; simp
  | cons tx rest ih =>
    simp only [List.flatMap_cons, List.mem_append, not_or] at fresh
    obtain ⟨middle, first, others⟩ := Option.bind_eq_some.mp connected
    rw [ih others fresh.2, connectTransaction_get first fresh.1]
    by_cases later : o ∈ rest.flatMap txSpent <;> simp [later]

/-- A connect that returns `Valid` ran every transaction. -/
theorem connectBlock_eq_valid {block : Block} {set set' : UtxoSet} {height : UInt32}
    (connects : connectBlock block set height = .ok (.valid, set')) :
    block.transactions.foldlM (connectTransaction height) set = some set' := by
  unfold connectBlock at connects
  split at connects <;> cases connects
  assumption

/-- Disconnecting a block after a connect as the spec describes it removes exactly the outputs keyed
by the placeholder id and restores nothing. So on every outpoint the block neither creates nor
removes, the round trip agrees with the set before the connect, except that each outpoint the block
spent is now absent. -/
theorem disconnect_block_restores_no_spent_entry {block : Block} {utxoSet connected : UtxoSet}
    {height : UInt32} (connects : connectBlock block utxoSet height = .ok (.valid, connected)) :
    ∃ restored, disconnectBlock block connected height = .ok restored ∧
      (∀ o, restored.get o = if o ∈ removedOutpoints block then none else connected.get o) ∧
      ∀ o, o ∉ createdOutpoints block → o ∉ removedOutpoints block →
        restored.get o = if o ∈ spentOutpoints block then none else utxoSet.get o := by
  refine ⟨_, disconnectBlock_eq block connected height, fun o => rfl, fun o fresh kept => ?_⟩
  rw [get_eraseAll, if_neg kept, connectTransactions_get (connectBlock_eq_valid connects) fresh,
    spentOutpoints_eq]

/-- An outpoint at index 1 under the zero hash. -/
def fundedOutPoint : OutPoint := ⟨Hash.zero, 1⟩

/-- A set holding `fundedOutPoint` alone. -/
def fundedSet : UtxoSet := UtxoSet.new.insert fundedOutPoint ⟨I64.zero, [], 0⟩

/-- A transaction spending `fundedOutPoint` into one output. -/
def spendingTx : Transaction := ⟨1, [⟨fundedOutPoint, [], 0xffffffff⟩], [⟨I64.zero, []⟩], 0⟩

/-- A block holding `spendingTx` alone. -/
def spendingBlock : Block := ⟨⟨1, Hash.zero, Hash.zero, 0, maxTarget, 0⟩, [spendingTx]⟩

/-- The set after connecting `spendingBlock` to `fundedSet` at height 1. -/
def spentSet : UtxoSet :=
  (fundedSet.remove fundedOutPoint).insert ⟨calculateTxIdSpec spendingTx, 0⟩ ⟨I64.zero, [], 1⟩

/-- What a disconnect after a connect as the spec describes it gives, for every block and set, and
a failing input. The block spends `fundedOutPoint` and creates an output at index 0, so no created
outpoint is already in the set. Disconnecting it after the connect does not give the set back,
since the spent entry is not restored. -/
theorem disconnect_block_loses_spent_prevout :
    (∀ (block : Block) (utxoSet connected : UtxoSet) (height : UInt32),
      connectBlock block utxoSet height = .ok (.valid, connected) →
      ∃ restored, disconnectBlock block connected height = .ok restored ∧
        (∀ o, restored.get o = if o ∈ removedOutpoints block then none else connected.get o) ∧
        ∀ o, o ∉ createdOutpoints block → o ∉ removedOutpoints block →
          restored.get o = if o ∈ spentOutpoints block then none else utxoSet.get o) ∧
    connectBlock spendingBlock fundedSet 1 = .ok (.valid, spentSet) ∧
      (∀ o ∈ createdOutpoints spendingBlock, fundedSet.get o = none) ∧
      disconnectBlock spendingBlock spentSet 1 ≠ .ok fundedSet := by
  refine ⟨fun _ _ _ _ connects => disconnect_block_restores_no_spent_entry connects, rfl, ?_,
    fun restored => ?_⟩
  · simp [createdOutpoints, outputKeys, spendingBlock, spendingTx, fundedSet, fundedOutPoint]
    exact fun _ => by decide
  · have same : eraseAll spentSet (removedOutpoints spendingBlock) = fundedSet :=
      Except.ok.inj ((disconnectBlock_eq _ _ _).symm.trans restored)
    have missing : spentSet.get fundedOutPoint = none := by simp [spentSet, fundedOutPoint]
    have present : fundedSet.get fundedOutPoint = some ⟨I64.zero, [], 0⟩ := by simp [fundedSet]
    have lookup : (eraseAll spentSet (removedOutpoints spendingBlock)).get fundedOutPoint =
        fundedSet.get fundedOutPoint := by rw [same]
    rw [get_eraseAll, missing, ite_self, present] at lookup
    cases lookup

/-! ### Reorganization -/

/-- The disconnect loop of `reorganize_chain`, run over the first `n` blocks, removes the
placeholder-keyed outputs of each of them, and succeeds only while `n` indices fit in `u32`. -/
theorem disconnectLoop_eq {currentChain : List Block} {n : Nat} {set set' : UtxoSet}
    (rewound : disconnectLoop currentChain n set = .ok set') (within : n ≤ currentChain.length) :
    n < 2 ^ 32 ∧ set' = eraseAll set ((currentChain.take n).flatMap removedOutpoints) := by
  induction n generalizing set with
  | zero =>
    cases rewound
    exact ⟨by decide, UtxoSet.ext (funext fun o => by simp)⟩
  | succ n ih =>
    have present : currentChain.get? n = some currentChain[n] := by
      rw [List.get?_eq_getElem?, List.getElem?_eq_getElem]
    simp only [disconnectLoop, present, disconnectBlock_eq] at rewound
    obtain ⟨height, added, rest⟩ := bind_eq_ok.mp rewound
    obtain ⟨small, rfl⟩ := ih rest (by omega)
    have fits := (u32CheckedAdd_eq_ok added).2
    have bounded : height.toNat < 2 ^ 32 := height.toNat_lt_size
    rw [UInt32.toNat_ofNat_of_lt small] at fits
    have one : (1 : UInt32).toNat = 1 := rfl
    refine ⟨by omega, ?_⟩
    rw [eraseAll_eraseAll, List.take_succ, List.getElem?_eq_getElem (by omega), Option.toList_some,
      List.flatMap_append, List.flatMap_singleton]
    exact eraseAll_congr fun o => by simp only [List.mem_append, or_comm]

theorem findCommonAncestor_eq_ok {newChain currentChain : List Block} {ancestor : BlockHeader}
    (found : findCommonAncestor newChain currentChain = .ok ancestor) :
    newChain ≠ [] ∧ ∃ first rest, currentChain = first :: rest ∧ ancestor = first.header := by
  unfold findCommonAncestor at found
  split at found
  · cases found
    exact ⟨List.cons_ne_nil _ _, _, _, rfl, rfl⟩
  · cases found

section Connect

variable {connect : Block → UtxoSet → UInt32 → Except Abort (ValidationResult × UtxoSet)}

/-- The connect loop of `reorganize_chain` connects every block, in order, one height above the
last. -/
theorem connectLoop_eq {blocks : List Block} {set set' : UtxoSet} {height height' : UInt32}
    {connected connected' : List Block}
    (replayed : connectLoop connect blocks set height connected = .ok (set', height', connected')) :
    connected' = connected ++ blocks ∧ height'.toNat = height.toNat + blocks.length := by
  induction blocks generalizing set height connected with
  | nil =>
    cases replayed
    simp
  | cons block rest ih =>
    obtain ⟨next, added, replayed⟩ := bind_eq_ok.mp replayed
    obtain ⟨⟨verdict, connectedSet⟩, -, replayed⟩ := bind_eq_ok.mp replayed
    cases verdict with
    | valid =>
      obtain ⟨rfl, heights⟩ := ih replayed
      have one : (1 : UInt32).toNat = 1 := rfl
      refine ⟨by simp, ?_⟩
      rw [heights, (u32CheckedAdd_eq_ok added).2, one, List.length_cons]
      omega
    | invalid reason => cases replayed

/-- The connect loop hands block `k` to `connect` at the height `k + 1` above the one it starts
from: two connects that agree on those calls run the loop alike. -/
theorem connectLoop_congr {connect' : Block → UtxoSet → UInt32 → Except Abort (ValidationResult × UtxoSet)}
    {blocks : List Block} {set : UtxoSet} {height : UInt32} {connected : List Block}
    (agree : ∀ k (hk : k < blocks.length) s (h : UInt32), h.toNat = height.toNat + k + 1 →
      connect blocks[k] s h = connect' blocks[k] s h) :
    connectLoop connect blocks set height connected = connectLoop connect' blocks set height connected := by
  induction blocks generalizing set height connected with
  | nil => rfl
  | cons block rest ih =>
    simp only [connectLoop]
    cases added : u32CheckedAdd height 1 with
    | error e => rfl
    | ok next =>
      have nextValue : next.toNat = height.toNat + 1 := (u32CheckedAdd_eq_ok added).2
      simp only [bind, Except.bind]
      have first : connect block set next = connect' block set next :=
        agree 0 (Nat.succ_pos _) set next (by omega)
      rw [first]
      cases connect' block set next with
      | error e => rfl
      | ok result =>
        obtain ⟨verdict, set'⟩ := result
        cases verdict with
        | valid => exact ih fun k hk s h at' => agree (k + 1) (by simp; omega) s h (by omega)
        | invalid _ => rfl

/-- What a successful `reorganize_chain` has done, as the code is written. The reported ancestor is
the first block of the current chain, and the whole current chain is reported disconnected. The
whole new chain is reported connected, at depth the current chain's length. The set is the one
connecting the whole new chain gives, from heights just above `current_height - |current_chain|`,
after every placeholder-keyed output of the current chain was removed. -/
structure RewindsWholeChain
    (connect : Block → UtxoSet → UInt32 → Except Abort (ValidationResult × UtxoSet))
    (newChain currentChain : List Block) (utxoSet : UtxoSet) (currentHeight : UInt32)
    (result : ReorganizationResult) : Prop where
  ancestor_is_first :
    ∃ first rest, currentChain = first :: rest ∧ result.commonAncestor = first.header
  new_nonempty : newChain ≠ []
  disconnected_all : result.disconnectedBlocks = currentChain
  connected_all : result.connectedBlocks = newChain
  depth_eq_length : result.reorganizationDepth = currentChain.length
  height_eq : currentChain.length ≤ currentHeight.toNat ∧
    result.newHeight.toNat = currentHeight.toNat - currentChain.length + 1 + newChain.length
  replays_all :
    connectLoop connect newChain (eraseAll utxoSet (currentChain.flatMap removedOutpoints))
        (currentHeight - currentChain.length.toUInt32 + 1) [] =
      .ok (result.newUtxoSet, result.newHeight, newChain)

/-- Whatever prefix the two chains share, a successful `reorganize_chain` rewinds the whole current
chain and replays the whole new one. -/
theorem reorganize_chain_rewinds_whole_current_chain {newChain currentChain : List Block}
    {utxoSet : UtxoSet} {currentHeight : UInt32} {result : ReorganizationResult}
    (succeeded : reorganizeChain connect newChain currentChain utxoSet currentHeight = .ok result) :
    RewindsWholeChain connect newChain currentChain utxoSet currentHeight result := by
  obtain ⟨ancestor, found, succeeded⟩ := bind_eq_ok.mp succeeded
  obtain ⟨rewoundSet, rewound, succeeded⟩ := bind_eq_ok.mp succeeded
  obtain ⟨start, subtracted, succeeded⟩ := bind_eq_ok.mp succeeded
  obtain ⟨next, added, succeeded⟩ := bind_eq_ok.mp succeeded
  obtain ⟨⟨finalSet, finalHeight, connectedBlocks⟩, replayed, succeeded⟩ :=
    bind_eq_ok.mp succeeded
  cases succeeded
  obtain ⟨nonempty, first, rest, rfl, rfl⟩ := findCommonAncestor_eq_ok found
  obtain ⟨small, rfl⟩ := disconnectLoop_eq rewound le_rfl
  obtain ⟨rfl, heights⟩ := connectLoop_eq replayed
  obtain ⟨rfl, within, started⟩ := u32CheckedSub_eq_ok subtracted
  obtain ⟨rfl, nextHeight⟩ := u32CheckedAdd_eq_ok added
  have one : (1 : UInt32).toNat = 1 := rfl
  rw [UInt32.toNat_ofNat_of_lt small] at within started
  rw [one] at nextHeight
  rw [List.take_length] at replayed
  refine ⟨⟨first, rest, rfl, rfl⟩, nonempty, rfl, List.nil_append _, rfl, ⟨within, ?_⟩, replayed⟩
  dsimp only
  omega

/-- `reorganize_chain` hands block `k` of the new chain to `connect` at height
`current_height - |current_chain| + 2 + k`: two connects that agree on those calls give the same
reorganization. The current chain occupies the heights up to `current_height`, so the new chain's
first block is connected one height above the first block it replaces. -/
theorem reorganizeChain_congr
    {connect' : Block → UtxoSet → UInt32 → Except Abort (ValidationResult × UtxoSet)}
    {newChain currentChain : List Block} {utxoSet : UtxoSet} {currentHeight : UInt32}
    (agree : ∀ k (hk : k < newChain.length) s (h : UInt32),
      h.toNat = currentHeight.toNat - currentChain.length + 2 + k →
      connect newChain[k] s h = connect' newChain[k] s h) :
    reorganizeChain connect newChain currentChain utxoSet currentHeight =
      reorganizeChain connect' newChain currentChain utxoSet currentHeight := by
  unfold reorganizeChain
  cases findCommonAncestor newChain currentChain with
  | error e => rfl
  | ok ancestor =>
    cases rewound : disconnectLoop currentChain currentChain.length utxoSet with
    | error e => rfl
    | ok rewoundSet =>
      cases subtracted : u32CheckedSub currentHeight currentChain.length.toUInt32 with
      | error e => rfl
      | ok start =>
        simp only [bind, Except.bind]
        cases added : u32CheckedAdd start 1 with
        | error e => rfl
        | ok next =>
          have small := (disconnectLoop_eq rewound le_rfl).1
          obtain ⟨-, within, started⟩ := u32CheckedSub_eq_ok subtracted
          rw [UInt32.toNat_ofNat_of_lt small] at within started
          have nextValue : next.toNat = start.toNat + 1 := (u32CheckedAdd_eq_ok added).2
          simp only
          rw [connectLoop_congr fun k hk s h at' => agree k hk s h (by omega)]

end Connect

/-- A block with no transactions. -/
def genesisBlock : Block := ⟨⟨1, Hash.zero, Hash.zero, 0, maxTarget, 0⟩, []⟩

/-- A connect that accepts any block at height 1 and rejects it at every other height. -/
def connectOnlyAtOne (_block : Block) (utxoSet : UtxoSet) (height : UInt32) :
    Except Abort (ValidationResult × UtxoSet) :=
  if height = 1 then .ok (.valid, utxoSet) else .ok (.invalid "wrong height", utxoSet)

/-- The heights `reorganize_chain` uses, for every input, and failing inputs. Block `k` of the new
chain is handed to `connect` at height `current_height - |current_chain| + 2 + k`: two connects
that agree on those calls give the same reorganization. The height returned is
`current_height - |current_chain| + 1 + |new_chain|`. So one block replacing one block at height 1
is connected at height 2, and the new height is 2, where the replaced block's height 1 is expected
for both. A connect that accepts height 1 only therefore rejects the reorganization at height 2.
At height `u32::MAX` the same one-for-one reorganization overflows the height. -/
theorem reorganize_chain_connects_one_height_up :
    (∀ (connect connect' : Block → UtxoSet → UInt32 → Except Abort (ValidationResult × UtxoSet))
        (newChain currentChain : List Block) (utxoSet : UtxoSet) (currentHeight : UInt32),
      (∀ k (hk : k < newChain.length) s (h : UInt32),
        h.toNat = currentHeight.toNat - currentChain.length + 2 + k →
        connect newChain[k] s h = connect' newChain[k] s h) →
      reorganizeChain connect newChain currentChain utxoSet currentHeight =
        reorganizeChain connect' newChain currentChain utxoSet currentHeight) ∧
    (∀ (connect : Block → UtxoSet → UInt32 → Except Abort (ValidationResult × UtxoSet))
        (newChain currentChain : List Block) (utxoSet : UtxoSet) (currentHeight : UInt32)
        (result : ReorganizationResult),
      reorganizeChain connect newChain currentChain utxoSet currentHeight = .ok result →
      result.newHeight.toNat = currentHeight.toNat - currentChain.length + 1 + newChain.length) ∧
    (fun r => r.newHeight) <$>
        reorganizeChain connectBlock [genesisBlock] [genesisBlock] UtxoSet.new 1 = .ok 2 ∧
      reorganizeChain connectOnlyAtOne [genesisBlock] [genesisBlock] UtxoSet.new 1 =
        .error (.err (.consensusRuleViolation "Invalid block at height 2 during reorganization")) ∧
      reorganizeChain connectBlock [genesisBlock] [genesisBlock] UtxoSet.new 0xffffffff =
        .error .panic :=
  ⟨fun _ _ _ _ _ _ agree => reorganizeChain_congr agree,
    fun _ _ _ _ _ _ succeeded => (reorganize_chain_rewinds_whole_current_chain succeeded).height_eq.2,
    rfl, rfl, rfl⟩

/-- A block on top of `genesisBlock`. -/
def prefixBlock : Block :=
  ⟨⟨1, computeBlockHash genesisBlock.header, Hash.zero, 1, maxTarget, 0⟩, []⟩

/-- The current tip, on top of `prefixBlock`. -/
def currentTip : Block :=
  ⟨⟨1, computeBlockHash prefixBlock.header, Hash.zero, 2, maxTarget, 0⟩, []⟩

/-- A competing tip on top of `prefixBlock`, differing from `currentTip` in its nonce. -/
def candidateTip : Block :=
  ⟨⟨1, computeBlockHash prefixBlock.header, Hash.zero, 2, maxTarget, 1⟩, []⟩

/-- What a successful `reorganize_chain` has done, for every connect and all chains, and a failing
input, with the spec's connect. The chains share the prefix `[genesis, prefix]` and differ in their
tips. The code reports the genesis header as the common ancestor, not the prefix's. It reports all
three current blocks as disconnected and all three new ones as connected, at depth 3. -/
theorem reorganize_chain_rewinds_common_prefix :
    (∀ (connect : Block → UtxoSet → UInt32 → Except Abort (ValidationResult × UtxoSet))
        (newChain currentChain : List Block) (utxoSet : UtxoSet) (currentHeight : UInt32)
        (result : ReorganizationResult),
      reorganizeChain connect newChain currentChain utxoSet currentHeight = .ok result →
      RewindsWholeChain connect newChain currentChain utxoSet currentHeight result) ∧
    prefixBlock.header.prevBlockHash = computeBlockHash genesisBlock.header ∧
      currentTip.header.prevBlockHash = computeBlockHash prefixBlock.header ∧
      candidateTip.header.prevBlockHash = computeBlockHash prefixBlock.header ∧
      currentTip ≠ candidateTip ∧ genesisBlock.header ≠ prefixBlock.header ∧
      (fun r => (r.commonAncestor, r.disconnectedBlocks, r.connectedBlocks, r.reorganizationDepth)) <$>
          reorganizeChain connectBlock [genesisBlock, prefixBlock, candidateTip]
            [genesisBlock, prefixBlock, currentTip] UtxoSet.new 3 =
        .ok (genesisBlock.header, [genesisBlock, prefixBlock, currentTip],
          [genesisBlock, prefixBlock, candidateTip], 3) :=
  ⟨fun _ _ _ _ _ _ => reorganize_chain_rewinds_whole_current_chain, rfl, rfl, rfl,
    fun same => absurd (congrArg (·.header.nonce) same) (by decide),
    fun same => absurd (congrArg (·.timestamp) same) (by decide), rfl⟩

end BllvmConsensus.Reorganization
