/-
Module: BllvmConsensus.Proofs.TransactionValidation
Layer: Proofs
Purpose: What `check_transaction` accepts and what an accepted `check_tx_inputs` says about value.
  `check_transaction` accepts exactly the transactions with one to 1000 inputs, one to 1000
  outputs and every output value in `[0, MAX_MONEY]`: it has no check on the sum of the outputs,
  and its simplified size can never exceed `MAX_TX_SIZE` once the counts are bounded. An accepted
  `check_tx_inputs` finds every prevout in the set and conserves value, but counts an outpoint once
  per input that lists it, so a transaction that names the same outpoint twice spends it twice.
  Its verdict reads only the values of the entries: neither the height argument nor an entry's
  height or coinbase origin changes it, so an immature coinbase output is spent like any other.
  Over an accepted transaction and a set whose values lie in `[0, MAX_MONEY]`, no `i64` sum
  overflows and the fee is at most `MAX_MONEY` per input.
Imports: BllvmConsensus.Core.Block
Trusted boundary: none
Main exports: StructurallyValid, checkTransaction_eq_valid_iff, check_transaction_accepts_iff,
  inputValue, sumInputValues_eq_inr, sumOutputValues_eq_ok, checkTxInputs_eq_valid,
  check_tx_inputs_conserves_value, check_tx_inputs_reads_only_values,
  check_tx_inputs_accepts_immature_coinbase_spend, ValuesInRange,
  sumInputValues_bounded, sumOutputValues_bounded, checkTxInputs_isOk,
  check_tx_inputs_never_overflows
-/
import BllvmConsensus.Core.Block

namespace BllvmConsensus.TransactionValidation

/-! ### `check_transaction` -/

/-- The output loop finds nothing exactly when every output value lies in `[0, MAX_MONEY]`. -/
theorem findInvalidOutput_eq_none_iff (i : Nat) (outputs : List TransactionOutput) :
    findInvalidOutput i outputs = none ↔
      ∀ o ∈ outputs, 0 ≤ o.value.toInt ∧ o.value.toInt ≤ maxMoney := by
  induction outputs generalizing i with
  | nil => simp [findInvalidOutput]
  | cons o rest ih =>
      simp only [findInvalidOutput, List.mem_cons, forall_eq_or_imp]
      split_ifs with bad
      · simp only [reduceCtorEq, false_iff, not_and]
        intro good; omega
      · rw [ih]
        exact ⟨fun h => ⟨by omega, h⟩, fun h => h.2⟩

/-- The transactions `check_transaction` accepts: one to `MAX_INPUTS` inputs, one to `MAX_OUTPUTS`
outputs, and every output value in `[0, MAX_MONEY]`. -/
def StructurallyValid (tx : Transaction) : Prop :=
  1 ≤ tx.inputs.length ∧ tx.inputs.length ≤ maxInputs ∧
    1 ≤ tx.outputs.length ∧ tx.outputs.length ≤ maxOutputs ∧
    ∀ o ∈ tx.outputs, 0 ≤ o.value.toInt ∧ o.value.toInt ≤ maxMoney

/-- With both counts bounded the simplified size is at most 50,008 bytes, so the size check of
`check_transaction` never rejects a transaction that reaches it. -/
theorem calculateTransactionSize_le_max {tx : Transaction} (inputs : tx.inputs.length ≤ maxInputs)
    (outputs : tx.outputs.length ≤ maxOutputs) : calculateTransactionSize tx ≤ maxTxSize := by
  unfold calculateTransactionSize maxTxSize
  unfold maxInputs at inputs
  unfold maxOutputs at outputs
  omega

/-- `check_transaction` accepts exactly the structurally valid transactions. -/
theorem checkTransaction_eq_valid_iff (tx : Transaction) :
    checkTransaction tx = .ok .valid ↔ StructurallyValid tx := by
  have values := findInvalidOutput_eq_none_iff 0 tx.outputs
  unfold checkTransaction StructurallyValid
  by_cases empty : (tx.inputs.isEmpty || tx.outputs.isEmpty) = true
  · rw [if_pos empty]
    simp only [Bool.or_eq_true, List.isEmpty_iff_length_eq_zero] at empty
    simp only [Except.ok.injEq, reduceCtorEq, false_iff]
    omega
  · rw [if_neg empty]
    simp only [Bool.or_eq_true, List.isEmpty_iff_length_eq_zero, not_or] at empty
    cases found : findInvalidOutput 0 tx.outputs with
    | some p =>
        simp only [Except.ok.injEq, reduceCtorEq, false_iff]
        rw [found] at values
        simp only [reduceCtorEq, false_iff] at values
        tauto
    | none =>
        have inRange := values.mp found
        simp only
        by_cases many : tx.inputs.length > maxInputs
        · simp only [if_pos many, Except.ok.injEq, reduceCtorEq, false_iff]; omega
        · by_cases manyOut : tx.outputs.length > maxOutputs
          · simp only [if_neg many, if_pos manyOut, Except.ok.injEq, reduceCtorEq, false_iff]; omega
          · have small := @calculateTransactionSize_le_max tx (by omega) (by omega)
            simp only [if_neg many, if_neg manyOut, if_neg (Nat.not_lt.mpr small)]
            exact iff_of_true trivial ⟨by omega, by omega, by omega, by omega, inRange⟩

/-- `check_transaction` never fails: it returns a verdict. -/
theorem checkTransaction_isOk (tx : Transaction) : ∃ r, checkTransaction tx = .ok r := by
  unfold checkTransaction
  split
  · exact ⟨_, rfl⟩
  · split
    · exact ⟨_, rfl⟩
    · split_ifs <;> exact ⟨_, rfl⟩

/-- `check_transaction` returns `Ok(Valid)` exactly on the structurally valid transactions and
`Ok(Invalid _)` on every other one. -/
theorem check_transaction_accepts_iff (tx : Transaction) :
    (checkTransaction tx = .ok .valid ↔ StructurallyValid tx) ∧
      (¬ StructurallyValid tx → ∃ reason, checkTransaction tx = .ok (.invalid reason)) := by
  refine ⟨checkTransaction_eq_valid_iff tx, fun invalid => ?_⟩
  obtain ⟨r, hr⟩ := checkTransaction_isOk tx
  cases r with
  | valid => exact absurd ((checkTransaction_eq_valid_iff tx).mp hr) invalid
  | invalid reason => exact ⟨reason, hr⟩

/-- `MAX_MONEY` as an `i64`. -/
def maxMoneyI64 : I64 := ⟨maxMoney, by decide, by decide⟩

/-- One input and two outputs of `MAX_MONEY` each. -/
def twoMaxOutputsTx : Transaction :=
  ⟨1, [⟨⟨Hash.zero, 0⟩, [], 0xffffffff⟩], [⟨maxMoneyI64, []⟩, ⟨maxMoneyI64, []⟩], 0⟩

/-- Two outputs of `MAX_MONEY` each pass `check_transaction`, although together they exceed
`MAX_MONEY`: there is no check on the sum of the outputs. -/
theorem check_transaction_accepts_output_sum_above_max_money :
    checkTransaction twoMaxOutputsTx = .ok .valid ∧
      (twoMaxOutputsTx.outputs.map (·.value.toInt)).sum > maxMoney := by
  refine ⟨(checkTransaction_eq_valid_iff _).mpr ?_, by decide⟩
  refine ⟨by decide, by decide, by decide, by decide, ?_⟩
  simp [twoMaxOutputsTx, maxMoneyI64, maxMoney]

/-! ### `check_tx_inputs` -/

/-- The amount an input draws from the set: its prevout's value, or `0` when the prevout is
absent. -/
def inputValue (utxoSet : UtxoSet) (input : TransactionInput) : Int :=
  ((utxoSet.get input.prevout).map (·.value.toInt)).getD 0

/-- When the input loop finishes, every prevout was found and the total is the running total plus
the inputs' amounts, each input counted once. -/
theorem sumInputValues_eq_inr {utxoSet : UtxoSet} {i : Nat} {total r : I64}
    {inputs : List TransactionInput}
    (h : sumInputValues utxoSet i total inputs = .ok (.inr r)) :
    (∀ input ∈ inputs, (utxoSet.get input.prevout).isSome) ∧
      r.toInt = total.toInt + (inputs.map (inputValue utxoSet)).sum := by
  induction inputs generalizing i total with
  | nil =>
      cases h
      simp
  | cons input rest ih =>
      simp only [sumInputValues] at h
      cases found : utxoSet.get input.prevout with
      | none => simp [found] at h
      | some utxo =>
          rw [found] at h
          obtain ⟨total', added, h⟩ := bind_eq_ok.mp h
          have sum := I64.checkedAdd_eq_some.mp (Abort.ofOption_eq_ok.mp added)
          obtain ⟨allFound, hr⟩ := ih h
          refine ⟨?_, ?_⟩
          · simpa [found] using allFound
          · have drawn : inputValue utxoSet input = utxo.value.toInt := by simp [inputValue, found]
            rw [List.map_cons, List.sum_cons, drawn]
            omega

/-- The input loop at a found prevout adds its value and goes on. -/
theorem sumInputValues_cons_of_get {utxoSet : UtxoSet} {input : TransactionInput} {utxo : UTXO}
    (found : utxoSet.get input.prevout = some utxo) (i : Nat) (total : I64)
    (rest : List TransactionInput) :
    sumInputValues utxoSet i total (input :: rest) =
      Abort.ofOption (total.checkedAdd utxo.value) >>= fun total =>
        sumInputValues utxoSet (i + 1) total rest := by
  simp only [sumInputValues, found]

/-- The output sum, when it does not overflow, is the integer sum of the output values. -/
theorem sumOutputValues_eq_ok {total r : I64} {outputs : List TransactionOutput}
    (h : sumOutputValues total outputs = .ok r) :
    r.toInt = total.toInt + (outputs.map (·.value.toInt)).sum := by
  induction outputs generalizing total with
  | nil =>
      cases h
      simp
  | cons output rest ih =>
      obtain ⟨total', added, h⟩ := bind_eq_ok.mp h
      have sum := I64.checkedAdd_eq_some.mp (Abort.ofOption_eq_ok.mp added)
      have := ih h
      simp only [List.map_cons, List.sum_cons]
      omega

/-- What an accepted non-coinbase `check_tx_inputs` did: the input loop found every prevout, both
sums returned, the inputs cover the outputs, and the fee is their difference. -/
theorem checkTxInputs_eq_valid {tx : Transaction} {utxoSet : UtxoSet} {height : UInt32} {fee : I64}
    (notCoinbase : isCoinbase tx = false)
    (accepted : checkTxInputs tx utxoSet height = .ok (.valid, fee)) :
    ∃ totalIn totalOut, sumInputValues utxoSet 0 I64.zero tx.inputs = .ok (.inr totalIn) ∧
      sumOutputValues I64.zero tx.outputs = .ok totalOut ∧ totalOut.toInt ≤ totalIn.toInt ∧
      fee.toInt = totalIn.toInt - totalOut.toInt := by
  simp only [checkTxInputs, notCoinbase, Bool.false_eq_true, if_false] at accepted
  obtain ⟨loop, inputsSummed, accepted⟩ := bind_eq_ok.mp accepted
  rcases loop with i | totalIn
  · simp at accepted
  · obtain ⟨totalOut, outputsSummed, accepted⟩ := bind_eq_ok.mp accepted
    split_ifs at accepted with short
    · simp at accepted
    · obtain ⟨fee', subtracted, accepted⟩ := bind_eq_ok.mp accepted
      cases accepted
      exact ⟨totalIn, totalOut, inputsSummed, outputsSummed, by omega,
        I64.checkedSub_eq_some.mp (Abort.ofOption_eq_ok.mp subtracted)⟩

/-- An accepted non-coinbase transaction spends only outpoints of the set, pays a fee of at least
zero, and creates no value: outputs plus fee equal the sum of its inputs' amounts, where an
outpoint listed by several inputs is counted once per input. -/
theorem check_tx_inputs_conserves_value {tx : Transaction} {utxoSet : UtxoSet} {height : UInt32}
    {fee : I64} (notCoinbase : isCoinbase tx = false)
    (accepted : checkTxInputs tx utxoSet height = .ok (.valid, fee)) :
    (∀ input ∈ tx.inputs, (utxoSet.get input.prevout).isSome) ∧ 0 ≤ fee.toInt ∧
      (tx.outputs.map (·.value.toInt)).sum + fee.toInt =
        (tx.inputs.map (inputValue utxoSet)).sum := by
  obtain ⟨totalIn, totalOut, inputsSummed, outputsSummed, covered, feeEq⟩ :=
    checkTxInputs_eq_valid notCoinbase accepted
  obtain ⟨allFound, inSum⟩ := sumInputValues_eq_inr inputsSummed
  have outSum := sumOutputValues_eq_ok outputsSummed
  simp only [I64.toInt_zero, zero_add] at inSum outSum
  exact ⟨allFound, by omega, by omega⟩

/-- The outpoint `([1; 32], 0)`. -/
def sampleOutPoint : OutPoint := ⟨⟨List.replicate 32 1, by simp⟩, 0⟩

/-- An `i64` amount of `n` satoshis, for `n` below `2^63`. -/
def amount (n : Nat) : I64 := ⟨(n % 2 ^ 63 : Nat), by omega, by omega⟩

/-- A set holding 100 satoshis at `sampleOutPoint`. -/
def sampleUtxoSet : UtxoSet := UtxoSet.new.insert sampleOutPoint ⟨amount 100, [], 0⟩

/-- A transaction listing `sampleOutPoint` as both of its inputs and paying out 150. -/
def doubleSpendTx : Transaction :=
  ⟨1, [⟨sampleOutPoint, [], 0xffffffff⟩, ⟨sampleOutPoint, [], 0xffffffff⟩], [⟨amount 150, []⟩], 0⟩

/-- The conservation law applied to the double spend: the 150 paid out and the fee of 50 are
drawn from the one 100-satoshi entry counted twice. -/
theorem check_tx_inputs_conserves_value_double_spend :
    isCoinbase doubleSpendTx = false ∧
      checkTxInputs doubleSpendTx sampleUtxoSet 0 = .ok (.valid, amount 50) ∧
      (doubleSpendTx.outputs.map (·.value.toInt)).sum + (amount 50).toInt =
        (doubleSpendTx.inputs.map (inputValue sampleUtxoSet)).sum :=
  have notCoinbase : isCoinbase doubleSpendTx = false := by decide
  have accepted : checkTxInputs doubleSpendTx sampleUtxoSet 0 = .ok (.valid, amount 50) := rfl
  ⟨notCoinbase, accepted, (check_tx_inputs_conserves_value notCoinbase accepted).2.2⟩

/-- A transaction that lists one outpoint twice passes both checks: its prevouts are not pairwise
distinct, and it pays out 150 from a set whose only entry holds 100. -/
theorem check_tx_inputs_accepts_repeated_prevout :
    checkTransaction doubleSpendTx = .ok .valid ∧
      checkTxInputs doubleSpendTx sampleUtxoSet 0 = .ok (.valid, amount 50) ∧
      ¬ (doubleSpendTx.inputs.map (·.prevout)).Nodup ∧
      (doubleSpendTx.outputs.map (·.value.toInt)).sum > 100 := by
  refine ⟨rfl, rfl, ?_, by decide⟩
  simp [doubleSpendTx]

/-! ### Heights and coinbase maturity -/

/-- The input loop reads only the values of the entries it looks up. -/
theorem sumInputValues_congr {utxoSet utxoSet' : UtxoSet}
    (sameValues : ∀ o, (utxoSet.get o).map (·.value) = (utxoSet'.get o).map (·.value))
    (i : Nat) (total : I64) (inputs : List TransactionInput) :
    sumInputValues utxoSet i total inputs = sumInputValues utxoSet' i total inputs := by
  induction inputs generalizing i total with
  | nil => rfl
  | cons input rest ih =>
    have same := sameValues input.prevout
    simp only [sumInputValues]
    cases found : utxoSet.get input.prevout with
    | none =>
      cases found' : utxoSet'.get input.prevout with
      | none => rfl
      | some _ => simp [found, found'] at same
    | some utxo =>
      cases found' : utxoSet'.get input.prevout with
      | none => simp [found, found'] at same
      | some utxo' =>
        have sameValue : utxo.value = utxo'.value := by simpa [found, found'] using same
        simp only [sameValue, ih]

/-- `check_tx_inputs` reads neither its height nor the heights of the entries: two sets that hold
the same values at the same outpoints give the same result at any two heights. An entry does not
record whether a coinbase created it, so no coinbase-maturity rule is applied. -/
theorem check_tx_inputs_reads_only_values (tx : Transaction) {utxoSet utxoSet' : UtxoSet}
    (sameValues : ∀ o, (utxoSet.get o).map (·.value) = (utxoSet'.get o).map (·.value))
    (height height' : UInt32) :
    checkTxInputs tx utxoSet height = checkTxInputs tx utxoSet' height' := by
  unfold checkTxInputs
  rw [sumInputValues_congr sameValues]

/-- A coinbase paying 50 BTC to an empty script. -/
def coinbaseTx : Transaction :=
  ⟨1, [⟨⟨Hash.zero, 0xffffffff⟩, [], 0xffffffff⟩], [⟨amount 5000000000, []⟩], 0⟩

/-- The set that connecting `coinbaseTx` at height 100 to the empty set gives. -/
def coinbaseSet : UtxoSet :=
  insertOutputs (calculateTxIdSpec coinbaseTx) 100 UtxoSet.new 0 coinbaseTx.outputs

/-- A transaction spending the coinbase's output into one output of the same value. -/
def spendCoinbaseTx : Transaction :=
  ⟨1, [⟨⟨calculateTxIdSpec coinbaseTx, 0⟩, [], 0xffffffff⟩], [⟨amount 5000000000, []⟩], 0⟩

/-- `check_tx_inputs` reads only the values of the entries, for every transaction, sets and
heights, so it applies no coinbase-maturity rule; and the spec's scenario. A coinbase output
created at height 100 is spent at height 199, 99 blocks later, and `check_tx_inputs` accepts the
spend with fee 0, where `COINBASE_MATURITY` asks for 100 blocks. -/
theorem check_tx_inputs_accepts_immature_coinbase_spend :
    (∀ (tx : Transaction) (utxoSet utxoSet' : UtxoSet),
      (∀ o, (utxoSet.get o).map (·.value) = (utxoSet'.get o).map (·.value)) →
      ∀ height height' : UInt32,
        checkTxInputs tx utxoSet height = checkTxInputs tx utxoSet' height') ∧
    isCoinbase coinbaseTx = true ∧ connectTransaction 100 UtxoSet.new coinbaseTx = some coinbaseSet ∧
      coinbaseSet.get ⟨calculateTxIdSpec coinbaseTx, 0⟩ = some ⟨amount 5000000000, [], 100⟩ ∧
      199 - 100 < coinbaseMaturity ∧
      checkTxInputs spendCoinbaseTx coinbaseSet 199 = .ok (.valid, amount 0) := by
  have created : coinbaseSet.get ⟨calculateTxIdSpec coinbaseTx, 0⟩ =
      some ⟨amount 5000000000, [], 100⟩ := by
    simp only [coinbaseSet, coinbaseTx, insertOutputs, UtxoSet.get_insert]
    exact if_pos rfl
  have spending : isCoinbase spendCoinbaseTx = false := by simp [isCoinbase, spendCoinbaseTx]
  have summed : sumInputValues coinbaseSet 0 I64.zero spendCoinbaseTx.inputs =
      .ok (.inr (amount 5000000000)) := by
    show sumInputValues coinbaseSet 0 I64.zero [⟨⟨calculateTxIdSpec coinbaseTx, 0⟩, [], 0xffffffff⟩] = _
    rw [@sumInputValues_cons_of_get coinbaseSet ⟨⟨calculateTxIdSpec coinbaseTx, 0⟩, [], 0xffffffff⟩ _
      created]
    rfl
  refine ⟨fun tx _ _ sameValues => check_tx_inputs_reads_only_values tx sameValues, rfl, rfl,
    created, by decide, ?_⟩
  rw [checkTxInputs, if_neg (by rw [spending]; decide), summed]
  rfl

/-! ### No overflow under the chain-state invariant -/

/-- The chain-state invariant: every entry of the set holds a value in `[0, MAX_MONEY]`. -/
def ValuesInRange (utxoSet : UtxoSet) : Prop :=
  ∀ o utxo, utxoSet.get o = some utxo → 0 ≤ utxo.value.toInt ∧ utxo.value.toInt ≤ maxMoney

/-- An `i64` result in range does not panic. -/
theorem ofOption_ofInt?_eq_ok {v : Int} (lo : -2 ^ 63 ≤ v) (hi : v < 2 ^ 63) :
    Abort.ofOption (I64.ofInt? v) = .ok ⟨v, lo, hi⟩ := by
  rw [I64.ofInt?, dif_pos ⟨lo, hi⟩]
  rfl

/-- Under the invariant, the input loop from a non-negative total never overflows while the total
plus `MAX_MONEY` per input stays below `2 ^ 63`, and a finished loop has added at most
`MAX_MONEY` per input. -/
theorem sumInputValues_bounded {utxoSet : UtxoSet} (inRange : ValuesInRange utxoSet) :
    ∀ (inputs : List TransactionInput) (i : Nat) (total : I64), 0 ≤ total.toInt →
      total.toInt + inputs.length * maxMoney < 2 ^ 63 →
      ∃ r, sumInputValues utxoSet i total inputs = .ok r ∧
        ∀ t, r = .inr t → total.toInt ≤ t.toInt ∧ t.toInt ≤ total.toInt + inputs.length * maxMoney
  | [], _, total, _, _ => ⟨.inr total, rfl, fun t h => by cases h; simp⟩
  | input :: rest, i, total, nonneg, fits => by
    cases found : utxoSet.get input.prevout with
    | none => exact ⟨.inl i, by simp [sumInputValues, found], fun t h => by cases h⟩
    | some utxo =>
      obtain ⟨lo, hi⟩ := inRange _ _ found
      have spread : 0 ≤ (rest.length : Int) * maxMoney :=
        Int.mul_nonneg (Int.ofNat_zero_le _) maxMoney_nonneg
      simp only [List.length_cons, Nat.cast_succ, add_one_mul] at fits ⊢
      obtain ⟨r, ran, bound⟩ := sumInputValues_bounded inRange rest (i + 1)
        ⟨total.toInt + utxo.value.toInt, by omega, by omega⟩ (by dsimp only; omega)
        (by dsimp only; omega)
      refine ⟨r, ?_, fun t h => ?_⟩
      · rw [sumInputValues_cons_of_get found]
        exact (congrArg (· >>= _) (ofOption_ofInt?_eq_ok _ _)).trans ran
      · have := bound t h
        dsimp only at this
        omega

/-- With every output value in `[0, MAX_MONEY]`, the output sum from a non-negative total never
overflows while the total plus `MAX_MONEY` per output stays below `2 ^ 63`, and it adds at most
`MAX_MONEY` per output. -/
theorem sumOutputValues_bounded :
    ∀ (outputs : List TransactionOutput) (total : I64),
      (∀ o ∈ outputs, 0 ≤ o.value.toInt ∧ o.value.toInt ≤ maxMoney) → 0 ≤ total.toInt →
      total.toInt + outputs.length * maxMoney < 2 ^ 63 →
      ∃ t, sumOutputValues total outputs = .ok t ∧ total.toInt ≤ t.toInt ∧
        t.toInt ≤ total.toInt + outputs.length * maxMoney
  | [], total, _, _, _ => ⟨total, rfl, le_rfl, by simp⟩
  | output :: rest, total, inRange, nonneg, fits => by
    obtain ⟨lo, hi⟩ := inRange output (.head _)
    have spread : 0 ≤ (rest.length : Int) * maxMoney :=
      Int.mul_nonneg (Int.ofNat_zero_le _) maxMoney_nonneg
    simp only [List.length_cons, Nat.cast_succ, add_one_mul] at fits ⊢
    obtain ⟨t, ran, below, above⟩ := sumOutputValues_bounded rest
      ⟨total.toInt + output.value.toInt, by omega, by omega⟩ (fun o mem => inRange o (.tail _ mem))
      (by dsimp only; omega) (by dsimp only; omega)
    dsimp only at below above
    refine ⟨t, ?_, by omega, by omega⟩
    exact (congrArg (· >>= _) (ofOption_ofInt?_eq_ok _ _)).trans ran

/-- `check_tx_inputs` returns whenever its two sums do and the output total is not negative: the
final subtraction then stays between zero and the input total. -/
theorem checkTxInputs_isOk {tx : Transaction} {utxoSet : UtxoSet} {height : UInt32}
    (inputsSummed : ∃ r, sumInputValues utxoSet 0 I64.zero tx.inputs = .ok r)
    (outputsSummed : ∃ totalOut, sumOutputValues I64.zero tx.outputs = .ok totalOut ∧
      0 ≤ totalOut.toInt) :
    ∃ r, checkTxInputs tx utxoSet height = .ok r := by
  obtain ⟨r, inputsSummed⟩ := inputsSummed
  obtain ⟨totalOut, outputsSummed, outputsLow⟩ := outputsSummed
  unfold checkTxInputs
  split
  · exact ⟨_, rfl⟩
  rw [inputsSummed]
  rcases r with i | totalIn
  · exact ⟨_, rfl⟩
  simp only [bind, Except.bind, outputsSummed]
  split
  · exact ⟨_, rfl⟩
  have hi := totalIn.lt_max
  rw [show totalIn.checkedSub totalOut = I64.ofInt? (totalIn.toInt - totalOut.toInt) from rfl,
    ofOption_ofInt?_eq_ok (by omega) (by omega)]
  exact ⟨_, rfl⟩

/-- For a transaction `check_transaction` accepts and a set satisfying the chain-state invariant,
no `i64` accumulation of `check_tx_inputs` overflows, at any height: the input loop and the
output sum both return, the call returns a verdict, and an accepted fee lies between `0` and
`MAX_MONEY` per input. -/
theorem check_tx_inputs_never_overflows {tx : Transaction} {utxoSet : UtxoSet} (height : UInt32)
    (admitted : checkTransaction tx = .ok .valid) (inRange : ValuesInRange utxoSet) :
    (∃ r, sumInputValues utxoSet 0 I64.zero tx.inputs = .ok r) ∧
      (∃ total, sumOutputValues I64.zero tx.outputs = .ok total) ∧
      (∃ r, checkTxInputs tx utxoSet height = .ok r) ∧
      ∀ fee, checkTxInputs tx utxoSet height = .ok (.valid, fee) →
        0 ≤ fee.toInt ∧ fee.toInt ≤ tx.inputs.length * maxMoney := by
  obtain ⟨-, fewInputs, -, fewOutputs, outputsInRange⟩ :=
    (checkTransaction_eq_valid_iff tx).mp admitted
  unfold maxInputs at fewInputs
  unfold maxOutputs at fewOutputs
  obtain ⟨r, inputsSummed, inputBound⟩ := sumInputValues_bounded inRange tx.inputs 0 I64.zero le_rfl
    (by rw [maxMoney_eq, I64.toInt_zero]; omega)
  obtain ⟨totalOut, outputsSummed, outputsLow, -⟩ := sumOutputValues_bounded tx.outputs I64.zero
    outputsInRange le_rfl (by rw [maxMoney_eq, I64.toInt_zero]; omega)
  refine ⟨⟨r, inputsSummed⟩, ⟨totalOut, outputsSummed⟩,
    checkTxInputs_isOk ⟨r, inputsSummed⟩ ⟨totalOut, outputsSummed, outputsLow⟩, fun fee accepted => ?_⟩
  cases coinbase : isCoinbase tx
  · obtain ⟨totalIn, _, inputsSummed', outputsSummed', covered, feeEq⟩ :=
      checkTxInputs_eq_valid coinbase accepted
    cases inputsSummed.symm.trans inputsSummed'
    cases outputsSummed.symm.trans outputsSummed'
    have inputsHigh := (inputBound totalIn rfl).2
    simp only [I64.toInt_zero, zero_add] at inputsHigh outputsLow
    omega
  · simp only [checkTxInputs, coinbase, if_true, Except.ok.injEq, Prod.mk.injEq] at accepted
    rw [← accepted.2, I64.toInt_zero]
    exact ⟨le_rfl, Int.mul_nonneg (Int.ofNat_zero_le _) maxMoney_nonneg⟩

/-- `doubleSpendTx` against `sampleUtxoSet`: the fee of 50 lies within `MAX_MONEY` per input. -/
theorem check_tx_inputs_double_spend_in_range :
    checkTransaction doubleSpendTx = .ok .valid ∧ ValuesInRange sampleUtxoSet ∧
      (∃ r, checkTxInputs doubleSpendTx sampleUtxoSet 0 = .ok r) ∧
      (∀ fee, checkTxInputs doubleSpendTx sampleUtxoSet 0 = .ok (.valid, fee) →
        0 ≤ fee.toInt ∧ fee.toInt ≤ doubleSpendTx.inputs.length * maxMoney) :=
  have admitted : checkTransaction doubleSpendTx = .ok .valid := rfl
  have inRange : ValuesInRange sampleUtxoSet := fun o utxo found => by
    simp only [sampleUtxoSet, UtxoSet.get_insert, UtxoSet.get_new] at found
    split at found
    · cases found
      exact ⟨by decide, by decide⟩
    · cases found
  have never := check_tx_inputs_never_overflows 0 admitted inRange
  ⟨admitted, inRange, never.2.2.1, never.2.2.2⟩

end BllvmConsensus.TransactionValidation
