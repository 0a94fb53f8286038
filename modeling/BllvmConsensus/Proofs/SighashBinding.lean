/-
Module: BllvmConsensus.Proofs.SighashBinding
Layer: Proofs
Purpose: What a signature of each sighash type commits to. Every field of the preimage is
  fixed-width or length-prefixed, so an encoded field can be read back off the front of the bytes
  that follow it. Two preimages of one type are therefore equal exactly when the transactions agree
  on the version, both counts, the inputs and outputs the type writes out, and the lock time
  (`sighashPreimage_eq_iff`, `sighash_commits_exactly`). Under every type but `AnyoneCanPay`,
  which `from_byte` never returns, the other inputs are zeroed before hashing, so a signature
  commits to none of them (`sighash_all_ignores_other_inputs`).
Imports: BllvmConsensus.Core.TransactionHash
Trusted boundary: none
Main exports: leBytes_append_cancel, encodeVarint_append_cancel, inputBytes_append_cancel,
  outputBytes_append_cancel, flatMap_append_cancel, writtenInputs, writtenOutputs, WireSized,
  SighashCommitment, sighashCommitment, sighashPreimage_eq_iff, sighashPreimage_all_eq_iff,
  sighash_commits_exactly, sighash_all_ignores_other_inputs
-/
import BllvmConsensus.Core.TransactionHash

namespace BllvmConsensus.SighashBinding

open Digest

/-!
Each lemma below has the same shape: an encoding of `a` followed by `r` equals an encoding of `b`
followed by `r'` only when `a = b` and `r = r'`. Composed left to right they read a preimage
back field by field. A length is encoded from `len() as u64`, so the lemmas for varints and for
length-prefixed scripts take lengths below `2 ^ 64`, the range of a Rust length.

[SPEC src/src/transaction_hash.rs:80-175]
-/

/-! ### Fixed-width fields -/

/-- Little-endian bytes of values that fit determine the value. -/
theorem leBytes_inj {a b : Nat} : ∀ {k : Nat}, a < 256 ^ k → b < 256 ^ k →
    leBytes a k = leBytes b k → a = b
  | 0, ha, hb, _ => by omega
  | k + 1, ha, hb, same => by
    simp only [leBytes, List.cons.injEq] at same
    have low : a % 256 = b % 256 := by
      have := congrArg UInt8.toNat same.1
      exact (Nat.mod_eq_of_lt (Nat.mod_lt a (by decide))).symm.trans
        (this.trans (Nat.mod_eq_of_lt (Nat.mod_lt b (by decide))))
    have high : a / 256 = b / 256 :=
      leBytes_inj (by rw [Nat.pow_succ] at ha; omega) (by rw [Nat.pow_succ] at hb; omega) same.2
    omega

theorem leBytes_append_cancel {a b k : Nat} {r r' : ByteString} (ha : a < 256 ^ k)
    (hb : b < 256 ^ k) (same : leBytes a k ++ r = leBytes b k ++ r') : a = b ∧ r = r' := by
  obtain ⟨bytes, rest⟩ := List.append_inj same (by simp)
  exact ⟨leBytes_inj ha hb bytes, rest⟩

theorem u32Bytes_append_cancel {a b : UInt32} {r r' : ByteString}
    (same : u32Bytes a ++ r = u32Bytes b ++ r') : a = b ∧ r = r' := by
  obtain ⟨value, rest⟩ :=
    leBytes_append_cancel (UInt32.toNat_lt_size a) (UInt32.toNat_lt_size b) same
  exact ⟨UInt32.toNat.inj value, rest⟩

theorem i64Bytes_append_cancel {a b : I64} {r r' : ByteString}
    (same : i64Bytes a ++ r = i64Bytes b ++ r') : a = b ∧ r = r' := by
  have fits (x : I64) : (x.toInt % 2 ^ 64).toNat < 256 ^ 8 := by
    have := Int.emod_nonneg x.toInt (by decide : (2 : Int) ^ 64 ≠ 0)
    have := Int.emod_lt_of_pos x.toInt (by decide : (0 : Int) < 2 ^ 64)
    omega
  obtain ⟨value, rest⟩ := leBytes_append_cancel (fits a) (fits b) same
  have := a.min_le
  have := a.lt_max
  have := b.min_le
  have := b.lt_max
  have same : a.toInt = b.toInt := by omega
  cases a
  cases b
  cases same
  exact ⟨rfl, rest⟩

theorem hashBytes_append_cancel {a b : Hash} {r r' : ByteString}
    (same : a.bytes ++ r = b.bytes ++ r') : a = b ∧ r = r' := by
  obtain ⟨bytes, rest⟩ := List.append_inj same (a.length_bytes.trans b.length_bytes.symm)
  cases a
  cases b
  cases bytes
  exact ⟨rfl, rest⟩

/-! ### Varints -/

theorem toNat_toUInt8 (n : Nat) : n.toUInt8.toNat = n % 256 := rfl

/-- A varint followed by anything determines the value it encodes: its first byte names its width,
and within a width the little-endian bytes name the value. -/
theorem encodeVarint_append_cancel {a b : Nat} {r r' : ByteString} (ha : a < 2 ^ 64)
    (hb : b < 2 ^ 64) (same : encodeVarint a ++ r = encodeVarint b ++ r') : a = b ∧ r = r' := by
  unfold encodeVarint at same
  split_ifs at same <;>
    simp only [List.cons_append, List.nil_append] at same <;>
    obtain ⟨tag, rest⟩ := List.cons.inj same <;>
    have tagValue := congrArg UInt8.toNat tag <;>
    simp only [toNat_toUInt8, UInt8.reduceToNat] at tagValue <;>
    first
    | omega
    | exact ⟨by omega, rest⟩
    | exact leBytes_append_cancel (by omega) (by omega) rest

/-! ### Inputs and outputs -/

/-- An input written out, followed by anything, determines the input. -/
theorem inputBytes_append_cancel {x y : TransactionInput} {r r' : ByteString}
    (hx : x.scriptSig.length < 2 ^ 64) (hy : y.scriptSig.length < 2 ^ 64)
    (same : inputBytes x ++ r = inputBytes y ++ r') : x = y ∧ r = r' := by
  obtain ⟨⟨hash, index⟩, scriptSig, sequence⟩ := x
  obtain ⟨⟨hash', index'⟩, scriptSig', sequence'⟩ := y
  simp only [inputBytes, outPointBytes, List.append_assoc] at same
  obtain ⟨rfl, afterHash⟩ := hashBytes_append_cancel same
  obtain ⟨rfl, afterIndex⟩ := u32Bytes_append_cancel afterHash
  obtain ⟨lengths, afterLength⟩ := encodeVarint_append_cancel hx hy afterIndex
  obtain ⟨rfl, afterScript⟩ := List.append_inj afterLength lengths
  obtain ⟨rfl, rest⟩ := u32Bytes_append_cancel afterScript
  exact ⟨rfl, rest⟩

/-- An output written out, followed by anything, determines the output. -/
theorem outputBytes_append_cancel {x y : TransactionOutput} {r r' : ByteString}
    (hx : x.scriptPubkey.length < 2 ^ 64) (hy : y.scriptPubkey.length < 2 ^ 64)
    (same : outputBytes x ++ r = outputBytes y ++ r') : x = y ∧ r = r' := by
  obtain ⟨value, scriptPubkey⟩ := x
  obtain ⟨value', scriptPubkey'⟩ := y
  simp only [outputBytes, List.append_assoc] at same
  obtain ⟨rfl, afterValue⟩ := i64Bytes_append_cancel same
  obtain ⟨lengths, afterLength⟩ := encodeVarint_append_cancel hx hy afterValue
  obtain ⟨rfl, rest⟩ := List.append_inj afterLength lengths
  exact ⟨rfl, rest⟩

/-- Equally many items, each written so that it can be read back off the front of what follows,
determine the items. -/
theorem flatMap_append_cancel {α : Type} {encode : α → ByteString} {Fits : α → Prop}
    (cancel : ∀ {x y : α} {r r' : ByteString}, Fits x → Fits y → encode x ++ r = encode y ++ r' →
      x = y ∧ r = r')
    {xs ys : List α} {r r' : ByteString} (lengths : xs.length = ys.length)
    (fits : ∀ x ∈ xs, Fits x) (fits' : ∀ y ∈ ys, Fits y)
    (same : xs.flatMap encode ++ r = ys.flatMap encode ++ r') : xs = ys ∧ r = r' := by
  induction xs generalizing ys with
  | nil =>
    cases ys with
    | nil => exact ⟨rfl, same⟩
    | cons _ _ => cases lengths
  | cons x xs ih =>
    cases ys with
    | nil => cases lengths
    | cons y ys =>
      simp only [List.flatMap_cons, List.append_assoc] at same
      obtain ⟨rfl, afterFirst⟩ := cancel (fits x (.head _)) (fits' y (.head _)) same
      obtain ⟨rfl, rest⟩ := ih (Nat.succ.inj lengths) (fun z mem => fits z (.tail _ mem))
        (fun z mem => fits' z (.tail _ mem)) afterFirst
      exact ⟨rfl, rest⟩

/-! ### The input loop under `ALL` -/

section AllInputs

variable {inputIndex : Nat}

theorem sighashInputs_all_cons (j : Nat) (x : TransactionInput) (xs : List TransactionInput) :
    sighashInputs .all inputIndex j (x :: xs) =
      (if j = inputIndex then inputBytes x else zeroedInputBytes) ++
        sighashInputs .all inputIndex (j + 1) xs := by
  simp [sighashInputs]

/-- Stepping past an input before the signing one moves the signing position one closer. -/
theorem getElem?_cons_sub {α : Type} {j : Nat} (ahead : j < inputIndex) (x : α) (xs : List α) :
    (x :: xs)[inputIndex - j]? = xs[inputIndex - (j + 1)]? := by
  rw [show inputIndex - j = inputIndex - (j + 1) + 1 by omega, List.getElem?_cons_succ]

/-- Under `ALL` the input loop writes the signing input out and zeroes every other, so over
equally long input lists it determines the signing input and nothing else. -/
theorem sighashInputs_all_append_cancel {j : Nat} {ins ins' : List TransactionInput}
    {r r' : ByteString} (lengths : ins.length = ins'.length)
    (fits : ∀ x ∈ ins, x.scriptSig.length < 2 ^ 64) (fits' : ∀ x ∈ ins', x.scriptSig.length < 2 ^ 64)
    (same : sighashInputs .all inputIndex j ins ++ r = sighashInputs .all inputIndex j ins' ++ r') :
    (j ≤ inputIndex → ins[inputIndex - j]? = ins'[inputIndex - j]?) ∧ r = r' := by
  induction ins generalizing j ins' with
  | nil =>
    cases ins' with
    | nil => exact ⟨fun _ => rfl, same⟩
    | cons _ _ => cases lengths
  | cons x xs ih =>
    cases ins' with
    | nil => cases lengths
    | cons y ys =>
      have later := @ih (j + 1) ys (Nat.succ.inj lengths) (fun z mem => fits z (.tail _ mem))
        (fun z mem => fits' z (.tail _ mem))
      rw [sighashInputs_all_cons, sighashInputs_all_cons, List.append_assoc,
        List.append_assoc] at same
      by_cases signing : j = inputIndex
      · subst signing
        rw [if_pos rfl, if_pos rfl] at same
        obtain ⟨rfl, afterSigning⟩ :=
          inputBytes_append_cancel (fits x (.head _)) (fits' y (.head _)) same
        exact ⟨fun _ => by simp, (later afterSigning).2⟩
      · rw [if_neg signing, if_neg signing] at same
        obtain ⟨atIndex, rest⟩ := later (List.append_cancel_left same)
        refine ⟨fun before => ?_, rest⟩
        have ahead : j < inputIndex := by omega
        rw [getElem?_cons_sub ahead, getElem?_cons_sub ahead]
        exact atIndex ahead

/-- Conversely, equally long input lists with the same signing input give the same input loop. -/
theorem sighashInputs_all_congr {j : Nat} {ins ins' : List TransactionInput}
    (lengths : ins.length = ins'.length)
    (signing : j ≤ inputIndex → ins[inputIndex - j]? = ins'[inputIndex - j]?) :
    sighashInputs .all inputIndex j ins = sighashInputs .all inputIndex j ins' := by
  induction ins generalizing j ins' with
  | nil =>
    cases ins' with
    | nil => rfl
    | cons _ _ => cases lengths
  | cons x xs ih =>
    cases ins' with
    | nil => cases lengths
    | cons y ys =>
      rw [sighashInputs_all_cons, sighashInputs_all_cons]
      by_cases here : j = inputIndex
      · subst here
        obtain rfl : x = y := by simpa using signing le_rfl
        rw [ih (Nat.succ.inj lengths) fun after => by omega]
      · rw [if_neg here, if_neg here, ih (Nat.succ.inj lengths)]
        intro ahead
        have atIndex := signing (by omega)
        rwa [getElem?_cons_sub ahead, getElem?_cons_sub ahead] at atIndex

/-! ### The sections every type writes -/

/-- The inputs the preimage of a type writes out: all of them under `AnyoneCanPay`, and otherwise
the signing one, if there is an input at that index. -/
def writtenInputs (sighashType : SighashType) (inputIndex : Nat)
    (inputs : List TransactionInput) : List TransactionInput :=
  if sighashType = .anyoneCanPay then inputs else inputs[inputIndex]?.toList

/-- The outputs the preimage of a type writes out: all of them under `All` and `AnyoneCanPay`,
none under `None`, and under `Single` the one at the signing index, if there is one. -/
def writtenOutputs (sighashType : SighashType) (inputIndex : Nat)
    (outputs : List TransactionOutput) : List TransactionOutput :=
  match sighashType with
  | .all | .anyoneCanPay => outputs
  | .none => []
  | .single => outputs[inputIndex]?.toList

/-- Under `AnyoneCanPay` every input is written out. -/
theorem sighashInputs_anyoneCanPay (j : Nat) (inputs : List TransactionInput) :
    sighashInputs .anyoneCanPay inputIndex j inputs = inputs.flatMap inputBytes := by
  induction inputs generalizing j with
  | nil => rfl
  | cons x xs ih => simp [sighashInputs, ih]

/-- Under every other type the input loop is the `ALL` one. -/
theorem sighashInputs_of_ne {sighashType : SighashType} (notAnyone : sighashType ≠ .anyoneCanPay)
    (j : Nat) (inputs : List TransactionInput) :
    sighashInputs sighashType inputIndex j inputs = sighashInputs .all inputIndex j inputs := by
  induction inputs generalizing j with
  | nil => rfl
  | cons x xs ih => simp [sighashInputs, ih, notAnyone]

theorem option_toList_inj {α : Type} {a b : Option α} (same : a.toList = b.toList) : a = b := by
  cases a <;> cases b <;> simp_all

/-- Over equally long input lists, the input section of a type followed by anything determines the
inputs it writes out. -/
theorem sighashInputs_append_cancel (sighashType : SighashType) {ins ins' : List TransactionInput}
    {r r' : ByteString} (lengths : ins.length = ins'.length)
    (fits : ∀ x ∈ ins, x.scriptSig.length < 2 ^ 64) (fits' : ∀ x ∈ ins', x.scriptSig.length < 2 ^ 64)
    (same : sighashInputs sighashType inputIndex 0 ins ++ r =
      sighashInputs sighashType inputIndex 0 ins' ++ r') :
    writtenInputs sighashType inputIndex ins = writtenInputs sighashType inputIndex ins' ∧ r = r' := by
  unfold writtenInputs
  by_cases anyone : sighashType = .anyoneCanPay
  · subst anyone
    rw [sighashInputs_anyoneCanPay, sighashInputs_anyoneCanPay] at same
    exact flatMap_append_cancel inputBytes_append_cancel lengths fits fits' same
  · rw [sighashInputs_of_ne anyone, sighashInputs_of_ne anyone] at same
    obtain ⟨signing, rest⟩ := sighashInputs_all_append_cancel lengths fits fits' same
    rw [if_neg anyone, if_neg anyone]
    exact ⟨congrArg Option.toList (signing (Nat.zero_le _)), rest⟩

/-- Conversely, equally long input lists whose written inputs agree give the same input section. -/
theorem sighashInputs_congr (sighashType : SighashType) {ins ins' : List TransactionInput}
    (lengths : ins.length = ins'.length)
    (written : writtenInputs sighashType inputIndex ins = writtenInputs sighashType inputIndex ins') :
    sighashInputs sighashType inputIndex 0 ins = sighashInputs sighashType inputIndex 0 ins' := by
  unfold writtenInputs at written
  by_cases anyone : sighashType = .anyoneCanPay
  · rw [if_pos anyone, if_pos anyone] at written
    rw [written]
  · rw [if_neg anyone, if_neg anyone] at written
    rw [sighashInputs_of_ne anyone, sighashInputs_of_ne anyone]
    exact sighashInputs_all_congr lengths fun _ => option_toList_inj written

end AllInputs

/-- The output section is the written outputs, one after another. -/
theorem sighashOutputs_eq_flatMap (sighashType : SighashType) (inputIndex : Nat)
    (outputs : List TransactionOutput) :
    sighashOutputs sighashType inputIndex outputs =
      (writtenOutputs sighashType inputIndex outputs).flatMap outputBytes := by
  cases sighashType
  case single =>
    simp only [sighashOutputs, writtenOutputs]
    split
    · rename_i within
      simp [List.getElem?_eq_getElem within]
    · rename_i beyond
      simp [List.getElem?_eq_none (Nat.le_of_not_lt beyond)]
  all_goals simp [sighashOutputs, writtenOutputs]

theorem mem_writtenOutputs {sighashType : SighashType} {inputIndex : Nat}
    {outputs : List TransactionOutput} {o : TransactionOutput}
    (member : o ∈ writtenOutputs sighashType inputIndex outputs) : o ∈ outputs := by
  cases sighashType
  case single =>
    simp only [writtenOutputs, Option.mem_toList] at member
    exact List.mem_iff_getElem?.mpr ⟨_, member⟩
  all_goals simp_all [writtenOutputs]

/-- How many outputs a type writes depends only on how many there are. -/
theorem writtenOutputs_length_eq (sighashType : SighashType) (inputIndex : Nat)
    {outputs outputs' : List TransactionOutput} (lengths : outputs.length = outputs'.length) :
    (writtenOutputs sighashType inputIndex outputs).length =
      (writtenOutputs sighashType inputIndex outputs').length := by
  cases sighashType
  case single =>
    simp only [writtenOutputs]
    by_cases within : inputIndex < outputs.length
    · rw [List.getElem?_eq_getElem within, List.getElem?_eq_getElem (lengths ▸ within)]
      rfl
    · rw [List.getElem?_eq_none (Nat.le_of_not_lt within),
        List.getElem?_eq_none (lengths ▸ Nat.le_of_not_lt within)]
  all_goals simp [writtenOutputs, lengths]

/-- Over equally long output lists, the output section of a type followed by anything determines
the outputs it writes out. -/
theorem sighashOutputs_append_cancel (sighashType : SighashType) (inputIndex : Nat)
    {outputs outputs' : List TransactionOutput} {r r' : ByteString}
    (lengths : outputs.length = outputs'.length)
    (fits : ∀ o ∈ outputs, o.scriptPubkey.length < 2 ^ 64)
    (fits' : ∀ o ∈ outputs', o.scriptPubkey.length < 2 ^ 64)
    (same : sighashOutputs sighashType inputIndex outputs ++ r =
      sighashOutputs sighashType inputIndex outputs' ++ r') :
    writtenOutputs sighashType inputIndex outputs = writtenOutputs sighashType inputIndex outputs' ∧
      r = r' := by
  rw [sighashOutputs_eq_flatMap, sighashOutputs_eq_flatMap] at same
  exact flatMap_append_cancel outputBytes_append_cancel
    (writtenOutputs_length_eq sighashType inputIndex lengths)
    (fun o member => fits o (mem_writtenOutputs member))
    (fun o member => fits' o (mem_writtenOutputs member)) same

/-! ### What `ALL` commits to -/

/-- The lengths a preimage encodes are below `2 ^ 64`, as every Rust length cast `as u64` is. -/
structure WireSized (tx : Transaction) : Prop where
  inputs_fit : tx.inputs.length < 2 ^ 64
  outputs_fit : tx.outputs.length < 2 ^ 64
  scriptSigs_fit : ∀ input ∈ tx.inputs, input.scriptSig.length < 2 ^ 64
  scriptPubkeys_fit : ∀ output ∈ tx.outputs, output.scriptPubkey.length < 2 ^ 64

/-- The parts of a transaction a sighash preimage writes out. -/
structure SighashCommitment where
  version : UInt32
  inputCount : Nat
  inputs : List TransactionInput
  outputCount : Nat
  outputs : List TransactionOutput
  lockTime : UInt32
deriving DecidableEq

/-- What a signature of type `sighashType` on input `inputIndex` commits to: the version and the
lock time, both counts, and the inputs and outputs the type writes out. -/
def sighashCommitment (sighashType : SighashType) (inputIndex : Nat) (tx : Transaction) :
    SighashCommitment where
  version := tx.version
  inputCount := tx.inputs.length
  inputs := writtenInputs sighashType inputIndex tx.inputs
  outputCount := tx.outputs.length
  outputs := writtenOutputs sighashType inputIndex tx.outputs
  lockTime := tx.lockTime

/-- The preimage of every type is an exact encoding of the commitment: two preimages of one type
at one input index are equal exactly when the transactions' commitments are. -/
theorem sighashPreimage_eq_iff {tx tx' : Transaction} (sighashType : SighashType)
    (inputIndex : Nat) (sized : WireSized tx) (sized' : WireSized tx') :
    sighashPreimage tx inputIndex sighashType = sighashPreimage tx' inputIndex sighashType ↔
      sighashCommitment sighashType inputIndex tx = sighashCommitment sighashType inputIndex tx' := by
  simp only [sighashCommitment, SighashCommitment.mk.injEq]
  constructor
  · intro same
    simp only [sighashPreimage, List.append_assoc] at same
    obtain ⟨version, afterVersion⟩ := u32Bytes_append_cancel same
    obtain ⟨inputCount, afterCount⟩ :=
      encodeVarint_append_cancel sized.inputs_fit sized'.inputs_fit afterVersion
    obtain ⟨inputs, afterInputs⟩ := sighashInputs_append_cancel sighashType inputCount
      sized.scriptSigs_fit sized'.scriptSigs_fit afterCount
    obtain ⟨outputCount, afterOutputCount⟩ :=
      encodeVarint_append_cancel sized.outputs_fit sized'.outputs_fit afterInputs
    obtain ⟨outputs, afterOutputs⟩ := sighashOutputs_append_cancel sighashType inputIndex
      outputCount sized.scriptPubkeys_fit sized'.scriptPubkeys_fit afterOutputCount
    obtain ⟨lockTime, -⟩ := u32Bytes_append_cancel afterOutputs
    exact ⟨version, inputCount, inputs, outputCount, outputs, lockTime⟩
  · rintro ⟨version, inputCount, inputs, outputCount, outputs, lockTime⟩
    unfold sighashPreimage
    rw [sighashInputs_congr sighashType inputCount inputs, sighashOutputs_eq_flatMap,
      sighashOutputs_eq_flatMap, outputs, version, inputCount, outputCount, lockTime]

/-- Two `ALL` preimages at one input index are equal exactly when the transactions agree on the
version, the input count, the input at that index, every output and the lock time. Nothing else
of the transactions is committed: every other input is zeroed before hashing. -/
theorem sighashPreimage_all_eq_iff {tx tx' : Transaction} (inputIndex : Nat) (sized : WireSized tx)
    (sized' : WireSized tx') :
    sighashPreimage tx inputIndex .all = sighashPreimage tx' inputIndex .all ↔
      tx.version = tx'.version ∧ tx.inputs.length = tx'.inputs.length ∧
        tx.inputs[inputIndex]? = tx'.inputs[inputIndex]? ∧ tx.outputs = tx'.outputs ∧
        tx.lockTime = tx'.lockTime := by
  rw [sighashPreimage_eq_iff .all inputIndex sized sized']
  simp only [sighashCommitment, writtenInputs, writtenOutputs, SighashCommitment.mk.injEq,
    reduceCtorEq, if_false]
  constructor
  · rintro ⟨version, inputCount, signing, -, outputs, lockTime⟩
    exact ⟨version, inputCount, option_toList_inj signing, outputs, lockTime⟩
  · rintro ⟨version, inputCount, signing, outputs, lockTime⟩
    exact ⟨version, inputCount, congrArg Option.toList signing, congrArg List.length outputs,
      outputs, lockTime⟩

/-- What a signature commits to, for every sighash type. For transactions whose lengths fit in
`u64`, two preimages of one type at one input index are equal exactly when the transactions agree
on the version, both counts, the inputs and outputs the type writes out, and the lock time. The
sighash itself depends on the transaction only through that commitment, and on the prevouts only
through their count. -/
theorem sighash_commits_exactly {tx tx' : Transaction} (sighashType : SighashType)
    (inputIndex : Nat) (sized : WireSized tx) (sized' : WireSized tx') :
    (sighashPreimage tx inputIndex sighashType = sighashPreimage tx' inputIndex sighashType ↔
      sighashCommitment sighashType inputIndex tx = sighashCommitment sighashType inputIndex tx') ∧
    (sighashCommitment sighashType inputIndex tx = sighashCommitment sighashType inputIndex tx' →
      ∀ prevouts prevouts' : List TransactionOutput, prevouts.length = prevouts'.length →
        calculateTransactionSighash tx inputIndex prevouts sighashType =
          calculateTransactionSighash tx' inputIndex prevouts' sighashType) := by
  refine ⟨sighashPreimage_eq_iff sighashType inputIndex sized sized',
    fun committed prevouts prevouts' counts => ?_⟩
  have inputCount : tx.inputs.length = tx'.inputs.length :=
    congrArg SighashCommitment.inputCount committed
  unfold calculateTransactionSighash
  rw [inputCount, counts, (sighashPreimage_eq_iff sighashType inputIndex sized sized').mpr committed]

/-- A two-input transaction whose second input spends `second`. -/
def twoInputTx (second : OutPoint) : Transaction :=
  ⟨1, [⟨⟨Hash.zero, 0⟩, [], 0xffffffff⟩, ⟨second, [], 0xffffffff⟩], [⟨I64.zero, []⟩], 0⟩

/-- What an `ALL` preimage commits to, for every pair of transactions whose lengths fit in `u64`,
and a failing input. Two transactions that differ only in the prevout of input 1 have the same
`ALL` preimage at input 0, and so the same sighash: a signature on one is a signature on the
other. -/
theorem sighash_all_ignores_other_inputs :
    (∀ (tx tx' : Transaction) (inputIndex : Nat), WireSized tx → WireSized tx' →
      (sighashPreimage tx inputIndex .all = sighashPreimage tx' inputIndex .all ↔
        tx.version = tx'.version ∧ tx.inputs.length = tx'.inputs.length ∧
          tx.inputs[inputIndex]? = tx'.inputs[inputIndex]? ∧ tx.outputs = tx'.outputs ∧
          tx.lockTime = tx'.lockTime)) ∧
    (twoInputTx ⟨Hash.zero, 1⟩).inputs ≠ (twoInputTx ⟨Hash.zero, 2⟩).inputs ∧
      sighashPreimage (twoInputTx ⟨Hash.zero, 1⟩) 0 .all =
        sighashPreimage (twoInputTx ⟨Hash.zero, 2⟩) 0 .all ∧
      calculateTransactionSighash (twoInputTx ⟨Hash.zero, 1⟩) 0 [⟨I64.zero, []⟩, ⟨I64.zero, []⟩]
          .all =
        calculateTransactionSighash (twoInputTx ⟨Hash.zero, 2⟩) 0 [⟨I64.zero, []⟩, ⟨I64.zero, []⟩]
          .all :=
  ⟨fun _ _ inputIndex sized sized' => sighashPreimage_all_eq_iff inputIndex sized sized',
    by decide, rfl, rfl⟩

/-- `twoInputTx` with its one output paying to `OP_1` instead of the empty script. -/
def twoInputTxPayingOne : Transaction :=
  { twoInputTx ⟨Hash.zero, 1⟩ with outputs := [⟨I64.zero, [0x51]⟩] }

/-- Under `NONE` a signature commits to the output count and not to the outputs: two transactions
that differ only in their output's script have the same `NONE` sighash. -/
theorem sighash_none_ignores_output_scripts :
    WireSized (twoInputTx ⟨Hash.zero, 1⟩) ∧ WireSized twoInputTxPayingOne ∧
      sighashCommitment .none 0 (twoInputTx ⟨Hash.zero, 1⟩) =
        sighashCommitment .none 0 twoInputTxPayingOne ∧
      calculateTransactionSighash (twoInputTx ⟨Hash.zero, 1⟩) 0 [⟨I64.zero, []⟩, ⟨I64.zero, []⟩]
          .none =
        calculateTransactionSighash twoInputTxPayingOne 0 [⟨I64.zero, []⟩, ⟨I64.zero, []⟩] .none :=
  have sized : WireSized (twoInputTx ⟨Hash.zero, 1⟩) :=
    ⟨by decide, by decide, by simp [twoInputTx], by simp [twoInputTx]⟩
  have sized' : WireSized twoInputTxPayingOne :=
    ⟨by decide, by decide, by simp [twoInputTxPayingOne, twoInputTx],
      by simp [twoInputTxPayingOne, twoInputTx]⟩
  have committed : sighashCommitment .none 0 (twoInputTx ⟨Hash.zero, 1⟩) =
      sighashCommitment .none 0 twoInputTxPayingOne := rfl
  ⟨sized, sized', committed,
    (sighash_commits_exactly .none 0 sized sized').2 committed _ _ rfl⟩

end BllvmConsensus.SighashBinding
