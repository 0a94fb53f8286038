/-
Module: BllvmConsensus.Core.Types
Layer: Core
Purpose: The consensus data model of the crate: hashes, amounts, outpoints, transactions, blocks,
  the unspent-output set, validation verdicts and errors, and the consensus constants the modelled
  functions read. A Rust call either returns its `Result` or panics; `Abort` names the two ways a
  call stops without `Ok`.
Trusted boundary: the crate's `types` and `error` modules are not in the source tree. Their shapes
  are read off the uses in `transaction.rs`, `script.rs`, `transaction_hash.rs` and
  `reorganization.rs`; the field widths are modelled from the spec's data model (§3).
Main exports: Hash, I64, OutPoint, TransactionInput, TransactionOutput, Transaction, BlockHeader,
  Block, UTXO, UtxoSet, ValidationResult, ConsensusError, Abort
-/
import Mathlib.Data.List.Basic
import Mathlib.Tactic.Ring

namespace BllvmConsensus

/-!
Rust's integer overflow is a panic in checked builds and a bug in any build, so the model treats
every arithmetic overflow of the crate's `+=`, `-`, `*` and `.sum()` as the outcome `Abort.panic`.
`as` casts never panic; they truncate, and the model writes them with `%`.

[SPEC src/src/constants.rs]
-/

/-- The crate's `ByteString`, a `Vec<u8>`. -/
abbrev ByteString := List UInt8

/-- Modelled from the spec: `Hash`, 32 raw bytes (§3). The width is a field, so that a value of a
shorter or longer digest cannot be built. -/
structure Hash where
  bytes : List UInt8
  length_bytes : bytes.length = 32
deriving DecidableEq, Repr

/-- `[0u8; 32]`, the prevout hash of a coinbase input and the dummy sighash of plain `OP_CHECKSIG`. -/
def Hash.zero : Hash := ⟨List.replicate 32 0, by simp⟩

/-- A Rust `i64`. The bounds are fields, so every value the model builds is one the code can hold. -/
structure I64 where
  toInt : Int
  min_le : -2 ^ 63 ≤ toInt
  lt_max : toInt < 2 ^ 63
deriving DecidableEq, Repr

namespace I64

/-- The `i64` literal `0`. -/
def zero : I64 := ⟨0, by decide, by decide⟩

/-- The `i64` holding `v`, when `v` is in range. -/
def ofInt? (v : Int) : Option I64 :=
  if h : -2 ^ 63 ≤ v ∧ v < 2 ^ 63 then some ⟨v, h.1, h.2⟩ else none

/-- Overflow-checked `a + b`: `none` is the overflow panic. -/
def checkedAdd (a b : I64) : Option I64 := ofInt? (a.toInt + b.toInt)

/-- Overflow-checked `a - b`: `none` is the overflow panic. -/
def checkedSub (a b : I64) : Option I64 := ofInt? (a.toInt - b.toInt)

@[simp] theorem toInt_zero : zero.toInt = 0 := rfl

theorem ofInt?_eq_some {v : Int} {r : I64} : ofInt? v = some r ↔ r.toInt = v := by
  unfold ofInt?
  split
  · constructor
    · rintro ⟨⟩; rfl
    · intro h; cases r; cases h; rfl
  · rename_i h
    simp only [reduceCtorEq, false_iff]
    intro hr
    exact h ⟨hr ▸ r.min_le, hr ▸ r.lt_max⟩

theorem ofInt?_isSome {v : Int} (lo : -2 ^ 63 ≤ v) (hi : v < 2 ^ 63) : (ofInt? v).isSome := by
  rw [ofInt?, dif_pos ⟨lo, hi⟩]; rfl

@[simp] theorem checkedAdd_eq_some {a b r : I64} : a.checkedAdd b = some r ↔ r.toInt = a.toInt + b.toInt :=
  ofInt?_eq_some

@[simp] theorem checkedSub_eq_some {a b r : I64} : a.checkedSub b = some r ↔ r.toInt = a.toInt - b.toInt :=
  ofInt?_eq_some

end I64

/-- `MAX_MONEY`: 21,000,000 BTC in satoshis. -/
def maxMoney : Int := 21000000 * 100000000

theorem maxMoney_eq : maxMoney = 2100000000000000 := rfl

theorem maxMoney_nonneg : 0 ≤ maxMoney := by decide

/-- `MAX_TX_SIZE`. -/
def maxTxSize : Nat := 1000000

/-- `MAX_INPUTS`. -/
def maxInputs : Nat := 1000

/-- `MAX_OUTPUTS`. -/
def maxOutputs : Nat := 1000

/-- `MAX_SCRIPT_SIZE`. No modelled function reads it: `eval_script` checks no script size. -/
def maxScriptSize : Nat := 10000

/-- `MAX_STACK_SIZE`. -/
def maxStackSize : Nat := 1000

/-- `MAX_SCRIPT_OPS`. -/
def maxScriptOps : Nat := 201

/-- `MAX_TARGET`, the compact encoding of the proof-of-work limit. -/
def maxTarget : UInt32 := 0x1d00ffff

/-- `COINBASE_MATURITY`. -/
def coinbaseMaturity : Nat := 100

/-- Modelled from the spec: `OutPoint`, a transaction id and an output index (§3, `index: u32`). -/
structure OutPoint where
  hash : Hash
  index : UInt32
deriving DecidableEq, Repr

/-- Modelled from the spec: `TransactionInput` (§3, `sequence: u32`). -/
structure TransactionInput where
  prevout : OutPoint
  scriptSig : ByteString
  sequence : UInt32
deriving DecidableEq, Repr

/-- Modelled from the spec: `TransactionOutput`, an `i64` amount and a locking script (§3). -/
structure TransactionOutput where
  value : I64
  scriptPubkey : ByteString
deriving DecidableEq, Repr

/-- Modelled from the spec: `Transaction` (§3). The `i32` version is kept as its two's-complement
bit pattern: the modelled code only serializes it (`to_le_bytes`) and masks it (`& 0xff`). -/
structure Transaction where
  version : UInt32
  inputs : List TransactionInput
  outputs : List TransactionOutput
  lockTime : UInt32
deriving DecidableEq, Repr

/-- Modelled from the spec: `BlockHeader` (§3), the `i32` version kept as its bit pattern. -/
structure BlockHeader where
  version : UInt32
  prevBlockHash : Hash
  merkleRoot : Hash
  timestamp : UInt32
  bits : UInt32
  nonce : UInt32
deriving DecidableEq, Repr

/-- Modelled from the spec: `Block`, a header and its ordered transactions (§3). -/
structure Block where
  header : BlockHeader
  transactions : List Transaction
deriving DecidableEq, Repr

/-- Modelled from the spec: the `UTXO` record (§3, `height: u32`). -/
structure UTXO where
  value : I64
  scriptPubkey : ByteString
  height : UInt32
deriving DecidableEq, Repr

/-- `UtxoSet`, a `HashMap<OutPoint, UTXO>`, as its lookup function. Two sets are equal when they
hold the same entries, which is what `HashMap`'s `PartialEq` compares. -/
@[ext] structure UtxoSet where
  get : OutPoint → Option UTXO

namespace UtxoSet

/-- `UtxoSet::new()`. -/
def new : UtxoSet := ⟨fun _ => none⟩

/-- `insert`: the entry for `key` becomes `value`. -/
def insert (set : UtxoSet) (key : OutPoint) (value : UTXO) : UtxoSet :=
  ⟨fun k => if k = key then some value else set.get k⟩

/-- `remove`: the entry for `key` is dropped, if there is one. -/
def remove (set : UtxoSet) (key : OutPoint) : UtxoSet :=
  ⟨fun k => if k = key then none else set.get k⟩

@[simp] theorem get_new (k : OutPoint) : new.get k = none := rfl

@[simp] theorem get_insert (set : UtxoSet) (key k : OutPoint) (value : UTXO) :
    (set.insert key value).get k = if k = key then some value else set.get k := rfl

@[simp] theorem get_remove (set : UtxoSet) (key k : OutPoint) :
    (set.remove key).get k = if k = key then none else set.get k := rfl

end UtxoSet

/-- Modelled from the spec: `ValidationResult`, a verdict with a reason on rejection (§4.E). -/
inductive ValidationResult where
  | valid
  | invalid (reason : String)
deriving DecidableEq, Repr

/-- Modelled from the uses in the source: the variants of `ConsensusError` the modelled code
raises, with their payloads. -/
inductive ConsensusError where
  | scriptExecution (message : String)
  | invalidSighashType (byte : UInt8)
  | invalidInputIndex (index : Nat)
  | invalidPrevoutsCount (prevouts inputs : Nat)
  | consensusRuleViolation (message : String)
  | invalidProofOfWork (message : String)
deriving DecidableEq, Repr

/-- How a call stops without returning `Ok`: an `Err` of the crate's `Result`, or a panic. -/
inductive Abort where
  | err (error : ConsensusError)
  | panic
deriving DecidableEq, Repr

/-- Lift an overflow check into the call's outcome: `none` panics. -/
def Abort.ofOption {α : Type} : Option α → Except Abort α
  | some a => .ok a
  | none => .error .panic

@[simp] theorem Abort.ofOption_some {α : Type} (a : α) : Abort.ofOption (some a) = .ok a := rfl

@[simp] theorem Abort.ofOption_none {α : Type} : Abort.ofOption (none : Option α) = .error .panic :=
  rfl

/-- A bind in the outcome monad returns `Ok` exactly when both halves do. -/
theorem bind_eq_ok {α β ε : Type} {x : Except ε α} {f : α → Except ε β} {b : β} :
    x >>= f = .ok b ↔ ∃ a, x = .ok a ∧ f a = .ok b := by
  cases x <;> simp [bind, Except.bind]

@[simp] theorem Abort.ofOption_eq_ok {α : Type} {o : Option α} {a : α} :
    Abort.ofOption o = .ok a ↔ o = some a := by
  cases o <;> simp [Abort.ofOption]

end BllvmConsensus
