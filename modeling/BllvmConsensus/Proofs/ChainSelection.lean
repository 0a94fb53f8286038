/-
Module: BllvmConsensus.Proofs.ChainSelection
Layer: Proofs
Purpose: What `should_reorganize` decides. A longer new chain always wins and a shorter one
  always loses, whatever the work. Chains of equal length are compared by the crate's own work
  measure, `Σ u128::MAX / target`, which `calculate_chain_work` computes exactly while every
  exponent is below 16 and no total overflows (`should_reorganize_by_length_then_work`); past
  `u128::MAX` its unchecked total panics, already for two blocks of target `1`. The spec selects
  the chain of greater work, `Σ ⌊2¹²⁸ / (T + 1)⌋` over the standard compact decoding, as do the
  crate's own harnesses over `calculate_chain_work`; two light blocks are taken over one heavy
  block all the same (`should_reorganize_prefers_longer_lighter_chain`). For any bits, even where a
  work computation fails or overflows, the new chain is taken exactly when it is longer, or as
  long and heavier by computed work. That makes taking a chain irreflexive and transitive, so a
  node that follows `should_reorganize` never comes back to a chain it left
  (`reorganizations_never_cycle`).
Imports: BllvmConsensus.Core.Reorganization
Trusted boundary: none
Main exports: blockWork, chainWork, chainWorkFrom_eq_ite, compactTarget, specChainWork,
  should_reorganize_by_length_then_work, should_reorganize_prefers_longer_lighter_chain,
  calculate_chain_work_overflows_at_target_one, shouldReorganize_eq_true_iff,
  shouldReorganize_irrefl, shouldReorganize_trans, reorganizations_never_cycle
-/
import BllvmConsensus.Core.Reorganization

namespace BllvmConsensus.ChainSelection

/-! ### The crate's work measure -/

/-- The work `calculate_chain_work` credits a block: `u128::MAX / target` for a positive target,
and nothing for a zero target or one that `expand_target` rejects. -/
def blockWork (block : Block) : Nat :=
  match expandTarget block.header.bits with
  | .ok target => if 0 < target then u128Max / target else 0
  | .error _ => 0

/-- The crate's chain work, before any overflow check. -/
def chainWork (chain : List Block) : Nat := (chain.map blockWork).sum

@[simp] theorem chainWork_nil : chainWork [] = 0 := rfl

@[simp] theorem chainWork_cons (block : Block) (rest : List Block) :
    chainWork (block :: rest) = blockWork block + chainWork rest := by
  simp [chainWork]

/-- Exponents below 16 are exactly the ones `expand_target` accepts. -/
theorem expandTarget_isOk {bits : UInt32} (small : compactExponent bits ≤ 15) :
    ∃ target, expandTarget bits = .ok target := by
  simp only [expandTarget]
  split_ifs <;> first | exact ⟨_, rfl⟩ | omega

/-- Over exponents below 16, `calculate_chain_work`'s loop from a total that fits in `u128`
returns that total plus the chain's work when the sum fits, and otherwise panics: the running
total only grows, so some `+=` passes `u128::MAX` exactly when the final sum does. -/
theorem chainWorkFrom_eq_ite {total : Nat} {chain : List Block}
    (small : ∀ b ∈ chain, compactExponent b.header.bits ≤ 15) (start : total ≤ u128Max) :
    chainWorkFrom total chain =
      if total + chainWork chain ≤ u128Max then .ok (total + chainWork chain) else .error .panic := by
  induction chain generalizing total with
  | nil => simp only [chainWorkFrom, chainWork_nil, Nat.add_zero, if_pos start]
  | cons block rest ih =>
    obtain ⟨target, expanded⟩ := expandTarget_isOk (small block (List.mem_cons_self _ _))
    have smallRest : ∀ b ∈ rest, compactExponent b.header.bits ≤ 15 :=
      fun b mem => small b (List.mem_cons_of_mem _ mem)
    simp only [chainWorkFrom, chainWork_cons, blockWork, expanded, bind, Except.bind]
    by_cases positive : 0 < target
    · simp only [if_pos positive]
      by_cases over : u128Max < total + u128Max / target
      · rw [if_pos over, if_neg (by omega)]
      · rw [if_neg over, ih smallRest (by omega), Nat.add_assoc]
    · simp only [if_neg positive, Nat.zero_add]
      exact ih smallRest start

/-- A block with no transactions and the given `bits`. -/
def blockWithBits (bits : UInt32) : Block := ⟨⟨1, Hash.zero, Hash.zero, 0, bits, 0⟩, []⟩

/-- Two blocks of target `1`, which `expand_target` accepts: their exact work is `2 * u128::MAX`,
and the second `+=` of the unchecked `u128` total overflows. -/
theorem calculate_chain_work_overflows_at_target_one :
    expandTarget 0x03000001 = .ok 1 ∧
      chainWork [blockWithBits 0x03000001, blockWithBits 0x03000001] = 2 * u128Max ∧
      calculateChainWork [blockWithBits 0x03000001, blockWithBits 0x03000001] = .error .panic :=
  ⟨rfl, rfl, rfl⟩

/-- `calculate_chain_work`'s loop returns the running total plus the chain's work, as long as no
exponent reaches 16 and the final total fits in `u128`. -/
theorem chainWorkFrom_eq {total : Nat} {chain : List Block}
    (small : ∀ b ∈ chain, compactExponent b.header.bits ≤ 15)
    (bounded : total + chainWork chain ≤ u128Max) :
    chainWorkFrom total chain = .ok (total + chainWork chain) := by
  rw [chainWorkFrom_eq_ite small (by omega), if_pos bounded]

/-- `should_reorganize` decides by length first: a longer new chain is taken and a shorter one is
not, whatever their bits. Between chains of equal length whose exponents are all below 16 and
whose work fits in `u128`, the new chain is taken exactly when its work is strictly greater. -/
theorem should_reorganize_by_length_then_work (newChain currentChain : List Block) :
    (currentChain.length < newChain.length → shouldReorganize newChain currentChain = .ok true) ∧
    (newChain.length < currentChain.length → shouldReorganize newChain currentChain = .ok false) ∧
    (newChain.length = currentChain.length →
      (∀ b ∈ newChain ++ currentChain, compactExponent b.header.bits ≤ 15) →
      chainWork newChain ≤ u128Max → chainWork currentChain ≤ u128Max →
      shouldReorganize newChain currentChain =
        .ok (decide (chainWork currentChain < chainWork newChain))) := by
  refine ⟨fun longer => if_pos longer, fun shorter => ?_, fun same small newFits currentFits => ?_⟩
  · simp only [shouldReorganize, if_neg (Nat.lt_asymm shorter), if_neg (Nat.ne_of_lt shorter)]
  · have onNew := @chainWorkFrom_eq 0 newChain
      (fun b mem => small b (List.mem_append_left _ mem)) (by omega)
    have onCurrent := @chainWorkFrom_eq 0 currentChain
      (fun b mem => small b (List.mem_append_right _ mem)) (by omega)
    simp only [shouldReorganize, if_neg (Nat.lt_irrefl _), same, calculateChainWork, onNew,
      onCurrent, Nat.zero_add]
    rfl

/-! ### The spec's work measure -/

/-- The target a compact `bits` value encodes under the usual decoding: a 23-bit mantissa
with a sign bit above it, scaled by `256 ^ (exponent - 3)`. A negative encoding is no target, `0`. -/
def compactTarget (bits : UInt32) : Nat :=
  let exponent := bits.toNat / 2 ^ 24
  let mantissa := bits.toNat % 2 ^ 23
  if bits.toNat / 2 ^ 23 % 2 = 1 then 0
  else if exponent ≤ 3 then mantissa / 256 ^ (3 - exponent) else mantissa * 256 ^ (exponent - 3)

/-- The spec's per-header work, `⌊2¹²⁸ / (T + 1)⌋`. -/
def specWork (target : Nat) : Nat := 2 ^ 128 / (target + 1)

/-- The spec's chain work, the sum of its headers' work. -/
def specChainWork (chain : List Block) : Nat :=
  (chain.map fun b => specWork (compactTarget b.header.bits)).sum

/-- What `should_reorganize` decides, for all chains, and two failing inputs, with every target
between 1 and the proof-of-work limit. Two blocks of target `0xffff` are taken over one block of
target `1`, though their work is less, 2¹¹³ against 2¹²⁷ by the spec's measure and about
`2 * u128::MAX / 2¹⁶` against `u128::MAX` by the crate's. And two one-block chains at `MAX_TARGET`,
of equal work, give `Err` where a tie gives `Ok(false)`: exponent `0x1d` is past what
`expand_target` accepts. -/
theorem should_reorganize_prefers_longer_lighter_chain :
    (∀ newChain currentChain : List Block,
      (currentChain.length < newChain.length → shouldReorganize newChain currentChain = .ok true) ∧
      (newChain.length < currentChain.length → shouldReorganize newChain currentChain = .ok false) ∧
      (newChain.length = currentChain.length →
        (∀ b ∈ newChain ++ currentChain, compactExponent b.header.bits ≤ 15) →
        chainWork newChain ≤ u128Max → chainWork currentChain ≤ u128Max →
        shouldReorganize newChain currentChain =
          .ok (decide (chainWork currentChain < chainWork newChain)))) ∧
    (1 ≤ compactTarget 0x03000001 ∧ compactTarget 0x0300ffff ≤ compactTarget maxTarget) ∧
      specChainWork [blockWithBits 0x0300ffff, blockWithBits 0x0300ffff] <
        specChainWork [blockWithBits 0x03000001] ∧
      chainWork [blockWithBits 0x0300ffff, blockWithBits 0x0300ffff] <
        chainWork [blockWithBits 0x03000001] ∧
      shouldReorganize [blockWithBits 0x0300ffff, blockWithBits 0x0300ffff]
        [blockWithBits 0x03000001] = .ok true ∧
      shouldReorganize [blockWithBits maxTarget] [blockWithBits maxTarget] =
        .error (.err (.invalidProofOfWork "Target too large")) :=
  ⟨should_reorganize_by_length_then_work, by decide, by decide, by decide, rfl, rfl⟩

/-! ### Reorganizations never cycle -/

/-- When `should_reorganize` takes the new chain: it is longer, or as long with both works computed
and its own strictly greater. For any bits, a work computation that fails or overflows never
yields `true`. -/
theorem shouldReorganize_eq_true_iff (newChain currentChain : List Block) :
    shouldReorganize newChain currentChain = .ok true ↔
      currentChain.length < newChain.length ∨
        (newChain.length = currentChain.length ∧ ∃ newWork currentWork,
          calculateChainWork newChain = .ok newWork ∧
            calculateChainWork currentChain = .ok currentWork ∧ currentWork < newWork) := by
  unfold shouldReorganize
  by_cases longer : newChain.length > currentChain.length
  · simp only [if_pos longer, true_iff]
    exact .inl longer
  by_cases same : newChain.length = currentChain.length
  · rw [if_neg longer, if_pos same]
    constructor
    · intro accepted
      obtain ⟨newWork, newRan, accepted⟩ := bind_eq_ok.mp accepted
      obtain ⟨currentWork, currentRan, accepted⟩ := bind_eq_ok.mp accepted
      have heavier : currentWork < newWork := of_decide_eq_true (Except.ok.inj accepted)
      exact .inr ⟨same, newWork, currentWork, newRan, currentRan, heavier⟩
    · rintro (shorter | ⟨-, newWork, currentWork, newRan, currentRan, heavier⟩)
      · omega
      · simp only [newRan, currentRan, bind, Except.bind, gt_iff_lt, heavier, decide_True]
  · rw [if_neg longer, if_neg same]
    simp only [Except.ok.injEq, Bool.false_eq_true, false_iff, not_or, not_and]
    exact ⟨by omega, fun equal => absurd equal same⟩

/-- No chain is taken over itself. -/
theorem shouldReorganize_irrefl (chain : List Block) : shouldReorganize chain chain ≠ .ok true := by
  rw [Ne, shouldReorganize_eq_true_iff]
  rintro (shorter | ⟨-, work, work', ran, ran', heavier⟩)
  · omega
  · rw [ran] at ran'
    cases ran'
    omega

/-- A chain taken over one that is taken over a third is taken over the third. -/
theorem shouldReorganize_trans {a b c : List Block} (overB : shouldReorganize a b = .ok true)
    (overC : shouldReorganize b c = .ok true) : shouldReorganize a c = .ok true := by
  rw [shouldReorganize_eq_true_iff] at *
  rcases overB with longerB | ⟨sameB, workA, workB, ranA, ranB, heavierB⟩ <;>
    rcases overC with longerC | ⟨sameC, workB', workC, ranB', ranC, heavierC⟩
  · exact .inl (by omega)
  · exact .inl (by omega)
  · exact .inl (by omega)
  · rw [ranB] at ranB'
    cases ranB'
    exact .inr ⟨by omega, workA, workC, ranA, ranC, by omega⟩

/-- A node that replaces its chain only when `should_reorganize` says so never comes back to a
chain it left. Along any sequence of chains, each taken over the one before, every later chain is
taken over the first and differs from it, for any bits, also where a work computation fails or
overflows. -/
theorem reorganizations_never_cycle {first : List Block} {later : List (List Block)}
    (taken : List.Chain (fun current next => shouldReorganize next current = .ok true) first later) :
    ∀ chain ∈ later, shouldReorganize chain first = .ok true ∧ chain ≠ first := by
  induction taken with
  | nil => exact fun _ absent => absurd absent (List.not_mem_nil _)
  | @cons current next rest step _ ih =>
    intro chain member
    have accepted : shouldReorganize chain current = .ok true := by
      rcases List.mem_cons.mp member with rfl | further
      · exact step
      · exact shouldReorganize_trans (ih chain further).1 step
    refine ⟨accepted, fun same => ?_⟩
    subst same
    exact shouldReorganize_irrefl chain accepted

/-- From the empty chain: one block of target `0xffff`, then, at equal length and by greater
work, one block of target `1`, then two blocks. Each is taken over the one before, so the last is
taken over the empty chain and differs from it. -/
theorem growing_chains_never_cycle :
    List.Chain (fun current next => shouldReorganize next current = .ok true) []
        [[blockWithBits 0x0300ffff], [blockWithBits 0x03000001],
          [blockWithBits 0x03000001, blockWithBits 0x0300ffff]] ∧
      shouldReorganize [blockWithBits 0x03000001, blockWithBits 0x0300ffff] [] = .ok true ∧
      [blockWithBits 0x03000001, blockWithBits 0x0300ffff] ≠ [] :=
  have taken : List.Chain (fun current next => shouldReorganize next current = .ok true) []
      [[blockWithBits 0x0300ffff], [blockWithBits 0x03000001],
        [blockWithBits 0x03000001, blockWithBits 0x0300ffff]] :=
    .cons rfl (.cons rfl (.cons rfl .nil))
  ⟨taken, reorganizations_never_cycle taken _ (by simp)⟩

end BllvmConsensus.ChainSelection
