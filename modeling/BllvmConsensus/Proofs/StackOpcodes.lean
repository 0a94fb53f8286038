/-
Module: BllvmConsensus.Proofs.StackOpcodes
Layer: Proofs
Purpose: The stack-manipulation arms of `execute_opcode`. Each of them returns `false` exactly when
  the stack is shallower than the opcode's minimum depth, leaves the stack untouched when it
  does, and otherwise rewrites only the items above that depth (`stack_op_frame`). Two arms differ
  from the opcode table: `OP_2ROT` brings the fifth and sixth items up in swapped order, and
  `OP_DEPTH` and `OP_SIZE` push their count `as u8`, which wraps at 256
  (`execute_opcode_two_rot_and_depth_diverge`).
Imports: BllvmConsensus.Core.Script
Trusted boundary: none
Main exports: minDepth, stackOps, executeOp_of_lt_minDepth, executeOp_of_minDepth_le,
  stack_op_frame, execute_opcode_two_rot_and_depth_diverge
-/
import BllvmConsensus.Core.Script

namespace BllvmConsensus.StackOpcodes

/-- The depth an arm needs before it can run. -/
def minDepth : Opcode → Nat
  | .dup | .drop | .ifDup | .size => 1
  | .nip | .over | .swap | .tuck | .twoDrop | .twoDup => 2
  | .rot | .threeDup => 3
  | .twoOver | .twoSwap => 4
  | .twoRot => 6
  | _ => 0

/-- The stack-manipulation arms whose outcome depends only on the depth (`PICK` and `ROLL` also
read their top item). -/
def stackOps : List Opcode :=
  [.dup, .drop, .nip, .over, .rot, .swap, .tuck, .ifDup, .twoDrop, .twoDup, .threeDup, .twoOver,
    .twoRot, .twoSwap, .depth, .size]

section Frame

variable (verifySignature : ByteString → ByteString → Hash → Bool)

/-- Below its depth an arm fails and leaves the stack as it was. -/
theorem executeOp_of_lt_minDepth {op : Opcode} (member : op ∈ stackOps) {stack : Stack}
    (short : stack.length < minDepth op) : executeOp verifySignature op stack = (false, stack) := by
  simp only [stackOps, List.mem_cons, List.mem_singleton, List.not_mem_nil, or_false] at member
  rcases stack with _ | ⟨a, _ | ⟨b, _ | ⟨c, _ | ⟨d, _ | ⟨e, _ | ⟨f, rest⟩⟩⟩⟩⟩⟩ <;>
    rcases member with rfl | rfl | rfl | rfl | rfl | rfl | rfl | rfl | rfl | rfl | rfl | rfl |
      rfl | rfl | rfl | rfl <;>
    first
    | rfl
    | exact absurd short (of_decide_eq_false rfl)

/-- At or above its depth an arm succeeds and replaces only the items above that depth. -/
theorem executeOp_of_minDepth_le {op : Opcode} (member : op ∈ stackOps) {stack : Stack}
    (deep : minDepth op ≤ stack.length) :
    ∃ top, executeOp verifySignature op stack = (true, top ++ stack.drop (minDepth op)) := by
  simp only [stackOps, List.mem_cons, List.mem_singleton, List.not_mem_nil, or_false] at member
  rcases stack with _ | ⟨a, _ | ⟨b, _ | ⟨c, _ | ⟨d, _ | ⟨e, _ | ⟨f, rest⟩⟩⟩⟩⟩⟩ <;>
    rcases member with rfl | rfl | rfl | rfl | rfl | rfl | rfl | rfl | rfl | rfl | rfl | rfl |
      rfl | rfl | rfl | rfl <;>
    first
    | exact absurd deep (of_decide_eq_false rfl)
    | exact ⟨[_], rfl⟩ | exact ⟨[_, _], rfl⟩ | exact ⟨[_, _, _], rfl⟩ | exact ⟨[_, _, _, _], rfl⟩
    | exact ⟨[_, _, _, _, _, _], rfl⟩ | exact ⟨[], rfl⟩
    | exact ⟨if isTrue a then [a, a] else [a], by
        simp only [executeOp]
        cases isTrue a <;> rfl⟩

/-- Every stack-manipulation arm other than `PICK` and `ROLL` succeeds exactly when the stack is at
least its minimum depth deep; on failure the stack is unchanged, and on success only the items
above that depth are replaced. -/
theorem stack_op_frame (op : Opcode) (member : op ∈ stackOps) (stack : Stack) :
    ((executeOp verifySignature op stack).1 = true ↔ minDepth op ≤ stack.length) ∧
      ((executeOp verifySignature op stack).1 = false → (executeOp verifySignature op stack).2 = stack) ∧
      ((executeOp verifySignature op stack).1 = true →
        ∃ top, (executeOp verifySignature op stack).2 = top ++ stack.drop (minDepth op)) := by
  by_cases enough : minDepth op ≤ stack.length
  · obtain ⟨top, ran⟩ := executeOp_of_minDepth_le verifySignature member enough
    simp [ran, enough]
  · simp [executeOp_of_lt_minDepth verifySignature member (Nat.lt_of_not_le enough), enough]

/-- The frame every stack-manipulation arm but `PICK` and `ROLL` keeps, and two failing inputs.
`OP_2ROT` on `1 2 3 4 5 6` (6 on top; the list is top first) leaves `3 4 5 6 2 1`, where the opcode
table moves the pair in order, `3 4 5 6 1 2`. And `OP_DEPTH` pushes `[0]` both on a 256-item stack
and on the empty stack, so it does not encode the depth injectively. -/
theorem execute_opcode_two_rot_and_depth_diverge :
    (∀ op ∈ stackOps, ∀ stack : Stack,
      ((executeOp verifySignature op stack).1 = true ↔ minDepth op ≤ stack.length) ∧
        ((executeOp verifySignature op stack).1 = false →
          (executeOp verifySignature op stack).2 = stack) ∧
        ((executeOp verifySignature op stack).1 = true →
          ∃ top, (executeOp verifySignature op stack).2 = top ++ stack.drop (minDepth op))) ∧
    executeOpcode verifySignature 0x71 [[6], [5], [4], [3], [2], [1]] 0 =
        .ok (true, [[1], [2], [6], [5], [4], [3]]) ∧
      executeOpcode verifySignature 0x74 (List.replicate 256 []) 0 =
        .ok (true, [0] :: List.replicate 256 []) ∧
      executeOpcode verifySignature 0x74 [] 0 = .ok (true, [[0]]) := by
  refine ⟨fun op member stack => stack_op_frame verifySignature op member stack, rfl, ?_, rfl⟩
  show Except.ok (executeOp verifySignature .depth _) = _
  simp only [executeOp, List.length_replicate]
  rfl

end Frame

end BllvmConsensus.StackOpcodes
