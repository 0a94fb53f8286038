/-
Module: BllvmConsensus.Proofs.ScriptComposition
Layer: Proofs
Purpose: What the interpreter loop does with its limits, and how `verify_script` composes its
  runs. Against a limit-free run of the same opcodes (`evalFree`), the loop of `eval_script`
  returns exactly the same result unless one of the opcodes that run reaches sees a count past
  `MAX_SCRIPT_OPS` or a stack past `MAX_STACK_SIZE`, in which case it fails with a limit error
  (`evalLoop_eq_evalFree`, `evalLoop_limit_error`). Every opcode is counted, pushes included, no
  script size is checked, and the stack after the last opcode is never checked
  (`eval_script_skips_size_check_and_counts_pushes`). For composition, `verify_script` equals the
  sequential run of the scripts on one shared stack in which the stack left by `script_sig` and by
  `script_pubkey` must also pass the final-stack test (`verifyScriptWith_eq_checkedComposition`):
  a script that leaves any other residue makes the verification fail
  (`verify_script_rejects_intermediate_residue`). The transaction-context
  variant differs from `verify_script` only at `OP_CHECKSIG` and `OP_CHECKSIGVERIFY`
  (`verify_script_with_context_agrees_without_checksig`).
Imports: BllvmConsensus.Core.Script
Trusted boundary: none
Main exports: runLoop, evalLoop_eq_runLoop, composedVerify, checkedComposition,
  verifyScriptWith_eq_checkedComposition, reachedSteps, ViolatesLimit, evalFree,
  evalLoop_eq_evalFree, evalLoop_limit_error, eval_script_error_iff_limit_reached,
  eval_script_skips_size_check_and_counts_pushes, verify_script_rejects_intermediate_residue,
  evalLoop_congr, verifyScriptWith_congr, verify_script_with_context_agrees_without_checksig
-/
import BllvmConsensus.Core.Script

namespace BllvmConsensus.ScriptComposition

variable {exec : UInt8 → Stack → Except Abort (Bool × Stack)}

/-! ### The loop in `Except Abort` -/

@[simp] theorem evalLoop_nil (pos : Nat) (stack : Stack) :
    evalLoop exec pos [] stack = .ok (finalStackCheck stack, stack) := rfl

theorem evalLoop_cons (pos : Nat) (opcode : UInt8) (rest : ByteString) (stack : Stack) :
    evalLoop exec pos (opcode :: rest) stack =
      if pos + 1 > maxScriptOps then .error (.err (.scriptExecution "Operation limit exceeded"))
      else if stack.length > maxStackSize then .error (.err (.scriptExecution "Stack overflow"))
      else exec opcode stack >>= fun result =>
        if result.1 then evalLoop exec (pos + 1) rest result.2 else .ok (false, result.2) := rfl

/-- The loop with its limits but without the final-stack test: whether every opcode succeeded,
and the stack the run leaves. -/
def runLoop (exec : UInt8 → Stack → Except Abort (Bool × Stack)) :
    Nat → ByteString → Stack → Except Abort (Bool × Stack)
  | _, [], stack => .ok (true, stack)
  | pos, opcode :: rest, stack =>
      if pos + 1 > maxScriptOps then .error (.err (.scriptExecution "Operation limit exceeded"))
      else if stack.length > maxStackSize then .error (.err (.scriptExecution "Stack overflow"))
      else exec opcode stack >>= fun result =>
        if result.1 then runLoop exec (pos + 1) rest result.2 else .ok (false, result.2)

/-- `eval_script`'s loop is the run followed by the final-stack test, applied only when every
opcode succeeded. -/
theorem evalLoop_eq_runLoop (pos : Nat) (script : ByteString) (stack : Stack) :
    evalLoop exec pos script stack =
      (fun r => (r.1 && finalStackCheck r.2, r.2)) <$> runLoop exec pos script stack := by
  induction script generalizing pos stack with
  | nil => rfl
  | cons opcode rest ih =>
      rw [evalLoop_cons, runLoop]
      split_ifs
      · rfl
      · rfl
      · cases exec opcode stack with
        | error e => rfl
        | ok result =>
            obtain ⟨ok, stack'⟩ := result
            cases ok
            · rfl
            · exact ih _ _

/-! ### Composition in `verify_script` -/

/-- Sequential composition of runs on one shared stack: `script_sig` on the empty stack,
`script_pubkey` on what it leaves, the witness after that; `false` as soon as an opcode fails, and
the final-stack test once, at the end. -/
def composedVerify (exec : UInt8 → Stack → Except Abort (Bool × Stack))
    (scriptSig scriptPubkey : ByteString) (witness : Option ByteString) : Except Abort Bool :=
  runLoop exec 0 scriptSig [] >>= fun sig =>
    if !sig.1 then .ok false
    else
      runLoop exec 0 scriptPubkey sig.2 >>= fun pub =>
        if !pub.1 then .ok false
        else
          match witness with
          | some w =>
              runLoop exec 0 w pub.2 >>= fun wit =>
                if !wit.1 then .ok false else .ok (finalStackCheck wit.2)
          | none => .ok (finalStackCheck pub.2)

/-- The same composition with the final-stack test also demanded of the stacks `script_sig` and
`script_pubkey` leave. -/
def checkedComposition (exec : UInt8 → Stack → Except Abort (Bool × Stack))
    (scriptSig scriptPubkey : ByteString) (witness : Option ByteString) : Except Abort Bool :=
  runLoop exec 0 scriptSig [] >>= fun sig =>
    if !(sig.1 && finalStackCheck sig.2) then .ok false
    else
      runLoop exec 0 scriptPubkey sig.2 >>= fun pub =>
        if !(pub.1 && finalStackCheck pub.2) then .ok false
        else
          match witness with
          | some w =>
              runLoop exec 0 w pub.2 >>= fun wit =>
                if !wit.1 then .ok false else .ok (finalStackCheck wit.2)
          | none => .ok (finalStackCheck pub.2)

/-- `verify_script`, for any opcode semantics, is the checked composition: each `eval_script`
call ends with the final-stack test, and a `false` from it stops the verification. -/
theorem verifyScriptWith_eq_checkedComposition (scriptSig scriptPubkey : ByteString)
    (witness : Option ByteString) :
    verifyScriptWith (fun script stack => evalLoop exec 0 script stack) scriptSig scriptPubkey
      witness = checkedComposition exec scriptSig scriptPubkey witness := by
  unfold verifyScriptWith checkedComposition
  simp only [evalLoop_eq_runLoop, bind_map_left]
  refine congrArg (runLoop exec 0 scriptSig [] >>= ·) (funext fun sig => ?_)
  split_ifs
  · rfl
  refine congrArg (runLoop exec 0 scriptPubkey sig.2 >>= ·) (funext fun pub => ?_)
  split_ifs
  · rfl
  cases witness with
  | none => rfl
  | some w =>
      refine congrArg (runLoop exec 0 w pub.2 >>= ·) (funext fun ⟨ok, stack⟩ => ?_)
      cases ok <;> cases finalStackCheck stack <;> rfl

section Plain

variable (verifySignature : ByteString → ByteString → Hash → Bool)

/-- The opcode semantics of the non-production build at fixed flags. -/
def plainExec (flags : UInt32) : UInt8 → Stack → Except Abort (Bool × Stack) :=
  fun opcode stack => executeOpcode verifySignature opcode stack flags

/-- `verify_script` is the checked composition, for every opcode semantics and scripts, and it
differs from the shared-stack composition. With `script_sig = OP_1 OP_1` and
`script_pubkey = OP_EQUAL`, the composition on one shared stack ends with the single true item
`[1]`, but `verify_script` returns `false`: `script_sig` leaves two items, and its own
`eval_script` call fails the final-stack test. -/
theorem verify_script_rejects_intermediate_residue :
    (∀ (exec : UInt8 → Stack → Except Abort (Bool × Stack)) (scriptSig scriptPubkey : ByteString)
        (witness : Option ByteString),
      verifyScriptWith (fun script stack => evalLoop exec 0 script stack) scriptSig scriptPubkey
        witness = checkedComposition exec scriptSig scriptPubkey witness) ∧
    verifyScript verifySignature [0x51, 0x51] [0x87] none 0 = .ok false ∧
      composedVerify (plainExec verifySignature 0) [0x51, 0x51] [0x87] none = .ok true ∧
      runLoop (plainExec verifySignature 0) 0 [0x51, 0x51] [] = .ok (true, [[1], [1]]) :=
  ⟨fun _ => verifyScriptWith_eq_checkedComposition, rfl, rfl, rfl⟩

end Plain

/-! ### Limits -/

/-- The opcodes a limit-free run reaches, from position `pos`, each with its position and the
stack it sees before it runs. The run stops after an opcode that fails or raises an error. -/
def reachedSteps (exec : UInt8 → Stack → Except Abort (Bool × Stack)) :
    Nat → ByteString → Stack → List (Nat × Stack)
  | _, [], _ => []
  | pos, opcode :: rest, stack =>
      (pos, stack) ::
        match exec opcode stack with
        | .ok (true, stack') => reachedSteps exec (pos + 1) rest stack'
        | _ => []

/-- A reached opcode violates a limit when it is counted past `MAX_SCRIPT_OPS` or sees more than
`MAX_STACK_SIZE` items. -/
def ViolatesLimit (step : Nat × Stack) : Prop :=
  maxScriptOps < step.1 + 1 ∨ maxStackSize < step.2.length

/-- The limit-free run: every opcode is executed until one fails or the script ends, and the
final-stack test is applied at the end. -/
def evalFree (exec : UInt8 → Stack → Except Abort (Bool × Stack)) :
    ByteString → Stack → Except Abort (Bool × Stack)
  | [], stack => .ok (finalStackCheck stack, stack)
  | opcode :: rest, stack =>
      exec opcode stack >>= fun result =>
        if result.1 then evalFree exec rest result.2 else .ok (false, result.2)

/-- When no reached opcode violates a limit, the limits change nothing. -/
theorem evalLoop_eq_evalFree (pos : Nat) (script : ByteString) (stack : Stack)
    (within : ∀ step ∈ reachedSteps exec pos script stack, ¬ ViolatesLimit step) :
    evalLoop exec pos script stack = evalFree exec script stack := by
  induction script generalizing pos stack with
  | nil => rfl
  | cons opcode rest ih =>
      have here := within (pos, stack) (List.mem_cons_self _ _)
      simp only [ViolatesLimit, not_or, not_lt] at here
      rw [evalLoop_cons, if_neg (by omega), if_neg (by omega), evalFree]
      cases step : exec opcode stack with
      | error e => rfl
      | ok result =>
          obtain ⟨ok, stack'⟩ := result
          cases ok
          · rfl
          · refine ih (pos + 1) stack' fun s hs => within s ?_
            simp only [reachedSteps, step]
            exact List.mem_cons_of_mem _ hs

/-- When a reached opcode violates a limit, the loop fails there with the limit's error. -/
theorem evalLoop_limit_error (pos : Nat) (script : ByteString) (stack : Stack)
    (beyond : ∃ step ∈ reachedSteps exec pos script stack, ViolatesLimit step) :
    ∃ message, evalLoop exec pos script stack = .error (.err (.scriptExecution message)) := by
  induction script generalizing pos stack with
  | nil => simp [reachedSteps] at beyond
  | cons opcode rest ih =>
      rw [evalLoop_cons]
      split_ifs with ops size
      · exact ⟨_, rfl⟩
      · exact ⟨_, rfl⟩
      · obtain ⟨step, reached, violates⟩ := beyond
        simp only [reachedSteps, List.mem_cons] at reached
        rcases reached with rfl | later
        · simp only [ViolatesLimit] at violates; omega
        · cases result : exec opcode stack with
          | error e => simp [result] at later
          | ok r =>
              obtain ⟨ok, stack'⟩ := r
              cases ok
              · simp [result] at later
              · simp only [result] at later
                exact ih (pos + 1) stack' ⟨step, later, violates⟩

/-- The non-production opcodes never raise an error, so neither does the limit-free run. -/
theorem evalFree_plain_isOk (verifySignature : ByteString → ByteString → Hash → Bool)
    (flags : UInt32) (script : ByteString) (stack : Stack) :
    ∃ r, evalFree (plainExec verifySignature flags) script stack = .ok r := by
  induction script generalizing stack with
  | nil => exact ⟨_, rfl⟩
  | cons opcode rest ih =>
      simp only [evalFree, plainExec, executeOpcode]
      rcases executeOp verifySignature (Opcode.ofByte opcode) stack with ⟨_ | _, stack'⟩
      · exact ⟨_, rfl⟩
      · exact ih stack'

/-- `eval_script` fails exactly when the limit-free run of its opcodes reaches one that is counted
past `MAX_SCRIPT_OPS` (the 202nd opcode of any kind, pushes included) or that sees more than
`MAX_STACK_SIZE` items; otherwise it returns the limit-free run's result: `false` if an opcode
failed, and the final-stack test otherwise. No script size is checked, and the stack after the
last opcode is not checked. -/
theorem eval_script_error_iff_limit_reached
    (verifySignature : ByteString → ByteString → Hash → Bool) (script : ByteString)
    (stack : Stack) (flags : UInt32) :
    ((∃ e, evalScript verifySignature script stack flags = .error e) ↔
        ∃ step ∈ reachedSteps (plainExec verifySignature flags) 0 script stack,
          ViolatesLimit step) ∧
      ((¬ ∃ step ∈ reachedSteps (plainExec verifySignature flags) 0 script stack,
          ViolatesLimit step) →
        evalScript verifySignature script stack flags =
          evalFree (plainExec verifySignature flags) script stack) := by
  have free (within : ¬ ∃ step ∈ reachedSteps (plainExec verifySignature flags) 0 script stack,
      ViolatesLimit step) :
      evalScript verifySignature script stack flags =
        evalFree (plainExec verifySignature flags) script stack :=
    evalLoop_eq_evalFree 0 script stack fun step reached violates => within ⟨step, reached, violates⟩
  refine ⟨⟨fun ⟨e, failed⟩ => ?_, fun beyond => ?_⟩, free⟩
  · by_contra within
    obtain ⟨r, ok⟩ := evalFree_plain_isOk verifySignature flags script stack
    rw [free within, ok] at failed
    cases failed
  · obtain ⟨message, failed⟩ := evalLoop_limit_error 0 script stack beyond
    exact ⟨_, failed⟩

/-- A signature verifier that accepts nothing. The scripts below contain no signature opcode, so
it is never called. -/
def noSignatures : ByteString → ByteString → Hash → Bool := fun _ _ _ => false

/-- `OP_RETURN` followed by 10,000 copies of `OP_1`: one byte over `MAX_SCRIPT_SIZE`. -/
def returnThenPushes : ByteString := 0x6a :: List.replicate 10000 0x51

/-- 202 copies of `OP_1`. -/
def pushes202 : ByteString := List.replicate 202 0x51

set_option maxRecDepth 10000 in
/-- What `eval_script` checks, for every script, and three failing inputs against the spec's
limits. In general it fails exactly when the limit-free run reaches an opcode counted past
`MAX_SCRIPT_OPS` or one that sees more than `MAX_STACK_SIZE` items, and otherwise returns that
run's result. So no script size is checked: `OP_RETURN` followed by 10,000 `OP_1`, one byte over
`MAX_SCRIPT_SIZE`, returns `Ok(false)` at its first opcode. Push opcodes are counted: 202 pushes
of `OP_1`, far below `MAX_SCRIPT_SIZE`, with no opcode above `OP_16` and never more than 202
items, fail with the operation-limit error. And the stack after the last opcode is not checked:
`OP_DUP` on `MAX_STACK_SIZE` items returns `Ok(false)` with 1,001 items. -/
theorem eval_script_skips_size_check_and_counts_pushes :
    (∀ (verifySignature : ByteString → ByteString → Hash → Bool) (script : ByteString)
        (stack : Stack) (flags : UInt32),
      ((∃ e, evalScript verifySignature script stack flags = .error e) ↔
          ∃ step ∈ reachedSteps (plainExec verifySignature flags) 0 script stack,
            ViolatesLimit step) ∧
        ((¬ ∃ step ∈ reachedSteps (plainExec verifySignature flags) 0 script stack,
            ViolatesLimit step) →
          evalScript verifySignature script stack flags =
            evalFree (plainExec verifySignature flags) script stack)) ∧
    (maxScriptSize < returnThenPushes.length ∧
      evalScript noSignatures returnThenPushes [] 0 = .ok (false, [])) ∧
    (evalScript noSignatures pushes202 [] 0 =
        .error (.err (.scriptExecution "Operation limit exceeded")) ∧
      pushes202.length ≤ maxScriptSize ∧ (∀ op ∈ pushes202, op ≤ 0x60) ∧
      evalFree (plainExec noSignatures 0) pushes202 [] = .ok (false, List.replicate 202 [1])) ∧
    ((List.replicate maxStackSize ([1] : ByteString)).length ≤ maxStackSize ∧
      evalScript noSignatures [0x76] (List.replicate maxStackSize [1]) 0 =
        .ok (false, [1] :: List.replicate maxStackSize [1])) := by
  have oversized : maxScriptSize < returnThenPushes.length := by
    rw [returnThenPushes, List.length_cons, List.length_replicate]; decide
  have full : (List.replicate maxStackSize ([1] : ByteString)).length ≤ maxStackSize := by
    rw [List.length_replicate]
  refine ⟨eval_script_error_iff_limit_reached, ⟨oversized, rfl⟩,
    ⟨rfl, by decide, fun _ pushed => List.eq_of_mem_replicate pushed ▸ by decide, rfl⟩, full, ?_⟩
  rw [evalScript, evalLoop_cons, if_neg (by decide), if_neg (Nat.not_lt.mpr full)]
  rfl

/-! ### The transaction-context interpreter -/

/-- The loop depends on its opcode function only at the script's bytes. -/
theorem evalLoop_congr {exec' : UInt8 → Stack → Except Abort (Bool × Stack)} (pos : Nat)
    (script : ByteString) (stack : Stack) (agree : ∀ opcode ∈ script, ∀ s, exec opcode s = exec' opcode s) :
    evalLoop exec pos script stack = evalLoop exec' pos script stack := by
  induction script generalizing pos stack with
  | nil => rfl
  | cons opcode rest ih =>
    have restAgree : ∀ p s, evalLoop exec p rest s = evalLoop exec' p rest s :=
      fun p s => ih p s fun o mem => agree o (.tail _ mem)
    rw [evalLoop_cons, evalLoop_cons, agree opcode (.head _) stack]
    simp only [restAgree]

/-- A verification depends on its run function only on the scripts it runs. -/
theorem verifyScriptWith_congr {eval eval' : ByteString → Stack → Except Abort (Bool × Stack)}
    {scriptSig scriptPubkey : ByteString} {witness : Option ByteString}
    (agree : ∀ script ∈ scriptSig :: scriptPubkey :: witness.toList, ∀ stack,
      eval script stack = eval' script stack) :
    verifyScriptWith eval scriptSig scriptPubkey witness =
      verifyScriptWith eval' scriptSig scriptPubkey witness := by
  have onSig := agree scriptSig (.head _)
  have onPubkey := agree scriptPubkey (.tail _ (.head _))
  cases witness with
  | none => simp only [verifyScriptWith, onSig, onPubkey]
  | some w =>
    have onWitness := agree w (.tail _ (.tail _ (.head _)))
    simp only [verifyScriptWith, onSig, onPubkey, onWitness]

section Context

variable (verifySignature : ByteString → ByteString → Hash → Bool)

/-- Off the two signature opcodes, the context-aware opcode is the plain one, whatever the
transaction context. -/
theorem executeOpcodeWithContext_eq {opcode : UInt8} (notCheckSig : opcode ≠ 0xac)
    (notCheckSigVerify : opcode ≠ 0xad) (stack : Stack) (flags : UInt32) (tx : Transaction)
    (inputIndex : Nat) (prevouts : List TransactionOutput) :
    executeOpcodeWithContext verifySignature opcode stack flags tx inputIndex prevouts =
      executeOpcode verifySignature opcode stack flags := by
  unfold executeOpcodeWithContext
  split <;> first | rfl | contradiction

/-- Without `OP_CHECKSIG` and `OP_CHECKSIGVERIFY` bytes in any of its scripts,
`verify_script_with_context` returns what the non-production `verify_script` returns, whatever
the transaction, input index and prevouts: its loop runs the same opcodes under the same limits
and final test. -/
theorem verify_script_with_context_agrees_without_checksig (scriptSig scriptPubkey : ByteString)
    (witness : Option ByteString) (flags : UInt32) (tx : Transaction) (inputIndex : Nat)
    (prevouts : List TransactionOutput)
    (noCheckSig : ∀ script ∈ scriptSig :: scriptPubkey :: witness.toList,
      0xac ∉ script ∧ 0xad ∉ script) :
    verifyScriptWithContext verifySignature scriptSig scriptPubkey witness flags tx inputIndex
        prevouts =
      verifyScript verifySignature scriptSig scriptPubkey witness flags :=
  verifyScriptWith_congr fun script listed stack =>
    evalLoop_congr 0 script stack fun _ mem s =>
      executeOpcodeWithContext_eq verifySignature
        (fun h => (noCheckSig script listed).1 (h ▸ mem))
        (fun h => (noCheckSig script listed).2 (h ▸ mem)) s flags tx inputIndex prevouts

/-- `OP_1` against `OP_1 OP_EQUAL`, checked in the context of an empty transaction. -/
theorem verify_script_with_context_one_equals_one :
    (∀ script ∈ [[0x51], [0x51, 0x87]], (0xac : UInt8) ∉ script ∧ (0xad : UInt8) ∉ script) ∧
      verifyScriptWithContext noSignatures [0x51] [0x51, 0x87] none 0 ⟨1, [], [], 0⟩ 0 [] =
        verifyScript noSignatures [0x51] [0x51, 0x87] none 0 :=
  ⟨by decide, verify_script_with_context_agrees_without_checksig noSignatures _ _ none _ _ _ _
    (by decide)⟩

end Context

end BllvmConsensus.ScriptComposition
