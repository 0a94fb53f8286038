/-
Module: BllvmConsensus.Core.Script
Layer: Core
Purpose: `script.rs` without the production caches: `execute_opcode`, the interpreter loop of
  `eval_script`, `verify_script`, and the transaction-context variants
  `execute_opcode_with_context`, `eval_script_with_context` and `verify_script_with_context`.
Trusted boundary: `verify_signature` parses a public key and a DER signature and runs secp256k1
  ECDSA verification on a 32-byte digest; that library call is the parameter `verifySignature`.
  Its `_flags` argument is unused in the source.
Main exports: Stack, isTrue, finalStackCheck, Opcode, Opcode.ofByte, executeOp, executeOpcode,
  evalLoop, evalScript, verifyScriptWith, verifyScript, executeOpcodeWithContext,
  evalScriptWithContext, verifyScriptWithContext
-/
import BllvmConsensus.Core.TransactionHash

namespace BllvmConsensus

/-!
The stack is kept top first: the head of the list is the last element of the crate's
`Vec<ByteString>`, so `push` is `::` and `stack[len - 1 - n]` is position `n`.

`eval_script` counts every opcode it reaches, pushes included, and checks the stack size before
each opcode, never after the last one. It ends with the final-stack test, and `verify_script`
treats a `false` from any of its two or three `eval_script` calls as failure, so the stack each
script leaves must itself pass the final-stack test.

The loop `evalLoop` is written once, over any monad that can raise an `Abort`: `eval_script` runs
it in `Except Abort`, `eval_script_with_context` with the context-aware opcodes, and the
production build in a state monad that carries the hash cache.

[SPEC src/src/script.rs:163-902]
-/

/-- The script stack, top first. -/
abbrev Stack := List ByteString

/-- The truth test of the final check, `OP_VERIFY` and `OP_IFDUP`: a non-empty item whose first
byte is non-zero. -/
def isTrue (item : ByteString) : Bool :=
  match item with
  | [] => false
  | b :: _ => b != 0

/-- `stack.len() == 1 && !stack[0].is_empty() && stack[0][0] != 0`. -/
def finalStackCheck (stack : Stack) : Bool :=
  match stack with
  | [item] => isTrue item
  | _ => false

/-- The arms of `execute_opcode`'s `match opcode`. -/
inductive Opcode where
  | op0
  | pushNum (n : UInt8)
  | dup | hash160 | hash256 | equal | equalVerify | checkSig | checkSigVerify | opReturn
  | verify | ifDup | depth | drop | nip | over | pick | roll | rot | swap | tuck
  | twoDrop | twoDup | threeDup | twoOver | twoRot | twoSwap | size
  | unknown
deriving DecidableEq, Repr

/-- The arm a byte selects. `OP_1` to `OP_16` (`0x51..=0x60`) push `opcode - 0x50`. -/
def Opcode.ofByte : UInt8 → Opcode
  | 0x00 => .op0
  | 0x76 => .dup
  | 0xa9 => .hash160
  | 0xaa => .hash256
  | 0x87 => .equal
  | 0x88 => .equalVerify
  | 0xac => .checkSig
  | 0xad => .checkSigVerify
  | 0x6a => .opReturn
  | 0x69 => .verify
  | 0x73 => .ifDup
  | 0x74 => .depth
  | 0x75 => .drop
  | 0x77 => .nip
  | 0x78 => .over
  | 0x79 => .pick
  | 0x7a => .roll
  | 0x7b => .rot
  | 0x7c => .swap
  | 0x7d => .tuck
  | 0x6d => .twoDrop
  | 0x6e => .twoDup
  | 0x6f => .threeDup
  | 0x70 => .twoOver
  | 0x71 => .twoRot
  | 0x72 => .twoSwap
  | 0x82 => .size
  | opcode => if 0x51 ≤ opcode ∧ opcode ≤ 0x60 then .pushNum (opcode - 0x50) else .unknown

/-- `RIPEMD160(SHA256(x))`. -/
def hash160 (item : ByteString) : ByteString := Digest.ripemd160 (Digest.sha256 item)

/-- `SHA256(SHA256(x))`. -/
def hash256 (item : ByteString) : ByteString := Digest.sha256 (Digest.sha256 item)

/-- `[1]` for true, `[0]` for false: what `OP_EQUAL` and `OP_CHECKSIG` push. -/
def boolItem (b : Bool) : ByteString := if b then [1] else [0]

section Interpreter

variable (verifySignature : ByteString → ByteString → Hash → Bool)

/-- The `PICK` and `ROLL` arms after popping `n`: an empty `n` fails, and so does `n` at or past
the remaining depth; otherwise item `n` is copied (`PICK`) or moved (`ROLL`) to the top. -/
def pickOrRoll (roll : Bool) (nBytes : ByteString) (stack : Stack) : Bool × Stack :=
  match nBytes with
  | [] => (false, stack)
  | n :: _ =>
      if h : n.toNat < stack.length then
        (true, stack.get ⟨n.toNat, h⟩ :: if roll then stack.eraseIdx n.toNat else stack)
      else (false, stack)

/-- One arm of `execute_opcode`. The pair is the returned `bool` and the stack as the arm leaves
it; an arm that fails for want of items leaves the stack as it was, except where the source pops
before testing (`EQUALVERIFY`, `CHECKSIGVERIFY`, `VERIFY`, `PICK`, `ROLL`). Plain `OP_CHECKSIG`
verifies against the dummy hash `[0; 32]`. -/
def executeOp (op : Opcode) (stack : Stack) : Bool × Stack :=
  match op with
  | .op0 => (true, [] :: stack)
  | .pushNum n => (true, [n] :: stack)
  | .dup => match stack with
    | item :: _ => (true, item :: stack)
    | [] => (false, stack)
  | .hash160 => match stack with
    | item :: rest => (true, hash160 item :: rest)
    | [] => (false, stack)
  | .hash256 => match stack with
    | item :: rest => (true, hash256 item :: rest)
    | [] => (false, stack)
  | .equal => match stack with
    | a :: b :: rest => (true, boolItem (a = b) :: rest)
    | _ => (false, stack)
  | .equalVerify => match stack with
    | a :: b :: rest => (a = b, rest)
    | _ => (false, stack)
  | .checkSig => match stack with
    | pubkey :: signature :: rest =>
        (true, boolItem (verifySignature pubkey signature Hash.zero) :: rest)
    | _ => (false, stack)
  | .checkSigVerify => match stack with
    | pubkey :: signature :: rest => (verifySignature pubkey signature Hash.zero, rest)
    | _ => (false, stack)
  | .opReturn => (false, stack)
  | .verify => match stack with
    | item :: rest => (isTrue item, rest)
    | [] => (false, stack)
  | .ifDup => match stack with
    | item :: rest => (true, if isTrue item then item :: item :: rest else item :: rest)
    | [] => (false, stack)
  | .depth => (true, [stack.length.toUInt8] :: stack)
  | .drop => match stack with
    | _ :: rest => (true, rest)
    | [] => (false, stack)
  | .nip => match stack with
    | top :: _ :: rest => (true, top :: rest)
    | _ => (false, stack)
  | .over => match stack with
    | a :: b :: rest => (true, b :: a :: b :: rest)
    | _ => (false, stack)
  | .pick => match stack with
    | n :: rest => pickOrRoll false n rest
    | [] => (false, stack)
  | .roll => match stack with
    | n :: rest => pickOrRoll true n rest
    | [] => (false, stack)
  | .rot => match stack with
    | top :: second :: third :: rest => (true, third :: top :: second :: rest)
    | _ => (false, stack)
  | .swap => match stack with
    | top :: second :: rest => (true, second :: top :: rest)
    | _ => (false, stack)
  | .tuck => match stack with
    | top :: second :: rest => (true, top :: second :: top :: rest)
    | _ => (false, stack)
  | .twoDrop => match stack with
    | _ :: _ :: rest => (true, rest)
    | _ => (false, stack)
  | .twoDup => match stack with
    | top :: second :: rest => (true, top :: second :: top :: second :: rest)
    | _ => (false, stack)
  | .threeDup => match stack with
    | top :: second :: third :: rest =>
        (true, top :: second :: third :: top :: second :: third :: rest)
    | _ => (false, stack)
  | .twoOver => match stack with
    | a :: b :: third :: fourth :: rest => (true, third :: fourth :: a :: b :: third :: fourth :: rest)
    | _ => (false, stack)
  | .twoRot => match stack with
    | a :: b :: c :: d :: fifth :: sixth :: rest => (true, sixth :: fifth :: a :: b :: c :: d :: rest)
    | _ => (false, stack)
  | .twoSwap => match stack with
    | top :: second :: third :: fourth :: rest => (true, third :: fourth :: top :: second :: rest)
    | _ => (false, stack)
  | .size => match stack with
    | item :: _ => (true, [item.length.toUInt8] :: stack)
    | [] => (false, stack)
  | .unknown => (false, stack)

/-- `execute_opcode` of the non-production build. It never returns `Err`. -/
def executeOpcode (opcode : UInt8) (stack : Stack) (_flags : UInt32) : Except Abort (Bool × Stack) :=
  .ok (executeOp verifySignature (Opcode.ofByte opcode) stack)

/-- The loop of `eval_script`, at `opCount` opcodes already counted: count the opcode and fail
past `MAX_SCRIPT_OPS`, fail if the stack holds more than `MAX_STACK_SIZE` items, run the opcode
and stop with `false` if it fails; at the end, the final-stack test. -/
def evalLoop {m : Type → Type} [Monad m] [MonadExceptOf Abort m]
    (exec : UInt8 → Stack → m (Bool × Stack)) : Nat → ByteString → Stack → m (Bool × Stack)
  | _, [], stack => pure (finalStackCheck stack, stack)
  | opCount, opcode :: rest, stack =>
      if opCount + 1 > maxScriptOps then
        throwThe Abort (.err (.scriptExecution "Operation limit exceeded"))
      else if stack.length > maxStackSize then
        throwThe Abort (.err (.scriptExecution "Stack overflow"))
      else
        exec opcode stack >>= fun result =>
          if result.1 then evalLoop exec (opCount + 1) rest result.2 else pure (false, result.2)

/-- `eval_script`: the returned `bool` and the stack it leaves behind in `&mut stack`. -/
def evalScript (script : ByteString) (stack : Stack) (flags : UInt32) :
    Except Abort (Bool × Stack) :=
  evalLoop (fun opcode stack => executeOpcode verifySignature opcode stack flags) 0 script stack

/-- The body shared by `verify_script` (non-production) and `verify_script_with_context`: run
`script_sig` on the empty stack, `script_pubkey` on what it leaves, then the witness if present,
returning `false` as soon as one run returns `false`, and the final-stack test at the end. -/
def verifyScriptWith (eval : ByteString → Stack → Except Abort (Bool × Stack))
    (scriptSig scriptPubkey : ByteString) (witness : Option ByteString) : Except Abort Bool :=
  eval scriptSig [] >>= fun sig =>
    if !sig.1 then .ok false
    else
      eval scriptPubkey sig.2 >>= fun pub =>
        if !pub.1 then .ok false
        else
          match witness with
          | some w =>
              eval w pub.2 >>= fun wit =>
                if !wit.1 then .ok false else .ok (finalStackCheck wit.2)
          | none => .ok (finalStackCheck pub.2)

/-- `verify_script` of the non-production build. -/
def verifyScript (scriptSig scriptPubkey : ByteString) (witness : Option ByteString)
    (flags : UInt32) : Except Abort Bool :=
  verifyScriptWith (fun script stack => evalScript verifySignature script stack flags)
    scriptSig scriptPubkey witness

/-- `execute_opcode_with_context`: `OP_CHECKSIG` and `OP_CHECKSIGVERIFY` verify against the
`SIGHASH_ALL` hash of the spending transaction, whose errors propagate with `?`; every other byte
is delegated to `execute_opcode`. -/
def executeOpcodeWithContext (opcode : UInt8) (stack : Stack) (flags : UInt32) (tx : Transaction)
    (inputIndex : Nat) (prevouts : List TransactionOutput) : Except Abort (Bool × Stack) :=
  match opcode, stack with
  | 0xac, pubkey :: signature :: rest =>
      calculateTransactionSighash tx inputIndex prevouts .all >>= fun sighash =>
        .ok (true, boolItem (verifySignature pubkey signature sighash) :: rest)
  | 0xac, _ => .ok (false, stack)
  | 0xad, pubkey :: signature :: rest =>
      calculateTransactionSighash tx inputIndex prevouts .all >>= fun sighash =>
        .ok (verifySignature pubkey signature sighash, rest)
  | 0xad, _ => .ok (false, stack)
  | _, _ => executeOpcode verifySignature opcode stack flags

/-- `eval_script_with_context`, the loop of `eval_script` over the context-aware opcodes. -/
def evalScriptWithContext (script : ByteString) (stack : Stack) (flags : UInt32)
    (tx : Transaction) (inputIndex : Nat) (prevouts : List TransactionOutput) :
    Except Abort (Bool × Stack) :=
  evalLoop (fun opcode stack =>
    executeOpcodeWithContext verifySignature opcode stack flags tx inputIndex prevouts) 0 script stack

/-- `verify_script_with_context`. -/
def verifyScriptWithContext (scriptSig scriptPubkey : ByteString) (witness : Option ByteString)
    (flags : UInt32) (tx : Transaction) (inputIndex : Nat) (prevouts : List TransactionOutput) :
    Except Abort Bool :=
  verifyScriptWith (fun script stack =>
    evalScriptWithContext verifySignature script stack flags tx inputIndex prevouts)
    scriptSig scriptPubkey witness

end Interpreter

end BllvmConsensus
