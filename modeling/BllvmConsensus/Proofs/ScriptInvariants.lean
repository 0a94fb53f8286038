/-
Module: BllvmConsensus.Proofs.ScriptInvariants
Layer: Proofs
Purpose: What every run of the script interpreter keeps, whatever the script. The interpreter has
  no push-data opcode and no opcode creates an item longer than a `HASH256` digest, so every item
  stays at most 32 bytes long. The loop checks the depth before each opcode and one opcode pushes
  at most three items, so no stack grows past `MAX_STACK_SIZE + 3`. Both hold for `eval_script`
  and `eval_script_with_context` (`eval_script_stays_within_bounds`). A public key is 33 or 65
  bytes long, so no signature check ever sees one: with any verifier that rejects shorter keys,
  `verify_script` and `verify_script_with_context` answer exactly as with a verifier that accepts
  nothing (`verify_script_ignores_signatures`). Every check then fails before the sighash it
  computed is looked at, so with a valid input index and prevout count `verify_script_with_context`
  returns what `verify_script` returns (`verify_script_with_context_equals_plain`). For every
  verifier, a valid context enters the verdict only through the `SIGHASH_ALL` digest of the signing
  input: `verify_script_with_context` is `verify_script` with the check bound to that digest
  (`verify_script_with_context_checks_signing_digest`).
Imports: BllvmConsensus.Proofs.ScriptComposition
Trusted boundary: `RejectsShortKeys`, the behaviour of `verify_signature` on a public key of at
  most 32 bytes: `PublicKey::from_slice` parses 33- and 65-byte encodings only, so the call returns
  `false` before any signature is looked at.
Main exports: ShortItems, WithinBounds, executeOp_shortItems, executeOp_length_le,
  executeOpcodeWithContext_eq_ok, evalLoop_invariant, evalLoop_congr_on,
  verifyScriptWith_congr_on, eval_script_stays_within_bounds, RejectsShortKeys,
  verifyScript_eq_noSignatures, verifyScriptWithContext_eq_noSignatures,
  verify_script_ignores_signatures, verify_script_with_context_equals_plain,
  signingDigestVerifier, verify_script_with_context_checks_signing_digest
-/
import BllvmConsensus.Proofs.ScriptComposition

namespace BllvmConsensus.ScriptInvariants

open ScriptComposition

/-! ### What one opcode can create -/

/-- Every item of the stack is at most 32 bytes long, the length of a `HASH256` digest. -/
def ShortItems (stack : Stack) : Prop := ∀ item ∈ stack, item.length ≤ 32

@[simp] theorem shortItems_nil : ShortItems [] := fun _ absent => absurd absent (List.not_mem_nil _)

@[simp] theorem shortItems_cons {item : ByteString} {stack : Stack} :
    ShortItems (item :: stack) ↔ item.length ≤ 32 ∧ ShortItems stack :=
  List.forall_mem_cons

@[simp] theorem boolItem_length (b : Bool) : (boolItem b).length = 1 := by
  cases b <;> rfl

@[simp] theorem hash160_length (item : ByteString) : (hash160 item).length = 20 :=
  Digest.ripemd160_length _

@[simp] theorem hash256_length (item : ByteString) : (hash256 item).length = 32 :=
  Digest.sha256_length _

/-- `PICK` and `ROLL` only copy or move items already on the stack. -/
theorem mem_pickOrRoll {roll : Bool} {nBytes : ByteString} {stack : Stack} {item : ByteString}
    (member : item ∈ (pickOrRoll roll nBytes stack).2) : item ∈ stack := by
  unfold pickOrRoll at member
  split at member
  · exact member
  · split at member
    · rcases List.mem_cons.mp member with rfl | rest
      · exact List.get_mem _ _ _
      · split at rest
        · exact List.mem_of_mem_eraseIdx rest
        · exact rest
    · exact member

/-- `PICK` adds one item to the stack it is given and `ROLL` none. -/
theorem length_pickOrRoll_le (roll : Bool) (nBytes : ByteString) (stack : Stack) :
    (pickOrRoll roll nBytes stack).2.length ≤ stack.length + 1 := by
  unfold pickOrRoll
  split
  · simp
  · split
    · rename_i within
      cases roll <;> simp [List.length_eraseIdx, within]
    · simp

section Step

variable (verifySignature : ByteString → ByteString → Hash → Bool)

/-- Every item an arm leaves is one it was given or one it made: the empty push, a one-byte
number, a truth value, a count, or a 20- or 32-byte digest. -/
theorem executeOp_shortItems (op : Opcode) {stack : Stack} (short : ShortItems stack) :
    ShortItems (executeOp verifySignature op stack).2 := by
  cases op
  case pick | roll =>
    simp only [executeOp]
    split
    · exact fun item member => short item (.tail _ (mem_pickOrRoll member))
    · exact short
  all_goals
    simp only [executeOp]
    (repeat' split) <;> simp_all

/-- One arm pushes at most three items: `OP_3DUP` is the largest. -/
theorem executeOp_length_le (op : Opcode) (stack : Stack) :
    (executeOp verifySignature op stack).2.length ≤ stack.length + 3 := by
  cases op
  case pick | roll =>
    simp only [executeOp]
    split
    · exact (length_pickOrRoll_le _ _ _).trans (by simp)
    · simp
  all_goals
    simp only [executeOp]
    (repeat' split) <;> simp <;> omega

/-- A successful step of `execute_opcode_with_context` is a step of `execute_opcode` under some
verifier: the two signature arms check against the sighash where the plain ones use the dummy hash,
and every other byte is delegated. -/
theorem executeOpcodeWithContext_eq_ok {opcode : UInt8} {stack : Stack} {flags : UInt32}
    {tx : Transaction} {inputIndex : Nat} {prevouts : List TransactionOutput} {r : Bool × Stack}
    (ran : executeOpcodeWithContext verifySignature opcode stack flags tx inputIndex prevouts =
      .ok r) :
    ∃ verifier : ByteString → ByteString → Hash → Bool,
      r = executeOp verifier (Opcode.ofByte opcode) stack := by
  by_cases signatureOp : opcode = 0xac ∨ opcode = 0xad
  · rcases stack with _ | ⟨pubkey, _ | ⟨signature, rest⟩⟩
    · exact ⟨verifySignature, by rcases signatureOp with rfl | rfl <;> cases ran <;> rfl⟩
    · exact ⟨verifySignature, by rcases signatureOp with rfl | rfl <;> cases ran <;> rfl⟩
    · rcases signatureOp with rfl | rfl <;>
        obtain ⟨sighash, -, ran⟩ := bind_eq_ok.mp ran <;>
        cases ran <;>
        exact ⟨fun _ _ _ => verifySignature pubkey signature sighash, rfl⟩
  · rw [not_or] at signatureOp
    rw [executeOpcodeWithContext_eq verifySignature signatureOp.1 signatureOp.2] at ran
    cases ran
    exact ⟨verifySignature, rfl⟩

/-- A property every arm keeps under every verifier, on stacks the loop lets an opcode run on, is
kept by every successful step of `execute_opcode` and of `execute_opcode_with_context`. -/
theorem steps_preserve {Inv : Stack → Prop}
    (keeps : ∀ verifier op stack, stack.length ≤ maxStackSize → Inv stack →
      Inv (executeOp verifier op stack).2)
    (flags : UInt32) :
    (∀ opcode stack r, stack.length ≤ maxStackSize → Inv stack →
      executeOpcode verifySignature opcode stack flags = .ok r → Inv r.2) ∧
    ∀ tx inputIndex prevouts opcode stack r, stack.length ≤ maxStackSize → Inv stack →
      executeOpcodeWithContext verifySignature opcode stack flags tx inputIndex prevouts = .ok r →
      Inv r.2 := by
  refine ⟨fun opcode stack r shallow holds stepped => ?_,
    fun tx inputIndex prevouts opcode stack r shallow holds stepped => ?_⟩
  · cases stepped
    exact keeps _ _ _ shallow holds
  · obtain ⟨verifier, rfl⟩ := executeOpcodeWithContext_eq_ok verifySignature stepped
    exact keeps _ _ _ shallow holds

end Step

/-! ### Whole runs -/

section Loop

variable {exec exec' : UInt8 → Stack → Except Abort (Bool × Stack)} (Inv : Stack → Prop)

/-- A property the opcode function keeps on stacks of at most `MAX_STACK_SIZE` items is kept by
the whole loop, since the loop checks the depth before every opcode it runs. -/
theorem evalLoop_invariant
    (preserves : ∀ opcode stack r, stack.length ≤ maxStackSize → Inv stack →
      exec opcode stack = .ok r → Inv r.2) :
    ∀ {pos : Nat} {script : ByteString} {stack : Stack} {r : Bool × Stack}, Inv stack →
      evalLoop exec pos script stack = .ok r → Inv r.2 := by
  intro pos script
  induction script generalizing pos with
  | nil =>
    intro stack r holds ran
    cases ran
    exact holds
  | cons opcode rest ih =>
    intro stack r holds ran
    rw [evalLoop_cons] at ran
    by_cases limit : pos + 1 > maxScriptOps
    · rw [if_pos limit] at ran
      cases ran
    by_cases overflow : stack.length > maxStackSize
    · rw [if_neg limit, if_pos overflow] at ran
      cases ran
    rw [if_neg limit, if_neg overflow] at ran
    obtain ⟨result, stepped, continued⟩ := bind_eq_ok.mp ran
    have kept := preserves opcode stack result (Nat.le_of_not_gt overflow) holds stepped
    split at continued
    · exact ih kept continued
    · cases continued
      exact kept

/-- Two opcode functions that agree on the stacks an invariant of the first allows give the same
loop from such a stack. -/
theorem evalLoop_congr_on
    (preserves : ∀ opcode stack r, stack.length ≤ maxStackSize → Inv stack →
      exec opcode stack = .ok r → Inv r.2)
    (agree : ∀ opcode stack, stack.length ≤ maxStackSize → Inv stack →
      exec opcode stack = exec' opcode stack) :
    ∀ {pos : Nat} {script : ByteString} {stack : Stack}, Inv stack →
      evalLoop exec pos script stack = evalLoop exec' pos script stack := by
  intro pos script
  induction script generalizing pos with
  | nil => exact fun _ => rfl
  | cons opcode rest ih =>
    intro stack holds
    rw [evalLoop_cons, evalLoop_cons]
    by_cases limit : pos + 1 > maxScriptOps
    · rw [if_pos limit, if_pos limit]
    by_cases overflow : stack.length > maxStackSize
    · rw [if_neg limit, if_pos overflow, if_neg limit, if_pos overflow]
    rw [if_neg limit, if_neg overflow, if_neg limit, if_neg overflow,
      ← agree opcode stack (Nat.le_of_not_gt overflow) holds]
    cases stepped : exec opcode stack with
    | error e => rfl
    | ok result =>
      simp only [bind, Except.bind]
      split
      · exact ih (preserves opcode stack result (Nat.le_of_not_gt overflow) holds stepped)
      · rfl

end Loop

section Verify

variable {eval eval' : ByteString → Stack → Except Abort (Bool × Stack)} (Inv : Stack → Prop)

/-- Two run functions that agree on the stacks an invariant of the first allows, the empty one
included, give the same verification. -/
theorem verifyScriptWith_congr_on (start : Inv [])
    (preserves : ∀ script stack r, Inv stack → eval script stack = .ok r → Inv r.2)
    (agree : ∀ script stack, Inv stack → eval script stack = eval' script stack)
    (scriptSig scriptPubkey : ByteString) (witness : Option ByteString) :
    verifyScriptWith eval scriptSig scriptPubkey witness =
      verifyScriptWith eval' scriptSig scriptPubkey witness := by
  unfold verifyScriptWith
  rw [← agree scriptSig [] start]
  cases sigRan : eval scriptSig [] with
  | error e => rfl
  | ok sig =>
    simp only [bind, Except.bind]
    split
    · rfl
    have afterSig := preserves _ _ _ start sigRan
    rw [← agree scriptPubkey sig.2 afterSig]
    cases pubRan : eval scriptPubkey sig.2 with
    | error e => rfl
    | ok pub =>
      simp only [bind, Except.bind]
      split
      · rfl
      cases witness with
      | none => rfl
      | some w => simp only [agree w pub.2 (preserves _ _ _ afterSig pubRan)]

end Verify
/-! ### Resources of a run -/

/-- The stacks the interpreter keeps to: at most `MAX_STACK_SIZE + 3` items, each at most 32
bytes long. -/
structure WithinBounds (stack : Stack) : Prop where
  depth_le : stack.length ≤ maxStackSize + 3
  items_short : ShortItems stack

theorem withinBounds_nil : WithinBounds [] := ⟨Nat.zero_le _, shortItems_nil⟩

/-- An arm run on a stack the loop allows, whatever the verifier, leaves a stack within bounds. -/
theorem executeOp_withinBounds (verifier : ByteString → ByteString → Hash → Bool) (op : Opcode)
    {stack : Stack} (shallow : stack.length ≤ maxStackSize) (bounded : WithinBounds stack) :
    WithinBounds (executeOp verifier op stack).2 :=
  ⟨(executeOp_length_le verifier op stack).trans (by omega),
    executeOp_shortItems verifier op bounded.items_short⟩

/-- Every run of `eval_script` and of `eval_script_with_context`, for any verifier, flags,
transaction, input index and prevouts, from a stack within bounds ends on a stack within bounds.
From the empty stack, as in `verify_script`, the interpreter therefore never holds more than
`MAX_STACK_SIZE + 3` items of at most 32 bytes each. -/
theorem eval_script_stays_within_bounds (verifySignature : ByteString → ByteString → Hash → Bool)
    (script : ByteString) (flags : UInt32) {stack : Stack} (bounded : WithinBounds stack) :
    (∀ r, evalScript verifySignature script stack flags = .ok r → WithinBounds r.2) ∧
      ∀ tx inputIndex prevouts r,
        evalScriptWithContext verifySignature script stack flags tx inputIndex prevouts = .ok r →
        WithinBounds r.2 :=
  have steps := steps_preserve verifySignature
    (fun verifier op _ shallow bounded => executeOp_withinBounds verifier op shallow bounded) flags
  ⟨fun _ ran => evalLoop_invariant WithinBounds steps.1 bounded ran,
    fun tx inputIndex prevouts _ ran =>
      evalLoop_invariant WithinBounds (steps.2 tx inputIndex prevouts) bounded ran⟩

/-- `OP_1 OP_DUP` from the empty stack, in both interpreters, ends on two one-byte items. -/
theorem one_dup_stays_within_bounds :
    WithinBounds [] ∧ evalScript noSignatures [0x51, 0x76] [] 0 = .ok (false, [[1], [1]]) ∧
      evalScriptWithContext noSignatures [0x51, 0x76] [] 0 ⟨1, [], [], 0⟩ 0 [] =
        .ok (false, [[1], [1]]) ∧
      WithinBounds [[1], [1]] :=
  have runs := eval_script_stays_within_bounds noSignatures [0x51, 0x76] 0 withinBounds_nil
  ⟨withinBounds_nil, rfl, rfl, runs.2 ⟨1, [], [], 0⟩ 0 [] _ rfl⟩

/-! ### Signature checks -/

/-- A verifier that rejects every public key of at most 32 bytes, as `verify_signature` does:
`PublicKey::from_slice` parses 33- and 65-byte encodings only. -/
def RejectsShortKeys (verifySignature : ByteString → ByteString → Hash → Bool) : Prop :=
  ∀ pubkey signature digest, pubkey.length ≤ 32 → verifySignature pubkey signature digest = false

section Signatures

variable {verifySignature : ByteString → ByteString → Hash → Bool}
  (rejects : RejectsShortKeys verifySignature)
include rejects

/-- On a stack of short items an arm answers as with the verifier that accepts nothing. -/
theorem executeOp_ignores_signatures (op : Opcode) {stack : Stack} (short : ShortItems stack) :
    executeOp verifySignature op stack = executeOp noSignatures op stack := by
  cases op
  case checkSig | checkSigVerify =>
    simp only [executeOp]
    split
    · rw [rejects _ _ _ (short _ (.head _))]
      rfl
    · rfl
  all_goals rfl

/-- The same for the context-aware step: its key is short too, whatever sighash it is checked
against. -/
theorem executeOpcodeWithContext_ignores_signatures (opcode : UInt8) {stack : Stack}
    (short : ShortItems stack) (flags : UInt32) (tx : Transaction) (inputIndex : Nat)
    (prevouts : List TransactionOutput) :
    executeOpcodeWithContext verifySignature opcode stack flags tx inputIndex prevouts =
      executeOpcodeWithContext noSignatures opcode stack flags tx inputIndex prevouts := by
  by_cases signatureOp : opcode = 0xac ∨ opcode = 0xad
  · rcases stack with _ | ⟨pubkey, _ | ⟨signature, rest⟩⟩
    · rcases signatureOp with rfl | rfl <;> rfl
    · rcases signatureOp with rfl | rfl <;> rfl
    · have never : ∀ digest, verifySignature pubkey signature digest = false :=
        fun digest => rejects _ _ digest (short _ (.head _))
      rcases signatureOp with rfl | rfl <;> simp only [executeOpcodeWithContext, never] <;> rfl
  · rw [not_or] at signatureOp
    rw [executeOpcodeWithContext_eq _ signatureOp.1 signatureOp.2,
      executeOpcodeWithContext_eq _ signatureOp.1 signatureOp.2]
    exact congrArg Except.ok (executeOp_ignores_signatures rejects _ short)

/-- The plain verification with a verifier that rejects short keys is the one with no signatures:
the two loops agree on every stack of short items, which is every stack they reach. -/
theorem verifyScript_eq_noSignatures (scriptSig scriptPubkey : ByteString)
    (witness : Option ByteString) (flags : UInt32) :
    verifyScript verifySignature scriptSig scriptPubkey witness flags =
      verifyScript noSignatures scriptSig scriptPubkey witness flags :=
  have steps := steps_preserve verifySignature
    (fun verifier op _ _ short => executeOp_shortItems verifier op short) flags
  verifyScriptWith_congr_on ShortItems shortItems_nil
    (fun _ _ _ short ran => evalLoop_invariant ShortItems steps.1 short ran)
    (fun _ _ short => evalLoop_congr_on ShortItems steps.1
      (fun _ _ _ short => congrArg Except.ok (executeOp_ignores_signatures rejects _ short))
      short) _ _ _

/-- The same for the verification with transaction context. -/
theorem verifyScriptWithContext_eq_noSignatures (scriptSig scriptPubkey : ByteString)
    (witness : Option ByteString) (flags : UInt32) (tx : Transaction) (inputIndex : Nat)
    (prevouts : List TransactionOutput) :
    verifyScriptWithContext verifySignature scriptSig scriptPubkey witness flags tx inputIndex
        prevouts =
      verifyScriptWithContext noSignatures scriptSig scriptPubkey witness flags tx inputIndex
        prevouts :=
  have steps := (steps_preserve verifySignature
    (fun verifier op _ _ short => executeOp_shortItems verifier op short) flags).2 tx inputIndex
      prevouts
  verifyScriptWith_congr_on ShortItems shortItems_nil
    (fun _ _ _ short ran => evalLoop_invariant ShortItems steps short ran)
    (fun _ _ short => evalLoop_congr_on ShortItems steps
      (fun _ _ _ short => executeOpcodeWithContext_ignores_signatures rejects _ short _ _ _ _)
      short) _ _ _

/-- No verification depends on a signature check. With any verifier that rejects public keys of
at most 32 bytes, `verify_script` and `verify_script_with_context` answer, for every scripts,
witness, flags, transaction, input index and prevouts, exactly as with a verifier that accepts
nothing: every item the interpreter can put on a stack is at most 32 bytes long, so no check ever
receives a key of the 33 or 65 bytes a valid one has. -/
theorem verify_script_ignores_signatures (scriptSig scriptPubkey : ByteString)
    (witness : Option ByteString) (flags : UInt32) :
    verifyScript verifySignature scriptSig scriptPubkey witness flags =
        verifyScript noSignatures scriptSig scriptPubkey witness flags ∧
      ∀ tx inputIndex prevouts,
        verifyScriptWithContext verifySignature scriptSig scriptPubkey witness flags tx inputIndex
            prevouts =
          verifyScriptWithContext noSignatures scriptSig scriptPubkey witness flags tx inputIndex
            prevouts :=
  ⟨verifyScript_eq_noSignatures rejects _ _ _ _,
    verifyScriptWithContext_eq_noSignatures rejects _ _ _ _⟩

end Signatures

/-- A stand-in for the secp256k1 check that accepts every signature under a key of a valid length,
33 or 65 bytes. -/
def acceptsWellSizedKeys (pubkey _signature : ByteString) (_digest : Hash) : Bool :=
  pubkey.length == 33 || pubkey.length == 65

theorem acceptsWellSizedKeys_rejectsShortKeys : RejectsShortKeys acceptsWellSizedKeys :=
  fun pubkey _ _ short => by
    simp only [acceptsWellSizedKeys, Bool.or_eq_false_iff, beq_eq_false_iff_ne]
    omega

/-- `OP_1 OP_1` then `OP_CHECKSIG`: even the verifier that accepts every well-sized key sees a
one-byte key, and `verify_script` answers as with no signatures at all. -/
theorem checksig_on_pushed_numbers_ignores_signatures :
    RejectsShortKeys acceptsWellSizedKeys ∧
      verifyScript acceptsWellSizedKeys [0x51, 0x51] [0xac] none 0 =
        verifyScript noSignatures [0x51, 0x51] [0xac] none 0 :=
  ⟨acceptsWellSizedKeys_rejectsShortKeys,
    (verify_script_ignores_signatures acceptsWellSizedKeys_rejectsShortKeys [0x51, 0x51] [0xac]
      none 0).1⟩

/-! ### The transaction context is never used -/

/-- With no signatures, a context-aware step whose sighash computes is the plain step: both
signature arms push or return `false`, whatever they are checked against. -/
theorem executeOpcodeWithContext_noSignatures {tx : Transaction} {inputIndex : Nat}
    {prevouts : List TransactionOutput} (within : inputIndex < tx.inputs.length)
    (counted : prevouts.length = tx.inputs.length) (opcode : UInt8) (stack : Stack)
    (flags : UInt32) :
    executeOpcodeWithContext noSignatures opcode stack flags tx inputIndex prevouts =
      executeOpcode noSignatures opcode stack flags := by
  have hashed := calculateTransactionSighash_of_valid within counted .all
  by_cases signatureOp : opcode = 0xac ∨ opcode = 0xad
  · rcases stack with _ | ⟨pubkey, _ | ⟨signature, rest⟩⟩
    · rcases signatureOp with rfl | rfl <;> rfl
    · rcases signatureOp with rfl | rfl <;> rfl
    · rcases signatureOp with rfl | rfl <;>
        simp only [executeOpcodeWithContext, hashed, noSignatures, bind, Except.bind] <;> rfl
  · rw [not_or] at signatureOp
    exact executeOpcodeWithContext_eq _ signatureOp.1 signatureOp.2 _ _ _ _ _

/-- With a verifier that rejects short keys, the transaction context is never used. For every
input index within the transaction and one prevout per input, `verify_script_with_context`
returns what `verify_script` returns, for every scripts, witness and flags, signature opcodes
included: every check fails before the sighash it computes is looked at. -/
theorem verify_script_with_context_equals_plain
    {verifySignature : ByteString → ByteString → Hash → Bool} (rejects : RejectsShortKeys verifySignature) (scriptSig scriptPubkey : ByteString)
    (witness : Option ByteString) (flags : UInt32) {tx : Transaction} {inputIndex : Nat}
    {prevouts : List TransactionOutput} (within : inputIndex < tx.inputs.length)
    (counted : prevouts.length = tx.inputs.length) :
    verifyScriptWithContext verifySignature scriptSig scriptPubkey witness flags tx inputIndex
        prevouts =
      verifyScript verifySignature scriptSig scriptPubkey witness flags := by
  rw [verifyScriptWithContext_eq_noSignatures rejects, verifyScript_eq_noSignatures rejects]
  exact verifyScriptWith_congr fun _ _ _ => evalLoop_congr 0 _ _ fun opcode _ stack =>
    executeOpcodeWithContext_noSignatures within counted opcode stack flags

/-- A transaction with one input and no outputs. -/
def oneInputSpend : Transaction := ⟨1, [⟨⟨Hash.zero, 0⟩, [], 0xffffffff⟩], [], 0⟩

/-- `OP_1 OP_1 OP_CHECKSIG` signing the one input of `oneInputSpend`: the context-aware
verification returns what the plain one does. -/
theorem checksig_in_context_equals_plain :
    RejectsShortKeys acceptsWellSizedKeys ∧ 0 < oneInputSpend.inputs.length ∧
      [(⟨I64.zero, []⟩ : TransactionOutput)].length = oneInputSpend.inputs.length ∧
      verifyScriptWithContext acceptsWellSizedKeys [0x51, 0x51] [0xac] none 0 oneInputSpend 0
          [⟨I64.zero, []⟩] =
        verifyScript acceptsWellSizedKeys [0x51, 0x51] [0xac] none 0 :=
  ⟨acceptsWellSizedKeys_rejectsShortKeys, by decide, rfl,
    @verify_script_with_context_equals_plain acceptsWellSizedKeys
      acceptsWellSizedKeys_rejectsShortKeys [0x51, 0x51] [0xac] none 0 oneInputSpend 0
      [⟨I64.zero, []⟩] (by decide) rfl⟩

/-! ### The context is the signing digest -/

/-- Only `0xac` and `0xad` select the two signature arms. -/
theorem Opcode.ofByte_signature {opcode : UInt8}
    (signature : Opcode.ofByte opcode = .checkSig ∨ Opcode.ofByte opcode = .checkSigVerify) :
    opcode = 0xac ∨ opcode = 0xad := by
  unfold Opcode.ofByte at signature
  split at signature <;> first
    | exact .inl rfl
    | exact .inr rfl
    | (rcases signature with h | h <;> cases h)
    | (split at signature <;> rcases signature with h | h <;> cases h)

/-- Off the two signature arms, an arm does not consult the verifier. -/
theorem executeOp_verifier_irrelevant {verifySignature verifySignature' : ByteString → ByteString → Hash → Bool}
    {op : Opcode} (notCheckSig : op ≠ .checkSig) (notCheckSigVerify : op ≠ .checkSigVerify)
    (stack : Stack) : executeOp verifySignature op stack = executeOp verifySignature' op stack := by
  cases op <;> first | rfl | contradiction

/-- The check the context-aware signature opcodes make: the caller's verifier against the
`SIGHASH_ALL` digest of the signing input, whatever digest it is handed. -/
def signingDigestVerifier (verifySignature : ByteString → ByteString → Hash → Bool)
    (tx : Transaction) (inputIndex : Nat) : ByteString → ByteString → Hash → Bool :=
  fun pubkey signature _ =>
    verifySignature pubkey signature (Digest.doubleSha256 (sighashPreimage tx inputIndex .all))

/-- With a valid context, a context-aware step is the plain step under the verifier bound to the
signing digest. -/
theorem executeOpcodeWithContext_eq_signingDigest
    (verifySignature : ByteString → ByteString → Hash → Bool) {tx : Transaction} {inputIndex : Nat}
    {prevouts : List TransactionOutput} (within : inputIndex < tx.inputs.length)
    (counted : prevouts.length = tx.inputs.length) (opcode : UInt8) (stack : Stack)
    (flags : UInt32) :
    executeOpcodeWithContext verifySignature opcode stack flags tx inputIndex prevouts =
      executeOpcode (signingDigestVerifier verifySignature tx inputIndex) opcode stack flags := by
  have hashed := calculateTransactionSighash_of_valid within counted .all
  by_cases signatureOp : opcode = 0xac ∨ opcode = 0xad
  · rcases stack with _ | ⟨pubkey, _ | ⟨signature, rest⟩⟩
    · rcases signatureOp with rfl | rfl <;> rfl
    · rcases signatureOp with rfl | rfl <;> rfl
    · rcases signatureOp with rfl | rfl <;>
        simp only [executeOpcodeWithContext, hashed, bind, Except.bind] <;> rfl
  · rw [executeOpcodeWithContext_eq _ (fun h => signatureOp (.inl h)) (fun h => signatureOp (.inr h))]
    exact congrArg Except.ok (executeOp_verifier_irrelevant
      (fun h => signatureOp (Opcode.ofByte_signature (.inl h)))
      (fun h => signatureOp (Opcode.ofByte_signature (.inr h))) stack)

/-- `verify_script_with_context` refines `verify_script`. For every verifier, scripts, witness
and flags, and every transaction, input index within it and list of one prevout per input, the
context-aware verification returns what the plain one returns once its signature check is bound to
the `SIGHASH_ALL` digest of the signing input in place of the dummy zero hash. The context enters
the verdict only through that one digest. -/
theorem verify_script_with_context_checks_signing_digest
    (verifySignature : ByteString → ByteString → Hash → Bool) (scriptSig scriptPubkey : ByteString)
    (witness : Option ByteString) (flags : UInt32) {tx : Transaction} {inputIndex : Nat}
    {prevouts : List TransactionOutput} (within : inputIndex < tx.inputs.length)
    (counted : prevouts.length = tx.inputs.length) :
    verifyScriptWithContext verifySignature scriptSig scriptPubkey witness flags tx inputIndex
        prevouts =
      verifyScript (signingDigestVerifier verifySignature tx inputIndex) scriptSig scriptPubkey
        witness flags :=
  verifyScriptWith_congr fun _ _ _ => evalLoop_congr 0 _ _ fun opcode _ stack =>
    executeOpcodeWithContext_eq_signingDigest verifySignature within counted opcode stack flags

/-- `OP_1 OP_1 OP_CHECKSIG` signing the one input of `oneInputSpend` checks the one-byte key
against the signing digest. -/
theorem checksig_in_context_checks_signing_digest :
    0 < oneInputSpend.inputs.length ∧
      [(⟨I64.zero, []⟩ : TransactionOutput)].length = oneInputSpend.inputs.length ∧
      verifyScriptWithContext acceptsWellSizedKeys [0x51, 0x51] [0xac] none 0 oneInputSpend 0
          [⟨I64.zero, []⟩] =
        verifyScript (signingDigestVerifier acceptsWellSizedKeys oneInputSpend 0) [0x51, 0x51]
          [0xac] none 0 :=
  ⟨by decide, rfl, verify_script_with_context_checks_signing_digest acceptsWellSizedKeys
    [0x51, 0x51] [0xac] none 0 (by decide) rfl⟩

end BllvmConsensus.ScriptInvariants
