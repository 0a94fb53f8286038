/-
Module: BllvmConsensus.Proofs.CacheTransparency
Layer: Proofs
Purpose: The production caches never change an answer. Over any sequence of `verify_script`
  calls sharing the two LRU caches and the stack pool, each call returns what the non-production
  `verify_script` returns on its arguments. The assumption is that no two distinct calls of the
  sequence share a script-cache key, and no two distinct hash lookups of the sequence share a
  hash-cache key (`production_verify_script_agrees_with_plain`).
Imports: BllvmConsensus.Core.Production
Trusted boundary: none
Main exports: Agrees, loopHashQueries, callHashQueries, CacheSound,
  production_verify_script_agrees_with_plain
-/
import BllvmConsensus.Core.Production

namespace BllvmConsensus.CacheTransparency

/-! ### Agreement of a production computation with a plain one -/

/-- From every state satisfying `inv`, the production computation `x` returns what the plain
computation `y` returns, and it leaves a state satisfying `inv`. -/
def Agrees {α : Type} (inv : ProductionState → Prop) (x : Production α) (y : Except Abort α) :
    Prop :=
  ∀ st, inv st → (runProduction x st).1 = y ∧ inv (runProduction x st).2

namespace Agrees

variable {α β : Type} {inv : ProductionState → Prop}

theorem pure_ok (a : α) : Agrees inv (pure a) (pure a) := fun _ kept => ⟨rfl, kept⟩

theorem throw_error (e : Abort) : Agrees inv (throwThe Abort e : Production α) (.error e) :=
  fun _ kept => ⟨rfl, kept⟩

/-- Agreement is kept by sequencing, the second half needing to agree only on what the plain first
half returns. -/
theorem bind_ok {x : Production α} {y : Except Abort α} {f : α → Production β}
    {g : α → Except Abort β} (first : Agrees inv x y)
    (rest : ∀ a, y = .ok a → Agrees inv (f a) (g a)) :
    Agrees inv (x >>= f) (y >>= g) := by
  intro st kept
  obtain ⟨result, kept'⟩ := first st kept
  have split : runProduction x st = (y, (runProduction x st).2) := Prod.ext result rfl
  cases y with
  | error e => exact (runProduction_bind_error split).symm ▸ ⟨rfl, kept'⟩
  | ok a => exact (runProduction_bind_ok split).symm ▸ rest a rfl _ kept'

theorem of_eq {x : Production α} {y y' : Except Abort α} (agrees : Agrees inv x y) (same : y = y') :
    Agrees inv x y' :=
  same ▸ agrees

end Agrees

section Sound

variable (verifySignature : ByteString → ByteString → Hash → Bool)
  (scriptCacheKey : ByteString → ByteString → Option ByteString → UInt32 → UInt64)

/-- The non-production `verify_script` on a call's arguments. -/
def plainVerify (call : ScriptCall) : Except Abort Bool :=
  verifyScript verifySignature call.scriptSig call.scriptPubkey call.witness call.flags

/-- The script-cache key of a call. -/
def callKey (call : ScriptCall) : UInt64 :=
  scriptCacheKey call.scriptSig call.scriptPubkey call.witness call.flags

/-! ### The hash lookups of a run -/

/-- The hash lookup one opcode makes: the item and kind of an `OP_HASH160` (`true`) or `OP_HASH256`
(`false`) on a non-empty stack. -/
def hashQuery : Opcode → Stack → List (ByteString × Bool)
  | .hash160, item :: _ => [(item, true)]
  | .hash256, item :: _ => [(item, false)]
  | _, _ => []

/-- The hash lookups of a run of `eval_script`'s loop, in order, following the plain run. -/
def loopHashQueries : Nat → ByteString → Stack → List (ByteString × Bool)
  | _, [], _ => []
  | opCount, opcode :: rest, stack =>
      if opCount + 1 > maxScriptOps then []
      else if stack.length > maxStackSize then []
      else
        hashQuery (Opcode.ofByte opcode) stack ++
          if (executeOp verifySignature (Opcode.ofByte opcode) stack).1 then
            loopHashQueries (opCount + 1) rest
              (executeOp verifySignature (Opcode.ofByte opcode) stack).2
          else []

/-- The hash lookups of a `verify_script` call: those of each `eval_script` run it reaches. -/
def callHashQueries (call : ScriptCall) : List (ByteString × Bool) :=
  loopHashQueries verifySignature 0 call.scriptSig [] ++
    match evalScript verifySignature call.scriptSig [] call.flags with
    | .ok (true, afterSig) =>
        loopHashQueries verifySignature 0 call.scriptPubkey afterSig ++
          match evalScript verifySignature call.scriptPubkey afterSig call.flags, call.witness with
          | .ok (true, afterPub), some w => loopHashQueries verifySignature 0 w afterPub
          | _, _ => []
    | _ => []

/-- No two distinct calls of `calls` share a script-cache key. -/
def ScriptKeysInjective (calls : List ScriptCall) : Prop :=
  ∀ c ∈ calls, ∀ c' ∈ calls, callKey scriptCacheKey c = callKey scriptCacheKey c' → c = c'

/-- No two distinct hash lookups of `queries` share a hash-cache key. -/
def HashKeysInjective (queries : List (ByteString × Bool)) : Prop :=
  ∀ q ∈ queries, ∀ q' ∈ queries,
    computeHashCacheKey q.1 q.2 = computeHashCacheKey q'.1 q'.2 → q = q'

/-- The caches hold only right answers. Every cached verdict is the plain verdict of a call of the
sequence with that key, and every cached hash is the hash of a lookup of the sequence with that
key. -/
structure CacheSound (calls : List ScriptCall) (queries : List (ByteString × Bool))
    (st : ProductionState) : Prop where
  scripts : ∀ entry ∈ st.scriptCache.entries, ∃ call ∈ calls,
    callKey scriptCacheKey call = entry.1 ∧ plainVerify verifySignature call = .ok entry.2
  hashes : ∀ entry ∈ st.hashCache.entries, ∃ q ∈ queries,
    computeHashCacheKey q.1 q.2 = entry.1 ∧ entry.2 = hashOpResult q.2 q.1

variable {verifySignature scriptCacheKey} {calls : List ScriptCall}
  {queries : List (ByteString × Bool)}

/-! ### One opcode -/

theorem hashMiss_agrees {item : ByteString} {opHash160 : Bool} {rest : Stack}
    (queried : (item, opHash160) ∈ queries) :
    Agrees (CacheSound verifySignature scriptCacheKey calls queries)
      (hashMiss opHash160 (computeHashCacheKey item opHash160) item rest)
      (.ok (true, hashOpResult opHash160 item :: rest)) := by
  intro st sound
  refine ⟨rfl, sound.scripts, fun entry member => ?_⟩
  rcases LruCache.mem_put member with rfl | old
  · exact ⟨_, queried, rfl, rfl⟩
  · exact sound.hashes entry old

/-- A hash opcode answers as the plain one: a hit returns the hash of the one lookup with that
key, and a miss computes it. -/
theorem executeHashProduction_agrees
    (distinct : HashKeysInjective queries)
    {item : ByteString} {opHash160 : Bool} {rest : Stack} (queried : (item, opHash160) ∈ queries) :
    Agrees (CacheSound verifySignature scriptCacheKey calls queries)
      (executeHashProduction opHash160 (item :: rest))
      (.ok (true, hashOpResult opHash160 item :: rest)) := by
  intro st sound
  have fetched : runProduction (get : Production ProductionState) st = (.ok st, st) := rfl
  simp only [executeHashProduction]
  rw [runProduction_bind_ok fetched]
  cases found : st.hashCache.peek (computeHashCacheKey item opHash160) with
  | none => exact hashMiss_agrees queried st sound
  | some cached =>
    obtain ⟨q, member, sameKey, stored⟩ := sound.hashes _ (LruCache.mem_of_peek found)
    obtain rfl := distinct q member _ queried sameKey
    obtain rfl : cached = hashOpResult opHash160 item := stored
    dsimp only
    by_cases fits : (hashOpResult opHash160 item).length = if opHash160 then 20 else 32
    · rw [if_pos fits]
      exact ⟨rfl, sound⟩
    · rw [if_neg fits]
      exact hashMiss_agrees queried st sound

/-- Every production opcode answers as the plain one, once its hash lookup is one of the
sequence's. -/
theorem executeOpcodeProduction_agrees
    (distinct : HashKeysInjective queries)
    {opcode : UInt8} {stack : Stack} {flags : UInt32}
    (covered : ∀ q ∈ hashQuery (Opcode.ofByte opcode) stack, q ∈ queries) :
    Agrees (CacheSound verifySignature scriptCacheKey calls queries)
      (executeOpcodeProduction verifySignature opcode stack flags)
      (executeOpcode verifySignature opcode stack flags) := by
  unfold executeOpcodeProduction executeOpcode
  generalize Opcode.ofByte opcode = op at covered ⊢
  cases op <;> try exact Agrees.pure_ok _
  all_goals
    cases stack with
    | nil => exact Agrees.pure_ok _
    | cons item rest => exact executeHashProduction_agrees distinct (covered _ (.head _))

/-! ### The interpreter loop -/

/-- The production loop of `eval_script` answers as the plain one, once every hash lookup of the
plain run is one of the sequence's. -/
theorem evalLoop_agrees
    (distinct : HashKeysInjective queries) (flags : UInt32) :
    ∀ (script : ByteString) (opCount : Nat) (stack : Stack),
      (∀ q ∈ loopHashQueries verifySignature opCount script stack, q ∈ queries) →
      Agrees (CacheSound verifySignature scriptCacheKey calls queries)
        (evalLoop (fun opcode stack => executeOpcodeProduction verifySignature opcode stack flags)
          opCount script stack)
        (evalLoop (fun opcode stack => executeOpcode verifySignature opcode stack flags)
          opCount script stack)
  | [], _, _, _ => Agrees.pure_ok _
  | opcode :: rest, opCount, stack, covered => by
    simp only [evalLoop]
    simp only [loopHashQueries] at covered
    by_cases limit : opCount + 1 > maxScriptOps
    · simp only [if_pos limit]
      exact Agrees.throw_error _
    by_cases overflow : stack.length > maxStackSize
    · simp only [if_neg limit, if_pos overflow]
      exact Agrees.throw_error _
    simp only [if_neg limit, if_neg overflow] at covered ⊢
    refine Agrees.bind_ok (executeOpcodeProduction_agrees distinct
      fun q member => covered q (List.mem_append_left _ member)) fun result ran => ?_
    cases ran
    by_cases continues : (executeOp verifySignature (Opcode.ofByte opcode) stack).1 = true
    · simp only [continues, if_true] at covered ⊢
      exact evalLoop_agrees distinct flags rest (opCount + 1) _
        fun q member => covered q (List.mem_append_right _ member)
    · simp only [continues]
      exact Agrees.pure_ok _

/-! ### One call -/

theorem getPooledStack_agrees :
    Agrees (CacheSound verifySignature scriptCacheKey calls queries) getPooledStack (.ok []) := by
  intro st sound
  unfold getPooledStack
  rw [runProduction_bind_ok (rfl : runProduction get st = (.ok st, st))]
  split
  · exact ⟨rfl, sound.scripts, sound.hashes⟩
  · exact ⟨rfl, sound⟩

theorem returnPooledStack_agrees :
    Agrees (CacheSound verifySignature scriptCacheKey calls queries) returnPooledStack
      (.ok ()) := by
  intro st sound
  refine ⟨rfl, ?_⟩
  show CacheSound _ _ _ _ (if st.stackPool.length < 10 then _ else st)
  split
  · exact ⟨sound.scripts, sound.hashes⟩
  · exact sound

/-- Caching the plain verdict of a call of the sequence under its key keeps the caches sound. -/
theorem cacheAndReturn_agrees {call : ScriptCall} (member : call ∈ calls) {result : Bool}
    (verified : plainVerify verifySignature call = .ok result) :
    Agrees (CacheSound verifySignature scriptCacheKey calls queries)
      (cacheAndReturn (callKey scriptCacheKey call) result) (.ok result) := by
  intro st sound
  refine ⟨rfl, fun entry stored => ?_, sound.hashes⟩
  rcases LruCache.mem_put stored with rfl | old
  · exact ⟨call, member, rfl, verified⟩
  · exact sound.scripts entry old

/-- The cache-miss path of a call of the sequence answers as the plain `verify_script`. -/
theorem verifyUncached_agrees
    (distinct : HashKeysInjective queries)
    {call : ScriptCall} (member : call ∈ calls)
    (covered : ∀ q ∈ callHashQueries verifySignature call, q ∈ queries) :
    Agrees (CacheSound verifySignature scriptCacheKey calls queries)
      (verifyUncached verifySignature (callKey scriptCacheKey call) call.scriptSig call.scriptPubkey
        call.witness call.flags [])
      (plainVerify verifySignature call) := by
  obtain ⟨scriptSig, scriptPubkey, witness, flags⟩ := call
  simp only [callHashQueries, List.mem_append] at covered
  unfold verifyUncached plainVerify verifyScript verifyScriptWith
  refine Agrees.bind_ok (evalLoop_agrees distinct flags _ 0 [] fun q m => covered q (.inl m))
    fun ⟨sigOk, afterSig⟩ ranSig => ?_
  cases sigOk
  · exact cacheAndReturn_agrees member (bind_eq_ok.mpr ⟨_, ranSig, rfl⟩)
  simp only [ranSig, List.mem_append] at covered
  refine Agrees.bind_ok (evalLoop_agrees distinct flags _ 0 afterSig
    fun q m => covered q (.inr (.inl m))) fun ⟨pubOk, afterPub⟩ ranPub => ?_
  cases pubOk
  · exact cacheAndReturn_agrees member (bind_eq_ok.mpr ⟨_, ranSig, bind_eq_ok.mpr ⟨_, ranPub, rfl⟩⟩)
  cases witness with
  | none =>
    exact cacheAndReturn_agrees member (bind_eq_ok.mpr ⟨_, ranSig, bind_eq_ok.mpr ⟨_, ranPub, rfl⟩⟩)
  | some w =>
    simp only [ranPub] at covered
    refine Agrees.bind_ok (evalLoop_agrees distinct flags _ 0 afterPub
      fun q m => covered q (.inr (.inr m))) fun ⟨witOk, afterWit⟩ ranWit => ?_
    cases witOk <;> exact cacheAndReturn_agrees member
      (bind_eq_ok.mpr ⟨_, ranSig, bind_eq_ok.mpr ⟨_, ranPub, bind_eq_ok.mpr ⟨_, ranWit, rfl⟩⟩⟩)

/-- A production call of the sequence answers as the plain `verify_script`: a hit returns the
verdict cached for the one call with that key, and a miss runs the call on an empty pooled stack. -/
theorem verifyScriptProduction_agrees
    (scriptsDistinct : ScriptKeysInjective scriptCacheKey calls)
    (hashesDistinct : HashKeysInjective queries)
    {call : ScriptCall} (member : call ∈ calls)
    (covered : ∀ q ∈ callHashQueries verifySignature call, q ∈ queries) :
    Agrees (CacheSound verifySignature scriptCacheKey calls queries)
      (verifyScriptProduction verifySignature scriptCacheKey call.scriptSig call.scriptPubkey
        call.witness call.flags)
      (plainVerify verifySignature call) := by
  intro st sound
  unfold verifyScriptProduction
  rw [runProduction_bind_ok (rfl : runProduction get st = (.ok st, st))]
  cases found : st.scriptCache.peek
      (scriptCacheKey call.scriptSig call.scriptPubkey call.witness call.flags) with
  | some cached =>
    obtain ⟨other, known, sameKey, verdict⟩ := sound.scripts _ (LruCache.mem_of_peek found)
    obtain rfl := scriptsDistinct other known call member sameKey
    exact ⟨verdict.symm, sound⟩
  | none =>
    refine (Agrees.of_eq (Agrees.bind_ok getPooledStack_agrees fun stack pooled => ?_)
      (by simp only [pure_bind, bind_pure] : (pure [] >>= fun _ =>
        plainVerify verifySignature call >>= fun result => pure () >>= fun _ => pure result) = _))
      st sound
    cases pooled
    exact Agrees.bind_ok (verifyUncached_agrees hashesDistinct member covered) fun result _ =>
      Agrees.bind_ok returnPooledStack_agrees fun _ _ => Agrees.pure_ok result

/-! ### Every sequence of calls -/

/-- Each call of a run answers as the plain `verify_script`, from every sound state. -/
theorem runCalls_agrees
    (scriptsDistinct : ScriptKeysInjective scriptCacheKey calls)
    (hashesDistinct : HashKeysInjective queries) :
    ∀ (pending : List ScriptCall) (st : ProductionState), (∀ call ∈ pending, call ∈ calls) →
      (∀ call ∈ pending, ∀ q ∈ callHashQueries verifySignature call, q ∈ queries) →
      CacheSound verifySignature scriptCacheKey calls queries st →
      (runCalls verifySignature scriptCacheKey pending st).1 =
        pending.map (plainVerify verifySignature)
  | [], _, _, _, _ => rfl
  | call :: rest, st, members, covered, sound => by
    obtain ⟨first, sound'⟩ := verifyScriptProduction_agrees scriptsDistinct hashesDistinct
      (members call (.head _)) (covered call (.head _)) st sound
    simp only [runCalls, List.map_cons, first]
    rw [runCalls_agrees scriptsDistinct hashesDistinct rest _
      (fun c m => members c (.tail _ m)) (fun c m => covered c (.tail _ m)) sound']

end Sound

/-- The production caches never change an answer. Take any sequence of calls to the production
`verify_script`, from start-up, sharing the script-result cache, the hash-result cache and the
stack pool. Suppose no two distinct calls of the sequence share a script-cache key, and no two
distinct hash lookups of the sequence share a hash-cache key. Then every call returns the `Result`
the non-production `verify_script` returns on its arguments. -/
theorem production_verify_script_agrees_with_plain
    (verifySignature : ByteString → ByteString → Hash → Bool)
    (scriptCacheKey : ByteString → ByteString → Option ByteString → UInt32 → UInt64)
    (calls : List ScriptCall)
    (scriptKeysDistinct : ∀ c ∈ calls, ∀ c' ∈ calls,
      callKey scriptCacheKey c = callKey scriptCacheKey c' → c = c')
    (hashKeysDistinct : ∀ q ∈ calls.flatMap (callHashQueries verifySignature),
      ∀ q' ∈ calls.flatMap (callHashQueries verifySignature),
        computeHashCacheKey q.1 q.2 = computeHashCacheKey q'.1 q'.2 → q = q') :
    (runCalls verifySignature scriptCacheKey calls ProductionState.initial).1 =
      calls.map (plainVerify verifySignature) :=
  runCalls_agrees scriptKeysDistinct hashKeysDistinct calls _ (fun _ member => member)
    (fun call member _ queried => List.mem_flatMap.mpr ⟨call, member, queried⟩)
    ⟨fun _ stored => absurd stored (List.not_mem_nil _),
      fun _ stored => absurd stored (List.not_mem_nil _)⟩

/-- `OP_1` against `OP_1 OP_EQUAL`, a call that verifies. -/
def oneEqualsOne : ScriptCall := ⟨[0x51], [0x51, 0x87], none, 0⟩

/-- The same call twice, the second answered from the script cache, under a length-based key. -/
theorem production_repeated_call_agrees :
    (runCalls (fun _ _ _ => false) (fun ss spk _ _ => (ss.length + spk.length).toUInt64)
        [oneEqualsOne, oneEqualsOne] ProductionState.initial).1 =
      [plainVerify (fun _ _ _ => false) oneEqualsOne, plainVerify (fun _ _ _ => false) oneEqualsOne] :=
  production_verify_script_agrees_with_plain _ _ _ (by decide) (by decide)

end BllvmConsensus.CacheTransparency
