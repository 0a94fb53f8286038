/-
Module: BllvmConsensus.Proofs.ProductionEffects
Layer: Proofs
Purpose: What production `verify_script` calls do to the process-wide state, from every state and
  over every sequence of calls. A call that returns a verdict leaves it cached under the call's
  key, so the same call made next is answered from the cache and changes nothing. A call that
  fails with `Err` leaves the script cache as it found it and gives up the pooled stack it took.
  The stack pool never holds more than 10 stacks, all of them empty
  (`production_calls_cache_verdicts`). Whatever the hash cache holds, a cached digest is pushed
  only at the length its opcode produces, so the production interpreter keeps the bounds of the
  plain one (`production_eval_script_stays_within_bounds`).
Imports: BllvmConsensus.Proofs.CacheTransparency, BllvmConsensus.Proofs.ScriptInvariants
Trusted boundary: none
Main exports: OnlyHashCache, RecordsVerdict, PoolBounded, CallEffect, productionVerify,
  production_calls_cache_verdicts, Ensures, production_eval_script_stays_within_bounds
-/
import BllvmConsensus.Proofs.CacheTransparency
import BllvmConsensus.Proofs.ScriptInvariants

namespace BllvmConsensus.ProductionEffects

/-!
The interpreter loop of the production build writes to the hash cache only: all a call does to
the script cache and the pool happens in `verify_script` itself, around its `eval_script` runs.
Each part is stated as an effect that `pure`, `throwThe` and `>>=` preserve, so the proofs follow
the `do` blocks of the source.

[SPEC src/src/script.rs:60-106, 218-298]
-/

/-! ### The interpreter touches the hash cache only -/

/-- From every state, `x` leaves the script cache and the stack pool as they were, whatever it
returns. -/
def OnlyHashCache {α : Type} (x : Production α) : Prop :=
  ∀ st, (runProduction x st).2.scriptCache = st.scriptCache ∧
    (runProduction x st).2.stackPool = st.stackPool

namespace OnlyHashCache

variable {α β : Type}

theorem of_pure (a : α) : OnlyHashCache (pure a : Production α) := fun _ => ⟨rfl, rfl⟩

theorem of_throw (e : Abort) : OnlyHashCache (throwThe Abort e : Production α) :=
  fun _ => ⟨rfl, rfl⟩

theorem of_get : OnlyHashCache (get : Production ProductionState) := fun _ => ⟨rfl, rfl⟩

theorem bind {x : Production α} {f : α → Production β} (first : OnlyHashCache x)
    (rest : ∀ a, OnlyHashCache (f a)) : OnlyHashCache (x >>= f) := by
  intro st
  obtain ⟨cache, pool⟩ := first st
  cases result : (runProduction x st).1 with
  | error e => rw [runProduction_bind_error (Prod.ext result rfl)]; exact ⟨cache, pool⟩
  | ok a =>
    rw [runProduction_bind_ok (Prod.ext result rfl)]
    obtain ⟨cache', pool'⟩ := rest a (runProduction x st).2
    exact ⟨cache'.trans cache, pool'.trans pool⟩

theorem of_hashMiss (opHash160 : Bool) (cacheKey : Hash) (item : ByteString) (rest : Stack) :
    OnlyHashCache (hashMiss opHash160 cacheKey item rest) := fun _ => ⟨rfl, rfl⟩

theorem of_executeHashProduction (opHash160 : Bool) (stack : Stack) :
    OnlyHashCache (executeHashProduction opHash160 stack) := by
  unfold executeHashProduction
  split
  · refine bind of_get fun st => ?_
    (repeat' split) <;> first | exact of_pure _ | exact of_hashMiss _ _ _ _
  · exact of_pure _

/-- The loop keeps the script cache and the pool when every opcode does. -/
theorem loop {exec : UInt8 → Stack → Production (Bool × Stack)}
    (step : ∀ opcode stack, OnlyHashCache (exec opcode stack)) :
    ∀ opCount script stack, OnlyHashCache (evalLoop exec opCount script stack)
  | _, [], _ => of_pure _
  | opCount, opcode :: rest, stack => by
    simp only [evalLoop]
    split
    · exact of_throw _
    split
    · exact of_throw _
    refine bind (step opcode stack) fun result => ?_
    split
    · exact loop step _ rest _
    · exact of_pure _

theorem of_evalScriptProduction (verifySignature : ByteString → ByteString → Hash → Bool)
    (script : ByteString) (stack : Stack) (flags : UInt32) :
    OnlyHashCache (evalScriptProduction verifySignature script stack flags) := by
  refine loop (fun opcode stack => ?_) 0 script stack
  unfold executeOpcodeProduction
  split
  · exact of_executeHashProduction true stack
  · exact of_executeHashProduction false stack
  · exact of_pure _

end OnlyHashCache

/-! ### The cache-miss path caches its verdict -/

/-- From every state, `x` leaves the stack pool as it was. If it fails, it leaves the script cache
as it was too; if it returns a verdict, the script cache then holds that verdict under
`cacheKey`. -/
def RecordsVerdict (cacheKey : UInt64) (x : Production Bool) : Prop :=
  ∀ st, (runProduction x st).2.stackPool = st.stackPool ∧
    (∀ e, (runProduction x st).1 = .error e →
      (runProduction x st).2.scriptCache = st.scriptCache) ∧
    (∀ verdict, (runProduction x st).1 = .ok verdict →
      (runProduction x st).2.scriptCache.peek cacheKey = some verdict)

namespace RecordsVerdict

variable {α : Type} {cacheKey : UInt64}

theorem of_cacheAndReturn (result : Bool) : RecordsVerdict cacheKey (cacheAndReturn cacheKey result) :=
  fun _ => ⟨rfl, fun _ failed => (nomatch failed),
    fun _ returned => by cases returned; exact LruCache.peek_put_self _ _ _⟩

/-- A computation that keeps the script cache and the pool, followed by one that records its
verdict, records its verdict. -/
theorem bind {x : Production α} {f : α → Production Bool} (first : OnlyHashCache x)
    (rest : ∀ a, RecordsVerdict cacheKey (f a)) : RecordsVerdict cacheKey (x >>= f) := by
  intro st
  obtain ⟨cache, pool⟩ := first st
  cases result : (runProduction x st).1 with
  | error e =>
    rw [runProduction_bind_error (Prod.ext result rfl)]
    exact ⟨pool, fun _ _ => cache, fun _ failed => (nomatch failed)⟩
  | ok a =>
    rw [runProduction_bind_ok (Prod.ext result rfl)]
    obtain ⟨pool', failed, returned⟩ := rest a (runProduction x st).2
    exact ⟨pool'.trans pool, fun e ran => (failed e ran).trans cache, returned⟩

end RecordsVerdict

section Call

variable (verifySignature : ByteString → ByteString → Hash → Bool)

/-- Every verdict of the cache-miss path, negative ones included, is cached before it is
returned, and an `Err` from one of its runs caches nothing. -/
theorem verifyUncached_recordsVerdict (cacheKey : UInt64) (scriptSig scriptPubkey : ByteString)
    (witness : Option ByteString) (flags : UInt32) (stack : Stack) :
    RecordsVerdict cacheKey
      (verifyUncached verifySignature cacheKey scriptSig scriptPubkey witness flags stack) := by
  unfold verifyUncached
  refine .bind (.of_evalScriptProduction _ _ _ _) fun sig => ?_
  split
  · exact .of_cacheAndReturn _
  refine .bind (.of_evalScriptProduction _ _ _ _) fun pub => ?_
  split
  · exact .of_cacheAndReturn _
  split
  · exact .bind (.of_evalScriptProduction _ _ _ _) fun wit => by
      split <;> exact .of_cacheAndReturn _
  · exact .of_cacheAndReturn _

/-- Taking a stack from the pool drops the pool's front, or does nothing to an empty pool. -/
theorem runProduction_getPooledStack (st : ProductionState) :
    runProduction getPooledStack st = (.ok [], { st with stackPool := st.stackPool.tail }) := by
  obtain ⟨scripts, hashes, pool⟩ := st
  cases pool <;> rfl

/-! ### The pool invariant -/

/-- The stack pool holds at most 10 stacks, all of them empty. -/
structure PoolBounded (st : ProductionState) : Prop where
  length_le : st.stackPool.length ≤ 10
  cleared : ∀ stack ∈ st.stackPool, stack = []

theorem PoolBounded.initial : PoolBounded ProductionState.initial :=
  ⟨by decide, fun _ member => nomatch member⟩

theorem PoolBounded.tail {st : ProductionState} (bounded : PoolBounded st) :
    PoolBounded { st with stackPool := st.stackPool.tail } :=
  ⟨((List.length_tail _).trans_le (Nat.sub_le _ _)).trans bounded.length_le,
    fun stack member => bounded.cleared stack (List.mem_of_mem_tail member)⟩

theorem PoolBounded.of_stackPool_eq {st st' : ProductionState} (same : st'.stackPool = st.stackPool)
    (bounded : PoolBounded st) : PoolBounded st' :=
  ⟨same ▸ bounded.length_le, same ▸ bounded.cleared⟩

theorem PoolBounded.returned {st : ProductionState} (bounded : PoolBounded st) :
    PoolBounded (runProduction returnPooledStack st).2 := by
  show PoolBounded (if st.stackPool.length < 10 then _ else st)
  split
  · refine ⟨by simp only [List.length_append, List.length_singleton]; omega, fun stack member => ?_⟩
    rcases List.mem_append.mp member with old | last
    · exact bounded.cleared stack old
    · exact List.mem_singleton.mp last
  · exact bounded

/-! ### One call -/

/-- What a call, started from `st`, leaves in `outcome`: a verdict it returns is cached under
`cacheKey`; a failure leaves the script cache as it was and the pool without its front; and a
bounded pool stays bounded. -/
structure CallEffect (cacheKey : UInt64) (st : ProductionState)
    (outcome : Except Abort Bool × ProductionState) : Prop where
  cached : ∀ verdict, outcome.1 = .ok verdict → outcome.2.scriptCache.peek cacheKey = some verdict
  failed : ∀ e, outcome.1 = .error e →
    outcome.2.scriptCache = st.scriptCache ∧ outcome.2.stackPool = st.stackPool.tail
  bounded : PoolBounded st → PoolBounded outcome.2

/-- Running a computation that records its verdict on a stack taken from the pool, then returning
the stack, has the effect of a call. -/
theorem callEffect_of_recordsVerdict {cacheKey : UInt64} {uncached : Production Bool}
    (records : RecordsVerdict cacheKey uncached) (st : ProductionState) :
    CallEffect cacheKey st (runProduction (uncached >>= fun result =>
      returnPooledStack >>= fun _ => pure result) { st with stackPool := st.stackPool.tail }) := by
  obtain ⟨pool, failed, returned⟩ := records { st with stackPool := st.stackPool.tail }
  cases result : (runProduction uncached { st with stackPool := st.stackPool.tail }).1 with
  | error e =>
    rw [runProduction_bind_error (Prod.ext result rfl)]
    exact ⟨fun _ ok => (nomatch ok), fun _ _ => ⟨failed e result, pool⟩,
      fun bounded => bounded.tail.of_stackPool_eq pool⟩
  | ok verdict =>
    rw [runProduction_bind_ok (Prod.ext result rfl)]
    refine ⟨fun _ ok => ?_, fun _ failure => (nomatch failure),
      fun bounded => (bounded.tail.of_stackPool_eq pool).returned⟩
    cases ok
    show (if _ then _ else _ : ProductionState).scriptCache.peek _ = _
    split <;> exact returned verdict result

variable (scriptCacheKey : ByteString → ByteString → Option ByteString → UInt32 → UInt64)

/-- The production `verify_script` on a call's arguments. -/
def productionVerify (call : ScriptCall) : Production Bool :=
  verifyScriptProduction verifySignature scriptCacheKey call.scriptSig call.scriptPubkey
    call.witness call.flags

/-- A call whose key is cached returns the cached verdict and changes nothing. -/
theorem productionVerify_of_cached {call : ScriptCall} {st : ProductionState} {verdict : Bool}
    (cached : st.scriptCache.peek (CacheTransparency.callKey scriptCacheKey call) = some verdict) :
    runProduction (productionVerify verifySignature scriptCacheKey call) st = (.ok verdict, st) := by
  unfold productionVerify verifyScriptProduction
  rw [runProduction_bind_ok (rfl : runProduction get st = (.ok st, st))]
  simp only [CacheTransparency.callKey] at cached
  simp only [cached]
  rfl

/-- A call whose key is not cached runs the cache-miss path on a stack taken from the pool, and
returns the stack afterwards. -/
theorem productionVerify_of_miss {call : ScriptCall} {st : ProductionState}
    (missed : st.scriptCache.peek (CacheTransparency.callKey scriptCacheKey call) = none) :
    runProduction (productionVerify verifySignature scriptCacheKey call) st =
      runProduction (verifyUncached verifySignature (CacheTransparency.callKey scriptCacheKey call)
          call.scriptSig call.scriptPubkey call.witness call.flags [] >>= fun result =>
        returnPooledStack >>= fun _ => pure result) { st with stackPool := st.stackPool.tail } := by
  unfold productionVerify verifyScriptProduction
  rw [runProduction_bind_ok (rfl : runProduction get st = (.ok st, st))]
  simp only [CacheTransparency.callKey] at missed
  simp only [missed]
  exact runProduction_bind_ok (runProduction_getPooledStack st)

theorem productionVerify_callEffect (call : ScriptCall) (st : ProductionState) :
    CallEffect (CacheTransparency.callKey scriptCacheKey call) st
      (runProduction (productionVerify verifySignature scriptCacheKey call) st) := by
  cases found : st.scriptCache.peek (CacheTransparency.callKey scriptCacheKey call) with
  | some verdict =>
    rw [productionVerify_of_cached verifySignature scriptCacheKey found]
    exact ⟨fun _ returned => by cases returned; exact found, fun _ failed => (nomatch failed), id⟩
  | none =>
    rw [productionVerify_of_miss verifySignature scriptCacheKey found]
    exact callEffect_of_recordsVerdict (verifyUncached_recordsVerdict _ _ _ _ _ _ _) st

/-- Over every sequence of calls, the pool stays bounded. -/
theorem runCalls_poolBounded :
    ∀ (calls : List ScriptCall) {st : ProductionState}, PoolBounded st →
      PoolBounded (runCalls verifySignature scriptCacheKey calls st).2
  | [], _, bounded => bounded
  | call :: rest, st, bounded =>
    runCalls_poolBounded rest ((productionVerify_callEffect verifySignature scriptCacheKey call st).bounded
      bounded)

end Call

/-- The production build's caching discipline, from every state and over every sequence of calls.
A call that returns a verdict leaves it cached, so the same call made next returns that verdict
from the cache and leaves the state as it was. A call that fails with `Err` leaves the script
cache as it was and has taken the front stack of the pool without returning it. And from a pool of
at most 10 empty stacks, every sequence of calls leaves a pool of at most 10 empty stacks. -/
theorem production_calls_cache_verdicts
    (verifySignature : ByteString → ByteString → Hash → Bool)
    (scriptCacheKey : ByteString → ByteString → Option ByteString → UInt32 → UInt64) :
    (∀ (call : ScriptCall) (st : ProductionState) (verdict : Bool),
      (runProduction (productionVerify verifySignature scriptCacheKey call) st).1 = .ok verdict →
        runProduction (productionVerify verifySignature scriptCacheKey call)
            (runProduction (productionVerify verifySignature scriptCacheKey call) st).2 =
          (.ok verdict, (runProduction (productionVerify verifySignature scriptCacheKey call) st).2)) ∧
    (∀ (call : ScriptCall) (st : ProductionState) (e : Abort),
      (runProduction (productionVerify verifySignature scriptCacheKey call) st).1 = .error e →
        (runProduction (productionVerify verifySignature scriptCacheKey call) st).2.scriptCache =
            st.scriptCache ∧
          (runProduction (productionVerify verifySignature scriptCacheKey call) st).2.stackPool =
            st.stackPool.tail) ∧
    ∀ (calls : List ScriptCall) (st : ProductionState), PoolBounded st →
      PoolBounded (runCalls verifySignature scriptCacheKey calls st).2 :=
  ⟨fun call st verdict returned => productionVerify_of_cached verifySignature scriptCacheKey
      ((productionVerify_callEffect verifySignature scriptCacheKey call st).cached verdict returned),
    fun call st e failed => (productionVerify_callEffect verifySignature scriptCacheKey call st).failed
      e failed,
    fun calls _ bounded => runCalls_poolBounded verifySignature scriptCacheKey calls bounded⟩

/-- `OP_1` against `OP_1 OP_EQUAL` verifies from start-up; made again, it is answered from the
cache; and two such calls leave the pool bounded. -/
theorem one_equals_one_repeated_from_cache :
    runProduction (productionVerify (fun _ _ _ => false) (fun _ _ _ _ => 0)
        CacheTransparency.oneEqualsOne)
      (runProduction (productionVerify (fun _ _ _ => false) (fun _ _ _ _ => 0)
        CacheTransparency.oneEqualsOne) ProductionState.initial).2 =
      (.ok true, (runProduction (productionVerify (fun _ _ _ => false) (fun _ _ _ _ => 0)
        CacheTransparency.oneEqualsOne) ProductionState.initial).2) ∧
    PoolBounded (runCalls (fun _ _ _ => false) (fun _ _ _ _ => 0)
      [CacheTransparency.oneEqualsOne, CacheTransparency.oneEqualsOne] ProductionState.initial).2 :=
  ⟨(production_calls_cache_verdicts _ _).1 _ _ true rfl,
    (production_calls_cache_verdicts _ _).2.2 _ _ PoolBounded.initial⟩

/-! ### Production runs stay within bounds -/

/-- Every value `x` returns, from any state, satisfies `P`. -/
def Ensures {α : Type} (P : α → Prop) (x : Production α) : Prop :=
  ∀ st a, (runProduction x st).1 = .ok a → P a

namespace Ensures

variable {α β : Type} {P : α → Prop} {Q : β → Prop}

theorem of_pure {a : α} (holds : P a) : Ensures P (pure a) :=
  fun _ _ returned => by cases returned; exact holds

theorem of_throw (e : Abort) : Ensures P (throwThe Abort e) := fun _ _ failed => (nomatch failed)

theorem bind {x : Production α} {f : α → Production β} (first : Ensures P x)
    (rest : ∀ a, P a → Ensures Q (f a)) : Ensures Q (x >>= f) := by
  intro st b returned
  cases result : (runProduction x st).1 with
  | error e => rw [runProduction_bind_error (Prod.ext result rfl)] at returned; cases returned
  | ok a =>
    rw [runProduction_bind_ok (Prod.ext result rfl)] at returned
    exact rest a (first st a result) _ _ returned

theorem get_bind {f : ProductionState → Production β} (rest : ∀ st, Ensures Q (f st)) :
    Ensures Q (get >>= f) :=
  fun st => rest st st

/-- A stack property every opcode keeps on the stacks the loop lets it run on is kept by the whole
loop, whatever the state. -/
theorem loop {exec : UInt8 → Stack → Production (Bool × Stack)} {Inv : Stack → Prop}
    (step : ∀ opcode stack, stack.length ≤ maxStackSize → Inv stack →
      Ensures (fun r => Inv r.2) (exec opcode stack)) :
    ∀ opCount script stack, Inv stack → Ensures (fun r => Inv r.2) (evalLoop exec opCount script stack)
  | _, [], _, holds => of_pure holds
  | opCount, opcode :: rest, stack, holds => by
    simp only [evalLoop]
    split
    · exact of_throw _
    split
    · exact of_throw _
    rename_i shallow
    refine bind (step opcode stack (Nat.le_of_not_lt shallow) holds) fun result kept => ?_
    split
    · exact loop step _ rest _ kept
    · exact of_pure kept

end Ensures

open ScriptInvariants

/-- A production hash arm replaces the top item by one of 20 or 32 bytes: a cached value is pushed
only at the length its opcode produces, and anything else is recomputed. -/
theorem executeHashProduction_withinBounds (opHash160 : Bool) {stack : Stack}
    (bounded : WithinBounds stack) :
    Ensures (fun r => WithinBounds r.2) (executeHashProduction opHash160 stack) := by
  unfold executeHashProduction
  split
  · rename_i item rest
    have replaced : ∀ hashed : ByteString, hashed.length ≤ 32 → WithinBounds (hashed :: rest) :=
      fun _ short => ⟨bounded.depth_le, shortItems_cons.mpr
        ⟨short, (shortItems_cons.mp bounded.items_short).2⟩⟩
    have missed : Ensures (fun r => WithinBounds r.2)
        (hashMiss opHash160 (computeHashCacheKey item opHash160) item rest) :=
      fun _ _ returned => by
        cases returned
        exact replaced _ (by cases opHash160 <;> simp [hashOpResult])
    refine .get_bind fun st => ?_
    split
    · rename_i cached _
      by_cases fits : cached.length = if opHash160 then 20 else 32
      · rw [if_pos fits]
        exact .of_pure (replaced _ (by rw [fits]; split <;> decide))
      · rw [if_neg fits]
        exact missed
    · exact missed
  · exact .of_pure bounded

/-- Every production opcode run on a stack the loop allows, from any state, leaves a stack within
bounds. -/
theorem executeOpcodeProduction_withinBounds
    (verifySignature : ByteString → ByteString → Hash → Bool) (opcode : UInt8) (flags : UInt32)
    {stack : Stack} (shallow : stack.length ≤ maxStackSize) (bounded : WithinBounds stack) :
    Ensures (fun r => WithinBounds r.2)
      (executeOpcodeProduction verifySignature opcode stack flags) := by
  unfold executeOpcodeProduction
  split
  · exact executeHashProduction_withinBounds true bounded
  · exact executeHashProduction_withinBounds false bounded
  · exact .of_pure (executeOp_withinBounds verifySignature _ shallow bounded)

/-- The production hash cache cannot break the interpreter's bounds. For every verifier, script and
flags, from every stack within bounds and every state, whatever the hash cache holds, a run of the
production `eval_script` that returns ends on a stack within bounds: at most `MAX_STACK_SIZE + 3`
items of at most 32 bytes each. -/
theorem production_eval_script_stays_within_bounds
    (verifySignature : ByteString → ByteString → Hash → Bool) (script : ByteString) (flags : UInt32)
    {stack : Stack} (bounded : WithinBounds stack) :
    ∀ (st : ProductionState) (r : Bool × Stack),
      (runProduction (evalScriptProduction verifySignature script stack flags) st).1 = .ok r →
        WithinBounds r.2 :=
  Ensures.loop (fun opcode _ shallow bounded =>
    executeOpcodeProduction_withinBounds verifySignature opcode flags shallow bounded) 0 script
    stack bounded

/-- `OP_1 OP_DUP` in the production build, from the empty stack at start-up, returns `Ok(false)`
on two one-byte items, which are within bounds. -/
theorem one_dup_production_stays_within_bounds :
    WithinBounds [] ∧
      (runProduction (evalScriptProduction (fun _ _ _ => false) [0x51, 0x76] [] 0)
        ProductionState.initial).1 = .ok (false, [[0x01], [0x01]]) ∧
      WithinBounds ([[0x01], [0x01]] : Stack) :=
  have runs : (runProduction (evalScriptProduction (fun _ _ _ => false) [0x51, 0x76] [] 0)
      ProductionState.initial).1 = .ok (false, [[0x01], [0x01]]) := rfl
  ⟨withinBounds_nil, runs, production_eval_script_stays_within_bounds (fun _ _ _ => false)
    [0x51, 0x76] 0 withinBounds_nil ProductionState.initial (false, [[0x01], [0x01]]) runs⟩

end BllvmConsensus.ProductionEffects
