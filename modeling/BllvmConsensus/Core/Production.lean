/-
Module: BllvmConsensus.Core.Production
Layer: Core
Purpose: The `production` build of `script.rs`. `verify_script` consults and fills a script-result
  LRU cache, `OP_HASH160` and `OP_HASH256` consult and fill a hash-result LRU cache, and the
  stacks `verify_script` runs on come from a pool of reusable stacks. All three are process-wide, so
  the model threads them through a state monad; the interpreter loop is the same `evalLoop`.
Imports: BllvmConsensus.Core.Script
Trusted boundary: `compute_script_cache_key` hashes with the standard library's `DefaultHasher`,
  outside the crate; it is the parameter `scriptCacheKey`. `LruCache` follows the `lru` crate's
  documented `peek` and `put`.
Main exports: LruCache, ProductionState, Production, runProduction, computeHashCacheKey,
  executeOpcodeProduction, evalScriptProduction, verifyScriptProduction, ScriptCall, runCalls
-/
import BllvmConsensus.Core.Script

namespace BllvmConsensus

/-!
A call that fails with `Err` keeps whatever it wrote to the hash cache, so the state monad sits
under the error monad: `ExceptT Abort (StateM ProductionState)`. A pooled stack is cleared when it
is taken and when it is returned, so the pool only ever holds empty stacks.

[SPEC src/src/script.rs:17-298, 400-484]
-/

/-- An `lru::LruCache` of positive capacity: its entries, most recently used first, never more than
the capacity. -/
structure LruCache (κ ν : Type) where
  capacity : Nat
  entries : List (κ × ν)
  capacity_pos : 0 < capacity
  bounded : entries.length ≤ capacity

namespace LruCache

variable {κ ν : Type} [DecidableEq κ]

/-- `LruCache::new(NonZeroUsize::new(capacity).unwrap())`. -/
def new (capacity : Nat) (positive : 0 < capacity) : LruCache κ ν :=
  ⟨capacity, [], positive, Nat.zero_le _⟩

/-- `peek`: the value under `key`, without marking it used. -/
def peek (cache : LruCache κ ν) (key : κ) : Option ν :=
  (cache.entries.find? (·.1 = key)).map (·.2)

/-- `put`: the entry for `key` becomes `value` and the most recently used. A new key in a full
cache evicts the least recently used entry. -/
def put (cache : LruCache κ ν) (key : κ) (value : ν) : LruCache κ ν where
  capacity := cache.capacity
  entries := (key, value) :: (cache.entries.filter (·.1 ≠ key)).take (cache.capacity - 1)
  capacity_pos := cache.capacity_pos
  bounded := by
    have := cache.capacity_pos
    simp only [List.length_cons, List.length_take]
    omega

/-- A value `peek` returns is stored under its key. -/
theorem mem_of_peek {cache : LruCache κ ν} {key : κ} {value : ν} (found : cache.peek key = some value) :
    (key, value) ∈ cache.entries := by
  obtain ⟨entry, first, rfl⟩ := Option.map_eq_some'.mp found
  have sameKey : entry.1 = key := by simpa using List.find?_some first
  exact sameKey ▸ List.mem_of_find?_eq_some first

/-- After a `put`, every entry is the new one or an entry from before. -/
theorem mem_put {cache : LruCache κ ν} {key : κ} {value : ν} {entry : κ × ν}
    (member : entry ∈ (cache.put key value).entries) : entry = (key, value) ∨ entry ∈ cache.entries := by
  rcases List.mem_cons.mp member with rfl | later
  · exact .inl rfl
  · exact .inr (List.mem_of_mem_filter (List.mem_of_mem_take later))

/-- After a `put`, `peek` finds the value just put. -/
@[simp] theorem peek_put_self (cache : LruCache κ ν) (key : κ) (value : ν) :
    (cache.put key value).peek key = some value := by
  simp [peek, put]

end LruCache

/-- The process-wide state of the production build: `SCRIPT_CACHE`, `HASH_CACHE` and
`STACK_POOL`. -/
structure ProductionState where
  scriptCache : LruCache UInt64 Bool
  hashCache : LruCache Hash ByteString
  stackPool : List Stack

/-- The state at start-up: a script cache of 10,000 entries and a hash cache of 5,000, both empty,
and no pooled stack. -/
def ProductionState.initial : ProductionState :=
  ⟨LruCache.new 10000 (by decide), LruCache.new 5000 (by decide), []⟩

/-- A computation of the production build. -/
abbrev Production (α : Type) := ExceptT Abort (StateM ProductionState) α

/-- Run a production computation from a state: its result and the state it leaves. -/
def runProduction {α : Type} (x : Production α) (st : ProductionState) :
    Except Abort α × ProductionState :=
  x.run.run st

section Run

variable {α β : Type}

@[simp] theorem runProduction_pure (a : α) (st : ProductionState) :
    runProduction (pure a) st = (.ok a, st) := rfl

@[simp] theorem runProduction_throw (e : Abort) (st : ProductionState) :
    runProduction (throwThe Abort e : Production α) st = (.error e, st) := rfl

theorem runProduction_bind_ok {x : Production α} {f : α → Production β} {st st' : ProductionState}
    {a : α} (first : runProduction x st = (.ok a, st')) :
    runProduction (x >>= f) st = runProduction (f a) st' := by
  unfold runProduction at *
  simp only [ExceptT.run_bind, StateT.run_bind, first]
  rfl

theorem runProduction_bind_error {x : Production α} {f : α → Production β}
    {st st' : ProductionState} {e : Abort} (first : runProduction x st = (.error e, st')) :
    runProduction (x >>= f) st = (.error e, st') := by
  unfold runProduction at *
  simp only [ExceptT.run_bind, StateT.run_bind, first]
  rfl

end Run

/-- `get_pooled_stack`: the front of the pool, cleared, or a new stack when the pool is empty. -/
def getPooledStack : Production Stack :=
  get >>= fun st =>
    match st.stackPool with
    | _ :: rest => set { st with stackPool := rest } >>= fun _ => pure []
    | [] => pure []

/-- `return_pooled_stack`: the stack is cleared and pooled, unless the pool already holds 10. -/
def returnPooledStack : Production Unit :=
  modify fun st =>
    if st.stackPool.length < 10 then { st with stackPool := st.stackPool ++ [[]] } else st

/-- `compute_hash_cache_key`: the SHA-256 of the input followed by the opcode byte, `0xa9` for
`OP_HASH160` and `0xaa` for `OP_HASH256`. -/
def computeHashCacheKey (input : ByteString) (opHash160 : Bool) : Hash :=
  ⟨Digest.sha256 (input ++ [if opHash160 then 0xa9 else 0xaa]), Digest.sha256_length _⟩

/-- What the hash opcode computes: `RIPEMD160(SHA256(x))` or `SHA256(SHA256(x))`. -/
def hashOpResult : Bool → ByteString → ByteString
  | true, item => hash160 item
  | false, item => hash256 item

/-- A hash-cache miss: compute the hash, cache it under the key, and push it. -/
def hashMiss (opHash160 : Bool) (cacheKey : Hash) (item : ByteString) (rest : Stack) :
    Production (Bool × Stack) :=
  modify (fun st => { st with hashCache := st.hashCache.put cacheKey (hashOpResult opHash160 item) })
    >>= fun _ => pure (true, hashOpResult opHash160 item :: rest)

/-- The production arms of `OP_HASH160` and `OP_HASH256`. After the pop, a cached value of the
right length (20 or 32 bytes) is pushed as it is; otherwise the hash is computed and cached. -/
def executeHashProduction (opHash160 : Bool) (stack : Stack) : Production (Bool × Stack) :=
  match stack with
  | item :: rest =>
      let cacheKey := computeHashCacheKey item opHash160
      get >>= fun st =>
        match st.hashCache.peek cacheKey with
        | some cached =>
            if cached.length = (if opHash160 then 20 else 32) then pure (true, cached :: rest)
            else hashMiss opHash160 cacheKey item rest
        | none => hashMiss opHash160 cacheKey item rest
  | [] => pure (false, stack)

section Interpreter

variable (verifySignature : ByteString → ByteString → Hash → Bool)

/-- `execute_opcode` of the production build: the two hash arms go through the hash cache, and
every other arm is the non-production one. -/
def executeOpcodeProduction (opcode : UInt8) (stack : Stack) (_flags : UInt32) :
    Production (Bool × Stack) :=
  match Opcode.ofByte opcode with
  | .hash160 => executeHashProduction true stack
  | .hash256 => executeHashProduction false stack
  | op => pure (executeOp verifySignature op stack)

/-- `eval_script` of the production build: the same loop over the production opcodes. -/
def evalScriptProduction (script : ByteString) (stack : Stack) (flags : UInt32) :
    Production (Bool × Stack) :=
  evalLoop (fun opcode stack => executeOpcodeProduction verifySignature opcode stack flags) 0 script
    stack

/-- `cache.put(cache_key, res)`, then `res`. -/
def cacheAndReturn (cacheKey : UInt64) (result : Bool) : Production Bool :=
  modify (fun st => { st with scriptCache := st.scriptCache.put cacheKey result }) >>= fun _ =>
    pure result

/-- The cache-miss path of the production `verify_script`. Its three `eval_script` runs share one
stack, and every verdict, negative ones included, is cached before it is returned. An `Err` from a
run propagates with `?` and caches nothing. -/
def verifyUncached (cacheKey : UInt64) (scriptSig scriptPubkey : ByteString)
    (witness : Option ByteString) (flags : UInt32) (stack : Stack) : Production Bool :=
  evalScriptProduction verifySignature scriptSig stack flags >>= fun sig =>
    if !sig.1 then cacheAndReturn cacheKey false
    else
      evalScriptProduction verifySignature scriptPubkey sig.2 flags >>= fun pub =>
        if !pub.1 then cacheAndReturn cacheKey false
        else
          match witness with
          | some w =>
              evalScriptProduction verifySignature w pub.2 flags >>= fun wit =>
                if !wit.1 then cacheAndReturn cacheKey false
                else cacheAndReturn cacheKey (finalStackCheck wit.2)
          | none => cacheAndReturn cacheKey (finalStackCheck pub.2)

variable (scriptCacheKey : ByteString → ByteString → Option ByteString → UInt32 → UInt64)

/-- `verify_script` of the production build. A cached verdict under the call's key is returned at
once. Otherwise the call runs on a pooled stack, caches its verdict and returns the stack to the
pool; a call that fails with `Err` drops its stack. -/
def verifyScriptProduction (scriptSig scriptPubkey : ByteString) (witness : Option ByteString)
    (flags : UInt32) : Production Bool :=
  let cacheKey := scriptCacheKey scriptSig scriptPubkey witness flags
  get >>= fun st =>
    match st.scriptCache.peek cacheKey with
    | some cachedResult => pure cachedResult
    | none =>
        getPooledStack >>= fun stack =>
          verifyUncached verifySignature cacheKey scriptSig scriptPubkey witness flags stack >>=
            fun result => returnPooledStack >>= fun _ => pure result

/-- The arguments of one `verify_script` call. -/
structure ScriptCall where
  scriptSig : ByteString
  scriptPubkey : ByteString
  witness : Option ByteString
  flags : UInt32
deriving DecidableEq, Repr

/-- A sequence of production `verify_script` calls sharing the caches and the pool: the `Result` of
each call, and the state after the last one. -/
def runCalls : List ScriptCall → ProductionState → List (Except Abort Bool) × ProductionState
  | [], st => ([], st)
  | call :: rest, st =>
      let first := runProduction (verifyScriptProduction verifySignature scriptCacheKey
        call.scriptSig call.scriptPubkey call.witness call.flags) st
      let others := runCalls rest first.2
      (first.1 :: others.1, others.2)

end Interpreter

end BllvmConsensus
