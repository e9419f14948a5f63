import Mathlib.Logic.Function.Basic
import Jevmalloc.Machine

set_option autoImplicit false

namespace Jevmalloc

namespace Hooks

-- jemalloc's C boolean is an int under cl.exe and Rust's bool elsewhere.
inductive TargetEnv where
  | msvc
  | other
deriving DecidableEq, Repr

def CBool : TargetEnv → Type
  | .msvc => CInt
  | .other => Bool

def fromBool : (env : TargetEnv) → CBool env → Bool
  | .msvc, (value : CInt) => value != 0#32
  | .other, (value : Bool) => value

def toBool : (env : TargetEnv) → Bool → CBool env
  | .msvc, true => (1#32 : CInt)
  | .msvc, false => (0#32 : CInt)
  | .other, value => value

def failure (env : TargetEnv) : CBool env := toBool env true

@[simp] theorem from_to_bool (env : TargetEnv) (value : Bool) : fromBool env (toBool env value) = value := by
  cases env <;> cases value <;> rfl

abbrev NonNull := { address : Nat // address ≠ 0 }

def NonNull.new (address : Nat) : Option NonNull :=
  if present : address ≠ 0 then some ⟨address, present⟩ else none

structure ExtentAlloc where
  address : Option NonNull
  size : Nat
  alignment : Nat
  zeroed : Bool
  committed : Bool
  arena : Nat

structure ExtentAllocation where
  address : NonNull
  zeroed : Bool
  committed : Bool

structure Extent where
  address : NonNull
  size : Nat
  committed : Bool
  arena : Nat

structure ExtentRange where
  address : NonNull
  size : Nat
  offset : Nat
  length : Nat
  arena : Nat

structure ExtentSplit where
  address : NonNull
  size : Nat
  firstSize : Nat
  secondSize : Nat
  committed : Bool
  arena : Nat

structure ExtentMerge where
  firstAddress : NonNull
  firstSize : Nat
  secondAddress : NonNull
  secondSize : Nat
  committed : Bool
  arena : Nat

inductive ExtentHookResult where
  | success
  | failure
deriving DecidableEq, Repr

-- A callback may do anything to the world W; what it may read is its table's
-- state and the request.
abbrev Callback (State W Request Answer : Type) := State → Request → W → Answer × W

structure ExtentCallbacks (State W : Type) where
  alloc : Option (Callback State W ExtentAlloc (Option ExtentAllocation))
  dalloc : Option (Callback State W Extent ExtentHookResult)
  destroy : Option (Callback State W Extent Unit)
  commit : Option (Callback State W ExtentRange ExtentHookResult)
  decommit : Option (Callback State W ExtentRange ExtentHookResult)
  purgeLazy : Option (Callback State W ExtentRange ExtentHookResult)
  purgeForced : Option (Callback State W ExtentRange ExtentHookResult)
  split : Option (Callback State W ExtentSplit ExtentHookResult)
  merge : Option (Callback State W ExtentMerge ExtentHookResult)

structure Body (State W : Type) where
  callbacks : ExtentCallbacks State W
  state : State

abbrev Statics (State W : Type) := Nat → Option (Body State W)

structure Machine (env : TargetEnv) (W : Type) where
  world : W
  cells : Nat → CBool env

inductive Fault where
  | undefined
  | panic

abbrev Hooked (env : TargetEnv) (State W : Type) := ReaderT (Statics State W) (StateT (Machine env W) (Except Fault))

variable {State W : Type}

def fromRaw (env : TargetEnv) (raw : Nat) : Hooked env State W (Body State W) := do
  match (← read) raw with
  | some hooks => return hooks
  | none => throw .undefined

def address (env : TargetEnv) (address : Nat) : Hooked env State W NonNull :=
  if present : address ≠ 0 then return ⟨address, present⟩ else throw .undefined

def readBool (env : TargetEnv) (pointer : Nat) : Hooked env State W Bool := do
  return fromBool env ((← get).cells pointer)

def writeBool (env : TargetEnv) (pointer : Nat) (state : Bool) : Hooked env State W Unit :=
  modify fun machine => { machine with cells := Function.update machine.cells pointer (toBool env state) }

def invoke {Request Answer : Type} (env : TargetEnv) (callback : Callback State W Request Answer) (state : State)
    (request : Request) : Hooked env State W Answer :=
  modifyGet fun machine =>
    let (answer, world) := callback state request machine.world
    (answer, { machine with world := world })

def debugAssert (env : TargetEnv) (debugAssertions condition : Bool) : Hooked env State W Unit :=
  if debugAssertions && !condition then throw .panic else return ()

section Trampolines

variable (env : TargetEnv)

def alloc (debugAssertions : Bool) (raw newAddress size alignment zeroed committed arena : Nat) :
    Hooked env State W Nat := do
  let hooks ← fromRaw env raw
  match hooks.callbacks.alloc with
  | none => return 0
  | some callback =>
      let request : ExtentAlloc :=
        { address := NonNull.new newAddress, size := size, alignment := alignment, zeroed := ← readBool env zeroed,
          committed := ← readBool env committed, arena := arena }
      match ← invoke env callback hooks.state request with
      | none => return 0
      | some allocation =>
          debugAssert env debugAssertions (request.address.all fun address => address == allocation.address)
          debugAssert env debugAssertions (!request.zeroed || allocation.zeroed)
          debugAssert env debugAssertions (!request.committed || allocation.committed)
          writeBool env zeroed allocation.zeroed
          writeBool env committed allocation.committed
          return allocation.address.val

def dalloc (raw address size : Nat) (committed : CBool env) (arena : Nat) : Hooked env State W (CBool env) := do
  let hooks ← fromRaw env raw
  match hooks.callbacks.dalloc with
  | none => return failure env
  | some callback =>
      let extent : Extent :=
        { address := ← Hooks.address env address, size := size, committed := fromBool env committed, arena := arena }
      let result ← invoke env callback hooks.state extent
      return toBool env (result == .failure)

def destroy (raw address size : Nat) (committed : CBool env) (arena : Nat) : Hooked env State W Unit := do
  let hooks ← fromRaw env raw
  match hooks.callbacks.destroy with
  | none => return ()
  | some callback =>
      let extent : Extent :=
        { address := ← Hooks.address env address, size := size, committed := fromBool env committed, arena := arena }
      invoke env callback hooks.state extent

inductive RangeKind where
  | commit
  | decommit
  | purgeLazy
  | purgeForced

def ExtentCallbacks.ofKind (callbacks : ExtentCallbacks State W) :
    RangeKind → Option (Callback State W ExtentRange ExtentHookResult)
  | .commit => callbacks.commit
  | .decommit => callbacks.decommit
  | .purgeLazy => callbacks.purgeLazy
  | .purgeForced => callbacks.purgeForced

def range (raw address size offset length arena : Nat) (kind : RangeKind) : Hooked env State W (CBool env) := do
  let hooks ← fromRaw env raw
  match hooks.callbacks.ofKind kind with
  | none => return failure env
  | some callback =>
      let range : ExtentRange :=
        { address := ← Hooks.address env address, size := size, offset := offset, length := length, arena := arena }
      let result ← invoke env callback hooks.state range
      return toBool env (result == .failure)

def commit (raw address size offset length arena : Nat) : Hooked env State W (CBool env) :=
  range env raw address size offset length arena .commit

def decommit (raw address size offset length arena : Nat) : Hooked env State W (CBool env) :=
  range env raw address size offset length arena .decommit

def purgeLazy (raw address size offset length arena : Nat) : Hooked env State W (CBool env) :=
  range env raw address size offset length arena .purgeLazy

def purgeForced (raw address size offset length arena : Nat) : Hooked env State W (CBool env) :=
  range env raw address size offset length arena .purgeForced

def split (raw address size firstSize secondSize : Nat) (committed : CBool env) (arena : Nat) :
    Hooked env State W (CBool env) := do
  let hooks ← fromRaw env raw
  match hooks.callbacks.split with
  | none => return failure env
  | some callback =>
      let split : ExtentSplit :=
        { address := ← Hooks.address env address, size := size, firstSize := firstSize, secondSize := secondSize,
          committed := fromBool env committed, arena := arena }
      let result ← invoke env callback hooks.state split
      return toBool env (result == .failure)

def merge (raw firstAddress firstSize secondAddress secondSize : Nat) (committed : CBool env) (arena : Nat) :
    Hooked env State W (CBool env) := do
  let hooks ← fromRaw env raw
  match hooks.callbacks.merge with
  | none => return failure env
  | some callback =>
      let merge : ExtentMerge :=
        { firstAddress := ← Hooks.address env firstAddress, firstSize := firstSize,
          secondAddress := ← Hooks.address env secondAddress, secondSize := secondSize,
          committed := fromBool env committed, arena := arena }
      let result ← invoke env callback hooks.state merge
      return toBool env (result == .failure)

end Trampolines

section Table

variable (env : TargetEnv) (State W : Type)

abbrev ExtentAllocT := Nat → Nat → Nat → Nat → Nat → Nat → Nat → Hooked env State W Nat
abbrev ExtentDallocT := Nat → Nat → Nat → CBool env → Nat → Hooked env State W (CBool env)
abbrev ExtentDestroyT := Nat → Nat → Nat → CBool env → Nat → Hooked env State W Unit
abbrev ExtentRangeT := Nat → Nat → Nat → Nat → Nat → Nat → Hooked env State W (CBool env)
abbrev ExtentSplitT := Nat → Nat → Nat → Nat → Nat → CBool env → Nat → Hooked env State W (CBool env)
abbrev ExtentMergeT := Nat → Nat → Nat → Nat → Nat → CBool env → Nat → Hooked env State W (CBool env)

structure RawExtentHooks where
  alloc : Option (ExtentAllocT env State W)
  dalloc : Option (ExtentDallocT env State W)
  destroy : Option (ExtentDestroyT env State W)
  commit : Option (ExtentRangeT env State W)
  decommit : Option (ExtentRangeT env State W)
  purgeLazy : Option (ExtentRangeT env State W)
  purgeForced : Option (ExtentRangeT env State W)
  split : Option (ExtentSplitT env State W)
  merge : Option (ExtentMergeT env State W)

structure ExtentHooks extends Body State W where
  raw : RawExtentHooks env State W

end Table

def ExtentHooks.new (env : TargetEnv) (debugAssertions : Bool) (state : State) (callbacks : ExtentCallbacks State W) :
    ExtentHooks env State W where
  callbacks := callbacks
  state := state
  raw :=
    { alloc := callbacks.alloc.map fun _ => Hooks.alloc env debugAssertions
      dalloc := callbacks.dalloc.map fun _ => Hooks.dalloc env
      destroy := callbacks.destroy.map fun _ => Hooks.destroy env
      commit := callbacks.commit.map fun _ => Hooks.commit env
      decommit := callbacks.decommit.map fun _ => Hooks.decommit env
      purgeLazy := callbacks.purgeLazy.map fun _ => Hooks.purgeLazy env
      purgeForced := callbacks.purgeForced.map fun _ => Hooks.purgeForced env
      split := callbacks.split.map fun _ => Hooks.split env
      merge := callbacks.merge.map fun _ => Hooks.merge env }

end Hooks

end Jevmalloc
