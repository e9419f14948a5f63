import Jevmalloc.Arena.ExtentHooks
import Jevmalloc.Ctl.Process

set_option autoImplicit false

namespace Jevmalloc

open Interaction Bytes

structure Arena where
  index : Nat
  owned : Bool
deriving DecidableEq, Repr

structure ArenaDestroyError where
  error : Error
  arena : Arena

inductive Dss where
  | disabled
  | primary
  | secondary
deriving DecidableEq, Repr

def Dss.word : Dss → List UInt8
  | .disabled => utf8 "disabled"
  | .primary => utf8 "primary"
  | .secondary => utf8 "secondary"

def Dss.asPtr (dss : Dss) : CType.text.Value := some dss.word

def Dss.fromPtr (pointer : CType.text.Value) : Except Error Dss :=
  match pointer with
  | none => .error .badAddress
  | some value =>
      if value = Dss.disabled.word then .ok .disabled
      else if value = Dss.primary.word then .ok .primary
      else if value = Dss.secondary.word then .ok .secondary
      else .error .invalidArgument

def arenaNameLen : Nat := 32

structure HookTable where
  pointer : Hooks.NonNull
  alloc : Bool

def nonNullHooks (pointer : CType.hooks.Value) : Except Error Hooks.NonNull :=
  match Hooks.NonNull.new pointer with
  | some hooks => .ok hooks
  | none => .error .badAddress

namespace ThisThread

def arenaId : Jem Nat := do
  let key ← Keys.threadArena
  let id ← Raw.get linuxTarget key .unsigned
  checked (usizeFrom id)

def setArena (id : Nat) : Jem Nat := do
  let id ← checked (Arena.validatedIndex id)
  let key ← Keys.threadArena
  let previous ← Raw.xchg linuxTarget key .unsigned id
  checked (usizeFrom previous)

end ThisThread

namespace Arena

def fromIndex (index : Nat) : Except Error Arena := do
  let _ ← validatedIndex index
  return ⟨index, false⟩

def fromOwnedIndex (index : Nat) : Except Error Arena := do
  let _ ← validatedIndex index
  return ⟨index, true⟩

def fromCreatedIndex (index : Nat) : Except Error Arena := do
  let index ← usizeFrom index
  let _ ← validatedIndex index
  return ⟨index, true⟩

def create : Jem Arena := do
  let key ← Keys.arenasCreate
  let index ← Raw.get linuxTarget key .unsigned
  checked (fromCreatedIndex index)

def createWithRawExtentHooks (hooks : HookTable) : Jem Arena :=
  if hooks.alloc then do
    let key ← Keys.arenasCreate
    let index ← Raw.update linuxTarget key .hooks hooks.pointer.val .unsigned
    checked (fromCreatedIndex index)
  else throw .invalidArgument

def current : Jem Arena := do
  let index ← ThisThread.arenaId
  checked (fromIndex index)

def lookup (allocation : Hooks.NonNull) : Jem Arena := do
  let key ← Keys.arenasLookup
  let index ← Raw.update linuxTarget key .pointer allocation.val .unsigned
  checked (do fromIndex (← usizeFrom index))

def setCurrent (arena : Arena) : Jem Arena := do
  let previous ← ThisThread.setArena arena.index
  checked (fromIndex previous)

def select (arena : Arena) (key : Key) : Jem Key := substitute key arena.index

def notify (arena : Arena) (key : Key) : Jem Unit := do
  let key ← arena.select key
  Raw.notify linuxTarget key

def decay (arena : Arena) : Jem Unit := do arena.notify (← Keys.arenaDecay)
def purge (arena : Arena) : Jem Unit := do arena.notify (← Keys.arenaPurge)

def trim (arena : Arena) : Jem Unit := do
  arena.decay
  arena.purge

def reset (arena : Arena) : Jem Unit :=
  if arena.owned then do arena.notify (← Keys.arenaReset) else throw .invalidArgument

def name (arena : Arena) : Jem (List UInt8) := do
  let key ← arena.select (← Keys.arenaName)
  Raw.getInPlace linuxTarget key .buffer (List.replicate arenaNameLen 0)

def setName (arena : Arena) (name : List UInt8) : Jem Unit := do
  let key ← arena.select (← Keys.arenaName)
  Raw.set linuxTarget key .text (some name)

def dss (arena : Arena) : Jem Dss := do
  let key ← arena.select (← Keys.arenaDss)
  let dss ← Raw.get linuxTarget key .text
  checked (Dss.fromPtr dss)

def setDss (arena : Arena) (dss : Dss) : Jem Dss := do
  let key ← arena.select (← Keys.arenaDss)
  let resulting ← Raw.xchg linuxTarget key .text dss.asPtr
  checked (Dss.fromPtr resulting)

def dirtyDecay (arena : Arena) : Jem Int := do
  let key ← arena.select (← Keys.arenaDirtyDecay)
  Raw.get linuxTarget key .ssize

def setDirtyDecay (arena : Arena) (decayMs : Int) : Jem Int := do
  let key ← arena.select (← Keys.arenaDirtyDecay)
  Raw.xchg linuxTarget key .ssize decayMs

def muzzyDecay (arena : Arena) : Jem Int := do
  let key ← arena.select (← Keys.arenaMuzzyDecay)
  Raw.get linuxTarget key .ssize

def setMuzzyDecay (arena : Arena) (decayMs : Int) : Jem Int := do
  let key ← arena.select (← Keys.arenaMuzzyDecay)
  Raw.xchg linuxTarget key .ssize decayMs

def retainGrowLimit (arena : Arena) : Jem Nat := do
  let key ← arena.select (← Keys.arenaRetainGrowLimit)
  Raw.get linuxTarget key .size

def setRetainGrowLimit (arena : Arena) (limit : Nat) : Jem Nat := do
  let key ← arena.select (← Keys.arenaRetainGrowLimit)
  Raw.xchg linuxTarget key .size limit

def extentHooks (arena : Arena) : Jem Hooks.NonNull := do
  let key ← arena.select (← Keys.arenaExtentHooks)
  let hooks ← Raw.get linuxTarget key .hooks
  checked (nonNullHooks hooks)

def setRawExtentHooks (arena : Arena) (hooks : HookTable) : Jem Hooks.NonNull :=
  if hooks.alloc then do
    let key ← arena.select (← Keys.arenaExtentHooks)
    let previous ← Raw.xchg linuxTarget key .hooks hooks.pointer.val
    checked (nonNullHooks previous)
  else throw .invalidArgument

-- The methods below change the handle or end its life, so they return it; a
-- handle that goes out of scope is dropped where the source drops it.
def destroy (arena : Arena) : Ctl MallctlResponse (Except Error Unit × Arena) :=
  if arena.owned then do
    match ← (do arena.notify (← Keys.arenaDestroy) : Jem Unit).run with
    | .ok () => return (.ok (), { arena with owned := false })
    | .error error => return (.error error, arena)
  else return (.error .invalidArgument, arena)

def drop (arena : Arena) : Ctl MallctlResponse Unit :=
  if arena.owned then do
    let _ ← arena.destroy
    return ()
  else return ()

def tryDestroy (arena : Arena) : Ctl MallctlResponse (Except ArenaDestroyError Unit) := do
  match ← arena.destroy with
  | (.ok (), arena) => do
      arena.drop
      return .ok ()
  | (.error error, arena) => return .error ⟨error, arena⟩

def intoIndex (arena : Arena) : Ctl MallctlResponse Nat := do
  let arena : Arena := { arena with owned := false }
  arena.drop
  return arena.index

def withCurrent {α : Type} (body : Arena → Jem α) : Jem α := do
  let arena ← current
  ExceptT.mk do
    let result ← (body arena).run
    arena.drop
    return result

end Arena

def ArenaDestroyError.intoParts (failure : ArenaDestroyError) : Error × Arena := (failure.error, failure.arena)
def ArenaDestroyError.drop (failure : ArenaDestroyError) : Ctl MallctlResponse Unit := failure.arena.drop

namespace ThisThread

def trim : Jem Unit := Arena.withCurrent Arena.trim
def purge : Jem Unit := Arena.withCurrent Arena.purge
def decay : Jem Unit := Arena.withCurrent Arena.decay
def setMuzzyDecay (decayMs : Int) : Jem Int := Arena.withCurrent fun arena => arena.setMuzzyDecay decayMs
def getMuzzyDecay : Jem Int := Arena.withCurrent Arena.muzzyDecay
def setDirtyDecay (decayMs : Int) : Jem Int := Arena.withCurrent fun arena => arena.setDirtyDecay decayMs
def getDirtyDecay : Jem Int := Arena.withCurrent Arena.dirtyDecay

end ThisThread

namespace Arenas

def allArenas : Nat := 4096

def select (key : Key) : Jem Key := substitute key allArenas

def notify (key : Key) : Jem Unit := do
  let key ← select key
  Raw.notify linuxTarget key

def purge : Jem Unit := do notify (← Keys.arenaPurge)
def decay : Jem Unit := do notify (← Keys.arenaDecay)

def trim : Jem Unit := do
  decay
  purge

def dss : Jem Dss := do
  let key ← select (← Keys.arenaDss)
  let dss ← Raw.get linuxTarget key .text
  checked (Dss.fromPtr dss)

def setDss (dss : Dss) : Jem Dss := do
  let key ← select (← Keys.arenaDss)
  let resulting ← Raw.xchg linuxTarget key .text dss.asPtr
  checked (Dss.fromPtr resulting)

end Arenas

theorem constructed_iff (index : Nat) (made arena : Arena) :
    (Arena.validatedIndex index >>= fun _ => pure made) = Except.ok arena ↔ index < arenaIndexLimit ∧ arena = made := by
  cases read : Arena.validatedIndex index with
  | ok value =>
      obtain ⟨below, _⟩ := (arena_validated_index_iff index value).mp read
      simp only [bind, Except.bind, pure, Except.pure, Except.ok.injEq, below, true_and]
      exact eq_comm
  | error error =>
      have above : ¬index < arenaIndexLimit := by
        intro below
        rw [(arena_validated_index_iff index index).mpr ⟨below, rfl⟩] at read
        cases read
      simp only [bind, Except.bind, reduceCtorEq, above, false_and]

@[simp] theorem from_index_iff (index : Nat) (arena : Arena) :
    Arena.fromIndex index = .ok arena ↔ index < arenaIndexLimit ∧ arena = ⟨index, false⟩ := constructed_iff index _ arena

@[simp] theorem from_owned_index_iff (index : Nat) (arena : Arena) :
    Arena.fromOwnedIndex index = .ok arena ↔ index < arenaIndexLimit ∧ arena = ⟨index, true⟩ :=
  constructed_iff index _ arena

@[simp] theorem from_created_index_iff (index : Nat) (arena : Arena) :
    Arena.fromCreatedIndex index = .ok arena ↔ index < arenaIndexLimit ∧ arena = ⟨index, true⟩ := by
  rw [Arena.fromCreatedIndex]
  cases read : usizeFrom index with
  | ok value =>
      obtain ⟨_, rfl⟩ := (usize_from_iff index value).mp read
      exact constructed_iff _ _ arena
  | error error =>
      have above : ¬index < arenaIndexLimit := by
        intro below
        rw [usize_from_below arenaIndexLimit index (by decide) below] at read
        cases read
      simp only [bind, Except.bind, reduceCtorEq, above, false_and]

end Jevmalloc
