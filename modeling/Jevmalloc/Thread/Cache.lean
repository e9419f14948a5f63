import Jevmalloc.Ctl.Lifecycle

set_option autoImplicit false

namespace Jevmalloc

open Interaction Bytes

structure ThreadCache where
  index : Nat
  owned : Bool
deriving DecidableEq, Repr

structure ThreadCacheDestroyError where
  error : Error
  cache : ThreadCache

namespace ThreadCache

def create : Jem ThreadCache := do
  let create ← Keys.tcacheCreate
  let _flush ← Keys.tcacheFlush
  let _destroy ← Keys.tcacheDestroy
  let index ← Raw.get linuxTarget create .unsigned
  let index ← checked (usizeFrom index)
  let _ ← checked (validatedIndex index)
  return ⟨index, true⟩

def flush (cache : ThreadCache) : Jem Unit := do
  let key ← Keys.tcacheFlush
  let index ← checked (validatedIndex cache.index)
  Raw.set linuxTarget key .unsigned index

def destroy (cache : ThreadCache) : Ctl MallctlResponse (Except Error Unit × ThreadCache) :=
  if cache.owned then do
    let command : Jem Unit := do
      let key ← Keys.tcacheDestroy
      let index ← checked (validatedIndex cache.index)
      Raw.set linuxTarget key .unsigned index
    match ← command.run with
    | .ok () => return (.ok (), { cache with owned := false })
    | .error error => return (.error error, cache)
  else return (.error .invalidArgument, cache)

def drop (cache : ThreadCache) : Ctl MallctlResponse Unit :=
  if cache.owned then do
    let _ ← cache.destroy
    return ()
  else return ()

def tryDestroy (cache : ThreadCache) : Ctl MallctlResponse (Except ThreadCacheDestroyError Unit) := do
  match ← cache.destroy with
  | (.ok (), cache) => do
      cache.drop
      return .ok ()
  | (.error error, cache) => return .error ⟨error, cache⟩

end ThreadCache

def ThreadCacheDestroyError.intoParts (failure : ThreadCacheDestroyError) : Error × ThreadCache :=
  (failure.error, failure.cache)

def ThreadCacheDestroyError.drop (failure : ThreadCacheDestroyError) : Ctl MallctlResponse Unit := failure.cache.drop

section Commands

variable {G : Type} (translation : String → Key) (rule : Rule G)

theorem command_obeys (control : Control) (index : Nat) (below : index < tcacheIndexLimit) (own : Local G)
    (allowed : ∀ later : Local G, later.ghost = own.ghost →
      rule.pre later ⟨(translation control.name).val, .none, some ⟨.unsigned, index⟩⟩) :
    Obeys (hosted translation linuxTarget rule)
      (Controlled rule control.name ⟨(translation control.name).val, .none, some ⟨.unsigned, index⟩⟩ own)
      (defineKey control.name >>= fun key => checked (ThreadCache.validatedIndex index) >>= fun index =>
        Raw.set linuxTarget key .unsigned index).run own := by
  rw [(tcache_validated_index_iff index index).mpr ⟨below, rfl⟩]
  exact plain_obeys translation rule control.name .none (some ⟨.unsigned, index⟩) own allowed

theorem cache_owned_eta (cache : ThreadCache) (owned : cache.owned = true) : cache = ⟨cache.index, true⟩ := by
  rw [← owned]

theorem cache_destroy_obeys (cache : ThreadCache) (owned : cache.owned = true) (below : cache.index < tcacheIndexLimit)
    (own : Local G)
    (allowed : ∀ later : Local G, later.ghost = own.ghost →
      rule.pre later ⟨(translation Control.tcacheDestroy.name).val, .none, some ⟨.unsigned, cache.index⟩⟩) :
    Obeys (hosted translation linuxTarget rule)
      (fun next value => Controlled rule Control.tcacheDestroy.name
        ⟨(translation Control.tcacheDestroy.name).val, .none, some ⟨.unsigned, cache.index⟩⟩ own next value.1 ∧
          value.2 = ⟨cache.index, !value.1.isOk⟩)
      cache.destroy own := by
  rw [ThreadCache.destroy, if_pos owned]
  apply obeys_bind _ _ _ _ _ own (command_obeys translation rule .tcacheDestroy cache.index below own allowed)
  intro later value called
  cases value with
  | ok value => exact ⟨called, rfl⟩
  | error error => exact ⟨called, cache_owned_eta cache owned⟩

theorem cache_drop_obeys (cache : ThreadCache) (owned : cache.owned = true) (below : cache.index < tcacheIndexLimit)
    (own : Local G)
    (allowed : ∀ later : Local G, later.ghost = own.ghost →
      rule.pre later ⟨(translation Control.tcacheDestroy.name).val, .none, some ⟨.unsigned, cache.index⟩⟩) :
    Obeys (hosted translation linuxTarget rule)
      (fun next _ => ∃ result : Except Error Unit, Controlled rule Control.tcacheDestroy.name
        ⟨(translation Control.tcacheDestroy.name).val, .none, some ⟨.unsigned, cache.index⟩⟩ own next result)
      cache.drop own := by
  rw [ThreadCache.drop, if_pos owned]
  apply obeys_bind _ _ _ _ _ own (cache_destroy_obeys translation rule cache owned below own allowed)
  intro later value called
  exact ⟨value.1, called.1⟩

theorem cache_try_destroy_obeys (cache : ThreadCache) (owned : cache.owned = true) (below : cache.index < tcacheIndexLimit)
    (own : Local G)
    (allowed : ∀ later : Local G, later.ghost = own.ghost →
      rule.pre later ⟨(translation Control.tcacheDestroy.name).val, .none, some ⟨.unsigned, cache.index⟩⟩) :
    Obeys (hosted translation linuxTarget rule)
      (fun next value => ∃ result : Except Error Unit, Controlled rule Control.tcacheDestroy.name
        ⟨(translation Control.tcacheDestroy.name).val, .none, some ⟨.unsigned, cache.index⟩⟩ own next result ∧
          value = result.mapError fun error => ⟨error, cache⟩)
      cache.tryDestroy own := by
  apply obeys_bind _ _ _ _ _ own (cache_destroy_obeys translation rule cache owned below own allowed)
  intro later value destroyed
  obtain ⟨result, after⟩ := value
  obtain ⟨called, handle⟩ := destroyed
  obtain rfl : after = ⟨cache.index, !result.isOk⟩ := handle
  cases result with
  | ok value => exact ⟨.ok value, called, rfl⟩
  | error error => exact ⟨.error error, called, by rw [cache_owned_eta cache owned]; rfl⟩

end Commands

end Jevmalloc
