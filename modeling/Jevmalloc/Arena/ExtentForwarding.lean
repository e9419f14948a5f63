import Jevmalloc.Arena.ExtentHooks

set_option autoImplicit false

namespace Jevmalloc

namespace Hooks

inductive Slot where
  | alloc | dalloc | destroy | commit | decommit | purgeLazy | purgeForced | split | merge
deriving DecidableEq, Repr

-- A hook call with the arguments of its C signature, in their order. Mapping
-- addresses are non-null and the two in-out pointers are distinct.
inductive HookCall (env : TargetEnv) where
  | alloc (newAddress size alignment zeroed committed arena : Nat) (apart : zeroed ≠ committed)
  | dalloc (address : NonNull) (size : Nat) (committed : CBool env) (arena : Nat)
  | destroy (address : NonNull) (size : Nat) (committed : CBool env) (arena : Nat)
  | commit (address : NonNull) (size offset length arena : Nat)
  | decommit (address : NonNull) (size offset length arena : Nat)
  | purgeLazy (address : NonNull) (size offset length arena : Nat)
  | purgeForced (address : NonNull) (size offset length arena : Nat)
  | split (address : NonNull) (size sizeA sizeB : Nat) (committed : CBool env) (arena : Nat)
  | merge (addressA : NonNull) (sizeA : Nat) (addressB : NonNull) (sizeB : Nat) (committed : CBool env) (arena : Nat)

inductive Request where
  | alloc (request : ExtentAlloc)
  | dalloc (extent : Extent)
  | destroy (extent : Extent)
  | commit (range : ExtentRange)
  | decommit (range : ExtentRange)
  | purgeLazy (range : ExtentRange)
  | purgeForced (range : ExtentRange)
  | split (split : ExtentSplit)
  | merge (merge : ExtentMerge)

inductive Answer where
  | allocation (made : Option ExtentAllocation)
  | result (result : ExtentHookResult)
  | done

inductive Reply (env : TargetEnv) where
  | pointer (address : Nat)
  | flag (value : CBool env)
  | done

variable {State W : Type} {env : TargetEnv}

def ExtentCallbacks.present (callbacks : ExtentCallbacks State W) : Slot → Bool
  | .alloc => callbacks.alloc.isSome
  | .dalloc => callbacks.dalloc.isSome
  | .destroy => callbacks.destroy.isSome
  | .commit => callbacks.commit.isSome
  | .decommit => callbacks.decommit.isSome
  | .purgeLazy => callbacks.purgeLazy.isSome
  | .purgeForced => callbacks.purgeForced.isSome
  | .split => callbacks.split.isSome
  | .merge => callbacks.merge.isSome

def RawExtentHooks.filled (table : RawExtentHooks env State W) : Slot → Bool
  | .alloc => table.alloc.isSome
  | .dalloc => table.dalloc.isSome
  | .destroy => table.destroy.isSome
  | .commit => table.commit.isSome
  | .decommit => table.decommit.isSome
  | .purgeLazy => table.purgeLazy.isSome
  | .purgeForced => table.purgeForced.isSome
  | .split => table.split.isSome
  | .merge => table.merge.isSome

def HookCall.slot : HookCall env → Slot
  | .alloc _ _ _ _ _ _ _ => .alloc
  | .dalloc _ _ _ _ => .dalloc
  | .destroy _ _ _ _ => .destroy
  | .commit _ _ _ _ _ => .commit
  | .decommit _ _ _ _ _ => .decommit
  | .purgeLazy _ _ _ _ _ => .purgeLazy
  | .purgeForced _ _ _ _ _ => .purgeForced
  | .split _ _ _ _ _ _ => .split
  | .merge _ _ _ _ _ _ => .merge

def HookCall.request (cells : Nat → CBool env) : HookCall env → Request
  | .alloc newAddress size alignment zeroed committed arena _ =>
      .alloc ⟨NonNull.new newAddress, size, alignment, fromBool env (cells zeroed), fromBool env (cells committed), arena⟩
  | .dalloc address size committed arena => .dalloc ⟨address, size, fromBool env committed, arena⟩
  | .destroy address size committed arena => .destroy ⟨address, size, fromBool env committed, arena⟩
  | .commit address size offset length arena => .commit ⟨address, size, offset, length, arena⟩
  | .decommit address size offset length arena => .decommit ⟨address, size, offset, length, arena⟩
  | .purgeLazy address size offset length arena => .purgeLazy ⟨address, size, offset, length, arena⟩
  | .purgeForced address size offset length arena => .purgeForced ⟨address, size, offset, length, arena⟩
  | .split address size sizeA sizeB committed arena => .split ⟨address, size, sizeA, sizeB, fromBool env committed, arena⟩
  | .merge addressA sizeA addressB sizeB committed arena =>
      .merge ⟨addressA, sizeA, addressB, sizeB, fromBool env committed, arena⟩

def ExtentCallbacks.serve (callbacks : ExtentCallbacks State W) (state : State) (world : W) : Request → Option (Answer × W)
  | .alloc request => callbacks.alloc.map fun run => (run state request world).map .allocation id
  | .dalloc extent => callbacks.dalloc.map fun run => (run state extent world).map .result id
  | .destroy extent => callbacks.destroy.map fun run => (run state extent world).map (fun _ => .done) id
  | .commit range => callbacks.commit.map fun run => (run state range world).map .result id
  | .decommit range => callbacks.decommit.map fun run => (run state range world).map .result id
  | .purgeLazy range => callbacks.purgeLazy.map fun run => (run state range world).map .result id
  | .purgeForced range => callbacks.purgeForced.map fun run => (run state range world).map .result id
  | .split split => callbacks.split.map fun run => (run state split world).map .result id
  | .merge merge => callbacks.merge.map fun run => (run state merge world).map .result id

def HookCall.trampoline (debugAssertions : Bool) (raw : Nat) : HookCall env → Hooked env State W (Reply env)
  | .alloc newAddress size alignment zeroed committed arena _ =>
      Reply.pointer <$> Hooks.alloc env debugAssertions raw newAddress size alignment zeroed committed arena
  | .dalloc address size committed arena => Reply.flag <$> Hooks.dalloc env raw address.val size committed arena
  | .destroy address size committed arena => (fun _ => Reply.done) <$> Hooks.destroy env raw address.val size committed arena
  | .commit address size offset length arena => Reply.flag <$> Hooks.commit env raw address.val size offset length arena
  | .decommit address size offset length arena => Reply.flag <$> Hooks.decommit env raw address.val size offset length arena
  | .purgeLazy address size offset length arena => Reply.flag <$> Hooks.purgeLazy env raw address.val size offset length arena
  | .purgeForced address size offset length arena =>
      Reply.flag <$> Hooks.purgeForced env raw address.val size offset length arena
  | .split address size sizeA sizeB committed arena =>
      Reply.flag <$> Hooks.split env raw address.val size sizeA sizeB committed arena
  | .merge addressA sizeA addressB sizeB committed arena =>
      Reply.flag <$> Hooks.merge env raw addressA.val sizeA addressB.val sizeB committed arena

-- jemalloc reads the slot of the call from the raw table and, if it is not
-- null, calls it with the table's own address.
def HookCall.viaSlot (table : RawExtentHooks env State W) (raw : Nat) :
    HookCall env → Option (Hooked env State W (Reply env))
  | .alloc newAddress size alignment zeroed committed arena _ =>
      table.alloc.map fun slot => Reply.pointer <$> slot raw newAddress size alignment zeroed committed arena
  | .dalloc address size committed arena =>
      table.dalloc.map fun slot => Reply.flag <$> slot raw address.val size committed arena
  | .destroy address size committed arena =>
      table.destroy.map fun slot => (fun _ => Reply.done) <$> slot raw address.val size committed arena
  | .commit address size offset length arena =>
      table.commit.map fun slot => Reply.flag <$> slot raw address.val size offset length arena
  | .decommit address size offset length arena =>
      table.decommit.map fun slot => Reply.flag <$> slot raw address.val size offset length arena
  | .purgeLazy address size offset length arena =>
      table.purgeLazy.map fun slot => Reply.flag <$> slot raw address.val size offset length arena
  | .purgeForced address size offset length arena =>
      table.purgeForced.map fun slot => Reply.flag <$> slot raw address.val size offset length arena
  | .split address size sizeA sizeB committed arena =>
      table.split.map fun slot => Reply.flag <$> slot raw address.val size sizeA sizeB committed arena
  | .merge addressA sizeA addressB sizeB committed arena =>
      table.merge.map fun slot => Reply.flag <$> slot raw addressA.val sizeA addressB.val sizeB committed arena

theorem new_filled (debugAssertions : Bool) (state : State) (callbacks : ExtentCallbacks State W) (slot : Slot) :
    (ExtentHooks.new env debugAssertions state callbacks).raw.filled slot = callbacks.present slot := by
  cases slot <;> exact Option.isSome_map

theorem via_slot_new (debugAssertions : Bool) (state : State) (callbacks : ExtentCallbacks State W) (raw : Nat)
    (call : HookCall env) :
    call.viaSlot (ExtentHooks.new env debugAssertions state callbacks).raw raw =
      if callbacks.present call.slot then some (call.trampoline debugAssertions raw) else none := by
  have mapped : ∀ {α β γ : Type} (slot : Option α) (f : β) (g : β → γ),
      (slot.map fun _ => f).map g = if slot.isSome then some (g f) else none := by
    intro α β γ slot f g
    cases slot <;> rfl
  cases call <;> exact mapped _ _ _

def HookCall.Answered (call : HookCall env) (answer : Answer) (reply : Reply env) (before after : Nat → CBool env) : Prop :=
  match call, answer, reply with
  | .alloc _ _ _ _ _ _ _, .allocation none, .pointer address => address = 0 ∧ after = before
  | .alloc _ _ _ zeroed committed _ _, .allocation (some made), .pointer address =>
      address = made.address.val ∧ fromBool env (after zeroed) = made.zeroed ∧
        fromBool env (after committed) = made.committed ∧
        ∀ cell, cell ≠ zeroed → cell ≠ committed → after cell = before cell
  | .destroy _ _ _ _, .done, .done => after = before
  | .alloc _ _ _ _ _ _ _, _, _ => False
  | .destroy _ _ _ _, _, _ => False
  | _, .result result, .flag value => (fromBool env value = true ↔ result = .failure) ∧ after = before
  | _, _, _ => False

def HookCall.declined : HookCall env → Reply env
  | .alloc _ _ _ _ _ _ _ => .pointer 0
  | .destroy _ _ _ _ => .done
  | _ => .flag (failure env)

def ExtentCallbacks.Honest (callbacks : ExtentCallbacks State W) : Prop :=
  ∀ run, callbacks.alloc = some run → ∀ state request world made, (run state request world).1 = some made →
    (request.address.all fun wanted => wanted == made.address) = true ∧ (!request.zeroed || made.zeroed) = true ∧
      (!request.committed || made.committed) = true

section Runs

variable (statics : Statics State W) (machine : Machine env W)

@[simp] theorem run_bind {α β : Type} (program : Hooked env State W α) (next : α → Hooked env State W β) :
    (program >>= next) statics machine =
      (program statics machine).bind fun result => next result.1 statics result.2 := rfl

@[simp] theorem run_map {α β : Type} (f : α → β) (program : Hooked env State W α) :
    (f <$> program) statics machine = (program statics machine).bind fun result => .ok (f result.1, result.2) := rfl

@[simp] theorem run_pure {α : Type} (value : α) :
    (pure value : Hooked env State W α) statics machine = .ok (value, machine) := rfl

@[simp] theorem run_read_bool (pointer : Nat) :
    readBool env pointer statics machine = .ok (fromBool env (machine.cells pointer), machine) := rfl

@[simp] theorem run_write_bool (pointer : Nat) (state : Bool) :
    writeBool env pointer state statics machine =
      .ok ((), ⟨machine.world, Function.update machine.cells pointer (toBool env state)⟩) := rfl

@[simp] theorem run_invoke {Request Answer : Type} (callback : Callback State W Request Answer) (state : State)
    (request : Request) :
    invoke env callback state request statics machine =
      .ok ((callback state request machine.world).1, ⟨(callback state request machine.world).2, machine.cells⟩) := rfl

theorem run_address (mapping : NonNull) : address env mapping.val statics machine = .ok (mapping, machine) := by
  rw [address, dif_pos mapping.property]
  rfl

@[simp] theorem ok_bind {α β : Type} (value : α) (next : α → Except Fault β) :
    (Except.ok value : Except Fault α).bind next = next value := rfl

@[simp] theorem run_read : (read : Hooked env State W (Statics State W)) statics machine = .ok (statics, machine) := rfl

@[simp] theorem run_from_raw (raw : Nat) (body : Body State W) (found : statics raw = some body) :
    fromRaw env raw statics machine = .ok (body, machine) := by
  simp only [fromRaw, run_bind, run_read, ok_bind, found]
  rfl

theorem run_debug_assert (debugAssertions condition : Bool) (holds : debugAssertions = true → condition = true) :
    debugAssert env debugAssertions condition statics machine = .ok ((), machine) := by
  cases debugAssertions with
  | false => rfl
  | true =>
      rw [holds rfl]
      rfl

end Runs

theorem failure_flag (result : ExtentHookResult) :
    fromBool env (toBool env (result == .failure)) = true ↔ result = .failure := by
  rw [from_to_bool, beq_iff_eq]

def reported {Args : Type} (callback : Option (Callback State W Args ExtentHookResult)) (state : State) (args : Args)
    (machine : Machine env W) : Except Fault (CBool env × Machine env W) :=
  match callback with
  | none => .ok (failure env, machine)
  | some run => .ok (toBool env ((run state args machine.world).1 == .failure), ⟨(run state args machine.world).2, machine.cells⟩)

section Trampolines

variable (statics : Statics State W) (raw : Nat) (body : Body State W) (found : statics raw = some body)
  (machine : Machine env W)

include found

theorem dalloc_run (address : NonNull) (size : Nat) (committed : CBool env) (arena : Nat) :
    Hooks.dalloc env raw address.val size committed arena statics machine =
      reported body.callbacks.dalloc body.state ⟨address, size, fromBool env committed, arena⟩ machine := by
  cases present : body.callbacks.dalloc with
  | none => simp [Hooks.dalloc, found, present, reported]
  | some run => simp [Hooks.dalloc, run_address, found, present, reported]

theorem destroy_run (address : NonNull) (size : Nat) (committed : CBool env) (arena : Nat) :
    Hooks.destroy env raw address.val size committed arena statics machine =
      match body.callbacks.destroy with
      | none => .ok ((), machine)
      | some run =>
          let answered := run body.state ⟨address, size, fromBool env committed, arena⟩ machine.world
          .ok ((), ⟨answered.2, machine.cells⟩) := by
  cases present : body.callbacks.destroy with
  | none => simp [Hooks.destroy, found, present]
  | some run => simp [Hooks.destroy, run_address, found, present]

theorem range_run (address : NonNull) (size offset length arena : Nat) (kind : RangeKind) :
    Hooks.range env raw address.val size offset length arena kind statics machine =
      reported (body.callbacks.ofKind kind) body.state ⟨address, size, offset, length, arena⟩ machine := by
  cases present : body.callbacks.ofKind kind with
  | none => simp [Hooks.range, found, present, reported]
  | some run => simp [Hooks.range, run_address, found, present, reported]

theorem split_run (address : NonNull) (size firstSize secondSize : Nat) (committed : CBool env) (arena : Nat) :
    Hooks.split env raw address.val size firstSize secondSize committed arena statics machine =
      reported body.callbacks.split body.state ⟨address, size, firstSize, secondSize, fromBool env committed, arena⟩ machine := by
  cases present : body.callbacks.split with
  | none => simp [Hooks.split, found, present, reported]
  | some run => simp [Hooks.split, run_address, found, present, reported]

theorem merge_run (firstAddress : NonNull) (firstSize : Nat) (secondAddress : NonNull) (secondSize : Nat)
    (committed : CBool env) (arena : Nat) :
    Hooks.merge env raw firstAddress.val firstSize secondAddress.val secondSize committed arena statics machine =
      reported body.callbacks.merge body.state ⟨firstAddress, firstSize, secondAddress, secondSize, fromBool env committed, arena⟩ machine := by
  cases present : body.callbacks.merge with
  | none => simp [Hooks.merge, found, present, reported]
  | some run => simp [Hooks.merge, run_address, found, present, reported]

-- The assertions on a granted allocation hold of an honest callback, so the
-- debug build stores the flags exactly as the release build does.
theorem alloc_run (debugAssertions : Bool) (honest : debugAssertions = true → body.callbacks.Honest)
    (newAddress size alignment zeroed committed arena : Nat) :
    Hooks.alloc env debugAssertions raw newAddress size alignment zeroed committed arena statics machine =
      match body.callbacks.alloc with
      | none => .ok (0, machine)
      | some run =>
          let answered := run body.state ⟨NonNull.new newAddress, size, alignment, fromBool env (machine.cells zeroed),
            fromBool env (machine.cells committed), arena⟩ machine.world
          match answered.1 with
          | none => .ok (0, ⟨answered.2, machine.cells⟩)
          | some made => .ok (made.address.val, ⟨answered.2, Function.update
              (Function.update machine.cells zeroed (toBool env made.zeroed)) committed (toBool env made.committed)⟩) := by
  cases present : body.callbacks.alloc with
  | none => simp [Hooks.alloc, found, present]
  | some run =>
      simp only [Hooks.alloc, run_bind, run_from_raw _ _ _ _ found, ok_bind, present, run_read_bool, run_invoke]
      cases granted : (run body.state ⟨NonNull.new newAddress, size, alignment, fromBool env (machine.cells zeroed),
          fromBool env (machine.cells committed), arena⟩ machine.world).1 with
      | none => rfl
      | some made =>
          have demands := fun debug => honest debug run present _ _ _ made granted
          simp only [run_bind, run_debug_assert _ _ _ _ (fun debug => (demands debug).1),
            run_debug_assert _ _ _ _ (fun debug => (demands debug).2.1),
            run_debug_assert _ _ _ _ (fun debug => (demands debug).2.2), ok_bind, run_write_bool, run_pure]

end Trampolines

def Faithful (body : Body State W) (machine : Machine env W) (call : HookCall env)
    (outcome : Except Fault (Reply env × Machine env W)) : Prop :=
  match body.callbacks.serve body.state machine.world (call.request machine.cells) with
  | none => outcome = .ok (call.declined, machine)
  | some (answer, world) => ∃ reply cells, outcome = .ok (reply, ⟨world, cells⟩) ∧
      call.Answered answer reply machine.cells cells

theorem result_faithful {Args : Type} (body : Body State W) (machine : Machine env W) (call : HookCall env)
    (outcome : Except Fault (CBool env × Machine env W)) (callback : Option (Callback State W Args ExtentHookResult))
    (args : Args) (run : outcome = reported callback body.state args machine)
    (served : body.callbacks.serve body.state machine.world (call.request machine.cells) =
      callback.map fun run => (run body.state args machine.world).map .result id)
    (declines : call.declined = .flag (failure env))
    (answers : ∀ result value, (fromBool env value = true ↔ result = .failure) →
      call.Answered (.result result) (.flag value) machine.cells machine.cells) :
    Faithful body machine call (outcome.bind fun result => .ok (.flag result.1, result.2)) := by
  subst run
  unfold Faithful
  rw [served, declines]
  cases callback with
  | none => rfl
  | some run => exact ⟨_, _, rfl, answers _ _ (failure_flag _)⟩

theorem trampoline_faithful (debugAssertions : Bool) (statics : Statics State W) (raw : Nat) (body : Body State W)
    (found : statics raw = some body) (honest : debugAssertions = true → body.callbacks.Honest) (call : HookCall env)
    (machine : Machine env W) :
    Faithful body machine call (call.trampoline debugAssertions raw statics machine) := by
  cases call with
  | alloc newAddress size alignment zeroed committed arena apart =>
      simp only [HookCall.trampoline, run_map, alloc_run statics raw body found machine debugAssertions honest, Faithful,
        HookCall.request, ExtentCallbacks.serve]
      cases body.callbacks.alloc with
      | none => rfl
      | some run =>
          simp only [Option.map_some]
          generalize run body.state _ machine.world = answered
          obtain ⟨granted, world⟩ := answered
          cases granted with
          | none => exact ⟨_, _, rfl, rfl, rfl⟩
          | some made =>
              -- The second flag is stored to another cell than the first.
              refine ⟨_, _, rfl, rfl, ?_, ?_, ?_⟩
              · rw [Function.update_of_ne apart, Function.update_self, from_to_bool]
              · rw [Function.update_self, from_to_bool]
              · intro cell notZeroed notCommitted
                rw [Function.update_of_ne notCommitted, Function.update_of_ne notZeroed]
  | destroy address size committed arena =>
      simp only [HookCall.trampoline, run_map, destroy_run statics raw body found machine, Faithful, HookCall.request,
        ExtentCallbacks.serve]
      cases body.callbacks.destroy with
      | none => rfl
      | some run => exact ⟨_, _, rfl, rfl⟩
  | dalloc address size committed arena =>
      exact result_faithful _ _ _ _ _ _ (dalloc_run statics raw body found machine address size committed arena) rfl rfl
        fun _ _ meaning => ⟨meaning, rfl⟩
  | commit address size offset length arena =>
      exact result_faithful _ _ _ _ _ _ (range_run statics raw body found machine address size offset length arena .commit)
        rfl rfl fun _ _ meaning => ⟨meaning, rfl⟩
  | decommit address size offset length arena =>
      exact result_faithful _ _ _ _ _ _ (range_run statics raw body found machine address size offset length arena .decommit)
        rfl rfl fun _ _ meaning => ⟨meaning, rfl⟩
  | purgeLazy address size offset length arena =>
      exact result_faithful _ _ _ _ _ _ (range_run statics raw body found machine address size offset length arena .purgeLazy)
        rfl rfl fun _ _ meaning => ⟨meaning, rfl⟩
  | purgeForced address size offset length arena =>
      exact result_faithful _ _ _ _ _ _
        (range_run statics raw body found machine address size offset length arena .purgeForced)
        rfl rfl fun _ _ meaning => ⟨meaning, rfl⟩
  | split address size sizeA sizeB committed arena =>
      exact result_faithful _ _ _ _ _ _ (split_run statics raw body found machine address size sizeA sizeB committed arena)
        rfl rfl fun _ _ meaning => ⟨meaning, rfl⟩
  | merge addressA sizeA addressB sizeB committed arena =>
      exact result_faithful _ _ _ _ _ _
        (merge_run statics raw body found machine addressA sizeA addressB sizeB committed arena)
        rfl rfl fun _ _ meaning => ⟨meaning, rfl⟩

end Hooks

end Jevmalloc
