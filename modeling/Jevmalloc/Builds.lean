import Jevmalloc.Allocation
import Jevmalloc.Interaction.Erasure

set_option autoImplicit false

namespace Jevmalloc

open Interaction

-- Hooks as the crate lets them be installed, with a state of their own, that
-- return and leave the heap alone.
structure Hooks (width : Width) (State : Type) where
  start : State
  acts : State → HookCall width → State → Prop
  returns : ∀ state call, ∃ next, acts state call next

structure Observed (platform : Platform) where
  heap : Heap platform
  finished : List ((op : GlobalOp platform) × GlobalResult op)

structure Watched (platform : Platform) (State : Type) where
  observed : Observed platform
  seen : State

section Builds

variable (platform : Platform) (allocator : Allocator)

def observedEnter (before : Observed platform) (op : GlobalOp platform) (own : Option (Nat × Nat)) (after : Observed platform) : Prop :=
  heapEnter platform allocator before.heap op own after.heap ∧ after.finished = before.finished

def observedExec (own : Option (Nat × Nat)) (before : Observed platform) (command : Ffi platform.width)
    (response : FfiResponse command) (next : Option (Nat × Nat)) (after : Observed platform) : Prop :=
  heapExec platform allocator own before.heap command response next after.heap ∧ after.finished = before.finished

def observedLeave (own : Option (Nat × Nat)) (before : Observed platform) (op : GlobalOp platform) (value : GlobalResult op)
    (after : Observed platform) : Prop :=
  heapLeave platform own before.heap op value after.heap ∧ after.finished = before.finished ++ [⟨op, value⟩]

def noticed {State : Type} (hooks : Hooks platform.width State) (before : State) (command : Ffi platform.width) (after : State) : Prop :=
  match command with
  | .hook call => hooks.acts before call after
  | _ => after = before

def observedStart (world : Observed platform) : Prop := world = ⟨⟨fun _ => none, fun _ => none⟩, []⟩

def observedSystem {State : Type} (build : Build) (hooks : Hooks platform.width State) :
    System (Ffi platform.width) FfiResponse (Option (Nat × Nat)) (Watched platform State) (GlobalOp platform) GlobalResult where
  code := heapCode platform build
  initial world := observedStart platform world.observed ∧ world.seen = hooks.start
  enter before op own after := observedEnter platform allocator before.observed op own after.observed ∧ after.seen = before.seen
  exec own before command response next after :=
    observedExec platform allocator own before.observed command response next after.observed ∧
      noticed platform hooks before.seen command after.seen
  leave own before op value after := observedLeave platform own before.observed op value after.observed ∧ after.seen = before.seen

-- The calls that only look: hooks and the queries of the debug checks. A
-- failed check never answers.
def Looks : Ffi platform.width → Prop
  | .hook _ => True
  | .nallocx _ _ => True
  | .sallocx _ _ => True
  | .panic => True
  | .mallocx _ _ => False
  | .rallocx _ _ _ => False
  | .sdallocx _ _ _ => False

def bareCode : (op : GlobalOp platform) → Run platform (GlobalResult op)
  | .alloc layout => mallocx platform (adjusted platform layout).size (layoutFlags platform (adjusted platform layout))
  | .allocZeroed layout =>
      mallocx platform (adjusted platform layout).size (layoutFlags platform (adjusted platform layout) ||| mallocxZero)
  | .realloc ptr layout newSize nonzero fits =>
      let served := adjusted platform (resizedLayout platform layout newSize nonzero fits)
      rallocx platform ptr served.size (layoutFlags platform served)
  | .dealloc ptr layout =>
      sdallocx platform ptr (adjusted platform layout).size (layoutFlags platform (adjusted platform layout))

def bareSystem :
    System (Ffi platform.width) FfiResponse (Option (Nat × Nat)) (Observed platform) (GlobalOp platform) GlobalResult where
  code := bareCode platform
  initial := observedStart platform
  enter := observedEnter platform allocator
  exec := observedExec platform allocator
  leave := observedLeave platform

theorem observe_erases (installed : Bool) (call : HookCall platform.width) :
    Erases (Looks platform) (observe platform installed call) (.ret ()) := by
  cases installed with
  | false => exact .ret ()
  | true => exact .skip _ _ _ trivial fun _ => .ret ()

theorem debug_assert_erases (holds : Bool) : Erases (Looks platform) (debugAssert platform holds) (.ret ()) := by
  cases holds with
  | false => exact .skip _ _ _ trivial nofun
  | true => exact .ret ()

theorem debug_validate_erases (build : Build) (ptr : Nat) (layout : Layout platform.width) (flags : CInt) :
    Erases (Looks platform) (Jemalloc.debugValidate platform build ptr layout flags) (.ret ()) := by
  unfold Jemalloc.debugValidate
  by_cases null : ptr = 0
  · rw [if_pos null]
    exact .ret ()
  · rw [if_neg null]
    cases build.debugAssertions with
    | false => exact .ret ()
    | true =>
        refine .skip _ _ _ trivial fun rounded => ?_
        refine erases_silent_bind _ _ _ _ (debug_assert_erases platform _) ?_
        refine erases_silent_bind _ _ _ _ (debug_assert_erases platform _) ?_
        exact .skip _ _ _ trivial fun usable => debug_assert_erases platform _

theorem validated_erases (build : Build) (ptr : Nat) (layout : Layout platform.width) (flags : CInt) :
    Erases (Looks platform) (Jemalloc.debugValidate platform build ptr layout flags >>= fun _ => .ret ptr) (.ret ptr) :=
  erases_silent_bind _ _ _ _ (debug_validate_erases platform build ptr layout flags) (.ret ptr)

theorem code_erases (build : Build) (op : GlobalOp platform) :
    Erases (Looks platform) (heapCode platform build op) (bareCode platform op) := by
  cases op with
  | alloc layout =>
      refine erases_silent_bind _ _ _ _ (observe_erases platform _ _) ?_
      exact .call _ _ _ fun ptr => validated_erases platform build ptr _ _
  | allocZeroed layout =>
      refine erases_silent_bind _ _ _ _ (observe_erases platform _ _) ?_
      exact .call _ _ _ fun ptr => validated_erases platform build ptr _ _
  | realloc ptr layout newSize nonzero fits =>
      refine erases_silent_bind _ _ _ _ (observe_erases platform _ _) ?_
      exact .call _ _ _ fun ptr => validated_erases platform build ptr _ _
  | dealloc ptr layout =>
      refine erases_silent_bind _ _ _ _ (observe_erases platform _ _) ?_
      exact erases_silent_bind _ _ _ _ (debug_validate_erases platform build ptr _ _) (erases_refl _ _)

theorem looks_unseen (own : Option (Nat × Nat)) (heap : Heap platform) (command : Ffi platform.width)
    (response : FfiResponse command) (next : Option (Nat × Nat)) (after : Heap platform) (looks : Looks platform command)
    (executed : heapExec platform allocator own heap command response next after) : next = own ∧ after = heap := by
  cases command with
  | hook call => exact executed
  | nallocx size flags => exact executed.2.2
  | sallocx ptr flags => exact executed.2
  | panic => cases response
  | mallocx size flags => exact looks.elim
  | rallocx ptr size flags => exact looks.elim
  | sdallocx ptr size flags => exact looks.elim

section Observed

variable {State : Type} (build : Build) (hooks : Hooks platform.width State)

theorem observed_projects : Projects (observedSystem platform allocator build hooks) (bareSystem platform allocator) Watched.observed where
  start _ initial := initial.1
  enter _ _ _ _ entered := entered.1
  exec _ _ _ _ _ _ executed := executed.1
  leave _ _ _ _ _ left := left.1

theorem observed_lifts : Lifts (observedSystem platform allocator build hooks) (bareSystem platform allocator) Watched.observed where
  start seen initial := ⟨⟨seen, hooks.start⟩, ⟨initial, rfl⟩, rfl⟩
  enter world _ _ seen entered := ⟨⟨seen, world.seen⟩, ⟨entered, rfl⟩, rfl⟩
  exec own world command response next seen executed := by
    cases command with
    | hook call =>
        obtain ⟨after, acted⟩ := hooks.returns world.seen call
        exact ⟨⟨seen, after⟩, ⟨executed, acted⟩, rfl⟩
    | _ => exact ⟨⟨seen, world.seen⟩, ⟨executed, rfl⟩, rfl⟩
  leave _ world _ _ seen left := ⟨⟨seen, world.seen⟩, ⟨left, rfl⟩, rfl⟩

theorem observed_unseen (own : Option (Nat × Nat)) (world : Watched platform State) (command : Ffi platform.width)
    (response : FfiResponse command) (next : Option (Nat × Nat)) (after : Watched platform State) (looks : Looks platform command)
    (executed : (observedSystem platform allocator build hooks).exec own world command response next after) :
    next = own ∧ after.observed = world.observed := by
  obtain ⟨⟨heap, finished⟩, _⟩ := executed
  obtain ⟨same, unchanged⟩ := looks_unseen platform allocator own _ command response next _ looks heap
  obtain ⟨⟨after, record⟩, _⟩ := after
  cases unchanged
  cases finished
  exact ⟨same, rfl⟩

theorem observed_heap
    (config : Config (Ffi platform.width) FfiResponse (Option (Nat × Nat)) (Watched platform State) (GlobalOp platform) GlobalResult)
    (reached : Reachable (observedSystem platform allocator build hooks) config) :
    Reachable (heapSystem platform allocator build) ⟨config.world.observed.heap, config.callers⟩ := by
  induction reached with
  | start world initial => exact .start _ (congrArg Observed.heap initial.1)
  | step before after _ step ih =>
      apply Reachable.step _ _ ih
      cases step with
      | enter thread op own world idle entered => exact .enter _ thread op own _ idle entered.1.1
      | exec thread op own next world command resume response busy executed =>
          exact .exec _ thread op own next _ command resume response busy executed.1.1
      | leave thread op own value world done left => exact .leave _ thread op own value _ done left.1.1

-- A query can always be answered, since the block it asks about is in hand.
theorem looks_answered
    (config : Config (Ffi platform.width) FfiResponse (Option (Nat × Nat)) (Watched platform State) (GlobalOp platform) GlobalResult)
    (reached : Reachable (observedSystem platform allocator build hooks) config) (thread : Nat) (op : GlobalOp platform)
    (own : Option (Nat × Nat)) (command : Ffi platform.width) (resume : FfiResponse command → Run platform (GlobalResult op))
    (busy : config.callers thread = some ⟨op, own, .call command resume⟩) (looks : Looks platform command) :
    ∃ response after, (observedSystem platform allocator build hooks).exec own config.world command response own after ∧
      after.observed = config.world.observed := by
  have discipline := heap_discipline platform allocator build
  have inner := observed_heap platform allocator build hooks config reached
  have allowed := discipline_pending discipline _ inner thread op own command resume busy
  cases command with
  | hook call =>
      obtain ⟨after, acted⟩ := hooks.returns config.world.seen call
      exact ⟨(), ⟨config.world.observed, after⟩, ⟨⟨⟨rfl, rfl⟩, rfl⟩, acted⟩, rfl⟩
  | nallocx size flags =>
      by_cases servable : allocator.servable size (decodeAlignment flags)
      · exact ⟨requestClass allocator size flags, config.world,
          ⟨⟨⟨fun _ => rfl, fun refused => absurd servable refused, rfl, rfl⟩, rfl⟩, rfl⟩, rfl⟩
      · exact ⟨(0 : Nat), config.world, ⟨⟨⟨fun served => absurd served servable, fun _ => rfl, rfl, rfl⟩, rfl⟩, rfl⟩, rfl⟩
  | sallocx ptr flags =>
      obtain ⟨c, inHand⟩ := allowed
      have inv := discipline_invariant discipline _ inner
      have live := inv.custody.sound (.inl thread) ptr c (by simp [heapHoldings, holdings_caller, owns, busy, inHand])
      exact ⟨c, config.world, ⟨⟨⟨live, rfl, rfl⟩, rfl⟩, rfl⟩, rfl⟩
  | panic => exact allowed.elim
  | mallocx size flags => exact looks.elim
  | rallocx ptr size flags => exact looks.elim
  | sdallocx ptr size flags => exact looks.elim

end Observed

end Builds

theorem global_alloc_builds_agree {State Other : Type} (platform : Platform) (allocator : Allocator) (first second : Build)
    (hooks : Hooks platform.width State) (others : Hooks platform.width Other)
    (config : Config (Ffi platform.width) FfiResponse (Option (Nat × Nat)) (Watched platform State) (GlobalOp platform) GlobalResult)
    (reached : Reachable (observedSystem platform allocator first hooks) config) :
    ∃ seen callers, Reachable (observedSystem platform allocator second others) ⟨⟨config.world.observed, seen⟩, callers⟩ ∧
      ∀ thread, (callers thread).map (fun caller => (caller.op, caller.own)) =
        (config.callers thread).map fun caller => (caller.op, caller.own) := by
  obtain ⟨bare, erased, before⟩ := erased_reachable (observed_projects platform allocator first hooks)
    (code_erases platform first) (observed_unseen platform allocator first hooks) config reached
  obtain ⟨world, callers, restored, same, after⟩ := unerased_reachable (observed_lifts platform allocator second others)
    (code_erases platform second) (looks_answered platform allocator second others) _ erased
  obtain ⟨observed, seen⟩ := world
  obtain rfl : observed = config.world.observed := same
  exact ⟨seen, callers, restored, fun thread =>
    (caller_erases_same _ _ thread (after thread)).trans (caller_erases_same _ _ thread (before thread)).symm⟩

def observingBuild : Build := ⟨true, true, true, true, true⟩

def countingHooks : Hooks TargetArch.x86_64.platform.width Nat := ⟨0, fun count _ next => next = count + 1, fun _ _ => ⟨_, rfl⟩⟩
def looseHooks : Hooks TargetArch.x86_64.platform.width Nat := ⟨0, fun _ _ _ => True, fun _ _ => ⟨0, trivial⟩⟩

theorem global_alloc_builds_agree_observed :
    ∃ (seen : Nat) (heap : Heap TargetArch.x86_64.platform) (callers : Nat → Option (Caller _ _ _ _ _)),
      heap.blocks 64 = some 32 ∧ heap.table 64 = some smallRequest ∧
        Reachable (observedSystem TargetArch.x86_64.platform spacedAllocator quietBuild looseHooks)
          ⟨⟨⟨heap, [⟨.alloc smallRequest, (64 : Nat)⟩]⟩, seen⟩, callers⟩ := by
  let system := observedSystem TargetArch.x86_64.platform spacedAllocator observingBuild countingHooks
  let request : GlobalOp TargetArch.x86_64.platform := .alloc smallRequest
  let empty : Heap TargetArch.x86_64.platform := ⟨fun _ => none, fun _ => none⟩
  let full : Heap TargetArch.x86_64.platform := { empty with blocks := Function.update empty.blocks 64 (some 32) }
  let given : Heap TargetArch.x86_64.platform := record TargetArch.x86_64.platform full 64 smallRequest
  have placed : Serves TargetArch.x86_64.platform spacedAllocator empty.blocks 64 24 0#32 :=
    ⟨by decide, rfl, trivial, fun _ => ⟨4, rfl⟩⟩
  have start : Reachable system ⟨⟨⟨empty, []⟩, 0⟩, fun _ => none⟩ := .start _ ⟨rfl, rfl⟩
  have calling := reachable_enter system _ ⟨⟨empty, []⟩, 0⟩ _ start 0 request none rfl ⟨⟨⟨rfl, rfl⟩, rfl⟩, rfl⟩
  have observed := reachable_exec system _ ⟨⟨empty, []⟩, 1⟩ _ calling 0 request none none (.hook (.alloc smallRequest.val)) _ () rfl
    ⟨⟨⟨rfl, rfl⟩, rfl⟩, rfl⟩
  have served := reachable_exec system _ ⟨⟨full, []⟩, 1⟩ _ observed 0 request none _ (.mallocx 24 0#32) _ (64 : Nat) rfl
    ⟨⟨.inr ⟨placed, rfl, rfl⟩, rfl⟩, rfl⟩
  have rounded := reachable_exec system _ ⟨⟨full, []⟩, 1⟩ _ served 0 request (some (64, 32)) (some (64, 32)) (.nallocx 24 0#32) _
    (32 : Nat) rfl ⟨⟨⟨fun _ => rfl, fun refused => absurd trivial refused, rfl, rfl⟩, rfl⟩, rfl⟩
  have checked := reachable_exec system _ ⟨⟨full, []⟩, 1⟩ _ rounded 0 request (some (64, 32)) (some (64, 32)) (.sallocx 64 0#32) _
    (32 : Nat) rfl ⟨⟨⟨rfl, rfl, rfl⟩, rfl⟩, rfl⟩
  have returned := reachable_leave system _ ⟨⟨given, [⟨request, (64 : Nat)⟩]⟩, 1⟩ _ checked 0 request (some (64, 32)) (64 : Nat) rfl
    ⟨⟨rfl, rfl⟩, rfl⟩
  obtain ⟨seen, callers, reached, _⟩ := global_alloc_builds_agree TargetArch.x86_64.platform spacedAllocator observingBuild
    quietBuild countingHooks looseHooks _ returned
  exact ⟨seen, given, callers, rfl, rfl, reached⟩

end Jevmalloc
