import Jevmalloc.Allocation
import Jevmalloc.Words.Regions

set_option autoImplicit false

namespace Jevmalloc

open Interaction Regions

-- bytes is the machine's memory. contents is what the program knows of the
-- blocks it may use: its own writes and what GlobalAlloc promises it.
structure Memory (platform : Platform) where
  heap : Heap platform
  bytes : Nat → UInt8
  contents : Nat → Nat → Option UInt8

-- view is what jemalloc's documentation tells of the block in hand, and saved
-- what the program knew of the block it passed in.
structure Known where
  view : Nat → Option UInt8
  saved : Nat → Option UInt8

structure Hand where
  token : Option (Nat × Nat)
  known : Known

inductive MemoryOp (platform : Platform) where
  | global (op : GlobalOp platform)
  | write (ptr offset : Nat) (byte : UInt8)

def MemoryResult {platform : Platform} : MemoryOp platform → Type
  | .global op => GlobalResult op
  | .write _ _ _ => Unit

section Memory

variable (platform : Platform) (allocator : Allocator)

-- What a call of jemalloc does to memory: live blocks keep their bytes, a
-- served block lies apart from them, MALLOCX_ZERO clears what was asked for,
-- and a resized block keeps the lesser of both sizes.
def ServedBytes (blocks : Nat → Option Nat) (bytes : Nat → UInt8) (size : Nat) (flags : CInt) (ptr : Nat)
    (after : Nat → UInt8) : Prop :=
  Untouched blocks bytes after ∧
    (ptr ≠ 0 → Room blocks ptr (requestClass allocator size flags) ∧
      (decodeZero flags = true → ∀ offset, offset < size → after (ptr + offset) = 0))

def MovedBytes (blocks : Nat → Option Nat) (bytes : Nat → UInt8) (old size : Nat) (flags : CInt) (ptr : Nat)
    (after : Nat → UInt8) : Prop :=
  (ptr = 0 → Untouched blocks bytes after) ∧
    (ptr ≠ 0 → Untouched (Function.update blocks old none) bytes after ∧
      Room (Function.update blocks old none) ptr (requestClass allocator size flags) ∧
      ∀ extent, blocks old = some extent → ∀ offset, offset < min extent size → after (ptr + offset) = bytes (old + offset))

def bytesExec (blocks : Nat → Option Nat) (bytes : Nat → UInt8) :
    (command : Ffi platform.width) → FfiResponse command → (Nat → UInt8) → Prop
  | .mallocx size flags, ptr, after => ServedBytes allocator blocks bytes size flags ptr after
  | .rallocx old size flags, ptr, after => MovedBytes allocator blocks bytes old size flags ptr after
  | .sdallocx ptr _ _, _, after => Untouched (Function.update blocks ptr none) bytes after
  | .hook _, _, after => Untouched blocks bytes after
  | .nallocx _ _, _, after => Untouched blocks bytes after
  | .sallocx _ _, _, after => Untouched blocks bytes after
  | .panic, _, _ => False

def zeroed : Nat → Option UInt8 := fun _ => some 0

def servedView (view : Nat → Option UInt8) (size : Nat) (flags : CInt) (ptr : Nat) : Nat → Option UInt8 :=
  if ptr = 0 then view else if decodeZero flags = true then within size zeroed else unknown

def movedView (view : Nat → Option UInt8) (size ptr : Nat) : Nat → Option UInt8 :=
  if ptr = 0 then view else within size view

theorem served_view_zeroed (view : Nat → Option UInt8) (size : Nat) (flags : CInt) (ptr : Nat) (nonnull : ptr ≠ 0)
    (zero : decodeZero flags = true) : servedView view size flags ptr = within size zeroed := by
  rw [servedView, if_neg nonnull, if_pos zero]

theorem moved_view_within (view : Nat → Option UInt8) (size ptr : Nat) (nonnull : ptr ≠ 0) :
    movedView view size ptr = within size view := if_neg nonnull

theorem served_shows (blocks : Nat → Option Nat) (before after : Nat → UInt8) (size : Nat) (flags : CInt) (ptr : Nat)
    (view : Nat → Option UInt8) (served : ServedBytes allocator blocks before size flags ptr after) (nonnull : ptr ≠ 0) :
    Shows after ptr (requestClass allocator size flags) (servedView view size flags ptr) := by
  by_cases zero : decodeZero flags = true
  · rw [served_view_zeroed view size flags ptr nonnull zero]
    intro offset value asked
    obtain ⟨inside, same⟩ := (within_iff _ _ _ _).mp asked
    exact ⟨Nat.lt_of_lt_of_le inside (allocator.covers size _),
      ((served.2 nonnull).2 zero offset inside).trans (Option.some.inj same)⟩
  · rw [servedView, if_neg nonnull, if_neg zero]
    exact shows_unknown _ _ _

def viewAfter (view : Nat → Option UInt8) : (command : Ffi platform.width) → FfiResponse command → Nat → Option UInt8
  | .mallocx size flags, ptr => servedView view size flags ptr
  | .rallocx _ size _, ptr => movedView view size ptr
  | .sdallocx _ _ _, _ => unknown
  | .hook _, _ => view
  | .nallocx _ _, _ => view
  | .sallocx _ _, _ => view
  | .panic, _ => view

def memoryExec (own : Hand) (memory : Memory platform) (command : Ffi platform.width) (response : FfiResponse command)
    (next : Hand) (after : Memory platform) : Prop :=
  heapExec platform allocator own.token memory.heap command response next.token after.heap ∧
    bytesExec platform allocator memory.heap.blocks memory.bytes command response after.bytes ∧
    after.contents = memory.contents ∧
    next.known = ⟨viewAfter platform own.known.view command response, own.known.saved⟩

def passed (contents : Nat → Nat → Option UInt8) : GlobalOp platform → Nat → Option UInt8
  | .alloc _ => unknown
  | .allocZeroed _ => unknown
  | .realloc ptr _ _ _ _ => contents ptr
  | .dealloc ptr _ => contents ptr

def memoryEnter (memory : Memory platform) : MemoryOp platform → Hand → Memory platform → Prop
  | .global op, own, after =>
      heapEnter platform allocator memory.heap op own.token after.heap ∧ after.bytes = memory.bytes ∧
        after.contents = memory.contents ∧
        own.known = ⟨passed platform memory.contents op, passed platform memory.contents op⟩
  | .write ptr offset byte, own, after =>
      (∃ layout, memory.heap.table ptr = some layout ∧ offset < layout.val.size) ∧ own = ⟨none, unknown, unknown⟩ ∧
        after = ⟨memory.heap, Function.update memory.bytes (ptr + offset) byte,
          Function.update memory.contents ptr (Function.update (memory.contents ptr) offset (some byte))⟩

-- GlobalAlloc's promise: a fresh block is arbitrary, a zeroed one is zero, a
-- resized one keeps the bytes up to the lesser of the two sizes, and a refused
-- one is as it was.
def granted (ptr : Nat) (fresh : Nat → Option UInt8) (contents refused : Nat → Nat → Option UInt8) :
    Nat → Nat → Option UInt8 :=
  if ptr = 0 then refused else Function.update contents ptr fresh

def promised (saved : Nat → Option UInt8) (contents : Nat → Nat → Option UInt8) :
    (op : GlobalOp platform) → GlobalResult op → Nat → Nat → Option UInt8
  | .alloc _, ptr => granted ptr unknown contents contents
  | .allocZeroed layout, ptr => granted ptr (within layout.val.size zeroed) contents contents
  | .realloc old layout newSize _ _, ptr =>
      granted ptr (within (min layout.val.size newSize) saved) contents (Function.update contents old saved)
  | .dealloc _ _, _ => contents

def memoryLeave (own : Hand) (memory : Memory platform) :
    (op : MemoryOp platform) → MemoryResult op → Memory platform → Prop
  | .global op, value, after =>
      heapLeave platform own.token memory.heap op value after.heap ∧ after.bytes = memory.bytes ∧
        after.contents = promised platform own.known.saved memory.contents op value
  | .write _ _ _, _, after => after = memory

def memoryCode (build : Build) : (op : MemoryOp platform) → Run platform (MemoryResult op)
  | .global op => heapCode platform build op
  | .write _ _ _ => .ret ()

def memorySystem (build : Build) :
    System (Ffi platform.width) FfiResponse Hand (Memory platform) (MemoryOp platform) MemoryResult where
  code := memoryCode platform build
  initial memory := memory.heap = ⟨fun _ => none, fun _ => none⟩
  enter := memoryEnter platform allocator
  exec := memoryExec platform allocator
  leave := memoryLeave platform

def viewProtocol : Protocol (Ffi platform.width) FfiResponse Known where
  pre _ _ := True
  post own command response next := next = ⟨viewAfter platform own.view command response, own.saved⟩

def memoryProtocol : Protocol (Ffi platform.width) FfiResponse Hand where
  pre own command := (heapProtocol platform allocator).pre own.token command
  post own command response next :=
    (heapProtocol platform allocator).post own.token command response next.token ∧
      (viewProtocol platform).post own.known command response next.known

def Knows (known : Known) : (op : GlobalOp platform) → GlobalResult op → Prop
  | .alloc _, _ => True
  | .allocZeroed layout, ptr => ptr ≠ (0 : Nat) → Below (within layout.val.size zeroed) known.view
  | .realloc _ layout newSize _ _, ptr =>
      (∀ offset byte, known.saved offset = some byte → offset < layout.val.size) ∧
        (ptr = (0 : Nat) → known.view = known.saved) ∧
        (ptr ≠ (0 : Nat) → Below (within (min layout.val.size newSize) known.saved) known.view)
  | .dealloc _ _, _ => True

def memoryReturns : (op : MemoryOp platform) → Hand → MemoryResult op → Prop
  | .global op, own, value => heapReturns platform allocator op own.token value ∧ Knows platform own.known op value
  | .write _ _ _, own, _ => own.token = none

section Views

variable (build : Build) (known : Known)

theorem observe_views (installed : Bool) (call : HookCall platform.width) :
    Obeys (viewProtocol platform) (fun next _ => next = known) (observe platform installed call) known := by
  cases installed with
  | false => rfl
  | true => exact ⟨trivial, fun _ _ same => same⟩

theorem debug_assert_views (holds : Bool) :
    Obeys (viewProtocol platform) (fun next _ => next = known) (debugAssert platform holds) known := by
  cases holds with
  | false => exact ⟨trivial, nofun⟩
  | true => rfl

theorem debug_validate_views (ptr : Nat) (layout : Layout platform.width) (flags : CInt) :
    Obeys (viewProtocol platform) (fun next _ => next = known) (Jemalloc.debugValidate platform build ptr layout flags)
      known := by
  unfold Jemalloc.debugValidate
  by_cases null : ptr = 0
  · rw [if_pos null]
    rfl
  · rw [if_neg null]
    cases build.debugAssertions with
    | false => rfl
    | true =>
        refine obeys_perform_bind _ _ _ _ _ trivial ?_
        rintro rounded _ rfl
        refine obeys_bind _ _ _ _ _ _ (debug_assert_views platform known _) ?_
        rintro _ _ rfl
        refine obeys_bind _ _ _ _ _ _ (debug_assert_views platform _ _) ?_
        rintro _ _ rfl
        refine obeys_perform_bind _ _ _ _ _ trivial ?_
        rintro usable _ rfl
        exact debug_assert_views platform _ _

theorem validated_views (returns : Known → Nat → Prop) (ptr : Nat) (layout : Layout platform.width) (flags : CInt)
    (held : returns known ptr) :
    Obeys (viewProtocol platform) returns
      (Jemalloc.debugValidate platform build ptr layout flags >>= fun _ => .ret ptr) known := by
  refine obeys_bind _ _ _ _ _ _ (debug_validate_views platform build known ptr layout flags) ?_
  rintro _ _ rfl
  exact held

theorem zero_bit_decodes (word : CInt) : decodeZero (word ||| mallocxZero) = true := by
  have bit : mallocxZero.getLsbD 6 = true := rfl
  rw [decodeZero, BitVec.getLsbD_or, bit, Bool.or_true]

theorem alloc_zeroed_views (layout : Allocated platform) :
    Obeys (viewProtocol platform) (fun next ptr => ptr ≠ 0 → Below (within layout.val.size zeroed) next.view)
      (Jemalloc.allocZeroed platform build layout.val layout.property) known := by
  refine obeys_bind _ _ _ _ _ _ (observe_views platform known _ _) ?_
  rintro later _ unchanged
  subst later
  refine obeys_perform_bind _ _ _ _ _ trivial ?_
  rintro ptr next rfl
  apply validated_views
  intro nonnull offset byte asked
  obtain ⟨inside, value⟩ := (within_iff _ _ _ _).mp asked
  have covered : layout.val.size ≤ (adjustLayout platform layout.val layout.property).size := Nat.le_max_left _ _
  have cleared := served_view_zeroed known.view (adjustLayout platform layout.val layout.property).size
    (layoutFlags platform (adjustLayout platform layout.val layout.property) ||| mallocxZero) ptr nonnull
    (zero_bit_decodes _)
  refine (congrFun cleared offset).trans ?_
  exact (within_iff _ _ _ _).mpr ⟨Nat.lt_of_lt_of_le inside covered, value⟩

theorem realloc_views (old : Nat) (layout : Allocated platform) (newSize : Nat) (nonzero : 0 < newSize)
    (fits : Words.roundUp newSize layout.val.align ≤ isizeMax platform.width)
    (bounded : ∀ offset byte, known.saved offset = some byte → offset < layout.val.size)
    (fresh : known.view = known.saved) :
    Obeys (viewProtocol platform) (fun next ptr => Knows platform next (.realloc old layout newSize nonzero fits) ptr)
      (Jemalloc.realloc platform build old layout.val newSize nonzero fits) known := by
  refine obeys_bind _ _ _ _ _ _ (observe_views platform known _ _) ?_
  rintro later _ unchanged
  subst later
  refine obeys_perform_bind _ _ _ _ _ trivial ?_
  rintro ptr next rfl
  apply validated_views
  refine ⟨bounded, ?_, ?_⟩
  · rintro rfl
    exact fresh
  · intro nonnull offset byte asked
    obtain ⟨inside, value⟩ := (within_iff _ _ _ _).mp asked
    have covered : newSize ≤ (adjustLayout platform (Jemalloc.resized layout.val newSize fits) nonzero).size :=
      Nat.le_max_left _ _
    refine (congrFun (moved_view_within known.view _ ptr nonnull) offset).trans ?_
    rw [fresh]
    exact (within_iff _ _ _ _).mpr ⟨by omega, value⟩

end Views

def tokens (all : Nat → Option Hand) : Nat → Option (Option (Nat × Nat)) := fun thread => (all thread).map Hand.token

theorem tokens_update (all : Nat → Option Hand) (thread : Nat) (own : Option Hand) :
    tokens (Function.update all thread own) = Function.update (tokens all) thread (own.map Hand.token) := by
  funext other
  by_cases same : other = thread
  · subst other
    simp [tokens]
  · simp [tokens, same]

def Mirrored (bytes : Nat → UInt8) (table : Nat → Option (Allocated platform)) (contents : Nat → Nat → Option UInt8) : Prop :=
  ∀ ptr layout, table ptr = some layout → Shows bytes ptr layout.val.size (contents ptr)

structure MemoryInv (memory : Memory platform) (all : Nat → Option Hand) : Prop where
  heap : HeapInv platform allocator memory.heap (tokens all)
  separated : Separated memory.heap.blocks
  hands : ∀ thread own ptr extent, all thread = some own → own.token = some (ptr, extent) →
    Shows memory.bytes ptr extent own.known.view
  shelf : Mirrored platform memory.bytes memory.heap.table memory.contents

section Invariant

variable (memory after : Memory platform) (all : Nat → Option Hand) (thread : Nat)

theorem hand_live (inv : MemoryInv platform allocator memory all) (own : Hand) (ptr extent : Nat)
    (mine : all thread = some own) (token : own.token = some (ptr, extent)) :
    memory.heap.blocks ptr = some extent :=
  inv.heap.custody.sound (.inl thread) ptr extent (by simp [heapHoldings, holdings_caller, tokens, mine, token])

theorem hand_differs (inv : MemoryInv platform allocator memory all) (own : Hand) (ptr extent other length : Nat)
    (mine : all thread = some own) (token : own.token = some (ptr, extent)) (holder : Nat ⊕ Nat)
    (elsewhere : holder ≠ .inl thread)
    (held : heapHoldings platform allocator memory.heap (tokens all) holder = some (other, length)) : other ≠ ptr := by
  rintro rfl
  have holds : heapHoldings platform allocator memory.heap (tokens all) (.inl thread) = some (other, extent) := by
    simp [heapHoldings, holdings_caller, tokens, mine, token]
  exact elsewhere (inv.heap.custody.exclusive _ _ _ _ _ held holds)

theorem memory_frame (own next : Hand) (kept : Nat → Option Nat) (inv : MemoryInv platform allocator memory all)
    (mine : all thread = some own)
    (others : ∀ ptr extent, memory.heap.blocks ptr = some extent → (∀ c, own.token ≠ some (ptr, c)) → kept ptr = some extent)
    (untouched : Untouched kept memory.bytes after.bytes) (table : after.heap.table = memory.heap.table)
    (contents : after.contents = memory.contents)
    (heapInv : HeapInv platform allocator after.heap (Function.update (tokens all) thread (some next.token)))
    (separated : Separated after.heap.blocks)
    (shows : ∀ ptr extent, next.token = some (ptr, extent) → Shows after.bytes ptr extent next.known.view) :
    MemoryInv platform allocator after (Function.update all thread (some next)) := by
  have apart : ∀ holder ptr extent, holder ≠ .inl thread →
      heapHoldings platform allocator memory.heap (tokens all) holder = some (ptr, extent) → kept ptr = some extent := by
    intro holder ptr extent elsewhere held
    refine others ptr extent (inv.heap.custody.sound holder ptr extent held) ?_
    intro c token
    exact hand_differs platform allocator memory all thread inv own ptr c ptr extent mine token holder elsewhere held rfl
  refine ⟨by rw [tokens_update]; exact heapInv, separated, ?_, ?_⟩
  · intro other caller ptr extent busy token
    by_cases same : other = thread
    · subst other
      rw [Function.update_self, Option.some.injEq] at busy
      subst caller
      exact shows ptr extent token
    · rw [Function.update_of_ne same] at busy
      have held : kept ptr = some extent :=
        apart (.inl other) ptr extent (by simpa using same) (by simp [heapHoldings, holdings_caller, tokens, busy, token])
      exact shows_untouched kept _ _ ptr extent extent _ (inv.hands other caller ptr extent busy token) held
        (Nat.le_refl _) untouched
  · intro ptr layout present
    rw [table] at present
    rw [contents]
    have held : kept ptr = some (layoutClass platform allocator layout) :=
      apart (.inr ptr) ptr _ (by simp) (by simp [heapHoldings, tableTokens, present])
    exact shows_untouched kept _ _ ptr _ _ _ (inv.shelf ptr layout present) held
      (class_covers_layout platform allocator layout) untouched

theorem memory_calm (own next : Hand) (inv : MemoryInv platform allocator memory all) (mine : all thread = some own)
    (token : next.token = own.token) (view : next.known.view = own.known.view) (heap : after.heap = memory.heap)
    (contents : after.contents = memory.contents) (untouched : Untouched memory.heap.blocks memory.bytes after.bytes)
    (heapInv : HeapInv platform allocator after.heap (Function.update (tokens all) thread (some next.token))) :
    MemoryInv platform allocator after (Function.update all thread (some next)) := by
  refine memory_frame platform allocator memory after all thread own next memory.heap.blocks inv mine (fun _ _ live _ => live)
    untouched (by rw [heap]) contents heapInv (by rw [heap]; exact inv.separated) ?_
  intro ptr extent inHand
  rw [token] at inHand
  rw [view]
  exact shows_untouched _ _ _ ptr extent extent _ (inv.hands thread own ptr extent mine inHand)
    (hand_live platform allocator memory all thread inv own ptr extent mine inHand) (Nat.le_refl _) untouched

theorem memory_exec_keeps (own next : Hand) (command : Ffi platform.width)
    (response : FfiResponse command) (inv : MemoryInv platform allocator memory all) (mine : all thread = some own)
    (allowed : (heapProtocol platform allocator).pre own.token command)
    (executed : memoryExec platform allocator own memory command response next after) :
    (memoryProtocol platform allocator).post own command response next ∧
      MemoryInv platform allocator after (Function.update all thread (some next)) := by
  obtain ⟨heapStep, bytesStep, contents, known⟩ := executed
  have mineToken : tokens all thread = some own.token := by rw [tokens, mine]; rfl
  obtain ⟨relied, heapInv⟩ := heap_exec_keeps platform allocator memory.heap (tokens all) thread own.token next.token command
    response after.heap inv.heap mineToken allowed heapStep
  refine ⟨⟨relied, known⟩, ?_⟩
  have view : next.known.view = viewAfter platform own.known.view command response := by rw [known]
  have calm := memory_calm platform allocator memory after all thread own next inv mine
  cases command with
  | hook call =>
      obtain ⟨token, heap⟩ := heapStep
      exact calm token view heap contents bytesStep heapInv
  | nallocx size flags =>
      obtain ⟨_, _, token, heap⟩ := heapStep
      exact calm token view heap contents bytesStep heapInv
  | sallocx ptr flags =>
      obtain ⟨_, token, heap⟩ := heapStep
      exact calm token view heap contents bytesStep heapInv
  | panic => cases response
  | mallocx size flags =>
      obtain ⟨untouched, served⟩ := bytesStep
      rcases heapStep with ⟨null, token, heap⟩ | ⟨⟨nonnull, free, _, _⟩, token, heap⟩
      · refine calm token (view.trans ?_) heap contents untouched heapInv
        exact if_pos null
      · refine memory_frame platform allocator memory after all thread own next memory.heap.blocks inv mine
          (fun _ _ live _ => live) untouched (by rw [heap]) contents heapInv ?_ ?_
        · rw [heap]
          exact separated_acquire _ _ _ inv.separated (served nonnull).1
        · intro ptr extent inHand
          obtain ⟨rfl, rfl⟩ := Prod.mk.inj (Option.some.inj (token.symm.trans inHand))
          rw [view]
          exact served_shows allocator _ _ _ size flags response _ ⟨untouched, served⟩ nonnull
  | rallocx old size flags =>
      obtain ⟨refused, served⟩ := bytesStep
      rcases heapStep with ⟨null, token, heap⟩ | ⟨⟨nonnull, free, _, _⟩, token, heap⟩
      · refine calm token (view.trans ?_) heap contents (refused null) heapInv
        exact if_pos null
      · obtain ⟨untouched, room, copied⟩ := served nonnull
        obtain ⟨c, inOld⟩ := allowed
        refine memory_frame platform allocator memory after all thread own next
          (Function.update memory.heap.blocks old none) inv mine ?_ untouched (by rw [heap]) contents heapInv ?_ ?_
        · intro ptr extent live apart
          have elsewhere : ptr ≠ old := by
            rintro rfl
            exact apart c inOld
          rw [Function.update_of_ne elsewhere]
          exact live
        · rw [heap]
          exact separated_acquire _ _ _ (separated_release _ old inv.separated) room
        · intro ptr extent inHand
          obtain ⟨rfl, rfl⟩ := Prod.mk.inj (Option.some.inj (token.symm.trans inHand))
          rw [view]
          have moved := moved_view_within own.known.view size response nonnull
          refine Eq.subst (motive := fun view => Shows after.bytes response _ view) moved.symm ?_
          exact shows_copied _ _ old _ c _ size _ (inv.hands thread own old c mine inOld) (allocator.covers size _)
            (copied c (hand_live platform allocator memory all thread inv own old c mine inOld))
  | sdallocx ptr size flags =>
      obtain ⟨token, heap⟩ := heapStep
      have inHand : own.token = some (ptr, requestClass allocator size flags) := allowed
      refine memory_frame platform allocator memory after all thread own next
        (Function.update memory.heap.blocks ptr none) inv mine ?_ bytesStep (by rw [heap]) contents heapInv ?_ ?_
      · intro other extent live apart
        have elsewhere : other ≠ ptr := by
          rintro rfl
          exact apart _ inHand
        rw [Function.update_of_ne elsewhere]
        exact live
      · rw [heap]
        exact separated_release _ ptr inv.separated
      · intro other extent held
        rw [token] at held
        cases held

theorem heap_enter_gives (heap next : Heap platform) (op : GlobalOp platform) (token : Option (Nat × Nat))
    (contents : Nat → Nat → Option UInt8) (entered : heapEnter platform allocator heap op token next) :
    next.blocks = heap.blocks ∧ (∀ ptr layout, next.table ptr = some layout → heap.table ptr = some layout) ∧
      ∀ ptr extent, token = some (ptr, extent) → ∃ layout, heap.table ptr = some layout ∧
        extent = layoutClass platform allocator layout ∧ passed platform contents op = contents ptr := by
  have taken : ∀ ptr layout (view : Nat → Option UInt8), heap.table ptr = some layout →
      token = some (ptr, layoutClass platform allocator layout) →
      next = { heap with table := Function.update heap.table ptr none } → view = contents ptr →
      next.blocks = heap.blocks ∧ (∀ ptr layout, next.table ptr = some layout → heap.table ptr = some layout) ∧
        ∀ ptr extent, token = some (ptr, extent) → ∃ layout, heap.table ptr = some layout ∧
          extent = layoutClass platform allocator layout ∧ view = contents ptr := by
    rintro ptr layout view present rfl rfl rfl
    refine ⟨rfl, ?_, ?_⟩
    · intro slot found held
      by_cases same : slot = ptr
      · simp [same] at held
      · simpa [same] using held
    · rintro _ _ ⟨⟩
      exact ⟨layout, present, rfl, rfl⟩
  cases op with
  | alloc layout =>
      obtain ⟨rfl, rfl⟩ := entered
      exact ⟨rfl, fun _ _ held => held, nofun⟩
  | allocZeroed layout =>
      obtain ⟨rfl, rfl⟩ := entered
      exact ⟨rfl, fun _ _ held => held, nofun⟩
  | realloc ptr layout newSize nonzero fits =>
      obtain ⟨present, token, left⟩ := entered
      exact taken ptr layout _ present token left rfl
  | dealloc ptr layout =>
      obtain ⟨present, token, left⟩ := entered
      exact taken ptr layout _ present token left rfl

theorem memory_code_obeys (build : Build) (op : GlobalOp platform) (own : Hand)
    (heapObeys : Obeys (heapProtocol platform allocator) (heapReturns platform allocator op) (heapCode platform build op) own.token)
    (fresh : own.known = ⟨passed platform memory.contents op, passed platform memory.contents op⟩)
    (bounded : ∀ ptr layout newSize nonzero fits, op = .realloc ptr layout newSize nonzero fits →
      ∀ offset byte, memory.contents ptr offset = some byte → offset < layout.val.size) :
    Obeys (memoryProtocol platform allocator) (memoryReturns platform allocator (.global op))
      (memoryCode platform build (.global op)) own := by
  refine obeys_both (heapProtocol platform allocator) (viewProtocol platform) (memoryProtocol platform allocator) Hand.token
    Hand.known _ (fun known value => Knows platform known op value) (fun _ _ allowed _ => allowed)
    (fun _ _ _ _ relied => relied) _ own heapObeys ?_
  -- A program that is run for its token alone says nothing of the view.
  have silent : ∀ {α : Type} (program : Run platform α) (known : Known),
      Obeys (viewProtocol platform) (fun _ _ => True) program known := by
    intro α program
    induction program with
    | ret value => exact fun _ => trivial
    | call command resume ih => exact fun known => ⟨trivial, fun response next _ => ih response next⟩
  cases op with
  | alloc layout => exact silent _ _
  | allocZeroed layout => exact alloc_zeroed_views platform build own.known layout
  | realloc ptr layout newSize nonzero fits =>
      refine realloc_views platform build own.known ptr layout newSize nonzero fits ?_ (by rw [fresh])
      rw [fresh]
      exact bounded ptr layout newSize nonzero fits rfl
  | dealloc ptr layout => exact silent _ _

theorem memory_enter_global (build : Build) (op : GlobalOp platform) (own : Hand)
    (inv : MemoryInv platform allocator memory all) (idle : all thread = none)
    (entered : memoryEnter platform allocator memory (.global op) own after) :
    MemoryInv platform allocator after (Function.update all thread (some own)) ∧
      Obeys (memoryProtocol platform allocator) (memoryReturns platform allocator (.global op))
        (memoryCode platform build (.global op)) own := by
  obtain ⟨heapStep, bytes, contents, fresh⟩ := entered
  have idleToken : tokens all thread = none := by rw [tokens, idle]; rfl
  obtain ⟨heapInv, heapObeys⟩ := (heap_discipline platform allocator build).enter memory.heap (tokens all) thread op own.token
    after.heap inv.heap idleToken heapStep
  obtain ⟨blocks, subset, token⟩ := heap_enter_gives platform allocator _ _ op own.token memory.contents heapStep
  constructor
  · refine ⟨by rw [tokens_update]; exact heapInv, by rw [blocks]; exact inv.separated, ?_, ?_⟩
    · intro other caller ptr extent busy inHand
      rw [bytes]
      by_cases same : other = thread
      · subst other
        rw [Function.update_self, Option.some.injEq] at busy
        subst caller
        obtain ⟨layout, present, rfl, view⟩ := token ptr extent inHand
        rw [fresh, view]
        exact shows_widen _ _ _ _ _ (inv.shelf ptr layout present) (class_covers_layout platform allocator layout)
      · rw [Function.update_of_ne same] at busy
        exact inv.hands other caller ptr extent busy inHand
    · intro ptr layout present
      rw [bytes, contents]
      exact inv.shelf ptr layout (subset ptr layout present)
  · refine memory_code_obeys platform allocator memory build op own heapObeys fresh ?_
    rintro ptr layout newSize nonzero fits rfl offset byte known
    exact (inv.shelf ptr layout heapStep.1 offset byte known).1

theorem memory_enter_write (build : Build) (ptr offset : Nat) (byte : UInt8) (own : Hand)
    (inv : MemoryInv platform allocator memory all) (idle : all thread = none)
    (entered : memoryEnter platform allocator memory (.write ptr offset byte) own after) :
    MemoryInv platform allocator after (Function.update all thread (some own)) ∧
      Obeys (memoryProtocol platform allocator) (memoryReturns platform allocator (.write ptr offset byte))
        (memoryCode platform build (.write ptr offset byte)) own := by
  obtain ⟨⟨layout, present, inside⟩, rfl, rfl⟩ := entered
  refine ⟨?_, rfl⟩
  have idleToken : tokens all thread = none := by rw [tokens, idle]; rfl
  have live := table_class platform allocator _ _ inv.heap ptr layout present
  have room := class_covers_layout platform allocator layout
  refine ⟨by rw [tokens_update]; exact heap_inv_idle platform allocator _ _ thread inv.heap idleToken, inv.separated, ?_, ?_⟩
  · intro other caller start extent busy inHand
    by_cases same : other = thread
    · subst other
      rw [Function.update_self, Option.some.injEq] at busy
      subst caller
      cases inHand
    · rw [Function.update_of_ne same] at busy
      have apart := hand_differs platform allocator memory all other inv caller start extent ptr
        (layoutClass platform allocator layout) busy inHand (.inr ptr) (by simp) (by simp [heapHoldings, tableTokens, present])
      have known := hand_live platform allocator memory all other inv caller start extent busy inHand
      exact shows_store_apart _ start extent ptr _ offset byte _ (inv.hands other caller start extent busy inHand)
        (inv.separated ptr start _ _ live known apart) (Nat.lt_of_lt_of_le inside room)
  · intro slot found held
    dsimp only at held ⊢
    by_cases same : slot = ptr
    · subst slot
      obtain rfl : layout = found := Option.some.inj (present.symm.trans held)
      rw [Function.update_self]
      exact shows_store _ ptr _ offset byte _ (inv.shelf ptr layout present) inside
    · rw [Function.update_of_ne same]
      have known := table_class platform allocator _ _ inv.heap slot found held
      have apart := apart_narrow _ _ _ _ _ _ (inv.separated ptr slot _ _ live known (Ne.symm same)) (Nat.le_refl _)
        (class_covers_layout platform allocator found)
      exact shows_store_apart _ slot _ ptr _ offset byte _ (inv.shelf slot found held) apart
        (Nat.lt_of_lt_of_le inside room)

theorem shelved_record (bytes : Nat → UInt8) (table : Nat → Option (Allocated platform))
    (contents : Nat → Nat → Option UInt8) (ptr : Nat) (layout : Allocated platform) (view : Nat → Option UInt8)
    (shelf : Mirrored platform bytes table contents) (shows : Shows bytes ptr layout.val.size view) :
    Mirrored platform bytes (Function.update table ptr (some layout)) (Function.update contents ptr view) := by
  intro slot found held
  by_cases same : slot = ptr
  · subst slot
    rw [Function.update_self, Option.some.injEq] at held
    subst found
    rwa [Function.update_self]
  · rw [Function.update_of_ne same] at held ⊢
    exact shelf slot found held

theorem settled_shelf (bytes : Nat → UInt8) (ptr : Nat) (served : Allocated platform) (heap refused : Heap platform)
    (fresh : Nat → Option UInt8) (contents refusedContents : Nat → Nat → Option UInt8)
    (refusal : ptr = 0 → Mirrored platform bytes refused.table refusedContents)
    (shelf : Mirrored platform bytes heap.table contents) (shows : ptr ≠ 0 → Shows bytes ptr served.val.size fresh) :
    Mirrored platform bytes (settle platform ptr served heap refused).table (granted ptr fresh contents refusedContents) := by
  by_cases null : ptr = 0
  · rw [settle, if_pos null, granted, if_pos null]
    exact refusal null
  · rw [settle, if_neg null, granted, if_neg null]
    exact shelved_record platform bytes heap.table contents ptr served fresh shelf (shows null)

theorem promised_shows (own : Hand) (ptr : Nat) (served : Allocated platform) (before : Option (Nat × Nat))
    (promise : Nat → Option UInt8) (inv : MemoryInv platform allocator memory all) (mine : all thread = some own)
    (answered : Answered platform allocator before served own.token ptr) (nonnull : ptr ≠ 0)
    (below : Below promise own.known.view)
    (bounded : ∀ offset byte, promise offset = some byte → offset < served.val.size) :
    Shows memory.bytes ptr served.val.size promise := by
  rcases answered with ⟨null, _⟩ | ⟨token, _⟩
  · exact absurd null nonnull
  · exact shows_below _ ptr _ _ promise _ (inv.hands thread own ptr _ mine token) below bounded

theorem memory_leave_global (build : Build) (op : GlobalOp platform) (own : Hand) (value : GlobalResult op)
    (inv : MemoryInv platform allocator memory all) (mine : all thread = some own)
    (returned : memoryReturns platform allocator (.global op) own value)
    (left : memoryLeave platform own memory (.global op) value after) :
    MemoryInv platform allocator after (Function.update all thread none) := by
  obtain ⟨heapLeft, bytes, contents⟩ := left
  obtain ⟨answered, knows⟩ := returned
  have mineToken : tokens all thread = some own.token := by rw [tokens, mine]; rfl
  have heapInv := (heap_discipline platform allocator build).leave memory.heap (tokens all) thread op own.token value
    after.heap inv.heap mineToken answered heapLeft
  have blocks : after.heap.blocks = memory.heap.blocks := by
    cases op <;> simp only [heapLeave, settle, record] at heapLeft <;> rw [heapLeft] <;> split <;> rfl
  refine ⟨by rw [tokens_update]; exact heapInv, by rw [blocks]; exact inv.separated, ?_, ?_⟩
  · intro other caller ptr extent busy inHand
    by_cases same : other = thread
    · subst other
      simp at busy
    · rw [Function.update_of_ne same] at busy
      rw [bytes]
      exact inv.hands other caller ptr extent busy inHand
  · rw [bytes, contents]
    cases op with
    | alloc layout =>
        rw [show after.heap = settle platform value layout memory.heap memory.heap from heapLeft]
        exact settled_shelf platform _ value layout _ _ _ _ _ (fun _ => inv.shelf) inv.shelf fun _ => shows_unknown _ _ _
    | allocZeroed layout =>
        rw [show after.heap = settle platform value layout memory.heap memory.heap from heapLeft]
        refine settled_shelf platform _ value layout _ _ _ _ _ (fun _ => inv.shelf) inv.shelf ?_
        intro nonnull
        exact promised_shows platform allocator memory all thread own value layout none _ inv mine answered nonnull
          (knows nonnull) fun offset byte asked => ((within_iff _ _ _ _).mp asked).1
    | realloc old layout newSize nonzero fits =>
        obtain ⟨bounded, kept, resized⟩ := knows
        rw [show after.heap = settle platform value (resizedLayout platform layout newSize nonzero fits) memory.heap
          (record platform memory.heap old layout) from heapLeft]
        refine settled_shelf platform _ value _ _ _ _ _ _ ?_ inv.shelf ?_
        · intro null
          refine shelved_record platform _ _ _ old layout _ inv.shelf ?_
          rcases answered.1 with ⟨_, token⟩ | ⟨_, fitting⟩
          · rw [← kept null]
            exact shows_below _ old _ _ _ _ (inv.hands thread own old _ mine token) (fun _ _ held => held)
              (by rw [kept null]; exact bounded)
          · exact absurd null fitting.nonnull
        · intro nonnull
          exact promised_shows platform allocator memory all thread own value _ _ _ inv mine answered.1 nonnull
            (resized nonnull) fun offset byte asked =>
              Nat.lt_of_lt_of_le ((within_iff _ _ _ _).mp asked).1 (Nat.min_le_right _ _)
    | dealloc ptr layout =>
        rw [show after.heap = memory.heap from heapLeft]
        exact inv.shelf

theorem memory_leave_write (own : Hand) (inv : MemoryInv platform allocator memory all) (mine : all thread = some own)
    (nothing : own.token = none) : MemoryInv platform allocator memory (Function.update all thread none) := by
  have mineToken : tokens all thread = some none := by rw [tokens, mine, Option.map_some, nothing]
  refine ⟨by rw [tokens_update]; exact heap_inv_finished platform allocator _ _ thread inv.heap mineToken, inv.separated,
    ?_, inv.shelf⟩
  intro other caller ptr extent busy inHand
  by_cases same : other = thread
  · subst other
    simp at busy
  · rw [Function.update_of_ne same] at busy
    exact inv.hands other caller ptr extent busy inHand

end Invariant

theorem memory_inv_start (memory : Memory platform) (empty : memory.heap = ⟨fun _ => none, fun _ => none⟩) :
    MemoryInv platform allocator memory fun _ => none := by
  refine ⟨?_, ?_, nofun, ?_⟩
  · rw [empty]
    exact heap_inv_start platform allocator
  · rw [empty]
    exact separated_empty
  · rw [empty]
    intro ptr layout present
    cases present

theorem memory_discipline (build : Build) :
    Discipline (memorySystem platform allocator build) (fun _ => memoryProtocol platform allocator)
      (memoryReturns platform allocator) (MemoryInv platform allocator) where
  start := fun memory initial => memory_inv_start platform allocator memory initial
  enter := by
    intro memory all thread op own after inv idle entered
    cases op with
    | global op => exact memory_enter_global platform allocator memory after all thread build op own inv idle entered
    | write ptr offset byte =>
        exact memory_enter_write platform allocator memory after all thread build ptr offset byte own inv idle entered
  exec := by
    intro memory all thread op own command response next after inv busy allowed executed
    exact memory_exec_keeps platform allocator memory after all thread own next command response inv busy
      allowed executed
  leave := by
    intro memory all thread op own value after inv busy returned left
    cases op with
    | global op => exact memory_leave_global platform allocator memory after all thread build op own value inv busy returned left
    | write ptr offset byte =>
        rw [show after = memory from left]
        exact memory_leave_write platform allocator memory all thread own inv busy returned

end Memory

theorem global_alloc_contents (platform : Platform) (allocator : Allocator) (build : Build)
    (config : Config (Ffi platform.width) FfiResponse Hand (Memory platform) (MemoryOp platform) MemoryResult)
    (reached : Reachable (memorySystem platform allocator build) config) :
    (∀ ptr layout, config.world.heap.table ptr = some layout → ∀ offset byte, config.world.contents ptr offset = some byte →
      offset < layout.val.size ∧ config.world.bytes (ptr + offset) = byte) ∧
    (∀ ptr other layout second, config.world.heap.table ptr = some layout → config.world.heap.table other = some second →
      ptr ≠ other → Apart ptr layout.val.size other second.val.size) ∧
    (∀ thread (layout : Allocated platform) own (ptr : Nat),
      config.callers thread = some ⟨.global (.allocZeroed layout), own, .ret ptr⟩ → ptr ≠ 0 →
        ∀ offset, offset < layout.val.size → config.world.bytes (ptr + offset) = 0) ∧
    (∀ thread old (layout : Allocated platform) newSize nonzero fits own (ptr : Nat),
      config.callers thread = some ⟨.global (.realloc old layout newSize nonzero fits), own, .ret ptr⟩ →
        (ptr = 0 → ∀ offset byte, own.known.saved offset = some byte → config.world.bytes (old + offset) = byte) ∧
        (ptr ≠ 0 → ∀ offset byte, offset < min layout.val.size newSize → own.known.saved offset = some byte →
          config.world.bytes (ptr + offset) = byte)) := by
  have discipline := memory_discipline platform allocator build
  have inv := discipline_invariant discipline config reached
  refine ⟨inv.shelf, ?_, ?_, ?_⟩
  · intro ptr other layout second first also different
    have live := table_class platform allocator _ _ inv.heap ptr layout first
    have alive := table_class platform allocator _ _ inv.heap other second also
    exact apart_narrow _ _ _ _ _ _ (inv.separated ptr other _ _ live alive different)
      (class_covers_layout platform allocator layout) (class_covers_layout platform allocator second)
  · intro thread layout own ptr done nonnull offset inside
    obtain ⟨answered, knows⟩ := discipline_returned discipline config reached thread (.global (.allocZeroed layout)) own ptr done
    have mine : owns config thread = some own := by rw [owns, done]; rfl
    exact (promised_shows platform allocator _ _ thread own ptr layout none _ inv mine answered nonnull (knows nonnull)
      (fun offset byte asked => ((within_iff _ _ _ _).mp asked).1) offset 0 ((within_iff _ _ _ _).mpr ⟨inside, rfl⟩)).2
  · intro thread old layout newSize nonzero fits own ptr done
    obtain ⟨⟨answered, fitting⟩, _, kept, resized⟩ := discipline_returned discipline config reached thread
      (.global (.realloc old layout newSize nonzero fits)) own ptr done
    have mine : owns config thread = some own := by rw [owns, done]; rfl
    constructor
    · intro null offset byte known
      rcases answered with ⟨_, token⟩ | ⟨_, served⟩
      · rw [← kept null] at known
        exact (inv.hands thread own old _ mine token offset byte known).2
      · exact absurd null served.nonnull
    · intro nonnull offset byte inside known
      refine (promised_shows platform allocator _ _ thread own ptr _ _ _ inv mine answered nonnull (resized nonnull)
        (fun offset byte asked => Nat.lt_of_lt_of_le ((within_iff _ _ _ _).mp asked).1 (Nat.min_le_right _ _)) offset byte
        ((within_iff _ _ _ _).mpr ⟨inside, known⟩)).2

theorem global_alloc_contents_moved :
    ∃ memory : Memory TargetArch.x86_64.platform, memory.contents 256 3 = some 7 ∧ memory.contents 256 4 = some 0 ∧
      memory.bytes 259 = 7 ∧ memory.bytes 260 = 0 := by
  let system := memorySystem TargetArch.x86_64.platform spacedAllocator quietBuild
  let request : MemoryOp TargetArch.x86_64.platform := .global (.allocZeroed smallRequest)
  let growth : MemoryOp TargetArch.x86_64.platform := .global (.realloc 64 smallRequest 40 (by decide) (by decide))
  let zeroes : Nat → UInt8 := fun _ => 0
  let stored : Nat → UInt8 := Function.update zeroes (64 + 3) 7
  let copied : Nat → UInt8 := fun address => if address = 67 ∨ address = 259 then 7 else 0
  let clear : Nat → Option UInt8 := within 24 zeroed
  let nothing : Nat → Option Nat := fun _ => none
  let empty : Nat → Option (Allocated TargetArch.x86_64.platform) := fun _ => none
  let table := Function.update empty 64 (some smallRequest)
  let first := Function.update nothing 64 (some 32)
  let moved := Function.update (Function.update first 64 none) 256 (some 48)
  let contents : Nat → Nat → Option UInt8 := Function.update (fun _ => unknown) 64 clear
  let written : Nat → Nat → Option UInt8 := Function.update contents 64 (Function.update (contents 64) 3 (some 7))
  have start : Reachable system ⟨⟨⟨nothing, empty⟩, zeroes, fun _ => unknown⟩, fun _ => none⟩ := .start _ rfl
  have calling := reachable_enter system _ ⟨⟨nothing, empty⟩, zeroes, fun _ => unknown⟩ _ start 0 request
    ⟨none, unknown, unknown⟩ rfl ⟨⟨rfl, rfl⟩, rfl, rfl, rfl⟩
  have placed : Serves TargetArch.x86_64.platform spacedAllocator nothing 64 24 0x40#32 :=
    ⟨by decide, rfl, trivial, fun _ => ⟨4, rfl⟩⟩
  have served := reachable_exec system _ ⟨⟨first, empty⟩, zeroes, fun _ => unknown⟩ _ calling 0 request _
    ⟨some (64, 32), clear, unknown⟩ (.mallocx 24 0x40#32) _ (64 : Nat) rfl
    ⟨.inr ⟨placed, rfl, rfl⟩, ⟨fun _ _ live => (nomatch live), fun _ => ⟨fun _ _ live => (nomatch live), fun _ _ _ => rfl⟩⟩,
      rfl, rfl⟩
  have left := reachable_leave system _ ⟨⟨first, table⟩, zeroes, contents⟩ _ served 0 request _ (64 : Nat) rfl
    ⟨rfl, rfl, rfl⟩
  have writing := reachable_enter system _ ⟨⟨first, table⟩, stored, written⟩ _ left 0 (.write 64 3 7) ⟨none, unknown, unknown⟩
    rfl ⟨⟨smallRequest, rfl, by decide⟩, rfl, rfl⟩
  have wrote := reachable_leave system _ ⟨⟨first, table⟩, stored, written⟩ _ writing 0 (.write 64 3 7) _ () rfl rfl
  have growing := reachable_enter system _ ⟨⟨first, Function.update table 64 none⟩, stored, written⟩ _ wrote 0 growth
    ⟨some (64, 32), written 64, written 64⟩ rfl ⟨⟨rfl, rfl, rfl⟩, rfl, rfl, rfl⟩
  have replaced : Serves TargetArch.x86_64.platform spacedAllocator (Function.update first 64 none) 256 40 0#32 :=
    ⟨by decide, rfl, trivial, fun _ => ⟨16, rfl⟩⟩
  have freed : Function.update first 64 none = nothing := by
    rw [Function.update_idem]
    exact Function.update_eq_self 64 nothing
  have copies : ∀ extent, first 64 = some extent → ∀ offset, offset < min extent 40 →
      copied (256 + offset) = stored (64 + offset) := by
    intro extent _ offset _
    by_cases third : offset = 3
    · subst offset
      rfl
    · have stays : stored (64 + offset) = 0 := Function.update_of_ne (by omega) _ _
      exact (if_neg (by omega)).trans stays.symm
  have resized := reachable_exec system _ ⟨⟨moved, Function.update table 64 none⟩, copied, written⟩ _ growing 0 growth _
    ⟨some (256, 48), within 40 (written 64), written 64⟩ (.rallocx 64 40 0#32) _ (256 : Nat) rfl
    ⟨.inr ⟨replaced, rfl, rfl⟩,
      ⟨fun null => absurd null (by decide), fun _ =>
        ⟨by rw [freed]; exact fun _ _ live => (nomatch live), by rw [freed]; exact fun _ _ live => (nomatch live), copies⟩⟩,
      rfl, rfl⟩
  have grown := reachable_leave system _
    ⟨⟨moved, Function.update (Function.update table 64 none) 256
      (some (resizedLayout TargetArch.x86_64.platform smallRequest 40 (by decide) (by decide)))⟩, copied,
      Function.update written 256 (within 24 (written 64))⟩ _ resized 0 growth _ (256 : Nat) rfl ⟨rfl, rfl, rfl⟩
  have shown := (global_alloc_contents TargetArch.x86_64.platform spacedAllocator quietBuild _ grown).1 256 _ rfl
  exact ⟨_, rfl, rfl, (shown 3 7 rfl).2, (shown 4 0 rfl).2⟩

end Jevmalloc
