import Jevmalloc.Interaction.Custody
import Jevmalloc.Global

set_option autoImplicit false

namespace Jevmalloc

open Interaction

-- jemalloc as the wrapper sees it. A request that is not servable is refused
-- by every allocating call and rounded to zero by nallocx.
structure Allocator where
  cls : Nat → Option Nat → Nat
  servable : Nat → Option Nat → Prop
  covers : ∀ size alignment, size ≤ cls size alignment

abbrev Allocated (platform : Platform) := { layout : Layout platform.width // 0 < layout.size }

inductive GlobalOp (platform : Platform) where
  | alloc (layout : Allocated platform)
  | allocZeroed (layout : Allocated platform)
  | realloc (ptr : Nat) (layout : Allocated platform) (newSize : Nat) (nonzero : 0 < newSize)
      (fits : Words.roundUp newSize layout.val.align ≤ isizeMax platform.width)
  | dealloc (ptr : Nat) (layout : Allocated platform)

def GlobalResult {platform : Platform} : GlobalOp platform → Type
  | .alloc _ => Nat
  | .allocZeroed _ => Nat
  | .realloc _ _ _ _ _ => Nat
  | .dealloc _ _ => Unit

-- blocks is jemalloc's view, the class of every block it handed out. table is
-- the caller's view, the current layout of every block it may use.
structure Heap (platform : Platform) where
  blocks : Nat → Option Nat
  table : Nat → Option (Allocated platform)

section Heap

variable (platform : Platform) (allocator : Allocator)

def Placed (ptr size : Nat) (flags : CInt) : Prop :=
  match decodeAlignment flags with
  | some align => align ∣ ptr
  | none => platform.quantum ≤ allocator.cls size none → platform.quantum ∣ ptr

def Serves (blocks : Nat → Option Nat) (ptr size : Nat) (flags : CInt) : Prop :=
  ptr ≠ 0 ∧ blocks ptr = none ∧ allocator.servable size (decodeAlignment flags) ∧ Placed platform allocator ptr size flags

def requestClass (size : Nat) (flags : CInt) : Nat := allocator.cls size (decodeAlignment flags)

def heapExec (own : Option (Nat × Nat)) (heap : Heap platform) :
    (command : Ffi platform.width) → FfiResponse command → Option (Nat × Nat) → Heap platform → Prop
  -- Only hooks that return and leave the heap alone are meant here.
  | .hook _, _, next, after => next = own ∧ after = heap
  | .mallocx size flags, ptr, next, after =>
      (ptr = (0 : Nat) ∧ next = own ∧ after = heap) ∨
      (Serves platform allocator heap.blocks ptr size flags ∧ next = some (ptr, requestClass allocator size flags) ∧
        after = { heap with blocks := Function.update heap.blocks ptr (some (requestClass allocator size flags)) })
  | .rallocx old size flags, ptr, next, after =>
      (ptr = (0 : Nat) ∧ next = own ∧ after = heap) ∨
      (Serves platform allocator (Function.update heap.blocks old none) ptr size flags ∧
        next = some (ptr, requestClass allocator size flags) ∧
        after = { heap with
          blocks := Function.update (Function.update heap.blocks old none) ptr (some (requestClass allocator size flags)) })
  | .sdallocx ptr _ _, _, next, after =>
      next = none ∧ after = { heap with blocks := Function.update heap.blocks ptr none }
  | .nallocx size flags, rounded, next, after =>
      (allocator.servable size (decodeAlignment flags) → rounded = requestClass allocator size flags) ∧
      (¬ allocator.servable size (decodeAlignment flags) → rounded = (0 : Nat)) ∧ next = own ∧ after = heap
  | .sallocx ptr _, usable, next, after => heap.blocks ptr = some usable ∧ next = own ∧ after = heap
  | .panic, _, _, _ => False

def adjusted (layout : Allocated platform) : Layout platform.width := adjustLayout platform layout.val layout.property

def layoutClass (layout : Allocated platform) : Nat :=
  requestClass allocator (adjusted platform layout).size (layoutFlags platform (adjusted platform layout))

def resizedLayout (layout : Allocated platform) (newSize : Nat) (nonzero : 0 < newSize)
    (fits : Words.roundUp newSize layout.val.align ≤ isizeMax platform.width) : Allocated platform :=
  ⟨Jemalloc.resized layout.val newSize fits, nonzero⟩

-- The caller obeys GlobalAlloc: it passes the block's current layout and does
-- not touch the block while the call runs.
def heapEnter (heap : Heap platform) : GlobalOp platform → Option (Nat × Nat) → Heap platform → Prop
  | .alloc _, own, after => own = none ∧ after = heap
  | .allocZeroed _, own, after => own = none ∧ after = heap
  | .realloc ptr layout _ _ _, own, after =>
      heap.table ptr = some layout ∧ own = some (ptr, layoutClass platform allocator layout) ∧
        after = { heap with table := Function.update heap.table ptr none }
  | .dealloc ptr layout, own, after =>
      heap.table ptr = some layout ∧ own = some (ptr, layoutClass platform allocator layout) ∧
        after = { heap with table := Function.update heap.table ptr none }

def record (heap : Heap platform) (ptr : Nat) (layout : Allocated platform) : Heap platform :=
  { heap with table := Function.update heap.table ptr (some layout) }

def settle (ptr : Nat) (served : Allocated platform) (heap refused : Heap platform) : Heap platform :=
  if ptr = 0 then refused else record platform heap ptr served

def heapLeave (_own : Option (Nat × Nat)) (heap : Heap platform) :
    (op : GlobalOp platform) → GlobalResult op → Heap platform → Prop
  | .alloc layout, ptr, after => after = settle platform ptr layout heap heap
  | .allocZeroed layout, ptr, after => after = settle platform ptr layout heap heap
  | .realloc old layout newSize nonzero fits, ptr, after =>
      after = settle platform ptr (resizedLayout platform layout newSize nonzero fits) heap (record platform heap old layout)
  | .dealloc _ _, _, after => after = heap

def heapCode (build : Build) : (op : GlobalOp platform) → Run platform (GlobalResult op)
  | .alloc layout => Jemalloc.alloc platform build layout.val layout.property
  | .allocZeroed layout => Jemalloc.allocZeroed platform build layout.val layout.property
  | .realloc ptr layout newSize nonzero fits => Jemalloc.realloc platform build ptr layout.val newSize nonzero fits
  | .dealloc ptr layout => Jemalloc.dealloc platform build ptr layout.val layout.property

def heapSystem (build : Build) :
    System (Ffi platform.width) FfiResponse (Option (Nat × Nat)) (Heap platform) (GlobalOp platform) GlobalResult where
  code := heapCode platform build
  initial heap := heap = ⟨fun _ => none, fun _ => none⟩
  enter := heapEnter platform allocator
  exec := heapExec platform allocator
  leave := heapLeave platform

def heapProtocol : Protocol (Ffi platform.width) FfiResponse (Option (Nat × Nat)) where
  pre own
    | .hook _ => True
    | .mallocx _ _ => own = none
    | .rallocx ptr _ _ => ∃ c, own = some (ptr, c)
    | .sdallocx ptr size flags => own = some (ptr, requestClass allocator size flags)
    | .nallocx _ _ => True
    | .sallocx ptr _ => ∃ c, own = some (ptr, c)
    | .panic => False
  post own
    | .hook _, _, next => next = own
    | .mallocx size flags, ptr, next =>
        (ptr = (0 : Nat) ∧ next = own) ∨
        (ptr ≠ (0 : Nat) ∧ allocator.servable size (decodeAlignment flags) ∧ Placed platform allocator ptr size flags ∧
          next = some (ptr, requestClass allocator size flags))
    | .rallocx _ size flags, ptr, next =>
        (ptr = (0 : Nat) ∧ next = own) ∨
        (ptr ≠ (0 : Nat) ∧ allocator.servable size (decodeAlignment flags) ∧ Placed platform allocator ptr size flags ∧
          next = some (ptr, requestClass allocator size flags))
    | .sdallocx _ _ _, _, next => next = none
    | .nallocx size flags, rounded, next =>
        next = own ∧ (allocator.servable size (decodeAlignment flags) → rounded = requestClass allocator size flags)
    | .sallocx ptr _, usable, next => next = own ∧ ∀ c, own = some (ptr, c) → usable = c
    | .panic, _, _ => False

structure Fitting (ptr : Nat) (layout : Allocated platform) : Prop where
  nonnull : ptr ≠ 0
  aligned : layout.val.align ∣ ptr
  servable : allocator.servable (adjusted platform layout).size
    (decodeAlignment (layoutFlags platform (adjusted platform layout)))

def tableTokens (table : Nat → Option (Allocated platform)) (ptr : Nat) : Option (Nat × Nat) :=
  (table ptr).map fun layout => (ptr, layoutClass platform allocator layout)

def heapHoldings (heap : Heap platform) (all : Nat → Option (Option (Nat × Nat))) : Nat ⊕ Nat → Option (Nat × Nat) :=
  holdings id all (tableTokens platform allocator heap.table)

structure HeapInv (heap : Heap platform) (all : Nat → Option (Option (Nat × Nat))) : Prop where
  custody : Custody heap.blocks (heapHoldings platform allocator heap all)
  fitting : ∀ ptr layout, heap.table ptr = some layout → Fitting platform allocator ptr layout

section Programs

variable (build : Build)

theorem observe_obeys (installed : Bool) (call : HookCall platform.width) (own : Option (Nat × Nat)) :
    Obeys (heapProtocol platform allocator) (fun next _ => next = own) (observe platform installed call) own := by
  cases installed with
  | false => rfl
  | true => exact ⟨trivial, fun _ _ same => same⟩

theorem debug_assert_obeys (holds : Bool) (own : Option (Nat × Nat)) (true_of : holds = true) :
    Obeys (heapProtocol platform allocator) (fun next _ => next = own) (debugAssert platform holds) own := by
  subst holds
  rfl

theorem debug_validate_obeys (ptr : Nat) (layout : Layout platform.width) (flags : CInt) (own : Option (Nat × Nat))
    (block : ptr ≠ 0 → own = some (ptr, requestClass allocator layout.size flags) ∧ layout.align ∣ ptr ∧
      allocator.servable layout.size (decodeAlignment flags)) :
    Obeys (heapProtocol platform allocator) (fun next _ => next = own)
      (Jemalloc.debugValidate platform build ptr layout flags) own := by
  unfold Jemalloc.debugValidate
  by_cases null : ptr = 0
  · rw [if_pos null]
    rfl
  · rw [if_neg null]
    obtain ⟨inHand, aligned, servable⟩ := block null
    cases build.debugAssertions with
    | false => rfl
    | true =>
        have covers := allocator.covers layout.size (decodeAlignment flags)
        refine obeys_perform_bind _ _ _ _ _ trivial ?_
        rintro rounded _ ⟨rfl, exact⟩
        refine obeys_bind _ _ _ _ _ _ (debug_assert_obeys platform allocator _ _ ?_) ?_
        · rw [exact servable]
          exact decide_eq_true covers
        · rintro _ _ rfl
          refine obeys_bind _ _ _ _ _ _ (debug_assert_obeys platform allocator _ _ ?_) ?_
          · exact decide_eq_true (Nat.mod_eq_zero_of_dvd aligned)
          · rintro _ _ rfl
            refine obeys_perform_bind _ _ _ _ _ ⟨_, inHand⟩ ?_
            rintro usable _ ⟨rfl, same⟩
            refine debug_assert_obeys platform allocator _ _ ?_
            rw [same _ inHand]
            exact decide_eq_true covers

theorem placed_aligned (layout : Allocated platform) (ptr : Nat) (flags : CInt)
    (same : decodeAlignment flags = decodeAlignment (layoutFlags platform (adjusted platform layout)))
    (placed : Placed platform allocator ptr (adjusted platform layout).size flags) : layout.val.align ∣ ptr := by
  have large : platform.quantum ≤ allocator.cls (adjusted platform layout).size none :=
    Nat.le_trans (Nat.le_max_right layout.val.size platform.quantum) (allocator.covers _ none)
  unfold Placed at placed
  rw [same] at placed
  rcases layout_flags_cases platform (adjusted platform layout) with ⟨dropped, below, _⟩ | ⟨_, one⟩ | ⟨_, _, decoded⟩
  · rw [dropped, zero_word_alignment] at placed
    exact Nat.dvd_trans (align_below_quantum platform _ layout.val.power below) (placed large)
  · have single : layout.val.align = 1 := one
    rw [single]
    exact Nat.one_dvd ptr
  · rw [decoded] at placed
    exact placed

def Answered (before : Option (Nat × Nat)) (layout : Allocated platform) (next : Option (Nat × Nat)) (ptr : Nat) : Prop :=
  (ptr = 0 ∧ next = before) ∨ (next = some (ptr, layoutClass platform allocator layout) ∧ Fitting platform allocator ptr layout)

theorem request_answered (before next : Option (Nat × Nat)) (layout : Allocated platform) (ptr : Nat) (flags : CInt)
    (same : decodeAlignment flags = decodeAlignment (layoutFlags platform (adjusted platform layout)))
    (served : (ptr = 0 ∧ next = before) ∨
      (ptr ≠ 0 ∧ allocator.servable (adjusted platform layout).size (decodeAlignment flags) ∧
        Placed platform allocator ptr (adjusted platform layout).size flags ∧
        next = some (ptr, requestClass allocator (adjusted platform layout).size flags))) :
    Obeys (heapProtocol platform allocator) (Answered platform allocator before layout)
      (Jemalloc.debugValidate platform build ptr (adjusted platform layout) flags >>= fun _ => .ret ptr) next := by
  rcases served with ⟨null, rfl⟩ | ⟨nonnull, servable, placed, rfl⟩
  · refine obeys_bind _ _ _ _ _ _ (debug_validate_obeys platform allocator build ptr _ flags next ?_) ?_
    · intro nonnull
      exact absurd null nonnull
    · rintro _ _ rfl
      exact .inl ⟨null, rfl⟩
  · have aligned := placed_aligned platform allocator layout ptr flags same placed
    refine obeys_bind _ _ _ _ _ _ (debug_validate_obeys platform allocator build ptr _ flags _ ?_) ?_
    · intro _
      exact ⟨rfl, aligned, servable⟩
    · rintro _ _ rfl
      refine .inr ⟨?_, nonnull, aligned, ?_⟩
      · rw [layoutClass, requestClass, requestClass, same]
      · rw [← same]
        exact servable

theorem alloc_obeys (layout : Allocated platform) :
    Obeys (heapProtocol platform allocator) (Answered platform allocator none layout)
      (Jemalloc.alloc platform build layout.val layout.property) none := by
  refine obeys_bind _ _ _ _ _ _ (observe_obeys platform allocator _ _ _) ?_
  rintro _ _ rfl
  refine obeys_perform_bind _ _ _ _ _ rfl ?_
  intro ptr next served
  exact request_answered platform allocator build none next layout ptr _ rfl served

theorem alloc_zeroed_obeys (layout : Allocated platform) :
    Obeys (heapProtocol platform allocator) (Answered platform allocator none layout)
      (Jemalloc.allocZeroed platform build layout.val layout.property) none := by
  refine obeys_bind _ _ _ _ _ _ (observe_obeys platform allocator _ _ _) ?_
  rintro _ _ rfl
  refine obeys_perform_bind _ _ _ _ _ rfl ?_
  intro ptr next served
  exact request_answered platform allocator build none next layout ptr _ (decode_alignment_zero_bit _) served

theorem realloc_obeys (old c : Nat) (layout : Allocated platform) (newSize : Nat) (nonzero : 0 < newSize)
    (fits : Words.roundUp newSize layout.val.align ≤ isizeMax platform.width) :
    Obeys (heapProtocol platform allocator)
      (Answered platform allocator (some (old, c)) (resizedLayout platform layout newSize nonzero fits))
      (Jemalloc.realloc platform build old layout.val newSize nonzero fits) (some (old, c)) := by
  refine obeys_bind _ _ _ _ _ _ (observe_obeys platform allocator _ _ _) ?_
  rintro _ _ rfl
  refine obeys_perform_bind _ _ _ _ _ ⟨c, rfl⟩ ?_
  intro ptr next served
  exact request_answered platform allocator build _ next (resizedLayout platform layout newSize nonzero fits) ptr _ rfl served

theorem dealloc_obeys (ptr : Nat) (layout : Allocated platform) (fitting : Fitting platform allocator ptr layout) :
    Obeys (heapProtocol platform allocator) (fun next _ => next = none)
      (Jemalloc.dealloc platform build ptr layout.val layout.property)
      (some (ptr, layoutClass platform allocator layout)) := by
  refine obeys_bind _ _ _ _ _ _ (observe_obeys platform allocator _ _ _) ?_
  rintro _ _ rfl
  refine obeys_bind _ _ _ _ _ _ (debug_validate_obeys platform allocator build ptr _ _ _ ?_) ?_
  · intro _
    exact ⟨rfl, fitting.aligned, fitting.servable⟩
  · rintro _ _ rfl
    exact obeys_perform _ _ _ _ rfl fun _ _ freed => freed

end Programs

def heapReturns : (op : GlobalOp platform) → Option (Nat × Nat) → GlobalResult op → Prop
  | .alloc layout, own, ptr => Answered platform allocator none layout own ptr
  | .allocZeroed layout, own, ptr => Answered platform allocator none layout own ptr
  | .realloc old layout newSize nonzero fits, own, ptr =>
      Answered platform allocator (some (old, layoutClass platform allocator layout))
        (resizedLayout platform layout newSize nonzero fits) own ptr ∧ Fitting platform allocator old layout
  | .dealloc _ _, own, _ => own = none

theorem table_tokens_update (table : Nat → Option (Allocated platform)) (ptr : Nat) (content : Option (Allocated platform)) :
    tableTokens platform allocator (Function.update table ptr content) =
      Function.update (tableTokens platform allocator table) ptr
        (content.map fun layout => (ptr, layoutClass platform allocator layout)) := by
  funext other
  by_cases same : other = ptr
  · subst other
    simp [tableTokens]
  · simp [tableTokens, same]

theorem heap_inv_start : HeapInv platform allocator ⟨fun _ => none, fun _ => none⟩ fun _ => none := by
  refine ⟨?_, by simp⟩
  have nothing : heapHoldings platform allocator ⟨fun _ => none, fun _ => none⟩ (fun _ => none) = fun _ => none := by
    funext holder
    cases holder <;> rfl
  rw [nothing]
  exact custody_empty

variable (heap : Heap platform) (all : Nat → Option (Option (Nat × Nat))) (thread : Nat)

theorem heap_inv_idle (inv : HeapInv platform allocator heap all) (idle : all thread = none) :
    HeapInv platform allocator heap (Function.update all thread (some none)) := by
  refine ⟨?_, inv.fitting⟩
  have empty : heapHoldings platform allocator heap all (.inl thread) = none := by simp [heapHoldings, holdings_caller, idle]
  rw [heapHoldings, holdings_update_caller, ← heapHoldings]
  simpa [← empty] using inv.custody

theorem heap_inv_finished (inv : HeapInv platform allocator heap all) (busy : all thread = some none) :
    HeapInv platform allocator heap (Function.update all thread none) := by
  refine ⟨?_, inv.fitting⟩
  have empty : heapHoldings platform allocator heap all (.inl thread) = none := by simp [heapHoldings, holdings_caller, busy]
  rw [heapHoldings, holdings_update_caller, ← heapHoldings]
  simpa [← empty] using inv.custody

theorem heap_inv_take (ptr : Nat) (layout : Allocated platform) (inv : HeapInv platform allocator heap all)
    (idle : all thread = none) (present : heap.table ptr = some layout) :
    HeapInv platform allocator { heap with table := Function.update heap.table ptr none }
      (Function.update all thread (some (some (ptr, layoutClass platform allocator layout)))) := by
  constructor
  · have empty : heapHoldings platform allocator heap all (.inl thread) = none := by simp [heapHoldings, holdings_caller, idle]
    have token : heapHoldings platform allocator heap all (.inr ptr) =
        some (ptr, layoutClass platform allocator layout) := by simp [heapHoldings, tableTokens, present]
    have moved := custody_transfer inv.custody (.inr ptr) (.inl thread) empty
    rw [token] at moved
    rw [heapHoldings, holdings_update_caller, table_tokens_update, holdings_update_shelf, ← heapHoldings]
    exact moved
  · intro other found known
    by_cases same : other = ptr
    · subst other
      simp at known
    · exact inv.fitting other found (by simpa [same] using known)

theorem heap_inv_record (ptr : Nat) (layout : Allocated platform) (inv : HeapInv platform allocator heap all)
    (busy : all thread = some (some (ptr, layoutClass platform allocator layout)))
    (fitting : Fitting platform allocator ptr layout) :
    HeapInv platform allocator (record platform heap ptr layout) (Function.update all thread none) := by
  have token : heapHoldings platform allocator heap all (.inl thread) =
      some (ptr, layoutClass platform allocator layout) := by simp [heapHoldings, holdings_caller, busy]
  constructor
  · have empty : heapHoldings platform allocator heap all (.inr ptr) = none := by
      cases found : heap.table ptr with
      | none => simp [heapHoldings, tableTokens, found]
      | some other =>
          have also : heapHoldings platform allocator heap all (.inr ptr) =
              some (ptr, layoutClass platform allocator other) := by simp [heapHoldings, tableTokens, found]
          cases inv.custody.exclusive _ _ _ _ _ token also
    have moved := custody_transfer inv.custody (.inl thread) (.inr ptr) empty
    rw [token] at moved
    rw [record, heapHoldings, holdings_update_caller, table_tokens_update, holdings_update_shelf, ← heapHoldings,
      Function.update_comm (by simp)]
    exact moved
  · intro other found known
    by_cases same : other = ptr
    · subst other
      have equal : layout = found := by simpa [record] using known
      rwa [← equal]
    · exact inv.fitting other found (by simpa [record, same] using known)

theorem heap_inv_serve (ptr c : Nat) (inv : HeapInv platform allocator heap all) (busy : all thread = some none)
    (free : heap.blocks ptr = none) :
    HeapInv platform allocator { heap with blocks := Function.update heap.blocks ptr (some c) }
      (Function.update all thread (some (some (ptr, c)))) := by
  refine ⟨?_, inv.fitting⟩
  have empty : heapHoldings platform allocator heap all (.inl thread) = none := by simp [heapHoldings, holdings_caller, busy]
  have gained := custody_acquire inv.custody (.inl thread) ptr c empty free
  rw [heapHoldings, holdings_update_caller, ← heapHoldings]
  exact gained

theorem heap_inv_free (ptr c : Nat) (inv : HeapInv platform allocator heap all)
    (busy : all thread = some (some (ptr, c))) :
    HeapInv platform allocator { heap with blocks := Function.update heap.blocks ptr none }
      (Function.update all thread (some none)) := by
  refine ⟨?_, inv.fitting⟩
  have token : heapHoldings platform allocator heap all (.inl thread) = some (ptr, c) := by simp [heapHoldings, holdings_caller, busy]
  have lost := custody_release inv.custody (.inl thread) ptr c token
  rw [heapHoldings, holdings_update_caller, ← heapHoldings]
  exact lost

theorem heap_exec_keeps (own next : Option (Nat × Nat)) (command : Ffi platform.width) (response : FfiResponse command)
    (after : Heap platform) (inv : HeapInv platform allocator heap all) (busy : all thread = some own)
    (allowed : (heapProtocol platform allocator).pre own command)
    (executed : heapExec platform allocator own heap command response next after) :
    (heapProtocol platform allocator).post own command response next ∧
      HeapInv platform allocator after (Function.update all thread (some next)) := by
  have unchanged : Function.update all thread (some own) = all := by rw [← busy, Function.update_eq_self]
  cases command with
  | hook call =>
      obtain ⟨rfl, rfl⟩ := executed
      exact ⟨rfl, by rwa [unchanged]⟩
  | mallocx size flags =>
      rcases executed with ⟨null, rfl, rfl⟩ | ⟨⟨nonnull, free, servable, placed⟩, rfl, rfl⟩
      · exact ⟨.inl ⟨null, rfl⟩, by rwa [unchanged]⟩
      · have none_in_hand : own = none := allowed
        subst own
        exact ⟨.inr ⟨nonnull, servable, placed, rfl⟩, heap_inv_serve platform allocator heap all thread _ _ inv busy free⟩
  | rallocx old size flags =>
      rcases executed with ⟨null, rfl, rfl⟩ | ⟨⟨nonnull, free, servable, placed⟩, rfl, rfl⟩
      · exact ⟨.inl ⟨null, rfl⟩, by rwa [unchanged]⟩
      · obtain ⟨c, rfl⟩ := allowed
        have freed := heap_inv_free platform allocator heap all thread old c inv busy
        have served := heap_inv_serve platform allocator _ _ thread response (requestClass allocator size flags) freed
          (by simp) free
        rw [Function.update_idem] at served
        exact ⟨.inr ⟨nonnull, servable, placed, rfl⟩, served⟩
  | sdallocx ptr size flags =>
      obtain ⟨rfl, rfl⟩ := executed
      have in_hand : own = some (ptr, requestClass allocator size flags) := allowed
      subst own
      exact ⟨rfl, heap_inv_free platform allocator heap all thread ptr _ inv busy⟩
  | nallocx size flags =>
      obtain ⟨exact, _, rfl, rfl⟩ := executed
      exact ⟨⟨rfl, exact⟩, by rwa [unchanged]⟩
  | sallocx ptr flags =>
      obtain ⟨usable, rfl, rfl⟩ := executed
      refine ⟨⟨rfl, ?_⟩, by rwa [unchanged]⟩
      intro c in_hand
      have live := inv.custody.sound (.inl thread) ptr c (by simp [heapHoldings, holdings_caller, busy, in_hand])
      exact Option.some.inj (usable.symm.trans live)
  | panic => cases response

theorem heap_leave_answered (own : Option (Nat × Nat)) (layout : Allocated platform) (ptr : Nat)
    (inv : HeapInv platform allocator heap all) (busy : all thread = some own)
    (answered : Answered platform allocator none layout own ptr) :
    HeapInv platform allocator (settle platform ptr layout heap heap) (Function.update all thread none) := by
  rcases answered with ⟨rfl, rfl⟩ | ⟨rfl, fitting⟩
  · exact heap_inv_finished platform allocator heap all thread inv busy
  · rw [settle, if_neg fitting.nonnull]
    exact heap_inv_record platform allocator heap all thread ptr layout inv busy fitting

theorem heap_leave_resized (own : Option (Nat × Nat)) (old : Nat) (before after : Allocated platform) (ptr : Nat)
    (inv : HeapInv platform allocator heap all) (busy : all thread = some own)
    (answered : Answered platform allocator (some (old, layoutClass platform allocator before)) after own ptr)
    (fitting : Fitting platform allocator old before) :
    HeapInv platform allocator (settle platform ptr after heap (record platform heap old before))
      (Function.update all thread none) := by
  rcases answered with ⟨rfl, rfl⟩ | ⟨rfl, served⟩
  · exact heap_inv_record platform allocator heap all thread old before inv busy fitting
  · rw [settle, if_neg served.nonnull]
    exact heap_inv_record platform allocator heap all thread ptr after inv busy served

theorem heap_discipline (build : Build) :
    Discipline (heapSystem platform allocator build) (fun _ => heapProtocol platform allocator)
      (heapReturns platform allocator) (HeapInv platform allocator) where
  start := by
    rintro world rfl
    exact heap_inv_start platform allocator
  enter := by
    intro heap all thread op own after inv idle entered
    cases op with
    | alloc layout =>
        obtain ⟨rfl, rfl⟩ := entered
        exact ⟨heap_inv_idle platform allocator _ all thread inv idle, alloc_obeys platform allocator build layout⟩
    | allocZeroed layout =>
        obtain ⟨rfl, rfl⟩ := entered
        exact ⟨heap_inv_idle platform allocator _ all thread inv idle, alloc_zeroed_obeys platform allocator build layout⟩
    | realloc ptr layout newSize nonzero fits =>
        obtain ⟨present, rfl, rfl⟩ := entered
        refine ⟨heap_inv_take platform allocator heap all thread ptr layout inv idle present, ?_⟩
        refine obeys_weaken _ _ _ _ _ (realloc_obeys platform allocator build ptr _ layout newSize nonzero fits) ?_
        intro own value answered
        exact ⟨answered, inv.fitting ptr layout present⟩
    | dealloc ptr layout =>
        obtain ⟨present, rfl, rfl⟩ := entered
        exact ⟨heap_inv_take platform allocator heap all thread ptr layout inv idle present,
          dealloc_obeys platform allocator build ptr layout (inv.fitting ptr layout present)⟩
  exec := by
    intro heap all thread _ own command response next after inv busy allowed executed
    exact heap_exec_keeps platform allocator heap all thread own next command response after inv busy allowed executed
  leave := by
    intro heap all thread op own value after inv busy returned left
    cases op with
    | alloc layout =>
        subst left
        exact heap_leave_answered platform allocator heap all thread own layout value inv busy returned
    | allocZeroed layout =>
        subst left
        exact heap_leave_answered platform allocator heap all thread own layout value inv busy returned
    | realloc ptr layout newSize nonzero fits =>
        subst left
        exact heap_leave_resized platform allocator heap all thread own ptr layout _ value inv busy returned.1 returned.2
    | dealloc ptr layout =>
        have none_in_hand : own = none := returned
        have same : after = heap := left
        subst own after
        exact heap_inv_finished platform allocator heap all thread inv busy

end Heap

theorem table_class (platform : Platform) (allocator : Allocator) (heap : Heap platform)
    (all : Nat → Option (Option (Nat × Nat))) (inv : HeapInv platform allocator heap all) (ptr : Nat)
    (layout : Allocated platform) (present : heap.table ptr = some layout) :
    heap.blocks ptr = some (layoutClass platform allocator layout) :=
  inv.custody.sound (.inr ptr) ptr _ (by simp [heapHoldings, tableTokens, present])

theorem class_covers_layout (platform : Platform) (allocator : Allocator) (layout : Allocated platform) :
    layout.val.size ≤ layoutClass platform allocator layout :=
  Nat.le_trans (Nat.le_max_left layout.val.size platform.quantum) (allocator.covers _ _)

-- Calls may overlap in any way: a history of one caller after another is the
-- run in which a single thread takes every step.
theorem global_alloc_classes (platform : Platform) (allocator : Allocator) (build : Build)
    (config : Config (Ffi platform.width) FfiResponse (Option (Nat × Nat)) (Heap platform) (GlobalOp platform) GlobalResult)
    (reached : Reachable (heapSystem platform allocator build) config) :
    (∀ ptr layout, config.world.table ptr = some layout →
      config.world.blocks ptr = some (layoutClass platform allocator layout) ∧ layout.val.align ∣ ptr ∧
        layout.val.size ≤ layoutClass platform allocator layout) ∧
    ((∀ thread, config.callers thread = none) → ∀ ptr c, config.world.blocks ptr = some c →
      ∃ layout, config.world.table ptr = some layout ∧ c = layoutClass platform allocator layout) ∧
    (∀ thread op own ptr size flags resume,
      config.callers thread = some ⟨op, own, .call (.sdallocx ptr size flags) resume⟩ →
        config.world.blocks ptr = some (requestClass allocator size flags)) ∧
    (∀ thread op own resume, config.callers thread ≠ some ⟨op, own, .call .panic resume⟩) := by
  have discipline := heap_discipline platform allocator build
  have inv := discipline_invariant discipline config reached
  refine ⟨?_, ?_, ?_, ?_⟩
  · intro ptr layout present
    exact ⟨table_class platform allocator _ _ inv ptr layout present, (inv.fitting ptr layout present).aligned,
      class_covers_layout platform allocator layout⟩
  · intro idle ptr c live
    obtain ⟨holder, holds⟩ := inv.custody.complete ptr c live
    cases holder with
    | inl thread => simp [heapHoldings, holdings_caller, owns, idle thread] at holds
    | inr slot =>
        cases found : config.world.table slot with
        | none => simp [heapHoldings, tableTokens, found] at holds
        | some layout =>
            simp only [heapHoldings, holdings_shelf, tableTokens, found, Option.map_some, Option.some.injEq,
              Prod.mk.injEq] at holds
            obtain ⟨rfl, rfl⟩ := holds
            exact ⟨layout, found, rfl⟩
  · intro thread op own ptr size flags resume busy
    have in_hand : own = some (ptr, requestClass allocator size flags) :=
      discipline_pending discipline config reached thread op own _ resume busy
    exact inv.custody.sound (.inl thread) ptr _ (by simp [heapHoldings, holdings_caller, owns, busy, in_hand])
  · intro thread op own resume busy
    exact discipline_pending discipline config reached thread op own _ resume busy

def spacedAllocator : Allocator where
  cls size _ := Words.roundUp size 16
  servable _ _ := True
  covers size _ := Words.round_up_covers size 16 (by decide)

def quietBuild : Build := ⟨false, false, false, false, false⟩

def smallRequest : Allocated TargetArch.x86_64.platform := ⟨⟨24, 8, ⟨3, by decide, rfl⟩, by decide⟩, by decide⟩

def grownRequest : Allocated TargetArch.x86_64.platform :=
  resizedLayout TargetArch.x86_64.platform smallRequest 40 (by decide) (by decide)

theorem global_alloc_classes_small :
    ∃ small grown freeing freed, (∀ config ∈ [small, grown, freeing, freed],
        Reachable (heapSystem TargetArch.x86_64.platform spacedAllocator quietBuild) config) ∧
      (small.world.table 64 = some smallRequest ∧
        small.world.blocks 64 = some (layoutClass TargetArch.x86_64.platform spacedAllocator smallRequest) ∧ 8 ∣ 64) ∧
      (grown.world.table 64 = none ∧ grown.world.table 256 = some grownRequest ∧
        grown.world.blocks 256 = some (layoutClass TargetArch.x86_64.platform spacedAllocator grownRequest)) ∧
      (∃ resume, freeing.callers 0 = some ⟨.dealloc 256 grownRequest, some (256, 48), .call (.sdallocx 256 40 0#32) resume⟩ ∧
        freeing.world.blocks 256 = some (requestClass spacedAllocator 40 0#32)) ∧
      ∀ ptr, freed.world.blocks ptr = none := by
  let system := heapSystem TargetArch.x86_64.platform spacedAllocator quietBuild
  let request : GlobalOp TargetArch.x86_64.platform := .alloc smallRequest
  let growth : GlobalOp TargetArch.x86_64.platform := .realloc 64 smallRequest 40 (by decide) (by decide)
  let release : GlobalOp TargetArch.x86_64.platform := .dealloc 256 grownRequest
  let nothing : Nat → Option Nat := fun _ => none
  let empty : Nat → Option (Allocated TargetArch.x86_64.platform) := fun _ => none
  let first := Function.update nothing 64 (some 32)
  let moved := Function.update (Function.update first 64 none) 256 (some 48)
  let table := Function.update empty 64 (some smallRequest)
  let after := Function.update (Function.update table 64 none) 256 (some grownRequest)
  have start : Reachable system ⟨⟨nothing, empty⟩, fun _ => none⟩ := .start _ rfl
  have calling := reachable_enter system _ ⟨nothing, empty⟩ _ start 0 request none rfl ⟨rfl, rfl⟩
  have placed : Serves TargetArch.x86_64.platform spacedAllocator nothing 64 24 0#32 :=
    ⟨by decide, rfl, trivial, fun _ => ⟨4, rfl⟩⟩
  have served := reachable_exec system _ ⟨first, empty⟩ _ calling 0 request none _ (.mallocx 24 0#32) _ (64 : Nat) rfl
    (.inr ⟨placed, rfl, rfl⟩)
  have left := reachable_leave system _ ⟨first, table⟩ _ served 0 request _ (64 : Nat) rfl rfl
  have growing := reachable_enter system _ ⟨first, Function.update table 64 none⟩ _ left 0 growth (some (64, 32)) rfl
    ⟨rfl, rfl, rfl⟩
  have replaced : Serves TargetArch.x86_64.platform spacedAllocator (Function.update first 64 none) 256 40 0#32 :=
    ⟨by decide, rfl, trivial, fun _ => ⟨16, rfl⟩⟩
  have resized := reachable_exec system _ ⟨moved, Function.update table 64 none⟩ _ growing 0 growth _ (some (256, 48))
    (.rallocx 64 40 0#32) _ (256 : Nat) rfl (.inr ⟨replaced, rfl, rfl⟩)
  have grown := reachable_leave system _ ⟨moved, after⟩ _ resized 0 growth _ (256 : Nat) rfl rfl
  have freeing := reachable_enter system _ ⟨moved, Function.update after 256 none⟩ _ grown 0 release (some (256, 48)) rfl
    ⟨rfl, rfl, rfl⟩
  have released := reachable_exec system _ ⟨Function.update moved 256 none, Function.update after 256 none⟩ _ freeing 0 release _
    none (.sdallocx 256 40 0#32) _ () rfl ⟨rfl, rfl⟩
  have freed := reachable_leave system _ ⟨Function.update moved 256 none, Function.update after 256 none⟩ _ released 0 release _
    () rfl rfl
  have small := (global_alloc_classes TargetArch.x86_64.platform spacedAllocator quietBuild _ left).1 64 smallRequest rfl
  have large := (global_alloc_classes TargetArch.x86_64.platform spacedAllocator quietBuild _ grown).1 256 grownRequest rfl
  have asked := (global_alloc_classes TargetArch.x86_64.platform spacedAllocator quietBuild _ freeing).2.2.1 0 release _ 256 40
    0#32 _ rfl
  have cleared : Function.update table 64 none = empty := (Function.update_idem _ _ _).trans (Function.update_eq_self 64 empty)
  have unlisted : Function.update after 256 none = empty := by
    rw [Function.update_idem, cleared]
    exact Function.update_eq_self 256 empty
  have drained : ∀ ptr c, Function.update moved 256 none ptr = some c → ∃ layout, Function.update after 256 none ptr = some layout ∧
      c = layoutClass TargetArch.x86_64.platform spacedAllocator layout := by
    refine (global_alloc_classes TargetArch.x86_64.platform spacedAllocator quietBuild _ freed).2.1 ?_
    intro thread
    by_cases same : thread = 0
    · simp [same]
    · simp [same]
  have reached : ∀ config ∈ [_, _, _, _], Reachable system config :=
    List.forall_mem_cons.mpr ⟨left, List.forall_mem_cons.mpr ⟨grown, List.forall_mem_cons.mpr ⟨freeing,
      List.forall_mem_singleton.mpr freed⟩⟩⟩
  refine ⟨_, _, _, _, reached, ⟨rfl, small.1, small.2.1⟩, ⟨rfl, rfl, large.1⟩, ⟨_, rfl, asked⟩, ?_⟩
  intro ptr
  cases live : Function.update moved 256 none ptr with
  | none => exact live
  | some c =>
      obtain ⟨layout, present, _⟩ := drained ptr c live
      cases present.symm.trans (congrFun unlisted ptr)

end Jevmalloc
