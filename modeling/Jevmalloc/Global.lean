import Jevmalloc.Interaction.Pool
import Jevmalloc.Layout

set_option autoImplicit false

namespace Jevmalloc

open Interaction

-- Null is address zero and is jemalloc's failure signal.
inductive HookCall (width : Width) where
  | alloc (layout : Layout width)
  | allocZeroed (layout : Layout width)
  | realloc (layout : Layout width) (ptr newSize : Nat)
  | dealloc (layout : Layout width) (ptr : Nat)

inductive Ffi (width : Width) where
  | hook (call : HookCall width)
  | mallocx (size : Nat) (flags : CInt)
  | rallocx (ptr size : Nat) (flags : CInt)
  | sdallocx (ptr size : Nat) (flags : CInt)
  | nallocx (size : Nat) (flags : CInt)
  | sallocx (ptr : Nat) (flags : CInt)
  | panic

def FfiResponse {width : Width} : Ffi width → Type
  | .hook _ => Unit
  | .mallocx _ _ => Nat
  | .rallocx _ _ _ => Nat
  | .sdallocx _ _ _ => Unit
  | .nallocx _ _ => Nat
  | .sallocx _ _ => Nat
  | .panic => Empty

-- Build options of the crate: debug assertions, and which observation slots
-- hold a callback (none without the global_hooks feature).
structure Build where
  debugAssertions : Bool
  allocHook : Bool
  allocZeroedHook : Bool
  reallocHook : Bool
  deallocHook : Bool
deriving DecidableEq, Repr

abbrev Run (platform : Platform) (α : Type) := Program (Ffi platform.width) FfiResponse α

section Entry

variable (platform : Platform)

def mallocx (size : Nat) (flags : CInt) : Run platform Nat := .call (.mallocx size flags) .ret
def rallocx (ptr size : Nat) (flags : CInt) : Run platform Nat := .call (.rallocx ptr size flags) .ret
def sdallocx (ptr size : Nat) (flags : CInt) : Run platform Unit := .call (.sdallocx ptr size flags) .ret
def nallocx (size : Nat) (flags : CInt) : Run platform Nat := .call (.nallocx size flags) .ret
def sallocx (ptr : Nat) (flags : CInt) : Run platform Nat := .call (.sallocx ptr flags) .ret

def observe (installed : Bool) (call : HookCall platform.width) : Run platform Unit :=
  if installed then .call (.hook call) .ret else .ret ()

def debugAssert (holds : Bool) : Run platform Unit :=
  if holds then .ret () else .call .panic nofun

end Entry

namespace Jemalloc

variable (platform : Platform) (build : Build)

def debugValidate (ptr : Nat) (layout : Layout platform.width) (flags : CInt) : Run platform Unit :=
  if ptr = 0 then .ret ()
  else if build.debugAssertions then do
    let rounded ← nallocx platform layout.size flags
    debugAssert platform (layout.size ≤ rounded)
    debugAssert platform (ptr % layout.align = 0)
    let usable ← sallocx platform ptr flags
    debugAssert platform (layout.size ≤ usable)
  else .ret ()

def alloc (layout : Layout platform.width) (nonzero : 0 < layout.size) : Run platform Nat := do
  observe platform build.allocHook (.alloc layout)
  let layout := adjustLayout platform layout nonzero
  let flags := layoutFlags platform layout
  let ptr ← mallocx platform layout.size flags
  debugValidate platform build ptr layout flags
  return ptr

def allocZeroed (layout : Layout platform.width) (nonzero : 0 < layout.size) : Run platform Nat := do
  observe platform build.allocZeroedHook (.allocZeroed layout)
  let layout := adjustLayout platform layout nonzero
  let flags := layoutFlags platform layout ||| mallocxZero
  let ptr ← mallocx platform layout.size flags
  debugValidate platform build ptr layout flags
  return ptr

def resized {width : Width} (layout : Layout width) (newSize : Nat)
    (fits : Words.roundUp newSize layout.align ≤ isizeMax width) : Layout width :=
  .fromSizeAlignUnchecked newSize layout.align layout.power fits

def realloc (ptr : Nat) (layout : Layout platform.width) (newSize : Nat) (nonzero : 0 < newSize)
    (fits : Words.roundUp newSize layout.align ≤ isizeMax platform.width) : Run platform Nat := do
  observe platform build.reallocHook (.realloc layout ptr newSize)
  let layout := resized layout newSize fits
  let layout := adjustLayout platform layout nonzero
  let flags := layoutFlags platform layout
  let ptr ← rallocx platform ptr layout.size flags
  debugValidate platform build ptr layout flags
  return ptr

def dealloc (ptr : Nat) (layout : Layout platform.width) (nonzero : 0 < layout.size) : Run platform Unit := do
  observe platform build.deallocHook (.dealloc layout ptr)
  let layout := adjustLayout platform layout nonzero
  let flags := layoutFlags platform layout
  debugValidate platform build ptr layout flags
  sdallocx platform ptr layout.size flags

theorem resized_valid {width : Width} (layout : Layout width) (newSize : Nat)
    (fits : Words.roundUp newSize layout.align ≤ isizeMax width) :
    ValidPair width newSize layout.align ∧ (resized layout newSize fits).size = newSize ∧
      (resized layout newSize fits).align = layout.align := ⟨⟨layout.power, fits⟩, rfl, rfl⟩

end Jemalloc

open Jemalloc in
theorem adjust_layout_valid (platform : Platform) (layout : Layout platform.width) (nonzero : 0 < layout.size) :
    Adjusted platform layout (adjustLayout platform layout nonzero) ∧
    ∀ newSize (positive : 0 < newSize) (fits : Words.roundUp newSize layout.align ≤ isizeMax platform.width),
      ValidPair platform.width newSize layout.align ∧ (resized layout newSize fits).size = newSize ∧
      (resized layout newSize fits).align = layout.align ∧
      Adjusted platform (resized layout newSize fits) (adjustLayout platform (resized layout newSize fits) positive) := by
  refine ⟨adjust_layout_adjusts platform layout nonzero, ?_⟩
  intro newSize positive fits
  obtain ⟨valid, size, align⟩ := resized_valid layout newSize fits
  exact ⟨valid, size, align, adjust_layout_adjusts platform (resized layout newSize fits) positive⟩

-- One byte under the largest 64-bit alignment, and the largest size it allows.
def Layout.widest : Layout TargetArch.x86_64.platform.width := ⟨1, 2 ^ 62, ⟨62, by decide, rfl⟩, by decide⟩

theorem adjust_layout_valid_widest :
    Adjusted TargetArch.x86_64.platform Layout.widest (adjustLayout TargetArch.x86_64.platform Layout.widest (by decide)) ∧
    Adjusted TargetArch.x86_64.platform (Jemalloc.resized Layout.widest (2 ^ 62) (by decide))
      (adjustLayout TargetArch.x86_64.platform (Jemalloc.resized Layout.widest (2 ^ 62) (by decide)) (by decide)) := by
  have valid := adjust_layout_valid TargetArch.x86_64.platform Layout.widest (by decide)
  exact ⟨valid.1, (valid.2 (2 ^ 62) (by decide) (by decide)).2.2.2⟩

end Jevmalloc
