import Jevmalloc.Words.Rounding
import Jevmalloc.Flags

set_option autoImplicit false

namespace Jevmalloc

open Words

structure Layout (width : Width) where
  size : Nat
  align : Nat
  power : ∃ k, k < width.bits ∧ align = 2 ^ k
  fits : roundUp size align ≤ isizeMax width

-- The unchecked constructor's safety contract is taken as a proof.
def Layout.fromSizeAlignUnchecked {width : Width} (size align : Nat) (power : ∃ k, k < width.bits ∧ align = 2 ^ k)
    (fits : roundUp size align ≤ isizeMax width) : Layout width := ⟨size, align, power, fits⟩

def Layout.usizeAlign {width : Width} (layout : Layout width) : Usize width := BitVec.ofNat width.bits layout.align

theorem layout_align_positive {width : Width} (layout : Layout width) : 0 < layout.align := by
  obtain ⟨k, _, power⟩ := layout.power
  rw [power]
  exact Nat.two_pow_pos k

theorem align_below_quantum (platform : Platform) (align : Nat) (power : ∃ k, k < platform.width.bits ∧ align = 2 ^ k)
    (small : align ≤ platform.quantum) : align ∣ platform.quantum := by
  obtain ⟨k, _, rfl⟩ := power
  exact power_divides k platform.lgQuantum small

-- Raising a nonzero size to the quantum never leaves the valid range: either
-- the alignment divides the quantum, or both sizes round up to the alignment.
theorem adjusted_fits (platform : Platform) (size align : Nat) (power : ∃ k, k < platform.width.bits ∧ align = 2 ^ k)
    (nonzero : 0 < size) (fits : roundUp size align ≤ isizeMax platform.width) :
    roundUp (max size platform.quantum) align ≤ isizeMax platform.width := by
  rcases Nat.le_total platform.quantum size with large | small
  · rw [Nat.max_eq_left large]
    exact fits
  · rw [Nat.max_eq_right small]
    rcases Nat.le_total align platform.quantum with below | above
    · have positive : 0 < align := by
        obtain ⟨k, _, rfl⟩ := power
        exact Nat.two_pow_pos k
      rw [round_up_multiple _ _ positive (align_below_quantum platform align power below)]
      exact platform.fits
    · rw [round_up_small _ _ (quantum_positive platform) above]
      rwa [round_up_small _ _ nonzero (Nat.le_trans small above)] at fits

def adjustLayout (platform : Platform) (layout : Layout platform.width) (nonzero : 0 < layout.size) : Layout platform.width :=
  .fromSizeAlignUnchecked (max layout.size platform.quantum) layout.align layout.power
    (adjusted_fits platform layout.size layout.align layout.power nonzero layout.fits)

-- What the caller of the unchecked constructor owes it.
def ValidPair (width : Width) (size align : Nat) : Prop :=
  (∃ k, k < width.bits ∧ align = 2 ^ k) ∧ roundUp size align ≤ isizeMax width

theorem layout_same {width : Width} (a b : Layout width) (size : a.size = b.size) (align : a.align = b.align) : a = b := by
  cases a
  cases b
  cases size
  cases align
  rfl

theorem adjusted_positive (platform : Platform) (layout : Layout platform.width) (nonzero : 0 < layout.size) :
    0 < (adjustLayout platform layout nonzero).size :=
  Nat.lt_of_lt_of_le nonzero (Nat.le_max_left layout.size platform.quantum)

theorem adjust_idempotent (platform : Platform) (layout : Layout platform.width) (nonzero : 0 < layout.size)
    (again : 0 < (adjustLayout platform layout nonzero).size) :
    adjustLayout platform (adjustLayout platform layout nonzero) again = adjustLayout platform layout nonzero := by
  apply layout_same
  · have raised : platform.quantum ≤ (adjustLayout platform layout nonzero).size := Nat.le_max_right _ _
    exact Nat.max_eq_left raised
  · rfl

theorem adjust_monotone (platform : Platform) (small large : Layout platform.width) (nonzero : 0 < small.size)
    (positive : 0 < large.size) (le : small.size ≤ large.size) :
    (adjustLayout platform small nonzero).size ≤ (adjustLayout platform large positive).size := by
  apply Nat.max_le.mpr
  constructor
  · exact Nat.le_trans le (Nat.le_max_left _ _)
  · exact Nat.le_max_right _ _

-- With the alignment at the quantum or above, a size that is raised at all
-- stays within one alignment, and so does the size it came from.
theorem adjusted_rounds (platform : Platform) (layout : Layout platform.width) (nonzero : 0 < layout.size)
    (above : platform.quantum ≤ layout.align) :
    roundUp (adjustLayout platform layout nonzero).size layout.align = roundUp layout.size layout.align := by
  rcases Nat.le_total platform.quantum layout.size with large | small
  · exact congrArg (roundUp · layout.align) (Nat.max_eq_left large)
  · have raised : (adjustLayout platform layout nonzero).size = platform.quantum := Nat.max_eq_right small
    calc roundUp (adjustLayout platform layout nonzero).size layout.align
        = roundUp platform.quantum layout.align := by rw [raised]
      _ = layout.align := round_up_small _ _ (quantum_positive platform) above
      _ = roundUp layout.size layout.align := (round_up_small _ _ nonzero (Nat.le_trans small above)).symm

structure Adjusted (platform : Platform) (layout adjusted : Layout platform.width) : Prop where
  valid : ValidPair platform.width (max layout.size platform.quantum) layout.align
  align : adjusted.align = layout.align
  size : adjusted.size = max layout.size platform.quantum
  positive : 0 < adjusted.size
  fits : roundUp adjusted.size adjusted.align ≤ isizeMax platform.width
  unchanged : platform.quantum ≤ layout.align →
    roundUp adjusted.size adjusted.align = roundUp layout.size layout.align
  settled : ∀ again, adjustLayout platform adjusted again = adjusted
  monotone : ∀ (other : Layout platform.width) (nonzero : 0 < other.size), layout.size ≤ other.size →
    adjusted.size ≤ (adjustLayout platform other nonzero).size

theorem adjust_layout_adjusts (platform : Platform) (layout : Layout platform.width) (nonzero : 0 < layout.size) :
    Adjusted platform layout (adjustLayout platform layout nonzero) where
  valid := ⟨layout.power, adjusted_fits platform layout.size layout.align layout.power nonzero layout.fits⟩
  align := rfl
  size := rfl
  positive := adjusted_positive platform layout nonzero
  fits := adjusted_fits platform layout.size layout.align layout.power nonzero layout.fits
  unchanged := adjusted_rounds platform layout nonzero
  settled := adjust_idempotent platform layout nonzero
  monotone := fun other positive le => adjust_monotone platform layout other nonzero positive le

def layoutFlags (platform : Platform) (layout : Layout platform.width) : CInt :=
  let implied := layout.align ≤ platform.quantum ∧ layout.align ≤ layout.size
  if implied then 0#32 else mallocxAlign layout.usizeAlign

theorem align_word_of_layout (platform : Platform) (layout : Layout platform.width) :
    ∃ k, layout.align = 2 ^ k ∧ k < 64 ∧ (mallocxAlign layout.usizeAlign).toNat = k := by
  obtain ⟨k, bound, power⟩ := layout.power
  have exact : layout.usizeAlign.toNat = 2 ^ k := by
    rw [Layout.usizeAlign, BitVec.toNat_ofNat, power]
    exact Nat.mod_eq_of_lt (Nat.pow_lt_pow_right (by decide) bound)
  obtain ⟨value, narrow⟩ := align_word_value _ k exact
  exact ⟨k, power, narrow, value⟩

-- jemalloc reads lg zero as no alignment at all.
def decodeAlignment (word : CInt) : Option Nat :=
  if decodeLgAlign word = 0 then none else some (2 ^ decodeLgAlign word)

theorem zero_word_alignment : decodeAlignment 0#32 = none := by decide

theorem decode_alignment_zero_bit (word : CInt) : decodeAlignment (word ||| mallocxZero) = decodeAlignment word := by
  have same : field (word ||| mallocxZero) 0 6 = field word 0 6 := by
    simp only [field, BitVec.extractLsb'_or, field_apart mallocxZero 6 1 0 6 (zero_flags_confined true) (by decide),
      BitVec.or_zero]
  rw [decodeAlignment, decodeAlignment, decodeLgAlign, decodeLgAlign, same]

theorem align_word_lg (platform : Platform) (layout : Layout platform.width) :
    layout.align = 2 ^ decodeLgAlign (mallocxAlign layout.usizeAlign) := by
  obtain ⟨k, power, narrow, value⟩ := align_word_of_layout platform layout
  rw [decodeLgAlign, field, field_low, BitVec.toNat_setWidth, value, Nat.mod_eq_of_lt narrow]
  exact power

theorem layout_flags_cases (platform : Platform) (layout : Layout platform.width) :
    (layoutFlags platform layout = 0#32 ∧ layout.align ≤ platform.quantum ∧ layout.align ≤ layout.size) ∨
    (layoutFlags platform layout = 0#32 ∧ layout.align = 1) ∨
    (layoutFlags platform layout ≠ 0#32 ∧ layoutFlags platform layout = mallocxAlign layout.usizeAlign ∧
      decodeAlignment (layoutFlags platform layout) = some layout.align) := by
  by_cases implied : layout.align ≤ platform.quantum ∧ layout.align ≤ layout.size
  · exact .inl ⟨by simp only [layoutFlags, if_pos implied], implied⟩
  · have explicit : layoutFlags platform layout = mallocxAlign layout.usizeAlign := by
      simp only [layoutFlags, if_neg implied]
    obtain ⟨k, power, _, value⟩ := align_word_of_layout platform layout
    have lg := align_word_lg platform layout
    rw [explicit]
    by_cases one : k = 0
    · rw [one] at power value
      exact .inr (.inl ⟨BitVec.eq_of_toNat_eq value, power⟩)
    · have nonzero : decodeLgAlign (mallocxAlign layout.usizeAlign) ≠ 0 := by
        intro zero
        rw [zero] at lg
        exact one ((Nat.pow_right_inj (by decide)).mp (power.symm.trans lg))
      refine .inr (.inr ⟨?_, rfl, ?_⟩)
      · intro zero
        rw [zero] at value
        exact one value.symm
      · rw [decodeAlignment, if_neg nonzero, ← lg]

end Jevmalloc
