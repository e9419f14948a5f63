import Mathlib.Order.Bounds.Defs
import Jevmalloc.Layout

set_option autoImplicit false

namespace Jevmalloc

open Words

-- The shape shared by all of jemalloc's size-class tables. Nothing else about
-- the spacing of the classes is used.
structure SizeClasses (quantum : Nat) where
  classes : Set Nat
  small : ∀ c ∈ classes, c < quantum → ∃ k, c = 2 ^ k
  large : ∀ c ∈ classes, quantum ≤ c → quantum ∣ c

def requested (size : Nat) : Option Nat → Nat
  | none => size
  | some align => roundUp size align

def SizeClasses.Selects {quantum : Nat} (table : SizeClasses quantum) (size : Nat) (alignment : Option Nat) (c : Nat) : Prop :=
  IsLeast { candidate | candidate ∈ table.classes ∧ requested size alignment ≤ candidate } c

theorem class_divisible (platform : Platform) (table : SizeClasses platform.quantum) (layout : Layout platform.width)
    (c : Nat) (member : c ∈ table.classes) (covers : layout.size ≤ c)
    (implied : layout.align ≤ platform.quantum ∧ layout.align ≤ layout.size) : layout.align ∣ c := by
  obtain ⟨k, bound, power⟩ := layout.power
  by_cases small : c < platform.quantum
  · obtain ⟨j, rfl⟩ := table.small c member small
    rw [power] at implied ⊢
    exact power_divides k j (Nat.le_trans implied.2 covers)
  · exact Nat.dvd_trans (align_below_quantum platform layout.align ⟨k, bound, power⟩ implied.1)
      (table.large c member (Nat.le_of_not_lt small))

-- When every class that covers the size is a multiple of the alignment, both
-- searches run over the same candidates.
theorem selects_same {quantum : Nat} (table : SizeClasses quantum) (size align : Nat) (positive : 0 < align)
    (divisible : ∀ c ∈ table.classes, size ≤ c → align ∣ c) (c : Nat) :
    table.Selects size none c ↔ table.Selects size (some align) c := by
  have same : { candidate | candidate ∈ table.classes ∧ requested size none ≤ candidate } =
      { candidate | candidate ∈ table.classes ∧ requested size (some align) ≤ candidate } := by
    ext candidate
    constructor
    · rintro ⟨member, covers⟩
      exact ⟨member, round_up_below size align candidate positive covers (divisible candidate member covers)⟩
    · rintro ⟨member, covers⟩
      exact ⟨member, Nat.le_trans (round_up_covers size align positive) covers⟩
  rw [SizeClasses.Selects, SizeClasses.Selects, same]

theorem covering_classes_divisible (platform : Platform) (table : SizeClasses platform.quantum)
    (layout : Layout platform.width) (dropped : layoutFlags platform layout = 0#32) :
    ∀ c ∈ table.classes, layout.size ≤ c → layout.align ∣ c := by
  intro c member covers
  rcases layout_flags_cases platform layout with ⟨_, implied⟩ | ⟨_, one⟩ | ⟨nonzero, _⟩
  · exact class_divisible platform table layout c member covers implied
  · rw [one]
    exact Nat.one_dvd c
  · exact absurd dropped nonzero

theorem dropped_below_quantum (platform : Platform) (layout : Layout platform.width)
    (dropped : layoutFlags platform layout = 0#32) : layout.align ≤ platform.quantum := by
  rcases layout_flags_cases platform layout with ⟨_, implied⟩ | ⟨_, one⟩ | ⟨nonzero, _⟩
  · exact implied.1
  · rw [one]
    exact quantum_positive platform
  · exact absurd dropped nonzero

theorem dropped_keeps_class (platform : Platform) (table : SizeClasses platform.quantum)
    (layout : Layout platform.width) (dropped : layoutFlags platform layout = 0#32) (c : Nat) :
    table.Selects layout.size (decodeAlignment 0#32) c ↔
      table.Selects layout.size
        (decodeAlignment (mallocxAlign layout.usizeAlign)) c := by
  have lg := align_word_lg platform layout
  rw [zero_word_alignment, decodeAlignment]
  split
  · rfl
  · rw [← lg]
    exact selects_same table layout.size layout.align (layout_align_positive layout)
      (covering_classes_divisible platform table layout dropped) c

theorem dropped_keeps_alignment (platform : Platform) (table : SizeClasses platform.quantum)
    (layout : Layout platform.width) (dropped : layoutFlags platform layout = 0#32) (c : Nat)
    (selected : table.Selects layout.size (decodeAlignment 0#32) c) (base k : Nat)
    (aligned : platform.quantum ∣ base) : layout.align ∣ base + k * c := by
  rw [zero_word_alignment] at selected
  have divides := covering_classes_divisible platform table layout dropped c selected.1.1 selected.1.2
  have below := dropped_below_quantum platform layout dropped
  have base := Nat.dvd_trans (align_below_quantum platform layout.align layout.power below) aligned
  exact Nat.dvd_add base (Nat.dvd_trans divides (Nat.dvd_mul_left c k))

theorem explicit_word_exact (platform : Platform) (layout : Layout platform.width)
    (kept : layoutFlags platform layout ≠ 0#32) :
    decodeAlignment (layoutFlags platform layout) = some layout.align ∧ Confined (layoutFlags platform layout) 0 6 := by
  rcases layout_flags_cases platform layout with ⟨dropped, _⟩ | ⟨dropped, _⟩ | ⟨_, word, decoded⟩
  · exact absurd dropped kept
  · exact absurd dropped kept
  · obtain ⟨k, _, narrow, value⟩ := align_word_of_layout platform layout
    refine ⟨decoded, ?_⟩
    rw [word]
    exact confined_of_lt _ 6 (by rw [value]; exact narrow)

theorem adjusted_word_zero (platform : Platform) (layout : Layout platform.width) (nonzero : 0 < layout.size) :
    layoutFlags platform (adjustLayout platform layout nonzero) = 0#32 ↔ layout.align ≤ platform.quantum := by
  constructor
  · exact dropped_below_quantum platform (adjustLayout platform layout nonzero)
  · intro below
    have implied : layout.align ≤ platform.quantum ∧ layout.align ≤ max layout.size platform.quantum :=
      ⟨below, Nat.le_trans below (Nat.le_max_right _ _)⟩
    exact if_pos implied

theorem layout_flags_sound (platform : Platform) (table : SizeClasses platform.quantum)
    (layout : Layout platform.width) (nonzero : 0 < layout.size) :
    (layoutFlags platform layout = 0#32 → ∀ c,
      (table.Selects layout.size (decodeAlignment 0#32) c ↔
        table.Selects layout.size (decodeAlignment (mallocxAlign layout.usizeAlign)) c) ∧
      (table.Selects layout.size (decodeAlignment 0#32) c → ∀ base k, platform.quantum ∣ base →
        layout.align ∣ base + k * c)) ∧
    (layoutFlags platform layout ≠ 0#32 →
      decodeAlignment (layoutFlags platform layout) = some layout.align ∧ Confined (layoutFlags platform layout) 0 6) ∧
    (layoutFlags platform (adjustLayout platform layout nonzero) = 0#32 ↔ layout.align ≤ platform.quantum) :=
  ⟨fun dropped c => ⟨dropped_keeps_class platform table layout dropped c,
      fun selected base k => dropped_keeps_alignment platform table layout dropped c selected base k⟩,
    explicit_word_exact platform layout, adjusted_word_zero platform layout nonzero⟩

def spacedClasses : SizeClasses 16 where
  classes := { c | c = 8 ∨ (0 < c ∧ 16 ∣ c) }
  small := by
    rintro c (rfl | ⟨positive, divides⟩) below
    · exact ⟨3, rfl⟩
    · exact absurd (Nat.le_of_dvd positive divides) (Nat.not_le_of_lt below)
  large := by
    rintro c (rfl | ⟨_, divides⟩) above
    · exact absurd above (by decide)
    · exact divides

def smallLayout : Layout Width.w64 := ⟨24, 8, ⟨3, by decide, rfl⟩, by decide⟩

theorem layout_flags_sound_small :
    layoutFlags TargetArch.x86_64.platform smallLayout = 0#32 ∧
      (∀ c, spacedClasses.Selects 24 (decodeAlignment 0#32) c ↔
        spacedClasses.Selects 24 (decodeAlignment (mallocxAlign smallLayout.usizeAlign)) c) ∧
      (∀ c base k, spacedClasses.Selects 24 (decodeAlignment 0#32) c → 16 ∣ base → 8 ∣ base + k * c) := by
  have sound := layout_flags_sound TargetArch.x86_64.platform spacedClasses smallLayout (by decide)
  have dropped : layoutFlags TargetArch.x86_64.platform smallLayout = 0#32 := by decide
  exact ⟨dropped, fun c => (sound.1 dropped c).1, fun c base k selected => (sound.1 dropped c).2 selected base k⟩

end Jevmalloc
