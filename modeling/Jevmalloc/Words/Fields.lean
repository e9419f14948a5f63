import Mathlib.Algebra.Group.Nat.Defs

set_option autoImplicit false

namespace Words

variable {n : Nat}

-- A word is confined to a field when every bit outside of it is clear. Words
-- confined to disjoint fields can be combined by or and taken apart again.
def Confined (word : BitVec n) (start len : Nat) : Prop :=
  ∀ i, word.getLsbD i = true → start ≤ i ∧ i < start + len

theorem confined_zero (start len : Nat) : Confined 0#n start len := by
  intro i set
  simp at set

theorem confined_of_lt (word : BitVec n) (len : Nat) (small : word.toNat < 2 ^ len) : Confined word 0 len := by
  intro i set
  refine ⟨Nat.zero_le i, ?_⟩
  by_cases inside : i < len
  · omega
  · have clear : word.toNat < 2 ^ i := Nat.lt_of_lt_of_le small (Nat.pow_le_pow_right (by decide) (by omega))
    simp [BitVec.getLsbD, Nat.testBit_lt_two_pow clear] at set

theorem confined_shift (word : BitVec n) (start len : Nat) (low : Confined word 0 len) :
    Confined (word <<< start) start len := by
  intro i set
  simp only [BitVec.getLsbD_shiftLeft, Bool.and_eq_true, Bool.not_eq_true', decide_eq_true_eq,
    decide_eq_false_iff_not] at set
  have inside := low (i - start) set.2
  omega

theorem confined_shift_top (word : BitVec n) (start : Nat) : Confined (word <<< start) start (n - start) := by
  intro i set
  have bound := BitVec.lt_of_getLsbD set
  simp only [BitVec.getLsbD_shiftLeft, Bool.and_eq_true, Bool.not_eq_true', decide_eq_false_iff_not] at set
  omega

theorem confined_width (m : Nat) (word : BitVec n) (start len : Nat) (inside : Confined word start len) :
    Confined (word.setWidth m) start len := by
  intro i set
  simp only [BitVec.getLsbD_setWidth, Bool.and_eq_true] at set
  exact inside i set.2

def field (word : BitVec n) (start len : Nat) : Nat := (word.extractLsb' start len).toNat

theorem field_apart (word : BitVec n) (start len other size : Nat) (inside : Confined word start len)
    (apart : other + size ≤ start ∨ start + len ≤ other) : word.extractLsb' other size = BitVec.ofNat size 0 := by
  apply BitVec.eq_of_getLsbD_eq
  intro i bound
  simp only [BitVec.getLsbD_extractLsb', bound, decide_true, Bool.true_and, BitVec.getLsbD_zero]
  cases set : word.getLsbD (other + i) with
  | false => rfl
  | true =>
      have bounds := inside (other + i) set
      omega

theorem field_shift (word : BitVec n) (start len : Nat) (fits : start + len ≤ n) :
    (word <<< start).extractLsb' start len = word.setWidth len := by
  apply BitVec.eq_of_getLsbD_eq
  intro i bound
  have within : start + i < n := by omega
  have above : ¬ start + i < start := by omega
  simp only [BitVec.getLsbD_extractLsb', BitVec.getLsbD_shiftLeft, BitVec.getLsbD_setWidth, bound, within,
    above, decide_true, decide_false, Bool.not_false, Bool.true_and, Nat.add_sub_cancel_left]

theorem field_width (m : Nat) (word : BitVec n) (start len : Nat) (kept : start + len ≤ m) :
    (word.setWidth m).extractLsb' start len = word.extractLsb' start len := by
  apply BitVec.eq_of_getLsbD_eq
  intro i bound
  have within : start + i < m := by omega
  simp only [BitVec.getLsbD_extractLsb', BitVec.getLsbD_setWidth, bound, within, decide_true, Bool.true_and]

theorem field_low (word : BitVec n) (len : Nat) : word.extractLsb' 0 len = word.setWidth len := by
  apply BitVec.eq_of_getLsbD_eq
  intro i bound
  simp only [BitVec.getLsbD_extractLsb', BitVec.getLsbD_setWidth, bound, decide_true, Bool.true_and, Nat.zero_add]

end Words
