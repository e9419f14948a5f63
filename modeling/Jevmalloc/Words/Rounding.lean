import Mathlib.Algebra.Group.Nat.Defs

set_option autoImplicit false

namespace Words

def roundUp (size align : Nat) : Nat := (size + align - 1) / align * align

theorem round_up_divides (size align : Nat) : align ∣ roundUp size align := Nat.dvd_mul_left _ _

theorem round_up_covers (size align : Nat) (positive : 0 < align) : size ≤ roundUp size align := by
  have split := Nat.div_add_mod (size + align - 1) align
  have rest := Nat.mod_lt (size + align - 1) positive
  rw [Nat.mul_comm] at split
  unfold roundUp
  omega

theorem round_up_below (size align bound : Nat) (positive : 0 < align) (covers : size ≤ bound)
    (divides : align ∣ bound) : roundUp size align ≤ bound := by
  obtain ⟨count, rfl⟩ := divides
  have few : (size + align - 1) / align < count + 1 := by
    rw [Nat.div_lt_iff_lt_mul positive, Nat.add_mul, Nat.one_mul, Nat.mul_comm count]
    omega
  rw [roundUp, Nat.mul_comm]
  exact Nat.mul_le_mul_left align (by omega)

theorem round_up_multiple (size align : Nat) (positive : 0 < align) (divides : align ∣ size) :
    roundUp size align = size :=
  Nat.le_antisymm (round_up_below size align size positive (Nat.le_refl size) divides)
    (round_up_covers size align positive)

theorem round_up_small (size align : Nat) (nonzero : 0 < size) (small : size ≤ align) : roundUp size align = align := by
  have positive : 0 < align := by omega
  apply Nat.le_antisymm (round_up_below size align align positive small (Nat.dvd_refl align))
  have covers := round_up_covers size align positive
  exact Nat.le_of_dvd (by omega) (round_up_divides size align)

theorem power_divides (a b : Nat) (le : 2 ^ a ≤ 2 ^ b) : 2 ^ a ∣ 2 ^ b :=
  Nat.pow_dvd_pow 2 ((Nat.pow_le_pow_iff_right (by decide)).mp le)

end Words
