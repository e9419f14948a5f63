import Mathlib.Algebra.Group.Nat.Defs

set_option autoImplicit false

namespace Jevmalloc

inductive Width where
  | w32
  | w64
deriving DecidableEq, Repr

def Width.bits : Width → Nat
  | .w32 => 32
  | .w64 => 64

abbrev Usize (width : Width) := BitVec width.bits
abbrev CInt := BitVec 32

def usizeMax (width : Width) : Nat := 2 ^ width.bits - 1
def isizeMax (width : Width) : Nat := 2 ^ (width.bits - 1) - 1

theorem width_bits (width : Width) : width.bits = 32 ∨ width.bits = 64 := by
  cases width
  · exact .inl rfl
  · exact .inr rfl

theorem isize_max_le_usize_max (width : Width) : isizeMax width ≤ usizeMax width := by
  cases width <;> decide

inductive TargetArch where
  | arm | mips | powerpc
  | x86 | x86_64 | aarch64 | powerpc64 | loongarch64 | mips64 | riscv64 | s390x | sparc64
deriving DecidableEq, Repr

-- The quantum and the pointer width are all that the allocator layer reads
-- from its target. Any power of two up to isize::MAX is admitted as quantum.
structure Platform where
  width : Width
  lgQuantum : Nat
  fits : 2 ^ lgQuantum ≤ isizeMax width

def Platform.quantum (platform : Platform) : Nat := 2 ^ platform.lgQuantum

theorem quantum_positive (platform : Platform) : 0 < platform.quantum := Nat.two_pow_pos _

-- The quantum is 8 bytes on the first three and 16 on all others.
def TargetArch.platform : TargetArch → Platform
  | .arm | .mips | .powerpc => ⟨.w32, 3, by decide⟩
  | .x86 => ⟨.w32, 4, by decide⟩
  | .x86_64 | .aarch64 | .powerpc64 | .loongarch64 | .mips64 | .riscv64 | .s390x | .sparc64 => ⟨.w64, 4, by decide⟩

end Jevmalloc
