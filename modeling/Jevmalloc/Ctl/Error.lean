import Mathlib.Algebra.Group.Nat.Defs

set_option autoImplicit false

namespace Jevmalloc

-- errno values as libc defines them on Linux.
def efault : Int := 14
def einval : Int := 22
def enospc : Int := 28
def eilseq : Int := 84

structure Error where
  code : Int
  nonzero : code ≠ 0
deriving DecidableEq, Repr

def Error.invalidArgument : Error := ⟨einval, by decide⟩
def Error.badAddress : Error := ⟨efault, by decide⟩
def Error.insufficientSpace : Error := ⟨enospc, by decide⟩
def Error.invalidUtf8 : Error := ⟨eilseq, by decide⟩

-- from_code panics on zero.
def Error.fromCode (code : Int) : Option Error :=
  if failed : code ≠ 0 then some ⟨code, failed⟩ else none

theorem from_code_nonzero (code : Int) (failed : code ≠ 0) : Error.fromCode code = some ⟨code, failed⟩ := dif_pos failed

-- into_result only reaches from_code past the zero case.
def intoResult (code : Int) : Except Error Unit :=
  if failed : code = 0 then .ok () else .error ⟨code, failed⟩

def arenaIndexLimit : Nat := 4095
def tcacheIndexLimit : Nat := 4094

-- Both validations end in c_uint::try_from, whose range is 32 bits wide.
def indexBelow (limit index : Nat) : Except Error Nat :=
  if limit ≤ index then .error .invalidArgument
  else if index < 2 ^ 32 then .ok index else .error .invalidArgument

def Arena.validatedIndex (index : Nat) : Except Error Nat := indexBelow arenaIndexLimit index
def ThreadCache.validatedIndex (index : Nat) : Except Error Nat := indexBelow tcacheIndexLimit index

theorem index_below_ok (limit index : Nat) (narrow : limit ≤ 2 ^ 32) (below : index < limit) :
    indexBelow limit index = .ok index := by
  rw [indexBelow, if_neg (by omega), if_pos (by omega)]

theorem index_below_iff (limit index value : Nat) (narrow : limit ≤ 2 ^ 32) :
    indexBelow limit index = .ok value ↔ index < limit ∧ value = index := by
  by_cases below : index < limit
  · simp [index_below_ok limit index narrow below, below, eq_comm]
  · simp [indexBelow, Nat.le_of_not_lt below, below]

@[simp] theorem arena_validated_index_iff (index value : Nat) :
    Arena.validatedIndex index = .ok value ↔ index < arenaIndexLimit ∧ value = index :=
  index_below_iff _ _ _ (by decide)

@[simp] theorem tcache_validated_index_iff (index value : Nat) :
    ThreadCache.validatedIndex index = .ok value ↔ index < tcacheIndexLimit ∧ value = index :=
  index_below_iff _ _ _ (by decide)

end Jevmalloc
