import Mathlib.Logic.Function.Basic

set_option autoImplicit false

-- Blocks of an addressed memory. A table of live blocks maps the address a
-- block starts at to its extent.
namespace Regions

variable {B : Type}

def Apart (start extent other length : Nat) : Prop := start + extent ≤ other ∨ other + length ≤ start

def Separated (blocks : Nat → Option Nat) : Prop :=
  ∀ start other extent length, blocks start = some extent → blocks other = some length → start ≠ other →
    Apart start extent other length

def Room (blocks : Nat → Option Nat) (start extent : Nat) : Prop :=
  ∀ other length, blocks other = some length → Apart start extent other length

def Untouched (blocks : Nat → Option Nat) (before after : Nat → B) : Prop :=
  ∀ start extent, blocks start = some extent → ∀ offset, offset < extent → after (start + offset) = before (start + offset)

-- A view is what is known of a block, offset by offset. It is sound when every
-- offset it knows lies inside the block and holds the value it gives.
def Shows (memory : Nat → B) (start extent : Nat) (view : Nat → Option B) : Prop :=
  ∀ offset value, view offset = some value → offset < extent ∧ memory (start + offset) = value

def Below (weak strong : Nat → Option B) : Prop := ∀ offset value, weak offset = some value → strong offset = some value

def unknown : Nat → Option B := fun _ => none

def within (extent : Nat) (view : Nat → Option B) : Nat → Option B :=
  fun offset => if offset < extent then view offset else none

theorem within_iff (extent : Nat) (view : Nat → Option B) (offset : Nat) (value : B) :
    within extent view offset = some value ↔ offset < extent ∧ view offset = some value := by
  by_cases inside : offset < extent
  · simp [within, inside]
  · simp [within, inside]

theorem apart_symm (start extent other length : Nat) (apart : Apart start extent other length) :
    Apart other length start extent := apart.symm

theorem apart_narrow (start extent small other length short : Nat) (apart : Apart start extent other length)
    (less : small ≤ extent) (shorter : short ≤ length) : Apart start small other short := by
  rcases apart with before | after
  · exact .inl (by omega)
  · exact .inr (by omega)

theorem separated_empty : Separated fun _ => none := by
  intro start other extent length live
  cases live

theorem separated_release (blocks : Nat → Option Nat) (key : Nat) (separated : Separated blocks) :
    Separated (Function.update blocks key none) := by
  have earlier : ∀ start extent, Function.update blocks key none start = some extent → blocks start = some extent := by
    intro start extent live
    by_cases same : start = key
    · simp [same] at live
    · rwa [Function.update_of_ne same] at live
  intro start other extent length first second different
  exact separated start other extent length (earlier start extent first) (earlier other length second) different

theorem separated_acquire (blocks : Nat → Option Nat) (key extent : Nat) (separated : Separated blocks)
    (room : Room blocks key extent) : Separated (Function.update blocks key (some extent)) := by
  intro start other left right first second different
  by_cases atStart : start = key
  · subst start
    rw [Function.update_self, Option.some.injEq] at first
    rw [Function.update_of_ne different.symm] at second
    subst left
    exact room other right second
  · rw [Function.update_of_ne atStart] at first
    by_cases atOther : other = key
    · subst other
      rw [Function.update_self, Option.some.injEq] at second
      subst right
      exact apart_symm _ _ _ _ (room start left first)
    · rw [Function.update_of_ne atOther] at second
      exact separated start other left right first second different

theorem shows_unknown (memory : Nat → B) (start extent : Nat) : Shows memory start extent unknown := by
  intro offset value known
  cases known

theorem shows_below (memory : Nat → B) (start extent length : Nat) (weak strong : Nat → Option B)
    (shows : Shows memory start extent strong) (below : Below weak strong)
    (bounded : ∀ offset value, weak offset = some value → offset < length) : Shows memory start length weak :=
  fun offset value known => ⟨bounded offset value known, (shows offset value (below offset value known)).2⟩

theorem shows_widen (memory : Nat → B) (start extent length : Nat) (view : Nat → Option B)
    (shows : Shows memory start extent view) (wider : extent ≤ length) : Shows memory start length view :=
  fun offset value known => ⟨Nat.lt_of_lt_of_le (shows offset value known).1 wider, (shows offset value known).2⟩

theorem shows_untouched (blocks : Nat → Option Nat) (before after : Nat → B) (start extent length : Nat)
    (view : Nat → Option B) (shows : Shows before start length view) (live : blocks start = some extent)
    (inside : length ≤ extent) (same : Untouched blocks before after) : Shows after start length view := by
  intro offset value known
  obtain ⟨bound, holds⟩ := shows offset value known
  exact ⟨bound, (same start extent live offset (Nat.lt_of_lt_of_le bound inside)).trans holds⟩

theorem shows_store_apart (memory : Nat → B) (start extent other length offset : Nat) (value : B)
    (view : Nat → Option B) (shows : Shows memory start extent view) (apart : Apart other length start extent)
    (inside : offset < length) : Shows (Function.update memory (other + offset) value) start extent view := by
  intro place known holds
  obtain ⟨bound, same⟩ := shows place known holds
  have elsewhere : start + place ≠ other + offset := by
    rcases apart with before | after
    · omega
    · omega
  exact ⟨bound, by rw [Function.update_of_ne elsewhere]; exact same⟩

theorem shows_store (memory : Nat → B) (start extent offset : Nat) (value : B) (view : Nat → Option B)
    (shows : Shows memory start extent view) (inside : offset < extent) :
    Shows (Function.update memory (start + offset) value) start extent (Function.update view offset (some value)) := by
  intro place known holds
  by_cases same : place = offset
  · subst place
    rw [Function.update_self, Option.some.injEq] at holds
    exact ⟨inside, by rw [Function.update_self]; exact holds⟩
  · rw [Function.update_of_ne same] at holds
    obtain ⟨bound, kept⟩ := shows place known holds
    exact ⟨bound, by rw [Function.update_of_ne (by omega)]; exact kept⟩

theorem shows_copied (before after : Nat → B) (source start extent room copied : Nat) (view : Nat → Option B)
    (shows : Shows before source extent view) (fits : copied ≤ room)
    (copies : ∀ offset, offset < min extent copied → after (start + offset) = before (source + offset)) :
    Shows after start room (within copied view) := by
  intro offset value known
  obtain ⟨inside, held⟩ := (within_iff copied view offset value).mp known
  obtain ⟨bound, holds⟩ := shows offset value held
  exact ⟨by omega, (copies offset (by omega)).trans holds⟩

end Regions
