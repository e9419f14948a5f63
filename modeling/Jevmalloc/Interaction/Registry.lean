import Mathlib.Data.List.Nodup
import Jevmalloc.Interaction.Custody

set_option autoImplicit false

namespace Interaction

variable {K : Type}

-- Names in use, each with the serial number of the creation that took it. A
-- name may be taken again once its creation has ended; a serial never is.
structure Registry (K : Type) where
  live : K → Option Nat
  created : Nat
  ended : List Nat

namespace Registry

def empty : Registry K := ⟨fun _ => none, 0, []⟩

structure Sound (registry : Registry K) : Prop where
  numbered : ∀ key serial, registry.live key = some serial → serial < registry.created ∧ serial ∉ registry.ended
  single : ∀ a b serial, registry.live a = some serial → registry.live b = some serial → a = b
  past : ∀ serial, serial ∈ registry.ended → serial < registry.created
  once : registry.ended.Nodup

theorem empty_sound : (empty : Registry K).Sound := ⟨nofun, nofun, nofun, List.nodup_nil⟩

variable [DecidableEq K]

def enroll (registry : Registry K) (key : K) : Registry K where
  live := Function.update registry.live key (some registry.created)
  created := registry.created + 1
  ended := registry.ended

def retire (registry : Registry K) (key : K) (serial : Nat) : Registry K where
  live := Function.update registry.live key none
  created := registry.created
  ended := registry.ended ++ [serial]

theorem enroll_sound (registry : Registry K) (key : K) (sound : registry.Sound) : (registry.enroll key).Sound := by
  have fresh : ∀ other, registry.live other ≠ some registry.created := fun other found =>
    Nat.lt_irrefl _ (sound.numbered other _ found).1
  refine ⟨?_, ?_, ?_, sound.once⟩
  · intro other serial found
    by_cases same : other = key
    · subst other
      obtain rfl : registry.created = serial := by simpa [enroll] using found
      exact ⟨Nat.lt_succ_self _, fun gone => Nat.lt_irrefl _ (sound.past _ gone)⟩
    · obtain ⟨recent, running⟩ := sound.numbered other serial (by simpa [enroll, same] using found)
      exact ⟨Nat.lt_succ_of_lt recent, running⟩
  · intro a b serial first second
    simp only [enroll, Function.update_apply] at first second
    by_cases isA : a = key
    · by_cases isB : b = key
      · exact isA.trans isB.symm
      · rw [if_pos isA] at first
        rw [if_neg isB, ← first] at second
        exact absurd second (fresh b)
    · rw [if_neg isA] at first
      by_cases isB : b = key
      · rw [if_pos isB] at second
        rw [← second] at first
        exact absurd first (fresh a)
      · rw [if_neg isB] at second
        exact sound.single a b serial first second
  · intro serial gone
    exact Nat.lt_succ_of_lt (sound.past serial gone)

theorem retire_sound (registry : Registry K) (key : K) (serial : Nat) (sound : registry.Sound)
    (found : registry.live key = some serial) : (registry.retire key serial).Sound := by
  obtain ⟨recent, running⟩ := sound.numbered key serial found
  have before : ∀ other value, (registry.retire key serial).live other = some value →
      other ≠ key ∧ registry.live other = some value := by
    intro other value known
    by_cases same : other = key
    · subst other
      simp [retire] at known
    · exact ⟨same, by simpa [retire, same] using known⟩
  refine ⟨?_, ?_, ?_, ?_⟩
  · intro other value known
    obtain ⟨different, still⟩ := before other value known
    obtain ⟨young, alive⟩ := sound.numbered other value still
    refine ⟨young, ?_⟩
    intro gone
    cases List.mem_append.mp gone with
    | inl earlier => exact alive earlier
    | inr last =>
        obtain rfl := List.mem_singleton.mp last
        exact different (sound.single other key value still found)
  · intro a b value first second
    exact sound.single a b value (before a value first).2 (before b value second).2
  · intro value gone
    cases List.mem_append.mp gone with
    | inl earlier => exact sound.past value earlier
    | inr last =>
        obtain rfl := List.mem_singleton.mp last
        exact recent
  · refine List.nodup_append.mpr ⟨sound.once, List.nodup_singleton serial, ?_⟩
    intro value earlier other last same
    obtain rfl := List.mem_singleton.mp last
    subst same
    exact running earlier

end Registry

end Interaction
