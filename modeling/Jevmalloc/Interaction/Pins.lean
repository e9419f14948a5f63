import Jevmalloc.Interaction.Registry

set_option autoImplicit false

namespace Interaction

variable {K P : Type} {registry : Registry K} {pins : P → Option (K × Nat)}

-- Users that each stand on at most one creation of a registry. No creation ends
-- while anybody stands on it.
def Anchored (registry : Registry K) (pins : P → Option (K × Nat)) : Prop :=
  ∀ user place, pins user = some place → registry.live place.1 = some place.2

theorem anchored_move [DecidableEq P] (anchored : Anchored registry pins) (user : P) (place : K × Nat)
    (live : registry.live place.1 = some place.2) : Anchored registry (Function.update pins user (some place)) := by
  intro other there stands
  by_cases same : other = user
  · subst other
    rw [Function.update_self] at stands
    obtain rfl := Option.some.inj stands
    exact live
  · rw [Function.update_of_ne same] at stands
    exact anchored other there stands

variable [DecidableEq K]

theorem enroll_live (registry : Registry K) (key : K) (serial : Nat) (other : K) (free : registry.live key = none)
    (live : registry.live other = some serial) : (registry.enroll key).live other = some serial := by
  have different : other ≠ key := by
    rintro rfl
    rw [free] at live
    cases live
  exact (Function.update_of_ne different _ _).trans live

theorem retire_live (registry : Registry K) (key other : K) (serial : Nat) (different : other ≠ key) :
    (registry.retire key serial).live other = registry.live other := Function.update_of_ne different _ _

theorem enroll_within (within : K → Prop) (registry : Registry K) (key : K) (mine : within key)
    (all : ∀ other serial, registry.live other = some serial → within other) :
    ∀ other serial, (registry.enroll key).live other = some serial → within other := by
  intro other serial live
  by_cases same : other = key
  · rw [same]
    exact mine
  · exact all other serial ((Function.update_of_ne same _ _).symm.trans live)

theorem retire_within (within : K → Prop) (registry : Registry K) (key : K) (age : Nat)
    (all : ∀ other serial, registry.live other = some serial → within other) :
    ∀ other serial, (registry.retire key age).live other = some serial → within other := by
  intro other serial live
  by_cases same : other = key
  · subst other
    have gone : (registry.retire key age).live key = none := Function.update_self _ _ _
    rw [gone] at live
    cases live
  · exact all other serial ((retire_live registry key other age same).symm.trans live)

theorem anchored_enroll (anchored : Anchored registry pins) (key : K) (free : registry.live key = none) :
    Anchored (registry.enroll key) pins :=
  fun user place stands => enroll_live registry key place.2 place.1 free (anchored user place stands)

theorem anchored_retire (anchored : Anchored registry pins) (key : K) (serial : Nat)
    (found : registry.live key = some serial) (unpinned : ∀ user, pins user ≠ some (key, serial)) :
    Anchored (registry.retire key serial) pins := by
  intro user place stands
  have live := anchored user place stands
  obtain ⟨there, age⟩ := place
  have different : there ≠ key := by
    rintro rfl
    obtain rfl := Option.some.inj (live.symm.trans found)
    exact unpinned user stands
  exact (retire_live registry key there serial different).trans live

-- Asking for a name takes the creation that is live there, or makes one.
def Registry.Opens (registry : Registry K) (key : K) (serial : Nat) (after : Registry K) : Prop :=
  (registry.live key = some serial ∧ after = registry) ∨
  (registry.live key = none ∧ serial = registry.created ∧ after = registry.enroll key)

theorem opens_live {after : Registry K} (key : K) (serial : Nat) (opens : registry.Opens key serial after) :
    after.live key = some serial := by
  rcases opens with ⟨live, rfl⟩ | ⟨_, rfl, rfl⟩
  · exact live
  · exact Function.update_self _ _ _

theorem opens_sound {after : Registry K} (key : K) (serial : Nat) (sound : registry.Sound)
    (opens : registry.Opens key serial after) : after.Sound := by
  rcases opens with ⟨_, rfl⟩ | ⟨_, _, rfl⟩
  · exact sound
  · exact Registry.enroll_sound registry key sound

theorem opens_within (within : K → Prop) {after : Registry K} (key : K) (serial : Nat) (mine : within key)
    (all : ∀ other age, registry.live other = some age → within other) (opens : registry.Opens key serial after) :
    ∀ other age, after.live other = some age → within other := by
  rcases opens with ⟨_, rfl⟩ | ⟨_, _, rfl⟩
  · exact all
  · exact enroll_within within registry key mine all

theorem anchored_opens {after : Registry K} (key : K) (serial : Nat) (anchored : Anchored registry pins)
    (opens : registry.Opens key serial after) : Anchored after pins := by
  rcases opens with ⟨_, rfl⟩ | ⟨free, _, rfl⟩
  · exact anchored
  · exact anchored_enroll anchored key free

end Interaction
