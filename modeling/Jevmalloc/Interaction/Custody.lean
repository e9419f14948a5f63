import Mathlib.Logic.Function.Basic
import Mathlib.Data.Sum.Basic

set_option autoImplicit false

namespace Interaction

variable {K V H : Type}

-- Every live resource is in the hands of exactly one holder, and nobody holds
-- anything that is not live. The value tells apart two uses of one name.
structure Custody (live : K → Option V) (held : H → Option (K × V)) : Prop where
  sound : ∀ holder key value, held holder = some (key, value) → live key = some value
  exclusive : ∀ a b key left right, held a = some (key, left) → held b = some (key, right) → a = b
  complete : ∀ key value, live key = some value → ∃ holder, held holder = some (key, value)

theorem custody_empty : Custody (fun _ : K => (none : Option V)) fun _ : H => none :=
  ⟨by simp, by simp, by simp⟩

section Holdings

variable {L S : Type}

def holdings (token : L → Option (K × V)) (all : Nat → Option L) (shelf : S → Option (K × V)) :
    Nat ⊕ S → Option (K × V) :=
  Sum.elim (fun thread => (all thread).bind token) shelf

theorem holdings_caller (token : L → Option (K × V)) (all : Nat → Option L) (shelf : S → Option (K × V))
    (thread : Nat) : holdings token all shelf (.inl thread) = (all thread).bind token := rfl

@[simp] theorem holdings_shelf (token : L → Option (K × V)) (all : Nat → Option L) (shelf : S → Option (K × V))
    (slot : S) : holdings token all shelf (.inr slot) = shelf slot := rfl

theorem holdings_update_caller [DecidableEq S] (token : L → Option (K × V)) (all : Nat → Option L)
    (shelf : S → Option (K × V)) (thread : Nat) (own : Option L) :
    holdings token (Function.update all thread own) shelf =
      Function.update (holdings token all shelf) (.inl thread) (own.bind token) := by
  rw [holdings, holdings, Sum.update_elim_inl]
  congr 1
  funext other
  by_cases same : other = thread
  · subst other
    simp
  · simp [same]

theorem holdings_update_shelf [DecidableEq S] (token : L → Option (K × V)) (all : Nat → Option L)
    (shelf : S → Option (K × V)) (slot : S) (content : Option (K × V)) :
    holdings token all (Function.update shelf slot content) =
      Function.update (holdings token all shelf) (.inr slot) content := by
  rw [holdings, holdings, Sum.update_elim_inr]

end Holdings

variable {live : K → Option V} {held : H → Option (K × V)}

theorem custody_absent (custody : Custody live held) (holder : H) (key : K) (value : V)
    (free : live key = none) : held holder ≠ some (key, value) := by
  intro holds
  have known := custody.sound holder key value holds
  rw [free] at known
  cases known

variable [DecidableEq H]

theorem custody_transfer (custody : Custody live held) (giver taker : H) (empty : held taker = none) :
    Custody live (Function.update (Function.update held giver none) taker (held giver)) := by
  by_cases same : taker = giver
  · subst same
    rwa [empty, Function.update_idem, ← empty, Function.update_eq_self]
  · -- Whatever is held now was held before, by the same holder or the giver.
    have moved : ∀ holder key value,
        Function.update (Function.update held giver none) taker (held giver) holder = some (key, value) →
          ∃ before, held before = some (key, value) ∧ (before = holder ∨ (before = giver ∧ holder = taker)) := by
      intro holder key value holds
      by_cases atTaker : holder = taker
      · subst holder
        rw [Function.update_self] at holds
        exact ⟨giver, holds, .inr ⟨rfl, rfl⟩⟩
      · rw [Function.update_of_ne atTaker] at holds
        by_cases atGiver : holder = giver
        · subst holder
          simp at holds
        · rw [Function.update_of_ne atGiver] at holds
          exact ⟨holder, holds, .inl rfl⟩
    refine ⟨?_, ?_, ?_⟩
    · intro holder key value holds
      obtain ⟨before, known, _⟩ := moved holder key value holds
      exact custody.sound before key value known
    · intro a b key left right first second
      obtain ⟨before, known, whereA⟩ := moved a key left first
      obtain ⟨later, alsoKnown, whereB⟩ := moved b key right second
      have one := custody.exclusive before later key left right known alsoKnown
      subst later
      rcases whereA with rfl | ⟨rfl, rfl⟩
      · rcases whereB with rfl | ⟨rfl, rfl⟩
        · rfl
        · simp [Ne.symm same] at first
      · rcases whereB with rfl | ⟨_, rfl⟩
        · simp [Ne.symm same] at second
        · rfl
    · intro key value known
      obtain ⟨holder, holds⟩ := custody.complete key value known
      by_cases atGiver : holder = giver
      · subst holder
        exact ⟨taker, by simpa using holds⟩
      · have notTaker : holder ≠ taker := by
          intro atTaker
          rw [atTaker, empty] at holds
          cases holds
        exact ⟨holder, by simpa [atGiver, notTaker] using holds⟩

variable [DecidableEq K]

theorem custody_acquire (custody : Custody live held) (holder : H) (key : K) (value : V)
    (empty : held holder = none) (free : live key = none) :
    Custody (Function.update live key (some value)) (Function.update held holder (some (key, value))) := by
  have other : ∀ h k v, h ≠ holder → held h = some (k, v) → k ≠ key := by
    intro h k v _ holds same
    subst k
    exact custody_absent custody h key v free holds
  refine ⟨?_, ?_, ?_⟩
  · intro h k v holds
    by_cases same : h = holder
    · subst h
      simp only [Function.update_self, Option.some.injEq, Prod.mk.injEq] at holds
      obtain ⟨rfl, rfl⟩ := holds
      simp
    · rw [Function.update_of_ne same] at holds
      rw [Function.update_of_ne (other h k v same holds)]
      exact custody.sound h k v holds
  · intro a b k left right first second
    by_cases isA : a = holder
    · subst a
      by_cases isB : b = holder
      · exact isB.symm
      · rw [Function.update_of_ne isB] at second
        simp only [Function.update_self, Option.some.injEq, Prod.mk.injEq] at first
        exact absurd first.1.symm (other b k right isB second)
    · rw [Function.update_of_ne isA] at first
      by_cases isB : b = holder
      · subst b
        simp only [Function.update_self, Option.some.injEq, Prod.mk.injEq] at second
        exact absurd second.1.symm (other a k left isA first)
      · rw [Function.update_of_ne isB] at second
        exact custody.exclusive a b k left right first second
  · intro k v known
    by_cases same : k = key
    · subst k
      simp only [Function.update_self, Option.some.injEq] at known
      subst v
      exact ⟨holder, by simp⟩
    · rw [Function.update_of_ne same] at known
      obtain ⟨h, holds⟩ := custody.complete k v known
      have elsewhere : h ≠ holder := by
        intro equal
        rw [equal, empty] at holds
        cases holds
      exact ⟨h, by rwa [Function.update_of_ne elsewhere]⟩

theorem custody_release (custody : Custody live held) (holder : H) (key : K) (value : V)
    (holds : held holder = some (key, value)) :
    Custody (Function.update live key none) (Function.update held holder none) := by
  have kept : ∀ h k v, Function.update held holder none h = some (k, v) → h ≠ holder ∧ k ≠ key ∧ held h = some (k, v) := by
    intro h k v known
    have elsewhere : h ≠ holder := by
      intro same
      simp [same] at known
    rw [Function.update_of_ne elsewhere] at known
    refine ⟨elsewhere, ?_, known⟩
    intro same
    subst k
    exact elsewhere (custody.exclusive h holder key v value known holds)
  refine ⟨?_, ?_, ?_⟩
  · intro h k v known
    obtain ⟨_, different, before⟩ := kept h k v known
    rw [Function.update_of_ne different]
    exact custody.sound h k v before
  · intro a b k left right first second
    exact custody.exclusive a b k left right (kept a k left first).2.2 (kept b k right second).2.2
  · intro k v known
    have different : k ≠ key := by
      intro same
      simp [same] at known
    rw [Function.update_of_ne different] at known
    obtain ⟨h, before⟩ := custody.complete k v known
    have elsewhere : h ≠ holder := by
      intro same
      rw [same, holds] at before
      exact different (congrArg Prod.fst (Option.some.inj before)).symm
    exact ⟨h, by rwa [Function.update_of_ne elsewhere]⟩

end Interaction
