import Mathlib.Order.Lattice.Nat

set_option autoImplicit false

namespace Interaction

variable {L F V : Type}

-- How far a thread has got in the history of each cell. Values below that
-- position are superseded for it; position zero is the initial value.
abbrev View (L F : Type) := L ⊕ F → Nat

-- Relaxed cells keep every value stored to them, oldest first. Flags also keep
-- the view that their releasing store publishes.
structure Weak (L F V : Type) where
  stores : L → List V
  releases : F → List (V × View L F)

def Weak.empty : Weak L F V := ⟨fun _ => [], fun _ => []⟩

section Views

variable [DecidableEq L] [DecidableEq F]

def View.advance (view : View L F) (place : L ⊕ F) (position : Nat) : View L F :=
  Function.update view place (max (view place) position)

theorem view_le_advance (view : View L F) (place : L ⊕ F) (position : Nat) : view ≤ view.advance place position := by
  intro other
  by_cases same : other = place
  · subst other
    simp [View.advance]
  · simp [View.advance, same]

theorem position_le_advance (view : View L F) (place : L ⊕ F) (position : Nat) :
    position ≤ view.advance place position place := by
  simp [View.advance]

theorem advance_elsewhere (view : View L F) (place other : L ⊕ F) (position : Nat) (different : other ≠ place) :
    view.advance place position other = view other := Function.update_of_ne different _ _

end Views

variable (initial : V)

def Weak.Reads (memory : Weak L F V) (view : View L F) (cell : L) (value : V) : Prop :=
  ∃ position, view (.inl cell) ≤ position ∧ (initial :: memory.stores cell)[position]? = some value

def Weak.Acquires [DecidableEq L] [DecidableEq F] (memory : Weak L F V) (view : View L F) (flag : F) (value : V)
    (after : View L F) : Prop :=
  (view (.inr flag) = 0 ∧ value = initial ∧ after = view) ∨
  ∃ position carried, view (.inr flag) ≤ position + 1 ∧ (memory.releases flag)[position]? = some (value, carried) ∧
    after = View.advance (view ⊔ carried) (.inr flag) (position + 1)

def Weak.write [DecidableEq L] (memory : Weak L F V) (cell : L) (value : V) : Weak L F V :=
  { memory with stores := Function.update memory.stores cell (memory.stores cell ++ [value]) }

def Weak.writtenView [DecidableEq L] [DecidableEq F] (memory : Weak L F V) (view : View L F) (cell : L) : View L F :=
  view.advance (.inl cell) ((memory.stores cell).length + 1)

def Weak.releasedView [DecidableEq L] [DecidableEq F] (memory : Weak L F V) (view : View L F) (flag : F) : View L F :=
  view.advance (.inr flag) ((memory.releases flag).length + 1)

def Weak.release [DecidableEq L] [DecidableEq F] (memory : Weak L F V) (view : View L F) (flag : F) (value : V) :
    Weak L F V :=
  { memory with
    releases := Function.update memory.releases flag (memory.releases flag ++ [(value, memory.releasedView view flag)]) }

def Weak.current (memory : Weak L F V) (flag : F) : V :=
  match (memory.releases flag).getLast? with
  | some (value, _) => value
  | none => initial

-- Each cell has one value it may be given, each flag announces one value, and
-- whoever reads an announcement has seen a store to every cell it covers.
structure Published (content : L → Option V) (announces : F → V) (covers : F → L → Prop) (memory : Weak L F V) : Prop where
  stores : ∀ cell value, value ∈ memory.stores cell → content cell = some value
  releases : ∀ flag value view, (value, view) ∈ memory.releases flag →
    value = announces flag ∧ value ≠ initial ∧ ∀ cell, covers flag cell → 1 ≤ view (.inl cell)

section Published

variable {content : L → Option V} {announces : F → V} {covers : F → L → Prop} {memory : Weak L F V}

theorem published_empty : Published initial content announces covers (Weak.empty : Weak L F V) :=
  ⟨by simp [Weak.empty], by simp [Weak.empty]⟩

theorem published_reads (published : Published initial content announces covers memory) (view : View L F) (cell : L)
    (value : V) (seen : 1 ≤ view (.inl cell)) (read : memory.Reads initial view cell value) : content cell = some value := by
  obtain ⟨position, later, found⟩ := read
  cases position with
  | zero => omega
  | succ position =>
      rw [List.getElem?_cons_succ] at found
      exact published.stores cell value (List.mem_of_getElem? found)

theorem published_current (published : Published initial content announces covers memory) (flag : F) :
    memory.current initial flag = initial ∨
      (memory.current initial flag = announces flag ∧ memory.current initial flag ≠ initial) := by
  unfold Weak.current
  cases last : (memory.releases flag).getLast? with
  | none => exact .inl rfl
  | some message =>
      have announced := published.releases flag message.1 message.2 (List.mem_of_getLast? last)
      exact .inr ⟨announced.1, announced.2.1⟩

variable [DecidableEq L]

theorem published_write (published : Published initial content announces covers memory) (cell : L) (value : V)
    (allowed : content cell = some value) : Published initial content announces covers (memory.write cell value) := by
  refine ⟨?_, published.releases⟩
  intro other stored member
  by_cases same : other = cell
  · subst other
    simp only [Weak.write, Function.update_self, List.mem_append, List.mem_singleton] at member
    rcases member with old | rfl
    · exact published.stores cell stored old
    · exact allowed
  · exact published.stores other stored (by simpa [Weak.write, same] using member)

variable [DecidableEq F]

theorem published_release (published : Published initial content announces covers memory) (view : View L F) (flag : F)
    (value : V) (announced : value = announces flag) (fresh : value ≠ initial)
    (covered : ∀ cell, covers flag cell → 1 ≤ view (.inl cell)) :
    Published initial content announces covers (memory.release view flag value) := by
  refine ⟨published.stores, ?_⟩
  intro other stored carried member
  by_cases same : other = flag
  · subst other
    simp only [Weak.release, Function.update_self, List.mem_append, List.mem_singleton, Prod.mk.injEq] at member
    rcases member with old | ⟨rfl, rfl⟩
    · exact published.releases flag stored carried old
    · refine ⟨announced, fresh, ?_⟩
      intro cell inside
      exact Nat.le_trans (covered cell inside) (view_le_advance view _ _ (.inl cell))
  · exact published.releases other stored carried (by simpa [Weak.release, same] using member)

theorem acquires_grows (view after : View L F) (flag : F) (value : V)
    (acquired : memory.Acquires initial view flag value after) : view ≤ after := by
  rcases acquired with ⟨_, _, rfl⟩ | ⟨position, carried, _, _, rfl⟩
  · exact le_refl _
  · exact le_trans le_sup_left (view_le_advance _ _ _)

theorem published_acquires (published : Published initial content announces covers memory) (view after : View L F)
    (flag : F) (value : V) (acquired : memory.Acquires initial view flag value after) :
    (value = initial ∧ view (.inr flag) = 0 ∧ after = view) ∨
    (value = announces flag ∧ value ≠ initial ∧ 1 ≤ after (.inr flag) ∧
      ∀ cell, covers flag cell → 1 ≤ after (.inl cell)) := by
  rcases acquired with ⟨unseen, zero, unchanged⟩ | ⟨position, carried, _, found, rfl⟩
  · exact .inl ⟨zero, unseen, unchanged⟩
  · obtain ⟨announced, fresh, covered⟩ := published.releases flag value carried (List.mem_of_getElem? found)
    refine .inr ⟨announced, fresh, ?_, ?_⟩
    · exact Nat.le_trans (Nat.succ_le_succ (Nat.zero_le position)) (position_le_advance _ _ _)
    · intro cell inside
      have joined : carried (.inl cell) ≤ (view ⊔ carried) (.inl cell) := Nat.le_max_right _ _
      exact Nat.le_trans (covered cell inside) (Nat.le_trans joined (view_le_advance _ _ _ (.inl cell)))

theorem current_release (view : View L F) (flag other : F) (value : V) :
    (memory.release view flag value).current initial other =
      if other = flag then value else memory.current initial other := by
  by_cases same : other = flag
  · subst other
    simp [Weak.current, Weak.release]
  · simp [Weak.current, Weak.release, same]

end Published

end Interaction
