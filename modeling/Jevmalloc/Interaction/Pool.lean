import Mathlib.Logic.Function.Basic
import Mathlib.Logic.Relation
import Jevmalloc.Interaction.Program

set_option autoImplicit false

namespace Interaction

-- Any number of callers run operations against one shared world. An idle
-- caller may enter an operation, a busy one executes its next call, and one
-- whose program has returned leaves. Every step belongs to one caller.
structure System (C : Type) (R : C → Type) (L W Op : Type) (Result : Op → Type) where
  code : (op : Op) → Program C R (Result op)
  initial : W → Prop
  enter : W → Op → L → W → Prop
  exec : L → W → (command : C) → R command → L → W → Prop
  leave : L → W → (op : Op) → Result op → W → Prop

structure Caller (C : Type) (R : C → Type) (L Op : Type) (Result : Op → Type) where
  op : Op
  own : L
  program : Program C R (Result op)

structure Config (C : Type) (R : C → Type) (L W Op : Type) (Result : Op → Type) where
  world : W
  callers : Nat → Option (Caller C R L Op Result)

variable {C : Type} {R : C → Type} {L W Op : Type} {Result : Op → Type}

inductive Step (system : System C R L W Op Result) :
    Config C R L W Op Result → Config C R L W Op Result → Prop where
  | enter (config : Config C R L W Op Result) (thread : Nat) (op : Op) (own : L) (world : W)
      (idle : config.callers thread = none) (entered : system.enter config.world op own world) :
      Step system config ⟨world, Function.update config.callers thread (some ⟨op, own, system.code op⟩)⟩
  | exec (config : Config C R L W Op Result) (thread : Nat) (op : Op) (own next : L) (world : W) (command : C)
      (resume : R command → Program C R (Result op)) (response : R command)
      (busy : config.callers thread = some ⟨op, own, .call command resume⟩)
      (executed : system.exec own config.world command response next world) :
      Step system config ⟨world, Function.update config.callers thread (some ⟨op, next, resume response⟩)⟩
  | leave (config : Config C R L W Op Result) (thread : Nat) (op : Op) (own : L) (value : Result op) (world : W)
      (done : config.callers thread = some ⟨op, own, .ret value⟩)
      (left : system.leave own config.world op value world) :
      Step system config ⟨world, Function.update config.callers thread none⟩

def Steps (system : System C R L W Op Result) : Config C R L W Op Result → Config C R L W Op Result → Prop :=
  Relation.ReflTransGen (Step system)

inductive Reachable (system : System C R L W Op Result) : Config C R L W Op Result → Prop where
  | start (world : W) (initial : system.initial world) : Reachable system ⟨world, fun _ => none⟩
  | step (before after : Config C R L W Op Result) (reached : Reachable system before)
      (step : Step system before after) : Reachable system after

theorem reachable_steps (system : System C R L W Op Result) (before after : Config C R L W Op Result)
    (reached : Reachable system before) (steps : Steps system before after) : Reachable system after := by
  induction steps with
  | refl => exact reached
  | tail _ step ih => exact .step _ _ ih step

section Moves

variable (system : System C R L W Op Result) (world after : W) (callers : Nat → Option (Caller C R L Op Result))
  (reached : Reachable system ⟨world, callers⟩) (thread : Nat) (op : Op) (own next : L)

include reached

theorem reachable_enter (idle : callers thread = none) (entered : system.enter world op own after) :
    Reachable system ⟨after, Function.update callers thread (some ⟨op, own, system.code op⟩)⟩ :=
  .step _ _ reached (.enter _ thread op own after idle entered)

theorem reachable_exec (command : C) (resume : R command → Program C R (Result op)) (response : R command)
    (busy : callers thread = some ⟨op, own, .call command resume⟩)
    (executed : system.exec own world command response next after) :
    Reachable system ⟨after, Function.update callers thread (some ⟨op, next, resume response⟩)⟩ :=
  .step _ _ reached (.exec _ thread op own next after command resume response busy executed)

theorem reachable_leave (value : Result op) (done : callers thread = some ⟨op, own, .ret value⟩)
    (left : system.leave own world op value after) :
    Reachable system ⟨after, Function.update callers thread none⟩ :=
  .step _ _ reached (.leave _ thread op own value after done left)

end Moves

def System.restrict (system : System C R L W Op Result) (admits : (command : C) → R command → Prop) :
    System C R L W Op Result where
  code := system.code
  initial := system.initial
  enter := system.enter
  exec own world command response next after := system.exec own world command response next after ∧ admits command response
  leave := system.leave

theorem reachable_restrict (system : System C R L W Op Result) (admits : (command : C) → R command → Prop)
    (config : Config C R L W Op Result) (reached : Reachable (system.restrict admits) config) : Reachable system config := by
  induction reached with
  | start world initial => exact .start world initial
  | step before after _ step ih =>
      apply Reachable.step _ _ ih
      cases step with
      | enter thread op own world idle entered => exact .enter _ thread op own world idle entered
      | exec thread op own next world command resume response busy executed =>
          exact .exec _ thread op own next world command resume response busy executed.1
      | leave thread op own value world done left => exact .leave _ thread op own value world done left

def owns (config : Config C R L W Op Result) : Nat → Option L :=
  fun thread => (config.callers thread).map Caller.own

theorem owns_update (world : W) (callers : Nat → Option (Caller C R L Op Result)) (thread : Nat)
    (caller : Option (Caller C R L Op Result)) :
    owns ⟨world, Function.update callers thread caller⟩ =
      Function.update (fun other => (callers other).map Caller.own) thread (caller.map Caller.own) := by
  funext other
  by_cases same : other = thread
  · subst other
    simp [owns]
  · simp [owns, same]

-- A discipline is a protocol for each operation, which its code is checked
-- against once, together with an invariant over the world and all private
-- states that every call made under these protocols keeps.
structure Discipline (system : System C R L W Op Result) (protocol : Op → Protocol C R L)
    (returns : (op : Op) → L → Result op → Prop) (Inv : W → (Nat → Option L) → Prop) : Prop where
  start : ∀ world, system.initial world → Inv world fun _ => none
  enter : ∀ world all thread op own next, Inv world all → all thread = none →
    system.enter world op own next →
      Inv next (Function.update all thread (some own)) ∧ Obeys (protocol op) (returns op) (system.code op) own
  exec : ∀ world all thread op own command response next after, Inv world all → all thread = some own →
    (protocol op).pre own command → system.exec own world command response next after →
      (protocol op).post own command response next ∧ Inv after (Function.update all thread (some next))
  leave : ∀ world all thread op own value after, Inv world all → all thread = some own →
    returns op own value → system.leave own world op value after →
      Inv after (Function.update all thread none)

variable {system : System C R L W Op Result} {protocol : Op → Protocol C R L}
  {returns : (op : Op) → L → Result op → Prop} {Inv : W → (Nat → Option L) → Prop}

theorem discipline_step (discipline : Discipline system protocol returns Inv)
    (before after : Config C R L W Op Result) (step : Step system before after)
    (inv : Inv before.world (owns before))
    (obeys : ∀ thread caller, before.callers thread = some caller →
      Obeys (protocol caller.op) (returns caller.op) caller.program caller.own) :
    Inv after.world (owns after) ∧ ∀ thread caller, after.callers thread = some caller →
      Obeys (protocol caller.op) (returns caller.op) caller.program caller.own := by
  cases step with
  | enter thread op own world idle entered =>
      have isIdle : owns before thread = none := by simp [owns, idle]
      obtain ⟨kept, fresh⟩ := discipline.enter _ _ thread op own world inv isIdle entered
      refine ⟨by rw [owns_update]; exact kept, ?_⟩
      intro other caller found
      by_cases same : other = thread
      · subst other
        simp only [Function.update_self, Option.some.injEq] at found
        subst caller
        exact fresh
      · exact obeys other caller (by simpa [same] using found)
  | exec thread op own next world command resume response busy executed =>
      have mine : owns before thread = some own := by simp [owns, busy]
      have program := obeys thread _ busy
      obtain ⟨relied, kept⟩ := discipline.exec _ _ thread op own command response next world inv mine program.1 executed
      refine ⟨by rw [owns_update]; exact kept, ?_⟩
      intro other caller found
      by_cases same : other = thread
      · subst other
        simp only [Function.update_self, Option.some.injEq] at found
        subst caller
        exact program.2 response next relied
      · exact obeys other caller (by simpa [same] using found)
  | leave thread op own value world done left =>
      have mine : owns before thread = some own := by simp [owns, done]
      refine ⟨by rw [owns_update]; exact discipline.leave _ _ thread op own value world inv mine (obeys thread _ done) left, ?_⟩
      intro other caller found
      by_cases same : other = thread
      · subst other
        simp at found
      · exact obeys other caller (by simpa [same] using found)

theorem discipline_reachable (discipline : Discipline system protocol returns Inv)
    (config : Config C R L W Op Result) (reached : Reachable system config) :
    Inv config.world (owns config) ∧ ∀ thread caller, config.callers thread = some caller →
      Obeys (protocol caller.op) (returns caller.op) caller.program caller.own := by
  induction reached with
  | start world initial => exact ⟨discipline.start world initial, by simp⟩
  | step before after _ step ih => exact discipline_step discipline before after step ih.1 ih.2

theorem discipline_invariant (discipline : Discipline system protocol returns Inv)
    (config : Config C R L W Op Result) (reached : Reachable system config) : Inv config.world (owns config) :=
  (discipline_reachable discipline config reached).1

theorem discipline_pending (discipline : Discipline system protocol returns Inv)
    (config : Config C R L W Op Result) (reached : Reachable system config) (thread : Nat) (op : Op) (own : L)
    (command : C) (resume : R command → Program C R (Result op))
    (busy : config.callers thread = some ⟨op, own, .call command resume⟩) : (protocol op).pre own command :=
  ((discipline_reachable discipline config reached).2 thread _ busy).1

theorem discipline_returned (discipline : Discipline system protocol returns Inv)
    (config : Config C R L W Op Result) (reached : Reachable system config) (thread : Nat) (op : Op) (own : L)
    (value : Result op) (done : config.callers thread = some ⟨op, own, .ret value⟩) : returns op own value :=
  (discipline_reachable discipline config reached).2 thread _ done

end Interaction
