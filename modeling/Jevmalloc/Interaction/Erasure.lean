import Jevmalloc.Interaction.Pool

set_option autoImplicit false

namespace Interaction

section Programs

variable {C : Type} {R : C → Type} {α β : Type} (silent : C → Prop)

-- The second program is the first without some of its silent calls.
inductive Erases : Program C R α → Program C R α → Prop where
  | ret (value : α) : Erases (.ret value) (.ret value)
  | call (command : C) (resume erased : R command → Program C R α)
      (each : ∀ response, Erases (resume response) (erased response)) : Erases (.call command resume) (.call command erased)
  | skip (command : C) (resume : R command → Program C R α) (erased : Program C R α) (quiet : silent command)
      (each : ∀ response, Erases (resume response) erased) : Erases (.call command resume) erased

theorem erases_refl (program : Program C R α) : Erases silent program program := by
  induction program with
  | ret value => exact .ret value
  | call command resume ih => exact .call command resume resume ih

theorem erases_bind (program erased : Program C R α) (next after : α → Program C R β)
    (first : Erases silent program erased) (second : ∀ value, Erases silent (next value) (after value)) :
    Erases silent (program >>= next) (erased >>= after) := by
  induction first with
  | ret value => exact second value
  | call command resume erased each ih => exact .call command _ _ ih
  | skip command resume erased quiet each ih => exact .skip command _ _ quiet ih

theorem erases_silent_bind (program : Program C R Unit) (next : Unit → Program C R β) (after : Program C R β)
    (first : Erases silent program (.ret ())) (second : Erases silent (next ()) after) :
    Erases silent (program >>= next) after :=
  erases_bind silent program (.ret ()) next (fun _ => after) first fun _ => second

inductive Aligned : Program C R α → Program C R α → Prop where
  | ret (value : α) : Aligned (.ret value) (.ret value)
  | call (command : C) (resume erased : R command → Program C R α)
      (each : ∀ response, Erases silent (resume response) (erased response)) :
      Aligned (.call command resume) (.call command erased)

end Programs

section Systems

variable {C : Type} {R : C → Type} {L W V Op : Type} {Result : Op → Type}

structure Projects (full : System C R L W Op Result) (bare : System C R L V Op Result) (view : W → V) : Prop where
  start : ∀ world, full.initial world → bare.initial (view world)
  enter : ∀ world op own after, full.enter world op own after → bare.enter (view world) op own (view after)
  exec : ∀ own world command response next after, full.exec own world command response next after →
    bare.exec own (view world) command response next (view after)
  leave : ∀ own world op value after, full.leave own world op value after → bare.leave own (view world) op value (view after)

structure Lifts (full : System C R L W Op Result) (bare : System C R L V Op Result) (view : W → V) : Prop where
  start : ∀ seen, bare.initial seen → ∃ world, full.initial world ∧ view world = seen
  enter : ∀ world op own seen, bare.enter (view world) op own seen → ∃ after, full.enter world op own after ∧ view after = seen
  exec : ∀ own world command response next seen, bare.exec own (view world) command response next seen →
    ∃ after, full.exec own world command response next after ∧ view after = seen
  leave : ∀ own world op value seen, bare.leave own (view world) op value seen →
    ∃ after, full.leave own world op value after ∧ view after = seen

inductive CallerErases (silent : C → Prop) :
    Option (Caller C R L Op Result) → Option (Caller C R L Op Result) → Prop where
  | idle : CallerErases silent none none
  | busy (op : Op) (own : L) (program erased : Program C R (Result op)) (erases : Erases silent program erased) :
      CallerErases silent (some ⟨op, own, program⟩) (some ⟨op, own, erased⟩)

variable {silent : C → Prop} {full : System C R L W Op Result} {bare : System C R L V Op Result} {view : W → V}

theorem callers_update (callers others : Nat → Option (Caller C R L Op Result)) (thread : Nat)
    (caller other : Option (Caller C R L Op Result)) (rest : ∀ slot, CallerErases silent (callers slot) (others slot))
    (here : CallerErases silent caller other) (slot : Nat) :
    CallerErases silent (Function.update callers thread caller slot) (Function.update others thread other slot) := by
  by_cases same : slot = thread
  · subst slot
    rwa [Function.update_self, Function.update_self]
  · rw [Function.update_of_ne same, Function.update_of_ne same]
    exact rest slot

theorem caller_erases_idle (callers others : Nat → Option (Caller C R L Op Result)) (thread : Nat)
    (erases : CallerErases silent (callers thread) (others thread)) : callers thread = none ↔ others thread = none := by
  generalize callers thread = caller at erases
  generalize others thread = other at erases
  cases erases with
  | idle => exact Iff.rfl
  | busy _ _ _ _ _ => simp

theorem caller_erases_same (callers others : Nat → Option (Caller C R L Op Result)) (thread : Nat)
    (erases : CallerErases silent (callers thread) (others thread)) :
    (callers thread).map (fun caller => (caller.op, caller.own)) = (others thread).map fun caller => (caller.op, caller.own) := by
  generalize callers thread = caller at erases
  generalize others thread = other at erases
  cases erases with
  | idle => rfl
  | busy _ _ _ _ _ => rfl

theorem caller_erases_busy (op : Op) (own : L) (program : Program C R (Result op))
    (caller : Option (Caller C R L Op Result)) (erases : CallerErases silent (some ⟨op, own, program⟩) caller) :
    ∃ erased, caller = some ⟨op, own, erased⟩ ∧ Erases silent program erased := by
  cases erases with
  | busy _ _ _ erased erases => exact ⟨erased, rfl, erases⟩

theorem caller_erased_busy (op : Op) (own : L) (erased : Program C R (Result op))
    (caller : Option (Caller C R L Op Result)) (erases : CallerErases silent caller (some ⟨op, own, erased⟩)) :
    ∃ program, caller = some ⟨op, own, program⟩ ∧ Erases silent program erased := by
  cases erases with
  | busy _ _ program _ erases => exact ⟨program, rfl, erases⟩

section Forward

variable (projects : Projects full bare view) (erases : ∀ op, Erases silent (full.code op) (bare.code op))
  (unseen : ∀ own world command response next after, silent command →
    full.exec own world command response next after → next = own ∧ view after = view world)

include projects erases unseen

-- A run of the full programs is a run of the erased ones: silent calls become
-- steps in which nothing happens.
theorem erased_reachable (config : Config C R L W Op Result) (reached : Reachable full config) :
    ∃ callers, Reachable bare ⟨view config.world, callers⟩ ∧
      ∀ thread, CallerErases silent (config.callers thread) (callers thread) := by
  induction reached with
  | start world initial => exact ⟨fun _ => none, .start _ (projects.start world initial), fun _ => .idle⟩
  | step before after _ step ih =>
      obtain ⟨callers, reached, related⟩ := ih
      cases step with
      | enter thread op own world idle entered =>
          have free := (caller_erases_idle _ _ thread (related thread)).mp idle
          exact ⟨_, reachable_enter _ _ _ _ reached thread op own free (projects.enter _ op own world entered),
            callers_update _ _ thread _ _ related (.busy op own _ _ (erases op))⟩
      | exec thread op own next world command resume response busy executed =>
          obtain ⟨erased, found, here⟩ := caller_erases_busy op own _ _ (busy ▸ related thread)
          cases here with
          | call _ _ erased each =>
              have moved := projects.exec own _ command response next world executed
              exact ⟨_, reachable_exec _ _ _ _ reached thread op own next command erased response found moved,
                callers_update _ _ thread _ _ related (.busy op next _ _ (each response))⟩
          | skip _ _ _ quiet each =>
              obtain ⟨same, unchanged⟩ := unseen _ _ command response _ _ quiet executed
              subst next
              refine ⟨callers, unchanged ▸ reached, ?_⟩
              have kept := callers_update _ callers thread _ (some ⟨op, own, erased⟩) related (.busy op own _ _ (each response))
              rwa [← found, Function.update_eq_self] at kept
      | leave thread op own value world done left =>
          obtain ⟨erased, found, here⟩ := caller_erases_busy op own _ _ (done ▸ related thread)
          cases here with
          | ret =>
              exact ⟨_, reachable_leave _ _ _ _ reached thread op own value found (projects.leave own _ op value world left),
                callers_update _ _ thread _ _ related .idle⟩

end Forward

section Backward

variable (lifts : Lifts full bare view) (erases : ∀ op, Erases silent (full.code op) (bare.code op))
  (answers : ∀ config, Reachable full config → ∀ thread op own command resume,
    config.callers thread = some ⟨op, own, .call command resume⟩ → silent command →
      ∃ response after, full.exec own config.world command response own after ∧ view after = view config.world)

section CatchUp

include answers

theorem catch_up (world : W) (callers : Nat → Option (Caller C R L Op Result)) (thread : Nat) (op : Op) (own : L)
    (program erased : Program C R (Result op)) (related : Erases silent program erased)
    (reached : Reachable full ⟨world, callers⟩) (busy : callers thread = some ⟨op, own, program⟩) :
    ∃ level after, Reachable full ⟨after, Function.update callers thread (some ⟨op, own, level⟩)⟩ ∧
      view after = view world ∧ Aligned silent level erased := by
  induction related generalizing world callers with
  | ret value =>
      refine ⟨.ret value, world, ?_, rfl, .ret value⟩
      rwa [← busy, Function.update_eq_self]
  | call command resume erased each _ =>
      refine ⟨.call command resume, world, ?_, rfl, .call command resume erased each⟩
      rwa [← busy, Function.update_eq_self]
  | skip command resume erased quiet each ih =>
      obtain ⟨response, after, executed, unchanged⟩ := answers _ reached thread op own command resume busy quiet
      have moved := reachable_exec full world after callers reached thread op own own command resume response busy executed
      obtain ⟨level, later, caught, same, aligned⟩ := ih response after _ moved (Function.update_self ..)
      rw [Function.update_idem] at caught
      exact ⟨level, later, caught, same.trans unchanged, aligned⟩

end CatchUp

include lifts erases answers

theorem unerased_reachable (config : Config C R L V Op Result) (reached : Reachable bare config) :
    ∃ world callers, Reachable full ⟨world, callers⟩ ∧ view world = config.world ∧
      ∀ thread, CallerErases silent (callers thread) (config.callers thread) := by
  induction reached with
  | start seen initial =>
      obtain ⟨world, initial, same⟩ := lifts.start seen initial
      exact ⟨world, fun _ => none, .start world initial, same, fun _ => .idle⟩
  | step before after _ step ih =>
      obtain ⟨world, callers, reached, same, related⟩ := ih
      cases step with
      | enter thread op own seen idle entered =>
          have free := (caller_erases_idle _ _ thread (related thread)).mpr idle
          obtain ⟨later, entered, agree⟩ := lifts.enter world op own seen (same ▸ entered)
          exact ⟨later, _, reachable_enter _ _ _ _ reached thread op own free entered, agree,
            callers_update _ _ thread _ _ related (.busy op own _ _ (erases op))⟩
      | exec thread op own next seen command resume response busy executed =>
          obtain ⟨program, found, here⟩ := caller_erased_busy op own _ _ (busy ▸ related thread)
          obtain ⟨level, middle, caught, unchanged, aligned⟩ := catch_up answers _ callers thread op own program _ here reached found
          cases aligned with
          | call _ program _ each =>
              obtain ⟨later, executed, agree⟩ :=
                lifts.exec own middle command response next seen ((unchanged.trans same).symm ▸ executed)
              have moved := reachable_exec full _ _ _ caught thread op own next command program response
                (Function.update_self ..) executed
              rw [Function.update_idem] at moved
              exact ⟨later, _, moved, agree, callers_update _ _ thread _ _ related (.busy op next _ _ (each response))⟩
      | leave thread op own value seen done left =>
          obtain ⟨program, found, here⟩ := caller_erased_busy op own _ _ (done ▸ related thread)
          obtain ⟨level, middle, caught, unchanged, aligned⟩ := catch_up answers _ callers thread op own program _ here reached found
          cases aligned with
          | ret =>
              obtain ⟨later, left, agree⟩ := lifts.leave own middle op value seen ((unchanged.trans same).symm ▸ left)
              have moved := reachable_leave full _ _ _ caught thread op own value (Function.update_self ..) left
              rw [Function.update_idem] at moved
              exact ⟨later, _, moved, agree, callers_update _ _ thread _ _ related .idle⟩

end Backward

end Systems

end Interaction
