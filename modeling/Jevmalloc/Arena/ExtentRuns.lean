import Jevmalloc.Arena.ExtentForwarding

set_option autoImplicit false

namespace Jevmalloc

namespace Hooks

variable {State W : Type} {env : TargetEnv}

-- One hook call by jemalloc on the table at an address. A slot that is null,
-- or an address without a table, runs none of the crate's code.
def runHook (debugAssertions : Bool) (tables : Statics State W) (raw : Nat) (call : HookCall env)
    (machine : Machine env W) : Except Fault (Option (Reply env) × Machine env W) :=
  match tables raw with
  | none => .ok (none, machine)
  | some body =>
      match call.viaSlot (ExtentHooks.new env debugAssertions body.state body.callbacks).raw raw with
      | none => .ok (none, machine)
      | some hooked => (hooked tables machine).bind fun result => .ok (some result.1, result.2)

def runHooks (debugAssertions : Bool) (tables : Statics State W) :
    List (Nat × HookCall env) → Machine env W → Except Fault (List (Option (Reply env)) × Machine env W)
  | [], machine => .ok ([], machine)
  | (raw, call) :: rest, machine =>
      (runHook debugAssertions tables raw call machine).bind fun first =>
        (runHooks debugAssertions tables rest first.2).bind fun later => .ok (first.1 :: later.1, later.2)

def served (tables : Statics State W) (raw : Nat) (call : HookCall env) : Bool :=
  match tables raw with
  | none => false
  | some body => body.callbacks.present call.slot

-- The run as its callbacks see it: which request reached which table's state,
-- in order, and what came back for each call.
inductive Forwards (tables : Statics State W) : List (Nat × HookCall env) → Machine env W → List (Option (Reply env)) →
    List (State × Request) → Machine env W → Prop where
  | finished (machine : Machine env W) : Forwards tables [] machine [] [] machine
  | skipped (raw : Nat) (call : HookCall env) (rest : List (Nat × HookCall env)) (machine after : Machine env W)
      (replies : List (Option (Reply env))) (invoked : List (State × Request))
      (absent : served tables raw call = false) (later : Forwards tables rest machine replies invoked after) :
      Forwards tables ((raw, call) :: rest) machine (none :: replies) invoked after
  | forwarded (raw : Nat) (call : HookCall env) (rest : List (Nat × HookCall env)) (body : Body State W) (answer : Answer)
      (world : W) (cells : Nat → CBool env) (reply : Reply env) (machine after : Machine env W)
      (replies : List (Option (Reply env))) (invoked : List (State × Request)) (found : tables raw = some body)
      (ran : body.callbacks.serve body.state machine.world (call.request machine.cells) = some (answer, world))
      (answered : call.Answered answer reply machine.cells cells)
      (later : Forwards tables rest ⟨world, cells⟩ replies invoked after) :
      Forwards tables ((raw, call) :: rest) machine (some reply :: replies)
        ((body.state, call.request machine.cells) :: invoked) after

theorem serve_present (callbacks : ExtentCallbacks State W) (state : State) (world : W) (cells : Nat → CBool env)
    (call : HookCall env) : (callbacks.serve state world (call.request cells)).isSome = callbacks.present call.slot := by
  cases call <;> exact Option.isSome_map

theorem run_hook_forwards (debugAssertions : Bool) (tables : Statics State W)
    (honest : debugAssertions = true → ∀ raw body, tables raw = some body → body.callbacks.Honest) (raw : Nat)
    (call : HookCall env) (machine : Machine env W) :
    (served tables raw call = false ∧ runHook debugAssertions tables raw call machine = .ok (none, machine)) ∨
    ∃ body answer world cells reply, tables raw = some body ∧
      body.callbacks.serve body.state machine.world (call.request machine.cells) = some (answer, world) ∧
      call.Answered answer reply machine.cells cells ∧
      runHook debugAssertions tables raw call machine = .ok (some reply, ⟨world, cells⟩) := by
  cases found : tables raw with
  | none => exact .inl ⟨by simp [served, found], by simp [runHook, found]⟩
  | some body =>
      have faithful := trampoline_faithful debugAssertions tables raw body found
        (fun debug => honest debug raw body found) call machine
      have presence := serve_present body.callbacks body.state machine.world machine.cells call
      simp only [runHook, found, via_slot_new]
      unfold Faithful at faithful
      cases ran : body.callbacks.serve body.state machine.world (call.request machine.cells) with
      | none =>
          rw [ran] at presence
          have absent : body.callbacks.present call.slot = false := presence.symm
          exact .inl ⟨by simp [served, found, absent], by rw [absent]; rfl⟩
      | some result =>
          rw [ran] at presence faithful
          have present : body.callbacks.present call.slot = true := presence.symm
          obtain ⟨reply, cells, outcome, answered⟩ := faithful
          refine .inr ⟨body, result.1, result.2, cells, reply, rfl, ran, answered, ?_⟩
          rw [present]
          simp only [if_true, outcome, ok_bind]

theorem run_hooks_forward (debugAssertions : Bool) (tables : Statics State W)
    (honest : debugAssertions = true → ∀ raw body, tables raw = some body → body.callbacks.Honest)
    (calls : List (Nat × HookCall env)) (machine : Machine env W) :
    ∃ replies invoked after, runHooks debugAssertions tables calls machine = .ok (replies, after) ∧
      Forwards tables calls machine replies invoked after := by
  induction calls generalizing machine with
  | nil => exact ⟨[], [], machine, rfl, .finished machine⟩
  | cons entry rest ih =>
      obtain ⟨raw, call⟩ := entry
      rcases run_hook_forwards debugAssertions tables honest raw call machine with
        ⟨absent, ran⟩ | ⟨body, answer, world, cells, reply, found, served, answered, ran⟩
      · obtain ⟨replies, invoked, after, later, forwards⟩ := ih machine
        exact ⟨_, _, after, by simp only [runHooks, ran, later, ok_bind],
          .skipped raw call rest machine after replies invoked absent forwards⟩
      · obtain ⟨replies, invoked, after, later, forwards⟩ := ih ⟨world, cells⟩
        exact ⟨_, _, after, by simp only [runHooks, ran, later, ok_bind],
          .forwarded raw call rest body answer world cells reply machine after replies invoked found served answered forwards⟩

section Recording

def noted {Args Result : Type} (name : Args → Request) (callback : Callback State W Args Result) :
    Callback State (W × List (State × Request)) Args Result :=
  fun state args journal =>
    ((callback state args journal.1).1, (callback state args journal.1).2, journal.2 ++ [(state, name args)])

def ExtentCallbacks.recorded (callbacks : ExtentCallbacks State W) : ExtentCallbacks State (W × List (State × Request)) where
  alloc := callbacks.alloc.map (noted .alloc)
  dalloc := callbacks.dalloc.map (noted .dalloc)
  destroy := callbacks.destroy.map (noted .destroy)
  commit := callbacks.commit.map (noted .commit)
  decommit := callbacks.decommit.map (noted .decommit)
  purgeLazy := callbacks.purgeLazy.map (noted .purgeLazy)
  purgeForced := callbacks.purgeForced.map (noted .purgeForced)
  split := callbacks.split.map (noted .split)
  merge := callbacks.merge.map (noted .merge)

def recordedTables (tables : Statics State W) : Statics State (W × List (State × Request)) :=
  fun raw => (tables raw).map fun body => ⟨body.callbacks.recorded, body.state⟩

theorem recorded_honest (callbacks : ExtentCallbacks State W) (honest : callbacks.Honest) : callbacks.recorded.Honest := by
  intro run present state request world made granted
  cases original : callbacks.alloc with
  | none => simp [ExtentCallbacks.recorded, original] at present
  | some callback =>
      have same : noted .alloc callback = run := by simpa [ExtentCallbacks.recorded, original] using present
      subst run
      exact honest callback original state request world.1 made granted

theorem serve_recorded (callbacks : ExtentCallbacks State W) (state : State) (journal : W × List (State × Request))
    (request : Request) (answer : Answer) (after : W × List (State × Request))
    (ran : callbacks.recorded.serve state journal request = some (answer, after)) :
    after.2 = journal.2 ++ [(state, request)] := by
  have recorded : ∀ {Args Result : Type} (callback : Option (Callback State W Args Result)) (name : Args → Request)
      (wrap : Result → Answer) (args : Args),
      ((callback.map (noted name)).map fun run => (run state args journal).map wrap id) = some (answer, after) →
        after.2 = journal.2 ++ [(state, name args)] := by
    intro Args Result callback name wrap args found
    cases callback with
    | none => cases found
    | some run =>
        cases found
        rfl
  cases request <;> exact recorded _ _ _ _ ran

theorem recorded_run (tables : Statics State W) (calls : List (Nat × HookCall env))
    (machine after : Machine env (W × List (State × Request))) (replies : List (Option (Reply env)))
    (invoked : List (State × Request)) (forwards : Forwards (recordedTables tables) calls machine replies invoked after) :
    after.world.2 = machine.world.2 ++ invoked := by
  induction forwards with
  | finished machine => exact (List.append_nil _).symm
  | skipped raw call rest machine after replies invoked absent later ih => exact ih
  | forwarded raw call rest body answer world cells reply machine after replies invoked found ran answered later ih =>
      cases original : tables raw with
      | none => simp [recordedTables, original] at found
      | some plain =>
          have same : (⟨plain.callbacks.recorded, plain.state⟩ : Body State (W × List (State × Request))) = body := by
            simpa [recordedTables, original] using found
          subst body
          have appended := serve_recorded plain.callbacks plain.state machine.world _ answer world ran
          rw [ih, appended, List.append_assoc, List.singleton_append]

end Recording

theorem extent_hooks_forward (env : TargetEnv) (debugAssertions : Bool) (State W : Type) (tables : Statics State W)
    (honest : debugAssertions = true → ∀ raw body, tables raw = some body → body.callbacks.Honest) :
    (∀ (state : State) (callbacks : ExtentCallbacks State W) (slot : Slot),
      (ExtentHooks.new env debugAssertions state callbacks).raw.filled slot = true ↔ callbacks.present slot = true) ∧
    (∀ (calls : List (Nat × HookCall env)) (machine : Machine env W), ∃ replies invoked after,
      runHooks debugAssertions tables calls machine = .ok (replies, after) ∧
        Forwards tables calls machine replies invoked after) ∧
    (∀ (calls : List (Nat × HookCall env)) (machine : Machine env (W × List (State × Request))), ∃ replies invoked after,
      runHooks debugAssertions (recordedTables tables) calls machine = .ok (replies, after) ∧
        Forwards (recordedTables tables) calls machine replies invoked after ∧
        after.world.2 = machine.world.2 ++ invoked) ∧
    (∀ (raw : Nat) (body : Body State W) (call : HookCall env) (machine : Machine env W), tables raw = some body →
      body.callbacks.present call.slot = false →
        call.trampoline debugAssertions raw tables machine = .ok (call.declined, machine)) := by
  refine ⟨?_, run_hooks_forward debugAssertions tables honest, ?_, ?_⟩
  · intro state callbacks slot
    rw [new_filled]
  · intro calls machine
    have recorded : debugAssertions = true → ∀ raw body, recordedTables tables raw = some body → body.callbacks.Honest := by
      intro debug raw body found
      cases original : tables raw with
      | none => simp [recordedTables, original] at found
      | some plain =>
          simp only [recordedTables, original, Option.map_some, Option.some.injEq] at found
          subst body
          exact recorded_honest plain.callbacks (honest debug raw plain original)
    obtain ⟨replies, invoked, after, ran, forwards⟩ :=
      run_hooks_forward debugAssertions (recordedTables tables) recorded calls machine
    exact ⟨replies, invoked, after, ran, forwards, recorded_run tables calls machine after replies invoked forwards⟩
  · intro raw body call machine found absent
    have faithful := trampoline_faithful debugAssertions tables raw body found
      (fun debug => honest debug raw body found) call machine
    have presence := serve_present body.callbacks body.state machine.world machine.cells call
    have nothing : body.callbacks.serve body.state machine.world (call.request machine.cells) = none := by
      rwa [absent, Option.isSome_eq_false_iff, Option.isNone_iff_eq_none] at presence
    unfold Faithful at faithful
    rwa [nothing] at faithful

def grantAll : ExtentCallbacks Unit Nat where
  alloc := some fun _ request world =>
    (some ⟨request.address.getD ⟨4096, by decide⟩, request.zeroed, request.committed⟩, world + 1)
  dalloc := some fun _ _ world => (.failure, world + 1)
  destroy := none
  commit := none
  decommit := none
  purgeLazy := none
  purgeForced := none
  split := none
  merge := none

theorem grant_all_honest : grantAll.Honest := by
  intro run present state request world made granted
  cases present
  cases granted
  cases request.address <;> simp

def oneTable : Statics Unit Nat := fun raw => if raw = 64 then some ⟨grantAll, ()⟩ else none

def demanding : Machine .other Nat := ⟨0, fun _ => toBool .other true⟩

theorem extent_hooks_forward_once :
    ∃ replies invoked after,
      runHooks true oneTable [(64, .alloc 0 4096 4096 1 2 0 (by decide))] demanding = .ok (replies, after) ∧
      Forwards oneTable [(64, .alloc 0 4096 4096 1 2 0 (by decide))] demanding replies invoked after := by
  have honest : ∀ raw body, oneTable raw = some body → body.callbacks.Honest := by
    intro raw body found
    unfold oneTable at found
    split at found
    · cases found
      exact grant_all_honest
    · cases found
  exact (extent_hooks_forward .other true Unit Nat oneTable fun _ => honest).2.1 _ _

end Hooks

end Jevmalloc
