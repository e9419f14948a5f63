import Jevmalloc.Arena.Calls
import Jevmalloc.Ctl.Runs

set_option autoImplicit false

namespace Jevmalloc

open Interaction Bytes

abbrev Reads := List (List Nat × Nat)

def recorded (reads : Reads) (call : Mallctl) (response : MallctlResponse call) : Reads :=
  match response.reported with
  | some index => reads ++ [(call.mib, index)]
  | none => reads

def made : Except Error Arena → List Arena
  | .ok arena => [arena]
  | .error _ => []

namespace ArenaCall

def yields : (call : ArenaCall) → call.Result → List Arena
  | .create, value => made value
  | .createWithRawExtentHooks _, value => made value
  | .fromIndex _, value => made value
  | .fromOwnedIndex _, value => made value
  | .current, value => made value
  | .lookup _, value => made value
  | .setCurrent _, value => made value
  | .tryDestroy _, .error failure => [failure.arena]
  | .intoParts _, parts => [parts.2]
  | _, _ => []

section Targets

variable (translation : String → Key)

-- The arena controls a call may issue, given what it has been told so far: a
-- method commands the arena of its handle, a wrapper of the current thread the
-- arena first reported to it, and the allocator-wide functions the sentinel.
def Targets (reads : Reads) : ArenaCall → Nat → ArenaControl → Prop
  | .method arena chosen, index, control => index = arena.index ∧ index < arenaIndexLimit ∧ control ∈ chosen.controls
  | .tryDestroy arena, index, control | .drop arena, index, control =>
      index = arena.index ∧ index < arenaIndexLimit ∧ arena.owned ∧ control = .destroy
  | .dropError failure, index, control =>
      index = failure.arena.index ∧ index < arenaIndexLimit ∧ failure.arena.owned ∧ control = .destroy
  | .thisThread chosen, index, control =>
      reads.head? = some ((translation Control.threadArena.name).val, index) ∧ index < arenaIndexLimit ∧
        control ∈ chosen.method.controls
  | .arenas chosen, index, control => index = Arenas.allArenas ∧ control ∈ chosen.controls
  | _, _, _ => False

def Asks (reads : Reads) : ArenaCall → Control → Prop
  | .create, control | .createWithRawExtentHooks _, control => control = .arenasCreate
  | .current, control | .setCurrent _, control => control = .threadArena
  | .lookup _, control => control = .arenasLookup
  | .thisThread _, control => reads = [] ∧ control = .threadArena
  | _, _ => False

def Issues (reads : Reads) (call : ArenaCall) (mib : List Nat) : Prop :=
  (∃ index control, Targets translation reads call index control ∧ mib = arenaMib translation index control) ∨
  ∃ control, Asks reads call control ∧ mib = (translation control.name).val

end Targets

end ArenaCall

-- Threads that make any calls on any handle they have ever been given, while
-- jemalloc answers every control call as it likes.
def selectionSurroundings : Surroundings (List Arena) Reads ArenaCall ArenaCall.Result where
  code := ArenaCall.code
  initial handles := handles = []
  enter handles call view reads after :=
    (∀ arena, call.subject = some arena → arena ∈ handles) ∧ view = (fun _ => 0) ∧ reads = [] ∧ after = handles
  control reads handles call response next after :=
    response.Sized linuxTarget ∧ next = recorded reads call response ∧ after = handles
  leave _ handles call value after := after = handles ++ call.yields value

def selectionRule (translation : String → Key) (call : ArenaCall) : Rule Reads where
  pre own mallctl := call.Issues translation own.ghost mallctl.mib
  post before mallctl response after := after = recorded before mallctl response

def selectionReturns (call : ArenaCall) (_ : Local Reads) (value : call.Result) : Prop :=
  ∀ arena ∈ call.yields value, arena.index < arenaIndexLimit

section Selection

variable (translation : String → Key) (code : List (Option (List UInt8)) → List UInt8 → Nat)
  (componentwise : Componentwise translation code)

theorem asks_allowed (call : ArenaCall) (control : Control) (output : Output) (input : Option Input)
    (own later : Local Reads) (asks : call.Asks own.ghost control) (same : later.ghost = own.ghost) :
    (selectionRule translation call).pre later ⟨(translation control.name).val, output, input⟩ :=
  .inr ⟨control, by rw [same]; exact asks, rfl⟩

theorem targets_grants (call : ArenaCall) (index : Nat) (controls : List ArenaControl)
    (targets : ∀ reads control, control ∈ controls → call.Targets translation reads index control) :
    Grants translation (selectionRule translation call) (fun _ => True) index controls where
  pre own _ _ control _ member := .inl ⟨index, control, targets own.ghost control member, rfl⟩
  post _ _ _ _ _ _ _ _ _ := trivial

theorem recorded_head (reads : Reads) (call : Mallctl) (response : MallctlResponse call) (first : List Nat × Nat)
    (known : reads.head? = some first) : (recorded reads call response).head? = some first := by
  cases reads with
  | nil => cases known
  | cons read rest =>
      rw [recorded]
      cases response.reported with
      | some index => exact known
      | none => exact known

theorem this_thread_grants (chosen : ThisCall) (index : Nat) (below : index < arenaIndexLimit) :
    Grants translation (selectionRule translation (.thisThread chosen))
      (fun reads => reads.head? = some ((translation Control.threadArena.name).val, index)) index chosen.method.controls where
  pre own _ _ control known member := .inl ⟨index, control, ⟨known, below, member⟩, rfl⟩
  post before _ _ _ response after known _ same := by
    rw [same]
    exact recorded_head before _ response _ known

theorem created_bounded (index : Nat) (arena : Arena) (made : Arena.fromCreatedIndex index = .ok arena) :
    arena.index < arenaIndexLimit := by
  obtain ⟨below, rfl⟩ := (from_created_index_iff index arena).mp made
  exact below

theorem borrowed_bounded (index : Nat) (arena : Arena) (made : borrowed index = .ok arena) :
    arena.index < arenaIndexLimit := by
  obtain ⟨below, rfl⟩ := (borrowed_iff index arena).mp made
  exact below

theorem made_bounded (value : Except Error Arena) (bounded : ∀ arena, value = .ok arena → arena.index < arenaIndexLimit) :
    ∀ arena ∈ made value, arena.index < arenaIndexLimit := by
  intro arena member
  cases value with
  | error error => cases member
  | ok handle =>
      obtain rfl := List.mem_singleton.mp member
      exact bounded arena rfl

theorem constructor_obeys (rule : Rule Reads) (program : Jem Arena) (control : Control) (input : Option Input)
    (check : Nat → Except Error Arena) (own : Local Reads)
    (bounded : ∀ index arena, check index = .ok arena → arena.index < arenaIndexLimit)
    (asks : Obeys (hosted translation linuxTarget rule) (Reported translation rule control input check own) program.run own) :
    Obeys (hosted translation linuxTarget rule) (fun _ value => ∀ arena ∈ made value, arena.index < arenaIndexLimit) program.run own := by
  apply obeys_weaken _ _ _ _ own asks
  intro next value asked
  apply made_bounded value
  intro arena same
  subst same
  obtain ⟨_, index, _, _, accepted⟩ := reported_ok_iff translation rule asked
  exact bounded index arena accepted

include componentwise

theorem this_thread_obeys (chosen : ThisCall) (own : Local Reads) (start : own.ghost = []) :
    Obeys (hosted translation linuxTarget (selectionRule translation (.thisThread chosen))) (fun _ _ => True) chosen.run.run own := by
  apply this_call_obeys translation code componentwise _ chosen
    (fun index reads => reads.head? = some ((translation Control.threadArena.name).val, index)) own
  · intro later same
    exact asks_allowed translation (.thisThread chosen) .threadArena _ _ own later ⟨start, rfl⟩ same
  · intro response index after read answered
    rw [read, start, recorded, (answer_reported response index).mp answered]
    rfl
  · exact this_thread_grants translation chosen

theorem selection_obeys (call : ArenaCall) (own : Local Reads) (start : own.ghost = [])
    (bounded : ∀ arena, call.subject = some arena → arena.index < arenaIndexLimit) :
    Obeys (hosted translation linuxTarget (selectionRule translation call)) (selectionReturns call) call.code own := by
  have asks : ∀ control output input (later : Local Reads), call.Asks own.ghost control → later.ghost = own.ghost →
      (selectionRule translation call).pre later ⟨(translation control.name).val, output, input⟩ :=
    fun control output input later => asks_allowed translation call control output input own later
  have aims : ∀ index (later : Local Reads), call.Targets translation later.ghost index .destroy →
      (selectionRule translation call).pre later ⟨arenaMib translation index .destroy, .none, none⟩ :=
    fun index _ targets => .inl ⟨index, .destroy, targets, rfl⟩
  cases call with
  | create =>
      exact constructor_obeys translation _ _ _ _ _ own created_bounded
        (create_obeys translation _ own fun later => asks .arenasCreate _ _ later rfl)
  | createWithRawExtentHooks hooks =>
      exact constructor_obeys translation _ _ _ _ _ own created_bounded
        (create_hooks_obeys translation _ own hooks fun later => asks .arenasCreate _ _ later rfl)
  | fromIndex index =>
      apply made_bounded
      intro arena accepted
      obtain ⟨below, rfl⟩ := (from_index_iff index arena).mp accepted
      exact below
  | fromOwnedIndex index =>
      apply made_bounded
      intro arena accepted
      obtain ⟨below, rfl⟩ := (from_owned_index_iff index arena).mp accepted
      exact below
  | current =>
      exact constructor_obeys translation _ _ _ _ _ own borrowed_bounded
        (current_obeys translation _ own fun later => asks .threadArena _ _ later rfl)
  | lookup allocation =>
      exact constructor_obeys translation _ _ _ _ _ own borrowed_bounded
        (lookup_obeys translation _ own allocation fun later => asks .arenasLookup _ _ later rfl)
  | setCurrent arena =>
      exact constructor_obeys translation _ _ _ _ _ own borrowed_bounded
        (set_current_obeys translation _ own arena fun later => asks .threadArena _ _ later rfl)
  | intoIndex arena =>
      apply obeys_weaken _ _ _ _ own (into_index_obeys translation _ arena own)
      intro next value _ handle member
      cases member
  | method arena chosen =>
      apply obeys_weaken _ _ _ _ own (method_obeys translation code componentwise _ arena chosen
        (targets_grants translation (.method arena chosen) arena.index chosen.controls fun _ _ member =>
          ⟨rfl, bounded arena rfl, member⟩) own trivial)
      intro next value _ handle member
      cases member
  | tryDestroy arena =>
      apply obeys_weaken _ _ _ _ own (try_destroy_obeys translation code componentwise _ arena own fun owned later _ =>
        aims arena.index later ⟨rfl, bounded arena rfl, owned, rfl⟩)
      intro next value tried handle member
      cases tried with
      | inl refused =>
          rw [refused.2.2] at member
          exact bounded handle (congrArg some (List.mem_singleton.mp member).symm)
      | inr called =>
          obtain ⟨_, result, _, rfl⟩ := called
          cases result with
          | ok value => cases member
          | error error =>
              exact bounded handle (congrArg some (List.mem_singleton.mp member).symm)
  | drop arena =>
      apply obeys_weaken _ _ _ _ own (drop_obeys translation code componentwise _ arena own fun owned later _ =>
        aims arena.index later ⟨rfl, bounded arena rfl, owned, rfl⟩)
      intro next value _ handle member
      cases member
  | intoParts failure =>
      intro arena member
      obtain rfl := List.mem_singleton.mp member
      exact bounded failure.arena rfl
  | dropError failure =>
      apply obeys_weaken _ _ _ _ own (drop_obeys translation code componentwise _ failure.arena own fun owned later _ =>
        aims failure.arena.index later ⟨rfl, bounded failure.arena rfl, owned, rfl⟩)
      intro next value _ handle member
      cases member
  | thisThread chosen =>
      apply obeys_weaken _ _ _ _ own (this_thread_obeys translation code componentwise chosen own start)
      intro next value _ handle member
      cases member
  | arenas chosen =>
      apply obeys_weaken _ _ _ _ own (arenas_call_obeys translation code componentwise _ chosen
        (targets_grants translation (.arenas chosen) Arenas.allArenas chosen.controls fun _ _ member => ⟨rfl, member⟩) own trivial)
      intro next value _ handle member
      cases member

theorem selection_rules :
    Rules translation linuxTarget selectionSurroundings (selectionRule translation) selectionReturns
      fun handles _ => ∀ arena ∈ handles, arena.index < arenaIndexLimit where
  start := by
    intro handles none arena member
    obtain rfl : handles = [] := none
    cases member
  enter := by
    intro handles all thread call view reads after bounded _ entered
    obtain ⟨known, _, rfl, rfl⟩ := entered
    exact ⟨bounded, selection_obeys translation code componentwise call _ rfl fun arena found => bounded arena (known arena found)⟩
  sized _ _ _ _ _ _ controlled := controlled.1
  control := by
    intro handles all thread call own mallctl response next after bounded _ _ controlled
    obtain ⟨_, same, rfl⟩ := controlled
    exact ⟨same, bounded⟩
  leave := by
    intro handles all thread call own value after bounded _ returned left arena member
    obtain rfl : after = handles ++ call.yields value := left
    cases List.mem_append.mp member with
    | inl before => exact bounded arena before
    | inr handed => exact returned arena handed

omit componentwise in
theorem arenas_controls (chosen : ArenasCall) : chosen.controls ⊆ [.decay, .purge, .dss] := by
  cases chosen <;> simp [ArenasCall.controls]

omit componentwise in
theorem targets_lifecycle (reads : Reads) (call : ArenaCall) (index : Nat) (control : ArenaControl)
    (targets : call.Targets translation reads index control) (lifecycle : control = .reset ∨ control = .destroy) :
    index < arenaIndexLimit := by
  cases call with
  | method arena chosen => exact targets.2.1
  | tryDestroy arena => exact targets.2.1
  | drop arena => exact targets.2.1
  | dropError failure => exact targets.2.1
  | thisThread chosen => exact targets.2.1
  | arenas chosen =>
      have member := arenas_controls chosen targets.2
      cases lifecycle with
      | inl reset =>
          subst reset
          simp at member
      | inr destroy =>
          subst destroy
          simp at member
  | _ => exact targets.elim

omit componentwise in
theorem targets_sentinel (reads : Reads) (call : ArenaCall) (control : ArenaControl)
    (targets : call.Targets translation reads Arenas.allArenas control) :
    (∃ chosen, call = .arenas chosen) ∧ control ∈ [ArenaControl.decay, ArenaControl.purge, ArenaControl.dss] := by
  have outside : ¬Arenas.allArenas < arenaIndexLimit := by decide
  cases call with
  | method arena chosen => exact absurd targets.2.1 outside
  | tryDestroy arena => exact absurd targets.2.1 outside
  | drop arena => exact absurd targets.2.1 outside
  | dropError failure => exact absurd targets.2.1 outside
  | thisThread chosen => exact absurd targets.2.1 outside
  | arenas chosen =>
      exact ⟨⟨chosen, rfl⟩, arenas_controls chosen targets.2⟩
  | _ => exact targets.elim

omit componentwise in
theorem issues_meaning (meaning : List Nat → Option Control) (interprets : Interprets translation meaning) (reads : Reads)
    (call : ArenaCall) (mib : List Nat) (index : Nat) (control : ArenaControl) (issues : call.Issues translation reads mib)
    (means : meaning mib = some (.arena index control)) : call.Targets translation reads index control := by
  cases issues with
  | inl targeted =>
      obtain ⟨target, of, targets, rfl⟩ := targeted
      rw [interprets.known] at means
      cases means
      exact targets
  | inr asked =>
      obtain ⟨other, asks, rfl⟩ := asked
      rw [interprets.known] at means
      cases means
      cases call with
      | thisThread chosen => cases asks.2
      | _ => cases asks

abbrev ArenaConfig (S G : Type) := Config (Command Mallctl) (Command.Response MallctlResponse) (Local G) (World S) ArenaCall ArenaCall.Result

theorem arena_selection (config : ArenaConfig (List Arena) Reads)
    (reached : Reachable (process translation selectionSurroundings) config) :
    (∀ thread call own mallctl resume, config.callers thread = some ⟨call, own, .call (.control mallctl) resume⟩ →
      call.Issues translation own.ghost mallctl.mib) ∧
    (∀ thread call own resume, config.callers thread ≠ some ⟨call, own, .call .panic resume⟩) ∧
    (∀ name slot segment, segment ∈ config.world.memory.stores (name, slot) → (translation name).val[slot]? = some segment) ∧
    (∀ thread call own name slot segment resume,
      config.callers thread = some ⟨call, own, .call (.cache (.storeSegment name slot segment)) resume⟩ →
        (translation name).val[slot]? = some segment) ∧
    (∀ meaning, Interprets translation meaning → ∀ thread call own mallctl resume index control,
      config.callers thread = some ⟨call, own, .call (.control mallctl) resume⟩ →
      meaning mallctl.mib = some (.arena index control) →
        ((control = .reset ∨ control = .destroy) → index < arenaIndexLimit) ∧
        (index = Arenas.allArenas →
          (∃ chosen, call = .arenas chosen) ∧ control ∈ [ArenaControl.decay, ArenaControl.purge, ArenaControl.dss])) := by
  have discipline := process_discipline translation selectionSurroundings _ _ _
    (selection_rules translation code componentwise)
  have issues : ∀ thread call own mallctl resume, config.callers thread = some ⟨call, own, .call (.control mallctl) resume⟩ →
      call.Issues translation own.ghost mallctl.mib :=
    fun thread call own mallctl resume busy => discipline_pending discipline config reached thread call own _ resume busy
  refine ⟨issues, ?_, ?_, ?_, ?_⟩
  · intro thread call own resume busy
    exact discipline_pending discipline config reached thread call own _ resume busy
  · intro name slot segment stored
    exact (discipline_invariant discipline config reached).1.stores (name, slot) segment stored
  · intro thread call own name slot segment resume busy
    exact (discipline_pending discipline config reached thread call own _ resume busy).2
  · intro meaning interprets thread call own mallctl resume index control busy means
    have targets := issues_meaning translation meaning interprets _ call _ index control
      (issues thread call own mallctl resume busy) means
    refine ⟨targets_lifecycle translation _ call index control targets, ?_⟩
    intro sentinel
    subst sentinel
    exact targets_sentinel translation _ call control targets

end Selection

theorem arena_selection_purge :
    ∃ (config : ArenaConfig (List Arena) Reads) (own : Local Reads) (mallctl : Mallctl)
      (resume : MallctlResponse mallctl → Ctl MallctlResponse (Except Error Unit)),
      config.callers 0 = some ⟨.arenas .purge, own, .call (.control mallctl) resume⟩ ∧
        mallctl.mib = arenaMib spelledKey 4096 .purge ∧ (ArenaCall.arenas .purge).Issues spelledKey own.ghost mallctl.mib := by
  have start : Reachable (process spelledKey selectionSurroundings) ⟨⟨Weak.empty, []⟩, fun _ => none⟩ := .start _ ⟨rfl, rfl⟩
  have entered := reachable_enter _ _ ⟨Weak.empty, []⟩ _ start 0 (ArenaCall.arenas .purge) (Local.fresh (fun _ => 0) []) rfl
    ⟨_, _, rfl, rfl, nofun, rfl, rfl, rfl⟩
  have begins : (process spelledKey selectionSurroundings).code (.arenas .purge) =
      Cache.get MallctlResponse (Control.arena 0 .purge).name >>= @resolved Unit Arenas.notify := resolved_run _ _
  rw [begins] at entered
  obtain ⟨memory, cache, _, _, found⟩ := get_runs (process_resolves spelledKey selectionSurroundings) Weak.empty [] _ 0
    (ArenaCall.arenas .purge) ⟨fun _ => 0, none, 0, 0⟩ [] (Control.arena 0 .purge).name
    (spelled_translatable _ (by decide) (by decide) (by decide) (by decide)) rfl (@resolved Unit Arenas.notify) entered
  obtain ⟨key, placed, mib⟩ := substitute_placed spelledKey spelledCode spelled_componentwise Arenas.allArenas .purge
  have issued : @resolved Unit Arenas.notify (.ok (spelledKey (Control.arena 0 .purge).name)) =
      .call (.control ⟨key.val, .none, none⟩) (MallctlResponse.settle linuxTarget) := by
    rw [resolved, Arenas.notify, Arenas.select, placed]
    rfl
  rw [issued] at found
  let config : ArenaConfig (List Arena) Reads := ⟨⟨memory, []⟩, Function.update (fun _ => none) 0
    (some ⟨.arenas .purge, ⟨cache, []⟩, .call (.control ⟨key.val, .none, none⟩) (MallctlResponse.settle linuxTarget)⟩)⟩
  have selected := arena_selection spelledKey spelledCode spelled_componentwise config found
  exact ⟨config, ⟨cache, []⟩, ⟨key.val, .none, none⟩, (MallctlResponse.settle linuxTarget), rfl, mib,
    selected.1 0 (.arenas .purge) ⟨cache, []⟩ ⟨key.val, .none, none⟩ (MallctlResponse.settle linuxTarget) rfl⟩

end Jevmalloc
