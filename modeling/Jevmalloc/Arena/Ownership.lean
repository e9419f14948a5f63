import Jevmalloc.Arena.Selection
import Jevmalloc.Ctl.Lifecycle

set_option autoImplicit false

namespace Jevmalloc

open Interaction Bytes

-- What may rest between calls: a handle, an error holding one, or an index
-- whose owner gave it up.
inductive ArenaItem where
  | handle (arena : Arena)
  | failed (failure : ArenaDestroyError)
  | index (index : Nat)

namespace ArenaCall

def takes : ArenaCall → Option ArenaItem
  | .intoIndex arena | .tryDestroy arena | .drop arena | .method arena .reset => some (.handle arena)
  | .fromOwnedIndex index => some (.index index)
  | .intoParts failure | .dropError failure => some (.failed failure)
  | _ => none

-- Shared borrows, which several calls may hold at once.
def borrows : ArenaCall → Option ArenaItem
  | .method _ .reset => none
  | .setCurrent arena | .method arena _ => some (.handle arena)
  | _ => none

def madeItem : Except Error Arena → Option ArenaItem
  | .ok arena => some (.handle arena)
  | .error _ => none

def leaves : (call : ArenaCall) → call.Result → Option ArenaItem
  | .create, value => madeItem value
  | .createWithRawExtentHooks _, value => madeItem value
  | .fromIndex _, value => madeItem value
  | .fromOwnedIndex _, value => madeItem value
  | .current, value => madeItem value
  | .lookup _, value => madeItem value
  | .setCurrent _, value => madeItem value
  | .intoIndex arena, (index : Nat) => if arena.owned then some (.index index) else none
  | .method arena .reset, _ => some (.handle arena)
  | .tryDestroy _, .error failure => some (.failed failure)
  | .intoParts _, parts => some (.handle parts.2)
  | _, _ => none

end ArenaCall

def arenaTrade : Trade ArenaItem ArenaCall ArenaCall.Result := ⟨ArenaCall.takes, ArenaCall.borrows, ArenaCall.leaves⟩

def Entitled (arena : Arena) (token : Option (Nat × Nat)) : Prop :=
  arena.index < arenaIndexLimit ∧
    if arena.owned then ∃ serial, token = some (arena.index, serial) else token = none

theorem owner_token (arena : Arena) (token : Option (Nat × Nat)) (entitled : Entitled arena token) (owned : arena.owned = true) :
    ∃ serial, token = some (arena.index, serial) := by
  have holds := entitled.2
  rw [if_pos owned] at holds
  exact holds

def arenaAgrees (item : Shelved ArenaItem) : Prop :=
  match item.content with
  | some (.handle arena) => Entitled arena item.token
  | some (.failed failure) => Entitled failure.arena item.token
  | some (.index index) => index < arenaIndexLimit ∧ ∃ serial, item.token = some (index, serial)
  | none => True

def Control.kind : Control → Kind
  | .arenasCreate => .create
  | .arena index .destroy => .destroy index
  | .arena index .reset => .command index
  | _ => .other

theorem harmless_kind (index : Nat) (control : ArenaControl) (harmless : control ≠ .reset ∧ control ≠ .destroy) :
    (Control.arena index control).kind = .other := by
  cases control with
  | reset => exact absurd rfl harmless.1
  | destroy => exact absurd rfl harmless.2
  | _ => rfl

theorem query_kind (control : Control) (query : control = .threadArena ∨ control = .arenasLookup) : control.kind = .other := by
  cases query with
  | inl current =>
      rw [current]
      rfl
  | inr lookup =>
      rw [lookup]
      rfl

section Ownership

variable (translation : String → Key) (meaning : List Nat → Option Control)

def arenaKind (call : Mallctl) : Kind := (meaning call.mib).elim .other Control.kind

abbrev arenaSurroundings : Surroundings (Store ArenaItem) Tenure ArenaCall ArenaCall.Result :=
  lifecycleSurroundings arenaIndexLimit (arenaKind meaning) arenaTrade ArenaCall.code

def arenaExtra (api : ArenaCall) (_ : Local Tenure) (call : Mallctl) : Prop :=
  ∀ index, arenaKind meaning call = .command index ∨ arenaKind meaning call = .destroy index →
    ∃ arena, api.subject = some arena ∧ arena.owned = true ∧ arena.index = index

abbrev arenaRule (api : ArenaCall) : Rule Tenure := lifecycleRule arenaIndexLimit (arenaKind meaning) (arenaExtra meaning api)

def Obtained (owned : Bool) (own : Local Tenure) : Except Error Arena → Prop
  | .ok arena => Entitled arena own.ghost.token ∧ arena.owned = owned
  | .error _ => own.ghost.token = none

theorem obtained_agrees (owned : Bool) (own : Local Tenure) (value : Except Error Arena) (obtained : Obtained owned own value) :
    arenaAgrees ⟨ArenaCall.madeItem value, own.cache.view, own.ghost.token⟩ := by
  cases value with
  | ok arena => exact obtained.1
  | error error => trivial

def arenaReturns (api : ArenaCall) (own : Local Tenure) (value : api.Result) : Prop :=
  match api, value with
  | .create, value => Obtained true own value
  | .createWithRawExtentHooks _, value => Obtained true own value
  | .fromIndex _, value => Obtained false own value
  | .current, value => Obtained false own value
  | .lookup _, value => Obtained false own value
  | .setCurrent _, value => Obtained false own value
  | .fromOwnedIndex index, value => value = .ok ⟨index, true⟩
  | .intoIndex arena, value => value = arena.index ∧ own.ghost.issued = []
  | .tryDestroy _, .ok () => own.ghost.token = none ∧ own.ghost.ended = true
  | .tryDestroy arena, .error failure => failure.arena = arena ∧ Entitled arena own.ghost.token
  | .intoParts failure, parts => parts.2 = failure.arena ∧ own.ghost.issued = []
  | _, _ => True

variable (interprets : Interprets translation meaning)

include interprets

theorem kind_known (control : Control) (output : Output) (input : Option Input) :
    arenaKind meaning ⟨(translation control.name).val, output, input⟩ = control.kind := by
  rw [arenaKind, interprets.known]
  rfl

theorem harmless_grants (api : ArenaCall) (index : Nat) (controls : List ArenaControl)
    (harmless : ∀ control ∈ controls, control ≠ .reset ∧ control ≠ .destroy) :
    Grants translation (arenaRule meaning api) (fun tenure => tenure.ended = false) index controls where
  pre own output input control running member := by
    have known := (kind_known translation meaning interprets (.arena index control) output input).trans
      (harmless_kind index control (harmless control member))
    exact pre_other _ _ _ own _ running (by simp [arenaExtra, known]) known
  post before output input control response after running member recorded := by
    have known := (kind_known translation meaning interprets (.arena index control) output input).trans
      (harmless_kind index control (harmless control member))
    rw [post_other known recorded]
    exact running

theorem create_allowed (api : ArenaCall) (own later : Local Tenure) (start : own.ghost = .start none)
    (input : Option Input) (same : later.ghost = own.ghost) :
    (arenaRule meaning api).pre later ⟨(translation Control.arenasCreate.name).val, .fresh .unsigned, input⟩ := by
  have known := kind_known translation meaning interprets .arenasCreate (.fresh .unsigned) input
  exact pre_create _ _ _ later _ (by rw [same, start]; rfl) (by simp [arenaExtra, known, Control.kind]) known (by rw [same, start]; rfl)

theorem query_allowed (api : ArenaCall) (control : Control) (query : control = .threadArena ∨ control = .arenasLookup)
    (own later : Local Tenure) (start : own.ghost = .start none) (input : Option Input) (same : later.ghost = own.ghost) :
    (arenaRule meaning api).pre later ⟨(translation control.name).val, .fresh .unsigned, input⟩ := by
  have known := (kind_known translation meaning interprets control (.fresh .unsigned) input).trans (query_kind control query)
  exact pre_other _ _ _ later _ (by rw [same, start]; rfl) (by simp [arenaExtra, known]) known

theorem created_obtained (api : ArenaCall) (own next : Local Tenure) (start : own.ghost = .start none) (input : Option Input)
    (value : Except Error Arena)
    (asked : Reported translation (arenaRule meaning api) .arenasCreate input Arena.fromCreatedIndex own next value) :
    Obtained true next value := by
  cases asked with
  | inl early =>
      obtain ⟨ghost, error, rfl⟩ := early
      rw [Obtained, ghost, start]
      rfl
  | inr issued =>
      obtain ⟨response, recorded, rfl⟩ := issued
      cases create_settles (kind_known translation meaning interprets .arenasCreate _ _) recorded with
      | inl refused =>
          obtain ⟨error, answered, ghost⟩ := refused
          rw [answered]
          exact congrArg Tenure.token (ghost.trans (congrArg (Tenure.issue · .create) start))
      | inr succeeded =>
          obtain ⟨index, serial, answered, below, ghost⟩ := succeeded
          have accepted := (from_created_index_iff index ⟨index, true⟩).mpr ⟨below, rfl⟩
          rw [answered]
          change Obtained true next (Arena.fromCreatedIndex index)
          rw [accepted]
          exact ⟨⟨below, serial, congrArg Tenure.token ghost⟩, rfl⟩

theorem borrowed_obtained (api : ArenaCall) (control : Control) (query : control = .threadArena ∨ control = .arenasLookup)
    (own next : Local Tenure) (start : own.ghost = .start none) (input : Option Input) (value : Except Error Arena)
    (asked : Reported translation (arenaRule meaning api) control input borrowed own next value) :
    Obtained false next value := by
  have free : next.ghost.token = none := by
    cases asked with
    | inl early =>
        rw [early.1, start]
        rfl
    | inr issued =>
        obtain ⟨response, recorded, _⟩ := issued
        rw [post_other ((kind_known translation meaning interprets control _ _).trans (query_kind control query)) recorded, start]
        rfl
  cases value with
  | error error => exact free
  | ok arena =>
      obtain ⟨_, index, _, _, accepted⟩ := reported_ok_iff translation _ asked
      obtain ⟨below, rfl⟩ := (borrowed_iff index arena).mp accepted
      exact ⟨⟨below, free⟩, rfl⟩

theorem created_call_obeys (api : ArenaCall) (program : Jem Arena) (input : Option Input) (own : Local Tenure)
    (start : own.ghost = .start none)
    (asks : Obeys (hosted translation linuxTarget (arenaRule meaning api))
      (Reported translation (arenaRule meaning api) .arenasCreate input Arena.fromCreatedIndex own) program.run own) :
    Obeys (hosted translation linuxTarget (arenaRule meaning api))
      (fun next value => arenaAgrees ⟨ArenaCall.madeItem value, next.cache.view, next.ghost.token⟩ ∧ Obtained true next value)
      program.run own := by
  apply obeys_weaken _ _ _ _ own asks
  intro next value asked
  have obtained := created_obtained translation meaning interprets api own next start input value asked
  exact ⟨obtained_agrees true next value obtained, obtained⟩

theorem borrowed_call_obeys (api : ArenaCall) (program : Jem Arena) (control : Control)
    (query : control = .threadArena ∨ control = .arenasLookup) (input : Option Input) (own : Local Tenure)
    (start : own.ghost = .start none)
    (asks : Obeys (hosted translation linuxTarget (arenaRule meaning api))
      (Reported translation (arenaRule meaning api) control input borrowed own) program.run own) :
    Obeys (hosted translation linuxTarget (arenaRule meaning api))
      (fun next value => arenaAgrees ⟨ArenaCall.madeItem value, next.cache.view, next.ghost.token⟩ ∧ Obtained false next value)
      program.run own := by
  apply obeys_weaken _ _ _ _ own asks
  intro next value asked
  have obtained := borrowed_obtained translation meaning interprets api control query own next start input value asked
  exact ⟨obtained_agrees false next value obtained, obtained⟩

theorem destroy_permitted (api : ArenaCall) (arena : Arena) (subject : api.subject = some arena) (own : Local Tenure)
    (entitled : Entitled arena own.ghost.token) (start : own.ghost = .start own.ghost.token) (owned : arena.owned = true)
    (later : Local Tenure) (same : later.ghost = own.ghost) :
    (arenaRule meaning api).pre later ⟨arenaMib translation arena.index .destroy, .none, none⟩ := by
  obtain ⟨serial, token⟩ := owner_token arena _ entitled owned
  have known := kind_known translation meaning interprets (.arena arena.index .destroy) .none none
  have extra : arenaExtra meaning api later ⟨arenaMib translation arena.index .destroy, .none, none⟩ := by
    intro index command
    rw [known] at command
    cases command with
    | inl command => cases command
    | inr destroy => exact ⟨arena, subject, owned, Kind.destroy.inj destroy⟩
  exact pre_command _ _ _ later _ (by rw [same, start]; rfl) extra arena.index serial (.inr known) (by rw [same, token])

theorem destroy_outcome (api : ArenaCall) (arena : Arena) (own next : Local Tenure) (entitled : Entitled arena own.ghost.token)
    (result : Except Error Unit)
    (called : Controlled (arenaRule meaning api) (Control.arena 0 .destroy).name
      ⟨arenaMib translation arena.index .destroy, .none, none⟩ own next result) :
    (result = .ok () ∧ next.ghost.token = none ∧ next.ghost.ended = true) ∨
    ∃ error, result = .error error ∧ Entitled arena next.ghost.token := by
  cases called with
  | inl unresolved =>
      obtain ⟨ghost, _, _, error, failed⟩ := unresolved
      exact .inr ⟨error, failed, by rw [ghost]; exact entitled⟩
  | inr issued =>
      obtain ⟨_, response, recorded, outcome⟩ := issued
      cases destroy_settles arena.index (kind_known translation meaning interprets (.arena arena.index .destroy) _ _) recorded with
      | inl succeeded =>
          obtain ⟨_, answered, ghost⟩ := succeeded
          exact .inl ⟨outcome.trans answered, by rw [ghost], by rw [ghost]⟩
      | inr refused =>
          obtain ⟨error, answered, ghost⟩ := refused
          exact .inr ⟨error, outcome.trans answered, by rw [ghost]; exact entitled⟩

variable (code : List (Option (List UInt8)) → List UInt8 → Nat) (componentwise : Componentwise translation code)

include componentwise

theorem reset_obeys (arena : Arena) (own : Local Tenure) (entitled : Entitled arena own.ghost.token)
    (start : own.ghost = .start own.ghost.token) :
    Obeys (hosted translation linuxTarget (arenaRule meaning (.method arena .reset)))
      (fun next _ => Entitled arena next.ghost.token) arena.reset.run own := by
  rw [Arena.reset]
  by_cases owned : arena.owned
  · rw [if_pos owned]
    obtain ⟨serial, token⟩ := owner_token arena _ entitled owned
    have known := kind_known translation meaning interprets (.arena arena.index .reset) .none none
    have extra : ∀ later, arenaExtra meaning (.method arena .reset) later ⟨arenaMib translation arena.index .reset, .none, none⟩ := by
      intro later index command
      rw [known] at command
      cases command with
      | inl command => exact ⟨arena, rfl, owned, Kind.command.inj command⟩
      | inr destroy => cases destroy
    apply obeys_weaken _ _ _ _ own (control_obeys translation _ _ (fun key => substitute key arena.index) _ .none none own
      (fun _ => substitute_placed translation code componentwise arena.index .reset) fun later same =>
        pre_command _ _ _ later _ (by rw [same, start]; rfl) (extra later) arena.index serial (.inl known) (by rw [same, token]))
    intro next value called
    cases called with
    | inl unresolved =>
        rw [unresolved.1]
        exact entitled
    | inr issued =>
        obtain ⟨_, response, recorded, _⟩ := issued
        rw [post_command arena.index known recorded]
        exact entitled
  · rw [if_neg owned]
    exact entitled

theorem method_call_obeys (arena : Arena) (chosen : ArenaMethod) (other : chosen ≠ .reset) (own : Local Tenure)
    (running : own.ghost.ended = false) :
    Obeys (hosted translation linuxTarget (arenaRule meaning (.method arena chosen))) (fun next _ => next.ghost.ended = false)
      (chosen.run arena).run own := by
  have harmless : ∀ control ∈ chosen.controls, control ≠ .reset ∧ control ≠ .destroy := by
    cases chosen with
    | reset => exact absurd rfl other
    | _ => simp [ArenaMethod.controls]
  exact method_obeys translation code componentwise _ arena chosen (harmless_grants translation meaning interprets _ _ _ harmless) own
    running

theorem this_thread_call_obeys (chosen : ThisCall) (own : Local Tenure) (start : own.ghost = .start none) :
    Obeys (hosted translation linuxTarget (arenaRule meaning (.thisThread chosen))) (fun _ _ => True) chosen.run.run own := by
  apply this_call_obeys translation code componentwise _ chosen (fun _ tenure => tenure.ended = false) own
  · intro later same
    exact query_allowed translation meaning interprets _ .threadArena (.inl rfl) own later start _ same
  · intro response index after recorded _
    rw [post_other (kind_known translation meaning interprets .threadArena _ _) recorded, start]
    rfl
  · intro index _
    apply harmless_grants translation meaning interprets
    cases chosen <;> simp [ThisCall.method, ArenaMethod.controls]

theorem arenas_wide_obeys (chosen : ArenasCall) (own : Local Tenure) (running : own.ghost.ended = false) :
    Obeys (hosted translation linuxTarget (arenaRule meaning (.arenas chosen))) (fun next _ => next.ghost.ended = false) chosen.run.run own := by
  have harmless : ∀ control ∈ chosen.controls, control ≠ .reset ∧ control ≠ .destroy := by
    cases chosen <;> simp [ArenasCall.controls]
  exact arenas_call_obeys translation code componentwise _ chosen (harmless_grants translation meaning interprets _ _ _ harmless) own
    running

theorem try_destroy_call_obeys (arena : Arena) (own : Local Tenure) (entitled : Entitled arena own.ghost.token)
    (start : own.ghost = .start own.ghost.token) :
    Obeys (hosted translation linuxTarget (arenaRule meaning (.tryDestroy arena)))
      (fun next value => arenaAgrees ⟨ArenaCall.leaves (.tryDestroy arena) value, next.cache.view, next.ghost.token⟩ ∧
        arenaReturns (.tryDestroy arena) next value)
      arena.tryDestroy own := by
  apply obeys_weaken _ _ _ _ own (try_destroy_obeys translation code componentwise _ arena own
    (destroy_permitted translation meaning interprets (.tryDestroy arena) arena rfl own entitled start))
  intro next value tried
  cases tried with
  | inl refused =>
      obtain ⟨_, rfl, rfl⟩ := refused
      exact ⟨entitled, rfl, entitled⟩
  | inr called =>
      obtain ⟨_, result, called, rfl⟩ := called
      cases destroy_outcome translation meaning interprets _ arena own next entitled result called with
      | inl succeeded =>
          obtain ⟨rfl, token, ended⟩ := succeeded
          exact ⟨trivial, token, ended⟩
      | inr failed =>
          obtain ⟨error, rfl, still⟩ := failed
          exact ⟨still, rfl, still⟩

theorem drop_call_obeys (api : ArenaCall) (arena : Arena) (subject : api.subject = some arena) (own : Local Tenure)
    (entitled : Entitled arena own.ghost.token) (start : own.ghost = .start own.ghost.token) :
    Obeys (hosted translation linuxTarget (arenaRule meaning api)) (fun _ _ => True) arena.drop own := by
  apply obeys_weaken _ _ _ _ own (drop_obeys translation code componentwise _ arena own
    (destroy_permitted translation meaning interprets api arena subject own entitled start))
  intro next value _
  trivial

theorem arena_call_obeys (api : ArenaCall) (view : CacheView) (token : Option (Nat × Nat))
    (starts : Starts arenaTrade arenaAgrees api view token) :
    Obeys (hosted translation linuxTarget (arenaRule meaning api))
      (fun own value => arenaAgrees ⟨arenaTrade.leaves api value, own.cache.view, own.ghost.token⟩ ∧ arenaReturns api own value)
      api.code (Local.fresh view (.start token)) := by
  cases api with
  | create =>
      obtain ⟨rfl, _⟩ := starts
      exact created_call_obeys translation meaning interprets .create _ none _ rfl (create_obeys translation _ _ fun later =>
        create_allowed translation meaning interprets .create _ later rfl none)
  | createWithRawExtentHooks hooks =>
      obtain ⟨rfl, _⟩ := starts
      exact created_call_obeys translation meaning interprets _ _ _ _ rfl (create_hooks_obeys translation _ _ hooks fun later =>
        create_allowed translation meaning interprets (.createWithRawExtentHooks hooks) _ later rfl _)
  | fromIndex index =>
      obtain ⟨rfl, _⟩ := starts
      have obtained : Obtained false (Local.fresh view (.start none)) (Arena.fromIndex index) := by
        cases made : Arena.fromIndex index with
        | error error => rfl
        | ok arena =>
            obtain ⟨below, rfl⟩ := (from_index_iff index arena).mp made
            exact ⟨⟨below, rfl⟩, rfl⟩
      exact ⟨obtained_agrees false _ _ obtained, obtained⟩
  | fromOwnedIndex index =>
      have made := (from_owned_index_iff index ⟨index, true⟩).mpr ⟨starts.1, rfl⟩
      rw [ArenaCall.code, made]
      exact ⟨starts, rfl⟩
  | current =>
      obtain ⟨rfl, _⟩ := starts
      exact borrowed_call_obeys translation meaning interprets .current _ .threadArena (.inl rfl) none _ rfl
        (current_obeys translation _ _ fun later =>
          query_allowed translation meaning interprets .current .threadArena (.inl rfl) _ later rfl none)
  | lookup allocation =>
      obtain ⟨rfl, _⟩ := starts
      exact borrowed_call_obeys translation meaning interprets (.lookup allocation) _ .arenasLookup (.inr rfl) _ _ rfl
        (lookup_obeys translation _ _ allocation fun later =>
          query_allowed translation meaning interprets (.lookup allocation) .arenasLookup (.inr rfl) _ later rfl _)
  | setCurrent arena =>
      obtain ⟨rfl, _⟩ := starts
      exact borrowed_call_obeys translation meaning interprets (.setCurrent arena) _ .threadArena (.inl rfl) _ _ rfl
        (set_current_obeys translation _ _ arena fun later =>
          query_allowed translation meaning interprets (.setCurrent arena) .threadArena (.inl rfl) _ later rfl _)
  | intoIndex arena =>
      apply obeys_weaken _ _ _ _ _ (into_index_obeys translation _ arena _)
      intro next value given
      obtain ⟨rfl, rfl⟩ := given
      refine ⟨?_, rfl, rfl⟩
      by_cases owned : arena.owned
      · simp only [arenaTrade, ArenaCall.leaves, if_pos owned]
        exact ⟨starts.1, owner_token arena _ starts owned⟩
      · simp only [arenaTrade, ArenaCall.leaves, if_neg owned]
        trivial
  | method arena chosen =>
      by_cases lifecycle : chosen = .reset
      · subst lifecycle
        apply obeys_weaken _ _ _ _ _ (reset_obeys translation meaning interprets code componentwise arena
          (Local.fresh view (.start token)) starts rfl)
        intro next value still
        exact ⟨still, trivial⟩
      · apply obeys_weaken _ _ _ _ _ (method_call_obeys translation meaning interprets code componentwise arena chosen lifecycle
          (Local.fresh view (.start token)) rfl)
        intro next value _
        have nothing : arenaTrade.leaves (.method arena chosen) value = none := by
          cases chosen with
          | reset => exact absurd rfl lifecycle
          | _ => rfl
        rw [nothing]
        exact ⟨trivial, trivial⟩
  | tryDestroy arena =>
      exact try_destroy_call_obeys translation meaning interprets code componentwise arena (Local.fresh view (.start token)) starts rfl
  | drop arena =>
      apply obeys_weaken _ _ _ _ _ (drop_call_obeys translation meaning interprets code componentwise (.drop arena) arena rfl
        (Local.fresh view (.start token)) starts rfl)
      intro next value _
      exact ⟨trivial, trivial⟩
  | intoParts failure => exact ⟨starts, rfl, rfl⟩
  | dropError failure =>
      apply obeys_weaken _ _ _ _ _ (drop_call_obeys translation meaning interprets code componentwise (.dropError failure) failure.arena
        rfl (Local.fresh view (.start token)) starts rfl)
      intro next value _
      exact ⟨trivial, trivial⟩
  | thisThread chosen =>
      obtain ⟨rfl, _⟩ := starts
      apply obeys_weaken _ _ _ _ _ (this_thread_call_obeys translation meaning interprets code componentwise chosen
        (Local.fresh view (.start none)) rfl)
      intro next value _
      exact ⟨trivial, trivial⟩
  | arenas chosen =>
      apply obeys_weaken _ _ _ _ _ (arenas_wide_obeys translation meaning interprets code componentwise chosen
        (Local.fresh view (.start token)) rfl)
      intro next value _
      exact ⟨trivial, trivial⟩

theorem arena_rules :
    Rules translation linuxTarget (arenaSurroundings meaning) (arenaRule meaning)
      (fun api own value => arenaAgrees ⟨arenaTrade.leaves api value, own.cache.view, own.ghost.token⟩ ∧ arenaReturns api own value)
      (LifecycleInv arenaAgrees) :=
  lifecycle_rules translation arenaIndexLimit (arenaKind meaning) arenaTrade ArenaCall.code (arenaExtra meaning) arenaAgrees
    arenaReturns (arena_call_obeys translation meaning interprets code componentwise)

theorem arena_ownership (config : ArenaConfig (Store ArenaItem) Tenure)
    (reached : Reachable (process translation (arenaSurroundings meaning)) config) :
    (∀ thread api own call resume, config.callers thread = some ⟨api, own, .call (.control call) resume⟩ →
      own.ghost.ended = false ∧ ∀ index, arenaKind meaning call = .command index ∨ arenaKind meaning call = .destroy index →
        (∃ arena, api.subject = some arena ∧ arena.owned = true ∧ arena.index = index) ∧
        ∃ serial, own.ghost.token = some (index, serial) ∧ config.world.state.registry.live index = some serial ∧
          serial ∉ config.world.state.registry.ended ∧ ∀ holder other,
            config.world.state.held (ghosts (owns config)) holder = some (index, other) → holder = .inl thread) ∧
    config.world.state.registry.ended.Nodup ∧
    (∀ index serial, config.world.state.registry.live index = some serial →
      ∃ holder, config.world.state.held (ghosts (owns config)) holder = some (index, serial)) ∧
    (∀ slot item, config.world.state.shelf slot = some item → arenaAgrees item) ∧
    (∀ thread own value, config.callers thread = some ⟨.create, own, .ret value⟩ → Obtained true own value) ∧
    (∀ thread own hooks value, config.callers thread = some ⟨.createWithRawExtentHooks hooks, own, .ret value⟩ →
      Obtained true own value) ∧
    (∀ thread own index value, config.callers thread = some ⟨.fromOwnedIndex index, own, .ret value⟩ → value = .ok ⟨index, true⟩) ∧
    (∀ thread own arena value, config.callers thread = some ⟨.intoIndex arena, own, .ret value⟩ →
      value = arena.index ∧ own.ghost.issued = []) ∧
    (∀ thread own arena, config.callers thread = some ⟨.tryDestroy arena, own, .ret (.ok ())⟩ →
      own.ghost.token = none ∧ own.ghost.ended = true) ∧
    (∀ thread own arena failure, config.callers thread = some ⟨.tryDestroy arena, own, .ret (.error failure)⟩ →
      failure.arena = arena ∧ Entitled arena own.ghost.token) ∧
    (∀ thread own failure parts, config.callers thread = some ⟨.intoParts failure, own, .ret parts⟩ → parts.2 = failure.arena) := by
  have discipline := process_discipline translation (arenaSurroundings meaning) _ _ _
    (arena_rules translation meaning interprets code componentwise)
  have inv := (discipline_invariant discipline config reached).2
  have returned := discipline_returned discipline config reached
  refine ⟨?_, inv.sound.once, inv.custody.complete, inv.shelf, ?_, ?_, ?_, ?_, ?_, ?_, ?_⟩
  · intro thread api own call resume busy
    have allowed := discipline_pending discipline config reached thread api own (.control call) resume busy
    refine ⟨allowed.1, ?_⟩
    intro index known
    exact ⟨allowed.2.1 index known, pending_owner arenaIndexLimit (arenaKind meaning) (arenaExtra meaning api) own call index inv
      (by simp [ghosts, owns, busy]) allowed known⟩
  · intro thread own value done
    exact (returned thread .create own value done).2
  · intro thread own hooks value done
    exact (returned thread (.createWithRawExtentHooks hooks) own value done).2
  · intro thread own index value done
    exact (returned thread (.fromOwnedIndex index) own value done).2
  · intro thread own arena value done
    exact (returned thread (.intoIndex arena) own value done).2
  · intro thread own arena done
    exact (returned thread (.tryDestroy arena) own (.ok ()) done).2
  · intro thread own arena failure done
    exact (returned thread (.tryDestroy arena) own (.error failure) done).2
  · intro thread own failure parts done
    exact (returned thread (.intoParts failure) own parts done).2.1

end Ownership

def destroyTail (arena : Arena) : Except Error Unit → Ctl MallctlResponse (Except ArenaDestroyError Unit)
  | .ok () => do
      ({ arena with owned := false } : Arena).drop
      return .ok ()
  | .error error => return .error ⟨error, arena⟩

theorem try_destroy_lookup (index : Nat) :
    (⟨index, true⟩ : Arena).tryDestroy = Cache.get MallctlResponse (Control.arena 0 .destroy).name >>= fun found =>
      resolved (Arena.notify ⟨index, true⟩) found >>= destroyTail ⟨index, true⟩ := by
  have lookup := resolved_run (Control.arena 0 .destroy).name (Arena.notify ⟨index, true⟩)
  have begins : (⟨index, true⟩ : Arena).tryDestroy =
      (defineKey (Control.arena 0 .destroy).name >>= Arena.notify ⟨index, true⟩).run >>= destroyTail ⟨index, true⟩ := by
    rw [Arena.tryDestroy, Arena.destroy, if_pos rfl, bind_assoc]
    refine congrArg _ (funext fun result => ?_)
    cases result with
    | ok value => rfl
    | error error => rfl
  rw [begins, lookup, bind_assoc]

abbrev spelledArenas := process spelledKey (arenaSurroundings spelledMeaning)

theorem create_hands_out :
    ∃ memory cache, cache.view (.inr (Control.arena 0 .destroy).name) = 0 ∧
      Reachable spelledArenas ⟨⟨memory, ⟨Registry.empty.enroll 7, fun _ => none⟩⟩, Function.update (fun _ => none) 0
        (some ⟨.create, ⟨cache, ⟨some (7, 0), [.create], false⟩⟩, .ret (.ok ⟨7, true⟩)⟩)⟩ := by
  have start : Reachable spelledArenas ⟨⟨Weak.empty, ⟨.empty, fun _ => none⟩⟩, fun _ => none⟩ := .start _ ⟨rfl, rfl⟩
  have entered := reachable_enter _ _ ⟨Weak.empty, ⟨.empty, fun _ => none⟩⟩ _ start 0 ArenaCall.create
    (Local.fresh (fun _ => 0) (.start none)) rfl ⟨_, _, rfl, rfl, rfl, rfl, rfl, nofun⟩
  have begins : spelledArenas.code .create = _ := resolved_run _ _
  rw [begins] at entered
  obtain ⟨memory, cache, beside, _, found⟩ := get_runs (process_resolves spelledKey (arenaSurroundings spelledMeaning)) Weak.empty _ _ 0
    ArenaCall.create ⟨fun _ => 0, none, 0, 0⟩ (.start none) Control.arenasCreate.name
    (spelled_translatable _ (by decide) (by decide) (by decide) (by decide)) rfl _ entered
  have created := reachable_exec _ _ ⟨memory, ⟨Registry.empty.enroll 7, fun _ => none⟩⟩ _ found 0 ArenaCall.create _
    ⟨cache, ⟨some (7, 0), [.create], false⟩⟩
    (.control ⟨(spelledKey Control.arenasCreate.name).val, .fresh .unsigned, none⟩) _ ⟨0, 4, (7 : Nat)⟩ rfl
    ⟨rfl, rfl, fun _ => rfl, .inr ⟨rfl, 7, rfl, by decide, rfl, rfl, rfl⟩⟩
  rw [Function.update_idem] at created
  exact ⟨memory, cache, beside.flag _ (by decide), created⟩

theorem arena_ownership_destroy :
    ∃ (config : ArenaConfig (Store ArenaItem) Tenure) (own : Local Tenure) (call : Mallctl)
      (resume : MallctlResponse call → Ctl MallctlResponse (Except ArenaDestroyError Unit)),
      config.callers 0 = some ⟨.tryDestroy ⟨7, true⟩, own, .call (.control call) resume⟩ ∧
        call.mib = arenaMib spelledKey 7 .destroy ∧ ∃ serial, own.ghost.token = some (7, serial) ∧
          config.world.state.registry.live 7 = some serial ∧ serial ∉ config.world.state.registry.ended := by
  obtain ⟨memory, cache, unseen, created⟩ := create_hands_out
  let item : Shelved ArenaItem := ⟨some (.handle ⟨7, true⟩), cache.view, some (7, 0)⟩
  have left := reachable_leave _ _ ⟨memory, ⟨Registry.empty.enroll 7, Function.update (fun _ => none) 0 (some item)⟩⟩ _ created 0
    ArenaCall.create _ _ rfl ⟨rfl, 0, rfl, rfl⟩
  have entered := reachable_enter _ _ ⟨memory, ⟨Registry.empty.enroll 7, fun _ => none⟩⟩ _ left 0 (ArenaCall.tryDestroy ⟨7, true⟩)
    (Local.fresh cache.view (.start (some (7, 0)))) rfl ⟨_, _, rfl, rfl, 0, item, rfl, rfl, rfl, rfl, by simp⟩
  have begins : spelledArenas.code (.tryDestroy ⟨7, true⟩) = _ := try_destroy_lookup 7
  rw [begins] at entered
  obtain ⟨memory, cache, _, _, found⟩ := get_runs (process_resolves spelledKey (arenaSurroundings spelledMeaning)) memory _ _ 0
    (ArenaCall.tryDestroy ⟨7, true⟩) ⟨cache.view, none, 0, 0⟩ (.start (some (7, 0))) (Control.arena 0 .destroy).name
    (spelled_translatable _ (by decide) (by decide) (by decide) (by decide)) unseen _ entered
  obtain ⟨key, placed, mib⟩ := substitute_placed spelledKey spelledCode spelled_componentwise 7 .destroy
  let own : Local Tenure := ⟨cache, .start (some (7, 0))⟩
  let call : Mallctl := ⟨key.val, .none, none⟩
  let resume : MallctlResponse call → Ctl MallctlResponse (Except ArenaDestroyError Unit) := fun response =>
    response.settle linuxTarget >>= destroyTail ⟨7, true⟩
  have issued : resolved (Arena.notify ⟨7, true⟩) (.ok (spelledKey (Control.arena 0 .destroy).name)) >>= destroyTail ⟨7, true⟩ =
      .call (.control call) resume := by
    rw [resolved, Arena.notify, Arena.select, placed]
    rfl
  rw [issued, Function.update_idem, Function.update_idem] at found
  let config : ArenaConfig (Store ArenaItem) Tenure := ⟨⟨memory, ⟨Registry.empty.enroll 7, fun _ => none⟩⟩,
    Function.update (fun _ => none) 0 (some ⟨.tryDestroy ⟨7, true⟩, own, .call (.control call) resume⟩)⟩
  have settled := arena_ownership spelledKey spelledMeaning spelled_interprets spelledCode spelled_componentwise config found
  have means : spelledMeaning call.mib = some (.arena 7 .destroy) :=
    (congrArg spelledMeaning mib).trans (spelled_interprets.known _)
  have known : arenaKind spelledMeaning call = .destroy 7 := by
    rw [arenaKind, means]
    rfl
  obtain ⟨_, serial, token, live, running, _⟩ := (settled.1 0 (.tryDestroy ⟨7, true⟩) own call resume rfl).2 7 (.inr known)
  exact ⟨config, own, call, resume, rfl, mib, serial, token, live, running⟩

end Jevmalloc
