import Jevmalloc.Arena.Handle

set_option autoImplicit false

namespace Jevmalloc

open Interaction Bytes

inductive ArenaMethod where
  | trim
  | decay
  | purge
  | reset
  | name
  | setName (name : List UInt8)
  | dss
  | setDss (dss : Dss)
  | dirtyDecay
  | setDirtyDecay (decayMs : Int)
  | muzzyDecay
  | setMuzzyDecay (decayMs : Int)
  | retainGrowLimit
  | setRetainGrowLimit (limit : Nat)
  | extentHooks
  | setRawExtentHooks (hooks : HookTable)

namespace ArenaMethod

def Value : ArenaMethod → Type
  | .trim | .decay | .purge | .reset | .setName _ => Unit
  | .name => List UInt8
  | .dss | .setDss _ => Dss
  | .dirtyDecay | .setDirtyDecay _ | .muzzyDecay | .setMuzzyDecay _ => Int
  | .retainGrowLimit | .setRetainGrowLimit _ => Nat
  | .extentHooks | .setRawExtentHooks _ => Hooks.NonNull

def run (arena : Arena) : (method : ArenaMethod) → Jem method.Value
  | .trim => arena.trim
  | .decay => arena.decay
  | .purge => arena.purge
  | .reset => arena.reset
  | .name => arena.name
  | .setName text => arena.setName text
  | .dss => arena.dss
  | .setDss setting => arena.setDss setting
  | .dirtyDecay => arena.dirtyDecay
  | .setDirtyDecay decayMs => arena.setDirtyDecay decayMs
  | .muzzyDecay => arena.muzzyDecay
  | .setMuzzyDecay decayMs => arena.setMuzzyDecay decayMs
  | .retainGrowLimit => arena.retainGrowLimit
  | .setRetainGrowLimit limit => arena.setRetainGrowLimit limit
  | .extentHooks => arena.extentHooks
  | .setRawExtentHooks hooks => arena.setRawExtentHooks hooks

def controls : ArenaMethod → List ArenaControl
  | .trim => [.decay, .purge]
  | .decay => [.decay]
  | .purge => [.purge]
  | .reset => [.reset]
  | .name | .setName _ => [.name]
  | .dss | .setDss _ => [.dss]
  | .dirtyDecay | .setDirtyDecay _ => [.dirtyDecay]
  | .muzzyDecay | .setMuzzyDecay _ => [.muzzyDecay]
  | .retainGrowLimit | .setRetainGrowLimit _ => [.retainGrowLimit]
  | .extentHooks | .setRawExtentHooks _ => [.extentHooks]

end ArenaMethod

inductive ThisCall where
  | trim
  | purge
  | decay
  | setMuzzyDecay (decayMs : Int)
  | getMuzzyDecay
  | setDirtyDecay (decayMs : Int)
  | getDirtyDecay

def ThisCall.method : ThisCall → ArenaMethod
  | .trim => .trim
  | .purge => .purge
  | .decay => .decay
  | .setMuzzyDecay decayMs => .setMuzzyDecay decayMs
  | .getMuzzyDecay => .muzzyDecay
  | .setDirtyDecay decayMs => .setDirtyDecay decayMs
  | .getDirtyDecay => .dirtyDecay

def ThisCall.run : (call : ThisCall) → Jem call.method.Value
  | .trim => ThisThread.trim
  | .purge => ThisThread.purge
  | .decay => ThisThread.decay
  | .setMuzzyDecay decayMs => ThisThread.setMuzzyDecay decayMs
  | .getMuzzyDecay => ThisThread.getMuzzyDecay
  | .setDirtyDecay decayMs => ThisThread.setDirtyDecay decayMs
  | .getDirtyDecay => ThisThread.getDirtyDecay

theorem this_call_current (call : ThisCall) : call.run = Arena.withCurrent fun arena => call.method.run arena := by
  cases call <;> rfl

inductive ArenasCall where
  | trim
  | purge
  | decay
  | dss
  | setDss (dss : Dss)

def ArenasCall.Value : ArenasCall → Type
  | .trim | .purge | .decay => Unit
  | .dss | .setDss _ => Dss

def ArenasCall.run : (call : ArenasCall) → Jem call.Value
  | .trim => Arenas.trim
  | .purge => Arenas.purge
  | .decay => Arenas.decay
  | .dss => Arenas.dss
  | .setDss setting => Arenas.setDss setting

def ArenasCall.controls : ArenasCall → List ArenaControl
  | .trim => [.decay, .purge]
  | .purge => [.purge]
  | .decay => [.decay]
  | .dss | .setDss _ => [.dss]

inductive ArenaCall where
  | create
  | createWithRawExtentHooks (hooks : HookTable)
  | fromIndex (index : Nat)
  | fromOwnedIndex (index : Nat)
  | current
  | lookup (allocation : Hooks.NonNull)
  | setCurrent (arena : Arena)
  | intoIndex (arena : Arena)
  | method (arena : Arena) (method : ArenaMethod)
  | tryDestroy (arena : Arena)
  | drop (arena : Arena)
  | intoParts (failure : ArenaDestroyError)
  | dropError (failure : ArenaDestroyError)
  | thisThread (call : ThisCall)
  | arenas (call : ArenasCall)

def ArenaCall.Result : ArenaCall → Type
  | .create | .createWithRawExtentHooks _ | .fromIndex _ | .fromOwnedIndex _ | .current | .lookup _ | .setCurrent _ =>
      Except Error Arena
  | .intoIndex _ => Nat
  | .method _ chosen => Except Error chosen.Value
  | .tryDestroy _ => Except ArenaDestroyError Unit
  | .drop _ | .dropError _ => Unit
  | .intoParts _ => Error × Arena
  | .thisThread chosen => Except Error chosen.method.Value
  | .arenas chosen => Except Error chosen.Value

def ArenaCall.code : (call : ArenaCall) → Ctl MallctlResponse call.Result
  | .create => Arena.create.run
  | .createWithRawExtentHooks hooks => (Arena.createWithRawExtentHooks hooks).run
  | .fromIndex index => .ret (Arena.fromIndex index)
  | .fromOwnedIndex index => .ret (Arena.fromOwnedIndex index)
  | .current => Arena.current.run
  | .lookup allocation => (Arena.lookup allocation).run
  | .setCurrent arena => arena.setCurrent.run
  | .intoIndex arena => arena.intoIndex
  | .method arena chosen => (chosen.run arena).run
  | .tryDestroy arena => arena.tryDestroy
  | .drop arena => arena.drop
  | .intoParts failure => .ret failure.intoParts
  | .dropError failure => failure.drop
  | .thisThread chosen => chosen.run.run
  | .arenas chosen => chosen.run.run

def ArenaCall.subject : ArenaCall → Option Arena
  | .setCurrent arena | .intoIndex arena | .method arena _ | .tryDestroy arena | .drop arena => some arena
  | .intoParts failure | .dropError failure => some failure.arena
  | _ => none

section Obedience

variable {G : Type} (translation : String → Key) (code : List (Option (List UInt8)) → List UInt8 → Nat)
  (componentwise : Componentwise translation code) (rule : Rule G)

abbrev arenaMib (index : Nat) (control : ArenaControl) : List Nat := (translation (Control.arena index control).name).val

-- A rule that lets a call issue some controls of one arena for as long as it
-- knows something, which none of these controls takes away.
structure Grants (known : G → Prop) (index : Nat) (controls : List ArenaControl) : Prop where
  pre : ∀ (own : Local G) output input control, known own.ghost → control ∈ controls →
    rule.pre own ⟨arenaMib translation index control, output, input⟩
  post : ∀ before output input control response after, known before → control ∈ controls →
    rule.post before ⟨arenaMib translation index control, output, input⟩ response after → known after

variable {known : G → Prop} {index : Nat} {controls : List ArenaControl}
  (grants : Grants translation rule known index controls)

theorem controlled_known (name : String) (call : Mallctl) (own next : Local G) (value : Except Error call.output.Value)
    (kept : ∀ response after, rule.post own.ghost call response after → known after)
    (start : known own.ghost) (called : Controlled rule name call own next value) : known next.ghost := by
  cases called with
  | inl unresolved =>
      rw [unresolved.1]
      exact start
  | inr issued =>
      obtain ⟨_, response, recorded, _⟩ := issued
      exact kept response next.ghost recorded

theorem sequence_obeys (first second : Jem Unit) (own : Local G) (start : known own.ghost)
    (obeys : ∀ own : Local G, known own.ghost →
      Obeys (hosted translation linuxTarget rule) (fun next _ => known next.ghost) first.run own ∧
        Obeys (hosted translation linuxTarget rule) (fun next _ => known next.ghost) second.run own) :
    Obeys (hosted translation linuxTarget rule) (fun next _ => known next.ghost) (first >>= fun _ => second).run own := by
  apply obeys_attempt _ _ _ _ _ own (obeys own start).1
  · intro later error held
    exact held
  · intro later value held
    exact (obeys later held).2

include componentwise

theorem substitute_placed (index : Nat) (control : ArenaControl) :
    ∃ key : Key, substitute (translation (Control.arena 0 control).name) index = pure key ∧
      key.val = arenaMib translation index control := by
  have long : 1 < (translation (Control.arena 0 control).name).val.length := by
    rw [arena_mib translation code componentwise]
    exact Nat.lt_of_succ_lt (Nat.lt_succ_self 2)
  rw [substitute, if_pos long]
  exact ⟨_, rfl, arena_template translation code componentwise index control⟩

include grants

theorem selected_obeys (control : ArenaControl) (output : Output) (input : Option Input) (own : Local G)
    (start : known own.ghost) (member : control ∈ controls) :
    Obeys (hosted translation linuxTarget rule) (fun next _ => known next.ghost)
      (defineKey (Control.arena 0 control).name >>= fun key => substitute key index >>= fun key =>
        Raw.mallctlbymib linuxTarget key output input).run own := by
  apply obeys_weaken _ _ _ _ own (control_obeys translation rule _ (fun key => substitute key index) _ output input own
    (fun _ => substitute_placed translation code componentwise index control)
    fun later ghost => grants.pre later output input control (by rw [ghost]; exact start) member)
  intro next value called
  exact controlled_known rule _ _ own next value (fun response after => grants.post _ output input control response after start member)
    start called

theorem selected_checked_obeys {α : Type} (control : ArenaControl) (output : Output) (input : Option Input)
    (check : output.Value → Except Error α) (own : Local G) (start : known own.ghost) (member : control ∈ controls) :
    Obeys (hosted translation linuxTarget rule) (fun next _ => known next.ghost)
      (defineKey (Control.arena 0 control).name >>= fun key => substitute key index >>= fun key =>
        Raw.mallctlbymib linuxTarget key output input >>= fun value => checked (check value)).run own := by
  apply obeys_weaken _ _ _ _ own (control_checked_obeys translation rule _ (fun key => substitute key index) _ output input
    own check (fun _ => substitute_placed translation code componentwise index control)
    fun later ghost => grants.pre later output input control (by rw [ghost]; exact start) member)
  intro next value called
  obtain ⟨first, called, _⟩ := called
  exact controlled_known rule _ _ own next first (fun response after => grants.post _ output input control response after start member)
    start called

end Obedience

section Methods

variable {G : Type} (translation : String → Key) (code : List (Option (List UInt8)) → List UInt8 → Nat)
  (componentwise : Componentwise translation code) (rule : Rule G) {known : G → Prop}

include componentwise

theorem method_obeys (arena : Arena) (method : ArenaMethod) (grants : Grants translation rule known arena.index method.controls)
    (own : Local G) (start : known own.ghost) :
    Obeys (hosted translation linuxTarget rule) (fun next _ => known next.ghost) (method.run arena).run own := by
  have issued := selected_obeys translation code componentwise rule grants
  cases method with
  | trim =>
      apply sequence_obeys translation rule _ _ own start
      intro own start
      exact ⟨issued .decay .none none own start (by simp [ArenaMethod.controls]),
        issued .purge .none none own start (by simp [ArenaMethod.controls])⟩
  | decay => exact issued .decay .none none own start (List.mem_singleton.mpr rfl)
  | purge => exact issued .purge .none none own start (List.mem_singleton.mpr rfl)
  | reset =>
      rw [ArenaMethod.run, Arena.reset]
      by_cases owned : arena.owned
      · rw [if_pos owned]
        exact issued .reset .none none own start (List.mem_singleton.mpr rfl)
      · rw [if_neg owned]
        exact start
  | name =>
      exact issued .name (.inPlace .buffer (List.replicate arenaNameLen 0)) none own start (List.mem_singleton.mpr rfl)
  | setName text => exact issued .name .none (some ⟨.text, some text⟩) own start (List.mem_singleton.mpr rfl)
  | dss =>
      exact selected_checked_obeys translation code componentwise rule grants .dss (.fresh .text) none Dss.fromPtr own start
        (List.mem_singleton.mpr rfl)
  | setDss setting =>
      exact selected_checked_obeys translation code componentwise rule grants .dss (.fresh .text) (some ⟨.text, setting.asPtr⟩)
        Dss.fromPtr own start (List.mem_singleton.mpr rfl)
  | dirtyDecay => exact issued .dirtyDecay (.fresh .ssize) none own start (List.mem_singleton.mpr rfl)
  | setDirtyDecay decayMs =>
      exact issued .dirtyDecay (.fresh .ssize) (some ⟨.ssize, decayMs⟩) own start (List.mem_singleton.mpr rfl)
  | muzzyDecay => exact issued .muzzyDecay (.fresh .ssize) none own start (List.mem_singleton.mpr rfl)
  | setMuzzyDecay decayMs =>
      exact issued .muzzyDecay (.fresh .ssize) (some ⟨.ssize, decayMs⟩) own start (List.mem_singleton.mpr rfl)
  | retainGrowLimit => exact issued .retainGrowLimit (.fresh .size) none own start (List.mem_singleton.mpr rfl)
  | setRetainGrowLimit limit =>
      exact issued .retainGrowLimit (.fresh .size) (some ⟨.size, limit⟩) own start (List.mem_singleton.mpr rfl)
  | extentHooks =>
      exact selected_checked_obeys translation code componentwise rule grants .extentHooks (.fresh .hooks) none nonNullHooks
        own start (List.mem_singleton.mpr rfl)
  | setRawExtentHooks hooks =>
      rw [ArenaMethod.run, Arena.setRawExtentHooks]
      by_cases usable : hooks.alloc
      · rw [if_pos usable]
        exact selected_checked_obeys translation code componentwise rule grants .extentHooks (.fresh .hooks)
          (some ⟨.hooks, hooks.pointer.val⟩) nonNullHooks own start (List.mem_singleton.mpr rfl)
      · rw [if_neg usable]
        exact start

theorem arenas_call_obeys (call : ArenasCall) (grants : Grants translation rule known Arenas.allArenas call.controls)
    (own : Local G) (start : known own.ghost) :
    Obeys (hosted translation linuxTarget rule) (fun next _ => known next.ghost) call.run.run own := by
  have issued := selected_obeys translation code componentwise rule grants
  cases call with
  | trim =>
      apply sequence_obeys translation rule _ _ own start
      intro own start
      exact ⟨issued .decay .none none own start (by simp [ArenasCall.controls]),
        issued .purge .none none own start (by simp [ArenasCall.controls])⟩
  | purge => exact issued .purge .none none own start (List.mem_singleton.mpr rfl)
  | decay => exact issued .decay .none none own start (List.mem_singleton.mpr rfl)
  | dss =>
      exact selected_checked_obeys translation code componentwise rule grants .dss (.fresh .text) none Dss.fromPtr own start
        (List.mem_singleton.mpr rfl)
  | setDss setting =>
      exact selected_checked_obeys translation code componentwise rule grants .dss (.fresh .text) (some ⟨.text, setting.asPtr⟩)
        Dss.fromPtr own start (List.mem_singleton.mpr rfl)

end Methods

section Constructors

variable {G : Type} (translation : String → Key) (rule : Rule G)

def Reported {α : Type} (control : Control) (input : Option Input) (check : Nat → Except Error α) (own next : Local G)
    (value : Except Error α) : Prop :=
  (next.ghost = own.ghost ∧ ∃ error, value = .error error) ∨
  ∃ response : MallctlResponse ⟨(translation control.name).val, .fresh .unsigned, input⟩,
    rule.post own.ghost ⟨(translation control.name).val, .fresh .unsigned, input⟩ response next.ghost ∧
      value = response.answer >>= check

theorem reported_ok_iff {α : Type} {control : Control} {input : Option Input} {check : Nat → Except Error α}
    {own next : Local G} {value : α} (asked : Reported translation rule control input check own next (.ok value)) :
    ∃ (response : MallctlResponse ⟨(translation control.name).val, .fresh .unsigned, input⟩) (index : Nat),
      rule.post own.ghost ⟨(translation control.name).val, .fresh .unsigned, input⟩ response next.ghost ∧
        response.answer = .ok index ∧ check index = .ok value := by
  cases asked with
  | inl early =>
      obtain ⟨_, error, impossible⟩ := early
      cases impossible
  | inr issued =>
      obtain ⟨response, recorded, same⟩ := issued
      cases reached : response.answer with
      | ok index =>
          rw [reached] at same
          exact ⟨response, index, recorded, reached, same.symm⟩
      | error error =>
          rw [reached] at same
          cases same

variable (own : Local G) (input : Option Input)

theorem reported_obeys {α : Type} (control : Control) (check : Nat → Except Error α)
    (allowed : ∀ later : Local G, later.ghost = own.ghost →
      rule.pre later ⟨(translation control.name).val, .fresh .unsigned, input⟩) :
    Obeys (hosted translation linuxTarget rule) (Reported translation rule control input check own)
      (defineKey control.name >>= fun key => Raw.mallctlbymib linuxTarget key (.fresh .unsigned) input >>= fun index =>
        checked (check index)).run own := by
  apply obeys_weaken _ _ _ _ own (plain_checked_obeys translation rule control.name (.fresh .unsigned) input own check allowed)
  intro next value called
  obtain ⟨first, called, same⟩ := called
  cases called with
  | inl unresolved =>
      obtain ⟨ghost, _, _, error, failed⟩ := unresolved
      subst failed
      exact .inl ⟨ghost, error, same⟩
  | inr issued =>
      obtain ⟨_, response, recorded, outcome⟩ := issued
      subst outcome
      exact .inr ⟨response, recorded, same⟩

theorem reported_checked_obeys {α : Type} (control : Control) (first : Nat → Except Error Nat) (second : Nat → Except Error α)
    (program : Jem Nat) (asks : Obeys (hosted translation linuxTarget rule) (Reported translation rule control input first own) program.run own) :
    Obeys (hosted translation linuxTarget rule) (Reported translation rule control input (fun index => first index >>= second) own)
      (program >>= fun index => checked (second index)).run own := by
  apply obeys_attempt _ _ _ _ _ own asks
  · intro later error asked
    cases asked with
    | inl early => exact .inl ⟨early.1, error, rfl⟩
    | inr issued =>
        obtain ⟨response, recorded, same⟩ := issued
        exact .inr ⟨response, recorded, by rw [← bind_assoc, ← same]; rfl⟩
  · intro later value asked
    cases asked with
    | inl early =>
        obtain ⟨_, error, impossible⟩ := early
        cases impossible
    | inr issued =>
        obtain ⟨response, recorded, same⟩ := issued
        exact .inr ⟨response, recorded, by rw [← bind_assoc, ← same]; rfl⟩

def borrowed (index : Nat) : Except Error Arena := usizeFrom index >>= Arena.fromIndex

theorem borrowed_iff (index : Nat) (arena : Arena) :
    borrowed index = .ok arena ↔ index < arenaIndexLimit ∧ arena = ⟨index, false⟩ := by
  rw [borrowed]
  cases read : usizeFrom index with
  | ok value =>
      obtain ⟨_, rfl⟩ := (usize_from_iff index value).mp read
      exact from_index_iff _ arena
  | error error =>
      have above : ¬index < arenaIndexLimit := by
        intro below
        rw [usize_from_below arenaIndexLimit index (by decide) below] at read
        cases read
      simp only [bind, Except.bind, reduceCtorEq, above, false_and]

theorem create_obeys
    (allowed : ∀ later : Local G, later.ghost = own.ghost →
      rule.pre later ⟨(translation Control.arenasCreate.name).val, .fresh .unsigned, none⟩) :
    Obeys (hosted translation linuxTarget rule) (Reported translation rule .arenasCreate none Arena.fromCreatedIndex own)
      Arena.create.run own :=
  reported_obeys translation rule own none .arenasCreate Arena.fromCreatedIndex allowed

theorem create_hooks_obeys (hooks : HookTable)
    (allowed : ∀ later : Local G, later.ghost = own.ghost →
      rule.pre later ⟨(translation Control.arenasCreate.name).val, .fresh .unsigned, some ⟨.hooks, hooks.pointer.val⟩⟩) :
    Obeys (hosted translation linuxTarget rule)
      (Reported translation rule .arenasCreate (some ⟨.hooks, hooks.pointer.val⟩) Arena.fromCreatedIndex own)
      (Arena.createWithRawExtentHooks hooks).run own := by
  rw [Arena.createWithRawExtentHooks]
  by_cases usable : hooks.alloc
  · rw [if_pos usable]
    exact reported_obeys translation rule own _ .arenasCreate Arena.fromCreatedIndex allowed
  · rw [if_neg usable]
    exact .inl ⟨rfl, _, rfl⟩

theorem current_obeys
    (allowed : ∀ later : Local G, later.ghost = own.ghost →
      rule.pre later ⟨(translation Control.threadArena.name).val, .fresh .unsigned, none⟩) :
    Obeys (hosted translation linuxTarget rule) (Reported translation rule .threadArena none borrowed own) Arena.current.run own :=
  reported_checked_obeys translation rule own none .threadArena usizeFrom Arena.fromIndex _
    (reported_obeys translation rule own none .threadArena usizeFrom allowed)

theorem lookup_obeys (allocation : Hooks.NonNull)
    (allowed : ∀ later : Local G, later.ghost = own.ghost →
      rule.pre later ⟨(translation Control.arenasLookup.name).val, .fresh .unsigned, some ⟨.pointer, allocation.val⟩⟩) :
    Obeys (hosted translation linuxTarget rule) (Reported translation rule .arenasLookup (some ⟨.pointer, allocation.val⟩) borrowed own)
      (Arena.lookup allocation).run own :=
  reported_obeys translation rule own _ .arenasLookup borrowed allowed

theorem set_current_obeys (arena : Arena)
    (allowed : ∀ later : Local G, later.ghost = own.ghost →
      rule.pre later ⟨(translation Control.threadArena.name).val, .fresh .unsigned, some ⟨.unsigned, arena.index⟩⟩) :
    Obeys (hosted translation linuxTarget rule)
      (Reported translation rule .threadArena (some ⟨.unsigned, arena.index⟩) borrowed own) arena.setCurrent.run own := by
  rw [Arena.setCurrent]
  apply reported_checked_obeys translation rule own _ .threadArena usizeFrom Arena.fromIndex
  rw [ThisThread.setArena]
  cases read : Arena.validatedIndex arena.index with
  | error error => exact .inl ⟨rfl, error, rfl⟩
  | ok index =>
      obtain ⟨_, rfl⟩ := (arena_validated_index_iff _ _).mp read
      exact reported_obeys translation rule own _ .threadArena usizeFrom allowed

end Constructors

section Destruction

variable {G : Type} (translation : String → Key) (code : List (Option (List UInt8)) → List UInt8 → Nat)
  (componentwise : Componentwise translation code) (rule : Rule G)

theorem owned_eta (arena : Arena) (owned : arena.owned = true) : arena = ⟨arena.index, true⟩ := by
  rw [← owned]

include componentwise

theorem this_call_obeys (chosen : ThisCall) (known : Nat → G → Prop) (own : Local G)
    (allowed : ∀ later : Local G, later.ghost = own.ghost →
      rule.pre later ⟨(translation Control.threadArena.name).val, .fresh .unsigned, none⟩)
    (read : ∀ (response : MallctlResponse ⟨(translation Control.threadArena.name).val, .fresh .unsigned, none⟩) index after,
      rule.post own.ghost ⟨(translation Control.threadArena.name).val, .fresh .unsigned, none⟩ response after →
        response.answer = .ok index → known index after)
    (grants : ∀ index, index < arenaIndexLimit → Grants translation rule (known index) index chosen.method.controls) :
    Obeys (hosted translation linuxTarget rule) (fun _ _ => True) chosen.run.run own := by
  rw [this_call_current]
  apply obeys_attempt _ _ _ _ _ own (current_obeys translation rule own allowed)
  · intro later error _
    trivial
  · intro later arena asked
    obtain ⟨response, index, recorded, answered, accepted⟩ := reported_ok_iff translation rule asked
    obtain ⟨below, rfl⟩ := (borrowed_iff index arena).mp accepted
    apply obeys_bind _ _ _ _ _ later (method_obeys translation code componentwise rule ⟨index, false⟩ chosen.method
      (grants index below) later (read response index later.ghost recorded answered))
    intro last value _
    trivial

theorem destroy_obeys (arena : Arena) (own : Local G)
    (allowed : arena.owned → ∀ later : Local G, later.ghost = own.ghost →
      rule.pre later ⟨arenaMib translation arena.index .destroy, .none, none⟩) :
    Obeys (hosted translation linuxTarget rule)
      (fun next value =>
        (arena.owned = false ∧ next = own ∧ value = (.error .invalidArgument, arena)) ∨
        (arena.owned ∧ Controlled rule (Control.arena 0 .destroy).name
          ⟨arenaMib translation arena.index .destroy, .none, none⟩ own next value.1 ∧
            value.2 = ⟨arena.index, !value.1.isOk⟩))
      arena.destroy own := by
  rw [Arena.destroy]
  cases owned : arena.owned with
  | false => exact .inl ⟨rfl, rfl, rfl⟩
  | true =>
      have issued : Obeys (hosted translation linuxTarget rule) _ _ own := control_obeys translation rule
        (Control.arena 0 .destroy).name (fun key => substitute key arena.index) (arenaMib translation arena.index .destroy) .none none
        own (fun _ => substitute_placed translation code componentwise arena.index .destroy) (allowed owned)
      apply obeys_bind _ _ _ _ _ own issued
      intro later value called
      cases value with
      | ok value => exact .inr ⟨rfl, called, rfl⟩
      | error error => exact .inr ⟨rfl, called, owned_eta arena owned⟩

theorem drop_obeys (arena : Arena) (own : Local G)
    (allowed : arena.owned → ∀ later : Local G, later.ghost = own.ghost →
      rule.pre later ⟨arenaMib translation arena.index .destroy, .none, none⟩) :
    Obeys (hosted translation linuxTarget rule)
      (fun next _ =>
        (arena.owned = false ∧ next = own) ∨
        (arena.owned ∧ ∃ result : Except Error Unit, Controlled rule (Control.arena 0 .destroy).name
          ⟨arenaMib translation arena.index .destroy, .none, none⟩ own next result))
      arena.drop own := by
  rw [Arena.drop]
  by_cases owned : arena.owned
  · rw [if_pos owned]
    apply obeys_bind _ _ _ _ _ own (destroy_obeys translation code componentwise rule arena own allowed)
    intro later value destroyed
    cases destroyed with
    | inl refused => exact absurd owned (by simp [refused.1])
    | inr called => exact .inr ⟨owned, value.1, called.2.1⟩
  · rw [if_neg owned]
    exact .inl ⟨Bool.eq_false_iff.mpr owned, rfl⟩

theorem try_destroy_obeys (arena : Arena) (own : Local G)
    (allowed : arena.owned → ∀ later : Local G, later.ghost = own.ghost →
      rule.pre later ⟨arenaMib translation arena.index .destroy, .none, none⟩) :
    Obeys (hosted translation linuxTarget rule)
      (fun next value =>
        (arena.owned = false ∧ next = own ∧ value = .error ⟨.invalidArgument, arena⟩) ∨
        (arena.owned ∧ ∃ result : Except Error Unit,
          Controlled rule (Control.arena 0 .destroy).name ⟨arenaMib translation arena.index .destroy, .none, none⟩ own next
            result ∧ value = result.mapError fun error => ⟨error, arena⟩))
      arena.tryDestroy own := by
  apply obeys_bind _ _ _ _ _ own (destroy_obeys translation code componentwise rule arena own allowed)
  intro later value destroyed
  obtain ⟨result, after⟩ := value
  cases destroyed with
  | inl refused =>
      obtain ⟨owned, same, pair⟩ := refused
      cases pair
      exact .inl ⟨owned, same, rfl⟩
  | inr called =>
      obtain ⟨owned, called, handle⟩ := called
      obtain rfl : after = ⟨arena.index, !result.isOk⟩ := handle
      cases result with
      | ok value => exact .inr ⟨owned, .ok value, called, rfl⟩
      | error error => exact .inr ⟨owned, .error error, called, by rw [owned_eta arena owned]; rfl⟩

end Destruction

theorem into_index_obeys {G : Type} (translation : String → Key) (rule : Rule G) (arena : Arena) (own : Local G) :
    Obeys (hosted translation linuxTarget rule) (fun next value => next = own ∧ value = arena.index) arena.intoIndex own := ⟨rfl, rfl⟩

end Jevmalloc
