import Jevmalloc.Arena.Calls
import Jevmalloc.Ctl.Linear

set_option autoImplicit false

namespace Jevmalloc

open Interaction Bytes

-- Trimming aside, a method asks for one control, hands it what it was given
-- and checks what comes back.
namespace ArenaMethod

def control : ArenaMethod → ArenaControl
  | .trim | .purge => .purge
  | .decay => .decay
  | .reset => .reset
  | .name | .setName _ => .name
  | .dss | .setDss _ => .dss
  | .dirtyDecay | .setDirtyDecay _ => .dirtyDecay
  | .muzzyDecay | .setMuzzyDecay _ => .muzzyDecay
  | .retainGrowLimit | .setRetainGrowLimit _ => .retainGrowLimit
  | .extentHooks | .setRawExtentHooks _ => .extentHooks

def output : ArenaMethod → Output
  | .trim | .decay | .purge | .reset | .setName _ => .none
  | .name => .inPlace .buffer (List.replicate arenaNameLen 0)
  | .dss | .setDss _ => .fresh .text
  | .dirtyDecay | .setDirtyDecay _ | .muzzyDecay | .setMuzzyDecay _ => .fresh .ssize
  | .retainGrowLimit | .setRetainGrowLimit _ => .fresh .size
  | .extentHooks | .setRawExtentHooks _ => .fresh .hooks

def input : ArenaMethod → Option Input
  | .setName text => some ⟨.text, some text⟩
  | .setDss setting => some ⟨.text, setting.asPtr⟩
  | .setDirtyDecay decayMs | .setMuzzyDecay decayMs => some ⟨.ssize, decayMs⟩
  | .setRetainGrowLimit limit => some ⟨.size, limit⟩
  | .setRawExtentHooks hooks => some ⟨.hooks, hooks.pointer.val⟩
  | .trim | .decay | .purge | .reset | .name | .dss | .dirtyDecay | .muzzyDecay | .retainGrowLimit | .extentHooks => none

def check : (method : ArenaMethod) → method.output.Value → Except Error method.Value
  | .dss, value | .setDss _, value => Dss.fromPtr value
  | .extentHooks, value | .setRawExtentHooks _, value => nonNullHooks value
  | .trim, value | .decay, value | .purge, value | .reset, value | .setName _, value | .name, value | .dirtyDecay, value
  | .setDirtyDecay _, value | .muzzyDecay, value | .setMuzzyDecay _, value | .retainGrowLimit, value
  | .setRetainGrowLimit _, value => .ok value

def Fits (arena : Arena) : ArenaMethod → Prop
  | .reset => arena.owned = true
  | .setRawExtentHooks hooks => hooks.alloc = true
  | _ => True

end ArenaMethod

def askControl {α : Type} (index : Nat) (control : ArenaControl) (output : Output) (input : Option Input)
    (check : output.Value → Except Error α) : Jem α := do
  let key ← defineKey (Control.arena 0 control).name
  let key ← substitute key index
  let value ← Raw.mallctlbymib linuxTarget key output input
  checked (check value)

theorem ask_plain (index : Nat) (control : ArenaControl) (output : Output) (input : Option Input) :
    (defineKey (Control.arena 0 control).name >>= fun key => substitute key index >>= fun key =>
      Raw.mallctlbymib linuxTarget key output input) = askControl index control output input .ok := by
  have unchecked : ∀ key, (Raw.mallctlbymib linuxTarget key output input >>= fun value => checked (.ok value)) =
      Raw.mallctlbymib linuxTarget key output input := fun key => bind_pure _
  simp only [askControl, unchecked]

theorem method_asks (arena : Arena) (method : ArenaMethod) (single : method ≠ .trim) (fits : method.Fits arena) :
    method.run arena = askControl arena.index method.control method.output method.input method.check := by
  cases method with
  | trim => exact absurd rfl single
  | reset => exact (if_pos fits).trans (ask_plain arena.index .reset .none none)
  | setRawExtentHooks hooks => exact if_pos fits
  | dss => rfl
  | setDss setting => rfl
  | extentHooks => rfl
  | decay => exact ask_plain arena.index .decay .none none
  | purge => exact ask_plain arena.index .purge .none none
  | name => exact ask_plain arena.index .name (.inPlace .buffer (List.replicate arenaNameLen 0)) none
  | setName text => exact ask_plain arena.index .name .none (some ⟨.text, some text⟩)
  | dirtyDecay => exact ask_plain arena.index .dirtyDecay (.fresh .ssize) none
  | setDirtyDecay decayMs => exact ask_plain arena.index .dirtyDecay (.fresh .ssize) (some ⟨.ssize, decayMs⟩)
  | muzzyDecay => exact ask_plain arena.index .muzzyDecay (.fresh .ssize) none
  | setMuzzyDecay decayMs => exact ask_plain arena.index .muzzyDecay (.fresh .ssize) (some ⟨.ssize, decayMs⟩)
  | retainGrowLimit => exact ask_plain arena.index .retainGrowLimit (.fresh .size) none
  | setRetainGrowLimit limit => exact ask_plain arena.index .retainGrowLimit (.fresh .size) (some ⟨.size, limit⟩)

theorem method_refused (arena : Arena) (method : ArenaMethod) (refused : ¬method.Fits arena) :
    (method.run arena).run = .ret (.error .invalidArgument) := by
  cases method with
  | reset => exact congrArg ExceptT.run (if_neg refused)
  | setRawExtentHooks hooks => exact congrArg ExceptT.run (if_neg refused)
  | _ => exact absurd trivial refused

def ArenasCall.method : ArenasCall → ArenaMethod
  | .trim => .trim
  | .purge => .purge
  | .decay => .decay
  | .dss => .dss
  | .setDss setting => .setDss setting

inductive MethodCall where
  | arena (handle : Arena) (method : ArenaMethod) (single : method ≠ .trim)
  | arenas (call : ArenasCall) (single : call.method ≠ .trim)

namespace MethodCall

def index : MethodCall → Nat
  | .arena handle _ _ => handle.index
  | .arenas _ _ => Arenas.allArenas

def method : MethodCall → ArenaMethod
  | .arena _ method _ => method
  | .arenas call _ => call.method

def Fits : MethodCall → Prop
  | .arena handle method _ => method.Fits handle
  | .arenas _ _ => True

def Result (call : MethodCall) : Type := Except Error call.method.Value

def code : (call : MethodCall) → Ctl MallctlResponse call.Result
  | .arena handle method _ => (method.run handle).run
  | .arenas .trim _ => Arenas.trim.run
  | .arenas .purge _ => Arenas.purge.run
  | .arenas .decay _ => Arenas.decay.run
  | .arenas .dss _ => Arenas.dss.run
  | .arenas (.setDss setting) _ => (Arenas.setDss setting).run

def asks (call : MethodCall) : Jem call.method.Value :=
  askControl call.index call.method.control call.method.output call.method.input call.method.check

theorem code_asks_arena (call : MethodCall) (fits : call.Fits) : call.code = call.asks.run := by
  cases call with
  | arena handle method single => exact congrArg ExceptT.run (method_asks handle method single fits)
  | arenas call single =>
      cases call with
      | trim => exact absurd rfl single
      | purge => exact congrArg ExceptT.run (ask_plain Arenas.allArenas .purge .none none)
      | decay => exact congrArg ExceptT.run (ask_plain Arenas.allArenas .decay .none none)
      | dss => rfl
      | setDss setting => rfl

theorem code_refused (call : MethodCall) (refused : ¬call.Fits) : call.code = .ret (.error .invalidArgument) := by
  cases call with
  | arena handle method single => exact method_refused handle method refused
  | arenas call single => exact absurd trivial refused

end MethodCall

section Methods

variable (translation : String → Key)

def methodAsking : Asking MethodCall MethodCall.Result where
  code := MethodCall.code
  fits := MethodCall.Fits
  mallctl call := ⟨arenaMib translation call.index call.method.control, call.method.output, call.method.input⟩
  answer call outcome := outcome >>= call.method.check

variable (code : List (Option (List UInt8)) → List UInt8 → Nat) (componentwise : Componentwise translation code)

include componentwise

theorem method_call_asks (call : MethodCall) (own : Local (Slip MallctlEvent)) (unacted : own.ghost.acted = none) :
    Obeys (hosted translation linuxTarget ((methodAsking translation).rule call)) ((methodAsking translation).Returns call) call.code own := by
  by_cases fits : call.Fits
  · rw [call.code_asks_arena fits]
    refine obeys_weaken _ _ _ _ own (control_checked_obeys translation _ _ (fun key => substitute key call.index)
      (arenaMib translation call.index call.method.control) call.method.output call.method.input own call.method.check
      (fun _ => substitute_placed translation code componentwise call.index call.method.control)
      fun later same => ⟨by rw [same]; exact unacted, rfl, fits⟩) ?_
    intro next value called
    obtain ⟨first, controlled, rfl⟩ := called
    rcases controlled with ⟨ghost, _, _, error, rfl⟩ | ⟨_, response, recorded, rfl⟩
    · exact .inl ⟨⟨error, rfl, fun excess => absurd fits excess⟩, by rw [ghost]; exact unacted⟩
    · obtain ⟨index, acted⟩ := recorded
      exact .inr ⟨index, _, acted, fits, response, rfl, rfl⟩
  · rw [call.code_refused fits]
    exact .inl ⟨⟨.invalidArgument, rfl, fun _ => rfl⟩, unacted⟩

end Methods

inductive Setting where
  | dss
  | dirtyDecay
  | muzzyDecay
  | retainGrowLimit
  | extentHooks
deriving DecidableEq, Repr

namespace Setting

def control : Setting → ArenaControl
  | .dss => .dss
  | .dirtyDecay => .dirtyDecay
  | .muzzyDecay => .muzzyDecay
  | .retainGrowLimit => .retainGrowLimit
  | .extentHooks => .extentHooks

def type : Setting → CType
  | .dss => .text
  | .dirtyDecay | .muzzyDecay => .ssize
  | .retainGrowLimit => .size
  | .extentHooks => .hooks

abbrev Value (setting : Setting) : Type := setting.type.Value

def given (setting : Setting) : Option Input → Option setting.Value
  | some ⟨type, value⟩ => if same : type = setting.type then some (cast (congrArg CType.Value same) value) else none
  | none => none

end Setting

def ArenaMethod.seen (settings : (setting : Setting) → setting.Value) : (method : ArenaMethod) → Option method.output.Value
  | .dss | .setDss _ => some (settings .dss)
  | .dirtyDecay | .setDirtyDecay _ => some (settings .dirtyDecay)
  | .muzzyDecay | .setMuzzyDecay _ => some (settings .muzzyDecay)
  | .retainGrowLimit | .setRetainGrowLimit _ => some (settings .retainGrowLimit)
  | .extentHooks | .setRawExtentHooks _ => some (settings .extentHooks)
  | .trim | .decay | .purge | .reset | .name | .setName _ => none

-- A precedence is read back by the same call that writes it.
def ArenaMethod.settles : (method : ArenaMethod) → Option method.Value
  | .setDss setting => some setting
  | .dss | .dirtyDecay | .setDirtyDecay _ | .muzzyDecay | .setMuzzyDecay _ | .retainGrowLimit | .setRetainGrowLimit _
  | .extentHooks | .setRawExtentHooks _ | .trim | .decay | .purge | .reset | .name | .setName _ => none

theorem precedence_read (setting : Dss) : Dss.fromPtr setting.asPtr = .ok setting := by
  cases setting <;> decide

section Settings

variable (translation : String → Key) (rounds : (setting : Setting) → setting.Value → setting.Value)

def settingWrites (index : Nat) (setting : Setting) (event : MallctlEvent) : Option setting.Value :=
  if event.call.mib = arenaMib translation index setting.control ∧ event.response.status = 0 then
    (setting.given event.call.input).map (rounds setting)
  else none

-- What jemalloc documents of these controls: only a successful write changes
-- what is kept. A precedence is reported as it is afterwards, everything else
-- as it was before. A growth limit is rounded.
structure Remembers {J : Type} (jemalloc : J → MallctlEvent → J → Prop) (held : J → Nat → (setting : Setting) → setting.Value) :
    Prop where
  written : ∀ index setting, Written jemalloc (fun state => held state index setting) (settingWrites translation rounds index setting)
  reported : ∀ state index (setting : Setting) input
    (response : MallctlResponse ⟨arenaMib translation index setting.control, .fresh setting.type, input⟩) next,
    jemalloc state ⟨_, response⟩ next → response.status = 0 →
      (response.value : setting.Value) = if setting = .dss then held next index setting else held state index setting
  exact : ∀ setting value, setting ≠ .retainGrowLimit → rounds setting value = value

def lastKept (events : List MallctlEvent) (first : Nat → (setting : Setting) → setting.Value) (index place : Nat) (setting : Setting) :
    setting.Value :=
  lastWritten (settingWrites translation rounds index setting) (events.take (if setting = .dss then place + 1 else place))
    (first index setting)

variable {translation rounds} {J : Type} {jemalloc : J → MallctlEvent → J → Prop}
  {held : J → Nat → (setting : Setting) → setting.Value} (remembers : Remembers translation rounds jemalloc held)

include remembers

theorem setting_reported (events : List MallctlEvent) (states : Nat → J)
    (steps : ∀ place event, events[place]? = some event → jemalloc (states place) event (states (place + 1)))
    (index place : Nat) (setting : Setting) (input : Option Input)
    (response : MallctlResponse ⟨arenaMib translation index setting.control, .fresh setting.type, input⟩)
    (logged : events[place]? = some ⟨_, response⟩) (done : response.status = 0) :
    response.value = lastKept translation rounds events (held (states 0)) index place setting := by
  have kept := written_last (fun state => held state index setting) _ (remembers.written index setting) events states steps
  obtain ⟨inside, _⟩ := List.getElem?_eq_some_iff.mp logged
  rw [remembers.reported _ index setting input response _ (steps place _ logged) done, lastKept]
  by_cases dss : setting = .dss
  · rw [if_pos dss, if_pos dss]
    exact kept (place + 1) inside
  · rw [if_neg dss, if_neg dss]
    exact kept place (Nat.le_of_lt inside)

theorem method_reported (events : List MallctlEvent) (states : Nat → J)
    (steps : ∀ place event, events[place]? = some event → jemalloc (states place) event (states (place + 1)))
    (index place : Nat) (method : ArenaMethod)
    (response : MallctlResponse ⟨arenaMib translation index method.control, method.output, method.input⟩)
    (logged : events[place]? = some ⟨_, response⟩) (done : response.status = 0) (seen : method.output.Value)
    (about : method.seen (lastKept translation rounds events (held (states 0)) index place) = some seen) :
    response.value = seen := by
  have reported := setting_reported remembers events states steps index place
  cases method with
  | dss => exact (reported .dss _ response logged done).trans (Option.some.inj about)
  | setDss dss => exact (reported .dss _ response logged done).trans (Option.some.inj about)
  | dirtyDecay => exact (reported .dirtyDecay _ response logged done).trans (Option.some.inj about)
  | setDirtyDecay decayMs => exact (reported .dirtyDecay _ response logged done).trans (Option.some.inj about)
  | muzzyDecay => exact (reported .muzzyDecay _ response logged done).trans (Option.some.inj about)
  | setMuzzyDecay decayMs => exact (reported .muzzyDecay _ response logged done).trans (Option.some.inj about)
  | retainGrowLimit => exact (reported .retainGrowLimit _ response logged done).trans (Option.some.inj about)
  | setRetainGrowLimit limit => exact (reported .retainGrowLimit _ response logged done).trans (Option.some.inj about)
  | extentHooks => exact (reported .extentHooks _ response logged done).trans (Option.some.inj about)
  | setRawExtentHooks hooks => exact (reported .extentHooks _ response logged done).trans (Option.some.inj about)
  | _ => cases about

theorem precedence_kept (events : List MallctlEvent) (first : Nat → (setting : Setting) → setting.Value) (index place : Nat)
    (output : Output) (setting : Dss)
    (response : MallctlResponse ⟨arenaMib translation index .dss, output, some ⟨.text, setting.asPtr⟩⟩)
    (logged : events[place]? = some ⟨_, response⟩) (done : response.status = 0) :
    lastKept translation rounds events first index place .dss = setting.asPtr := by
  have written : settingWrites translation rounds index .dss ⟨_, response⟩ = some setting.asPtr := by
    rw [settingWrites, if_pos ⟨rfl, done⟩]
    exact congrArg some (remembers.exact .dss setting.asPtr (by decide))
  rw [lastKept, if_pos rfl, List.take_add_one, logged, Option.toList_some, last_written_snoc, written]
  rfl

theorem method_settled (events : List MallctlEvent) (states : Nat → J)
    (steps : ∀ place event, events[place]? = some event → jemalloc (states place) event (states (place + 1)))
    (index place : Nat) (method : ArenaMethod)
    (response : MallctlResponse ⟨arenaMib translation index method.control, method.output, method.input⟩)
    (logged : events[place]? = some ⟨_, response⟩) (done : response.status = 0) (settled : method.Value)
    (settles : method.settles = some settled) : method.check response.value = .ok settled := by
  cases method with
  | setDss setting =>
      obtain rfl : setting = settled := Option.some.inj settles
      have reported := setting_reported remembers events states steps index place .dss _ response logged done
      have kept := precedence_kept remembers events (held (states 0)) index place _ setting response logged done
      exact (congrArg Dss.fromPtr (reported.trans kept)).trans (precedence_read setting)
  | _ => cases settles

end Settings

theorem arena_settings_registers {J : Type} (translation : String → Key)
    (code : List (Option (List UInt8)) → List UInt8 → Nat) (componentwise : Componentwise translation code)
    (rounds : (setting : Setting) → setting.Value → setting.Value) (initial : J → Prop) (jemalloc : J → MallctlEvent → J → Prop)
    (sizes : Sizes linuxTarget jemalloc) (held : J → Nat → (setting : Setting) → setting.Value)
    (remembers : Remembers translation rounds jemalloc held) (config : SerialConfig J MethodCall.Result)
    (reached : Reachable (process translation ((methodAsking translation).surroundings initial jemalloc)) config) :
    ∃ start, initial start ∧ ∀ receipt ∈ config.world.state.ledger.receipts,
      ((∃ error, receipt.outcome.value = .error error) ∧ Unlogged config.world.state.ledger.log receipt.ticket) ∨
      ∃ place, ∃ response : MallctlResponse ((methodAsking translation).mallctl receipt.outcome.api),
        receipt.entered ≤ place ∧ place < receipt.finished ∧
        LoggedAt config.world.state.ledger.log receipt.ticket place ⟨_, response⟩ ∧
        receipt.outcome.value = (methodAsking translation).answer receipt.outcome.api response.outcome ∧
        (response.status = 0 →
          (∀ seen, receipt.outcome.api.method.seen (lastKept translation rounds (config.world.state.ledger.log.map Prod.snd)
              (held start) receipt.outcome.api.index place) = some seen →
            receipt.outcome.value = receipt.outcome.api.method.check seen) ∧
          ∀ settled, receipt.outcome.api.method.settles = some settled → receipt.outcome.value = .ok settled) := by
  have discipline := (methodAsking translation).asking_discipline initial jemalloc sizes translation
    fun call own unacted => method_call_asks translation code componentwise call own unacted
  obtain ⟨_, books, start, first, chain⟩ := discipline_invariant discipline config reached
  obtain ⟨states, rfl, _, steps⟩ := chain_states start _ _ chain
  refine ⟨_, first, ?_⟩
  intro receipt member
  rcases (methodAsking translation).accounted_once _ receipt (books.accounted receipt member).1 with
    ⟨⟨error, value, _⟩, unlogged⟩ | ⟨_, place, response, after, before, logged, value⟩
  · exact .inl ⟨⟨error, value⟩, unlogged⟩
  refine .inr ⟨place, response, after, before, logged, value, ?_⟩
  intro done
  have present : (config.world.state.ledger.log.map Prod.snd)[place]? = some ⟨_, response⟩ := by
    rw [List.getElem?_map, logged.1]
    rfl
  have answered : receipt.outcome.value = receipt.outcome.api.method.check response.value := by
    rw [value, (outcome_ok response response.value).mpr ⟨done, rfl⟩]
    rfl
  constructor
  · intro seen about
    rw [answered, method_reported remembers _ states steps _ place _ response present done seen about]
  · intro settled settles
    exact answered.trans (method_settled remembers _ states steps _ place _ response present done settled settles)

section Served

variable {J : Type} (translation : String → Key) (code : List (Option (List UInt8)) → List UInt8 → Nat)
  (componentwise : Componentwise translation code) (initial : J → Prop) (jemalloc : J → MallctlEvent → J → Prop)

include componentwise

theorem asks_placed (call : MethodCall) :
    resolved (fun key => substitute key call.index >>= fun key =>
        Raw.mallctlbymib linuxTarget key call.method.output call.method.input >>= fun value => checked (call.method.check value))
      (.ok (translation (Control.arena 0 call.method.control).name)) =
    .call (.control ((methodAsking translation).mallctl call)) fun response => response.settle linuxTarget >>= fun outcome =>
      .ret ((methodAsking translation).answer call outcome) := by
  obtain ⟨key, placed, mib⟩ := substitute_placed translation code componentwise call.index call.method.control
  have issued : ∀ place, key.val = place →
      (Raw.mallctlbymib linuxTarget key call.method.output call.method.input >>= fun value => checked (call.method.check value)).run =
        .call (.control ⟨place, call.method.output, call.method.input⟩) fun response =>
          response.settle linuxTarget >>= fun outcome => .ret (outcome >>= call.method.check) := by
    rintro _ rfl
    refine congrArg (Program.call _) (funext fun response => ?_)
    refine congrArg (response.settle linuxTarget >>= ·) (funext fun outcome => ?_)
    cases outcome with
    | ok value => rfl
    | error error => rfl
  exact (congrArg ExceptT.run (congrArg (· >>= _) placed)).trans (issued _ mib)

theorem method_call_served (sizes : Sizes linuxTarget jemalloc) (call : MethodCall) (fits : call.Fits)
    (translatable : Translatable translation (Control.arena 0 call.method.control).name)
    (memory : CacheMemory) (state next : J) (ledger : Ledger MallctlEvent (Outcome MethodCall.Result))
    (thread : Nat) (response : MallctlResponse ((methodAsking translation).mallctl call)) (stepped : jemalloc state ⟨_, response⟩ next)
    (reached : Reachable ((methodAsking translation).knowing initial jemalloc translation) ⟨⟨memory, ⟨state, ledger⟩⟩, fun _ => none⟩) :
    ∃ later, Reachable ((methodAsking translation).knowing initial jemalloc translation)
      ⟨⟨later, ⟨next, (ledger.issue.act ledger.slip ⟨_, response⟩).finish (ledger.issue.stamp ledger.slip ⟨_, response⟩)
        ⟨call, (methodAsking translation).answer call response.outcome⟩⟩⟩, fun _ => none⟩ :=
  (methodAsking translation).asking_served initial jemalloc linuxTarget translation sizes call _ translatable _
    ((call.code_asks_arena fits).trans (resolved_run _ _)) (asks_placed translation code componentwise call) memory state next
    ledger _ thread rfl response stepped reached

end Served

abbrev Kept := Nat → (setting : Setting) → setting.Value

def Setting.default : (setting : Setting) → setting.Value
  | .dss => some Dss.secondary.word
  | .dirtyDecay => (10000 : Int)
  | .muzzyDecay => (0 : Int)
  | .retainGrowLimit => (2 ^ 63 : Nat)
  | .extentHooks => (4096 : Nat)

def unrounded (setting : Setting) (value : setting.Value) : setting.Value := value

def keeps (state : Kept) (event : MallctlEvent) (next : Kept) : Prop :=
  event.response.Sized linuxTarget ∧
  (∀ index setting, next index setting =
    (settingWrites spelledKey unrounded index setting event).getD (state index setting)) ∧
  ∀ index (setting : Setting) input
    (response : MallctlResponse ⟨arenaMib spelledKey index setting.control, .fresh setting.type, input⟩),
    event = ⟨_, response⟩ → response.status = 0 →
      (response.value : setting.Value) = if setting = .dss then next index setting else state index setting

theorem keeps_sizes : Sizes linuxTarget keeps := fun _ _ _ kept => kept.1

theorem keeps_remembers : Remembers spelledKey unrounded keeps id where
  written index setting _ _ _ kept := kept.2.1 index setting
  reported _ index setting input response _ kept done := kept.2.2 index setting input response rfl done
  exact _ _ _ := rfl

theorem setting_mib_injective (first second : Nat) (setting other : Setting)
    (same : arenaMib spelledKey first setting.control = arenaMib spelledKey second other.control) :
    first = second ∧ setting = other := by
  have known := spelled_interprets.known (.arena first setting.control)
  have equal : some (Control.arena first setting.control) = some (.arena second other.control) :=
    known.symm.trans ((congrArg spelledMeaning same).trans (spelled_interprets.known (.arena second other.control)))
  obtain ⟨index, control⟩ := Control.arena.inj (Option.some.inj equal)
  refine ⟨index, ?_⟩
  cases setting <;> cases other <;> first | rfl | cases control

def answering (state : Kept) (index : Nat) (setting : Setting) (input : Option Input) : setting.Value :=
  if setting = .dss then (setting.given input).getD (state index setting) else state index setting

theorem keeps_answer (state : Kept) (index : Nat) (setting : Setting) (input : Option Input) :
    ∃ next, keeps state ⟨⟨arenaMib spelledKey index setting.control, .fresh setting.type, input⟩,
      ⟨0, 8, answering state index setting input⟩⟩ next ∧ next index setting = (setting.given input).getD (state index setting) := by
  let event : MallctlEvent := ⟨⟨arenaMib spelledKey index setting.control, .fresh setting.type, input⟩,
    ⟨0, 8, answering state index setting input⟩⟩
  let next : Kept := fun other kept => (settingWrites spelledKey unrounded other kept event).getD (state other kept)
  have here : next index setting = (setting.given input).getD (state index setting) := by
    have writes : settingWrites spelledKey unrounded index setting event = setting.given input :=
      (if_pos ⟨rfl, rfl⟩).trans (by cases setting.given input <;> rfl)
    exact congrArg (Option.getD · (state index setting)) writes
  have sized : event.response.Sized linuxTarget := fun _ => by cases setting <;> rfl
  refine ⟨next, ⟨sized, fun _ _ => rfl, ?_⟩, here⟩
  intro other kept given response same done
  obtain ⟨rfl, rfl⟩ := setting_mib_injective index other setting kept (congrArg (·.call.mib) same)
  obtain rfl : input = given := congrArg (·.call.input) same
  obtain rfl := eq_of_heq (MallctlEvent.mk.inj same).2
  rw [here]
  rfl

theorem arena_settings_registers_set :
    ∃ config, Reachable (process spelledKey ((methodAsking spelledKey).surroundings (fun _ => True) keeps)) config ∧
      ∃ receipt ∈ config.world.state.ledger.receipts,
        receipt.outcome = ⟨.arena ⟨0, false⟩ .dirtyDecay (by intro same; cases same), .ok (5 : Int)⟩ ∧
        ∃ place, receipt.entered ≤ place ∧ place < receipt.finished := by
  let setter : MethodCall := .arena ⟨0, false⟩ (.setDirtyDecay (5 : Int)) (by intro same; cases same)
  let getter : MethodCall := .arena ⟨0, false⟩ .dirtyDecay (by intro same; cases same)
  have translatable : Translatable spelledKey (Control.arena 0 .dirtyDecay).name :=
    spelled_translatable _ (by decide) (by decide) (by decide) (by decide)
  have start : Reachable ((methodAsking spelledKey).knowing (fun _ => True) keeps spelledKey)
      ⟨⟨Weak.empty, ⟨fun _ => Setting.default, Ledger.empty⟩⟩, fun _ => none⟩ := .start _ ⟨rfl, trivial, rfl⟩
  obtain ⟨second, written, five⟩ := keeps_answer (fun _ => Setting.default) 0 .dirtyDecay (some ⟨.ssize, (5 : Int)⟩)
  obtain ⟨_, set⟩ := method_call_served spelledKey spelledCode spelled_componentwise _ keeps keeps_sizes setter trivial
    translatable _ _ second _ 0 _ written start
  obtain ⟨third, read, _⟩ := keeps_answer second 0 .dirtyDecay none
  obtain ⟨_, made⟩ := method_call_served spelledKey spelledCode spelled_componentwise _ keeps keeps_sizes getter trivial
    translatable _ second third _ 1 _ read set
  have reached := reachable_restrict _ _ _ made
  obtain ⟨_, _, registers⟩ := arena_settings_registers spelledKey spelledCode spelled_componentwise unrounded _ keeps keeps_sizes
    id keeps_remembers _ reached
  refine ⟨_, reached, _, List.mem_cons_self, ?_, ?_⟩
  · exact congrArg (fun value : Int => (⟨getter, .ok value⟩ : Outcome MethodCall.Result)) five
  · rcases registers _ List.mem_cons_self with ⟨⟨error, impossible⟩, _⟩ | ⟨place, _, after, before, _⟩
    · cases impossible
    · exact ⟨place, after, before⟩

end Jevmalloc
