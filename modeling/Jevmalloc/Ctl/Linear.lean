import Jevmalloc.Ctl.Runs
import Jevmalloc.Interaction.Ledger

set_option autoImplicit false

namespace Jevmalloc

open Interaction

structure MallctlEvent where
  call : Mallctl
  response : MallctlResponse call

-- Functions of which each looks one key up, makes one control call and reads
-- its answer, unless it refuses before that.
structure Asking (Api : Type) (Result : Api → Type) where
  code : (api : Api) → Ctl MallctlResponse (Result api)
  fits : Api → Prop
  mallctl : Api → Mallctl
  answer : (api : Api) → Except Error (mallctl api).output.Value → Result api

structure Outcome {Api : Type} (Result : Api → Type) where
  api : Api
  value : Result api

structure Serial (J : Type) {Api : Type} (Result : Api → Type) where
  state : J
  ledger : Ledger MallctlEvent (Outcome Result)

abbrev SerialConfig (J : Type) {Api : Type} (Result : Api → Type) :=
  Config (Command Mallctl) (Command.Response MallctlResponse) (Local (Slip MallctlEvent)) (World (Serial J Result)) Api Result

-- jemalloc documents EINVAL for a read of any size but the control's own.
def Sizes {J : Type} (target : CTarget) (jemalloc : J → MallctlEvent → J → Prop) : Prop :=
  ∀ state event next, jemalloc state event next → event.response.Sized target

namespace Asking

variable {Api : Type} {Result : Api → Type} (asking : Asking Api Result)

def Gives (outcome : Outcome Result) (event : MallctlEvent) : Prop :=
  asking.fits outcome.api ∧ ∃ response : MallctlResponse (asking.mallctl outcome.api), event = ⟨_, response⟩ ∧
    outcome.value = asking.answer outcome.api response.outcome

def Fails (outcome : Outcome Result) : Prop :=
  ∃ error, outcome.value = asking.answer outcome.api (.error error) ∧ (¬asking.fits outcome.api → error = .invalidArgument)

def rule (api : Api) : Rule (Slip MallctlEvent) where
  pre own call := own.ghost.acted = none ∧ call = asking.mallctl api ∧ asking.fits api
  post _ call response after := ∃ index, after.acted = some (index, ⟨call, response⟩)

def Returns (api : Api) (own : Local (Slip MallctlEvent)) (value : Result api) : Prop :=
  (asking.Fails ⟨api, value⟩ ∧ own.ghost.acted = none) ∨
    ∃ index event, own.ghost.acted = some (index, event) ∧ asking.Gives ⟨api, value⟩ event

section System

variable {J : Type} (initial : J → Prop) (jemalloc : J → MallctlEvent → J → Prop)

def surroundings : Surroundings (Serial J Result) (Slip MallctlEvent) Api Result where
  code := asking.code
  initial serial := initial serial.state ∧ serial.ledger = Ledger.empty
  enter serial _ _ slip after := slip = serial.ledger.slip ∧ after = { serial with ledger := serial.ledger.issue }
  control slip serial call response next after :=
    jemalloc serial.state ⟨call, response⟩ after.state ∧ next = serial.ledger.stamp slip ⟨call, response⟩ ∧
      after.ledger = serial.ledger.act slip ⟨call, response⟩
  leave own serial api value after := after = { serial with ledger := serial.ledger.finish own.ghost ⟨api, value⟩ }

structure Inv (serial : Serial J Result) (slips : Nat → Option (Slip MallctlEvent)) : Prop where
  books : Books asking.Gives asking.Fails serial.ledger slips
  chain : ∃ start, initial start ∧ Chain jemalloc start (serial.ledger.log.map Prod.snd) serial.state

variable {target : CTarget} (sizes : Sizes target jemalloc) (translation : String → Key)
  (obeys : ∀ api own, own.ghost.acted = none →
    Obeys (hosted translation target (asking.rule api)) (asking.Returns api) (asking.code api) own)

include sizes obeys

theorem asking_rules :
    Rules translation target (asking.surroundings initial jemalloc) asking.rule asking.Returns (asking.Inv initial jemalloc) where
  start := by
    intro serial started
    obtain ⟨state, ledger⟩ := serial
    obtain ⟨first, empty⟩ := started
    cases empty
    exact ⟨books_empty, state, first, .nil⟩
  enter := by
    intro serial slips thread api view slip after inv idle entered
    obtain ⟨rfl, rfl⟩ := entered
    exact ⟨⟨books_issue inv.books thread idle, inv.chain⟩, obeys api _ rfl⟩
  sized _ _ _ _ _ _ controlled := sizes _ _ _ controlled.1
  control := by
    intro serial slips thread api own call response next after inv busy allowed controlled
    obtain ⟨stepped, rfl, ledger⟩ := controlled
    refine ⟨⟨_, rfl⟩, ?_, ?_⟩
    · rw [ledger]
      exact books_act inv.books thread own.ghost _ busy allowed.1
    · obtain ⟨start, first, chain⟩ := inv.chain
      refine ⟨start, first, ?_⟩
      rw [ledger, Ledger.act, List.map_append]
      exact .snoc _ _ _ _ chain stepped
  leave := by
    intro serial slips thread api own value after inv busy returned left
    have same : after = { serial with ledger := serial.ledger.finish own.ghost ⟨api, value⟩ } := left
    subst after
    exact ⟨books_finish inv.books thread own.ghost ⟨api, value⟩ busy returned, inv.chain⟩

theorem asking_discipline :
    Discipline (process translation (asking.surroundings initial jemalloc)) (fun api => hosted translation target (asking.rule api))
      asking.Returns (ProcessInv translation (asking.Inv initial jemalloc)) :=
  process_discipline translation _ _ _ _ (asking.asking_rules initial jemalloc sizes translation obeys)

end System

theorem accounted_once (log : List (Nat × MallctlEvent)) (receipt : Receipt (Outcome Result))
    (accounted : Accounted asking.Gives asking.Fails log receipt) :
    ((∃ error, receipt.outcome.value = asking.answer receipt.outcome.api (.error error) ∧
        (¬asking.fits receipt.outcome.api → error = .invalidArgument)) ∧ Unlogged log receipt.ticket) ∨
      (asking.fits receipt.outcome.api ∧ ∃ index, ∃ response : MallctlResponse (asking.mallctl receipt.outcome.api),
        receipt.entered ≤ index ∧ index < receipt.finished ∧ LoggedAt log receipt.ticket index ⟨_, response⟩ ∧
        receipt.outcome.value = asking.answer receipt.outcome.api response.outcome) := by
  rcases accounted.accounted with failed | ⟨index, _, after, before, logged, fits, response, rfl, value⟩
  · exact .inl failed
  · exact .inr ⟨fits, index, response, after, before, logged, value⟩

section Served

variable {J : Type} (initial : J → Prop) (jemalloc : J → MallctlEvent → J → Prop) (target : CTarget)
  (translation : String → Key)

def knowing := (process translation (asking.surroundings initial jemalloc)).restrict (answers translation)

theorem asking_served (sizes : Sizes target jemalloc) (api : Api) (name : String) (translatable : Translatable translation name)
    (rest : Except Error Key → Ctl MallctlResponse (Result api))
    (begins : asking.code api = Cache.get MallctlResponse name >>= rest)
    (issues : rest (.ok (translation name)) = .call (.control (asking.mallctl api)) fun response =>
      response.settle target >>= fun outcome => .ret (asking.answer api outcome))
    (memory : CacheMemory) (state next : J) (ledger : Ledger MallctlEvent (Outcome Result))
    (callers : Nat → Option (Caller (Command Mallctl) (Command.Response MallctlResponse) (Local (Slip MallctlEvent)) Api Result))
    (thread : Nat) (idle : callers thread = none) (response : MallctlResponse (asking.mallctl api))
    (stepped : jemalloc state ⟨_, response⟩ next)
    (reached : Reachable (asking.knowing initial jemalloc translation) ⟨⟨memory, ⟨state, ledger⟩⟩, callers⟩) :
    ∃ later, Reachable (asking.knowing initial jemalloc translation)
      ⟨⟨later, ⟨next, (ledger.issue.act ledger.slip ⟨_, response⟩).finish (ledger.issue.stamp ledger.slip ⟨_, response⟩)
        ⟨api, asking.answer api response.outcome⟩⟩⟩, callers⟩ := by
  have entered := reachable_enter _ _ ⟨memory, ⟨state, ledger.issue⟩⟩ _ reached thread api
    (Local.fresh (fun _ => 0) ledger.slip) idle ⟨_, _, rfl, rfl, rfl, rfl⟩
  have code : (asking.knowing initial jemalloc translation).code api = Cache.get MallctlResponse name >>= rest := begins
  rw [code] at entered
  obtain ⟨later, cache, _, _, found⟩ := get_runs (knowing_resolves translation (asking.surroundings initial jemalloc)) memory
    ⟨state, ledger.issue⟩ callers thread api _ ledger.slip name translatable rfl rest entered
  rw [issues] at found
  let event : MallctlEvent := ⟨_, response⟩
  have answered := reachable_exec _ _ ⟨later, ⟨next, ledger.issue.act ledger.slip event⟩⟩ _ found thread api _
    ⟨cache, ledger.issue.stamp ledger.slip event⟩ (.control _) _ response (Function.update_self _ _ _)
    ⟨⟨rfl, rfl, stepped, rfl, rfl⟩, trivial⟩
  rw [settle_sized target response (sizes _ _ _ stepped), Program.ret_bind, Function.update_idem] at answered
  let finished : World (Serial J Result) := ⟨later, next, (ledger.issue.act ledger.slip event).finish
    (ledger.issue.stamp ledger.slip event) ⟨api, asking.answer api response.outcome⟩⟩
  have left := reachable_leave _ _ finished _ answered thread api _ _ (Function.update_self _ _ _) ⟨rfl, rfl⟩
  rw [Function.update_idem, ← idle, Function.update_eq_self] at left
  exact ⟨later, left⟩

theorem asking_refused (api : Api) (value : Result api) (refused : asking.code api = .ret value)
    (memory : CacheMemory) (state : J) (ledger : Ledger MallctlEvent (Outcome Result))
    (callers : Nat → Option (Caller (Command Mallctl) (Command.Response MallctlResponse) (Local (Slip MallctlEvent)) Api Result))
    (thread : Nat) (idle : callers thread = none)
    (reached : Reachable (asking.knowing initial jemalloc translation) ⟨⟨memory, ⟨state, ledger⟩⟩, callers⟩) :
    Reachable (asking.knowing initial jemalloc translation)
      ⟨⟨memory, ⟨state, ledger.issue.finish ledger.slip ⟨api, value⟩⟩⟩, callers⟩ := by
  have entered := reachable_enter _ _ ⟨memory, ⟨state, ledger.issue⟩⟩ _ reached thread api
    (Local.fresh (fun _ => 0) ledger.slip) idle ⟨_, _, rfl, rfl, rfl, rfl⟩
  have code : (asking.knowing initial jemalloc translation).code api = .ret value := refused
  rw [code] at entered
  let finished : World (Serial J Result) := ⟨memory, state, ledger.issue.finish ledger.slip ⟨api, value⟩⟩
  have left := reachable_leave _ _ finished _ entered thread api _ value (Function.update_self _ _ _) ⟨rfl, rfl⟩
  rw [Function.update_idem, ← idle, Function.update_eq_self] at left
  exact left

end Served

end Asking

end Jevmalloc
