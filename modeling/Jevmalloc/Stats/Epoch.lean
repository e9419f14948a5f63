import Jevmalloc.Ctl.Catalogue
import Jevmalloc.Ctl.Served

set_option autoImplicit false

namespace Jevmalloc

open Interaction

namespace Stats

-- The statistics that jemalloc copies at a refresh; zero_reallocs is read
-- directly.
def cached : List ControlCall :=
  [allocated, active, metadata, metadataThp, resident, mapped, retained, backgroundThreadNumThreads,
    backgroundThreadNumRuns, backgroundThreadRunInterval]

-- Anyone may refresh: only the control and the presence of an input count.
def refreshes (translation : String → Key) (event : MallctlEvent) : Bool :=
  decide (event.call.mib = (translation "epoch").val) && event.call.input.isSome

-- What jemalloc documents of its statistics: a refresh advances the epoch by
-- one, nothing else changes the cached values, and reads report both.
structure Caches {J : Type} (translation : String → Key) (jemalloc : J → MallctlEvent → J → Prop) (version : J → Nat)
    (snapshot : J → (name : String) → (type : CType) → type.Value) : Prop where
  refreshed : Versioned jemalloc version snapshot (refreshes translation)
  epoch : ∀ state input (response : MallctlResponse ⟨(translation "epoch").val, .fresh .uint64, input⟩) next,
    jemalloc state ⟨_, response⟩ next → response.status = 0 → response.value = (version next % 2 ^ 64 : Nat)
  reported : ∀ state name type (response : MallctlResponse ⟨(translation name).val, .fresh type, none⟩) next,
    .scalarGetter name type ∈ cached → jemalloc state ⟨_, response⟩ next → response.status = 0 →
      response.value = snapshot next name type

def Observes (outcome : Outcome ControlCall.Result) (epoch : Nat) : Prop :=
  outcome = ⟨Stats.epoch, .ok epoch⟩ ∨ outcome = ⟨refreshEpoch, .ok epoch⟩

section Brackets

variable {J : Type} (target : CTarget) (translation : String → Key) (initial : J → Prop)
  (jemalloc : J → MallctlEvent → J → Prop) (version : J → Nat)
  (snapshot : J → (name : String) → (type : CType) → type.Value)
  (caches : Caches translation jemalloc version snapshot)

theorem acted_ok (log : List (Nat × MallctlEvent)) (receipt : Receipt (Outcome ControlCall.Result))
    (accounted : Accounted (controlAsking target translation).Gives (controlAsking target translation).Fails log receipt)
    (succeeds : ¬(controlAsking target translation).Fails receipt.outcome) :
    ∃ index, ∃ response : MallctlResponse (receipt.outcome.api.mallctl target translation), receipt.entered ≤ index ∧
      index < receipt.finished ∧ (log.map Prod.snd)[index]? = some ⟨_, response⟩ ∧
      receipt.outcome.value = receipt.outcome.api.answer target response.outcome := by
  rcases (controlAsking target translation).accounted_once log receipt accounted with
    ⟨failed, _⟩ | ⟨_, index, response, after, before, logged, value⟩
  · exact absurd failed succeeds
  · exact ⟨index, response, after, before, by rw [List.getElem?_map, logged.1]; rfl, value⟩

include caches

theorem observed_epoch (events : List MallctlEvent) (states : Nat → J)
    (steps : ∀ index event, events[index]? = some event → jemalloc (states index) event (states (index + 1)))
    (outcome : Outcome ControlCall.Result) (epoch index : Nat) (observes : Observes outcome epoch)
    (response : MallctlResponse (outcome.api.mallctl target translation)) (present : events[index]? = some ⟨_, response⟩)
    (value : outcome.value = outcome.api.answer target response.outcome) : version (states (index + 1)) % 2 ^ 64 = epoch := by
  have stepped := steps index _ present
  rcases observes with rfl | rfl
  · obtain ⟨done, same⟩ := (outcome_ok response _).mp value.symm
    exact (caches.epoch _ none response _ stepped done).symm.trans same
  · obtain ⟨done, same⟩ := (outcome_ok response _).mp value.symm
    exact (caches.epoch _ (some ⟨.uint64, (0 : Nat)⟩) response _ stepped done).symm.trans same

theorem reported_value (events : List MallctlEvent) (states : Nat → J)
    (steps : ∀ index event, events[index]? = some event → jemalloc (states index) event (states (index + 1)))
    (name : String) (type : CType) (statistic : type.Value) (index : Nat) (member : .scalarGetter name type ∈ cached)
    (response : MallctlResponse ((ControlCall.scalarGetter name type).mallctl target translation))
    (present : events[index]? = some ⟨_, response⟩)
    (value : (.ok statistic : Except Error type.Value) = (ControlCall.scalarGetter name type).answer target response.outcome) :
    statistic = snapshot (states (index + 1)) name type := by
  obtain ⟨done, same⟩ := (outcome_ok response _).mp value.symm
  exact same.symm.trans (caches.reported _ name type response _ member (steps index _ present) done)

end Brackets

end Stats

theorem epoch_brackets_snapshot {J : Type} (target : CTarget) (translation : String → Key) (initial : J → Prop)
    (jemalloc : J → MallctlEvent → J → Prop) (version : J → Nat)
    (snapshot : J → (name : String) → (type : CType) → type.Value)
    (caches : Stats.Caches translation jemalloc version snapshot)
    (sizes : Sizes target jemalloc) (config : SerialConfig J ControlCall.Result)
    (reached : Reachable (controlSystem target translation initial jemalloc) config)
    (few : (config.world.state.ledger.log.map Prod.snd).countP (Stats.refreshes translation) < 2 ^ 64)
    (first last : Receipt (Outcome ControlCall.Result)) (firstDone : first ∈ config.world.state.ledger.receipts)
    (lastDone : last ∈ config.world.state.ledger.receipts) (epoch : Nat) (opened : Stats.Observes first.outcome epoch)
    (closed : last.outcome = ⟨Stats.epoch, .ok epoch⟩) :
    ∃ state : J, version state % 2 ^ 64 = epoch ∧ ∀ receipt ∈ config.world.state.ledger.receipts, first.finished ≤ receipt.entered →
      receipt.finished ≤ last.entered → ∀ name type (statistic : type.Value), .scalarGetter name type ∈ Stats.cached →
        receipt.outcome = ⟨.scalarGetter name type, .ok statistic⟩ → statistic = snapshot state name type := by
  obtain ⟨_, books, start, _, chain⟩ := discipline_invariant (control_discipline target translation initial jemalloc sizes) config
    reached
  obtain ⟨states, _, _, steps⟩ := chain_states start _ _ chain
  have openedOk : ¬(controlAsking target translation).Fails first.outcome := by
    rintro ⟨error, value, _⟩
    rcases opened with same | same <;> rw [same] at value <;> cases value
  have closedOk : ¬(controlAsking target translation).Fails last.outcome := by
    rintro ⟨error, value, _⟩
    rw [closed] at value
    cases value
  obtain ⟨i, firstResponse, _, beforeEnd, firstAt, firstValue⟩ :=
    Stats.acted_ok target translation _ first (books.accounted first firstDone).1 openedOk
  obtain ⟨k, lastResponse, afterStart, _, lastAt, lastValue⟩ :=
    Stats.acted_ok target translation _ last (books.accounted last lastDone).1 closedOk
  have firstEpoch := Stats.observed_epoch target translation jemalloc version snapshot caches _ states steps first.outcome epoch
    i opened firstResponse firstAt firstValue
  have lastEpoch := Stats.observed_epoch target translation jemalloc version snapshot caches _ states steps last.outcome epoch
    k (.inl closed) lastResponse lastAt lastValue
  obtain ⟨lastInside, _⟩ := List.getElem?_eq_some_iff.mp lastAt
  refine ⟨states (i + 1), firstEpoch, ?_⟩
  intro receipt member afterFirst beforeLast name type statistic isCached outcome
  have ok : ¬(controlAsking target translation).Fails receipt.outcome := by
    rintro ⟨error, value, _⟩
    rw [outcome] at value
    cases value
  obtain ⟨j, response, afterEntry, beforeExit, present, value⟩ :=
    Stats.acted_ok target translation _ receipt (books.accounted receipt member).1 ok
  obtain ⟨ticket, entered, finished, _⟩ := receipt
  subst outcome
  rw [Stats.reported_value target translation jemalloc version snapshot caches _ states steps name type statistic j isCached
    response present value]
  have still := version_wrapped caches.refreshed _ states steps (2 ^ 64) (i + 1) (k + 1) (by omega) lastInside few
    (firstEpoch.trans lastEpoch.symm)
  have same := version_still caches.refreshed _ states steps (i + 1) (j + 1) (k + 1) (by omega) (by omega) lastInside still
  exact congrFun (congrFun same name) type

section Counting

open Stats

def countedSnapshot (state : Nat) (_ : String) : (type : CType) → type.Value
  | .bool => false
  | .int => 0#32
  | .unsigned | .size | .uint64 | .hooks | .pointer => state
  | .ssize | .int64 => (state : Int)
  | .text => none
  | .buffer => []

def counts (state : Nat) (event : MallctlEvent) (next : Nat) : Prop :=
  event.response.Sized linuxTarget ∧
  next = (if refreshes spelledKey event = true then state + 1 else state) ∧
  (∀ input (response : MallctlResponse ⟨(spelledKey "epoch").val, .fresh .uint64, input⟩), event = ⟨_, response⟩ →
    response.status = 0 → response.value = (next % 2 ^ 64 : Nat)) ∧
  (∀ name type (response : MallctlResponse ⟨(spelledKey name).val, .fresh type, none⟩), .scalarGetter name type ∈ cached →
    event = ⟨_, response⟩ → response.status = 0 → response.value = countedSnapshot next name type)

theorem counts_sizes : Sizes linuxTarget counts := fun _ _ _ stepped => stepped.1

theorem counts_caches : Caches spelledKey counts id countedSnapshot where
  refreshed := by
    rintro state event next ⟨_, stepped, _, _⟩
    by_cases refresh : refreshes spelledKey event = true
    · rw [if_pos refresh] at stepped
      exact .inr ⟨refresh, stepped⟩
    · rw [if_neg refresh] at stepped
      exact .inl ⟨stepped, congrArg countedSnapshot stepped⟩
  epoch := fun _ input response _ stepped done => stepped.2.2.1 input response rfl done
  reported := fun _ name type response _ member stepped done => stepped.2.2.2 name type response member rfl done

theorem counted_one (mib other : List Nat) (read type : CType) (response : MallctlResponse ⟨other, .fresh type, none⟩)
    (name : String) (same : (⟨⟨mib, .fresh read, none⟩, ⟨0, 8, countedSnapshot 1 name read⟩⟩ : MallctlEvent) = ⟨_, response⟩) :
    response.value = countedSnapshot 1 name type := by
  cases same
  rfl

theorem epoch_brackets_snapshot_refreshed :
    ∃ state, state % 2 ^ 64 = 1 ∧ (1 : Nat) = countedSnapshot state "stats.allocated" .size := by
  have start : Reachable (knowingSystem linuxTarget spelledKey (fun state => state = 0) counts)
      ⟨⟨Weak.empty, ⟨0, Ledger.empty⟩⟩, fun _ => none⟩ := .start _ ⟨rfl, rfl, rfl⟩
  have epoch := spelled_translatable "epoch" (by decide) (by decide) (by decide) (by decide)
  have refreshed : counts 0 ⟨refreshEpoch.mallctl linuxTarget spelledKey, ⟨0, 8, (1 : Nat)⟩⟩ 1 := by
    refine ⟨fun _ => rfl, (if_pos (by simp [refreshes, ControlCall.mallctl, refreshEpoch, ControlCall.mib, ControlCall.name,
      ControlCall.input])).symm, ?_, ?_⟩
    · intro input response same _
      cases same
      rfl
    · intro name type response _ same _
      cases congrArg (fun event => event.call.input.isSome) same
  have read : counts 1 ⟨allocated.mallctl linuxTarget spelledKey, ⟨0, 8, (1 : Nat)⟩⟩ 1 := by
    refine ⟨fun _ => rfl, (if_neg (by simp [refreshes, ControlCall.mallctl, allocated, ControlCall.input])).symm, ?_, ?_⟩
    · intro input response same _
      cases congrArg (fun event => event.call.output) same
    · intro name type response _ same _
      exact counted_one _ _ .size type response name same
  have observed : counts 1 ⟨Stats.epoch.mallctl linuxTarget spelledKey, ⟨0, 8, (1 : Nat)⟩⟩ 1 := by
    refine ⟨fun _ => rfl, (if_neg (by simp [refreshes, ControlCall.mallctl, Stats.epoch, ControlCall.input])).symm, ?_, ?_⟩
    · intro input response same _
      cases same
      rfl
    · intro name type response _ same _
      exact counted_one _ _ .uint64 type response name same
  obtain ⟨_, first⟩ := call_served linuxTarget spelledKey _ _ counts_sizes refreshEpoch "epoch" rfl nofun epoch _ 0 1 _ 0
    ⟨0, 8, (1 : Nat)⟩ refreshed start
  obtain ⟨_, second⟩ := call_served linuxTarget spelledKey _ _ counts_sizes allocated "stats.allocated" rfl nofun
    (spelled_translatable "stats.allocated" (by decide) (by decide) (by decide) (by decide)) _ 1 1 _ 1 ⟨0, 8, (1 : Nat)⟩ read
    first
  obtain ⟨_, third⟩ := call_served linuxTarget spelledKey _ _ counts_sizes Stats.epoch "epoch" rfl nofun epoch _ 1 1 _ 0
    ⟨0, 8, (1 : Nat)⟩ observed second
  obtain ⟨state, version, snapshot⟩ := epoch_brackets_snapshot linuxTarget spelledKey _ counts id countedSnapshot counts_caches
    counts_sizes _ (reachable_restrict _ _ _ third) (Nat.lt_of_le_of_lt List.countP_le_length (show 3 < 2 ^ 64 by decide)) _ _
    (.tail _ (.tail _ (.head _))) (.head _) 1 (.inr rfl) rfl
  exact ⟨state, version, snapshot _ (.tail _ (.head _)) (Nat.le_refl _) (Nat.le_refl _) "stats.allocated" .size (1 : Nat) (.head _) rfl⟩

end Counting

end Jevmalloc
