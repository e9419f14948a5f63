import Jevmalloc.Ctl.Serial

set_option autoImplicit false

namespace Jevmalloc

open Interaction Bytes

theorem control_calls_linearize {J : Type} (target : CTarget) (translation : String → Key) (initial : J → Prop)
    (jemalloc : J → MallctlEvent → J → Prop) (sizes : Sizes target jemalloc) (config : SerialConfig J ControlCall.Result)
    (reached : Reachable (controlSystem target translation initial jemalloc) config) :
    (∃ start, initial start ∧ Chain jemalloc start (config.world.state.ledger.log.map Prod.snd) config.world.state.state) ∧
    (config.world.state.ledger.receipts.map Receipt.ticket).Nodup ∧
    (∀ receipt ∈ config.world.state.ledger.receipts,
      ((∃ error, receipt.outcome.value = receipt.outcome.api.answer target (.error error)) ∧
        Unlogged config.world.state.ledger.log receipt.ticket) ∨
      ∃ index, ∃ response : MallctlResponse (receipt.outcome.api.mallctl target translation),
        receipt.entered ≤ index ∧ index < receipt.finished ∧
        LoggedAt config.world.state.ledger.log receipt.ticket index ⟨_, response⟩ ∧
        receipt.outcome.value = receipt.outcome.api.answer target response.outcome) ∧
    (∀ thread call own resume, config.callers thread ≠ some ⟨call, own, .call .panic resume⟩) := by
  have discipline := control_discipline target translation initial jemalloc sizes
  obtain ⟨_, books, chain⟩ := discipline_invariant discipline config reached
  refine ⟨chain, books.once, ?_, ?_⟩
  · intro receipt member
    rcases (controlAsking target translation).accounted_once _ receipt (books.accounted receipt member).1 with
      ⟨⟨error, value, _⟩, unlogged⟩ | ⟨_, settled⟩
    · exact .inl ⟨⟨error, value⟩, unlogged⟩
    · exact .inr settled
  · intro thread call own resume busy
    exact discipline_pending discipline config reached thread call own _ resume busy

section Served

variable (target : CTarget) (translation : String → Key)

def asks (call : ControlCall) : Except Error Key → Ctl MallctlResponse call.Result
  | .error error => .ret (call.answer target (.error error))
  | .ok key => .call (.control ⟨key.val, call.output target, call.input target⟩) fun response =>
      response.settle target >>= fun outcome => .ret (call.answer target outcome)

theorem asks_key (call : ControlCall) (key : Key) (located : key.val = call.mib translation) :
    asks target call (.ok key) = .call (.control (call.mallctl target translation)) fun response =>
      response.settle target >>= fun outcome => .ret (call.answer target outcome) := by
  rw [asks, located]
  rfl

theorem code_gets (call : ControlCall) (name : String) (named : call.name = some name) (fits : call.Fits) :
    call.code target = Cache.get MallctlResponse name >>= asks target call := by
  refine ((code_asks target call name named fits).trans (Program.bind_bind _ _ _)).trans ?_
  refine congrArg (Cache.get MallctlResponse name >>= ·) (funext fun key => ?_)
  cases key with
  | error error => rfl
  | ok key => rfl

variable {J : Type} (initial : J → Prop) (jemalloc : J → MallctlEvent → J → Prop)

def knowingSystem := (controlAsking target translation).knowing initial jemalloc translation

theorem call_served (sizes : Sizes target jemalloc) (call : ControlCall) (name : String) (named : call.name = some name)
    (fits : call.Fits) (translatable : Translatable translation name) (memory : CacheMemory) (state next : J)
    (ledger : Ledger MallctlEvent (Outcome ControlCall.Result)) (thread : Nat)
    (response : MallctlResponse (call.mallctl target translation)) (stepped : jemalloc state ⟨_, response⟩ next)
    (reached : Reachable (knowingSystem target translation initial jemalloc) ⟨⟨memory, ⟨state, ledger⟩⟩, fun _ => none⟩) :
    ∃ later, Reachable (knowingSystem target translation initial jemalloc)
      ⟨⟨later, ⟨next, (ledger.issue.act ledger.slip ⟨_, response⟩).finish (ledger.issue.stamp ledger.slip ⟨_, response⟩)
        ⟨call, call.answer target response.outcome⟩⟩⟩, fun _ => none⟩ :=
  (controlAsking target translation).asking_served initial jemalloc target translation sizes call name translatable
    (asks target call) (code_gets target call name named fits)
    (asks_key target translation call _ (named_mib translation call name named)) memory state next ledger _ thread rfl response
    stepped reached

end Served

def sizedAnswers (target : CTarget) (_ : Unit) (event : MallctlEvent) (_ : Unit) : Prop := event.response.Sized target

theorem sized_answers (target : CTarget) : Sizes target (sizedAnswers target) := fun _ _ _ sized => sized

theorem control_calls_linearize_two :
    ∃ ledger : Ledger MallctlEvent (Outcome ControlCall.Result), ledger.receipts.length = 2 ∧ ledger.log.length = 2 ∧
      (ledger.receipts.map Receipt.ticket).Nodup := by
  let read : ControlCall := .scalarGetter "epoch" .uint64
  let turn : ControlCall := .boolExchange "background_thread" true
  have start : Reachable (knowingSystem linuxTarget spelledKey (fun _ => True) (sizedAnswers linuxTarget))
      ⟨⟨Weak.empty, ⟨(), Ledger.empty⟩⟩, fun _ => none⟩ := .start _ ⟨rfl, trivial, rfl⟩
  obtain ⟨_, first⟩ := call_served linuxTarget spelledKey _ _ (sized_answers linuxTarget) read "epoch" rfl nofun
    (spelled_translatable "epoch" (by decide) (by decide) (by decide) (by decide)) _ _ () _ 0 ⟨0, 8, (5 : Nat)⟩ (fun _ => rfl)
    start
  obtain ⟨_, second⟩ := call_served linuxTarget spelledKey _ _ (sized_answers linuxTarget) turn "background_thread" rfl nofun
    (spelled_translatable "background_thread" (by decide) (by decide) (by decide) (by decide)) _ _ () _ 1 ⟨0, 1, false⟩
    (fun _ => rfl) first
  exact ⟨_, rfl, rfl, (control_calls_linearize linuxTarget spelledKey _ _ (sized_answers linuxTarget) _
    (reachable_restrict _ _ _ second)).2.1⟩

end Jevmalloc
