import Jevmalloc.Ctl.Catalogue
import Jevmalloc.Ctl.Served

set_option autoImplicit false

namespace Jevmalloc

open Interaction Bytes

section Lookup

variable (translation : String → Key) {Op : Type} {R : Op → Type} {L : Type} {protocol : Protocol (Command Op) (Command.Response R) L}
  {call : L → CacheCall} {ready : L → Prop} {keeps : L → L → Prop} (hosts : Hosts translation protocol call ready keeps)
  (free : ∀ own command, protocol.pre own command) (name : String) (valid : ValidName name)
  (known : ∀ own buffer response next, protocol.post own (.cache (.nametomib buffer keySegs)) response next →
    cString buffer = utf8 name → accept (components name).length response = .ok (translation name))

include known valid free in
theorem mibs_known (own : L) : Obeys protocol (fun _ value => value = .ok (translation name)) (mibs R name) own := by
  obtain ⟨buffer, _, text, issued⟩ := mibs_issues R name ((valid_name_checks name).mp valid)
  rw [issued]
  exact ⟨free own _, fun response next relied => known own buffer response next relied text⟩

include hosts known valid free in
theorem get_known (own : L) :
    Obeys protocol (fun _ value => value = .ok (translation name)) (Cache.get R name) own := by
  rw [Cache.get]
  refine obeys_perform_bind _ _ _ _ _ (free own _) ?_
  intro len first relied
  obtain ⟨⟨_, _, _, _, unpublished | announced⟩, _⟩ := hosts.post own _ len first relied
  · obtain ⟨rfl, _⟩ := unpublished
    rw [if_neg (Nat.lt_irrefl 0)]
    refine obeys_bind _ _ _ _ _ _ (mibs_known translation free name valid known first) ?_
    rintro second _ rfl
    refine obeys_bind _ _ _ _ _ _ (obeys_free protocol free _ second) ?_
    intro third _ _
    exact obeys_perform_bind _ _ _ _ _ (free third _) fun _ _ _ => rfl
  · obtain ⟨exact, positive, _, seen⟩ := announced
    rw [if_pos positive]
    exact obeys_weaken _ _ _ _ _ (load_obeys translation hosts name len first exact seen) fun _ _ loaded => loaded.1

end Lookup

def ControlCall.Known (call : ControlCall) : Prop := call.Fits ∧ ∃ name ∈ keyNames, call.name = some name

section System

variable {J : Type} (target : CTarget) (translation : String → Key) (initial : J → Prop)
  (jemalloc : J → MallctlEvent → J → Prop)

def knowingProtocol (call : ControlCall) : Protocol (Command Mallctl) (Command.Response MallctlResponse) (Local (Slip MallctlEvent)) :=
  (hosted translation target ((controlAsking target translation).rule call)).restrict (answers translation)

theorem knowing_hosts (call : ControlCall) :
    Hosts translation (knowingProtocol target translation call).free Local.cache (fun _ => True)
      fun before after => after.ghost = before.ghost where
  refl _ := rfl
  trans _ _ _ first second := second.trans first
  pre _ _ _ _ := trivial
  post _ _ _ _ relied := relied.1

variable (sizes : Sizes target jemalloc)
  (knows : ∀ name ∈ keyNames, (translation name).val.length = (components name).length)

include knows

theorem key_translatable (name : String) (member : name ∈ keyNames) : Translatable translation name := by
  obtain ⟨nonempty, short, clean, shallow⟩ := key_names_valid name member
  exact ⟨nonempty, Nat.lt_of_le_of_lt short (by decide), clean, shallow, knows name member⟩

theorem key_found (call : ControlCall) (name : String) (member : name ∈ keyNames) (own : Local (Slip MallctlEvent)) :
    Obeys (knowingProtocol target translation call) (fun next value => next.ghost = own.ghost ∧ value = .ok (translation name))
      (Cache.get MallctlResponse name) own := by
  have found : Obeys (hosted translation target _) _ (Cache.get MallctlResponse name) own :=
    key_obeys translation ((controlAsking target translation).rule call) name own
  have looked := obeys_restrict _ (answers translation) _ _ own found
  refine obeys_weaken _ _ _ _ _ (obeys_freed _ _ _ _ own looked ?_) fun _ _ both => ⟨both.1.1, both.2⟩
  apply get_known translation (knowing_hosts target translation call) (fun _ _ => trivial) name (key_names_valid name member)
  intro own buffer response next relied text
  exact relied.2 name (key_translatable translation knows name member) text

theorem known_obeys (call : ControlCall) (known : call.Known) (own : Local (Slip MallctlEvent)) (unacted : own.ghost.acted = none) :
    Obeys (knowingProtocol target translation call) (fun next _ => ∃ acted, next.ghost.acted = some acted)
      (call.code target) own := by
  obtain ⟨fits, name, member, named⟩ := known
  rw [code_asks target call name named fits]
  refine obeys_bind _ (fun (next : Local (Slip MallctlEvent)) _ => ∃ acted, next.ghost.acted = some acted) _ _ _ _ ?_
    fun next _ held => held
  apply obeys_attempt _ _ _ _ _ own (key_found target translation knows call name member own)
  · intro later error failed
    cases failed.2
  · intro later key found
    obtain ⟨same, fetched⟩ := found
    cases fetched
    have accessed := raw_obeys target translation call (translation name) later (named_mib translation call name named)
      (by rw [same]; exact unacted) fits
    refine obeys_weaken _ _ _ _ _ (obeys_restrict _ _ _ _ _ accessed) ?_
    intro next outcome held
    obtain ⟨index, response, acted, _⟩ := held
    exact ⟨_, acted⟩

def knownReturns (call : ControlCall) (own : Local (Slip MallctlEvent)) (value : call.Result) : Prop :=
  (controlAsking target translation).Returns call own value ∧ (call.Known → ∃ acted, own.ghost.acted = some acted)

structure KnownInv (world : World (Serial J ControlCall.Result)) (all : Nat → Option (Local (Slip MallctlEvent))) : Prop where
  control : ProcessInv translation ((controlAsking target translation).Inv initial jemalloc) world all
  logged : ∀ receipt ∈ world.state.ledger.receipts, receipt.outcome.api.Known →
    ∃ (index : Nat) (event : MallctlEvent), world.state.ledger.log[index]? = some (receipt.ticket, event)

theorem known_code_obeys (call : ControlCall) (own : Local (Slip MallctlEvent)) (unacted : own.ghost.acted = none) :
    Obeys (knowingProtocol target translation call) (knownReturns target translation call) (call.code target) own := by
  have obeys := obeys_restrict _ (answers translation) _ _ own (control_code_obeys target translation call own unacted)
  by_cases known : call.Known
  · have acts := known_obeys target translation knows call known own unacted
    have both := obeys_both (knowingProtocol target translation call) (knowingProtocol target translation call)
      (knowingProtocol target translation call) id id _ _ (fun _ _ allowed _ => allowed) (fun _ _ _ _ relied => ⟨relied, relied⟩)
      _ own obeys acts
    exact obeys_weaken _ _ _ _ own both fun _ _ held => ⟨held.1, fun _ => held.2⟩
  · exact obeys_weaken _ _ _ _ own obeys fun _ _ held => ⟨held, fun named => absurd named known⟩

include sizes

theorem knowing_discipline :
    Discipline (knowingSystem target translation initial jemalloc) (knowingProtocol target translation)
      (knownReturns target translation) (KnownInv target translation initial jemalloc) where
  start := by
    intro world started
    refine ⟨(control_discipline target translation initial jemalloc sizes).start world started, ?_⟩
    rw [started.2.2]
    intro receipt member
    cases member
  enter := by
    intro world all thread call own after inv idle entered
    have kept := (control_discipline target translation initial jemalloc sizes).enter _ _ thread call own after inv.control idle
      entered
    obtain ⟨view, slip, rfl, _, rfl, issued⟩ := entered
    refine ⟨⟨kept.1, ?_⟩, known_code_obeys target translation knows call _ rfl⟩
    rw [issued]
    exact inv.logged
  exec := by
    intro world all thread call own command response next after inv busy allowed executed
    obtain ⟨executed, admitted⟩ := executed
    have kept := (control_discipline target translation initial jemalloc sizes).exec _ _ thread call own command response next
      after inv.control busy allowed executed
    refine ⟨⟨kept.1, admitted⟩, kept.2, ?_⟩
    cases command with
    | cache command =>
        obtain ⟨_, _, state⟩ := executed
        rw [state]
        exact inv.logged
    | control mallctl =>
        obtain ⟨_, _, _, _, ledger⟩ := executed
        rw [ledger]
        intro receipt member known
        obtain ⟨index, event, logged⟩ := inv.logged receipt member known
        exact ⟨index, event, (snoc_entry _ _ index _ event).mpr (.inl logged)⟩
    | panic => exact executed.elim
  leave := by
    intro world all thread call own value after inv busy returned left
    have kept := (control_discipline target translation initial jemalloc sizes).leave _ _ thread call own value after inv.control
      busy returned.1 left
    refine ⟨kept, ?_⟩
    have same : after.state = { world.state with ledger := world.state.ledger.finish own.ghost ⟨call, value⟩ } := left.2
    rw [same]
    intro receipt member known
    rcases List.mem_cons.mp member with rfl | earlier
    · obtain ⟨⟨index, event⟩, acted⟩ := returned.2 known
      have mine : ghosts all thread = some own.ghost := by rw [ghosts, busy]; rfl
      exact ⟨index, event, ((inv.control.2.books.filed thread own.ghost mine).1.logged index event acted).2.1⟩
    · exact inv.logged receipt earlier known

theorem known_answered (config : SerialConfig J ControlCall.Result)
    (reached : Reachable (knowingSystem target translation initial jemalloc) config) (receipt : Receipt (Outcome ControlCall.Result))
    (member : receipt ∈ config.world.state.ledger.receipts) (known : receipt.outcome.api.Known) :
    ∃ index, ∃ response : MallctlResponse (receipt.outcome.api.mallctl target translation),
      receipt.entered ≤ index ∧ index < receipt.finished ∧
      LoggedAt config.world.state.ledger.log receipt.ticket index ⟨_, response⟩ ∧
      receipt.outcome.value = receipt.outcome.api.answer target response.outcome := by
  have inv := discipline_invariant (knowing_discipline target translation initial jemalloc sizes knows) config reached
  obtain ⟨place, event, present⟩ := inv.logged receipt member known
  rcases (controlAsking target translation).accounted_once _ receipt (inv.control.2.books.accounted receipt member).1 with
    ⟨_, unlogged⟩ | ⟨_, settled⟩
  · exact absurd present (unlogged place event)
  · exact settled

end System

theorem catalogue_known (enable : Bool) (amount : Nat) (decayMs : Int) (call : ControlCall)
    (member : call ∈ catalogue enable amount decayMs) : call.Known := by
  refine ⟨?_, catalogue_named enable amount decayMs call member⟩
  intro settings same
  subst call
  have absent : some "thread.tcache.ncached_max.write" ∉ (catalogue true 0 0).map ControlCall.name := by decide +kernel
  exact absurd (List.mem_map_of_mem member) absent

theorem control_calls_answered {J : Type} (target : CTarget) (translation : String → Key) (initial : J → Prop)
    (jemalloc : J → MallctlEvent → J → Prop) (sizes : Sizes target jemalloc)
    (knows : ∀ name ∈ keyNames, (translation name).val.length = (components name).length)
    (config : SerialConfig J ControlCall.Result) (reached : Reachable (knowingSystem target translation initial jemalloc) config) :
    ∀ receipt ∈ config.world.state.ledger.receipts,
      ∀ enable amount decayMs, receipt.outcome.api ∈ catalogue enable amount decayMs →
      ∃ index, ∃ response : MallctlResponse (receipt.outcome.api.mallctl target translation),
        receipt.entered ≤ index ∧ index < receipt.finished ∧
        LoggedAt config.world.state.ledger.log receipt.ticket index ⟨_, response⟩ ∧
        receipt.outcome.value = receipt.outcome.api.answer target response.outcome := by
  intro receipt member enable amount decayMs listed
  exact known_answered target translation initial jemalloc sizes knows config reached receipt member
    (catalogue_known enable amount decayMs _ listed)

theorem spelled_knows (name : String) (member : name ∈ keyNames) :
    (spelledKey name).val.length = (components name).length := by
  rw [spelled_componentwise.each name (key_names_valid name member).2.2.2, mib_from_length]

theorem control_calls_answered_two :
    ∃ config, Reachable (knowingSystem linuxTarget spelledKey (fun _ => True) (sizedAnswers linuxTarget)) config ∧
      config.world.state.ledger.receipts.length = 2 ∧ ∀ receipt ∈ config.world.state.ledger.receipts,
        ∃ index event, LoggedAt config.world.state.ledger.log receipt.ticket index event := by
  have start : Reachable (knowingSystem linuxTarget spelledKey (fun _ => True) (sizedAnswers linuxTarget))
      ⟨⟨Weak.empty, ⟨(), Ledger.empty⟩⟩, fun _ => none⟩ := .start _ ⟨rfl, trivial, rfl⟩
  have translatable := key_translatable spelledKey spelled_knows
  have retain : Opt.retain ∈ catalogue true 0 0 := by simp [catalogue]
  have enable : Profiling.profEnable true ∈ catalogue true 0 0 := by simp [catalogue]
  obtain ⟨_, first⟩ := call_served linuxTarget spelledKey _ _ (sized_answers linuxTarget) Opt.retain "opt.retain" rfl nofun
    (translatable _ (by decide)) _ _ () _ 0 ⟨0, 1, true⟩ (fun _ => rfl) start
  obtain ⟨_, second⟩ := call_served linuxTarget spelledKey _ _ (sized_answers linuxTarget) (Profiling.profEnable true)
    "prof.active" rfl nofun (translatable _ (by decide)) _ _ () _ 1 ⟨0, 1, false⟩ (fun _ => rfl) first
  refine ⟨_, second, rfl, ?_⟩
  intro receipt member
  have listed : receipt.outcome.api ∈ catalogue true 0 0 := by
    rcases List.mem_cons.mp member with rfl | earlier
    · exact enable
    · obtain rfl := List.mem_singleton.mp earlier
      exact retain
  obtain ⟨index, response, _, _, logged, _⟩ := control_calls_answered linuxTarget spelledKey _ _ (sized_answers linuxTarget)
    spelled_knows _ second receipt member true 0 0 listed
  exact ⟨index, _, logged⟩

end Jevmalloc
