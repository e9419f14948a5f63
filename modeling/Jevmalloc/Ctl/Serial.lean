import Jevmalloc.Ctl.Linear
import Jevmalloc.Ctl.Typed

set_option autoImplicit false

namespace Jevmalloc

open Interaction Bytes

-- What a function asks of jemalloc, and what it makes of the answer. An error
-- stands for a name that could not be resolved as well.
namespace ControlCall

variable (target : CTarget)

def output : ControlCall → Output
  | .boolGetter _ | .boolExchange _ _ => .fresh (cbool target.msvc)
  | .scalarGetter _ type | .scalarExchange _ type _ => .fresh type
  | .lookup _ _ _ output => .fresh output
  | .cstrGetter _ | .percpuMode | .percpuIs _ => .fresh .text
  | .notify _ | .setTcacheNcachedMax _ => .none
  | .arenasLimit => .fresh .unsigned
  | .raw _ output _ => output

def terminated (settings : List UInt8) : List UInt8 :=
  settings ++ [0] ++ (List.replicate tcacheNcachedMaxSettingsLen 0).drop (settings ++ [0]).length

def input : ControlCall → Option Input
  | .boolExchange _ value => some ⟨cbool target.msvc, encodeBool target.msvc value⟩
  | .scalarExchange _ type value => some ⟨type, value⟩
  | .lookup _ input value _ => some ⟨input, value⟩
  | .setTcacheNcachedMax settings => some ⟨.buffer, terminated settings⟩
  | .raw _ _ input => input
  | .boolGetter _ | .scalarGetter _ _ | .cstrGetter _ | .notify _ | .arenasLimit | .percpuMode | .percpuIs _ => none

def name : ControlCall → Option String
  | .boolGetter name | .scalarGetter name _ | .cstrGetter name | .boolExchange name _ | .scalarExchange name _ _
  | .lookup name _ _ _ | .notify name => some name
  | .arenasLimit => some "arenas.narenas"
  | .percpuMode | .percpuIs _ => some "opt.percpu_arena"
  | .setTcacheNcachedMax _ => some "thread.tcache.ncached_max.write"
  | .raw _ _ _ => none

def mib (translation : String → Key) : ControlCall → List Nat
  | .raw key _ _ => key.val
  | call => ((call.name.map translation).getD .new).val

def mallctl (translation : String → Key) (call : ControlCall) : Mallctl :=
  ⟨call.mib translation, call.output target, call.input target⟩

def Fits (call : ControlCall) : Prop :=
  ∀ settings, call = .setTcacheNcachedMax settings → settings.length < tcacheNcachedMaxSettingsLen

def answer : (call : ControlCall) → Except Error (call.output target).Value → call.Result
  | .boolGetter _, outcome | .boolExchange _ _, outcome => outcome >>= fun value => .ok (decodeBool target.msvc value)
  | .cstrGetter _, outcome => outcome >>= Value.nonNullText
  | .arenasLimit, outcome => outcome >>= narrow target
  | .percpuMode, outcome => outcome >>= PercpuMode.parse
  | .percpuIs modes, outcome => isOkAnd (outcome >>= PercpuMode.parse) fun mode => decide (mode ∈ modes)
  | .scalarGetter _ _, outcome | .scalarExchange _ _ _, outcome | .lookup _ _ _ _, outcome | .notify _, outcome
  | .setTcacheNcachedMax _, outcome | .raw _ _ _, outcome => outcome

end ControlCall

section Shapes

variable (target : CTarget)

theorem checked_run {α β : Type} (program : Jem α) (check : α → Except Error β) :
    (program >>= fun value => checked (check value)).run = program.run >>= fun outcome => .ret (outcome >>= check) := by
  refine congrArg (program.run >>= ·) (funext fun outcome => ?_)
  cases outcome with
  | ok value => rfl
  | error error => rfl

def asked (name : String) (output : Output) (input : Option Input) : Jem output.Value := do
  let key ← defineKey name
  Raw.mallctlbymib target key output input

theorem asked_checked {β : Type} (name : String) (output : Output) (input : Option Input)
    (check : output.Value → Except Error β) :
    (defineKey name >>= fun key => Raw.mallctlbymib target key output input >>= fun value =>
      checked (check value)).run = (asked target name output input).run >>= fun outcome => .ret (outcome >>= check) := by
  rw [← checked_run, asked, bind_assoc]

theorem asked_plain (name : String) (output : Output) (input : Option Input) :
    (defineKey name >>= fun key => Raw.mallctlbymib target key output input).run =
      (asked target name output input).run >>= fun outcome => .ret outcome :=
  (Program.bind_ret _).symm

theorem code_asks (call : ControlCall) (name : String) (named : call.name = some name)
    (checked : call.Fits) :
    call.code target = (asked target name (call.output target) (call.input target)).run >>= fun outcome =>
      .ret (call.answer target outcome) := by
  cases call <;> cases named
  case boolGetter => exact asked_checked target _ (.fresh (cbool target.msvc)) _ fun value => .ok (decodeBool target.msvc value)
  case boolExchange => exact asked_checked target _ (.fresh (cbool target.msvc)) _ fun value => .ok (decodeBool target.msvc value)
  case cstrGetter => exact asked_checked target _ (.fresh .text) _ Value.nonNullText
  case arenasLimit => exact asked_checked target _ (.fresh .unsigned) _ (narrow target)
  case percpuMode => exact asked_checked target _ (.fresh .text) _ PercpuMode.parse
  case percpuIs modes =>
    have mode := asked_checked target "opt.percpu_arena" (.fresh .text) none PercpuMode.parse
    refine (congrArg (· >>= fun mode => .ret (isOkAnd mode fun mode => decide (mode ∈ modes))) mode).trans ?_
    exact Program.bind_bind _ _ _
  case setTcacheNcachedMax settings =>
    have short := checked settings rfl
    have fits : (settings ++ [0]).length ≤ tcacheNcachedMaxSettingsLen := by
      rw [List.length_append, List.length_singleton]
      exact short
    have room : (settings ++ [0]).length ≤ (List.replicate tcacheNcachedMaxSettingsLen (0 : UInt8)).length := by
      rw [List.length_replicate]
      exact fits
    have copied : copyPrefix (List.replicate tcacheNcachedMaxSettingsLen 0) (settings ++ [0]) =
        some (ControlCall.terminated settings) := if_pos room
    refine Eq.trans ?_ (asked_plain target _ .none (some ⟨.buffer, ControlCall.terminated settings⟩))
    simp only [ControlCall.code, ThisThread.setTcacheNcachedMax, if_neg (Nat.not_lt.mpr fits), copied]
    rfl
  all_goals exact asked_plain target _ _ _

theorem settings_refused (settings : List UInt8) (long : tcacheNcachedMaxSettingsLen ≤ settings.length) :
    (ControlCall.setTcacheNcachedMax settings).code target = .ret (.error .invalidArgument) := by
  have longer : tcacheNcachedMaxSettingsLen < (settings ++ [0]).length := by
    rw [List.length_append, List.length_singleton]
    exact Nat.lt_succ_of_le long
  rw [ControlCall.code, ThisThread.setTcacheNcachedMax]
  simp only [if_pos longer]
  rfl

end Shapes

section System

variable (target : CTarget) (translation : String → Key)

def controlAsking : Asking ControlCall ControlCall.Result where
  code := ControlCall.code target
  fits := ControlCall.Fits
  mallctl := ControlCall.mallctl target translation
  answer := ControlCall.answer target

theorem named_mib (call : ControlCall) (name : String) (named : call.name = some name) :
    (translation name).val = call.mib translation := by
  cases call <;> cases named <;> rfl

theorem raw_obeys (call : ControlCall) (key : Key) (own : Local (Slip MallctlEvent)) (same : key.val = call.mib translation)
    (unacted : own.ghost.acted = none) (fits : call.Fits) :
    Obeys (hosted translation target ((controlAsking target translation).rule call))
      (fun next outcome => ∃ index, ∃ response : MallctlResponse (call.mallctl target translation),
        next.ghost.acted = some (index, ⟨_, response⟩) ∧ outcome = response.outcome)
      (Raw.mallctlbymib target key (call.output target) (call.input target)).run own := by
  have access : (⟨key.val, call.output target, call.input target⟩ : Mallctl) = call.mallctl target translation := by
    rw [same]
    rfl
  have made : Obeys (hosted translation target _) _ _ own := mallctl_obeys translation
    ((controlAsking target translation).rule call) key (call.output target) (call.input target) own ⟨unacted, access, fits⟩
  rw [same] at made
  refine obeys_weaken _ _ _ _ _ made ?_
  rintro next outcome ⟨response, _, ⟨index, acted⟩, rfl⟩
  exact ⟨index, response, acted, rfl⟩

theorem asked_obeys (call : ControlCall) (name : String) (own : Local (Slip MallctlEvent)) (named : call.name = some name)
    (unacted : own.ghost.acted = none) (fits : call.Fits) :
    Obeys (hosted translation target ((controlAsking target translation).rule call))
      (fun next outcome => (controlAsking target translation).Returns call next (call.answer target outcome))
      (asked target name (call.output target) (call.input target)).run own := by
  apply obeys_attempt _ _ _ _ _ own (key_obeys translation _ name own)
  · intro later error failed
    exact .inl ⟨⟨error, rfl, fun excess => absurd fits excess⟩, by rw [failed.1]; exact unacted⟩
  · intro later key found
    obtain ⟨kept, _, rfl, _⟩ := found
    refine obeys_weaken _ _ _ _ _ (raw_obeys target translation call (translation name) later
      (named_mib translation call name named) (by rw [kept]; exact unacted) fits) ?_
    rintro next outcome ⟨index, response, acted, rfl⟩
    exact .inr ⟨index, _, acted, fits, response, rfl, rfl⟩

theorem control_code_obeys (call : ControlCall) (own : Local (Slip MallctlEvent)) (unacted : own.ghost.acted = none) :
    Obeys (hosted translation target ((controlAsking target translation).rule call))
      ((controlAsking target translation).Returns call) (call.code target) own := by
  cases named : call.name with
  | none =>
      cases call <;> cases named
      case none.raw.refl key output input =>
        refine obeys_weaken _ _ _ _ _ (raw_obeys target translation (.raw key output input) key own rfl unacted nofun) ?_
        rintro next outcome ⟨index, response, acted, rfl⟩
        exact .inr ⟨index, _, acted, nofun, response, rfl, rfl⟩
  | some name =>
      by_cases fits : call.Fits
      · rw [code_asks target call name named fits]
        exact obeys_bind _ _ _ _ _ _ (asked_obeys target translation call name own named unacted fits) fun _ _ held => held
      · -- Settings that are too long are refused before anything is called.
        have excess := fits
        simp only [ControlCall.Fits, not_forall, Nat.not_lt] at excess
        obtain ⟨settings, rfl, long⟩ := excess
        rw [settings_refused target settings long]
        exact .inl ⟨⟨.invalidArgument, rfl, fun _ => rfl⟩, unacted⟩

variable {J : Type} (initial : J → Prop) (jemalloc : J → MallctlEvent → J → Prop)

def controlSystem := process translation ((controlAsking target translation).surroundings initial jemalloc)

theorem control_discipline (sizes : Sizes target jemalloc) :
    Discipline (controlSystem target translation initial jemalloc)
      (fun call => hosted translation target ((controlAsking target translation).rule call))
      (controlAsking target translation).Returns (ProcessInv translation ((controlAsking target translation).Inv initial jemalloc)) :=
  (controlAsking target translation).asking_discipline initial jemalloc sizes translation
    fun call own unacted => control_code_obeys target translation call own unacted

end System

end Jevmalloc
