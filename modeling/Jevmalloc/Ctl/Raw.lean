import Jevmalloc.Ctl.Cache
import Jevmalloc.Machine

set_option autoImplicit false

namespace Jevmalloc

open Interaction Bytes

-- What decides how wide the C types are: the pointer width, and whether the
-- compiler is cl.exe, whose bool is an int here.
structure CTarget where
  width : Width
  msvc : Bool
deriving DecidableEq, Repr

def linuxTarget : CTarget := ⟨.w64, false⟩

-- The C types that cross mallctlbymib. A text is null or the string its pointer
-- names, hooks are the address of a table, and a buffer is what the pointer in
-- the slot points at.
inductive CType where
  | bool
  | int
  | unsigned
  | size
  | ssize
  | uint64
  | int64
  | text
  | hooks
  | pointer
  | buffer
deriving DecidableEq, Repr

def CType.Value : CType → Type
  | .bool => Bool
  | .int => CInt
  | .unsigned => Nat
  | .size => Nat
  | .ssize => Int
  | .uint64 => Nat
  | .int64 => Int
  | .text => Option (List UInt8)
  | .hooks => Nat
  | .pointer => Nat
  | .buffer => List UInt8

def CType.bytes (target : CTarget) : CType → Nat
  | .bool => 1
  | .int | .unsigned => 4
  | .uint64 | .int64 => 8
  | .size | .ssize | .text | .hooks | .pointer | .buffer => target.width.bits / 8

structure Input where
  type : CType
  value : type.Value

inductive Output where
  | none
  | fresh (type : CType)
  | inPlace (type : CType) (initial : type.Value)

def Output.Value : Output → Type
  | .none => Unit
  | .fresh type => type.Value
  | .inPlace type _ => type.Value

def Output.measures (target : CTarget) : Output → Nat → Bool
  | .none, _ => true
  | .fresh type, len => len == type.bytes target
  | .inPlace type _, len => len == type.bytes target

structure Mallctl where
  mib : List Nat
  output : Output
  input : Option Input

structure MallctlResponse (call : Mallctl) where
  status : Int
  len : Nat
  value : call.output.Value

abbrev Jem (α : Type) := ExceptT Error (Ctl MallctlResponse) α

def MallctlResponse.outcome {call : Mallctl} (response : MallctlResponse call) : Except Error call.output.Value := do
  intoResult response.status
  return response.value

def Output.asUnsigned : (output : Output) → output.Value → Option Nat
  | .fresh .unsigned, value => Option.some value
  | _, _ => Option.none

def MallctlResponse.reported {call : Mallctl} (response : MallctlResponse call) : Option Nat :=
  match response.outcome with
  | .ok value => call.output.asUnsigned value
  | .error _ => none

-- jemalloc fails a read into a slot of the wrong size, so a success reports the
-- size that was asked for.
def MallctlResponse.Sized (target : CTarget) {call : Mallctl} (response : MallctlResponse call) : Prop :=
  response.status = 0 → call.output.measures target response.len = true

section Raw

variable (target : CTarget)

def MallctlResponse.settle {call : Mallctl} (response : MallctlResponse call) :
    Ctl MallctlResponse (Except Error call.output.Value) :=
  match response.outcome with
  | .error error => return .error error
  | .ok value => if call.output.measures target response.len then return .ok value else panic _

namespace Raw

-- The shared body of the six functions below, which differ in the pointers
-- they pass.
def mallctlbymib (key : Key) (output : Output) (input : Option Input) : Jem output.Value :=
  ExceptT.mk (.call (.control ⟨key.val, output, input⟩) (MallctlResponse.settle target))

def get (key : Key) (type : CType) : Jem type.Value := mallctlbymib target key (.fresh type) none

def getInPlace (key : Key) (type : CType) (value : type.Value) : Jem type.Value :=
  mallctlbymib target key (.inPlace type value) none

def set (key : Key) (type : CType) (value : type.Value) : Jem Unit := mallctlbymib target key .none (some ⟨type, value⟩)

def update (key : Key) (input : CType) (value : input.Value) (output : CType) : Jem output.Value :=
  mallctlbymib target key (.fresh output) (some ⟨input, value⟩)

def xchg (key : Key) (type : CType) (value : type.Value) : Jem type.Value := update target key type value type

def notify (key : Key) : Jem Unit := mallctlbymib target key .none none

end Raw

end Raw

def usizeFrom (value : Nat) : Except Error Nat :=
  if value < 2 ^ 64 then .ok value else .error .invalidArgument

def checked {α : Type} (result : Except Error α) : Jem α := ExceptT.mk (.ret result)

-- The assignment key[1] = component, which panics on a shorter key.
def substitute (key : Key) (component : Nat) : Jem Key :=
  if 1 < key.val.length then return ⟨key.val.set 1 component, by rw [List.length_set]; exact key.property⟩
  else ExceptT.mk (panic _)

theorem usize_from_iff (index value : Nat) : usizeFrom index = .ok value ↔ index < 2 ^ 64 ∧ value = index := by
  by_cases fits : index < 2 ^ 64
  · rw [usizeFrom, if_pos fits]
    simp only [Except.ok.injEq, fits, true_and]
    exact eq_comm
  · rw [usizeFrom, if_neg fits]
    simp only [reduceCtorEq, fits, false_and]

theorem usize_from_below (limit index : Nat) (narrow : limit ≤ 2 ^ 64) (below : index < limit) : usizeFrom index = .ok index :=
  (usize_from_iff index index).mpr ⟨Nat.lt_of_lt_of_le below narrow, rfl⟩

theorem outcome_ok {call : Mallctl} (response : MallctlResponse call) (value : call.output.Value) :
    response.outcome = .ok value ↔ response.status = 0 ∧ response.value = value := by
  rw [MallctlResponse.outcome, intoResult]
  by_cases done : response.status = 0
  · rw [dif_pos done]
    simp only [bind, Except.bind, pure, Except.pure, Except.ok.injEq, done, true_and]
  · rw [dif_neg done]
    simp only [bind, Except.bind, reduceCtorEq, done, false_and]

theorem outcome_refused {call : Mallctl} (response : MallctlResponse call) (failed : response.status ≠ 0) :
    ∃ error, response.outcome = .error error := by
  cases reached : response.outcome with
  | ok value => exact absurd ((outcome_ok response value).mp reached).1 failed
  | error error => exact ⟨error, rfl⟩

theorem settle_sized (target : CTarget) {call : Mallctl} (response : MallctlResponse call) (sized : response.Sized target) :
    response.settle target = .ret response.outcome := by
  rw [MallctlResponse.settle]
  cases reached : response.outcome with
  | error error => rfl
  | ok value =>
      simp only [sized ((outcome_ok response value).mp reached).1, if_true]
      rfl

def MallctlResponse.answer {mib : List Nat} {input : Option Input} (response : MallctlResponse ⟨mib, .fresh .unsigned, input⟩) :
    Except Error Nat := response.outcome

theorem answer_reported {mib : List Nat} {input : Option Input} (response : MallctlResponse ⟨mib, .fresh .unsigned, input⟩)
    (index : Nat) : response.answer = .ok index ↔ response.reported = some index := by
  rw [MallctlResponse.reported, MallctlResponse.answer]
  cases response.outcome with
  | ok value =>
      constructor
      · intro same
        cases same
        rfl
      · intro same
        cases same
        rfl
  | error error =>
      constructor
      · intro same
        cases same
      · intro same
        cases same

end Jevmalloc
