import Jevmalloc.Bytes
import Jevmalloc.Ctl.Error
import Jevmalloc.Interaction.Program

set_option autoImplicit false

namespace Jevmalloc

open Interaction Bytes

def keySegs : Nat := 8
def nameMax : Nat := 128

abbrev Key := { segments : List Nat // segments.length ≤ keySegs }

def Key.new : Key := ⟨[], Nat.zero_le _⟩

def Key.tryPush (key : Key) (segment : Nat) : Option Key :=
  if room : key.val.length < keySegs then
    some ⟨key.val ++ [segment], by rw [List.length_append]; exact room⟩
  else none

def components (name : String) : List (List UInt8) := (utf8 name).splitOn 46

-- What mallctlnametomib leaves behind: a status, the reported length, and the
-- slots it wrote, up to the capacity it was given.
structure MibResponse (capacity : Nat) where
  status : Int
  len : Nat
  slots : List Nat
  written : slots.length = min len capacity

-- Calls that leave the crate's own code. A cache is known by its control name,
-- because define_key! gives every name one static cache.
inductive CacheCommand where
  | loadLen (name : String)
  | loadSegment (name : String) (slot : Nat)
  | storeSegment (name : String) (slot segment : Nat)
  | storeLen (name : String) (len : Nat)
  | nametomib (buffer : List UInt8) (capacity : Nat)

def CacheCommand.Response : CacheCommand → Type
  | .loadLen _ => Nat
  | .loadSegment _ _ => Nat
  | .storeSegment _ _ _ => Unit
  | .storeLen _ _ => Unit
  | .nametomib _ capacity => MibResponse capacity

inductive Command (Op : Type) where
  | cache (command : CacheCommand)
  | control (op : Op)
  | panic

def Command.Response {Op : Type} (R : Op → Type) : Command Op → Type
  | .cache command => command.Response
  | .control op => R op
  | .panic => Empty

abbrev Ctl {Op : Type} (R : Op → Type) (α : Type) := Program (Command Op) (Command.Response R) α

section Mibs

variable {Op : Type} (R : Op → Type)

def loadLen (name : String) : Ctl R Nat := .call (.cache (.loadLen name)) .ret
def loadSegment (name : String) (slot : Nat) : Ctl R Nat := .call (.cache (.loadSegment name slot)) .ret

def storeSegment (name : String) (slot segment : Nat) : Ctl R Unit :=
  .call (.cache (.storeSegment name slot segment)) .ret

def storeLen (name : String) (len : Nat) : Ctl R Unit := .call (.cache (.storeLen name len)) .ret

def mallctlnametomib (buffer : List UInt8) (capacity : Nat) : Ctl R (MibResponse capacity) :=
  .call (.cache (.nametomib buffer capacity)) .ret

def panic {α : Type} : Ctl R α := .call .panic nofun

-- What mibs makes of a response; set_len exposes the slots C has written.
def accept {capacity : Nat} (segments : Nat) (response : MibResponse capacity) : Except Error Key := do
  intoResult response.status
  if rejected : response.len ≠ segments ∨ keySegs < response.len then .error .invalidArgument
  else .ok ⟨response.slots.take response.len, by rw [List.length_take]; omega⟩

def mibs (name : String) : Ctl R (Except Error Key) :=
  let bytes := utf8 name
  let segments := (components name).length
  if bytes = [] ∨ nameMax ≤ bytes.length ∨ 0 ∈ bytes ∨ keySegs < segments then return .error .invalidArgument
  else match copyPrefix (List.replicate nameMax 0) bytes with
    | none => panic R
    | some buffer => do
        let response ← mallctlnametomib R buffer keySegs
        return accept segments response

end Mibs

theorem copied_name (text : List UInt8) (short : text.length < nameMax) (clean : 0 ∉ text) :
    ∃ buffer, copyPrefix (List.replicate nameMax 0) text = some buffer ∧ buffer.length = nameMax ∧ cString buffer = text := by
  have room : text.length ≤ (List.replicate nameMax (0 : UInt8)).length := by
    rw [List.length_replicate]
    exact Nat.le_of_lt short
  have rest : nameMax - text.length = nameMax - text.length - 1 + 1 := by omega
  have copied : copyPrefix (List.replicate nameMax 0) text = some _ := if_pos room
  refine ⟨_, copied, (copy_prefix_length _ _ _ copied).trans List.length_replicate, ?_⟩
  rw [List.drop_replicate, rest, List.replicate_succ]
  exact c_string_terminated _ _ clean

theorem mibs_issues {Op : Type} (R : Op → Type) (name : String)
    (valid : ¬(utf8 name = [] ∨ nameMax ≤ (utf8 name).length ∨ 0 ∈ utf8 name ∨ keySegs < (components name).length)) :
    ∃ buffer, buffer.length = nameMax ∧ cString buffer = utf8 name ∧ mibs R name =
      .call (.cache (.nametomib buffer keySegs)) fun response => .ret (accept (components name).length response) := by
  have checks := valid
  simp only [not_or, Nat.not_le] at checks
  obtain ⟨buffer, copied, length, text⟩ := copied_name (utf8 name) checks.2.1 checks.2.2.1
  refine ⟨buffer, length, text, ?_⟩
  rw [mibs, if_neg valid, copied]
  rfl

theorem components_nonempty (name : String) : 0 < (components name).length :=
  List.length_pos_of_ne_nil (List.splitOn_ne_nil 46 (utf8 name))

theorem accept_ok_iff {capacity : Nat} (segments : Nat) (response : MibResponse capacity) (key : Key) :
    accept segments response = .ok key ↔
      response.status = 0 ∧ response.len = segments ∧ segments ≤ keySegs ∧ key.val = response.slots := by
  have whole := response.written
  unfold accept intoResult
  by_cases done : response.status = 0
  · rw [dif_pos done]
    by_cases rejected : response.len ≠ segments ∨ keySegs < response.len
    · simp only [bind, Except.bind, dif_pos rejected, reduceCtorEq, false_iff]
      omega
    · simp only [bind, Except.bind, dif_neg rejected, Except.ok.injEq]
      have fits : response.slots.length ≤ response.len := by omega
      constructor
      · intro same
        subst key
        exact ⟨done, by omega, by omega, List.take_of_length_le fits⟩
      · intro facts
        exact Subtype.ext ((List.take_of_length_le fits).trans facts.2.2.2.symm)
  · rw [dif_neg done]
    simp [done, bind, Except.bind]

end Jevmalloc
