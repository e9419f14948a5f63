import Jevmalloc.Ctl.Raw

set_option autoImplicit false

namespace Jevmalloc

open Interaction Bytes

inductive ArenaControl where
  | purge
  | decay
  | reset
  | destroy
  | name
  | dss
  | muzzyDecay
  | dirtyDecay
  | retainGrowLimit
  | extentHooks
deriving DecidableEq, Repr

def ArenaControl.word : ArenaControl → String
  | .purge => "purge"
  | .decay => "decay"
  | .reset => "reset"
  | .destroy => "destroy"
  | .name => "name"
  | .dss => "dss"
  | .muzzyDecay => "muzzy_decay_ms"
  | .dirtyDecay => "dirty_decay_ms"
  | .retainGrowLimit => "retain_grow_limit"
  | .extentHooks => "extent_hooks"

inductive Control where
  | arena (index : Nat) (control : ArenaControl)
  | arenasCreate
  | arenasLookup
  | threadArena
  | tcacheCreate
  | tcacheFlush
  | tcacheDestroy
deriving DecidableEq, Repr

def Control.name : Control → String
  | .arena index control => "arena." ++ toString index ++ "." ++ control.word
  | .arenasCreate => "arenas.create"
  | .arenasLookup => "arenas.lookup"
  | .threadArena => "thread.arena"
  | .tcacheCreate => "tcache.create"
  | .tcacheFlush => "tcache.flush"
  | .tcacheDestroy => "tcache.destroy"

-- define_key! makes one cached lookup for each control name.
def defineKey (name : String) : Jem Key := ExceptT.mk (Cache.get MallctlResponse name)

namespace Keys

def arenaPurge : Jem Key := defineKey "arena.0.purge"
def arenaDecay : Jem Key := defineKey "arena.0.decay"
def arenaReset : Jem Key := defineKey "arena.0.reset"
def arenaDestroy : Jem Key := defineKey "arena.0.destroy"
def arenaName : Jem Key := defineKey "arena.0.name"
def arenaDss : Jem Key := defineKey "arena.0.dss"
def arenaMuzzyDecay : Jem Key := defineKey "arena.0.muzzy_decay_ms"
def arenaDirtyDecay : Jem Key := defineKey "arena.0.dirty_decay_ms"
def arenaRetainGrowLimit : Jem Key := defineKey "arena.0.retain_grow_limit"
def arenaExtentHooks : Jem Key := defineKey "arena.0.extent_hooks"
def arenasCreate : Jem Key := defineKey "arenas.create"
def arenasLookup : Jem Key := defineKey "arenas.lookup"
def threadArena : Jem Key := defineKey "thread.arena"
def tcacheCreate : Jem Key := defineKey "tcache.create"
def tcacheFlush : Jem Key := defineKey "tcache.flush"
def tcacheDestroy : Jem Key := defineKey "tcache.destroy"

end Keys

def integer (component : List UInt8) : Option Nat :=
  let digits := component.map fun byte => Char.ofNat byte.toNat
  if digits ≠ [] ∧ digits.all Char.isDigit then some (Nat.ofDigitChars 10 digits 0) else none

-- Component by component: an integer stays as it is, and what a word becomes
-- may depend on the words before it but on no integer.
def mibFrom (code : List (Option (List UInt8)) → List UInt8 → Nat) :
    List (Option (List UInt8)) → List (List UInt8) → List Nat
  | _, [] => []
  | path, component :: rest =>
      match integer component with
      | some value => value :: mibFrom code (path ++ [none]) rest
      | none => code path component :: mibFrom code (path ++ [some component]) rest

structure Componentwise (translation : String → Key) (code : List (Option (List UInt8)) → List UInt8 → Nat) : Prop where
  each : ∀ name, (components name).length ≤ keySegs → (translation name).val = mibFrom code [] (components name)

structure Interprets (translation : String → Key) (meaning : List Nat → Option Control) : Prop where
  known : ∀ control, meaning (translation control.name).val = some control

theorem digit_encoded (digit : Char) (decimal : digit.isDigit = true) :
    String.utf8EncodeChar digit = [digit.val.toUInt8] ∧ Char.ofNat digit.val.toUInt8.toNat = digit ∧
      digit.val.toUInt8 ≠ 46 := by
  have each : ∀ value : Fin 10, String.utf8EncodeChar (Char.ofNat (48 + value)) = [(Char.ofNat (48 + value)).val.toUInt8] ∧
      Char.ofNat (Char.ofNat (48 + value)).val.toUInt8.toNat = Char.ofNat (48 + value) ∧
      (Char.ofNat (48 + value)).val.toUInt8 ≠ 46 := by decide
  have range : 48 ≤ digit.toNat ∧ digit.toNat ≤ 57 := by
    simpa [Char.isDigit, UInt32.le_iff_toNat_le] using decimal
  have same : Char.ofNat (48 + (digit.toNat - 48)) = digit := by
    rw [Nat.add_sub_cancel' range.1, Char.ofNat_toNat]
  have this := each ⟨digit.toNat - 48, by omega⟩
  rwa [same] at this

theorem decimal_bytes (value : Nat) :
    46 ∉ utf8 (toString value) ∧ integer (utf8 (toString value)) = some value := by
  have digits : ∀ digit ∈ Nat.toDigits 10 value, digit.isDigit = true := fun digit member =>
    Nat.isDigit_of_mem_toDigits (by decide) (by decide) member
  have bytes : utf8 (toString value) = (Nat.toDigits 10 value).map fun digit => digit.val.toUInt8 := by
    rw [utf8_chars, Nat.toString_eq_repr, Nat.toList_repr, List.map_eq_flatMap]
    apply List.flatMap_congr
    intro digit member
    exact (digit_encoded digit (digits digit member)).1
  have back : (utf8 (toString value)).map (fun byte => Char.ofNat byte.toNat) = Nat.toDigits 10 value := by
    rw [bytes, List.map_map]
    conv_rhs => rw [← List.map_id (Nat.toDigits 10 value)]
    apply List.map_congr_left
    intro digit member
    exact (digit_encoded digit (digits digit member)).2.1
  constructor
  · rw [bytes]
    intro dot
    obtain ⟨digit, member, same⟩ := List.mem_map.mp dot
    exact (digit_encoded digit (digits digit member)).2.2 same
  · rw [integer, back, if_pos ⟨Nat.toDigits_ne_nil, List.all_eq_true.mpr digits⟩, Nat.ofDigitChars_ten_toDigits]

theorem arena_components (index : Nat) (control : ArenaControl) :
    components (Control.arena index control).name = [utf8 "arena", utf8 (toString index), utf8 control.word] := by
  have word : 46 ∉ utf8 control.word := by cases control <;> decide
  have head : (46 : UInt8) ∉ utf8 "arena" := by decide
  have joined : utf8 (Control.arena index control).name =
      utf8 "arena" ++ 46 :: (utf8 (toString index) ++ 46 :: utf8 control.word) := by
    have first : utf8 "arena." = utf8 "arena" ++ [46] := by decide
    have dot : utf8 "." = [46] := by decide
    simp only [Control.name, utf8_append, first, dot, List.append_assoc, List.cons_append,
      List.nil_append]
  rw [components, joined, List.splitOn_append_cons_self, List.splitOn_append_cons_self, List.splitOn_eq_singleton head,
    List.splitOn_eq_singleton (decimal_bytes index).1, List.splitOn_eq_singleton word]
  rfl

section Arena

variable (translation : String → Key) (code : List (Option (List UInt8)) → List UInt8 → Nat)
  (componentwise : Componentwise translation code)

include componentwise

theorem arena_mib (index : Nat) (control : ArenaControl) :
    (translation (Control.arena index control).name).val =
      [code [] (utf8 "arena"), index, code [some (utf8 "arena"), none] (utf8 control.word)] := by
  have word : integer (utf8 control.word) = none := by cases control <;> decide
  have head : integer (utf8 "arena") = none := by decide
  rw [componentwise.each _ (by rw [arena_components]; exact Nat.le_of_ble_eq_true rfl), arena_components]
  simp only [mibFrom, head, (decimal_bytes index).2, word, List.nil_append, List.cons_append]

theorem arena_template (index : Nat) (control : ArenaControl) :
    (translation (Control.arena 0 control).name).val.set 1 index = (translation (Control.arena index control).name).val := by
  rw [arena_mib translation code componentwise, arena_mib translation code componentwise]
  rfl

end Arena

end Jevmalloc
