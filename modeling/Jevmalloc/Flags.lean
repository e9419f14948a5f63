import Jevmalloc.Words.Fields
import Jevmalloc.Machine
import Jevmalloc.Ctl.Error

set_option autoImplicit false

namespace Jevmalloc

open Words

section Macros

variable {width : Width}

def mallocxAlign (align : Usize width) : CInt := align.ctz.setWidth 32
def mallocxArena (a : Usize width) : CInt := (a.setWidth 32 + 1#32) <<< 20
def mallocxTcache (tc : Usize width) : CInt := ((tc + BitVec.ofNat width.bits 2) <<< 8).setWidth 32

end Macros

def mallocxTcacheNone (width : Width) : CInt := mallocxTcache (BitVec.allOnes width.bits : Usize width)
def mallocxZero : CInt := 0x40#32

inductive TcacheSelection where
  | automatic
  | none
  | explicit (tc : Nat)
deriving DecidableEq, Repr

structure Decoded where
  alignment : Nat
  zero : Bool
  tcache : TcacheSelection
  arena : Option Nat
deriving DecidableEq, Repr

def decodeLgAlign (word : CInt) : Nat := field word 0 6
def decodeZero (word : CInt) : Bool := word.getLsbD 6
def decodeTcache (word : CInt) : TcacheSelection :=
  match field word 8 12 with
  | 0 => .automatic
  | 1 => .none
  | tc + 2 => .explicit tc
def decodeArena (word : CInt) : Option Nat :=
  match field word 20 12 with
  | 0 => none
  | a + 1 => some a

def decode (word : CInt) : Decoded :=
  ⟨2 ^ decodeLgAlign word, decodeZero word, decodeTcache word, decodeArena word⟩

def Accepted (validated : Except Error Nat) : Prop := ∃ index, validated = .ok index

inductive TcacheChoice (width : Width) where
  | automatic
  | none
  | explicit (tc : Usize width) (accepted : Accepted (ThreadCache.validatedIndex tc.toNat))

structure Selection (width : Width) where
  arena : Option { a : Usize width // Accepted (Arena.validatedIndex a.toNat) }
  tcache : TcacheChoice width
  align : { align : Usize width // ∃ k, align.toNat = 2 ^ k }
  zero : Bool

def TcacheChoice.flags {width : Width} : TcacheChoice width → CInt
  | .automatic => 0#32
  | .none => mallocxTcacheNone width
  | .explicit tc _ => mallocxTcache tc

def TcacheChoice.selected {width : Width} : TcacheChoice width → TcacheSelection
  | .automatic => .automatic
  | .none => .none
  | .explicit tc _ => .explicit tc.toNat

def arenaFlags {width : Width} (arena : Option { a : Usize width // Accepted (Arena.validatedIndex a.toNat) }) : CInt :=
  match arena with
  | none => 0#32
  | some a => mallocxArena a.val

def zeroFlags (zero : Bool) : CInt := if zero then mallocxZero else 0#32

def Selection.flags {width : Width} (selection : Selection width) : CInt :=
  arenaFlags selection.arena ||| selection.tcache.flags ||| mallocxAlign selection.align.val ||| zeroFlags selection.zero

def Selection.selected {width : Width} (selection : Selection width) : Decoded :=
  ⟨selection.align.val.toNat, selection.zero, selection.tcache.selected,
    selection.arena.map fun a => a.val.toNat⟩

theorem power_trailing_zeros {n : Nat} (word : BitVec n) (k : Nat) (power : word.toNat = 2 ^ k) :
    word.ctz.toNat = k := by
  have nonzero : word ≠ 0#n := by
    intro zero
    rw [zero, BitVec.toNat_zero] at power
    exact Nat.ne_of_lt (Nat.two_pow_pos k) power
  have lowest : word.toNat.testBit word.ctz.toNat = true := BitVec.getLsbD_true_ctz_of_ne_zero nonzero
  rw [power, Nat.testBit_two_pow] at lowest
  simpa using (decide_eq_true_eq.mp lowest).symm

theorem usize_power_bound {width : Width} (align : Usize width) (k : Nat) (power : align.toNat = 2 ^ k) : k < width.bits := by
  have bound := align.isLt
  rw [power] at bound
  exact (Nat.pow_lt_pow_iff_right (by decide)).mp bound

theorem align_word_value {width : Width} (align : Usize width) (k : Nat) (power : align.toNat = 2 ^ k) :
    (mallocxAlign align).toNat = k ∧ k < 64 := by
  have bound := usize_power_bound align k power
  have narrow : k < 64 := by
    rcases width_bits width with small | large <;> omega
  refine ⟨?_, narrow⟩
  rw [mallocxAlign, BitVec.toNat_setWidth, power_trailing_zeros align k power]
  exact Nat.mod_eq_of_lt (by omega)

theorem align_word_confined {width : Width} (align : Usize width) (k : Nat) (power : align.toNat = 2 ^ k) :
    Confined (mallocxAlign align) 0 6 := by
  obtain ⟨value, narrow⟩ := align_word_value align k power
  exact confined_of_lt _ 6 (by rw [value]; exact narrow)

theorem align_word_decodes {width : Width} (align : Usize width) (k : Nat) (power : align.toNat = 2 ^ k) :
    decodeLgAlign (mallocxAlign align) = k := by
  obtain ⟨value, narrow⟩ := align_word_value align k power
  rw [decodeLgAlign, field, field_low, BitVec.toNat_setWidth, value]
  exact Nat.mod_eq_of_lt narrow

theorem arena_field {width : Width} (a : Usize width) : field (mallocxArena a) 20 12 = (a.toNat + 1) % 4096 := by
  rw [field, mallocxArena, field_shift _ 20 12 (by decide)]
  simp only [BitVec.toNat_setWidth, BitVec.toNat_add, BitVec.toNat_ofNat]
  omega

theorem arena_word_confined {width : Width} (a : Usize width) : Confined (mallocxArena a) 20 12 :=
  confined_shift_top _ 20

theorem tcache_value {width : Width} (tc : Usize width) : (tc + BitVec.ofNat width.bits 2).toNat % 4096 = (tc.toNat + 2) % 4096 := by
  rw [BitVec.toNat_add, BitVec.toNat_ofNat]
  generalize BitVec.toNat tc = value
  rcases width_bits width with bits | bits <;> rw [bits] <;> omega

theorem tcache_field {width : Width} (tc : Usize width) : field (mallocxTcache tc) 8 12 = (tc.toNat + 2) % 4096 := by
  have wide : 8 + 12 ≤ width.bits := by rcases width_bits width with bits | bits <;> omega
  rw [field, mallocxTcache, field_width 32 _ 8 12 (by decide), field_shift _ 8 12 wide, BitVec.toNat_setWidth]
  exact tcache_value tc

theorem tcache_word_confined {width : Width} (tc : Usize width) (small : (tc + BitVec.ofNat width.bits 2).toNat < 4096) :
    Confined (mallocxTcache tc) 8 12 :=
  confined_width 32 _ 8 12 (confined_shift _ 8 12 (confined_of_lt _ 12 small))

theorem tcache_none_value (width : Width) : (BitVec.allOnes width.bits + BitVec.ofNat width.bits 2).toNat = 1 := by
  cases width <;> decide

theorem tcache_accepted_value {width : Width} (tc : Usize width) (accepted : Accepted (ThreadCache.validatedIndex tc.toNat)) :
    (tc + BitVec.ofNat width.bits 2).toNat < 4096 := by
  obtain ⟨index, valid⟩ := accepted
  have below : tc.toNat < 4094 := ((tcache_validated_index_iff _ _).mp valid).1
  rw [BitVec.toNat_add, BitVec.toNat_ofNat]
  generalize BitVec.toNat tc = value at below
  rcases width_bits width with bits | bits <;> rw [bits] <;> omega

theorem choice_confined {width : Width} (choice : TcacheChoice width) : Confined choice.flags 8 12 := by
  cases choice with
  | automatic => exact confined_zero 8 12
  | none => exact tcache_word_confined _ (by rw [tcache_none_value]; decide)
  | explicit tc accepted => exact tcache_word_confined tc (tcache_accepted_value tc accepted)

theorem choice_decodes {width : Width} (choice : TcacheChoice width) : decodeTcache choice.flags = choice.selected := by
  cases choice with
  | automatic => exact (by decide : decodeTcache 0#32 = .automatic)
  | none => cases width <;> decide
  | explicit tc accepted =>
      have small := tcache_accepted_value tc accepted
      have encoded : field (mallocxTcache tc) 8 12 = tc.toNat + 2 := by
        obtain ⟨index, valid⟩ := accepted
        have below : tc.toNat < 4094 := ((tcache_validated_index_iff _ _).mp valid).1
        rw [tcache_field]
        omega
      simp only [TcacheChoice.flags, decodeTcache, encoded, TcacheChoice.selected]

theorem arena_flags_confined {width : Width} (arena : Option { a : Usize width // Accepted (Arena.validatedIndex a.toNat) }) :
    Confined (arenaFlags arena) 20 12 := by
  cases arena with
  | none => exact confined_zero 20 12
  | some a => exact arena_word_confined a.val

theorem arena_flags_decodes {width : Width} (arena : Option { a : Usize width // Accepted (Arena.validatedIndex a.toNat) }) :
    decodeArena (arenaFlags arena) = arena.map fun a => a.val.toNat := by
  cases arena with
  | none => exact (by decide : decodeArena 0#32 = none)
  | some a =>
      obtain ⟨a, index, valid⟩ := a
      have below : a.toNat < 4095 := ((arena_validated_index_iff _ _).mp valid).1
      have encoded : field (mallocxArena a) 20 12 = a.toNat + 1 := by
        rw [arena_field]
        omega
      simp only [arenaFlags, decodeArena, encoded, Option.map_some]

theorem zero_flags_confined (zero : Bool) : Confined (zeroFlags zero) 6 1 := by
  cases zero with
  | false => exact confined_zero 6 1
  | true => exact confined_shift 1#32 6 1 (confined_of_lt 1#32 1 (by decide))

theorem zero_flags_decodes (zero : Bool) : decodeZero (zeroFlags zero) = zero := by
  cases zero <;> rfl

-- Each of the four words lives in its own field, so the fields of their or are
-- read back from one of them alone.
theorem fields_of_or (arena tcache align zero : CInt) (inArena : Confined arena 20 12)
    (inTcache : Confined tcache 8 12) (inAlign : Confined align 0 6) (inZero : Confined zero 6 1) :
    decode (arena ||| tcache ||| align ||| zero) =
      ⟨2 ^ decodeLgAlign align, decodeZero zero, decodeTcache tcache, decodeArena arena⟩ := by
  have arenaField : field (arena ||| tcache ||| align ||| zero) 20 12 = field arena 20 12 := by
    simp only [field, BitVec.extractLsb'_or, field_apart tcache 8 12 20 12 inTcache (by decide),
      field_apart align 0 6 20 12 inAlign (by decide), field_apart zero 6 1 20 12 inZero (by decide), BitVec.or_zero]
  have tcacheField : field (arena ||| tcache ||| align ||| zero) 8 12 = field tcache 8 12 := by
    simp only [field, BitVec.extractLsb'_or, field_apart arena 20 12 8 12 inArena (by decide),
      field_apart align 0 6 8 12 inAlign (by decide), field_apart zero 6 1 8 12 inZero (by decide),
      BitVec.or_zero, BitVec.zero_or]
  have alignField : field (arena ||| tcache ||| align ||| zero) 0 6 = field align 0 6 := by
    simp only [field, BitVec.extractLsb'_or, field_apart arena 20 12 0 6 inArena (by decide),
      field_apart tcache 8 12 0 6 inTcache (by decide), field_apart zero 6 1 0 6 inZero (by decide),
      BitVec.or_zero, BitVec.zero_or]
  have zeroBit : (arena ||| tcache ||| align ||| zero).getLsbD 6 = zero.getLsbD 6 := by
    have outside : ∀ (word : CInt) (start len : Nat), Confined word start len →
        (6 < start ∨ start + len ≤ 6) → word.getLsbD 6 = false := by
      intro word start len inside apart
      cases set : word.getLsbD 6 with
      | false => rfl
      | true =>
          have bounds := inside 6 set
          omega
    simp only [BitVec.getLsbD_or, outside arena 20 12 inArena (by decide), outside tcache 8 12 inTcache (by decide),
      outside align 0 6 inAlign (by decide), Bool.false_or]
  simp only [decode, decodeLgAlign, decodeZero, decodeTcache, decodeArena, arenaField, tcacheField, alignField, zeroBit]

theorem selection_decodes {width : Width} (selection : Selection width) :
    decode selection.flags = selection.selected := by
  obtain ⟨k, power⟩ := selection.align.property
  rw [Selection.flags, fields_of_or _ _ _ _ (arena_flags_confined _) (choice_confined _)
    (align_word_confined _ k power) (zero_flags_confined _), align_word_decodes _ k power,
    zero_flags_decodes, choice_decodes, arena_flags_decodes, ← power]
  rfl

theorem choice_selected_injective {width : Width} (a b : TcacheChoice width) (same : a.selected = b.selected) : a = b := by
  cases a <;> cases b <;> simp_all [TcacheChoice.selected, BitVec.toNat_inj]

theorem selection_selected_injective {width : Width} (a b : Selection width) (same : a.selected = b.selected) : a = b := by
  obtain ⟨arena, tcache, align, zero⟩ := a
  obtain ⟨arena', tcache', align', zero'⟩ := b
  simp only [Selection.selected, Decoded.mk.injEq] at same
  obtain ⟨sameAlign, sameZero, sameTcache, sameArena⟩ := same
  have arenas : arena = arena' := by
    refine Option.map_injective ?_ sameArena
    intro x y equal
    exact Subtype.ext (BitVec.eq_of_toNat_eq equal)
  rw [arenas, choice_selected_injective tcache tcache' sameTcache, Subtype.ext (BitVec.eq_of_toNat_eq sameAlign), sameZero]

theorem arena_limit_exact {width : Width} (i : Usize width) :
    Accepted (Arena.validatedIndex i.toNat) ↔ decodeArena (mallocxArena i) = some i.toNat := by
  constructor
  · intro accepted
    exact arena_flags_decodes (some ⟨i, accepted⟩)
  · intro decoded
    have below : i.toNat < 4095 := by
      rw [decodeArena, arena_field] at decoded
      have wrapped := Nat.mod_lt (i.toNat + 1) (show 0 < 4096 by decide)
      split at decoded
      · cases decoded
      · have same := Option.some.inj decoded
        omega
    exact ⟨i.toNat, (arena_validated_index_iff _ _).mpr ⟨below, rfl⟩⟩

theorem tcache_limit_exact {width : Width} (i : Usize width) :
    Accepted (ThreadCache.validatedIndex i.toNat) ↔ decodeTcache (mallocxTcache i) = .explicit i.toNat := by
  constructor
  · intro accepted
    exact choice_decodes (.explicit i accepted)
  · intro decoded
    have below : i.toNat < 4094 := by
      rw [decodeTcache, tcache_field] at decoded
      have wrapped := Nat.mod_lt (i.toNat + 2) (show 0 < 4096 by decide)
      split at decoded
      · cases decoded
      · cases decoded
      · have same := TcacheSelection.explicit.inj decoded
        omega
    exact ⟨i.toNat, (tcache_validated_index_iff _ _).mpr ⟨below, rfl⟩⟩

theorem allocation_flags_exact (width : Width) :
    (∀ selection : Selection width, decode selection.flags = selection.selected) ∧
    (∀ a b : Selection width, a.flags = b.flags → a = b) ∧
    (∀ i : Usize width, Accepted (Arena.validatedIndex i.toNat) ↔ decodeArena (mallocxArena i) = some i.toNat) ∧
    (∀ i : Usize width, Accepted (ThreadCache.validatedIndex i.toNat) ↔ decodeTcache (mallocxTcache i) = .explicit i.toNat) := by
  refine ⟨selection_decodes, ?_, arena_limit_exact, tcache_limit_exact⟩
  intro a b same
  apply selection_selected_injective
  rw [← selection_decodes a, ← selection_decodes b, same]

end Jevmalloc
