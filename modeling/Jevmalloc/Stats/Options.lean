import Mathlib.Data.List.Perm.Subperm
import Mathlib.Logic.Function.Basic
import Jevmalloc.Stats.Print

set_option autoImplicit false

namespace Jevmalloc

open Bytes

namespace Stats

def recognised (text : List UInt8) : List UInt8 := (text.filter printOptions.contains).eraseDups

def zeroPadded (kept : List UInt8) : List UInt8 := kept ++ List.replicate (printOptionsCapacity - kept.length) 0

-- A printer that handles a recognised byte by setting that byte's own flag.
structure Printer (V : Type) where
  initial : UInt8 → V
  setting : UInt8 → V

section Printer

variable {V : Type} (printer : Printer V)

def Printer.handle (flags : UInt8 → V) (byte : UInt8) : UInt8 → V :=
  if printOptions.contains byte then Function.update flags byte (printer.setting byte) else flags

def Printer.select (text : List UInt8) : UInt8 → V := text.foldl printer.handle printer.initial

theorem handle_at (flags : UInt8 → V) (byte option : UInt8) :
    printer.handle flags byte option =
      if printOptions.contains option ∧ option = byte then printer.setting option else flags option := by
  unfold Printer.handle
  by_cases same : option = byte
  · subst option
    by_cases known : printOptions.contains byte
    · simp only [known, and_self, if_true, Function.update_self]
    · simp only [known, false_and, if_false, Bool.false_eq_true]
  · split
    · rw [Function.update_of_ne same, if_neg (fun both => same both.2)]
    · rw [if_neg (fun both => same both.2)]

theorem handle_run (text : List UInt8) (flags : UInt8 → V) (option : UInt8) :
    text.foldl printer.handle flags option =
      if printOptions.contains option ∧ option ∈ text then printer.setting option else flags option := by
  induction text generalizing flags with
  | nil => simp
  | cons byte rest ih =>
      rw [List.foldl_cons, ih, handle_at]
      by_cases known : printOptions.contains option
      · by_cases later : option ∈ rest
        · rw [if_pos ⟨known, later⟩, if_pos ⟨known, List.mem_cons_of_mem byte later⟩]
        · simp only [later, known, List.mem_cons, or_false, true_and, and_false, if_false]
      · simp only [known, false_and, if_false, Bool.false_eq_true]

theorem mem_recognised (text : List UInt8) (option : UInt8) :
    option ∈ recognised text ↔ option ∈ text ∧ printOptions.contains option := by
  rw [recognised, List.mem_eraseDups, List.mem_filter]

theorem select_recognised (text : List UInt8) : printer.select (recognised text) = printer.select text := by
  funext option
  rw [Printer.select, Printer.select, handle_run, handle_run]
  by_cases known : printOptions.contains option
  · simp only [known, true_and, mem_recognised, and_true]
  · simp only [known, false_and, if_false, Bool.false_eq_true]

end Printer

theorem recognised_option (text : List UInt8) (option : UInt8) (member : option ∈ recognised text) : option ∈ printOptions :=
  List.contains_iff_mem.mp ((mem_recognised text option).mp member).2

theorem recognised_bound (text : List UInt8) : (recognised text).length < printOptionsCapacity := by
  -- Distinct members of the ten options are at most ten.
  have distinct : (recognised text).Nodup := erase_dups_nodup _
  have known : recognised text ⊆ printOptions := recognised_option text
  exact Nat.lt_succ_of_le (distinct.subperm known).length_le

theorem recognised_snoc (text : List UInt8) (option : UInt8) :
    recognised (text ++ [option]) =
      if printOptions.contains option ∧ option ∉ recognised text then recognised text ++ [option]
      else recognised text := by
  rw [recognised, List.filter_append]
  by_cases known : printOptions.contains option
  · rw [List.filter_cons_of_pos known, List.filter_nil]
    by_cases seen : option ∈ text.filter printOptions.contains
    · rw [erase_dups_snoc_seen _ _ seen, if_neg fun fresh => fresh.2 (List.mem_eraseDups.mpr seen), recognised]
    · rw [erase_dups_snoc_new _ _ seen, if_pos ⟨known, fun member => seen (List.mem_eraseDups.mp member)⟩, recognised]
  · rw [List.filter_cons_of_neg known, List.filter_nil, List.append_nil, if_neg fun fresh => known fresh.1, recognised]

theorem zero_padded_room (kept : List UInt8) (room : kept.length < printOptionsCapacity) :
    zeroPadded kept = kept ++ 0 :: List.replicate (printOptionsCapacity - kept.length - 1) 0 := by
  have remaining : printOptionsCapacity - kept.length = printOptionsCapacity - kept.length - 1 + 1 := by omega
  rw [zeroPadded, remaining, List.replicate_succ, Nat.add_sub_cancel]

-- One option: the kept bytes stay the recognised prefix of the text, and the
-- pigeonhole bound keeps the write inside the buffer.
theorem normalize_option_step (text : List UInt8) (option : UInt8) :
    normalizeOption option (zeroPadded (recognised text)) (recognised text).length =
      some (zeroPadded (recognised (text ++ [option])), (recognised (text ++ [option])).length) := by
  rw [recognised_snoc, normalizeOption]
  by_cases known : printOptions.contains option
  · have prefixed : sliceTo (zeroPadded (recognised text)) (recognised text).length = some (recognised text) :=
      slice_to_prefix _ _ _ rfl
    rw [if_pos known, prefixed]
    by_cases seen : option ∈ recognised text
    · rw [if_neg fun fresh => fresh.2 seen]
      simp [seen]
    · rw [if_pos ⟨known, seen⟩, zero_padded_room _ (recognised_bound text)]
      simp [seen, set_at_end, zeroPadded, Nat.sub_sub]
  · rw [if_neg known, if_neg fun fresh => known fresh.1]

theorem normalize_loop_run (rest text : List UInt8) :
    normalizeLoop rest (zeroPadded (recognised text)) (recognised text).length =
      some (if 0 ∈ rest then .error .invalidArgument
        else .ok (zeroPadded (recognised (text ++ rest)), (recognised (text ++ rest)).length)) := by
  induction rest generalizing text with
  | nil => simp [normalizeLoop]
  | cons option rest ih =>
      by_cases nul : option = 0
      · subst option
        simp [normalizeLoop]
      · have other : ¬ (0 : UInt8) = option := fun same => nul same.symm
        have next := ih (text ++ [option])
        rw [List.append_assoc, List.singleton_append] at next
        rw [normalizeLoop, if_neg nul, normalize_option_step]
        simp only [List.mem_cons, other, false_or]
        exact next

theorem normalize_options_result (opts : String) :
    normalizeOptions opts (List.replicate printOptionsCapacity 0) =
      some (if 0 ∈ utf8 opts then .error .invalidArgument else .ok (recognised (utf8 opts) ++ [0])) := by
  have run := normalize_loop_run (utf8 opts) []
  rw [normalizeOptions]
  have start : normalizeLoop (utf8 opts) (List.replicate printOptionsCapacity 0) 0 = _ := run
  rw [start]
  by_cases nul : 0 ∈ utf8 opts
  · simp only [if_pos nul]
    rfl
  · have stop : sliceTo (zeroPadded (recognised (utf8 opts))) ((recognised (utf8 opts)).length + 1) =
        some (recognised (utf8 opts) ++ [0]) := by
      rw [zero_padded_room _ (recognised_bound _), List.append_cons]
      exact slice_to_prefix _ _ _ (by simp)
    simp only [if_neg nul, List.nil_append]
    exact congrArg (Option.map Except.ok) stop

theorem print_options_ascii : ∀ option ∈ printOptions, 0 < option.toNat ∧ option.toNat < 128 := by simp [printOptions]

theorem recognised_clean (text : List UInt8) : 0 ∉ recognised text := fun member =>
  Nat.lt_irrefl 0 (print_options_ascii 0 (recognised_option text 0 member)).1

theorem recognised_ascii (text : List UInt8) (option : UInt8) (member : option ∈ recognised text) :
    option.toNat < 128 :=
  (print_options_ascii option (recognised_option text option member)).2

theorem normalize_options_exact (opts : String) :
    (normalizeOptions opts (List.replicate printOptionsCapacity 0) = some (.error .invalidArgument) ↔ 0 ∈ utf8 opts) ∧
    (0 ∉ utf8 opts → normalizeOptions opts (List.replicate printOptionsCapacity 0) =
      some (.ok (recognised (utf8 opts) ++ [0]))) ∧
    (recognised (utf8 opts)).Nodup ∧ 0 ∉ recognised (utf8 opts) ∧
    (recognised (utf8 opts)).length < printOptionsCapacity ∧
    (∀ char ∈ opts.toList, 1 < char.utf8Size → ∀ byte ∈ String.utf8EncodeChar char, byte ∉ recognised (utf8 opts)) ∧
    (0 ∉ utf8 opts → ∀ (V S : Type) (printer : Printer V) (render : (UInt8 → V) → List Fragment)
      (write : S → List UInt8 → Option S) (state : S),
      printer.select (cString (recognised (utf8 opts) ++ [0])) = printer.select (utf8 opts) ∧
      printRaw (fun text => render (printer.select text)) (recognised (utf8 opts) ++ [0]) write state =
        printRaw (fun text => render (printer.select text)) (utf8 opts ++ [0]) write state) := by
  have result := normalize_options_result opts
  refine ⟨?_, ?_, erase_dups_nodup _, recognised_clean _, recognised_bound _, ?_, ?_⟩
  · rw [result]
    by_cases nul : 0 ∈ utf8 opts
    · simp [nul]
    · simp [nul]
  · intro clean
    rw [result, if_neg clean]
  · intro char _ wide byte member kept
    have above := multibyte_above_ascii char wide byte member
    have below := recognised_ascii _ byte kept
    exact absurd above (Nat.not_le_of_lt below)
  · intro clean V S printer render write state
    have normalised := c_string_terminated (recognised (utf8 opts)) [] (recognised_clean _)
    have raw := c_string_terminated (utf8 opts) [] clean
    have same := select_recognised printer (utf8 opts)
    exact ⟨by rw [normalised, same], by rw [printRaw, printRaw, normalised, raw, same]⟩

end Stats

end Jevmalloc
