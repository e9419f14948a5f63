import Jevmalloc.Stats.Options

set_option autoImplicit false

namespace Jevmalloc

open Bytes

namespace Stats

def fitting (capacity : Nat) : List (List UInt8) → Nat
  | [] => 0
  | part :: rest => if part.length ≤ capacity then fitting (capacity - part.length) rest + 1 else 0

theorem fitting_bound (capacity : Nat) (parts : List (List UInt8)) : fitting capacity parts ≤ parts.length := by
  induction parts generalizing capacity with
  | nil => exact Nat.le_refl 0
  | cons part rest ih =>
      rw [fitting, List.length_cons]
      split
      · exact Nat.succ_le_succ (ih _)
      · exact Nat.zero_le _

theorem fitting_iff (capacity : Nat) (parts : List (List UInt8)) (k : Nat) (inside : k ≤ parts.length) :
    (parts.take k).flatten.length ≤ capacity ↔ k ≤ fitting capacity parts := by
  induction parts generalizing capacity k with
  | nil =>
      have zero : k = 0 := Nat.le_zero.mp inside
      subst k
      simp
  | cons part rest ih =>
      cases k with
      | zero => simp
      | succ k =>
          have below := ih (capacity - part.length) k (Nat.le_of_succ_le_succ inside)
          rw [List.take_succ_cons, List.flatten_cons, List.length_append, fitting]
          by_cases fits : part.length ≤ capacity
          · rw [if_pos fits, Nat.succ_le_succ_iff, ← below]
            omega
          · rw [if_neg fits]
            omega

theorem fitting_all (capacity : Nat) (parts : List (List UInt8)) :
    fitting capacity parts < parts.length ↔ capacity < parts.flatten.length := by
  have whole := fitting_iff capacity parts parts.length (Nat.le_refl _)
  rw [List.take_length] at whole
  have bound := fitting_bound capacity parts
  omega

section Writing

variable (width : Width)

theorem write_after_overflow (output : PrintBuffer) (parts : List (List UInt8)) (full : output.overflowed = true) :
    parts.foldlM (PrintBuffer.write width) output = some output := by
  induction parts with
  | nil => rfl
  | cons part rest ih =>
      have ignored : PrintBuffer.write width output part = some output := by rw [PrintBuffer.write, if_pos full]
      rw [List.foldlM_cons, ignored]
      exact ih

theorem write_too_long (done old part : List UInt8) (long : old.length < part.length) :
    PrintBuffer.write width ⟨done ++ old, done.length, false⟩ part = some ⟨done ++ old, done.length, true⟩ := by
  simp only [PrintBuffer.write, checkedAdd, Bool.false_eq_true, if_false]
  by_cases sum : done.length + part.length ≤ usizeMax width
  · simp only [if_pos sum, range_fits_end, Nat.not_le_of_lt long, decide_false, Bool.false_eq_true, if_false]
  · simp only [if_neg sum]

theorem write_whole (done old part : List UInt8) (bounded : (done ++ old).length ≤ isizeMax width)
    (fits : part.length ≤ old.length) :
    PrintBuffer.write width ⟨done ++ old, done.length, false⟩ part =
      some ⟨(done ++ part) ++ old.drop part.length, (done ++ part).length, false⟩ := by
  have sum : done.length + part.length ≤ usizeMax width := by
    have top := isize_max_le_usize_max width
    rw [List.length_append] at bounded
    omega
  simp only [PrintBuffer.write, checkedAdd, Bool.false_eq_true, if_false, if_pos sum, range_fits_end, fits,
    decide_true, if_true, copy_into_end, List.length_append]
  rfl

theorem write_run (parts : List (List UInt8)) (done old : List UInt8)
    (bounded : (done ++ old).length ≤ isizeMax width) :
    parts.foldlM (PrintBuffer.write width) ⟨done ++ old, done.length, false⟩ =
      some ⟨(done ++ (parts.take (fitting old.length parts)).flatten) ++
          old.drop (parts.take (fitting old.length parts)).flatten.length,
        (done ++ (parts.take (fitting old.length parts)).flatten).length,
        decide (fitting old.length parts < parts.length)⟩ := by
  induction parts generalizing done old with
  | nil => simp [fitting]
  | cons part rest ih =>
      rw [List.foldlM_cons]
      by_cases fits : part.length ≤ old.length
      · have next := ih (done ++ part) (old.drop part.length) (by
          rw [List.length_append] at bounded
          rw [List.length_append, List.length_append, List.length_drop]
          omega)
        rw [write_whole width done old part bounded fits, Option.bind_eq_bind, Option.bind_some, next]
        simp only [fitting, if_pos fits, List.length_drop, List.take_succ_cons, List.flatten_cons, List.length_cons,
          List.append_assoc, List.length_append, List.drop_drop, Nat.add_lt_add_iff_right]
      · rw [write_too_long width done old part (Nat.lt_of_not_le fits), Option.bind_eq_bind, Option.bind_some,
          write_after_overflow width _ rest rfl]
        simp [fitting, fits]

end Writing

def verdict (capacity : Nat) (report : List UInt8) : Except Error String :=
  if capacity < report.length then .error .insufficientSpace
  else match fromUtf8 report with
    | some text => .ok text
    | none => .error .invalidUtf8

theorem verdict_space (capacity : Nat) (report : List UInt8) :
    verdict capacity report = .error .insufficientSpace ↔ capacity < report.length := by
  unfold verdict
  by_cases long : capacity < report.length
  · rw [if_pos long]
    exact iff_of_true rfl long
  · rw [if_neg long]
    cases fromUtf8 report with
    | none => simp [long, Error.invalidUtf8, Error.insufficientSpace, eilseq, enospc]
    | some text => simp [long]

theorem verdict_text (capacity : Nat) (report : List UInt8) (text : String) :
    verdict capacity report = .ok text ↔ report.length ≤ capacity ∧ utf8 text = report := by
  rw [← from_utf8_iff]
  unfold verdict
  by_cases long : capacity < report.length
  · simp [long, Nat.not_le_of_lt long]
  · rw [if_neg long]
    cases fromUtf8 report with
    | none => simp
    | some text => simp [Nat.le_of_not_lt long]

theorem verdict_encoding (capacity : Nat) (report : List UInt8) :
    verdict capacity report = .error .invalidUtf8 ↔
      report.length ≤ capacity ∧ ¬ report.toByteArray.IsValidUTF8 := by
  unfold verdict
  by_cases long : capacity < report.length
  · simp [long, Nat.not_le_of_lt long, Error.invalidUtf8, Error.insufficientSpace, eilseq, enospc]
  · rw [if_neg long]
    by_cases valid : report.toByteArray.IsValidUTF8
    · simp [fromUtf8, String.fromUTF8?, valid]
    · simp [fromUtf8, String.fromUTF8?, valid, Nat.le_of_not_lt long]

abbrev Slice (width : Width) := { bytes : List UInt8 // bytes.length ≤ isizeMax width }

theorem finish_verdict (parts : List (List UInt8)) (buf : List UInt8) :
    PrintBuffer.finish ⟨(parts.take (fitting buf.length parts)).flatten ++
          buf.drop (parts.take (fitting buf.length parts)).flatten.length,
        (parts.take (fitting buf.length parts)).flatten.length,
        decide (fitting buf.length parts < parts.length)⟩ = some (verdict buf.length parts.flatten) := by
  have all := fitting_all buf.length parts
  unfold PrintBuffer.finish verdict
  by_cases long : buf.length < parts.flatten.length
  · rw [if_pos long, if_pos (decide_eq_true (all.mpr long))]
  · have everything : fitting buf.length parts = parts.length := by
      have bound := fitting_bound buf.length parts
      omega
    rw [if_neg long]
    simp only [everything, Nat.lt_irrefl, decide_false, Bool.false_eq_true, if_false, List.take_length,
      slice_to_prefix parts.flatten _ _ rfl, Option.bind_eq_bind, Option.bind_some]
    cases fromUtf8 parts.flatten <;> rfl

def delivered (report : List UInt8 → List Fragment) (opts : String) : List (List UInt8) :=
  (report (recognised (utf8 opts))).map Fragment.bytes

theorem print_result (width : Width) (report : List UInt8 → List Fragment) (opts : String) (buf : Slice width)
    (clean : 0 ∉ utf8 opts) :
    print width report opts buf.val =
      some (verdict buf.val.length (delivered report opts).flatten,
        ((delivered report opts).take (fitting buf.val.length (delivered report opts))).flatten ++
          buf.val.drop ((delivered report opts).take (fitting buf.val.length (delivered report opts))).flatten.length) := by
  have options := normalize_options_result opts
  rw [if_neg clean] at options
  have read := c_string_terminated (recognised (utf8 opts)) [] (recognised_clean _)
  have forwarded : printRaw report (recognised (utf8 opts) ++ [0]) (PrintBuffer.write width) (PrintBuffer.new buf.val) =
      (delivered report opts).foldlM (PrintBuffer.write width) ⟨buf.val, 0, false⟩ := by
    rw [printRaw, read, delivered, List.foldlM_map]
    rfl
  have written := write_run width (delivered report opts) [] buf.val buf.property
  have finished := finish_verdict (delivered report opts) buf.val
  simp only [List.nil_append, List.length_nil] at written
  simp only [print, options, forwarded, written, finished, Option.bind_eq_bind, Option.bind_some]

theorem print_report (width : Width) (report : List UInt8 → List Fragment) (opts : String) (buf : Slice width)
    (clean : 0 ∉ utf8 opts) :
    ∃ outcome after count, print width report opts buf.val = some (outcome, after) ∧
      outcome = verdict buf.val.length (delivered report opts).flatten ∧
      (outcome = .error .insufficientSpace ↔ buf.val.length < (delivered report opts).flatten.length) ∧
      (∀ text, outcome = .ok text ↔
        (delivered report opts).flatten.length ≤ buf.val.length ∧ utf8 text = (delivered report opts).flatten) ∧
      (outcome = .error .invalidUtf8 ↔ (delivered report opts).flatten.length ≤ buf.val.length ∧
        ¬ (delivered report opts).flatten.toByteArray.IsValidUTF8) ∧
      count ≤ (delivered report opts).length ∧
      (∀ k ≤ (delivered report opts).length,
        ((delivered report opts).take k).flatten.length ≤ buf.val.length ↔ k ≤ count) ∧
      after = ((delivered report opts).take count).flatten ++
        buf.val.drop ((delivered report opts).take count).flatten.length :=
  ⟨_, _, fitting buf.val.length _, print_result width report opts buf clean, rfl,
    verdict_space _ _, verdict_text _ _, verdict_encoding _ _, fitting_bound _ _,
    fun k inside => fitting_iff _ _ k inside, rfl⟩

def splitReport (_ : List UInt8) : List Fragment := [⟨[0xC3, 0], by decide⟩, ⟨[0xA9, 0], by decide⟩]

theorem print_report_split : ∃ after, print .w64 splitReport "x" [1, 2] = some (.ok "\u00e9", after) := by
  have clean : 0 ∉ utf8 "x" := by decide
  obtain ⟨outcome, after, _, printed, _, _, text, _⟩ :=
    print_report .w64 splitReport "x" ⟨[1, 2], by decide⟩ clean
  have read : outcome = .ok "\u00e9" := (text "\u00e9").mpr ⟨by decide, by decide⟩
  subst outcome
  exact ⟨after, printed⟩

end Stats

end Jevmalloc
