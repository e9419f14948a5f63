import Mathlib.Data.List.Induction
import Mathlib.Data.List.Nodup
import Mathlib.Data.List.TakeWhile
import Jevmalloc.Machine

set_option autoImplicit false

-- Byte slices as Rust handles them. Every operation that can panic returns
-- none in that case, so a result of the form some is the absence of a panic.
namespace Bytes

def sliceTo (buf : List UInt8) (stop : Nat) : Option (List UInt8) :=
  if stop ≤ buf.length then some (buf.take stop) else none

def setAt (buf : List UInt8) (index : Nat) (value : UInt8) : Option (List UInt8) :=
  if index < buf.length then some (buf.set index value) else none

def copyInto (buf : List UInt8) (start stop : Nat) (source : List UInt8) : Option (List UInt8) :=
  if source.length = stop - start then some (buf.take start ++ source ++ buf.drop stop) else none

def copyPrefix (buf source : List UInt8) : Option (List UInt8) :=
  if source.length ≤ buf.length then some (source ++ buf.drop source.length) else none

def rangeFits (buf : List UInt8) (start stop : Nat) : Bool := start ≤ stop ∧ stop ≤ buf.length

def cString (memory : List UInt8) : List UInt8 := memory.takeWhile fun byte => byte ≠ 0

def utf8 (text : String) : List UInt8 := text.toByteArray.data.toList

def fromUtf8 (bytes : List UInt8) : Option String := String.fromUTF8? bytes.toByteArray

theorem slice_to_prefix (front back : List UInt8) (stop : Nat) (exact : stop = front.length) :
    sliceTo (front ++ back) stop = some front := by
  subst exact
  simp [sliceTo]

theorem set_at_end (front back : List UInt8) (old value : UInt8) :
    setAt (front ++ old :: back) front.length value = some (front ++ value :: back) := by
  simp [setAt]

theorem copy_into_end (front back source : List UInt8) :
    copyInto (front ++ back) front.length (front.length + source.length) source =
      some (front ++ source ++ back.drop source.length) := by
  simp [copyInto, List.drop_append]

theorem range_fits_end (front back : List UInt8) (extra : Nat) :
    rangeFits (front ++ back) front.length (front.length + extra) = decide (extra ≤ back.length) := by
  simp [rangeFits]

theorem c_string_terminated (text back : List UInt8) (clean : 0 ∉ text) : cString (text ++ 0 :: back) = text := by
  induction text with
  | nil => simp [cString]
  | cons byte rest ih =>
      simp only [List.mem_cons, not_or] at clean
      have nonzero : byte ≠ 0 := fun same => clean.1 same.symm
      have tail : List.takeWhile (fun byte => decide (byte ≠ 0)) (rest ++ 0 :: back) = rest := ih clean.2
      rw [cString, List.cons_append, List.takeWhile_cons, if_pos (decide_eq_true nonzero), tail]

theorem copy_prefix_length (buf source result : List UInt8) (copied : copyPrefix buf source = some result) :
    result.length = buf.length := by
  unfold copyPrefix at copied
  by_cases room : source.length ≤ buf.length
  · rw [if_pos room, Option.some.injEq] at copied
    rw [← copied, List.length_append, List.length_drop]
    omega
  · rw [if_neg room] at copied
    cases copied

theorem c_string_whole (memory : List UInt8) (clean : 0 ∉ memory) : cString memory = memory := by
  rw [cString, List.takeWhile_eq_self_iff]
  intro byte member
  exact decide_eq_true fun zero => clean (zero ▸ member)

theorem c_string_clean (memory : List UInt8) : 0 ∉ cString memory := by
  intro member
  have nonzero := List.mem_takeWhile_imp member
  exact of_decide_eq_true nonzero rfl

theorem c_string_terminator (memory : List UInt8) (stops : (cString memory).length < memory.length) : 0 ∈ memory := by
  apply Classical.byContradiction
  intro absent
  rw [c_string_whole memory absent] at stops
  exact Nat.lt_irrefl _ stops

theorem utf8_chars (text : String) : utf8 text = text.toList.flatMap String.utf8EncodeChar := by
  rw [utf8, ← String.utf8Encode_toList, List.utf8Encode, List.data_toByteArray]

theorem utf8_append (front back : String) : utf8 (front ++ back) = utf8 front ++ utf8 back := by
  simp [utf8]

theorem from_utf8_iff (bytes : List UInt8) (text : String) : fromUtf8 bytes = some text ↔ utf8 text = bytes := by
  constructor
  · intro read
    unfold fromUtf8 String.fromUTF8? at read
    split at read
    · cases read
      simp [utf8, String.fromUTF8]
    · cases read
  · intro same
    have array : bytes.toByteArray = text.toByteArray := by
      rw [← same, utf8]
      apply ByteArray.ext
      simp
    have valid := text.isValidUTF8
    unfold fromUtf8 String.fromUTF8?
    rw [dif_pos (by rw [array]; exact valid)]
    exact congrArg some (String.toByteArray_inj.mp array)

theorem multibyte_above_ascii (char : Char) (wide : 1 < char.utf8Size) (byte : UInt8)
    (member : byte ∈ String.utf8EncodeChar char) : 128 ≤ byte.toNat := by
  have lead : ∀ digit base, 128 ≤ base → base + digit < 256 → 128 ≤ (UInt8.ofNat (digit + base)).toNat := by
    intro digit base high narrow
    rw [UInt8.toNat_ofNat']
    omega
  rw [← String.length_utf8EncodeChar] at wide
  revert wide member
  fun_cases String.utf8EncodeChar char with
  | case1 v ascii =>
      intro wide
      exact absurd wide (by simp)
  | case2 v _ two =>
      intro _ member
      simp only [List.mem_cons, List.not_mem_nil, or_false] at member
      rcases member with rfl | rfl
      · exact lead _ 192 (by decide) (by omega)
      · exact lead _ 128 (by decide) (by omega)
  | case3 v _ _ three =>
      intro _ member
      simp only [List.mem_cons, List.not_mem_nil, or_false] at member
      rcases member with rfl | rfl | rfl
      · exact lead _ 224 (by decide) (by omega)
      · exact lead _ 128 (by decide) (by omega)
      · exact lead _ 128 (by decide) (by omega)
  | case4 v _ _ four =>
      intro _ member
      simp only [List.mem_cons, List.not_mem_nil, or_false] at member
      rcases member with rfl | rfl | rfl | rfl
      · exact lead _ 240 (by decide) (by omega)
      · exact lead _ 128 (by decide) (by omega)
      · exact lead _ 128 (by decide) (by omega)
      · exact lead _ 128 (by decide) (by omega)

theorem encoded_ascii (char : Char) (byte : UInt8) (low : byte.toNat < 128) (member : byte ∈ String.utf8EncodeChar char) :
    char.val.toNat = byte.toNat := by
  rcases Nat.lt_or_ge 1 char.utf8Size with wide | narrow
  · exact absurd (multibyte_above_ascii char wide byte member) (Nat.not_le.mpr low)
  · have single : char.utf8Size = 1 := Nat.le_antisymm narrow char.utf8Size_pos
    have ascii : char.val.toNat ≤ 127 := UInt32.le_iff_toNat_le.mp (Char.utf8Size_eq_one_iff.mp single)
    rw [String.utf8EncodeChar_eq_singleton single, List.mem_singleton, ← UInt8.toNat_inj, UInt32.toNat_toUInt8,
      Nat.mod_eq_of_lt (by omega)] at member
    exact member.symm

section Occurrences

variable {α : Type} [BEq α] [LawfulBEq α]

theorem erase_dups_snoc_seen (items : List α) (item : α) (seen : item ∈ items) :
    (items ++ [item]).eraseDups = items.eraseDups := by
  have nothing : [item].removeAll items = [] := by simp [List.removeAll, seen]
  rw [List.eraseDups_append, nothing, List.eraseDups_nil, List.append_nil]

theorem erase_dups_snoc_new (items : List α) (item : α) (fresh : item ∉ items) :
    (items ++ [item]).eraseDups = items.eraseDups ++ [item] := by
  have whole : [item].removeAll items = [item] := by simp [List.removeAll, fresh]
  rw [List.eraseDups_append, whole]
  simp [List.eraseDups_cons]

theorem erase_dups_nodup (items : List α) : items.eraseDups.Nodup := by
  induction items using List.reverseRecOn with
  | nil => exact List.nodup_nil
  | append_singleton items item ih =>
      by_cases seen : item ∈ items
      · rw [erase_dups_snoc_seen items item seen]
        exact ih
      · rw [erase_dups_snoc_new items item seen]
        have absent : item ∉ items.eraseDups := fun member => seen (List.mem_eraseDups.mp member)
        simp only [List.nodup_append, ih, List.nodup_singleton, true_and]
        intro other member last single
        rw [List.mem_singleton] at single
        subst last
        intro same
        subst same
        exact absent member

omit [LawfulBEq α] in
theorem split_on_length (separator : α) (items : List α) :
    (items.splitOn separator).length = items.count separator + 1 := by
  induction items with
  | nil => simp
  | cons item rest ih =>
      rw [List.splitOn_cons_eq_if_modifyHead]
      by_cases same : (item == separator) = true
      · rw [if_pos same, List.length_cons, ih, List.count_cons, if_pos same]
      · rw [if_neg same, List.length_modifyHead, ih, List.count_cons, if_neg same]

theorem split_on_clean (separator : α) (items piece : List α) (member : piece ∈ items.splitOn separator) :
    separator ∉ piece := by
  induction items generalizing piece with
  | nil =>
      rw [List.splitOn_nil, List.mem_singleton] at member
      simp [member]
  | cons item rest ih =>
      rw [List.splitOn_cons_eq_if_modifyHead] at member
      by_cases same : (item == separator) = true
      · rw [if_pos same] at member
        rcases List.mem_cons.mp member with rfl | later
        · simp
        · exact ih piece later
      · rw [if_neg same] at member
        obtain ⟨front, others, split⟩ := List.exists_cons_of_ne_nil (List.splitOn_ne_nil separator rest)
        rw [split, List.modifyHead_cons] at member
        rcases List.mem_cons.mp member with rfl | later
        · have clean := ih front (by simp [split])
          simp only [beq_iff_eq] at same
          simp [clean, Ne.symm same]
        · exact ih piece (by simp [split, later])

theorem split_on_clean_append (separator : α) (front back : List α) (clean : separator ∉ front) :
    (front ++ back).splitOn separator = (back.splitOn separator).modifyHead (front ++ ·) := by
  induction front with
  | nil =>
      obtain ⟨piece, rest, split⟩ := List.exists_cons_of_ne_nil (List.splitOn_ne_nil separator back)
      simp [split]
  | cons item front ih =>
      simp only [List.mem_cons, not_or] at clean
      have other : ¬(item == separator) = true := by simpa using Ne.symm clean.1
      rw [List.cons_append, List.splitOn_cons_eq_if_modifyHead, if_neg other, ih clean.2, List.modifyHead_modifyHead]
      rfl

end Occurrences

def IsUtf8 (bytes : List UInt8) : Prop := ∃ text, utf8 text = bytes

theorem is_utf8_iff (bytes : List UInt8) : IsUtf8 bytes ↔ ∃ chars : List Char, chars.flatMap String.utf8EncodeChar = bytes := by
  constructor
  · intro ⟨text, same⟩
    exact ⟨text.toList, by rw [← utf8_chars]; exact same⟩
  · intro ⟨chars, same⟩
    exact ⟨String.ofList chars, by rw [utf8_chars, String.toList_ofList]; exact same⟩

section Pieces

variable (mark : Char) (ascii : mark.val.toNat < 128)

def markByte : UInt8 := UInt8.ofNat mark.val.toNat

include ascii

theorem mark_value : (markByte mark).toNat = mark.val.toNat := by
  rw [markByte, UInt8.toNat_ofNat']
  exact Nat.mod_eq_of_lt (by omega)

theorem mark_encoded : String.utf8EncodeChar mark = [markByte mark] := by
  have single : mark.utf8Size = 1 := by
    rw [Char.utf8Size_eq_one_iff, UInt32.le_iff_toNat_le]
    exact Nat.le_of_lt_succ ascii
  rw [String.utf8EncodeChar_eq_singleton single, ← UInt8.ofNat_uInt32ToNat]
  rfl

-- An ASCII mark never falls inside a character.
theorem pieces_chars (chars : List Char) (piece : List UInt8)
    (member : piece ∈ (chars.flatMap String.utf8EncodeChar).splitOn (markByte mark)) :
    ∃ part : List Char, part.flatMap String.utf8EncodeChar = piece := by
  induction chars generalizing piece with
  | nil => exact ⟨[], by simpa [eq_comm] using member⟩
  | cons char rest ih =>
      rw [List.flatMap_cons] at member
      by_cases same : char = mark
      · subst char
        rw [mark_encoded mark ascii, List.singleton_append, List.splitOn_cons_eq_if_modifyHead, if_pos (by simp)] at member
        rcases List.mem_cons.mp member with rfl | later
        · exact ⟨[], rfl⟩
        · exact ih piece later
      · have clean : markByte mark ∉ String.utf8EncodeChar char := by
          intro inside
          have value := encoded_ascii char (markByte mark) (by rw [mark_value mark ascii]; exact ascii) inside
          rw [mark_value mark ascii] at value
          exact same (Char.ext (UInt32.toNat_inj.mp value))
        rw [split_on_clean_append _ _ _ clean] at member
        obtain ⟨front, others, split⟩ :=
          List.exists_cons_of_ne_nil (List.splitOn_ne_nil (markByte mark) (rest.flatMap String.utf8EncodeChar))
        rw [split, List.modifyHead_cons] at member
        rcases List.mem_cons.mp member with rfl | later
        · obtain ⟨part, same⟩ := ih front (by simp [split])
          exact ⟨char :: part, by rw [List.flatMap_cons, same]⟩
        · exact ih piece (by simp [split, later])

theorem is_utf8_pieces (bytes piece : List UInt8) (valid : IsUtf8 bytes) (member : piece ∈ bytes.splitOn (markByte mark)) :
    IsUtf8 piece := by
  rw [is_utf8_iff] at valid ⊢
  obtain ⟨chars, rfl⟩ := valid
  exact pieces_chars mark ascii chars piece member

theorem is_utf8_joined (pieces : List (List UInt8)) (valid : ∀ piece ∈ pieces, IsUtf8 piece) :
    IsUtf8 ([markByte mark].intercalate pieces) := by
  induction pieces with
  | nil => exact ⟨"", rfl⟩
  | cons piece rest ih =>
      have first := valid piece List.mem_cons_self
      cases rest with
      | nil => simpa using first
      | cons next others =>
          have later := ih fun other member => valid other (List.mem_cons_of_mem piece member)
          rw [is_utf8_iff] at first later ⊢
          obtain ⟨front, rfl⟩ := first
          obtain ⟨back, same⟩ := later
          refine ⟨front ++ mark :: back, ?_⟩
          rw [List.flatMap_append, List.flatMap_cons, mark_encoded mark ascii, same, List.intercalate_cons_cons,
            List.append_assoc]

end Pieces

end Bytes
