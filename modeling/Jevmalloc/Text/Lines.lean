import Mathlib.Data.List.DropRight
import Jevmalloc.Bytes

set_option autoImplicit false

-- A text as it is taken by a reader that goes line by line and drops the white
-- space at both ends of each.
namespace Lines

-- The Unicode property White_Space.
def isSpace (char : Char) : Bool :=
  (9 ≤ char.toNat ∧ char.toNat ≤ 13) ∨ (8192 ≤ char.toNat ∧ char.toNat ≤ 8202) ∨
    char.toNat ∈ [32, 133, 160, 5760, 8232, 8233, 8239, 8287, 12288]

def trim (line : List Char) : List Char := (line.dropWhile isSpace).rdropWhile isSpace
def read (text : List Char) : List (List Char) := (text.splitOn '\n').map trim
def begins (words : List (List Char)) (line : List Char) : Bool := words.any fun word => word.isPrefixOf line

def told (words : List (List Char)) (text : List Char) : List (List Char) := (read text).filter (begins words)

structure Solid (front : List Char) : Prop where
  single : '\n' ∉ front
  head : (front.head?.all fun char => !isSpace char) = true
  last : (front.getLast?.all fun char => !isSpace char) = true
  nonempty : front ≠ []

instance (front : List Char) : Decidable (Solid front) :=
  decidable_of_iff ('\n' ∉ front ∧ (front.head?.all fun char => !isSpace char) = true ∧
      (front.getLast?.all fun char => !isSpace char) = true ∧ front ≠ [])
    ⟨fun ⟨single, head, last, nonempty⟩ => ⟨single, head, last, nonempty⟩,
      fun solid => ⟨solid.single, solid.head, solid.last, solid.nonempty⟩⟩

def Apart (front word : List Char) : Prop := ¬word <+: front ∧ ¬front <+: word

instance (front word : List Char) : Decidable (Apart front word) := inferInstanceAs (Decidable (_ ∧ _))

section Trim

theorem cut_append (front rest : List Char) (last : (front.getLast?.all fun char => !isSpace char) = true) :
    (front ++ rest).rdropWhile isSpace = front ++ rest.rdropWhile isSpace := by
  induction rest using List.reverseRecOn with
  | nil =>
      rw [List.append_nil, List.rdropWhile_nil, List.append_nil, List.rdropWhile_eq_self_iff]
      intro present
      rw [List.getLast?_eq_some_getLast present] at last
      simpa using last
  | append_singleton rest char ih =>
      rw [← List.append_assoc]
      by_cases space : isSpace char = true
      · rw [List.rdropWhile_concat_pos _ _ _ space, List.rdropWhile_concat_pos _ _ _ space, ih]
      · rw [List.rdropWhile_concat_neg _ _ _ space, List.rdropWhile_concat_neg _ _ _ space, List.append_assoc]

theorem trim_solid (front rest : List Char) (solid : Solid front) : trim (front ++ rest) = front ++ rest.rdropWhile isSpace := by
  obtain ⟨first, others, same⟩ := List.exists_cons_of_ne_nil solid.nonempty
  have head := solid.head
  have kept : (front ++ rest).dropWhile isSpace = front ++ rest := by
    rw [same] at head ⊢
    exact List.dropWhile_cons_of_neg (by simpa using head)
  rw [trim, kept, cut_append front rest solid.last]

theorem trim_subset (line : List Char) : trim line ⊆ line :=
  fun _ member => List.dropWhile_subset isSpace ((List.rdropWhile_prefix _ _).subset member)

end Trim

section Split

theorem split_front (front rest : List Char) (single : '\n' ∉ front) :
    ∃ first others, rest.splitOn '\n' = first :: others ∧ (front ++ rest).splitOn '\n' = (front ++ first) :: others := by
  obtain ⟨first, others, split⟩ := List.exists_cons_of_ne_nil (List.splitOn_ne_nil '\n' rest)
  exact ⟨first, others, split, by rw [Bytes.split_on_clean_append '\n' front rest single, split, List.modifyHead_cons]⟩

theorem split_back (text back : List Char) (single : '\n' ∉ back) :
    ∃ before last, text.splitOn '\n' = before ++ [last] ∧ (text ++ back).splitOn '\n' = before ++ [last ++ back] := by
  induction text with
  | nil => exact ⟨[], [], by rw [List.splitOn_nil]; rfl, List.splitOn_eq_singleton single⟩
  | cons char text ih =>
      obtain ⟨before, last, split, whole⟩ := ih
      rw [List.cons_append, List.splitOn_cons_eq_if_modifyHead, List.splitOn_cons_eq_if_modifyHead, split, whole]
      by_cases breaks : (char == '\n') = true
      · rw [if_pos breaks, if_pos breaks]
        exact ⟨[] :: before, last, rfl, rfl⟩
      · rw [if_neg breaks, if_neg breaks]
        cases before with
        | nil => exact ⟨[], char :: last, rfl, rfl⟩
        | cons first before => exact ⟨(char :: first) :: before, last, rfl, rfl⟩

theorem split_subset (text line : List Char) (member : line ∈ text.splitOn '\n') : line ⊆ text := by
  induction text generalizing line with
  | nil =>
      rw [List.splitOn_nil, List.mem_singleton] at member
      rw [member]
      exact List.Subset.refl []
  | cons char rest ih =>
      rw [List.splitOn_cons_eq_if_modifyHead] at member
      by_cases breaks : (char == '\n') = true
      · rw [if_pos breaks] at member
        rcases List.mem_cons.mp member with rfl | later
        · exact List.nil_subset _
        · exact fun _ inside => List.mem_cons_of_mem char (ih line later inside)
      · rw [if_neg breaks] at member
        obtain ⟨first, others, split⟩ := List.exists_cons_of_ne_nil (List.splitOn_ne_nil '\n' rest)
        rw [split, List.modifyHead_cons] at member
        rcases List.mem_cons.mp member with rfl | later
        · exact List.cons_subset_cons char (ih first (by rw [split]; exact List.mem_cons_self))
        · exact fun _ inside => List.mem_cons_of_mem char (ih line (by rw [split]; exact List.mem_cons_of_mem _ later) inside)

end Split

section Told

variable (words : List (List Char))

theorem told_nothing (text : List Char) : told [] text = [] := by
  rw [told, List.filter_eq_nil_iff]
  intro line _
  exact Bool.false_ne_true

theorem told_nil_iff (text : List Char) : told words text = [] ↔ ∀ line ∈ text.splitOn '\n', ∀ word ∈ words, ¬word <+: trim line := by
  simp only [told, read, begins, List.filter_eq_nil_iff, List.mem_map, forall_exists_index, and_imp, forall_apply_eq_imp_iff₂,
    List.any_eq_true, List.isPrefixOf_iff_prefix, not_exists, not_and]

theorem told_line (text rest : List Char) : told words (text ++ '\n' :: rest) = told words text ++ told words rest := by
  rw [told, told, told, read, read, read, List.splitOn_append_cons_self, List.map_append, List.filter_append]

theorem told_empty (proper : [] ∉ words) : told words [] = [] := by
  rw [told_nil_iff, List.splitOn_nil]
  intro line member word listed within
  rw [List.mem_singleton.mp member] at within
  exact proper (List.prefix_nil.mp within ▸ listed)

theorem apart_append (front rest word : List Char) (apart : Apart front word) : ¬word <+: front ++ rest := by
  intro begins
  rcases List.prefix_or_prefix_of_prefix begins (List.prefix_append front rest) with within | beyond
  · exact apart.1 within
  · exact apart.2 beyond

theorem apart_longer (front rest word : List Char) (apart : Apart front word) : Apart (front ++ rest) word :=
  ⟨apart_append front rest word apart, fun begins => apart.2 ((List.prefix_append front rest).trans begins)⟩

theorem told_apart (front rest : List Char) (solid : Solid front) (apart : ∀ word ∈ words, Apart front word)
    (others : ∀ line ∈ (rest.splitOn '\n').tail, ∀ word ∈ words, ¬word <+: trim line) : told words (front ++ rest) = [] := by
  obtain ⟨first, later, split, whole⟩ := split_front front rest solid.single
  rw [told_nil_iff, whole]
  intro line member word listed
  rcases List.mem_cons.mp member with rfl | behind
  · rw [trim_solid front first solid]
    exact apart_append front _ word (apart word listed)
  · exact others line (by rw [split]; exact behind) word listed

theorem told_single (front rest : List Char) (solid : Solid front) (apart : ∀ word ∈ words, Apart front word)
    (single : '\n' ∉ rest) : told words (front ++ rest) = [] := by
  apply told_apart words front rest solid apart
  rw [List.splitOn_eq_singleton single]
  exact nofun

theorem told_missing (front rest : List Char) (solid : Solid front) (apart : ∀ word ∈ words, Apart front word)
    (missing : ∀ word ∈ words, ∃ char ∈ word, char ∉ rest) : told words (front ++ rest) = [] := by
  apply told_apart words front rest solid apart
  intro line member word listed within
  obtain ⟨char, held, absent⟩ := missing word listed
  exact absent (split_subset rest line (List.mem_of_mem_tail member) (trim_subset line (within.subset held)))

theorem prefix_before (word line back : List Char) (mark : Char) (free : mark ∉ word) (within : word <+: line ++ mark :: back) :
    word <+: line := by
  have whole : line ++ mark :: back = line ++ [mark] ++ back := by rw [List.append_assoc]; rfl
  rw [whole] at within
  rcases List.prefix_or_prefix_of_prefix within (List.prefix_append (line ++ [mark]) back) with short | long
  · rcases List.prefix_concat_iff.mp short with same | inside
    · exact absurd (by rw [same]; simp) free
    · exact inside
  · exact absurd (long.subset (by simp)) free

theorem prefix_trim (word line : List Char) (solid : Solid word) (within : word <+: line.dropWhile isSpace) : word <+: trim line := by
  obtain ⟨rest, same⟩ := within
  rw [trim, ← same, cut_append word rest solid.last]
  exact List.prefix_append _ _

theorem marked_line (word line back : List Char) (mark : Char) (solid : Solid word) (free : mark ∉ word)
    (visible : isSpace mark = false) (within : word <+: trim (line ++ mark :: back)) : word <+: trim line := by
  have stopped : (mark :: back).dropWhile isSpace = mark :: back :=
    List.dropWhile_cons_of_neg (by rw [visible]; exact Bool.false_ne_true)
  have before : word <+: (line ++ mark :: back).dropWhile isSpace := within.trans (List.rdropWhile_prefix _ _)
  rw [List.dropWhile_append, stopped] at before
  split at before
  · have nothing := prefix_before word [] back mark free before
    exact absurd (List.prefix_nil.mp nothing) solid.nonempty
  · exact prefix_trim word line solid (prefix_before word _ back mark free before)

theorem told_framed (front other text back : List Char) (mark : Char) (solid : Solid front)
    (apart : ∀ word ∈ words, Apart front word) (proper : ∀ word ∈ words, Solid word ∧ mark ∉ word) (visible : isSpace mark = false)
    (clean : '\n' ∉ other) (closed : '\n' ∉ mark :: back) (quiet : told words (other ++ text) = []) :
    told words (front ++ (text ++ mark :: back)) = [] := by
  apply told_apart words front _ solid apart
  rw [told_nil_iff] at quiet
  obtain ⟨first, later, split, whole⟩ := split_front other text clean
  rw [whole] at quiet
  obtain ⟨before, last, parts, closing⟩ := split_back text (mark :: back) closed
  rw [closing]
  intro line member word listed within
  cases before with
  | nil => cases member
  | cons head before =>
      rw [parts, List.cons_append] at split
      obtain ⟨rfl, rfl⟩ := List.cons.inj split
      rcases List.mem_append.mp member with inside | ending
      · exact quiet line (List.mem_cons_of_mem _ (List.mem_append_left _ inside)) word listed within
      · rw [List.mem_singleton.mp ending] at within
        have listedLast : last ∈ (other ++ head) :: (before ++ [last]) := by simp
        exact quiet last listedLast word listed
          (marked_line word last back mark (proper word listed).1 (proper word listed).2 visible within)

end Told

structure Legible (text : List Char) : Prop where
  single : '\n' ∉ text
  closed : (text.getLast?.all fun char => !isSpace char) = true

def firstLine (text : List Char) : List Char := (text.takeWhile fun char => char ≠ '\n').rdropWhile isSpace

section Heard

theorem split_first_line (text : List Char) : ∃ others, text.splitOn '\n' = (text.takeWhile fun char => char ≠ '\n') :: others := by
  induction text with
  | nil => exact ⟨[], List.splitOn_nil _⟩
  | cons char rest ih =>
      obtain ⟨others, split⟩ := ih
      rw [List.splitOn_cons_eq_if_modifyHead, split]
      by_cases breaks : char = '\n'
      · subst char
        exact ⟨_, rfl⟩
      · rw [if_neg (by simpa using breaks), List.takeWhile_cons_of_pos (by simpa using breaks)]
        exact ⟨others, rfl⟩

theorem first_line_legible (text : List Char) : Legible (firstLine text) := by
  refine ⟨?_, ?_⟩
  · intro member
    have within := (List.rdropWhile_prefix isSpace _).subset member
    exact absurd (List.mem_takeWhile_imp within) (by simp)
  · cases ends : (firstLine text).getLast? with
    | none => rfl
    | some last =>
        obtain ⟨front, same⟩ := List.getLast?_eq_some_iff.mp ends
        have dropped := List.rdropWhile_idempotent isSpace (text.takeWhile fun char => char ≠ '\n')
        rw [← firstLine, same] at dropped
        by_contra space
        rw [List.rdropWhile_concat_pos _ _ _ (by simpa using space)] at dropped
        have shorter := (List.rdropWhile_prefix isSpace front).length_le
        rw [dropped, List.length_append, List.length_singleton] at shorter
        omega

theorem legible_first_line (text : List Char) (legible : Legible text) : firstLine text = text := by
  have whole : (text.takeWhile fun char => char ≠ '\n') = text := by
    rw [List.takeWhile_eq_self_iff]
    intro char member
    exact decide_eq_true fun same => legible.single (same ▸ member)
  have kept := cut_append text [] legible.closed
  rw [List.append_nil, List.rdropWhile_nil, List.append_nil] at kept
  rw [firstLine, whole, kept]

theorem first_line_rest (text : List Char) :
    ∃ back, text = firstLine text ++ back ∧ (back = [] ∨ ∃ space more, back = space :: more ∧ isSpace space = true) := by
  let line := text.takeWhile fun char => char ≠ '\n'
  let behind := text.dropWhile fun char => char ≠ '\n'
  have whole : text = firstLine text ++ (line.rtakeWhile isSpace ++ behind) := by
    rw [← List.append_assoc, firstLine, List.rdropWhile_append_rtakeWhile, List.takeWhile_append_dropWhile]
  refine ⟨_, whole, ?_⟩
  cases spaces : line.rtakeWhile isSpace with
  | cons space more => exact .inr ⟨space, _, rfl, List.mem_rtakeWhile_imp (spaces ▸ List.mem_cons_self)⟩
  | nil =>
      cases rest : behind with
      | nil => exact .inl rfl
      | cons char more =>
          have stopped := List.head?_dropWhile_not (fun char => char ≠ '\n') text
          have head : (text.dropWhile fun char => char ≠ '\n').head? = some char := congrArg List.head? rest
          rw [head] at stopped
          have breaks : char = '\n' := by simpa using stopped
          exact .inr ⟨char, more, rfl, by rw [breaks]; decide⟩

theorem legible_behind (front rest : List Char) (solid : Solid front) : Legible (front ++ rest) ↔ Legible rest := by
  have single : '\n' ∉ front ++ rest ↔ '\n' ∉ rest := by simp [solid.single]
  rcases List.eq_nil_or_concat rest with rfl | ⟨before, last, rfl⟩
  · rw [List.append_nil]
    exact iff_of_true ⟨solid.single, solid.last⟩ ⟨List.not_mem_nil, rfl⟩
  · have same : (front ++ (before ++ [last])).getLast? = (before ++ [last]).getLast? := by
      rw [← List.append_assoc, List.getLast?_concat, List.getLast?_concat]
    rw [List.concat_eq_append] at single ⊢
    exact ⟨fun legible => ⟨single.mp legible.single, same ▸ legible.closed⟩,
      fun legible => ⟨single.mpr legible.single, same.symm ▸ legible.closed⟩⟩

theorem told_heard (words : List (List Char)) (front rest : List Char) (solid : Solid front)
    (heard : ∃ word ∈ words, word <+: front) :
    ∃ others, told words (front ++ rest) = (front ++ firstLine rest) :: others ∧ (Legible rest → others = []) := by
  obtain ⟨word, listed, within⟩ := heard
  obtain ⟨later, split⟩ := split_first_line rest
  obtain ⟨first, others, parts, whole⟩ := split_front front rest solid.single
  obtain ⟨rfl, rfl⟩ := List.cons.inj (split.symm.trans parts)
  have begun : begins words (front ++ firstLine rest) = true :=
    List.any_eq_true.mpr ⟨word, listed, List.isPrefixOf_iff_prefix.mpr (within.trans (List.prefix_append _ _))⟩
  refine ⟨(later.map trim).filter (begins words), ?_, ?_⟩
  · rw [told, read, whole, List.map_cons, trim_solid front _ solid]
    exact List.filter_cons_of_pos begun
  · intro legible
    rw [List.splitOn_eq_singleton legible.single] at split
    obtain ⟨_, rfl⟩ := List.cons.inj split
    rfl

end Heard

end Lines
