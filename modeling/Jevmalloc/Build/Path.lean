import Jevmalloc.Bytes

set_option autoImplicit false

namespace BuildScript

open Bytes

-- On a Unix host an operating-system string is its bytes.
abbrev OsString := List UInt8

def separator : UInt8 := 47
def dot : UInt8 := 46

inductive Component where
  | rootDir
  | curDir
  | parentDir
  | normal (name : OsString)
deriving DecidableEq

def component (piece : OsString) : Component :=
  if piece = [dot] then .curDir else if piece = [dot, dot] then .parentDir else .normal piece

-- Repeated separators and dots behind the front are no components.
def passed (piece : OsString) : Bool := piece = [] ∨ piece = [dot]

def frontComponents (front : OsString) (rest : List OsString) : List Component :=
  if front ≠ [] then [component front] else if rest = [] then [] else [.rootDir]

def piecesComponents : List OsString → List Component
  | [] => []
  | front :: rest => frontComponents front rest ++ (rest.filter fun piece => !passed piece).map component

namespace PathBuf

def components (path : OsString) : List Component := piecesComponents (path.splitOn separator)

def joinPieces (front : OsString) (rest : List OsString) : OsString :=
  if front = [] ∧ rest = [] then [separator] else [separator].intercalate (front :: rest)

def splitLast (path : OsString) : Option (OsString × OsString) :=
  match path.splitOn separator with
  | [] => none
  | front :: rest =>
      match rest.reverse.dropWhile passed with
      | last :: before => some (joinPieces front (before.dropWhile passed).reverse, last)
      | [] => if front = [] then none else some ([], front)

def parent (path : OsString) : Option OsString := (splitLast path).map Prod.fst

def fileName (path : OsString) : Option OsString :=
  match (splitLast path).map fun split => component split.2 with
  | some (.normal name) => some name
  | _ => none

def beforeLastDot (name : OsString) : Option OsString :=
  match name.reverse.dropWhile fun byte => byte ≠ dot with
  | [] => none
  | _ :: before => some before.reverse

-- A name without a dot, and one whose only dot is its first byte, is all stem.
def stem (name : OsString) : OsString :=
  match beforeLastDot name with
  | none => name
  | some before => if before = [] then name else before

def fileStem (path : OsString) : Option OsString := (fileName path).map stem

def join (base tail : OsString) : OsString :=
  if tail.head? = some separator ∨ base = [] then tail
  else if base.getLast? = some separator then base ++ tail else base ++ separator :: tail

theorem before_last_dot (front back : OsString) (plain : dot ∉ back) : beforeLastDot (front ++ dot :: back) = some front := by
  have passes : ∀ byte ∈ back.reverse, decide (byte ≠ dot) = true := by
    intro byte member
    exact decide_eq_true fun same => plain (same ▸ List.mem_reverse.mp member)
  have reversed : (front ++ dot :: back).reverse = back.reverse ++ dot :: front.reverse := by simp
  rw [beforeLastDot, reversed, List.dropWhile_append_of_pos passes, List.dropWhile_cons_of_neg (by simp)]
  simp

theorem stem_suffix (front back : OsString) (plain : dot ∉ back) (present : front ≠ []) : stem (front ++ dot :: back) = front := by
  rw [stem, before_last_dot front back plain]
  exact if_neg present

theorem before_last_dot_begins (name before : OsString) (found : beforeLastDot name = some before) : before <+: name := by
  unfold beforeLastDot at found
  cases behind : name.reverse.dropWhile fun byte => byte ≠ dot with
  | nil =>
      rw [behind] at found
      cases found
  | cons byte front =>
      rw [behind] at found
      obtain rfl := Option.some.inj found
      have reversed : byte :: front <:+ name.reverse := behind ▸ List.dropWhile_suffix _
      rw [← List.reverse_suffix, List.reverse_reverse]
      exact (List.suffix_cons byte front).trans reversed

theorem stem_begins (name : OsString) : stem name <+: name := by
  rw [stem]
  cases found : beforeLastDot name with
  | none => exact List.prefix_rfl
  | some before =>
      by_cases empty : before = []
      · simp only [if_pos empty]
        exact List.prefix_rfl
      · simp only [if_neg empty]
        exact before_last_dot_begins name before found

theorem front_components_same (front : OsString) (first second : List OsString) (some : first ≠ []) (other : second ≠ []) :
    frontComponents front first = frontComponents front second := by
  by_cases absolute : front ≠ []
  · rw [frontComponents, frontComponents, if_pos absolute, if_pos absolute]
  · rw [frontComponents, frontComponents, if_neg absolute, if_neg absolute, if_neg some, if_neg other]

theorem pieces_snoc (front : OsString) (rest : List OsString) (name : OsString) (kept : passed name = false) :
    piecesComponents (front :: (rest ++ [name])) = piecesComponents (front :: (rest ++ [[]])) ++ [component name] := by
  have same := front_components_same front (rest ++ [name]) (rest ++ [[]]) (by simp) (by simp)
  have trailing : passed [] = true := rfl
  simp only [piecesComponents, same, List.filter_append, List.filter_cons, List.filter_nil, kept, trailing, Bool.not_false,
    Bool.not_true, if_true, Bool.false_eq_true, if_false, List.map_append, List.map_cons, List.map_nil, List.append_nil,
    List.append_assoc]

theorem pieces_trailing (front : OsString) (rest : List OsString) (proper : front ≠ [] ∨ rest ≠ []) :
    piecesComponents (front :: (rest ++ [[]])) = piecesComponents (front :: rest) := by
  have same : frontComponents front (rest ++ [[]]) = frontComponents front rest := by
    rcases proper with absolute | longer
    · rw [frontComponents, frontComponents, if_pos absolute, if_pos absolute]
    · exact front_components_same front _ _ (by simp) longer
  have trailing : passed [] = true := rfl
  simp only [piecesComponents, same, List.filter_append, List.filter_cons, List.filter_nil, trailing, Bool.not_true,
    Bool.false_eq_true, if_false, List.append_nil]

theorem split_nonempty (path : OsString) (nonempty : path ≠ []) :
    ∃ front rest, path.splitOn separator = front :: rest ∧ (front ≠ [] ∨ rest ≠ []) := by
  obtain ⟨front, rest, split⟩ := List.exists_cons_of_ne_nil (List.splitOn_ne_nil separator path)
  refine ⟨front, rest, split, ?_⟩
  by_cases longer : rest = []
  · subst rest
    refine .inl ?_
    intro empty
    have whole := @List.intercalate_splitOn _ path _ _ separator
    rw [split, empty] at whole
    exact nonempty whole.symm
  · exact .inr longer

theorem components_join (directory name : OsString) (proper : passed name = false) (single : separator ∉ name) :
    components (join directory name) = components directory ++ [component name] := by
  have alone : name.splitOn separator = [name] := List.splitOn_eq_singleton single
  have relative : ¬name.head? = some separator := fun head => single (List.mem_of_mem_head? head)
  have present : name ≠ [] := by
    intro empty
    subst name
    cases proper
  by_cases empty : directory = []
  · subst directory
    rw [join, if_pos (.inr rfl), components, alone, components, List.splitOn_nil]
    simp [piecesComponents, frontComponents, present]
  · rw [join, if_neg (by simp [relative, empty])]
    by_cases ended : directory.getLast? = some separator
    · obtain ⟨base, rfl⟩ := List.getLast?_eq_some_iff.mp ended
      obtain ⟨front, rest, split⟩ := List.exists_cons_of_ne_nil (List.splitOn_ne_nil separator base)
      rw [if_pos ended, components, components, List.append_assoc, List.singleton_append, List.splitOn_append_cons_self,
        List.splitOn_append_cons_self, alone, List.splitOn_nil, split]
      exact pieces_snoc front rest name proper
    · obtain ⟨front, rest, split, proper'⟩ := split_nonempty directory empty
      rw [if_neg ended, components, components, List.splitOn_append_cons_self, alone, split, List.cons_append,
        pieces_snoc front rest name proper, pieces_trailing front rest proper']

theorem kept_drop_passed (pieces : List OsString) :
    (pieces.dropWhile passed).filter (fun piece => !passed piece) = pieces.filter fun piece => !passed piece := by
  induction pieces with
  | nil => rfl
  | cons piece rest ih =>
      by_cases skip : passed piece
      · rw [List.dropWhile_cons_of_pos skip, ih, List.filter_cons_of_neg (by simp [skip])]
      · rw [List.dropWhile_cons_of_neg skip]

theorem components_join_pieces (front : OsString) (rest : List OsString) (clean : ∀ piece ∈ front :: rest, separator ∉ piece) :
    components (joinPieces front rest) = piecesComponents (front :: (rest ++ [[]])) := by
  by_cases root : front = [] ∧ rest = []
  · obtain ⟨rfl, rfl⟩ := root
    rfl
  · rw [joinPieces, if_neg root, components, List.splitOn_intercalate separator clean (List.cons_ne_nil front rest)]
    exact (pieces_trailing front rest (by simpa only [ne_eq, ← not_and_or] using root)).symm

theorem filter_all_passed (rest : List OsString) (final : rest.reverse.dropWhile passed = []) :
    rest.filter (fun piece => !passed piece) = [] := by
  have nothing := kept_drop_passed rest.reverse
  rw [final, List.filter_nil, List.filter_reverse] at nothing
  exact List.reverse_eq_nil_iff.mp nothing.symm

section Final

variable (rest before : List OsString) (piece : OsString) (final : rest.reverse.dropWhile passed = piece :: before)
include final

theorem filter_final : rest.filter (fun piece => !passed piece) = (before.filter fun piece => !passed piece).reverse ++ [piece] := by
  have kept : passed piece = false := by
    have head := List.head?_dropWhile_not passed rest.reverse
    rw [final] at head
    exact head
  have both := kept_drop_passed rest.reverse
  rw [final, List.filter_reverse, List.filter_cons_of_pos (by simp [kept])] at both
  rw [← List.reverse_inj, ← both]
  simp

theorem final_within (other : OsString) (member : other ∈ piece :: before) : other ∈ rest := by
  rw [← final] at member
  exact List.mem_reverse.mp (List.dropWhile_subset passed member)

theorem components_final (front : OsString) (clean : ∀ piece ∈ front :: rest, separator ∉ piece) :
    piecesComponents (front :: rest) = components (joinPieces front (before.dropWhile passed).reverse) ++ [component piece] := by
  have above : ∀ other ∈ front :: (before.dropWhile passed).reverse, separator ∉ other := by
    intro other member
    apply clean
    rcases List.mem_cons.mp member with rfl | later
    · exact List.mem_cons_self
    · have found := List.dropWhile_subset passed (List.mem_reverse.mp later)
      exact List.mem_cons_of_mem front (final_within rest before piece final other (List.mem_cons_of_mem piece found))
  have longer : rest ≠ [] := List.ne_nil_of_mem (final_within rest before piece final piece List.mem_cons_self)
  have trailing : passed [] = true := rfl
  rw [components_join_pieces front _ above, piecesComponents, piecesComponents, filter_final rest before piece final,
    front_components_same front rest ((before.dropWhile passed).reverse ++ [[]]) longer (by simp), List.filter_append,
    List.filter_reverse, kept_drop_passed]
  simp only [List.filter_cons, List.filter_nil, trailing, Bool.not_true, Bool.false_eq_true, if_false, List.append_nil,
    List.map_append, List.map_cons, List.map_nil, List.append_assoc]

end Final

theorem components_split_last (path directory last : OsString) (split : splitLast path = some (directory, last)) :
    components path = components directory ++ [component last] ∧ separator ∉ last := by
  obtain ⟨front, rest, pieces⟩ := List.exists_cons_of_ne_nil (List.splitOn_ne_nil separator path)
  have clean : ∀ piece ∈ front :: rest, separator ∉ piece := by
    rw [← pieces]
    exact split_on_clean separator path
  simp only [splitLast, pieces] at split
  rw [components, pieces]
  cases final : rest.reverse.dropWhile passed with
  | nil =>
      rw [final] at split
      by_cases relative : front = []
      · simp [relative] at split
      · simp only [if_neg relative, Option.some.injEq, Prod.mk.injEq] at split
        obtain ⟨rfl, rfl⟩ := split
        refine ⟨?_, clean front List.mem_cons_self⟩
        rw [piecesComponents, filter_all_passed rest final, frontComponents, if_pos relative]
        rfl
  | cons piece before =>
      rw [final] at split
      simp only [Option.some.injEq, Prod.mk.injEq] at split
      obtain ⟨rfl, rfl⟩ := split
      have inside := final_within rest before piece final piece List.mem_cons_self
      exact ⟨components_final rest before piece final front clean, clean piece (List.mem_cons_of_mem front inside)⟩

theorem component_normal (piece name : OsString) (normal : component piece = .normal name) : piece = name := by
  unfold component at normal
  split at normal
  · cases normal
  · split at normal
    · cases normal
    · exact Component.normal.inj normal

theorem component_utf8 (piece : OsString) (valid : ∀ name, component piece = .normal name → IsUtf8 name) : IsUtf8 piece := by
  unfold component at valid
  split at valid
  · rename_i here
    exact ⟨".", by rw [here]; decide⟩
  · split at valid
    · rename_i above
      exact ⟨"..", by rw [above]; decide⟩
    · exact valid piece rfl

theorem names_utf8 (path : OsString) (valid : IsUtf8 path) (name : OsString) (member : .normal name ∈ components path) :
    IsUtf8 name := by
  have pieces : ∀ piece ∈ path.splitOn separator, IsUtf8 piece :=
    fun piece => is_utf8_pieces '/' (by decide) path piece valid
  obtain ⟨front, rest, split⟩ := List.exists_cons_of_ne_nil (List.splitOn_ne_nil separator path)
  rw [split] at pieces
  rw [components, split, piecesComponents] at member
  rcases List.mem_append.mp member with first | later
  · rw [frontComponents] at first
    by_cases relative : front ≠ []
    · rw [if_pos relative, List.mem_singleton] at first
      rw [← component_normal front name first.symm]
      exact pieces front List.mem_cons_self
    · rw [if_neg relative] at first
      split at first
      · cases first
      · simp at first
  · obtain ⟨piece, inside, same⟩ := List.mem_map.mp later
    rw [← component_normal piece name same]
    exact pieces piece (List.mem_cons_of_mem front (List.mem_of_mem_filter inside))

theorem utf8_of_names (path : OsString) (names : ∀ name, .normal name ∈ components path → IsUtf8 name) : IsUtf8 path := by
  obtain ⟨front, rest, split⟩ := List.exists_cons_of_ne_nil (List.splitOn_ne_nil separator path)
  rw [components, split, piecesComponents] at names
  have whole := @List.intercalate_splitOn _ path _ _ separator
  rw [split] at whole
  rw [← whole]
  apply is_utf8_joined '/' (by decide)
  intro piece member
  rcases List.mem_cons.mp member with rfl | later
  · by_cases relative : piece = []
    · exact ⟨"", by rw [relative]; decide⟩
    · apply component_utf8
      intro name normal
      apply names
      rw [frontComponents, if_pos relative, normal]
      simp
  · by_cases skip : passed piece = true
    · rcases of_decide_eq_true skip with rfl | rfl
      · exact ⟨"", by decide⟩
      · exact ⟨".", by decide⟩
    · apply component_utf8
      intro name normal
      apply names
      refine List.mem_append_right _ (List.mem_map.mpr ⟨piece, ?_, normal⟩)
      exact List.mem_filter.mpr ⟨later, by simp [skip]⟩

theorem same_components_utf8 (first second : OsString) (same : components first = components second) (valid : IsUtf8 first) :
    IsUtf8 second := by
  apply utf8_of_names
  rw [← same]
  exact names_utf8 first valid

def letters (path : OsString) : OsString := path.filter fun byte => byte ≠ separator ∧ byte ≠ dot

def componentLetters : Component → OsString
  | .normal name => letters name
  | _ => []

theorem letters_append (front back : OsString) : letters (front ++ back) = letters front ++ letters back :=
  List.filter_append _ _

theorem letters_component (piece : OsString) : componentLetters (component piece) = letters piece := by
  unfold component
  split
  · next here =>
      rw [here]
      rfl
  · split
    · next above =>
        rw [above]
        rfl
    · rfl

theorem letters_pieces (path : OsString) : (path.splitOn separator).flatMap letters = letters path := by
  induction path with
  | nil => rw [List.splitOn_nil]; rfl
  | cons byte rest ih =>
      have whole : letters (byte :: rest) = letters [byte] ++ letters rest := letters_append [byte] rest
      rw [List.splitOn_cons_eq_if_modifyHead, whole, ← ih]
      by_cases mark : (byte == separator) = true
      · rw [if_pos mark, List.flatMap_cons, (by simpa using mark : byte = separator)]
        rfl
      · rw [if_neg mark]
        obtain ⟨front, others, split⟩ := List.exists_cons_of_ne_nil (List.splitOn_ne_nil separator rest)
        rw [split, List.modifyHead_cons, List.flatMap_cons, List.flatMap_cons, ← List.append_assoc, ← letters_append]
        rfl

theorem letters_kept (pieces : List OsString) :
    ((pieces.filter fun piece => !passed piece).map component).flatMap componentLetters = pieces.flatMap letters := by
  induction pieces with
  | nil => rfl
  | cons piece rest ih =>
      rw [List.flatMap_cons, ← ih]
      by_cases skip : passed piece = true
      · rw [List.filter_cons_of_neg (by simp [skip])]
        rcases of_decide_eq_true skip with rfl | rfl <;> rfl
      · rw [List.filter_cons_of_pos (by simp [skip]), List.map_cons, List.flatMap_cons, letters_component]

theorem letters_components (path : OsString) : (components path).flatMap componentLetters = letters path := by
  obtain ⟨front, rest, split⟩ := List.exists_cons_of_ne_nil (List.splitOn_ne_nil separator path)
  have first : (frontComponents front rest).flatMap componentLetters = letters front := by
    unfold frontComponents
    by_cases relative : front = []
    · subst relative
      rw [if_neg (by simp)]
      split <;> rfl
    · rw [if_pos relative, List.flatMap_cons, letters_component]
      exact List.append_nil _
  rw [components, ← letters_pieces, split, piecesComponents, List.flatMap_append, first, letters_kept, List.flatMap_cons]

theorem same_components_rest (front back : OsString) (same : components (front ++ back) = components front) (byte : UInt8)
    (member : byte ∈ back) : byte = separator ∨ byte = dot := by
  have equal : letters front ++ letters back = letters front := by
    rw [← letters_append, ← letters_components, same, letters_components]
  have nothing : letters back = [] := List.append_right_eq_self.mp equal
  have dropped := List.filter_eq_nil_iff.mp nothing byte member
  rw [decide_eq_true_eq, not_and_or, not_not, not_not] at dropped
  exact dropped

end PathBuf

end BuildScript
