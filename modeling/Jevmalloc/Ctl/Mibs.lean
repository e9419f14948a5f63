import Jevmalloc.Ctl.Key

set_option autoImplicit false

namespace Jevmalloc

open Interaction Bytes

theorem encoded_dots (char : Char) : (String.utf8EncodeChar char).count 46 = if char = '.' then 1 else 0 := by
  by_cases dot : char = '.'
  · subst dot
    rfl
  · rw [if_neg dot, List.count_eq_zero]
    intro member
    exact dot (Char.ext (UInt32.toNat_inj.mp (encoded_ascii char 46 (by decide) member)))

theorem components_count (name : String) : (components name).length = name.toList.count '.' + 1 := by
  rw [components, split_on_length, utf8_chars]
  congr 1
  induction name.toList with
  | nil => rfl
  | cons char rest ih =>
      rw [List.flatMap_cons, List.count_append, ih, encoded_dots, List.count_cons, Nat.add_comm]
      simp only [beq_iff_eq]

-- The unsafe set_len of an ArrayVec: within the capacity, and with every slot
-- it exposes already written.
def Key.setLen (slots : List Nat) (len : Nat) : Option Key :=
  if inside : len ≤ keySegs ∧ len ≤ slots.length then
    some ⟨slots.take len, Nat.le_trans (List.length_take_le len slots) inside.1⟩
  else none

def ValidName (name : String) : Prop :=
  utf8 name ≠ [] ∧ (utf8 name).length ≤ nameMax - 1 ∧ 0 ∉ utf8 name ∧ (components name).length ≤ keySegs

def Rejected (code : Int) (result : Except Error Key) : Prop :=
  ∃ error, Error.fromCode code = some error ∧ error.code = code ∧ result = .error error

structure Translated (name : String) (response : MibResponse keySegs) (result : Except Error Key) : Prop where
  accepted : (∃ key, result = .ok key) ↔ response.status = 0 ∧ response.len = (components name).length
  whole : ∀ key, result = .ok key → Key.setLen response.slots response.len = some key ∧ key.val = response.slots ∧
    key.val.length = (components name).length ∧ 1 ≤ key.val.length ∧ key.val.length ≤ keySegs
  refused : response.status ≠ 0 → Rejected response.status result
  mismatched : response.status = 0 → response.len ≠ (components name).length → Rejected einval result

theorem accept_translates (name : String) (shallow : (components name).length ≤ keySegs)
    (response : MibResponse keySegs) : Translated name response (accept (components name).length response) where
  accepted := by
    constructor
    · intro ⟨key, ok⟩
      obtain ⟨done, same, _, _⟩ := (accept_ok_iff _ response key).mp ok
      exact ⟨done, same⟩
    · intro facts
      have written := response.written
      have room : response.slots.length ≤ keySegs := by omega
      exact ⟨⟨response.slots, room⟩, (accept_ok_iff _ response _).mpr ⟨facts.1, facts.2, shallow, rfl⟩⟩
  whole := by
    intro key ok
    obtain ⟨_, same, _, slots⟩ := (accept_ok_iff _ response key).mp ok
    have written := response.written
    have filled : response.slots.length = response.len := by omega
    have exposed : Key.setLen response.slots response.len = some key := by
      rw [Key.setLen, dif_pos ⟨by omega, by omega⟩]
      have all : response.slots.take response.len = response.slots := List.take_of_length_le (by omega)
      exact congrArg some (Subtype.ext (all.trans slots.symm))
    have positive := components_nonempty name
    rw [slots]
    exact ⟨exposed, rfl, by omega, by omega, by omega⟩
  refused := by
    intro failed
    refine ⟨⟨response.status, failed⟩, from_code_nonzero _ failed, rfl, ?_⟩
    simp [accept, intoResult, failed, bind, Except.bind]
  mismatched := by
    intro done other
    refine ⟨.invalidArgument, from_code_nonzero _ _, rfl, ?_⟩
    simp [accept, intoResult, done, other, bind, Except.bind]

section Issue

variable {Op : Type} (R : Op → Type)

def Issues (program : Ctl R (Except Error Key)) : Prop :=
  ∃ buffer capacity resume, program = .call (.cache (.nametomib buffer capacity)) resume

theorem valid_name_checks (name : String) : ValidName name ↔
    ¬(utf8 name = [] ∨ nameMax ≤ (utf8 name).length ∨ 0 ∈ utf8 name ∨ keySegs < (components name).length) := by
  have room : 0 < nameMax := by decide
  simp only [ValidName, not_or, Nat.not_lt, Nat.not_le, Nat.le_sub_one_iff_lt room]

theorem mibs_rejects (name : String) (invalid : ¬ValidName name) : mibs R name = .ret (.error .invalidArgument) := by
  rw [valid_name_checks, Decidable.not_not] at invalid
  rw [mibs, if_pos invalid]
  rfl

theorem mibs_exact (name : String) :
    (components name).length = name.toList.count '.' + 1 ∧
    (Issues R (mibs R name) ↔ ValidName name) ∧
    (¬ValidName name → ∃ result, mibs R name = .ret result ∧ Rejected einval result) ∧
    (ValidName name → ∃ buffer resume, mibs R name = .call (.cache (.nametomib buffer keySegs)) resume ∧
      buffer.length = nameMax ∧ 0 ∈ buffer ∧ cString buffer = utf8 name ∧
      ∀ response, ∃ result, resume response = .ret result ∧ Translated name response result) := by
  refine ⟨components_count name, ?_, ?_, ?_⟩
  · constructor
    · intro ⟨buffer, capacity, resume, issued⟩
      apply Classical.byContradiction
      intro invalid
      rw [mibs_rejects R name invalid] at issued
      cases issued
    · intro valid
      obtain ⟨buffer, _, _, issued⟩ := mibs_issues R name ((valid_name_checks name).mp valid)
      exact ⟨buffer, keySegs, _, issued⟩
  · intro invalid
    exact ⟨_, mibs_rejects R name invalid, .invalidArgument, from_code_nonzero _ _, rfl, rfl⟩
  · intro valid
    obtain ⟨buffer, length, text, issued⟩ := mibs_issues R name ((valid_name_checks name).mp valid)
    have terminated : 0 ∈ buffer := by
      have short := valid.2.1
      apply c_string_terminator
      rw [text, length]
      exact Nat.lt_of_le_of_lt short (by decide)
    refine ⟨buffer, _, issued, length, terminated, text, ?_⟩
    intro response
    exact ⟨_, rfl, accept_translates name valid.2.2.2 response⟩

end Issue

end Jevmalloc
