set_option autoImplicit false

namespace Files

-- A directory tree over any names and any contents. The order of the entries
-- is the one in which a directory lists them.
mutual
inductive Tree (N C : Type) where
  | leaf (content : C)
  | dir (entries : Forest N C)

inductive Forest (N C : Type) where
  | nil
  | cons (name : N) (child : Tree N C) (rest : Forest N C)
end

inductive Entry (C : Type) where
  | leaf (content : C)
  | dir

variable {N C D : Type}

def Entry.map (change : C → D) : Entry C → Entry D
  | .leaf content => .leaf (change content)
  | .dir => .dir

mutual
def Tree.map (change : C → D) : Tree N C → Tree N D
  | .leaf content => .leaf (change content)
  | .dir entries => .dir (entries.map change)

def Forest.map (change : C → D) : Forest N C → Forest N D
  | .nil => .nil
  | .cons name child rest => .cons name (child.map change) (rest.map change)
end

namespace Forest

def append : Forest N C → Forest N C → Forest N C
  | .nil, back => back
  | .cons name child rest, back => .cons name child (rest.append back)

def Missing (target : N) : Forest N C → Prop
  | .nil => True
  | .cons name _ rest => target ≠ name ∧ rest.Missing target

-- No entry of the first has a name of the second.
def Apart : Forest N C → Forest N D → Prop
  | .nil, _ => True
  | .cons name _ rest, other => other.Missing name ∧ rest.Apart other

variable [DecidableEq N]

def find (target : N) : Forest N C → Option (Tree N C)
  | .nil => none
  | .cons name child rest => if target = name then some child else rest.find target

def put (target : N) (tree : Tree N C) : Forest N C → Forest N C
  | .nil => .cons target tree .nil
  | .cons name child rest => if target = name then .cons name tree rest else .cons name child (rest.put target tree)

end Forest

mutual
def Tree.Distinct : Tree N C → Prop
  | .leaf _ => True
  | .dir entries => entries.Distinct

def Forest.Distinct : Forest N C → Prop
  | .nil => True
  | .cons name child rest => child.Distinct ∧ rest.Distinct ∧ rest.Missing name
end

mutual
def Tree.look [DecidableEq N] : Tree N C → List N → Option (Entry C)
  | .leaf content, [] => some (.leaf content)
  | .leaf _, _ :: _ => none
  | .dir _, [] => some .dir
  | .dir entries, name :: path => entries.look name path

def Forest.look [DecidableEq N] : Forest N C → N → List N → Option (Entry C)
  | .nil, _, _ => none
  | .cons name child rest, target, path => if target = name then child.look path else rest.look target path
end

section Append

theorem append_nil (forest : Forest N C) : forest.append .nil = forest := by
  cases forest with
  | nil => rfl
  | cons name child rest => exact congrArg (Forest.cons name child) (append_nil rest)

theorem append_cons (front : Forest N C) (name : N) (child : Tree N C) (rest : Forest N C) :
    (front.append (.cons name child .nil)).append rest = front.append (.cons name child rest) := by
  cases front with
  | nil => rfl
  | cons first tree more => exact congrArg (Forest.cons first tree) (append_cons more name child rest)

theorem missing_append (target : N) (front back : Forest N C) :
    (front.append back).Missing target ↔ front.Missing target ∧ back.Missing target := by
  cases front with
  | nil => exact ⟨fun missing => ⟨trivial, missing⟩, fun missing => missing.2⟩
  | cons name child rest =>
      have below := missing_append target rest back
      constructor
      · rintro ⟨different, missing⟩
        exact ⟨⟨different, (below.mp missing).1⟩, (below.mp missing).2⟩
      · rintro ⟨⟨different, missing⟩, also⟩
        exact ⟨different, below.mpr ⟨missing, also⟩⟩

theorem apart_nil (forest : Forest N C) : forest.Apart (.nil : Forest N D) := by
  cases forest with
  | nil => trivial
  | cons name child rest => exact ⟨trivial, apart_nil rest⟩

theorem apart_append (forest : Forest N C) (other : Forest N D) (name : N) (tree : Tree N D) (apart : forest.Apart other)
    (missing : forest.Missing name) : forest.Apart (other.append (.cons name tree .nil)) := by
  cases forest with
  | nil => trivial
  | cons first child rest =>
      refine ⟨(missing_append first other _).mpr ⟨apart.1, fun same => missing.1 same.symm, trivial⟩, ?_⟩
      exact apart_append rest other name tree apart.2 missing.2

end Append

section Lookup

variable [DecidableEq N]

theorem find_missing (target : N) (forest : Forest N C) (missing : forest.Missing target) : forest.find target = none := by
  cases forest with
  | nil => rfl
  | cons name child rest =>
      rw [Forest.find, if_neg missing.1]
      exact find_missing target rest missing.2

theorem put_missing (target : N) (tree : Tree N C) (forest : Forest N C) (missing : forest.Missing target) :
    forest.put target tree = forest.append (.cons target tree .nil) := by
  cases forest with
  | nil => rfl
  | cons name child rest =>
      rw [Forest.put, if_neg missing.1]
      exact congrArg (Forest.cons name child) (put_missing target tree rest missing.2)

theorem find_put (target other : N) (tree : Tree N C) (forest : Forest N C) :
    (forest.put target tree).find other = if other = target then some tree else forest.find other := by
  cases forest with
  | nil => rfl
  | cons name child rest =>
      by_cases same : target = name
      · subst target
        rw [Forest.put, if_pos rfl, Forest.find, Forest.find]
        by_cases hit : other = name
        · rw [if_pos hit, if_pos hit]
        · rw [if_neg hit, if_neg hit, if_neg hit]
      · rw [Forest.put, if_neg same, Forest.find, Forest.find, find_put target other tree rest]
        by_cases hit : other = name
        · have different : other ≠ target := fun is => same (is.symm.trans hit)
          rw [if_pos hit, if_neg different, if_pos hit]
        · rw [if_neg hit, if_neg hit]

theorem look_find (forest : Forest N C) (target : N) (path : List N) :
    forest.look target path = (forest.find target).bind fun tree => tree.look path := by
  cases forest with
  | nil => rfl
  | cons name child rest =>
      rw [Forest.look, Forest.find]
      by_cases same : target = name
      · rw [if_pos same, if_pos same]
        rfl
      · rw [if_neg same, if_neg same]
        exact look_find rest target path

theorem look_put (target other : N) (tree : Tree N C) (forest : Forest N C) (path : List N) :
    (forest.put target tree).look other path = if other = target then tree.look path else forest.look other path := by
  rw [look_find, find_put]
  by_cases same : other = target
  · rw [if_pos same, if_pos same]
    rfl
  · rw [if_neg same, if_neg same, look_find]

theorem look_missing (target : N) (forest : Forest N C) (missing : forest.Missing target) (path : List N) :
    forest.look target path = none := by
  rw [look_find, find_missing target forest missing]
  rfl

end Lookup

section Map

variable [DecidableEq N] (change : C → D)

mutual
theorem look_map (tree : Tree N C) (path : List N) : (tree.map change).look path = (tree.look path).map (Entry.map change) := by
  cases tree with
  | leaf content => cases path <;> rfl
  | dir entries =>
      cases path with
      | nil => rfl
      | cons name path => exact look_map_entries entries name path

theorem look_map_entries (forest : Forest N C) (target : N) (path : List N) :
    (forest.map change).look target path = (forest.look target path).map (Entry.map change) := by
  cases forest with
  | nil => rfl
  | cons name child rest =>
      rw [Forest.map, Forest.look, Forest.look]
      by_cases same : target = name
      · rw [if_pos same, if_pos same]
        exact look_map child path
      · rw [if_neg same, if_neg same]
        exact look_map_entries rest target path
end

omit [DecidableEq N] in
mutual
theorem map_injective (injective : ∀ one other, change one = change other → one = other) (first second : Tree N C)
    (same : first.map change = second.map change) : first = second := by
  cases first with
  | leaf content =>
      cases second with
      | leaf other => rw [injective content other (Tree.leaf.inj same)]
      | dir entries => cases same
  | dir entries =>
      cases second with
      | leaf other => cases same
      | dir others => rw [map_entries_injective injective entries others (Tree.dir.inj same)]

theorem map_entries_injective (injective : ∀ one other, change one = change other → one = other) (first second : Forest N C)
    (same : first.map change = second.map change) : first = second := by
  cases first with
  | nil =>
      cases second with
      | nil => rfl
      | cons name child rest => cases same
  | cons name child rest =>
      cases second with
      | nil => cases same
      | cons other tree more =>
          obtain ⟨rfl, below, besides⟩ := Forest.cons.inj same
          rw [map_injective injective child tree below, map_entries_injective injective rest more besides]
end

end Map

end Files
