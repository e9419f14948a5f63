import Jevmalloc.Build.Path
import Jevmalloc.Files.Tree

set_option autoImplicit false

namespace BuildScript

open Files

-- At the source, what is no directory has the bytes that copying it reads,
-- through links, or cannot be read: a dangling link, or one to a directory.
abbrev Content := Option (List UInt8)

abbrev FileTree := Tree OsString Content
abbrev FileForest := Forest OsString Content

-- At the target there are directories and regular files, and no links: a copy
-- would go through those and out of the tree.
abbrev TargetTree := Tree OsString (List UInt8)
abbrev TargetForest := Forest OsString (List UInt8)

-- Which operations work, by the path of what they are applied to. Any of them
-- may fail anywhere.
structure Io where
  createDirAll : List OsString → Bool
  readDir : List OsString → Bool
  copy : List OsString → Bool

namespace Io

def copyFile (io : Io) (path : List OsString) (content : Content) (target : Option TargetTree) : Option TargetTree :=
  match content, target with
  | some bytes, none => if io.copy path then some (.leaf bytes) else none
  | some bytes, some (.leaf _) => if io.copy path then some (.leaf bytes) else none
  | _, _ => none

mutual
def copyRecursively (io : Io) (path : List OsString) : FileTree → Option TargetTree → Option TargetTree
  | .leaf _, _ => none
  | .dir entries, none =>
      if io.createDirAll path ∧ io.readDir path then (io.copyEntries path entries .nil).map .dir else none
  | .dir entries, some (.dir existing) =>
      if io.readDir path then (io.copyEntries path entries existing).map .dir else none
  -- Nothing fails over a file in the place of a directory that has no entries.
  | .dir .nil, some (.leaf bytes) => if io.readDir path then some (.leaf bytes) else none
  | .dir (.cons _ _ _), some (.leaf _) => none

def copyEntries (io : Io) (path : List OsString) : FileForest → TargetForest → Option TargetForest
  | .nil, target => some target
  | .cons name (.leaf content) rest, target =>
      (io.copyFile (path ++ [name]) content (target.find name)).bind fun made =>
        io.copyEntries path rest (target.put name made)
  | .cons name (.dir entries) rest, target =>
      (io.copyRecursively (path ++ [name]) (.dir entries) (target.find name)).bind fun made =>
        io.copyEntries path rest (target.put name made)
end

def copyEntry (io : Io) (path : List OsString) : FileTree → Option TargetTree → Option TargetTree
  | .leaf content, target => io.copyFile path content target
  | .dir entries, target => io.copyRecursively path (.dir entries) target

end Io

mutual
def Copyable (io : Io) (path : List OsString) : FileTree → Prop
  | .leaf content => content.isSome = true ∧ io.copy path = true
  | .dir entries => (io.createDirAll path = true ∧ io.readDir path = true) ∧ CopyableEntries io path entries

def CopyableEntries (io : Io) (path : List OsString) : FileForest → Prop
  | .nil => True
  | .cons name child rest => Copyable io (path ++ [name]) child ∧ CopyableEntries io path rest
end

section Copy

variable (io : Io)

theorem copy_entries_cons (path : List OsString) (name : OsString) (child : FileTree) (rest : FileForest) (target : TargetForest) :
    io.copyEntries path (.cons name child rest) target =
      (io.copyEntry (path ++ [name]) child (target.find name)).bind fun made => io.copyEntries path rest (target.put name made) := by
  cases child <;> rfl

theorem copy_file_fresh (path : List OsString) (content : Content) (result : TargetTree) :
    io.copyFile path content none = some result ↔ Copyable io path (.leaf content) ∧ Tree.leaf content = result.map some := by
  rw [Copyable]
  cases content with
  | none => simp [Io.copyFile]
  | some bytes =>
      by_cases works : io.copy path
      · cases result with
        | leaf other => simp [Io.copyFile, works, Files.Tree.map]
        | dir entries => simp [Io.copyFile, works, Files.Tree.map]
      · simp [Io.copyFile, works]

mutual
theorem copy_entry_fresh (path : List OsString) (source : FileTree) (result : TargetTree) (distinct : source.Distinct) :
    io.copyEntry path source none = some result ↔ Copyable io path source ∧ source = result.map some := by
  cases source with
  | leaf content => exact copy_file_fresh io path content result
  | dir entries =>
      have copied := copy_entries_fresh path entries .nil
      rw [Io.copyEntry, Io.copyRecursively, Copyable]
      by_cases works : io.createDirAll path ∧ io.readDir path
      · rw [if_pos works, Option.map_eq_some_iff]
        constructor
        · rintro ⟨_, same, rfl⟩
          obtain ⟨copyable, made, rfl, rfl⟩ := (copied _ distinct (apart_nil entries)).mp same
          exact ⟨⟨works, copyable⟩, rfl⟩
        · rintro ⟨⟨_, copyable⟩, same⟩
          cases result with
          | leaf other => cases same
          | dir made =>
              exact ⟨made, (copied made distinct (apart_nil entries)).mpr ⟨copyable, made, Tree.dir.inj same, rfl⟩, rfl⟩
      · rw [if_neg works]
        constructor
        · intro same
          cases same
        · rintro ⟨⟨does, _⟩, _⟩
          exact absurd does works

theorem copy_entries_fresh (path : List OsString) (entries : FileForest) (target result : TargetForest)
    (distinct : entries.Distinct) (apart : entries.Apart target) : io.copyEntries path entries target = some result ↔
      CopyableEntries io path entries ∧ ∃ made, entries = made.map some ∧ result = target.append made := by
  cases entries with
  | nil =>
      rw [Io.copyEntries, CopyableEntries]
      constructor
      · intro same
        exact ⟨trivial, .nil, rfl, (Option.some.inj same).symm.trans (append_nil target).symm⟩
      · rintro ⟨_, made, same, rfl⟩
        cases made with
        | nil => rw [append_nil]
        | cons name child rest => cases same
  | cons name child rest =>
      obtain ⟨below, besides, missing⟩ := distinct
      have first := fun made => copy_entry_fresh (path ++ [name]) child made below
      rw [copy_entries_cons, CopyableEntries, find_missing name target apart.1, Option.bind_eq_some_iff]
      constructor
      · rintro ⟨made, same, copied⟩
        obtain ⟨copyable, exact_copy⟩ := (first made).mp same
        rw [put_missing name made target apart.1] at copied
        have others := apart_append rest target name made apart.2 missing
        obtain ⟨also, more, rest_copy, rfl⟩ := (copy_entries_fresh path rest _ result besides others).mp copied
        exact ⟨⟨copyable, also⟩, .cons name made more, by rw [exact_copy, rest_copy]; rfl, append_cons target name made more⟩
      · rintro ⟨⟨copyable, also⟩, all, same, rfl⟩
        cases all with
        | nil => cases same
        | cons other made more =>
            obtain ⟨rfl, exact_copy, rest_copy⟩ := Forest.cons.inj same
            refine ⟨made, (first made).mpr ⟨copyable, exact_copy⟩, ?_⟩
            rw [put_missing name made target apart.1, ← append_cons target name made more]
            have others := apart_append rest target name made apart.2 missing
            exact (copy_entries_fresh path rest _ _ besides others).mpr ⟨also, more, rest_copy, rfl⟩
end

structure Overlays {P : Type} (source : P → Option (Entry Content)) (before after : P → Option (Entry (List UInt8))) : Prop where
  files : ∀ path content, source path = some (.leaf content) → ∃ bytes, content = some bytes ∧ after path = some (.leaf bytes)
  kept : ∀ path, source path = none → after path = before path
  dirs : ∀ path, source path = some .dir → after path = some .dir ∨
    ∃ bytes, before path = some (.leaf bytes) ∧ after path = some (.leaf bytes)

theorem copy_file_result (path : List OsString) (content : Content) (target : Option TargetTree) (result : TargetTree)
    (copied : io.copyFile path content target = some result) :
    (∃ bytes, content = some bytes ∧ result = .leaf bytes) ∧ ∀ name path, target.bind (Tree.look · (name :: path)) = none := by
  have written : ∀ bytes, (if io.copy path then some (.leaf bytes) else none) = some result → result = .leaf bytes := by
    intro bytes same
    by_cases works : io.copy path
    · rw [if_pos works] at same
      exact (Option.some.inj same).symm
    · rw [if_neg works] at same
      cases same
  cases content with
  | none => cases copied
  | some bytes =>
      cases target with
      | none => exact ⟨⟨bytes, rfl, written bytes copied⟩, fun _ _ => rfl⟩
      | some target =>
          cases target with
          | dir entries => cases copied
          | leaf old => exact ⟨⟨bytes, rfl, written bytes copied⟩, fun _ _ => rfl⟩

theorem copy_file_overlays (path : List OsString) (content : Content) (target : Option TargetTree) (result : TargetTree)
    (copied : io.copyFile path content target = some result) :
    Overlays (Tree.look (.leaf content)) (fun path => target.bind (Tree.look · path)) result.look := by
  obtain ⟨⟨bytes, rfl, rfl⟩, below⟩ := copy_file_result io path content target result copied
  refine ⟨?_, ?_, ?_⟩
  · intro path other found
    cases path with
    | nil =>
        cases found
        exact ⟨bytes, rfl, rfl⟩
    | cons name rest => cases found
  · intro path absent
    cases path with
    | nil => cases absent
    | cons name rest => exact (below name rest).symm
  · intro path found
    cases path with
    | nil => cases found
    | cons name rest => cases found

omit io in
theorem overlays_dir (entries : FileForest) (existing made : TargetForest) (before : List OsString → Option (Entry (List UInt8)))
    (below : ∀ name path, before (name :: path) = existing.look name path)
    (each : ∀ name, Overlays (entries.look name) (existing.look name) (made.look name)) :
    Overlays (Tree.look (.dir entries)) before (Tree.look (.dir made)) := by
  refine ⟨?_, ?_, ?_⟩
  · intro path content found
    cases path with
    | nil => cases found
    | cons name rest => exact (each name).files rest content found
  · intro path absent
    cases path with
    | nil => cases absent
    | cons name rest => exact ((each name).kept rest absent).trans (below name rest).symm
  · intro path found
    cases path with
    | nil => exact .inl rfl
    | cons name rest =>
        rw [below name rest]
        exact (each name).dirs rest found

mutual
theorem copy_entry_overlays (path : List OsString) (source : FileTree) (target : Option TargetTree) (result : TargetTree)
    (distinct : source.Distinct) (copied : io.copyEntry path source target = some result) :
    Overlays source.look (fun path => target.bind (Tree.look · path)) result.look := by
  cases source with
  | leaf content => exact copy_file_overlays io path content target result copied
  | dir entries =>
      have copies := copy_entries_overlay path entries
      rw [Io.copyEntry] at copied
      cases target with
      | none =>
          obtain ⟨_, made, each, rfl⟩ : (io.createDirAll path ∧ io.readDir path) ∧
              ∃ made, io.copyEntries path entries .nil = some made ∧ .dir made = result := by
            simpa [Io.copyRecursively] using copied
          exact overlays_dir entries .nil made _ (fun _ _ => rfl) (copies .nil made distinct each)
      | some target =>
          cases target with
          | dir existing =>
              obtain ⟨_, made, each, rfl⟩ : io.readDir path ∧
                  ∃ made, io.copyEntries path entries existing = some made ∧ .dir made = result := by
                simpa [Io.copyRecursively] using copied
              exact overlays_dir entries existing made _ (fun _ _ => rfl) (copies existing made distinct each)
          | leaf bytes =>
              cases entries with
              | cons name child rest => cases copied
              | nil =>
                  obtain ⟨_, rfl⟩ : io.readDir path ∧ .leaf bytes = result := by
                    simpa [Io.copyRecursively] using copied
                  refine ⟨?_, ?_, ?_⟩
                  · intro path content found
                    cases path <;> cases found
                  · intro path absent
                    cases path with
                    | nil => cases absent
                    | cons name rest => rfl
                  · intro path found
                    cases path with
                    | nil => exact .inr ⟨bytes, rfl, rfl⟩
                    | cons name rest => cases found

theorem copy_entries_overlay (path : List OsString) (entries : FileForest) (target result : TargetForest)
    (distinct : entries.Distinct) (copied : io.copyEntries path entries target = some result) (name : OsString) :
    Overlays (entries.look name) (target.look name) (result.look name) := by
  cases entries with
  | nil =>
      obtain rfl := Option.some.inj copied
      exact ⟨nofun, fun _ _ => rfl, nofun⟩
  | cons first child rest =>
      obtain ⟨below, besides, missing⟩ := distinct
      rw [copy_entries_cons, Option.bind_eq_some_iff] at copied
      obtain ⟨made, placed, later⟩ := copied
      have inside := copy_entry_overlays (path ++ [first]) child (target.find first) made below placed
      have outside := copy_entries_overlay path rest (target.put first made) result besides later name
      by_cases same : name = first
      · subst name
        -- The entries that follow have other names and leave this one alone.
        have here : (Forest.cons first child rest).look first = child.look := by
          funext path
          rw [Forest.look, if_pos rfl]
        have before : target.look first = fun path => (target.find first).bind (Tree.look · path) :=
          funext fun path => look_find target first path
        have after : result.look first = made.look := by
          funext path
          rw [outside.kept path (look_missing first rest missing path), look_put, if_pos rfl]
        rw [here, before, after]
        exact inside
      · have here : (Forest.cons first child rest).look name = rest.look name := by
          funext path
          rw [Forest.look, if_neg same]
        have before : (target.put first made).look name = target.look name := by
          funext path
          rw [look_put, if_neg same]
        rw [here, ← before]
        exact outside
end

end Copy

def willingIo : Io := ⟨fun _ => true, fun _ => true, fun _ => true⟩

def freshSources : FileForest := .cons [99] (.dir (.cons [100] (.leaf (some [1])) .nil)) (.cons [101] (.leaf (some [2])) .nil)

def staleBuild : TargetTree := .dir (.cons [99] (.dir (.cons [48] (.leaf [9]) .nil)) .nil)

end BuildScript
