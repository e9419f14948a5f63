import Jevmalloc.Build.Commands
import Jevmalloc.Build.Copy

set_option autoImplicit false

namespace BuildScript

open Interaction Bytes Files

-- What may lie in the place of the build tree: files, and links that lead
-- somewhere or nowhere.
inductive Left where
  | file (bytes : List UInt8)
  | link (leads : Bool)

abbrev LeftTree := Tree OsString Left

structure Disk where
  sources : FileForest
  script : Content
  build : Option LeftTree

def configureName : OsString := utf8 "configure"

def appears : Option LeftTree → Bool
  | none | some (.leaf (.link false)) => false
  | some _ => true

def Keeps (disk after : Disk) : Prop := after.sources = disk.sources ∧ after.script = disk.script

-- Nothing else writes to these places. A command may leave anything behind, and
-- so may an operation that fails in the build directory or meets a link there.
def Effect (buildDir : OsString) (disk after : Disk) : (action : Action) → Answer action → Prop
  | .exists path, present => after = disk ∧ (path = buildDir → present = appears disk.build)
  | .removeDirAll path, done => Keeps disk after ∧ (path = buildDir → done = true → after.build = none)
  | .copyRecursively source target, done => Keeps disk after ∧ (source = utf8 "jemalloc" → target = buildDir → done = true →
      disk.build ≠ some (.leaf (.link false)) ∧ ∀ place : Option TargetTree, disk.build = (place.map fun tree => tree.map .file) →
        ∃ io : Io, ∃ tree, io.copyRecursively [] (.dir disk.sources) place = some tree ∧ after.build = some (tree.map .file))
  | .copy source target, done => Keeps disk after ∧ (source = configureSource → target = PathBuf.join buildDir configureName →
      done = true → ∀ entries : TargetForest, disk.build = some ((Tree.dir entries).map .file) →
        ∃ io : Io, ∃ made, io.copyFile [configureName] disk.script (entries.find configureName) = some made ∧
          after.build = some ((Tree.dir (entries.put configureName made)).map .file))
  | .status _, _ | .compile _ _, _ => True
  | .print _, _ | .currentDir, _ | .rustflags, _ | .getCompiler _ _, _ => after = disk

structure Follows (answers : Answers) (buildDir : OsString) (disk : History → Disk) : Prop where
  watched : ∀ past name, disk (past ++ [.watched name]) = disk past
  acted : ∀ past action, Effect buildDir (disk past) (disk (past ++ [.acted action])) action (answers past action)

section Scratch

variable (answers : Answers) (buildDir : OsString) (disk : History → Disk) (follows : Follows answers buildDir disk)

include follows

theorem harmless_step (past : History) (event : Event String Action) (harmless : Harmless event) :
    disk (past ++ [event]) = disk past := by
  cases event with
  | watched name => exact follows.watched past name
  | acted action =>
      have effect := follows.acted past action
      cases action
      case «exists» path => exact effect.1
      all_goals first | exact effect | exact absurd harmless id

theorem harmless_keeps (past extra : History) (only : Only Harmless extra) : disk (past ++ extra) = disk past := by
  induction extra generalizing past with
  | nil => rw [List.append_nil]
  | cons event rest ih =>
      have later := ih (past ++ [event]) fun other member => only other (List.mem_cons_of_mem _ member)
      rw [List.append_assoc, List.singleton_append] at later
      rw [later]
      exact harmless_step answers buildDir disk follows past event (only event List.mem_cons_self)

theorem grown_keeps (past later : History) (grown : Grown [] past later) : disk later = disk past := by
  obtain ⟨extra, only, rfl⟩ := grown
  exact harmless_keeps answers buildDir disk follows past extra fun event member => (only event member).1

theorem exists_step (past : History) (present : Bool) (answered : answers past (.exists buildDir) = present) :
    disk (past ++ [.acted (.exists buildDir)]) = disk past ∧ present = appears (disk past).build := by
  obtain ⟨same, shown⟩ := follows.acted past (.exists buildDir)
  rw [answered] at shown
  exact ⟨same, shown rfl⟩

omit follows in
theorem not_appears (build : Option LeftTree) (absent : false = appears build) :
    build = none ∨ build = some (.leaf (.link false)) := by
  unfold appears at absent
  split at absent
  · exact .inl rfl
  · exact .inr rfl
  · cases absent

theorem clearing_clears (stale : Bool) (asked : History) (found : answers asked (.exists buildDir) = stale)
    (cleared : stale = true → answers (asked ++ [.acted (.exists buildDir)]) (.removeDirAll buildDir) = true) :
    Keeps (disk asked) (disk (asked ++ clearing buildDir stale)) ∧ ((disk (asked ++ clearing buildDir stale)).build = none ∨
      (disk (asked ++ clearing buildDir stale)).build = some (.leaf (.link false))) := by
  obtain ⟨same, shown⟩ := exists_step answers buildDir disk follows asked stale found
  cases stale with
  | false =>
      have steps : asked ++ clearing buildDir false = asked ++ [.acted (.exists buildDir)] := rfl
      rw [steps, same]
      exact ⟨⟨rfl, rfl⟩, not_appears _ shown⟩
  | true =>
      have steps : asked ++ clearing buildDir true = asked ++ [.acted (.exists buildDir)] ++ [.acted (.removeDirAll buildDir)] := by
        rw [List.append_assoc]
        rfl
      obtain ⟨keeps, gone⟩ := follows.acted (asked ++ [.acted (.exists buildDir)]) (.removeDirAll buildDir)
      rw [same] at keeps
      rw [steps]
      exact ⟨keeps, .inl (gone rfl (cleared rfl))⟩

theorem copied_exact (past : History) (distinct : (disk past).sources.Distinct)
    (clear : (disk past).build = none ∨ (disk past).build = some (.leaf (.link false)))
    (copied : answers past (.copyRecursively (utf8 "jemalloc") buildDir) = true) :
    Keeps (disk past) (disk (past ++ copying buildDir)) ∧ ∃ made : TargetForest, (disk past).sources = made.map some ∧
      (disk (past ++ copying buildDir)).build = some ((Tree.dir made).map .file) := by
  obtain ⟨keeps, made⟩ := follows.acted past (.copyRecursively (utf8 "jemalloc") buildDir)
  obtain ⟨leads, places⟩ := made rfl rfl copied
  let later := past ++ [.acted (.copyRecursively (utf8 "jemalloc") buildDir)]
  have same : disk (past ++ copying buildDir) = disk later := by
    have steps : past ++ copying buildDir = later ++ [.acted (.exists buildDir)] := by rw [List.append_assoc]; rfl
    rw [steps]
    exact (exists_step answers buildDir disk follows later _ rfl).1
  rw [same]
  refine ⟨keeps, ?_⟩
  rcases clear with nothing | dangling
  · obtain ⟨io, tree, result, built⟩ := places none nothing
    have whole := ((copy_entry_fresh io [] (.dir (disk past).sources) tree distinct).mp result).2
    cases tree with
    | leaf bytes => cases whole
    | dir entries => exact ⟨entries, Tree.dir.inj whole, built⟩
  · exact absurd dangling leads

theorem renewed_tree (stale : Bool) (asked later : History) (distinct : (disk asked).sources.Distinct)
    (renewed : Renewed answers buildDir stale asked later) :
    ∃ bytes, ∃ made : TargetForest, (disk asked).script = some bytes ∧ (disk asked).sources = made.map some ∧
      (disk later).build = some ((Tree.dir (made.put configureName (.leaf bytes))).map .file) ∧
      ∀ name path, (made.find configureName).bind (Tree.look · (name :: path)) = none := by
  obtain ⟨found, cleared, copied, configured, rfl⟩ := renewed
  obtain ⟨⟨sources, script⟩, clear⟩ := clearing_clears answers buildDir disk follows stale asked found cleared
  rw [← sources] at distinct ⊢
  obtain ⟨⟨_, kept⟩, made, exact_copy, built⟩ := copied_exact answers buildDir disk follows _ distinct clear copied
  obtain ⟨_, placed⟩ := follows.acted _ (.copy configureSource (PathBuf.join buildDir (utf8 "configure")))
  obtain ⟨io, file, result, after⟩ := placed rfl rfl configured made built
  obtain ⟨⟨bytes, content, rfl⟩, below⟩ := copy_file_result io _ _ _ _ result
  rw [kept, script] at content
  exact ⟨bytes, made, content, exact_copy, after, below⟩

end Scratch

theorem bundled_from_scratch (host : Host) (env : Env) (answers : Answers) (numJobs : String) (build : Bundled)
    (disk : History → Disk) (reached : prepared host env answers = some (numJobs, .bundled build))
    (follows : Follows answers build.buildDir disk) (distinct : (disk []).sources.Distinct) :
    ∃ before after, (run env answers (main host) []).1 = before ++ .acted (.status build.configure) :: after ∧
      (∀ command, .acted (.status command) ∉ before) ∧
      ∃ bytes, ∃ tree : TargetTree, (disk []).script = some bytes ∧ (disk before).build = some (tree.map .file) ∧
        ∀ path, (tree.look path).map (Entry.map some) =
          if path = [configureName] then some (.leaf (some bytes)) else Tree.look (.dir (disk []).sources) path := by
  obtain ⟨chosen, asked, stale, tree, opened, onward, renewed, ended⟩ :=
    prepared_chosen [] host env answers nofun (silenced_nothing host env) numJobs build reached
  have kept : disk asked = disk [] := by
    have marked : Only Harmless (mark (wantsPrefix env build.target)) := by
      cases wantsPrefix env build.target with
      | false => exact nofun
      | true => exact only_single _ trivial
    rw [grown_keeps answers build.buildDir disk follows _ _ onward,
      harmless_keeps answers build.buildDir disk follows chosen _ marked, grown_keeps answers build.buildDir disk follows _ _ opened]
  rw [← kept] at distinct ⊢
  obtain ⟨bytes, made, script, sources, built, below⟩ :=
    renewed_tree answers build.buildDir disk follows stale asked tree distinct renewed
  rw [← grown_keeps answers build.buildDir disk follows _ _ ended] at built
  let before := (run env answers (prepare host) []).1
  obtain ⟨resume, begins⟩ : ∃ resume, finish host numJobs build = .call (.act (.status build.configure)) resume := ⟨_, rfl⟩
  obtain ⟨after, same⟩ := run_extends env answers (resume (answers before (.status build.configure)))
    (before ++ [.acted (.status build.configure)])
  refine ⟨before, after, ?_, ?_, bytes, _, script, built, ?_⟩
  · rw [main_bundled host env answers numJobs build reached, begins]
    rw [List.append_assoc] at same
    exact same.symm
  · intro command member
    obtain ⟨front, back, split⟩ := List.append_of_mem member
    exact prepare_quiet host env answers front back command split
  · intro path
    have whole : Tree.dir (disk asked).sources = (Tree.dir made).map some := congrArg Tree.dir sources
    rw [whole, look_map]
    cases path with
    | nil => rfl
    | cons name rest =>
        rw [Tree.look, Tree.look, look_put]
        by_cases named : name = configureName
        · subst name
          rw [if_pos rfl]
          cases rest with
          | nil => rw [if_pos rfl]; rfl
          | cons first rest =>
              rw [if_neg (by simp), look_find, below]
              rfl
        · rw [if_neg named, if_neg fun is => named (List.cons.inj is).1]

inductive Place where
  | stale
  | empty
  | made (tree : TargetTree)

def Place.after (sources : FileForest) (script : Content) (place : Place) : Event String Action → Place
  | .acted (.removeDirAll _) => .empty
  | .acted (.copyRecursively _ _) =>
      match place with
      | .empty => (willingIo.copyRecursively [] (.dir sources) none).elim .empty .made
      | other => other
  | .acted (.copy _ _) =>
      match place with
      | .made (.dir entries) => (willingIo.copyFile [configureName] script (entries.find configureName)).elim place fun made =>
          .made (.dir (entries.put configureName made))
      | other => other
  | _ => place

def Place.shown (stale : Option LeftTree) : Place → Option LeftTree
  | .stale => stale
  | .empty => none
  | .made tree => some (tree.map .file)

section Simulated

variable (initial : Disk)

def placed (past : History) : Place := past.foldl (Place.after initial.sources initial.script) .stale

def simulated (past : History) : Disk := { initial with build := (placed initial past).shown initial.build }

def simulatedAnswers : Answers := fun past action =>
  match action with
  | .exists _ => appears (simulated initial past).build
  | .copyRecursively _ _ =>
      match placed initial past with
      | .empty => (willingIo.copyRecursively [] (.dir initial.sources) none).isSome
      | _ => false
  | .copy _ _ =>
      match placed initial past with
      | .made (.dir entries) => (willingIo.copyFile [configureName] initial.script (entries.find configureName)).isSome
      | _ => false
  | other => willing past other

theorem placed_snoc (past : History) (event : Event String Action) :
    placed initial (past ++ [event]) = (placed initial past).after initial.sources initial.script event := List.foldl_append

theorem file_injective (tree other : TargetTree) (same : tree.map Left.file = other.map Left.file) : tree = other :=
  map_injective Left.file (fun _ _ => Left.file.inj) tree other same

theorem simulated_follows (buildDir : OsString) : Follows (simulatedAnswers initial) buildDir (simulated initial) := by
  have kept : ∀ past event, (placed initial past).after initial.sources initial.script event = placed initial past →
      simulated initial (past ++ [event]) = simulated initial past := by
    intro past event same
    rw [simulated, placed_snoc, same]
    rfl
  refine ⟨fun past name => kept past _ rfl, ?_⟩
  intro past action
  cases action
  case «exists» path => exact ⟨kept past _ rfl, fun _ => rfl⟩
  case removeDirAll path =>
      refine ⟨⟨rfl, rfl⟩, fun _ _ => ?_⟩
      rw [simulated, placed_snoc]
      rfl
  case copyRecursively source target =>
      refine ⟨⟨rfl, rfl⟩, fun _ _ done => ?_⟩
      change (match placed initial past with
        | .empty => (willingIo.copyRecursively [] (.dir initial.sources) none).isSome | _ => false) = true at done
      cases now : placed initial past with
      | empty =>
          rw [now] at done
          obtain ⟨tree, made⟩ := Option.isSome_iff_exists.mp done
          have before : (simulated initial past).build = none := by
            rw [simulated, now]
            rfl
          rw [before]
          refine ⟨nofun, fun place same => ?_⟩
          obtain rfl := Option.map_eq_none_iff.mp same.symm
          refine ⟨willingIo, tree, made, ?_⟩
          rw [simulated, placed_snoc, now, Place.after, made]
          rfl
      | stale => rw [now] at done; cases done
      | made tree => rw [now] at done; cases done
  case copy source target =>
      refine ⟨⟨rfl, rfl⟩, fun _ _ done entries before => ?_⟩
      change (match placed initial past with
        | .made (.dir entries) => (willingIo.copyFile [configureName] initial.script (entries.find configureName)).isSome
        | _ => false) = true at done
      cases now : placed initial past with
      | empty => rw [now] at done; cases done
      | stale => rw [now] at done; cases done
      | made tree =>
          rw [simulated, now] at before
          obtain rfl := file_injective _ _ (Option.some.inj before)
          rw [now] at done
          obtain ⟨file, made⟩ := Option.isSome_iff_exists.mp done
          refine ⟨willingIo, file, made, ?_⟩
          rw [simulated, placed_snoc, now, Place.after, made]
          rfl
  all_goals first | exact kept past _ rfl | trivial

end Simulated

theorem bundled_from_scratch_stale :
    let initial : Disk := ⟨freshSources, some [7], some (staleBuild.map .file)⟩
    ∃ numJobs build before, ∃ tree : TargetTree, prepared asciiHost (environment (pageEntries "12")) (simulatedAnswers initial) =
        some (numJobs, .bundled build) ∧ (simulated initial before).build = some (tree.map .file) ∧
      tree.look [[99], [48]] = none ∧ tree.look [configureName] = some (.leaf [7]) := by
  intro initial
  obtain ⟨build, reached⟩ : ∃ build, prepared asciiHost (environment (pageEntries "12")) (simulatedAnswers initial) =
    some ("2", .bundled build) := ⟨_, rfl⟩
  have distinct : freshSources.Distinct := by simp [freshSources, Forest.Distinct, Tree.Distinct, Forest.Missing]
  obtain ⟨before, _, _, _, bytes, tree, script, built, looks⟩ := bundled_from_scratch asciiHost _ _ "2" build _ reached
    (simulated_follows initial _) distinct
  cases script
  refine ⟨"2", build, before, tree, reached, built, ?_, ?_⟩
  · exact Option.map_eq_none_iff.mp (looks [[99], [48]])
  · obtain ⟨entry, found, same⟩ := Option.map_eq_some_iff.mp (looks [configureName])
    cases entry with
    | dir => cases same
    | leaf bytes =>
        cases same
        exact found

end BuildScript
