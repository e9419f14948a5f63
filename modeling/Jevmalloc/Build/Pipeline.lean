import Jevmalloc.Build.Output
import Jevmalloc.Build.Rebuild

set_option autoImplicit false

namespace BuildScript

open Interaction Bytes Lines

section Within

variable (words : List (List Char)) (host : Host) (env : Env)

theorem plain_select : Within env (Plain words) selectCompiler :=
  ⟨⟨trivial, rfl⟩, fun _ => ⟨⟨trivial, rfl⟩, fun _ => ⟨⟨trivial, rfl⟩, plain_or_stop words env⟩⟩⟩

variable (proper : ∀ word ∈ words, Instruction word)
include proper

theorem plain_other (text : String) (next : Task Command)
    (head : (text.toList.head?.all fun char => !isSpace char && char != 'c') = true) (single : '\n' ∉ text.toList)
    (rest : Within env (Plain words) next) : Within env (Plain words) (info text >>= fun _ => next) :=
  plain_info words env text next (mute_other words proper _ head single) rest

theorem plain_debug (command : Command) : Within env (Plain words) (debugFlag host command) := by
  have asked : Within env (Plain words) (debugEnabled host) := by
    rw [debugEnabled]
    cases host.debugAssertions with
    | true => trivial
    | false => trivial
  apply within_bind env _ _ asked
  intro debug
  cases debug with
  | true => exact plain_other words env proper _ _ (by decide) (by decide) trivial
  | false => exact plain_other words env proper _ _ (by decide) (by decide) trivial

theorem plain_feature (feature option : String) (command : Command) (single : '\n' ∉ feature.toList) :
    Within env (Plain words) (featureFlag feature option command) := by
  have begun : ∀ back : String, ((("CARGO_FEATURE_" ++ feature ++ back).toList.head?.all fun char => !isSpace char && char != 'c') = true) := by
    intro back
    rw [String.toList_append, String.toList_append]
    rfl
  have alone : ∀ back : String, '\n' ∉ back.toList → '\n' ∉ ("CARGO_FEATURE_" ++ feature ++ back).toList := by
    intro back clean member
    rw [String.toList_append, String.toList_append, List.mem_append, List.mem_append] at member
    rcases member with (front | middle) | last
    · exact absurd front (by decide)
    · exact single middle
    · exact clean last
  apply within_var
  cases (env ("CARGO_FEATURE_" ++ feature)).bind fromUtf8 with
  | some _ => exact plain_other words env proper _ _ (begun _) (alone _ (by decide)) trivial
  | none => exact plain_other words env proper _ _ (begun _) (alone _ (by decide)) trivial

theorem plain_frameptr (target : String) (command : Command) : Within env (Plain words) (frameptrFlag target command) := by
  apply within_var
  cases (env "CARGO_FEATURE_PROFILING_FRAMEPTR").bind fromUtf8 with
  | none => exact plain_other words env proper _ _ (by decide) (by decide) trivial
  | some _ =>
      by_cases linux : contains target "linux" = true
      · simp only [linux, if_true]
        exact plain_other words env proper _ _ (by decide) (by decide) trivial
      · simp only [linux, if_false, Bool.false_eq_true]
        exact plain_other words env proper _ _ (by decide) (by decide) trivial

theorem plain_features (target : String) (command : Command) : Within env (Plain words) (featureFlags host target command) := by
  apply within_bind env _ _ (plain_debug words host env proper command)
  intro command
  apply within_bind env _ _ (plain_feature words env proper "CACHE_OBLIVIOUS" _ command (by decide))
  intro command
  apply within_bind env _ _ (plain_feature words env proper "CHECK_SAFETY" _ command (by decide))
  intro command
  apply within_bind env _ _ (plain_feature words env proper "CHECK_SIZE_MATCH" _ command (by decide))
  intro command
  apply within_bind env _ _ (plain_feature words env proper "CHECK_USE_AFTER_FREE" _ command (by decide))
  intro command
  apply within_bind env _ _ (plain_feature words env proper "FILL" _ command (by decide))
  intro command
  apply within_bind env _ _ (plain_feature words env proper "INITIAL_EXEC_TLS" _ command (by decide))
  intro command
  apply within_bind env _ _ (plain_feature words env proper "PAGEID" _ command (by decide))
  intro command
  apply within_bind env _ _ (plain_feature words env proper "PROFILING" _ command (by decide))
  intro command
  apply within_bind env _ _ (plain_frameptr words env proper target command)
  intro command
  exact plain_feature words env proper "STATS" _ command (by decide)

theorem plain_prefix_flag (usePrefix : Bool) (command : Command) : Within env (Plain words) (prefixFlag usePrefix command) := by
  have quiet := mute_other words proper "--with-jemalloc-prefix=_rjem_".toList (by decide) (by decide)
  apply within_bind env _ _ (plain_print_when words env usePrefix _ quiet)
  exact fun _ => trivial

variable (silenced : Silenced words host env)
include silenced

theorem plain_option (flag name : String) (command : Command) (listed : (flag, name) ∈ valuedOptions) (upper : 'c' ∉ name.toList) :
    Within env (Plain words) (configOption host flag name command) := by
  apply within_yields env _ _ _ (yields_read_watch host env name nonEmpty) (plain_read_watch words host env proper name nonEmpty upper)
  rintro value same
  cases value with
  | none => trivial
  | some text => exact plain_info words env _ _ (silenced.options _ listed text same.symm) trivial

theorem plain_conf (command : Command) : Within env (Plain words) (mallocConf host command) := by
  apply within_yields env _ _ _ (yields_read_watch host env "JEMALLOC_SYS_WITH_MALLOC_CONF" nonEmpty)
    (plain_read_watch words host env proper _ nonEmpty (by decide))
  rintro value same
  cases value with
  | none => trivial
  | some text =>
      have quiet := silenced.options ("--with-malloc-conf=", "JEMALLOC_SYS_WITH_MALLOC_CONF") (by decide) text same.symm
      have present := chosen_text host env _ text same.symm
      dsimp only
      rw [if_pos present]
      exact plain_info words env _ _ quiet trivial

theorem plain_options (command : Command) : Within env (Plain words) (configOptions host command) := by
  apply within_bind env _ _ (plain_conf words host env proper silenced command)
  intro command
  apply within_bind env _ _ (plain_option words host env proper silenced _ _ command (by decide) (by decide))
  intro command
  apply within_bind env _ _ (plain_option words host env proper silenced _ _ command (by decide) (by decide))
  intro command
  apply within_bind env _ _ (plain_option words host env proper silenced _ _ command (by decide) (by decide))
  intro command
  exact plain_option words host env proper silenced _ _ command (by decide) (by decide)

end Within

def clearing (buildDir : OsString) (stale : Bool) : History :=
  .acted (.exists buildDir) :: if stale then [.acted (.removeDirAll buildDir)] else []

def copying (buildDir : OsString) : History :=
  [.acted (.copyRecursively (utf8 "jemalloc") buildDir), .acted (.exists buildDir)]

def configureSource : OsString := PathBuf.join (utf8 "configure") (utf8 "configure")

def placing (buildDir : OsString) : Event String Action :=
  .acted (.copy configureSource (PathBuf.join buildDir (utf8 "configure")))

def Grown (words : List (List Char)) (past later : History) : Prop := ∃ extra, Only (Plain words) extra ∧ later = past ++ extra

theorem grown_trans (words : List (List Char)) (past middle later : History) (first : Grown words past middle)
    (second : Grown words middle later) : Grown words past later := by
  obtain ⟨front, one, rfl⟩ := first
  obtain ⟨back, two, rfl⟩ := second
  exact ⟨front ++ back, only_append front back one two, List.append_assoc past front back⟩

structure Renewed (answers : Answers) (buildDir : OsString) (stale : Bool) (asked later : History) : Prop where
  found : answers asked (.exists buildDir) = stale
  cleared : stale = true → answers (asked ++ [.acted (.exists buildDir)]) (.removeDirAll buildDir) = true
  copied : answers (asked ++ clearing buildDir stale) (.copyRecursively (utf8 "jemalloc") buildDir) = true
  configured : answers (asked ++ clearing buildDir stale ++ copying buildDir)
    (.copy configureSource (PathBuf.join buildDir (utf8 "configure"))) = true
  steps : later = asked ++ clearing buildDir stale ++ copying buildDir ++ [placing buildDir]

def mark (usePrefix : Bool) : History := if usePrefix then [.acted (.print "cargo:rustc-cfg=prefixed")] else []

def Prepared (words : List (List Char)) (env : Env) (answers : Answers) (build : Bundled) (past later : History) : Prop :=
  ∃ chosen asked stale tree, Grown words past chosen ∧ Grown words (chosen ++ mark (wantsPrefix env build.target)) asked ∧
    Renewed answers build.buildDir stale asked tree ∧ Grown words tree later

def Quiet (_ : History) (event : Event String Action) : Prop := ∀ command, event ≠ .acted (.status command)

section Prepared

variable (words : List (List Char)) (host : Host) (env : Env) (answers : Answers)

abbrev Ends {α : Type} (post : α → History → Prop) (script : Task α) (past : History) : Prop :=
  Guarded env answers Quiet post script past

omit words env answers in
theorem harmless_quiet (past : History) (event : Event String Action) (harmless : Harmless event) : Quiet past event := by
  rintro command rfl
  exact harmless

theorem grown_ends {α : Type} (script : Task α) (past : History) (plain : Within env (Plain words) script) :
    Ends env answers (fun _ later => Grown words past later) script past :=
  within_guarded env answers Quiet _ script past plain (fun _ event allowed => harmless_quiet _ event allowed.1)
    fun _ extra only => ⟨extra, only, rfl⟩

theorem require_ends (post : Unit → History → Prop) (met : Bool) (past : History) (holds : met = true → post () past) :
    Ends env answers post (require met) past := by
  cases met with
  | false => trivial
  | true => exact holds rfl

theorem exists_ends (path : OsString) (past : History) :
    Ends env answers (fun present later => present = answers past (.exists path) ∧ later = past ++ [.acted (.exists path)])
      (fileExists path) past := ⟨nofun, rfl, rfl⟩

theorem clear_ends (buildDir : OsString) (asked : History) :
    Ends env answers (fun _ later => ∃ stale, answers asked (.exists buildDir) = stale ∧
      (stale = true → answers (asked ++ [.acted (.exists buildDir)]) (.removeDirAll buildDir) = true) ∧
      later = asked ++ clearing buildDir stale) (clearBuildDir buildDir) asked := by
  refine ⟨nofun, ?_⟩
  cases found : answers asked (.exists buildDir) with
  | false => exact ⟨false, rfl, nofun, rfl⟩
  | true =>
      refine ⟨nofun, ?_⟩
      apply require_ends
      intro removed
      refine ⟨true, rfl, fun _ => removed, ?_⟩
      rw [List.append_assoc]
      rfl

variable (proper : ∀ word ∈ words, Instruction word)
include proper

theorem copy_ends (outDir buildDir : OsString) (past : History) :
    Ends env answers (fun _ later => ∃ asked stale, Grown words past asked ∧ Renewed answers buildDir stale asked later)
      (copySources outDir buildDir) past := by
  let asked : History := past ++ [.acted (.exists outDir), .acted (.print "cargo:rerun-if-changed=configure")]
  have quiet := mute_opening words proper "cargo:rerun-if-changed=" "configure" (by decide) (by decide)
  have plain : Only (Plain words) [.acted (.exists outDir), .acted (.print "cargo:rerun-if-changed=configure")] :=
    only_append [_] [_] (only_single _ ⟨trivial, rfl⟩) (only_single _ ⟨trivial, quiet⟩)
  refine guarded_bind _ _ _ _ _ _ _ (exists_ends env answers outDir past) ?_
  rintro present _ ⟨_, rfl⟩
  refine guarded_bind _ _ (fun _ later => later = past ++ [.acted (.exists outDir)]) _ _ _ _
    (require_ends env answers _ _ _ fun _ => rfl) ?_
  rintro _ _ rfl
  refine guarded_bind _ _ (fun _ later => later = asked) _ _ _ _ ⟨nofun, List.append_assoc _ _ _⟩ ?_
  rintro _ _ rfl
  refine guarded_bind _ _ _ _ _ _ _ (clear_ends env answers buildDir asked) ?_
  rintro _ _ ⟨stale, found, cleared, rfl⟩
  refine guarded_bind _ _ (fun _ later => answers (asked ++ clearing buildDir stale)
    (.copyRecursively (utf8 "jemalloc") buildDir) = true ∧ later = asked ++ clearing buildDir stale ++
      [.acted (.copyRecursively (utf8 "jemalloc") buildDir)]) _ _ _ _
    ⟨nofun, require_ends env answers _ _ _ fun copied => ⟨copied, rfl⟩⟩ ?_
  rintro _ _ ⟨copied, rfl⟩
  refine guarded_bind _ _ _ _ _ _ _ (exists_ends env answers buildDir _) ?_
  rintro present _ ⟨_, rfl⟩
  rw [List.append_assoc (asked ++ clearing buildDir stale)]
  refine guarded_bind _ _ (fun _ later => later = asked ++ clearing buildDir stale ++ copying buildDir) _ _ _ _
    (require_ends env answers _ _ _ fun _ => rfl) ?_
  rintro _ _ rfl
  refine ⟨nofun, require_ends env answers _ _ _ fun configured => ?_⟩
  exact ⟨asked, stale, ⟨_, plain, rfl⟩, found, cleared, copied, configured, rfl⟩

variable (silenced : Silenced words host env)
include silenced

theorem configure_ends (target triple jeVersion : String) (outDir : OsString) (usePrefix : Bool) (past : History) :
    Ends env answers (fun build later => build.target = target ∧
      ∃ asked stale tree, Grown words past asked ∧ Renewed answers build.buildDir stale asked tree ∧ Grown words tree later)
      (configure host target triple jeVersion outDir usePrefix) past := by
  refine guarded_bind _ _ _ _ _ _ _ (grown_ends words env answers _ past (plain_select words env)) ?_
  intro compiler first selected
  refine guarded_bind _ _ _ _ _ _ _ (grown_ends words env answers _ first (plain_or_stop words env _)) ?_
  intro cflags second joined
  refine guarded_bind _ _ _ _ _ _ _ (copy_ends words env answers proper outDir _ second) ?_
  rintro _ tree ⟨asked, stale, opened, renewed⟩
  have reached : Grown words past asked := grown_trans words _ _ _ selected (grown_trans words _ _ _ joined opened)
  refine guarded_bind _ _ _ _ _ _ _ (grown_ends words env answers _ tree (plain_or_stop words env _)) ?_
  intro script third scripted
  refine guarded_bind _ _ _ _ _ _ _ (grown_ends words env answers _ third (plain_options words host env proper silenced _)) ?_
  intro command fourth configured
  refine guarded_bind _ _ _ _ _ _ _ (grown_ends words env answers _ fourth (plain_prefix_flag words env proper usePrefix _)) ?_
  intro command fifth marked
  refine guarded_bind _ _ _ _ _ _ _ (grown_ends words env answers _ fifth (plain_features words host env proper target _)) ?_
  intro command sixth featured
  have ended : Grown words tree sixth :=
    grown_trans words _ _ _ scripted <| grown_trans words _ _ _ configured <| grown_trans words _ _ _ marked featured
  exact ⟨rfl, asked, stale, tree, reached, renewed, ended⟩

omit words env answers proper silenced in
theorem harmless_override (env : Env) (jemalloc : OsString) : Within env Harmless (linkOverride host jemalloc) := by
  have stopped : ∀ {α : Type} (value : Option α), Within env Harmless (Script.orStop value : Task α) := by
    intro α value
    cases value <;> trivial
  refine within_bind env _ _ ⟨trivial, fun _ => trivial⟩ fun _ => ?_
  refine within_bind env _ _ ⟨trivial, fun _ => trivial⟩ fun present => ?_
  refine within_bind env _ _ (by cases present <;> trivial) fun _ => ?_
  refine within_bind env _ _ (stopped _) fun directory => ?_
  refine within_bind env _ _ ⟨trivial, fun _ => trivial⟩ fun _ => ?_
  refine within_bind env _ _ (stopped _) fun stem => ?_
  refine within_bind env _ _ (stopped _) fun name => ?_
  refine within_bind env _ _ (stopped _) fun linked => ?_
  exact ⟨trivial, fun _ => trivial⟩

omit words proper silenced in
theorem marked_ends (usePrefix : Bool) (past : History) :
    Ends env answers (fun _ later => later = past ++ mark usePrefix) (printWhen usePrefix "cargo:rustc-cfg=prefixed") past := by
  cases usePrefix with
  | false => exact (List.append_nil past).symm
  | true => exact ⟨nofun, rfl⟩

theorem decision_ends (target triple jeVersion : String) (outDir : OsString) (past : History)
    (targeted : (env "TARGET").bind fromUtf8 = some target) :
    Ends env answers (fun decision later => ∀ build, decision = .bundled build → Prepared words env answers build past later)
      (chooseDecision host target triple jeVersion outDir) past := by
  have checks := plain_check_target words env proper silenced.unsaid target targeted
  refine guarded_bind _ _ _ _ _ _ _ (grown_ends words env answers _ past checks) ?_
  intro _ first checked
  have chooses := plain_prefix_choice words env proper silenced.unsaid target targeted
  have choice := guarded_yields env answers _ _ _ first (yields_prefix_choice env target)
    (grown_ends words env answers _ first chooses)
  refine guarded_bind _ _ _ _ _ _ _ choice ?_
  rintro usePrefix second ⟨rfl, asked⟩
  have quiet := mute_opening words proper "cargo::rustc-check-cfg=" "cfg(prefixed)" (by decide) (by decide)
  refine guarded_bind _ _ _ _ _ _ _ (grown_ends words env answers (print "cargo::rustc-check-cfg=cfg(prefixed)") second
    (plain_print words env _ quiet)) ?_
  intro _ chosen announced
  have reached : Grown words past chosen := grown_trans words _ _ _ checked (grown_trans words _ _ _ asked announced)
  refine guarded_bind _ _ _ _ _ _ _ (marked_ends env answers (wantsPrefix env target) chosen) ?_
  rintro _ _ rfl
  refine guarded_bind _ _ _ _ _ _ _ (grown_ends words env answers _ _ (plain_read_watch words host env proper _ id (by decide))) ?_
  intro value asked watched
  cases value with
  | some jemalloc =>
      refine guarded_bind _ _ (fun _ _ => True) _ _ _ _
        (within_guarded _ _ _ _ _ _ (harmless_override host env jemalloc) (fun _ => harmless_quiet _) fun _ _ _ => trivial) ?_
      exact fun _ _ _ => nofun
  | none =>
      refine guarded_bind _ _ _ _ _ _ _
        (configure_ends words host env answers proper silenced target triple jeVersion outDir (wantsPrefix env target) asked) ?_
      rintro build later ⟨rfl, middle, stale, tree, onward, renewed, ended⟩ other equal
      cases equal
      exact ⟨chosen, middle, stale, tree, reached, grown_trans words _ _ _ watched onward, renewed, ended⟩

theorem choose_ends (target triple numJobs : String) (past : History) (targeted : (env "TARGET").bind fromUtf8 = some target)
    (hosted : (env "HOST").bind fromUtf8 = some triple) (counted : (env "NUM_JOBS").bind fromUtf8 = some numJobs) :
    Ends env answers (fun decision later => ∀ build, decision = .bundled build → Prepared words env answers build past later)
      (chooseBuild host target triple numJobs) past := by
  refine guarded_bind _ _ _ _ _ _ _ (grown_ends words env answers (varOs "OUT_DIR") past trivial) ?_
  intro outDir first read
  refine guarded_bind _ _ _ _ _ _ _ (grown_ends words env answers _ first (plain_or_stop words env _)) ?_
  intro outDir second present
  refine guarded_bind _ _ _ _ _ _ _ (grown_ends words env answers currentDir second ⟨⟨trivial, rfl⟩, fun _ => trivial⟩) ?_
  intro srcDir third located
  refine guarded_bind _ _ _ _ _ _ _ (grown_ends words env answers _ third (plain_or_stop words env _)) ?_
  intro _ fourth known
  refine guarded_bind _ _ _ _ _ _ _ (grown_ends words env answers _ fourth (plain_expect words env _)) ?_
  intro version fifth versioned
  refine guarded_bind _ _ _ _ _ _ _ (grown_ends words env answers _ fifth (plain_or_stop words env _)) ?_
  intro version sixth split
  have announces := plain_announce words env silenced.unsaid target triple numJobs targeted hosted counted
  refine guarded_bind _ _ _ _ _ _ _ (grown_ends words env answers _ sixth announces) ?_
  intro _ seventh shown
  have reached : Grown words past seventh :=
    grown_trans words _ _ _ read <| grown_trans words _ _ _ present <| grown_trans words _ _ _ located <|
      grown_trans words _ _ _ known <| grown_trans words _ _ _ versioned <| grown_trans words _ _ _ split shown
  have decides := decision_ends words host env answers proper silenced target triple version.2 outDir seventh targeted
  refine guarded_weaken env answers _ _ _ seventh decides ?_
  intro decision later holds build same
  obtain ⟨chosen, asked, stale, tree, opened, rest⟩ := holds build same
  exact ⟨chosen, asked, stale, tree, grown_trans words _ _ _ reached opened, rest⟩

theorem prepare_ends :
    Ends env answers (fun result later => ∀ build, result.2 = .bundled build → Prepared words env answers build [] later)
      (prepare host) [] := by
  have known := fun name past => guarded_yields env answers _ _ _ past (yields_expect env name)
    (grown_ends words env answers _ past (plain_expect words env name))
  refine guarded_bind _ _ _ _ _ _ _ (known "TARGET" []) ?_
  rintro target first ⟨targeted, one⟩
  refine guarded_bind _ _ _ _ _ _ _ (known "HOST" first) ?_
  rintro triple second ⟨hosted, two⟩
  refine guarded_bind _ _ _ _ _ _ _ (known "NUM_JOBS" second) ?_
  rintro numJobs past ⟨counted, three⟩
  have reached : Grown words [] past := grown_trans words _ _ _ one (grown_trans words _ _ _ two three)
  refine guarded_bind _ _ _ _ _ _ _
    (choose_ends words host env answers proper silenced target triple numJobs past targeted hosted counted) ?_
  intro decision later chosen build same
  obtain ⟨middle, asked, stale, tree, opened, rest⟩ := chosen build same
  exact ⟨middle, asked, stale, tree, grown_trans words _ _ _ reached opened, rest⟩

end Prepared

section Main

variable (words : List (List Char)) (host : Host) (env : Env) (answers : Answers)

def prepared : Option (String × Decision) := (run env answers (prepare host) []).2

theorem prepared_chosen (proper : ∀ word ∈ words, Instruction word) (silenced : Silenced words host env) (numJobs : String)
    (build : Bundled) (reached : prepared host env answers = some (numJobs, .bundled build)) :
    Prepared words env answers build [] (run env answers (prepare host) []).1 :=
  guarded_post env answers _ (prepare host) [] _ (prepare_ends words host env answers proper silenced) reached build rfl

def Restocks : Event String Action → Prop
  | .acted (.exists _) | .acted (.removeDirAll _) | .acted (.copyRecursively _ _) | .acted (.copy _ _) => True
  | _ => False

theorem renewed_restocks (buildDir : OsString) (stale : Bool) (asked later : History)
    (renewed : Renewed answers buildDir stale asked later) : ∃ extra, Only Restocks extra ∧ later = asked ++ extra := by
  have cleared : Only Restocks (clearing buildDir stale) := by
    cases stale with
    | false => exact only_single _ trivial
    | true => exact only_append [_] [_] (only_single _ trivial) (only_single _ trivial)
  have copied : Only Restocks (copying buildDir) := only_append [_] [_] (only_single _ trivial) (only_single _ trivial)
  refine ⟨clearing buildDir stale ++ copying buildDir ++ [placing buildDir], ?_, ?_⟩
  · exact only_append _ _ (only_append _ _ cleared copied) (only_single _ trivial)
  · rw [renewed.steps, List.append_assoc, List.append_assoc, List.append_assoc]

theorem restocks_mute (event : Event String Action) (restocks : Restocks event) : uttered words event = [] := by
  unfold Restocks at restocks
  split at restocks <;> first | rfl | exact restocks.elim

theorem prepared_said (proper : ∀ word ∈ words, Instruction word) (build : Bundled) (later : History)
    (reached : Prepared words env answers build [] later) : said words later = said words (mark (wantsPrefix env build.target)) := by
  obtain ⟨chosen, asked, stale, tree, ⟨front, one, rfl⟩, ⟨middle, two, rfl⟩, renewed, back, three, rfl⟩ := reached
  obtain ⟨steps, restocks, rfl⟩ := renewed_restocks answers build.buildDir stale _ tree renewed
  have plain : ∀ events, Only (Plain words) events → said words events = [] := fun events only =>
    said_only words proper events fun event member => (only event member).2
  have stepped := said_only words proper steps fun event member => restocks_mute words event (restocks event member)
  rw [said_append words proper, said_append words proper, said_append words proper, said_append words proper,
    plain _ one, plain middle two, plain back three, stepped]
  simp only [List.nil_append, List.append_nil]

theorem prepare_quiet (before after : History) (command : Command) :
    (run env answers (prepare host) []).1 ≠ before ++ .acted (.status command) :: after := by
  intro split
  have quiet := prepare_ends [] host env answers nofun (silenced_nothing host env)
  exact guarded_event env answers _ _ [] before after _ quiet split (Nat.zero_le _) command rfl

end Main

end BuildScript
