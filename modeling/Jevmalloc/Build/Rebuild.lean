import Jevmalloc.Build.Configure

set_option autoImplicit false

namespace BuildScript

open Interaction Bytes

-- The variables Cargo itself sets and answers for.
def Managed (name : String) : Prop :=
  name = "TARGET" ∨ name = "HOST" ∨ name = "OUT_DIR" ∨ "CARGO_".toList <+: name.toList

instance (name : String) : Decidable (Managed name) := inferInstanceAs (Decidable (_ ∨ _ ∨ _ ∨ _))

def Readable (value : Option OsString) : Prop := (value.bind fromUtf8).isSome

-- NUM_JOBS has to be there, but its value goes to make only.
def Known (name : String) (one other : Option OsString) : Prop :=
  (Managed name → one = other) ∧ (name = "NUM_JOBS" → (Readable one ↔ Readable other))

def printed : Action → Bool
  | .print _ => true
  | _ => false

def Surrounding : Action → Prop
  | .status _ => False
  | .compile _ _ => False
  | _ => True

section Steady

variable {α β : Type}

-- A script that behaves the same in any two environments which agree on the
-- managed variables and on what the script announces.
def Steady (script : Task α) : Prop := ∀ watched, Related printed Known Surrounding Eq watched script script

theorem steady_ret (value : α) : Steady (.ret value : Task α) := fun watched => .ret watched value value rfl

theorem steady_stop : Steady (Script.stop : Task α) := fun watched => .stop watched _ _

theorem steady_bind (script : Task α) (next : α → Task β) (first : Steady script) (second : ∀ value, Steady (next value)) :
    Steady (script >>= next) := by
  intro watched
  apply related_bind watched next next (first watched)
  intro one other more _ same
  subst same
  exact second one more

theorem steady_act (action : Action) (next : Answer action → Task α) (allowed : Surrounding action)
    (rest : ∀ answer, Steady (next answer)) : Steady (.call (.act action) next) :=
  fun watched => .act watched action next next allowed fun answer => rest answer watched

theorem steady_or_stop (value : Option α) : Steady (Script.orStop value : Task α) := by
  cases value with
  | none => exact steady_stop
  | some value => exact steady_ret value

theorem steady_require (met : Bool) : Steady (require met) := by
  cases met with
  | false => exact steady_stop
  | true => exact steady_ret ()

theorem steady_print (text : String) : Steady (print text) := steady_act _ _ trivial steady_ret

theorem steady_info (text : String) (next : Task α) (rest : Steady next) : Steady (info text >>= fun _ => next) :=
  steady_bind _ _ (steady_print text) fun _ => rest

theorem steady_print_when (met : Bool) (text : String) : Steady (printWhen met text) := by
  cases met with
  | false => exact steady_ret ()
  | true => exact steady_print text

theorem steady_exists (path : OsString) : Steady (fileExists path) := steady_act _ _ trivial steady_ret

theorem steady_var_os (name : String) (managed : Managed name) : Steady (varOs name) := by
  intro watched
  refine .read watched name _ _ ?_
  intro one other known
  exact .ret watched one other (known.1 managed)

theorem steady_var (name : String) (managed : Managed name) : Steady (var name) :=
  steady_bind _ _ (steady_var_os name managed) fun _ => steady_ret _

theorem steady_expect (name : String) (managed : Managed name) : Steady (expectEnv name) :=
  steady_bind _ _ (steady_var name managed) steady_or_stop

theorem managed_cargo (tail : String) : Managed ("CARGO_FEATURE_" ++ tail) := by
  refine .inr (.inr (.inr ?_))
  have front : "CARGO_FEATURE_".toList = "CARGO_".toList ++ "FEATURE_".toList := by decide
  rw [String.toList_append, front, List.append_assoc]
  exact List.prefix_append _ _

theorem steady_watched (name : String) (next : Option OsString → Task α) (rest : ∀ value, Steady (next value)) :
    Steady (Script.watch name >>= fun _ => varOs name >>= next) := by
  intro watched
  change Related printed Known Surrounding Eq watched (.call (.watch name) fun _ => .call (.read name) next) _
  exact .watch watched name _ _ (.reread _ name next next List.mem_cons_self fun value => rest value _)

theorem steady_read_watch {T : Type} (host : Host) (name : String) (getter : Option OsString → Option T) :
    Steady (readAndWatchEnvImpl host name getter) := by
  apply steady_bind _ _ (steady_expect "TARGET" (.inl rfl))
  intro target
  apply steady_watched
  intro value
  cases getter value with
  | some found => exact steady_ret _
  | none =>
      apply steady_watched
      intro value
      exact steady_ret _

theorem steady_link_override (host : Host) (jemalloc : OsString) : Steady (linkOverride host jemalloc) := by
  apply steady_info
  apply steady_bind _ _ (steady_exists jemalloc)
  intro present
  apply steady_bind _ _ (steady_require present)
  intro _
  apply steady_bind _ _ (steady_or_stop _)
  intro directory
  apply steady_bind _ _ (steady_print _)
  intro _
  apply steady_bind _ _ (steady_or_stop _)
  intro stem
  apply steady_bind _ _ (steady_or_stop _)
  intro name
  apply steady_bind _ _ (steady_or_stop _)
  intro linked
  exact steady_print _

theorem steady_select_compiler : Steady selectCompiler := by
  apply steady_bind _ _ (steady_act .rustflags _ trivial steady_ret)
  intro cpu
  apply steady_bind _ _ (steady_act .rustflags _ trivial steady_ret)
  intro tune
  exact steady_act (.getCompiler _ _) _ trivial steady_or_stop

theorem steady_copy_sources (outDir buildDir : OsString) : Steady (copySources outDir buildDir) := by
  apply steady_bind _ _ (steady_exists outDir)
  intro created
  apply steady_bind _ _ (steady_require created)
  intro _
  apply steady_bind _ _ (steady_print _)
  intro _
  apply steady_bind
  · apply steady_bind _ _ (steady_exists buildDir)
    intro stale
    cases stale with
    | false => exact steady_ret ()
    | true => exact steady_act (.removeDirAll _) _ trivial steady_require
  · intro _
    apply steady_bind _ _ (steady_act (.copyRecursively _ _) _ trivial steady_require)
    intro _
    apply steady_bind _ _ (steady_exists buildDir)
    intro copied
    apply steady_bind _ _ (steady_require copied)
    intro _
    exact steady_act (.copy _ _) _ trivial steady_require

theorem steady_option (host : Host) (flag name : String) (command : Command) : Steady (configOption host flag name command) := by
  apply steady_bind _ _ (steady_read_watch host name nonEmpty)
  intro value
  cases value with
  | none => exact steady_ret command
  | some value => exact steady_info _ _ (steady_ret _)

theorem steady_conf (host : Host) (command : Command) : Steady (mallocConf host command) := by
  apply steady_bind _ _ (steady_read_watch host "JEMALLOC_SYS_WITH_MALLOC_CONF" nonEmpty)
  intro value
  have given : ∀ conf : String, Steady (if conf ≠ "" then do
      info ("--with-malloc-conf=" ++ conf)
      return command.arg ("--with-malloc-conf=" ++ conf)
    else return command : Task Command) := by
    intro conf
    by_cases present : conf ≠ ""
    · rw [if_pos present]
      exact steady_info _ _ (steady_ret _)
    · rw [if_neg present]
      exact steady_ret command
  exact given _

theorem steady_options (host : Host) (command : Command) : Steady (configOptions host command) := by
  apply steady_bind _ _ (steady_conf host command)
  intro command
  apply steady_bind _ _ (steady_option host "--with-lg-page=" "JEMALLOC_SYS_WITH_LG_PAGE" command)
  intro command
  apply steady_bind _ _ (steady_option host "--with-lg-hugepage=" "JEMALLOC_SYS_WITH_LG_HUGEPAGE" command)
  intro command
  apply steady_bind _ _ (steady_option host "--with-lg-quantum=" "JEMALLOC_SYS_WITH_LG_QUANTUM" command)
  intro command
  exact steady_option host "--with-lg-vaddr=" "JEMALLOC_SYS_WITH_LG_VADDR" command

theorem steady_feature (feature option : String) (command : Command) : Steady (featureFlag feature option command) := by
  apply steady_bind _ _ (steady_var _ (managed_cargo feature))
  intro value
  cases value with
  | some _ => exact steady_info _ _ (steady_ret _)
  | none => exact steady_info _ _ (steady_ret _)

theorem steady_frameptr (target : String) (command : Command) : Steady (frameptrFlag target command) := by
  apply steady_bind _ _ (steady_var _ (managed_cargo "PROFILING_FRAMEPTR"))
  intro value
  cases value with
  | some _ =>
      dsimp only
      split
      · exact steady_info _ _ (steady_ret _)
      · exact steady_info _ _ (steady_ret _)
  | none => exact steady_info _ _ (steady_ret _)

theorem steady_prefix_flag (usePrefix : Bool) (command : Command) : Steady (prefixFlag usePrefix command) :=
  steady_bind _ _ (steady_print_when _ _) fun _ => steady_ret _

theorem steady_debug (host : Host) (command : Command) : Steady (debugFlag host command) := by
  apply steady_bind
  · rw [debugEnabled]
    by_cases debug : host.debugAssertions
    · rw [if_pos debug]
      exact steady_ret true
    · rw [if_neg debug]
      exact steady_bind _ _ (steady_var _ (.inr (.inr (.inr (by decide))))) fun _ => steady_ret _
  · intro debug
    cases debug with
    | true => exact steady_info _ _ (steady_ret _)
    | false => exact steady_info _ _ (steady_ret _)

theorem steady_features (host : Host) (target : String) (command : Command) : Steady (featureFlags host target command) := by
  apply steady_bind _ _ (steady_debug host command)
  intro command
  apply steady_bind _ _ (steady_feature "CACHE_OBLIVIOUS" "cache-oblivious" command)
  intro command
  apply steady_bind _ _ (steady_feature "CHECK_SAFETY" "opt-safety-checks" command)
  intro command
  apply steady_bind _ _ (steady_feature "CHECK_SIZE_MATCH" "opt-size-checks" command)
  intro command
  apply steady_bind _ _ (steady_feature "CHECK_USE_AFTER_FREE" "uaf-detection" command)
  intro command
  apply steady_bind _ _ (steady_feature "FILL" "fill" command)
  intro command
  apply steady_bind _ _ (steady_feature "INITIAL_EXEC_TLS" "initial-exec-tls" command)
  intro command
  apply steady_bind _ _ (steady_feature "PAGEID" "pageid" command)
  intro command
  apply steady_bind _ _ (steady_feature "PROFILING" "prof" command)
  intro command
  apply steady_bind _ _ (steady_frameptr target command)
  intro command
  exact steady_feature "STATS" "stats" command

theorem steady_configure (host : Host) (target triple jeVersion : String) (outDir : OsString) (usePrefix : Bool) :
    Steady (configure host target triple jeVersion outDir usePrefix) := by
  apply steady_bind _ _ steady_select_compiler
  intro compiler
  apply steady_bind _ _ (steady_or_stop _)
  intro cflags
  apply steady_bind _ _ (steady_copy_sources outDir _)
  intro _
  apply steady_bind _ _ (steady_or_stop _)
  intro script
  apply steady_bind _ _ (steady_options host _)
  intro command
  apply steady_bind _ _ (steady_prefix_flag usePrefix command)
  intro command
  apply steady_bind _ _ (steady_features host target _)
  intro command
  exact steady_ret _

theorem steady_prefix_choice (target : String) : Steady (choosePrefix target) := by
  apply steady_bind _ _ (steady_var _ (managed_cargo "UNPREFIXED_MALLOC_ON_SUPPORTED_PLATFORMS"))
  intro unprefixed
  cases unprefixed with
  | none => exact steady_ret true
  | some _ =>
      by_cases unsupported : noUnprefixedMallocTargets.any (contains target)
      · simp only [unsupported, if_true]
        exact steady_bind _ _ (steady_print _) fun _ => steady_ret true
      · simp only [unsupported, if_false, Bool.false_eq_true]
        exact steady_ret false

theorem steady_check (target : String) : Steady (checkTarget target) := by
  apply steady_bind _ _ (steady_require _)
  intro _
  split
  · exact steady_print _
  · exact steady_ret ()

theorem steady_decision (host : Host) (target triple jeVersion : String) (outDir : OsString) :
    Steady (chooseDecision host target triple jeVersion outDir) := by
  apply steady_bind _ _ (steady_check target)
  intro _
  apply steady_bind _ _ (steady_prefix_choice target)
  intro usePrefix
  apply steady_bind _ _ (steady_print _)
  intro _
  apply steady_bind _ _ (steady_print_when _ _)
  intro _
  apply steady_bind _ _ (steady_read_watch host "JEMALLOC_OVERRIDE" id)
  intro found
  cases found with
  | some jemalloc => exact steady_bind _ _ (steady_link_override host jemalloc) fun _ => steady_ret _
  | none => exact steady_bind _ _ (steady_configure host target triple jeVersion outDir usePrefix) fun _ => steady_ret _

end Steady

theorem jobs_related (watched : List String) :
    Related printed Known Surrounding (fun _ _ => True) watched (expectEnv "NUM_JOBS") (expectEnv "NUM_JOBS") := by
  refine .read watched "NUM_JOBS" _ _ ?_
  intro one other known
  have presence := known.2 rfl
  change Related printed Known Surrounding (fun _ _ => True) watched (Script.orStop (one.bind fromUtf8)) (Script.orStop (other.bind fromUtf8))
  rw [Readable, Readable] at presence
  cases first : one.bind fromUtf8 with
  | none =>
      cases second : other.bind fromUtf8 with
      | none => exact .stop watched _ _
      | some jobs => simp [first, second] at presence
  | some jobs =>
      cases second : other.bind fromUtf8 with
      | none => simp [first, second] at presence
      | some others => exact .ret watched jobs others trivial

theorem choose_related (host : Host) (target triple jobs others : String) (watched : List String) :
    Related printed Known Surrounding Eq watched (chooseBuild host target triple jobs) (chooseBuild host target triple others) := by
  apply related_bind watched _ _ (steady_var_os "OUT_DIR" (.inr (.inr (.inl rfl))) watched)
  rintro outDir _ watched _ rfl
  apply related_bind watched _ _ (steady_or_stop outDir watched)
  rintro outDir _ watched _ rfl
  apply related_bind watched _ _ (steady_act .currentDir _ trivial steady_ret watched)
  rintro srcDir _ watched _ rfl
  apply related_bind watched _ _ (steady_or_stop srcDir watched)
  rintro _ _ watched _ rfl
  apply related_bind watched _ _ (steady_expect "CARGO_PKG_VERSION" (.inr (.inr (.inr (by decide)))) watched)
  rintro version _ watched _ rfl
  apply related_bind watched _ _ (steady_or_stop _ watched)
  rintro version _ watched _ rfl
  have told : Related printed Known Surrounding Eq watched (announce target triple jobs) (announce target triple others) := by
    apply related_bind watched _ _ (steady_print _ watched)
    rintro _ _ watched _ rfl
    apply related_bind watched _ _ (steady_print _ watched)
    rintro _ _ watched _ rfl
    exact .tell watched _ _ _ _ rfl rfl fun _ _ => .ret watched () () rfl
  apply related_bind watched _ _ told
  rintro _ _ watched _ rfl
  exact steady_decision host target triple version.2 outDir watched

theorem prepare_related (host : Host) :
    Related printed Known Surrounding (fun one other => one.2 = other.2) [] (prepare host) (prepare host) := by
  apply related_bind [] _ _ (steady_expect "TARGET" (.inl rfl) [])
  intro target other watched _ same
  subst same
  apply related_bind watched _ _ (steady_expect "HOST" (.inr (.inl rfl)) watched)
  intro triple other watched _ same
  subst same
  apply related_bind watched _ _ (jobs_related watched)
  intro jobs others watched _ _
  apply related_bind watched _ _ (choose_related host target triple jobs others watched)
  intro decision other watched _ same
  exact .ret watched _ _ same

section Silence

theorem silent_print (text : String) : Silent (print text) := fun _ => trivial

theorem silent_print_when (met : Bool) (text : String) : Silent (printWhen met text) := by
  cases met with
  | false => trivial
  | true => exact silent_print text

theorem silent_require (met : Bool) : Silent (require met) := by
  cases met with
  | false => trivial
  | true => trivial

theorem silent_compile (file output : String) : Silent (compile file output) := silent_require

theorem silent_execute (command : Command) (onFail : Task Unit) (silent : Silent onFail) : Silent (command.execute onFail) := by
  have asks : Silent command.status := fun _ => trivial
  apply silent_bind _ _ asks
  intro answer
  cases answer with
  | none => trivial
  | some success =>
      cases success with
      | true => trivial
      | false => exact silent_bind _ _ silent fun _ => trivial

theorem silent_command (command : Command) : Silent command.run := silent_execute command _ trivial

theorem silent_tests (numJobs : String) (build : Bundled) : Silent (runTests numJobs build) := by
  have reads : Silent (var "JEMALLOC_SYS_RUN_JEMALLOC_TESTS") := fun _ => trivial
  apply silent_bind _ _ reads
  intro wanted
  cases wanted with
  | none => trivial
  | some _ =>
      apply silent_bind _ _ (silent_print _)
      intro _
      exact silent_bind _ _ (silent_command _) fun _ => silent_command _

theorem silent_shim (target : String) : Silent (atforkShim target) := by
  rw [atforkShim]
  by_cases android : contains target "android"
  · rw [if_pos android]
    exact silent_bind _ _ (silent_compile _ _) fun _ => silent_print _
  · rw [if_neg android]
    trivial

theorem silent_finish (host : Host) (numJobs : String) (build : Bundled) : Silent (finish host numJobs build) := by
  apply silent_bind _ _ (silent_execute _ _ (silent_command _))
  intro _
  apply silent_bind _ _ (silent_command _)
  intro _
  apply silent_bind _ _ (silent_tests numJobs build)
  intro _
  apply silent_bind _ _ (silent_command _)
  intro _
  apply silent_bind _ _ (silent_print _)
  intro _
  apply silent_bind _ _ (silent_print _)
  intro _
  apply silent_bind _ _ (silent_print _)
  intro _
  apply silent_bind _ _ (silent_print_when _ _)
  intro _
  apply silent_bind _ _ (silent_print_when _ _)
  intro _
  apply silent_bind _ _ (silent_print _)
  intro _
  exact silent_shim build.target

end Silence

def decided (host : Host) (env : Env) (answers : Answers) : Option Decision :=
  (run env answers (prepare host) []).2.map Prod.snd

theorem same_decision (one other : Option (String × Decision))
    (related : Option.Rel (fun one other => one.2 = other.2) one other) : one.map Prod.snd = other.map Prod.snd := by
  cases related with
  | none => rfl
  | some agree => exact congrArg some agree

def watchLines (host : Host) (env : Env) (answers : Answers) : List String := watches (run env answers (main host) []).1

theorem watch_lines_prepared (host : Host) (env : Env) (answers : Answers) :
    watchLines host env answers = watches (run env answers (prepare host) []).1 := by
  apply silent_bind_run
  intro prepared
  obtain ⟨numJobs, decision⟩ := prepared
  cases decision with
  | override jemalloc => trivial
  | bundled build => exact silent_finish host numJobs build

def Uses (host : Host) (env : Env) : Decision → Prop
  | .override jemalloc => chosen host env "JEMALLOC_OVERRIDE" id = some jemalloc
  | .bundled build => chosen host env "JEMALLOC_OVERRIDE" id = none ∧ Configured host env build

section Values

variable (host : Host) (env : Env)

theorem yields_decision (target triple jeVersion : String) (outDir : OsString) :
    Yields env (fun decision => match decision with
      | .override jemalloc => chosen host env "JEMALLOC_OVERRIDE" id = some jemalloc
      | .bundled build => chosen host env "JEMALLOC_OVERRIDE" id = none ∧
          (build.target = target ∧ build.host = triple ∧ build.outDir = outDir ∧
            build.buildDir = PathBuf.join outDir (utf8 "build")) ∧
          ∃ script, fromUtf8 (PathBuf.join build.buildDir (utf8 "configure")) = some script ∧ build.configure.args =
            utf8 (shellPath script) :: configureArgs host env target triple jeVersion outDir (wantsPrefix env target))
      (chooseDecision host target triple jeVersion outDir) := by
  apply yields_after
  intro _
  apply yields_bind env _ _ _ _ (yields_prefix_choice env target)
  rintro usePrefix rfl
  apply yields_after
  intro _
  apply yields_after
  intro _
  apply yields_bind env _ _ _ _ (yields_read_watch host env "JEMALLOC_OVERRIDE" id)
  intro value same
  cases value with
  | some jemalloc =>
      apply yields_after
      intro _
      exact same.symm
  | none =>
      apply yields_bind env _ _ _ _ (yields_arguments host env target triple jeVersion outDir (wantsPrefix env target))
      intro build configured
      exact ⟨same.symm, configured⟩

theorem yields_prepare : Yields env (fun result => Uses host env result.2) (prepare host) := by
  apply yields_bind env _ _ _ _ (yields_expect env "TARGET")
  intro target targeted
  apply yields_bind env _ _ _ _ (yields_expect env "HOST")
  intro triple hosted
  apply yields_after
  intro numJobs
  refine yields_bind env (Uses host env) _ _ _ ?_ fun _ uses => uses
  have outDirRead : Yields env (fun outDir => outDir = env "OUT_DIR") (varOs "OUT_DIR") := rfl
  apply yields_bind env _ _ _ _ outDirRead
  rintro outDir rfl
  apply yields_bind env _ _ _ _ (yields_or_stop env (env "OUT_DIR"))
  intro outDir found
  apply yields_after
  intro srcDir
  apply yields_after
  intro _
  apply yields_bind env _ _ _ _ (yields_expect env "CARGO_PKG_VERSION")
  intro text versioned
  apply yields_bind env _ _ _ _ (yields_or_stop env (splitOnce text '+'))
  intro version split
  apply yields_after
  intro _
  refine yields_weaken env _ _ _ (yields_decision host env target triple version.2 outDir) ?_
  intro decision decides
  cases decision with
  | override jemalloc => exact decides
  | bundled build =>
      obtain ⟨unset, ⟨rfl, rfl, rfl, place⟩, script, read, args⟩ := decides
      have full : ((env "CARGO_PKG_VERSION").bind fromUtf8).bind (fun version => splitOnce version '+') = some version := by
        rw [versioned, Option.bind_some, split]
      exact ⟨unset, targeted, hosted, found, place, script, version, read, full, args⟩

theorem decided_uses (answers : Answers) (decision : Decision) (reached : decided host env answers = some decision) :
    Uses host env decision := by
  obtain ⟨result, returned, rfl⟩ := Option.map_eq_some_iff.mp reached
  exact yields_run env answers _ (prepare host) [] result (yields_prepare host env) returned

theorem main_configures (answers : Answers) (build : Bundled) (reached : decided host env answers = some (.bundled build)) :
    .acted (.status build.configure) ∈ (run env answers (main host) []).1 := by
  obtain ⟨⟨numJobs, decision⟩, returned, same⟩ := Option.map_eq_some_iff.mp reached
  obtain rfl : decision = .bundled build := same
  obtain ⟨resume, begins⟩ : ∃ resume, finish host numJobs build = .call (.act (.status build.configure)) resume := ⟨_, rfl⟩
  rw [main, run_bind]
  cases ended : run env answers (prepare host) [] with
  | mk later result =>
      rw [ended] at returned
      obtain rfl : result = some (numJobs, .bundled build) := returned
      change _ ∈ (run env answers (finish host numJobs build) later).1
      have executed := run_extends env answers (resume (answers later (.status build.configure)))
        (later ++ [.acted (.status build.configure)])
      rw [begins]
      exact executed.subset (by simp)

end Values

-- Two environments, of which the second need only agree with what the script
-- announces under the first, and surroundings that go by what has been done.
theorem rebuild_agrees (host : Host) (first second : Env) (answers replies : Answers)
    (managed : ∀ name, Managed name → first name = second name)
    (jobs : Readable (first "NUM_JOBS") ↔ Readable (second "NUM_JOBS"))
    (surroundings : ∀ past later action, deeds printed past = deeds printed later → Surrounding action →
      answers past action = replies later action)
    (watched : ∀ name ∈ watchLines host first answers, first name = second name) :
    watchLines host first answers = watchLines host second replies ∧
    decided host first answers = decided host second replies ∧
    (∀ decision, decided host first answers = some decision → Uses host first decision ∧ Uses host second decision) ∧
    ∀ build, decided host first answers = some (.bundled build) →
      .acted (.status build.configure) ∈ (run first answers (main host) []).1 ∧
      .acted (.status build.configure) ∈ (run second replies (main host) []).1 := by
  have known : ∀ name, Known name (first name) (second name) := by
    intro name
    refine ⟨managed name, ?_⟩
    intro isJobs
    rw [isJobs]
    exact jobs
  rw [watch_lines_prepared] at watched
  obtain ⟨events, results⟩ := related_run first second answers replies [] [] [] (prepare_related host) known surroundings rfl
    (by simp) watched
  have same : decided host first answers = decided host second replies := same_decision _ _ results
  refine ⟨?_, same, ?_, ?_⟩
  · rw [watch_lines_prepared, watch_lines_prepared, ← watches_deeds printed, events, watches_deeds]
  · intro decision reached
    exact ⟨decided_uses host first answers decision reached, decided_uses host second replies decision (same ▸ reached)⟩
  · intro build reached
    exact ⟨main_configures host first answers build reached, main_configures host second replies build (same ▸ reached)⟩

theorem upper_not_lower (char : Char) : char.toUpper.isLower = false := by
  delta Char.isLower Char.toUpper
  split <;> grind [UInt32.toNat_add, Char.toNat_val]

def asciiHost : Host where
  toUppercase text := String.ofList (text.toList.map Char.toUpper)
  uppercase := by
    intro text char member
    rw [String.toList_ofList] at member
    obtain ⟨other, _, rfl⟩ := List.mem_map.mp member
    exact upper_not_lower other
  lossy _ := ""
  debugAssertions := false

def environment (entries : List (String × String)) : Env := fun name => (entries.lookup name).map utf8

def willing : Answers := fun _ action =>
  match action with
  | .print _ => ()
  | .currentDir => some (utf8 "/")
  | .exists _ => true
  | .removeDirAll _ => true
  | .copyRecursively _ _ => true
  | .copy _ _ => true
  | .rustflags => []
  | .getCompiler _ _ => some ⟨utf8 "cc", []⟩
  | .status _ => some true
  | .compile _ _ => true

theorem environment_unicode (entries : List (String × String)) (name : String) (value : OsString)
    (found : environment entries name = some value) : IsUtf8 value := by
  obtain ⟨text, _, same⟩ := Option.map_eq_some_iff.mp found
  exact ⟨text, same⟩

theorem environment_cons (key value : String) (entries : List (String × String)) (name : String) (other : name ≠ key) :
    environment ((key, value) :: entries) name = environment entries name := by
  have missed : (name == key) = false := beq_false_of_ne other
  rw [environment, environment, List.lookup_cons, missed]

def pageEntries (page : String) : List (String × String) :=
  [("JEMALLOC_SYS_WITH_LG_PAGE", page), ("TARGET", "t"), ("HOST", "t"), ("NUM_JOBS", "2"), ("OUT_DIR", "/out"),
    ("CARGO_PKG_VERSION", "0.5.4+5.3.0"), ("T_JEMALLOC_SYS_WITH_LG_PAGE", "14")]

theorem page_watch_lines : watchLines asciiHost (environment (pageEntries "12")) willing = ["T_JEMALLOC_OVERRIDE",
    "JEMALLOC_OVERRIDE", "T_JEMALLOC_SYS_WITH_MALLOC_CONF", "JEMALLOC_SYS_WITH_MALLOC_CONF", "T_JEMALLOC_SYS_WITH_LG_PAGE",
    "T_JEMALLOC_SYS_WITH_LG_HUGEPAGE", "JEMALLOC_SYS_WITH_LG_HUGEPAGE", "T_JEMALLOC_SYS_WITH_LG_QUANTUM",
    "JEMALLOC_SYS_WITH_LG_QUANTUM", "T_JEMALLOC_SYS_WITH_LG_VADDR", "JEMALLOC_SYS_WITH_LG_VADDR"] := rfl

theorem rebuild_agrees_page :
    ∃ build, decided asciiHost (environment (pageEntries "12")) willing = some (.bundled build) ∧
      decided asciiHost (environment (pageEntries "16")) willing = some (.bundled build) ∧
      watchLines asciiHost (environment (pageEntries "12")) willing = watchLines asciiHost (environment (pageEntries "16")) willing := by
  have elsewhere : ∀ name, name ≠ "JEMALLOC_SYS_WITH_LG_PAGE" →
      environment (pageEntries "12") name = environment (pageEntries "16") name := by
    intro name other
    exact (environment_cons _ _ _ name other).trans (environment_cons _ _ _ name other).symm
  have managed : ∀ name, Managed name → environment (pageEntries "12") name = environment (pageEntries "16") name := by
    intro name managed
    apply elsewhere
    rintro rfl
    exact absurd managed (by decide)
  have watched : ∀ name ∈ watchLines asciiHost (environment (pageEntries "12")) willing,
      environment (pageEntries "12") name = environment (pageEntries "16") name := by
    intro name member
    apply elsewhere
    rintro rfl
    rw [page_watch_lines] at member
    exact absurd member (by decide)
  obtain ⟨lines, same, _⟩ := rebuild_agrees asciiHost (environment (pageEntries "12")) (environment (pageEntries "16")) willing
    willing managed Iff.rfl (fun _ _ _ _ _ => rfl) watched
  obtain ⟨build, chose⟩ : ∃ build, decided asciiHost (environment (pageEntries "12")) willing = some (.bundled build) :=
    ⟨_, rfl⟩
  exact ⟨build, chose, same ▸ chose, lines⟩

def overrideEntries (path : String) : List (String × String) :=
  [("TARGET", "x86_64-unknown-linux-gnu"), ("HOST", "x86_64-unknown-linux-gnu"), ("OUT_DIR", "/out"),
    ("CARGO_PKG_VERSION", "0.5.4+5.3.0"), ("JEMALLOC_OVERRIDE", path)]

-- Without NUM_JOBS the script stops in front of its first watch line.
theorem rebuild_without_jobs :
    let first := environment (("NUM_JOBS", "1") :: overrideEntries "/usr/lib/libjemalloc.a")
    let second := environment (overrideEntries "/usr/lib/libjemalloc.a")
    (∀ name value, first name = some value → IsUtf8 value) ∧ (∀ name value, second name = some value → IsUtf8 value) ∧
    (∀ name, Managed name → first name = second name) ∧
    (∀ name ∈ watchLines asciiHost first willing, first name = second name) ∧
    decided asciiHost first willing = some (.override (utf8 "/usr/lib/libjemalloc.a")) ∧ decided asciiHost second willing = none ∧
    watchLines asciiHost first willing ≠ watchLines asciiHost second willing := by
  intro first second
  have lines : watchLines asciiHost first willing = ["X86_64_UNKNOWN_LINUX_GNU_JEMALLOC_OVERRIDE", "JEMALLOC_OVERRIDE"] := rfl
  have silent : watchLines asciiHost second willing = [] := rfl
  refine ⟨environment_unicode _, environment_unicode _, ?_, ?_, rfl, rfl, ?_⟩
  · intro name managed
    apply environment_cons
    rintro rfl
    exact absurd managed (by decide)
  · intro name member
    apply environment_cons
    rintro rfl
    rw [lines] at member
    exact absurd member (by decide)
  · rw [lines, silent]
    exact List.cons_ne_nil _ _

end BuildScript
