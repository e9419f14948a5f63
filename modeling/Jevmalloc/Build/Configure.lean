import Jevmalloc.Build.Script

set_option autoImplicit false

namespace BuildScript

open Interaction Bytes

abbrev Env := String → Option OsString
abbrev History := List (Event String Action)
abbrev Answers := History → (action : Action) → Answer action

-- What a watched name stands for: its target-prefixed form if that counts as
-- present, and the plain one otherwise.
def chosen {T : Type} (host : Host) (env : Env) (name : String) (getter : Option OsString → Option T) : Option T :=
  ((env "TARGET").bind fromUtf8).bind fun target => (getter (env (prefixedName host target name))).or (getter (env name))

def optionArg (flag : String) (value : Option String) : List OsString := (value.map fun text => utf8 (flag ++ text)).toList

def valuedOptions : List (String × String) :=
  [("--with-malloc-conf=", "JEMALLOC_SYS_WITH_MALLOC_CONF"), ("--with-lg-page=", "JEMALLOC_SYS_WITH_LG_PAGE"),
    ("--with-lg-hugepage=", "JEMALLOC_SYS_WITH_LG_HUGEPAGE"), ("--with-lg-quantum=", "JEMALLOC_SYS_WITH_LG_QUANTUM"),
    ("--with-lg-vaddr=", "JEMALLOC_SYS_WITH_LG_VADDR")]

def optionArgs (host : Host) (env : Env) : List OsString :=
  valuedOptions.flatMap fun option => optionArg option.1 (chosen host env option.2 nonEmpty)

section Values

variable (host : Host) (env : Env)

omit host in
theorem yields_watched {α : Type} (post : α → Prop) (name : String) (next : Option OsString → Task α) :
    Yields env post (Script.watch name >>= fun _ => varOs name >>= next) = Yields env post (next (env name)) := rfl

theorem yields_read_watch {T : Type} (name : String) (getter : Option OsString → Option T) :
    Yields env (fun value => value = chosen host env name getter) (readAndWatchEnvImpl host name getter) := by
  have asked : Yields env (fun target => (env "TARGET").bind fromUtf8 = some target) (expectEnv "TARGET") := by
    change Yields env _ (Script.orStop ((env "TARGET").bind fromUtf8))
    cases (env "TARGET").bind fromUtf8 with
    | none => trivial
    | some target => rfl
  apply yields_bind env _ _ _ _ asked
  intro target known
  rw [chosen, known, Option.bind_some]
  rw [yields_watched]
  cases getter (env (prefixedName host target name)) with
  | some value => rfl
  | none => rfl

theorem yields_option (flag name : String) (command : Command) :
    Yields env (fun result => result.args = command.args ++ optionArg flag (chosen host env name nonEmpty))
      (configOption host flag name command) := by
  apply yields_bind env _ _ _ _ (yields_read_watch host env name nonEmpty)
  intro value same
  subst same
  cases chosen host env name nonEmpty with
  | some value => exact fun _ => rfl
  | none => exact (List.append_nil _).symm

omit env in
theorem non_empty_text (value : Option OsString) (text : String) (read : nonEmpty value = some text) : text ≠ "" := by
  have kept := (Option.filter_eq_some_iff.mp read).2
  exact of_decide_eq_true kept

theorem chosen_text (name text : String) (found : chosen host env name nonEmpty = some text) : text ≠ "" := by
  obtain ⟨target, _, read⟩ := Option.bind_eq_some_iff.mp found
  rcases Option.or_eq_some_iff.mp read with prefixed | ⟨_, plain⟩
  · exact non_empty_text _ text prefixed
  · exact non_empty_text _ text plain

theorem yields_malloc_conf (command : Command) :
    Yields env (fun result => result.args = command.args ++
      optionArg "--with-malloc-conf=" (chosen host env "JEMALLOC_SYS_WITH_MALLOC_CONF" nonEmpty)) (mallocConf host command) := by
  apply yields_bind env _ _ _ _ (yields_read_watch host env "JEMALLOC_SYS_WITH_MALLOC_CONF" nonEmpty)
  intro value same
  subst same
  cases found : chosen host env "JEMALLOC_SYS_WITH_MALLOC_CONF" nonEmpty with
  | none => exact (List.append_nil _).symm
  | some text =>
      have present := chosen_text host env _ text found
      dsimp only
      rw [if_pos present]
      exact fun _ => rfl

theorem yields_options (command : Command) :
    Yields env (fun result => result.args = command.args ++ optionArgs host env) (configOptions host command) := by
  apply yields_bind env _ _ _ _ (yields_malloc_conf host env command)
  intro first conf
  apply yields_bind env _ _ _ _ (yields_option host env "--with-lg-page=" "JEMALLOC_SYS_WITH_LG_PAGE" first)
  intro second page
  apply yields_bind env _ _ _ _ (yields_option host env "--with-lg-hugepage=" "JEMALLOC_SYS_WITH_LG_HUGEPAGE" second)
  intro third hugepage
  apply yields_bind env _ _ _ _ (yields_option host env "--with-lg-quantum=" "JEMALLOC_SYS_WITH_LG_QUANTUM" third)
  intro fourth quantum
  have last := yields_option host env "--with-lg-vaddr=" "JEMALLOC_SYS_WITH_LG_VADDR" fourth
  rw [quantum, hugepage, page, conf] at last
  have all : optionArgs host env = optionArg "--with-malloc-conf=" (chosen host env "JEMALLOC_SYS_WITH_MALLOC_CONF" nonEmpty) ++
      optionArg "--with-lg-page=" (chosen host env "JEMALLOC_SYS_WITH_LG_PAGE" nonEmpty) ++
      optionArg "--with-lg-hugepage=" (chosen host env "JEMALLOC_SYS_WITH_LG_HUGEPAGE" nonEmpty) ++
      optionArg "--with-lg-quantum=" (chosen host env "JEMALLOC_SYS_WITH_LG_QUANTUM" nonEmpty) ++
      optionArg "--with-lg-vaddr=" (chosen host env "JEMALLOC_SYS_WITH_LG_VADDR" nonEmpty) := by
    simp [optionArgs, valuedOptions]
  simpa only [all, List.append_assoc] using last

end Values

section Arguments

variable (host : Host) (env : Env)

def enabled (name : String) : Bool := ((env name).bind fromUtf8).isSome

def wantsPrefix (target : String) : Bool :=
  !enabled env "CARGO_FEATURE_UNPREFIXED_MALLOC_ON_SUPPORTED_PLATFORMS" || noUnprefixedMallocTargets.any (contains target)

def toggled (on : Bool) (option : String) : String := (if on then "--enable-" else "--disable-") ++ option

def features : List (String × String) :=
  [("CACHE_OBLIVIOUS", "cache-oblivious"), ("CHECK_SAFETY", "opt-safety-checks"), ("CHECK_SIZE_MATCH", "opt-size-checks"),
    ("CHECK_USE_AFTER_FREE", "uaf-detection"), ("FILL", "fill"), ("INITIAL_EXEC_TLS", "initial-exec-tls"), ("PAGEID", "pageid"),
    ("PROFILING", "prof"), ("STATS", "stats")]

def featureArg (feature : String × String) : String := toggled (enabled env ("CARGO_FEATURE_" ++ feature.1)) feature.2

def debugWanted : Bool := host.debugAssertions || enabled env "CARGO_CFG_DEBUG_ASSERTIONS"

def frameptrArgs (target : String) : List String :=
  if enabled env "CARGO_FEATURE_PROFILING_FRAMEPTR" ∧ contains target "linux" then ["--enable-prof-frameptr"] else []

def baseArgs (target jeVersion : String) : List String :=
  ["--with-version=" ++ jeVersion, "--enable-option-checking=fatal", "--disable-cxx", "--enable-doc=no", "--enable-shared=no"] ++
    (if contains target "ios" then ["--with-lg-page=14"] else []) ++ if contains target "openbsd" then ["--disable-dss"] else []

def prefixArgs (usePrefix : Bool) : List String :=
  (if usePrefix then ["--with-jemalloc-prefix=_rjem_"] else []) ++ ["--with-private-namespace=_rjem_"]

def toggleArgs (target : String) : List String :=
  toggled (debugWanted host env) "debug" :: (features.dropLast.map (featureArg env) ++ frameptrArgs env target ++
    [featureArg env ("STATS", "stats")])

def tripleArgs (target triple : String) (outDir : OsString) : List String :=
  ["--host=" ++ gnuTarget target, "--build=" ++ gnuTarget triple, "--prefix=" ++ host.display outDir]

def configureArgs (target triple jeVersion : String) (outDir : OsString) (usePrefix : Bool) : List OsString :=
  (baseArgs target jeVersion).map utf8 ++ optionArgs host env ++
    (prefixArgs usePrefix ++ toggleArgs host env target ++ tripleArgs host target triple outDir).map utf8

-- The spelling of a path that a shell on Windows understands.
def shellPath (script : String) : String := replaceChar (script.replace "C:\\" "/c/") '\\' '/'

structure Configured (build : Bundled) : Prop where
  target : (env "TARGET").bind fromUtf8 = some build.target
  triple : (env "HOST").bind fromUtf8 = some build.host
  outDir : env "OUT_DIR" = some build.outDir
  buildDir : build.buildDir = PathBuf.join build.outDir (utf8 "build")
  args : ∃ script version, fromUtf8 (PathBuf.join build.buildDir (utf8 "configure")) = some script ∧
    ((env "CARGO_PKG_VERSION").bind fromUtf8).bind (fun version => splitOnce version '+') = some version ∧
    build.configure.args = utf8 (shellPath script) ::
      configureArgs host env build.target build.host version.2 build.outDir (wantsPrefix env build.target)

theorem base_args (target jeVersion cflags script : String) (buildDir cc : OsString) :
    (baseCommand target jeVersion cflags script buildDir cc).args =
      utf8 (shellPath script) :: (baseArgs target jeVersion).map utf8 := by
  rw [baseCommand, baseArgs, shellPath]
  by_cases ios : contains target "ios"
  · by_cases openbsd : contains target "openbsd"
    · simp only [if_pos ios, if_pos openbsd]
      rfl
    · simp only [if_pos ios, if_neg openbsd]
      rfl
  · by_cases openbsd : contains target "openbsd"
    · simp only [if_neg ios, if_pos openbsd]
      rfl
    · simp only [if_neg ios, if_neg openbsd]
      rfl

def Adds (env : Env) (texts : List String) (command : Command) (script : Task Command) : Prop :=
  Yields env (fun result => result.args = command.args ++ texts.map utf8) script

theorem adds_bind (first second : List String) (command : Command) (script : Task Command) (next : Command → Task Command)
    (one : Adds env first command script) (two : ∀ later, Adds env second later (next later)) :
    Adds env (first ++ second) command (script >>= next) := by
  apply yields_bind env _ _ _ _ one
  intro later grown
  refine yields_weaken env _ _ _ (two later) ?_
  intro result more
  rw [more, grown, List.append_assoc, List.map_append]

theorem adds_prefix_flag (usePrefix : Bool) (command : Command) :
    Adds env (prefixArgs usePrefix) command (prefixFlag usePrefix command) := by
  cases usePrefix with
  | true => exact fun _ => List.append_assoc _ _ _
  | false => rfl

theorem adds_debug (command : Command) : Adds env [toggled (debugWanted host env) "debug"] command (debugFlag host command) := by
  have enabled : Yields env (fun debug => debug = debugWanted host env) (debugEnabled host) := by
    rw [debugEnabled, debugWanted]
    cases host.debugAssertions with
    | true => rfl
    | false => rfl
  apply yields_bind env _ _ _ _ enabled
  rintro debug rfl
  cases debugWanted host env with
  | true => exact fun _ => rfl
  | false => exact fun _ => rfl

theorem adds_feature (feature option : String) (command : Command) :
    Adds env [featureArg env (feature, option)] command (featureFlag feature option command) := by
  have read : Yields env (fun value => value = (env ("CARGO_FEATURE_" ++ feature)).bind fromUtf8)
      (var ("CARGO_FEATURE_" ++ feature)) := rfl
  apply yields_bind env _ _ _ _ read
  rintro value rfl
  rw [featureArg, enabled]
  dsimp only
  cases (env ("CARGO_FEATURE_" ++ feature)).bind fromUtf8 with
  | some text => exact fun _ => rfl
  | none => exact fun _ => rfl

theorem adds_frameptr (target : String) (command : Command) :
    Adds env (frameptrArgs env target) command (frameptrFlag target command) := by
  have read : Yields env (fun value => value = (env "CARGO_FEATURE_PROFILING_FRAMEPTR").bind fromUtf8)
      (var "CARGO_FEATURE_PROFILING_FRAMEPTR") := rfl
  apply yields_bind env _ _ _ _ read
  rintro value rfl
  rw [frameptrArgs, enabled]
  cases (env "CARGO_FEATURE_PROFILING_FRAMEPTR").bind fromUtf8 with
  | some text =>
      by_cases linux : contains target "linux" = true
      · simp only [linux, Option.isSome_some, and_self, if_true]
        exact fun _ => rfl
      · simp only [linux, and_false, if_false, Bool.false_eq_true]
        exact fun _ => (List.append_nil _).symm
  | none =>
      simp only [Option.isSome_none, Bool.false_eq_true, false_and, if_false]
      exact fun _ => (List.append_nil _).symm

theorem adds_features (target : String) (command : Command) :
    Adds env (toggleArgs host env target) command (featureFlags host target command) := by
  refine adds_bind env [_] _ command _ _ (adds_debug host env command) fun command => ?_
  refine adds_bind env [_] _ command _ _ (adds_feature env "CACHE_OBLIVIOUS" "cache-oblivious" command) fun command => ?_
  refine adds_bind env [_] _ command _ _ (adds_feature env "CHECK_SAFETY" "opt-safety-checks" command) fun command => ?_
  refine adds_bind env [_] _ command _ _ (adds_feature env "CHECK_SIZE_MATCH" "opt-size-checks" command) fun command => ?_
  refine adds_bind env [_] _ command _ _ (adds_feature env "CHECK_USE_AFTER_FREE" "uaf-detection" command) fun command => ?_
  refine adds_bind env [_] _ command _ _ (adds_feature env "FILL" "fill" command) fun command => ?_
  refine adds_bind env [_] _ command _ _ (adds_feature env "INITIAL_EXEC_TLS" "initial-exec-tls" command) fun command => ?_
  refine adds_bind env [_] _ command _ _ (adds_feature env "PAGEID" "pageid" command) fun command => ?_
  refine adds_bind env [_] _ command _ _ (adds_feature env "PROFILING" "prof" command) fun command => ?_
  refine adds_bind env _ [_] command _ _ (adds_frameptr env target command) fun command => ?_
  exact adds_feature env "STATS" "stats" command

theorem yields_prefix_choice (target : String) : Yields env (fun value => value = wantsPrefix env target) (choosePrefix target) := by
  have read : Yields env (fun value => value = (env "CARGO_FEATURE_UNPREFIXED_MALLOC_ON_SUPPORTED_PLATFORMS").bind fromUtf8)
      (var "CARGO_FEATURE_UNPREFIXED_MALLOC_ON_SUPPORTED_PLATFORMS") := rfl
  apply yields_bind env _ _ _ _ read
  rintro value rfl
  rw [wantsPrefix, enabled]
  cases (env "CARGO_FEATURE_UNPREFIXED_MALLOC_ON_SUPPORTED_PLATFORMS").bind fromUtf8 with
  | none => rfl
  | some text =>
      dsimp only
      cases unsupported : noUnprefixedMallocTargets.any (contains target) with
      | true => exact fun _ => rfl
      | false => rfl

omit host in
theorem yields_or_stop {α : Type} (value : Option α) : Yields env (fun found => value = some found) (Script.orStop value : Task α) := by
  cases value with
  | none => trivial
  | some found => rfl

omit host in
theorem yields_expect (name : String) : Yields env (fun text => (env name).bind fromUtf8 = some text) (expectEnv name) :=
  yields_or_stop env ((env name).bind fromUtf8)

theorem yields_arguments (target triple jeVersion : String) (outDir : OsString) (usePrefix : Bool) :
    Yields env (fun build => (build.target = target ∧ build.host = triple ∧ build.outDir = outDir ∧
        build.buildDir = PathBuf.join outDir (utf8 "build")) ∧
      ∃ script, fromUtf8 (PathBuf.join build.buildDir (utf8 "configure")) = some script ∧
        build.configure.args = utf8 (shellPath script) :: configureArgs host env target triple jeVersion outDir usePrefix)
      (configure host target triple jeVersion outDir usePrefix) := by
  apply yields_after
  intro compiler
  apply yields_after
  intro cflags
  apply yields_after
  intro _
  apply yields_bind env _ _ _ _ (yields_or_stop env _)
  intro script read
  apply yields_bind env _ _ _ _ (yields_options host env _)
  intro chosen options
  apply yields_bind env _ _ _ _ (adds_prefix_flag env usePrefix chosen)
  intro marked symbols
  apply yields_bind env _ _ _ _ (adds_features host env target marked)
  intro last added
  have base := base_args target jeVersion (" ".intercalate cflags) script (PathBuf.join outDir (utf8 "build")) compiler.path
  have all : ((last.arg ("--host=" ++ gnuTarget target)).arg ("--build=" ++ gnuTarget triple)).arg
      ("--prefix=" ++ host.display outDir) = { last with args := last.args ++ (tripleArgs host target triple outDir).map utf8 } := by
    simp [Command.arg, Command.argOs, tripleArgs]
  refine ⟨⟨rfl, rfl, rfl, rfl⟩, script, read, ?_⟩
  dsimp only
  rw [all, added, symbols, options, base, configureArgs]
  simp only [List.map_append, List.append_assoc, List.cons_append]

def fixed : List String :=
  ["--enable-option-checking=fatal", "--disable-cxx", "--enable-doc=no", "--enable-shared=no", "--with-lg-page=14", "--disable-dss",
    "--with-private-namespace=_rjem_"]

def flags : List String := ["--with-version=", "--host=", "--build=", "--prefix="] ++ valuedOptions.map Prod.fst

def settings : List (String × Bool) :=
  ("debug", debugWanted host env) :: features.map fun feature => (feature.2, enabled env ("CARGO_FEATURE_" ++ feature.1))

def Flagged (text : String) : Prop := ∃ flag ∈ flags, ∃ value, text = flag ++ value

omit host env in
theorem utf8_mem (text : String) (texts : List String) : utf8 text ∈ texts.map utf8 ↔ text ∈ texts := by
  constructor
  · intro member
    obtain ⟨other, listed, same⟩ := List.mem_map.mp member
    have read := (from_utf8_iff (utf8 text) other).mpr same
    rw [(from_utf8_iff (utf8 text) text).mpr rfl] at read
    obtain rfl := Option.some.inj read
    exact listed
  · exact List.mem_map_of_mem

omit host env in
theorem base_cases (target jeVersion text : String) (member : text ∈ baseArgs target jeVersion) : text ∈ fixed ∨ Flagged text := by
  have optional : ∀ (met : Prop) [Decidable met] (option : String), text ∈ (if met then [option] else []) → text = option := by
    intro met _ option inside
    split at inside
    · exact List.mem_singleton.mp inside
    · cases inside
  rw [baseArgs, List.mem_append, List.mem_append] at member
  rcases member with (always | ios) | openbsd
  · rcases List.mem_cons.mp always with rfl | rest
    · exact .inr ⟨"--with-version=", by decide, jeVersion, rfl⟩
    · left
      simp only [List.mem_cons, List.not_mem_nil, or_false] at rest
      rcases rest with rfl | rfl | rfl | rfl <;> decide
  · rw [optional _ _ ios]
    exact .inl (by decide)
  · rw [optional _ _ openbsd]
    exact .inl (by decide)

theorem option_cases (text : String) (member : utf8 text ∈ optionArgs host env) : Flagged text := by
  obtain ⟨option, listed, inside⟩ := List.mem_flatMap.mp member
  obtain ⟨value, _, same⟩ := Option.map_eq_some_iff.mp (Option.mem_toList.mp inside)
  have read := (utf8_mem text [option.1 ++ value]).mp (List.mem_singleton.mpr same.symm)
  exact ⟨option.1, List.mem_append_right _ (List.mem_map_of_mem listed), value, List.mem_singleton.mp read⟩

theorem triple_cases (target triple : String) (outDir : OsString) (text : String) (member : text ∈ tripleArgs host target triple outDir) :
    Flagged text := by
  simp only [tripleArgs, List.mem_cons, List.not_mem_nil, or_false] at member
  rcases member with rfl | rfl | rfl
  · exact ⟨"--host=", by decide, _, rfl⟩
  · exact ⟨"--build=", by decide, _, rfl⟩
  · exact ⟨"--prefix=", by decide, _, rfl⟩

theorem toggle_iff (target text : String) : text ∈ toggleArgs host env target ↔
    (∃ setting ∈ settings host env, text = toggled setting.2 setting.1) ∨ text ∈ frameptrArgs env target := by
  have all : settings host env = ("debug", debugWanted host env) ::
      (features.dropLast ++ [("STATS", "stats")]).map fun feature => (feature.2, enabled env ("CARGO_FEATURE_" ++ feature.1)) := rfl
  rw [toggleArgs, all]
  simp only [List.map_append, List.mem_cons, List.mem_append, List.mem_map, List.map_cons, List.map_nil, List.not_mem_nil, or_false]
  constructor
  · rintro (rfl | (⟨feature, listed, rfl⟩ | framed) | rfl)
    · exact .inl ⟨_, .inl rfl, rfl⟩
    · exact .inl ⟨_, .inr (.inl ⟨feature, listed, rfl⟩), rfl⟩
    · exact .inr framed
    · exact .inl ⟨_, .inr (.inr rfl), rfl⟩
  · rintro (⟨setting, rfl | ⟨feature, listed, rfl⟩ | rfl, rfl⟩ | framed)
    · exact .inl rfl
    · exact .inr (.inl (.inl ⟨feature, listed, rfl⟩))
    · exact .inr (.inr rfl)
    · exact .inr (.inl (.inr framed))

theorem argument_cases (target triple jeVersion : String) (outDir : OsString) (usePrefix : Bool) (text : String)
    (member : utf8 text ∈ configureArgs host env target triple jeVersion outDir usePrefix) :
    text ∈ fixed ∨ Flagged text ∨ (usePrefix = true ∧ text = "--with-jemalloc-prefix=_rjem_") ∨ text ∈ toggleArgs host env target := by
  rw [configureArgs, List.mem_append, List.mem_append, utf8_mem, utf8_mem, List.mem_append, List.mem_append] at member
  rcases member with (base | option) | (symbols | toggles) | triples
  · rcases base_cases target jeVersion text base with still | flagged
    · exact .inl still
    · exact .inr (.inl flagged)
  · exact .inr (.inl (option_cases host env text option))
  · rw [prefixArgs, List.mem_append] at symbols
    rcases symbols with chosen | space
    · split at chosen
      · next wanted => exact .inr (.inr (.inl ⟨wanted, List.mem_singleton.mp chosen⟩))
      · cases chosen
    · rw [List.mem_singleton.mp space]
      exact .inl (by decide)
  · exact .inr (.inr (.inr toggles))
  · exact .inr (.inl (triple_cases host target triple outDir text triples))

omit host env in
theorem flagged_begins (text : String) (flagged : Flagged text) : ∃ flag ∈ flags, flag.toList <+: text.toList := by
  obtain ⟨flag, listed, value, rfl⟩ := flagged
  exact ⟨flag, listed, by rw [String.toList_append]; exact List.prefix_append _ _⟩

def names : List String := "debug" :: features.map Prod.snd

theorem switch_apart : ∀ option ∈ names, ∀ on, toggled on option ∉ fixed ∧ toggled on option ≠ "--with-jemalloc-prefix=_rjem_" ∧
    toggled on option ≠ "--enable-prof-frameptr" ∧ ∀ flag ∈ flags, ¬flag.toList <+: (toggled on option).toList := by
  decide

omit host env in
theorem toggled_injective (on off : Bool) (option other : String) (same : toggled on option = toggled off other) :
    on = off ∧ option = other := by
  have chars := congrArg String.toList same
  rw [toggled, toggled, String.toList_append, String.toList_append] at chars
  by_cases equal : on = off
  · subst equal
    exact ⟨rfl, String.toList_inj.mp (List.append_cancel_left chars)⟩
  · have third := congrArg (fun text : List Char => text[2]?) chars
    rw [List.getElem?_append_left (by cases on <;> decide), List.getElem?_append_left (by cases off <;> decide)] at third
    cases on <;> cases off <;> first | exact absurd rfl equal | exact absurd third (by decide)

theorem settings_unique (setting other : String × Bool) (first : setting ∈ settings host env) (second : other ∈ settings host env)
    (same : setting.1 = other.1) : setting.2 = other.2 := by
  have distinct : ((settings host env).map Prod.fst).Nodup := (by decide : names.Nodup)
  exact congrArg Prod.snd (List.inj_on_of_nodup_map distinct first second same)

theorem setting_exact (target triple jeVersion : String) (outDir : OsString) (usePrefix : Bool) (setting : String × Bool)
    (listed : setting ∈ settings host env) (on : Bool) :
    utf8 (toggled on setting.1) ∈ configureArgs host env target triple jeVersion outDir usePrefix ↔ setting.2 = on := by
  have named : setting.1 ∈ names := List.mem_map_of_mem (f := Prod.fst) listed
  obtain ⟨still, symbols, frame, free⟩ := switch_apart setting.1 named on
  constructor
  · intro member
    rcases argument_cases host env target triple jeVersion outDir usePrefix _ member with fixed | flagged | ⟨_, same⟩ | toggles
    · exact absurd fixed still
    · obtain ⟨flag, listed, begins⟩ := flagged_begins _ flagged
      exact absurd begins (free flag listed)
    · exact absurd same symbols
    · rcases (toggle_iff host env target _).mp toggles with ⟨other, also, same⟩ | framed
      · obtain ⟨turned, option⟩ := toggled_injective _ _ _ _ same
        exact (settings_unique host env setting other listed also option).trans turned.symm
      · rw [frameptrArgs] at framed
        split at framed
        · exact absurd (List.mem_singleton.mp framed) frame
        · cases framed
  · rintro rfl
    have toggles := (toggle_iff host env target _).mpr (.inl ⟨setting, listed, rfl⟩)
    simp only [configureArgs, List.mem_append, utf8_mem]
    exact .inr (.inl (.inr toggles))

theorem frameptr_args_iff (target text : String) : text ∈ frameptrArgs env target ↔
    (enabled env "CARGO_FEATURE_PROFILING_FRAMEPTR" ∧ contains target "linux") ∧ text = "--enable-prof-frameptr" := by
  rw [frameptrArgs]
  by_cases wanted : enabled env "CARGO_FEATURE_PROFILING_FRAMEPTR" ∧ contains target "linux"
  · rw [if_pos wanted, List.mem_singleton, and_iff_right wanted]
  · rw [if_neg wanted]
    exact iff_of_false List.not_mem_nil fun both => wanted both.1

theorem frameptr_exact (target triple jeVersion : String) (outDir : OsString) (usePrefix : Bool) :
    utf8 "--enable-prof-frameptr" ∈ configureArgs host env target triple jeVersion outDir usePrefix ↔
      enabled env "CARGO_FEATURE_PROFILING_FRAMEPTR" ∧ contains target "linux" := by
  constructor
  · intro member
    rcases argument_cases host env target triple jeVersion outDir usePrefix _ member with still | flagged | ⟨_, same⟩ | toggles
    · exact absurd still (by decide)
    · exact absurd (flagged_begins _ flagged) (by decide)
    · exact absurd same (by decide)
    · rcases (toggle_iff host env target _).mp toggles with ⟨setting, listed, same⟩ | framed
      · have named : setting.1 ∈ names := List.mem_map_of_mem (f := Prod.fst) listed
        exact absurd same.symm (switch_apart setting.1 named setting.2).2.2.1
      · exact ((frameptr_args_iff env target _).mp framed).1
  · intro wanted
    have toggles := (toggle_iff host env target _).mpr (.inr ((frameptr_args_iff env target _).mpr ⟨wanted, rfl⟩))
    simp only [configureArgs, List.mem_append, utf8_mem]
    exact .inr (.inl (.inr toggles))

theorem symbols_exact (target triple jeVersion : String) (outDir : OsString) (usePrefix : Bool) :
    utf8 "--with-jemalloc-prefix=_rjem_" ∈ configureArgs host env target triple jeVersion outDir usePrefix ↔ usePrefix = true := by
  constructor
  · intro member
    rcases argument_cases host env target triple jeVersion outDir usePrefix _ member with still | flagged | ⟨wanted, _⟩ | toggles
    · exact absurd still (by decide)
    · exact absurd (flagged_begins _ flagged) (by decide)
    · exact wanted
    · rcases (toggle_iff host env target _).mp toggles with ⟨setting, listed, same⟩ | framed
      · have named : setting.1 ∈ names := List.mem_map_of_mem (f := Prod.fst) listed
        exact absurd same.symm (switch_apart setting.1 named setting.2).2.1
      · exact absurd ((frameptr_args_iff env target _).mp framed).2 (by decide)
  · rintro rfl
    simp only [configureArgs, List.mem_append, utf8_mem]
    exact .inr (.inl (.inl (List.mem_append_left _ (List.mem_singleton_self _))))

end Arguments

end BuildScript
