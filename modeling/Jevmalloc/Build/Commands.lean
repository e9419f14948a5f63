import Jevmalloc.Build.Pipeline

set_option autoImplicit false

namespace BuildScript

open Interaction Bytes Lines

def ended (answers : Answers) (past : History) (command : Command) : Option Bool := answers past (.status command)

def succeeded (commands : List Command) : List (Command × Option Bool) := commands.map fun command => (command, some true)

section Outcomes

variable (answers : Answers)

end Outcomes

section Ordered

variable (answers : Answers) (commands : List Command) (shown : Command)

end Ordered

section Finish

variable (env : Env) (answers : Answers) (commands : List Command) (shown : Command)

end Finish

section Main

variable (host : Host) (env : Env) (answers : Answers)

theorem main_bundled (numJobs : String) (build : Bundled) (reached : prepared host env answers = some (numJobs, .bundled build)) :
    run env answers (main host) [] = run env answers (finish host numJobs build) (run env answers (prepare host) []).1 := by
  rw [main, run_bind]
  cases ran : run env answers (prepare host) [] with
  | mk later result =>
      rw [prepared, ran] at reached
      obtain rfl : result = _ := reached
      rfl

end Main

section Failed

variable (answers : Answers) (commands : List Command)

end Failed

section Stopped

variable (host : Host) (env : Env) (answers : Answers)

end Stopped

section Main

variable (host : Host) (env : Env) (answers : Answers) (numJobs : String) (build : Bundled)
  (reached : prepared host env answers = some (numJobs, .bundled build))

include reached

omit reached in
theorem prepared_uses (reached : prepared host env answers = some (numJobs, .bundled build)) : Configured host env build :=
  (yields_run env answers _ (prepare host) [] _ (yields_prepare host env) reached).2

end Main

def Unmarked (event : Event String Action) : Prop := uttered configuring event = []

section Unmarked

variable (env : Env)

theorem unmarked_run (command : Command) : Within env Unmarked command.run := within_execute env command _ rfl trivial

theorem unmarked_run_and_log (command : Command) (logFile : OsString) : Within env Unmarked (command.runAndLog logFile) :=
  within_execute env command _ rfl (unmarked_run env _)

theorem unmarked_tests (numJobs : String) (build : Bundled) : Within env Unmarked (runTests numJobs build) := by
  apply within_var
  cases (env "JEMALLOC_SYS_RUN_JEMALLOC_TESTS").bind fromUtf8 with
  | none => trivial
  | some _ =>
      have quiet := mute_other configuring configuring_instructions "Building and running jemalloc tests...".toList (by decide)
        (by decide)
      apply within_bind env _ _ (within_print env _ quiet)
      intro _
      exact within_bind env _ _ (unmarked_run env _) fun _ => unmarked_run env _

theorem unmarked_shim (target : String) : Within env Unmarked (atforkShim target) := by
  rw [atforkShim]
  by_cases android : contains target "android"
  · rw [if_pos android]
    refine within_bind env _ _ ⟨rfl, fun done => ?_⟩ fun _ => within_print env _ (by unfold Unmarked; decide)
    cases done with
    | true => trivial
    | false => trivial
  · rw [if_neg android]
    trivial

theorem unmarked_finish (host : Host) (numJobs : String) (build : Bundled)
    (rooted : told configuring ("cargo:root=" ++ host.display build.outDir).toList = [])
    (searched : told configuring ("cargo:rustc-link-search=native=" ++ host.display build.buildDir ++ "/lib").toList = []) :
    Within env Unmarked (finish host numJobs build) := by
  have quiet : ∀ text ∈ ["cargo:rustc-link-lib=static=jemalloc", "cargo:rustc-link-lib=static=jemalloc_pic",
      "cargo:rustc-link-arg=-pthread", "cargo:rustc-link-lib=atomic", "cargo:rerun-if-changed=jemalloc"],
      told configuring text.toList = [] := by decide
  apply within_bind env _ _ (unmarked_run_and_log env _ _)
  intro _
  apply within_bind env _ _ (unmarked_run env _)
  intro _
  apply within_bind env _ _ (unmarked_tests env numJobs build)
  intro _
  apply within_bind env _ _ (unmarked_run env _)
  intro _
  apply within_bind env _ _ (within_print env _ rooted)
  intro _
  apply within_bind env _ _ (within_print env _ (by split <;> exact quiet _ (by decide)))
  intro _
  apply within_bind env _ _ (within_print env _ searched)
  intro _
  apply within_bind env _ _ (within_print_when env _ _ (quiet _ (by decide)))
  intro _
  apply within_bind env _ _ (within_print_when env _ _ (quiet _ (by decide)))
  intro _
  apply within_bind env _ _ (within_print env _ (quiet _ (by decide)))
  intro _
  exact unmarked_shim env build.target

end Unmarked

theorem main_marked (host : Host) (env : Env) (answers : Answers) (numJobs : String) (build : Bundled)
    (reached : prepared host env answers = some (numJobs, .bundled build)) (silenced : Silenced configuring host env)
    (rooted : told configuring ("cargo:root=" ++ host.display build.outDir).toList = [])
    (searched : told configuring ("cargo:rustc-link-search=native=" ++ host.display build.buildDir ++ "/lib").toList = []) :
    said configuring (run env answers (main host) []).1 =
      if wantsPrefix env build.target then ["cargo:rustc-cfg=prefixed".toList] else [] := by
  have before := prepared_said configuring env answers configuring_instructions build _
    (prepared_chosen configuring host env answers configuring_instructions silenced numJobs build reached)
  obtain ⟨extra, only, grown⟩ := within_run env answers (finish host numJobs build) (run env answers (prepare host) []).1
    (unmarked_finish env host numJobs build rooted searched)
  rw [main_bundled host env answers numJobs build reached, grown, said_append configuring configuring_instructions, before,
    said_only configuring configuring_instructions extra only, List.append_nil, said_events configuring configuring_instructions]
  cases wantsPrefix env build.target with
  | true => decide
  | false => rfl

theorem configure_exact (host : Host) (env : Env) (answers : Answers) (numJobs : String) (build : Bundled)
    (reached : prepared host env answers = some (numJobs, .bundled build)) :
    (∀ setting ∈ settings host env, ∀ on, utf8 (toggled on setting.1) ∈ build.configure.args.tail ↔ setting.2 = on) ∧
    (utf8 "--enable-prof-frameptr" ∈ build.configure.args.tail ↔
      enabled env "CARGO_FEATURE_PROFILING_FRAMEPTR" ∧ contains build.target "linux") ∧
    (utf8 "--with-jemalloc-prefix=_rjem_" ∈ build.configure.args.tail ↔ wantsPrefix env build.target = true) ∧
    (Silenced configuring host env → told configuring ("cargo:root=" ++ host.display build.outDir).toList = [] →
      told configuring ("cargo:rustc-link-search=native=" ++ host.display build.buildDir ++ "/lib").toList = [] →
      said configuring (run env answers (main host) []).1 =
        if wantsPrefix env build.target then ["cargo:rustc-cfg=prefixed".toList] else []) := by
  obtain ⟨script, version, _, _, args⟩ := (prepared_uses host env answers numJobs build reached).args
  rw [args, List.tail_cons]
  refine ⟨fun setting listed on => ?_, ?_, ?_, main_marked host env answers numJobs build reached⟩
  · exact setting_exact host env build.target build.host version.2 build.outDir _ setting listed on
  · exact frameptr_exact host env build.target build.host version.2 build.outDir _
  · exact symbols_exact host env build.target build.host version.2 build.outDir (wantsPrefix env build.target)

theorem silenced_filled : Silenced configuring asciiHost (environment (("CARGO_FEATURE_FILL", "1") :: pageEntries "12")) := by
  refine ⟨?_, ?_⟩
  · intro name listed text found
    simp only [List.mem_cons, List.not_mem_nil, or_false] at listed
    rcases listed with rfl | rfl | rfl <;> cases found <;> decide
  · intro option listed text found
    simp only [valuedOptions, List.mem_cons, List.not_mem_nil, or_false] at listed
    rcases listed with rfl | rfl | rfl | rfl | rfl <;> cases found
    decide

theorem configure_exact_page :
    ∃ build, prepared asciiHost (environment (("CARGO_FEATURE_FILL", "1") :: pageEntries "12")) willing = some ("2", .bundled build) ∧
      utf8 "--enable-fill" ∈ build.configure.args.tail ∧ utf8 "--disable-fill" ∉ build.configure.args.tail ∧
      utf8 "--enable-stats" ∉ build.configure.args.tail ∧
      said configuring (run (environment (("CARGO_FEATURE_FILL", "1") :: pageEntries "12")) willing (main asciiHost) []).1 =
        ["cargo:rustc-cfg=prefixed".toList] := by
  let env := environment (("CARGO_FEATURE_FILL", "1") :: pageEntries "12")
  obtain ⟨build, reached, out, tree, wanted⟩ : ∃ build, prepared asciiHost env willing = some ("2", .bundled build) ∧
    asciiHost.display build.outDir = "/out" ∧ asciiHost.display build.buildDir = "/out/build" ∧
      wantsPrefix env build.target = true := ⟨_, rfl, rfl, rfl, rfl⟩
  obtain ⟨switches, _, _, marks⟩ := configure_exact asciiHost env willing "2" build reached
  have fill : ("fill", true) ∈ settings asciiHost env := by decide
  have stats : ("stats", false) ∈ settings asciiHost env := by decide
  refine ⟨build, reached, (switches _ fill true).mpr rfl, ?_, ?_, ?_⟩
  · exact fun member => Bool.noConfusion ((switches _ fill false).mp member)
  · exact fun member => Bool.noConfusion ((switches _ stats true).mp member)
  · have marked := marks silenced_filled (by rw [out]; decide) (by rw [tree]; decide)
    rw [wanted] at marked
    exact marked

end BuildScript
