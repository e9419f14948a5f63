import Jevmalloc.Build.Path
import Jevmalloc.Interaction.Watch

set_option autoImplicit false

namespace BuildScript

open Interaction Bytes

structure Command where
  program : String
  args : List OsString
  dir : OsString
  envs : List (String × OsString)

def Command.new (program : String) : Command := ⟨program, [], [], []⟩
def Command.argOs (command : Command) (arg : OsString) : Command := { command with args := command.args ++ [arg] }
def Command.arg (command : Command) (arg : String) : Command := command.argOs (utf8 arg)
def Command.currentDir (command : Command) (dir : OsString) : Command := { command with dir := dir }
def Command.env (command : Command) (name : String) (value : OsString) : Command :=
  { command with envs := command.envs ++ [(name, value)] }

inductive RustFlag where
  | codegen (opt : String) (value : Option String)
  | z (text : String)
  | other

structure Compiler where
  path : OsString
  args : List OsString

-- What the script does besides reading and watching its environment. Lines
-- printed with {:?} are left out: each is one line and no instruction.
inductive Action where
  | print (text : String)
  | currentDir
  | exists (path : OsString)
  | removeDirAll (path : OsString)
  | copyRecursively (source target : OsString)
  | copy (source target : OsString)
  | rustflags
  | getCompiler (march mtune : String)
  | status (command : Command)
  | compile (file output : String)

def Answer : Action → Type
  | .print _ => Unit
  | .currentDir => Option OsString
  | .exists _ => Bool
  | .removeDirAll _ => Bool
  | .copyRecursively _ _ => Bool
  | .copy _ _ => Bool
  | .rustflags => List RustFlag
  | .getCompiler _ _ => Option Compiler
  | .status _ => Option Bool
  | .compile _ _ => Bool

abbrev Task (α : Type) := Script String (Option OsString) Action Answer α

-- What the script takes from the compiler that built it and from the standard
-- library's Unicode tables.
structure Host where
  toUppercase : String → String
  uppercase : ∀ text, ∀ char ∈ (toUppercase text).toList, char.isLower = false
  lossy : OsString → String
  debugAssertions : Bool

def unsupportedTargets : List String := ["rumprun", "bitrig", "emscripten", "fuchsia", "redox", "wasm32"]
def untestedTargets : List String := ["openbsd", "msvc"]
def noUnprefixedMallocTargets : List String := ["android", "dragonfly", "musl", "darwin", "openbsd"]
def gmakeHosts : List String := ["bitrig", "dragonfly", "freebsd", "netbsd", "openbsd", "chimera-linux"]

def contains (text pattern : String) : Bool := go text.toList
where
  go : List Char → Bool
    | [] => pattern.toList.isEmpty
    | char :: rest => pattern.toList.isPrefixOf (char :: rest) || go rest

def splitOnce (text : String) (mark : Char) : Option (String × String) :=
  match text.toList.dropWhile fun char => char ≠ mark with
  | [] => none
  | _ :: rest => some (String.ofList (text.toList.takeWhile fun char => char ≠ mark), String.ofList rest)

def replaceChar (text : String) (mark replacement : Char) : String :=
  String.ofList (text.toList.map fun char => if char = mark then replacement else char)

def Host.display (host : Host) (path : OsString) : String := (fromUtf8 path).getD (host.lossy path)

section Primitives

def print (text : String) : Task Unit := .call (.act (.print text)) .ret
def info (text : String) : Task Unit := print text
def warning (text : String) : Task Unit := print ("cargo:warning=\"" ++ text ++ "\"")
def require (met : Bool) : Task Unit := if met then return () else Script.stop
def varOs (name : String) : Task (Option OsString) := Script.read name

-- Absence and invalid Unicode are the same error to every caller.
def var (name : String) : Task (Option String) := do
  let value ← varOs name
  return value.bind fromUtf8

def expectEnv (name : String) : Task String := do
  Script.orStop (← var name)

def currentDir : Task (Option OsString) := .call (.act .currentDir) .ret
def fileExists (path : OsString) : Task Bool := .call (.act (.exists path)) .ret
def removeDirAll (path : OsString) : Task Unit := .call (.act (.removeDirAll path)) require
def copyRecursively (source target : OsString) : Task Unit := .call (.act (.copyRecursively source target)) require
def copy (source target : OsString) : Task Unit := .call (.act (.copy source target)) require
def rustflags : Task (List RustFlag) := .call (.act .rustflags) .ret
def getCompiler (march mtune : String) : Task Compiler := .call (.act (.getCompiler march mtune)) Script.orStop
def compile (file output : String) : Task Unit := .call (.act (.compile file output)) require

end Primitives

namespace Command

def status (command : Command) : Task (Option Bool) := .call (.act (.status command)) .ret

def execute (command : Command) (onFail : Task Unit) : Task Unit := do
  match ← command.status with
  | none => Script.stop
  | some true => return ()
  | some false => do
      onFail
      Script.stop

def run (command : Command) : Task Unit := command.execute (return ())

def runAndLog (command : Command) (logFile : OsString) : Task Unit :=
  command.execute (((Command.new "tail").arg "-n").arg "100" |>.argOs logFile).run

end Command

def prefixedName (host : Host) (target name : String) : String :=
  replaceChar (host.toUppercase target) '-' '_' ++ "_" ++ name

def readAndWatchEnvImpl {T : Type} (host : Host) (name : String) (getter : Option OsString → Option T) : Task (Option T) := do
  let target ← expectEnv "TARGET"
  let prefixed := prefixedName host target name
  Script.watch prefixed
  match getter (← varOs prefixed) with
  | some value => return some value
  | none => do
      Script.watch name
      return getter (← varOs name)

def nonEmpty (value : Option OsString) : Option String := (value.bind fromUtf8).filter fun text => text ≠ ""

def readAndWatchEnv (host : Host) (name : String) : Task (Option String) := readAndWatchEnvImpl host name nonEmpty
def readAndWatchEnvOs (host : Host) (name : String) : Task (Option OsString) := readAndWatchEnvImpl host name id

def startsWith (text pattern : String) : Bool := (utf8 pattern).isPrefixOf (utf8 text)
def endsWith (text pattern : String) : Bool := (utf8 pattern).isSuffixOf (utf8 text)

-- The slice text[start..], which panics inside a character and past the end.
def sliceFrom (text : String) (start : Nat) : Option String :=
  if start ≤ (utf8 text).length then fromUtf8 ((utf8 text).drop start) else none

def linkOverride (host : Host) (jemalloc : OsString) : Task Unit := do
  info "jemalloc override set"
  require (← fileExists jemalloc)
  let directory ← Script.orStop (PathBuf.parent jemalloc)
  print ("cargo:rustc-link-search=native=" ++ host.display directory)
  let stem ← Script.orStop ((PathBuf.fileStem jemalloc).bind fromUtf8)
  let name ← Script.orStop ((PathBuf.fileName jemalloc).bind fromUtf8)
  let kind := if endsWith name ".a" then "static" else "dylib"
  let linked ← Script.orStop (sliceFrom stem 3)
  print ("cargo:rustc-link-lib=" ++ kind ++ "=" ++ linked)

def targetCpu (flags : List RustFlag) : Option String :=
  (flags.findSome? fun
    | .codegen opt value => if opt = "target-cpu" then some value else none
    | _ => none).join

def tuneCpu (flags : List RustFlag) : Option String :=
  flags.findSome? fun
    | .z text => if startsWith text "tune-cpu" then (splitOnce text '=').map Prod.snd else none
    | _ => none

def selectCompiler : Task Compiler := do
  let march := ((targetCpu (← rustflags)).map fun arch => "-march=" ++ arch).getD ""
  let mtune := ((tuneCpu (← rustflags)).map fun arch => "-mtune=" ++ arch).getD ""
  getCompiler march mtune

def clearBuildDir (buildDir : OsString) : Task Unit := do
  match ← fileExists buildDir with
  | true => removeDirAll buildDir
  | false => return ()

def copySources (outDir buildDir : OsString) : Task Unit := do
  require (← fileExists outDir)
  print "cargo:rerun-if-changed=configure"
  clearBuildDir buildDir
  copyRecursively (utf8 "jemalloc") buildDir
  require (← fileExists buildDir)
  copy (PathBuf.join (utf8 "configure") (utf8 "configure")) (PathBuf.join buildDir (utf8 "configure"))

def baseCommand (target jeVersion cflags script : String) (buildDir cc : OsString) : Command :=
  let script := replaceChar (script.replace "C:\\" "/c/") '\\' '/'
  let command := ((((Command.new "sh").arg script).currentDir buildDir).env "CC" cc).env "EXTRA_CFLAGS" (utf8 cflags)
  let command := ((((command.arg ("--with-version=" ++ jeVersion)).arg "--enable-option-checking=fatal").arg
    "--disable-cxx").arg "--enable-doc=no").arg "--enable-shared=no"
  let command := if contains target "ios" then command.arg "--with-lg-page=14" else command
  if contains target "openbsd" then command.arg "--disable-dss" else command

def configOption (host : Host) (flag name : String) (command : Command) : Task Command := do
  match ← readAndWatchEnv host name with
  | some value => do
      info (flag ++ value)
      return command.arg (flag ++ value)
  | none => return command

def mallocConf (host : Host) (command : Command) : Task Command := do
  let mallocConf :=
    match ← readAndWatchEnv host "JEMALLOC_SYS_WITH_MALLOC_CONF" with
    | some opts => opts
    | none => ""
  if mallocConf ≠ "" then do
    info ("--with-malloc-conf=" ++ mallocConf)
    return command.arg ("--with-malloc-conf=" ++ mallocConf)
  else return command

def configOptions (host : Host) (command : Command) : Task Command := do
  let command ← mallocConf host command
  let command ← configOption host "--with-lg-page=" "JEMALLOC_SYS_WITH_LG_PAGE" command
  let command ← configOption host "--with-lg-hugepage=" "JEMALLOC_SYS_WITH_LG_HUGEPAGE" command
  let command ← configOption host "--with-lg-quantum=" "JEMALLOC_SYS_WITH_LG_QUANTUM" command
  configOption host "--with-lg-vaddr=" "JEMALLOC_SYS_WITH_LG_VADDR" command

def debugEnabled (host : Host) : Task Bool :=
  if host.debugAssertions then return true
  else do return (← var "CARGO_CFG_DEBUG_ASSERTIONS").isSome

def debugFlag (host : Host) (command : Command) : Task Command := do
  if ← debugEnabled host then do
    info "CARGO_CFG_DEBUG_ASSERTIONS set"
    return command.arg "--enable-debug"
  else do
    info "CARGO_CFG_DEBUG_ASSERTIONS not set"
    return (command.arg "--disable-debug").env "CPPFLAGS" (utf8 "-DNDEBUG")

def featureFlag (feature option : String) (command : Command) : Task Command := do
  match ← var ("CARGO_FEATURE_" ++ feature) with
  | some _ => do
      info ("CARGO_FEATURE_" ++ feature ++ " set")
      return command.arg ("--enable-" ++ option)
  | none => do
      info ("CARGO_FEATURE_" ++ feature ++ " not set")
      return command.arg ("--disable-" ++ option)

def frameptrFlag (target : String) (command : Command) : Task Command := do
  match ← var "CARGO_FEATURE_PROFILING_FRAMEPTR" with
  | some _ =>
      if contains target "linux" then do
        info "CARGO_FEATURE_PROFILING_FRAMEPTR set"
        return command.arg "--enable-prof-frameptr"
      else do
        info "CARGO_FEATURE_PROFILING_FRAMEPTR set; inert off Linux"
        return command
  | none => do
      info "CARGO_FEATURE_PROFILING_FRAMEPTR not set"
      return command

def gnuTarget (target : String) : String :=
  match target with
  | "i686-pc-windows-msvc" => "i686-pc-win32"
  | "x86_64-pc-windows-msvc" => "x86_64-pc-win32"
  | "i686-pc-windows-gnu" => "i686-w64-mingw32"
  | "x86_64-pc-windows-gnu" => "x86_64-w64-mingw32"
  | "armv7-linux-androideabi" => "arm-linux-androideabi"
  | "riscv64gc-unknown-linux-gnu" => "riscv64-linux-gnu"
  | "riscv64gc-unknown-linux-musl" => "riscv64-linux-musl"
  | other => other

def makeCmd (host : String) : String :=
  if gmakeHosts.any (contains host) then "gmake"
  else if contains host "windows" then "mingw32-make"
  else "make"

def printWhen (met : Bool) (text : String) : Task Unit := if met then print text else return ()

def prefixFlag (usePrefix : Bool) (command : Command) : Task Command := do
  let command := if usePrefix then command.arg "--with-jemalloc-prefix=_rjem_" else command
  printWhen usePrefix "--with-jemalloc-prefix=_rjem_"
  return command.arg "--with-private-namespace=_rjem_"

def featureFlags (host : Host) (target : String) (command : Command) : Task Command := do
  let command ← debugFlag host command
  let command ← featureFlag "CACHE_OBLIVIOUS" "cache-oblivious" command
  let command ← featureFlag "CHECK_SAFETY" "opt-safety-checks" command
  let command ← featureFlag "CHECK_SIZE_MATCH" "opt-size-checks" command
  let command ← featureFlag "CHECK_USE_AFTER_FREE" "uaf-detection" command
  let command ← featureFlag "FILL" "fill" command
  let command ← featureFlag "INITIAL_EXEC_TLS" "initial-exec-tls" command
  let command ← featureFlag "PAGEID" "pageid" command
  let command ← featureFlag "PROFILING" "prof" command
  let command ← frameptrFlag target command
  featureFlag "STATS" "stats" command

structure Bundled where
  target : String
  host : String
  outDir : OsString
  buildDir : OsString
  configure : Command

def configure (host : Host) (target triple jeVersion : String) (outDir : OsString) (usePrefix : Bool) : Task Bundled := do
  let buildDir := PathBuf.join outDir (utf8 "build")
  let compiler ← selectCompiler
  let cflags ← Script.orStop (compiler.args.mapM fromUtf8)
  copySources outDir buildDir
  let script ← Script.orStop (fromUtf8 (PathBuf.join buildDir (utf8 "configure")))
  let command ← configOptions host (baseCommand target jeVersion (" ".intercalate cflags) script buildDir compiler.path)
  let command ← prefixFlag usePrefix command
  let command ← featureFlags host target command
  let command := (command.arg ("--host=" ++ gnuTarget target)).arg ("--build=" ++ gnuTarget triple)
  return ⟨target, triple, outDir, buildDir, command.arg ("--prefix=" ++ host.display outDir)⟩

inductive Decision where
  | override (jemalloc : OsString)
  | bundled (build : Bundled)

def choosePrefix (target : String) : Task Bool := do
  match ← var "CARGO_FEATURE_UNPREFIXED_MALLOC_ON_SUPPORTED_PLATFORMS" with
  | none => return true
  | some _ =>
      if noUnprefixedMallocTargets.any (contains target) then do
        warning ("Unprefixed `malloc` requested on unsupported platform `" ++ target ++ "` => using prefixed `malloc`")
        return true
      else return false

-- The unescaped diagnostics.
def announce (target triple numJobs : String) : Task Unit := do
  info ("TARGET=" ++ target)
  info ("HOST=" ++ triple)
  info ("NUM_JOBS=" ++ numJobs)

def checkTarget (target : String) : Task Unit := do
  require (!unsupportedTargets.any (contains target))
  if untestedTargets.any (contains target) then warning ("jemalloc support for `" ++ target ++ "` is untested")
  else return ()

def chooseDecision (host : Host) (target triple jeVersion : String) (outDir : OsString) : Task Decision := do
  checkTarget target
  let usePrefix ← choosePrefix target
  print "cargo::rustc-check-cfg=cfg(prefixed)"
  printWhen usePrefix "cargo:rustc-cfg=prefixed"
  match ← readAndWatchEnvOs host "JEMALLOC_OVERRIDE" with
  | some jemalloc => do
      linkOverride host jemalloc
      return .override jemalloc
  | none => do return .bundled (← configure host target triple jeVersion outDir usePrefix)

def chooseBuild (host : Host) (target triple numJobs : String) : Task Decision := do
  let outDir ← Script.orStop (← varOs "OUT_DIR")
  let _ ← Script.orStop (← currentDir)
  let version ← Script.orStop (splitOnce (← expectEnv "CARGO_PKG_VERSION") '+')
  announce target triple numJobs
  chooseDecision host target triple version.2 outDir

def prepare (host : Host) : Task (String × Decision) := do
  let target ← expectEnv "TARGET"
  let triple ← expectEnv "HOST"
  let numJobs ← expectEnv "NUM_JOBS"
  return (numJobs, ← chooseBuild host target triple numJobs)

def make (build : Bundled) : Command := (Command.new (makeCmd build.host)).currentDir build.buildDir

def runTests (numJobs : String) (build : Bundled) : Task Unit := do
  match ← var "JEMALLOC_SYS_RUN_JEMALLOC_TESTS" with
  | none => return ()
  | some _ => do
      info "Building and running jemalloc tests..."
      ((((make build).arg "-j").arg numJobs).arg "tests").run
      ((make build).arg "check").run

def atforkShim (target : String) : Task Unit :=
  if contains target "android" then do
    compile "src/pthread_atfork.c" "pthread_atfork"
    print "cargo:rerun-if-changed=src/pthread_atfork.c"
  else return ()

def finish (host : Host) (numJobs : String) (build : Bundled) : Task Unit := do
  build.configure.runAndLog (PathBuf.join build.buildDir (utf8 "config.log"))
  (((make build).arg "-j").arg numJobs).run
  runTests numJobs build
  (((((make build).arg "install_lib_static").arg "install_include").arg "-j").arg numJobs).run
  print ("cargo:root=" ++ host.display build.outDir)
  print (if contains build.target "windows" then "cargo:rustc-link-lib=static=jemalloc" else "cargo:rustc-link-lib=static=jemalloc_pic")
  print ("cargo:rustc-link-search=native=" ++ host.display build.buildDir ++ "/lib")
  printWhen (!contains build.target "windows" && !contains build.target "android") "cargo:rustc-link-arg=-pthread"
  printWhen (contains build.target "riscv") "cargo:rustc-link-lib=atomic"
  print "cargo:rerun-if-changed=jemalloc"
  atforkShim build.target

def main (host : Host) : Task Unit := do
  match ← prepare host with
  | (_, .override _) => return ()
  | (numJobs, .bundled build) => finish host numJobs build

end BuildScript
