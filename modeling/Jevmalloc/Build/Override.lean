import Jevmalloc.Build.Output
import Jevmalloc.Build.Rebuild

set_option autoImplicit false

namespace BuildScript

open Interaction Bytes PathBuf Lines

inductive LinkKind where
  | static
  | dylib
deriving DecidableEq

def LinkKind.word : LinkKind → String
  | .static => "static"
  | .dylib => "dylib"

def LinkKind.suffix : LinkKind → String
  | .static => ".a"
  | .dylib => ".so"

-- Where the linker looks: static=n is lib<n>.a and dylib=n is lib<n>.so.
def libFile (kind : LinkKind) (name : String) : OsString := utf8 "lib" ++ utf8 name ++ utf8 kind.suffix

def Resolves (directory : String) (kind : LinkKind) (name : String) (path : OsString) : Prop :=
  components (join (utf8 directory) (libFile kind name)) = components path

def linkLines (events : History) : List (List Char) := said linking events

section Names

variable (path directory name : OsString)

theorem file_name_split (named : fileName path = some name) :
    ∃ directory, splitLast path = some (directory, name) ∧ component name = .normal name := by
  unfold fileName at named
  cases split : splitLast path with
  | none =>
      rw [split] at named
      cases named
  | some pair =>
      rw [split] at named
      cases last : component pair.2 with
      | normal found =>
          rw [Option.map_some, last] at named
          obtain rfl := Option.some.inj named
          obtain rfl := component_normal pair.2 _ last
          exact ⟨pair.1, rfl, last⟩
      | _ => simp [last] at named

theorem lib_file_proper (kind : LinkKind) (linked : String) (single : separator ∉ utf8 linked) :
    passed (libFile kind linked) = false ∧ separator ∉ libFile kind linked ∧
      component (libFile kind linked) = .normal (libFile kind linked) := by
  have front : libFile kind linked = 108 :: 105 :: 98 :: (utf8 linked ++ utf8 kind.suffix) := rfl
  have suffix : separator ∉ utf8 kind.suffix := by cases kind <;> decide
  have lib : separator ∉ utf8 "lib" := by decide
  refine ⟨?_, ?_, ?_⟩
  · rw [front]
    simp [passed, dot]
  · rw [libFile]
    simp [single, suffix, lib]
  · rw [front]
    simp [component, dot]

theorem resolves_iff (shown : String) (kind : LinkKind) (linked : String) (split : splitLast path = some (directory, name))
    (normal : component name = .normal name) (single : separator ∉ utf8 linked) :
    Resolves shown kind linked path ↔ components (utf8 shown) = components directory ∧ libFile kind linked = name := by
  obtain ⟨proper, clean, file⟩ := lib_file_proper kind linked single
  rw [Resolves, components_join _ _ proper clean, (components_split_last path directory name split).1, file, normal]
  constructor
  · intro same
    obtain ⟨directories, last⟩ := List.append_inj' same rfl
    exact ⟨directories, by simpa using last⟩
  · intro ⟨directories, last⟩
    rw [directories, last]

theorem display_text (host : Host) (text : String) : host.display (utf8 text) = text := by
  rw [Host.display, (from_utf8_iff (utf8 text) text).mpr rfl]
  rfl

theorem space_byte (space : Char) (blank : isSpace space = true) (byte : UInt8) (member : byte ∈ String.utf8EncodeChar space) :
    byte ≠ separator ∧ byte ≠ dot := by
  constructor
  · rintro rfl
    have value : space = '/' := Char.ext (UInt32.toNat_inj.mp (encoded_ascii space separator (by decide) member))
    exact absurd blank (by rw [value]; decide)
  · rintro rfl
    have value : space = '.' := Char.ext (UInt32.toNat_inj.mp (encoded_ascii space dot (by decide) member))
    exact absurd blank (by rw [value]; decide)

theorem read_directory (shown text : String) (read : shown.toList = firstLine text.toList)
    (same : components (utf8 shown) = components (utf8 text)) : shown = text := by
  obtain ⟨back, whole, behind⟩ := first_line_rest text.toList
  have parts : text = shown ++ String.ofList back := by
    rw [← String.toList_inj, String.toList_append, String.toList_ofList, read, ← whole]
  rcases behind with rfl | ⟨space, more, rfl, blank⟩
  · rw [parts, ← String.toList_inj, String.toList_append, String.toList_ofList, List.append_nil]
  · obtain ⟨byte, encoded⟩ : ∃ byte, byte ∈ String.utf8EncodeChar space := by
      apply List.exists_mem_of_length_pos
      rw [String.length_utf8EncodeChar]
      exact space.utf8Size_pos
    have held : byte ∈ utf8 (String.ofList (space :: more)) := by
      rw [utf8_chars, String.toList_ofList, List.flatMap_cons]
      exact List.mem_append_left _ encoded
    rw [parts, utf8_append] at same
    obtain ⟨apart, other⟩ := space_byte space blank byte encoded
    rcases same_components_rest _ _ same.symm byte held with mark | point
    · exact absurd mark apart
    · exact absurd point other

theorem utf8_injective (first second : String) (same : utf8 first = utf8 second) : first = second := by
  have one := (from_utf8_iff _ first).mpr rfl
  have other := (from_utf8_iff _ second).mpr rfl
  rw [same, other] at one
  exact (Option.some.inj one).symm

end Names

section Branch

variable (host : Host) (env : Env) (answers : Answers) (past : List (Event String Action)) (path : OsString)

def kindOf (name : String) : LinkKind := if endsWith name ".a" then .static else .dylib

def linkName (path : OsString) : Task Unit := do
  let stem ← Script.orStop ((fileStem path).bind fromUtf8)
  let name ← Script.orStop ((fileName path).bind fromUtf8)
  let linked ← Script.orStop (sliceFrom stem 3)
  print ("cargo:rustc-link-lib=" ++ (kindOf name).word ++ "=" ++ linked)

theorem kind_word (name : String) : (if endsWith name ".a" then "static" else "dylib") = (kindOf name).word := by
  rw [kindOf]
  by_cases archive : endsWith name ".a"
  · rw [if_pos archive, if_pos archive]
    rfl
  · rw [if_neg archive, if_neg archive]
    rfl

theorem link_override_opened (present : ∀ later, answers later (.exists path) = true) :
    run env answers (linkOverride host path) past = run env answers (Script.orStop (parent path) >>= fun directory =>
      print ("cargo:rustc-link-search=native=" ++ host.display directory) >>= fun _ => linkName path)
    (past ++ [.acted (.print "jemalloc override set"), .acted (.exists path)]) := by
  have events : past ++ [.acted (.print "jemalloc override set"), .acted (.exists path)] =
      past ++ [.acted (.print "jemalloc override set")] ++ [.acted (.exists path)] := by simp
  have found := present (past ++ [.acted (.print "jemalloc override set")])
  simp only [linkName, ← kind_word]
  rw [events]
  change run env answers (require (answers (past ++ [.acted (.print "jemalloc override set")]) (.exists path)) >>= _) _ = _
  rw [found]
  rfl

def opened (host : Host) (path directory : OsString) : History :=
  [.acted (.print "jemalloc override set"), .acted (.exists path),
    .acted (.print ("cargo:rustc-link-search=native=" ++ host.display directory))]

theorem link_override_begins (present : ∀ later, answers later (.exists path) = true) (directory : OsString)
    (above : parent path = some directory) : run env answers (linkOverride host path) past =
      run env answers (linkName path) (past ++ opened host path directory) := by
  have events : past ++ opened host path directory = past ++ [.acted (.print "jemalloc override set"), .acted (.exists path)] ++
      [.acted (.print ("cargo:rustc-link-search=native=" ++ host.display directory))] := by simp [opened]
  rw [link_override_opened host env answers past path present, above, events]
  rfl

theorem link_override_rootless (present : ∀ later, answers later (.exists path) = true) (nothing : parent path = none) :
    (run env answers (linkOverride host path) past).2 = none := by
  rw [link_override_opened host env answers past path present, nothing]
  rfl

structure Sliceable (name : OsString) : Prop where
  whole : IsUtf8 name
  front : IsUtf8 (stem name)
  long : 3 ≤ (stem name).length
  boundary : IsUtf8 ((stem name).drop 3)

theorem from_utf8_valid (bytes : OsString) (text : String) (read : fromUtf8 bytes = some text) : IsUtf8 bytes :=
  ⟨text, (from_utf8_iff bytes text).mp read⟩

theorem link_name_runs (name : OsString) (named : fileName path = some name) (sliceable : Sliceable name) :
    ∃ text linked, utf8 text = name ∧ utf8 linked = (stem name).drop 3 ∧ run env answers (linkName path) past =
      (past ++ [.acted (.print ("cargo:rustc-link-lib=" ++ (kindOf text).word ++ "=" ++ linked))], some ()) := by
  obtain ⟨text, same⟩ := sliceable.whole
  obtain ⟨front, stemmed⟩ := sliceable.front
  obtain ⟨linked, rest⟩ := sliceable.boundary
  have long := sliceable.long
  refine ⟨text, linked, same, rest, ?_⟩
  have cut : sliceFrom front 3 = some linked := by
    rw [sliceFrom, stemmed, if_pos long]
    exact (from_utf8_iff _ linked).mpr rest
  rw [linkName, fileStem, named, Option.map_some, Option.bind_some, Option.bind_some, (from_utf8_iff _ front).mpr stemmed,
    (from_utf8_iff _ text).mpr same]
  change run env answers (Script.orStop (sliceFrom front 3) >>= _) past = _
  rw [cut]
  rfl

theorem link_name_stops (stops : ∀ name, fileName path = some name → ¬Sliceable name) :
    (run env answers (linkName path) past).2 = none := by
  rw [linkName, fileStem]
  cases named : fileName path with
  | none => rfl
  | some name =>
      rw [Option.map_some, Option.bind_some, Option.bind_some]
      cases front : fromUtf8 (stem name) with
      | none => rfl
      | some stemText =>
          cases whole : fromUtf8 name with
          | none => rfl
          | some text =>
              change (run env answers (Script.orStop (sliceFrom stemText 3) >>= _) past).2 = none
              cases cut : sliceFrom stemText 3 with
              | none => rfl
              | some linked =>
                  have stemmed := (from_utf8_iff _ stemText).mp front
                  rw [sliceFrom, stemmed] at cut
                  by_cases long : 3 ≤ (stem name).length
                  · rw [if_pos long] at cut
                    have sliceable : Sliceable name :=
                      ⟨from_utf8_valid _ _ whole, from_utf8_valid _ _ front, long, from_utf8_valid _ _ cut⟩
                    exact absurd sliceable (stops name named)
                  · rw [if_neg long] at cut
                    cases cut

theorem kind_archive (text : String) (ends : utf8 ".a" <:+ utf8 text) : kindOf text = .static :=
  if_pos (List.isSuffixOf_iff_suffix.mpr ends)

theorem kind_shared (text : String) (ends : utf8 ".so" <:+ utf8 text) : kindOf text = .dylib := by
  apply if_neg
  intro archive
  have both := List.suffix_of_suffix_length_le (List.isSuffixOf_iff_suffix.mp archive) ends (by decide)
  exact absurd both (by decide)

end Branch

section Recombined

theorem stem_suffixed (kind : LinkKind) (front : OsString) (present : front ≠ []) : stem (front ++ utf8 kind.suffix) = front := by
  obtain ⟨back, suffix, plain⟩ : ∃ back, utf8 kind.suffix = dot :: back ∧ dot ∉ back := by
    cases kind with
    | static => exact ⟨[97], by decide, by decide⟩
    | dylib => exact ⟨[115, 111], by decide, by decide⟩
  rw [suffix]
  exact stem_suffix front back plain present

theorem lib_file_rebuilt (kind : LinkKind) (name : OsString) (linked : String) (lib : utf8 "lib" <+: name)
    (ends : utf8 kind.suffix <:+ name) (long : 3 ≤ (stem name).length) (rest : utf8 linked = (stem name).drop 3) :
    libFile kind linked = name := by
  obtain ⟨front, rfl⟩ := ends
  have present : front ≠ [] := by
    intro empty
    rw [empty] at lib
    obtain ⟨_, broken⟩ := lib
    cases kind with
    | static => exact absurd (List.cons.inj broken).1 (by decide)
    | dylib => exact absurd (List.cons.inj broken).1 (by decide)
  rw [stem_suffixed kind front present] at long rest
  have within : utf8 "lib" <+: front := List.prefix_of_prefix_length_le lib (List.prefix_append _ _) long
  obtain ⟨body, rfl⟩ := within
  rw [libFile, rest]
  rfl

theorem stem_lib_file (kind : LinkKind) (linked : String) : stem (libFile kind linked) = utf8 ("lib" ++ linked) := by
  rw [utf8_append]
  exact stem_suffixed kind _ (List.append_ne_nil_of_left_ne_nil (by decide) _)

theorem linked_single (path directory name : OsString) (linked : String) (split : splitLast path = some (directory, name))
    (rest : utf8 linked = (stem name).drop 3) : separator ∉ utf8 linked := by
  rw [rest]
  intro member
  exact (components_split_last path directory name split).2 ((stem_begins name).subset (List.mem_of_mem_drop member))

theorem lib_name_iff (name : OsString) (text linked : String) (same : utf8 text = name)
    (long : 3 ≤ (stem name).length) (rest : utf8 linked = (stem name).drop 3) :
    libFile (kindOf text) linked = name ↔ utf8 "lib" <+: name ∧ (utf8 ".a" <:+ name ∨ utf8 ".so" <:+ name) := by
  constructor
  · intro rebuilt
    refine ⟨⟨_, (List.append_assoc _ _ _).symm.trans rebuilt⟩, ?_⟩
    have ends : utf8 (kindOf text).suffix <:+ name := ⟨_, rebuilt⟩
    cases chosen : kindOf text with
    | static =>
        rw [chosen] at ends
        exact .inl ends
    | dylib =>
        rw [chosen] at ends
        exact .inr ends
  · intro ⟨lib, ends⟩
    have suffix : utf8 (kindOf text).suffix <:+ name := by
      subst same
      rcases ends with archive | shared
      · rw [kind_archive text archive]
        exact archive
      · rw [kind_shared text shared]
        exact shared
    exact lib_file_rebuilt (kindOf text) name linked lib suffix long rest

end Recombined

-- The file the path names is the one the linker will look for, or nothing is
-- left to be linked.
def LinksNamed (path : OsString) (outcome : History × Option Unit) : Prop :=
  outcome.2 = none ∨ ∃ directory kind linked,
    linkLines outcome.1 = [("cargo:rustc-link-search=native=" ++ directory).toList,
      ("cargo:rustc-link-lib=" ++ LinkKind.word kind ++ "=" ++ linked).toList] ∧ Resolves directory kind linked path

def Stops (path : OsString) : Prop := ∀ name, fileName path = some name → ¬Sliceable name

structure Linkable (path : OsString) (directory front : String) (name : OsString) : Prop where
  above : parent path = some (utf8 directory)
  named : fileName path = some name
  stemmed : stem name = utf8 front
  place : Legible directory.toList
  line : Legible front.toList
  lib : utf8 "lib" <+: name
  ends : utf8 ".a" <:+ name ∨ utf8 ".so" <:+ name

section Linked

variable (host : Host) (env : Env) (answers : Answers) (past : History) (path : OsString)

theorem link_override_stops (present : ∀ later, answers later (.exists path) = true) (stops : Stops path) :
    (run env answers (linkOverride host path) past).2 = none := by
  cases above : parent path with
  | none => exact link_override_rootless host env answers past path present above
  | some directory =>
      rw [link_override_begins host env answers past path present directory above]
      exact link_name_stops env answers _ path stops

theorem link_word (kind other : LinkKind) (linked rest : String)
    (same : ("cargo:rustc-link-lib=" ++ kind.word ++ "=" ++ linked).toList =
      ("cargo:rustc-link-lib=" ++ other.word ++ "=").toList ++ firstLine rest.toList) :
    kind = other ∧ linked.toList = firstLine rest.toList := by
  cases kind <;> cases other <;> simp [LinkKind.word] at same <;> exact ⟨rfl, same⟩

theorem two_lines {α : Type} (before others rest : List α) (one other first second : α)
    (same : before ++ one :: others ++ other :: rest = [first, second]) :
    before = [] ∧ others = [] ∧ rest = [] ∧ one = first ∧ other = second := by
  have count := congrArg List.length same
  simp only [List.length_append, List.length_cons, List.length_nil] at count
  obtain rfl : before = [] := List.eq_nil_of_length_eq_zero (by omega)
  obtain rfl : others = [] := List.eq_nil_of_length_eq_zero (by omega)
  obtain rfl : rest = [] := List.eq_nil_of_length_eq_zero (by omega)
  simpa using same

theorem link_lines_override (directory : OsString) (kind : LinkKind) (linked : String) :
    ∃ others rest, linkLines (past ++ opened host path directory ++
        [.acted (.print ("cargo:rustc-link-lib=" ++ kind.word ++ "=" ++ linked))]) =
      linkLines past ++ ("cargo:rustc-link-search=native=".toList ++ firstLine (host.display directory).toList) :: others ++
        (("cargo:rustc-link-lib=" ++ kind.word ++ "=").toList ++ firstLine linked.toList) :: rest ∧
      (Legible (host.display directory).toList → others = []) ∧ (Legible linked.toList → rest = []) := by
  obtain ⟨others, searched, alone⟩ := told_heard linking "cargo:rustc-link-search=native=".toList (host.display directory).toList
    (by decide) ⟨_, List.mem_cons_self, by decide⟩
  have front : Solid ("cargo:rustc-link-lib=" ++ kind.word ++ "=").toList := by cases kind <;> decide
  have heard : "cargo:rustc-link".toList <+: ("cargo:rustc-link-lib=" ++ kind.word ++ "=").toList := by cases kind <;> decide
  obtain ⟨rest, named, only⟩ := told_heard linking _ linked.toList front ⟨_, List.mem_cons_self, heard⟩
  have quiet := mute_other linking linking_instructions "jemalloc override set".toList (by decide) (by decide)
  refine ⟨others, rest, ?_, alone, only⟩
  rw [← String.toList_append] at searched named
  have parts : linkLines (opened host path directory) = told linking ("cargo:rustc-link-search=native=" ++ host.display directory).toList := by
    rw [linkLines, said_events linking linking_instructions, opened, List.flatMap_cons, List.flatMap_cons, List.flatMap_cons]
    change told linking "jemalloc override set".toList ++ ([] ++ (told linking _ ++ [])) = _
    rw [quiet, List.append_nil, List.nil_append, List.nil_append]
  have last : linkLines [.acted (.print ("cargo:rustc-link-lib=" ++ kind.word ++ "=" ++ linked))] =
      told linking ("cargo:rustc-link-lib=" ++ kind.word ++ "=" ++ linked).toList := by
    rw [linkLines, said_events linking linking_instructions, List.flatMap_cons]
    exact List.append_nil _
  have whole : linkLines (past ++ opened host path directory ++
      [.acted (.print ("cargo:rustc-link-lib=" ++ kind.word ++ "=" ++ linked))]) = linkLines past ++
        linkLines (opened host path directory) ++ linkLines [.acted (.print ("cargo:rustc-link-lib=" ++ kind.word ++ "=" ++ linked))] := by
    rw [linkLines, said_append linking linking_instructions, said_append linking linking_instructions]
    rfl
  rw [whole, parts, last, searched, named]

theorem read_back (directory name : OsString) (text linked shown read : String) (split : splitLast path = some (directory, name))
    (normal : component name = .normal name) (same : utf8 text = name) (named : fileName path = some name)
    (long : 3 ≤ (stem name).length) (rest : utf8 linked = (stem name).drop 3)
    (place : shown.toList = firstLine (host.display directory).toList) (line : read.toList = firstLine linked.toList)
    (resolved : Resolves shown (kindOf text) read path) : ∃ place front, Linkable path place front name := by
  obtain ⟨back, whole, _⟩ := first_line_rest linked.toList
  have parts : linked = read ++ String.ofList back := by
    rw [← String.toList_inj, String.toList_append, String.toList_ofList, line, ← whole]
  have single : separator ∉ utf8 read := by
    intro member
    apply linked_single path directory name linked split rest
    rw [parts, utf8_append]
    exact List.mem_append_left _ member
  obtain ⟨directories, file⟩ := (resolves_iff path directory name shown (kindOf text) read split normal single).mp resolved
  obtain ⟨printed, rfl⟩ := same_components_utf8 _ _ directories ⟨shown, rfl⟩
  rw [display_text] at place
  obtain rfl := read_directory shown printed place directories
  have stemmed := stem_lib_file (kindOf text) read
  rw [file] at stemmed
  have kept : utf8 linked = utf8 read := by
    rw [rest, stemmed, utf8_append]
    rfl
  obtain rfl := utf8_injective linked read kept
  obtain ⟨lib, ends⟩ := (lib_name_iff name text linked same long rest).mp file
  refine ⟨shown, "lib" ++ linked, ⟨?_, named, stemmed, ?_, ?_, lib, ends⟩⟩
  · rw [parent, split]
    rfl
  · rw [place]
    exact first_line_legible _
  · rw [String.toList_append, legible_behind _ _ (by decide), line]
    exact first_line_legible _

theorem link_override_iff (present : ∀ later, answers later (.exists path) = true) :
    LinksNamed path (run env answers (linkOverride host path) past) ↔
      Stops path ∨ (linkLines past = [] ∧ ∃ directory front name, Linkable path directory front name) := by
  by_cases stops : Stops path
  · exact iff_of_true (.inl (link_override_stops host env answers past path present stops)) (.inl stops)
  · rw [or_iff_right stops]
    simp only [Stops, not_forall, not_not] at stops
    obtain ⟨name, named, sliceable⟩ := stops
    obtain ⟨directory, split, normal⟩ := file_name_split path name named
    have above : parent path = some directory := by
      rw [parent, split]
      rfl
    obtain ⟨text, linked, same, rest, ran⟩ :=
      link_name_runs env answers (past ++ opened host path directory) path name named sliceable
    obtain ⟨others, more, lines, alone, only⟩ := link_lines_override host past path directory (kindOf text) linked
    rw [link_override_begins host env answers past path present directory above, ran]
    constructor
    · rintro (stopped | ⟨shown, kind, read, emitted, resolved⟩)
      · cases stopped
      · rw [lines] at emitted
        obtain ⟨clean, _, _, search, library⟩ := two_lines _ _ _ _ _ _ _ emitted
        rw [String.toList_append] at search
        have place := List.append_cancel_left search
        obtain ⟨rfl, line⟩ := link_word kind (kindOf text) read linked library.symm
        obtain ⟨printed, front, linkable⟩ := read_back host path directory name text linked shown read split normal same named
          sliceable.long rest place.symm line resolved
        exact ⟨clean, printed, front, name, linkable⟩
    · rintro ⟨clean, printed, front, file, linkable⟩
      obtain rfl := Option.some.inj (named.symm.trans linkable.named)
      obtain rfl := Option.some.inj (above.symm.trans linkable.above)
      have file := (lib_name_iff name text linked same sliceable.long rest).mpr ⟨linkable.lib, linkable.ends⟩
      have stemmed := stem_lib_file (kindOf text) linked
      rw [file, linkable.stemmed] at stemmed
      have line : Legible linked.toList := by
        have legible := linkable.line
        rw [utf8_injective _ _ stemmed, String.toList_append, legible_behind _ _ (by decide)] at legible
        exact legible
      have place : Legible (host.display (utf8 printed)).toList := by
        rw [display_text]
        exact linkable.place
      refine .inr ⟨printed, kindOf text, linked, ?_, ?_⟩
      · rw [lines, clean, alone place, only line, legible_first_line _ place, legible_first_line _ line, display_text,
          ← String.toList_append, ← String.toList_append]
        rfl
      · have single := linked_single path _ name linked split rest
        exact (resolves_iff path _ name printed (kindOf text) linked split normal single).mpr ⟨rfl, file⟩

end Linked

-- What the script asks for before it comes to the branch, all of which would
-- stop it.
structure Reaches (env : Env) (answers : Answers) : Prop where
  triple : Readable (env "HOST")
  jobs : Readable (env "NUM_JOBS")
  outDir : (env "OUT_DIR").isSome
  srcDir : ∃ srcDir : OsString, answers [] .currentDir = some srcDir
  version : (((env "CARGO_PKG_VERSION").bind fromUtf8).bind fun version => splitOnce version '+').isSome
  supported : ∀ target, (env "TARGET").bind fromUtf8 = some target → unsupportedTargets.any (contains target) = false

-- The linker has been told nothing, but for what Cargo's own values hide.
def Clear (env : Env) (past : History) : Prop := linkLines past = [] ↔ Unsaid linking env

def Arrives {α : Type} (host : Host) (env : Env) (answers : Answers) (path : OsString) (result : α)
    (outcome : History × Option α) : Prop :=
  ∃ later, Clear env later ∧ outcome = runBind env answers (fun _ => .ret result) (run env answers (linkOverride host path) later)

section Reached

variable (env : Env) (answers : Answers) {α β : Type}

theorem run_watched (name : String) (next : Option OsString → Task β) (past : List (Event String Action)) :
    run env answers (Script.watch name >>= fun _ => varOs name >>= next) past =
      run env answers (next (env name)) (past ++ [.watched name]) := rfl

theorem run_var (name : String) (next : Option String → Task β) (past : List (Event String Action)) :
    run env answers (var name >>= next) past = run env answers (next ((env name).bind fromUtf8)) past := rfl

theorem run_expect (name : String) (next : String → Task β) (past : List (Event String Action)) :
    run env answers (expectEnv name >>= next) past =
      ((env name).bind fromUtf8).elim (past, none) fun text => run env answers (next text) past := by
  change run env answers (Script.orStop ((env name).bind fromUtf8) >>= next) past = _
  cases (env name).bind fromUtf8 with
  | none => rfl
  | some text => rfl

theorem run_or_stop (value : Option α) (next : α → Task β) (past : List (Event String Action)) :
    run env answers (Script.orStop value >>= next) past = value.elim (past, none) fun found => run env answers (next found) past := by
  cases value with
  | none => rfl
  | some found => rfl

theorem run_current_dir (srcDir : OsString) (next : Option OsString → Task β) (past : List (Event String Action))
    (here : answers past .currentDir = some srcDir) : run env answers (currentDir >>= next) past =
      run env answers (next (some srcDir)) (past ++ [.acted .currentDir]) := by
  change run env answers (next (answers past .currentDir)) _ = _
  rw [here]

theorem run_announce (target triple numJobs : String) (next : Unit → Task β) (past : History) :
    run env answers (announce target triple numJobs >>= next) past = run env answers (next ())
      (past ++ [.acted (.print ("TARGET=" ++ target)), .acted (.print ("HOST=" ++ triple)), .acted (.print ("NUM_JOBS=" ++ numJobs))]) := by
  have events : ∀ first second third : Event String Action, past ++ [first, second, third] =
      past ++ [first] ++ [second] ++ [third] := by simp
  rw [events]
  rfl

theorem returns_or_stop (value : Option α) (next : α → Task β) (past : List (Event String Action))
    (returned : (run env answers (Script.orStop value >>= next) past).2.isSome) :
    ∃ found, value = some found ∧ (run env answers (next found) past).2.isSome := by
  cases value with
  | none => cases returned
  | some found => exact ⟨found, rfl, returned⟩

theorem returns_expect (name : String) (next : String → Task β) (past : List (Event String Action))
    (returned : (run env answers (expectEnv name >>= next) past).2.isSome) :
    ∃ text, (env name).bind fromUtf8 = some text ∧ (run env answers (next text) past).2.isSome :=
  returns_or_stop env answers ((env name).bind fromUtf8) next past returned

theorem returns_require (met : Bool) (next : Unit → Task β) (past : List (Event String Action))
    (returned : (run env answers (require met >>= next) past).2.isSome) :
    met = true ∧ (run env answers (next ()) past).2.isSome := by
  cases met with
  | false => cases returned
  | true => exact ⟨rfl, returned⟩

theorem returns_bind (script : Task α) (next : α → Task β) (past : History)
    (returned : (run env answers (script >>= next) past).2.isSome) : (run env answers script past).2.isSome := by
  rw [run_bind] at returned
  cases ended : run env answers script past with
  | mk later result =>
      rw [ended] at returned
      cases result with
      | none => cases returned
      | some value => rfl

def Always (script : Task α) : Prop := ∀ past, (run env answers script past).2.isSome

theorem always_print_when (met : Bool) (text : String) : Always env answers (printWhen met text) := by
  cases met with
  | false => exact fun _ => rfl
  | true => exact fun _ => rfl

theorem always_prefix_choice (target : String) : Always env answers (choosePrefix target) := by
  intro past
  rw [choosePrefix, run_var]
  cases (env "CARGO_FEATURE_UNPREFIXED_MALLOC_ON_SUPPORTED_PLATFORMS").bind fromUtf8 with
  | none => rfl
  | some _ =>
      dsimp only
      cases noUnprefixedMallocTargets.any (contains target) with
      | true => rfl
      | false => rfl

theorem always_check_target (target : String) (supported : unsupportedTargets.any (contains target) = false) :
    Always env answers (checkTarget target) := by
  intro past
  rw [checkTarget, supported]
  change (run env answers (if untestedTargets.any (contains target) then _ else _) past).2.isSome
  cases untestedTargets.any (contains target) with
  | true => rfl
  | false => rfl

theorem always_read_watch {T : Type} (host : Host) (name target : String) (getter : Option OsString → Option T)
    (known : (env "TARGET").bind fromUtf8 = some target) : Always env answers (readAndWatchEnvImpl host name getter) := by
  intro past
  rw [readAndWatchEnvImpl, run_expect, known, Option.elim_some, run_watched]
  cases getter (env (prefixedName host target name)) with
  | some value => rfl
  | none => rfl

def Passes (script : Task α) : Prop :=
  ∀ past, ∃ extra value, run env answers script past = (past ++ extra, some value) ∧ (Unsaid linking env → linkLines extra = [])

theorem passes_within (script : Task α) (always : Always env answers script)
    (within : Unsaid linking env → Within env (Plain linking) script) : Passes env answers script := by
  intro past
  obtain ⟨extra, grown⟩ := run_extends env answers script past
  obtain ⟨value, returned⟩ := Option.isSome_iff_exists.mp (always past)
  refine ⟨extra, value, Prod.ext grown.symm returned, ?_⟩
  intro unsaid
  obtain ⟨same, only, also⟩ := within_run env answers script past (within unsaid)
  rw [← grown] at also
  obtain rfl := List.append_cancel_left also
  exact said_only linking linking_instructions extra fun event member => (only event member).2

theorem passes_bind (goal : History × Option β → Prop) (script : Task α) (next : α → Task β) (past : History)
    (passes : Passes env answers script) (clear : Clear env past)
    (rest : ∀ later value, (run env answers script past).2 = some value → Clear env later → goal (run env answers (next value) later)) :
    goal (run env answers (script >>= next) past) := by
  obtain ⟨extra, value, ran, quiet⟩ := passes past
  rw [run_bind, ran]
  refine rest (past ++ extra) value (by rw [ran]) ?_
  rw [Clear, linkLines, said_append linking linking_instructions, List.append_eq_nil_iff]
  exact ⟨fun both => clear.mp both.1, fun unsaid => ⟨clear.mpr unsaid, quiet unsaid⟩⟩

theorem clear_announced (target triple numJobs : String) (targeted : (env "TARGET").bind fromUtf8 = some target)
    (hosted : (env "HOST").bind fromUtf8 = some triple) (counted : (env "NUM_JOBS").bind fromUtf8 = some numJobs) :
    Clear env [.acted .currentDir, .acted (.print ("TARGET=" ++ target)), .acted (.print ("HOST=" ++ triple)),
      .acted (.print ("NUM_JOBS=" ++ numJobs))] := by
  rw [Clear, linkLines, said_events linking linking_instructions]
  change [] ++ (told linking _ ++ (told linking _ ++ (told linking _ ++ []))) = [] ↔ _
  rw [List.nil_append, List.append_nil, List.append_eq_nil_iff, List.append_eq_nil_iff]
  constructor
  · rintro ⟨first, second, third⟩ name listed text found
    simp only [List.mem_cons, List.not_mem_nil, or_false] at listed
    rcases listed with rfl | rfl | rfl
    · obtain rfl := Option.some.inj (targeted.symm.trans found)
      exact first
    · obtain rfl := Option.some.inj (hosted.symm.trans found)
      exact second
    · obtain rfl := Option.some.inj (counted.symm.trans found)
      exact third
  · intro unsaid
    exact ⟨unsaid "TARGET" (by decide) target targeted, unsaid "HOST" (by decide) triple hosted,
      unsaid "NUM_JOBS" (by decide) numJobs counted⟩

variable (host : Host) (path : OsString)

theorem arrives_bind (script : Task α) (next : α → Task β) (past : List (Event String Action)) (result : α) (final : β)
    (arrives : Arrives host env answers path result (run env answers script past)) (returns : next result = .ret final) :
    Arrives host env answers path final (run env answers (script >>= next) past) := by
  obtain ⟨later, clean, ran⟩ := arrives
  refine ⟨later, clean, ?_⟩
  rw [run_bind, ran]
  cases run env answers (linkOverride host path) later with
  | mk events ended =>
      cases ended with
      | none => rfl
      | some _ =>
          change run env answers (next result) events = _
          rw [returns]
          rfl

theorem choose_returns (target triple numJobs : String)
    (returned : (run env answers (chooseBuild host target triple numJobs) []).2.isSome) :
    (env "OUT_DIR").isSome ∧ (∃ srcDir : OsString, answers [] .currentDir = some srcDir) ∧
      (((env "CARGO_PKG_VERSION").bind fromUtf8).bind fun version => splitOnce version '+').isSome ∧
      unsupportedTargets.any (contains target) = false := by
  obtain ⟨outDir, found, returned⟩ := returns_or_stop env answers (env "OUT_DIR") _ [] returned
  obtain ⟨srcDir, here, returned⟩ := returns_or_stop env answers (answers [] .currentDir) _ [.acted .currentDir] returned
  obtain ⟨version, full, returned⟩ := returns_expect env answers "CARGO_PKG_VERSION" _ _ returned
  obtain ⟨parts, plus, returned⟩ := returns_or_stop env answers (splitOnce version '+') _ _ returned
  rw [run_announce] at returned
  have checked := returns_bind env answers (checkTarget target) _ _ returned
  have supported := (returns_require env answers (!unsupportedTargets.any (contains target)) _ _ checked).1
  rw [found, full, Option.bind_some, plus]
  exact ⟨rfl, ⟨srcDir, here⟩, rfl, by simpa using supported⟩

theorem main_returns (target : String) (known : (env "TARGET").bind fromUtf8 = some target)
    (returned : (run env answers (main host) []).2.isSome) : Reaches env answers := by
  have prepared : (run env answers (prepare host) []).2.isSome := returns_bind env answers (prepare host) _ [] returned
  obtain ⟨target', found, prepared⟩ := returns_expect env answers "TARGET" _ [] prepared
  obtain rfl := Option.some.inj (known.symm.trans found)
  obtain ⟨triple, hosted, prepared⟩ := returns_expect env answers "HOST" _ [] prepared
  obtain ⟨numJobs, jobs, prepared⟩ := returns_expect env answers "NUM_JOBS" _ [] prepared
  have chose := returns_bind env answers (chooseBuild host target triple numJobs) _ [] prepared
  obtain ⟨outDir, srcDir, version, supported⟩ := choose_returns env answers host target triple numJobs chose
  have same : ∀ other, (env "TARGET").bind fromUtf8 = some other → unsupportedTargets.any (contains other) = false := by
    intro other also
    obtain rfl := Option.some.inj (known.symm.trans also)
    exact supported
  exact ⟨by rw [Readable, hosted]; rfl, by rw [Readable, jobs]; rfl, outDir, srcDir, version, same⟩

variable (set : chosen host env "JEMALLOC_OVERRIDE" id = some path)
include set

theorem decision_arrives (target triple jeVersion : String) (outDir : OsString) (past : History)
    (known : (env "TARGET").bind fromUtf8 = some target) (supported : unsupportedTargets.any (contains target) = false)
    (clear : Clear env past) : Arrives host env answers path (.override path)
      (run env answers (chooseDecision host target triple jeVersion outDir) past) := by
  let arrives := Arrives host env answers path (Decision.override path)
  change arrives _
  have checks := passes_within env answers (checkTarget target) (always_check_target env answers target supported)
    fun unsaid => plain_check_target linking env linking_instructions unsaid target known
  apply passes_bind env answers arrives _ _ past checks clear
  intro past _ _ clear
  have chooses := passes_within env answers (choosePrefix target) (always_prefix_choice env answers target)
    fun unsaid => plain_prefix_choice linking env linking_instructions unsaid target known
  apply passes_bind env answers arrives _ _ past chooses clear
  intro past usePrefix _ clear
  have announced := passes_within env answers (print "cargo::rustc-check-cfg=cfg(prefixed)") (fun _ => rfl)
    fun _ => plain_print linking env _ (by decide)
  apply passes_bind env answers arrives _ _ past announced clear
  intro past _ _ clear
  have marks := passes_within env answers (printWhen usePrefix "cargo:rustc-cfg=prefixed")
    (always_print_when env answers usePrefix _) fun _ => plain_print_when linking env usePrefix _ (by decide)
  apply passes_bind env answers arrives _ _ past marks clear
  intro past _ _ clear
  have reads := passes_within env answers (readAndWatchEnvOs host "JEMALLOC_OVERRIDE")
    (always_read_watch env answers host "JEMALLOC_OVERRIDE" target id known)
    fun _ => plain_read_watch linking host env linking_instructions "JEMALLOC_OVERRIDE" id (by decide)
  apply passes_bind env answers arrives _ _ past reads clear
  intro past value returned clear
  have same : value = some path :=
    set ▸ yields_run env answers _ _ _ value (yields_read_watch host env "JEMALLOC_OVERRIDE" id) returned
  subst same
  exact ⟨past, clear, run_bind env answers _ _ past⟩

theorem choose_arrives (target triple numJobs : String) (known : (env "TARGET").bind fromUtf8 = some target)
    (hosted : (env "HOST").bind fromUtf8 = some triple) (counted : (env "NUM_JOBS").bind fromUtf8 = some numJobs)
    (reaches : Reaches env answers) :
    Arrives host env answers path (.override path) (run env answers (chooseBuild host target triple numJobs) []) := by
  obtain ⟨outDir, found⟩ := Option.isSome_iff_exists.mp reaches.outDir
  obtain ⟨srcDir, here⟩ := reaches.srcDir
  obtain ⟨parts, split⟩ := Option.isSome_iff_exists.mp reaches.version
  obtain ⟨version, full, plus⟩ := Option.bind_eq_some_iff.mp split
  change Arrives host env answers path _ (run env answers (Script.orStop (env "OUT_DIR") >>= _) [])
  rw [run_or_stop, found, Option.elim_some, run_current_dir env answers srcDir _ [] here, run_or_stop, Option.elim_some,
    run_expect, full, Option.elim_some, run_or_stop, plus, Option.elim_some, run_announce]
  exact decision_arrives env answers host path set target triple parts.2 outDir _ known (reaches.supported target known)
    (clear_announced env target triple numJobs known hosted counted)

theorem main_arrives (reaches : Reaches env answers) :
    ∃ later, Clear env later ∧ run env answers (main host) [] = run env answers (linkOverride host path) later := by
  obtain ⟨target, known, _⟩ := Option.bind_eq_some_iff.mp set
  obtain ⟨triple, hosted⟩ := Option.isSome_iff_exists.mp reaches.triple
  obtain ⟨numJobs, jobs⟩ := Option.isSome_iff_exists.mp reaches.jobs
  have arrives : Arrives host env answers path (numJobs, .override path) (run env answers (prepare host) []) := by
    rw [prepare, run_expect, known, Option.elim_some, run_expect, hosted, Option.elim_some, run_expect, jobs, Option.elim_some]
    exact arrives_bind env answers host path _ _ [] _ _
      (choose_arrives env answers host path set target triple numJobs known hosted jobs reaches) rfl
  have whole : Arrives host env answers path () (run env answers (main host) []) :=
    arrives_bind env answers host path _ _ [] _ () arrives rfl
  obtain ⟨later, clear, ran⟩ := whole
  refine ⟨later, clear, ran.trans ?_⟩
  cases run env answers (linkOverride host path) later with
  | mk events ended =>
      cases ended with
      | none => rfl
      | some _ => rfl

end Reached

theorem override_links (host : Host) (env : Env) (answers : Answers) (path : OsString)
    (set : chosen host env "JEMALLOC_OVERRIDE" id = some path) (present : ∀ past, answers past (.exists path) = true) :
    LinksNamed path (run env answers (main host) []) ↔
      ¬Reaches env answers ∨ Stops path ∨ (Unsaid linking env ∧ ∃ directory front name, Linkable path directory front name) := by
  by_cases reaches : Reaches env answers
  · obtain ⟨later, clear, ran⟩ := main_arrives env answers host path set reaches
    rw [ran, link_override_iff host env answers later path present, or_iff_right (not_not_intro reaches)]
    exact or_congr_right (and_congr_left fun _ => clear)
  · refine iff_of_true (.inl ?_) (.inl reaches)
    obtain ⟨target, known, _⟩ := Option.bind_eq_some_iff.mp set
    by_contra running
    exact reaches (main_returns env answers host target known (Option.isSome_iff_ne_none.mpr running))

theorem override_links_archive :
    LinksNamed (utf8 "/usr/lib/libjemalloc.a")
      (run (environment (("NUM_JOBS", "1") :: overrideEntries "/usr/lib/libjemalloc.a")) willing (main asciiHost) []) := by
  have unsaid : Unsaid linking (environment (("NUM_JOBS", "1") :: overrideEntries "/usr/lib/libjemalloc.a")) := by
    intro name listed text found
    simp only [List.mem_cons, List.not_mem_nil, or_false] at listed
    rcases listed with rfl | rfl | rfl <;> cases found <;> exact mute_other linking linking_instructions _ (by decide) (by decide)
  apply (override_links asciiHost _ willing (utf8 "/usr/lib/libjemalloc.a") rfl fun _ => rfl).mpr
  refine .inr (.inr ⟨unsaid, "/usr/lib", "libjemalloc", utf8 "libjemalloc.a", ?_⟩)
  exact ⟨rfl, rfl, rfl, ⟨by decide, by decide⟩, ⟨by decide, by decide⟩, by decide, .inl (by decide)⟩

-- A versioned name loses its version only, and the linker is sent to
-- /usr/lib/libjemalloc.so.so.
theorem override_links_versioned :
    let env := environment (("NUM_JOBS", "1") :: overrideEntries "/usr/lib/libjemalloc.so.2")
    let path := utf8 "/usr/lib/libjemalloc.so.2"
    chosen asciiHost env "JEMALLOC_OVERRIDE" id = some path ∧ (∀ past, willing past (.exists path) = true) ∧
    (run env willing (main asciiHost) []).2 = some () ∧
    linkLines (run env willing (main asciiHost) []).1 =
      ["cargo:rustc-link-search=native=/usr/lib".toList, "cargo:rustc-link-lib=dylib=jemalloc.so".toList] ∧
    components (join (utf8 "/usr/lib") (libFile .dylib "jemalloc.so")) = components (utf8 "/usr/lib/libjemalloc.so.so") ∧
    ¬LinksNamed path (run env willing (main asciiHost) []) := by
  intro env path
  have ended : (run env willing (main asciiHost) []).2 = some () := rfl
  have lines : linkLines (run env willing (main asciiHost) []).1 =
      ["cargo:rustc-link-search=native=/usr/lib".toList, "cargo:rustc-link-lib=dylib=jemalloc.so".toList] := by
    rw [linkLines, said_events linking linking_instructions]
    decide +kernel
  refine ⟨rfl, fun _ => rfl, ended, lines, by decide, ?_⟩
  rintro (stopped | ⟨directory, kind, linked, emitted, resolved⟩)
  · rw [ended] at stopped
    cases stopped
  · rw [lines, List.cons.injEq, List.cons.injEq] at emitted
    obtain ⟨search, library, _⟩ := emitted
    have parts : "cargo:rustc-link-search=native=/usr/lib".toList =
      "cargo:rustc-link-search=native=".toList ++ "/usr/lib".toList := by decide
    rw [parts, String.toList_append] at search
    obtain rfl := String.toList_inj.mp (List.append_cancel_left search)
    obtain ⟨rfl, line⟩ := link_word kind .dylib linked "jemalloc.so" (by rw [← library]; decide)
    have whole : firstLine "jemalloc.so".toList = "jemalloc.so".toList := by decide
    rw [whole] at line
    obtain rfl := String.toList_inj.mp line
    have different : components (join (utf8 "/usr/lib") (libFile .dylib "jemalloc.so")) ≠ components path := by decide
    exact different resolved

end BuildScript
