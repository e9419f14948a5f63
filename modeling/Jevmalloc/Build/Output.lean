import Jevmalloc.Build.Configure
import Jevmalloc.Interaction.Guarded
import Jevmalloc.Text.Lines

set_option autoImplicit false

namespace BuildScript

open Interaction Bytes Lines

def spoken : Event String Action → Option (List Char)
  | .watched name => some ("cargo:rerun-if-env-changed=" ++ name).toList
  | .acted (.print text) => some text.toList
  | .acted _ => none

-- What the script itself writes to the stream that Cargo reads.
def output (events : History) : List Char := events.flatMap fun event => (spoken event).elim [] fun text => text ++ ['\n']

def said (words : List (List Char)) (events : History) : List (List Char) := told words (output events)

def uttered (words : List (List Char)) (event : Event String Action) : List (List Char) := (spoken event).elim [] (told words)

-- What hands something to the linker, what dependents get of the library, and
-- what sets a cfg, each in both of Cargo's spellings.
def linking : List (List Char) :=
  ["cargo:rustc-link", "cargo::rustc-link", "cargo:rustc-flags", "cargo::rustc-flags", "cargo:rustc-cdylib-link-arg",
    "cargo::rustc-cdylib-link-arg"].map String.toList

def configuring : List (List Char) := ["cargo:rustc-cfg", "cargo::rustc-cfg"].map String.toList

def openings : List String := ["cargo:warning=", "cargo:rerun-if-env-changed=", "cargo:rerun-if-changed=", "cargo::rustc-check-cfg="]

structure Instruction (word : List Char) : Prop where
  solid : Solid word
  head : word.head? = some 'c'
  free : '`' ∉ word
  apart : ∀ opening ∈ openings, Apart opening.toList word

instance (word : List Char) : Decidable (Instruction word) :=
  decidable_of_iff (Solid word ∧ word.head? = some 'c' ∧ '`' ∉ word ∧ ∀ opening ∈ openings, Apart opening.toList word)
    ⟨fun ⟨solid, head, free, apart⟩ => ⟨solid, head, free, apart⟩,
      fun instruction => ⟨instruction.solid, instruction.head, instruction.free, instruction.apart⟩⟩

theorem linking_instructions : ∀ word ∈ linking, Instruction word := by decide
theorem configuring_instructions : ∀ word ∈ configuring, Instruction word := by decide

-- No line of what the script shows of these variables is one of the instructions.
def Unsaid (words : List (List Char)) (env : Env) : Prop :=
  ∀ name ∈ ["TARGET", "HOST", "NUM_JOBS"], ∀ text, (env name).bind fromUtf8 = some text → told words (name ++ "=" ++ text).toList = []

structure Silenced (words : List (List Char)) (host : Host) (env : Env) : Prop where
  unsaid : Unsaid words env
  options : ∀ option ∈ valuedOptions, ∀ text, chosen host env option.2 nonEmpty = some text →
    told words (option.1 ++ text).toList = []

theorem silenced_nothing (host : Host) (env : Env) : Silenced [] host env :=
  ⟨fun _ _ _ _ => told_nothing _, fun _ _ _ _ => told_nothing _⟩

section Mute

variable (words : List (List Char)) (proper : ∀ word ∈ words, Instruction word)

include proper

theorem nonempty_instructions : [] ∉ words := fun member => (proper [] member).solid.nonempty rfl

theorem said_events (events : History) : said words events = events.flatMap (uttered words) := by
  induction events with
  | nil => exact told_empty words (nonempty_instructions words proper)
  | cons event rest ih =>
      rw [List.flatMap_cons, ← ih, said, output, List.flatMap_cons, uttered]
      cases spoken event with
      | none => rfl
      | some text =>
          rw [Option.elim_some, List.append_assoc, List.singleton_append, told_line]
          rfl

theorem said_append (first second : History) : said words (first ++ second) = said words first ++ said words second := by
  rw [said_events words proper, said_events words proper, said_events words proper, List.flatMap_append]

theorem said_only (events : History) (only : Only (fun event => uttered words event = []) events) : said words events = [] := by
  rw [said_events words proper, List.flatMap_eq_nil_iff]
  exact only

theorem mute_other (text : List Char) (head : (text.head?.all fun char => !isSpace char && char != 'c') = true)
    (single : '\n' ∉ text) : told words text = [] := by
  cases text with
  | nil => exact told_empty words (nonempty_instructions words proper)
  | cons char rest =>
      obtain ⟨visible, other⟩ : isSpace char = false ∧ char ≠ 'c' := by simpa using head
      have alone : '\n' ∉ [char] := fun member => single (List.mem_cons.mpr (.inl (List.mem_singleton.mp member)))
      have solid : Solid [char] := ⟨alone, by simpa using visible, by simpa using visible, List.cons_ne_nil _ _⟩
      apply told_single words [char] rest solid _ fun member => single (List.mem_cons_of_mem _ member)
      intro word listed
      obtain ⟨letters, same⟩ := List.head?_eq_some_iff.mp (proper word listed).head
      rw [same]
      exact ⟨fun begins => other (List.cons_prefix_cons.mp begins).1.symm, fun begins => other (List.cons_prefix_cons.mp begins).1⟩

theorem mute_opening (opening rest : String) (listed : opening ∈ openings) (single : '\n' ∉ rest.toList) :
    told words (opening ++ rest).toList = [] := by
  have solid : Solid opening.toList := (by decide : ∀ opening ∈ openings, Solid opening.toList) opening listed
  rw [String.toList_append]
  exact told_single words _ _ solid (fun word member => (proper word member).apart opening listed) single

theorem mute_warning (front back : List Char) (label text : String) (solid : Solid front) (opened : "cargo:warning=".toList <+: front)
    (clean : '\n' ∉ label.toList) (closed : '\n' ∉ back) (quiet : told words (label ++ text).toList = []) :
    told words (front ++ (text.toList ++ '`' :: back)) = [] := by
  rw [String.toList_append] at quiet
  apply told_framed words front label.toList text.toList back '`' solid _ _ rfl clean _ quiet
  · intro word listed
    obtain ⟨rest, same⟩ := opened
    rw [← same]
    exact apart_longer _ rest word ((proper word listed).apart _ (by decide))
  · exact fun word listed => ⟨(proper word listed).solid, (proper word listed).free⟩
  · exact fun member => closed (by simpa using member)

theorem mute_watch (name : String) (upper : 'c' ∉ name.toList) : told words ("cargo:rerun-if-env-changed=" ++ name).toList = [] := by
  rw [String.toList_append]
  apply told_missing words _ _ (by decide) fun word listed => (proper word listed).apart _ (by decide)
  intro word listed
  exact ⟨'c', List.mem_of_mem_head? (proper word listed).head, upper⟩

omit proper in
theorem prefixed_upper (host : Host) (target name : String) (upper : 'c' ∉ name.toList) :
    'c' ∉ (prefixedName host target name).toList := by
  rw [prefixedName, replaceChar, String.toList_append, String.toList_append, String.toList_ofList]
  intro member
  rcases List.mem_append.mp member with front | back
  · rcases List.mem_append.mp front with replaced | mark
    · obtain ⟨char, inside, same⟩ := List.mem_map.mp replaced
      split at same
      · exact absurd same (by decide)
      · exact absurd (host.uppercase target char inside) (by rw [same]; decide)
    · exact absurd mark (by decide)
  · exact upper back

end Mute

def Harmless : Event String Action → Prop
  | .acted (.status _) | .acted (.compile _ _) | .acted (.removeDirAll _) | .acted (.copyRecursively _ _) | .acted (.copy _ _) => False
  | _ => True

def Plain (words : List (List Char)) (event : Event String Action) : Prop := Harmless event ∧ uttered words event = []

section Within

variable {α : Type} (words : List (List Char)) (host : Host) (env : Env)

section Rules

variable {allowed : Event String Action → Prop}

theorem within_read (name : String) (next : Option OsString → Task α) (rest : Within env allowed (next (env name))) :
    Within env allowed (varOs name >>= next) := rest

theorem within_var (name : String) (next : Option String → Task α) (rest : Within env allowed (next ((env name).bind fromUtf8))) :
    Within env allowed (var name >>= next) := rest

theorem within_print (text : String) (mine : allowed (.acted (.print text))) : Within env allowed (print text) :=
  ⟨mine, fun _ => trivial⟩

theorem within_print_when (met : Bool) (text : String) (mine : allowed (.acted (.print text))) :
    Within env allowed (printWhen met text) := by
  cases met with
  | false => trivial
  | true => exact within_print env text mine

theorem within_execute (command : Command) (onFail : Task Unit) (mine : allowed (.acted (.status command)))
    (also : Within env allowed onFail) : Within env allowed (command.execute onFail) := by
  refine within_bind env command.status _ ⟨mine, fun _ => trivial⟩ ?_
  intro outcome
  cases outcome with
  | none => trivial
  | some ok =>
      cases ok with
      | true => trivial
      | false => exact within_bind env _ _ also fun _ => trivial

end Rules

theorem plain_or_stop (value : Option α) : Within env (Plain words) (Script.orStop value : Task α) := by
  cases value with
  | none => trivial
  | some _ => trivial

theorem plain_require (met : Bool) : Within env (Plain words) (require met) := by
  cases met with
  | false => trivial
  | true => trivial

theorem plain_expect (name : String) : Within env (Plain words) (expectEnv name) := plain_or_stop words env _

theorem plain_print (text : String) (quiet : told words text.toList = []) : Within env (Plain words) (print text) :=
  within_print env text ⟨trivial, quiet⟩

theorem plain_info (text : String) (next : Task α) (quiet : told words text.toList = []) (rest : Within env (Plain words) next) :
    Within env (Plain words) (info text >>= fun _ => next) := ⟨⟨trivial, quiet⟩, fun _ => rest⟩

theorem plain_print_when (met : Bool) (text : String) (quiet : told words text.toList = []) :
    Within env (Plain words) (printWhen met text) := within_print_when env met text ⟨trivial, quiet⟩

variable (proper : ∀ word ∈ words, Instruction word)
include proper

omit env in
theorem plain_watched (name : String) (upper : 'c' ∉ name.toList) : Plain words (.watched name) :=
  ⟨trivial, mute_watch words proper name upper⟩

theorem plain_read_watch {T : Type} (name : String) (getter : Option OsString → Option T) (upper : 'c' ∉ name.toList) :
    Within env (Plain words) (readAndWatchEnvImpl host name getter) := by
  apply within_bind env _ _ (plain_expect words env "TARGET")
  intro target
  have prefixed := plain_watched words proper _ (prefixed_upper host target name upper)
  refine within_bind env _ _ (show Within env (Plain words) (Script.watch _) from ⟨prefixed, trivial⟩) fun _ => ?_
  apply within_read
  cases getter (env (prefixedName host target name)) with
  | some kept => trivial
  | none => exact ⟨plain_watched words proper name upper, trivial⟩

variable (unsaid : Unsaid words env)
include unsaid

omit proper in
theorem plain_announce (target triple numJobs : String) (targeted : (env "TARGET").bind fromUtf8 = some target)
    (hosted : (env "HOST").bind fromUtf8 = some triple) (counted : (env "NUM_JOBS").bind fromUtf8 = some numJobs) :
    Within env (Plain words) (announce target triple numJobs) := by
  apply plain_info words env _ _ (unsaid "TARGET" (by decide) target targeted)
  apply plain_info words env _ _ (unsaid "HOST" (by decide) triple hosted)
  exact plain_print words env _ (unsaid "NUM_JOBS" (by decide) numJobs counted)

variable (target : String) (targeted : (env "TARGET").bind fromUtf8 = some target)
include targeted

theorem plain_warning (front back : String) (solid : Solid ("cargo:warning=\"" ++ front ++ "`").toList)
    (closed : '\n' ∉ back.toList) : Within env (Plain words) (warning (front ++ "`" ++ target ++ "`" ++ back)) := by
  apply plain_print
  have whole : ("cargo:warning=\"" ++ (front ++ "`" ++ target ++ "`" ++ back) ++ "\"").toList =
      ("cargo:warning=\"" ++ front ++ "`").toList ++ (target.toList ++ '`' :: (back.toList ++ ['\"'])) := by
    simp
  rw [whole]
  apply mute_warning words proper _ _ "TARGET=" target solid _ (by decide) _ (unsaid "TARGET" (by decide) target targeted)
  · rw [String.toList_append, String.toList_append, List.append_assoc]
    exact (by decide : "cargo:warning=".toList <+: "cargo:warning=\"".toList).trans (List.prefix_append _ _)
  · simpa using closed

theorem plain_check_target : Within env (Plain words) (checkTarget target) := by
  apply within_bind env _ _ (plain_require words env _)
  intro _
  by_cases untested : untestedTargets.any (contains target) = true
  · simp only [untested, if_true]
    have text : "jemalloc support for `" ++ target ++ "` is untested" =
        "jemalloc support for " ++ "`" ++ target ++ "`" ++ " is untested" := by
      simp [String.append_assoc]
    rw [text]
    exact plain_warning words env proper unsaid target targeted _ _ (by decide) (by decide)
  · simp only [untested, if_false, Bool.false_eq_true]
    trivial

theorem plain_prefix_choice : Within env (Plain words) (choosePrefix target) := by
  apply within_var
  cases (env "CARGO_FEATURE_UNPREFIXED_MALLOC_ON_SUPPORTED_PLATFORMS").bind fromUtf8 with
  | none => trivial
  | some _ =>
      by_cases unsupported : noUnprefixedMallocTargets.any (contains target) = true
      · simp only [unsupported, if_true]
        have text : "Unprefixed `malloc` requested on unsupported platform `" ++ target ++ "` => using prefixed `malloc`" =
            "Unprefixed `malloc` requested on unsupported platform " ++ "`" ++ target ++ "`" ++ " => using prefixed `malloc`" := by
          simp [String.append_assoc]
        rw [text]
        apply within_bind env _ _ (plain_warning words env proper unsaid target targeted _ _ (by decide) (by decide))
        exact fun _ => trivial
      · simp only [unsupported, if_false, Bool.false_eq_true]
        trivial

end Within

end BuildScript
