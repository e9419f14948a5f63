import Jevmalloc.Arena.Calls
import Jevmalloc.Ctl.Runs

set_option autoImplicit false

namespace Jevmalloc

open Interaction Bytes

abbrev CString := { bytes : List UInt8 // 0 ∉ bytes }

def CString.fromPtr (memory : List UInt8) : CString := ⟨cString memory, c_string_clean memory⟩

theorem c_string_ptr (text : CString) : CString.fromPtr text.val = text := Subtype.ext (c_string_whole text.val text.property)

structure ArenaName where
  bytes : List UInt8
  sized : bytes.length = arenaNameLen
deriving DecidableEq

namespace ArenaName

def default : ArenaName := ⟨List.replicate arenaNameLen 0, List.length_replicate⟩

-- CStr::from_ptr would read past the array if nothing in it were zero.
def asCStr (name : ArenaName) : Option CString :=
  if 0 ∈ name.bytes then some (CString.fromPtr name.bytes) else none

def asBytes (name : ArenaName) : Option (List UInt8) := name.asCStr.map Subtype.val

end ArenaName

-- What arena.<i>.name does in C: a write leaves the first 31 bytes of the text
-- in zero-filled storage, a read copies up to and including the first NUL.
def storedName (text : CString) : List UInt8 :=
  text.val.take (arenaNameLen - 1) ++ List.replicate (arenaNameLen - (text.val.take (arenaNameLen - 1)).length) 0

def copiedName (storage buffer : List UInt8) : List UInt8 :=
  let copied := storage.take ((cString storage).length + 1)
  copied ++ buffer.drop copied.length

theorem stored_split (text : CString) :
    storedName text = text.val.take (arenaNameLen - 1) ++
      0 :: List.replicate (arenaNameLen - 1 - (text.val.take (arenaNameLen - 1)).length) 0 := by
  have short := List.length_take_le (arenaNameLen - 1) text.val
  have room : arenaNameLen - (text.val.take (arenaNameLen - 1)).length =
      arenaNameLen - 1 - (text.val.take (arenaNameLen - 1)).length + 1 := by
    have positive : 0 < arenaNameLen := by decide
    omega
  rw [storedName, room, List.replicate_succ]

theorem stored_length (text : CString) : (storedName text).length = arenaNameLen := by
  have short := List.length_take_le (arenaNameLen - 1) text.val
  rw [storedName, List.length_append, List.length_replicate]
  omega

theorem stored_text (text : CString) : cString (storedName text) = text.val.take (arenaNameLen - 1) := by
  have clean : 0 ∉ text.val.take (arenaNameLen - 1) := fun member => text.property (List.mem_of_mem_take member)
  rw [stored_split]
  exact c_string_terminated _ _ clean

-- The caller's buffer is zeroed, so behind the terminator it agrees with the
-- storage byte for byte.
theorem copied_stored (text : CString) : copiedName (storedName text) (List.replicate arenaNameLen 0) = storedName text := by
  have text31 := stored_text text
  have copied : (storedName text).take ((cString (storedName text)).length + 1) = text.val.take (arenaNameLen - 1) ++ [0] := by
    rw [text31, stored_split, List.take_length_add_append]
    rfl
  rw [copiedName, copied, List.drop_replicate, List.length_append, List.length_singleton, ← Nat.sub_sub, Nat.sub_right_comm,
    List.append_assoc, List.singleton_append, stored_split]

def ArenaName.of (text : CString) : ArenaName := ⟨storedName text, stored_length text⟩

theorem name_terminated (text : CString) :
    ∃ found : CString, (ArenaName.of text).asCStr = some found ∧ found.val = text.val.take (arenaNameLen - 1) := by
  have terminator : 0 ∈ storedName text := by
    rw [stored_split]
    exact List.mem_append_right _ List.mem_cons_self
  exact ⟨_, if_pos terminator, stored_text text⟩

theorem name_bytes (text : CString) : (ArenaName.of text).asBytes = some (text.val.take (arenaNameLen - 1)) := by
  obtain ⟨found, terminated, same⟩ := name_terminated text
  rw [ArenaName.asBytes, terminated, Option.map_some, same]

theorem name_eq_iff (first second : CString) :
    ArenaName.of first = .of second ↔ (ArenaName.of first).asBytes = (ArenaName.of second).asBytes := by
  constructor
  · intro same
    rw [same]
  · intro same
    rw [name_bytes, name_bytes, Option.some.injEq] at same
    have storage : storedName first = storedName second := by rw [storedName, storedName, same]
    simp only [ArenaName.of, storage]

theorem name_again (text found : CString) (read : (ArenaName.of text).asCStr = some found) :
    ArenaName.of found = .of text := by
  obtain ⟨again, terminated, same⟩ := name_terminated text
  obtain rfl : again = found := Option.some.inj (terminated.symm.trans read)
  rw [name_eq_iff, name_bytes, name_bytes, same, List.take_take, Nat.min_self]

inductive NameCall where
  | setName (arena : Arena) (text : CString)
  | name (arena : Arena)

def NameCall.Result : NameCall → Type
  | .setName _ _ => Except Error Unit
  | .name _ => Except Error (List UInt8)

def NameCall.code : (call : NameCall) → Ctl MallctlResponse call.Result
  | .setName arena text => (arena.setName text.val).run
  | .name arena => arena.name.run

-- The names that jemalloc has accepted, each for its arena, in order.
abbrev History := List (Nat × CString)

def LastSet (history : History) (index : Nat) (text : CString) : Prop :=
  ∃ before rest, history = before ++ (index, text) :: rest ∧ ∀ set ∈ rest, set.1 ≠ index

theorem last_set_snoc (history : History) (target index : Nat) (text last : CString) :
    LastSet (history ++ [(target, text)]) index last ↔
      (target = index ∧ text = last) ∨ (target ≠ index ∧ LastSet history index last) := by
  constructor
  · intro ⟨before, rest, split, latest⟩
    rcases List.eq_nil_or_concat rest with rfl | ⟨front, final, rfl⟩
    · cases (List.append_inj' split rfl).2
      exact .inl ⟨rfl, rfl⟩
    · rw [List.concat_eq_append, ← List.cons_append, ← List.append_assoc] at split
      obtain ⟨rfl, single⟩ := List.append_inj' split rfl
      cases single
      refine .inr ⟨latest (target, text) (by simp), before, front, rfl, ?_⟩
      intro set member
      exact latest set (by simp [member])
  · intro recent
    rcases recent with ⟨rfl, rfl⟩ | ⟨different, before, rest, rfl, latest⟩
    · exact ⟨history, [], rfl, by simp⟩
    · refine ⟨before, rest ++ [(target, text)], by simp, ?_⟩
      intro set member
      rcases List.mem_append.mp member with earlier | final
      · exact latest set earlier
      · rw [List.mem_singleton.mp final]
        exact different

structure Names where
  storage : Nat → List UInt8
  history : History

def Names.set (names : Names) (index : Nat) (text : CString) : Names :=
  ⟨Function.update names.storage index (storedName text), names.history ++ [(index, text)]⟩

-- What had been set when a call began, and by the time of its control call.
structure NameRecord where
  began : History
  settled : Option History

structure NameRecord.Within (record : NameRecord) (history : History) : Prop where
  began : record.began <+: history
  settled : ∀ settled, record.settled = some settled → settled <+: history

inductive NameKind where
  | store (index : Nat) (text : CString)
  | read (index : Nat) (buffer : List UInt8)
  | other

def nameKind (meaning : List Nat → Option Control) : Mallctl → NameKind
  | ⟨mib, .none, some ⟨.text, some text⟩⟩ =>
      match meaning mib with
      | some (.arena index .name) => .store index (CString.fromPtr text)
      | _ => .other
  | ⟨mib, .inPlace .buffer buffer, none⟩ =>
      match meaning mib with
      | some (.arena index .name) => .read index buffer
      | _ => .other
  | _ => .other

def Output.asBuffer : (output : Output) → output.Value → Option (List UInt8)
  | .inPlace .buffer _, value => Option.some value
  | _, _ => Option.none

section Process

variable (meaning : List Nat → Option Control)

def nameEffect (kind : NameKind) (value : Option (List UInt8)) (names after : Names) : Prop :=
  match kind with
  | .store index text => after = names.set index text
  | .read index buffer => value = some (copiedName (names.storage index) buffer) ∧ after = names
  | .other => after = names

def settledBy (kind : NameKind) (value : Option (List UInt8)) (history : History) : Prop :=
  match kind with
  | .store index text => LastSet history index text
  | .read index buffer =>
      ∃ text, (∀ last, LastSet history index last → text = last) ∧ value = some (copiedName (storedName text) buffer)
  | .other => True

def nameControl (record : NameRecord) (names : Names) (call : Mallctl) (response : MallctlResponse call)
    (next : NameRecord) (after : Names) : Prop :=
  (response.status ≠ 0 ∧ next = record ∧ after = names) ∨
  (response.status = 0 ∧ next = { record with settled := some after.history } ∧
    nameEffect (nameKind meaning call) (call.output.asBuffer response.value) names after)

def nameSurroundings : Surroundings Names NameRecord NameCall NameCall.Result where
  code := NameCall.code
  initial names := names.history = [] ∧ ∀ index, ∃ text, names.storage index = storedName text
  enter names _ view record after := view = (fun _ => 0) ∧ record = ⟨names.history, none⟩ ∧ after = names
  control own names call response next after :=
    response.Sized linuxTarget ∧ nameControl meaning own names call response next after
  leave _ names _ _ after := after = names

def nameRule (_ : NameCall) : Rule NameRecord where
  pre _ _ := True
  post before call response after :=
    (response.status ≠ 0 ∧ after = before) ∨
    (response.status = 0 ∧ ∃ settled, before.began <+: settled ∧ after = { before with settled := some settled } ∧
      settledBy (nameKind meaning call) (call.output.asBuffer response.value) settled)

def nameReturns : (call : NameCall) → Local NameRecord → call.Result → Prop
  | .setName arena text, own, value => (∃ error, value = .error error) ∨
      (value = .ok () ∧ ∃ settled, own.ghost.began <+: settled ∧ own.ghost.settled = some settled ∧
        LastSet settled arena.index text)
  | .name arena, own, value => (∃ error, value = .error error) ∨
      ∃ text settled, value = .ok (storedName text) ∧ own.ghost.began <+: settled ∧ own.ghost.settled = some settled ∧
        ∀ last, LastSet settled arena.index last → text = last

structure NameInv (names : Names) (all : Nat → Option NameRecord) : Prop where
  storage : ∀ index, ∃ text, names.storage index = storedName text ∧ ∀ last, LastSet names.history index last → text = last
  records : ∀ thread record, all thread = some record → record.Within names.history

theorem records_update (all : Nat → Option NameRecord) (thread : Nat) (record : Option NameRecord) (history : History)
    (known : ∀ other record, all other = some record → record.Within history)
    (fresh : ∀ own, record = some own → own.Within history) :
    ∀ other own, Function.update all thread record other = some own → own.Within history := by
  intro other own present
  by_cases same : other = thread
  · subst other
    rw [Function.update_self] at present
    exact fresh own present
  · rw [Function.update_of_ne same] at present
    exact known other own present

theorem within_grows (record : NameRecord) (history later : History) (within : record.Within history)
    (grows : history <+: later) : record.Within later where
  began := within.began.trans grows
  settled settled present := (within.settled settled present).trans grows

theorem set_storage (names : Names) (target : Nat) (text : CString) (all : Nat → Option NameRecord) (inv : NameInv names all)
    (index : Nat) : ∃ held, (names.set target text).storage index = storedName held ∧
      ∀ last, LastSet (names.set target text).history index last → held = last := by
  simp only [Names.set, last_set_snoc]
  by_cases same : index = target
  · subst index
    refine ⟨text, Function.update_self _ _ _, ?_⟩
    intro last recent
    rcases recent with ⟨_, newest⟩ | ⟨other, _⟩
    · exact newest
    · exact absurd rfl other
  · obtain ⟨held, kept, known⟩ := inv.storage index
    refine ⟨held, (Function.update_of_ne same _ _).trans kept, ?_⟩
    intro last recent
    rcases recent with ⟨here, _⟩ | ⟨_, earlier⟩
    · exact absurd here.symm same
    · exact known last earlier

theorem settled_effect (call : Mallctl) (response : MallctlResponse call) (names after : Names)
    (all : Nat → Option NameRecord) (inv : NameInv names all)
    (effect : nameEffect (nameKind meaning call) (call.output.asBuffer response.value) names after) :
    names.history <+: after.history ∧
    (∀ index, ∃ text, after.storage index = storedName text ∧ ∀ last, LastSet after.history index last → text = last) ∧
    settledBy (nameKind meaning call) (call.output.asBuffer response.value) after.history := by
  cases known : nameKind meaning call with
  | store index text =>
      rw [known] at effect
      obtain rfl : after = names.set index text := effect
      exact ⟨List.prefix_append _ _, set_storage names index text all inv, names.history, [], rfl, by simp⟩
  | read index buffer =>
      rw [known] at effect
      obtain ⟨copied, rfl⟩ := effect
      obtain ⟨text, held, last⟩ := inv.storage index
      exact ⟨List.prefix_rfl, inv.storage, text, last, by rw [copied, held]⟩
  | other =>
      rw [known] at effect
      obtain rfl : after = names := effect
      exact ⟨List.prefix_rfl, inv.storage, trivial⟩

section Obedience

variable (translation : String → Key) (code : List (Option (List UInt8)) → List UInt8 → Nat)
  (componentwise : Componentwise translation code) (interprets : Interprets translation meaning)

include interprets in
theorem store_kind (index : Nat) (text : CString) :
    nameKind meaning ⟨arenaMib translation index .name, .none, some ⟨.text, some text.val⟩⟩ = .store index text := by
  simp only [nameKind, interprets.known, c_string_ptr]

include interprets in
theorem read_kind (index : Nat) (buffer : List UInt8) :
    nameKind meaning ⟨arenaMib translation index .name, .inPlace .buffer buffer, none⟩ = .read index buffer := by
  simp only [nameKind, interprets.known]

include componentwise interprets

theorem set_name_obeys (arena : Arena) (text : CString) (own : Local NameRecord) :
    Obeys (hosted translation linuxTarget (nameRule meaning (.setName arena text))) (nameReturns (.setName arena text))
      (arena.setName text.val).run own := by
  apply obeys_weaken _ _ _ _ own (control_obeys translation _ (Control.arena 0 .name).name (fun key => substitute key arena.index)
    (arenaMib translation arena.index .name) .none (some ⟨.text, some text.val⟩) own
    (fun _ => substitute_placed translation code componentwise arena.index .name) fun _ _ => trivial)
  intro next value called
  rcases called with ⟨_, _, _, failed⟩ | ⟨_, response, recorded, rfl⟩
  · exact .inl failed
  · rcases recorded with ⟨failed, _⟩ | ⟨done, settled, began, same, effect⟩
    · exact .inl (outcome_refused response failed)
    · rw [store_kind meaning translation interprets] at effect
      exact .inr ⟨(outcome_ok response ()).mpr ⟨done, rfl⟩, settled, by rw [same]; exact began, by rw [same], effect⟩

theorem name_obeys (arena : Arena) (own : Local NameRecord) :
    Obeys (hosted translation linuxTarget (nameRule meaning (.name arena))) (nameReturns (.name arena)) arena.name.run own := by
  apply obeys_weaken _ _ _ _ own (control_obeys translation _ (Control.arena 0 .name).name (fun key => substitute key arena.index)
    (arenaMib translation arena.index .name) (.inPlace .buffer (List.replicate arenaNameLen 0)) none own
    (fun _ => substitute_placed translation code componentwise arena.index .name) fun _ _ => trivial)
  intro next value called
  rcases called with ⟨_, _, _, failed⟩ | ⟨_, response, recorded, rfl⟩
  · exact .inl failed
  · rcases recorded with ⟨failed, _⟩ | ⟨done, settled, began, same, effect⟩
    · exact .inl (outcome_refused response failed)
    · rw [read_kind meaning translation interprets] at effect
      obtain ⟨text, last, copied⟩ := effect
      rw [copied_stored] at copied
      have value : response.value = storedName text := Option.some.inj copied
      exact .inr ⟨text, settled, (outcome_ok response _).mpr ⟨done, value⟩, by rw [same]; exact began, by rw [same], last⟩

theorem name_rules :
    Rules translation linuxTarget (nameSurroundings meaning) (nameRule meaning) nameReturns NameInv where
  start := by
    intro names initial
    obtain ⟨nothing, stored⟩ := initial
    refine ⟨?_, by simp⟩
    intro index
    obtain ⟨text, held⟩ := stored index
    refine ⟨text, held, ?_⟩
    intro last recent
    obtain ⟨before, rest, split, _⟩ := recent
    rw [nothing] at split
    simp at split
  enter := by
    intro names all thread call view record after inv idle entered
    obtain ⟨rfl, rfl, rfl⟩ := entered
    constructor
    · refine ⟨inv.storage, records_update all thread _ _ inv.records ?_⟩
      intro own same
      cases same
      exact ⟨List.prefix_rfl, by simp⟩
    · cases call with
      | setName arena text => exact set_name_obeys meaning translation code componentwise interprets arena text _
      | name arena => exact name_obeys meaning translation code componentwise interprets arena _
  sized _ _ _ _ _ _ controlled := controlled.1
  control := by
    intro names all thread call own mallctl response next after inv busy _ controlled
    have mine := inv.records thread own.ghost busy
    rcases controlled with ⟨_, ⟨failed, rfl, rfl⟩ | ⟨done, rfl, effect⟩⟩
    · refine ⟨.inl ⟨failed, rfl⟩, inv.storage, records_update all thread _ _ inv.records ?_⟩
      intro record same
      cases same
      exact mine
    · obtain ⟨grows, kept, relied⟩ := settled_effect meaning mallctl response names after all inv effect
      refine ⟨.inr ⟨done, after.history, mine.began.trans grows, rfl, relied⟩, kept, ?_⟩
      apply records_update all thread
      · intro other record present
        exact within_grows record _ _ (inv.records other record present) grows
      · intro record same
        cases same
        exact ⟨mine.began.trans grows, fun settled present => Option.some.inj present ▸ List.prefix_rfl⟩
  leave := by
    intro names all thread call own value after inv busy _ left
    obtain rfl : after = names := left
    exact ⟨inv.storage, records_update all thread none _ inv.records (by simp)⟩

end Obedience

abbrev NameConfig := Config (Command Mallctl) (Command.Response MallctlResponse) (Local NameRecord) (World Names) NameCall NameCall.Result

def NameObtained (config : NameConfig) (arena : Arena) (settled : History) (name : ArenaName) : Prop :=
  ∃ thread own, config.callers thread = some ⟨.name arena, own, .ret (.ok name.bytes)⟩ ∧ own.ghost.settled = some settled

section Runs

variable (translation : String → Key) (code : List (Option (List UInt8)) → List UInt8 → Nat)
  (componentwise : Componentwise translation code) (interprets : Interprets translation meaning)

include componentwise interprets

theorem name_returned (config : NameConfig) (reached : Reachable (process translation (nameSurroundings meaning)) config)
    (thread : Nat) (call : NameCall) (own : Local NameRecord) (value : call.Result)
    (done : config.callers thread = some ⟨call, own, .ret value⟩) :
    nameReturns call own value ∧ own.ghost.Within config.world.state.history := by
  have discipline := process_discipline translation (nameSurroundings meaning) _ _ _
    (name_rules meaning translation code componentwise interprets)
  have records := (discipline_invariant discipline config reached).2.records thread own.ghost
  exact ⟨discipline_returned discipline config reached thread call own value done, records (by simp [ghosts, owns, done])⟩

theorem name_read (config : NameConfig) (reached : Reachable (process translation (nameSurroundings meaning)) config)
    (thread : Nat) (arena : Arena) (own : Local NameRecord) (buffer : List UInt8)
    (done : config.callers thread = some ⟨.name arena, own, .ret (.ok buffer)⟩) :
    ∃ text settled, buffer = storedName text ∧ own.ghost.began <+: settled ∧ settled <+: config.world.state.history ∧
      own.ghost.settled = some settled ∧ ∀ last, LastSet settled arena.index last → text = last := by
  obtain ⟨returned, within⟩ :=
    name_returned meaning translation code componentwise interprets config reached thread (.name arena) own _ done
  rcases returned with ⟨error, impossible⟩ | ⟨text, settled, same, began, present, last⟩
  · cases impossible
  · exact ⟨text, settled, Except.ok.inj same, began, within.settled settled present, present, last⟩

theorem name_obtained_text (config : NameConfig) (reached : Reachable (process translation (nameSurroundings meaning)) config)
    (arena : Arena) (settled : History) (name : ArenaName) (obtained : NameObtained config arena settled name) :
    ∃ text, name = .of text ∧ ∀ last, LastSet settled arena.index last → text = last := by
  obtain ⟨thread, own, done, present⟩ := obtained
  obtain ⟨text, read, stored, _, _, same, last⟩ :=
    name_read meaning translation code componentwise interprets config reached thread arena own name.bytes done
  obtain rfl : settled = read := Option.some.inj (present.symm.trans same)
  refine ⟨text, ?_, last⟩
  cases name
  cases stored
  rfl

theorem arena_names (config : NameConfig) (reached : Reachable (process translation (nameSurroundings meaning)) config) :
    (∃ text, ArenaName.default.asCStr = some text) ∧
    (∀ thread arena text own, config.callers thread = some ⟨.setName arena text, own, .ret (.ok ())⟩ →
      ∃ settled, own.ghost.began <+: settled ∧ settled <+: config.world.state.history ∧ LastSet settled arena.index text) ∧
    (∀ thread arena own buffer, config.callers thread = some ⟨.name arena, own, .ret (.ok buffer)⟩ →
      ∃ name settled, name.bytes = buffer ∧ NameObtained config arena settled name ∧ own.ghost.began <+: settled ∧
        settled <+: config.world.state.history) ∧
    (∀ arena settled name, NameObtained config arena settled name →
      ∃ text, name.asCStr = some text ∧ name.asBytes = some text.val ∧
        ∀ last, LastSet settled arena.index last → text.val = last.val.take (arenaNameLen - 1)) ∧
    (∀ arena settled name other target later second, NameObtained config arena settled name →
      Reachable (process translation (nameSurroundings meaning)) other → NameObtained other target later second →
        (name = second ↔ name.asBytes = second.asBytes) ∧
        ∀ text, name.asCStr = some text → LastSet later target.index text → second = name) := by
  refine ⟨?_, ?_, ?_, ?_, ?_⟩
  · exact ⟨_, if_pos (List.mem_replicate.mpr ⟨by decide, rfl⟩)⟩
  · intro thread arena text own done
    obtain ⟨returned, within⟩ :=
      name_returned meaning translation code componentwise interprets config reached thread (.setName arena text) own _ done
    rcases returned with ⟨error, impossible⟩ | ⟨_, settled, began, present, set⟩
    · cases impossible
    · exact ⟨settled, began, within.settled settled present, set⟩
  · intro thread arena own buffer done
    obtain ⟨text, settled, rfl, began, past, present, _⟩ :=
      name_read meaning translation code componentwise interprets config reached thread arena own buffer done
    exact ⟨.of text, settled, rfl, ⟨thread, own, done, present⟩, began, past⟩
  · intro arena settled name obtained
    obtain ⟨text, rfl, last⟩ :=
      name_obtained_text meaning translation code componentwise interprets config reached arena settled name obtained
    obtain ⟨found, terminated, same⟩ := name_terminated text
    refine ⟨found, terminated, congrArg (Option.map Subtype.val) terminated, ?_⟩
    intro recent set
    rw [same, last recent set]
  · intro arena settled name other target later second obtained reachable again
    obtain ⟨text, rfl, _⟩ :=
      name_obtained_text meaning translation code componentwise interprets config reached arena settled name obtained
    obtain ⟨next, rfl, last⟩ :=
      name_obtained_text meaning translation code componentwise interprets other reachable target later second again
    refine ⟨name_eq_iff text next, ?_⟩
    intro found read set
    rw [last found set]
    exact name_again text found read

end Runs

end Process

theorem name_call_runs (before : NameConfig) (after : Names)
    (reached : Reachable (process spelledKey (nameSurroundings spelledMeaning)) before) (idle : before.callers 0 = none)
    (call : NameCall) (next : Except Error Key → Ctl MallctlResponse call.Result)
    (starts : call.code = Cache.get MallctlResponse (Control.arena 0 .name).name >>= next) (mallctl : Mallctl)
    (resume : MallctlResponse mallctl → Ctl MallctlResponse call.Result) (response : MallctlResponse mallctl)
    (value : call.Result) (issues : next (.ok (spelledKey (Control.arena 0 .name).name)) = .call (.control mallctl) resume)
    (returns : resume response = .ret value) (done : response.status = 0) (sized : response.Sized linuxTarget)
    (effect : nameEffect (nameKind spelledMeaning mallctl) (mallctl.output.asBuffer response.value) before.world.state after) :
    ∃ (config : NameConfig) (own : Local NameRecord), Reachable (process spelledKey (nameSurroundings spelledMeaning)) config ∧
      config.world.state = after ∧ config.callers 0 = some ⟨call, own, .ret value⟩ ∧ own.ghost.settled = some after.history := by
  have entered := reachable_enter _ before.world before.world before.callers reached 0 call
    (Local.fresh (fun _ => 0) ⟨before.world.state.history, none⟩) idle ⟨_, _, rfl, rfl, rfl, rfl, rfl⟩
  have begins : (process spelledKey (nameSurroundings spelledMeaning)).code call =
      Cache.get MallctlResponse (Control.arena 0 .name).name >>= next := starts
  rw [begins] at entered
  obtain ⟨later, cache, _, _, found⟩ := get_runs (process_resolves spelledKey (nameSurroundings spelledMeaning)) before.world.memory
    before.world.state before.callers 0 call ⟨fun _ => 0, none, 0, 0⟩ ⟨before.world.state.history, none⟩
    (Control.arena 0 .name).name (spelled_translatable _ (by decide) (by decide) (by decide) (by decide)) rfl next entered
  rw [issues] at found
  let own : Local NameRecord := ⟨cache, ⟨before.world.state.history, some after.history⟩⟩
  have answered := reachable_exec _ _ ⟨later, after⟩ _ found 0 call _ own (.control mallctl) resume response
    (Function.update_self _ _ _) ⟨rfl, rfl, sized, .inr ⟨done, rfl, effect⟩⟩
  rw [returns] at answered
  exact ⟨_, own, answered, rfl, by simp, rfl⟩

def unnamed : Names := ⟨fun _ => storedName ⟨[], by simp⟩, []⟩
def firstArena : Arena := ⟨0, false⟩
def longText : CString := ⟨utf8 "abcdefghijklmnopqrstuvwxyz0123456789", by decide⟩

theorem arena_names_truncated :
    ∃ (config : NameConfig) (name : ArenaName) (settled : History), NameObtained config firstArena settled name ∧
      LastSet settled 0 longText ∧ name.asBytes = some (utf8 "abcdefghijklmnopqrstuvwxyz01234") := by
  have start : Reachable (process spelledKey (nameSurroundings spelledMeaning)) ⟨⟨Weak.empty, unnamed⟩, fun _ => none⟩ :=
    .start _ ⟨rfl, rfl, fun _ => ⟨_, rfl⟩⟩
  obtain ⟨key, placed, mib⟩ := substitute_placed spelledKey spelledCode spelled_componentwise 0 .name
  have setKind := store_kind spelledMeaning spelledKey spelled_interprets 0 longText
  have readKind := read_kind spelledMeaning spelledKey spelled_interprets 0 (List.replicate arenaNameLen 0)
  rw [← mib] at setKind readKind
  have setIssues : resolved (fun key => firstArena.select key >>= fun key => Raw.set linuxTarget key .text (some longText.val))
      (.ok (spelledKey (Control.arena 0 .name).name)) =
      .call (.control ⟨key.val, .none, some ⟨.text, some longText.val⟩⟩) (MallctlResponse.settle linuxTarget) := by
    rw [resolved, Arena.select, firstArena, placed]
    rfl
  have readIssues : resolved (fun key => firstArena.select key >>= fun key =>
        Raw.getInPlace linuxTarget key .buffer (List.replicate arenaNameLen 0)) (.ok (spelledKey (Control.arena 0 .name).name)) =
      .call (.control ⟨key.val, .inPlace .buffer (List.replicate arenaNameLen 0), none⟩) (MallctlResponse.settle linuxTarget) := by
    rw [resolved, Arena.select, firstArena, placed]
    rfl
  obtain ⟨set, _, setReached, setState, setDone, _⟩ := name_call_runs _ (unnamed.set 0 longText) start rfl
    (.setName firstArena longText) _ (resolved_run _ _) ⟨key.val, .none, some ⟨.text, some longText.val⟩⟩ _ ⟨0, 0, ()⟩
    (.ok ()) setIssues rfl rfl (fun _ => rfl) (by rw [setKind]; rfl)
  have left := reachable_leave _ set.world set.world set.callers setReached 0 (.setName firstArena longText) _
    (.ok ()) setDone ⟨rfl, rfl⟩
  obtain ⟨config, own, reached, _, done, settled⟩ := name_call_runs _ (unnamed.set 0 longText) left (by simp)
    (.name firstArena) _ (resolved_run _ _) ⟨key.val, .inPlace .buffer (List.replicate arenaNameLen 0), none⟩ _
    ⟨0, 8, storedName longText⟩ (.ok (storedName longText)) readIssues rfl rfl (fun _ => rfl)
    (by rw [readKind, setState]; exact ⟨congrArg some (copied_stored longText).symm, rfl⟩)
  have names := arena_names spelledMeaning spelledKey spelledCode spelled_componentwise spelled_interprets config reached
  have obtained : NameObtained config firstArena (unnamed.set 0 longText).history (.of longText) := ⟨0, own, done, settled⟩
  have recent : LastSet (unnamed.set 0 longText).history 0 longText := ⟨[], [], rfl, by simp⟩
  obtain ⟨text, _, bytes, same⟩ := names.2.2.2.1 firstArena _ (.of longText) obtained
  refine ⟨config, .of longText, _, obtained, recent, ?_⟩
  rw [bytes, same longText recent]
  decide

end Jevmalloc
