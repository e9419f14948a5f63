import Jevmalloc.Arena.Calls
import Jevmalloc.Ctl.Runs
import Jevmalloc.Interaction.Pins

set_option autoImplicit false

namespace Jevmalloc

open Interaction Bytes

inductive ThreadCall where
  | arena (call : ArenaCall)
  | setArena (id : Nat)
  | arenaId

def ThreadCall.Result : ThreadCall → Type
  | .arena call => call.Result
  | .setArena _ | .arenaId => Except Error Nat

def ThreadCall.code : (call : ThreadCall) → Ctl MallctlResponse call.Result
  | .arena call => call.code
  | .setArena id => (ThisThread.setArena id).run
  | .arenaId => ThisThread.arenaId.run

-- The live arenas, the one each thread is associated with, and which threads
-- are inside a call.
structure Association where
  registry : Registry Nat
  pins : Nat → Option (Nat × Nat)
  busy : Nat → Bool

-- Which thread a call runs on, the arena that had when the call began, and what
-- thread.arena last told it: the arena it found there and the one it left there.
structure Whereabouts where
  who : Nat
  start : Option (Nat × Nat)
  before : Option (Nat × Nat)
  here : Option (Nat × Nat)

def Mallctl.wanted (call : Mallctl) : Option Nat :=
  match call.input with
  | some ⟨.unsigned, index⟩ => some index
  | _ => none

namespace Association

-- What may happen between the calls: threads that are in none of them come and
-- go, and any thread is given an arena when it first needs one.
def Drifts (state after : Association) : Prop :=
  after.registry = state.registry ∧ after.busy = state.busy ∧ Anchored after.registry after.pins ∧
    ∀ who place, state.busy who = true → state.pins who = some place → after.pins who = some place

def Stands (state : Association) (who : Nat) (place : Nat × Nat) : Prop :=
  state.registry.live place.1 = some place.2 ∧ ∀ other, state.pins who = some other → place = other

def Moves (state : Association) (own : Whereabouts) (old : Nat × Nat) (next : Whereabouts) (after : Association) :
    Option Nat → Prop
  | none =>
      next = ⟨own.who, own.start, some old, some old⟩ ∧
        after = { state with pins := Function.update state.pins own.who (some old) }
  | some index =>
      index < arenaIndexLimit ∧ ∃ serial registry, state.registry.Opens index serial registry ∧
        next = ⟨own.who, own.start, some old, some (index, serial)⟩ ∧
        after = ⟨registry, Function.update state.pins own.who (some (index, serial)), state.busy⟩

end Association

section Model

variable (meaning : List Nat → Option Control)

-- jemalloc refuses to destroy an arena with which a thread is associated, and
-- an association changes only on the thread's own request.
def associationControl (own : Whereabouts) (state : Association) (call : Mallctl) (response : MallctlResponse call)
    (next : Whereabouts) (after : Association) : Prop :=
  match meaning call.mib with
  | some .threadArena =>
      (response.status ≠ 0 ∧ next = own ∧ after = state) ∨
      (response.status = 0 ∧ ∃ old, response.reported = some old.1 ∧ state.Stands own.who old ∧
        state.Moves own old next after call.wanted)
  | some .arenasCreate =>
      next = own ∧ ((response.status ≠ 0 ∧ after = state) ∨
        ∃ index, index < arenaIndexLimit ∧ state.registry.live index = none ∧
          after = { state with registry := state.registry.enroll index })
  | some (.arena index .destroy) =>
      next = own ∧ ((response.status ≠ 0 ∧ after = state) ∨
        ∃ serial, state.registry.live index = some serial ∧ (∀ who, state.pins who ≠ some (index, serial)) ∧
          after = { state with registry := state.registry.retire index serial })
  | _ => next = own ∧ after = state

def associationSurroundings : Surroundings Association Whereabouts ThreadCall ThreadCall.Result where
  code := ThreadCall.code
  initial state :=
    state.registry.Sound ∧ (∀ index serial, state.registry.live index = some serial → index < arenaIndexLimit) ∧
      Anchored state.registry state.pins ∧ state.busy = fun _ => false
  enter state _ view own after :=
    ∃ drifted : Association, state.Drifts drifted ∧ drifted.busy own.who = false ∧ view = (fun _ => 0) ∧
      own = ⟨own.who, drifted.pins own.who, none, none⟩ ∧ after = { drifted with busy := Function.update drifted.busy own.who true }
  control own state call response next after :=
    response.Sized linuxTarget ∧ associationControl meaning own state call response next after
  leave own state _ _ after := after = { state with busy := Function.update state.busy own.ghost.who false }

def Told (before : Whereabouts) (call : Mallctl) (response : MallctlResponse call) (after : Whereabouts) : Prop :=
  (after = before ∧ (meaning call.mib = some .threadArena → response.status ≠ 0)) ∨
  (meaning call.mib = some .threadArena ∧ ∃ old new, response.reported = some old.1 ∧ old.1 < arenaIndexLimit ∧
    (before.here = none → ∀ place, before.start = some place → old = place) ∧
    after = ⟨before.who, before.start, some old, some new⟩ ∧ (call.wanted = none → new = old) ∧
    ∀ index, call.wanted = some index → new.1 = index)

def Aimed (own : Whereabouts) (call : Mallctl) : ThreadCall → Prop
  | .arena (.thisThread chosen) => ∀ index control, meaning call.mib = some (.arena index control) →
      control ∈ chosen.method.controls ∧ ∃ serial, own.here = some (index, serial)
  | _ => True

def associationRule (api : ThreadCall) : Rule Whereabouts where
  pre own call := Aimed meaning own.ghost call api
  post := Told meaning

structure AssociationInv (state : Association) (all : Nat → Option Whereabouts) : Prop where
  sound : state.registry.Sound
  bounded : ∀ index serial, state.registry.live index = some serial → index < arenaIndexLimit
  anchored : Anchored state.registry state.pins
  busy : ∀ thread own, all thread = some own → state.busy own.who = true
  alone : ∀ first second own other, all first = some own → all second = some other → own.who = other.who → first = second
  here : ∀ thread own place, all thread = some own → own.here = some place → state.pins own.who = some place
  still : ∀ thread own place, all thread = some own → own.here = none → own.start = some place → state.pins own.who = some place

end Model

section Steps

variable {meaning : List Nat → Option Control} {state after : Association} {all : Nat → Option Whereabouts} {thread : Nat}

theorem update_found {A : Type} (all : Nat → Option A) (thread other : Nat) (own found : A)
    (present : Function.update all thread (some own) other = some found) :
    (other = thread ∧ found = own) ∨ (other ≠ thread ∧ all other = some found) := by
  by_cases same : other = thread
  · subst other
    rw [Function.update_self] at present
    exact .inl ⟨rfl, (Option.some.inj present).symm⟩
  · rw [Function.update_of_ne same] at present
    exact .inr ⟨same, present⟩

theorem association_goes_on (own next : Whereabouts) (inv : AssociationInv state all) (mine : all thread = some own)
    (same : next.who = own.who) (sound : after.registry.Sound)
    (bounded : ∀ index serial, after.registry.live index = some serial → index < arenaIndexLimit)
    (anchored : Anchored after.registry after.pins) (busy : after.busy = state.busy)
    (elsewhere : ∀ who, who ≠ own.who → after.pins who = state.pins who)
    (here : ∀ place, next.here = some place → after.pins own.who = some place)
    (still : next.here = none → ∀ place, next.start = some place → after.pins own.who = some place) :
    AssociationInv after (Function.update all thread (some next)) := by
  -- The other calls run on other threads, whose associations stay as they are.
  have others : ∀ other found, other ≠ thread → all other = some found → after.pins found.who = state.pins found.who := by
    intro other found different present
    exact elsewhere _ fun shared => different (inv.alone other thread found own present mine shared)
  refine ⟨sound, bounded, anchored, ?_, ?_, ?_, ?_⟩
  · intro other found present
    rw [busy]
    rcases update_found all thread other next found present with ⟨rfl, rfl⟩ | ⟨_, present⟩
    · rw [same]
      exact inv.busy other own mine
    · exact inv.busy other found present
  · intro first second one two left right shared
    rcases update_found all thread first next one left with ⟨isFirst, isOne⟩ | ⟨_, was⟩
    · rcases update_found all thread second next two right with ⟨isSecond, _⟩ | ⟨_, is⟩
      · exact isFirst.trans isSecond.symm
      · rw [isOne, same] at shared
        exact isFirst.trans (inv.alone thread second own two mine is shared)
    · rcases update_found all thread second next two right with ⟨isSecond, isTwo⟩ | ⟨_, is⟩
      · rw [isTwo, same] at shared
        exact (inv.alone first thread one own was mine shared).trans isSecond.symm
      · exact inv.alone first second one two was is shared
  · intro other found place present stands
    rcases update_found all thread other next found present with ⟨rfl, rfl⟩ | ⟨different, present⟩
    · rw [same]
      exact here place stands
    · rw [others other found different present]
      exact inv.here other found place present stands
  · intro other found place present unread began
    rcases update_found all thread other next found present with ⟨rfl, rfl⟩ | ⟨different, present⟩
    · rw [same]
      exact still unread place began
    · rw [others other found different present]
      exact inv.still other found place present unread began

theorem association_placed (own : Whereabouts) (registry : Registry Nat) (before : Option (Nat × Nat)) (new : Nat × Nat)
    (inv : AssociationInv state all) (mine : all thread = some own) (sound : registry.Sound)
    (bounded : ∀ index serial, registry.live index = some serial → index < arenaIndexLimit)
    (anchored : Anchored registry state.pins) (live : registry.live new.1 = some new.2) :
    AssociationInv ⟨registry, Function.update state.pins own.who (some new), state.busy⟩
      (Function.update all thread (some ⟨own.who, own.start, before, some new⟩)) := by
  refine association_goes_on own _ inv mine rfl sound bounded (anchored_move anchored own.who new live) rfl ?_ ?_ nofun
  · intro who other
    exact Function.update_of_ne other _ _
  · intro place same
    exact (Function.update_self _ _ _).trans same

theorem moves_keep (own next : Whereabouts) (old : Nat × Nat) (wanted : Option Nat) (inv : AssociationInv state all)
    (mine : all thread = some own) (stands : state.Stands own.who old) (moves : state.Moves own old next after wanted) :
    (∃ new, next = ⟨own.who, own.start, some old, some new⟩ ∧ (wanted = none → new = old) ∧ ∀ index, wanted = some index → new.1 = index) ∧
      AssociationInv after (Function.update all thread (some next)) := by
  cases wanted with
  | none =>
      obtain ⟨rfl, rfl⟩ := moves
      exact ⟨⟨old, rfl, fun _ => rfl, nofun⟩,
        association_placed own _ _ old inv mine inv.sound inv.bounded inv.anchored stands.1⟩
  | some index =>
      obtain ⟨below, serial, registry, opens, rfl, rfl⟩ := moves
      have bounded := opens_within (fun index => index < arenaIndexLimit) index serial below inv.bounded opens
      exact ⟨⟨(index, serial), rfl, nofun, fun _ same => Option.some.inj same⟩,
        association_placed own registry _ (index, serial) inv mine (opens_sound index serial inv.sound opens) bounded
          (anchored_opens index serial inv.anchored opens) (opens_live index serial opens)⟩

theorem association_registry (own : Whereabouts) (registry : Registry Nat) (inv : AssociationInv state all)
    (mine : all thread = some own) (sound : registry.Sound)
    (bounded : ∀ index serial, registry.live index = some serial → index < arenaIndexLimit)
    (anchored : Anchored registry state.pins) :
    AssociationInv { state with registry := registry } (Function.update all thread (some own)) :=
  association_goes_on own own inv mine rfl sound bounded anchored rfl (fun _ _ => rfl)
    (fun place stands => inv.here thread own place mine stands)
    fun unread place began => inv.still thread own place mine unread began

theorem association_control_keeps (own next : Whereabouts) (call : Mallctl) (response : MallctlResponse call)
    (inv : AssociationInv state all) (mine : all thread = some own)
    (controlled : associationControl meaning own state call response next after) :
    Told meaning own call response next ∧ AssociationInv after (Function.update all thread (some next)) := by
  have stays : AssociationInv state (Function.update all thread (some own)) :=
    association_registry own state.registry inv mine inv.sound inv.bounded inv.anchored
  simp only [associationControl] at controlled
  split at controlled
  case h_1 known =>
    rcases controlled with ⟨failed, rfl, rfl⟩ | ⟨_, old, reported, stands, moves⟩
    · exact ⟨.inl ⟨rfl, fun _ => failed⟩, stays⟩
    · obtain ⟨⟨new, told, kept, moved⟩, kept'⟩ := moves_keep own next old call.wanted inv mine stands moves
      refine ⟨.inr ⟨known, old, new, reported, inv.bounded old.1 old.2 stands.1, ?_, told, kept, moved⟩, kept'⟩
      intro unread place began
      exact stands.2 place (inv.still thread own place mine unread began)
  case h_2 known =>
    obtain ⟨rfl, changed⟩ := controlled
    refine ⟨.inl ⟨rfl, by simp [known]⟩, ?_⟩
    rcases changed with ⟨_, rfl⟩ | ⟨index, below, free, rfl⟩
    · exact stays
    · exact association_registry next _ inv mine (Registry.enroll_sound _ index inv.sound)
        (enroll_within (fun index => index < arenaIndexLimit) _ index below inv.bounded) (anchored_enroll inv.anchored index free)
  case h_3 index known =>
    obtain ⟨rfl, changed⟩ := controlled
    refine ⟨.inl ⟨rfl, by simp [known]⟩, ?_⟩
    rcases changed with ⟨_, rfl⟩ | ⟨serial, found, unpinned, rfl⟩
    · exact stays
    · exact association_registry next _ inv mine (Registry.retire_sound _ index serial inv.sound found)
        (retire_within (fun index => index < arenaIndexLimit) _ index serial inv.bounded) (anchored_retire inv.anchored index serial found unpinned)
  case h_4 other _ _ =>
    obtain ⟨rfl, rfl⟩ := controlled
    exact ⟨.inl ⟨rfl, fun known => absurd known other⟩, stays⟩

theorem association_enter (own : Whereabouts) (inv : AssociationInv state all) (drifts : state.Drifts after)
    (free : after.busy own.who = false) (unread : own.here = none) (began : own.start = after.pins own.who) :
    AssociationInv { after with busy := Function.update after.busy own.who true } (Function.update all thread (some own)) := by
  obtain ⟨registry, busy, anchored, kept⟩ := drifts
  have elsewhere : ∀ other found, all other = some found → found.who ≠ own.who := by
    intro other found present shared
    have inside := inv.busy other found present
    rw [shared, ← busy, free] at inside
    cases inside
  refine ⟨by rw [registry]; exact inv.sound, by rw [registry]; exact inv.bounded, anchored, ?_, ?_, ?_, ?_⟩
  · intro other found present
    rcases update_found all thread other own found present with ⟨_, rfl⟩ | ⟨_, present⟩
    · exact Function.update_self _ _ _
    · exact (Function.update_of_ne (elsewhere other found present) _ _).trans (by rw [busy]; exact inv.busy other found present)
  · intro first second one two left right shared
    rcases update_found all thread first own one left with ⟨isFirst, isOne⟩ | ⟨_, was⟩
    · rcases update_found all thread second own two right with ⟨isSecond, _⟩ | ⟨_, is⟩
      · exact isFirst.trans isSecond.symm
      · exact absurd (shared.symm.trans (congrArg Whereabouts.who isOne)) (elsewhere second two is)
    · rcases update_found all thread second own two right with ⟨_, isTwo⟩ | ⟨_, is⟩
      · exact absurd (shared.trans (congrArg Whereabouts.who isTwo)) (elsewhere first one was)
      · exact inv.alone first second one two was is shared
  · intro other found place present stands
    rcases update_found all thread other own found present with ⟨_, rfl⟩ | ⟨_, present⟩
    · rw [unread] at stands
      cases stands
    · exact kept _ place (inv.busy other found present) (inv.here other found place present stands)
  · intro other found place present still same
    rcases update_found all thread other own found present with ⟨_, rfl⟩ | ⟨_, present⟩
    · exact began.symm.trans same
    · exact kept _ place (inv.busy other found present) (inv.still other found place present still same)

theorem association_leave (own : Whereabouts) (inv : AssociationInv state all) (mine : all thread = some own) :
    AssociationInv { state with busy := Function.update state.busy own.who false } (Function.update all thread none) := by
  have others : ∀ other found, Function.update all thread none other = some found → other ≠ thread ∧ all other = some found := by
    intro other found present
    by_cases same : other = thread
    · subst other
      rw [Function.update_self] at present
      cases present
    · rw [Function.update_of_ne same] at present
      exact ⟨same, present⟩
  refine ⟨inv.sound, inv.bounded, inv.anchored, ?_, ?_, ?_, ?_⟩
  · intro other found present
    obtain ⟨different, present⟩ := others other found present
    have apart : found.who ≠ own.who := fun shared => different (inv.alone other thread found own present mine shared)
    exact (Function.update_of_ne apart _ _).trans (inv.busy other found present)
  · intro first second one two left right shared
    exact inv.alone first second one two (others first one left).2 (others second two right).2 shared
  · intro other found place present stands
    exact inv.here other found place (others other found present).2 stands
  · intro other found place present still same
    exact inv.still other found place (others other found present).2 still same

end Steps

section Obedience

variable (translation : String → Key) (meaning : List Nat → Option Control) (interprets : Interprets translation meaning)

def Learned {A : Type} (index : A → Nat) (wanted : Option Nat) (own : Whereabouts) : Except Error A → Prop
  | .error _ => own.here = none
  | .ok value => ∃ old new, own.here = some new ∧ old.1 = index value ∧ (∀ place, own.start = some place → old = place) ∧
      (wanted = none → new = old) ∧ ∀ index, wanted = some index → new.1 = index

theorem learned_read {A : Type} {index : A → Nat} {value : A} {state : Association} {all : Nat → Option Whereabouts}
    {thread : Nat} (own : Whereabouts) (inv : AssociationInv state all) (mine : all thread = some own)
    (learned : Learned index none own (.ok value)) : ∃ serial, state.pins own.who = some (index value, serial) := by
  obtain ⟨old, new, here, found, _, kept, _⟩ := learned
  refine ⟨new.2, ?_⟩
  rw [inv.here thread own new mine here, ← found, ← kept rfl]

theorem learned_moved {A : Type} {index : A → Nat} {id : Nat} {value : A} {state : Association}
    {all : Nat → Option Whereabouts} {thread : Nat} (own : Whereabouts) (inv : AssociationInv state all)
    (mine : all thread = some own) (learned : Learned index (some id) own (.ok value)) :
    (∃ serial, state.pins own.who = some (id, serial)) ∧ ∀ place, own.start = some place → place.1 = index value := by
  obtain ⟨old, new, here, found, began, _, moved⟩ := learned
  constructor
  · refine ⟨new.2, ?_⟩
    rw [inv.here thread own new mine here, ← moved id rfl]
  · intro place same
    rw [← began place same, found]

def associationReturns (api : ThreadCall) (own : Local Whereabouts) (value : api.Result) : Prop :=
  match api, value with
  | .arena .current, value => Learned Arena.index none own.ghost value
  | .arena (.setCurrent arena), value => Learned Arena.index (some arena.index) own.ghost value
  | .setArena id, value => Learned (fun index => index) (some id) own.ghost value
  | .arenaId, value => Learned (fun index => index) none own.ghost value
  | _, _ => True

theorem set_arena_obeys (api : ThreadCall) (id : Nat) (own : Local Whereabouts)
    (allowed : ∀ later : Local Whereabouts, later.ghost = own.ghost →
      (associationRule meaning api).pre later ⟨(translation Control.threadArena.name).val, .fresh .unsigned, some ⟨.unsigned, id⟩⟩) :
    Obeys (hosted translation linuxTarget (associationRule meaning api))
      (Reported translation (associationRule meaning api) .threadArena (some ⟨.unsigned, id⟩) usizeFrom own)
      (ThisThread.setArena id).run own := by
  rw [ThisThread.setArena]
  cases read : Arena.validatedIndex id with
  | error error => exact .inl ⟨rfl, error, rfl⟩
  | ok index =>
      obtain ⟨_, rfl⟩ := (arena_validated_index_iff _ _).mp read
      exact reported_obeys translation _ own _ .threadArena usizeFrom allowed

include interprets

theorem reported_learned {A : Type} (api : ThreadCall) (index : A → Nat) (check : Nat → Except Error A)
    (input : Option Input) (own next : Local Whereabouts) (value : Except Error A) (unread : own.ghost.here = none)
    (accepts : ∀ place, place < arenaIndexLimit → ∃ made, check place = .ok made ∧ index made = place)
    (asked : Reported translation (associationRule meaning api) .threadArena input check own next value) :
    Learned index (Mallctl.wanted ⟨(translation Control.threadArena.name).val, .fresh .unsigned, input⟩) next.ghost value := by
  rcases asked with ⟨ghost, error, rfl⟩ | ⟨response, told, rfl⟩
  · rw [Learned, ghost]
    exact unread
  · rcases told with ⟨same, failed⟩ | ⟨_, old, new, reported, below, began, same, kept, moved⟩
    · obtain ⟨error, refused⟩ := outcome_refused response (failed (interprets.known _))
      have answered : response.answer = .error error := refused
      rw [answered, same]
      exact unread
    · have answered := (answer_reported response old.1).mpr reported
      obtain ⟨made, accepted, back⟩ := accepts old.1 below
      have settled : (response.answer >>= check) = .ok made := by
        rw [answered]
        exact accepted
      rw [settled, same]
      exact ⟨old, new, rfl, back.symm, began unread, kept, moved⟩

theorem this_thread_aimed (chosen : ThisCall) (index : Nat) :
    Grants translation (associationRule meaning (.arena (.thisThread chosen)))
      (fun own => ∃ serial, own.here = some (index, serial)) index chosen.method.controls where
  pre own output input control known member := by
    intro other command means
    obtain ⟨rfl, rfl⟩ := Control.arena.inj (Option.some.inj ((interprets.known (.arena index control)).symm.trans means))
    exact ⟨member, known⟩
  post before output input control response after known member told := by
    rcases told with ⟨rfl, _⟩ | ⟨means, _⟩
    · exact known
    · cases (interprets.known (.arena index control)).symm.trans means

variable (code : List (Option (List UInt8)) → List UInt8 → Nat) (componentwise : Componentwise translation code)

include componentwise

theorem this_thread_pinned (chosen : ThisCall) (own : Local Whereabouts) :
    Obeys (hosted translation linuxTarget (associationRule meaning (.arena (.thisThread chosen)))) (fun _ _ => True) chosen.run.run own := by
  apply this_call_obeys translation code componentwise _ chosen (fun index own => ∃ serial, own.here = some (index, serial)) own
  · intro later _ index control means
    cases (interprets.known .threadArena).symm.trans means
  · intro response index after told answered
    rcases told with ⟨_, failed⟩ | ⟨_, old, new, reported, _, _, rfl, kept, _⟩
    · obtain ⟨error, refused⟩ := outcome_refused response (failed (interprets.known _))
      cases answered.symm.trans refused
    · have same := Option.some.inj (reported.symm.trans ((answer_reported response index).mp answered))
      rw [kept rfl, ← same]
      exact ⟨old.2, rfl⟩
  · intro index _
    exact this_thread_aimed translation meaning interprets chosen index

theorem association_obeys (api : ThreadCall) (own : Local Whereabouts) (unread : own.ghost.here = none) :
    Obeys (hosted translation linuxTarget (associationRule meaning api)) (associationReturns api) api.code own := by
  have accepts : ∀ place, place < arenaIndexLimit → ∃ made, borrowed place = .ok made ∧ made.index = place :=
    fun place below => ⟨⟨place, false⟩, (borrowed_iff place _).mpr ⟨below, rfl⟩, rfl⟩
  have fits : ∀ place, place < arenaIndexLimit → ∃ made, usizeFrom place = .ok made ∧ made = place :=
    fun place below => ⟨place, usize_from_below arenaIndexLimit place (by decide) below, rfl⟩
  cases api with
  | setArena id =>
      apply obeys_weaken _ _ _ _ own (set_arena_obeys translation meaning (.setArena id) id own fun _ _ => trivial)
      intro next value asked
      exact reported_learned translation meaning interprets _ _ _ _ own next value unread fits asked
  | arenaId =>
      apply obeys_weaken _ _ _ _ own (reported_obeys translation _ own none .threadArena usizeFrom fun _ _ => trivial)
      intro next value asked
      exact reported_learned translation meaning interprets _ _ _ _ own next value unread fits asked
  | arena call =>
      cases call with
      | current =>
          apply obeys_weaken _ _ _ _ own (current_obeys translation _ own fun _ _ => trivial)
          intro next value asked
          exact reported_learned translation meaning interprets _ _ _ _ own next value unread accepts asked
      | setCurrent arena =>
          apply obeys_weaken _ _ _ _ own (set_current_obeys translation _ own arena fun _ _ => trivial)
          intro next value asked
          exact reported_learned translation meaning interprets _ _ _ _ own next value unread accepts asked
      | thisThread chosen => exact this_thread_pinned translation meaning interprets code componentwise chosen own
      | create =>
          exact obeys_weaken _ _ _ _ own (create_obeys translation _ own fun _ _ => trivial) fun _ _ _ => trivial
      | createWithRawExtentHooks hooks =>
          exact obeys_weaken _ _ _ _ own (create_hooks_obeys translation _ own hooks fun _ _ => trivial) fun _ _ _ => trivial
      | fromIndex index => trivial
      | fromOwnedIndex index => trivial
      | lookup allocation =>
          exact obeys_weaken _ _ _ _ own (lookup_obeys translation _ own allocation fun _ _ => trivial) fun _ _ _ => trivial
      | intoIndex arena =>
          exact obeys_weaken _ _ _ _ own (into_index_obeys translation _ arena own) fun _ _ _ => trivial
      | method arena chosen =>
          have free : Grants translation (associationRule meaning (.arena (.method arena chosen))) (fun _ => True) arena.index
              chosen.controls := ⟨fun _ _ _ _ _ _ => trivial, fun _ _ _ _ _ _ _ _ _ => trivial⟩
          exact obeys_weaken _ _ _ _ own (method_obeys translation code componentwise _ arena chosen free own trivial)
            fun _ _ _ => trivial
      | tryDestroy arena =>
          exact obeys_weaken _ _ _ _ own (try_destroy_obeys translation code componentwise _ arena own fun _ _ _ => trivial)
            fun _ _ _ => trivial
      | drop arena =>
          exact obeys_weaken _ _ _ _ own (drop_obeys translation code componentwise _ arena own fun _ _ _ => trivial)
            fun _ _ _ => trivial
      | intoParts failure => trivial
      | dropError failure =>
          exact obeys_weaken _ _ _ _ own (drop_obeys translation code componentwise _ failure.arena own fun _ _ _ => trivial)
            fun _ _ _ => trivial
      | arenas chosen =>
          have free : Grants translation (associationRule meaning (.arena (.arenas chosen))) (fun _ => True) Arenas.allArenas
              chosen.controls := ⟨fun _ _ _ _ _ _ => trivial, fun _ _ _ _ _ _ _ _ _ => trivial⟩
          exact obeys_weaken _ _ _ _ own (arenas_call_obeys translation code componentwise _ chosen free own trivial)
            fun _ _ _ => trivial

theorem association_rules :
    Rules translation linuxTarget (associationSurroundings meaning) (associationRule meaning) associationReturns AssociationInv where
  start := by
    rintro state ⟨sound, bounded, anchored, idle⟩
    exact ⟨sound, bounded, anchored, nofun, nofun, nofun, nofun⟩
  enter := by
    rintro state all thread api view own after inv _ ⟨drifted, drifts, free, rfl, same, rfl⟩
    have unread : own.here = none := by rw [same]
    have began : own.start = drifted.pins own.who := by rw [same]
    exact ⟨association_enter own inv drifts free unread began,
      association_obeys translation meaning interprets code componentwise api _ unread⟩
  sized _ _ _ _ _ _ controlled := controlled.1
  control := by
    intro state all thread api own call response next after inv mine _ controlled
    exact association_control_keeps own.ghost next call response inv mine controlled.2
  leave := by
    rintro state all thread api own value after inv mine _ rfl
    exact association_leave own.ghost inv mine

abbrev AssociationConfig :=
  Config (Command Mallctl) (Command.Response MallctlResponse) (Local Whereabouts) (World Association) ThreadCall ThreadCall.Result

-- Every run of arena calls on any threads. A wrapper of the current thread
-- commands the live arena its thread is associated with at that instant, though
-- it asked for the index some steps earlier and holds no owner.
theorem thread_arena_pinned (config : AssociationConfig)
    (reached : Reachable (process translation (associationSurroundings meaning)) config) :
    Anchored config.world.state.registry config.world.state.pins ∧
    (∀ thread chosen own call resume,
      config.callers thread = some ⟨.arena (.thisThread chosen), own, .call (.control call) resume⟩ →
        ∀ index control, meaning call.mib = some (.arena index control) → control ∈ chosen.method.controls ∧
          ∃ serial, config.world.state.pins own.ghost.who = some (index, serial) ∧
            config.world.state.registry.live index = some serial) ∧
    (∀ thread own arena, config.callers thread = some ⟨.arena .current, own, .ret (.ok arena)⟩ →
      ∃ serial, config.world.state.pins own.ghost.who = some (arena.index, serial)) ∧
    (∀ thread own error place, config.callers thread = some ⟨.arena .current, own, .ret (.error error)⟩ →
      own.ghost.start = some place → config.world.state.pins own.ghost.who = some place) ∧
    (∀ thread own arena previous, config.callers thread = some ⟨.arena (.setCurrent arena), own, .ret (.ok previous)⟩ →
      (∃ serial, config.world.state.pins own.ghost.who = some (arena.index, serial)) ∧
        ∀ place, own.ghost.start = some place → place.1 = previous.index) ∧
    (∀ thread own arena error place, config.callers thread = some ⟨.arena (.setCurrent arena), own, .ret (.error error)⟩ →
      own.ghost.start = some place → config.world.state.pins own.ghost.who = some place) ∧
    (∀ thread own index, config.callers thread = some ⟨.arenaId, own, .ret (.ok index)⟩ →
      ∃ serial, config.world.state.pins own.ghost.who = some (index, serial)) ∧
    (∀ thread own error place, config.callers thread = some ⟨.arenaId, own, .ret (.error error)⟩ →
      own.ghost.start = some place → config.world.state.pins own.ghost.who = some place) ∧
    (∀ thread own id previous, config.callers thread = some ⟨.setArena id, own, .ret (.ok previous)⟩ →
      (∃ serial, config.world.state.pins own.ghost.who = some (id, serial)) ∧
        ∀ place, own.ghost.start = some place → place.1 = previous) ∧
    (∀ thread own id error place, config.callers thread = some ⟨.setArena id, own, .ret (.error error)⟩ →
      own.ghost.start = some place → config.world.state.pins own.ghost.who = some place) := by
  have discipline := process_discipline translation (associationSurroundings meaning) _ _ _
    (association_rules translation meaning interprets code componentwise)
  have inv := (discipline_invariant discipline config reached).2
  have returned := discipline_returned discipline config reached
  have ghost : ∀ thread caller, config.callers thread = some caller → ghosts (owns config) thread = some caller.own.ghost := by
    intro thread caller present
    rw [ghosts, owns, present]
    rfl
  refine ⟨inv.anchored, ?_, ?_, ?_, ?_, ?_, ?_, ?_, ?_, ?_⟩
  · intro thread chosen own call resume busy index control means
    obtain ⟨member, serial, here⟩ := discipline_pending discipline config reached thread _ own _ resume busy index control means
    have pinned := inv.here thread own.ghost (index, serial) (ghost thread _ busy) here
    exact ⟨member, serial, pinned, inv.anchored _ _ pinned⟩
  · intro thread own arena done
    exact learned_read own.ghost inv (ghost thread _ done) (returned thread _ own _ done)
  · intro thread own error place done began
    exact inv.still thread own.ghost place (ghost thread _ done) (returned thread _ own _ done) began
  · intro thread own arena previous done
    exact learned_moved own.ghost inv (ghost thread _ done) (returned thread _ own _ done)
  · intro thread own arena error place done began
    exact inv.still thread own.ghost place (ghost thread _ done) (returned thread _ own _ done) began
  · intro thread own index done
    have learned : Learned (fun index => index) none own.ghost (.ok index) := returned thread _ own _ done
    exact learned_read own.ghost inv (ghost thread _ done) learned
  · intro thread own error place done began
    exact inv.still thread own.ghost place (ghost thread _ done) (returned thread _ own _ done) began
  · intro thread own id previous done
    have learned : Learned (fun index => index) (some id) own.ghost (.ok previous) := returned thread _ own _ done
    exact learned_moved own.ghost inv (ghost thread _ done) learned
  · intro thread own id error place done began
    exact inv.still thread own.ghost place (ghost thread _ done) (returned thread _ own _ done) began

end Obedience

def askArena (key : Key) : Jem Nat := do
  let id ← Raw.get linuxTarget key .unsigned
  checked (usizeFrom id)

def purgeFound (index : Nat) : Jem Unit := do
  let arena ← checked (Arena.fromIndex index)
  ExceptT.mk do
    let result ← arena.purge.run
    arena.drop
    return result

theorem purge_asks :
    ThisThread.purge.run =
      Cache.get MallctlResponse Control.threadArena.name >>= fun found => resolved askArena found >>= ExceptT.bindCont purgeFound := by
  have begins : ThisThread.purge = ThisThread.arenaId >>= purgeFound := bind_assoc _ _ _
  have lookup : ThisThread.arenaId.run = _ := resolved_run Control.threadArena.name askArena
  rw [begins, ← bind_assoc, ← lookup]
  rfl

def purgeTold (key : Key) (response : MallctlResponse ⟨key.val, .fresh .unsigned, none⟩) :
    Ctl MallctlResponse (Except Error Unit) :=
  (response.settle linuxTarget >>= ExceptT.bindCont fun id => checked (usizeFrom id)) >>= ExceptT.bindCont purgeFound

theorem purge_goes_on (key : Key) :
    purgeTold key ⟨0, 4, (2 : Nat)⟩ = Cache.get MallctlResponse (Control.arena 0 .purge).name >>= fun found =>
      resolved (Arena.notify ⟨2, false⟩) found >>= .ret := by
  rw [← bind_assoc, ← resolved_run]
  rfl

theorem thread_arena_pinned_purge :
    ∃ (config : AssociationConfig) (own : Local Whereabouts) (call : Mallctl)
      (resume : MallctlResponse call → Ctl MallctlResponse (Except Error Unit)),
      config.callers 0 = some ⟨.arena (.thisThread .purge), own, .call (.control call) resume⟩ ∧ own.ghost.who = 3 ∧
        call.mib = arenaMib spelledKey 2 .purge ∧ ∃ serial, config.world.state.pins own.ghost.who = some (2, serial) ∧
          config.world.state.registry.live 2 = some serial := by
  let registry : Registry Nat := Registry.empty.enroll 2
  let pins : Nat → Option (Nat × Nat) := fun who => if who = 3 then some (2, 0) else none
  let inside : Association := ⟨registry, pins, Function.update (fun _ => false) 3 true⟩
  have anchored : Anchored registry pins := by
    intro who place stands
    by_cases three : who = 3
    · rw [show pins who = some (2, 0) from if_pos three] at stands
      obtain rfl := Option.some.inj stands
      rfl
    · rw [show pins who = none from if_neg three] at stands
      cases stands
  have bounded : ∀ index serial, registry.live index = some serial → index < arenaIndexLimit :=
    enroll_within (fun index => index < arenaIndexLimit) Registry.empty 2 (by decide) nofun
  have start : Reachable (process spelledKey (associationSurroundings spelledMeaning))
      ⟨⟨Weak.empty, ⟨registry, pins, fun _ => false⟩⟩, fun _ => none⟩ :=
    .start _ ⟨rfl, Registry.enroll_sound _ 2 Registry.empty_sound, bounded, anchored, rfl⟩
  have entered := reachable_enter _ _ ⟨Weak.empty, inside⟩ _ start 0 (ThreadCall.arena (.thisThread .purge))
    (Local.fresh (fun _ => 0) ⟨3, some (2, 0), none, none⟩) rfl
    ⟨_, _, rfl, rfl, ⟨registry, pins, fun _ => false⟩, ⟨rfl, rfl, anchored, fun _ _ _ same => same⟩, rfl, rfl, rfl, rfl⟩
  have begins : (process spelledKey (associationSurroundings spelledMeaning)).code (.arena (.thisThread .purge)) = _ := purge_asks
  rw [begins] at entered
  have resolves := process_resolves spelledKey (associationSurroundings spelledMeaning)
  obtain ⟨memory, cache, beside, _, asks⟩ := get_runs resolves Weak.empty inside _ 0
    (ThreadCall.arena (.thisThread .purge)) ⟨fun _ => 0, none, 0, 0⟩ ⟨3, some (2, 0), none, none⟩ Control.threadArena.name
    (spelled_translatable _ (by decide) (by decide) (by decide) (by decide)) rfl _ entered
  have stays : inside = { inside with pins := Function.update pins 3 (some (2, 0)) } :=
    congrArg (fun pins => ({ inside with pins := pins } : Association)) (Function.update_eq_self 3 pins).symm
  have asked : resolved askArena (.ok (spelledKey Control.threadArena.name)) >>= ExceptT.bindCont purgeFound =
      .call (.control ⟨(spelledKey Control.threadArena.name).val, .fresh .unsigned, none⟩)
        (purgeTold (spelledKey Control.threadArena.name)) := rfl
  rw [asked] at asks
  have read := reachable_exec _ _ ⟨memory, inside⟩ _ asks 0 (ThreadCall.arena (.thisThread .purge)) _
    ⟨cache, ⟨3, some (2, 0), some (2, 0), some (2, 0)⟩⟩
    (.control ⟨(spelledKey Control.threadArena.name).val, .fresh .unsigned, none⟩) _ ⟨0, 4, (2 : Nat)⟩ rfl
    ⟨rfl, rfl, fun _ => rfl, .inr ⟨rfl, (2, 0), rfl, ⟨rfl, fun _ same => Option.some.inj same⟩, rfl, stays⟩⟩
  rw [Function.update_idem, purge_goes_on] at read
  obtain ⟨later, view, _, _, found⟩ := get_runs resolves memory inside _ 0
    (ThreadCall.arena (.thisThread .purge)) cache ⟨3, some (2, 0), some (2, 0), some (2, 0)⟩ (Control.arena 0 .purge).name
    (spelled_translatable _ (by decide) (by decide) (by decide) (by decide)) (beside.flag _ (by decide)) _ read
  obtain ⟨key, placed, mib⟩ := substitute_placed spelledKey spelledCode spelled_componentwise 2 .purge
  let call : Mallctl := ⟨key.val, .none, none⟩
  let own : Local Whereabouts := ⟨view, ⟨3, some (2, 0), some (2, 0), some (2, 0)⟩⟩
  let resume : MallctlResponse call → Ctl MallctlResponse (Except Error Unit) := fun response => response.settle linuxTarget >>= .ret
  have issued : resolved (Arena.notify ⟨2, false⟩) (.ok (spelledKey (Control.arena 0 .purge).name)) >>= .ret =
      .call (.control call) resume := by
    rw [resolved, Arena.notify, Arena.select, placed]
    rfl
  rw [issued] at found
  let config : AssociationConfig := ⟨⟨later, inside⟩, Function.update (fun _ => none) 0
    (some ⟨.arena (.thisThread .purge), own, .call (.control call) resume⟩)⟩
  have pinned := thread_arena_pinned spelledKey spelledMeaning spelled_interprets spelledCode spelled_componentwise config found
  have means : spelledMeaning call.mib = some (.arena 2 .purge) :=
    (congrArg spelledMeaning mib).trans (spelled_interprets.known _)
  exact ⟨config, own, call, resume, rfl, rfl, mib, (pinned.2.1 0 .purge own call resume rfl 2 .purge means).2⟩

end Jevmalloc
