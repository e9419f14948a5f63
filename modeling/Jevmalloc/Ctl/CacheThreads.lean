import Jevmalloc.Ctl.Cache
import Jevmalloc.Interaction.Pool

set_option autoImplicit false

namespace Jevmalloc

open Interaction Bytes

abbrev NoControl (op : Empty) : Type := op.elim

section Threads

variable (translation : String → Key)

-- Any number of threads calling get. Every call starts out knowing nothing of
-- what other calls, its own thread's among them, have stored.
def cacheSystem :
    System (Command Empty) (Command.Response NoControl) CacheCall CacheMemory String fun _ => Except Error Key where
  code name := Cache.get NoControl name
  initial memory := memory = Weak.empty
  enter memory _ own after := own = ⟨fun _ => 0, none, 0, 0⟩ ∧ after = memory
  exec own memory
    | .cache command, response, next, after => cacheExec translation own memory command response next after
    | .panic, _, _, _ => False
  leave _ memory _ _ after := after = memory

def cacheProtocol : Protocol (Command Empty) (Command.Response NoControl) CacheCall where
  pre own
    | .cache command => cachePre translation own command ∧ ∀ name, command = .loadLen name → own.acquired = none
    | .panic => False
  post own
    | .cache command, response, next => cachePost translation own command response next
    | .panic, _, _ => False

theorem cache_hosts : Hosts translation (cacheProtocol translation) id (fun own => own.acquired = none) fun _ _ => True where
  refl _ := trivial
  trans _ _ _ _ _ := trivial
  pre _ _ allowed start := ⟨allowed, start⟩
  post _ _ _ _ relied := ⟨relied, trivial⟩

structure ThreadsInv (memory : CacheMemory) (all : Nat → Option CacheCall) : Prop where
  cache : CacheInv translation memory
  idle : ∀ thread own, all thread = some own → own.acquired ≠ some 0 → own.translations = 0 ∧ own.stores = 0

theorem threads_update (memory after : CacheMemory) (all : Nat → Option CacheCall) (thread : Nat) (own : Option CacheCall)
    (inv : ThreadsInv translation memory all) (cache : CacheInv translation after)
    (idle : ∀ call, own = some call → call.acquired ≠ some 0 → call.translations = 0 ∧ call.stores = 0) :
    ThreadsInv translation after (Function.update all thread own) := by
  refine ⟨cache, ?_⟩
  intro other call found
  by_cases same : other = thread
  · subst other
    exact idle call (by simpa using found)
  · exact inv.idle other call (by simpa [same] using found)

theorem cache_exec_idle (own next : CacheCall) (memory after : CacheMemory) (command : CacheCommand)
    (response : command.Response) (before : own.acquired ≠ some 0 → own.translations = 0 ∧ own.stores = 0)
    (allowed : cachePre translation own command) (start : ∀ name, command = .loadLen name → own.acquired = none)
    (executed : cacheExec translation own memory command response next after) :
    next.acquired ≠ some 0 → next.translations = 0 ∧ next.stores = 0 := by
  cases command with
  | loadLen name =>
      obtain ⟨⟨view, _, rfl⟩, _⟩ := executed
      intro _
      exact before (by simp [start name rfl])
  | loadSegment name slot =>
      obtain ⟨_, rfl, _⟩ := executed
      exact before
  | storeSegment name slot segment =>
      obtain ⟨rfl, _⟩ := executed
      exact fun published => absurd allowed.1 published
  | storeLen name len =>
      obtain ⟨rfl, _⟩ := executed
      exact fun published => absurd allowed.1 published
  | nametomib buffer capacity =>
      obtain ⟨_, rfl, _⟩ := executed
      exact fun published => absurd allowed published

theorem cache_discipline :
    Discipline (cacheSystem translation) (fun _ => cacheProtocol translation)
      (fun name own value => Fetched translation name ⟨fun _ => 0, none, 0, 0⟩ own value) (ThreadsInv translation) where
  start := by
    rintro memory rfl
    exact ⟨published_empty 0, by simp⟩
  enter := by
    intro memory all thread name own after inv idle entered
    obtain ⟨rfl, rfl⟩ := entered
    refine ⟨threads_update translation _ _ all thread _ inv inv.cache ?_, ?_⟩
    · intro call same _
      cases same
      exact ⟨rfl, rfl⟩
    · exact obeys_weaken _ _ _ _ _ (get_obeys translation (cache_hosts translation) name _ rfl) fun _ _ fetched => fetched.2
  exec := by
    intro memory all thread _ own command response next after inv busy allowed executed
    cases command with
    | cache command =>
        obtain ⟨relied, cache⟩ := cache_exec_keeps translation own next memory after command response inv.cache allowed.1 executed
        refine ⟨relied, threads_update translation _ _ all thread _ inv cache ?_⟩
        intro call same
        cases same
        exact cache_exec_idle translation own next memory after command response (inv.idle thread own busy) allowed.1
          allowed.2 executed
    | control op => exact op.elim
    | panic => exact allowed.elim
  leave := by
    intro memory all thread name own value after inv busy returned left
    obtain rfl : after = memory := left
    exact threads_update translation _ _ all thread _ inv inv.cache (by simp)

theorem cache_exec_length (own next : CacheCall) (memory after : CacheMemory) (command : CacheCommand)
    (response : command.Response) (allowed : cachePre translation own command)
    (executed : cacheExec translation own memory command response next after) (name : String) :
    after.current 0 name = memory.current 0 name ∨
      (after.current 0 name = (translation name).val.length ∧ 0 < after.current 0 name) := by
  cases command with
  | loadLen other =>
      obtain ⟨_, rfl⟩ := executed
      exact .inl rfl
  | loadSegment other slot =>
      obtain ⟨_, _, rfl⟩ := executed
      exact .inl rfl
  | storeSegment other slot segment =>
      obtain ⟨_, rfl⟩ := executed
      exact .inl rfl
  | storeLen other len =>
      obtain ⟨_, rfl⟩ := executed
      obtain ⟨_, announced, positive, _⟩ := allowed
      rw [current_release]
      by_cases same : name = other
      · subst other
        rw [if_pos rfl]
        exact .inr ⟨announced, positive⟩
      · rw [if_neg same]
        exact .inl rfl
  | nametomib buffer capacity =>
      obtain ⟨_, _, rfl⟩ := executed
      exact .inl rfl

abbrev CacheConfig := Config (Command Empty) (Command.Response NoControl) CacheCall CacheMemory String fun _ => Except Error Key

theorem length_step (before after : CacheConfig) (reached : Reachable (cacheSystem translation) before)
    (step : Step (cacheSystem translation) before after) (name : String) (published : before.world.current 0 name ≠ 0) :
    after.world.current 0 name = before.world.current 0 name := by
  have discipline := cache_discipline translation
  have inv := discipline_invariant discipline before reached
  cases step with
  | enter thread op own world idle entered =>
      obtain ⟨_, rfl⟩ := entered
      rfl
  | exec thread op own next world command resume response busy executed =>
      have allowed := discipline_pending discipline before reached thread op own command resume busy
      cases command with
      | cache command =>
          rcases cache_exec_length translation own next _ _ command response allowed.1 executed name with same | ⟨exact, _⟩
          · exact same
          · rcases published_current 0 inv.cache name with zero | ⟨already, _⟩
            · exact absurd zero published
            · exact exact.trans already.symm
      | control op => exact op.elim
      | panic => exact allowed.elim
  | leave thread op own value world done left =>
      obtain rfl : world = before.world := left
      rfl

theorem length_steps (before after : CacheConfig) (reached : Reachable (cacheSystem translation) before)
    (steps : Steps (cacheSystem translation) before after) (name : String) (published : before.world.current 0 name ≠ 0) :
    after.world.current 0 name = before.world.current 0 name := by
  induction steps with
  | refl => rfl
  | tail earlier step ih =>
      have between := reachable_steps _ _ _ reached earlier
      exact (length_step translation _ _ between step name (by rw [ih]; exact published)).trans ih

theorem cache_get_agrees (config : CacheConfig) (reached : Reachable (cacheSystem translation) config) :
    (∀ thread name own key, config.callers thread = some ⟨name, own, .ret (.ok key)⟩ → key = translation name) ∧
    (∀ name, config.world.current 0 name = 0 ∨
      (config.world.current 0 name = (translation name).val.length ∧ config.world.current 0 name ≠ 0)) ∧
    (∀ name later, Steps (cacheSystem translation) config later → config.world.current 0 name ≠ 0 →
      later.world.current 0 name = config.world.current 0 name) ∧
    (∀ thread name own program len, config.callers thread = some ⟨name, own, program⟩ → own.acquired = some len → len ≠ 0 →
      own.translations = 0 ∧ ∀ reason, program ≠ .ret (.error reason)) ∧
    (∀ thread name own reason, config.callers thread = some ⟨name, own, .ret (.error reason)⟩ → own.stores = 0) := by
  have discipline := cache_discipline translation
  have inv := discipline_invariant discipline config reached
  refine ⟨?_, published_current 0 inv.cache, ?_, ?_, ?_⟩
  · intro thread name own key done
    exact (discipline_returned discipline config reached thread name own _ done).2.1
  · intro name later steps published
    exact length_steps translation config later reached steps name published
  · intro thread name own program len busy acquired nonzero
    have other : own.acquired ≠ some 0 := by
      intro zero
      rw [acquired] at zero
      exact nonzero (Option.some.inj zero)
    refine ⟨(inv.idle thread own (by simp [owns, busy]) other).1, ?_⟩
    intro reason failed
    subst failed
    exact other (discipline_returned discipline config reached thread name own _ busy).2.2.1
  · intro thread name own reason done
    exact (discipline_returned discipline config reached thread name own _ done).2.2.2

end Threads

def epochKey (_ : String) : Key := ⟨[3], by decide⟩

def epochResponse : MibResponse keySegs := ⟨0, 1, [3], by decide⟩

theorem epoch_bytes : utf8 "epoch" = [101, 112, 111, 99, 104] := by decide
theorem epoch_components : components "epoch" = [[101, 112, 111, 99, 104]] := by decide

def epochBuffer : List UInt8 := [101, 112, 111, 99, 104] ++ List.replicate 123 0

theorem epoch_mibs :
    mibs NoControl "epoch" = .call (.cache (.nametomib epochBuffer keySegs)) fun response => .ret (accept 1 response) := by
  have buffer : copyPrefix (List.replicate nameMax 0) [101, 112, 111, 99, 104] = some epochBuffer := by
    rw [copyPrefix, List.length_replicate, if_pos (by decide), List.drop_replicate]
    rfl
  rw [mibs, epoch_bytes, epoch_components, if_neg (by decide), buffer]
  rfl

theorem epoch_translates (buffer : List UInt8) : Translates epochKey buffer epochResponse := by
  intro name _ key accepted
  obtain ⟨_, _, _, slots⟩ := (accept_ok_iff _ _ _).mp accepted
  exact Subtype.ext slots

theorem cache_get_agrees_epoch :
    ∃ (config : CacheConfig) (first second : CacheCall), Reachable (cacheSystem epochKey) config ∧
      config.callers 0 = some ⟨"epoch", first, .ret (.ok (epochKey "epoch"))⟩ ∧ first.translations = 1 ∧
      config.callers 1 = some ⟨"epoch", second, .ret (.ok (epochKey "epoch"))⟩ ∧ second.translations = 0 ∧
      config.world.current 0 "epoch" = 1 := by
  let system := cacheSystem epochKey
  have start : Reachable system ⟨Weak.empty, fun _ => none⟩ := .start _ rfl
  have entered := reachable_enter system _ _ _ start 0 "epoch" _ rfl ⟨rfl, rfl⟩
  have acquired := reachable_exec system _ _ _ entered 0 "epoch" _ _ (.cache (.loadLen "epoch")) _ (0 : Nat) rfl
    ⟨⟨_, .inl ⟨rfl, rfl, rfl⟩, rfl⟩, rfl⟩
  have translated := reachable_exec system _ _ _ acquired 0 "epoch" _ _ (.cache (.nametomib epochBuffer keySegs)) _
    epochResponse (by
      rw [Function.update_self]
      simp only [epoch_mibs, Program.ret_bind, Program.call_bind, gt_iff_lt]
      rfl) ⟨epoch_translates _, rfl, rfl⟩
  have stored := reachable_exec system _ _ _ translated 0 "epoch" _ _ (.cache (.storeSegment "epoch" 0 3)) _ () rfl ⟨rfl, rfl⟩
  have published := reachable_exec system _ _ _ stored 0 "epoch" _ _ (.cache (.storeLen "epoch" 1)) _ () rfl ⟨rfl, rfl⟩
  have joined := reachable_enter system _ _ _ published 1 "epoch" _ rfl ⟨rfl, rfl⟩
  have announced := reachable_exec system _ _ _ joined 1 "epoch" _ _ (.cache (.loadLen "epoch")) _ (1 : Nat) rfl
    ⟨⟨_, .inr ⟨0, _, Nat.zero_le _, rfl, rfl⟩, rfl⟩, rfl⟩
  have loaded := reachable_exec system _ _ _ announced 1 "epoch" _ _ (.cache (.loadSegment "epoch" 0)) _ (3 : Nat) rfl
    ⟨⟨1, by decide, rfl⟩, rfl, rfl⟩
  have agrees := cache_get_agrees epochKey _ loaded
  have second := (agrees.2.2.2.1 1 "epoch" _ _ 1 rfl rfl Nat.one_ne_zero).1
  exact ⟨_, _, _, loaded, rfl, rfl, rfl, second, (agrees.2.1 "epoch").resolve_left (by decide) |>.1⟩

end Jevmalloc
