import Jevmalloc.Ctl.Runs
import Jevmalloc.Thread.Cache

set_option autoImplicit false

namespace Jevmalloc

open Interaction Bytes

inductive ThreadCacheItem where
  | handle (cache : ThreadCache)
  | failed (failure : ThreadCacheDestroyError)

inductive ThreadCacheCall where
  | create
  | flush (cache : ThreadCache)
  | tryDestroy (cache : ThreadCache)
  | drop (cache : ThreadCache)
  | intoParts (failure : ThreadCacheDestroyError)
  | dropError (failure : ThreadCacheDestroyError)

namespace ThreadCacheCall

def Result : ThreadCacheCall → Type
  | .create => Except Error ThreadCache
  | .flush _ => Except Error Unit
  | .tryDestroy _ => Except ThreadCacheDestroyError Unit
  | .drop _ | .dropError _ => Unit
  | .intoParts _ => Error × ThreadCache

def code : (call : ThreadCacheCall) → Ctl MallctlResponse call.Result
  | .create => ThreadCache.create.run
  | .flush cache => cache.flush.run
  | .tryDestroy cache => cache.tryDestroy
  | .drop cache => cache.drop
  | .intoParts failure => .ret failure.intoParts
  | .dropError failure => failure.drop

def takes : ThreadCacheCall → Option ThreadCacheItem
  | .create => none
  | .flush cache | .tryDestroy cache | .drop cache => some (.handle cache)
  | .intoParts failure | .dropError failure => some (.failed failure)

def leaves : (call : ThreadCacheCall) → call.Result → Option ThreadCacheItem
  | .create, .ok cache => some (.handle cache)
  | .flush cache, _ => some (.handle cache)
  | .tryDestroy _, .error failure => some (.failed failure)
  | .intoParts _, parts => some (.handle parts.2)
  | _, _ => none

end ThreadCacheCall

def cacheTrade : Trade ThreadCacheItem ThreadCacheCall ThreadCacheCall.Result := ⟨ThreadCacheCall.takes, fun _ => none, ThreadCacheCall.leaves⟩

section Lifecycle

variable (translation : String → Key) (meaning : List Nat → Option Control)

def tcacheKind (call : Mallctl) : Kind :=
  match meaning call.mib, call.input with
  | some .tcacheCreate, none => .create
  | some .tcacheFlush, some ⟨.unsigned, index⟩ => .command index
  | some .tcacheDestroy, some ⟨.unsigned, index⟩ => .destroy index
  | _, _ => .other

abbrev cacheSurroundings : Surroundings (Store ThreadCacheItem) Tenure ThreadCacheCall ThreadCacheCall.Result :=
  lifecycleSurroundings tcacheIndexLimit (tcacheKind meaning) cacheTrade ThreadCacheCall.code

def Resolved (view : CacheView) : Prop :=
  ∀ control ∈ [Control.tcacheCreate, .tcacheFlush, .tcacheDestroy], 1 ≤ view (.inr control.name)

def Possesses (cache : ThreadCache) (view : CacheView) (token : Option (Nat × Nat)) : Prop :=
  cache.owned = true ∧ cache.index < tcacheIndexLimit ∧ (∃ serial, token = some (cache.index, serial)) ∧ Resolved view

def cacheAgrees (item : Shelved ThreadCacheItem) : Prop :=
  match item.content with
  | some (.handle cache) => Possesses cache item.view item.token
  | some (.failed failure) => Possesses failure.cache item.view item.token
  | none => True

def cacheExtra (own : Local Tenure) (call : Mallctl) : Prop := tcacheKind meaning call = .create → Resolved own.cache.view

abbrev cacheRule : Rule Tenure := lifecycleRule tcacheIndexLimit (tcacheKind meaning) (cacheExtra meaning)

def cacheReturns (api : ThreadCacheCall) (own : Local Tenure) (value : api.Result) : Prop :=
  match api, value with
  | .create, .ok cache => own.ghost.issued = [.create] ∧ Possesses cache own.cache.view own.ghost.token
  | .create, .error _ =>
      (own.ghost.issued = [] ∧ ¬Resolved own.cache.view) ∨ (own.ghost.issued = [.create] ∧ Resolved own.cache.view)
  | .flush cache, _ => own.ghost.issued = [.command cache.index]
  | .tryDestroy cache, .ok () => own.ghost = ⟨none, [.destroy cache.index], true⟩
  | .tryDestroy cache, .error failure =>
      own.ghost.issued = [.destroy cache.index] ∧ failure.cache = cache ∧
        Possesses failure.cache own.cache.view own.ghost.token
  | .drop cache, _ => own.ghost.issued = [.destroy cache.index]
  | .intoParts failure, parts => own.ghost.issued = [] ∧ parts.2 = failure.cache
  | .dropError failure, _ => own.ghost.issued = [.destroy failure.cache.index]

theorem resolved_grows (before after : CacheView) (grows : before ≤ after) (resolved : Resolved before) : Resolved after :=
  fun control member => le_trans (resolved control member) (grows (.inr control.name))

variable (interprets : Interprets translation meaning)

include interprets

theorem kind_create (output : Output) :
    tcacheKind meaning ⟨(translation Control.tcacheCreate.name).val, output, none⟩ = .create := by
  rw [tcacheKind, interprets.known]

theorem kind_flush (output : Output) (index : Nat) :
    tcacheKind meaning ⟨(translation Control.tcacheFlush.name).val, output, some ⟨.unsigned, index⟩⟩ = .command index := by
  rw [tcacheKind, interprets.known]

theorem kind_destroy (output : Output) (index : Nat) :
    tcacheKind meaning ⟨(translation Control.tcacheDestroy.name).val, output, some ⟨.unsigned, index⟩⟩ = .destroy index := by
  rw [tcacheKind, interprets.known]

omit interprets in
theorem create_unresolved (control : Control) (member : control ∈ [Control.tcacheCreate, .tcacheFlush, .tcacheDestroy])
    (own later : Local Tenure) (start : own.ghost = .start none) (error : Error) (same : later.ghost = own.ghost)
    (failed : Fetched translation control.name own.cache later.cache (.error error)) :
    cacheAgrees ⟨none, later.cache.view, later.ghost.token⟩ ∧ cacheReturns .create later (.error error) := by
  obtain ⟨view, unseen, _⟩ := failed
  refine ⟨trivial, .inl ⟨by rw [same, start]; rfl, ?_⟩⟩
  intro resolved
  have known := resolved control member
  rw [view, unseen] at known
  exact absurd known (Nat.not_succ_le_zero 0)

omit interprets in
theorem created_handle (index : Nat) (below : index < tcacheIndexLimit) :
    (do
      let index ← checked (usizeFrom index)
      let _ ← checked (ThreadCache.validatedIndex index)
      return ⟨index, true⟩ : Jem ThreadCache) = pure ⟨index, true⟩ := by
  rw [usize_from_below tcacheIndexLimit index (by decide) below]
  change (checked (ThreadCache.validatedIndex index) >>= fun _ => pure ⟨index, true⟩) = (pure ⟨index, true⟩ : Jem ThreadCache)
  rw [(tcache_validated_index_iff index index).mpr ⟨below, rfl⟩]
  rfl

theorem create_call_obeys (own : Local Tenure) (start : own.ghost = .start none) :
    Obeys (hosted translation linuxTarget (cacheRule meaning))
      (fun own value => cacheAgrees ⟨ThreadCacheCall.leaves .create value, own.cache.view, own.ghost.token⟩ ∧
        cacheReturns .create own value)
      ThreadCache.create.run own := by
  apply obeys_attempt _ _ _ _ _ own (key_obeys translation _ Control.tcacheCreate.name own)
  · intro later error failed
    exact create_unresolved translation .tcacheCreate (by simp) own later start error failed.1 failed.2
  intro first key found
  obtain ⟨firstGhost, firstGrows, rfl, _, created⟩ := found
  rw [← firstGhost] at start
  apply obeys_attempt _ _ _ _ _ first (key_obeys translation _ Control.tcacheFlush.name first)
  · intro later error failed
    exact create_unresolved translation .tcacheFlush (by simp) first later start error failed.1 failed.2
  intro second key found
  obtain ⟨secondGhost, secondGrows, _, _, flushed⟩ := found
  rw [← secondGhost] at start
  apply obeys_attempt _ _ _ _ _ second (key_obeys translation _ Control.tcacheDestroy.name second)
  · intro later error failed
    exact create_unresolved translation .tcacheDestroy (by simp) second later start error failed.1 failed.2
  intro third key found
  obtain ⟨thirdGhost, thirdGrows, _, _, destroyed⟩ := found
  rw [← thirdGhost] at start
  -- A view only grows, so what the first two lookups saw is still known.
  have resolved : Resolved third.cache.view := by
    simp only [Resolved, List.forall_mem_cons, List.not_mem_nil, false_imp_iff, implies_true, and_true]
    exact ⟨le_trans created (le_trans (secondGrows _) (thirdGrows _)), le_trans flushed (thirdGrows _), destroyed⟩
  have known := kind_create translation meaning interprets (.fresh .unsigned)
  have allowed : (cacheRule meaning).pre third ⟨(translation Control.tcacheCreate.name).val, .fresh .unsigned, none⟩ :=
    pre_create _ _ _ third _ (by rw [start]; rfl) (fun _ => resolved) known (by rw [start]; rfl)
  apply obeys_attempt _ _ _ _ _ third (mallctl_obeys translation _ (translation Control.tcacheCreate.name) (.fresh .unsigned) none
    third allowed)
  · intro last error called
    obtain ⟨response, view, recorded, outcome⟩ := called
    rw [← view] at resolved
    cases create_settles known recorded with
    | inl refused =>
        obtain ⟨_, _, ghost⟩ := refused
        exact ⟨trivial, .inr ⟨by rw [ghost, start]; rfl, resolved⟩⟩
    | inr succeeded =>
        obtain ⟨index, _, answered, _⟩ := succeeded
        cases outcome.trans answered
  · intro last index called
    obtain ⟨response, view, recorded, outcome⟩ := called
    rw [← view] at resolved
    cases create_settles known recorded with
    | inl refused =>
        obtain ⟨error, answered, _⟩ := refused
        cases outcome.trans answered
    | inr succeeded =>
        obtain ⟨granted, serial, answered, below, ghost⟩ := succeeded
        obtain rfl : index = granted := Except.ok.inj (outcome.trans answered)
        rw [created_handle index below]
        have token : last.ghost.token = some (index, serial) := congrArg Tenure.token ghost
        exact ⟨⟨rfl, below, ⟨serial, token⟩, resolved⟩, by rw [ghost, start]; rfl, rfl, below, ⟨serial, token⟩, resolved⟩

variable {cache : ThreadCache}

theorem possessed_flush (own : Local Tenure) (possesses : Possesses cache own.cache.view own.ghost.token)
    (start : own.ghost = .start own.ghost.token) :
    Obeys (hosted translation linuxTarget (cacheRule meaning))
      (fun next _ => Possesses cache next.cache.view next.ghost.token ∧ next.ghost.issued = [.command cache.index])
      cache.flush.run own := by
  obtain ⟨owned, below, ⟨serial, token⟩, resolved⟩ := possesses
  have known := kind_flush translation meaning interprets .none cache.index
  apply obeys_weaken _ _ _ _ own (command_obeys translation _ .tcacheFlush cache.index below own fun later same =>
    pre_command _ _ _ later _ (by rw [same, start]; rfl) (by simp [cacheExtra, known]) cache.index serial (.inl known)
      (by rw [same, token]))
  intro next value called
  cases called with
  | inl unresolved =>
      have seen := resolved .tcacheFlush (by simp)
      rw [unresolved.2.2.1] at seen
      exact absurd seen (Nat.not_succ_le_zero 0)
  | inr issued =>
      obtain ⟨grows, response, recorded, _⟩ := issued
      rw [post_command cache.index known recorded, start]
      exact ⟨⟨owned, below, ⟨serial, token⟩, resolved_grows _ _ grows resolved⟩, rfl⟩

theorem destroy_allowed (own : Local Tenure) (possesses : Possesses cache own.cache.view own.ghost.token)
    (start : own.ghost = .start own.ghost.token) (later : Local Tenure) (same : later.ghost = own.ghost) :
    (cacheRule meaning).pre later
      ⟨(translation Control.tcacheDestroy.name).val, .none, some ⟨.unsigned, cache.index⟩⟩ := by
  obtain ⟨_, _, ⟨serial, token⟩, _⟩ := possesses
  have known := kind_destroy translation meaning interprets .none cache.index
  exact pre_command _ _ _ later _ (by rw [same, start]; rfl) (by simp [cacheExtra, known]) cache.index serial (.inr known)
    (by rw [same, token])

theorem destroy_settled (own next : Local Tenure) (possesses : Possesses cache own.cache.view own.ghost.token)
    (start : own.ghost = .start own.ghost.token) (result : Except Error Unit)
    (called : Controlled (cacheRule meaning) Control.tcacheDestroy.name
      ⟨(translation Control.tcacheDestroy.name).val, .none, some ⟨.unsigned, cache.index⟩⟩ own next result) :
    (result = .ok () ∧ next.ghost = ⟨none, [.destroy cache.index], true⟩) ∨
    ∃ error, result = .error error ∧ next.ghost.issued = [.destroy cache.index] ∧
      Possesses cache next.cache.view next.ghost.token := by
  obtain ⟨owned, below, ⟨serial, token⟩, resolved⟩ := possesses
  have known := kind_destroy translation meaning interprets .none cache.index
  cases called with
  | inl unresolved =>
      have seen := resolved .tcacheDestroy (by simp)
      rw [unresolved.2.2.1] at seen
      exact absurd seen (Nat.not_succ_le_zero 0)
  | inr issued =>
      obtain ⟨grows, response, recorded, outcome⟩ := issued
      cases destroy_settles cache.index known recorded with
      | inl succeeded =>
          obtain ⟨_, answered, ghost⟩ := succeeded
          rw [ghost, start]
          exact .inl ⟨outcome.trans answered, rfl⟩
      | inr refused =>
          obtain ⟨error, answered, ghost⟩ := refused
          rw [ghost, start]
          exact .inr ⟨error, outcome.trans answered, rfl, owned, below, ⟨serial, token⟩, resolved_grows _ _ grows resolved⟩

theorem possessed_drop (own : Local Tenure) (possesses : Possesses cache own.cache.view own.ghost.token)
    (start : own.ghost = .start own.ghost.token) :
    Obeys (hosted translation linuxTarget (cacheRule meaning)) (fun next _ => next.ghost.issued = [.destroy cache.index]) cache.drop own := by
  apply obeys_weaken _ _ _ _ own (cache_drop_obeys translation _ cache possesses.1 possesses.2.1 own
    (destroy_allowed translation meaning interprets own possesses start))
  intro next value dropped
  obtain ⟨result, called⟩ := dropped
  cases destroy_settled translation meaning interprets own next possesses start result called with
  | inl succeeded => exact congrArg Tenure.issued succeeded.2
  | inr refused =>
      obtain ⟨_, _, issued, _⟩ := refused
      exact issued

theorem possessed_try_destroy (own : Local Tenure) (possesses : Possesses cache own.cache.view own.ghost.token)
    (start : own.ghost = .start own.ghost.token) :
    Obeys (hosted translation linuxTarget (cacheRule meaning))
      (fun next value => cacheAgrees ⟨ThreadCacheCall.leaves (.tryDestroy cache) value, next.cache.view, next.ghost.token⟩ ∧
        cacheReturns (.tryDestroy cache) next value)
      cache.tryDestroy own := by
  apply obeys_weaken _ _ _ _ own (cache_try_destroy_obeys translation _ cache possesses.1 possesses.2.1 own
    (destroy_allowed translation meaning interprets own possesses start))
  intro next value tried
  obtain ⟨result, called, rfl⟩ := tried
  cases destroy_settled translation meaning interprets own next possesses start result called with
  | inl succeeded =>
      obtain ⟨rfl, ghost⟩ := succeeded
      exact ⟨trivial, ghost⟩
  | inr refused =>
      obtain ⟨error, rfl, issued, still⟩ := refused
      exact ⟨still, issued, rfl, still⟩

theorem thread_cache_obeys (api : ThreadCacheCall) (view : CacheView) (token : Option (Nat × Nat))
    (starts : Starts cacheTrade cacheAgrees api view token) :
    Obeys (hosted translation linuxTarget (cacheRule meaning))
      (fun own value => cacheAgrees ⟨cacheTrade.leaves api value, own.cache.view, own.ghost.token⟩ ∧ cacheReturns api own value)
      api.code (Local.fresh view (.start token)) := by
  cases api with
  | create =>
      obtain ⟨rfl, _⟩ := starts
      exact create_call_obeys translation meaning interprets _ rfl
  | flush cache => exact possessed_flush translation meaning interprets (Local.fresh view (.start token)) starts rfl
  | tryDestroy cache =>
      exact possessed_try_destroy translation meaning interprets (Local.fresh view (.start token)) starts rfl
  | drop cache =>
      apply obeys_weaken _ _ _ _ _ (possessed_drop translation meaning interprets (Local.fresh view (.start token)) starts rfl)
      intro next value issued
      exact ⟨trivial, issued⟩
  | intoParts failure => exact ⟨starts, rfl, rfl⟩
  | dropError failure =>
      apply obeys_weaken _ _ _ _ _ (possessed_drop translation meaning interprets (Local.fresh view (.start token)) starts rfl)
      intro next value issued
      exact ⟨trivial, issued⟩

theorem thread_cache_rules :
    Rules translation linuxTarget (cacheSurroundings meaning) (fun _ => cacheRule meaning)
      (fun api own value => cacheAgrees ⟨cacheTrade.leaves api value, own.cache.view, own.ghost.token⟩ ∧ cacheReturns api own value)
      (LifecycleInv cacheAgrees) :=
  lifecycle_rules translation tcacheIndexLimit (tcacheKind meaning) cacheTrade ThreadCacheCall.code (fun _ => cacheExtra meaning)
    cacheAgrees cacheReturns (thread_cache_obeys translation meaning interprets)

abbrev ThreadCacheConfig := Config (Command Mallctl) (Command.Response MallctlResponse) (Local Tenure) (World (Store ThreadCacheItem))
  ThreadCacheCall ThreadCacheCall.Result

theorem thread_cache_lifecycle (config : ThreadCacheConfig) (reached : Reachable (process translation (cacheSurroundings meaning)) config) :
    (∀ thread own error, config.callers thread = some ⟨.create, own, .ret (.error error)⟩ →
      (own.ghost.issued = [] ∧ ¬Resolved own.cache.view) ∨ (own.ghost.issued = [.create] ∧ Resolved own.cache.view)) ∧
    (∀ thread api own call resume, config.callers thread = some ⟨api, own, .call (.control call) resume⟩ →
      tcacheKind meaning call = .create → Resolved own.cache.view) ∧
    (∀ thread own cache, config.callers thread = some ⟨.create, own, .ret (.ok cache)⟩ →
      own.ghost.issued = [.create] ∧ Possesses cache own.cache.view own.ghost.token) ∧
    (∀ thread own cache value, config.callers thread = some ⟨.flush cache, own, .ret value⟩ →
      own.ghost.issued = [.command cache.index]) ∧
    (∀ thread own cache value, config.callers thread = some ⟨.tryDestroy cache, own, .ret value⟩ →
      own.ghost.issued = [.destroy cache.index] ∧ ∀ failure, value = .error failure →
        failure.cache = cache ∧ Possesses failure.cache own.cache.view own.ghost.token) ∧
    (∀ thread own cache, config.callers thread = some ⟨.drop cache, own, .ret ()⟩ → own.ghost.issued = [.destroy cache.index]) ∧
    (∀ thread own failure, config.callers thread = some ⟨.dropError failure, own, .ret ()⟩ →
      own.ghost.issued = [.destroy failure.cache.index]) ∧
    (∀ thread api own call resume, config.callers thread = some ⟨api, own, .call (.control call) resume⟩ →
      own.ghost.ended = false ∧ ∀ index, tcacheKind meaning call = .command index ∨ tcacheKind meaning call = .destroy index →
        ∃ serial, own.ghost.token = some (index, serial) ∧ config.world.state.registry.live index = some serial ∧
          serial ∉ config.world.state.registry.ended ∧ ∀ holder other,
            config.world.state.held (ghosts (owns config)) holder = some (index, other) → holder = .inl thread) ∧
    config.world.state.registry.ended.Nodup ∧
    (∀ slot item, config.world.state.shelf slot = some item → cacheAgrees item) := by
  have discipline := process_discipline translation (cacheSurroundings meaning) _ _ _
    (thread_cache_rules translation meaning interprets)
  have inv := (discipline_invariant discipline config reached).2
  have pending := discipline_pending discipline config reached
  have returned := discipline_returned discipline config reached
  refine ⟨?_, ?_, ?_, ?_, ?_, ?_, ?_, ?_, inv.sound.once, inv.shelf⟩
  · intro thread own error done
    exact (returned thread .create own _ done).2
  · intro thread api own call resume busy
    exact (pending thread api own (.control call) resume busy).2.1
  · intro thread own cache done
    exact (returned thread .create own _ done).2
  · intro thread own cache value done
    exact (returned thread (.flush cache) own value done).2
  · intro thread own cache value done
    have after := (returned thread (.tryDestroy cache) own value done).2
    cases value with
    | ok value => exact ⟨congrArg Tenure.issued after, nofun⟩
    | error failure =>
        refine ⟨after.1, ?_⟩
        intro other same
        cases same
        exact after.2
  · intro thread own cache done
    exact (returned thread (.drop cache) own () done).2
  · intro thread own failure done
    exact (returned thread (.dropError failure) own () done).2
  · intro thread api own call resume busy
    have allowed := pending thread api own (.control call) resume busy
    refine ⟨allowed.1, ?_⟩
    intro index known
    exact pending_owner tcacheIndexLimit (tcacheKind meaning) (cacheExtra meaning) own call index inv
      (by simp [ghosts, owns, busy]) allowed known

end Lifecycle

def createTail (create _destroy : Key) : Jem ThreadCache := do
  let index ← Raw.get linuxTarget create .unsigned
  let index ← checked (usizeFrom index)
  let _ ← checked (ThreadCache.validatedIndex index)
  return ⟨index, true⟩

theorem create_lookups : ThreadCache.create.run =
    Cache.get MallctlResponse Control.tcacheCreate.name >>= resolved fun create =>
      defineKey Control.tcacheFlush.name >>= fun _ => defineKey Control.tcacheDestroy.name >>= createTail create :=
  resolved_run _ _

abbrev spelledCaches := process spelledKey (cacheSurroundings spelledMeaning)

theorem looked_up {α β : Type} (name : String) (next : Key → Jem α) (rest : Except Error α → Ctl MallctlResponse β) :
    (defineKey name >>= next).run >>= rest = Cache.get MallctlResponse name >>= fun found => resolved next found >>= rest := by
  rw [resolved_run, bind_assoc]

-- The three lookups of create are made against jemalloc; what follows finds
-- the two later keys in the caches.
theorem create_reaches_control :
    ∃ memory cache, Stocked spelledKey memory cache.view Control.tcacheFlush.name ∧
      Stocked spelledKey memory cache.view Control.tcacheDestroy.name ∧
      Reachable spelledCaches ⟨⟨memory, ⟨.empty, fun _ => none⟩⟩, Function.update (fun _ => none) 0
        (some ⟨.create, ⟨cache, .start none⟩, (createTail (spelledKey Control.tcacheCreate.name)
          (spelledKey Control.tcacheDestroy.name)).run⟩)⟩ := by
  have start : Reachable spelledCaches ⟨⟨Weak.empty, ⟨.empty, fun _ => none⟩⟩, fun _ => none⟩ := .start _ ⟨rfl, rfl⟩
  have entered := reachable_enter _ _ ⟨Weak.empty, ⟨.empty, fun _ => none⟩⟩ _ start 0 ThreadCacheCall.create
    (Local.fresh (fun _ => 0) (.start none)) rfl ⟨_, _, rfl, rfl, rfl, rfl, rfl, nofun⟩
  have begins : spelledCaches.code ThreadCacheCall.create = _ := create_lookups
  rw [begins] at entered
  have resolves := process_resolves spelledKey (cacheSurroundings spelledMeaning)
  obtain ⟨memory, cache, first, _, found⟩ := get_runs resolves Weak.empty _ _ 0
    ThreadCacheCall.create ⟨fun _ => 0, none, 0, 0⟩ (.start none) Control.tcacheCreate.name
    (spelled_translatable _ (by decide) (by decide) (by decide) (by decide)) rfl _ entered
  have second : resolved (fun create => defineKey Control.tcacheFlush.name >>= fun _ =>
        defineKey Control.tcacheDestroy.name >>= createTail create) (.ok (spelledKey Control.tcacheCreate.name)) =
      Cache.get MallctlResponse Control.tcacheFlush.name >>= resolved fun _ =>
        defineKey Control.tcacheDestroy.name >>= createTail (spelledKey Control.tcacheCreate.name) := resolved_run _ _
  rw [second] at found
  obtain ⟨after, later, filled, flushed, found⟩ := get_runs resolves memory _ _ 0
    ThreadCacheCall.create cache (.start none) Control.tcacheFlush.name
    (spelled_translatable _ (by decide) (by decide) (by decide) (by decide)) (first.flag _ (by decide)) _ found
  have third : resolved (fun _ => defineKey Control.tcacheDestroy.name >>=
        createTail (spelledKey Control.tcacheCreate.name)) (.ok (spelledKey Control.tcacheFlush.name)) =
      Cache.get MallctlResponse Control.tcacheDestroy.name >>=
        resolved (createTail (spelledKey Control.tcacheCreate.name)) := resolved_run _ _
  rw [third] at found
  obtain ⟨final, last, completed, destroyed, found⟩ := get_runs resolves after _ _ 0
    ThreadCacheCall.create later (.start none) Control.tcacheDestroy.name
    (spelled_translatable _ (by decide) (by decide) (by decide) (by decide))
    ((filled.flag _ (by decide)).trans (first.flag _ (by decide))) _ found
  -- The caller began with an empty view, so no cell it has seen is missing.
  have empty : ∀ name slot, name ≠ Control.tcacheCreate.name → cache.view (.inl (name, slot)) = 0 :=
    fun name slot different => first.cell name slot different
  have behind : ∀ slot, later.view (.inl (Control.tcacheDestroy.name, slot)) = 0 :=
    fun slot => (filled.cell _ slot (by decide)).trans (empty _ slot (by decide))
  refine ⟨final, last, ?_, ?_, found⟩
  · apply stocked_beside completed (by decide)
    exact flushed fun slot => by rw [empty _ slot (by decide)]; exact Nat.zero_le _
  · exact destroyed fun slot => by rw [behind slot]; exact Nat.zero_le _

section Rested

variable (memory : CacheMemory) (registry : Registry Nat)

abbrev rested (item : Shelved ThreadCacheItem) : ThreadCacheConfig :=
  ⟨⟨memory, ⟨registry, Function.update (fun _ => none) 0 (some item)⟩⟩, fun _ => none⟩

abbrev running (caller : Caller (Command Mallctl) (Command.Response MallctlResponse) (Local Tenure) ThreadCacheCall ThreadCacheCall.Result) :
    ThreadCacheConfig := ⟨⟨memory, ⟨registry, fun _ => none⟩⟩, Function.update (fun _ => none) 0 (some caller)⟩

theorem item_rests (api : ThreadCacheCall) (own : Local Tenure) (value : api.Result)
    (reached : Reachable spelledCaches (running memory registry ⟨api, own, .ret value⟩)) :
    Reachable spelledCaches (rested memory registry ⟨api.leaves value, own.cache.view, own.ghost.token⟩) := by
  have left := reachable_leave _ _ ⟨memory, ⟨registry, Function.update (fun _ => none) 0
    (some ⟨api.leaves value, own.cache.view, own.ghost.token⟩)⟩⟩ _ reached 0 api own value rfl ⟨rfl, 0, rfl, rfl⟩
  rwa [Function.update_idem, Function.update_eq_self_iff.mpr rfl] at left

theorem item_runs (api : ThreadCacheCall) (content : ThreadCacheItem) (view : CacheView) (token : Option (Nat × Nat))
    (takes : api.takes = some content) (name : String) (next : Except Error Key → Ctl MallctlResponse api.Result)
    (begins : api.code = Cache.get MallctlResponse name >>= next) (stocked : Stocked spelledKey memory view name)
    (reached : Reachable spelledCaches (rested memory registry ⟨some content, view, token⟩)) :
    ∃ cache, cache.view = view ∧
      Reachable spelledCaches (running memory registry ⟨api, ⟨cache, .start token⟩, next (.ok (spelledKey name))⟩) := by
  have shelf : Function.update (Function.update (fun _ => none) 0 (some ⟨some content, view, token⟩)) 0 none =
      fun _ : Nat => (none : Option (Shelved ThreadCacheItem)) := by
    rw [Function.update_idem, Function.update_eq_self_iff.mpr rfl]
  have taken : (⟨registry, Function.update (fun _ => none) 0 (some ⟨some content, view, token⟩)⟩ :
      Store ThreadCacheItem).Taken content view (.start token) ⟨registry, fun _ => none⟩ :=
    ⟨0, ⟨some content, view, token⟩, rfl, rfl, rfl, rfl, by rw [shelf]⟩
  have enters : (cacheSurroundings spelledMeaning).enter ⟨registry, Function.update (fun _ => none) 0 (some ⟨some content, view, token⟩)⟩
      api view (.start token) ⟨registry, fun _ => none⟩ := by
    simp only [lifecycleSurroundings, cacheTrade, takes]
    exact taken
  have entered := reachable_enter _ _ ⟨memory, ⟨registry, fun _ => none⟩⟩ _ reached 0 api (Local.fresh view (.start token)) rfl
    ⟨_, _, rfl, rfl, enters⟩
  have starts : spelledCaches.code api = _ := begins
  rw [starts] at entered
  exact get_hits (process_resolves spelledKey (cacheSurroundings spelledMeaning)) memory _ _ 0 api
    ⟨view, none, 0, 0⟩ (.start token) name stocked next entered

end Rested

def commandTail (key : Key) : Jem Unit :=
  checked (ThreadCache.validatedIndex 7) >>= fun index => Raw.set linuxTarget key .unsigned index

def lookDestroy (found : Except Error Key) : Ctl MallctlResponse (Except Error Unit × ThreadCache) :=
  resolved commandTail found >>= fun
    | .ok () => return (.ok (), ⟨7, false⟩)
    | .error error => return (.error error, ⟨7, true⟩)

theorem cache_destroy_lookup :
    ThreadCache.destroy ⟨7, true⟩ = Cache.get MallctlResponse Control.tcacheDestroy.name >>= lookDestroy := by
  rw [ThreadCache.destroy, if_pos rfl]
  exact looked_up Control.tcacheDestroy.name commandTail _

theorem cache_drop_lookup :
    ThreadCacheCall.code (.dropError ⟨.badAddress, ⟨7, true⟩⟩) = Cache.get MallctlResponse Control.tcacheDestroy.name >>=
      fun found => lookDestroy found >>= fun _ => return () := by
  change ThreadCache.destroy ⟨7, true⟩ >>= _ = _
  rw [cache_destroy_lookup, bind_assoc]

theorem cache_try_destroy_lookup :
    ThreadCacheCall.code (.tryDestroy ⟨7, true⟩) = Cache.get MallctlResponse Control.tcacheDestroy.name >>= fun found =>
      lookDestroy found >>= fun
        | (.ok (), cache) => cache.drop >>= fun _ => return .ok ()
        | (.error error, cache) => return .error ⟨error, cache⟩ := by
  change ThreadCache.destroy ⟨7, true⟩ >>= _ = _
  rw [cache_destroy_lookup, bind_assoc]
  rfl

theorem thread_cache_lifecycle_seven :
    ∃ (created flushed refused dropped : ThreadCacheConfig) (maker flusher destroyer dropper : Local Tenure)
      (failure : ThreadCacheDestroyError),
      created.callers 0 = some ⟨.create, maker, .ret (.ok ⟨7, true⟩)⟩ ∧ maker.ghost.issued = [.create] ∧
      Possesses ⟨7, true⟩ maker.cache.view maker.ghost.token ∧
      flushed.callers 0 = some ⟨.flush ⟨7, true⟩, flusher, .ret (.ok ())⟩ ∧ flusher.ghost.issued = [.command 7] ∧
      refused.callers 0 = some ⟨.tryDestroy ⟨7, true⟩, destroyer, .ret (.error failure)⟩ ∧ failure.error = .badAddress ∧
      destroyer.ghost.issued = [.destroy 7] ∧ Possesses failure.cache destroyer.cache.view destroyer.ghost.token ∧
      dropped.callers 0 = some ⟨.dropError failure, dropper, .ret ()⟩ ∧ dropper.ghost.issued = [.destroy 7] ∧
      dropped.world.state.registry.ended = [0] ∧ dropped.world.state.registry.ended.Nodup := by
  obtain ⟨memory, cache, flushKnown, destroyKnown, reached⟩ := create_reaches_control
  let live : Registry Nat := Registry.empty.enroll 7
  let maker : Local Tenure := ⟨cache, ⟨some (7, 0), [.create], false⟩⟩
  let created : ThreadCacheConfig := running memory live ⟨.create, maker, .ret (.ok ⟨7, true⟩)⟩
  have creates : Reachable spelledCaches created := by
    have done := reachable_exec _ _ ⟨memory, ⟨live, fun _ => none⟩⟩ _ reached 0 ThreadCacheCall.create _
      maker (.control ⟨(spelledKey Control.tcacheCreate.name).val, .fresh .unsigned, none⟩) _ ⟨0, 4, (7 : Nat)⟩ rfl
      ⟨rfl, rfl, fun _ => rfl, .inr ⟨rfl, 7, rfl, by decide, rfl, rfl, rfl⟩⟩
    rwa [Function.update_idem] at done
  obtain ⟨seen, view, found⟩ := item_runs memory live (.flush ⟨7, true⟩) _ _ _ rfl _ _ (resolved_run _ commandTail) flushKnown
    (item_rests memory live .create maker (.ok ⟨7, true⟩) creates)
  let flusher : Local Tenure := ⟨seen, ⟨some (7, 0), [.command 7], false⟩⟩
  let flushed : ThreadCacheConfig := running memory live ⟨.flush ⟨7, true⟩, flusher, .ret (.ok ())⟩
  have flushes : Reachable spelledCaches flushed := by
    have done := reachable_exec _ _ ⟨memory, ⟨live, fun _ => none⟩⟩ _ found 0 (ThreadCacheCall.flush ⟨7, true⟩) _
      flusher (.control ⟨(spelledKey Control.tcacheFlush.name).val, .none, some ⟨.unsigned, (7 : Nat)⟩⟩) _ ⟨0, 0, ()⟩ rfl
      ⟨rfl, rfl, fun _ => rfl, rfl, rfl⟩
    rwa [Function.update_idem] at done
  obtain ⟨met, known, found⟩ := item_runs memory live (.tryDestroy ⟨7, true⟩) _ _ _ rfl _ _ cache_try_destroy_lookup
    (by rw [view]; exact destroyKnown) (item_rests memory live (.flush ⟨7, true⟩) flusher (.ok ()) flushes)
  let failure : ThreadCacheDestroyError := ⟨.badAddress, ⟨7, true⟩⟩
  let destroyer : Local Tenure := ⟨met, ⟨some (7, 0), [.destroy 7], false⟩⟩
  let refused : ThreadCacheConfig := running memory live ⟨.tryDestroy ⟨7, true⟩, destroyer, .ret (.error failure)⟩
  have refuses : Reachable spelledCaches refused := by
    have done := reachable_exec _ _ ⟨memory, ⟨live, fun _ => none⟩⟩ _ found 0 (ThreadCacheCall.tryDestroy ⟨7, true⟩) _
      destroyer (.control ⟨(spelledKey Control.tcacheDestroy.name).val, .none, some ⟨.unsigned, (7 : Nat)⟩⟩) _ ⟨efault, 0, ()⟩ rfl
      ⟨rfl, rfl, nofun, .inl ⟨by decide, rfl, rfl⟩⟩
    rwa [Function.update_idem] at done
  obtain ⟨last, same, found⟩ := item_runs memory live (.dropError failure) _ _ _ rfl _ _ cache_drop_lookup
    (by rw [known, view]; exact destroyKnown) (item_rests memory live (.tryDestroy ⟨7, true⟩) destroyer (.error failure) refuses)
  let dropper : Local Tenure := ⟨last, ⟨none, [.destroy 7], true⟩⟩
  let dropped : ThreadCacheConfig := running memory (live.retire 7 0) ⟨.dropError failure, dropper, .ret ()⟩
  have drops : Reachable spelledCaches dropped := by
    have done := reachable_exec _ _ ⟨memory, ⟨live.retire 7 0, fun _ => none⟩⟩ _ found 0 (ThreadCacheCall.dropError failure) _
      dropper (.control ⟨(spelledKey Control.tcacheDestroy.name).val, .none, some ⟨.unsigned, (7 : Nat)⟩⟩) _ ⟨0, 0, ()⟩ rfl
      ⟨rfl, rfl, fun _ => rfl, .inr ⟨rfl, 0, rfl, rfl, rfl⟩⟩
    rwa [Function.update_idem] at done
  have whenCreated := thread_cache_lifecycle spelledKey spelledMeaning spelled_interprets created creates
  have whenFlushed := thread_cache_lifecycle spelledKey spelledMeaning spelled_interprets flushed flushes
  have whenRefused := thread_cache_lifecycle spelledKey spelledMeaning spelled_interprets refused refuses
  have whenDropped := thread_cache_lifecycle spelledKey spelledMeaning spelled_interprets dropped drops
  obtain ⟨made, mine⟩ := whenCreated.2.2.1 0 maker ⟨7, true⟩ rfl
  obtain ⟨tried, still⟩ := whenRefused.2.2.2.2.1 0 destroyer ⟨7, true⟩ (.error failure) rfl
  exact ⟨created, flushed, refused, dropped, maker, flusher, destroyer, dropper, failure, rfl, made, mine, rfl,
    whenFlushed.2.2.2.1 0 flusher ⟨7, true⟩ (.ok ()) rfl, rfl, rfl, tried, (still failure rfl).2, rfl,
    whenDropped.2.2.2.2.2.2.1 0 dropper failure rfl, rfl, whenDropped.2.2.2.2.2.2.2.2.1⟩

end Jevmalloc
