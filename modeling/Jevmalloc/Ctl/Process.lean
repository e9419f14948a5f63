import Jevmalloc.Ctl.Names
import Jevmalloc.Interaction.Pool

set_option autoImplicit false

namespace Jevmalloc

open Interaction

-- What one call knows: the caches as it has seen them, and a record of its
-- control calls that the code itself never reads.
structure Local (G : Type) where
  cache : CacheCall
  ghost : G

def Local.fresh {G : Type} (view : CacheView) (ghost : G) : Local G := ⟨⟨view, none, 0, 0⟩, ghost⟩

structure World (S : Type) where
  memory : CacheMemory
  state : S

-- A process of the crate's calls: which calls there are, where they begin and
-- end, and what jemalloc does at a single control call.
structure Surroundings (S G Api : Type) (Result : Api → Type) where
  code : (api : Api) → Ctl MallctlResponse (Result api)
  initial : S → Prop
  enter : S → Api → CacheView → G → S → Prop
  control : G → S → (call : Mallctl) → MallctlResponse call → G → S → Prop
  leave : Local G → S → (api : Api) → Result api → S → Prop

structure Rule (G : Type) where
  pre : Local G → Mallctl → Prop
  post : G → (call : Mallctl) → MallctlResponse call → G → Prop

variable {S G Api : Type} {Result : Api → Type}

section Hosted

variable {target : CTarget} (translation : String → Key)

def process (surroundings : Surroundings S G Api Result) :
    System (Command Mallctl) (Command.Response MallctlResponse) (Local G) (World S) Api Result where
  code := surroundings.code
  initial world := world.memory = Weak.empty ∧ surroundings.initial world.state
  enter world api own after :=
    ∃ view ghost, own = Local.fresh view ghost ∧ after.memory = world.memory ∧
      surroundings.enter world.state api view ghost after.state
  exec own world
    | .cache command, response, next, after =>
        cacheExec translation own.cache world.memory command response next.cache after.memory ∧
          next.ghost = own.ghost ∧ after.state = world.state
    | .control call, response, next, after =>
        next.cache = own.cache ∧ after.memory = world.memory ∧
          surroundings.control own.ghost world.state call response next.ghost after.state
    | .panic, _, _, _ => False
  leave own world api value after := after.memory = world.memory ∧ surroundings.leave own world.state api value after.state

def hosted (target : CTarget) (rule : Rule G) : Protocol (Command Mallctl) (Command.Response MallctlResponse) (Local G) where
  pre own
    | .cache command => cachePre translation own.cache command
    | .control call => rule.pre own call
    | .panic => False
  post own
    | .cache command, response, next =>
        cachePost translation own.cache command response next.cache ∧ next.ghost = own.ghost
    | .control call, response, next =>
        response.Sized target ∧ next.cache = own.cache ∧ rule.post own.ghost call response next.ghost
    | .panic, _, _ => False

theorem hosted_hosts (rule : Rule G) :
    Hosts translation (hosted translation target rule) Local.cache (fun _ => True) fun before after => after.ghost = before.ghost where
  refl _ := rfl
  trans _ _ _ first second := second.trans first
  pre _ _ allowed _ := allowed
  post _ _ _ _ relied := relied

theorem key_obeys (rule : Rule G) (name : String) (own : Local G) :
    Obeys (hosted translation target rule)
      (fun next value => next.ghost = own.ghost ∧ Fetched translation name own.cache next.cache value)
      (defineKey name).run own :=
  get_obeys translation (hosted_hosts translation rule) name own trivial

theorem mallctl_obeys (rule : Rule G) (key : Key) (output : Output) (input : Option Input) (own : Local G)
    (allowed : rule.pre own ⟨key.val, output, input⟩) :
    Obeys (hosted translation target rule)
      (fun next value => ∃ response : MallctlResponse ⟨key.val, output, input⟩,
        next.cache = own.cache ∧ rule.post own.ghost ⟨key.val, output, input⟩ response next.ghost ∧ value = response.outcome)
      (Raw.mallctlbymib target key output input).run own := by
  refine ⟨allowed, ?_⟩
  intro response next relied
  obtain ⟨sized, cache, recorded⟩ := relied
  rw [settle_sized target response sized]
  exact ⟨response, cache, recorded, rfl⟩

def Controlled (rule : Rule G) (name : String) (call : Mallctl) (own next : Local G)
    (value : Except Error call.output.Value) : Prop :=
  (next.ghost = own.ghost ∧ next.cache.view = own.cache.view ∧ own.cache.view (.inr name) = 0 ∧
    ∃ error, value = .error error) ∨
  (own.cache.view ≤ next.cache.view ∧
    ∃ response : MallctlResponse call, rule.post own.ghost call response next.ghost ∧ value = response.outcome)

theorem control_obeys (rule : Rule G) (name : String) (place : Key → Jem Key) (mib : List Nat) (output : Output)
    (input : Option Input) (own : Local G)
    (placed : 0 < (translation name).val.length → ∃ key : Key, place (translation name) = pure key ∧ key.val = mib)
    (allowed : ∀ later : Local G, later.ghost = own.ghost → rule.pre later ⟨mib, output, input⟩) :
    Obeys (hosted translation target rule) (Controlled rule name ⟨mib, output, input⟩ own)
      (defineKey name >>= fun key => place key >>= fun key => Raw.mallctlbymib target key output input).run own := by
  apply obeys_attempt _ _ _ _ _ own (key_obeys translation rule name own)
  · intro later error failed
    obtain ⟨ghost, view, unpublished, _⟩ := failed
    exact .inl ⟨ghost, view, unpublished, error, rfl⟩
  · intro later key found
    obtain ⟨ghost, grows, rfl, positive, _⟩ := found
    obtain ⟨key, same, rfl⟩ := placed positive
    rw [same]
    change Obeys _ _ (Raw.mallctlbymib target key output input).run later
    apply obeys_weaken _ _ _ _ later (mallctl_obeys translation rule key output input later (allowed later ghost))
    intro next value called
    obtain ⟨response, cache, recorded, outcome⟩ := called
    exact .inr ⟨by rw [cache]; exact grows, response, by rw [← ghost]; exact recorded, outcome⟩

theorem control_checked_obeys {α : Type} (rule : Rule G) (name : String) (place : Key → Jem Key) (mib : List Nat)
    (output : Output) (input : Option Input) (own : Local G) (check : output.Value → Except Error α)
    (placed : 0 < (translation name).val.length → ∃ key : Key, place (translation name) = pure key ∧ key.val = mib)
    (allowed : ∀ later : Local G, later.ghost = own.ghost → rule.pre later ⟨mib, output, input⟩) :
    Obeys (hosted translation target rule)
      (fun next value => ∃ first, Controlled rule name ⟨mib, output, input⟩ own next first ∧ value = first >>= check)
      (defineKey name >>= fun key => place key >>= fun key =>
        Raw.mallctlbymib target key output input >>= fun value => checked (check value)).run own := by
  have nested : (defineKey name >>= fun key => place key >>= fun key =>
        Raw.mallctlbymib target key output input >>= fun value => checked (check value)) =
      (defineKey name >>= fun key => place key >>= fun key => Raw.mallctlbymib target key output input) >>=
        fun value => checked (check value) := by
    simp only [bind_assoc]
  rw [nested]
  apply obeys_attempt _ _ _ _ _ own (control_obeys translation rule name place mib output input own placed allowed)
  · intro later error called
    exact ⟨_, called, rfl⟩
  · intro later value called
    exact ⟨_, called, rfl⟩

theorem plain_obeys (rule : Rule G) (name : String) (output : Output) (input : Option Input) (own : Local G)
    (allowed : ∀ later : Local G, later.ghost = own.ghost → rule.pre later ⟨(translation name).val, output, input⟩) :
    Obeys (hosted translation target rule) (Controlled rule name ⟨(translation name).val, output, input⟩ own)
      (defineKey name >>= fun key => Raw.mallctlbymib target key output input).run own :=
  control_obeys translation rule name pure _ output input own (fun _ => ⟨translation name, rfl, rfl⟩) allowed

theorem plain_checked_obeys {α : Type} (rule : Rule G) (name : String) (output : Output) (input : Option Input)
    (own : Local G) (check : output.Value → Except Error α)
    (allowed : ∀ later : Local G, later.ghost = own.ghost → rule.pre later ⟨(translation name).val, output, input⟩) :
    Obeys (hosted translation target rule)
      (fun next value => ∃ first,
        Controlled rule name ⟨(translation name).val, output, input⟩ own next first ∧ value = first >>= check)
      (defineKey name >>= fun key => Raw.mallctlbymib target key output input >>= fun value => checked (check value)).run own :=
  control_checked_obeys translation rule name pure _ output input own check (fun _ => ⟨translation name, rfl, rfl⟩) allowed

structure Rules (target : CTarget) (surroundings : Surroundings S G Api Result) (rule : Api → Rule G)
    (returns : (api : Api) → Local G → Result api → Prop) (Inv : S → (Nat → Option G) → Prop) : Prop where
  start : ∀ state, surroundings.initial state → Inv state fun _ => none
  enter : ∀ state all thread api view ghost after, Inv state all → all thread = none →
    surroundings.enter state api view ghost after →
      Inv after (Function.update all thread (some ghost)) ∧
        Obeys (hosted translation target (rule api)) (returns api) (surroundings.code api) (Local.fresh view ghost)
  sized : ∀ own state call response next after, surroundings.control own state call response next after →
    response.Sized target
  control : ∀ state all thread api own call response next after, Inv state all → all thread = some own.ghost →
    (rule api).pre own call → surroundings.control own.ghost state call response next after →
      (rule api).post own.ghost call response next ∧ Inv after (Function.update all thread (some next))
  leave : ∀ state all thread api own value after, Inv state all → all thread = some own.ghost →
    returns api own value → surroundings.leave own state api value after → Inv after (Function.update all thread none)

def ghosts (all : Nat → Option (Local G)) : Nat → Option G := fun thread => (all thread).map Local.ghost

theorem ghosts_update (all : Nat → Option (Local G)) (thread : Nat) (own : Option (Local G)) :
    ghosts (Function.update all thread own) = Function.update (ghosts all) thread (own.map Local.ghost) := by
  funext other
  by_cases same : other = thread
  · subst other
    simp [ghosts]
  · simp [ghosts, same]

def ProcessInv (Inv : S → (Nat → Option G) → Prop) (world : World S) (all : Nat → Option (Local G)) : Prop :=
  CacheInv translation world.memory ∧ Inv world.state (ghosts all)

theorem process_discipline (surroundings : Surroundings S G Api Result) (rule : Api → Rule G)
    (returns : (api : Api) → Local G → Result api → Prop) (Inv : S → (Nat → Option G) → Prop)
    (rules : Rules translation target surroundings rule returns Inv) :
    Discipline (process translation surroundings) (fun api => hosted translation target (rule api)) returns
      (ProcessInv translation Inv) where
  start := by
    intro world initial
    obtain ⟨memory, state⟩ := initial
    exact ⟨by rw [memory]; exact published_empty 0, rules.start world.state state⟩
  enter := by
    intro world all thread api own after inv idle entered
    obtain ⟨view, ghost, rfl, memory, state⟩ := entered
    have free : ghosts all thread = none := by rw [ghosts, idle]; rfl
    obtain ⟨kept, obeys⟩ := rules.enter _ _ thread api view ghost _ inv.2 free state
    exact ⟨⟨by rw [memory]; exact inv.1, by rw [ghosts_update]; exact kept⟩, obeys⟩
  exec := by
    intro world all thread api own command response next after inv busy allowed executed
    have mine : ghosts all thread = some own.ghost := by rw [ghosts, busy]; rfl
    cases command with
    | cache command =>
        obtain ⟨cached, ghost, state⟩ := executed
        obtain ⟨relied, kept⟩ := cache_exec_keeps translation _ _ _ _ command response inv.1 allowed cached
        refine ⟨⟨relied, ghost⟩, kept, ?_⟩
        rw [ghosts_update, Option.map_some, ghost, ← mine, Function.update_eq_self, state]
        exact inv.2
    | control call =>
        obtain ⟨cache, memory, controlled⟩ := executed
        obtain ⟨relied, kept⟩ := rules.control _ _ thread api own call response _ _ inv.2 mine allowed controlled
        exact ⟨⟨rules.sized _ _ _ _ _ _ controlled, cache, relied⟩, by rw [memory]; exact inv.1, by rw [ghosts_update]; exact kept⟩
    | panic => exact executed.elim
  leave := by
    intro world all thread api own value after inv busy returned left
    have mine : ghosts all thread = some own.ghost := by rw [ghosts, busy]; rfl
    refine ⟨by rw [left.1]; exact inv.1, ?_⟩
    rw [ghosts_update]
    exact rules.leave _ _ thread api own value _ inv.2 mine returned left.2

end Hosted

end Jevmalloc
