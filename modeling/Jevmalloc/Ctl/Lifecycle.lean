import Jevmalloc.Ctl.Process
import Jevmalloc.Interaction.Registry

set_option autoImplicit false

namespace Jevmalloc

open Interaction

-- What a control call is to a resource that is created, used and destroyed
-- under an index.
inductive Kind where
  | create
  | command (index : Nat)
  | destroy (index : Nat)
  | other
deriving DecidableEq, Repr

-- The record of one call: the index and creation it answers for, the control
-- calls it has made, and whether one of them has ended the creation.
structure Tenure where
  token : Option (Nat × Nat)
  issued : List Kind
  ended : Bool

def Tenure.start (token : Option (Nat × Nat)) : Tenure := ⟨token, [], false⟩

def Tenure.issue (tenure : Tenure) (kind : Kind) : Tenure := { tenure with issued := tenure.issued ++ [kind] }

-- What rests between calls: a handle or what became of one, with the caches as
-- its last user had seen them. Nothing can be done with empty content.
structure Shelved (X : Type) where
  content : Option X
  view : CacheView
  token : Option (Nat × Nat)

structure Store (X : Type) where
  registry : Registry Nat
  shelf : Nat → Option (Shelved X)

def Store.tokens {X : Type} (store : Store X) (slot : Nat) : Option (Nat × Nat) := (store.shelf slot).bind Shelved.token

def Store.held {X : Type} (store : Store X) (all : Nat → Option Tenure) : Nat ⊕ Nat → Option (Nat × Nat) :=
  holdings Tenure.token all store.tokens

variable {X Api : Type} {Result : Api → Type}

def lifecycleControl (limit : Nat) (kind : Mallctl → Kind) (own : Tenure) (store : Store X) (call : Mallctl)
    (response : MallctlResponse call) (next : Tenure) (after : Store X) : Prop :=
  match kind call with
  | .create =>
      (response.status ≠ 0 ∧ next = own.issue .create ∧ after = store) ∨
      (response.status = 0 ∧ ∃ index, response.reported = some index ∧ index < limit ∧ store.registry.live index = none ∧
        next = { own.issue .create with token := some (index, store.registry.created) } ∧
          after = { store with registry := store.registry.enroll index })
  | .destroy index =>
      (response.status ≠ 0 ∧ next = own.issue (.destroy index) ∧ after = store) ∨
      (response.status = 0 ∧ ∃ serial, store.registry.live index = some serial ∧
        next = ⟨none, own.issued ++ [.destroy index], true⟩ ∧ after = { store with registry := store.registry.retire index serial })
  | .command index => next = own.issue (.command index) ∧ after = store
  | .other => next = own.issue .other ∧ after = store

def lifecycleRule (limit : Nat) (kind : Mallctl → Kind) (extra : Local Tenure → Mallctl → Prop) : Rule Tenure where
  pre own call := own.ghost.ended = false ∧ extra own call ∧
    match kind call with
    | .create => own.ghost.token = none
    | .command index | .destroy index => ∃ serial, own.ghost.token = some (index, serial)
    | .other => True
  post before call response after :=
    match kind call with
    | .create =>
        (response.status ≠ 0 ∧ after = before.issue .create) ∨
        (response.status = 0 ∧ ∃ index serial, response.reported = some index ∧ index < limit ∧
          after = { before.issue .create with token := some (index, serial) })
    | .destroy index =>
        (response.status ≠ 0 ∧ after = before.issue (.destroy index)) ∨
        (response.status = 0 ∧ after = ⟨none, before.issued ++ [.destroy index], true⟩)
    | .command index => after = before.issue (.command index)
    | .other => after = before.issue .other

section Answers

variable {limit : Nat} {kind : Mallctl → Kind} {extra : Local Tenure → Mallctl → Prop} {before after : Tenure} {call : Mallctl}
  {response : MallctlResponse call}

theorem create_settles {mib : List Nat} {input : Option Input} {response : MallctlResponse ⟨mib, .fresh .unsigned, input⟩}
    (known : kind ⟨mib, .fresh .unsigned, input⟩ = .create)
    (recorded : (lifecycleRule limit kind extra).post before ⟨mib, .fresh .unsigned, input⟩ response after) :
    (∃ error, response.answer = .error error ∧ after = before.issue .create) ∨
    (∃ index serial, response.answer = .ok index ∧ index < limit ∧ after = ⟨some (index, serial), before.issued ++ [.create], before.ended⟩) := by
  simp only [lifecycleRule, known] at recorded
  cases recorded with
  | inl refused =>
      obtain ⟨error, answered⟩ := outcome_refused response refused.1
      exact .inl ⟨error, answered, refused.2⟩
  | inr succeeded =>
      obtain ⟨_, index, serial, reported, below, ghost⟩ := succeeded
      exact .inr ⟨index, serial, (answer_reported response index).mpr reported, below, ghost⟩

theorem destroy_settles (index : Nat) (known : kind call = .destroy index)
    (recorded : (lifecycleRule limit kind extra).post before call response after) :
    (∃ value, response.outcome = .ok value ∧ after = ⟨none, before.issued ++ [.destroy index], true⟩) ∨
    (∃ error, response.outcome = .error error ∧ after = before.issue (.destroy index)) := by
  simp only [lifecycleRule, known] at recorded
  cases recorded with
  | inl refused =>
      obtain ⟨error, answered⟩ := outcome_refused response refused.1
      exact .inr ⟨error, answered, refused.2⟩
  | inr succeeded => exact .inl ⟨response.value, (outcome_ok response response.value).mpr ⟨succeeded.1, rfl⟩, succeeded.2⟩

theorem post_command (index : Nat) (known : kind call = .command index)
    (recorded : (lifecycleRule limit kind extra).post before call response after) : after = before.issue (.command index) := by
  simp only [lifecycleRule, known] at recorded
  exact recorded

theorem post_other (known : kind call = .other)
    (recorded : (lifecycleRule limit kind extra).post before call response after) : after = before.issue .other := by
  simp only [lifecycleRule, known] at recorded
  exact recorded

end Answers

section Questions

variable (limit : Nat) (kind : Mallctl → Kind) (extra : Local Tenure → Mallctl → Prop) (own : Local Tenure) (call : Mallctl)
  (running : own.ghost.ended = false) (allowed : extra own call)

include running allowed

theorem pre_create (known : kind call = .create) (free : own.ghost.token = none) :
    (lifecycleRule limit kind extra).pre own call := by
  simp only [lifecycleRule, known]
  exact ⟨running, allowed, free⟩

theorem pre_command (index serial : Nat) (known : kind call = .command index ∨ kind call = .destroy index)
    (mine : own.ghost.token = some (index, serial)) : (lifecycleRule limit kind extra).pre own call := by
  cases known with
  | inl known =>
      simp only [lifecycleRule, known]
      exact ⟨running, allowed, serial, mine⟩
  | inr known =>
      simp only [lifecycleRule, known]
      exact ⟨running, allowed, serial, mine⟩

theorem pre_other (known : kind call = .other) : (lifecycleRule limit kind extra).pre own call := by
  simp only [lifecycleRule, known]
  exact ⟨running, allowed, trivial⟩

end Questions

-- How a call of the crate takes part: what it takes from the shelf, what it
-- only borrows there, and what it leaves behind.
structure Trade (X Api : Type) (Result : Api → Type) where
  takes : Api → Option X
  borrows : Api → Option X
  leaves : (api : Api) → Result api → Option X

def Store.Taken (store : Store X) (content : X) (view : CacheView) (own : Tenure) (after : Store X) : Prop :=
  ∃ slot item, store.shelf slot = some item ∧ item.content = some content ∧ view = item.view ∧ own = .start item.token ∧
    after = { store with shelf := Function.update store.shelf slot none }

def Store.Left (store : Store X) (own : Local Tenure) (content : Option X) (after : Store X) : Prop :=
  ∃ slot, store.shelf slot = none ∧ after = { store with
    shelf := Function.update store.shelf slot (some ⟨content, own.cache.view, own.ghost.token⟩) }

def lifecycleSurroundings (limit : Nat) (kind : Mallctl → Kind) (trade : Trade X Api Result)
    (code : (api : Api) → Ctl MallctlResponse (Result api)) : Surroundings (Store X) Tenure Api Result where
  code := code
  initial store := store = ⟨.empty, fun _ => none⟩
  enter store api view own after :=
    match trade.takes api with
    | some content => store.Taken content view own after
    | none => view = (fun _ => 0) ∧ own = .start none ∧ after = store ∧
        ∀ content, trade.borrows api = some content → ∃ slot item, store.shelf slot = some item ∧ item.content = some content
  control own store call response next after :=
    response.Sized linuxTarget ∧ lifecycleControl limit kind own store call response next after
  leave own store api value after := store.Left own (trade.leaves api value) after

section Invariant

variable (agrees : Shelved X → Prop)

structure LifecycleInv (store : Store X) (all : Nat → Option Tenure) : Prop where
  sound : store.registry.Sound
  custody : Custody store.registry.live (store.held all)
  shelf : ∀ slot item, store.shelf slot = some item → agrees item

theorem held_update (store : Store X) (all : Nat → Option Tenure) (thread : Nat) (own : Option Tenure) :
    store.held (Function.update all thread own) = Function.update (store.held all) (.inl thread) (own.bind Tenure.token) :=
  holdings_update_caller Tenure.token all store.tokens thread own

theorem held_update_shelf (store : Store X) (all : Nat → Option Tenure) (slot : Nat) (item : Option (Shelved X)) :
    Store.held { store with shelf := Function.update store.shelf slot item } all =
      Function.update (store.held all) (.inr slot) (item.bind Shelved.token) := by
  have tokens : Store.tokens { store with shelf := Function.update store.shelf slot item } =
      Function.update store.tokens slot (item.bind Shelved.token) := by
    funext other
    by_cases same : other = slot
    · subst other
      simp [Store.tokens]
    · simp [Store.tokens, same]
  rw [Store.held, tokens]
  exact holdings_update_shelf Tenure.token all store.tokens slot _

theorem held_same_token (store : Store X) (all : Nat → Option Tenure) (thread : Nat) (own : Option Tenure)
    (same : own.bind Tenure.token = (all thread).bind Tenure.token) :
    store.held (Function.update all thread own) = store.held all := by
  rw [held_update, same]
  exact Function.update_eq_self (Sum.inl thread) (store.held all)

variable {agrees} {store after : Store X} {all : Nat → Option Tenure} {thread : Nat}

theorem issued_keeps (own : Tenure) (kind : Kind) (inv : LifecycleInv agrees store all) (busy : all thread = some own) :
    LifecycleInv agrees store (Function.update all thread (some (own.issue kind))) := by
  refine ⟨inv.sound, ?_, inv.shelf⟩
  rw [held_same_token store all thread _ (by rw [busy]; rfl)]
  exact inv.custody

theorem lifecycle_control_keeps (limit : Nat) (kind : Mallctl → Kind) (extra : Local Tenure → Mallctl → Prop) (own : Local Tenure)
    (next : Tenure) (call : Mallctl) (response : MallctlResponse call) (inv : LifecycleInv agrees store all)
    (busy : all thread = some own.ghost) (allowed : (lifecycleRule limit kind extra).pre own call)
    (controlled : lifecycleControl limit kind own.ghost store call response next after) :
    (lifecycleRule limit kind extra).post own.ghost call response next ∧
      LifecycleInv agrees after (Function.update all thread (some next)) := by
  obtain ⟨_, _, allowed⟩ := allowed
  have mine : store.held all (.inl thread) = own.ghost.token := congrArg (fun owner => owner.bind Tenure.token) busy
  simp only [lifecycleControl] at controlled
  simp only [lifecycleRule]
  cases known : kind call with
  | create =>
      rw [known] at allowed controlled
      cases controlled with
      | inl failed =>
          obtain ⟨failed, rfl, rfl⟩ := failed
          exact ⟨.inl ⟨failed, rfl⟩, issued_keeps own.ghost .create inv busy⟩
      | inr created =>
          obtain ⟨succeeded, index, reported, below, free, rfl, rfl⟩ := created
          refine ⟨.inr ⟨succeeded, index, _, reported, below, rfl⟩, Registry.enroll_sound _ index inv.sound, ?_, inv.shelf⟩
          have acquired := custody_acquire inv.custody (.inl thread) index store.registry.created
            (mine.trans allowed) free
          rw [held_update]
          exact acquired
  | destroy index =>
      rw [known] at allowed controlled
      cases controlled with
      | inl failed =>
          obtain ⟨failed, rfl, rfl⟩ := failed
          exact ⟨.inl ⟨failed, rfl⟩, issued_keeps own.ghost (.destroy index) inv busy⟩
      | inr destroyed =>
          obtain ⟨succeeded, serial, found, rfl, rfl⟩ := destroyed
          obtain ⟨held, token⟩ := allowed
          have holds := mine.trans token
          -- By custody the creation live at the index is the caller's own.
          have same := inv.custody.sound _ _ _ holds
          rw [found] at same
          obtain rfl := Option.some.inj same
          refine ⟨.inr ⟨succeeded, rfl⟩, Registry.retire_sound _ index serial inv.sound found, ?_, inv.shelf⟩
          have released := custody_release inv.custody (.inl thread) index serial holds
          rw [held_update]
          exact released
  | command index =>
      rw [known] at controlled
      obtain ⟨rfl, rfl⟩ := controlled
      exact ⟨rfl, issued_keeps own.ghost (.command index) inv busy⟩
  | other =>
      rw [known] at controlled
      obtain ⟨rfl, rfl⟩ := controlled
      exact ⟨rfl, issued_keeps own.ghost .other inv busy⟩

theorem taken_keeps (content : X) (view : CacheView) (own : Tenure) (inv : LifecycleInv agrees store all)
    (idle : all thread = none) (taken : store.Taken content view own after) :
    agrees ⟨some content, view, own.token⟩ ∧ own = .start own.token ∧
      LifecycleInv agrees after (Function.update all thread (some own)) := by
  obtain ⟨slot, item, found, holds, rfl, rfl, rfl⟩ := taken
  have agreed := inv.shelf slot item found
  refine ⟨by rw [← holds]; exact agreed, rfl, inv.sound, ?_, ?_⟩
  · have free : store.held all (.inl thread) = none := congrArg (fun owner => owner.bind Tenure.token) idle
    have moved := custody_transfer inv.custody (.inr slot) (.inl thread) free
    have giver : store.held all (.inr slot) = item.token := congrArg (fun found => found.bind Shelved.token) found
    rw [giver] at moved
    rw [held_update, held_update_shelf]
    exact moved
  · intro other rest present
    by_cases same : other = slot
    · subst other
      simp at present
    · exact inv.shelf other rest (by simpa [same] using present)

theorem left_keeps (own : Local Tenure) (content : Option X) (inv : LifecycleInv agrees store all)
    (busy : all thread = some own.ghost) (agreed : agrees ⟨content, own.cache.view, own.ghost.token⟩)
    (left : store.Left own content after) : LifecycleInv agrees after (Function.update all thread none) := by
  obtain ⟨slot, empty, rfl⟩ := left
  refine ⟨inv.sound, ?_, ?_⟩
  · have free : store.held all (.inr slot) = none := congrArg (fun found => found.bind Shelved.token) empty
    have moved := custody_transfer inv.custody (.inl thread) (.inr slot) free
    have giver : store.held all (.inl thread) = own.ghost.token := congrArg (fun owner => owner.bind Tenure.token) busy
    rw [giver] at moved
    rw [held_update_shelf, held_update]
    exact moved
  · intro other rest present
    by_cases same : other = slot
    · subst other
      obtain rfl : ⟨content, own.cache.view, own.ghost.token⟩ = rest := by simpa using present
      exact agreed
    · exact inv.shelf other rest (by simpa [same] using present)

theorem pending_owner (limit : Nat) (kind : Mallctl → Kind) (extra : Local Tenure → Mallctl → Prop) (own : Local Tenure)
    (call : Mallctl) (index : Nat) (inv : LifecycleInv agrees store all) (busy : all thread = some own.ghost)
    (allowed : (lifecycleRule limit kind extra).pre own call)
    (known : kind call = .command index ∨ kind call = .destroy index) :
    ∃ serial, own.ghost.token = some (index, serial) ∧ store.registry.live index = some serial ∧
      serial ∉ store.registry.ended ∧ ∀ holder other, store.held all holder = some (index, other) → holder = .inl thread := by
  have mine : store.held all (.inl thread) = own.ghost.token := congrArg (fun owner => owner.bind Tenure.token) busy
  have token : ∃ serial, own.ghost.token = some (index, serial) := by
    cases known with
    | inl known =>
        simp only [lifecycleRule, known] at allowed
        exact allowed.2.2
    | inr known =>
        simp only [lifecycleRule, known] at allowed
        exact allowed.2.2
  obtain ⟨serial, token⟩ := token
  have live := inv.custody.sound _ _ _ (mine.trans token)
  refine ⟨serial, token, live, (inv.sound.numbered index serial live).2, ?_⟩
  intro holder other holds
  exact inv.custody.exclusive holder (.inl thread) index other serial holds (mine.trans token)

end Invariant

section Rules

variable (translation : String → Key) (limit : Nat) (kind : Mallctl → Kind) (trade : Trade X Api Result)
  (code : (api : Api) → Ctl MallctlResponse (Result api)) (extra : Api → Local Tenure → Mallctl → Prop)
  (agrees : Shelved X → Prop) (returns : (api : Api) → Local Tenure → Result api → Prop)

def Starts (api : Api) (view : CacheView) (token : Option (Nat × Nat)) : Prop :=
  match trade.takes api with
  | some content => agrees ⟨some content, view, token⟩
  | none => token = none ∧ ∀ content, trade.borrows api = some content → ∃ view token, agrees ⟨some content, view, token⟩

-- Custody holds over whole runs if every call, from any start, obeys the rule
-- and leaves something behind that agrees with what it answers for.
theorem lifecycle_rules
    (obeys : ∀ api view token, Starts trade agrees api view token →
      Obeys (hosted translation linuxTarget (lifecycleRule limit kind (extra api)))
        (fun own value => agrees ⟨trade.leaves api value, own.cache.view, own.ghost.token⟩ ∧ returns api own value)
        (code api) (Local.fresh view (.start token))) :
    Rules translation linuxTarget (lifecycleSurroundings limit kind trade code) (fun api => lifecycleRule limit kind (extra api))
      (fun api own value => agrees ⟨trade.leaves api value, own.cache.view, own.ghost.token⟩ ∧ returns api own value)
      (LifecycleInv agrees) where
  start := by
    intro store initial
    obtain rfl : store = ⟨.empty, fun _ => none⟩ := initial
    refine ⟨Registry.empty_sound, ?_, nofun⟩
    have nothing : Store.held (⟨.empty, fun _ => none⟩ : Store X) (fun _ => none) = fun _ => none := by
      funext holder
      cases holder with
      | inl thread => rfl
      | inr slot => rfl
    rw [nothing]
    exact custody_empty
  enter := by
    intro store all thread api view own after inv idle entered
    simp only [lifecycleSurroundings] at entered
    have starts := obeys api view own.token
    rw [Starts] at starts
    cases takes : trade.takes api with
    | some content =>
        rw [takes] at entered starts
        obtain ⟨agreed, same, kept⟩ := taken_keeps content view own inv idle entered
        refine ⟨kept, ?_⟩
        rw [same]
        exact starts agreed
    | none =>
        rw [takes] at entered starts
        obtain ⟨rfl, rfl, rfl, borrowed⟩ := entered
        constructor
        · refine ⟨inv.sound, ?_, inv.shelf⟩
          rw [held_same_token after all thread _ (by rw [idle]; rfl)]
          exact inv.custody
        · apply starts
          refine ⟨rfl, ?_⟩
          intro content needs
          obtain ⟨slot, item, found, holds⟩ := borrowed content needs
          exact ⟨item.view, item.token, by rw [← holds]; exact inv.shelf slot item found⟩
  sized _ _ _ _ _ _ controlled := controlled.1
  control := by
    intro store all thread api own call response next after inv busy allowed controlled
    exact lifecycle_control_keeps limit kind (extra api) own next call response inv busy allowed controlled.2
  leave := by
    intro store all thread api own value after inv busy returned left
    exact left_keeps own _ inv busy returned.1 left

end Rules

end Jevmalloc
