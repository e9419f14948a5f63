import Jevmalloc.Ctl.Process

set_option autoImplicit false

namespace Jevmalloc

open Interaction Bytes

theorem utf8_injective (first second : String) (same : utf8 first = utf8 second) : first = second := by
  have read := (from_utf8_iff (utf8 second) first).mpr same
  rw [(from_utf8_iff (utf8 second) second).mpr rfl] at read
  exact (Option.some.inj read).symm

structure Translatable (translation : String → Key) (name : String) : Prop where
  nonempty : utf8 name ≠ []
  short : (utf8 name).length < nameMax
  clean : 0 ∉ utf8 name
  shallow : (components name).length ≤ keySegs
  exact : (translation name).val.length = (components name).length

def translated (translation : String → Key) (name : String) : MibResponse keySegs :=
  ⟨0, (translation name).val.length, (translation name).val, (Nat.min_eq_left (translation name).property).symm⟩

theorem translated_accepted (translation : String → Key) (name : String) (translatable : Translatable translation name) :
    accept (components name).length (translated translation name) = .ok (translation name) :=
  (accept_ok_iff _ _ _).mpr ⟨rfl, translatable.exact, translatable.shallow, rfl⟩

-- A name that has a key is translated whenever that is asked for.
def answers (translation : String → Key) : (command : Command Mallctl) → Command.Response MallctlResponse command → Prop
  | .cache (.nametomib buffer _), response => ∀ name, Translatable translation name → cString buffer = utf8 name →
      accept (components name).length response = .ok (translation name)
  | _, _ => True

def keep {α : Type} (name : String) (next : Except Error Key → Ctl MallctlResponse α) :
    Except Error Key → Ctl MallctlResponse α
  | .error reason => next (.error reason)
  | .ok key =>
      Cache.storeSegments MallctlResponse name ((List.range keySegs).zip key.val) >>= fun _ =>
        storeLen MallctlResponse name key.val.length >>= fun _ => next (.ok key)

theorem get_unpublished {α : Type} (name : String) (next : Except Error Key → Ctl MallctlResponse α) :
    Cache.get MallctlResponse name >>= next = loadLen MallctlResponse name >>= fun len =>
      if len > 0 then Cache.load MallctlResponse name len >>= next
      else mibs MallctlResponse name >>= keep name next := by
  rw [Cache.get, bind_assoc]
  refine congrArg _ (funext fun len => ?_)
  by_cases published : len > 0
  · rw [if_pos published, if_pos published]
  · rw [if_neg published, if_neg published, bind_assoc]
    refine congrArg _ (funext fun result => ?_)
    cases result with
    | error reason => rfl
    | ok key => simp only [keep, bind_assoc, Program.pure_is_ret, Program.ret_bind]

structure Beside (name : String) (memory after : CacheMemory) (view seen : CacheView) : Prop where
  grows : view ≤ seen
  flag : ∀ other, other ≠ name → seen (.inr other) = view (.inr other)
  cell : ∀ other slot, other ≠ name → seen (.inl (other, slot)) = view (.inl (other, slot))
  releases : ∀ other, other ≠ name → after.releases other = memory.releases other
  stores : ∀ other slot, other ≠ name → after.stores (other, slot) = memory.stores (other, slot)

theorem beside_refl (name : String) (memory : CacheMemory) (view : CacheView) : Beside name memory memory view view where
  grows := le_refl view
  flag _ _ := rfl
  cell _ _ _ := rfl
  releases _ _ := rfl
  stores _ _ _ := rfl

theorem beside_trans {name : String} {memory between after : CacheMemory} {view middle seen : CacheView}
    (first : Beside name memory between view middle) (second : Beside name between after middle seen) :
    Beside name memory after view seen where
  grows := le_trans first.grows second.grows
  flag other different := (second.flag other different).trans (first.flag other different)
  cell other slot different := (second.cell other slot different).trans (first.cell other slot different)
  releases other different := (second.releases other different).trans (first.releases other different)
  stores other slot different := (second.stores other slot different).trans (first.stores other slot different)

theorem beside_write (name : String) (slot segment : Nat) (memory : CacheMemory) (view : CacheView) :
    Beside name memory (memory.write (name, slot) segment) view (memory.writtenView view (name, slot)) where
  grows := view_le_advance view _ _
  flag _ _ := advance_elsewhere view _ _ _ Sum.inr_ne_inl
  cell _ _ different := advance_elsewhere view _ _ _ fun same => different (congrArg Prod.fst (Sum.inl.inj same))
  releases _ _ := rfl
  stores _ _ different := Function.update_of_ne (fun same => different (congrArg Prod.fst same)) _ _

theorem beside_release (name : String) (len : Nat) (memory : CacheMemory) (view : CacheView) :
    Beside name memory (memory.release view name len) view (memory.releasedView view name) where
  grows := view_le_advance view _ _
  flag _ different := advance_elsewhere view _ _ _ fun same => different (Sum.inr.inj same)
  cell _ _ _ := advance_elsewhere view _ _ _ Sum.inl_ne_inr
  releases _ different := Function.update_of_ne different _ _
  stores _ _ _ := rfl

def Newest (memory : CacheMemory) (view : CacheView) (name : String) (cell : Nat × Nat) : Prop :=
  view (.inl (name, cell.1)) = (memory.stores (name, cell.1)).length ∧ (memory.stores (name, cell.1)).getLast? = some cell.2

theorem translatable_positive {translation : String → Key} {name : String} (translatable : Translatable translation name) :
    0 < (translation name).val.length := by
  rw [translatable.exact]
  exact List.length_pos_iff.mpr (List.splitOn_ne_nil _ _)

section Newest

variable (name : String) (memory : CacheMemory) (view : CacheView) (cell : Nat × Nat)

theorem newest_written (behind : view (.inl (name, cell.1)) ≤ (memory.stores (name, cell.1)).length) :
    Newest (memory.write (name, cell.1) cell.2) (memory.writtenView view (name, cell.1)) name cell := by
  rw [Newest, Weak.write, Weak.writtenView, View.advance]
  simp only [Function.update_self, List.length_append, List.length_singleton, List.getLast?_append, List.getLast?_singleton,
    Option.some_or, and_true]
  exact max_eq_right (Nat.le_succ_of_le behind)

theorem newest_read (newest : Newest memory view name cell) : memory.Reads 0 view (name, cell.1) cell.2 := by
  obtain ⟨seen, last⟩ := newest
  refine ⟨(memory.stores (name, cell.1)).length, Nat.le_of_eq seen, ?_⟩
  rw [List.getLast?_eq_getElem?] at last
  obtain ⟨inside, _⟩ := List.getElem?_eq_some_iff.mp last
  have position : (memory.stores (name, cell.1)).length = (memory.stores (name, cell.1)).length - 1 + 1 := by omega
  rw [position, List.getElem?_cons_succ]
  exact last

theorem newest_beside (other : Nat × Nat) (different : other.1 ≠ cell.1) (newest : Newest memory view name other) :
    Newest (memory.write (name, cell.1) cell.2) (memory.writtenView view (name, cell.1)) name other := by
  have apart : (name, other.1) ≠ (name, cell.1) := fun same => different (congrArg Prod.snd same)
  rw [Newest, Weak.writtenView, advance_elsewhere view _ _ _ fun same => apart (Sum.inl.inj same), Weak.write]
  simp only [Function.update_of_ne apart]
  exact newest

theorem behind_written (behind : ∀ slot, view (.inl (name, slot)) ≤ (memory.stores (name, slot)).length) (slot : Nat) :
    memory.writtenView view (name, cell.1) (.inl (name, slot)) ≤
      ((memory.write (name, cell.1) cell.2).stores (name, slot)).length := by
  by_cases same : slot = cell.1
  · subst same
    exact Nat.le_of_eq (newest_written name memory view cell (behind cell.1)).1
  · have apart : (name, slot) ≠ (name, cell.1) := fun equal => same (congrArg Prod.snd equal)
    rw [Weak.writtenView, advance_elsewhere view _ _ _ fun equal => apart (Sum.inl.inj equal), Weak.write]
    simp only [Function.update_of_ne apart]
    exact behind slot

end Newest

structure Stocked (translation : String → Key) (memory : CacheMemory) (view : CacheView) (name : String) : Prop where
  positive : 0 < (translation name).val.length
  seen : view (.inr name) = (memory.releases name).length
  length : ∃ carried, carried ≤ view ∧ (memory.releases name).getLast? = some ((translation name).val.length, carried)
  segments : ∀ cell ∈ (List.range keySegs).zip (translation name).val, Newest memory view name cell

theorem stocked_release (translation : String → Key) (name : String) (memory : CacheMemory) (view : CacheView)
    (positive : 0 < (translation name).val.length) (unseen : view (.inr name) = 0)
    (newest : ∀ cell ∈ (List.range keySegs).zip (translation name).val, Newest memory view name cell) :
    Stocked translation (memory.release view name (translation name).val.length) (memory.releasedView view name) name where
  positive := positive
  seen := by
    rw [Weak.releasedView, View.advance, Weak.release]
    simp [unseen]
  length := ⟨memory.releasedView view name, le_refl _, by rw [Weak.release]; simp⟩
  segments cell member := by
    rw [Newest, Weak.releasedView, advance_elsewhere view _ _ _ Sum.inl_ne_inr]
    exact newest cell member

theorem stocked_acquires {translation : String → Key} {memory : CacheMemory} {view : CacheView} {name : String}
    (stocked : Stocked translation memory view name) : memory.Acquires 0 view name (translation name).val.length view := by
  obtain ⟨carried, known, last⟩ := stocked.length
  rw [List.getLast?_eq_getElem?] at last
  obtain ⟨inside, _⟩ := List.getElem?_eq_some_iff.mp last
  have position : (memory.releases name).length - 1 + 1 = (memory.releases name).length := by omega
  refine .inr ⟨_, carried, by rw [position]; exact Nat.le_of_eq stocked.seen, last, ?_⟩
  rw [position, sup_eq_left.mpr known, View.advance, stocked.seen, max_self, ← stocked.seen, Function.update_eq_self]

theorem stocked_beside {translation : String → Key} {name other : String} {memory after : CacheMemory} {view seen : CacheView}
    (beside : Beside name memory after view seen) (different : other ≠ name) (stocked : Stocked translation memory view other) :
    Stocked translation after seen other where
  positive := stocked.positive
  seen := by rw [beside.flag other different, beside.releases other different]; exact stocked.seen
  length := by
    obtain ⟨carried, known, last⟩ := stocked.length
    exact ⟨carried, le_trans known beside.grows, by rw [beside.releases other different]; exact last⟩
  segments cell member := by
    rw [Newest, beside.cell other _ different, beside.stores other _ different]
    exact stocked.segments cell member

section Runs

variable {S G Api : Type} {Result : Api → Type}
  {system : System (Command Mallctl) (Command.Response MallctlResponse) (Local G) (World S) Api Result}

def Resolves (translation : String → Key)
    (system : System (Command Mallctl) (Command.Response MallctlResponse) (Local G) (World S) Api Result) : Prop :=
  ∀ (cache next : CacheCall) (memory after : CacheMemory) (ghost : G) (state : S) (command : CacheCommand)
    (response : command.Response),
    cacheExec translation cache memory command response next after → answers translation (.cache command) response →
      system.exec ⟨cache, ghost⟩ ⟨memory, state⟩ (.cache command) response ⟨next, ghost⟩ ⟨after, state⟩

variable (translation : String → Key)

theorem process_resolves (surroundings : Surroundings S G Api Result) : Resolves translation (process translation surroundings) :=
  fun _ _ _ _ _ _ _ _ cached _ => ⟨cached, rfl, rfl⟩

theorem knowing_resolves (surroundings : Surroundings S G Api Result) :
    Resolves translation ((process translation surroundings).restrict (answers translation)) :=
  fun _ _ _ _ _ _ _ _ cached admitted => ⟨⟨cached, rfl, rfl⟩, admitted⟩

variable {translation} (resolves : Resolves translation system) (memory : CacheMemory) (state : S)
  (callers : Nat → Option (Caller (Command Mallctl) (Command.Response MallctlResponse) (Local G) Api Result))
  (thread : Nat) (api : Api) (cache : CacheCall) (ghost : G)

include resolves

theorem cache_step (next : CacheCall) (after : CacheMemory) (command : CacheCommand) (response : command.Response)
    (resume : command.Response → Ctl MallctlResponse (Result api))
    (reached : Reachable system ⟨⟨memory, state⟩, Function.update callers thread
      (some ⟨api, ⟨cache, ghost⟩, .call (.cache command) resume⟩)⟩)
    (cached : cacheExec translation cache memory command response next after)
    (admitted : answers translation (.cache command) response) :
    Reachable system ⟨⟨after, state⟩, Function.update callers thread (some ⟨api, ⟨next, ghost⟩, resume response⟩)⟩ := by
  have moved := reachable_exec _ _ ⟨after, state⟩ _ reached thread api _ ⟨next, ghost⟩ (.cache command) resume response
    (Function.update_self _ _ _) (resolves _ _ _ _ _ _ _ _ cached admitted)
  rwa [Function.update_idem] at moved

theorem store_segments_run (name : String) (cells : List (Nat × Nat)) (distinct : (cells.map Prod.fst).Nodup)
    (next : Unit → Ctl MallctlResponse (Result api))
    (reached : Reachable system ⟨⟨memory, state⟩, Function.update callers thread
      (some ⟨api, ⟨cache, ghost⟩, Cache.storeSegments MallctlResponse name cells >>= next⟩)⟩) :
    ∃ after last, Beside name memory after cache.view last.view ∧
      ((∀ slot, cache.view (.inl (name, slot)) ≤ (memory.stores (name, slot)).length) →
        ∀ cell ∈ cells, Newest after last.view name cell) ∧
      (∀ cell, cell.1 ∉ cells.map Prod.fst → Newest memory cache.view name cell → Newest after last.view name cell) ∧
      last.view (.inr name) = cache.view (.inr name) ∧
      Reachable system ⟨⟨after, state⟩, Function.update callers thread (some ⟨api, ⟨last, ghost⟩, next ()⟩)⟩ := by
  induction cells generalizing memory cache with
  | nil => exact ⟨memory, cache, beside_refl _ _ _, fun _ _ member => (nomatch member), fun _ _ newest => newest, rfl, reached⟩
  | cons cell rest ih =>
      obtain ⟨fresh, distinct⟩ := List.nodup_cons.mp distinct
      have stored := cache_step resolves memory state callers thread api cache ghost
        { cache with
          view := memory.writtenView cache.view (name, cell.1)
          stores := cache.stores + 1 } _ (.storeSegment name cell.1 cell.2) () _ reached ⟨rfl, rfl⟩ trivial
      obtain ⟨after, last, beside, newest, kept, flag, run⟩ := ih _ _ distinct stored
      have written := beside_write name cell.1 cell.2 memory cache.view
      refine ⟨after, last, beside_trans written beside, ?_, ?_, flag.trans ?_, run⟩
      · intro behind added member
        rcases List.mem_cons.mp member with rfl | later
        · exact kept added fresh (newest_written name memory cache.view added (behind added.1))
        · exact newest (behind_written name memory cache.view cell behind) added later
      · intro other absent newest
        exact kept other (fun member => absent (.tail _ member))
          (newest_beside name memory cache.view cell other (fun same => absent (same ▸ .head _)) newest)
      · exact advance_elsewhere cache.view (.inl (name, cell.1)) (.inr name) ((memory.stores (name, cell.1)).length + 1)
          Sum.inr_ne_inl

omit resolves in
theorem mibs_call (name : String) (translatable : Translatable translation name) :
    ∃ buffer, cString buffer = utf8 name ∧ mibs MallctlResponse name =
      .call (.cache (.nametomib buffer keySegs)) fun response => .ret (accept (components name).length response) := by
  have checks : ¬(utf8 name = [] ∨ nameMax ≤ (utf8 name).length ∨ 0 ∈ utf8 name ∨ keySegs < (components name).length) := by
    intro rejected
    rcases rejected with empty | long | nul | deep
    · exact translatable.nonempty empty
    · exact absurd translatable.short (Nat.not_lt.mpr long)
    · exact translatable.clean nul
    · exact absurd translatable.shallow (Nat.not_le.mpr deep)
  obtain ⟨buffer, _, text, issued⟩ := mibs_issues MallctlResponse name checks
  exact ⟨buffer, text, issued⟩

theorem get_runs (name : String) (translatable : Translatable translation name) (unseen : cache.view (.inr name) = 0)
    (next : Except Error Key → Ctl MallctlResponse (Result api))
    (reached : Reachable system ⟨⟨memory, state⟩, Function.update callers thread
      (some ⟨api, ⟨cache, ghost⟩, Cache.get MallctlResponse name >>= next⟩)⟩) :
    ∃ after last, Beside name memory after cache.view last.view ∧
      ((∀ slot, cache.view (.inl (name, slot)) ≤ (memory.stores (name, slot)).length) → Stocked translation after last.view name) ∧
      Reachable system ⟨⟨after, state⟩, Function.update callers thread
        (some ⟨api, ⟨last, ghost⟩, next (.ok (translation name))⟩)⟩ := by
  obtain ⟨buffer, text, called⟩ := mibs_call name translatable
  rw [get_unpublished] at reached
  have loaded := cache_step resolves memory state callers thread api cache ghost { cache with acquired := some 0 } memory
    (.loadLen name) (0 : Nat)
    (fun len : Nat => if len > 0 then Cache.load MallctlResponse name len >>= next
      else mibs MallctlResponse name >>= keep name next) reached ⟨⟨_, .inl ⟨unseen, rfl, rfl⟩, rfl⟩, rfl⟩ trivial
  simp only [gt_iff_lt, Nat.lt_irrefl, if_false, called] at loaded
  have translates : Translates translation buffer (translated translation name) := by
    intro other same key accepted
    obtain rfl := utf8_injective other name (same.symm.trans text)
    rw [translated_accepted translation other translatable] at accepted
    exact (Except.ok.inj accepted).symm
  have known : answers translation (.cache (.nametomib buffer keySegs)) (translated translation name) := by
    intro other knownOther same
    obtain rfl := utf8_injective other name (same.symm.trans text)
    exact translated_accepted translation other knownOther
  have found := cache_step resolves memory state callers thread api _ ghost
    { cache with
      acquired := some 0
      translations := cache.translations + 1 } memory (.nametomib buffer keySegs) (translated translation name)
    (fun response => keep name next (accept (components name).length response)) loaded ⟨translates, rfl, rfl⟩ known
  rw [translated_accepted translation name translatable] at found
  have distinct : (((List.range keySegs).zip (translation name).val).map Prod.fst).Nodup := by
    rw [List.zip_eq_zip_take_min, List.map_fst_zip (by simp)]
    exact List.nodup_range.sublist (List.take_sublist _ _)
  obtain ⟨later, view, beside, newest, _, flag, stored⟩ :=
    store_segments_run resolves memory state callers thread api _ ghost name _ distinct _ found
  have published := cache_step resolves later state callers thread api view ghost
    { view with
      view := later.releasedView view.view name
      stores := view.stores + 1 } _ (.storeLen name (translation name).val.length) () _ stored ⟨rfl, rfl⟩ trivial
  refine ⟨_, _, beside_trans beside (beside_release name (translation name).val.length later view.view), ?_, published⟩
  intro behind
  exact stocked_release translation name later view.view (translatable_positive translatable) (flag.trans unseen) (newest behind)

theorem load_segments_run (name : String) (rest : List Nat) (key : Key) (start : Nat)
    (split : (translation name).val = key.val ++ rest) (already : key.val.length = start)
    (newest : ∀ slot segment, (translation name).val[slot]? = some segment → Newest memory cache.view name (slot, segment))
    (next : Except Error Key → Ctl MallctlResponse (Result api))
    (reached : Reachable system ⟨⟨memory, state⟩, Function.update callers thread (some ⟨api, ⟨cache, ghost⟩,
      Cache.loadSegments MallctlResponse name (List.range' start rest.length) key >>= next⟩)⟩) :
    Reachable system ⟨⟨memory, state⟩, Function.update callers thread
      (some ⟨api, ⟨cache, ghost⟩, next (.ok (translation name))⟩)⟩ := by
  induction rest generalizing key start with
  | nil =>
      have whole : translation name = key := Subtype.ext (split.trans (List.append_nil key.val))
      rw [whole]
      exact reached
  | cons segment rest ih =>
      have here : (translation name).val[start]? = some segment := by
        rw [split, ← already, List.getElem?_append_right (Nat.le_refl _), Nat.sub_self, List.getElem?_cons_zero]
      have room : key.val.length < keySegs := by
        have bound := (translation name).property
        rw [split, List.length_append, List.length_cons] at bound
        omega
      have read := cache_step resolves memory state callers thread api cache ghost cache memory
        (.loadSegment name start) segment _ reached
        ⟨newest_read name memory cache.view _ (newest start segment here), rfl, rfl⟩ trivial
      simp only [Key.tryPush, dif_pos room] at read
      refine ih ⟨key.val ++ [segment], by rw [List.length_append]; exact room⟩ (start + 1)
        (by rw [List.append_assoc]; exact split) ?_ read
      rw [List.length_append, already, List.length_singleton]

theorem get_hits (name : String) (stocked : Stocked translation memory cache.view name)
    (next : Except Error Key → Ctl MallctlResponse (Result api))
    (reached : Reachable system ⟨⟨memory, state⟩, Function.update callers thread
      (some ⟨api, ⟨cache, ghost⟩, Cache.get MallctlResponse name >>= next⟩)⟩) :
    ∃ last, last.view = cache.view ∧ Reachable system ⟨⟨memory, state⟩, Function.update callers thread
        (some ⟨api, ⟨last, ghost⟩, next (.ok (translation name))⟩)⟩ := by
  rw [get_unpublished] at reached
  have loaded := cache_step resolves memory state callers thread api cache ghost
    { cache with acquired := some (translation name).val.length } memory (.loadLen name) (translation name).val.length
    (fun len : Nat => if len > 0 then Cache.load MallctlResponse name len >>= next
      else mibs MallctlResponse name >>= keep name next) reached
    ⟨⟨cache.view, stocked_acquires stocked, rfl⟩, rfl⟩ trivial
  simp only [if_pos stocked.positive, Cache.load] at loaded
  have slots : (List.range keySegs).take (translation name).val.length = List.range' 0 (translation name).val.length := by
    rw [List.take_range, Nat.min_eq_left (translation name).property, List.range_eq_range']
  rw [slots] at loaded
  have newest : ∀ slot segment, (translation name).val[slot]? = some segment → Newest memory cache.view name (slot, segment) := by
    intro slot segment present
    obtain ⟨inside, _⟩ := List.getElem?_eq_some_iff.mp present
    have numbered : (List.range keySegs)[slot]? = some slot :=
      List.getElem?_range (Nat.lt_of_lt_of_le inside (translation name).property)
    exact stocked.segments _ (List.mem_of_getElem? (List.getElem?_zip_eq_some.mpr ⟨numbered, present⟩))
  let served : CacheCall := { cache with acquired := some (translation name).val.length }
  exact ⟨served, rfl, load_segments_run resolves memory state callers thread api served ghost name (translation name).val .new 0 rfl
    rfl newest next loaded⟩

end Runs

def resolved {α : Type} (next : Key → Jem α) : Except Error Key → Ctl MallctlResponse (Except Error α)
  | .ok key => (next key).run
  | .error error => .ret (.error error)

theorem resolved_run {α : Type} (name : String) (next : Key → Jem α) :
    (defineKey name >>= next).run = Cache.get MallctlResponse name >>= resolved next := by
  have same : ExceptT.bindCont next = resolved next := by
    funext result
    cases result with
    | ok key => rfl
    | error error => rfl
  exact congrArg (fun rest => Cache.get MallctlResponse name >>= rest) same

def spell (word : List UInt8) : Nat := word.foldl (fun sum byte => sum * 256 + byte.toNat) 1

def spelledCode (_ : List (Option (List UInt8))) (word : List UInt8) : Nat := spell word

theorem mib_from_length (code : List (Option (List UInt8)) → List UInt8 → Nat) (path : List (Option (List UInt8)))
    (words : List (List UInt8)) : (mibFrom code path words).length = words.length := by
  induction words generalizing path with
  | nil => rfl
  | cons word rest ih =>
      rw [mibFrom]
      cases integer word with
      | some value => simp only [List.length_cons, ih]
      | none => simp only [List.length_cons, ih]

def spelledKey (name : String) : Key :=
  if fits : (components name).length ≤ keySegs then
    ⟨mibFrom spelledCode [] (components name), by rw [mib_from_length]; exact fits⟩
  else .new

theorem spelled_componentwise : Componentwise spelledKey spelledCode where
  each name fits := by rw [spelledKey, dif_pos fits]

def spelledMeaning : List Nat → Option Control
  | [head, index, tail] =>
      if head = spell (utf8 "arena") then
        ([ArenaControl.purge, .decay, .reset, .destroy, .name, .dss, .muzzyDecay, .dirtyDecay, .retainGrowLimit,
          .extentHooks].find? fun control => spell (utf8 control.word) = tail).map (Control.arena index)
      else none
  | mib =>
      [Control.arenasCreate, .arenasLookup, .threadArena, .tcacheCreate, .tcacheFlush, .tcacheDestroy].find? fun control =>
        (spelledKey control.name).val = mib

theorem spelled_interprets : Interprets spelledKey spelledMeaning where
  known control := by
    cases control with
    | arena index control =>
        rw [arena_mib spelledKey spelledCode spelled_componentwise]
        cases control <;> rfl
    | _ => decide

theorem spelled_translatable (name : String) (nonempty : utf8 name ≠ []) (short : (utf8 name).length < nameMax)
    (clean : 0 ∉ utf8 name) (shallow : (components name).length ≤ keySegs) : Translatable spelledKey name :=
  ⟨nonempty, short, clean, shallow, by rw [spelled_componentwise.each name shallow, mib_from_length]⟩

end Jevmalloc
