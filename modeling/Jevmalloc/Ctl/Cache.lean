import Jevmalloc.Ctl.Key
import Jevmalloc.Interaction.ReleaseAcquire

set_option autoImplicit false

namespace Jevmalloc

open Interaction Bytes

namespace Cache

variable {Op : Type} (R : Op → Type)

def loadSegments (name : String) : List Nat → Key → Ctl R (Except Error Key)
  | [], key => return .ok key
  | slot :: rest, key => do
      let segment ← loadSegment R name slot
      match key.tryPush segment with
      | some key => loadSegments name rest key
      | none => return .error .invalidArgument

def load (name : String) (len : Nat) : Ctl R (Except Error Key) :=
  loadSegments R name ((List.range keySegs).take len) .new

def storeSegments (name : String) : List (Nat × Nat) → Ctl R Unit
  | [] => return ()
  | (slot, segment) :: rest => do
      storeSegment R name slot segment
      storeSegments name rest

def get (name : String) : Ctl R (Except Error Key) := do
  let len ← loadLen R name
  if len > 0 then load R name len
  else do
    match ← mibs R name with
    | .error reason => return .error reason
    | .ok key => do
        storeSegments R name ((List.range keySegs).zip key.val)
        storeLen R name key.val.length
        return .ok key

end Cache

abbrev CacheMemory := Weak (String × Nat) String Nat
abbrev CacheView := View (String × Nat) String

-- What one caller knows: its view of the caches, the length its last acquire
-- load returned, and how often it translated and stored.
structure CacheCall where
  view : CacheView
  acquired : Option Nat
  translations : Nat
  stores : Nat

section Protocol

variable (translation : String → Key)

-- Every successful translation of a name gives the same key. Which calls fail
-- is left open.
def Translates (buffer : List UInt8) {capacity : Nat} (response : MibResponse capacity) : Prop :=
  ∀ name, cString buffer = utf8 name → ∀ key, accept (components name).length response = .ok key → key = translation name

def cacheExec (own : CacheCall) (memory : CacheMemory) :
    (command : CacheCommand) → command.Response → CacheCall → CacheMemory → Prop
  | .loadLen name, len, next, after =>
      (∃ view, memory.Acquires 0 own.view name len view ∧ next = { own with view := view, acquired := some len }) ∧
        after = memory
  | .loadSegment name slot, segment, next, after =>
      memory.Reads 0 own.view (name, slot) segment ∧ next = own ∧ after = memory
  | .storeSegment name slot segment, _, next, after =>
      next = { own with view := memory.writtenView own.view (name, slot), stores := own.stores + 1 } ∧
        after = memory.write (name, slot) segment
  | .storeLen name len, _, next, after =>
      next = { own with view := memory.releasedView own.view name, stores := own.stores + 1 } ∧
        after = memory.release own.view name len
  | .nametomib buffer _, response, next, after =>
      Translates translation buffer response ∧
        next = { own with translations := own.translations + 1 } ∧ after = memory

-- A caller stores only after its own acquire load returned zero, and only the
-- translation; it publishes only once it has stored all of it.
def cachePre (own : CacheCall) : CacheCommand → Prop
  | .loadLen _ => True
  | .loadSegment _ _ => True
  | .storeSegment name slot segment => own.acquired = some 0 ∧ (translation name).val[slot]? = some segment
  | .storeLen name len =>
      own.acquired = some 0 ∧ len = (translation name).val.length ∧ 0 < len ∧
        ∀ slot, slot < len → 1 ≤ own.view (.inl (name, slot))
  | .nametomib _ _ => own.acquired = some 0

def cachePost (own : CacheCall) : (command : CacheCommand) → command.Response → CacheCall → Prop
  | .loadLen name, len, next =>
      own.view ≤ next.view ∧ next.acquired = some len ∧ next.translations = own.translations ∧ next.stores = own.stores ∧
        ((len = (0 : Nat) ∧ own.view (.inr name) = 0 ∧ next.view = own.view) ∨
          (len = (translation name).val.length ∧ (0 : Nat) < len ∧ 1 ≤ next.view (.inr name) ∧
            ∀ slot : Nat, slot < len → 1 ≤ next.view (.inl (name, slot))))
  | .loadSegment name slot, segment, next =>
      next = own ∧ (1 ≤ own.view (.inl (name, slot)) → (translation name).val[slot]? = some segment)
  | .storeSegment name slot _, _, next =>
      own.view ≤ next.view ∧ next.acquired = own.acquired ∧ 1 ≤ next.view (.inl (name, slot))
  | .storeLen name _, _, next => own.view ≤ next.view ∧ next.acquired = own.acquired ∧ 1 ≤ next.view (.inr name)
  | .nametomib buffer _, response, next =>
      Translates translation buffer response ∧ next = { own with translations := own.translations + 1 }

def CacheInv (memory : CacheMemory) : Prop :=
  Published 0 (fun cell => (translation cell.1).val[cell.2]?) (fun name => (translation name).val.length)
    (fun name cell => cell.1 = name ∧ cell.2 < (translation name).val.length) memory

theorem cache_exec_keeps (own next : CacheCall) (memory after : CacheMemory) (command : CacheCommand)
    (response : command.Response) (inv : CacheInv translation memory) (allowed : cachePre translation own command)
    (executed : cacheExec translation own memory command response next after) :
    cachePost translation own command response next ∧ CacheInv translation after := by
  cases command with
  | loadLen name =>
      obtain ⟨⟨view, acquired, rfl⟩, rfl⟩ := executed
      refine ⟨⟨acquires_grows 0 _ _ _ _ acquired, rfl, rfl, rfl, ?_⟩, inv⟩
      rcases published_acquires 0 inv _ _ _ _ acquired with unpublished | ⟨announced, nonzero, known, covered⟩
      · exact .inl unpublished
      · refine .inr ⟨announced, Nat.pos_of_ne_zero nonzero, known, ?_⟩
        intro slot inside
        exact covered (name, slot) ⟨rfl, by rw [← announced]; exact inside⟩
  | loadSegment name slot =>
      obtain ⟨read, rfl, rfl⟩ := executed
      exact ⟨⟨rfl, fun seen => published_reads 0 inv _ _ _ seen read⟩, inv⟩
  | storeSegment name slot segment =>
      obtain ⟨rfl, rfl⟩ := executed
      refine ⟨⟨view_le_advance _ _ _, rfl, ?_⟩, published_write 0 inv _ _ allowed.2⟩
      exact Nat.le_trans (Nat.succ_le_succ (Nat.zero_le _)) (position_le_advance _ _ _)
  | storeLen name len =>
      obtain ⟨rfl, rfl⟩ := executed
      obtain ⟨_, announced, positive, covered⟩ := allowed
      refine ⟨⟨view_le_advance _ _ _, rfl, ?_⟩, published_release 0 inv _ _ _ announced (Nat.ne_of_gt positive) ?_⟩
      · exact Nat.le_trans (Nat.succ_le_succ (Nat.zero_le _)) (position_le_advance _ _ _)
      · intro cell inside
        obtain ⟨rfl, below⟩ := inside
        exact covered cell.2 (by rw [announced]; exact below)
  | nametomib buffer capacity =>
      obtain ⟨translates, rfl, rfl⟩ := executed
      exact ⟨⟨translates, rfl⟩, inv⟩

-- A protocol that lets its callers use the caches by the rules above, starting
-- wherever they are ready to, and nothing else changes while they do.
structure Hosts {Op : Type} {R : Op → Type} {L : Type} (protocol : Protocol (Command Op) (Command.Response R) L)
    (call : L → CacheCall) (ready : L → Prop) (keeps : L → L → Prop) : Prop where
  refl : ∀ own, keeps own own
  trans : ∀ first second third, keeps first second → keeps second third → keeps first third
  pre : ∀ own command, cachePre translation (call own) command → (∀ name, command = .loadLen name → ready own) →
    protocol.pre own (.cache command)
  post : ∀ own command response next, protocol.post own (.cache command) response next →
    cachePost translation (call own) command response (call next) ∧ keeps own next

def Fetched (name : String) (before after : CacheCall) : Except Error Key → Prop
  | .ok key =>
      before.view ≤ after.view ∧ key = translation name ∧ 0 < key.val.length ∧ 1 ≤ after.view (.inr name)
  | .error _ =>
      after.view = before.view ∧ before.view (.inr name) = 0 ∧ after.acquired = some 0 ∧ after.stores = before.stores

section Programs

variable {Op : Type} {R : Op → Type} {L : Type} {protocol : Protocol (Command Op) (Command.Response R) L}
  {call : L → CacheCall} {ready : L → Prop} {keeps : L → L → Prop} (hosts : Hosts translation protocol call ready keeps)

include hosts

theorem load_segments_obeys (name : String) (rest : List Nat) (key : Key) (start : Nat) (own : L)
    (split : (translation name).val = key.val ++ rest) (loaded : key.val.length = start)
    (seen : ∀ slot, slot < (translation name).val.length → 1 ≤ (call own).view (.inl (name, slot))) :
    Obeys protocol (fun next value => value = .ok (translation name) ∧ keeps own next ∧ call next = call own)
      (Cache.loadSegments R name (List.range' start rest.length) key) own := by
  induction rest generalizing key start own with
  | nil =>
      have whole : translation name = key := Subtype.ext (split.trans (List.append_nil key.val))
      exact ⟨congrArg Except.ok whole.symm, hosts.refl own, rfl⟩
  | cons segment rest ih =>
      rw [List.length_cons, List.range'_succ, Cache.loadSegments]
      have total : (translation name).val.length = start + (rest.length + 1) := by
        rw [split, List.length_append, List.length_cons, loaded]
      refine obeys_perform_bind _ _ _ _ _ (hosts.pre own _ trivial nofun) ?_
      intro read next relied
      obtain ⟨⟨same, exact⟩, kept⟩ := hosts.post own _ read next relied
      have here : (translation name).val[start]? = some read := exact (seen _ (by omega))
      rw [split, ← loaded, List.getElem?_append_right (Nat.le_refl _), Nat.sub_self, List.getElem?_cons_zero] at here
      obtain rfl := Option.some.inj here
      have room : key.val.length < keySegs := by
        have bound := (translation name).property
        omega
      simp only [Key.tryPush, dif_pos room]
      have continued := ih ⟨key.val ++ [segment], by rw [List.length_append]; exact room⟩ (start + 1) next
        (by rw [List.append_assoc]; exact split) (by rw [List.length_append, loaded]; rfl) (by rw [same]; exact seen)
      refine obeys_weaken _ _ _ _ _ continued ?_
      rintro last value ⟨result, later, unchanged⟩
      exact ⟨result, hosts.trans own next last kept later, unchanged.trans same⟩

theorem load_obeys (name : String) (len : Nat) (own : L) (exact : len = (translation name).val.length)
    (seen : ∀ slot, slot < len → 1 ≤ (call own).view (.inl (name, slot))) :
    Obeys protocol (fun next value => value = .ok (translation name) ∧ keeps own next ∧ call next = call own)
      (Cache.load R name len) own := by
  subst exact
  have bound : min (translation name).val.length keySegs = (translation name).val.length :=
    Nat.min_eq_left (translation name).property
  rw [Cache.load, List.take_range, bound, List.range_eq_range']
  exact load_segments_obeys translation hosts name (translation name).val .new 0 own rfl rfl seen

theorem store_segments_obeys (name : String) (done rest : List Nat) (slots : Nat) (own : L)
    (split : (translation name).val = done ++ rest) (enough : rest.length ≤ slots) (unpublished : (call own).acquired = some 0)
    (stored : ∀ slot, slot < done.length → 1 ≤ (call own).view (.inl (name, slot))) :
    Obeys protocol (fun next _ => keeps own next ∧ (call own).view ≤ (call next).view ∧ (call next).acquired = some 0 ∧
        ∀ slot, slot < (translation name).val.length → 1 ≤ (call next).view (.inl (name, slot)))
      (Cache.storeSegments R name ((List.range' done.length slots).zip rest)) own := by
  induction rest generalizing done slots own with
  | nil =>
      rw [List.append_nil] at split
      rw [List.zip_nil_right]
      exact ⟨hosts.refl own, le_refl _, unpublished, by rw [split]; exact stored⟩
  | cons segment rest ih =>
      cases slots with
      | zero => exact absurd enough (Nat.not_succ_le_zero _)
      | succ slots =>
          rw [List.range'_succ, List.zip_cons_cons, Cache.storeSegments]
          have here : (translation name).val[done.length]? = some segment := by
            rw [split, List.getElem?_append_right (Nat.le_refl _), Nat.sub_self, List.getElem?_cons_zero]
          refine obeys_perform_bind _ _ _ _ _ (hosts.pre own _ ⟨unpublished, here⟩ nofun) ?_
          intro _ next relied
          obtain ⟨⟨grows, acquired, fresh⟩, kept⟩ := hosts.post own _ _ next relied
          have continued := ih (done ++ [segment]) slots next (by rw [List.append_assoc]; exact split)
            (Nat.le_of_succ_le_succ enough) (acquired.trans unpublished) (by
              intro slot below
              rw [List.length_append, List.length_singleton] at below
              by_cases last : slot = done.length
              · subst last
                exact fresh
              · exact Nat.le_trans (stored slot (by omega)) (grows _))
          rw [List.length_append] at continued
          refine obeys_weaken _ _ _ _ _ continued ?_
          rintro last _ ⟨later, further, zero, all⟩
          exact ⟨hosts.trans own next last kept later, le_trans grows further, zero, all⟩

theorem mibs_obeys (name : String) (own : L) (unpublished : (call own).acquired = some 0) :
    Obeys protocol (fun next value => keeps own next ∧ (call next).view = (call own).view ∧
        (call next).acquired = some 0 ∧ (call next).stores = (call own).stores ∧
        ∀ key, value = .ok key → key = translation name ∧ 0 < key.val.length)
      (mibs R name) own := by
  by_cases rejected : utf8 name = [] ∨ nameMax ≤ (utf8 name).length ∨ 0 ∈ utf8 name ∨ keySegs < (components name).length
  · rw [mibs, if_pos rejected]
    exact ⟨hosts.refl own, rfl, unpublished, rfl, by simp⟩
  · obtain ⟨buffer, _, text, issued⟩ := mibs_issues R name rejected
    rw [issued]
    refine ⟨hosts.pre own _ unpublished (by simp), ?_⟩
    intro response next relied
    obtain ⟨⟨translates, same⟩, kept⟩ := hosts.post own _ response next relied
    refine ⟨kept, by rw [same], by rw [same]; exact unpublished, by rw [same], ?_⟩
    intro key accepted
    refine ⟨translates name text key accepted, ?_⟩
    obtain ⟨_, len, fits, slots⟩ := (accept_ok_iff _ _ _).mp accepted
    have written := response.written
    have positive := components_nonempty name
    rw [slots, written, len]
    omega

theorem get_obeys (name : String) (own : L) (start : ready own) :
    Obeys protocol (fun next value => keeps own next ∧ Fetched translation name (call own) (call next) value)
      (Cache.get R name) own := by
  rw [Cache.get]
  refine obeys_perform_bind _ _ _ _ _ (hosts.pre own _ trivial fun _ _ => start) ?_
  intro len first relied
  obtain ⟨⟨grows, acquired, _, stores, unpublished | announced⟩, kept⟩ := hosts.post own _ len first relied
  · obtain ⟨rfl, unseen, unchanged⟩ := unpublished
    rw [if_neg (Nat.lt_irrefl 0)]
    refine obeys_bind _ _ _ _ _ _ (mibs_obeys translation hosts name first acquired) ?_
    rintro second value ⟨keptMibs, view, zero, same, success⟩
    have toSecond := hosts.trans _ _ _ kept keptMibs
    rw [← view] at grows
    cases value with
    | error reason => exact ⟨toSecond, view.trans unchanged, unseen, zero, same.trans stores⟩
    | ok key =>
        obtain ⟨rfl, positive⟩ := success key rfl
        rw [List.range_eq_range']
        refine obeys_bind _ _ _ _ _ _ (store_segments_obeys translation hosts name [] (translation name).val keySegs second
          rfl (translation name).property zero (by simp)) ?_
        rintro third _ ⟨keptStores, further, still, all⟩
        refine obeys_perform_bind _ _ _ _ _ (hosts.pre third _ ⟨still, rfl, positive, all⟩ nofun) ?_
        intro _ last reliedLast
        obtain ⟨⟨final, _, published⟩, keptLast⟩ := hosts.post third _ _ last reliedLast
        exact ⟨hosts.trans _ _ _ toSecond (hosts.trans _ _ _ keptStores keptLast),
          le_trans grows (le_trans further final), rfl, positive, published⟩
  · obtain ⟨exact, positive, published, seen⟩ := announced
    rw [if_pos positive]
    refine obeys_weaken _ _ _ _ _ (load_obeys translation hosts name len first exact seen) ?_
    rintro last value ⟨rfl, keptLoad, same⟩
    rw [← same] at grows published
    exact ⟨hosts.trans _ _ _ kept keptLoad, grows, rfl, by rw [← exact]; exact positive, published⟩

end Programs

end Protocol

end Jevmalloc
