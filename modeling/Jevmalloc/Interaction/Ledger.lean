import Mathlib.Logic.Function.Basic
import Mathlib.Data.List.Basic
import Mathlib.Data.Nat.ModEq

set_option autoImplicit false

namespace Interaction

-- A ledger lists the instants at which anything happened, in order. A call
-- draws a ticket when it begins, may act at one instant, and leaves a receipt.
structure Receipt (O : Type) where
  ticket : Nat
  entered : Nat
  finished : Nat
  outcome : O

structure Slip (E : Type) where
  ticket : Nat
  entered : Nat
  acted : Option (Nat × E)

structure Ledger (E O : Type) where
  log : List (Nat × E)
  issued : Nat
  receipts : List (Receipt O)

variable {E O : Type}

namespace Ledger

def empty : Ledger E O := ⟨[], 0, []⟩
def slip (ledger : Ledger E O) : Slip E := ⟨ledger.issued, ledger.log.length, none⟩
def issue (ledger : Ledger E O) : Ledger E O := { ledger with issued := ledger.issued + 1 }

def act (ledger : Ledger E O) (slip : Slip E) (event : E) : Ledger E O :=
  { ledger with log := ledger.log ++ [(slip.ticket, event)] }

def stamp (ledger : Ledger E O) (slip : Slip E) (event : E) : Slip E :=
  { slip with acted := some (ledger.log.length, event) }

def finish (ledger : Ledger E O) (slip : Slip E) (outcome : O) : Ledger E O :=
  { ledger with receipts := ⟨slip.ticket, slip.entered, ledger.log.length, outcome⟩ :: ledger.receipts }

end Ledger

def Unlogged (log : List (Nat × E)) (ticket : Nat) : Prop := ∀ (index : Nat) (event : E), log[index]? ≠ some (ticket, event)

def LoggedAt (log : List (Nat × E)) (ticket index : Nat) (event : E) : Prop :=
  log[index]? = some (ticket, event) ∧ ∀ (other : Nat) (again : E), log[other]? = some (ticket, again) → other = index

structure Filed (log : List (Nat × E)) (slip : Slip E) : Prop where
  entered : slip.entered ≤ log.length
  unlogged : slip.acted = none → Unlogged log slip.ticket
  logged : ∀ index event, slip.acted = some (index, event) → slip.entered ≤ index ∧ LoggedAt log slip.ticket index event

structure Accounted (gives : O → E → Prop) (fails : O → Prop) (log : List (Nat × E)) (receipt : Receipt O) : Prop where
  finished : receipt.finished ≤ log.length
  accounted : (fails receipt.outcome ∧ Unlogged log receipt.ticket) ∨
    ∃ index event, receipt.entered ≤ index ∧ index < receipt.finished ∧ LoggedAt log receipt.ticket index event ∧
      gives receipt.outcome event

structure Books (gives : O → E → Prop) (fails : O → Prop) (ledger : Ledger E O) (slips : Nat → Option (Slip E)) : Prop where
  filed : ∀ holder slip, slips holder = some slip → Filed ledger.log slip ∧ slip.ticket < ledger.issued
  accounted : ∀ receipt ∈ ledger.receipts, Accounted gives fails ledger.log receipt ∧ receipt.ticket < ledger.issued
  logged : ∀ (index : Nat) (ticket : Nat) (event : E), ledger.log[index]? = some (ticket, event) → ticket < ledger.issued
  distinct : ∀ a b first second, slips a = some first → slips b = some second → first.ticket = second.ticket → a = b
  apart : ∀ receipt ∈ ledger.receipts, ∀ holder slip, slips holder = some slip → slip.ticket ≠ receipt.ticket
  once : (ledger.receipts.map Receipt.ticket).Nodup

theorem snoc_entry (log : List (Nat × E)) (entry : Nat × E) (index ticket : Nat) (event : E) :
    (log ++ [entry])[index]? = some (ticket, event) ↔
      log[index]? = some (ticket, event) ∨ (index = log.length ∧ entry = (ticket, event)) := by
  rcases Nat.lt_trichotomy index log.length with before | at_end | beyond
  · rw [List.getElem?_append_left before]
    constructor
    · exact .inl
    · rintro (held | ⟨last, _⟩)
      · exact held
      · omega
  · subst index
    simp
  · rw [List.getElem?_append_right (by omega), List.getElem?_eq_none (by simp; omega), List.getElem?_eq_none (by omega)]
    simp
    omega

theorem unlogged_snoc (log : List (Nat × E)) (ticket other : Nat) (event : E) (unlogged : Unlogged log ticket)
    (different : ticket ≠ other) : Unlogged (log ++ [(other, event)]) ticket := by
  intro index again held
  rcases (snoc_entry log _ index ticket again).mp held with before | ⟨_, same⟩
  · exact unlogged index again before
  · exact different (congrArg Prod.fst same).symm

theorem logged_snoc (log : List (Nat × E)) (ticket other index : Nat) (event added : E)
    (logged : LoggedAt log ticket index event) (different : ticket ≠ other) :
    LoggedAt (log ++ [(other, added)]) ticket index event := by
  refine ⟨(snoc_entry log _ index ticket event).mpr (.inl logged.1), ?_⟩
  intro place again held
  rcases (snoc_entry log _ place ticket again).mp held with before | ⟨_, same⟩
  · exact logged.2 place again before
  · exact absurd (congrArg Prod.fst same).symm different

theorem logged_last (log : List (Nat × E)) (ticket : Nat) (event : E) (unlogged : Unlogged log ticket) :
    LoggedAt (log ++ [(ticket, event)]) ticket log.length event := by
  refine ⟨(snoc_entry log _ _ ticket event).mpr (.inr ⟨rfl, rfl⟩), ?_⟩
  intro place again held
  rcases (snoc_entry log _ place ticket again).mp held with before | ⟨last, _⟩
  · exact absurd before (unlogged place again)
  · exact last

section Books

variable {gives : O → E → Prop} {fails : O → Prop} {ledger : Ledger E O} {slips : Nat → Option (Slip E)}

theorem books_empty : Books gives fails (Ledger.empty : Ledger E O) fun _ => none where
  filed := by simp
  accounted := by simp [Ledger.empty]
  logged := by simp [Ledger.empty]
  distinct := by simp
  apart := by simp
  once := by simp [Ledger.empty]

theorem books_issue (books : Books gives fails ledger slips) (holder : Nat) (idle : slips holder = none) :
    Books gives fails ledger.issue (Function.update slips holder (some ledger.slip)) := by
  -- A held slip is the fresh one or was held before.
  have held : ∀ other slip, Function.update slips holder (some ledger.slip) other = some slip →
      (other = holder ∧ slip = ledger.slip) ∨ (other ≠ holder ∧ slips other = some slip ∧ slip.ticket < ledger.issued) := by
    intro other slip found
    by_cases same : other = holder
    · subst other
      rw [Function.update_self, Option.some.injEq] at found
      exact .inl ⟨rfl, found.symm⟩
    · rw [Function.update_of_ne same] at found
      exact .inr ⟨same, found, (books.filed other slip found).2⟩
  refine ⟨?_, ?_, ?_, ?_, ?_, books.once⟩
  · intro other slip found
    rcases held other slip found with ⟨_, rfl⟩ | ⟨_, before, below⟩
    · refine ⟨⟨Nat.le_refl _, ?_, ?_⟩, Nat.lt_succ_self _⟩
      · intro _ index event logged
        exact Nat.lt_irrefl _ (books.logged index _ event logged)
      · intro index event acted
        cases acted
    · exact ⟨(books.filed other slip before).1, Nat.lt_succ_of_lt below⟩
  · intro receipt member
    obtain ⟨accounted, below⟩ := books.accounted receipt member
    exact ⟨accounted, Nat.lt_succ_of_lt below⟩
  · intro index ticket event logged
    exact Nat.lt_succ_of_lt (books.logged index ticket event logged)
  · intro a b first second atA atB same
    rcases held a first atA with ⟨rfl, rfl⟩ | ⟨_, beforeA, belowA⟩
    · rcases held b second atB with ⟨rfl, rfl⟩ | ⟨_, beforeB, belowB⟩
      · rfl
      · exact absurd same.symm (Nat.ne_of_lt belowB)
    · rcases held b second atB with ⟨rfl, rfl⟩ | ⟨_, beforeB, belowB⟩
      · exact absurd same (Nat.ne_of_lt belowA)
      · exact books.distinct a b first second beforeA beforeB same
  · intro receipt member other slip found
    rcases held other slip found with ⟨_, rfl⟩ | ⟨_, before, _⟩
    · exact Ne.symm (Nat.ne_of_lt (books.accounted receipt member).2)
    · exact books.apart receipt member other slip before

theorem books_act (books : Books gives fails ledger slips) (holder : Nat) (slip : Slip E) (event : E)
    (mine : slips holder = some slip) (unacted : slip.acted = none) :
    Books gives fails (ledger.act slip event) (Function.update slips holder (some (ledger.stamp slip event))) := by
  obtain ⟨filed, below⟩ := books.filed holder slip mine
  have held : ∀ other found, Function.update slips holder (some (ledger.stamp slip event)) other = some found →
      (other = holder ∧ found = ledger.stamp slip event) ∨
        (other ≠ holder ∧ slips other = some found ∧ found.ticket ≠ slip.ticket) := by
    intro other found present
    by_cases same : other = holder
    · subst other
      rw [Function.update_self, Option.some.injEq] at present
      exact .inl ⟨rfl, present.symm⟩
    · rw [Function.update_of_ne same] at present
      exact .inr ⟨same, present, fun ticket => same (books.distinct other holder found slip present mine ticket)⟩
  have longer : ledger.log.length ≤ (ledger.act slip event).log.length := by
    simp [Ledger.act]
  refine ⟨?_, ?_, ?_, ?_, ?_, books.once⟩
  · intro other found present
    rcases held other found present with ⟨_, rfl⟩ | ⟨_, before, different⟩
    · refine ⟨⟨Nat.le_trans filed.entered longer, nofun, ?_⟩, below⟩
      rintro index again ⟨⟩
      exact ⟨filed.entered, logged_last _ _ event (filed.unlogged unacted)⟩
    · obtain ⟨earlier, issued⟩ := books.filed other found before
      refine ⟨⟨Nat.le_trans earlier.entered longer, ?_, ?_⟩, issued⟩
      · intro idle
        exact unlogged_snoc _ _ _ event (earlier.unlogged idle) different
      · intro index again acted
        obtain ⟨after, logged⟩ := earlier.logged index again acted
        exact ⟨after, logged_snoc _ _ _ index again event logged different⟩
  · intro receipt member
    obtain ⟨accounted, issued⟩ := books.accounted receipt member
    have different : receipt.ticket ≠ slip.ticket := Ne.symm (books.apart receipt member holder slip mine)
    refine ⟨⟨Nat.le_trans accounted.finished longer, ?_⟩, issued⟩
    rcases accounted.accounted with ⟨failed, unlogged⟩ | ⟨index, again, after, before, logged, given⟩
    · exact .inl ⟨failed, unlogged_snoc _ _ _ event unlogged different⟩
    · exact .inr ⟨index, again, after, before, logged_snoc _ _ _ index again event logged different, given⟩
  · intro index ticket again logged
    rcases (snoc_entry _ _ index ticket again).mp logged with before | ⟨_, same⟩
    · exact books.logged index ticket again before
    · obtain ⟨rfl, _⟩ := Prod.mk.inj same
      exact below
  · have tickets : ∀ other found, Function.update slips holder (some (ledger.stamp slip event)) other = some found →
        ∃ before, slips other = some before ∧ before.ticket = found.ticket := by
      intro other found present
      rcases held other found present with ⟨rfl, rfl⟩ | ⟨_, before, _⟩
      · exact ⟨slip, mine, rfl⟩
      · exact ⟨found, before, rfl⟩
    intro a b first second atA atB same
    obtain ⟨earlier, heldA, ticketA⟩ := tickets a first atA
    obtain ⟨later, heldB, ticketB⟩ := tickets b second atB
    exact books.distinct a b earlier later heldA heldB (by rw [ticketA, ticketB]; exact same)
  · intro receipt member other found present
    rcases held other found present with ⟨_, rfl⟩ | ⟨_, before, _⟩
    · exact books.apart receipt member holder slip mine
    · exact books.apart receipt member other found before

theorem books_finish (books : Books gives fails ledger slips) (holder : Nat) (slip : Slip E) (outcome : O)
    (mine : slips holder = some slip)
    (settled : (fails outcome ∧ slip.acted = none) ∨ ∃ index event, slip.acted = some (index, event) ∧ gives outcome event) :
    Books gives fails (ledger.finish slip outcome) (Function.update slips holder none) := by
  obtain ⟨filed, below⟩ := books.filed holder slip mine
  have held : ∀ other found, Function.update slips holder none other = some found → other ≠ holder ∧ slips other = some found := by
    intro other found present
    by_cases same : other = holder
    · subst other
      simp at present
    · exact ⟨same, by rwa [Function.update_of_ne same] at present⟩
  refine ⟨?_, ?_, books.logged, ?_, ?_, ?_⟩
  · intro other found present
    exact books.filed other found (held other found present).2
  · intro receipt member
    rcases List.mem_cons.mp member with rfl | earlier
    · refine ⟨⟨Nat.le_refl _, ?_⟩, below⟩
      rcases settled with ⟨failed, unacted⟩ | ⟨index, event, acted, given⟩
      · exact .inl ⟨failed, filed.unlogged unacted⟩
      · obtain ⟨after, logged⟩ := filed.logged index event acted
        obtain ⟨inside, _⟩ := List.getElem?_eq_some_iff.mp logged.1
        exact .inr ⟨index, event, after, inside, logged, given⟩
    · exact books.accounted receipt earlier
  · intro a b first second atA atB same
    exact books.distinct a b first second (held a first atA).2 (held b second atB).2 same
  · intro receipt member other found present
    obtain ⟨elsewhere, before⟩ := held other found present
    rcases List.mem_cons.mp member with rfl | earlier
    · exact fun ticket => elsewhere (books.distinct other holder found slip before mine ticket)
    · exact books.apart receipt earlier other found before
  · refine List.nodup_cons.mpr ⟨?_, books.once⟩
    intro member
    obtain ⟨receipt, earlier, same⟩ := List.mem_map.mp member
    exact books.apart receipt earlier holder slip mine same.symm

end Books

section Chain

variable {S : Type}

inductive Chain (step : S → E → S → Prop) (start : S) : List E → S → Prop where
  | nil : Chain step start [] start
  | snoc (state next : S) (events : List E) (event : E) (before : Chain step start events state)
      (last : step state event next) : Chain step start (events ++ [event]) next

variable {step : S → E → S → Prop}

theorem chain_states (start final : S) (events : List E) (chain : Chain step start events final) :
    ∃ states : Nat → S, states 0 = start ∧ states events.length = final ∧
      ∀ index event, events[index]? = some event → step (states index) event (states (index + 1)) := by
  induction chain with
  | nil => exact ⟨fun _ => start, rfl, rfl, by simp⟩
  | snoc state next events last before done ih =>
      obtain ⟨states, first, reached, steps⟩ := ih
      refine ⟨Function.update states (events.length + 1) next, ?_, ?_, ?_⟩
      · rw [Function.update_of_ne (by omega)]
        exact first
      · rw [List.length_append, List.length_singleton, Function.update_self]
      · intro index event at_index
        rcases Nat.lt_trichotomy index events.length with inside | at_end | beyond
        · rw [List.getElem?_append_left inside] at at_index
          rw [Function.update_of_ne (by omega), Function.update_of_ne (by omega)]
          exact steps index event at_index
        · subst index
          simp only [List.getElem?_concat_length, Option.some.injEq] at at_index
          subst event
          rw [Function.update_of_ne (by omega), Function.update_self, reached]
          exact done
        · rw [List.getElem?_eq_none (by simp; omega)] at at_index
          cases at_index

-- A version counts the changes of a view. Only marked events can change it, and
-- one event by one.
def Versioned {V : Type} (step : S → E → S → Prop) (version : S → Nat) (view : S → V) (marks : E → Bool) : Prop :=
  ∀ state event next, step state event next →
    (version next = version state ∧ view next = view state) ∨ (marks event = true ∧ version next = version state + 1)

section Versions

variable {V : Type} {version : S → Nat} {view : S → V} {marks : E → Bool}
  (versioned : Versioned step version view marks) (events : List E) (states : Nat → S)
  (steps : ∀ index event, events[index]? = some event → step (states index) event (states (index + 1)))

include versioned steps

theorem version_grows (first last : Nat) (ordered : first ≤ last) (inside : last ≤ events.length) :
    version (states first) ≤ version (states last) ∧
      version (states last) + (events.take first).countP marks ≤ version (states first) + (events.take last).countP marks := by
  induction last, ordered using Nat.le_induction with
  | base => exact ⟨Nat.le_refl _, Nat.le_refl _⟩
  | succ last _ ih =>
      obtain ⟨grows, bounded⟩ := ih (by omega)
      obtain ⟨event, present⟩ : ∃ event, events[last]? = some event := ⟨_, List.getElem?_eq_getElem (by omega)⟩
      have longer : (events.take (last + 1)).countP marks =
          (events.take last).countP marks + if marks event = true then 1 else 0 := by
        rw [List.take_add_one, present, Option.toList_some, List.countP_append, List.countP_singleton]
      rcases versioned _ _ _ (steps last _ present) with ⟨same, _⟩ | ⟨marked, next⟩
      · omega
      · rw [if_pos marked] at longer
        omega

theorem version_still (first place last : Nat) (after : first ≤ place) (before : place ≤ last) (inside : last ≤ events.length)
    (same : version (states first) = version (states last)) : view (states place) = view (states first) := by
  induction place, after using Nat.le_induction with
  | base => rfl
  | succ place above ih =>
      obtain ⟨event, present⟩ : ∃ event, events[place]? = some event := ⟨_, List.getElem?_eq_getElem (by omega)⟩
      rw [← ih (by omega)]
      rcases versioned _ _ _ (steps place _ present) with ⟨_, kept⟩ | ⟨_, next⟩
      · exact kept
      · have low := (version_grows versioned events states steps first place above (by omega)).1
        have high := (version_grows versioned events states steps (place + 1) last before inside).1
        omega

theorem version_wrapped (modulus first last : Nat) (ordered : first ≤ last) (inside : last ≤ events.length)
    (few : events.countP marks < modulus)
    (same : version (states first) % modulus = version (states last) % modulus) :
    version (states first) = version (states last) := by
  obtain ⟨grows, bounded⟩ := version_grows versioned events states steps first last ordered inside
  have within_all : (events.take last).countP marks ≤ events.countP marks := (List.take_sublist last events).countP_le
  have near : version (states last) - version (states first) < modulus := by omega
  have divides : modulus ∣ version (states last) - version (states first) := (Nat.modEq_iff_dvd' grows).mp same
  have still := Nat.eq_zero_of_dvd_of_lt divides near
  omega

end Versions

section Registers

variable {V : Type}

def Written (step : S → E → S → Prop) (view : S → V) (writes : E → Option V) : Prop :=
  ∀ state event next, step state event next → view next = (writes event).getD (view state)

def lastWritten (writes : E → Option V) (events : List E) (first : V) : V :=
  events.foldl (fun held event => (writes event).getD held) first

theorem last_written_snoc (writes : E → Option V) (events : List E) (event : E) (first : V) :
    lastWritten writes (events ++ [event]) first = (writes event).getD (lastWritten writes events first) := List.foldl_append

theorem written_last (view : S → V) (writes : E → Option V) (written : Written step view writes) (events : List E)
    (states : Nat → S) (steps : ∀ index event, events[index]? = some event → step (states index) event (states (index + 1)))
    (place : Nat) (inside : place ≤ events.length) :
    view (states place) = lastWritten writes (events.take place) (view (states 0)) := by
  induction place with
  | zero => rfl
  | succ place ih =>
      obtain ⟨event, present⟩ : ∃ event, events[place]? = some event := ⟨_, List.getElem?_eq_getElem inside⟩
      rw [List.take_add_one, present, Option.toList_some, last_written_snoc, ← ih (Nat.le_of_succ_le inside)]
      exact written _ event _ (steps place event present)

end Registers

end Chain

end Interaction
