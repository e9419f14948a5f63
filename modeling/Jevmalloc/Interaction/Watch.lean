import Mathlib.Data.Option.Basic
import Jevmalloc.Interaction.Program

set_option autoImplicit false

namespace Interaction

-- A script that reads named inputs, announces the names whose change should
-- run it again, and acts on its surroundings.
inductive Request (Name Action : Type) where
  | read (name : Name)
  | watch (name : Name)
  | act (action : Action)
  | stop

def Request.Response {Name Action : Type} (Value : Type) (Answer : Action → Type) : Request Name Action → Type
  | .read _ => Value
  | .watch _ => Unit
  | .act action => Answer action
  | .stop => Empty

abbrev Script (Name Value Action : Type) (Answer : Action → Type) (α : Type) :=
  Program (Request Name Action) (Request.Response Value Answer) α

inductive Event (Name Action : Type) where
  | watched (name : Name)
  | acted (action : Action)

variable {Name Value Action : Type} {Answer : Action → Type} {α β : Type}

namespace Script

def read (name : Name) : Script Name Value Action Answer Value := .call (.read name) .ret
def watch (name : Name) : Script Name Value Action Answer Unit := .call (.watch name) .ret
def stop : Script Name Value Action Answer α := .call .stop Empty.elim

def orStop : Option α → Script Name Value Action Answer α
  | some value => .ret value
  | none => stop

end Script

def watches (events : List (Event Name Action)) : List Name :=
  events.filterMap fun
    | .watched name => some name
    | .acted _ => none

section Run

variable (inputs : Name → Value) (answers : List (Event Name Action) → (action : Action) → Answer action)

-- What the surroundings answer may depend on all that has been done to them.
def run : Script Name Value Action Answer α → List (Event Name Action) → List (Event Name Action) × Option α
  | .ret value, past => (past, some value)
  | .call (.read name) resume, past => run (resume (inputs name)) past
  | .call (.watch name) resume, past => run (resume ()) (past ++ [.watched name])
  | .call (.act action) resume, past => run (resume (answers past action)) (past ++ [.acted action])
  | .call .stop _, past => (past, none)

@[simp] theorem run_read (name : Name) (resume : Value → Script Name Value Action Answer α) (past : List (Event Name Action)) :
    run inputs answers (.call (.read name) resume) past = run inputs answers (resume (inputs name)) past := rfl

@[simp] theorem run_act (action : Action) (resume : Answer action → Script Name Value Action Answer α)
    (past : List (Event Name Action)) :
    run inputs answers (.call (.act action) resume) past =
      run inputs answers (resume (answers past action)) (past ++ [.acted action]) := rfl

def runBind (next : α → Script Name Value Action Answer β) :
    List (Event Name Action) × Option α → List (Event Name Action) × Option β
  | (later, some value) => run inputs answers (next value) later
  | (later, none) => (later, none)

theorem run_bind (script : Script Name Value Action Answer α) (next : α → Script Name Value Action Answer β)
    (past : List (Event Name Action)) :
    run inputs answers (script >>= next) past = runBind inputs answers next (run inputs answers script past) := by
  induction script generalizing past with
  | ret value => rfl
  | call command resume ih =>
      cases command with
      | read name => exact ih _ past
      | watch name => exact ih _ _
      | act action => exact ih _ _
      | stop => rfl

theorem run_extends (script : Script Name Value Action Answer α) (past : List (Event Name Action)) :
    past <+: (run inputs answers script past).1 := by
  induction script generalizing past with
  | ret value => exact List.prefix_rfl
  | call command resume ih =>
      cases command with
      | read name => exact ih _ past
      | watch name => exact (List.prefix_append _ _).trans (ih _ _)
      | act action => exact (List.prefix_append _ _).trans (ih _ _)
      | stop => exact List.prefix_rfl

theorem run_watches (script : Script Name Value Action Answer α) (past : List (Event Name Action)) (name : Name)
    (before : name ∈ watches past) : name ∈ watches (run inputs answers script past).1 := by
  obtain ⟨rest, split⟩ := run_extends inputs answers script past
  rw [← split, watches, List.filterMap_append]
  exact List.mem_append_left _ before

end Run

section Related

def deeds (told : Action → Bool) (events : List (Event Name Action)) : List (Event Name Action) :=
  events.filter fun
    | .watched _ => true
    | .acted action => !told action

theorem deeds_snoc (told : Action → Bool) (past later : List (Event Name Action)) (event : Event Name Action)
    (same : deeds told past = deeds told later) : deeds told (past ++ [event]) = deeds told (later ++ [event]) := by
  rw [deeds, deeds, List.filter_append, List.filter_append]
  exact congrArg (· ++ _) same

theorem deeds_told (told : Action → Bool) (past : List (Event Name Action)) (action : Action) (quiet : told action = true) :
    deeds told (past ++ [.acted action]) = deeds told past := by
  rw [deeds, List.filter_append, List.filter_cons_of_neg (by simp [quiet]), List.filter_nil, List.append_nil]
  rfl

theorem watches_deeds (told : Action → Bool) (events : List (Event Name Action)) : watches (deeds told events) = watches events := by
  induction events with
  | nil => rfl
  | cons event rest ih =>
      cases event with
      | watched name => exact congrArg (List.cons name) ih
      | acted action =>
          by_cases quiet : told action = true
          · rw [deeds, List.filter_cons_of_neg (by simp [quiet])]
            exact ih
          · rw [deeds, List.filter_cons_of_pos (by simp [quiet])]
            exact ih

-- Two scripts that do the same, up to what is told, in front of inputs which
-- agree on what has been announced so far and on what is known of the others.
inductive Related (told : Action → Bool) (known : Name → Value → Value → Prop) (shared : Action → Prop) (same : α → β → Prop) :
    List Name → Script Name Value Action Answer α → Script Name Value Action Answer β → Prop where
  | ret (watched : List Name) (first : α) (second : β) (agree : same first second) :
      Related told known shared same watched (.ret first) (.ret second)
  | read (watched : List Name) (name : Name) (first : Value → Script Name Value Action Answer α)
      (second : Value → Script Name Value Action Answer β)
      (rest : ∀ one other, known name one other → Related told known shared same watched (first one) (second other)) :
      Related told known shared same watched (.call (.read name) first) (.call (.read name) second)
  | reread (watched : List Name) (name : Name) (first : Value → Script Name Value Action Answer α)
      (second : Value → Script Name Value Action Answer β) (member : name ∈ watched)
      (rest : ∀ value, Related told known shared same watched (first value) (second value)) :
      Related told known shared same watched (.call (.read name) first) (.call (.read name) second)
  | watch (watched : List Name) (name : Name) (first : Unit → Script Name Value Action Answer α)
      (second : Unit → Script Name Value Action Answer β)
      (rest : Related told known shared same (name :: watched) (first ()) (second ())) :
      Related told known shared same watched (.call (.watch name) first) (.call (.watch name) second)
  | act (watched : List Name) (action : Action) (first : Answer action → Script Name Value Action Answer α)
      (second : Answer action → Script Name Value Action Answer β) (allowed : shared action)
      (rest : ∀ answer, Related told known shared same watched (first answer) (second answer)) :
      Related told known shared same watched (.call (.act action) first) (.call (.act action) second)
  | tell (watched : List Name) (one other : Action) (first : Answer one → Script Name Value Action Answer α)
      (second : Answer other → Script Name Value Action Answer β) (quiet : told one = true) (also : told other = true)
      (rest : ∀ answer reply, Related told known shared same watched (first answer) (second reply)) :
      Related told known shared same watched (.call (.act one) first) (.call (.act other) second)
  | stop (watched : List Name) (first : Empty → Script Name Value Action Answer α)
      (second : Empty → Script Name Value Action Answer β) :
      Related told known shared same watched (.call .stop first) (.call .stop second)

variable {told : Action → Bool} {known : Name → Value → Value → Prop} {shared : Action → Prop} {same : α → β → Prop}
  {first : Script Name Value Action Answer α} {second : Script Name Value Action Answer β}

theorem related_bind {γ δ : Type} {final : γ → δ → Prop} (watched : List Name)
    (next : α → Script Name Value Action Answer γ) (after : β → Script Name Value Action Answer δ)
    (related : Related told known shared same watched first second)
    (rest : ∀ one other more, watched ⊆ more → same one other → Related told known shared final more (next one) (after other)) :
    Related told known shared final watched (first >>= next) (second >>= after) := by
  induction related with
  | ret watched one other agree => exact rest one other watched (List.Subset.refl watched) agree
  | read watched name one other _ ih => exact .read watched name _ _ fun a b agree => ih a b agree rest
  | reread watched name one other member _ ih => exact .reread watched name _ _ member fun value => ih value rest
  | watch watched name one other _ ih =>
      refine .watch watched name _ _ (ih ?_)
      intro a b more subset agree
      exact rest a b more (List.Subset.trans (List.subset_cons_self name watched) subset) agree
  | act watched action one other allowed _ ih => exact .act watched action _ _ allowed fun answer => ih answer rest
  | tell watched one other before after quiet also _ ih =>
      exact .tell watched one other _ _ quiet also fun answer reply => ih answer reply rest
  | stop watched one other => exact .stop watched _ _

theorem related_run (inputs others : Name → Value)
    (answers replies : List (Event Name Action) → (action : Action) → Answer action) (watched : List Name)
    (past later : List (Event Name Action)) (related : Related told known shared same watched first second)
    (agree : ∀ name, known name (inputs name) (others name))
    (common : ∀ past later action, deeds told past = deeds told later → shared action → answers past action = replies later action)
    (before : deeds told past = deeds told later) (seen : ∀ name ∈ watched, inputs name = others name)
    (announced : ∀ name ∈ watches (run inputs answers first past).1, inputs name = others name) :
    deeds told (run inputs answers first past).1 = deeds told (run others replies second later).1 ∧
      Option.Rel same (run inputs answers first past).2 (run others replies second later).2 := by
  induction related generalizing past later with
  | ret watched one other agree => exact ⟨before, .some agree⟩
  | read watched name one other _ ih => exact ih _ _ (agree name) past later before seen announced
  | reread watched name one other member _ ih =>
      rw [run_read] at announced
      rw [run_read, run_read, ← seen name member]
      exact ih _ past later before seen announced
  | watch watched name one other _ ih =>
      apply ih _ _ (deeds_snoc told past later _ before) _ announced
      intro chosen member
      rcases List.mem_cons.mp member with rfl | earlier
      · have now : chosen ∈ watches (past ++ [.watched chosen]) := by
          rw [watches, List.filterMap_append]
          exact List.mem_append_right _ List.mem_cons_self
        exact announced chosen (run_watches inputs answers (one ()) _ chosen now)
      · exact seen chosen earlier
  | act watched action one other allowed _ ih =>
      rw [run_act] at announced
      rw [run_act, run_act, ← common past later action before allowed]
      exact ih _ _ _ (deeds_snoc told past later _ before) seen announced
  | tell watched one other first second quiet also _ ih =>
      refine ih _ _ _ _ ?_ seen announced
      rw [deeds_told told past one quiet, deeds_told told later other also]
      exact before
  | stop watched one other => exact ⟨before, .none⟩

end Related

section Results

def Silent : Script Name Value Action Answer α → Prop
  | .ret _ => True
  | .call (.read _) resume => ∀ value, Silent (resume value)
  | .call (.watch _) _ => False
  | .call (.act _) resume => ∀ answer, Silent (resume answer)
  | .call .stop _ => True

def Yields (inputs : Name → Value) (post : α → Prop) : Script Name Value Action Answer α → Prop
  | .ret value => post value
  | .call (.read name) resume => Yields inputs post (resume (inputs name))
  | .call (.watch _) resume => Yields inputs post (resume ())
  | .call (.act _) resume => ∀ answer, Yields inputs post (resume answer)
  | .call .stop _ => True

theorem silent_bind (script : Script Name Value Action Answer α) (next : α → Script Name Value Action Answer β)
    (first : Silent script) (second : ∀ value, Silent (next value)) : Silent (script >>= next) := by
  induction script with
  | ret value => exact second value
  | call command resume ih =>
      cases command with
      | read name => exact fun value => ih value (first value)
      | watch name => exact first.elim
      | act action => exact fun answer => ih answer (first answer)
      | stop => trivial

theorem yields_bind (inputs : Name → Value) (middle : α → Prop) (post : β → Prop) (script : Script Name Value Action Answer α)
    (next : α → Script Name Value Action Answer β) (first : Yields inputs middle script)
    (second : ∀ value, middle value → Yields inputs post (next value)) : Yields inputs post (script >>= next) := by
  induction script with
  | ret value => exact second value first
  | call command resume ih =>
      cases command with
      | read name => exact ih (inputs name) first
      | watch name => exact ih () first
      | act action => exact fun answer => ih answer (first answer)
      | stop => trivial

theorem yields_weaken (inputs : Name → Value) (strong weak : α → Prop) (script : Script Name Value Action Answer α)
    (holds : Yields inputs strong script) (weaker : ∀ value, strong value → weak value) : Yields inputs weak script := by
  induction script with
  | ret value => exact weaker value holds
  | call command resume ih =>
      cases command with
      | read name => exact ih (inputs name) holds
      | watch name => exact ih () holds
      | act action => exact fun answer => ih answer (holds answer)
      | stop => trivial

theorem yields_after (inputs : Name → Value) (post : β → Prop) (script : Script Name Value Action Answer α)
    (next : α → Script Name Value Action Answer β) (rest : ∀ value, Yields inputs post (next value)) :
    Yields inputs post (script >>= next) := by
  induction script with
  | ret value => exact rest value
  | call command resume ih =>
      cases command with
      | read name => exact ih (inputs name)
      | watch name => exact ih ()
      | act action => exact fun answer => ih answer
      | stop => trivial

variable (inputs : Name → Value) (answers : List (Event Name Action) → (action : Action) → Answer action)

theorem silent_run (script : Script Name Value Action Answer α) (past : List (Event Name Action)) (silent : Silent script) :
    watches (run inputs answers script past).1 = watches past := by
  induction script generalizing past with
  | ret value => rfl
  | call command resume ih =>
      cases command with
      | read name => exact ih _ past (silent _)
      | watch name => exact silent.elim
      | act action =>
          refine (ih _ _ (silent _)).trans ?_
          rw [watches, List.filterMap_append]
          exact List.append_nil _
      | stop => rfl

theorem silent_bind_run (script : Script Name Value Action Answer α) (next : α → Script Name Value Action Answer β)
    (past : List (Event Name Action)) (silent : ∀ value, Silent (next value)) :
    watches (run inputs answers (script >>= next) past).1 = watches (run inputs answers script past).1 := by
  rw [run_bind]
  cases run inputs answers script past with
  | mk later result =>
      cases result with
      | none => rfl
      | some value => exact silent_run inputs answers (next value) later (silent value)

theorem yields_run (post : α → Prop) (script : Script Name Value Action Answer α) (past : List (Event Name Action)) (value : α)
    (yields : Yields inputs post script) (returned : (run inputs answers script past).2 = some value) : post value := by
  induction script generalizing past with
  | ret result =>
      obtain rfl := Option.some.inj returned
      exact yields
  | call command resume ih =>
      cases command with
      | read name => exact ih _ past yields returned
      | watch name => exact ih _ _ yields returned
      | act action => exact ih _ _ (yields _) returned
      | stop => cases returned

end Results

end Interaction
