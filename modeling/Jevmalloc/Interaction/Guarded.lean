import Jevmalloc.Interaction.Watch

set_option autoImplicit false

namespace Interaction

variable {Name Value Action : Type} {Answer : Action → Type} {α β : Type}

section Guarded

variable (inputs : Name → Value) (answers : List (Event Name Action) → (action : Action) → Answer action)

-- Whatever a script does from here on is allowed by all that has been done
-- before it, and a script that returns has met post.
def Guarded (guard : List (Event Name Action) → Event Name Action → Prop) (post : α → List (Event Name Action) → Prop) :
    Script Name Value Action Answer α → List (Event Name Action) → Prop
  | .ret value, past => post value past
  | .call (.read name) resume, past => Guarded guard post (resume (inputs name)) past
  | .call (.watch name) resume, past =>
      guard past (.watched name) ∧ Guarded guard post (resume ()) (past ++ [.watched name])
  | .call (.act action) resume, past =>
      guard past (.acted action) ∧ Guarded guard post (resume (answers past action)) (past ++ [.acted action])
  | .call .stop _, _ => True

variable {guard : List (Event Name Action) → Event Name Action → Prop}

theorem guarded_bind (middle : α → List (Event Name Action) → Prop) (post : β → List (Event Name Action) → Prop)
    (script : Script Name Value Action Answer α) (next : α → Script Name Value Action Answer β) (past : List (Event Name Action))
    (first : Guarded inputs answers guard middle script past)
    (second : ∀ value later, middle value later → Guarded inputs answers guard post (next value) later) :
    Guarded inputs answers guard post (script >>= next) past := by
  induction script generalizing past with
  | ret value => exact second value past first
  | call command resume ih =>
      cases command with
      | read name => exact ih _ past first
      | watch name => exact ⟨first.1, ih _ _ first.2⟩
      | act action => exact ⟨first.1, ih _ _ first.2⟩
      | stop => trivial

theorem guarded_weaken (strong weak : α → List (Event Name Action) → Prop) (script : Script Name Value Action Answer α)
    (past : List (Event Name Action)) (holds : Guarded inputs answers guard strong script past)
    (weaker : ∀ value later, strong value later → weak value later) : Guarded inputs answers guard weak script past := by
  induction script generalizing past with
  | ret value => exact weaker value past holds
  | call command resume ih =>
      cases command with
      | read name => exact ih _ past holds
      | watch name => exact ⟨holds.1, ih _ _ holds.2⟩
      | act action => exact ⟨holds.1, ih _ _ holds.2⟩
      | stop => trivial

theorem guarded_yields (property : α → Prop) (post : α → List (Event Name Action) → Prop)
    (script : Script Name Value Action Answer α) (past : List (Event Name Action)) (yields : Yields inputs property script)
    (holds : Guarded inputs answers guard post script past) :
    Guarded inputs answers guard (fun value later => property value ∧ post value later) script past := by
  induction script generalizing past with
  | ret value => exact ⟨yields, holds⟩
  | call command resume ih =>
      cases command with
      | read name => exact ih _ past yields holds
      | watch name => exact ⟨holds.1, ih _ _ yields holds.2⟩
      | act action => exact ⟨holds.1, ih _ _ (yields _) holds.2⟩
      | stop => trivial

theorem guarded_post (post : α → List (Event Name Action) → Prop) (script : Script Name Value Action Answer α)
    (past : List (Event Name Action)) (value : α) (holds : Guarded inputs answers guard post script past)
    (returned : (run inputs answers script past).2 = some value) : post value (run inputs answers script past).1 := by
  induction script generalizing past with
  | ret result =>
      obtain rfl := Option.some.inj returned
      exact holds
  | call command resume ih =>
      cases command with
      | read name => exact ih _ past holds returned
      | watch name => exact ih _ _ holds.2 returned
      | act action => exact ih _ _ holds.2 returned
      | stop => cases returned

theorem split_first (past before after later : List (Event Name Action)) (event first : Event Name Action)
    (grows : past ++ [first] <+: later) (split : later = before ++ event :: after) (fresh : past.length ≤ before.length) :
    (before = past ∧ event = first) ∨ (past ++ [first]).length ≤ before.length := by
  obtain ⟨rest, same⟩ := grows
  rw [split, List.append_assoc, List.singleton_append] at same
  rcases Nat.eq_or_lt_of_le fresh with equal | more
  · obtain ⟨rfl, tails⟩ := List.append_inj same equal
    exact .inl ⟨rfl, (List.cons.inj tails).1.symm⟩
  · exact .inr (by rw [List.length_append, List.length_singleton]; exact more)

theorem guarded_event (post : α → List (Event Name Action) → Prop) (script : Script Name Value Action Answer α)
    (past before after : List (Event Name Action)) (event : Event Name Action) (holds : Guarded inputs answers guard post script past)
    (split : (run inputs answers script past).1 = before ++ event :: after) (fresh : past.length ≤ before.length) :
    guard before event := by
  induction script generalizing past with
  | ret value =>
      have long := congrArg List.length split
      rw [List.length_append, List.length_cons] at long
      have short : (run inputs answers (.ret value) past).1.length = past.length := rfl
      omega
  | call command resume ih =>
      cases command with
      | read name => exact ih _ past holds split fresh
      | watch name =>
          rcases split_first past before after _ event _ (run_extends inputs answers (resume ()) _) split fresh with
            ⟨rfl, rfl⟩ | later
          · exact holds.1
          · exact ih _ _ holds.2 split later
      | act action =>
          rcases split_first past before after _ event _ (run_extends inputs answers (resume (answers past action)) _) split fresh
            with ⟨rfl, rfl⟩ | later
          · exact holds.1
          · exact ih _ _ holds.2 split later
      | stop =>
          have long := congrArg List.length split
          rw [List.length_append, List.length_cons] at long
          have short : (run inputs answers (.call .stop resume) past).1.length = past.length := rfl
          omega

end Guarded

section Within

variable (inputs : Name → Value)

def Within (allowed : Event Name Action → Prop) : Script Name Value Action Answer α → Prop
  | .ret _ => True
  | .call (.read name) resume => Within allowed (resume (inputs name))
  | .call (.watch name) resume => allowed (.watched name) ∧ Within allowed (resume ())
  | .call (.act action) resume => allowed (.acted action) ∧ ∀ answer, Within allowed (resume answer)
  | .call .stop _ => True

def Only (allowed : Event Name Action → Prop) (events : List (Event Name Action)) : Prop := ∀ event ∈ events, allowed event

variable {allowed : Event Name Action → Prop}

omit inputs in
theorem only_append (first second : List (Event Name Action)) (one : Only allowed first) (two : Only allowed second) :
    Only allowed (first ++ second) := by
  intro event member
  rcases List.mem_append.mp member with here | there
  · exact one event here
  · exact two event there

omit inputs in
theorem only_single (event : Event Name Action) (permitted : allowed event) : Only allowed [event] := by
  intro other member
  rw [List.mem_singleton.mp member]
  exact permitted

theorem within_yields (middle : α → Prop) (script : Script Name Value Action Answer α)
    (next : α → Script Name Value Action Answer β) (yields : Yields inputs middle script) (first : Within inputs allowed script)
    (second : ∀ value, middle value → Within inputs allowed (next value)) : Within inputs allowed (script >>= next) := by
  induction script with
  | ret value => exact second value yields
  | call command resume ih =>
      cases command with
      | read name => exact ih _ yields first
      | watch name => exact ⟨first.1, ih () yields first.2⟩
      | act action => exact ⟨first.1, fun answer => ih answer (yields answer) (first.2 answer)⟩
      | stop => trivial

theorem within_bind (script : Script Name Value Action Answer α) (next : α → Script Name Value Action Answer β)
    (first : Within inputs allowed script) (second : ∀ value, Within inputs allowed (next value)) :
    Within inputs allowed (script >>= next) := by
  induction script with
  | ret value => exact second value
  | call command resume ih =>
      cases command with
      | read name => exact ih _ first
      | watch name => exact ⟨first.1, ih () first.2⟩
      | act action => exact ⟨first.1, fun answer => ih answer (first.2 answer)⟩
      | stop => trivial

variable (answers : List (Event Name Action) → (action : Action) → Answer action)

theorem within_run (script : Script Name Value Action Answer α) (past : List (Event Name Action))
    (within : Within inputs allowed script) :
    ∃ extra, Only allowed extra ∧ (run inputs answers script past).1 = past ++ extra := by
  induction script generalizing past with
  | ret value => exact ⟨[], nofun, (List.append_nil past).symm⟩
  | call command resume ih =>
      have after : ∀ event later, allowed event → (∃ extra, Only allowed extra ∧ later = past ++ [event] ++ extra) →
          ∃ extra, Only allowed extra ∧ later = past ++ extra := by
        rintro event _ permitted ⟨extra, only, rfl⟩
        exact ⟨event :: extra, only_append [event] extra (only_single event permitted) only, List.append_assoc _ _ _⟩
      cases command with
      | read name => exact ih _ past within
      | watch name => exact after _ _ within.1 (ih _ _ within.2)
      | act action => exact after _ _ within.1 (ih _ _ (within.2 _))
      | stop => exact ⟨[], nofun, (List.append_nil past).symm⟩

theorem within_guarded (guard : List (Event Name Action) → Event Name Action → Prop) (post : α → List (Event Name Action) → Prop)
    (script : Script Name Value Action Answer α) (past : List (Event Name Action)) (within : Within inputs allowed script)
    (free : ∀ extra event, allowed event → guard (past ++ extra) event)
    (met : ∀ value extra, Only allowed extra → post value (past ++ extra)) : Guarded inputs answers guard post script past := by
  induction script generalizing past with
  | ret value =>
      have nothing := met value [] nofun
      rw [List.append_nil] at nothing
      exact nothing
  | call command resume ih =>
      have goes : ∀ event, allowed event →
          guard past event ∧ (∀ extra later, allowed later → guard ((past ++ [event]) ++ extra) later) ∧
            ∀ value extra, Only allowed extra → post value ((past ++ [event]) ++ extra) := by
        intro event permitted
        refine ⟨?_, ?_, ?_⟩
        · have here := free [] event permitted
          rwa [List.append_nil] at here
        · intro extra later also
          rw [List.append_assoc]
          exact free _ later also
        · intro value extra also
          rw [List.append_assoc]
          exact met value _ (only_append _ _ (only_single event permitted) also)
      cases command with
      | read name => exact ih _ past within free met
      | watch name =>
          obtain ⟨here, later, after⟩ := goes (.watched name) within.1
          exact ⟨here, ih _ _ within.2 later after⟩
      | act action =>
          obtain ⟨here, later, after⟩ := goes (.acted action) within.1
          exact ⟨here, ih _ _ (within.2 _) later after⟩
      | stop => trivial

end Within

end Interaction
