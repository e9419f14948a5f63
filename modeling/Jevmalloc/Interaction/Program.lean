set_option autoImplicit false

namespace Interaction

-- A program reaches its surroundings only through calls. What a call does and
-- which response it gets is left to the system that runs the program, so one
-- translated function can be run against several kinds of surroundings.
inductive Program (C : Type) (R : C → Type) (α : Type) where
  | ret (value : α)
  | call (command : C) (resume : R command → Program C R α)

namespace Program

variable {C : Type} {R : C → Type} {α β : Type}

def bind (program : Program C R α) (next : α → Program C R β) : Program C R β :=
  match program with
  | .ret value => next value
  | .call command resume => .call command fun response => (resume response).bind next

instance : Monad (Program C R) where
  pure := .ret
  bind := bind

@[simp] theorem pure_is_ret (value : α) : (pure value : Program C R α) = .ret value := rfl

@[simp] theorem ret_bind (value : α) (next : α → Program C R β) :
    (Program.ret value : Program C R α) >>= next = next value := rfl

@[simp] theorem call_bind (command : C) (resume : R command → Program C R α) (next : α → Program C R β) :
    Program.call command resume >>= next = .call command fun response => resume response >>= next := rfl

theorem bind_ret (program : Program C R α) : program.bind .ret = program := by
  induction program with
  | ret value => rfl
  | call command resume ih => exact congrArg (Program.call command) (funext ih)

theorem bind_bind {γ : Type} (program : Program C R α) (first : α → Program C R β) (second : β → Program C R γ) :
    (program.bind first).bind second = program.bind fun value => (first value).bind second := by
  induction program with
  | ret value => rfl
  | call command resume ih => exact congrArg (Program.call command) (funext ih)

instance : LawfulMonad (Program C R) :=
  LawfulMonad.mk' (Program C R) bind_ret (fun _ _ => rfl) bind_bind

end Program

-- What one caller must know before each call (pre) and what it may rely on
-- afterwards (post), both phrased over the private part of its state.
structure Protocol (C : Type) (R : C → Type) (L : Type) where
  pre : L → C → Prop
  post : L → (command : C) → R command → L → Prop

section Obedience

variable {C : Type} {R : C → Type} {L α β : Type}

def Obeys (protocol : Protocol C R L) (returns : L → α → Prop) : Program C R α → L → Prop
  | .ret value, own => returns own value
  | .call command resume, own =>
      protocol.pre own command ∧
        ∀ response next, protocol.post own command response next → Obeys protocol returns (resume response) next

theorem obeys_bind (protocol : Protocol C R L) (middle : L → α → Prop) (returns : L → β → Prop)
    (program : Program C R α) (next : α → Program C R β) (own : L)
    (first : Obeys protocol middle program own)
    (second : ∀ later value, middle later value → Obeys protocol returns (next value) later) :
    Obeys protocol returns (program >>= next) own := by
  induction program generalizing own with
  | ret value => exact second own value first
  | call command resume ih =>
      refine ⟨first.1, ?_⟩
      intro response later relied
      exact ih response later (first.2 response later relied)

theorem obeys_weaken (protocol : Protocol C R L) (strong weak : L → α → Prop)
    (program : Program C R α) (own : L) (holds : Obeys protocol strong program own)
    (weaker : ∀ later value, strong later value → weak later value) : Obeys protocol weak program own := by
  induction program generalizing own with
  | ret value => exact weaker own value holds
  | call command resume ih =>
      exact ⟨holds.1, fun response later relied => ih response later (holds.2 response later relied)⟩

theorem obeys_perform (protocol : Protocol C R L) (command : C) (returns : L → R command → Prop) (own : L)
    (allowed : protocol.pre own command)
    (relied : ∀ response next, protocol.post own command response next → returns next response) :
    Obeys protocol returns (.call command .ret) own := ⟨allowed, relied⟩

theorem obeys_perform_bind (protocol : Protocol C R L) (command : C) (returns : L → α → Prop)
    (next : R command → Program C R α) (own : L) (allowed : protocol.pre own command)
    (relied : ∀ response later, protocol.post own command response later →
      Obeys protocol returns (next response) later) :
    Obeys protocol returns (.call command .ret >>= next) own := ⟨allowed, relied⟩

theorem obeys_both {M N : Type} (first : Protocol C R M) (second : Protocol C R N) (both : Protocol C R L)
    (one : L → M) (two : L → N) (left : M → α → Prop) (right : N → α → Prop)
    (pre : ∀ own command, first.pre (one own) command → second.pre (two own) command → both.pre own command)
    (post : ∀ own command response next, both.post own command response next →
      first.post (one own) command response (one next) ∧ second.post (two own) command response (two next))
    (program : Program C R α) (own : L) (holds : Obeys first left program (one own))
    (also : Obeys second right program (two own)) :
    Obeys both (fun later value => left (one later) value ∧ right (two later) value) program own := by
  induction program generalizing own with
  | ret value => exact ⟨holds, also⟩
  | call command resume ih =>
      refine ⟨pre own command holds.1 also.1, ?_⟩
      intro response next relied
      obtain ⟨mine, yours⟩ := post own command response next relied
      exact ih response next (holds.2 response _ mine) (also.2 response _ yours)

section Restricted

variable (protocol : Protocol C R L) (admits : (command : C) → R command → Prop)

def Protocol.restrict : Protocol C R L where
  pre := protocol.pre
  post own command response next := protocol.post own command response next ∧ admits command response

theorem obeys_restrict (returns : L → α → Prop) (program : Program C R α) (own : L) (holds : Obeys protocol returns program own) :
    Obeys (protocol.restrict admits) returns program own := by
  induction program generalizing own with
  | ret value => exact holds
  | call command resume ih =>
      exact ⟨holds.1, fun response next relied => ih response next (holds.2 response next relied.1)⟩

theorem obeys_free (free : ∀ own command, protocol.pre own command) (program : Program C R α) (own : L) :
    Obeys protocol (fun _ _ => True) program own := by
  induction program generalizing own with
  | ret value => trivial
  | call command resume ih => exact ⟨free own command, fun response next _ => ih response next⟩

def Protocol.free : Protocol C R L where
  pre _ _ := True
  post := protocol.post

theorem obeys_freed (strong returns : L → α → Prop) (program : Program C R α) (own : L) (holds : Obeys protocol strong program own)
    (also : Obeys protocol.free returns program own) :
    Obeys protocol (fun later value => strong later value ∧ returns later value) program own :=
  obeys_both protocol protocol.free protocol id id strong returns (fun _ _ allowed _ => allowed)
    (fun _ _ _ _ relied => ⟨relied, relied⟩) program own holds also

end Restricted

section Fallible

variable {E : Type}

theorem obeys_attempt (protocol : Protocol C R L) (middle : L → Except E α → Prop) (returns : L → Except E β → Prop)
    (program : ExceptT E (Program C R) α) (next : α → ExceptT E (Program C R) β) (own : L)
    (first : Obeys protocol middle program.run own)
    (failed : ∀ later error, middle later (.error error) → returns later (.error error))
    (second : ∀ later value, middle later (.ok value) → Obeys protocol returns (next value).run later) :
    Obeys protocol returns (program >>= next).run own := by
  apply obeys_bind protocol middle returns program.run _ own first
  intro later result held
  cases result with
  | ok value => exact second later value held
  | error error => exact failed later error held

end Fallible

end Obedience

end Interaction
