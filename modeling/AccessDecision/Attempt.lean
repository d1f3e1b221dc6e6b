import AccessDecision.Failure

/-!
# Attempts

An attempt changes a state and ends in a value or in a failure.  What it did to the
state before it failed stays done, so a failure is never undone by being caught.
-/

namespace AccessDecision

def Attempt (σ α : Type) : Type :=
  σ → Except Failure α × σ

namespace Attempt

variable {σ τ α β : Type}

instance : Monad (Attempt σ) where
  pure value := fun state => (.ok value, state)
  bind attempt next := fun state =>
    match attempt state with
    | (.ok value, later) => next value later
    | (.error failure, later) => (.error failure, later)

def fail (failure : Failure) : Attempt σ α :=
  fun state => (.error failure, state)

def ofExcept (value : Except Failure α) : Attempt σ α :=
  fun state => (value, state)

def look (view : σ → α) : Attempt σ α :=
  fun state => (.ok (view state), state)

def change (update : σ → σ) : Attempt σ Unit :=
  fun state => (.ok (), update state)

/-- Go on after a failure, from the state that it left behind. -/
def orElse (attempt : Attempt σ α) (handler : Failure → Attempt σ α) : Attempt σ α :=
  fun state =>
    match attempt state with
    | (.ok value, later) => (.ok value, later)
    | (.error failure, later) => handler failure later

def within (part : τ → σ) (put : σ → τ → τ) (attempt : Attempt σ α) : Attempt τ α :=
  fun state =>
    let (value, later) := attempt (part state)
    (value, put later state)

@[simp]
theorem pure_apply (value : α) (state : σ) :
    (pure value : Attempt σ α) state = (.ok value, state) :=
  rfl

@[simp]
theorem fail_apply (failure : Failure) (state : σ) :
    (fail failure : Attempt σ α) state = (.error failure, state) :=
  rfl

@[simp]
theorem ofExcept_apply (value : Except Failure α) (state : σ) :
    ofExcept value state = (value, state) :=
  rfl

@[simp]
theorem ofExcept_ok (value : α) : (ofExcept (.ok value) : Attempt σ α) = pure value :=
  rfl

@[simp]
theorem look_apply (view : σ → α) (state : σ) :
    look view state = (.ok (view state), state) :=
  rfl

@[simp]
theorem change_apply (update : σ → σ) (state : σ) :
    change update state = (.ok (), update state) :=
  rfl

theorem bind_of_ok {attempt : Attempt σ α} {next : α → Attempt σ β} {state later : σ}
    {value : α} (succeeds : attempt state = (.ok value, later)) :
    (attempt >>= next) state = next value later := by
  simp [bind, succeeds]

theorem bind_of_error {attempt : Attempt σ α} {next : α → Attempt σ β}
    {state later : σ} {failure : Failure}
    (fails : attempt state = (.error failure, later)) :
    (attempt >>= next) state = (.error failure, later) := by
  simp [bind, fails]

theorem orElse_of_ok {attempt : Attempt σ α} {handler : Failure → Attempt σ α}
    {state later : σ} {value : α} (succeeds : attempt state = (.ok value, later)) :
    attempt.orElse handler state = (.ok value, later) := by
  simp [orElse, succeeds]

theorem orElse_of_error {attempt : Attempt σ α} {handler : Failure → Attempt σ α}
    {state later : σ} {failure : Failure}
    (fails : attempt state = (.error failure, later)) :
    attempt.orElse handler state = handler failure later := by
  simp [orElse, fails]

instance : LawfulMonad (Attempt σ) :=
  LawfulMonad.mk' (Attempt σ)
    (by
      intro α attempt
      funext state
      simp only [Functor.map]
      rcases attempt state with ⟨_ | _, _⟩ <;> rfl)
    (by
      intros
      rfl)
    (by
      intro α β γ attempt first second
      funext state
      simp only [bind]
      rcases attempt state with ⟨_ | _, _⟩ <;> rfl)

end Attempt

end AccessDecision
