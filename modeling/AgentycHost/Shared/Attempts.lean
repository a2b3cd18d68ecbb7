import Mathlib.Data.Option.Basic

set_option autoImplicit false

/-!
# Attempts

Computations that change a state and may fail, where a failure keeps the
changes made before it.
-/

namespace Shared

def Attempt (S E A : Type) := S -> Except E A × S

namespace Attempt

variable {S E A B : Type} {value : A} {next : A -> Attempt S E B} {first attempt : Attempt S E A}
  {state middle last : S} {failure : E} {outcome : Except E A} {change : E -> E}

instance : Monad (Attempt S E) where
  pure value := fun state => (.ok value, state)
  bind first next := fun state =>
    match first state with
    | (.ok value, middle) => next value middle
    | (.error failure, middle) => (.error failure, middle)

def fail (failure : E) : Attempt S E A := fun state => (.error failure, state)

def get : Attempt S E S := fun state => (.ok state, state)

def modify (change : S -> S) : Attempt S E Unit := fun state => (.ok (), change state)

-- A check that only reads.
def lift (outcome : Except E A) : Attempt S E A := fun state => (outcome, state)

def mapError (change : E -> E) (attempt : Attempt S E A) : Attempt S E A := fun state =>
  ((attempt state).1.mapError change, (attempt state).2)

def recover (attempt : Attempt S E A) (handle : E -> Attempt S E A) : Attempt S E A := fun state =>
  match attempt state with
  | (.ok value, middle) => (.ok value, middle)
  | (.error failure, middle) => handle failure middle

def afterwards (attempt : Attempt S E A) (change : S -> S) : Attempt S E A := fun state =>
  ((attempt state).1, change (attempt state).2)

@[simp]
theorem pure_apply (value : A) (state : S) : (pure value : Attempt S E A) state = (.ok value, state) := rfl

@[simp]
theorem fail_apply (failure : E) (state : S) : (fail failure : Attempt S E A) state = (.error failure, state) := rfl

@[simp]
theorem get_apply (state : S) : (get : Attempt S E S) state = (.ok state, state) := rfl

@[simp]
theorem modify_apply (change : S -> S) (state : S) :
    (modify change : Attempt S E Unit) state = (.ok (), change state) := rfl

@[simp]
theorem lift_apply (outcome : Except E A) (state : S) : (lift outcome : Attempt S E A) state = (outcome, state) := rfl

theorem bind_of_ok (passed : first state = (.ok value, middle)) : (first >>= next) state = next value middle := by
  change (match first state with
    | (.ok value, middle) => next value middle
    | (.error failure, middle) => (.error failure, middle)) = _
  rw [passed]

theorem bind_of_error (failed : first state = (.error failure, middle)) :
    (first >>= next) state = (.error failure, middle) := by
  change (match first state with
    | (.ok value, middle) => next value middle
    | (.error failure, middle) => (.error failure, middle)) = _
  rw [failed]

theorem bind_same {other : Attempt S E A} (next : A -> Attempt S E B) (same : first state = other state) :
    (first >>= next) state = (other >>= next) state := by
  generalize attempt : other state = reply at same
  obtain ⟨_ | value, middle⟩ := reply
  · rw [bind_of_error same, bind_of_error attempt]
  · rw [bind_of_ok same, bind_of_ok attempt]

@[simp]
theorem get_bind (next : S -> Attempt S E B) (state : S) : (get >>= next) state = next state state := rfl

@[simp]
theorem modify_bind (change : S -> S) (next : Unit -> Attempt S E B) (state : S) :
    (modify change >>= next) state = next () (change state) := rfl

@[simp]
theorem lift_ok_bind (value : A) (next : A -> Attempt S E B) (state : S) :
    (lift (.ok value) >>= next) state = next value state := rfl

@[simp]
theorem lift_error_bind (failure : E) (next : A -> Attempt S E B) (state : S) :
    (lift (.error failure) >>= next) state = (.error failure, state) := rfl

theorem bind_cases {outcome : Except E B} (ran : (first >>= next) state = (outcome, last)) :
    (∃ failure, first state = (.error failure, last) ∧ outcome = .error failure) ∨
      ∃ value middle, first state = (.ok value, middle) ∧ next value middle = (outcome, last) := by
  generalize attempt : first state = reply
  obtain ⟨_ | value, middle⟩ := reply
  · rw [bind_of_error attempt, Prod.mk.injEq] at ran
    obtain ⟨rfl, rfl⟩ := ran
    exact .inl ⟨_, rfl, rfl⟩
  · rw [bind_of_ok attempt] at ran
    exact .inr ⟨value, middle, rfl, ran⟩

theorem bind_passed {value : B} (ran : (first >>= next) state = (.ok value, last)) :
    ∃ early middle, first state = (.ok early, middle) ∧ next early middle = (.ok value, last) := by
  obtain ⟨_, _, failed⟩ | ⟨early, middle, passed, rest⟩ := bind_cases ran
  · cases failed
  · exact ⟨early, middle, passed, rest⟩

theorem lift_bind_cases {result : Except E B} (ran : (lift outcome >>= next) state = (result, last)) :
    (∃ failure, outcome = .error failure ∧ result = .error failure ∧ last = state) ∨
      ∃ early, outcome = .ok early ∧ next early state = (result, last) := by
  cases outcome with
  | error failure =>
    cases ran
    exact .inl ⟨failure, rfl, rfl, rfl⟩
  | ok early => exact .inr ⟨early, rfl, ran⟩

theorem lift_passed {value : B} (ran : (lift outcome >>= next) state = (.ok value, last)) :
    ∃ early, outcome = .ok early ∧ next early state = (.ok value, last) := by
  obtain ⟨_, _, failed, _⟩ | ⟨early, passed, rest⟩ := lift_bind_cases ran
  · cases failed
  · exact ⟨early, passed, rest⟩

theorem discard_apply (attempt : Attempt S E A) (state : S) :
    (discard attempt : Attempt S E Unit) state = ((attempt state).1.map fun _ => (), (attempt state).2) := by
  generalize attempt_ : attempt state = reply
  obtain ⟨_ | value, last⟩ := reply
  · exact bind_of_error attempt_
  · exact bind_of_ok attempt_

theorem discard_error :
    (discard attempt : Attempt S E Unit) state = (.error failure, last) <-> attempt state = (.error failure, last) := by
  rw [discard_apply]
  generalize attempt state = reply
  obtain ⟨_ | value, middle⟩ := reply <;> simp [Except.map]

theorem discard_ok :
    (discard attempt : Attempt S E Unit) state = (.ok (), last) <-> ∃ value, attempt state = (.ok value, last) := by
  rw [discard_apply]
  generalize attempt state = reply
  obtain ⟨_ | value, middle⟩ := reply <;> simp [Except.map]

theorem mapError_ok (ran : attempt.mapError change state = (.ok value, last)) :
    attempt state = (.ok value, last) := by
  unfold mapError at ran
  generalize attempt state = reply at ran
  obtain ⟨failure | early, middle⟩ := reply
  · cases ran
  · exact ran

theorem mapError_error (ran : attempt.mapError change state = (.error failure, last)) :
    ∃ early, attempt state = (.error early, last) ∧ change early = failure := by
  unfold mapError at ran
  generalize attempt state = reply at ran
  obtain ⟨early | value, middle⟩ := reply
  · cases ran
    exact ⟨early, rfl, rfl⟩
  · cases ran

theorem recover_cases {handle : E -> Attempt S E A} (ran : attempt.recover handle state = (outcome, last)) :
    (∃ value, attempt state = (.ok value, last) ∧ outcome = .ok value) ∨
      ∃ failure middle, attempt state = (.error failure, middle) ∧ handle failure middle = (outcome, last) := by
  unfold recover at ran
  generalize tried : attempt state = reply at ran
  obtain ⟨failure | value, middle⟩ := reply
  · exact .inr ⟨failure, middle, rfl, ran⟩
  · cases ran
    exact .inl ⟨value, rfl, rfl⟩

theorem afterwards_cases {change : S -> S} (ran : attempt.afterwards change state = (outcome, last)) :
    ∃ middle, attempt state = (outcome, middle) ∧ change middle = last := by
  obtain ⟨rfl, rfl⟩ := Prod.mk.inj ran
  exact ⟨_, rfl, rfl⟩

section Ends

variable {post : Except E B -> S -> Prop} {state : S} {next : A -> Attempt S E B}

/-- What holds of an attempt's outcome and of the state it leaves. -/
def Ends (post : Except E A -> S -> Prop) (attempt : Attempt S E A) (state : S) : Prop :=
  post (attempt state).1 (attempt state).2

theorem Ends.ran {attempt : Attempt S E B} {last : S} {outcome : Except E B} (ends : Ends post attempt state)
    (ran : attempt state = (outcome, last)) : post outcome last := by
  unfold Ends at ends
  rwa [ran] at ends

theorem Ends.bind {first : Attempt S E A}
    (failed : ∀ failure last, first state = (.error failure, last) -> post (.error failure) last)
    (passed : ∀ value middle, first state = (.ok value, middle) -> Ends post (next value) middle) :
    Ends post (first >>= next) state := by
  unfold Ends
  generalize attempt : first state = reply
  obtain ⟨failure | value, middle⟩ := reply
  · rw [bind_of_error attempt]
    exact failed failure middle attempt
  · rw [bind_of_ok attempt]
    exact passed value middle attempt

theorem Ends.lift_bind {outcome : Except E A}
    (failed : ∀ failure, outcome = .error failure -> post (.error failure) state)
    (passed : ∀ value, outcome = .ok value -> Ends post (next value) state) :
    Ends post (lift outcome >>= next) state := by
  cases outcome with
  | error failure => exact failed failure rfl
  | ok value => exact passed value rfl

end Ends

section Refuses

variable {state : S} {next : A -> Attempt S E B}

/-- The attempt fails and leaves the state alone. -/
def Refuses (attempt : Attempt S E A) (state : S) : Prop := ∃ failure, attempt state = (.error failure, state)

theorem Refuses.bind {first : Attempt S E A} (refused : Refuses first state) :
    Refuses (first >>= next) state := by
  obtain ⟨failure, failed⟩ := refused
  exact ⟨failure, bind_of_error failed⟩

theorem Refuses.lift_bind {outcome : Except E A}
    (passed : ∀ value, outcome = .ok value -> Refuses (next value) state) :
    Refuses (lift outcome >>= next) state := by
  cases outcome with
  | error failure => exact ⟨failure, rfl⟩
  | ok value => exact passed value rfl

theorem Refuses.fail (failure : E) : Refuses (Attempt.fail failure : Attempt S E A) state := ⟨failure, rfl⟩

end Refuses

section Keeps

variable {holds : S -> Prop} {attempt : Attempt S E A}

def Keeps (holds : S -> Prop) (attempt : Attempt S E A) : Prop :=
  ∀ state, holds state -> holds (attempt state).2

theorem Keeps.ran {state last : S} {outcome : Except E A} (kept : Keeps holds attempt)
    (ran : attempt state = (outcome, last)) (held : holds state) : holds last := by
  have later := kept state held
  rwa [ran] at later

theorem Keeps.pure (value : A) : Keeps holds (Pure.pure value : Attempt S E A) := fun _ held => held

theorem Keeps.fail (failure : E) : Keeps holds (Attempt.fail failure : Attempt S E A) := fun _ held => held

theorem Keeps.get : Keeps holds (Attempt.get : Attempt S E S) := fun _ held => held

theorem Keeps.lift (outcome : Except E A) : Keeps holds (Attempt.lift outcome : Attempt S E A) := fun _ held => held

theorem Keeps.mapError (change : E -> E) (kept : Keeps holds attempt) :
    Keeps holds (attempt.mapError change) := kept

theorem Keeps.recover {handle : E -> Attempt S E A} (kept : Keeps holds attempt)
    (handled : ∀ failure, Keeps holds (handle failure)) : Keeps holds (attempt.recover handle) := by
  intro state held
  have middle := kept state held
  unfold Attempt.recover
  generalize attempt state = reply at middle
  obtain ⟨failure | value, between⟩ := reply
  · exact handled failure between middle
  · exact middle

theorem Keeps.bind {first : Attempt S E A} {next : A -> Attempt S E B} (early : Keeps holds first)
    (late : ∀ value, Keeps holds (next value)) : Keeps holds (first >>= next) := by
  intro state held
  have middle := early state held
  generalize attempt : first state = reply at middle
  obtain ⟨_ | value, between⟩ := reply
  · rw [bind_of_error attempt]
    exact middle
  · rw [bind_of_ok attempt]
    exact late value between middle

end Keeps

end Attempt

end Shared
