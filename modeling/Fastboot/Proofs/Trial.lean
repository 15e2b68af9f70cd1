import Mathlib.Tactic.Common

/-!
# Steps that may be refused

A step takes a state and an input to a new state, or refuses the input with an error, and then the state stays
as it is. `afterAll step s inputs` is the state after some inputs, and `granted step s inputs` lists those that
were not refused.

What holds of a state and of the inputs that led to it is carried along a run by `afterAll_induction`, which
asks only about steps that were not refused.
-/

namespace Fastboot.Trial

variable {σ α ε : Type} {step : σ → α → Except ε σ} {s s' : σ} {a : α} {e : ε} {inputs : List α}

/-- The state after an input. One that is refused leaves it as it is. -/
def after (step : σ → α → Except ε σ) (s : σ) (a : α) : σ :=
  match step s a with
  | .ok s' => s'
  | .error _ => s

/-- The state after some inputs. -/
def afterAll (step : σ → α → Except ε σ) (s : σ) (inputs : List α) : σ :=
  inputs.foldl (after step) s

/-- The inputs that were not refused, the first one first. -/
def granted (step : σ → α → Except ε σ) (s : σ) : List α → List α
  | [] => []
  | a :: inputs =>
    match step s a with
    | .ok s' => a :: granted step s' inputs
    | .error _ => granted step s inputs

theorem afterAll_append (step : σ → α → Except ε σ) (s : σ) (inputs more : List α) :
    afterAll step s (inputs ++ more) = afterAll step (afterAll step s inputs) more :=
  List.foldl_append

theorem afterAll_cons_of_ok (h : step s a = .ok s') :
    afterAll step s (a :: inputs) = afterAll step s' inputs := by
  rw [afterAll, List.foldl_cons, after, h, afterAll]

theorem afterAll_cons_of_error (h : step s a = .error e) :
    afterAll step s (a :: inputs) = afterAll step s inputs := by
  rw [afterAll, List.foldl_cons, after, h, afterAll]

theorem granted_cons_of_ok (h : step s a = .ok s') :
    granted step s (a :: inputs) = a :: granted step s' inputs := by
  rw [granted, h]

theorem granted_cons_of_error (h : step s a = .error e) :
    granted step s (a :: inputs) = granted step s inputs := by
  rw [granted, h]

theorem granted_append (step : σ → α → Except ε σ) (s : σ) (inputs more : List α) :
    granted step s (inputs ++ more) =
      granted step s inputs ++ granted step (afterAll step s inputs) more := by
  induction inputs generalizing s with
  | nil => rfl
  | cons a inputs ih =>
    rw [List.cons_append]
    cases hstep : step s a with
    | ok s' =>
      rw [granted_cons_of_ok hstep, granted_cons_of_ok hstep, afterAll_cons_of_ok hstep, ih,
        List.cons_append]
    | error e =>
      rw [granted_cons_of_error hstep, granted_cons_of_error hstep, afterAll_cons_of_error hstep, ih]

/-- Inputs that the state refuses leave no trace, however many there are. -/
theorem afterAll_of_refused (h : ∀ a ∈ inputs, ∃ e, step s a = .error e) :
    afterAll step s inputs = s ∧ granted step s inputs = [] := by
  induction inputs with
  | nil => exact ⟨rfl, rfl⟩
  | cons a inputs ih =>
    obtain ⟨⟨e, hstep⟩, hrest⟩ := List.forall_mem_cons.mp h
    rw [afterAll_cons_of_error hstep, granted_cons_of_error hstep]
    exact ih hrest

/-- What every step that is not refused keeps true of the state and of the inputs behind it holds after a
run. -/
theorem afterAll_induction {motive : σ → List α → Prop} {done : List α}
    (hstep : ∀ s s' done a, motive s done → step s a = .ok s' → motive s' (done ++ [a]))
    (h : motive s done) (inputs : List α) :
    motive (afterAll step s inputs) (done ++ granted step s inputs) := by
  induction inputs generalizing s done with
  | nil =>
    rw [granted, List.append_nil]
    exact h
  | cons a inputs ih =>
    cases ha : step s a with
    | ok s' =>
      rw [afterAll_cons_of_ok ha, granted_cons_of_ok ha, List.append_cons]
      exact ih (hstep s s' done a h ha)
    | error e =>
      rw [afterAll_cons_of_error ha, granted_cons_of_error ha]
      exact ih h

end Fastboot.Trial
