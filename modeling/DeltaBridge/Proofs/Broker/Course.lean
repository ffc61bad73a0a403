import DeltaBridge.Broker.Act

/-!
# Courses of actions

A course relates the state and the journal before an action, the trace of the action, and the state
and the journal after it. A course that composes is followed by an action as soon as it is followed
by its parts, whether they end with a result or a failure.

* `Act.Course`, `Act.Composes`: courses, and those that compose;
* `Act.Follows`: every run of an action is of the course;
* `Follows.bind`, `Follows.each`, `Follows.attempt`: how an action follows from its parts.
-/

namespace DeltaBridge

@[simp] theorem Journal.report_nil (j : Journal) : j.report [] = j := by simp [Journal.report]

@[simp] theorem Journal.calls_report (j : Journal) (rs : List Report) :
    (j.report rs).calls = j.calls := rfl

@[simp] theorem Journal.statuses_report (j : Journal) (rs : List Report) :
    (j.report rs).statuses = j.statuses := rfl

namespace Act

/-- A relation between the start of an action, its trace and its end. -/
abbrev Course (σ : Type) : Type := σ → Journal → List Deed → σ → Journal → Prop

variable {σ τ α β : Type}

/-- Reports alone are of the course, and one thing of the course after another is of the course. -/
structure Composes (ρ : Course σ) : Prop where
  report : ∀ s j rs, ρ s j [] s (j.report rs)
  append : ∀ {s j t s' j' t' s'' j''}, ρ s j t s' j' → ρ s' j' t' s'' j'' → ρ s j (t ++ t') s'' j''

theorem Composes.nil {ρ : Course σ} (h : Composes ρ) (s : σ) (j : Journal) : ρ s j [] s j := by
  have := h.report s j []
  rwa [Journal.report_nil] at this

/-- Every run of the action on the network is of the course. -/
def Follows (n : Network) (ρ : Course σ) (x : Act σ α) : Prop :=
  ∀ s j, ρ s j (x.run n s j).trace (x.run n s j).state (x.run n s j).journal

namespace Follows

variable {n : Network} {ρ : Course σ}

theorem pure (h : Composes ρ) (a : α) : Follows n ρ (pure a) := fun s j => h.nil s j

theorem fail (h : Composes ρ) (e : Failure) : Follows n ρ (fail e : Act σ α) := fun s j => h.nil s j

theorem state (h : Composes ρ) : Follows n ρ state := fun s j => h.nil s j

theorem atStart (h : Composes ρ) : Follows n ρ atStart := fun s j => h.nil s j

theorem waiting (h : Composes ρ) : Follows n ρ waiting := fun s j => h.nil s j

theorem ofLogged (h : Composes ρ) (x : Logged α) : Follows n ρ (ofLogged x) :=
  fun s j => h.report s j x.reports

/-- **A bind follows a course that both parts follow.** -/
theorem bind (h : Composes ρ) {x : Act σ α} {f : α → Act σ β} (hx : Follows n ρ x)
    (hf : ∀ a, Follows n ρ (f a)) : Follows n ρ (x >>= f) := by
  intro s j
  have hxs := hx s j
  rcases hr : x.run n s j with ⟨e | a, s', j', t⟩
  · rw [hr] at hxs
    rw [run_bind_of_error n s j hr]
    exact hxs
  · rw [hr] at hxs
    rw [run_bind_of_ok n s j hr]
    exact h.append hxs (hf a s' j')

theorem attempt {x : Act σ α} (hx : Follows n ρ x) : Follows n ρ (attempt x) := by
  intro s j
  rw [run_attempt]
  exact hx s j

theorem each (h : Composes ρ) {f : α → Act σ Unit} (hf : ∀ a, Follows n ρ (f a)) :
    ∀ xs, Follows n ρ (each f xs)
  | [] => pure h ()
  | x :: xs => bind h (hf x) fun _ => each h hf xs

end Follows

end Act

end DeltaBridge
