/-! # Runs

Conditions on the events of a run, each in the state in which it occurs, and the results of the
events. -/
namespace VirtualTerminal

variable {σ ε α : Type} (step : σ → ε → σ)

/-- Every event of a run satisfies the condition in the state in which it occurs. -/
def Along (holds : σ → ε → Prop) : σ → List ε → Prop
  | _, [] => True
  | s, event :: rest => holds s event ∧ Along holds (step s event) rest

/-- The results of the events of a run, each in the state in which it occurs. -/
def yielded (yields : σ → ε → List α) : σ → List ε → List α
  | _, [] => []
  | s, event :: rest => yields s event ++ yielded yields (step s event) rest

instance Along.decidable (holds : σ → ε → Prop) [∀ s event, Decidable (holds s event)] :
    ∀ s events, Decidable (Along step holds s events)
  | _, [] => isTrue trivial
  | s, event :: rest =>
    have := Along.decidable holds (step s event) rest
    inferInstanceAs (Decidable (holds s event ∧ Along step holds (step s event) rest))

variable {step} {holds : σ → ε → Prop} {s : σ} {events : List ε}

theorem along_append {later : List ε} :
    Along step holds s (events ++ later) ↔
      Along step holds s events ∧ Along step holds (events.foldl step s) later := by
  induction events generalizing s with
  | nil => simp [Along]
  | cons event rest ih => simp [Along, ih, and_assoc]

theorem Along.mono {weaker : σ → ε → Prop} (h : Along step holds s events)
    (weaken : ∀ s event, holds s event → weaker s event) : Along step weaker s events := by
  induction events generalizing s with
  | nil => trivial
  | cons event rest ih => exact ⟨weaken s event h.1, ih h.2⟩

theorem Along.and {also : σ → ε → Prop} (h : Along step holds s events)
    (h' : Along step also s events) :
    Along step (fun s event => holds s event ∧ also s event) s events := by
  induction events generalizing s with
  | nil => trivial
  | cons event rest ih => exact ⟨⟨h.1, h'.1⟩, ih h.2 h'.2⟩

/-- An invariant of one event under the condition is an invariant of a run. -/
theorem Along.keeps {inv : σ → Prop} (h : Along step holds s events) (before : inv s)
    (keep : ∀ {s event}, inv s → holds s event → inv (step s event)) :
    inv (events.foldl step s) := by
  induction events generalizing s with
  | nil => exact before
  | cons event rest ih => exact ih h.2 (keep before h.1)

theorem Along.with_invariant {inv : σ → Prop} (h : Along step holds s events) (before : inv s)
    (keep : ∀ {s event}, inv s → holds s event → inv (step s event)) :
    Along step (fun s event => inv s ∧ holds s event) s events := by
  induction events generalizing s with
  | nil => trivial
  | cons event rest ih => exact ⟨⟨before, h.1⟩, ih h.2 (keep before h.1)⟩

/-- A relation between a state and all earlier results that one event keeps is kept by a run. -/
theorem Along.keeps_yielded {yields : σ → ε → List α} {so : List α}
    (h : Along step holds s events) (inv : σ → List α → Prop) (before : inv s so)
    (keep : ∀ {s event so}, inv s so → holds s event → inv (step s event) (so ++ yields s event)) :
    inv (events.foldl step s) (so ++ yielded step yields s events) := by
  induction events generalizing s so with
  | nil => simpa [yielded] using before
  | cons event rest ih => simpa [yielded] using ih h.2 (keep before h.1)

end VirtualTerminal
