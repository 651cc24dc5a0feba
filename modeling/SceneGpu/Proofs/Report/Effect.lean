import SceneGpu.Report.Failure
/-!
Effects in proofs: what a success says about the parts it was put together from, which views of the
state an effect leaves as they were, whether it succeeds or fails, and what it adds to the end of a
list that the state holds.
-/
namespace SceneGpu.Effect

variable {σ α β γ : Type}

theorem bind_ok {x : Effect σ α} {f : α → Effect σ β} {s t : σ} {b : β} :
    (x >>= f) s = (.ok b, t) ↔ ∃ a u, x s = (.ok a, u) ∧ f a u = (.ok b, t) := by
  change andThen x f s = _ ↔ _
  unfold andThen
  constructor
  · intro h
    split at h
    · rename_i a u eq
      exact ⟨a, u, eq, h⟩
    · cases h
  · rintro ⟨a, u, eq, h⟩
    rw [eq]
    exact h

theorem pure_ok {s t : σ} {a b : α} :
    (pure a : Effect σ α) s = (.ok b, t) ↔ a = b ∧ s = t := by
  change (Except.ok a, s) = (Except.ok b, t) ↔ _
  simp

theorem bind_of_ok {x : Effect σ α} {f : α → Effect σ β} {s t : σ} {a : α} (run : x s = (.ok a, t)) :
    (x >>= f) s = f a t := by
  change andThen x f s = _
  unfold andThen
  rw [run]

theorem bind_of_error {x : Effect σ α} {f : α → Effect σ β} {s t : σ} {e : Failure}
    (run : x s = (.error e, t)) : (x >>= f) s = (.error e, t) := by
  change andThen x f s = _
  unfold andThen
  rw [run]

def Preserves (view : σ → γ) (x : Effect σ α) : Prop := ∀ s, view (x s).2 = view s

namespace Preserves

variable {view : σ → γ}

theorem pure (a : α) : Preserves view (Pure.pure a : Effect σ α) := fun _ => rfl

theorem succeed (a : α) : Preserves view (Effect.succeed a : Effect σ α) := fun _ => rfl

theorem fail (f : Failure) : Preserves view (Effect.fail f : Effect σ α) := fun _ => rfl

theorem get : Preserves view (Effect.get : Effect σ σ) := fun _ => rfl

theorem change {f : σ → σ} (keeps : ∀ s, view (f s) = view s) :
    Preserves view (Effect.change f) := keeps

theorem bind {x : Effect σ α} {f : α → Effect σ β} (first : Preserves view x)
    (rest : ∀ a, Preserves view (f a)) : Preserves view (x >>= f) := by
  intro s
  change view (andThen x f s).2 = view s
  unfold andThen
  split
  · rename_i a t eq
    rw [rest a t]
    simpa [eq] using first s
  · rename_i e t eq
    simpa [eq] using first s

theorem within {x : Effect σ α} (keeps : Preserves view x) (context : String) :
    Preserves view (x.within context) := keeps

theorem orElseDo {x : Effect σ α} {cleanUp : Effect σ Unit} (keeps : Preserves view x)
    (cleans : Preserves view cleanUp) : Preserves view (x.orElseDo cleanUp) := by
  intro s
  have first := keeps s
  unfold Effect.orElseDo
  split
  · rename_i a t eq
    simpa [eq] using first
  · rename_i e t eq
    rw [cleans t]
    simpa [eq] using first

theorem of_ok {x : Effect σ α} (keeps : Preserves view x) {s t : σ} {a : α}
    (run : x s = (.ok a, t)) : view t = view s := by
  simpa [run] using keeps s

end Preserves

/-- Whatever the state, the outcome and what the effect adds to a list in the state are as told. -/
def Adds (view : σ → List γ) (x : Effect σ α) (told : Except Failure α → List γ → Prop) : Prop :=
  ∀ s, ∃ more, view (x s).2 = view s ++ more ∧ told (x s).1 more

theorem Preserves.adds {view : σ → List γ} {x : Effect σ α} (keeps : Preserves view x) :
    Adds view x fun _ more => more = [] := by
  intro s
  exact ⟨[], by rw [keeps s, List.append_nil], rfl⟩

namespace Adds

variable {view : σ → List γ} {told : Except Failure α → List γ → Prop}

theorem mono {x : Effect σ α} {next : Except Failure α → List γ → Prop} (adds : Adds view x told)
    (follows : ∀ r more, told r more → next r more) : Adds view x next := by
  intro s
  obtain ⟨more, grown, said⟩ := adds s
  exact ⟨more, grown, follows _ _ said⟩

theorem pure {a : α} (done : told (.ok a) []) : Adds view (Pure.pure a : Effect σ α) told :=
  fun s => ⟨[], (List.append_nil (view s)).symm, done⟩

theorem bind {x : Effect σ α} {f : α → Effect σ β} {next : Except Failure β → List γ → Prop}
    (first : Adds view x told) (stops : ∀ e more, told (.error e) more → next (.error e) more)
    (rest : ∀ a more, told (.ok a) more → Adds view (f a) fun r later => next r (more ++ later)) :
    Adds view (x >>= f) next := by
  intro s
  obtain ⟨more, grown, said⟩ := first s
  cases run : x s with
  | mk result t =>
    rw [run] at grown said
    cases result with
    | error e =>
      rw [bind_of_error run]
      exact ⟨more, grown, stops e more said⟩
    | ok a =>
      rw [bind_of_ok run]
      obtain ⟨later, grownLater, saidLater⟩ := rest a more said t
      refine ⟨more ++ later, ?_, saidLater⟩
      rw [grownLater, grown, List.append_assoc]

theorem orElseDo {x : Effect σ α} {cleanUp : Effect σ Unit}
    {cleaned : Except Failure Unit → List γ → Prop} {next : Except Failure α → List γ → Prop}
    (first : Adds view x told) (cleans : Adds view cleanUp cleaned)
    (kept : ∀ a more, told (.ok a) more → next (.ok a) more)
    (stops : ∀ e more r later, told (.error e) more → cleaned r later →
      next (.error e) (more ++ later)) : Adds view (x.orElseDo cleanUp) next := by
  intro s
  obtain ⟨more, grown, said⟩ := first s
  unfold Effect.orElseDo
  cases run : x s with
  | mk result t =>
    rw [run] at grown said
    cases result with
    | ok a => exact ⟨more, grown, kept a more said⟩
    | error e =>
      obtain ⟨later, grownLater, saidLater⟩ := cleans t
      refine ⟨more ++ later, ?_, stops e more _ later said saidLater⟩
      rw [grownLater, grown, List.append_assoc]

theorem ensuring {x : Effect σ α} {cleanUp : Effect σ Unit}
    {cleaned : Except Failure Unit → List γ → Prop} {next : Except Failure α → List γ → Prop}
    (first : Adds view x told) (cleans : Adds view cleanUp cleaned)
    (ends : ∀ r more r' later, told r more → cleaned r' later → next r (more ++ later)) :
    Adds view (x.ensuring cleanUp) next := by
  intro s
  obtain ⟨more, grown, said⟩ := first s
  obtain ⟨later, grownLater, saidLater⟩ := cleans (x s).2
  refine ⟨more ++ later, ?_, ends _ more _ later said saidLater⟩
  change view (cleanUp (x s).2).2 = _
  rw [grownLater, grown, List.append_assoc]

theorem outcome {x : Effect σ α} {next : Except Failure (Except Failure α) → List γ → Prop}
    (adds : Adds view x told) (holds : ∀ r more, told r more → next (.ok r) more) :
    Adds view x.outcome next := by
  intro s
  obtain ⟨more, grown, said⟩ := adds s
  exact ⟨more, grown, holds _ more said⟩

end Adds
end SceneGpu.Effect
