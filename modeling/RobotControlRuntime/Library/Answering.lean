import Mathlib.Logic.Basic

-- Machines that answer every input, and one that answers as another does.
namespace Answering

def answers (step : σ → ι → σ × ω) (s : σ) : List ι → List ω
  | [] => []
  | input :: rest => (step s input).2 :: answers step (step s input).1 rest

def final (step : σ → ι → σ × ω) (s : σ) (inputs : List ι) : σ := inputs.foldl (fun s input => (step s input).1) s

structure Refines (step : σ → ι → σ × ω) (intended : τ → ι → τ × ω) (related : σ → τ → Prop) : Prop where
  answer : ∀ s t input, related s t → (step s input).2 = (intended t input).2
  onward : ∀ s t input, related s t → related (step s input).1 (intended t input).1

theorem refined_answers {step : σ → ι → σ × ω} {intended : τ → ι → τ × ω} (refines : Refines step intended related)
    (start : related s t) (inputs : List ι) : answers step s inputs = answers intended t inputs := by
  induction inputs generalizing s t with
  | nil => rfl
  | cons input rest ih => rw [answers,answers,refines.answer s t input start,ih (refines.onward s t input start)]

theorem refined_final {step : σ → ι → σ × ω} {intended : τ → ι → τ × ω} (refines : Refines step intended related)
    (start : related s t) (inputs : List ι) : related (final step s inputs) (final intended t inputs) := by
  induction inputs generalizing s t with
  | nil => exact start
  | cons input rest ih => exact ih (refines.onward s t input start)

end Answering
