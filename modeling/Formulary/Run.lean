/-!
# Runs of a machine

A machine answers an input from its state and goes on in another state.
-/

namespace Formulary.Run

variable {State Input Output : Type}

/-- The answers of a run, each with the state behind it. -/
def trace (step : Input → State → Output × State) : List Input → State → List (Output × State)
  | [], _ => []
  | input :: rest, state => step input state :: trace step rest (step input state).2

end Formulary.Run
