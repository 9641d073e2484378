import Formulary.Run
import Mathlib.Data.List.TakeDrop

/-!
# States and replies of a run

What a run answers at a position is the answer of the state before that position.  What every step
preserves is carried along the run.
-/

namespace Formulary.Run

variable {State Input Output : Type} {step : Input → State → Output × State} {start : State}
variable {inputs : List Input} {input : Input} {position : Nat}

/-- The state of a run before the input at a position. -/
def stateAt (step : Input → State → Output × State) (start : State) (inputs : List Input)
    (position : Nat) : State :=
  (inputs.take position).foldl (fun state input => (step input state).2) start

def replies (step : Input → State → Output × State) (start : State) (inputs : List Input) :
    List Output :=
  (trace step inputs start).map Prod.fst

theorem stateAt_succ (hinput : inputs[position]? = some input) :
    stateAt step start inputs (position + 1) =
      (step input (stateAt step start inputs position)).2 := by
  unfold stateAt
  rw [List.take_add_one, hinput]
  simp

theorem stateAt_succ_of_none (hinput : inputs[position]? = none) :
    stateAt step start inputs (position + 1) = stateAt step start inputs position := by
  simp [stateAt, List.take_add_one, hinput]

/-- Each answer is that of the state before its position. -/
theorem getElem?_trace (inputs : List Input) (start : State) (position : Nat) :
    (trace step inputs start)[position]? =
      inputs[position]?.map fun input => step input (stateAt step start inputs position) := by
  induction inputs generalizing start position with
  | nil => rfl
  | cons input rest ih =>
      cases position with
      | zero => rfl
      | succ position => simpa [trace, stateAt] using ih (step input start).2 position

theorem getElem?_replies (hinput : inputs[position]? = some input) :
    (replies step start inputs)[position]? =
      some (step input (stateAt step start inputs position)).1 := by
  rw [replies, List.getElem?_map, getElem?_trace, hinput]
  rfl

theorem exists_input_of_reply {output : Output}
    (hreply : (replies step start inputs)[position]? = some output) :
    ∃ input, inputs[position]? = some input ∧
      output = (step input (stateAt step start inputs position)).1 := by
  rw [replies, List.getElem?_map, getElem?_trace, Option.map_map] at hreply
  obtain ⟨input, hinput, rfl⟩ := Option.map_eq_some_iff.mp hreply
  exact ⟨input, hinput, rfl⟩

/-- What holds at one position and is preserved by the steps from there on holds later. -/
theorem stateAt_induction {motive : State → Prop} {first last : Nat} (hle : first ≤ last)
    (hfirst : motive (stateAt step start inputs first))
    (hstep : ∀ position input state, first ≤ position → position < last →
      inputs[position]? = some input → motive state → motive (step input state).2) :
    motive (stateAt step start inputs last) := by
  obtain ⟨steps, rfl⟩ := Nat.exists_eq_add_of_le hle
  induction steps with
  | zero => exact hfirst
  | succ steps ih =>
      have hbefore := ih (by omega) fun position input state hfrom hto =>
        hstep position input state hfrom (by omega)
      rw [← Nat.add_assoc]
      cases hinput : inputs[first + steps]? with
      | some input =>
          rw [stateAt_succ hinput]
          exact hstep _ input _ (by omega) (by omega) hinput hbefore
      | none =>
          rw [stateAt_succ_of_none hinput]
          exact hbefore

/-- What holds at the start and is preserved by every step holds throughout. -/
theorem stateAt_invariant {invariant : State → Prop} (hstart : invariant start)
    (hstep : ∀ input state, invariant state → invariant (step input state).2)
    (inputs : List Input) (position : Nat) : invariant (stateAt step start inputs position) :=
  stateAt_induction (Nat.zero_le position) hstart
    fun _ input state _ _ _ hstate => hstep input state hstate

end Formulary.Run
