import Formulary.Proofs.Malformed
import Formulary.Proofs.Walk.Order

/-!
# Faults that can be reached

Most faults are there for inputs that only single stages get.  A text reaches few of them: it is
read, or it is malformed; and if doubles are bound to names, a tree that is read has a value, lacks
a variable or divides by zero.  The operators that the cutting lets through are those that have a
binding strength and that can be applied, and no walk looks for a result that is not there.
-/

namespace Formulary.Expr

/-- What an evaluation with doubles may come to: a value, or one of two faults. -/
inductive Reached : Except Fault Float → Prop
  | value (value : Float) : Reached (.ok value)
  | missingVariable (name : Text) : Reached (.error (.missingVariable name))
  | divisionByZero : Reached (.error .divisionByZero)

/-- With doubles for its names a well-formed tree can only lack a variable or divide by zero. -/
theorem reached_evaluate {tree : Expr} {environment : Environment}
    (hwellFormed : tree.WellFormed) (hreal : environment.Real) :
    Reached (tree.evaluate environment) := by
  cases houtcome : tree.evaluate environment with
  | ok value => exact .value value
  | error fault =>
      have hfault := ofEnvironment_of_evaluate environment hwellFormed houtcome
      rcases hfault.of_real hreal with ⟨name, rfl⟩ | rfl
      · exact .missingVariable name
      · exact .divisionByZero

/-- A text, also one that is left out, is read or malformed.  If it is read and doubles are bound to
names, its tree has a value, lacks a variable or divides by zero; and a walk over it never has to
answer for a result that is missing, whatever its answer would be. -/
theorem outcomes_of_text (text : Option Text) :
    ((∃ tree, parse (Text.ofOption text) = .ok tree) ∨
      ∃ cause, parse (Text.ofOption text) = .error (.malformed cause)) ∧
    ∀ tree, parse (Text.ofOption text) = .ok tree →
      ∀ environment : Environment, environment.Real →
        Reached (tree.evaluate environment) ∧
        ∀ stuck, walk stuck (evaluateSymbol environment) (fun sign _ _ => applyOperator sign) tree =
          tree.evaluate environment := by
  constructor
  · cases hparse : parse (Text.ofOption text) with
    | ok tree => exact .inl ⟨tree, rfl⟩
    | error fault =>
        obtain ⟨cause, rfl⟩ := isMalformed_of_parse hparse
        exact .inr ⟨cause, rfl⟩
  · intro tree hparse environment hreal
    refine ⟨reached_evaluate (wellFormed_of_parse hparse) hreal, ?_⟩
    intro stuck
    rw [evaluate_eq_foldM, walk_eq_foldM]

/-- An operator behind its operands, a divisor that is zero, and a walk that would answer one where
a result is missing. -/
theorem outcomes_of_text_zeroDivisor :
    ∃ tree, parse "(a) z /".toList = .ok tree ∧
      walk (.ok 1.0) (evaluateSymbol zeroDivisor) (fun sign _ _ => applyOperator sign) tree =
        .error .divisionByZero := by
  have hparse : parse "(a) z /".toList =
      .ok (.operator ['/'] (.operand ['a']) (.operand ['z'])) := by decide +kernel
  obtain ⟨-, hread⟩ := outcomes_of_text (some "(a) z /".toList)
  obtain ⟨hreached, hwalk⟩ := hread _ hparse zeroDivisor (Environment.real_ofReals _)
  refine ⟨_, hparse, ?_⟩
  rw [hwalk, evaluate_operator, evaluate_operand, evaluate_operand]
  exact (applyOperator_eq_divisionByZero_iff ['/'] 1.0 0.0).mpr ⟨rfl, by decide⟩

end Formulary.Expr
