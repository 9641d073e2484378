import Formulary.Expr.Evaluation
import Formulary.Proofs.Symbol

/-!
# Evaluation by structural recursion

The value of a tree is that of its operator on the values of its operands.  The trees that are read
have no signs but those of the operators, so only the environment and divisions by zero can make
their evaluation fail.  The names are read from left to right, so the first one that is not bound is
the one that is reported.
-/

namespace Formulary

/-- The faults that the data of an evaluation are to blame for. -/
inductive Fault.OfData : Fault → Prop
  | missingVariable (name : Text) : OfData (.missingVariable name)
  | divisionByZero : OfData .divisionByZero
  | integerTooLarge : OfData .integerTooLarge
  | notANumber : OfData .notANumber

/-- The faults that an environment, or a division by zero, can cause. -/
inductive Fault.OfEnvironment (environment : Environment) : Fault → Prop
  | missingVariable {name : Text} (habsent : environment name = none) :
      OfEnvironment environment (.missingVariable name)
  | unreadable {name : Text} {binding : Binding} {fault : Fault}
      (hbound : environment name = some binding) (hread : binding.read = .error fault) :
      OfEnvironment environment fault
  | divisionByZero : OfEnvironment environment .divisionByZero

theorem Binding.fault_of_read {binding : Binding} {fault : Fault}
    (hread : binding.read = .error fault) : fault = .integerTooLarge ∨ fault = .notANumber := by
  cases binding with
  | real value => cases hread
  | integer value =>
      simp only [Binding.read] at hread
      split at hread
      · cases hread
      · cases hread
        exact .inl rfl
  | nothing =>
      cases hread
      exact .inr rfl

theorem Binding.ofData_of_read {binding : Binding} {fault : Fault}
    (hread : binding.read = .error fault) : fault.OfData := by
  rcases fault_of_read hread with rfl | rfl
  · exact .integerTooLarge
  · exact .notANumber

theorem Binding.read_ne_missing (binding : Binding) (name : Text) :
    binding.read ≠ .error (.missingVariable name) := by
  intro hread
  rcases fault_of_read hread with hfault | hfault <;> cases hfault

theorem Fault.OfEnvironment.ofData {environment : Environment} {fault : Fault}
    (hfault : fault.OfEnvironment environment) : fault.OfData := by
  cases hfault with
  | missingVariable => exact .missingVariable _
  | unreadable _ hread => exact Binding.ofData_of_read hread
  | divisionByZero => exact .divisionByZero

def Environment.Real (environment : Environment) : Prop :=
  ∀ name binding, environment name = some binding → ∃ value, binding = .real value

theorem Environment.real_ofReals (bindings : List (Text × Float)) : (ofReals bindings).Real := by
  intro name binding hbound
  obtain ⟨value, -, rfl⟩ := Option.map_eq_some_iff.mp hbound
  exact ⟨value, rfl⟩

/-- Doubles are read as they are, so they may be missing at most. -/
theorem Fault.OfEnvironment.of_real {environment : Environment} (hreal : environment.Real)
    {fault : Fault} (hfault : fault.OfEnvironment environment) :
    (∃ name, fault = .missingVariable name) ∨ fault = .divisionByZero := by
  cases hfault with
  | missingVariable => exact .inl ⟨_, rfl⟩
  | unreadable hbound hread =>
      obtain ⟨value, rfl⟩ := hreal _ _ hbound
      cases hread
  | divisionByZero => exact .inr rfl

theorem Fault.OfEnvironment.of_reals {bindings : List (Text × Float)} {fault : Fault}
    (hfault : fault.OfEnvironment (Environment.ofReals bindings)) :
    (∃ name, fault = .missingVariable name) ∨ fault = .divisionByZero :=
  hfault.of_real (Environment.real_ofReals bindings)

namespace Expr

open Formulary.Grammar

variable (environment : Environment)

theorem evaluate_operand (symbol : Text) :
    (operand symbol).evaluate environment = evaluateSymbol environment symbol := by
  rw [evaluate, walk_eq_foldM, foldM]

theorem evaluate_operator (sign : Text) (left right : Expr) :
    (operator sign left right).evaluate environment =
      left.evaluate environment >>= fun first =>
        right.evaluate environment >>= fun second => applyOperator sign first second := by
  simp only [evaluate, walk_eq_foldM, foldM]

theorem evaluate_literal {symbol : Text} {value : Float}
    (hliteral : Binary64.literal? symbol = some value) :
    (operand symbol).evaluate environment = .ok value := by
  rw [evaluate_operand, evaluateSymbol, hliteral]

theorem evaluate_add {left right : Expr} {first second : Float}
    (hfirst : left.evaluate environment = .ok first)
    (hsecond : right.evaluate environment = .ok second) :
    (operator ['+'] left right).evaluate environment = .ok (first + second) := by
  rw [evaluate_operator, hfirst, hsecond]
  rfl

theorem ofEnvironment_of_evaluateSymbol {symbol : Text} {fault : Fault}
    (hfault : evaluateSymbol environment symbol = .error fault) :
    fault.OfEnvironment environment := by
  unfold evaluateSymbol at hfault
  split at hfault
  · cases hfault
  · split at hfault
    next binding hbound => exact .unreadable hbound hfault
    next habsent =>
        cases hfault
        exact .missingVariable habsent

theorem ofEnvironment_of_applyOperator {sign : Text} (hsign : sign ∈ operatorSigns)
    {left right : Float} {fault : Fault} (hfault : applyOperator sign left right = .error fault) :
    fault.OfEnvironment environment := by
  simp only [operatorSigns, List.mem_cons, List.not_mem_nil, or_false] at hsign
  rcases hsign with rfl | rfl | rfl | rfl | rfl
  case inr.inr.inr.inl =>
      simp only [applyOperator] at hfault
      split at hfault
      · cases hfault
        exact .divisionByZero
      · cases hfault
  all_goals cases hfault

/-- Only the environment and divisions by zero make the evaluation of a well-formed tree fail. -/
theorem ofEnvironment_of_evaluate {tree : Expr} (hwellFormed : tree.WellFormed) {fault : Fault}
    (hfault : tree.evaluate environment = .error fault) : fault.OfEnvironment environment := by
  induction tree with
  | operand symbol =>
      rw [evaluate_operand] at hfault
      exact ofEnvironment_of_evaluateSymbol environment hfault
  | operator sign left right ihleft ihright =>
      obtain ⟨hsign, hleft, hright⟩ := hwellFormed
      rw [evaluate_operator, bind_eq_error_iff] at hfault
      rcases hfault with hfirst | ⟨first, -, hrest⟩
      · exact ihleft hleft hfirst
      · rcases bind_eq_error_iff.mp hrest with hsecond | ⟨second, -, happlied⟩
        · exact ihright hright hsecond
        · exact ofEnvironment_of_applyOperator environment hsign happlied

theorem ofData_of_evaluate {tree : Expr} (hwellFormed : tree.WellFormed) {fault : Fault}
    (hfault : tree.evaluate environment = .error fault) : fault.OfData :=
  (ofEnvironment_of_evaluate environment hwellFormed hfault).ofData

/-! ## Names that are not bound -/

variable {environment}

theorem evaluateSymbol_eq_missing {symbol name : Text}
    (hfault : evaluateSymbol environment symbol = .error (.missingVariable name)) :
    name = symbol ∧ Binary64.isLiteral symbol = false ∧ environment symbol = none := by
  unfold evaluateSymbol at hfault
  split at hfault
  · cases hfault
  next hliteral =>
      split at hfault
      next binding _ => exact absurd hfault (binding.read_ne_missing name)
      next habsent =>
          cases hfault
          exact ⟨rfl, by simpa [Binary64.literal?] using hliteral, habsent⟩

theorem applyOperator_ne_missing (sign : Text) (left right : Float) (name : Text) :
    applyOperator sign left right ≠ .error (.missingVariable name) := by
  unfold applyOperator
  split
  case h_4 => split <;> simp
  all_goals simp

/-- Where a tree has a value, all of its names are bound. -/
theorem bound_of_evaluate {tree : Expr} {value : Float}
    (hvalue : tree.evaluate environment = .ok value) :
    ∀ name ∈ tree.names, (environment name).isNone = false := by
  induction tree generalizing value with
  | operand symbol =>
      intro name hname
      obtain ⟨hsymbol, hliteral⟩ := List.mem_filter.mp hname
      obtain rfl := List.mem_singleton.mp hsymbol
      rw [evaluate_operand, evaluateSymbol, Binary64.literal?] at hvalue
      cases hbound : environment name with
      | none => simp_all
      | some binding => rfl
  | operator sign left right ihleft ihright =>
      rw [evaluate_operator, bind_eq_ok_iff] at hvalue
      obtain ⟨first, hfirst, hrest⟩ := hvalue
      obtain ⟨second, hsecond, -⟩ := bind_eq_ok_iff.mp hrest
      intro name hname
      rw [names, leaves, List.filter_append] at hname
      exact (List.mem_append.mp hname).elim (ihleft hfirst name) (ihright hsecond name)

/-- A name that is not bound and comes first is missing. -/
theorem evaluate_eq_missing {name sign : Text} (right : Expr)
    (hliteral : Binary64.literal? name = none) (habsent : environment name = none) :
    (operator sign (operand name) right).evaluate environment =
      .error (.missingVariable name) := by
  rw [evaluate_operator, evaluate_operand, evaluateSymbol, hliteral, habsent]
  rfl

/-- A name that is reported is the first one from the left that is not bound, since all names before
it have been read. -/
theorem find?_names_of_evaluate {tree : Expr} {name : Text}
    (hfault : tree.evaluate environment = .error (.missingVariable name)) :
    (tree.names.find? fun name => (environment name).isNone) = some name := by
  induction tree with
  | operand symbol =>
      rw [evaluate_operand] at hfault
      obtain ⟨rfl, hliteral, habsent⟩ := evaluateSymbol_eq_missing hfault
      simp [names, leaves, hliteral, habsent]
  | operator sign left right ihleft ihright =>
      rw [names, leaves, List.filter_append, List.find?_append]
      rw [evaluate_operator, bind_eq_error_iff] at hfault
      rcases hfault with hfirst | ⟨first, hfirst, hrest⟩
      · rw [← names, ihleft hfirst, Option.some_or]
      · have hnone : (left.names.find? fun name => (environment name).isNone) = none := by
          rw [List.find?_eq_none]
          intro name hname
          simp [bound_of_evaluate hfirst name hname]
        rw [← names, hnone, Option.none_or]
        rcases bind_eq_error_iff.mp hrest with hsecond | ⟨second, -, happlied⟩
        · exact ihright hsecond
        · exact absurd happlied (applyOperator_ne_missing sign first second name)

end Expr

end Formulary
