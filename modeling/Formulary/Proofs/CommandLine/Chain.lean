import Formulary.Proofs.Composition
import Formulary.Proofs.CommandLine.Report

/-!
# Long sums

The walks over a tree keep stacks of their own, so a sum of any length is read and evaluated.  Its
tree leans to the left, and each term is one record more inside another in the description.  So for
every stack there is a sum whose report is lost on the way to the printer, while storing and
evaluating it gives a value.
-/

namespace Formulary.CommandLine.Report

open Catalogue (outcome storeAndEvaluate)
open Grammar (Derives Joins derives_sum_of_atom ofTokens_of_derives)

/-- The text `1+1+...+1` with so many operators. -/
def chain : Nat → Text
  | 0 => ['1']
  | count + 1 => chain count ++ ['+', '1']

def chainTokens : Nat → List Token
  | 0 => [⟨.number, ['1']⟩]
  | count + 1 => chainTokens count ++ [⟨.operator, ['+']⟩, ⟨.number, ['1']⟩]

def chainTree : Nat → Expr
  | 0 => .operand ['1']
  | count + 1 => .operator ['+'] (chainTree count) (.operand ['1'])

theorem exists_chain_eq_cons (count : Nat) : ∃ rest, chain count = '1' :: rest := by
  induction count with
  | zero => exact ⟨[], rfl⟩
  | succ count ih =>
      obtain ⟨rest, hrest⟩ := ih
      exact ⟨rest ++ ['+', '1'], by rw [chain, hrest, List.cons_append]⟩

/-! ## The tree of a sum -/

theorem cut_chain (count : Nat) : Token.Cut (chain count) (chainTokens count) := by
  have hone : Token.Cut ['1'] [⟨.number, ['1']⟩] := .cons rfl .nil
  induction count with
  | zero => exact hone
  | succ count ih => exact ih.append (by simp [Expr.Stops]) (.cons rfl hone)

theorem derives_chainTokens (count : Nat) :
    Derives .sum (chainTokens count) (chainTree count) := by
  have hone : Derives .atom [⟨.number, ['1']⟩] (.operand ['1']) := .operand rfl
  have hplus : Joins .sum ⟨.operator, ['+']⟩ := ⟨rfl, by decide⟩
  induction count with
  | zero => exact derives_sum_of_atom hone
  | succ count ih => exact .sum ih hplus (.productOfPower (.powerOfAtom hone))

theorem parse_chain (count : Nat) : Expr.parse (chain count) = .ok (chainTree count) := by
  obtain ⟨rest, hrest⟩ := exists_chain_eq_cons count
  have hcut := Token.ofText_of_cut (cut_chain count) (by rw [hrest]; exact List.cons_ne_nil _ _)
  exact Expr.parse_eq_ok_iff.mpr ⟨_, hcut, ofTokens_of_derives (derives_chainTokens count)⟩

theorem height_chainTree (count : Nat) : (chainTree count).height = count + 1 := by
  induction count with
  | zero => rfl
  | succ count ih =>
      rw [chainTree, Expr.height, ih, Expr.height]
      omega

theorem exists_value_of_chainTree (environment : Environment) (count : Nat) :
    ∃ value, (chainTree count).evaluate environment = .ok value := by
  have hone : (Expr.operand ['1']).evaluate environment = .ok _ := Expr.evaluate_literal _ rfl
  induction count with
  | zero => exact ⟨_, hone⟩
  | succ count ih =>
      obtain ⟨value, hvalue⟩ := ih
      exact ⟨_, Expr.evaluate_add _ hvalue hone⟩

/-! ## The report on a sum -/

/-- The command line that asks for the value and the description of the tree. -/
def chainLine (count : Nat) : List Text :=
  ["--show-tree".toList, chain count]

theorem allBlank_chain (count : Nat) : (chain count).allBlank = false := by
  obtain ⟨rest, hrest⟩ := exists_chain_eq_cons count
  rw [hrest]
  rfl

theorem asks_chainLine (count : Nat) :
    Asks (chainLine count) (chain count) [] ∧ AsksTree (chainLine count) := by
  have hparse : Spec.parse specs (chainLine count) =
      .ok ⟨[⟨.showTree, []⟩], [chain count]⟩ := by
    obtain ⟨rest, hrest⟩ := exists_chain_eq_cons count
    have hoption : Spec.isOption ('1' :: rest) = false := by cases rest <;> rfl
    rw [chainLine, hrest]
    change Spec.read specs [⟨.showTree, []⟩] [] ['1' :: rest] = _
    unfold Spec.read
    rw [if_neg (by simp), hoption]
    rfl
  exact ⟨⟨_, hparse, rfl, rfl, rfl, rfl⟩, _, hparse, rfl⟩

/-- Where a sum has no fewer terms than there is room for records, its report is lost. -/
theorem mute_commandWithin_chainLine {room count : Nat} (hroom : 2 ≤ room)
    (hcount : room ≤ count + 1) : (commandWithin room (chainLine count)).Mute := by
  obtain ⟨hasks, hasksTree⟩ := asks_chainLine count
  obtain ⟨parts, items, hcommand, hresult, htree, hitems⟩ := hasks.exists_run room
  have hdeep : ¬ Describable room (chain count) := by
    intro hdescribable
    have hless := hdescribable _ (parse_chain count)
    rw [height_chainTree] at hless
    omega
  obtain ⟨value, hvalue⟩ := exists_value_of_chainTree (Environment.ofReals []) count
  have houtcome : outcome (chain count) (some (Environment.ofReals [])) = .ok value := by
    rw [outcome, parse_chain]
    exact hvalue
  obtain ⟨report, -, ⟨-, hfits⟩ | ⟨hrun, -⟩⟩ := run_of_value hroom hitems hresult houtcome
  · exact absurd (hfits (htree.mpr hasksTree)) hdeep
  · rw [hcommand, hrun]
    exact Outcome.mute_overrun report

theorem exists_value_of_chain (count : Nat) (commands : List Catalogue.Command) (position : Nat) :
    ∃ value, storeAndEvaluate (chain count) (Environment.ofReals [])
      (Catalogue.stateAt commands position) = .ok value := by
  rw [Catalogue.storeAndEvaluate_eq (Catalogue.sound_stateAt commands position)
    (allBlank_chain count), outcome, parse_chain]
  exact exists_value_of_chainTree _ count

end Formulary.CommandLine.Report
