import Formulary.Proofs.Symbol

/-!
# Names in the order of the text

The names of a tree are collected by a walk with a list of the subtrees that are still to be
visited.  It comes to the leaves from left to right, and writes a name down where it occurs first.
Since the operands of a text stay in their order until they are leaves, so do the names.
-/

namespace Formulary

/-- The first item of its sort is no repetition of an earlier one. -/
theorem find?_eraseDups {α : Type} [BEq α] [LawfulBEq α] (keep : α → Bool) (items : List α) :
    items.eraseDups.find? keep = items.find? keep := by
  induction items using List.reverseRecOn with
  | nil => rfl
  | append_singleton items last ih =>
      rw [List.eraseDups_append, List.find?_append, List.find?_append, ih]
      by_cases hmem : last ∈ items
      · have hrepeated : [last].removeAll items = [] := by simp [List.removeAll, hmem]
        rw [hrepeated, List.eraseDups_nil, List.find?_nil, Option.or_none]
        cases hfound : items.find? keep with
        | some item => rfl
        | none => simp [List.find?_eq_none.mp hfound last hmem]
      · have hnew : [last].removeAll items = [last] := by simp [List.removeAll, hmem]
        rw [hnew, List.eraseDups_cons, List.filter_nil, List.eraseDups_nil]

namespace Expr

/-! ## The walk that collects -/

/-- A symbol is collected if it is to be kept and not yet seen. -/
def isNew (keep : Text → Bool) (seen : List Text) (symbol : Text) : Bool :=
  keep symbol && !seen.contains symbol

theorem isNew_cons (keep : Text → Bool) (symbol : Text) (seen : List Text) (other : Text) :
    isNew keep (symbol :: seen) other = ((!other == symbol) && isNew keep seen other) := by
  rw [isNew, isNew, List.contains_cons]
  cases other == symbol <;> simp

/-- The leaves of the pending subtrees that are new are collected, each where it occurs first. -/
theorem collect_eq (keep : Text → Bool) (pending : List Expr) (seen : List Text) :
    collect keep pending seen =
      seen.reverse ++ ((pending.flatMap leaves).filter (isNew keep seen)).eraseDups := by
  fun_induction collect keep pending seen with
  | case1 seen => simp
  | case2 symbol pending seen ih =>
      simp only [dite_eq_ite] at ih
      rw [ih, List.flatMap_cons, leaves, List.singleton_append]
      set rest := pending.flatMap leaves
      split
      · next hnew =>
          have hnew : isNew keep seen symbol := hnew
          calc
            (symbol :: seen).reverse ++ (rest.filter (isNew keep (symbol :: seen))).eraseDups =
                seen.reverse ++
                  symbol :: (rest.filter (isNew keep (symbol :: seen))).eraseDups := by simp
            _ = seen.reverse ++ symbol :: (List.filter (fun other => !other == symbol)
                  (rest.filter (isNew keep seen))).eraseDups := by
                rw [List.filter_filter]
                simp only [← isNew_cons]
            _ = seen.reverse ++ ((symbol :: rest).filter (isNew keep seen)).eraseDups := by
                rw [List.filter_cons_of_pos hnew, List.eraseDups_cons]
      · next hold =>
          have hold : ¬ isNew keep seen symbol := hold
          rw [List.filter_cons_of_neg hold]
  | case3 sign left right pending seen ih =>
      rw [ih]
      simp [leaves]

theorem variableNames_eq (tree : Expr) : tree.variableNames = tree.names.eraseDups := by
  have hall : isNew (fun symbol => !Binary64.isLiteral symbol) [] =
      fun symbol => !Binary64.isLiteral symbol := by
    funext symbol
    simp [isNew]
  rw [variableNames, collect_eq, hall, names]
  simp

/-- The leaves of the tree of a text are the numbers and names among its tokens, in the order of the
text.  Its variables are the names in the same order, each where it occurs first. -/
theorem leaves_and_variableNames_of_parse {text : Text} {tree : Expr}
    (hparse : parse text = .ok tree) :
    ∃ tokens, Token.ofText text = .ok tokens ∧
      tree.leaves = (Rpn.operands tokens).map Token.text ∧
      tree.variableNames = (Token.names tokens).eraseDups := by
  obtain ⟨tokens, hcut, hleaves⟩ := leaves_eq_of_parse hparse
  obtain ⟨others, hcut', hnames⟩ := names_eq_of_parse hparse
  obtain rfl : tokens = others := Except.ok.inj (hcut.symm.trans hcut')
  refine ⟨tokens, hcut, hleaves, ?_⟩
  rw [variableNames_eq, hnames]

/-- A name that occurs twice, also where two values stand side by side. -/
theorem leaves_and_variableNames_of_parse_repeated :
    ∃ tree, parse " y - (2*x) ^ y 3.5 /".toList = .ok tree ∧
      tree.leaves = [['y'], ['2'], ['x'], ['y'], "3.5".toList] ∧
      tree.variableNames = [['y'], ['x']] := by
  have hparse : parse " y - (2*x) ^ y 3.5 /".toList =
      .ok (.operator ['-'] (.operand ['y'])
        (.operator ['/'] (.operator ['*'] (.operand ['2']) (.operand ['x']))
          (.operator ['^'] (.operand ['y']) (.operand "3.5".toList)))) := by decide +kernel
  have htokens : Token.ofText " y - (2*x) ^ y 3.5 /".toList =
      .ok [⟨.identifier, ['y']⟩, ⟨.operator, ['-']⟩, ⟨.opener, ['(']⟩, ⟨.number, ['2']⟩,
        ⟨.operator, ['*']⟩, ⟨.identifier, ['x']⟩, ⟨.closer, [')']⟩, ⟨.operator, ['^']⟩,
        ⟨.identifier, ['y']⟩, ⟨.number, "3.5".toList⟩, ⟨.operator, ['/']⟩] := by decide +kernel
  obtain ⟨tokens, hcut, hleaves, hnames⟩ := leaves_and_variableNames_of_parse hparse
  obtain rfl := Except.ok.inj (hcut.symm.trans htokens)
  exact ⟨_, hparse, hleaves, hnames⟩

end Expr

end Formulary
