import Formulary.Proofs.Symbol.Order
import Formulary.Proofs.Walk.Order

/-!
# What an evaluation needs of its environment

An evaluation looks up the names of its tree and nothing else, so other bindings do not matter.  A
name that is not bound makes it fail: at the leaf of the first such name, unless a divisor before
that leaf is zero.
-/

namespace Formulary

namespace Expr

variable {environment other : Environment} {tree : Expr} {name : Text}

/-! ## Bindings that do not matter -/

theorem evaluateSymbol_congr {symbol : Text}
    (hagree : Binary64.isLiteral symbol = false → environment symbol = other symbol) :
    evaluateSymbol environment symbol = evaluateSymbol other symbol := by
  unfold evaluateSymbol
  split
  · rfl
  · next hliteral =>
      have hname : Binary64.isLiteral symbol = false := by
        simpa [Binary64.literal?] using hliteral
      rw [hagree hname]

/-- Environments that agree on the names of a tree give it the same outcome. -/
theorem evaluate_congr (hagree : ∀ name ∈ tree.names, environment name = other name) :
    tree.evaluate environment = tree.evaluate other := by
  induction tree with
  | operand symbol =>
      rw [evaluate_operand, evaluate_operand]
      apply evaluateSymbol_congr
      intro hname
      exact hagree symbol (by simp [names, leaves, hname])
  | operator sign left right ihleft ihright =>
      simp only [names, leaves, List.filter_append, List.forall_mem_append] at hagree
      obtain ⟨hleft, hright⟩ := hagree
      rw [evaluate_operator, evaluate_operator, ihleft hleft, ihright hright]

/-- Only the names of a text have an influence on its value: environments that agree on them give
the same value or the same fault.  In particular it does not matter what is bound to a literal, or
to a name that is not one of the text. -/
theorem evaluate_eq_of_agree {text : Text} (hparse : parse text = .ok tree) :
    ∃ tokens, Token.ofText text = .ok tokens ∧
      (∀ environment other : Environment,
        (∀ name ∈ Token.names tokens, environment name = other name) →
          tree.evaluate environment = tree.evaluate other) ∧
      ∀ (environment : Environment) (name : Text) (binding : Option Binding),
        Binary64.isLiteral name ∨ name ∉ Token.names tokens →
          tree.evaluate (Function.update environment name binding) =
            tree.evaluate environment := by
  obtain ⟨tokens, hcut, hnames⟩ := names_eq_of_parse hparse
  refine ⟨tokens, hcut, ?_⟩
  rw [← hnames]
  refine ⟨fun environment other => evaluate_congr, ?_⟩
  intro environment name binding hforeign
  apply evaluate_congr
  intro used hused
  have hdiffer : used ≠ name := by
    rintro rfl
    rcases hforeign with hliteral | hforeign
    · simp [names, hliteral] at hused
    · exact hforeign hused
  rw [Function.update_of_ne hdiffer]

/-- Environments that bind the one name of a formula alike, and a literal and another name not. -/
theorem evaluate_eq_of_agree_literal :
    ∃ tree, parse "(x) ^ 2".toList = .ok tree ∧
      tree.evaluate (Environment.ofReals [(['2'], 7.0), (['x'], 3.0)]) =
        tree.evaluate (Environment.ofReals [(['x'], 3.0), (['y'], 0.0)]) ∧
      tree.evaluate (Function.update (fun _ => none) ['2'] (some .nothing)) =
        tree.evaluate fun _ => none := by
  have hparse : parse "(x) ^ 2".toList =
      .ok (.operator ['^'] (.operand ['x']) (.operand ['2'])) := by decide +kernel
  have htokens : Token.ofText "(x) ^ 2".toList =
      .ok [⟨.opener, ['(']⟩, ⟨.identifier, ['x']⟩, ⟨.closer, [')']⟩, ⟨.operator, ['^']⟩,
        ⟨.number, ['2']⟩] := by decide +kernel
  obtain ⟨tokens, hcut, hagree, hforeign⟩ := evaluate_eq_of_agree hparse
  obtain rfl := Except.ok.inj (hcut.symm.trans htokens)
  refine ⟨_, hparse, hagree _ _ ?_, hforeign _ _ _ (.inl rfl)⟩
  intro name hname
  obtain rfl := List.mem_singleton.mp hname
  rfl

/-! ## Bindings that are missing -/

theorem operand_mem_postorder_iff {symbol : Text} :
    operand symbol ∈ tree.postorder ↔ symbol ∈ tree.leaves := by
  induction tree with
  | operand other => simp [postorder, leaves]
  | operator sign left right ihleft ihright => simp [postorder, leaves, ihleft, ihright]

/-- The nodes that come before the first leaf with a symbol in post-order. -/
def nodesBefore (symbol : Text) (tree : Expr) : List Expr :=
  tree.postorder.takeWhile (· ≠ operand symbol)

/-- Post-order is split at the first leaf with a symbol. -/
theorem exists_postorder_eq {symbol : Text} (hleaf : symbol ∈ tree.leaves) :
    ∃ after, tree.postorder = tree.nodesBefore symbol ++ operand symbol :: after ∧
      operand symbol ∉ tree.nodesBefore symbol := by
  obtain ⟨before, after, hsplit, hnot⟩ :=
    List.eq_append_cons_of_mem (operand_mem_postorder_iff.mpr hleaf)
  have hbefore : tree.nodesBefore symbol = before := by
    rw [nodesBefore, hsplit, List.takeWhile_append_of_pos]
    · simp
    · intro root hroot
      simpa using ne_of_mem_of_not_mem hroot hnot
  rw [hbefore]
  exact ⟨after, hsplit, hnot⟩

/-- Of two places at which a list is split, the later one has the item of the other before it. -/
theorem eq_or_mem_of_split {α : Type} {before after before' after' : List α} {item last : α}
    (hsplit : before ++ item :: after = before' ++ last :: after') (hnot : item ∉ before') :
    (before = before' ∧ item = last) ∨ last ∈ before := by
  rcases List.append_eq_append_iff.mp hsplit with ⟨more, rfl, htail⟩ | ⟨more, rfl, htail⟩
  · cases more with
    | nil => exact .inl ⟨by simp, (List.cons.inj htail).1⟩
    | cons first more =>
        obtain ⟨rfl, -⟩ := List.cons.inj htail
        exact absurd (by simp) hnot
  · cases more with
    | nil => exact .inl ⟨by simp, (List.cons.inj htail).1.symm⟩
    | cons first more =>
        obtain ⟨rfl, -⟩ := List.cons.inj htail
        exact .inr (by simp)

/-- A node at which a value is missing is the leaf of the name. -/
theorem Fails.eq_operand {root : Expr}
    (hfails : Fails (evaluateSymbol environment) (fun sign _ _ => applyOperator sign) root
      (.missingVariable name)) : root = .operand name := by
  cases hfails with
  | operand hleaf =>
      obtain ⟨rfl, -⟩ := evaluateSymbol_eq_missing hleaf
      rfl
  | operator _ _ hnode => exact (applyOperator_ne_missing _ _ _ name hnode).elim

theorem DividesByZero.evaluate_ne {root : Expr} (hdivides : root.DividesByZero environment)
    (value : Float) : root.evaluate environment ≠ .ok value := by
  cases root with
  | operand symbol => exact hdivides.elim
  | operator sign left right =>
      obtain ⟨hsign, divisor, hdivisor, hzero⟩ := hdivides
      intro hvalue
      rw [evaluate_operator, bind_eq_ok_iff] at hvalue
      obtain ⟨first, -, hrest⟩ := hvalue
      rw [hdivisor] at hrest
      have hdivision := (applyOperator_eq_divisionByZero_iff sign first divisor).mpr ⟨hsign, hzero⟩
      cases hdivision.symm.trans hrest

theorem evaluate_ne_of_unbound (hname : name ∈ tree.names) (habsent : environment name = none)
    (value : Float) : tree.evaluate environment ≠ .ok value := by
  intro hvalue
  have hbound := bound_of_evaluate hvalue name hname
  simp [habsent] at hbound

/-- If a leaf has no value, an evaluation ends there or at a node that comes before. -/
theorem exists_last_of_evaluate {symbol : Text} {fault : Fault} (hleaf : symbol ∈ tree.leaves)
    (hvalueless : ∀ value, (operand symbol).evaluate environment ≠ .ok value)
    (hfault : tree.evaluate environment = .error fault) :
    ∃ last, Fails (evaluateSymbol environment) (fun sign _ _ => applyOperator sign) last fault ∧
      ((last = operand symbol ∧
        ∀ root ∈ tree.nodesBefore symbol, ∃ value, root.evaluate environment = .ok value) ∨
      last ∈ tree.nodesBefore symbol) := by
  rw [evaluate_eq_foldM, foldM_eq_error_iff] at hfault
  obtain ⟨before, last, rest, hsplit, hbefore, hlast⟩ := hfault
  obtain ⟨after, hpostorder, -⟩ := exists_postorder_eq hleaf
  have hvalues : ∀ root ∈ before, ∃ value, root.evaluate environment = .ok value := by
    intro root hroot
    rw [evaluate_eq_foldM]
    exact hbefore root hroot
  have hnot : operand symbol ∉ before := by
    intro hmem
    obtain ⟨value, hvalue⟩ := hvalues _ hmem
    exact hvalueless value hvalue
  refine ⟨last, hlast, ?_⟩
  rcases eq_or_mem_of_split (hpostorder.symm.trans hsplit) hnot with ⟨hsame, rfl⟩ | hmem
  · exact .inl ⟨rfl, by rwa [hsame]⟩
  · exact .inr hmem

/-- Where names are not bound, the evaluation ends at the leaf of the first of them, or at a
division by zero before that leaf. -/
theorem evaluate_of_unbound (hwellFormed : tree.WellFormed) (hreal : environment.Real)
    (hfirst : (tree.names.find? fun name => (environment name).isNone) = some name) :
    ((∃ root ∈ tree.nodesBefore name, root.DividesByZero environment) ∧
      tree.evaluate environment = .error .divisionByZero) ∨
    ((∀ root ∈ tree.nodesBefore name, ¬ root.DividesByZero environment) ∧
      tree.evaluate environment = .error (.missingVariable name)) := by
  have hname := List.mem_of_find?_eq_some hfirst
  have habsent : environment name = none := by simpa using List.find?_some hfirst
  obtain ⟨hleaf, hliteral⟩ := List.mem_filter.mp hname
  cases houtcome : tree.evaluate environment with
  | ok value => exact absurd houtcome (evaluate_ne_of_unbound hname habsent value)
  | error fault =>
      have hvalueless : ∀ value, (operand name).evaluate environment ≠ .ok value :=
        evaluate_ne_of_unbound (by simpa [names, leaves] using hliteral) habsent
      obtain ⟨last, hlast, hplace⟩ := exists_last_of_evaluate hleaf hvalueless houtcome
      have hfault := ofEnvironment_of_evaluate environment hwellFormed houtcome
      rcases hfault.of_real hreal with ⟨other, rfl⟩ | rfl
      · obtain rfl : other = name := by
          rw [find?_names_of_evaluate houtcome] at hfirst
          exact Option.some.inj hfirst
        obtain rfl := hlast.eq_operand
        obtain ⟨-, -, hnot⟩ := exists_postorder_eq hleaf
        obtain ⟨-, hvalues⟩ := hplace.resolve_right hnot
        refine .inr ⟨?_, rfl⟩
        intro root hroot hdivides
        obtain ⟨value, hvalue⟩ := hvalues root hroot
        exact hdivides.evaluate_ne value hvalue
      · have hdivides := hlast.eq_divisionByZero_iff.mp rfl
        refine .inl ⟨⟨last, ?_, hdivides⟩, rfl⟩
        rcases hplace with ⟨rfl, -⟩ | hearlier
        · exact hdivides.elim
        · exact hearlier

/-- If all names of a tree that is read are bound to doubles, none of them is reported as missing.
Otherwise the tree has no value: the first name that is not bound is reported, unless a division
that comes before the first leaf with the name divides by zero. -/
theorem missing_reported {text : Text} (hparse : parse text = .ok tree)
    (hreal : environment.Real) :
    ((∀ name ∈ tree.variableNames, (environment name).isSome) →
      ∀ name, tree.evaluate environment ≠ .error (.missingVariable name)) ∧
    (∀ name, (tree.variableNames.find? fun name => (environment name).isNone) = some name →
      operand name ∈ tree.postorder ∧
      ((∃ root ∈ tree.nodesBefore name, root.DividesByZero environment) →
        tree.evaluate environment = .error .divisionByZero) ∧
      ((∀ root ∈ tree.nodesBefore name, ¬ root.DividesByZero environment) →
        tree.evaluate environment = .error (.missingVariable name))) ∧
    ((∃ name ∈ tree.variableNames, (environment name).isNone) →
      ∀ value, tree.evaluate environment ≠ .ok value) := by
  simp only [variableNames_eq, List.mem_eraseDups, find?_eraseDups]
  refine ⟨?_, ?_, ?_⟩
  · intro hbound name hmissing
    have hfirst := find?_names_of_evaluate hmissing
    have hname := hbound name (List.mem_of_find?_eq_some hfirst)
    have habsent : environment name = none := by simpa using List.find?_some hfirst
    rw [habsent] at hname
    cases hname
  · intro name hfirst
    have hleaf := List.mem_of_mem_filter (List.mem_of_find?_eq_some hfirst)
    have hreported := evaluate_of_unbound (wellFormed_of_parse hparse) hreal hfirst
    refine ⟨operand_mem_postorder_iff.mpr hleaf, ?_, ?_⟩
    · rintro ⟨root, hroot, hdivides⟩
      rcases hreported with ⟨-, hdivision⟩ | ⟨hnone, -⟩
      · exact hdivision
      · exact absurd hdivides (hnone root hroot)
    · intro hnone
      rcases hreported with ⟨⟨root, hroot, hdivides⟩, -⟩ | ⟨-, hmissing⟩
      · exact absurd hdivides (hnone root hroot)
      · exact hmissing
  · rintro ⟨name, hname, habsent⟩
    exact evaluate_ne_of_unbound hname (Option.isNone_iff_eq_none.mp habsent)

/-- A division by zero in front of the name that is not bound, and behind it. -/
theorem missing_reported_divided :
    (∃ tree, parse "a/z - u".toList = .ok tree ∧
      tree.evaluate zeroDivisor = .error .divisionByZero) ∧
    ∃ tree, parse "u - a/z".toList = .ok tree ∧
      tree.evaluate zeroDivisor = .error (.missingVariable ['u']) := by
  have hfront : parse "a/z - u".toList = .ok (.operator ['-']
      (.operator ['/'] (.operand ['a']) (.operand ['z'])) (.operand ['u'])) := by decide +kernel
  have hbehind : parse "u - a/z".toList = .ok (.operator ['-'] (.operand ['u'])
      (.operator ['/'] (.operand ['a']) (.operand ['z']))) := by decide +kernel
  have hreal : zeroDivisor.Real := Environment.real_ofReals _
  have hdivisor : (operand ['z']).evaluate zeroDivisor = .ok 0.0 := by
    rw [evaluate_operand]
    rfl
  constructor
  · obtain ⟨-, hreported, -⟩ := missing_reported hfront hreal
    have hfirst := hreported ['u'] (by rw [variableNames_eq]; rfl)
    refine ⟨_, hfront, hfirst.2.1 ⟨.operator ['/'] (.operand ['a']) (.operand ['z']), ?_, ?_⟩⟩
    · decide
    · exact ⟨rfl, 0.0, hdivisor, by decide⟩
  · obtain ⟨-, hreported, -⟩ := missing_reported hbehind hreal
    have hfirst := hreported ['u'] (by rw [variableNames_eq]; rfl)
    refine ⟨_, hbehind, hfirst.2.2 ?_⟩
    intro root hroot
    cases hroot

end Expr

end Formulary
