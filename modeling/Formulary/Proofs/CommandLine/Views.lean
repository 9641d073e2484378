import Formulary.Proofs.Canonical.Nesting
import Formulary.Proofs.CommandLine.Report
import Formulary.Proofs.Symbol.Order
import Formulary.Proofs.Walk.Order

/-!
# The views of a report

A report shows one tree in up to five ways: described in full, listed in reverse Polish order, as
canonical text, by its height and by its variables.  They are computed apart from one another: the
listing by the arrangement of the tokens, before there is a tree, and the others by walks of their
own.  The description alone determines the tree, and with it the other views.
-/

namespace Formulary

namespace Expr

/-! ## Descriptions -/

/-- A value describes a tree, which is read by the names of its fields. -/
inductive Describes : Json → Expr → Prop
  | operand {json : Json} {symbol : Text} (hkind : json.field? "kind" = some (.ofString "operand"))
      (hsymbol : json.field? "symbol" = some (.string symbol)) : Describes json (.operand symbol)
  | operator {json first second : Json} {sign : Text} {left right : Expr}
      (hkind : json.field? "kind" = some (.ofString "operator"))
      (hsign : json.field? "op" = some (.string sign)) (hfirst : json.field? "left" = some first)
      (hsecond : json.field? "right" = some second) (hleft : Describes first left)
      (hright : Describes second right) : Describes json (.operator sign left right)

theorem describes_description (tree : Expr) : Describes tree.description tree := by
  induction tree with
  | operand symbol =>
      apply Describes.operand <;>
        simp [description, describeLeaf, Json.field?_object, List.lookup_cons]
  | operator sign left right ihleft ihright =>
      apply Describes.operator _ _ _ _ ihleft ihright <;>
        simp [description, describeNode, Json.field?_object, List.lookup_cons]

/-- A value describes one tree at most. -/
theorem Describes.unique {json : Json} {tree other : Expr} (htree : Describes json tree)
    (hother : Describes json other) : tree = other := by
  induction htree generalizing other with
  | @operand json symbol hkind hsymbol =>
      cases hother with
      | operand _ hsymbol' =>
          rw [hsymbol] at hsymbol'
          cases hsymbol'
          rfl
      | operator hkind' =>
          rw [hkind] at hkind'
          cases hkind'
  | operator hkind hsign hfirst hsecond _ _ ihleft ihright =>
      cases hother with
      | operand hkind' =>
          rw [hkind] at hkind'
          cases hkind'
      | operator _ hsign' hfirst' hsecond' hleft' hright' =>
          rw [hsign] at hsign'
          rw [hfirst] at hfirst'
          rw [hsecond] at hsecond'
          cases hsign'
          cases hfirst'
          cases hsecond'
          rw [ihleft hleft', ihright hright']

end Expr

namespace CommandLine.Report

theorem field?_toJson (report : Report) :
    report.toJson.field? "variables" = some (.ofTexts report.variableNames) ∧
      report.toJson.field? "depth" = some (.integer report.depth) ∧
      report.toJson.field? "postfix" = report.listing.map Json.ofTexts ∧
      report.toJson.field? "hash" = report.canonical.map Json.string ∧
      report.toJson.field? "tree" = report.tree := by
  simp [toJson, Json.field?_object, List.lookup_append, List.lookup_cons, lookup_optionalField,
    lookup_optionalField_of_ne]

variable {line : List Text} {formula : Text} {report : Report}

structure AsksViews (line : List Text) (formula : Text) : Prop where
  parsed : ∃ arguments, Spec.parse specs line = .ok arguments ∧ arguments.positional = [formula] ∧
    arguments.has .showListing ∧ arguments.has .showCanonical ∧ arguments.has .showTree

/-- What is printed is a report that was made. -/
theorem make_of_run {room : Nat} {parts : Parts} {items : List Text}
    (hrun : run room parts items formula = .printed report) :
    ∃ bindings, make parts bindings formula = .ok report := by
  unfold run at hrun
  split at hrun
  · cases hrun
  · next bindings _ =>
      split at hrun
      · next hmake =>
          unfold print at hrun
          split at hrun
          · cases hrun
            exact ⟨bindings, hmake⟩
          · cases hrun
      · cases hrun

theorem AsksViews.exists_make (hasks : AsksViews line formula)
    (hprinted : command line = .printed report) :
    ∃ parts bindings, make parts bindings formula = .ok report ∧
      parts.listing ∧ parts.canonical ∧ parts.tree := by
  obtain ⟨arguments, hparse, hpositional, hlisting, hcanonical, htree⟩ := hasks.parsed
  simp only [command, commandWithin, hparse, hpositional] at hprinted
  split at hprinted
  · cases hprinted
  · obtain ⟨bindings, hmake⟩ := make_of_run hprinted
    exact ⟨partsOf arguments, bindings, hmake, hlisting, hcanonical, htree⟩

/-- A report with all views describes exactly one tree, that of the formula.  The listing is the
tree in post-order, the canonical text has each operator in parentheses, the depth is the height of
the tree and one more than the parentheses are nested in the canonical text, and the variables are
the names among the leaves from left to right, each where it occurs first. -/
theorem views_of_one_tree (hasks : AsksViews line formula)
    (hprinted : command line = .printed report) :
    ∃ json tree, report.toJson.field? "tree" = some json ∧
      (∀ other, Expr.Describes json other ↔ other = tree) ∧ Expr.parse formula = .ok tree ∧
      report.toJson.field? "postfix" = some (.ofTexts tree.listing) ∧
      report.toJson.field? "hash" = some (.string tree.bracketed) ∧
      report.toJson.field? "depth" = some (.integer tree.height) ∧
      IsGreatest (Text.levels tree.bracketed) (tree.height - 1) ∧
      report.toJson.field? "variables" = some (.ofTexts tree.names.eraseDups) := by
  obtain ⟨parts, bindings, hmake, hlistingAsked, hcanonicalAsked, htreeAsked⟩ :=
    hasks.exists_make hprinted
  obtain ⟨listing, tree, hparse, hlisted, hnames, hdepth, hlisting, hcanonical, htree⟩ :=
    views_of_make hmake
  rw [if_pos hlistingAsked, hlisted.texts_eq] at hlisting
  rw [if_pos hcanonicalAsked, Expr.canonical_eq_bracketed] at hcanonical
  rw [if_pos htreeAsked, Expr.describe_eq_description] at htree
  rw [Expr.variableNames_eq] at hnames
  rw [Expr.depth_eq_height] at hdepth
  have hdescribes := Expr.describes_description tree
  have hunmarked := (Expr.wellFormed_of_parse hparse).unmarked
  obtain ⟨hnamesField, hdepthField, hlistingField, hcanonicalField, htreeField⟩ :=
    field?_toJson report
  rw [hnamesField, hdepthField, hlistingField, hcanonicalField, htreeField, hnames, hdepth,
    hlisting, hcanonical, htree]
  refine ⟨tree.description, tree, rfl, ?_, hparse, rfl, rfl, rfl,
    Expr.isGreatest_height hunmarked, rfl⟩
  intro other
  constructor
  · intro hother
    exact hother.unique hdescribes
  · rintro rfl
    exact hdescribes

/-- An operator that stands behind its operands, and a formula that is not evaluated. -/
def inverted : List Text :=
  ["--no-eval".toList, "--show-tree".toList, "2 (x - 1) *".toList, "--show-hash".toList,
    "--show-postfix".toList]

theorem views_of_one_tree_inverted :
    ∃ report, command inverted = .printed report ∧
      report.toJson.field? "postfix" = some (.ofTexts [['2'], ['x'], ['1'], ['-'], ['*']]) ∧
      report.toJson.field? "hash" = some (.string "(2*(x-1))".toList) ∧
      report.toJson.field? "depth" = some (.integer 3) ∧
      IsGreatest (Text.levels "(2*(x-1))".toList) 2 ∧
      report.toJson.field? "variables" = some (.ofTexts [['x']]) := by
  have htokens : Token.ofText "2 (x - 1) *".toList =
      .ok [⟨.number, ['2']⟩, ⟨.opener, ['(']⟩, ⟨.identifier, ['x']⟩, ⟨.operator, ['-']⟩,
        ⟨.number, ['1']⟩, ⟨.closer, [')']⟩, ⟨.operator, ['*']⟩] := by decide +kernel
  have hread : Expr.parse "2 (x - 1) *".toList = .ok (.operator ['*'] (.operand ['2'])
      (.operator ['-'] (.operand ['x']) (.operand ['1']))) := by decide +kernel
  obtain ⟨report, hmake⟩ :
      ∃ report, make ⟨true, true, true, false⟩ [] "2 (x - 1) *".toList = .ok report := by
    rw [make, htokens]
    exact ⟨_, rfl⟩
  have hprinted : command inverted = .printed report := by
    have hnone : readBindings [] = .ok [] := rfl
    have hfits : report.toJson.nesting ≤ roomOfStack := by
      rw [nesting_le_iff (by decide) hmake, Describable, hread]
      rintro - tree ⟨⟩
      decide
    change run roomOfStack ⟨true, true, true, false⟩ [] _ = _
    simp only [run, hnone, hmake, print, if_pos hfits]
  have hasks : AsksViews inverted "2 (x - 1) *".toList := ⟨_, rfl, rfl, rfl, rfl, rfl⟩
  obtain ⟨json, tree, -, -, hparse, hlisting, hcanonical, hdepth, hgreatest, hnames⟩ :=
    views_of_one_tree hasks hprinted
  obtain rfl := Except.ok.inj (hread.symm.trans hparse)
  exact ⟨report, hprinted, hlisting, hcanonical, hdepth, hgreatest, hnames⟩

end CommandLine.Report

end Formulary
