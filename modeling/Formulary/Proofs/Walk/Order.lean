import Formulary.Expr.Description
import Formulary.Proofs.Evaluation

/-!
# The order of a walk

A walk comes to the nodes of a tree in post-order and to each of them once.  It ends at the first
node that fails, so that the fault of that node comes out, and no result is ever missing.  To say so
of the walk itself, each node that it comes to is written down.
-/

namespace Formulary.Expr

/-- The nodes of a tree in post-order: left subtree, right subtree, node. -/
def postorder : Expr → List Expr
  | operand symbol => [operand symbol]
  | operator sign left right => left.postorder ++ right.postorder ++ [operator sign left right]

/-! ## The first node that fails -/

section Order

variable {ε α : Type} (leaf : Text → Except ε α)
variable (node : Text → Expr → Expr → α → α → Except ε α)

/-- A node fails by itself: if it has operands, they have results. -/
inductive Fails : Expr → ε → Prop
  | operand {symbol : Text} {fault : ε} (hleaf : leaf symbol = .error fault) :
      Fails (.operand symbol) fault
  | operator {sign : Text} {left right : Expr} {first second : α} {fault : ε}
      (hfirst : left.foldM leaf node = .ok first) (hsecond : right.foldM leaf node = .ok second)
      (hnode : node sign left right first second = .error fault) :
      Fails (.operator sign left right) fault

def Succeed (nodes : List Expr) : Prop :=
  ∀ root ∈ nodes, ∃ result, root.foldM leaf node = .ok result

/-- Which of the nodes are visited, by the outcome: all of them in their order, or those up to the
first one that fails. -/
inductive Visits (nodes : List Expr) : List Expr → Except ε α → Prop
  | all {result : α} (hnodes : Succeed leaf node nodes) : Visits nodes nodes (.ok result)
  | upTo {before after : List Expr} {last : Expr} {fault : ε}
      (hsplit : nodes = before ++ last :: after) (hbefore : Succeed leaf node before)
      (hlast : Fails leaf node last fault) : Visits nodes (before ++ [last]) (.error fault)

variable {leaf node}

theorem foldM_operator_of_left_error {sign : Text} {left right : Expr} {fault : ε}
    (hfirst : left.foldM leaf node = .error fault) :
    (operator sign left right).foldM leaf node = .error fault := by
  rw [foldM, hfirst]
  rfl

theorem foldM_operator_of_right_error {sign : Text} {left right : Expr} {first : α} {fault : ε}
    (hfirst : left.foldM leaf node = .ok first) (hsecond : right.foldM leaf node = .error fault) :
    (operator sign left right).foldM leaf node = .error fault := by
  rw [foldM, hfirst, hsecond]
  rfl

theorem foldM_operator_of_results {sign : Text} {left right : Expr} {first second : α}
    (hfirst : left.foldM leaf node = .ok first) (hsecond : right.foldM leaf node = .ok second) :
    (operator sign left right).foldM leaf node = node sign left right first second := by
  rw [foldM, hfirst, hsecond]
  rfl

theorem Fails.foldM {root : Expr} {fault : ε} (hfails : Fails leaf node root fault) :
    root.foldM leaf node = .error fault := by
  cases hfails with
  | operand hleaf => exact hleaf
  | operator hfirst hsecond hnode =>
      rw [foldM_operator_of_results hfirst hsecond]
      exact hnode

variable {nodes others visits visits' : List Expr} {outcome : Except ε α}

theorem Visits.append {result : α} (hnodes : Visits leaf node nodes visits (.ok result))
    (hothers : Visits leaf node others visits' outcome) :
    Visits leaf node (nodes ++ others) (visits ++ visits') outcome := by
  obtain ⟨hall⟩ := hnodes
  cases hothers with
  | all hrest => exact .all (List.forall_mem_append.mpr ⟨hall, hrest⟩)
  | @upTo before after last fault hsplit hbefore hlast =>
      have hwhole : nodes ++ others = (nodes ++ before) ++ last :: after := by
        rw [hsplit, List.append_assoc]
      rw [← List.append_assoc]
      exact .upTo hwhole (List.forall_mem_append.mpr ⟨hall, hbefore⟩) hlast

/-- Behind a node that fails nothing is visited. -/
theorem Visits.append_of_error {fault : ε}
    (hnodes : Visits leaf node nodes visits (.error fault : Except ε α)) (others : List Expr) :
    Visits leaf node (nodes ++ others) visits (.error fault : Except ε α) := by
  cases hnodes with
  | @upTo before after last _ hsplit hbefore hlast =>
      have hwhole : nodes ++ others = before ++ last :: (after ++ others) := by
        rw [hsplit, List.append_assoc, List.cons_append]
      exact .upTo hwhole hbefore hlast

/-- A node whose operands have results is visited, whether it fails or not. -/
theorem visits_singleton {root : Expr}
    (hfails : ∀ fault, root.foldM leaf node = .error fault → Fails leaf node root fault) :
    Visits leaf node [root] [root] (root.foldM leaf node) := by
  cases houtcome : root.foldM leaf node with
  | ok result => exact .all (List.forall_mem_singleton.mpr ⟨result, houtcome⟩)
  | error fault =>
      have hbefore : Succeed leaf node [] := by simp [Succeed]
      exact .upTo (List.nil_append [root]).symm hbefore (hfails fault houtcome)

/-- The first node that fails is found by its fault. -/
theorem find?_eq_some_of_split {before after : List Expr} {last : Expr} {fault : ε}
    (hsplit : nodes = before ++ last :: after) (hbefore : Succeed leaf node before)
    (hlast : Fails leaf node last fault) :
    (nodes.find? fun root => !(root.foldM leaf node).isOk) = some last := by
  rw [List.find?_eq_some_iff_append]
  refine ⟨?_, before, after, hsplit, ?_⟩
  · rw [hlast.foldM]
    rfl
  · intro root hroot
    obtain ⟨result, hresult⟩ := hbefore root hroot
    rw [hresult]
    rfl

/-! ## Writing the visits down -/

/-- An outcome that can be had only with the node it belongs to being written down. -/
def recorded (root : Expr) (outcome : Except ε α) : ExceptT ε (StateM (List Expr)) α :=
  ExceptT.mk fun visits => (outcome, visits ++ [root])

/-- Run a computation that writes down visits behind those that are written down already. -/
def record (computation : ExceptT ε (StateM (List Expr)) α) (visits : List Expr) :
    Except ε α × List Expr :=
  computation.run.run visits

theorem record_recorded (root : Expr) (outcome : Except ε α) (visits : List Expr) :
    record (recorded root outcome) visits = (outcome, visits ++ [root]) := rfl

variable {β : Type} {computation : ExceptT ε (StateM (List Expr)) α}

theorem record_bind_of_ok {next : α → ExceptT ε (StateM (List Expr)) β} {result : α}
    (hrecord : record computation visits = (.ok result, visits')) :
    record (computation >>= next) visits = record (next result) visits' := by
  unfold record at hrecord ⊢
  rw [ExceptT.run_bind, StateT.run_bind, hrecord]
  rfl

theorem record_bind_of_error {next : α → ExceptT ε (StateM (List Expr)) β} {fault : ε}
    (hrecord : record computation visits = (.error fault, visits')) :
    record (computation >>= next) visits = (.error fault, visits') := by
  unfold record at hrecord ⊢
  rw [ExceptT.run_bind, StateT.run_bind, hrecord]
  rfl

variable (leaf node)

def recordedLeaf (symbol : Text) : ExceptT ε (StateM (List Expr)) α :=
  recorded (operand symbol) (leaf symbol)

def recordedNode (sign : Text) (left right : Expr) (first second : α) :
    ExceptT ε (StateM (List Expr)) α :=
  recorded (operator sign left right) (node sign left right first second)

def recordedWalk (stuck : ExceptT ε (StateM (List Expr)) α) (tree : Expr) :
    Except ε α × List Expr :=
  record (walk stuck (recordedLeaf leaf) (recordedNode node) tree) []

/-- What a reduction of the tree writes down, whatever is written down already. -/
structure Traced (tree : Expr) (visits : List Expr) : Prop where
  visited : Visits leaf node tree.postorder visits (tree.foldM leaf node)
  written : ∀ earlier, record (tree.foldM (recordedLeaf leaf) (recordedNode node)) earlier =
    (tree.foldM leaf node, earlier ++ visits)

variable {leaf node} {sign : Text} {left right : Expr}

theorem traced_operand (symbol : Text) :
    Traced leaf node (operand symbol) [operand symbol] where
  visited := visits_singleton fun _ => .operand
  written _ := rfl

theorem Traced.left_error {fault : ε} (hleft : Traced leaf node left visits)
    (hfirst : left.foldM leaf node = .error fault) :
    Traced leaf node (operator sign left right) visits := by
  obtain ⟨hvisited, hwritten⟩ := hleft
  rw [hfirst] at hvisited hwritten
  constructor
  · rw [foldM_operator_of_left_error hfirst, postorder]
    exact (hvisited.append_of_error _).append_of_error _
  · intro earlier
    rw [foldM_operator_of_left_error hfirst]
    exact record_bind_of_error (hwritten earlier)

theorem Traced.right_error {first : α} {fault : ε} (hleft : Traced leaf node left visits)
    (hright : Traced leaf node right visits') (hfirst : left.foldM leaf node = .ok first)
    (hsecond : right.foldM leaf node = .error fault) :
    Traced leaf node (operator sign left right) (visits ++ visits') := by
  obtain ⟨hvisited, hwritten⟩ := hleft
  obtain ⟨hvisited', hwritten'⟩ := hright
  rw [hfirst] at hvisited hwritten
  rw [hsecond] at hvisited' hwritten'
  constructor
  · rw [foldM_operator_of_right_error hfirst hsecond, postorder]
    exact (hvisited.append hvisited').append_of_error _
  · intro earlier
    rw [foldM_operator_of_right_error hfirst hsecond, foldM,
      record_bind_of_ok (hwritten earlier), ← List.append_assoc]
    exact record_bind_of_error (hwritten' _)

/-- If both operands have results, the node itself is the last that is visited. -/
theorem Traced.results {first second : α} (hleft : Traced leaf node left visits)
    (hright : Traced leaf node right visits') (hfirst : left.foldM leaf node = .ok first)
    (hsecond : right.foldM leaf node = .ok second) :
    Traced leaf node (operator sign left right)
      (visits ++ visits' ++ [operator sign left right]) := by
  obtain ⟨hvisited, hwritten⟩ := hleft
  obtain ⟨hvisited', hwritten'⟩ := hright
  rw [hfirst] at hvisited hwritten
  rw [hsecond] at hvisited' hwritten'
  constructor
  · apply (hvisited.append hvisited').append
    apply visits_singleton
    intro fault hfault
    rw [foldM_operator_of_results hfirst hsecond] at hfault
    exact .operator hfirst hsecond hfault
  · intro earlier
    rw [foldM_operator_of_results hfirst hsecond, foldM, record_bind_of_ok (hwritten earlier),
      record_bind_of_ok (hwritten' _), recordedNode, record_recorded]
    simp only [List.append_assoc]

variable (leaf node) in
/-- Of an operator its operands are visited and then itself, up to a fault. -/
theorem exists_traced (tree : Expr) : ∃ visits, Traced leaf node tree visits := by
  induction tree with
  | operand symbol => exact ⟨_, traced_operand symbol⟩
  | operator sign left right ihleft ihright =>
      obtain ⟨visits, hleft⟩ := ihleft
      obtain ⟨visits', hright⟩ := ihright
      cases hfirst : left.foldM leaf node with
      | error fault => exact ⟨_, hleft.left_error hfirst⟩
      | ok first =>
          cases hsecond : right.foldM leaf node with
          | error fault => exact ⟨_, hleft.right_error hright hfirst hsecond⟩
          | ok second => exact ⟨_, hleft.results hright hfirst hsecond⟩

/-- A walk writes down the visits of its tree, and never gets stuck. -/
theorem Traced.recordedWalk {tree : Expr} (htraced : Traced leaf node tree visits)
    (stuck : ExceptT ε (StateM (List Expr)) α) :
    recordedWalk leaf node stuck tree = (tree.foldM leaf node, visits) := by
  rw [Expr.recordedWalk, walk_eq_foldM, htraced.written, List.nil_append]

/-- A reduction fails with the fault of the first node that fails. -/
theorem foldM_eq_error_iff {tree : Expr} {fault : ε} :
    tree.foldM leaf node = .error fault ↔
      ∃ before last after, tree.postorder = before ++ last :: after ∧
        Succeed leaf node before ∧ Fails leaf node last fault := by
  obtain ⟨visits, hvisits, -⟩ := exists_traced leaf node tree
  constructor
  · intro hfault
    rw [hfault] at hvisits
    obtain _ | ⟨hsplit, hbefore, hlast⟩ := hvisits
    exact ⟨_, _, _, hsplit, hbefore, hlast⟩
  · rintro ⟨before, last, after, hsplit, hbefore, hlast⟩
    have hfound := find?_eq_some_of_split hsplit hbefore hlast
    cases houtcome : tree.foldM leaf node with
    | ok result =>
        rw [houtcome] at hvisits
        obtain ⟨hall⟩ := hvisits
        obtain ⟨value, hvalue⟩ := hall last (by simp [hsplit])
        rw [hlast.foldM] at hvalue
        cases hvalue
    | error other =>
        rw [houtcome] at hvisits
        obtain _ | ⟨hsplit', hbefore', hlast'⟩ := hvisits
        rw [find?_eq_some_of_split hsplit' hbefore' hlast'] at hfound
        obtain rfl := Option.some.inj hfound
        rw [← hlast'.foldM, hlast.foldM]

end Order

/-! ## The uses of a walk -/

def description : Expr → Json
  | operand symbol => describeLeaf symbol
  | operator sign left right => describeNode sign left.description right.description

theorem describe_eq_description (tree : Expr) : tree.describe = tree.description := by
  rw [describe, walk_eq_foldM]
  induction tree with
  | operand symbol => rfl
  | operator sign left right ihleft ihright =>
      rw [foldM, ihleft, ihright]
      rfl

theorem depth_eq_height (tree : Expr) : tree.depth = tree.height := by
  rw [depth, walk_eq_foldM]
  induction tree with
  | operand symbol => rfl
  | operator sign left right ihleft ihright =>
      rw [foldM, ihleft, ihright]
      rfl

variable {environment : Environment}

def DividesByZero (environment : Environment) : Expr → Prop
  | operand _ => False
  | operator sign _ right =>
    sign = ['/'] ∧ ∃ divisor, right.evaluate environment = .ok divisor ∧ (divisor == 0.0) = true

theorem evaluate_eq_foldM (environment : Environment) (tree : Expr) :
    tree.evaluate environment =
      tree.foldM (evaluateSymbol environment) fun sign _ _ => applyOperator sign :=
  walk_eq_foldM ..

theorem evaluateSymbol_ne_divisionByZero (symbol : Text) :
    evaluateSymbol environment symbol ≠ .error .divisionByZero := by
  intro hfault
  unfold evaluateSymbol at hfault
  split at hfault
  · cases hfault
  · split at hfault
    · rcases Binding.fault_of_read hfault with hread | hread <;> cases hread
    · cases hfault

theorem applyOperator_eq_divisionByZero_iff (sign : Text) (first second : Float) :
    applyOperator sign first second = .error .divisionByZero ↔
      sign = ['/'] ∧ (second == 0.0) = true := by
  unfold applyOperator
  split <;> simp_all

/-- Of the nodes that fail by themselves, those are divisions by zero that divide by zero. -/
theorem Fails.eq_divisionByZero_iff {root : Expr} {fault : Fault}
    (hfails : Fails (evaluateSymbol environment) (fun sign _ _ => applyOperator sign) root fault) :
    fault = .divisionByZero ↔ root.DividesByZero environment := by
  cases hfails with
  | operand hleaf =>
      simp only [DividesByZero, iff_false]
      rintro rfl
      exact evaluateSymbol_ne_divisionByZero _ hleaf
  | @operator sign left right first second _ hfirst hsecond hnode =>
      rw [← evaluate_eq_foldM] at hsecond
      constructor
      · rintro rfl
        obtain ⟨hsign, hzero⟩ := (applyOperator_eq_divisionByZero_iff ..).mp hnode
        exact ⟨hsign, second, hsecond, hzero⟩
      · rintro ⟨hsign, divisor, hdivisor, hzero⟩
        obtain rfl : second = divisor := Except.ok.inj (hsecond.symm.trans hdivisor)
        have hdivision := (applyOperator_eq_divisionByZero_iff sign first second).mpr ⟨hsign, hzero⟩
        exact Except.error.inj (hnode.symm.trans hdivision)

/-- A walk does what structural recursion does, with the same first failure, and never gets stuck.
It comes to all nodes in post-order, each once, or to those up to the first one that fails.  So an
evaluation has the fault of that node, which is a division by zero exactly if the node divides by
zero; and height, description and canonical text are those of structural recursion. -/
theorem walk_in_postorder (tree : Expr) :
    (∀ (ε α : Type) (leaf : Text → Except ε α) (node : Text → Expr → Expr → α → α → Except ε α),
      (∀ stuck, walk stuck leaf node tree = tree.foldM leaf node) ∧
        ∃ visits, Visits leaf node tree.postorder visits (tree.foldM leaf node) ∧
          ∀ stuck, recordedWalk leaf node stuck tree = (tree.foldM leaf node, visits)) ∧
    (∀ environment, tree.evaluate environment =
      tree.foldM (evaluateSymbol environment) fun sign _ _ => applyOperator sign) ∧
    (∀ environment fault, tree.evaluate environment = .error fault ↔
      ∃ before last after, tree.postorder = before ++ last :: after ∧
        (∀ root ∈ before, ∃ value, root.evaluate environment = .ok value) ∧
        Fails (evaluateSymbol environment) (fun sign _ _ => applyOperator sign) last fault ∧
        (fault = .divisionByZero ↔ last.DividesByZero environment)) ∧
    tree.depth = tree.height ∧ tree.describe = tree.description ∧
    tree.canonical = tree.bracketed := by
  refine ⟨?_, fun environment => evaluate_eq_foldM environment tree, ?_, depth_eq_height tree,
    describe_eq_description tree, canonical_eq_bracketed tree⟩
  · intro ε α leaf node
    refine ⟨fun stuck => walk_eq_foldM stuck leaf node tree, ?_⟩
    obtain ⟨visits, htraced⟩ := exists_traced leaf node tree
    exact ⟨visits, htraced.visited, htraced.recordedWalk⟩
  · intro environment fault
    rw [evaluate_eq_foldM, foldM_eq_error_iff]
    simp only [evaluate_eq_foldM]
    constructor
    · rintro ⟨before, last, after, hsplit, hbefore, hlast⟩
      exact ⟨before, last, after, hsplit, hbefore, hlast, hlast.eq_divisionByZero_iff⟩
    · rintro ⟨before, last, after, hsplit, hbefore, hlast, -⟩
      exact ⟨before, last, after, hsplit, hbefore, hlast⟩

def zeroDivisor : Environment :=
  Environment.ofReals [(['a'], 1.0), (['z'], 0.0)]

/-- The division fails before the name that is not bound is looked up. -/
theorem walk_in_postorder_divided :
    (operator ['-'] (operator ['/'] (operand ['a']) (operand ['z'])) (operand ['u'])).evaluate
      zeroDivisor = .error .divisionByZero := by
  obtain ⟨-, -, hfault, -⟩ := walk_in_postorder
    (operator ['-'] (operator ['/'] (operand ['a']) (operand ['z'])) (operand ['u']))
  have hdividend : (operand ['a']).evaluate zeroDivisor = .ok 1.0 := by
    rw [evaluate_operand]
    rfl
  have hdivisor : (operand ['z']).evaluate zeroDivisor = .ok 0.0 := by
    rw [evaluate_operand]
    rfl
  rw [hfault]
  refine ⟨[operand ['a'], operand ['z']], operator ['/'] (operand ['a']) (operand ['z']),
    [operand ['u'], _], rfl, ?_, .operator rfl rfl (by decide), ?_⟩
  · simp [hdividend, hdivisor]
  · exact iff_of_true rfl ⟨rfl, 0.0, hdivisor, by decide⟩

end Formulary.Expr
