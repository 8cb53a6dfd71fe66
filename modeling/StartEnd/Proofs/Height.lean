import StartEnd.Proofs.Derivation.Reduced
import StartEnd.Proofs.Printing
import StartEnd.Proofs.Program.Height
import StartEnd.Proofs.Reduction.Reads

/-!
This module contains the proof that the nesting limit bounds the height of a program up to its
chains of operations. Each level of nesting allows a step into an operand or a statement and one step
to a right operand on each level of binary operators. The steps to left operands are not limited.
-/

namespace StartEnd

/--
The number of nodes on the longest path through a node, where steps to left operands do not count.
-/
def Node.turns : Node → Nat
  | .program p => p.turns
  | .statements list => Stmt.longestPathOf 0 list
  | .stmt s => s.longestPath 0
  | .call c => 1 + Expr.longestPathOf 0 c.args
  | .args list => Expr.longestPathOf 0 list
  | .expr e => e.longestPath 0
  | _ => 0

/--
The number of nodes on a path through a symbol that belong to no level of nesting. All nodes of an
expression belong to the level that the expression opens.
-/
def Symbol.outerTurns : Symbol → Nat
  | .expression | .optionalArgs | .argList | .argTail => 0
  | .multiplicativeExpr => 2
  | .additiveExpr => 3
  | .relationalExpr => 4
  | .equalityExpr => 5
  | .logicalAndExpr => 6
  | .logicalOrExpr => 7
  | _ => 1

namespace Shape

def turns : (shape : Shape) → shape.Content → Nat
  | .expr, e => e.longestPath 0
  | .stmt, s => s.longestPath 0
  | .stmtOrAbsent, some s => s.longestPath 0
  | .statements, list => Stmt.longestPathOf 0 list
  | .elseBranch, branch => Stmt.longestPathOfElse 0 branch
  | .call, c => 1 + Expr.longestPathOf 0 c.args
  | .args, list => Expr.longestPathOf 0 list
  | _, _ => 0

def allTurns : (shapes : List Shape) → Contents shapes → List Nat
  | [], _ => []
  | shape :: shapes, (content, contents) => shape.turns content :: allTurns shapes contents

theorem turns_of_read? {shape : Shape} {n : Node} {content : shape.Content}
    (h : shape.read? n = some content) : shape.turns content = n.turns := by
  cases shape with
  | name | number | text =>
    cases n with
    | token t => rfl
    | _ => cases h
  | _ => cases n <;> cases h <;> rfl

theorem Reads.allTurns_eq {shapes : List Shape} {nodes : List Node} {contents : Contents shapes}
    (h : Reads shapes nodes contents) : allTurns shapes contents = nodes.map Node.turns := by
  induction h with
  | nil => rfl
  | cons h _ ih => rw [allTurns, turns_of_read? h, ih, List.map_cons]

end Shape

namespace Rule

/--
A node has at most one turn more than its children in front of the levels of nesting, and at most
seven more if its rule opens a level.
-/
theorem turns_value (r : Rule) (contents : Shape.Contents r.shapes) {depth : Nat}
    (h : List.Forall₂ (fun turns s => turns ≤ 7 * depth + s.outerTurns)
      (Shape.allTurns r.shapes contents) r.rhs) :
    (r.value contents).turns ≤ 7 * (depth + r.levels) + r.label.outerTurns := by
  cases r with
  | statementList =>
    obtain ⟨_ | head, tail, _⟩ := contents
    all_goals
      simp_all [Shape.allTurns, Shape.turns, rhs, value, Node.turns, label, lhs, levels,
        Symbol.outerTurns, Stmt.longestPathOf]
  | _ =>
    simp_all [Shape.allTurns, Shape.turns, rhs, value, value.binary, Node.turns, label, lhs, levels,
      Symbol.outerTurns, Program.turns, Stmt.longestPath, Call.toExpr, Expr.longestPath,
      Expr.longestPathOf] <;> omega

theorem turns_reduce {r : Rule} {nodes : List Node} {n : Node} (h : r.reduce nodes = .ok n)
    {depth : Nat}
    (hnodes : List.Forall₂ (fun n s => n.turns ≤ 7 * depth + s.outerTurns) nodes r.rhs) :
    n.turns ≤ 7 * (depth + r.levels) + r.label.outerTurns := by
  obtain ⟨contents, hreads, rfl⟩ := exists_reads h
  apply turns_value
  rwa [hreads.allTurns_eq, List.forall₂_map_left_iff]

end Rule

namespace Tree

/--
The turns of a program are bounded by the nesting of its derivation.
-/
theorem Valid.turns_le {T : Tree} (h : T.Valid) (wellFormed : ∀ t ∈ T.yield, t.wellFormed)
    (hs : T.symbol = .program) {p : Program} (hp : T.program? = some p) :
    p.turns ≤ 7 * T.nesting + 1 := by
  have key : (Node.program p).turns ≤ 7 * T.nesting + T.symbol.outerTurns := by
    refine Valid.of_program? (P := fun T n => n.turns ≤ 7 * T.nesting + T.symbol.outerTurns) ?_ h
      (fun t ht => ⟨wellFormed t ht, Nat.zero_le _⟩) hs hp
    intro r children found n symbols hfound hreduce
    rw [nesting_node, Nat.add_comm r.levels]
    apply Rule.turns_reduce hreduce
    rw [← symbols, List.forall₂_map_left_iff, List.forall₂_map_right_iff, List.forall₂_same]
    intro C hC
    have hturns := hfound C hC
    have hnesting : C.nesting ≤ (children.map nesting).foldr max 0 :=
      List.le_max_of_le' 0 (List.mem_map_of_mem hC) (Nat.le_refl _)
    omega
  rwa [hs] at key

/--
A leaf with a token that carries nothing but its symbol.
-/
def word (s : Symbol) : Tree := .leaf ⟨s, none, s.name, .start⟩

def one : Tree := .node .factorNumber [.leaf ⟨.number, some (.integer 1), "1", .start⟩]

/--
The derivation of a sum of ones with the given number of additions.
-/
def sum : Nat → Tree
  | 0 => .node .additiveFromMultiplicative [.node .multiplicativeFromFactor [one]]
  | n + 1 => .node .additivePlus [sum n, word .plus, .node .multiplicativeFromFactor [one]]

/--
The derivation of a sum of ones as an expression.
-/
def sumValue (n : Nat) : Tree :=
  let comparison : Tree := .node .equalityFromRelational [.node .relationalFromAdditive [sum n]]
  .node .expression [.node .logicalOrFromAnd [.node .logicalAndFromEquality [comparison]]]

/--
The derivation of a program that returns a sum of ones.
-/
def returnSum (n : Nat) : Tree :=
  let statement : Tree :=
    .node .statementReturn [.node .returnStatement [word .returnKw, sumValue n, word .semi]]
  .node .program [word .startKw,
    .node .statementList [statement, .node .statementEmpty [.node .empty []]], word .endKw]

theorem fits_word {s : Symbol} (depth : Nat) (h : s.isTerminal) : (word s).Fits s depth :=
  fits_leaf depth rfl h

theorem fits_single {r : Rule} {s : Symbol} {T : Tree} {inner depth : Nat} (h : T.Fits s inner)
    (hr : r.rhs = [s]) (hd : inner + r.levels ≤ depth) : (node r [T]).Fits r.label depth := by
  apply fits_node _ hd
  rw [hr]
  exact .cons h .nil

theorem fits_sum (n : Nat) : (sum n).Fits .additiveExpr 0 := by
  have hone : one.Fits .factor 0 :=
    fits_single (r := .factorNumber) (fits_leaf 0 rfl rfl) rfl (Nat.le_refl 0)
  have hterm := fits_single (r := .multiplicativeFromFactor) hone rfl (Nat.le_refl 0)
  induction n with
  | zero => exact fits_single (r := .additiveFromMultiplicative) hterm rfl (Nat.le_refl 0)
  | succ n ih =>
    exact fits_node (r := .additivePlus) (.cons ih (.cons (fits_word 0 rfl) (.cons hterm .nil)))
      (Nat.le_refl 0)

theorem fits_sumValue (n : Nat) : (sumValue n).Fits .expression 1 := by
  have hrelational := fits_single (r := .relationalFromAdditive) (fits_sum n) rfl (Nat.le_refl 0)
  have hequality := fits_single (r := .equalityFromRelational) hrelational rfl (Nat.le_refl 0)
  have hand := fits_single (r := .logicalAndFromEquality) hequality rfl (Nat.le_refl 0)
  have hor := fits_single (r := .logicalOrFromAnd) hand rfl (Nat.le_refl 0)
  exact fits_single (r := .expression) hor rfl (Nat.le_refl 1)

theorem fits_returnSum (n : Nat) : (returnSum n).Fits .program 1 := by
  have hreturn := fits_node (r := .returnStatement)
    (.cons (fits_word 1 rfl) (.cons (fits_sumValue n) (.cons (fits_word 1 rfl) .nil)))
    (Nat.le_refl 1)
  have hstatement := fits_single (r := .statementReturn) hreturn rfl (Nat.le_refl 1)
  have hempty := fits_node (r := .empty) .nil (Nat.le_refl 1)
  have hrest := fits_single (r := .statementEmpty) hempty rfl (Nat.le_refl 1)
  have hlist := fits_node (r := .statementList) (.cons hstatement (.cons hrest .nil))
    (Nat.le_refl 1)
  exact fits_node (r := .program)
    (.cons (fits_word 1 rfl) (.cons hlist (.cons (fits_word 1 rfl) .nil))) (Nat.le_refl 1)

/--
The expression of a sum of ones.
-/
def sumExpr : Nat → Expr
  | 0 => .literal (.integer 1) .start
  | n + 1 => .binary .add (sumExpr n) (.literal (.integer 1) .start) .start

theorem expr?_sum (n : Nat) : (sum n).expr? = some (sumExpr n) := by
  induction n with
  | zero => simp [sum, one, expr?, sumExpr, Token.literal?]
  | succ n ih => simp [sum, one, word, expr?, ih, sumExpr, Symbol.binOp?, Token.literal?]

theorem program?_returnSum (n : Nat) :
    (returnSum n).program? = some ⟨[.ret (sumExpr n) .start], .start⟩ := by
  have hvalue : (sumValue n).expr? = some (sumExpr n) := by
    have hcomparison := expr?_node_single (r := .equalityFromRelational)
      (expr?_node_single (r := .relationalFromAdditive) (expr?_sum n) (by decide)) (by decide)
    exact expr?_node_single (expr?_node_single (expr?_node_single hcomparison (by decide))
      (by decide)) (by decide)
  simp [returnSum, program?, stmts?, stmt?, word, hvalue]

theorem fault?_of_mem_yield_sum (n : Nat) : ∀ t ∈ (sum n).yield, t.fault? = none := by
  have hone : ∀ t ∈ one.yield, t.fault? = none := by
    simp only [one, yield_node, List.flatMap_singleton, yield_leaf]
    decide
  induction n with
  | zero => simpa [sum] using hone
  | succ n ih =>
    have hplus : ∀ t ∈ (word .plus).yield, t.fault? = none := by
      simp only [word, yield_leaf]
      decide
    simpa [sum, or_imp, forall_and] using ⟨ih, hplus, hone⟩

theorem fault?_of_mem_yield_returnSum (n : Nat) :
    ∀ t ∈ (returnSum n).yield, t.fault? = none := by
  have hwords : ∀ s ∈ [Symbol.startKw, .returnKw, .semi, .endKw], ∀ t ∈ (word s).yield,
      t.fault? = none := by
    simp only [word, yield_leaf]
    decide
  have hsum := fault?_of_mem_yield_sum n
  simp_all [returnSum, sumValue, or_imp, forall_and]

theorem longestPath_sumExpr (n : Nat) : (sumExpr n).longestPath 1 = n + 1 := by
  induction n with
  | zero => simp [sumExpr, Expr.longestPath]
  | succ n ih =>
    simp only [sumExpr, Expr.longestPath, ih]
    omega

end Tree

namespace Session

variable {maxDepth : Nat} {tokens : List Token} {p : Program}

theorem turns_le (h : ((ofTokens .standard tokens).withMaxDepth maxDepth).parse.1 = .ok p) :
    p.turns ≤ 7 * maxDepth + 1 := by
  obtain ⟨c, hc⟩ := Parse.exists_endsIn maxDepth (exists_eof_completed tokens)
  obtain ⟨T, -, -, hT, -, -, hp, hclean⟩ := hc.of_ok h
  have hwellFormed : ∀ t ∈ T.yield, t.wellFormed := fun t ht =>
    (Token.fault?_eq_none.mp (hclean t ht).1).2
  have hturns := hT.valid.turns_le hwellFormed hT.symbol_eq hp
  have hnesting := hT.nesting_le
  omega

/--
The nesting limit bounds the height of a program up to its chains of operations: without the steps
to left operands, the height of a program that is accepted is at most linear in the limit, and with
them it is at most this bound for each operation of the longest chain.
-/
theorem parse_height_le (tokens : List Token) (maxDepth : Nat) {p : Program}
    (h : ((ofTokens .standard tokens).withMaxDepth maxDepth).parse.1 = .ok p) :
    p.turns ≤ 7 * maxDepth + 1 ∧ p.height ≤ (7 * maxDepth + 1) * (p.chain + 1) := by
  have hturns := turns_le h
  refine ⟨hturns, ?_⟩
  calc p.height
    _ ≤ p.turns * (p.chain + 1) := p.height_le
    _ ≤ (7 * maxDepth + 1) * (p.chain + 1) := Nat.mul_le_mul_right _ hturns

theorem parse_height_le_or :
    let operands : Expr :=
      .binary .or (.literal (.bool true) .start) (.literal (.bool false) .start) .start
    let p : Program := ⟨[.ret operands .start], .start⟩
    let symbols : List Symbol := [.startKw, .returnKw, .trueKw, .orKw, .falseKw, .semi, .endKw]
    let tokens : List Token := symbols.map fun s => ⟨s, none, s.name, .start⟩
    ((ofTokens .standard tokens).withMaxDepth 1).parse.1 = .ok p
      ∧ p.turns ≤ 7 * 1 + 1 ∧ p.height ≤ (7 * 1 + 1) * (p.chain + 1) := by
  intro operands p symbols tokens
  have h : ((ofTokens .standard tokens).withMaxDepth 1).parse.1 = .ok p := by
    rfl
  exact ⟨h, parse_height_le tokens 1 h⟩

theorem exists_height {maxDepth : Nat} (h : 1 ≤ maxDepth) (n : Nat) :
    ∃ tokens p, ((ofTokens .standard tokens).withMaxDepth maxDepth).parse.1 = .ok p
      ∧ n < p.height := by
  have hT := Tree.fits_returnSum n
  have hinput : input (Tree.returnSum n).yield = (Tree.returnSum n).yield := by
    apply input_eq_self
    apply hT.valid.ne_eof
    simp [hT.symbol_eq]
  have hclean : ∀ t ∈ input (Tree.returnSum n).yield, t.fault? = none := by
    rw [hinput]
    apply Tree.fault?_of_mem_yield_returnSum
  obtain ⟨p, hp, hok⟩ := Tree.Derives.parse_eq_ok ⟨hT.valid, hT.symbol_eq, hinput.symm⟩ hclean
    (hT.nesting_le.trans h)
  obtain rfl := Option.some.inj (hp.symm.trans (Tree.program?_returnSum n))
  refine ⟨_, _, hok, ?_⟩
  simp only [Program.height, Stmt.longestPathOf, Stmt.longestPath, Tree.longestPath_sumExpr]
  omega

/--
No bound on the height of the programs that are accepted depends on the nesting limit alone.
-/
theorem not_exists_height_bound :
    ¬ ∃ bound : Nat → Nat, ∀ maxDepth tokens p,
      ((ofTokens .standard tokens).withMaxDepth maxDepth).parse.1 = .ok p →
        p.height ≤ bound maxDepth := by
  rintro ⟨bound, hbound⟩
  obtain ⟨tokens, p, hok, hp⟩ := exists_height (Nat.le_refl 1) (bound 1)
  have := hbound 1 tokens p hok
  omega

end Session

end StartEnd
