import StartEnd.Proofs.Parse.Reaches
import StartEnd.Proofs.Parse.Starts

/-!
This module contains how goals read the trees of expressions. Whatever goal begins an expression, it
goes on to the goals behind it once the tokens of the tree have been taken, and the tree is built on
the way.
-/

namespace StartEnd

open StartEnd.Tree

/--
The terminals that may stand behind an expression.
-/
def expressionEnds : List Symbol := [.comma, .doKw, .rParen, .semi, .thenKw]

/--
A terminal that goes on neither with a factor nor with an operand of the level.
-/
def Level.Closed (level : Level) (s : Symbol) : Prop :=
  s ≠ .lParen ∧ ∀ tighter ∈ level.tighter, tighter.operators.lookup s = none

namespace Level

theorem Closed.next {level next : Level} {s : Symbol} (h : level.Closed s)
    (hn : level.next? = some next) : next.Closed s ∧ next.operators.lookup s = none := by
  obtain ⟨hs, h⟩ := h
  rw [tighter_of_next hn] at h
  exact ⟨⟨hs, fun tighter ht => h tighter (by simp [ht])⟩, h next (by simp)⟩

theorem closed_of_operator {level : Level} {s : Symbol} {r : Rule}
    (h : (s, r) ∈ level.operators) : level.Closed s := by
  cases level <;> simp only [operators, List.mem_cons, Prod.mk.injEq, List.not_mem_nil, or_false] at h
  case or | and =>
    obtain ⟨rfl, rfl⟩ := h
    exact ⟨by decide, by decide⟩
  all_goals
    obtain ⟨rfl, rfl⟩ | ⟨rfl, rfl⟩ := h <;> exact ⟨by decide, by decide⟩

theorem closed_of_end {s : Symbol} (h : s ∈ expressionEnds) :
    or.Closed s ∧ or.operators.lookup s = none := by
  have : ∀ s ∈ expressionEnds, s ≠ .lParen
      ∧ ∀ level ∈ or.tighter ++ [or], level.operators.lookup s = none := by
    decide
  obtain ⟨hs, h⟩ := this s h
  exact ⟨⟨hs, fun level hl => h level (by simp [hl])⟩, h or (by simp)⟩

end Level

namespace Tree

/--
A tree is read by any goal that answers its first token in the given way, whatever goals stand
behind it, if the token behind the tree may follow. Some goals of the tree may remain.
-/
def ReadBy (T : Tree) (answer : Symbol → Answer) (pending : List Goal) (follow : Symbol → Prop) :
    Prop :=
  ∀ (goal : Goal) (behind goals : List Goal) (forest : Forest) (t : Token) (ts : List Token),
    (∀ s ∈ Grammar.expressionStarts, goal.answer .standard s = (answer s).followedBy behind) →
    follow t.symbol →
      Reaches .standard ⟨goal :: goals, forest, T.yield ++ t :: ts⟩
        ⟨pending ++ (behind ++ goals), T :: forest, t :: ts⟩

def ReadAsFactor (T : Tree) (budget : Nat) : Prop :=
  T.ReadBy (Goal.answerFactor .standard budget) [] (· ≠ .lParen)

/--
An operand is read up to the goals behind the tighter levels.
-/
def ReadAsOperand (T : Tree) (level : Level) (budget : Nat) : Prop :=
  T.ReadBy
    (fun s => (Goal.answerFactor .standard budget s).followedBy (Goal.climb budget level.tighter)) []
    level.Closed

/--
A tree of a level is read up to the goal that asks for more operators of the level.
-/
def ReadAsLevel (T : Tree) (level : Level) (budget : Nat) : Prop :=
  T.ReadBy
    (fun s => (Goal.answerFactor .standard budget s).followedBy
      (Goal.climb budget (level.tighter ++ [level])))
    [.operators level budget] level.Closed

def ReadAsExpression (T : Tree) (budget : Nat) : Prop :=
  T.ReadBy (Goal.answerExpression .standard budget) [] (· ∈ expressionEnds)

/--
A call is read behind its name and the parenthesis that opens it.
-/
def ReadAsCall (T : Tree) (budget : Nat) : Prop :=
  ∃ name opening rest, name.symbol = .identifier ∧ opening.symbol = .lParen
    ∧ T.yield = name :: opening :: rest
    ∧ ∀ (goals : List Goal) (forest : Forest) (t : Token) (ts : List Token),
      Reaches .standard
        ⟨Goal.restOfCall budget ++ goals, .leaf opening :: .leaf name :: forest, rest ++ t :: ts⟩
        ⟨goals, T :: forest, t :: ts⟩

/--
A tree is read by a goal, of which other goals may remain, and then the given rules are reduced.
-/
def ReadFrom (T : Tree) (goal : Goal) (pending : List Goal) (rules : List Rule)
    (follow : Symbol → Prop) : Prop :=
  ∀ (goals : List Goal) (forest : Forest) (t : Token) (ts : List Token), follow t.symbol →
    Reaches .standard ⟨goal :: goals, forest, T.yield ++ t :: ts⟩
      ⟨pending ++ goals, rules.foldl Forest.reduce (T :: forest), t :: ts⟩

/--
How the goals of an expression read the tree of one of its parts.
-/
def ReadInExpression (T : Tree) : Prop :=
  ∀ budget, T.nesting ≤ budget →
    match T.symbol with
    | .factor => T.ReadAsFactor budget
    | .multiplicativeExpr => T.ReadAsLevel .multiplicative budget
    | .additiveExpr => T.ReadAsLevel .additive budget
    | .relationalExpr => T.ReadAsLevel .relational budget
    | .equalityExpr => T.ReadAsLevel .equality budget
    | .logicalAndExpr => T.ReadAsLevel .and budget
    | .logicalOrExpr => T.ReadAsLevel .or budget
    | .expression => T.ReadAsExpression budget
    | .methodCall => T.ReadAsCall budget
    | .optionalArgs => T.ReadFrom (.args budget) [] [] (· = .rParen)
    | .argList => T.ReadFrom (.args budget) [] [.optionalArgsList] (· = .rParen)
    | .argTail => ∀ read, T.ReadFrom (.moreArgs read budget) []
      (List.replicate read .argTailComma ++ [.argList, .optionalArgsList]) (· = .rParen)
    | _ => True

theorem ReadInExpression.level {T : Tree} (h : T.ReadInExpression) {level : Level}
    (hs : T.symbol = level.symbol) {budget : Nat} (hb : T.nesting ≤ budget) :
    T.ReadAsLevel level budget := by
  have := h budget hb
  rw [hs] at this
  cases level <;> exact this

theorem exists_leaf {T : Tree} {s : Symbol} (hs : T.symbol = s) (h : s.isTerminal) :
    ∃ t, T = .leaf t := by
  cases T with
  | leaf t => exact ⟨t, rfl⟩
  | node r children =>
    have hr := r.label_isNonterminal
    rw [symbol_node] at hs
    simp_all [Symbol.isTerminal, Symbol.isNonterminal]

theorem exists_node {T : Tree} {s : Symbol} (h : T.Valid) (hs : T.symbol = s)
    (hn : ¬ s.isTerminal) : ∃ r trees, T = .node r trees ∧ r.label = s
      ∧ trees.map symbol = r.rhs ∧ ∀ U ∈ trees, U.Valid := by
  cases h with
  | leaf h =>
    rw [← hs] at hn
    exact absurd h hn
  | node symbols valid => exact ⟨_, _, rfl, hs, symbols, valid⟩

theorem ReadInExpression.operand {T : Tree} (h : T.ReadInExpression) {level : Level}
    (hs : T.symbol = level.operand) {budget : Nat} (hb : T.nesting ≤ budget) :
    T.ReadAsOperand level budget := by
  cases hn : level.next? with
  | none =>
    have hfactor : T.symbol = .factor := by simpa [Level.operand, hn] using hs
    have := h budget hb
    rw [hfactor] at this
    intro goal behind goals forest t ts ha hfollow
    apply this goal behind goals forest t ts _ hfollow.1
    simpa [Level.tighter_of_none hn, Goal.climb] using ha
  | some next =>
    have hnext : T.symbol = next.symbol := by simpa [Level.operand, hn] using hs
    intro goal behind goals forest t ts ha hfollow
    obtain ⟨hclosed, hlookup⟩ := hfollow.next hn
    rw [Level.tighter_of_next hn] at ha
    apply (h.level hnext hb goal behind goals forest t ts ha hclosed).trans
    have hmet : (Goal.operators next budget).answer .standard t.symbol
        = .met [] (next.operators.map Prod.fst) := by
      simp [Goal.answer, hlookup]
    exact .met hmet

theorem eq_empty {trees : List Tree} (hs : trees.map symbol = [.empty])
    (h : ∀ T ∈ trees, T.Valid) : trees = [.node .empty []] := by
  simp only [List.map_eq_cons_iff, List.map_eq_nil_iff] at hs
  obtain ⟨T, _, rfl, hT, rfl⟩ := hs
  obtain ⟨r, children, rfl, hr, hchildren, -⟩ := exists_node (h T (by simp)) hT (by decide)
  obtain rfl : r = .empty := by
    cases r <;> simp [Rule.label, Rule.lhs] at hr
    rfl
  obtain rfl : children = [] := by simpa [Rule.rhs] using hchildren
  rfl

theorem readFrom_empty {r : Rule} {trees : List Tree} (hr : r.rhs = [.empty])
    (hs : trees.map symbol = r.rhs) (h : ∀ T ∈ trees, T.Valid) {goal : Goal} {rules : List Rule}
    {follow : Symbol → Prop}
    (ha : ∀ s, follow s → ∃ unmet, goal.answer .standard s = .met (.empty :: r :: rules) unmet) :
    (node r trees).ReadFrom goal [] rules follow := by
  rw [hr] at hs
  obtain rfl := eq_empty hs h
  intro goals forest t ts ht
  obtain ⟨unmet, ha⟩ := ha t.symbol ht
  have hreduce : Forest.reduce (.node .empty [] :: forest) r
      = .node r [.node .empty []] :: forest := by
    simp [Forest.reduce, Rule.arity, hr]
  have hmet := @Reaches.met _ goals forest t ts _ _ _ ha
  rw [List.foldl_cons, List.foldl_cons] at hmet
  rw [← hreduce, yield_node, List.flatMap_singleton, yield_node, List.flatMap_nil]
  exact hmet

end Tree

namespace Rule

/--
The tree of a rule is read once its children are.
-/
def ReadsInExpression (r : Rule) : Prop :=
  ∀ trees : List Tree, trees.map symbol = r.rhs → (∀ T ∈ trees, T.Valid) →
    (∀ T ∈ trees, T.ReadInExpression) → (node r trees).ReadInExpression

theorem exists_inner {r : Rule} (hl : r.levels = 1) {trees : List Tree} {budget : Nat}
    (hb : (node r trees).nesting ≤ budget) :
    ∃ inner, budget = inner + 1 ∧ (trees.map nesting).foldr max 0 ≤ inner := by
  rw [nesting_node, hl] at hb
  cases budget with
  | zero => omega
  | succ inner => exact ⟨inner, rfl, by omega⟩

theorem readsInExpression_of_level (level : Level) {r : Rule} (h : r.label = level.symbol) :
    r.ReadsInExpression := by
  intro trees hs hvalid hread budget hb
  have key : (node r trees).ReadAsLevel level budget := by
    intro goal behind goals forest t ts ha hclosed
    cases Level.eq_of_label h with
    | inl h =>
      subst h
      rw [Level.single_rhs] at hs
      simp only [List.map_eq_cons_iff, List.map_eq_nil_iff] at hs
      obtain ⟨operand, _, rfl, hoperand, rfl⟩ := hs
      have hnesting : operand.nesting ≤ budget := by
        simp at hb
        omega
      have hread := (hread operand (by simp)).operand hoperand hnesting goal
        ([.reduce level.single, .operators level budget] ++ behind) goals forest t ts
        (by simpa [Goal.climb] using ha) hclosed
      simpa using hread.trans (.reduce level.single [operand] (by simp [Level.single_rhs]))
    | inr h =>
      obtain ⟨s, hmem⟩ := h
      obtain ⟨-, hrhs, hl, hterminal⟩ := Level.operators_spec hmem
      rw [hrhs] at hs
      simp only [List.map_eq_cons_iff, List.map_eq_nil_iff] at hs
      obtain ⟨left, _, rfl, hleft, op, _, rfl, hop, right, _, rfl, hright, rfl⟩ := hs
      obtain ⟨u, rfl⟩ := exists_leaf hop hterminal
      rw [symbol_leaf] at hop
      have hnesting : left.nesting ≤ budget ∧ right.nesting ≤ budget := by
        simp at hb
        omega
      have hshift : (Goal.operators level budget).answer .standard u.symbol
          = .shift [.operand level budget, .reduce r, .operators level budget] := by
        simp [Goal.answer, hop, Level.lookup_operators.mpr hmem]
      have hleft := (hread left (by simp)).level hleft hnesting.1 goal behind goals forest u
        (right.yield ++ t :: ts) ha (hop ▸ Level.closed_of_operator hmem)
      have hright := (hread right (by simp)).operand hright hnesting.2 (.operand level budget) []
        (.reduce r :: .operators level budget :: (behind ++ goals)) (.leaf u :: left :: forest) t ts
        (fun s _ => by simp [Goal.answer]) hclosed
      simpa using hleft.trans ((Reaches.shift hshift).trans (hright.trans
        (.reduce r [left, .leaf u, right] (by simp [hrhs]))))
  rw [symbol_node, h]
  cases level <;> exact key

theorem readsInExpression_of_expression {r : Rule} (h : r.label = .expression) :
    r.ReadsInExpression := by
  obtain rfl : r = .expression := by
    cases r <;> simp [label, lhs] at h
    rfl
  intro trees hs hvalid hread budget hb
  simp only [rhs, List.map_eq_cons_iff, List.map_eq_nil_iff] at hs
  obtain ⟨operand, _, rfl, hoperand, rfl⟩ := hs
  obtain ⟨budget, rfl, hinner⟩ := exists_inner rfl hb
  have hnesting : operand.nesting ≤ budget := by simpa using hinner
  intro goal behind goals forest t ts ha hends
  obtain ⟨hclosed, hlookup⟩ := Level.closed_of_end hends
  have hmet : (Goal.operators .or budget).answer .standard t.symbol
      = .met [] (Level.or.operators.map Prod.fst) := by
    simp [Goal.answer, hlookup]
  have hread := (hread operand (by simp)).level (show operand.symbol = Level.or.symbol from hoperand)
    hnesting goal
    (.reduce .expression :: behind) goals forest t ts
    (by simpa [Goal.answerExpression, Goal.restOfExpression] using ha) hclosed
  simpa using hread.trans ((Reaches.met hmet).trans (.reduce .expression [operand] rfl))

theorem readsInExpression_literal {r : Rule} {s : Symbol} (hlabel : r.label = .factor)
    (hr : r.rhs = [s]) (hterminal : s.isTerminal) (hmem : s ∈ Grammar.expressionStarts)
    (hanswer : ∀ budget, Goal.answerFactor .standard budget s = .shift [.reduce r]) :
    r.ReadsInExpression := by
  intro trees hs hvalid hread budget hb
  rw [symbol_node, hlabel]
  intro goal behind goals forest t ts ha hfollow
  rw [hr] at hs
  simp only [List.map_eq_cons_iff, List.map_eq_nil_iff] at hs
  obtain ⟨T, _, rfl, hT, rfl⟩ := hs
  obtain ⟨u, rfl⟩ := exists_leaf hT hterminal
  rw [symbol_leaf] at hT
  have hshift : goal.answer .standard u.symbol = .shift ([.reduce r] ++ behind) := by
    rw [hT, ha s hmem, hanswer]
    rfl
  simpa using (Reaches.shift hshift).trans (.reduce r [.leaf u] (by simp [hr]))

theorem readsInExpression_signed {r : Rule} {s : Symbol} (hlabel : r.label = .factor)
    (hr : r.rhs = [s, .factor]) (hl : r.levels = 1) (hterminal : s.isTerminal)
    (hmem : s ∈ Grammar.expressionStarts)
    (hanswer : ∀ budget,
      Goal.answerFactor .standard budget s = .shift [.signed budget, .reduce r]) :
    r.ReadsInExpression := by
  intro trees hs hvalid hread budget hb
  rw [symbol_node, hlabel]
  intro goal behind goals forest t ts ha hfollow
  rw [hr] at hs
  simp only [List.map_eq_cons_iff, List.map_eq_nil_iff] at hs
  obtain ⟨T, _, rfl, hT, factor, _, rfl, hfactor, rfl⟩ := hs
  obtain ⟨u, rfl⟩ := exists_leaf hT hterminal
  rw [symbol_leaf] at hT
  obtain ⟨inner, rfl, hinner⟩ := exists_inner hl hb
  have hnesting : factor.nesting ≤ inner := by simpa using hinner
  have hshift : goal.answer .standard u.symbol
      = .shift ([.signed (inner + 1), .reduce r] ++ behind) := by
    rw [hT, ha s hmem, hanswer]
    rfl
  have hfactor : factor.ReadAsFactor inner := by
    have := hread factor (by simp) inner hnesting
    rwa [hfactor] at this
  have hread := hfactor (.signed (inner + 1)) [] (.reduce r :: (behind ++ goals))
    (.leaf u :: forest) t ts (fun s _ => by simp [Goal.answer]) hfollow
  simpa using (Reaches.shift hshift).trans (hread.trans
    (.reduce r [.leaf u, factor] (by simp [hr])))

theorem readsInExpression_factorIdentifier : factorIdentifier.ReadsInExpression := by
  intro trees hs hvalid hread budget hb goal behind goals forest t ts ha hfollow
  simp only [rhs, List.map_eq_cons_iff, List.map_eq_nil_iff] at hs
  obtain ⟨T, _, rfl, hT, rfl⟩ := hs
  obtain ⟨name, rfl⟩ := exists_leaf hT rfl
  rw [symbol_leaf] at hT
  have hshift : goal.answer .standard name.symbol = .shift ([.namedFactor budget] ++ behind) := by
    rw [hT, ha .identifier (by decide)]
    rfl
  have hmet : (Goal.namedFactor budget).answer .standard t.symbol
      = .met [.factorIdentifier] [.lParen] := by
    simp [Goal.answer]
  rw [yield_node, List.flatMap_singleton, yield_leaf]
  exact (Reaches.shift hshift).trans (.met hmet)

theorem readsInExpression_factorParens : factorParens.ReadsInExpression := by
  intro trees hs hvalid hread budget hb goal behind goals forest t ts ha hfollow
  simp only [rhs, List.map_eq_cons_iff, List.map_eq_nil_iff] at hs
  obtain ⟨T, _, rfl, hT, inner, _, rfl, hinner, S, _, rfl, hS, rfl⟩ := hs
  obtain ⟨opening, rfl⟩ := exists_leaf hT rfl
  obtain ⟨closing, rfl⟩ := exists_leaf hS rfl
  rw [symbol_leaf] at hT hS
  have hnesting : inner.nesting ≤ budget := by
    simp at hb
    omega
  have hshift : goal.answer .standard opening.symbol
      = .shift ([.expression budget, .take .rParen, .reduce .factorParens] ++ behind) := by
    rw [hT, ha .lParen (by decide)]
    rfl
  have hread : inner.ReadAsExpression budget := by
    have := hread inner (by simp) budget hnesting
    rwa [hinner] at this
  have hread := hread (.expression budget) []
    (.take .rParen :: .reduce .factorParens :: (behind ++ goals)) (.leaf opening :: forest) closing
    (t :: ts) (fun s _ => by simp [Goal.answer]) (by rw [hS]; decide)
  simpa using (Reaches.shift hshift).trans (hread.trans ((Reaches.take hS (by decide)).trans
    (.reduce .factorParens [.leaf opening, inner, .leaf closing] rfl)))

theorem readsInExpression_factorMethodCall : factorMethodCall.ReadsInExpression := by
  intro trees hs hvalid hread budget hb goal behind goals forest t ts ha hfollow
  simp only [rhs, List.map_eq_cons_iff, List.map_eq_nil_iff] at hs
  obtain ⟨call, _, rfl, hcall, rfl⟩ := hs
  have hnesting : call.nesting ≤ budget := by
    simp at hb
    omega
  have hread : call.ReadAsCall budget := by
    have := hread call (by simp) budget hnesting
    rwa [hcall] at this
  obtain ⟨name, opening, rest, hname, hopening, hyield, hread⟩ := hread
  have hshift : goal.answer .standard name.symbol = .shift ([.namedFactor budget] ++ behind) := by
    rw [hname, ha .identifier (by decide)]
    rfl
  have hopen : (Goal.namedFactor budget).answer .standard opening.symbol
      = .shift (Goal.restOfCall budget ++ [.reduce .factorMethodCall]) := by
    simp [Goal.answer, hopening]
  have hread := hread (.reduce .factorMethodCall :: (behind ++ goals)) forest t ts
  rw [yield_node, List.flatMap_singleton, hyield]
  simpa using (Reaches.shift hshift).trans ((Reaches.shift hopen).trans
    (hread.trans (.reduce .factorMethodCall [call] rfl)))

theorem readsInExpression_of_factor {r : Rule} (h : r.label = .factor) : r.ReadsInExpression := by
  cases r <;> simp only [label, lhs, reduceCtorEq] at h
  case factorIdentifier => exact readsInExpression_factorIdentifier
  case factorParens => exact readsInExpression_factorParens
  case factorMethodCall => exact readsInExpression_factorMethodCall
  case factorNumber | factorStringLiteral | factorTrue | factorFalse =>
    exact readsInExpression_literal rfl rfl rfl (by decide) fun _ => rfl
  case factorNot | factorPlus | factorMinus =>
    exact readsInExpression_signed rfl rfl rfl rfl (by decide) fun _ => rfl

theorem readsInExpression_methodCall : methodCall.ReadsInExpression := by
  intro trees hs hvalid hread budget hb
  simp only [rhs, List.map_eq_cons_iff, List.map_eq_nil_iff] at hs
  obtain ⟨N, _, rfl, hN, O, _, rfl, hO, args, _, rfl, hargs, C, _, rfl, hC, S, _, rfl, hS, rfl⟩ := hs
  obtain ⟨name, rfl⟩ := exists_leaf hN rfl
  obtain ⟨opening, rfl⟩ := exists_leaf hO rfl
  obtain ⟨closing, rfl⟩ := exists_leaf hC rfl
  obtain ⟨semi, rfl⟩ := exists_leaf hS rfl
  rw [symbol_leaf] at hN hO hC hS
  have hnesting : args.nesting ≤ budget := by
    simp at hb
    omega
  have hread : args.ReadFrom (.args budget) [] [] (· = .rParen) := by
    have := hread args (by simp) budget hnesting
    rwa [hargs] at this
  refine ⟨name, opening, args.yield ++ [closing, semi], hN, hO, by simp, ?_⟩
  intro goals forest t ts
  have hread := hread (.take .rParen :: .take .semi :: .reduce .methodCall :: goals)
    (.leaf opening :: .leaf name :: forest) closing (semi :: t :: ts) hC
  simpa [Goal.restOfCall] using hread.trans ((Reaches.take hC (by decide)).trans
    ((Reaches.take hS (by decide)).trans (.reduce .methodCall
      [.leaf name, .leaf opening, args, .leaf closing, .leaf semi] rfl)))

/--
What follows the first argument begins with a comma, or with what stands behind the arguments.
-/
theorem exists_end_of_argTail {tail : Tree} (hvalid : tail.Valid) (hs : tail.symbol = .argTail)
    {t : Token} (ht : t.symbol = .rParen) (ts : List Token) :
    ∃ u us, tail.yield ++ t :: ts = u :: us ∧ u.symbol ∈ expressionEnds := by
  obtain ⟨r, trees, rfl, hr, hsymbols, htrees⟩ := exists_node hvalid hs (by decide)
  cases r <;> simp only [label, lhs, reduceCtorEq] at hr
  case argTailComma =>
    simp only [rhs, List.map_eq_cons_iff, List.map_eq_nil_iff] at hsymbols
    obtain ⟨C, _, rfl, hC, item, _, rfl, -, tail, _, rfl, -, rfl⟩ := hsymbols
    obtain ⟨comma, rfl⟩ := exists_leaf hC rfl
    rw [symbol_leaf] at hC
    exact ⟨comma, item.yield ++ (tail.yield ++ t :: ts), by simp, by rw [hC]; decide⟩
  case argTailEmpty =>
    obtain rfl := eq_empty hsymbols htrees
    exact ⟨t, ts, by simp, by rw [ht]; decide⟩

/--
An argument is read up to the goal for those that follow it, which reads the rest of the list.
-/
theorem reaches_moreArgs {e tail : Tree} (hes : e.symbol = .expression)
    (htails : tail.symbol = .argTail) (hvalid : tail.Valid) (he : e.ReadInExpression)
    (htail : tail.ReadInExpression) {budget : Nat}
    (hnesting : e.nesting ≤ budget ∧ tail.nesting ≤ budget) {goal : Goal} {behind more : List Goal}
    (ha : ∀ s ∈ Grammar.expressionStarts, goal.answer .standard s =
      (Goal.answerExpression .standard budget s).followedBy behind)
    {read : Nat} {goals : List Goal} (hmore : behind ++ more = .moreArgs read budget :: goals)
    (forest : Forest) {t : Token} (ht : t.symbol = .rParen) (ts : List Token) :
    Reaches .standard ⟨goal :: more, forest, e.yield ++ (tail.yield ++ t :: ts)⟩
      ⟨goals, List.foldl Forest.reduce (tail :: e :: forest)
        (List.replicate read .argTailComma ++ [.argList, .optionalArgsList]), t :: ts⟩ := by
  have hexpr := he budget hnesting.1
  rw [hes] at hexpr
  have hrest := htail budget hnesting.2
  rw [htails] at hrest
  have hrest := hrest read goals (e :: forest) t ts ht
  obtain ⟨u, us, hu, hend⟩ := exists_end_of_argTail hvalid htails ht ts
  have hexpr := hexpr goal behind more forest u us ha hend
  rw [hmore] at hexpr
  rw [hu] at hrest ⊢
  exact hexpr.trans hrest

theorem readsInExpression_of_args {r : Rule}
    (h : r.label = .optionalArgs ∨ r.label = .argList ∨ r.label = .argTail) :
    r.ReadsInExpression := by
  intro trees hs hvalid hread budget hb
  rw [symbol_node]
  cases r <;> simp only [label, lhs, reduceCtorEq, or_self, or_false, false_or] at h
  case optionalArgsList =>
    simp only [rhs, List.map_eq_cons_iff, List.map_eq_nil_iff] at hs
    obtain ⟨list, _, rfl, hlist, rfl⟩ := hs
    intro goals forest t ts ht
    have hnesting : list.nesting ≤ budget := by
      simp at hb
      omega
    have hread := hread list (by simp) budget hnesting
    rw [hlist] at hread
    rw [yield_node, List.flatMap_singleton]
    apply hread goals forest t ts ht
  case optionalArgsEmpty =>
    apply readFrom_empty rfl hs hvalid
    intro s ht
    have hnot : Symbol.rParen ∉ Grammar.expressionStarts := by decide
    simp [Goal.answer, Grammar.standard_first.2.1, ht, hnot]
  case argList =>
    simp only [rhs, List.map_eq_cons_iff, List.map_eq_nil_iff] at hs
    obtain ⟨e, _, rfl, he, tail, _, rfl, htail, rfl⟩ := hs
    intro goals forest t ts ht
    have hnesting : e.nesting ≤ budget ∧ tail.nesting ≤ budget := by
      simp at hb
      omega
    have hyield : (node argList [e, tail]).yield ++ t :: ts = e.yield ++ (tail.yield ++ t :: ts) := by
      simp
    rw [hyield]
    have ha : ∀ s ∈ Grammar.expressionStarts, (Goal.args budget).answer .standard s
        = (Goal.answerExpression .standard budget s).followedBy [.moreArgs 0 budget] := by
      intro s hs
      simp [Goal.answer, Grammar.standard_first.2.1, hs]
    exact reaches_moreArgs he htail (hvalid tail (by simp)) (hread e (by simp))
      (hread tail (by simp)) hnesting ha rfl forest ht ts
  case argTailEmpty =>
    intro read
    apply readFrom_empty rfl hs hvalid
    intro s ht
    simp [Goal.answer, ht]
  case argTailComma =>
    simp only [rhs, List.map_eq_cons_iff, List.map_eq_nil_iff] at hs
    obtain ⟨C, _, rfl, hC, e, _, rfl, he, tail, _, rfl, htail, rfl⟩ := hs
    obtain ⟨comma, rfl⟩ := exists_leaf hC rfl
    rw [symbol_leaf] at hC
    intro read goals forest t ts ht
    have hshift : (Goal.moreArgs read budget).answer .standard comma.symbol
        = .shift [.expression budget, .moreArgs (read + 1) budget] := by
      simp [Goal.answer, hC]
    have hnesting : e.nesting ≤ budget ∧ tail.nesting ≤ budget := by
      simp at hb
      omega
    have hyield : (node argTailComma [.leaf comma, e, tail]).yield ++ t :: ts
        = comma :: (e.yield ++ (tail.yield ++ t :: ts)) := by
      simp
    have ha : ∀ s ∈ Grammar.expressionStarts, (Goal.expression budget).answer .standard s
        = (Goal.answerExpression .standard budget s).followedBy [] := by
      intro s _
      simp [Goal.answer]
    rw [hyield]
    exact (Reaches.shift hshift).trans (reaches_moreArgs he htail (hvalid tail (by simp))
      (hread e (by simp)) (hread tail (by simp)) hnesting ha rfl (.leaf comma :: forest) ht ts)

theorem readsInExpression (r : Rule) : r.ReadsInExpression := by
  cases hs : r.label
  case factor => exact readsInExpression_of_factor hs
  case expression => exact readsInExpression_of_expression hs
  case multiplicativeExpr => exact readsInExpression_of_level .multiplicative hs
  case additiveExpr => exact readsInExpression_of_level .additive hs
  case relationalExpr => exact readsInExpression_of_level .relational hs
  case equalityExpr => exact readsInExpression_of_level .equality hs
  case logicalAndExpr => exact readsInExpression_of_level .and hs
  case logicalOrExpr => exact readsInExpression_of_level .or hs
  case optionalArgs => exact readsInExpression_of_args (.inl hs)
  case argList => exact readsInExpression_of_args (.inr (.inl hs))
  case argTail => exact readsInExpression_of_args (.inr (.inr hs))
  case methodCall =>
    obtain rfl : r = .methodCall := by
      cases r <;> simp [label, lhs] at hs
      rfl
    exact readsInExpression_methodCall
  -- The trees of statements are no trees of expressions.
  all_goals
    intro trees _ _ _ budget _
    rw [symbol_node, hs]
    trivial

end Rule

theorem Tree.Valid.readInExpression {T : Tree} (h : T.Valid) : T.ReadInExpression := by
  induction h with
  | leaf h =>
    intro budget _
    rw [symbol_leaf]
    split <;> rename_i hs <;> first | trivial | (rw [hs] at h; cases h)
  -- The children of a node are read one after the other, in the order of its rule.
  | node symbols valid ih => exact Rule.readsInExpression _ _ symbols valid ih

end StartEnd
