import StartEnd.Proofs.Parse.ReadExpression

/-!
This module contains how goals read the trees of statements and of whole programs.
-/

namespace StartEnd

open StartEnd.Tree

namespace Tree

/--
A parameter is read behind its name.
-/
def ReadAsParam (T : Tree) : Prop :=
  ∃ name rest, name.symbol = .identifier ∧ T.yield = name :: rest
    ∧ ∀ (goals : List Goal) (forest : Forest) (t : Token) (ts : List Token),
      Reaches .standard
        ⟨.take .colon :: .type :: .reduce .param :: goals, .leaf name :: forest, rest ++ t :: ts⟩
        ⟨goals, T :: forest, t :: ts⟩

theorem Valid.readFrom_expression {T : Tree} (h : T.Valid) (hs : T.symbol = .expression)
    {budget : Nat} (hb : T.nesting ≤ budget) :
    T.ReadFrom (.expression budget) [] [] (· ∈ expressionEnds) := by
  have hread := h.readInExpression budget hb
  rw [hs] at hread
  intro goals forest t ts ht
  exact hread (.expression budget) [] goals forest t ts (fun s _ => by simp [Goal.answer]) ht

/--
How the goals of a list of statements read the tree of one of its parts.
-/
def ReadInStatements (T : Tree) : Prop :=
  ∀ budget, T.nesting ≤ budget →
    match T.symbol with
    | .type => T.ReadFrom .type [] [] fun _ => True
    | .param => T.ReadAsParam
    | .optionalParams => T.ReadFrom .params [] [] (· = .rParen)
    | .paramList => T.ReadFrom .params [] [.optionalParamsList] (· = .rParen)
    | .paramTail => ∀ read, T.ReadFrom (.moreParams read) []
      (List.replicate read .paramTailComma ++ [.paramList, .optionalParamsList]) (· = .rParen)
    | .declaration | .assignment | .condition | .loop | .methodDeclaration | .returnStatement
    | .methodCall => ∀ read r, r.label = .statement → r.rhs = [T.symbol] →
      T.ReadFrom (.statements read budget) [.statements (read + 1) budget] [r] fun _ => True
    | .statement => ∀ read,
      T.ReadFrom (.statements read budget) [.statements (read + 1) budget] [] fun _ => True
    | .statementList => ∀ read, T.ReadFrom (.statements read budget) []
      (List.replicate read .statementList) (· ∉ Grammar.statementStarts)
    | .optionalElse => T.ReadFrom (.elseBranch budget) [] [] (· = .endKw)
    | _ => True

end Tree

namespace Rule

/--
The tree of a rule is read once its children are.
-/
def ReadsInStatements (r : Rule) : Prop :=
  ∀ trees : List Tree, trees.map symbol = r.rhs → (∀ T ∈ trees, T.Valid) →
    (∀ T ∈ trees, T.ReadInStatements) → (node r trees).ReadInStatements

theorem readsInStatements_of_type {r : Rule} (h : r.label = .type) : r.ReadsInStatements := by
  intro trees hs hvalid hread budget hb
  rw [symbol_node, h]
  intro goals forest t ts _
  have named {s : Symbol} (hr : r.rhs = [s]) (hterminal : s.isTerminal)
      (hanswer : Goal.type.answer .standard s = .shift [.reduce r]) :
      Reaches .standard ⟨.type :: goals, forest, (node r trees).yield ++ t :: ts⟩
        ⟨goals, .node r trees :: forest, t :: ts⟩ := by
    rw [hr] at hs
    simp only [List.map_eq_cons_iff, List.map_eq_nil_iff] at hs
    obtain ⟨T, _, rfl, hT, rfl⟩ := hs
    obtain ⟨u, rfl⟩ := exists_leaf hT hterminal
    rw [symbol_leaf] at hT
    rw [← hT] at hanswer
    simpa using (Reaches.shift hanswer).trans (.reduce r [.leaf u] (by simp [hr]))
  cases r <;> simp only [label, lhs, reduceCtorEq] at h
  case typeInt => exact named rfl rfl rfl
  case typeFloat => exact named rfl rfl rfl
  case typeString => exact named rfl rfl rfl
  case typeBool => exact named rfl rfl rfl

theorem readsInStatements_param : param.ReadsInStatements := by
  intro trees hs hvalid hread budget hb
  simp only [rhs, List.map_eq_cons_iff, List.map_eq_nil_iff] at hs
  obtain ⟨N, _, rfl, hN, C, _, rfl, hC, type, _, rfl, htype, rfl⟩ := hs
  obtain ⟨name, rfl⟩ := exists_leaf hN rfl
  obtain ⟨colon, rfl⟩ := exists_leaf hC rfl
  rw [symbol_leaf] at hN hC
  have hread := hread type (by simp) type.nesting (Nat.le_refl _)
  rw [htype] at hread
  refine ⟨name, colon :: type.yield, hN, by simp, ?_⟩
  intro goals forest t ts
  have hread := hread (.reduce .param :: goals) (.leaf colon :: .leaf name :: forest) t ts trivial
  exact (Reaches.take hC (by decide)).trans (hread.trans
    (.reduce .param [.leaf name, .leaf colon, type] rfl))

/--
A parameter is read behind its name up to the goal for those that follow it, which reads the rest of
the list.
-/
theorem reaches_moreParams {p tail : Tree} (hps : p.symbol = .param)
    (htails : tail.symbol = .paramTail) (hp : p.ReadInStatements) (htail : tail.ReadInStatements)
    (read : Nat) (goals : List Goal) (forest : Forest) {t : Token} (ht : t.symbol = .rParen)
    (ts : List Token) :
    ∃ name rest, name.symbol = .identifier
      ∧ p.yield ++ (tail.yield ++ t :: ts) = name :: (rest ++ (tail.yield ++ t :: ts))
      ∧ Reaches .standard
        ⟨.take .colon :: .type :: .reduce .param :: .moreParams read :: goals,
          .leaf name :: forest, rest ++ (tail.yield ++ t :: ts)⟩
        ⟨goals, List.foldl Forest.reduce (tail :: p :: forest)
          (List.replicate read .paramTailComma ++ [.paramList, .optionalParamsList]), t :: ts⟩ := by
  have hparam := hp p.nesting (Nat.le_refl _)
  rw [hps] at hparam
  obtain ⟨name, rest, hname, hyield, hparam⟩ := hparam
  have hmore := htail tail.nesting (Nat.le_refl _)
  rw [htails] at hmore
  have hmore := hmore read goals (p :: forest) t ts ht
  refine ⟨name, rest, hname, by rw [hyield]; rfl, ?_⟩
  obtain ⟨u, us, hu⟩ := List.exists_cons_of_ne_nil (show tail.yield ++ t :: ts ≠ [] by simp)
  rw [hu] at hmore ⊢
  exact (hparam (.moreParams read :: goals) forest u us).trans hmore

theorem readsInStatements_of_params {r : Rule}
    (h : r.label = .optionalParams ∨ r.label = .paramList ∨ r.label = .paramTail) :
    r.ReadsInStatements := by
  intro trees hs hvalid hread budget hb
  rw [symbol_node]
  cases r <;> simp only [label, lhs, reduceCtorEq, or_self, or_false, false_or] at h
  case optionalParamsList =>
    simp only [rhs, List.map_eq_cons_iff, List.map_eq_nil_iff] at hs
    obtain ⟨list, _, rfl, hlist, rfl⟩ := hs
    have hread := hread list (by simp) list.nesting (Nat.le_refl _)
    rw [hlist] at hread
    intro goals forest t ts ht
    rw [yield_node, List.flatMap_singleton]
    apply hread goals forest t ts ht
  case optionalParamsEmpty =>
    apply readFrom_empty rfl hs hvalid
    intro s ht
    simp [Goal.answer, ht]
  case paramList =>
    simp only [rhs, List.map_eq_cons_iff, List.map_eq_nil_iff] at hs
    obtain ⟨p, _, rfl, hp, tail, _, rfl, htail, rfl⟩ := hs
    intro goals forest t ts ht
    obtain ⟨name, rest, hname, hyield, hread⟩ := reaches_moreParams hp htail (hread p (by simp))
      (hread tail (by simp)) 0 goals forest ht ts
    have hshift : Goal.params.answer .standard name.symbol
        = .shift [.take .colon, .type, .reduce .param, .moreParams 0] := by
      simp [Goal.answer, hname]
    have hlist : (node paramList [p, tail]).yield ++ t :: ts = p.yield ++ (tail.yield ++ t :: ts) := by
      simp
    rw [hlist, hyield]
    exact (Reaches.shift hshift).trans hread
  case paramTailEmpty =>
    intro read
    apply readFrom_empty rfl hs hvalid
    intro s ht
    simp [Goal.answer, ht]
  case paramTailComma =>
    simp only [rhs, List.map_eq_cons_iff, List.map_eq_nil_iff] at hs
    obtain ⟨C, _, rfl, hC, p, _, rfl, hp, tail, _, rfl, htail, rfl⟩ := hs
    obtain ⟨comma, rfl⟩ := exists_leaf hC rfl
    rw [symbol_leaf] at hC
    intro read goals forest t ts ht
    obtain ⟨name, rest, hname, hyield, hread⟩ := reaches_moreParams hp htail (hread p (by simp))
      (hread tail (by simp)) (read + 1) goals (.leaf comma :: forest) ht ts
    have hshift : (Goal.moreParams read).answer .standard comma.symbol
        = .shift [.take .identifier, .take .colon, .type, .reduce .param, .moreParams (read + 1)] := by
      simp [Goal.answer, hC]
    have hlist : (node paramTailComma [.leaf comma, p, tail]).yield ++ t :: ts
        = comma :: (p.yield ++ (tail.yield ++ t :: ts)) := by
      simp
    rw [hlist, hyield]
    exact (Reaches.shift hshift).trans ((Reaches.take hname (by decide)).trans hread)

theorem eq_of_statement {r r' : Rule} (h : r.label = .statement) (h' : r'.label = .statement)
    (hr : r.rhs = r'.rhs) : r = r' := by
  cases r <;> simp only [label, lhs, reduceCtorEq] at h <;> cases r' <;>
    simp only [label, lhs, reduceCtorEq] at h' <;> first | rfl | simp [rhs] at hr

theorem reaches_statement {r : Rule} {T : Tree} (hr : r.rhs = [T.symbol]) {goals : List Goal}
    {forest : Forest} {t : Token} {ts : List Token} :
    Reaches .standard ⟨.reduce r :: goals, T :: forest, t :: ts⟩
      ⟨goals, [r].foldl Forest.reduce (T :: forest), t :: ts⟩ := by
  have hreduce : Forest.reduce (T :: forest) r = .node r [T] :: forest := by
    simp [Forest.reduce, arity, hr]
  rw [List.foldl_cons, List.foldl_nil, hreduce]
  apply Reaches.reduce r [T] (by simp [hr])

theorem readsInStatements_declaration : declaration.ReadsInStatements := by
  intro trees hs hvalid hread budget hb
  simp only [rhs, List.map_eq_cons_iff, List.map_eq_nil_iff] at hs
  obtain ⟨W, _, rfl, hW, N, _, rfl, hN, C, _, rfl, hC, type, _, rfl, htype, S, _, rfl, hS, rfl⟩ := hs
  obtain ⟨word, rfl⟩ := exists_leaf hW rfl
  obtain ⟨name, rfl⟩ := exists_leaf hN rfl
  obtain ⟨colon, rfl⟩ := exists_leaf hC rfl
  obtain ⟨semi, rfl⟩ := exists_leaf hS rfl
  rw [symbol_leaf] at hW hN hC hS
  have hread := hread type (by simp) type.nesting (Nat.le_refl _)
  rw [htype] at hread
  intro read r hlabel hr goals forest t ts _
  obtain rfl : r = .statementDeclaration := eq_of_statement hlabel rfl hr
  have hshift : (Goal.statements read budget).answer .standard word.symbol
      = .shift [.take .identifier, .take .colon, .type, .take .semi, .reduce .declaration,
          .reduce .statementDeclaration, .statements (read + 1) budget] := by
    rw [hW]
    rfl
  have hyield : (node declaration [.leaf word, .leaf name, .leaf colon, type, .leaf semi]).yield
      ++ t :: ts = word :: name :: colon :: (type.yield ++ semi :: t :: ts) := by
    simp
  rw [hyield]
  refine (Reaches.shift hshift).trans ((Reaches.take hN (by decide)).trans
    ((Reaches.take hC (by decide)).trans ((hread _ _ semi _ trivial).trans
      ((Reaches.take hS (by decide)).trans ?_))))
  exact (Reaches.reduce .declaration [.leaf word, .leaf name, .leaf colon, type, .leaf semi] rfl).trans
    (reaches_statement rfl)

theorem readsInStatements_assignment : assignment.ReadsInStatements := by
  intro trees hs hvalid hread budget hb
  simp only [rhs, List.map_eq_cons_iff, List.map_eq_nil_iff] at hs
  obtain ⟨N, _, rfl, hN, A, _, rfl, hA, value, _, rfl, hvalue, S, _, rfl, hS, rfl⟩ := hs
  obtain ⟨name, rfl⟩ := exists_leaf hN rfl
  obtain ⟨assign, rfl⟩ := exists_leaf hA rfl
  obtain ⟨semi, rfl⟩ := exists_leaf hS rfl
  rw [symbol_leaf] at hN hA hS
  have hnesting : value.nesting ≤ budget := by
    simp at hb
    omega
  intro read r hlabel hr goals forest t ts _
  obtain rfl : r = .statementAssignment := eq_of_statement hlabel rfl hr
  have hname : (Goal.statements read budget).answer .standard name.symbol
      = .shift [.namedStatement budget, .statements (read + 1) budget] := by
    rw [hN]
    rfl
  have hassign : (Goal.namedStatement budget).answer .standard assign.symbol
      = .shift [.expression budget, .take .semi, .reduce .assignment,
          .reduce .statementAssignment] := by
    rw [hA]
    rfl
  have hyield : (node assignment [.leaf name, .leaf assign, value, .leaf semi]).yield ++ t :: ts
      = name :: assign :: (value.yield ++ semi :: t :: ts) := by
    simp
  have hvalue := (hvalid value (by simp)).readFrom_expression hvalue hnesting
  rw [hyield]
  refine (Reaches.shift hname).trans ((Reaches.shift hassign).trans
    ((hvalue _ _ semi _ (by rw [hS]; decide)).trans ((Reaches.take hS (by decide)).trans ?_)))
  exact (Reaches.reduce .assignment [.leaf name, .leaf assign, value, .leaf semi] rfl).trans
    (reaches_statement rfl)

theorem readsInStatements_returnStatement : returnStatement.ReadsInStatements := by
  intro trees hs hvalid hread budget hb
  simp only [rhs, List.map_eq_cons_iff, List.map_eq_nil_iff] at hs
  obtain ⟨W, _, rfl, hW, value, _, rfl, hvalue, S, _, rfl, hS, rfl⟩ := hs
  obtain ⟨word, rfl⟩ := exists_leaf hW rfl
  obtain ⟨semi, rfl⟩ := exists_leaf hS rfl
  rw [symbol_leaf] at hW hS
  have hnesting : value.nesting ≤ budget := by
    simp at hb
    omega
  intro read r hlabel hr goals forest t ts _
  obtain rfl : r = .statementReturn := eq_of_statement hlabel rfl hr
  have hword : (Goal.statements read budget).answer .standard word.symbol
      = .shift [.expression budget, .take .semi, .reduce .returnStatement, .reduce .statementReturn,
          .statements (read + 1) budget] := by
    rw [hW]
    rfl
  have hyield : (node returnStatement [.leaf word, value, .leaf semi]).yield ++ t :: ts
      = word :: (value.yield ++ semi :: t :: ts) := by
    simp
  have hvalue := (hvalid value (by simp)).readFrom_expression hvalue hnesting
  rw [hyield]
  refine (Reaches.shift hword).trans ((hvalue _ _ semi _ (by rw [hS]; decide)).trans
    ((Reaches.take hS (by decide)).trans ?_))
  exact (Reaches.reduce .returnStatement [.leaf word, value, .leaf semi] rfl).trans
    (reaches_statement rfl)

theorem readsInStatements_methodCall : methodCall.ReadsInStatements := by
  intro trees hs hvalid hread budget hb
  have hcall := (Valid.node hs hvalid).readInExpression budget hb
  obtain ⟨name, opening, rest, hname, hopening, hyield, hcall⟩ := hcall
  intro read r hlabel hr goals forest t ts _
  obtain rfl : r = .statementMethodCall := eq_of_statement hlabel rfl hr
  have hshift : (Goal.statements read budget).answer .standard name.symbol
      = .shift [.namedStatement budget, .statements (read + 1) budget] := by
    rw [hname]
    rfl
  have hopen : (Goal.namedStatement budget).answer .standard opening.symbol
      = .shift (Goal.restOfCall budget ++ [.reduce .statementMethodCall]) := by
    rw [hopening]
    rfl
  rw [hyield]
  refine (Reaches.shift hshift).trans ((Reaches.shift hopen).trans ?_)
  rw [List.append_assoc]
  exact (hcall _ forest t ts).trans (reaches_statement rfl)

/--
What follows the first branch of a conditional begins with `else`, or with what stands behind.
-/
theorem exists_end_of_optionalElse {T : Tree} (hvalid : T.Valid) (hs : T.symbol = .optionalElse)
    {t : Token} (ht : t.symbol = .endKw) (ts : List Token) :
    ∃ u us, T.yield ++ t :: ts = u :: us ∧ u.symbol ∉ Grammar.statementStarts := by
  obtain ⟨r, trees, rfl, hr, hsymbols, htrees⟩ := exists_node hvalid hs (by decide)
  cases r <;> simp only [label, lhs, reduceCtorEq] at hr
  case optionalElseElse =>
    simp only [rhs, List.map_eq_cons_iff, List.map_eq_nil_iff] at hsymbols
    obtain ⟨W, _, rfl, hW, body, _, rfl, -, rfl⟩ := hsymbols
    obtain ⟨word, rfl⟩ := exists_leaf hW rfl
    rw [symbol_leaf] at hW
    exact ⟨word, body.yield ++ t :: ts, by simp, by rw [hW]; decide⟩
  case optionalElseEmpty =>
    obtain rfl := eq_empty hsymbols htrees
    exact ⟨t, ts, by simp, by rw [ht]; decide⟩

theorem readsInStatements_condition : condition.ReadsInStatements := by
  intro trees hs hvalid hread budget hb
  simp only [rhs, List.map_eq_cons_iff, List.map_eq_nil_iff] at hs
  obtain ⟨W, _, rfl, hW, test, _, rfl, htest, H, _, rfl, hH, body, _, rfl, hbody, other, _, rfl,
    hother, C, _, rfl, hC, rfl⟩ := hs
  obtain ⟨word, rfl⟩ := exists_leaf hW rfl
  obtain ⟨thenWord, rfl⟩ := exists_leaf hH rfl
  obtain ⟨close, rfl⟩ := exists_leaf hC rfl
  rw [symbol_leaf] at hW hH hC
  obtain ⟨inner, rfl, hinner⟩ := exists_inner rfl hb
  have hnesting : test.nesting ≤ inner ∧ body.nesting ≤ inner ∧ other.nesting ≤ inner := by
    simp at hinner
    omega
  have hbranch := hread body (by simp) inner hnesting.2.1
  rw [hbody] at hbranch
  have helse := hread other (by simp) inner hnesting.2.2
  rw [hother] at helse
  intro read r hlabel hr goals forest t ts _
  obtain rfl : r = .statementCondition := eq_of_statement hlabel rfl hr
  have hword : (Goal.statements read (inner + 1)).answer .standard word.symbol
      = .shift [.expression inner, .take .thenKw, .statements 0 inner, .elseBranch inner,
          .take .endKw, .reduce .condition, .reduce .statementCondition,
          .statements (read + 1) (inner + 1)] := by
    rw [hW]
    rfl
  have hyield : (node condition [.leaf word, test, .leaf thenWord, body, other, .leaf close]).yield
      ++ t :: ts
      = word :: (test.yield ++ thenWord :: (body.yield ++ (other.yield ++ close :: t :: ts))) := by
    simp
  have htest := (hvalid test (by simp)).readFrom_expression htest hnesting.1
  obtain ⟨u, us, hu, hend⟩ :=
    exists_end_of_optionalElse (hvalid other (by simp)) hother hC (t :: ts)
  have hbranch := hbranch 0
  rw [hyield]
  refine (Reaches.shift hword).trans ((htest _ _ thenWord _ (by rw [hH]; decide)).trans
    ((Reaches.take hH (by decide)).trans ?_))
  have hbranch := hbranch (.elseBranch inner :: .take .endKw :: .reduce .condition ::
    .reduce .statementCondition :: .statements (read + 1) (inner + 1) :: goals)
    (.leaf thenWord :: test :: .leaf word :: forest) u us hend
  rw [← hu] at hbranch
  refine hbranch.trans ((helse _ _ close (t :: ts) hC).trans ((Reaches.take hC (by decide)).trans ?_))
  exact (Reaches.reduce .condition [.leaf word, test, .leaf thenWord, body, other, .leaf close]
    rfl).trans (reaches_statement rfl)

theorem readsInStatements_loop : loop.ReadsInStatements := by
  intro trees hs hvalid hread budget hb
  simp only [rhs, List.map_eq_cons_iff, List.map_eq_nil_iff] at hs
  obtain ⟨W, _, rfl, hW, test, _, rfl, htest, D, _, rfl, hD, body, _, rfl, hbody, C, _, rfl, hC,
    rfl⟩ := hs
  obtain ⟨word, rfl⟩ := exists_leaf hW rfl
  obtain ⟨doWord, rfl⟩ := exists_leaf hD rfl
  obtain ⟨close, rfl⟩ := exists_leaf hC rfl
  rw [symbol_leaf] at hW hD hC
  obtain ⟨inner, rfl, hinner⟩ := exists_inner rfl hb
  have hnesting : test.nesting ≤ inner ∧ body.nesting ≤ inner := by
    simp at hinner
    omega
  have hbranch := hread body (by simp) inner hnesting.2
  rw [hbody] at hbranch
  intro read r hlabel hr goals forest t ts _
  obtain rfl : r = .statementLoop := eq_of_statement hlabel rfl hr
  have hword : (Goal.statements read (inner + 1)).answer .standard word.symbol
      = .shift [.expression inner, .take .doKw, .statements 0 inner, .take .endKw, .reduce .loop,
          .reduce .statementLoop, .statements (read + 1) (inner + 1)] := by
    rw [hW]
    rfl
  have hyield : (node loop [.leaf word, test, .leaf doWord, body, .leaf close]).yield ++ t :: ts
      = word :: (test.yield ++ doWord :: (body.yield ++ close :: t :: ts)) := by
    simp
  have htest := (hvalid test (by simp)).readFrom_expression htest hnesting.1
  rw [hyield]
  refine (Reaches.shift hword).trans ((htest _ _ doWord _ (by rw [hD]; decide)).trans
    ((Reaches.take hD (by decide)).trans ((hbranch 0 _ _ close _ (by rw [hC]; decide)).trans
      ((Reaches.take hC (by decide)).trans ?_))))
  exact (Reaches.reduce .loop [.leaf word, test, .leaf doWord, body, .leaf close] rfl).trans
    (reaches_statement rfl)

theorem readsInStatements_methodDeclaration : methodDeclaration.ReadsInStatements := by
  intro trees hs hvalid hread budget hb
  simp only [rhs, List.map_eq_cons_iff, List.map_eq_nil_iff] at hs
  obtain ⟨W, _, rfl, hW, N, _, rfl, hN, O, _, rfl, hO, params, _, rfl, hparams, P, _, rfl, hP, C, _,
    rfl, hC, type, _, rfl, htype, B, _, rfl, hB, body, _, rfl, hbody, E, _, rfl, hE, rfl⟩ := hs
  obtain ⟨word, rfl⟩ := exists_leaf hW rfl
  obtain ⟨name, rfl⟩ := exists_leaf hN rfl
  obtain ⟨opening, rfl⟩ := exists_leaf hO rfl
  obtain ⟨closing, rfl⟩ := exists_leaf hP rfl
  obtain ⟨colon, rfl⟩ := exists_leaf hC rfl
  obtain ⟨beginWord, rfl⟩ := exists_leaf hB rfl
  obtain ⟨last, rfl⟩ := exists_leaf hE rfl
  rw [symbol_leaf] at hW hN hO hP hC hB hE
  obtain ⟨inner, rfl, hinner⟩ := exists_inner rfl hb
  have hnesting : params.nesting ≤ inner ∧ type.nesting ≤ inner ∧ body.nesting ≤ inner := by
    simp at hinner
    omega
  have hps := hread params (by simp) inner hnesting.1
  rw [hparams] at hps
  have hty := hread type (by simp) inner hnesting.2.1
  rw [htype] at hty
  have hbranch := hread body (by simp) inner hnesting.2.2
  rw [hbody] at hbranch
  intro read r hlabel hr goals forest t ts _
  obtain rfl : r = .statementMethodDeclaration := eq_of_statement hlabel rfl hr
  have hword : (Goal.statements read (inner + 1)).answer .standard word.symbol
      = .shift [.take .identifier, .take .lParen, .params, .take .rParen, .take .colon, .type,
          .take .beginKw, .statements 0 inner, .take .endKw, .reduce .methodDeclaration,
          .reduce .statementMethodDeclaration, .statements (read + 1) (inner + 1)] := by
    rw [hW]
    rfl
  have hyield : (node methodDeclaration [.leaf word, .leaf name, .leaf opening, params,
      .leaf closing, .leaf colon, type, .leaf beginWord, body, .leaf last]).yield ++ t :: ts
      = word :: name :: opening :: (params.yield ++ closing :: colon :: (type.yield
        ++ beginWord :: (body.yield ++ last :: t :: ts))) := by
    simp
  rw [hyield]
  refine (Reaches.shift hword).trans ((Reaches.take hN (by decide)).trans
    ((Reaches.take hO (by decide)).trans ((hps _ _ closing _ hP).trans
      ((Reaches.take hP (by decide)).trans ((Reaches.take hC (by decide)).trans
        ((hty _ _ beginWord _ trivial).trans ((Reaches.take hB (by decide)).trans
          ((hbranch 0 _ _ last _ (by rw [hE]; decide)).trans
            ((Reaches.take hE (by decide)).trans ?_)))))))))
  exact (Reaches.reduce .methodDeclaration [.leaf word, .leaf name, .leaf opening, params,
    .leaf closing, .leaf colon, type, .leaf beginWord, body, .leaf last] rfl).trans
    (reaches_statement rfl)

theorem readsInStatements_of_statement {r : Rule} (h : r.label = .statement) :
    r.ReadsInStatements := by
  intro trees hs hvalid hread budget hb
  rw [symbol_node, h]
  intro read goals forest t ts _
  -- The tree of a statement has a single child, which its own rule has read already.
  have single {s : Symbol} (hr : r.rhs = [s])
      (hchild : ∀ T : Tree, T.symbol = s → T.ReadInStatements → T.nesting ≤ budget →
        T.ReadFrom (.statements read budget) [.statements (read + 1) budget] [r] fun _ => True) :
      Reaches .standard ⟨.statements read budget :: goals, forest, (node r trees).yield ++ t :: ts⟩
        ⟨.statements (read + 1) budget :: goals, .node r trees :: forest, t :: ts⟩ := by
    rw [hr] at hs
    simp only [List.map_eq_cons_iff, List.map_eq_nil_iff] at hs
    obtain ⟨T, _, rfl, hT, rfl⟩ := hs
    have hnesting : T.nesting ≤ budget := by
      simp at hb
      omega
    have hreduce : [r].foldl Forest.reduce (T :: forest) = .node r [T] :: forest := by
      simp [Forest.reduce, arity, hr]
    have hread := hchild T hT (hread T (by simp)) hnesting goals forest t ts trivial
    rw [hreduce] at hread
    rw [yield_node, List.flatMap_singleton]
    exact hread
  have construct {s : Symbol} (hr : r.rhs = [s])
      (hconstruct : s ∈ [.declaration, .assignment, .condition, .loop, .methodDeclaration,
        .returnStatement, .methodCall]) :
      Reaches .standard ⟨.statements read budget :: goals, forest, (node r trees).yield ++ t :: ts⟩
        ⟨.statements (read + 1) budget :: goals, .node r trees :: forest, t :: ts⟩ := by
    apply single hr
    intro T hT hread hb
    have hread := hread budget hb
    simp only [List.mem_cons, List.not_mem_nil, or_false] at hconstruct
    rw [hT] at hread
    obtain rfl | rfl | rfl | rfl | rfl | rfl | rfl := hconstruct <;> exact hread read r h hr
  cases r <;> simp only [label, lhs, reduceCtorEq] at h
  case statementDeclaration => exact construct rfl (by decide)
  case statementAssignment => exact construct rfl (by decide)
  case statementCondition => exact construct rfl (by decide)
  case statementLoop => exact construct rfl (by decide)
  case statementMethodDeclaration => exact construct rfl (by decide)
  case statementMethodCall => exact construct rfl (by decide)
  case statementReturn => exact construct rfl (by decide)

theorem readsInStatements_of_list {r : Rule} (h : r.label = .statementList) :
    r.ReadsInStatements := by
  intro trees hs hvalid hread budget hb
  rw [symbol_node, h]
  cases r <;> simp only [label, lhs, reduceCtorEq] at h
  case statementEmpty =>
    intro read
    apply readFrom_empty rfl hs hvalid
    intro s ht
    exact ⟨_, Goal.answerStatements_of_not_mem read budget ht⟩
  case statementList =>
    simp only [rhs, List.map_eq_cons_iff, List.map_eq_nil_iff] at hs
    obtain ⟨s, _, rfl, hs, tail, _, rfl, htail, rfl⟩ := hs
    intro read goals forest t ts ht
    have hnesting : s.nesting ≤ budget ∧ tail.nesting ≤ budget := by
      simp at hb
      omega
    have hstatement := hread s (by simp) budget hnesting.1
    rw [hs] at hstatement
    have hrest := hread tail (by simp) budget hnesting.2
    rw [htail] at hrest
    have hrest := hrest (read + 1) goals (s :: forest) t ts ht
    have hyield : (node statementList [s, tail]).yield ++ t :: ts
        = s.yield ++ (tail.yield ++ t :: ts) := by
      simp
    obtain ⟨u, us, hu⟩ := List.exists_cons_of_ne_nil (show tail.yield ++ t :: ts ≠ [] by simp)
    rw [hyield]
    rw [hu] at hrest ⊢
    exact (hstatement read goals forest u us trivial).trans hrest

theorem readsInStatements_of_optionalElse {r : Rule} (h : r.label = .optionalElse) :
    r.ReadsInStatements := by
  intro trees hs hvalid hread budget hb
  rw [symbol_node, h]
  cases r <;> simp only [label, lhs, reduceCtorEq] at h
  case optionalElseElse =>
    intro goals forest t ts ht
    simp only [rhs, List.map_eq_cons_iff, List.map_eq_nil_iff] at hs
    obtain ⟨W, _, rfl, hW, body, _, rfl, hbody, rfl⟩ := hs
    obtain ⟨word, rfl⟩ := exists_leaf hW rfl
    rw [symbol_leaf] at hW
    have hnesting : body.nesting ≤ budget := by
      simp at hb
      omega
    have hbranch := hread body (by simp) budget hnesting
    rw [hbody] at hbranch
    have hshift : (Goal.elseBranch budget).answer .standard word.symbol
        = .shift [.statements 0 budget, .reduce .optionalElseElse] := by
      rw [hW]
      rfl
    have hyield : (node optionalElseElse [.leaf word, body]).yield ++ t :: ts
        = word :: (body.yield ++ t :: ts) := by
      simp
    rw [hyield]
    exact (Reaches.shift hshift).trans ((hbranch 0 _ _ t ts (by rw [ht]; decide)).trans
      (.reduce .optionalElseElse [.leaf word, body] rfl))
  case optionalElseEmpty =>
    apply readFrom_empty rfl hs hvalid
    intro s ht
    simp [Goal.answer, ht]

theorem readsInStatements (r : Rule) : r.ReadsInStatements := by
  cases r
  case typeInt | typeFloat | typeString | typeBool => exact readsInStatements_of_type rfl
  case param => exact readsInStatements_param
  case optionalParamsList | optionalParamsEmpty => exact readsInStatements_of_params (.inl rfl)
  case paramList => exact readsInStatements_of_params (.inr (.inl rfl))
  case paramTailComma | paramTailEmpty => exact readsInStatements_of_params (.inr (.inr rfl))
  case declaration => exact readsInStatements_declaration
  case assignment => exact readsInStatements_assignment
  case condition => exact readsInStatements_condition
  case loop => exact readsInStatements_loop
  case methodDeclaration => exact readsInStatements_methodDeclaration
  case returnStatement => exact readsInStatements_returnStatement
  case methodCall => exact readsInStatements_methodCall
  case statementDeclaration | statementAssignment | statementCondition | statementLoop
      | statementMethodDeclaration | statementMethodCall | statementReturn =>
    apply readsInStatements_of_statement rfl
  case statementList | statementEmpty => exact readsInStatements_of_list rfl
  case optionalElseElse | optionalElseEmpty => exact readsInStatements_of_optionalElse rfl
  -- The trees of expressions are no trees of statements.
  all_goals
    intro trees _ _ _ budget _
    trivial

end Rule

theorem Tree.Valid.readInStatements {T : Tree} (h : T.Valid) : T.ReadInStatements := by
  induction h with
  | leaf h =>
    intro budget _
    rw [symbol_leaf]
    split <;> rename_i hs <;> first | trivial | (rw [hs] at h; cases h)
  | node symbols valid ih => exact Rule.readsInStatements _ _ symbols valid ih

theorem Tree.Valid.reaches_program {T : Tree} (h : T.Valid) (hs : T.symbol = .program)
    {maxDepth : Nat} (hd : T.nesting ≤ maxDepth) {t : Token} (ht : t.symbol = .eof) :
    Reaches .standard ⟨Goal.program maxDepth, [], T.yield ++ [t]⟩ ⟨[], [T], [t]⟩ := by
  obtain ⟨r, trees, rfl, hr, symbols, valid⟩ := exists_node h hs (by decide)
  obtain rfl : r = .program := by
    cases r <;> simp [Rule.label, Rule.lhs] at hr
    rfl
  simp only [Rule.rhs, List.map_eq_cons_iff, List.map_eq_nil_iff] at symbols
  obtain ⟨W, _, rfl, hW, body, _, rfl, hbody, E, _, rfl, hE, rfl⟩ := symbols
  obtain ⟨word, rfl⟩ := exists_leaf hW rfl
  obtain ⟨last, rfl⟩ := exists_leaf hE rfl
  rw [symbol_leaf] at hW hE
  have hnesting : body.nesting ≤ maxDepth := by
    simp at hd
    omega
  have hread := (valid body (by simp)).readInStatements maxDepth hnesting
  rw [hbody] at hread
  have hend : (Goal.take .eof).answer .standard t.symbol = .met [] [] := by
    simp [Goal.answer, ht]
  have hyield : (Tree.node .program [.leaf word, body, .leaf last]).yield ++ [t]
      = word :: (body.yield ++ last :: [t]) := by
    simp
  rw [hyield]
  exact (Reaches.take hW (by decide)).trans ((hread 0 _ _ last _ (by rw [hE]; decide)).trans
    ((Reaches.take hE (by decide)).trans ((Reaches.met hend).trans
      (.reduce .program [.leaf word, body, .leaf last] rfl))))

end StartEnd
