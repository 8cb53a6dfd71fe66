import Mathlib.Data.List.Forall2
import StartEnd.Proofs.Derivation.Level
import StartEnd.Proofs.Derivation.Reading
import StartEnd.Proofs.Token.WellFormed
import StartEnd.Reduction.Basic

/-!
This module contains the relation between a derivation tree and the node that reductions make of it.
A reduction over nodes that stand for the children of a tree succeeds, and it yields a node that
stands for the tree.
-/

namespace StartEnd

namespace Tree

/--
A node stands for a tree if it holds what the tree says. Lists without an element may be absent.
-/
def StandsFor (n : Node) (T : Tree) : Prop :=
  match T.symbol with
  | .program => ∃ p, T.program? = some p ∧ n = .program p
  | .statementList => ∃ list, T.stmts? = some list ∧ (n = .statements list ∨ n = .absent ∧ list = [])
  | .statement | .declaration | .assignment | .condition | .loop | .methodDeclaration
  | .returnStatement => ∃ s, T.stmt? = some s ∧ n = .stmt s
  | .optionalElse =>
    T.else? = some none ∧ n = .absent ∨ ∃ list, T.else? = some (some list) ∧ n = .statements list
  | .type => ∃ t l, T.type? = some t ∧ n = .type t l
  | .optionalParams | .paramList | .paramTail =>
    ∃ list, T.params? = some list ∧ (n = .params list ∨ n = .absent ∧ list = [])
  | .param => ∃ p, T.param? = some p ∧ n = .param p
  | .methodCall => ∃ c, T.call? = some c ∧ n = .call c
  | .optionalArgs | .argList | .argTail =>
    ∃ list, T.args? = some list ∧ (n = .args list ∨ n = .absent ∧ list = [])
  | .expression | .logicalOrExpr | .logicalAndExpr | .equalityExpr | .relationalExpr
  | .additiveExpr | .multiplicativeExpr | .factor => ∃ e, T.expr? = some e ∧ n = .expr e
  | .empty => n = .absent
  | _ => ∃ t, T = .leaf t ∧ t.wellFormed ∧ n = .token t

theorem standsFor_terminal {n : Node} {T : Tree} {s : Symbol} (hs : T.symbol = s)
    (ht : s.isTerminal) : StandsFor n T ↔ ∃ t, T = .leaf t ∧ t.wellFormed ∧ n = .token t := by
  unfold StandsFor
  rw [hs]
  cases s
  all_goals first | rfl | cases ht

theorem standsFor_leaf {t : Token} (h : t.wellFormed) : StandsFor (.token t) (.leaf t) := by
  have hs : (leaf t).symbol = t.symbol := rfl
  rw [standsFor_terminal hs (Token.isTerminal_of_wellFormed h)]
  exact ⟨t, rfl, h, rfl⟩

theorem standsFor_level {n : Node} {T : Tree} {level : Level} (hs : T.symbol = level.symbol) :
    StandsFor n T ↔ ∃ e, T.expr? = some e ∧ n = .expr e := by
  unfold StandsFor
  rw [hs]
  cases level <;> rfl

theorem standsFor_operand {n : Node} {T : Tree} {level : Level} (hs : T.symbol = level.operand) :
    StandsFor n T ↔ ∃ e, T.expr? = some e ∧ n = .expr e := by
  unfold StandsFor
  rw [hs]
  cases level <;> rfl

/--
Nodes that stand for trees of the given symbols.
-/
inductive Children : List Symbol → List Node → List Tree → Prop where
  | nil : Children [] [] []
  | cons {s : Symbol} {n : Node} {T : Tree} {symbols : List Symbol} {nodes : List Node}
      {trees : List Tree} (hs : T.symbol = s) (h : StandsFor n T)
      (rest : Children symbols nodes trees) : Children (s :: symbols) (n :: nodes) (T :: trees)

theorem children_of_forall₂ {nodes : List Node} {trees : List Tree}
    (h : List.Forall₂ StandsFor nodes trees) : Children (trees.map symbol) nodes trees := by
  induction h with
  | nil => exact .nil
  | cons h _ ih => exact .cons rfl h ih

theorem expr?_node_single {r : Rule} {T : Tree} {e : Expr} (h : T.expr? = some e)
    (hr : r ≠ .factorMethodCall) : (node r [T]).expr? = some e := by
  cases T with
  | leaf t => simp [expr?] at h
  | node q children => simpa [expr?, hr] using h

end Tree

namespace Shape

@[simp]
theorem read?_token (t : Token) : read? .token (.token t) = some t := rfl

@[simp]
theorem read?_expr (e : Expr) : read? .expr (.expr e) = some e := rfl

@[simp]
theorem read?_stmtOrAbsent (s : Stmt) : read? .stmtOrAbsent (.stmt s) = some (some s) := rfl

@[simp]
theorem read?_type (t : TypeName) (l : Location) : read? .type (.type t l) = some t := rfl

@[simp]
theorem read?_param (p : Param) : read? .param (.param p) = some p := rfl

theorem read?_name {t : Token} {n : String} (h : t.value = some (.name n)) :
    read? .name (.token t) = some (n, t.location) := by
  simp [read?, h]

theorem read?_statements {n : Node} {list : List Stmt}
    (h : n = .statements list ∨ n = .absent ∧ list = []) : read? .statements n = some list := by
  obtain rfl | ⟨rfl, rfl⟩ := h <;> rfl

theorem read?_elseBranch {n : Node} {T : Tree}
    (h : T.else? = some none ∧ n = .absent
      ∨ ∃ list, T.else? = some (some list) ∧ n = .statements list) :
    ∃ branch, T.else? = some branch ∧ read? .elseBranch n = some branch := by
  obtain ⟨h, rfl⟩ | ⟨list, h, rfl⟩ := h <;> exact ⟨_, h, rfl⟩

theorem read?_params {n : Node} {list : List Param}
    (h : n = .params list ∨ n = .absent ∧ list = []) : read? .params n = some list := by
  obtain rfl | ⟨rfl, rfl⟩ := h <;> rfl

theorem read?_args {n : Node} {list : List Expr}
    (h : n = .args list ∨ n = .absent ∧ list = []) : read? .args n = some list := by
  obtain rfl | ⟨rfl, rfl⟩ := h <;> rfl

end Shape

namespace Rule

open StartEnd.Tree

/--
A reduction by the rule succeeds over nodes that stand for the children of a tree, and its node
stands for the tree.
-/
def Reduces (r : Rule) : Prop :=
  ∀ (nodes : List Node) (trees : List Tree), Children r.rhs nodes trees →
    ∃ n, r.reduce nodes = .ok n ∧ StandsFor n (.node r trees)

theorem reduce_single (level : Level) (e : Expr) :
    level.single.reduce [.expr e] = .ok (.expr e) := by
  cases level <;> rfl

theorem reduce_operator {level : Level} {s : Symbol} {r : Rule} (h : (s, r) ∈ level.operators) :
    ∃ op, s.binOp? = some op ∧ ∀ left t right,
      r.reduce [.expr left, .token t, .expr right]
        =
      .ok (.expr (.binary op left right t.location)) := by
  cases level <;>
    simp only [Level.operators, List.mem_cons, Prod.mk.injEq, List.not_mem_nil, or_false] at h
  case or | and =>
    obtain ⟨rfl, rfl⟩ := h
    exact ⟨_, rfl, fun _ _ _ => rfl⟩
  all_goals
    obtain ⟨rfl, rfl⟩ | ⟨rfl, rfl⟩ := h <;> exact ⟨_, rfl, fun _ _ _ => rfl⟩

theorem reduces_of_level (level : Level) {r : Rule} (h : r.label = level.symbol) : r.Reduces := by
  intro nodes trees hn
  have hnode : (node r trees).symbol = level.symbol := h
  cases Level.eq_of_label h with
  | inl h =>
    subst h
    rw [Level.single_rhs] at hn
    obtain _ | ⟨hs, h1, _ | _⟩ := hn
    obtain ⟨e, he, rfl⟩ := (standsFor_operand hs).mp h1
    refine ⟨_, reduce_single level e, (standsFor_level hnode).mpr ⟨e, ?_, rfl⟩⟩
    apply expr?_node_single he
    cases level <;> simp [Level.single]
  | inr h' =>
    obtain ⟨s, hr⟩ := h'
    rw [(Level.operators_spec hr).2.1] at hn
    obtain _ | ⟨hl, h1, _ | ⟨hop, h2, _ | ⟨ho, h3, _ | _⟩⟩⟩ := hn
    obtain ⟨left, hleft, rfl⟩ := (standsFor_level hl).mp h1
    obtain ⟨t, rfl, -, rfl⟩ := (standsFor_terminal hop (Level.operators_spec hr).2.2.2).mp h2
    obtain ⟨right, hright, rfl⟩ := (standsFor_operand ho).mp h3
    obtain ⟨op, hbinOp, hreduce⟩ := reduce_operator hr
    refine ⟨_, hreduce left t right, (standsFor_level hnode).mpr ⟨_, ?_, rfl⟩⟩
    have hne : r ≠ .factorParens := by
      intro hr
      subst hr
      cases level <;> cases h
    rw [symbol_leaf] at hop
    simp [expr?, hop, hbinOp, hleft, hright]

theorem reduces_of_expression {r : Rule} (h : r.label = .expression) : r.Reduces := by
  intro nodes trees hn
  cases r <;> simp [label, lhs] at h
  simp only [rhs] at hn
  obtain _ | ⟨hi, h1, _ | _⟩ := hn
  simp only [StandsFor, hi] at h1
  obtain ⟨e, he, rfl⟩ := h1
  refine ⟨_, rfl, ?_⟩
  simp only [StandsFor, symbol_node, label, lhs]
  exact ⟨_, expr?_node_single he (by simp), rfl⟩

theorem reduces_of_factor {r : Rule} (h : r.label = .factor) : r.Reduces := by
  intro nodes trees hn
  cases r <;> simp [label, lhs] at h <;> simp only [rhs] at hn
  case factorIdentifier =>
    obtain _ | ⟨hname, h1, _ | _⟩ := hn
    simp only [StandsFor, hname] at h1
    obtain ⟨t, rfl, ht, rfl⟩ := h1
    obtain ⟨n, hv⟩ := Token.exists_name ht hname
    refine ⟨.expr (.var n t.location), ?_, ?_⟩
    · simp [reduce, arity, rhs, readChildren, Shape.read?, hv, value, Except.map]
    · simp [StandsFor, label, lhs, expr?, Token.name?, hv]
  case factorNumber =>
    obtain _ | ⟨hnumber, h1, _ | _⟩ := hn
    simp only [StandsFor, hnumber] at h1
    obtain ⟨t, rfl, ht, rfl⟩ := h1
    rw [symbol_leaf] at hnumber
    obtain ⟨n, hv⟩ | ⟨x, hv⟩ := Token.exists_number ht hnumber
    · refine ⟨.expr (.literal (.integer n) t.location), ?_, ?_⟩
      · simp [reduce, arity, rhs, readChildren, Shape.read?, hv, value, Except.map]
      · simp [StandsFor, label, lhs, expr?, Token.literal?, hnumber, hv]
    · refine ⟨.expr (.literal (.float x) t.location), ?_, ?_⟩
      · simp [reduce, arity, rhs, readChildren, Shape.read?, hv, value, Except.map]
      · simp [StandsFor, label, lhs, expr?, Token.literal?, hnumber, hv]
  case factorStringLiteral =>
    obtain _ | ⟨htext, h1, _ | _⟩ := hn
    simp only [StandsFor, htext] at h1
    obtain ⟨t, rfl, ht, rfl⟩ := h1
    rw [symbol_leaf] at htext
    obtain ⟨s, hv⟩ := Token.exists_text ht htext
    refine ⟨.expr (.literal (.string s) t.location), ?_, ?_⟩
    · simp [reduce, arity, rhs, readChildren, Shape.read?, hv, value, Except.map]
    · simp [StandsFor, label, lhs, expr?, Token.literal?, htext, hv]
  case factorTrue | factorFalse =>
    obtain _ | ⟨hword, h1, _ | _⟩ := hn
    simp only [StandsFor, hword] at h1
    obtain ⟨t, rfl, ht, rfl⟩ := h1
    rw [symbol_leaf] at hword
    refine ⟨_, rfl, ?_⟩
    simp only [StandsFor, symbol_node, label, lhs]
    exact ⟨_, by simp [expr?, Token.literal?, hword], rfl⟩
  case factorParens =>
    obtain _ | ⟨hl, h1, _ | ⟨hi, h2, _ | ⟨hr, h3, _ | _⟩⟩⟩ := hn
    simp only [StandsFor, hl, hi, hr] at h1 h2 h3
    obtain ⟨t, rfl, ht, rfl⟩ := h1
    obtain ⟨e, he, rfl⟩ := h2
    obtain ⟨u, rfl, hu, rfl⟩ := h3
    refine ⟨_, rfl, ?_⟩
    simp only [StandsFor, symbol_node, label, lhs]
    exact ⟨_, by simp [expr?, he], rfl⟩
  case factorMethodCall =>
    obtain _ | ⟨hc, h1, _ | _⟩ := hn
    simp only [StandsFor, hc] at h1
    obtain ⟨c, hc, rfl⟩ := h1
    refine ⟨_, rfl, ?_⟩
    simp only [StandsFor, symbol_node, label, lhs]
    exact ⟨_, by simp [expr?, hc], rfl⟩
  case factorNot | factorPlus | factorMinus =>
    obtain _ | ⟨hop, h1, _ | ⟨ho, h2, _ | _⟩⟩ := hn
    simp only [StandsFor, hop, ho] at h1 h2
    obtain ⟨t, rfl, ht, rfl⟩ := h1
    obtain ⟨e, he, rfl⟩ := h2
    rw [symbol_leaf] at hop
    refine ⟨_, rfl, ?_⟩
    simp only [StandsFor, symbol_node, label, lhs]
    exact ⟨_, by simp [expr?, hop, he, Symbol.unOp?], rfl⟩

theorem reduces_of_call {r : Rule}
    (h : r.label ∈ [Symbol.methodCall, .optionalArgs, .argList, .argTail]) : r.Reduces := by
  intro nodes trees hn
  cases r <;> simp [label, lhs] at h <;> simp only [rhs] at hn
  case methodCall =>
    obtain _ | ⟨hname, h1, _ | ⟨hl, h2, _ | ⟨ha, h3, _ | ⟨hr, h4, _ | ⟨hsemi, h5, _ | _⟩⟩⟩⟩⟩ := hn
    simp only [StandsFor, hname, hl, ha, hr, hsemi] at h1 h2 h3 h4 h5
    obtain ⟨t, rfl, ht, rfl⟩ := h1
    obtain ⟨_, rfl, -, rfl⟩ := h2
    obtain ⟨list, hlist, h3⟩ := h3
    obtain ⟨_, rfl, -, rfl⟩ := h4
    obtain ⟨_, rfl, -, rfl⟩ := h5
    obtain ⟨n, hv⟩ := Token.exists_name ht hname
    have hargs := Shape.read?_args h3
    refine ⟨.call ⟨n, list, t.location⟩, ?_, ?_⟩
    · simp [reduce, arity, rhs, readChildren, Shape.read?_name hv, hargs, value, Except.map]
    · simp [StandsFor, label, lhs, call?, Token.name?, hv, hlist]
  case optionalArgsList =>
    obtain _ | ⟨hl, h1, _ | _⟩ := hn
    simp only [StandsFor, hl] at h1
    obtain ⟨args, ha, h1⟩ := h1
    have hargs := Shape.read?_args h1
    refine ⟨.args args, ?_, ?_⟩
    · simp [reduce, arity, rhs, readChildren, hargs, value, Except.map]
    · simp [StandsFor, label, lhs, args?, ha]
  case argList =>
    obtain _ | ⟨hh, h1, _ | ⟨ht, h2, _ | _⟩⟩ := hn
    simp only [StandsFor, hh, ht] at h1 h2
    obtain ⟨e, he, rfl⟩ := h1
    obtain ⟨args, ha, h2⟩ := h2
    have hargs := Shape.read?_args h2
    refine ⟨.args (e :: args), ?_, ?_⟩
    · simp [reduce, arity, rhs, readChildren, hargs, value, Except.map]
    · simp [StandsFor, label, lhs, args?, he, ha]
  case argTailComma =>
    obtain _ | ⟨hc, h1, _ | ⟨hh, h2, _ | ⟨ht, h3, _ | _⟩⟩⟩ := hn
    simp only [StandsFor, hc, hh, ht] at h1 h2 h3
    obtain ⟨_, rfl, -, rfl⟩ := h1
    obtain ⟨e, he, rfl⟩ := h2
    obtain ⟨args, ha, h3⟩ := h3
    have hargs := Shape.read?_args h3
    refine ⟨.args (e :: args), ?_, ?_⟩
    · simp [reduce, arity, rhs, readChildren, hargs, value, Except.map]
    · simp [StandsFor, label, lhs, args?, he, ha]
  case optionalArgsEmpty | argTailEmpty =>
    obtain _ | ⟨he, h1, _ | _⟩ := hn
    simp only [StandsFor, he] at h1
    subst h1
    refine ⟨.absent, rfl, ?_⟩
    simp [StandsFor, label, lhs, args?]

theorem reduces_of_type {r : Rule} (h : r.label = .type) : r.Reduces := by
  intro nodes trees hn
  cases r <;> simp [label, lhs] at h <;>
  · simp only [rhs] at hn
    obtain _ | ⟨hword, h1, _ | _⟩ := hn
    simp only [StandsFor, hword] at h1
    obtain ⟨t, rfl, ht, rfl⟩ := h1
    rw [symbol_leaf] at hword
    refine ⟨_, rfl, ?_⟩
    simp only [StandsFor, symbol_node, label, lhs]
    exact ⟨_, _, by simp [type?, hword, Symbol.typeName?], rfl⟩

theorem reduces_of_params {r : Rule}
    (h : r.label ∈ [Symbol.param, .optionalParams, .paramList, .paramTail]) : r.Reduces := by
  intro nodes trees hn
  cases r <;> simp [label, lhs] at h <;> simp only [rhs] at hn
  case param =>
    obtain _ | ⟨hname, h1, _ | ⟨hc, h2, _ | ⟨htype, h3, _ | _⟩⟩⟩ := hn
    simp only [StandsFor, hname, hc, htype] at h1 h2 h3
    obtain ⟨t, rfl, ht, rfl⟩ := h1
    obtain ⟨_, rfl, -, rfl⟩ := h2
    obtain ⟨ty, l, hty, rfl⟩ := h3
    obtain ⟨n, hv⟩ := Token.exists_name ht hname
    refine ⟨.param ⟨n, ty, t.location⟩, ?_, ?_⟩
    · simp [reduce, arity, rhs, readChildren, Shape.read?_name hv, value, Except.map]
    · simp [StandsFor, label, lhs, param?, Token.name?, hv, hty]
  case optionalParamsList =>
    obtain _ | ⟨hl, h1, _ | _⟩ := hn
    simp only [StandsFor, hl] at h1
    obtain ⟨params, hp, h1⟩ := h1
    have hparams := Shape.read?_params h1
    refine ⟨.params params, ?_, ?_⟩
    · simp [reduce, arity, rhs, readChildren, hparams, value, Except.map]
    · simp [StandsFor, label, lhs, params?, hp]
  case paramList =>
    obtain _ | ⟨hh, h1, _ | ⟨ht, h2, _ | _⟩⟩ := hn
    simp only [StandsFor, hh, ht] at h1 h2
    obtain ⟨p, hp, rfl⟩ := h1
    obtain ⟨params, hps, h2⟩ := h2
    have hparams := Shape.read?_params h2
    refine ⟨.params (p :: params), ?_, ?_⟩
    · simp [reduce, arity, rhs, readChildren, hparams, value, Except.map]
    · simp [StandsFor, label, lhs, params?, hp, hps]
  case paramTailComma =>
    obtain _ | ⟨hc, h1, _ | ⟨hh, h2, _ | ⟨ht, h3, _ | _⟩⟩⟩ := hn
    simp only [StandsFor, hc, hh, ht] at h1 h2 h3
    obtain ⟨_, rfl, -, rfl⟩ := h1
    obtain ⟨p, hp, rfl⟩ := h2
    obtain ⟨params, hps, h3⟩ := h3
    have hparams := Shape.read?_params h3
    refine ⟨.params (p :: params), ?_, ?_⟩
    · simp [reduce, arity, rhs, readChildren, hparams, value, Except.map]
    · simp [StandsFor, label, lhs, params?, hp, hps]
  case optionalParamsEmpty | paramTailEmpty =>
    obtain _ | ⟨he, h1, _ | _⟩ := hn
    simp only [StandsFor, he] at h1
    subst h1
    refine ⟨.absent, rfl, ?_⟩
    simp [StandsFor, label, lhs, params?]

theorem reduces_of_statement {r : Rule} (h : r.label = .statement) : r.Reduces := by
  intro nodes trees hn
  cases r <;> simp [label, lhs] at h <;>
  · simp only [rhs] at hn
    obtain _ | ⟨hst, h1, _ | _⟩ := hn
    simp only [StandsFor, hst] at h1
    obtain ⟨s, h1, rfl⟩ := h1
    refine ⟨_, rfl, ?_⟩
    simp only [StandsFor, symbol_node, label, lhs]
    exact ⟨_, by simp [stmt?, h1], rfl⟩

theorem reduces_of_list {r : Rule}
    (h : r.label ∈ [Symbol.statementList, .optionalElse, .empty]) : r.Reduces := by
  intro nodes trees hn
  cases r <;> simp [label, lhs] at h <;> simp only [rhs] at hn
  case statementList =>
    obtain _ | ⟨hh, h1, _ | ⟨ht, h2, _ | _⟩⟩ := hn
    simp only [StandsFor, hh, ht] at h1 h2
    obtain ⟨s, hst, rfl⟩ := h1
    obtain ⟨list, hl, h2⟩ := h2
    have hlist := Shape.read?_statements h2
    refine ⟨.statements (s :: list), ?_, ?_⟩
    · simp [reduce, arity, rhs, readChildren, hlist, value, Except.map]
    · simp [StandsFor, label, lhs, stmts?, hst, hl]
  case statementEmpty =>
    obtain _ | ⟨he, h1, _ | _⟩ := hn
    simp only [StandsFor, he] at h1
    subst h1
    refine ⟨.absent, rfl, ?_⟩
    simp [StandsFor, label, stmts?]
  case optionalElseElse =>
    obtain _ | ⟨hw, h1, _ | ⟨hl, h2, _ | _⟩⟩ := hn
    simp only [StandsFor, hw, hl] at h1 h2
    obtain ⟨_, rfl, -, rfl⟩ := h1
    obtain ⟨list, hl, h2⟩ := h2
    have hlist := Shape.read?_statements h2
    refine ⟨.statements list, ?_, ?_⟩
    · simp [reduce, arity, rhs, readChildren, hlist, value, Except.map]
    · simp [StandsFor, label, lhs, else?, hl]
  case optionalElseEmpty =>
    obtain _ | ⟨he, h1, _ | _⟩ := hn
    simp only [StandsFor, he] at h1
    subst h1
    refine ⟨.absent, rfl, ?_⟩
    simp [StandsFor, label, lhs, else?]
  case empty =>
    obtain _ | _ := hn
    exact ⟨.absent, rfl, by simp [StandsFor, label, lhs]⟩

theorem reduces_program : program.Reduces := by
  intro nodes trees hn
  simp only [rhs] at hn
  obtain _ | ⟨hst, h1, _ | ⟨hb, h2, _ | ⟨he, h3, _ | _⟩⟩⟩ := hn
  simp only [StandsFor, hst, hb, he] at h1 h2 h3
  obtain ⟨t, rfl, -, rfl⟩ := h1
  obtain ⟨list, hl, h2⟩ := h2
  obtain ⟨_, rfl, -, rfl⟩ := h3
  have hlist := Shape.read?_statements h2
  refine ⟨.program ⟨list, t.location⟩, ?_, ?_⟩
  · simp [reduce, arity, rhs, readChildren, hlist, value, Except.map]
  · simp [StandsFor, label, lhs, program?, hl]

theorem reduces_declaration : declaration.Reduces := by
  intro nodes trees hn
  simp only [rhs] at hn
  obtain _ | ⟨hw, h1, _ | ⟨hname, h2, _ | ⟨hc, h3, _ | ⟨ht, h4, _ | ⟨hse, h5, _ | _⟩⟩⟩⟩⟩ := hn
  simp only [StandsFor, hw, hname, hc, ht, hse] at h1 h2 h3 h4 h5
  obtain ⟨t, rfl, -, rfl⟩ := h1
  obtain ⟨u, rfl, hu, rfl⟩ := h2
  obtain ⟨_, rfl, -, rfl⟩ := h3
  obtain ⟨ty, l, hty, rfl⟩ := h4
  obtain ⟨_, rfl, -, rfl⟩ := h5
  obtain ⟨n, hv⟩ := Token.exists_name hu hname
  refine ⟨.stmt (.varDecl n ty t.location), ?_, ?_⟩
  · simp [reduce, arity, rhs, readChildren, Shape.read?_name hv, value, Except.map]
  · simp [StandsFor, label, lhs, stmt?, Token.name?, hv, hty]

theorem reduces_assignment : assignment.Reduces := by
  intro nodes trees hn
  simp only [rhs] at hn
  obtain _ | ⟨htg, h1, _ | ⟨hop, h2, _ | ⟨hval, h3, _ | ⟨hse, h4, _ | _⟩⟩⟩⟩ := hn
  simp only [StandsFor, htg, hop, hval, hse] at h1 h2 h3 h4
  obtain ⟨t, rfl, ht, rfl⟩ := h1
  obtain ⟨_, rfl, -, rfl⟩ := h2
  obtain ⟨e, he, rfl⟩ := h3
  obtain ⟨_, rfl, -, rfl⟩ := h4
  obtain ⟨n, hv⟩ := Token.exists_name ht htg
  refine ⟨.stmt (.assign n e t.location), ?_, ?_⟩
  · simp [reduce, arity, rhs, readChildren, Shape.read?_name hv, Rule.value, Except.map]
  · simp [StandsFor, label, lhs, stmt?, Token.name?, hv, he]

theorem reduces_condition : condition.Reduces := by
  intro nodes trees hn
  simp only [rhs] at hn
  obtain _ | ⟨hw, h1, _ | ⟨ht, h2, _ | ⟨hth, h3, _ | ⟨hf, h4, _ | ⟨hel, h5, _ | ⟨he, h6, _ |
    _⟩⟩⟩⟩⟩⟩ := hn
  simp only [StandsFor, hw, ht, hth, hf, hel, he] at h1 h2 h3 h4 h5 h6
  obtain ⟨t, rfl, -, rfl⟩ := h1
  obtain ⟨e, htest, rfl⟩ := h2
  obtain ⟨_, rfl, -, rfl⟩ := h3
  obtain ⟨list, hl, h4⟩ := h4
  obtain ⟨branch, hb, hbranch⟩ := Shape.read?_elseBranch h5
  obtain ⟨_, rfl, -, rfl⟩ := h6
  have hlist := Shape.read?_statements h4
  refine ⟨.stmt (.cond e list branch t.location), ?_, ?_⟩
  · simp [reduce, arity, rhs, readChildren, hlist, hbranch, value, Except.map]
  · simp [StandsFor, label, lhs, stmt?, htest, hl, hb]

theorem reduces_loop : loop.Reduces := by
  intro nodes trees hn
  simp only [rhs] at hn
  obtain _ | ⟨hw, h1, _ | ⟨ht, h2, _ | ⟨hd, h3, _ | ⟨hb, h4, _ | ⟨he, h5, _ | _⟩⟩⟩⟩⟩ := hn
  simp only [StandsFor, hw, ht, hd, hb, he] at h1 h2 h3 h4 h5
  obtain ⟨t, rfl, -, rfl⟩ := h1
  obtain ⟨e, htest, rfl⟩ := h2
  obtain ⟨_, rfl, -, rfl⟩ := h3
  obtain ⟨list, hl, h4⟩ := h4
  obtain ⟨_, rfl, -, rfl⟩ := h5
  have hlist := Shape.read?_statements h4
  refine ⟨.stmt (.loop e list t.location), ?_, ?_⟩
  · simp [reduce, arity, rhs, readChildren, hlist, value, Except.map]
  · simp [StandsFor, label, lhs, stmt?, htest, hl]

theorem reduces_methodDeclaration : methodDeclaration.Reduces := by
  intro nodes trees hn
  simp only [rhs] at hn
  obtain _ | ⟨hw, h1, _ | ⟨hname, h2, _ | ⟨hl, h3, _ | ⟨hps, h4, _ | ⟨hr, h5, _ | ⟨hc, h6, _ |
    ⟨ht, h7, _ | ⟨hbegin, h8, _ | ⟨hbody, h9, _ | ⟨he, h10, _ | _⟩⟩⟩⟩⟩⟩⟩⟩⟩⟩ := hn
  simp only [StandsFor, hw, hname, hl, hps, hr, hc, ht, hbegin, hbody, he]
    at h1 h2 h3 h4 h5 h6 h7 h8 h9 h10
  obtain ⟨t, rfl, -, rfl⟩ := h1
  obtain ⟨u, rfl, hu, rfl⟩ := h2
  obtain ⟨_, rfl, -, rfl⟩ := h3
  obtain ⟨ps, hp, h4⟩ := h4
  obtain ⟨_, rfl, -, rfl⟩ := h5
  obtain ⟨_, rfl, -, rfl⟩ := h6
  obtain ⟨ty, _, hty, rfl⟩ := h7
  obtain ⟨_, rfl, -, rfl⟩ := h8
  obtain ⟨list, hlist, h9⟩ := h9
  obtain ⟨_, rfl, -, rfl⟩ := h10
  obtain ⟨n, hv⟩ := Token.exists_name hu hname
  have hparams := Shape.read?_params h4
  have hstatements := Shape.read?_statements h9
  refine ⟨.stmt (.funcDecl n ps ty list t.location), ?_, ?_⟩
  · simp [reduce, arity, rhs, readChildren, Shape.read?_name hv, hparams, hstatements, value,
      Except.map]
  · simp [StandsFor, label, lhs, stmt?, Token.name?, hv, hp, hty, hlist]

theorem reduces_returnStatement : returnStatement.Reduces := by
  intro nodes trees hn
  simp only [rhs] at hn
  obtain _ | ⟨hw, h1, _ | ⟨hval, h2, _ | ⟨hse, h3, _ | _⟩⟩⟩ := hn
  simp only [StandsFor, hw, hval, hse] at h1 h2 h3
  obtain ⟨t, rfl, -, rfl⟩ := h1
  obtain ⟨e, he, rfl⟩ := h2
  obtain ⟨_, rfl, -, rfl⟩ := h3
  refine ⟨_, rfl, ?_⟩
  simp only [StandsFor, symbol_node, label, lhs]
  exact ⟨_, by simp [stmt?, he], rfl⟩

theorem reduces_of_construct {r : Rule}
    (h : r.label ∈ [Symbol.program, .declaration, .assignment, .condition, .loop,
      .methodDeclaration, .returnStatement]) : r.Reduces := by
  cases r <;> simp [label, lhs] at h
  case program => exact reduces_program
  case declaration => exact reduces_declaration
  case assignment => exact reduces_assignment
  case condition => exact reduces_condition
  case loop => exact reduces_loop
  case methodDeclaration => exact reduces_methodDeclaration
  case returnStatement => exact reduces_returnStatement

theorem reduces (r : Rule) : r.Reduces := by
  generalize h : r.label = s
  cases s
  case expression => exact reduces_of_expression h
  case logicalOrExpr => exact reduces_of_level .or h
  case logicalAndExpr => exact reduces_of_level .and h
  case equalityExpr => exact reduces_of_level .equality h
  case relationalExpr => exact reduces_of_level .relational h
  case additiveExpr => exact reduces_of_level .additive h
  case multiplicativeExpr => exact reduces_of_level .multiplicative h
  case factor => exact reduces_of_factor h
  case methodCall | optionalArgs | argList | argTail => exact reduces_of_call (by simp [h])
  case type => exact reduces_of_type h
  case param | optionalParams | paramList | paramTail => exact reduces_of_params (by simp [h])
  case statement => exact reduces_of_statement h
  case statementList | optionalElse | empty => exact reduces_of_list (by simp [h])
  case program | declaration | assignment | condition | loop | methodDeclaration
      | returnStatement => exact reduces_of_construct (by simp [h])
  -- No rule derives a terminal or the whitespace symbol.
  all_goals exact absurd (h ▸ label_isNonterminal r) (by decide)

end Rule

end StartEnd
