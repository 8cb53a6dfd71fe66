import StartEnd.Proofs.Derivation.Written

/-!
This module contains the derivations of written expressions. An expression that is not put into
parentheses is derived from the symbol of its own level, and from there from that of every looser
level.
-/

namespace StartEnd

theorem Tree.expr?_literal {r : Rule} (hname : r ≠ .factorIdentifier) (hcall : r ≠ .factorMethodCall)
    (t : Token) :
    (node r [.leaf t]).expr? = t.literal?.map fun value => .literal value t.location := by
  rw [expr?]
  · cases t.literal? <;> rfl
  · exact hname
  · exact hcall

theorem Token.exists_rule_of_literal? {t : Token} {value : Literal} (h : t.literal? = some value) :
    t.fault? = none ∧ ∃ r : Rule, r.rhs = [t.symbol] ∧ r.label = .factor
      ∧ r ≠ .factorIdentifier ∧ r ≠ .factorMethodCall := by
  rw [fault?_eq_none]
  obtain ⟨s, payload, lexeme, location⟩ := t
  unfold literal? at h
  split at h <;> simp only at * <;> subst_vars
  · exact ⟨⟨by simp, rfl⟩, .factorNumber, rfl, rfl, by simp⟩
  · exact ⟨⟨by simp, rfl⟩, .factorNumber, rfl, rfl, by simp⟩
  · exact ⟨⟨by simp, rfl⟩, .factorStringLiteral, rfl, rfl, by simp⟩
  · exact ⟨⟨by simp, rfl⟩, .factorTrue, rfl, rfl, by simp⟩
  · exact ⟨⟨by simp, rfl⟩, .factorFalse, rfl, rfl, by simp⟩
  · contradiction

namespace Form

theorem written_literal (value : Literal) (l : Location) :
    (expr .factor (.literal value l)).Written [.literal value] := by
  rintro _ (_ | ⟨ht, _ | _⟩)
  rename_i t
  have ht : t.literal? = some value := ht
  obtain ⟨hfault, r, hrhs, hlabel, hname, hcall⟩ := Token.exists_rule_of_literal? ht
  have hterminal := Token.isTerminal_of_wellFormed (Token.fault?_eq_none.mp hfault).2
  refine ⟨.node r [.leaf t], ⟨.node hrhs.symm (by simpa using .leaf hterminal), hlabel, by simp⟩,
    by simpa using hfault, .literal value t.location, ?_, rfl⟩
  rw [Tree.expr?_literal hname hcall, ht]
  rfl

variable {e : Expr} {words : List Word}

theorem written_level (level : Level) (h : (expr level.operand e).Written words) :
    (expr level.symbol e).Written words := by
  rw [← level.single_label]
  refine written_single h level.single_rhs fun T found hread => ?_
  exact Tree.expr?_node_single hread (by cases level <;> simp [Level.single])

theorem written_operand_of_factor (level : Level) (h : (expr .factor e).Written words) :
    (expr level.operand e).Written words := by
  induction level using Level.induct with
  | level level ih =>
    cases hnext : level.next? with
    | none => simpa [Level.operand, hnext] using h
    | some next => simpa [Level.operand, hnext] using written_level next (ih next hnext)

theorem written_operand_of_tighter {level tight : Level} (ht : tight ∈ level.tighter)
    (h : (expr tight.symbol e).Written words) : (expr level.operand e).Written words := by
  induction level using Level.induct with
  | level level ih =>
    cases hnext : level.next? with
    | none => simp [Level.tighter_of_none hnext] at ht
    | some next =>
      rw [Level.tighter_of_next hnext, List.mem_append, List.mem_singleton] at ht
      simp only [Level.operand, hnext, Option.map_some, Option.getD_some]
      obtain ht | rfl := ht
      · exact written_level next (ih next hnext ht)
      · exact h

theorem written_expression (h : (expr Level.or.symbol e).Written words) :
    (expr .expression e).Written words :=
  written_single (r := .expression) h rfl fun _ _ hread => Tree.expr?_node_single hread (by simp)

theorem written_inParens (h : (expr .expression e).Written words) :
    (expr .factor e).Written (Word.inParens words) := by
  refine written_node (r := .factorParens) (allWritten_word rfl
    (allWritten_append h (allWritten_word rfl allWritten_nil))) rfl rfl ?_
  rintro _ (_ | ⟨-, _ | ⟨⟨found, hread, hfound⟩, _ | ⟨-, _ | _⟩⟩⟩)
  exact ⟨found, by simpa [Tree.expr?] using hread, hfound⟩

end Form

namespace Expr

/--
The symbol of an expression outside parentheses: that of the level of its operator, or that of a
factor.
-/
def ownSymbol (e : Expr) : Symbol := (e.level?.map Level.symbol).getD .factor

/--
Whether words are an expression outside parentheses.
-/
def IsWritten (e : Expr) (words : List Word) : Prop := (Form.expr e.ownSymbol e).Written words

namespace IsWritten

open Form

variable {e : Expr} {words : List Word} (h : e.IsWritten words)

include h

theorem operand {level : Level} (htight : ∀ own ∈ e.level?, own ∈ level.tighter) :
    (expr level.operand e).Written words := by
  unfold IsWritten ownSymbol at h
  cases hown : e.level? with
  | none =>
    rw [hown] at h
    exact written_operand_of_factor level h
  | some own =>
    rw [hown] at h
    exact written_operand_of_tighter (htight own hown) h

theorem level {level : Level} (htight : ∀ own ∈ e.level?, own = level ∨ own ∈ level.tighter) :
    (expr level.symbol e).Written words := by
  by_cases hlevel : e.level? = some level
  · simpa [IsWritten, ownSymbol, hlevel] using h
  -- Everything else is an operand of the level, from which the level is made.
  · apply written_level
    apply h.operand
    intro own hown
    obtain rfl | hown' := htight own hown
    · exact absurd hown hlevel
    · exact hown'

theorem expression : (expr .expression e).Written words := by
  apply written_expression
  apply h.level
  intro own _
  cases own <;> simp [Level.tighter]

theorem factor (hown : e.level? = none) : (expr .factor e).Written words := by
  simpa [IsWritten, ownSymbol, hown] using h

theorem signedOperand : (expr .factor e).Written
    (if e.level?.isSome then Word.inParens words else words) := by
  split
  · exact written_inParens h.expression
  · next hown => exact h.factor (by simpa using hown)

theorem leftOperand (parent : Level) : (expr parent.symbol e).Written
    (if e.looser parent then Word.inParens words else words) := by
  split
  · exact written_level parent (written_operand_of_factor parent (written_inParens h.expression))
  · next hloose =>
    apply h.level
    intro own hown
    have hown' : e.level? = some own := hown
    have hloose : parent ∉ own.tighter := by simpa [looser, hown', Level.looser] using hloose
    exact (own.tighter_total parent).resolve_left hloose

theorem rightOperand (parent : Level) : (expr parent.operand e).Written
    (if e.looserOrEqual parent then Word.inParens words else words) := by
  split
  · exact written_operand_of_factor parent (written_inParens h.expression)
  · next hloose =>
    apply h.operand
    intro own hown
    have hown' : e.level? = some own := hown
    have hloose : parent ∉ own.tighter ∧ own ≠ parent := by
      simpa [looserOrEqual, hown', Level.looser] using hloose
    exact ((own.tighter_total parent).resolve_left hloose.1).resolve_left hloose.2

end IsWritten

end Expr

theorem BinOp.exists_rule (op : BinOp) : ∃ r, (op.symbol, r) ∈ op.level.operators := by
  cases op <;> simp [symbol, level, Level.operators]

theorem BinOp.binOp?_symbol (op : BinOp) : op.symbol.binOp? = some op := by
  cases op <;> rfl

theorem BinOp.isPlain_symbol (op : BinOp) : op.symbol.isPlain := by
  cases op <;> rfl

theorem UnOp.exists_rule (op : UnOp) : ∃ r : Rule, r.rhs = [op.symbol, .factor] ∧ r.label = .factor := by
  cases op
  · exact ⟨.factorNot, rfl, rfl⟩
  · exact ⟨.factorPlus, rfl, rfl⟩
  · exact ⟨.factorMinus, rfl, rfl⟩

theorem UnOp.unOp?_symbol (op : UnOp) : op.symbol.unOp? = some op := by
  cases op <;> rfl

theorem UnOp.isPlain_symbol (op : UnOp) : op.symbol.isPlain := by
  cases op <;> rfl

namespace Form

abbrev args (s : Symbol) (es : List Expr) : Form := .reading s Tree.args? Expr.unlocatedList es

abbrev call (c : Call) : Form := .reading .methodCall Tree.call? Call.unlocated c

theorem written_var (n : String) (l : Location) : (expr .factor (.var n l)).Written [.name n] := by
  refine written_node (r := .factorIdentifier) (allWritten_single (written_name n)) rfl rfl ?_
  rintro _ (_ | ⟨⟨t, rfl, hn⟩, _ | _⟩)
  exact ⟨.var n t.location, by simp [Tree.expr?, hn], rfl⟩

theorem written_binary (op : BinOp) {left right : Expr} (l : Location)
    {leftWords rightWords : List Word} (hleft : (expr op.level.symbol left).Written leftWords)
    (hright : (expr op.level.operand right).Written rightWords) :
    (expr op.level.symbol (.binary op left right l)).Written
      (leftWords ++ .symbol op.symbol :: rightWords) := by
  obtain ⟨r, hr⟩ := op.exists_rule
  obtain ⟨hlabel, hrhs, -, -⟩ := Level.operators_spec hr
  refine written_node (allWritten_append hleft (allWritten_word op.isPlain_symbol
    (allWritten_single hright))) hrhs.symm hlabel ?_
  rintro _ (_ | ⟨⟨foundLeft, hreadLeft, hfoundLeft⟩, _ | ⟨⟨t, rfl, ht⟩,
    _ | ⟨⟨foundRight, hreadRight, hfoundRight⟩, _ | _⟩⟩⟩)
  -- Apart from parentheses, only operators between two operands have three children.
  have hne : r ≠ .factorParens := by
    rintro rfl
    revert hlabel
    cases op <;> decide
  refine ⟨.binary op foundLeft foundRight t.location, ?_, ?_⟩
  · simp [Tree.expr?, hreadLeft, hreadRight, ht, op.binOp?_symbol]
  · simp [Expr.unlocated, hfoundLeft, hfoundRight]

theorem written_unary (op : UnOp) {operand : Expr} (l : Location) {words : List Word}
    (h : (expr .factor operand).Written words) :
    (expr .factor (.unary op operand l)).Written (.symbol op.symbol :: words) := by
  obtain ⟨r, hrhs, hlabel⟩ := op.exists_rule
  refine written_node (allWritten_word op.isPlain_symbol (allWritten_single h))
    hrhs.symm hlabel ?_
  rintro _ (_ | ⟨⟨t, rfl, ht⟩, _ | ⟨⟨found, hread, hfound⟩, _ | _⟩⟩)
  refine ⟨.unary op found t.location, ?_, ?_⟩
  · simp [Tree.expr?, hread, ht, op.unOp?_symbol]
  · simp [Expr.unlocated, hfound]

theorem written_call (n : String) {es : List Expr} (l : Location) {words : List Word}
    (h : (args .optionalArgs es).Written words) :
    (call ⟨n, es, l⟩).Written
      (.name n :: .symbol .lParen :: (words ++ [.symbol .rParen, .symbol .semi])) := by
  refine written_node (r := .methodCall) (allWritten_cons (written_name n)
    (allWritten_word rfl (allWritten_append h
    (allWritten_word rfl (allWritten_word rfl allWritten_nil))))) rfl rfl ?_
  rintro _ (_ | ⟨⟨t, rfl, hn⟩, _ | ⟨-, _ | ⟨⟨found, hread, hfound⟩, _ | ⟨-, _ | ⟨-, _ | _⟩⟩⟩⟩⟩)
  refine ⟨⟨n, found, t.location⟩, ?_, ?_⟩
  · simp [Tree.call?, hn, hread]
  · simp [Call.unlocated, hfound]

theorem written_factorCall {c : Call} {words : List Word} (h : (call c).Written words) :
    (expr .factor c.toExpr).Written words := by
  refine written_node (r := .factorMethodCall) (allWritten_single h) rfl rfl ?_
  rintro _ (_ | ⟨⟨found, hread, hfound⟩, _ | _⟩)
  refine ⟨found.toExpr, ?_, ?_⟩
  · simp [Tree.expr?, hread]
  · exact congrArg Call.toExpr hfound

theorem written_noArgs : (args .optionalArgs []).Written [] :=
  written_empty (r := .optionalArgsEmpty) rfl rfl fun _ => ⟨[], by simp [Tree.args?], rfl⟩

theorem written_noMoreArgs : (args .argTail []).Written [] :=
  written_empty (r := .argTailEmpty) rfl rfl fun _ => ⟨[], by simp [Tree.args?], rfl⟩

section Args

variable {e : Expr} {es : List Expr} {words moreWords : List Word}
  (h : (expr .expression e).Written words) (hs : (args .argTail es).Written moreWords)

include h hs

theorem written_args : (args .optionalArgs (e :: es)).Written (words ++ moreWords) := by
  have hlist : (args .argList (e :: es)).Written (words ++ moreWords) := by
    refine written_node (r := .argList) (allWritten_append h (allWritten_single hs)) rfl rfl ?_
    rintro _ (_ | ⟨⟨found, hread, hfound⟩, _ | ⟨⟨more, hreads, hmore⟩, _ | _⟩⟩)
    refine ⟨found :: more, by simp [Tree.args?, hread, hreads], ?_⟩
    simp [Expr.unlocatedList, hfound, hmore]
  exact written_single (r := .optionalArgsList) hlist rfl fun _ _ hread => by simpa [Tree.args?]

theorem written_moreArgs :
    (args .argTail (e :: es)).Written (.symbol .comma :: (words ++ moreWords)) := by
  refine written_node (r := .argTailComma) (allWritten_word rfl
    (allWritten_append h (allWritten_single hs))) rfl rfl ?_
  rintro _ (_ | ⟨-, _ | ⟨⟨found, hread, hfound⟩, _ | ⟨⟨more, hreads, hmore⟩, _ | _⟩⟩⟩)
  refine ⟨found :: more, by simp [Tree.args?, hread, hreads], ?_⟩
  simp [Expr.unlocatedList, hfound, hmore]

end Args

end Form

open Form

-- The parentheses are decided where an expression is an operand, so that the induction is about the
-- words of each expression outside its parentheses.
mutual

theorem Expr.isWritten : (e : Expr) → e.IsWritten e.words
  | .literal value l => written_literal value l
  | .var n l => written_var n l
  | .binary op left right l =>
    written_binary op l (left.isWritten.leftOperand op.level) (right.isWritten.rightOperand op.level)
  | .unary op operand l => written_unary op l operand.isWritten.signedOperand
  | .call n es l => written_factorCall (written_call n l (Expr.argsWritten es))

theorem Expr.argsWritten : (es : List Expr) → (args .optionalArgs es).Written (Expr.argsWords es)
  | [] => written_noArgs
  | e :: es => written_args e.isWritten.expression (Expr.moreArgsWritten es)

theorem Expr.moreArgsWritten : (es : List Expr) → (args .argTail es).Written (Expr.moreArgsWords es)
  | [] => written_noMoreArgs
  | e :: es => written_moreArgs e.isWritten.expression (Expr.moreArgsWritten es)

end

end StartEnd
