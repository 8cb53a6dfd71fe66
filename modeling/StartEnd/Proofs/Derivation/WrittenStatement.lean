import StartEnd.Proofs.Derivation.WrittenExpression

/-!
This module contains the derivations of written statements and programs.
-/

namespace StartEnd

namespace Form

abbrev type (t : TypeName) : Form := .reading .type Tree.type? id t

abbrev param (p : Param) : Form := .reading .param Tree.param? Param.unlocated p

abbrev params (s : Symbol) (ps : List Param) : Form :=
  .reading s Tree.params? (List.map Param.unlocated) ps

abbrev stmt (s : Symbol) (statement : Stmt) : Form :=
  .reading s Tree.stmt? Stmt.unlocated statement

abbrev stmts (list : List Stmt) : Form :=
  .reading .statementList Tree.stmts? Stmt.unlocatedBlock list

abbrev elseBranch (branch : Option (List Stmt)) : Form :=
  .reading .optionalElse Tree.else? Stmt.unlocatedElse branch

abbrev program (p : Program) : Form := .reading .program Tree.program? Program.unlocated p

theorem written_type (t : TypeName) : (type t).Written [.symbol t.symbol] := by
  obtain ⟨r, hrhs, hlabel⟩ : ∃ r : Rule, r.rhs = [t.symbol] ∧ r.label = .type := by
    cases t
    · exact ⟨.typeInt, rfl, rfl⟩
    · exact ⟨.typeFloat, rfl, rfl⟩
    · exact ⟨.typeString, rfl, rfl⟩
    · exact ⟨.typeBool, rfl, rfl⟩
  have hplain : t.symbol.isPlain := by cases t <;> rfl
  refine written_node (allWritten_single (written_word hplain)) hrhs.symm hlabel ?_
  rintro _ (_ | ⟨⟨u, rfl, hu⟩, _ | _⟩)
  refine ⟨t, ?_, rfl⟩
  rw [Tree.type?, hu]
  cases t <;> rfl

theorem written_param (p : Param) : (param p).Written p.words := by
  refine written_node (r := .param) (allWritten_cons (written_name p.name)
    (allWritten_word rfl (allWritten_single (written_type p.type))))
    rfl rfl ?_
  rintro _ (_ | ⟨⟨t, rfl, hn⟩, _ | ⟨-, _ | ⟨⟨found, hread, hfound⟩, _ | _⟩⟩⟩)
  obtain rfl : found = p.type := hfound
  exact ⟨⟨p.name, p.type, t.location⟩, by simp [Tree.param?, hn, hread], rfl⟩

theorem written_paramTail (ps : List Param) :
    (params .paramTail ps).Written (ps.flatMap fun p => .symbol .comma :: p.words) := by
  induction ps with
  | nil =>
    exact written_empty (r := .paramTailEmpty) rfl rfl fun _ => ⟨[], by simp [Tree.params?], rfl⟩
  | cons p ps ih =>
    refine written_node (r := .paramTailComma) (allWritten_word rfl
      (allWritten_append (written_param p) (allWritten_single ih))) rfl rfl ?_
    rintro _ (_ | ⟨-, _ | ⟨⟨found, hread, hfound⟩, _ | ⟨⟨more, hreads, hmore⟩, _ | _⟩⟩⟩)
    refine ⟨found :: more, by simp [Tree.params?, hread, hreads], ?_⟩
    rw [List.map_cons, List.map_cons, hfound, hmore]

theorem written_params (ps : List Param) :
    (params .optionalParams ps).Written (Param.listWords ps) := by
  cases ps with
  | nil =>
    exact written_empty (r := .optionalParamsEmpty) rfl rfl fun _ => ⟨[], by simp [Tree.params?], rfl⟩
  | cons p ps =>
    have hlist : (params .paramList (p :: ps)).Written (Param.listWords (p :: ps)) := by
      refine written_node (r := .paramList) (allWritten_append (written_param p)
        (allWritten_single (written_paramTail ps))) rfl rfl ?_
      rintro _ (_ | ⟨⟨found, hread, hfound⟩, _ | ⟨⟨more, hreads, hmore⟩, _ | _⟩⟩)
      refine ⟨found :: more, by simp [Tree.params?, hread, hreads], ?_⟩
      rw [List.map_cons, List.map_cons, hfound, hmore]
    exact written_single (r := .optionalParamsList) hlist rfl fun _ _ hread => by
      simpa [Tree.params?]

/--
A construct is a statement by itself.
-/
theorem written_construct {construct whole : Rule} {statement : Stmt} {forms : List Form}
    {words : List Word} (h : AllWritten forms words) (hsymbols : forms.map symbol = construct.rhs)
    (hwhole : whole.rhs = [construct.label] ∧ whole.label = .statement ∧ whole ≠ .statementMethodCall)
    (hholds : ∀ trees, List.Forall₂ holds forms trees →
      ∃ found, (Tree.node construct trees).stmt? = some found
        ∧ found.unlocated = statement.unlocated) :
    (stmt .statement statement).Written words := by
  have hconstruct : (stmt construct.label statement).Written words :=
    written_node h hsymbols rfl hholds
  obtain ⟨hrhs, hlabel, hcall⟩ := hwhole
  rw [← hlabel]
  exact written_single hconstruct hrhs fun T found hread => by simpa [Tree.stmt?, hcall] using hread

theorem written_varDecl (n : String) (t : TypeName) (l : Location) :
    (stmt .statement (.varDecl n t l)).Written (Stmt.varDecl n t l).words := by
  refine @written_construct .declaration .statementDeclaration _ _ _
    (allWritten_word rfl (allWritten_cons (written_name n)
    (allWritten_word rfl (allWritten_cons (written_type t)
    (allWritten_word rfl allWritten_nil))))) rfl (by decide) ?_
  rintro _ (_ | ⟨⟨word, rfl, -⟩, _ | ⟨⟨name, rfl, hn⟩, _ | ⟨-, _ | ⟨⟨found, hread, hfound⟩,
    _ | ⟨-, _ | _⟩⟩⟩⟩⟩)
  obtain rfl : found = t := hfound
  exact ⟨.varDecl n found word.location, by simp [Tree.stmt?, hn, hread], rfl⟩

theorem written_assign (n : String) (value : Expr) (l : Location) :
    (stmt .statement (.assign n value l)).Written (Stmt.assign n value l).words := by
  refine @written_construct .assignment .statementAssignment _ _ _
    (allWritten_cons (written_name n) (allWritten_word rfl
    (allWritten_append value.isWritten.expression
    (allWritten_word rfl allWritten_nil)))) rfl (by decide) ?_
  rintro _ (_ | ⟨⟨target, rfl, hn⟩, _ | ⟨-, _ | ⟨⟨found, hread, hfound⟩, _ | ⟨-, _ | _⟩⟩⟩⟩)
  refine ⟨.assign n found target.location, by simp [Tree.stmt?, hn, hread], ?_⟩
  simp [Stmt.unlocated, hfound]

theorem written_ret (value : Expr) (l : Location) :
    (stmt .statement (.ret value l)).Written (Stmt.ret value l).words := by
  refine @written_construct .returnStatement .statementReturn _ _ _
    (allWritten_word rfl
    (allWritten_append value.isWritten.expression
    (allWritten_word rfl allWritten_nil))) rfl (by decide) ?_
  rintro _ (_ | ⟨⟨word, rfl, -⟩, _ | ⟨⟨found, hread, hfound⟩, _ | ⟨-, _ | _⟩⟩⟩)
  refine ⟨.ret found word.location, by simp [Tree.stmt?, hread], ?_⟩
  simp [Stmt.unlocated, hfound]

theorem written_callStatement (c : Call) :
    (stmt .statement (.call c)).Written (Stmt.call c).words := by
  refine written_node (r := .statementMethodCall)
    (allWritten_single (written_call c.name c.location (Expr.argsWritten c.args))) rfl rfl ?_
  rintro _ (_ | ⟨⟨found, hread, hfound⟩, _ | _⟩)
  refine ⟨.call found, by simp [Tree.stmt?, hread], ?_⟩
  simp [Stmt.unlocated, hfound]

section Block

variable {body : List Stmt} (hbody : (stmts body).Written (Stmt.blockWords body))

include hbody

theorem written_cond (condition : Expr) {branch : Option (List Stmt)} (l : Location)
    (hbranch : (elseBranch branch).Written (Stmt.elseWords branch)) :
    (stmt .statement (.cond condition body branch l)).Written
      (Stmt.cond condition body branch l).words := by
  refine @written_construct .condition .statementCondition _ _ _
    (allWritten_word rfl
    (allWritten_append condition.isWritten.expression
    (allWritten_word rfl (allWritten_append hbody
    (allWritten_append hbranch (allWritten_word rfl allWritten_nil))))))
    rfl (by decide) ?_
  rintro _ (_ | ⟨⟨word, rfl, -⟩, _ | ⟨⟨test, htest, hcondition⟩, _ | ⟨-,
    _ | ⟨⟨found, hread, hfound⟩, _ | ⟨⟨other, hother, hbranch⟩, _ | ⟨-, _ | _⟩⟩⟩⟩⟩⟩)
  refine ⟨.cond test found other word.location, by simp [Tree.stmt?, htest, hread, hother], ?_⟩
  simp [Stmt.unlocated, hcondition, hfound, hbranch]

theorem written_loop (condition : Expr) (l : Location) :
    (stmt .statement (.loop condition body l)).Written (Stmt.loop condition body l).words := by
  refine @written_construct .loop .statementLoop _ _ _
    (allWritten_word rfl
    (allWritten_append condition.isWritten.expression
    (allWritten_word rfl (allWritten_append hbody
    (allWritten_word rfl allWritten_nil))))) rfl (by decide) ?_
  rintro _ (_ | ⟨⟨word, rfl, -⟩, _ | ⟨⟨test, htest, hcondition⟩, _ | ⟨-,
    _ | ⟨⟨found, hread, hfound⟩, _ | ⟨-, _ | _⟩⟩⟩⟩⟩)
  refine ⟨.loop test found word.location, by simp [Tree.stmt?, htest, hread], ?_⟩
  simp [Stmt.unlocated, hcondition, hfound]

theorem written_funcDecl (n : String) (ps : List Param) (t : TypeName) (l : Location) :
    (stmt .statement (.funcDecl n ps t body l)).Written (Stmt.funcDecl n ps t body l).words := by
  refine @written_construct .methodDeclaration .statementMethodDeclaration _ _ _
    (allWritten_word rfl (allWritten_cons (written_name n)
    (allWritten_word rfl (allWritten_append (written_params ps)
    (allWritten_word rfl
    (allWritten_word rfl (allWritten_cons (written_type t)
    (allWritten_word rfl (allWritten_append hbody
    (allWritten_word rfl allWritten_nil)))))))))) rfl (by decide) ?_
  rintro _ (_ | ⟨⟨word, rfl, -⟩, _ | ⟨⟨name, rfl, hn⟩, _ | ⟨-, _ | ⟨⟨found, hread, hfound⟩,
    _ | ⟨-, _ | ⟨-, _ | ⟨⟨u, htype, hu⟩, _ | ⟨-, _ | ⟨⟨block, hblock, hforget⟩,
    _ | ⟨-, _ | _⟩⟩⟩⟩⟩⟩⟩⟩⟩⟩)
  obtain rfl : u = t := hu
  refine ⟨.funcDecl n found u block word.location,
    by simp [Tree.stmt?, hn, hread, htype, hblock], ?_⟩
  simp [Stmt.unlocated, hfound, hforget]

theorem written_else : (elseBranch (some body)).Written (Stmt.elseWords (some body)) := by
  refine written_node (r := .optionalElseElse) (allWritten_word rfl
    (allWritten_single hbody)) rfl rfl ?_
  rintro _ (_ | ⟨-, _ | ⟨⟨found, hread, hfound⟩, _ | _⟩⟩)
  refine ⟨some found, by simp [Tree.else?, hread], ?_⟩
  simp [Stmt.unlocatedElse, hfound]

theorem written_stmts {s : Stmt} (h : (stmt .statement s).Written s.words) :
    (stmts (s :: body)).Written (Stmt.blockWords (s :: body)) := by
  refine written_node (r := .statementList) (allWritten_append h (allWritten_single hbody)) rfl rfl ?_
  rintro _ (_ | ⟨⟨found, hread, hfound⟩, _ | ⟨⟨more, hreads, hmore⟩, _ | _⟩⟩)
  refine ⟨found :: more, by simp [Tree.stmts?, hread, hreads], ?_⟩
  simp [Stmt.unlocatedBlock, hfound, hmore]

end Block

theorem written_noElse : (elseBranch none).Written [] :=
  written_empty (r := .optionalElseEmpty) rfl rfl fun _ => ⟨none, by simp [Tree.else?], rfl⟩

theorem written_noStmts : (stmts []).Written [] :=
  written_empty (r := .statementEmpty) rfl rfl fun _ => ⟨[], by simp [Tree.stmts?], rfl⟩

end Form

open Form

mutual

theorem Stmt.isWritten : (s : Stmt) → (stmt .statement s).Written s.words
  | .varDecl n t l => written_varDecl n t l
  | .assign n value l => written_assign n value l
  | .cond condition thenBranch branch l =>
    written_cond (Stmt.blockWritten thenBranch) condition l (Stmt.elseWritten branch)
  | .loop condition body l => written_loop (Stmt.blockWritten body) condition l
  | .funcDecl n ps t body l => written_funcDecl (Stmt.blockWritten body) n ps t l
  | .call c => written_callStatement c
  | .ret value l => written_ret value l

theorem Stmt.blockWritten : (list : List Stmt) → (stmts list).Written (Stmt.blockWords list)
  | [] => written_noStmts
  | s :: ss => written_stmts (Stmt.blockWritten ss) s.isWritten

theorem Stmt.elseWritten :
    (branch : Option (List Stmt)) → (elseBranch branch).Written (Stmt.elseWords branch)
  | none => written_noElse
  | some body => written_else (Stmt.blockWritten body)

end

theorem Program.isWritten (p : Program) : (program p).Written p.words := by
  refine written_node (r := .program) (allWritten_word rfl
    (allWritten_append (Stmt.blockWritten p.statements)
    (allWritten_word rfl allWritten_nil))) rfl rfl ?_
  rintro _ (_ | ⟨⟨word, rfl, -⟩, _ | ⟨⟨found, hread, hfound⟩, _ | ⟨-, _ | _⟩⟩⟩)
  refine ⟨⟨found, word.location⟩, by simp [Tree.program?, hread], ?_⟩
  simp [Program.unlocated, hfound]

end StartEnd
