import StartEnd.Program.Outline
import StartEnd.Proofs.Program.Constructs
import StartEnd.Proofs.Program.Lexical

/-!
This module contains programs in functional notation: they have no places, and an operation is a
call of the function that its operator stands for. The outline of a program shows no more than
this.
-/

namespace StartEnd

section Functional

/--
The name of the function that an operator stands for.
-/
def BinOp.functionName : BinOp → String
  | .or => "Or"
  | .and => "And"
  | .eq => "Eq"
  | .neq => "Neq"
  | .lt => "Lt"
  | .gt => "Gt"
  | .add => "Add"
  | .sub => "Sub"
  | .mul => "Mul"
  | .div => "Div"

def UnOp.functionName : UnOp → String
  | .not => "Not"
  | .pos => "Pos"
  | .neg => "Neg"

def Param.functional (p : Param) : Param := { p with location := .start }

mutual

def Expr.functional : Expr → Expr
  | .literal value _ => .literal value .start
  | .var name _ => .var name .start
  | .binary op left right _ => .call op.functionName [left.functional, right.functional] .start
  | .unary op operand _ => .call op.functionName [operand.functional] .start
  | .call name args _ => .call name (Expr.functionalList args) .start

def Expr.functionalList : List Expr → List Expr
  | [] => []
  | e :: es => e.functional :: Expr.functionalList es

end

mutual

def Stmt.functional : Stmt → Stmt
  | .varDecl name type _ => .varDecl name type .start
  | .assign target value _ => .assign target value.functional .start
  | .cond condition thenBranch elseBranch _ =>
    .cond condition.functional (Stmt.functionalBlock thenBranch) (Stmt.functionalElse elseBranch)
      .start
  | .loop condition body _ => .loop condition.functional (Stmt.functionalBlock body) .start
  | .funcDecl name params returnType body _ =>
    .funcDecl name (params.map Param.functional) returnType (Stmt.functionalBlock body) .start
  | .call c => .call ⟨c.name, Expr.functionalList c.args, .start⟩
  | .ret value _ => .ret value.functional .start

def Stmt.functionalBlock : List Stmt → List Stmt
  | [] => []
  | s :: ss => s.functional :: Stmt.functionalBlock ss

def Stmt.functionalElse : Option (List Stmt) → Option (List Stmt)
  | none => none
  | some body => some (Stmt.functionalBlock body)

end

def Program.functional (p : Program) : Program := ⟨Stmt.functionalBlock p.statements, .start⟩

end Functional

section Outline

theorem BinOp.functionName_eq (op : BinOp) : op.functionName = op.name := by
  cases op <;> rfl

theorem UnOp.functionName_eq (op : UnOp) : op.functionName = op.name := by
  cases op <;> rfl

mutual

theorem Expr.text_functional : (e : Expr) → e.functional.text = e.text
  | .literal _ _ | .var _ _ => by simp only [functional, text]
  | .binary op left right _ => by
    simp only [functional, text, texts, op.functionName_eq, left.text_functional,
      right.text_functional]
  | .unary op operand _ => by
    simp only [functional, text, texts, op.functionName_eq, operand.text_functional]
  | .call _ args _ => by simp only [functional, text, Expr.texts_functionalList args]

theorem Expr.texts_functionalList : (es : List Expr) → texts (functionalList es) = texts es
  | [] => by simp only [functionalList]
  | e :: es => by
    simp only [functionalList, texts, e.text_functional, Expr.texts_functionalList es]

end

mutual

theorem Stmt.outline_functional (depth : Nat) :
    (s : Stmt) → s.functional.outline depth = s.outline depth
  | .varDecl _ _ _ => by simp only [functional, outline]
  | .assign _ value _ => by simp only [functional, outline, value.text_functional]
  | .cond condition thenBranch elseBranch _ => by
    simp only [functional, outline, condition.text_functional,
      Stmt.outlineBlock_functional _ thenBranch, Stmt.outlineElse_functional _ elseBranch]
  | .loop condition body _ => by
    simp only [functional, outline, condition.text_functional, Stmt.outlineBlock_functional _ body]
  | .funcDecl _ params _ body _ => by
    simp only [functional, outline, List.map_map, Stmt.outlineBlock_functional _ body]
    rfl
  | .call c => by
    simp only [functional, outline, Call.text, Call.toExpr, Expr.text, Expr.texts_functionalList]
  | .ret value _ => by simp only [functional, outline, value.text_functional]

theorem Stmt.outlineBlock_functional (depth : Nat) :
    (list : List Stmt) → outlineBlock depth (functionalBlock list) = outlineBlock depth list
  | [] => by simp only [functionalBlock]
  | s :: ss => by
    simp only [functionalBlock, outlineBlock, s.outline_functional,
      Stmt.outlineBlock_functional _ ss]

theorem Stmt.outlineElse_functional (depth : Nat) :
    (branch : Option (List Stmt)) →
      outlineElse depth (functionalElse branch) = outlineElse depth branch
  | none => by simp only [functionalElse]
  | some body => by
    simp only [functionalElse, outlineElse, Stmt.outlineBlock_functional _ body]

end

theorem Stmt.length_functionalBlock :
    (list : List Stmt) → (functionalBlock list).length = list.length
  | [] => rfl
  | _ :: ss => by simp only [functionalBlock, List.length_cons, Stmt.length_functionalBlock ss]

theorem Program.outline_functional (p : Program) : p.functional.outline = p.outline := by
  simp only [functional, outline, Stmt.outlineBlock_functional, Stmt.length_functionalBlock]

end Outline

section Legible

/--
An expression that is shown as a single word.
-/
inductive Expr.IsWord : Expr → Prop where
  | integer (n : Nat) : IsWord (.literal (.integer n) .start)
  | bool (b : Bool) : IsWord (.literal (.bool b) .start)
  | var {name : String} (h : IsName name) : IsWord (.var name .start)

/--
An expression in functional notation that its text tells.
-/
inductive Expr.Legible : Expr → Prop where
  | word {e : Expr} (h : e.IsWord) : Legible e
  | string (content : String) : Legible (.literal (.string content) .start)
  | call {name : String} {args : List Expr} (h : IsName name) (hargs : ∀ e ∈ args, Legible e) :
    Legible (.call name args .start)

structure Param.Legible (p : Param) : Prop where
  name : IsName p.name
  location : p.location = .start

/--
A statement in functional notation that its outline tells.
-/
inductive Stmt.Legible : Stmt → Prop where
  | varDecl {name : String} (h : IsName name) (type : TypeName) :
    Legible (.varDecl name type .start)
  | assign {target : String} {value : Expr} (h : IsName target) (hvalue : value.Legible) :
    Legible (.assign target value .start)
  | cond {condition : Expr} {thenBranch : List Stmt} {elseBranch : Option (List Stmt)}
    (hcondition : condition.Legible) (hthen : ∀ s ∈ thenBranch, Legible s)
    (helse : ∀ body, elseBranch = some body → ∀ s ∈ body, Legible s) :
    Legible (.cond condition thenBranch elseBranch .start)
  | loop {condition : Expr} {body : List Stmt} (hcondition : condition.Legible)
    (hbody : ∀ s ∈ body, Legible s) : Legible (.loop condition body .start)
  | funcDecl {name : String} {params : List Param} {body : List Stmt} (h : IsName name)
    (hparams : ∀ p ∈ params, p.Legible) (type : TypeName) (hbody : ∀ s ∈ body, Legible s) :
    Legible (.funcDecl name params type body .start)
  | call {name : String} {args : List Expr} (h : (Expr.call name args .start).Legible) :
    Legible (.call ⟨name, args, .start⟩)
  | ret {value : Expr} (hvalue : value.Legible) : Legible (.ret value .start)

def Expr.isFloat : Expr → Bool
  | .literal (.float _) _ => true
  | _ => false

/--
A program without numbers that have a fraction.
-/
def Program.FloatFree (p : Program) : Prop := ∀ e ∈ p.exprs, e.isFloat = false

theorem BinOp.isName_functionName (op : BinOp) : IsName op.functionName := by
  cases op <;>
  · refine ⟨Lexeme.Class.mem_word.mpr ⟨_, _, rfl, ?_, List.all_eq_true.mp ?_⟩, ?_⟩ <;> decide

theorem UnOp.isName_functionName (op : UnOp) : IsName op.functionName := by
  cases op <;>
  · refine ⟨Lexeme.Class.mem_word.mpr ⟨_, _, rfl, ?_, List.all_eq_true.mp ?_⟩, ?_⟩ <;> decide

theorem Literal.legible {value : Literal} (h : value.Lexical) {l : Location}
    (hfloat : (Expr.literal value l).isFloat = false) :
    (Expr.literal value .start).Legible := by
  cases value with
  | integer n =>
    obtain ⟨n, rfl⟩ := Int.eq_ofNat_of_zero_le h
    exact .word (.integer n)
  | float => cases hfloat
  | string content => exact .string content
  | bool b => exact .word (.bool b)

mutual

theorem Expr.legible_functional :
    (e : Expr) → e.Lexical → (∀ e' ∈ e.all, e'.isFloat = false) → e.functional.Legible
  | .literal value l, h, hfloat => by
    rw [functional]
    exact Literal.legible h (hfloat (.literal value l) (by simp [all]))
  | .var name _, h, _ => by
    rw [functional]
    exact .word (.var h)
  | .binary op left right _, h, hfloat => by
    rw [Lexical] at h
    simp only [all, List.forall_mem_cons, List.forall_mem_append] at hfloat
    have hleft := left.legible_functional h.1 hfloat.2.1
    have hright := right.legible_functional h.2 hfloat.2.2
    rw [functional]
    exact .call op.isName_functionName (by simp [hleft, hright])
  | .unary op operand _, h, hfloat => by
    rw [Lexical] at h
    simp only [all, List.forall_mem_cons] at hfloat
    have hoperand := operand.legible_functional h hfloat.2
    rw [functional]
    exact .call op.isName_functionName (by simp [hoperand])
  | .call name args _, h, hfloat => by
    rw [Lexical] at h
    simp only [all, List.forall_mem_cons] at hfloat
    rw [functional]
    exact .call h.1 (Expr.legible_functionalList args h.2 hfloat.2)

theorem Expr.legible_functionalList :
    (es : List Expr) → AllLexical es → (∀ e ∈ allOf es, e.isFloat = false) →
      ∀ e ∈ functionalList es, e.Legible
  | [], _, _ => by simp [functionalList]
  | e :: es, h, hfloat => by
    rw [AllLexical] at h
    simp only [allOf, List.forall_mem_append] at hfloat
    rw [functionalList, List.forall_mem_cons]
    exact ⟨e.legible_functional h.1 hfloat.1, Expr.legible_functionalList es h.2 hfloat.2⟩

end

mutual

theorem Stmt.legible_functional :
    (s : Stmt) → s.Lexical → (∀ s' ∈ s :: s.inner, ∀ e ∈ s'.exprs, e.isFloat = false) →
      s.functional.Legible
  | .varDecl name type _, h, _ => by
    rw [functional]
    exact .varDecl h type
  | .assign target value _, h, hfloat => by
    rw [Lexical] at h
    simp only [List.forall_mem_cons, exprs] at hfloat
    rw [functional]
    exact .assign h.1 (value.legible_functional h.2 hfloat.1)
  | .cond condition thenBranch elseBranch _, h, hfloat => by
    rw [Lexical] at h
    simp only [List.forall_mem_cons, exprs, inner, List.forall_mem_append] at hfloat
    rw [functional]
    exact .cond (condition.legible_functional h.1 hfloat.1)
      (Stmt.legible_functionalBlock thenBranch h.2.1 hfloat.2.1)
      (Stmt.legible_functionalElse elseBranch h.2.2 hfloat.2.2)
  | .loop condition body _, h, hfloat => by
    rw [Lexical] at h
    simp only [List.forall_mem_cons, exprs, inner] at hfloat
    rw [functional]
    exact .loop (condition.legible_functional h.1 hfloat.1)
      (Stmt.legible_functionalBlock body h.2 hfloat.2)
  | .funcDecl name params type body _, h, hfloat => by
    rw [Lexical] at h
    simp only [List.forall_mem_cons, inner] at hfloat
    rw [functional]
    refine .funcDecl h.1 ?_ type (Stmt.legible_functionalBlock body h.2.2 hfloat.2)
    intro p hp
    obtain ⟨q, hq, rfl⟩ := List.mem_map.mp hp
    exact ⟨h.2.1 q hq, rfl⟩
  | .call c, h, hfloat => by
    rw [Lexical] at h
    simp only [List.forall_mem_cons, exprs] at hfloat
    rw [functional]
    exact .call (.call h.1 (Expr.legible_functionalList c.args h.2 hfloat.1))
  | .ret value _, h, hfloat => by
    rw [Lexical] at h
    simp only [List.forall_mem_cons, exprs] at hfloat
    rw [functional]
    exact .ret (value.legible_functional h hfloat.1)

theorem Stmt.legible_functionalBlock :
    (list : List Stmt) → AllLexical list → (∀ s ∈ allOf list, ∀ e ∈ s.exprs, e.isFloat = false) →
      ∀ s ∈ functionalBlock list, s.Legible
  | [], _, _ => by simp [functionalBlock]
  | s :: ss, h, hfloat => by
    rw [AllLexical] at h
    rw [allOf, ← List.cons_append, List.forall_mem_append] at hfloat
    rw [functionalBlock, List.forall_mem_cons]
    exact ⟨s.legible_functional h.1 hfloat.1, Stmt.legible_functionalBlock ss h.2 hfloat.2⟩

theorem Stmt.legible_functionalElse :
    (branch : Option (List Stmt)) → ElseLexical branch →
      (∀ s ∈ allOfElse branch, ∀ e ∈ s.exprs, e.isFloat = false) →
      ∀ body, functionalElse branch = some body → ∀ s ∈ body, s.Legible
  | none, _, _ => by simp [functionalElse]
  | some body, h, hfloat => by
    rintro _ ⟨⟩
    exact Stmt.legible_functionalBlock body h hfloat

end

end Legible

end StartEnd
