import Mathlib.Data.List.MinMax
import StartEnd.Proofs.Program.Constructs

/-!
This module contains the height of a program as a tree. An operation may have an operation as its
left operand, which may have another one, and so on. The height is bounded by the length of such
chains and by the number of nodes on a path that does not count the steps along them.
-/

namespace StartEnd

namespace Expr

mutual

/--
The number of nodes on the longest path from an expression to one inside it, where a step from an
operation to its left operand counts as much as is given.
-/
def longestPath (leftStep : Nat) : Expr → Nat
  | .literal _ _ => 1
  | .var _ _ => 1
  | .binary _ left right _ =>
    max (leftStep + left.longestPath leftStep) (1 + right.longestPath leftStep)
  | .unary _ operand _ => 1 + operand.longestPath leftStep
  | .call _ args _ => 1 + longestPathOf leftStep args

def longestPathOf (leftStep : Nat) : List Expr → Nat
  | [] => 0
  | e :: es => max (e.longestPath leftStep) (longestPathOf leftStep es)

end

/--
The number of operations from an expression on, each of which is the left operand of the one before.
-/
def chain : Expr → Nat
  | .binary _ left _ _ => 1 + left.chain
  | _ => 0

end Expr

namespace Stmt

mutual

/--
The number of nodes on the longest path from a statement to a statement or an expression inside it.
-/
def longestPath (leftStep : Nat) : Stmt → Nat
  | .varDecl _ _ _ => 1
  | .assign _ value _ => 1 + value.longestPath leftStep
  | .cond condition thenBranch elseBranch _ =>
    1 + max (condition.longestPath leftStep)
      (max (longestPathOf leftStep thenBranch) (longestPathOfElse leftStep elseBranch))
  | .loop condition body _ =>
    1 + max (condition.longestPath leftStep) (longestPathOf leftStep body)
  | .funcDecl _ _ _ body _ => 1 + longestPathOf leftStep body
  | .call c => 1 + Expr.longestPathOf leftStep c.args
  | .ret value _ => 1 + value.longestPath leftStep

def longestPathOf (leftStep : Nat) : List Stmt → Nat
  | [] => 0
  | s :: ss => max (s.longestPath leftStep) (longestPathOf leftStep ss)

def longestPathOfElse (leftStep : Nat) : Option (List Stmt) → Nat
  | none => 0
  | some body => longestPathOf leftStep body

end

end Stmt

namespace Program

/--
The number of statements and expressions on the longest path through a program.
-/
def height (p : Program) : Nat := Stmt.longestPathOf 1 p.statements

/--
The height of a program without the steps from an operation to its left operand.
-/
def turns (p : Program) : Nat := Stmt.longestPathOf 0 p.statements

/--
The length of the longest chain of operations in a program each of which is the left operand of the
one before.
-/
def chain (p : Program) : Nat := (p.exprs.map Expr.chain).foldr max 0

end Program

variable {n : Nat}

namespace Expr

theorem mem_all (e : Expr) : e ∈ e.all := by
  cases e <;> simp [all]

mutual

/--
Each step of a path that is not along a chain ends in an expression with a chain of its own.
-/
theorem longestPath_le :
    (e : Expr) → (∀ e' ∈ e.all, e'.chain ≤ n) →
      e.longestPath 1 + n ≤ e.chain + e.longestPath 0 * (n + 1)
  | .literal _ _, _ => by
    simp only [longestPath, chain]
    omega
  | .var _ _, _ => by
    simp only [longestPath, chain]
    omega
  | .binary _ left right _, h => by
    simp only [all, List.forall_mem_cons, List.forall_mem_append] at h
    have hleft := left.longestPath_le h.2.1
    have hright := right.longestPath_le h.2.2
    have hchain := h.2.2 right right.mem_all
    simp only [longestPath, chain, max_mul, add_mul]
    omega
  | .unary _ operand _, h => by
    simp only [all, List.forall_mem_cons] at h
    have hoperand := operand.longestPath_le h.2
    have hchain := h.2 operand operand.mem_all
    simp only [longestPath, chain, add_mul]
    omega
  | .call _ args _, h => by
    simp only [all, List.forall_mem_cons] at h
    have hargs := longestPathOf_le args h.2
    simp only [longestPath, chain, add_mul]
    omega

theorem longestPathOf_le :
    (es : List Expr) → (∀ e ∈ allOf es, e.chain ≤ n) →
      longestPathOf 1 es ≤ longestPathOf 0 es * (n + 1)
  | [], _ => by simp only [longestPathOf, Nat.zero_le]
  | e :: es, h => by
    simp only [allOf, List.forall_mem_append] at h
    have he := e.longestPath_le h.1
    have hchain := h.1 e e.mem_all
    have hes := longestPathOf_le es h.2
    simp only [longestPathOf, max_mul]
    omega

end

theorem longestPath_le_mul {e : Expr} (h : ∀ e' ∈ e.all, e'.chain ≤ n) :
    e.longestPath 1 ≤ e.longestPath 0 * (n + 1) := by
  have := e.longestPath_le h
  have := h e e.mem_all
  omega

end Expr

namespace Stmt

mutual

theorem longestPath_le :
    (s : Stmt) → (∀ s' ∈ s :: s.inner, ∀ e ∈ s'.exprs, e.chain ≤ n) →
      s.longestPath 1 ≤ s.longestPath 0 * (n + 1)
  | .varDecl _ _ _, _ => by
    simp only [longestPath]
    omega
  | .assign _ value _, h | .ret value _, h => by
    simp only [List.forall_mem_cons, exprs] at h
    have hvalue := Expr.longestPath_le_mul h.1
    simp only [longestPath, add_mul]
    omega
  | .cond condition thenBranch elseBranch _, h => by
    simp only [List.forall_mem_cons, exprs, inner, List.forall_mem_append] at h
    have hcondition := Expr.longestPath_le_mul h.1
    have hthen := longestPathOf_le thenBranch h.2.1
    have helse := longestPathOfElse_le elseBranch h.2.2
    simp only [longestPath, add_mul, max_mul]
    omega
  | .loop condition body _, h => by
    simp only [List.forall_mem_cons, exprs, inner] at h
    have hcondition := Expr.longestPath_le_mul h.1
    have hbody := longestPathOf_le body h.2
    simp only [longestPath, add_mul, max_mul]
    omega
  | .funcDecl _ _ _ body _, h => by
    simp only [List.forall_mem_cons, inner] at h
    have hbody := longestPathOf_le body h.2
    simp only [longestPath, add_mul]
    omega
  | .call c, h => by
    simp only [List.forall_mem_cons, exprs] at h
    have hargs := Expr.longestPathOf_le c.args h.1
    simp only [longestPath, add_mul]
    omega

theorem longestPathOf_le :
    (list : List Stmt) → (∀ s ∈ allOf list, ∀ e ∈ s.exprs, e.chain ≤ n) →
      longestPathOf 1 list ≤ longestPathOf 0 list * (n + 1)
  | [], _ => by simp only [longestPathOf, Nat.zero_le]
  | s :: ss, h => by
    rw [allOf, ← List.cons_append, List.forall_mem_append] at h
    have hs := s.longestPath_le h.1
    have hss := longestPathOf_le ss h.2
    simp only [longestPathOf, max_mul]
    omega

theorem longestPathOfElse_le :
    (branch : Option (List Stmt)) → (∀ s ∈ allOfElse branch, ∀ e ∈ s.exprs, e.chain ≤ n) →
      longestPathOfElse 1 branch ≤ longestPathOfElse 0 branch * (n + 1)
  | none, _ => by simp only [longestPathOfElse, Nat.zero_le]
  | some body, h => longestPathOf_le body h

end

end Stmt

namespace Program

theorem le_chain {p : Program} {e : Expr} (h : e ∈ p.exprs) : e.chain ≤ p.chain :=
  List.le_max_of_le' 0 (List.mem_map_of_mem h) (Nat.le_refl _)

theorem height_le (p : Program) : p.height ≤ p.turns * (p.chain + 1) := by
  apply Stmt.longestPathOf_le
  intro s hs e he
  apply le_chain
  exact List.mem_flatMap.mpr ⟨s, hs, he⟩

end Program

end StartEnd
