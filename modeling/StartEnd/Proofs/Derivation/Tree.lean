import Mathlib.Data.List.Forall2
import StartEnd.Rule
import StartEnd.Token.Basic

/-!
This module contains derivation trees. Their grammar is that of the rules, except that the rule of
the empty statement derives the empty list of statements, as it does on a parse stack.
-/

namespace StartEnd

theorem exists_append_of_forall₂ {α β : Type} {R : α → β → Prop} {front back : List α} {l : List β}
    (h : List.Forall₂ R (front ++ back) l) :
    ∃ l₁ l₂, l = l₁ ++ l₂ ∧ List.Forall₂ R front l₁ ∧ List.Forall₂ R back l₂ := by
  refine ⟨l.take front.length, l.drop front.length, (List.take_append_drop ..).symm, ?_, ?_⟩
  · simpa using List.forall₂_take front.length h
  · simpa using List.forall₂_drop front.length h

namespace Rule

/--
The symbol that a rule derives. The empty statement that closes a list of statements stands for the
empty list behind it.
-/
def label : Rule → Symbol
  | .statementEmpty => .statementList
  | r => r.lhs

/--
The levels of nesting that a rule adds to what it contains: one for an expression, for the operand
of a sign or of `not`, and for a statement that contains statements.
-/
def levels : Rule → Nat
  | .expression | .factorNot | .factorPlus | .factorMinus => 1
  | .condition | .loop | .methodDeclaration => 1
  | _ => 0

theorem label_isNonterminal (r : Rule) : r.label.isNonterminal := by
  cases r <;> rfl

end Rule

/--
A tree over the rules, whose leaves are tokens.
-/
inductive Tree where
  | leaf (t : Token)
  | node (r : Rule) (children : List Tree)

namespace Tree

/--
The symbol that a tree derives its tokens from.
-/
def symbol : Tree → Symbol
  | .leaf t => t.symbol
  | .node r _ => r.label

/--
The tokens of a tree from left to right.
-/
def yield : Tree → List Token
  | .leaf t => [t]
  | .node _ children => children.flatMap yield

/--
The largest number of levels that are opened along a path from the root.
-/
def nesting : Tree → Nat
  | .leaf _ => 0
  | .node r children => r.levels + (children.map nesting).foldr max 0

/--
A tree each node of which is a rule over the symbols of its children, and each leaf a terminal.
-/
inductive Valid : Tree → Prop where
  | leaf {t : Token} (h : t.symbol.isTerminal) : Valid (.leaf t)
  | node {r : Rule} {children : List Tree} (symbols : children.map symbol = r.rhs)
      (valid : ∀ T ∈ children, Valid T) : Valid (.node r children)

/--
A tree of a symbol that is nested at most to the given depth.
-/
structure Fits (s : Symbol) (depth : Nat) (T : Tree) : Prop where
  valid : T.Valid
  symbol_eq : T.symbol = s
  nesting_le : T.nesting ≤ depth

/--
A derivation of a list of tokens from a symbol.
-/
structure Derives (T : Tree) (s : Symbol) (tokens : List Token) : Prop where
  valid : T.Valid
  symbol_eq : T.symbol = s
  yield_eq : T.yield = tokens

mutual

/--
The rules of a tree in the order in which their derivations are complete, the children of a node in
front of the node. Each rule is paired with the index of the first token behind the tokens to the
left of its node, if the tokens of the tree begin at the given index.
-/
def postorder : Tree → Nat → List (Rule × Nat)
  | .leaf _, _ => []
  | .node r children, start => postorderAll children start ++ [(r, start)]

/--
The rules of trees that stand next to each other.
-/
def postorderAll : List Tree → Nat → List (Rule × Nat)
  | [], _ => []
  | T :: trees, start => T.postorder start ++ postorderAll trees (start + T.yield.length)

end

@[simp]
theorem symbol_leaf (t : Token) : (leaf t).symbol = t.symbol := rfl

@[simp]
theorem symbol_node (r : Rule) (children : List Tree) : (node r children).symbol = r.label := rfl

@[simp]
theorem yield_leaf (t : Token) : (leaf t).yield = [t] := by
  rw [yield]

@[simp]
theorem yield_node (r : Rule) (children : List Tree) :
    (node r children).yield = children.flatMap yield := by
  rw [yield]

@[simp]
theorem nesting_leaf (t : Token) : (leaf t).nesting = 0 := by
  rw [nesting]

@[simp]
theorem nesting_node (r : Rule) (children : List Tree) :
    (node r children).nesting = r.levels + (children.map nesting).foldr max 0 := by
  rw [nesting]

theorem postorderAll_append (left right : List Tree) (start : Nat) :
    postorderAll (left ++ right) start
      =
    postorderAll left start ++ postorderAll right (start + (left.flatMap yield).length) := by
  induction left generalizing start with
  | nil => simp [postorderAll]
  | cons T left ih => simp [postorderAll, ih, Nat.add_assoc]

theorem Fits.mono {s : Symbol} {T : Tree} {depth depth' : Nat} (h : T.Fits s depth)
    (hd : depth ≤ depth') : T.Fits s depth' :=
  ⟨h.valid, h.symbol_eq, Nat.le_trans h.nesting_le hd⟩

theorem fits_leaf {t : Token} {s : Symbol} (depth : Nat) (hs : t.symbol = s) (h : s.isTerminal) :
    (leaf t).Fits s depth :=
  ⟨.leaf (by rwa [hs]), hs, by simp⟩

theorem foldr_max_le {l : List Nat} {bound : Nat} (h : ∀ n ∈ l, n ≤ bound) :
    l.foldr max 0 ≤ bound := by
  induction l with
  | nil => simp
  | cons n l ih =>
    have := h n (by simp)
    have := ih fun m hm => h m (by simp [hm])
    simp only [List.foldr_cons]
    omega

theorem fits_node {r : Rule} {trees : List Tree} {inner depth : Nat}
    (h : List.Forall₂ (fun s T => T.Fits s inner) r.rhs trees) (hd : inner + r.levels ≤ depth) :
    (node r trees).Fits r.label depth := by
  have key : ∀ {symbols : List Symbol} {trees : List Tree},
      List.Forall₂ (fun s T => T.Fits s inner) symbols trees →
        trees.map symbol = symbols ∧ (∀ T ∈ trees, T.Valid) ∧ ∀ T ∈ trees, T.nesting ≤ inner := by
    intro symbols trees h
    induction h with
    | nil => simp
    | cons h _ ih =>
      obtain ⟨hs, hv, hn⟩ := ih
      exact ⟨by simp [h.symbol_eq, hs], by simpa [h.valid] using hv,
        by simpa [h.nesting_le] using hn⟩
  obtain ⟨hs, hv, hn⟩ := key h
  refine ⟨.node hs hv, rfl, ?_⟩
  have : (trees.map nesting).foldr max 0 ≤ inner := foldr_max_le (by simpa using hn)
  rw [nesting_node]
  omega

end Tree

end StartEnd
