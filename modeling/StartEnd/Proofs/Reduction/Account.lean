import StartEnd.Proofs.Parse.Shown
import StartEnd.Proofs.Program.Constructs

/-!
This module contains the accounts of a parse stack: the rules that each entry has been made by, as
far as they leave a trace in its node. A reduction adds its own rule to the accounts of the entries
that it replaces.
-/

namespace StartEnd

namespace Rule

/--
The rules that leave a trace in a program.
-/
def counted : List Rule := .statementList :: .statementEmpty :: .param :: makers

def trace (r : Rule) : Multiset Rule := if r ∈ counted then {r} else 0

end Rule

/--
The rules that a node under a symbol has been made by. The symbol tells the branch of an `else` from
other lists of statements, and a list from a missing `else` if there is nothing.
-/
def Node.rules (n : Node) (s : Symbol) : Multiset Rule :=
  match n with
  | .absent =>
    if s = .statementList then Stmt.allRulesOf []
    else if s = .optionalElse then {.optionalElseEmpty}
    else 0
  | .statements list =>
    if s = .optionalElse then {.optionalElseElse} + Stmt.allRulesOf list else Stmt.allRulesOf list
  | .program p => p.allRules
  | .stmt s => s.allRules
  | .call c => c.allRules
  | .params list => Multiset.replicate list.length .param
  | .param _ => {.param}
  | .args list => Expr.allRulesOf list
  | .expr e => e.allRules
  | .token _ => 0
  | .type _ _ => 0

namespace Entry

def rules (e : Entry) : Multiset Rule := e.node.rules e.symbol

/--
An entry is present unless it should hold a statement and does not.
-/
def Present (e : Entry) : Prop := e.symbol = .statement → e.node ≠ .absent

end Entry

namespace Shape

/--
The symbols over which a production may demand the shape.
-/
def Fits (shape : Shape) (s : Symbol) : Prop :=
  (shape = .statements ↔ s = .statementList) ∧ (shape = .elseBranch ↔ s = .optionalElse)
    ∧ (shape = .stmtOrAbsent → s = .statement)

theorem fits_shapes (r : Rule) : List.Forall₂ Fits r.shapes r.rhs := by
  cases r <;> simp [Rule.shapes, Rule.rhs, Fits]

/--
The rules that the content of a shape has been made by. No rule makes a statement that is missing.
-/
def rules? : (shape : Shape) → shape.Content → Option (Multiset Rule)
  | .expr, e => some e.allRules
  | .stmt, s => some s.allRules
  | .stmtOrAbsent, some s => some s.allRules
  | .stmtOrAbsent, none => none
  | .statements, list => some (Stmt.allRulesOf list)
  | .elseBranch, some list => some ({.optionalElseElse} + Stmt.allRulesOf list)
  | .elseBranch, none => some {.optionalElseEmpty}
  | .call, c => some c.allRules
  | .param, _ => some {.param}
  | .params, list => some (Multiset.replicate list.length .param)
  | .args, list => some (Expr.allRulesOf list)
  | .number, (value, _) => if value.rule = .factorNumber then some 0 else none
  | .text, (value, _) => if value.rule = .factorStringLiteral then some 0 else none
  | .token, _ => some 0
  | .name, _ => some 0
  | .type, _ => some 0
  | .absent, _ => some 0

/--
The rules that the contents of the shapes have been made by, all together.
-/
def allRules? : (shapes : List Shape) → Contents shapes → Option (Multiset Rule)
  | [], _ => some 0
  | shape :: shapes, (content, contents) => do
    return (← shape.rules? content) + (← allRules? shapes contents)

theorem rules?_of_read? {shape : Shape} {s : Symbol} {n : Node} {content : shape.Content}
    (hfits : shape.Fits s) (hpresent : s = .statement → n ≠ .absent)
    (h : shape.read? n = some content) : shape.rules? content = some (n.rules s) := by
  obtain ⟨hlist, helse, hstmt⟩ := hfits
  cases shape with
  | name | number | text =>
    cases n with
    | token t =>
      simp only [read?] at h
      split at h <;> cases h <;> rfl
    | _ => cases h
  | _ => cases n <;> cases h <;> simp_all [rules?, Node.rules]

end Shape

namespace Rule

theorem rules_value (r : Rule) (contents : Shape.Contents r.shapes) {rules : Multiset Rule}
    (h : Shape.allRules? r.shapes contents = some rules) :
    (r.value contents).rules r.label = r.trace + rules := by
  cases r with
  | statementList =>
    obtain ⟨_ | head, tail, _⟩ := contents
    · cases h
    · obtain rfl := Option.some.inj h
      simp [value, Node.rules, trace, counted, makers, label, lhs]
  | condition =>
    obtain ⟨word, test, _, thenBranch, _ | elseBranch, _⟩ := contents
    all_goals
      obtain rfl := Option.some.inj h
      simp [value, Node.rules, trace, counted, makers, add_assoc]
  -- A literal is a number or a string by the shape, not by its type.
  | factorNumber | factorStringLiteral =>
    obtain ⟨⟨value, l⟩, _⟩ := contents
    simp only [Shape.allRules?, Shape.rules?] at h
    split at h <;> cases h
    simp_all [Rule.value, Node.rules, trace, counted, makers]
  | _ =>
    obtain rfl := Option.some.inj h
    simp [value, value.binary, Node.rules, trace, counted, makers, label, lhs, Program.allRules,
      Call.allRules, BinOp.rule, UnOp.rule, Literal.rule]

theorem value_ne_absent {r : Rule} (h : r.label = .statement) (contents : Shape.Contents r.shapes) :
    r.value contents ≠ .absent := by
  cases r <;> cases h <;> simp [value]

theorem allRules?_of_readChildren {r : Rule} {shapes : List Shape} {position : Nat}
    {entries : List Entry} {contents : Shape.Contents shapes}
    (hfits : List.Forall₂ Shape.Fits shapes (entries.map Entry.symbol))
    (hpresent : ∀ e ∈ entries, e.Present)
    (h : r.readChildren shapes position (entries.map Entry.node) = .ok contents) :
    Shape.allRules? shapes contents = some (entries.map Entry.rules).sum := by
  induction shapes generalizing position entries with
  | nil =>
    cases entries with
    | nil => rfl
    | cons e entries => cases hfits
  | cons shape shapes ih =>
    cases entries with
    | nil => cases hfits
    | cons e entries =>
      obtain ⟨he, hentries⟩ := List.forall_mem_cons.mp hpresent
      cases hfits with
      | cons hfit hfits =>
        simp only [readChildren, List.map_cons] at h
        split at h
        · cases h
        · next content hcontent =>
          split at h
          · cases h
          · next rest hrest =>
            obtain rfl := Except.ok.inj h
            have hrules := Shape.rules?_of_read? hfit he hcontent
            simp [Shape.allRules?, hrules, ih hfits hentries hrest, Entry.rules]

theorem rules_reduce {r : Rule} {entries : List Entry} {node : Node}
    (hs : entries.map Entry.symbol = r.rhs) (hpresent : ∀ e ∈ entries, e.Present)
    (h : r.reduce (entries.map Entry.node) = .ok node) :
    node.rules r.label = r.trace + (entries.map Entry.rules).sum
      ∧ (r.label = .statement → node ≠ .absent) := by
  unfold reduce at h
  split at h
  · cases hread : r.readChildren r.shapes 0 (entries.map Entry.node) with
    | error e => simp [hread, Except.map] at h
    | ok contents =>
      obtain rfl : r.value contents = node := by simpa [hread, Except.map] using h
      have hfits : List.Forall₂ Shape.Fits r.shapes (entries.map Entry.symbol) :=
        hs ▸ Shape.fits_shapes r
      exact ⟨rules_value r contents (allRules?_of_readChildren hfits hpresent hread),
        fun hlabel => value_ne_absent hlabel contents⟩
  · cases h

theorem label_eq_empty {r : Rule} : r.label = .empty ↔ r = .empty := by
  cases r <;> simp [label, lhs]

theorem count_empty_rhs (r : Rule) :
    r.rhs.count .empty = if Symbol.empty ∈ r.rhs then 1 else 0 := by
  cases r <;> rfl

end Rule

namespace Stack

/--
The rules that have been reduced account for a stack if, as far as they leave a trace, its entries
have been made by them. The empty production has been reduced once for each reduction that uses it
and once for each empty entry that waits to be used.
-/
structure Accounts (fired : List Rule) (stack : Stack) : Prop where
  present : ∀ e ∈ stack, e.Present
  rules_eq : (stack.map Entry.rules).sum = (fired.map Rule.trace).sum
  empty_eq : fired.count .empty
    = fired.countP (fun r => Symbol.empty ∈ r.rhs) + (stack.map Entry.symbol).count .empty

/--
What a reduction takes off a stack, read from the earliest entry to the latest, and what it leaves.
-/
theorem map_eq_append {α : Type} (f : Entry → α) (stack : Stack) (n : Nat) :
    stack.map f = ((stack.take n).reverse.map f).reverse ++ (stack.drop n).map f := by
  rw [← List.map_reverse, List.reverse_reverse, ← List.map_append, List.take_append_drop]

theorem accounts_nil : Accounts [] [] where
  present := by simp
  rules_eq := rfl
  empty_eq := rfl

namespace Accounts

variable {fired : List Rule} {stack next : Stack}

theorem shift (h : Accounts fired stack) {t : Token} (ht : t.symbol ≠ .empty) :
    Accounts fired (stack.shift t) where
  present := by
    intro e he
    obtain rfl | he := List.mem_cons.mp he
    · intro _ hnode
      cases hnode
    · exact h.present e he
  rules_eq := by simpa [Stack.shift, Entry.rules, Node.rules] using h.rules_eq
  empty_eq := by simpa [Stack.shift, ht] using h.empty_eq

theorem reduce (h : Accounts fired stack) {r : Rule} {lookahead : Location}
    (hreduce : stack.reduce .standard r lookahead = .ok next) : Accounts (fired ++ [r]) next := by
  obtain ⟨hs, node, hn⟩ := Stack.reduce_eq_ok hreduce
  rw [Stack.reduce_eq hs hn] at hreduce
  obtain rfl := Except.ok.inj hreduce
  have htake : ∀ e ∈ (stack.take r.arity).reverse, e.Present := fun e he =>
    h.present e (List.mem_of_mem_take (List.mem_reverse.mp he))
  obtain ⟨hrules, hnode⟩ := Rule.rules_reduce hs htake hn
  refine ⟨?_, ?_, ?_⟩
  · intro e he
    obtain rfl | he := List.mem_cons.mp he
    · exact hnode
    · exact h.present e (List.mem_of_mem_drop he)
  · have hstack := h.rules_eq
    rw [map_eq_append Entry.rules stack r.arity, List.sum_append, List.sum_reverse] at hstack
    rw [List.map_cons, List.sum_cons, List.map_append, List.sum_append, ← hstack]
    show node.rules r.label + _ = _
    rw [hrules, List.map_singleton, List.sum_singleton]
    abel
  · have hempty := h.empty_eq
    rw [map_eq_append Entry.symbol stack r.arity, hs, List.count_append, List.count_reverse,
      Rule.count_empty_rhs] at hempty
    simp only [List.count_append, List.countP_append, List.map_cons, List.count_cons,
      List.count_nil, List.countP_singleton, Rule.label_eq_empty, beq_iff_eq, hempty,
      decide_eq_true_eq]
    omega

end Accounts

end Stack

end StartEnd
