import Mathlib.Data.List.Forall2
import StartEnd.Proofs.Derivation.Tree
import StartEnd.Proofs.Grammar.Loading
import StartEnd.Proofs.Reduction.Reads

/-!
This module contains the proof that reductions respect the grammar. What a production demands of a
child depends on the symbol of the child alone. A reduction fails because of the leftmost child that
is not admitted under its symbol, and if the children are what their symbols carry, it yields what
the left-hand side carries.
-/

namespace StartEnd

namespace Shape

/--
Whether a node has a shape.
-/
def Allows (shape : Shape) (n : Node) : Prop :=
  match shape with
  | .token => ∃ t, n = .token t
  | .name => ∃ t text, n = .token t ∧ t.value = some (.name text)
  | .number =>
    ∃ t, n = .token t ∧ ((∃ i, t.value = some (.integer i)) ∨ ∃ x, t.value = some (.float x))
  | .text => ∃ t content, n = .token t ∧ t.value = some (.text content)
  | .expr => ∃ e, n = .expr e
  | .stmt => ∃ s, n = .stmt s
  | .stmtOrAbsent => n = .absent ∨ ∃ s, n = .stmt s
  | .statements | .elseBranch => n = .absent ∨ ∃ list, n = .statements list
  | .type => ∃ t l, n = .type t l
  | .call => ∃ c, n = .call c
  | .param => ∃ p, n = .param p
  | .params => n = .absent ∨ ∃ list, n = .params list
  | .args => n = .absent ∨ ∃ list, n = .args list
  | .absent => n = .absent

theorem allows_iff_read? {shape : Shape} {n : Node} :
    shape.Allows n ↔ ∃ content, shape.read? n = some content := by
  cases shape with
  | name | number | text =>
    cases n with
    | token t =>
      cases hv : t.value with
      | none => simp [Allows, read?, hv]
      | some v => cases v <;> simp [Allows, read?, hv]
    | _ => simp [Allows, read?]
  | _ => cases n <;> simp [Allows, read?]

end Shape

namespace Symbol

/--
The shape that productions demand of a child under a symbol. No production has `<Program>` on its
right-hand side.
-/
def demand : Symbol → Shape
  | .identifier => .name
  | .number => .number
  | .stringLiteral => .text
  | .statementList => .statements
  | .statement => .stmtOrAbsent
  | .declaration | .assignment | .condition | .loop | .methodDeclaration | .returnStatement => .stmt
  | .optionalElse => .elseBranch
  | .type => .type
  | .optionalParams | .paramList | .paramTail => .params
  | .param => .param
  | .methodCall => .call
  | .optionalArgs | .argList | .argTail => .args
  | .expression | .logicalOrExpr | .logicalAndExpr | .equalityExpr | .relationalExpr
  | .additiveExpr | .multiplicativeExpr | .factor => .expr
  | .empty => .absent
  | _ => .token

/--
Whether productions admit a node as their child under a symbol.
-/
def Admits (s : Symbol) (n : Node) : Prop := s.demand.Allows n

/--
Whether a symbol carries a node. It is what productions demand of the symbol, but a statement and a
list that has begun are never absent.
-/
def Carries (s : Symbol) (n : Node) : Prop :=
  match s with
  | .program => ∃ p, n = .program p
  | .statement => ∃ s, n = .stmt s
  | .paramList => ∃ list, n = .params list
  | .argList => ∃ list, n = .args list
  | s => s.Admits n

theorem Carries.admits {s : Symbol} {n : Node} (h : s.Carries n) (hs : s ≠ .program) :
    s.Admits n := by
  cases s with
  | program => exact absurd rfl hs
  | statement | paramList | argList => exact .inr h
  | _ => exact h

theorem admits_of_carries {symbols : List Symbol} {nodes : List Node}
    (h : List.Forall₂ Carries symbols nodes) (hs : .program ∉ symbols) :
    List.Forall₂ Admits symbols nodes := by
  induction h with
  | nil => exact .nil
  | cons h _ ih =>
    rw [List.mem_cons, not_or] at hs
    exact .cons (h.admits (Ne.symm hs.1)) (ih hs.2)

end Symbol

namespace Rule

open StartEnd.Shape

theorem shapes_eq (r : Rule) : r.shapes = r.rhs.map Symbol.demand := by
  cases r <;> rfl

theorem program_not_mem_rhs (r : Rule) : .program ∉ r.rhs := by
  cases r <;> decide

section ReadChildren

variable {r : Rule} {shapes : List Shape} {nodes : List Node}

theorem exists_readChildren (h : List.Forall₂ Shape.Allows shapes nodes) (position : Nat) :
    ∃ contents, r.readChildren shapes position nodes = .ok contents := by
  induction h generalizing position with
  | nil => exact ⟨(), rfl⟩
  | cons h _ ih =>
    obtain ⟨content, hcontent⟩ := allows_iff_read?.mp h
    obtain ⟨contents, hcontents⟩ := ih (position + 1)
    exact ⟨(content, contents), by simp only [readChildren, hcontent, hcontents]⟩

/--
Reading stops at the first child that does not have its shape.
-/
theorem readChildren_append {shape : Shape} {n : Node} (h : List.Forall₂ Shape.Allows shapes nodes)
    (hn : ¬ shape.Allows n) (more : List Shape) (after : List Node) (position : Nat) :
    r.readChildren (shapes ++ shape :: more) position (nodes ++ n :: after)
      =
    .error (.unexpectedNode r (position + nodes.length) (shape.missing n) n.kindName) := by
  induction h generalizing position with
  | nil =>
    have hread : shape.read? n = none := by
      rw [Option.eq_none_iff_forall_ne_some]
      exact fun content hcontent => hn (allows_iff_read?.mpr ⟨content, hcontent⟩)
    simp only [List.nil_append, readChildren, hread, List.length_nil, Nat.add_zero]
  | @cons s m shapes nodes h _ ih =>
    obtain ⟨content, hcontent⟩ := allows_iff_read?.mp h
    have hposition : position + 1 + nodes.length = position + (m :: nodes).length := by
      simp only [List.length_cons]
      omega
    simp only [List.cons_append, readChildren, hcontent, ih (position + 1), hposition]

end ReadChildren

/--
What is wrong with the children of a rule: the leftmost of them that is not admitted under its
symbol.
-/
def Blames (r : Rule) (children : List Node) (e : ReductionError) : Prop :=
  ∃ symbols s more before n after, r.rhs = symbols ++ s :: more ∧ children = before ++ n :: after
    ∧ List.Forall₂ Symbol.Admits symbols before ∧ ¬ s.Admits n
    ∧ e = .unexpectedNode r before.length (s.demand.missing n) n.kindName

theorem forall₂_or_exists_first {α β : Type} {R : α → β → Prop} {as : List α} {bs : List β}
    (h : as.length = bs.length) :
    List.Forall₂ R as bs ∨ ∃ as₁ a as₂ bs₁ b bs₂, as = as₁ ++ a :: as₂ ∧ bs = bs₁ ++ b :: bs₂
      ∧ List.Forall₂ R as₁ bs₁ ∧ ¬ R a b := by
  induction as generalizing bs with
  | nil =>
    obtain rfl := List.eq_nil_of_length_eq_zero h.symm
    exact .inl .nil
  | cons a as ih =>
    obtain ⟨b, bs, rfl⟩ := List.exists_cons_of_length_eq_add_one h.symm
    by_cases hab : R a b
    · obtain hall | ⟨as₁, a', as₂, bs₁, b', bs₂, rfl, rfl, hbefore, hfirst⟩ := ih (Nat.succ.inj h)
      · exact .inl (.cons hab hall)
      · exact .inr ⟨a :: as₁, a', as₂, b :: bs₁, b', bs₂, rfl, rfl, .cons hab hbefore, hfirst⟩
    · exact .inr ⟨[], a, as, [], b, bs, rfl, rfl, .nil, hab⟩

/--
The node that a rule makes of contents of the right shapes is carried by its left-hand side.
-/
theorem carries_value (r : Rule) (contents : Contents r.shapes) :
    r.label.Carries (r.value contents) := by
  cases r with
  | statementList =>
    obtain ⟨_ | head, tail, _⟩ := contents
    · exact .inr ⟨_, rfl⟩
    · exact .inr ⟨_, rfl⟩
  | _ =>
    simp [label, lhs, Symbol.Carries, Symbol.Admits, Symbol.demand, Shape.Allows, value,
      value.binary]

section Reduce

variable {r : Rule} {children : List Node}

theorem reduce_of_length (h : children.length = r.arity) :
    r.reduce children = (r.readChildren r.shapes 0 children).map r.value := if_pos h

theorem exists_reduce (h : List.Forall₂ Symbol.Admits r.rhs children) :
    ∃ n, r.reduce children = .ok n ∧ r.label.Carries n := by
  have hshapes : List.Forall₂ Shape.Allows r.shapes children := by
    rwa [shapes_eq, List.forall₂_map_left_iff]
  obtain ⟨contents, hcontents⟩ := exists_readChildren (r := r) hshapes 0
  refine ⟨r.value contents, ?_, r.carries_value contents⟩
  rw [reduce_of_length h.length_eq.symm, hcontents]
  rfl

theorem Blames.reduce_eq {e : ReductionError} (h : r.Blames children e)
    (hlength : children.length = r.arity) : r.reduce children = .error e := by
  obtain ⟨symbols, s, more, before, n, after, hrhs, rfl, hbefore, hn, rfl⟩ := h
  have hread (shapes : List Shape)
      (h : shapes = symbols.map Symbol.demand ++ s.demand :: more.map Symbol.demand) :
      r.readChildren shapes 0 (before ++ n :: after)
        =
      .error (.unexpectedNode r before.length (s.demand.missing n) n.kindName) := by
    subst h
    rw [readChildren_append (List.forall₂_map_left_iff.mpr hbefore) hn, Nat.zero_add]
  rw [reduce_of_length hlength, hread r.shapes (by simp [shapes_eq, hrhs])]
  rfl

theorem admits_or_blames (h : children.length = r.arity) :
    List.Forall₂ Symbol.Admits r.rhs children ∨ ∃ e, r.Blames children e := by
  obtain hall | ⟨symbols, s, more, before, n, after, hrhs, hchildren, hbefore, hn⟩ :=
    forall₂_or_exists_first (R := Symbol.Admits) h.symm
  · exact .inl hall
  · exact .inr ⟨_, symbols, s, more, before, n, after, hrhs, hchildren, hbefore, hn, rfl⟩

theorem reduce_eq_error_iff (h : children.length = r.arity) {e : ReductionError} :
    r.reduce children = .error e ↔ r.Blames children e := by
  refine ⟨fun he => ?_, fun hblames => hblames.reduce_eq h⟩
  obtain hall | ⟨e', hblames⟩ := admits_or_blames h
  · obtain ⟨n, hn, -⟩ := exists_reduce hall
    simp [hn] at he
  · have he' := hblames.reduce_eq h
    rwa [Except.error.inj (he.symm.trans he')]

theorem reduce_eq_ok_iff (h : children.length = r.arity) :
    (∃ n, r.reduce children = .ok n) ↔ List.Forall₂ Symbol.Admits r.rhs children := by
  refine ⟨fun ⟨n, hn⟩ => ?_, fun hall => ?_⟩
  · obtain hall | ⟨e, hblames⟩ := admits_or_blames h
    · exact hall
    · simp [hblames.reduce_eq h] at hn
  · obtain ⟨n, hn, -⟩ := exists_reduce hall
    exact ⟨n, hn⟩

theorem reduce_eq_arity_iff {q : Rule} {found : Nat} :
    r.reduce children = .error (.arity q found)
      ↔ children.length ≠ r.arity ∧ q = r ∧ found = children.length := by
  by_cases h : children.length = r.arity
  · have hblames : ¬ r.Blames children (.arity q found) := by
      rintro ⟨_, _, _, _, _, _, _, _, _, _, ⟨⟩⟩
    simp [reduce_eq_error_iff h, hblames, h]
  · have hreduce : r.reduce children = .error (.arity r children.length) := if_neg h
    simp [hreduce, h, eq_comm]

end Reduce

theorem reduce_ne_unknownRule {r : Rule} {children : List Node} {i : Nat} :
    r.reduce children ≠ .error (.unknownRule i) := by
  intro h
  by_cases hlength : children.length = r.arity
  · obtain ⟨_, _, _, _, _, _, _, _, _, _, ⟨⟩⟩ := (reduce_eq_error_iff hlength).mp h
  · cases (if_neg hlength : r.reduce children = _).symm.trans h

/--
A reduction by the id of a rule fails because of the id, or because of the number of the children,
or because of the leftmost child that is not admitted under its symbol, and in no other case. If the
children are what their symbols carry, it yields a node that the symbol of the rule carries.
-/
theorem reduceId_exact (id : Nat) (children : List Node) :
    (∀ i, reduceId id children = .error (.unknownRule i) ↔ 62 ≤ id ∧ i = id)
      ∧ (id < 62 → ∃ r : Rule, r.id = id
        ∧ (∀ q found, reduceId id children = .error (.arity q found) ↔
          children.length ≠ r.arity ∧ q = r ∧ found = children.length)
        ∧ (children.length = r.arity →
          ((∃ n, reduceId id children = .ok n) ↔ List.Forall₂ Symbol.Admits r.rhs children)
            ∧ ∀ e, reduceId id children = .error e ↔ r.Blames children e)
        ∧ (List.Forall₂ Symbol.Carries r.rhs children →
          ∃ n, reduceId id children = .ok n ∧ r.label.Carries n)) := by
  cases hr : ofId? id with
  | none =>
    have hid : 62 ≤ id := ofId?_eq_none_iff.mp hr
    have hreduce : reduceId id children = .error (.unknownRule id) := by
      simp only [reduceId, hr]
    refine ⟨fun i => ?_, fun hlt => absurd hid (Nat.not_le.mpr hlt)⟩
    simp [hreduce, hid, eq_comm]
  | some r =>
    have hid : r.id = id := ofId?_eq_some_iff.mp hr
    have hlt : id < 62 := hid ▸ r.id_lt
    have hreduce : reduceId id children = r.reduce children := by
      simp only [reduceId, hr]
    rw [hreduce]
    refine ⟨fun i => ?_, fun _ => ⟨r, hid, fun q found => reduce_eq_arity_iff,
      fun h => ⟨reduce_eq_ok_iff h, fun e => reduce_eq_error_iff h⟩, fun h => ?_⟩⟩
    · simp [reduce_ne_unknownRule, Nat.not_le.mpr hlt]
    · exact exists_reduce (Symbol.admits_of_carries h r.program_not_mem_rhs)

end Rule

end StartEnd
