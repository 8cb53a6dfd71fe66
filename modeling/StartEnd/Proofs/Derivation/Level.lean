import StartEnd.Parse.Goal
import StartEnd.Proofs.Derivation.Tree

/-!
This module contains the symbols and rules of the levels of binary operators. All levels have the
same form: a level is made from a single operand of the next tighter level, or from itself, one of
its operators and an operand.
-/

namespace StartEnd

namespace Level

/--
The symbol of a level.
-/
def symbol : Level → Symbol
  | .or => .logicalOrExpr
  | .and => .logicalAndExpr
  | .equality => .equalityExpr
  | .relational => .relationalExpr
  | .additive => .additiveExpr
  | .multiplicative => .multiplicativeExpr

/--
The next tighter level, unless the operands of a level are factors.
-/
def next? : Level → Option Level
  | .or => some .and
  | .and => some .equality
  | .equality => some .relational
  | .relational => some .additive
  | .additive => some .multiplicative
  | .multiplicative => none

/--
The symbol of the operands of a level.
-/
def operand (level : Level) : Symbol := (level.next?.map symbol).getD .factor

theorem single_label (level : Level) : level.single.label = level.symbol := by
  cases level <;> rfl

theorem single_rhs (level : Level) : level.single.rhs = [level.operand] := by
  cases level <;> rfl

theorem single_levels (level : Level) : level.single.levels = 0 := by
  cases level <;> rfl

theorem operators_spec {level : Level} {s : Symbol} {r : Rule} (h : (s, r) ∈ level.operators) :
    r.label = level.symbol ∧ r.rhs = [level.symbol, s, level.operand] ∧ r.levels = 0
      ∧ s.isTerminal := by
  cases level <;> simp only [operators, List.mem_cons, Prod.mk.injEq, List.not_mem_nil, or_false] at h
  case or | and =>
    obtain ⟨rfl, rfl⟩ := h
    exact ⟨rfl, rfl, rfl, rfl⟩
  all_goals
    obtain ⟨rfl, rfl⟩ | ⟨rfl, rfl⟩ := h <;> exact ⟨rfl, rfl, rfl, rfl⟩

theorem lookup_operators {level : Level} {s : Symbol} {r : Rule} :
    level.operators.lookup s = some r ↔ (s, r) ∈ level.operators := by
  cases level <;> simp only [operators, List.lookup_cons, List.lookup_nil] <;> grind

theorem eq_of_label {level : Level} {r : Rule} (h : r.label = level.symbol) :
    r = level.single ∨ ∃ s, (s, r) ∈ level.operators := by
  cases level <;> cases r <;> simp [Rule.label, Rule.lhs, symbol] at h <;> simp [single, operators]

theorem tighter_of_next {level next : Level} (h : level.next? = some next) :
    level.tighter = next.tighter ++ [next] := by
  cases level <;> simp [next?] at h <;> subst h <;> rfl

theorem tighter_of_none {level : Level} (h : level.next? = none) : level.tighter = [] := by
  cases level <;> simp [next?] at h
  rfl

theorem tighter_total (level other : Level) :
    other ∈ level.tighter ∨ level = other ∨ level ∈ other.tighter := by
  cases level <;> cases other <;> decide

@[elab_as_elim]
theorem induct {motive : Level → Prop}
    (level : ∀ level : Level, (∀ next, level.next? = some next → motive next) → motive level)
    (l : Level) : motive l := by
  have h1 := level .multiplicative (by simp [next?])
  have h2 := level .additive (by simpa [next?] using h1)
  have h3 := level .relational (by simpa [next?] using h2)
  have h4 := level .equality (by simpa [next?] using h3)
  have h5 := level .and (by simpa [next?] using h4)
  have h6 := level .or (by simpa [next?] using h5)
  cases l <;> assumption

end Level

end StartEnd
